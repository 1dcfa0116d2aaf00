import VelaEdge.Runtime.ConfigDeploy

/-! The configurations in the local store, against a map from pairs of edge id and version. The
key of a pair is the two texts joined by a slash, and two pairs may be joined to one text. -/
namespace VelaEdge.Runtime.ConfigStore

open Base Core LocalDb ConfigDeploy OrderedMap List

/-- Work on the store that names no key of a desired configuration. -/
structure OtherWork where
  batch : List (OrderedMap.WriteOp String StoredValue)
  outside : ∀ op ∈ batch, Text.hasPrefix (desiredConfigPrefix ++ "/") op.key = false

inductive Operation where
  | put (package : EdgeConfigPackage)
  | promote (edgeId version : String)
  | read (edgeId version : String)
  | other (work : OtherWork)

def perform (db : Db) : Operation → Db
  | .put package => (putDesiredConfig db package).toOption.getD db
  | .promote edgeId version => (promoteActiveConfig db edgeId version).toOption.getD db
  | .read _ _ => db
  | .other work => db.write work.batch

variable (operations : List Operation)

def run : Db := operations.foldl perform .empty

def storable (package : EdgeConfigPackage) : Bool :=
  !Text.isBlank package.edgeId && !Text.isBlank package.version

def pair (package : EdgeConfigPackage) : String × String := (package.edgeId,package.version)

def puts : List EdgeConfigPackage := (operations.filterMap fun
    | .put package => if storable package then some package else none
    | _ => none).reverse

variable (edgeId version : String)

/-- The abstract store: the last package put for exactly this pair. -/
def lastPut : Option EdgeConfigPackage :=
  (puts operations).find? fun package => pair package = (edgeId,version)

def joined : String := edgeId ++ "/" ++ version

/-- The last package put for a pair that is joined to the same text. -/
def lastJoined : Option EdgeConfigPackage :=
  (puts operations).find? fun package =>
    joined package.edgeId package.version = joined edgeId version

/-! Keys. -/

theorem desiredConfigKey_eq (edge ver : String) :
    desiredConfigKey edge ver = desiredConfigPrefix ++ "/" ++ joined edge ver := by
  simp only [desiredConfigKey,joined,String.append_assoc]

@[simp] theorem desiredConfigKey_inj {ver : String} :
    desiredConfigKey edge ver = desiredConfigKey otherEdgeId otherVersion ↔
      joined edge ver = joined otherEdgeId otherVersion := by
  rw [desiredConfigKey_eq,desiredConfigKey_eq,String.append_right_inj]

theorem joined_inj {edge ver otherEdgeId : String} (he : '/' ∉ edge.toList)
    (ho : '/' ∉ otherEdgeId.toList) (h : joined edge ver = joined otherEdgeId otherVersion) :
    edge = otherEdgeId ∧ ver = otherVersion :=
  Text.separated_inj (by rfl) he ho h

variable (ops : List Operation)

/-! What a run leaves under a key. -/

@[simp] theorem run_append (op : Operation) : run (ops ++ [op]) = perform (run ops) op := by
  simp [run]

@[simp] theorem puts_append (op : Operation) : puts (ops ++ [op]) = puts [op] ++ puts ops := by
  unfold puts
  rw [filterMap_append,reverse_append]

variable (db : Db)

theorem put_storable (h : storable pkg = true) : perform db (.put pkg) =
      db.put (desiredConfigKey pkg.edgeId pkg.version) (.desiredConfig pkg) := by
  simp only [storable,Bool.and_eq_true,Bool.not_eq_true'] at h
  rw [perform,putDesiredConfig_storable db ⟨h.1,h.2⟩]
  rfl

private theorem put_unstorable (h : storable pkg = false) : perform db (.put pkg) = db := by
  have hn : ¬ Storable pkg := by
    rintro ⟨he,hv⟩
    simp [storable,he,hv] at h
  obtain ⟨why,hp⟩ := putDesiredConfig_not_storable db hn
  rw [perform,hp]
  rfl

theorem get_promote (active activeVersion edge ver : String) :
    (perform db (.promote active activeVersion)).get (desiredConfigKey edge ver) =
      db.get (desiredConfigKey edge ver) := by
  rw [perform]
  cases hp : promoteActiveConfig db active activeVersion with
  | error why => rfl
  | ok after =>
    simp only [promoteActiveConfig,bind_eq_ok] at hp
    obtain ⟨_,-,_,-,ha⟩ := hp
    cases ha
    exact get_put_of_ne _ _ (activeConfigKey_ne_desired _ _ _).symm

private theorem get_perform (operation : Operation) (edge ver : String)
    (h : (run ops).get (desiredConfigKey edge ver) = (lastJoined ops edge ver).map .desiredConfig) :
    (perform (run ops) operation).get (desiredConfigKey edge ver) =
      (lastJoined (ops ++ [operation]) edge ver).map .desiredConfig := by
  unfold lastJoined at h ⊢
  rw [puts_append,find?_append]
  cases operation with
  | put pkg =>
    cases hs : storable pkg with
    | false =>
      have hn : puts [.put pkg] = [] := by simp [puts,hs]
      rw [put_unstorable _ hs,hn]
      exact h
    | true =>
      have hon : puts [.put pkg] = [pkg] := by simp [puts,hs]
      rw [put_storable _ hs,hon,get_put,find?_singleton]
      by_cases hk : joined pkg.edgeId pkg.version = joined edge ver
      · rw [if_pos (desiredConfigKey_inj.mpr hk.symm),if_pos (by simpa using hk)]
        rfl
      · rw [if_neg fun heq => hk (desiredConfigKey_inj.mp heq).symm,if_neg (by simpa using hk)]
        exact h
  | promote active activeVersion =>
    rw [get_promote]
    exact h
  | read _ _ => exact h
  | other work =>
    rw [perform,get_write_of_untouched]
    · exact h
    · intro op hop hk
      have ho := work.outside op hop
      rw [hk,desiredConfigKey_eq,Text.hasPrefix_append] at ho
      cases ho

variable (edge ver : String)

private theorem get_run :
    (run ops).get (desiredConfigKey edge ver) = (lastJoined ops edge ver).map .desiredConfig := by
  induction ops using reverseRecOn with
  | nil => rfl
  | append_singleton ops op ih =>
    rw [run_append]
    exact get_perform ops op edge ver ih

@[simp] theorem desiredConfig_run :
    desiredConfig (run ops) edge ver = .ok (lastJoined ops edge ver) := by
  unfold desiredConfig
  rw [get_run]
  cases lastJoined ops edge ver <;> rfl

/-- The store agrees with the map when the last package joined to the text is one of this pair. -/
theorem lastJoined_eq_lastPut_iff : lastJoined ops edge ver = lastPut ops edge ver ↔
      ∀ pkg ∈ lastJoined ops edge ver, pair pkg = (edge,ver) := by
  constructor
  · intro heq pkg hp
    rw [heq,Option.mem_def,lastPut] at hp
    simpa using find?_some hp
  · intro h
    cases hl : lastJoined ops edge ver with
    | none =>
      rw [eq_comm,lastPut,find?_eq_none]
      intro pkg hp hpa
      have hj := find?_eq_none.mp hl pkg hp
      cases of_decide_eq_true hpa
      exact hj (decide_eq_true rfl)
    | some pkg =>
      have hpa := h pkg hl
      obtain ⟨_,earlier,later,hpu,hn⟩ := find?_eq_some_iff_append.mp hl
      rw [eq_comm,lastPut,find?_eq_some_iff_append]
      refine ⟨decide_eq_true hpa,earlier,later,hpu,?_⟩
      intro other ho
      have hd := hn other ho
      simp only [Bool.not_eq_true',decide_eq_false_iff_not] at hd ⊢
      intro hs
      cases hs
      exact hd rfl

theorem desiredConfig_run_of_slashless {edge : String}
    (hpu : ∀ pkg ∈ puts ops, '/' ∉ pkg.edgeId.toList) (he : '/' ∉ edge.toList)
    (ver : String) :
    desiredConfig (run ops) edge ver = .ok (lastPut ops edge ver) := by
  rw [desiredConfig_run,(lastJoined_eq_lastPut_iff ops edge ver).mpr]
  intro pkg hp
  rw [Option.mem_def,lastJoined] at hp
  have hj : joined pkg.edgeId pkg.version = joined edge ver := by simpa using find?_some hp
  have hpt := hpu pkg (mem_of_find?_eq_some hp)
  obtain ⟨hs,hv⟩ := joined_inj hpt he hj
  rw [pair,hs,hv]

private theorem lastJoined_put (pkg : EdgeConfigPackage) (edge ver : String) :
    lastJoined (ops ++ [.put pkg]) edge ver = if storable pkg = true ∧
          joined pkg.edgeId pkg.version = joined edge ver then some pkg
      else lastJoined ops edge ver := by
  unfold lastJoined
  rw [puts_append,find?_append]
  cases hs : storable pkg with
  | false => simp [puts,hs]
  | true =>
    by_cases hk : joined pkg.edgeId pkg.version = joined edge ver <;> simp [puts,hs,hk]

/-- After any run, a pair is read as the map says exactly when the last package put under its
joined text was put for this pair; a put leaves another pair alone exactly when the two are not
joined to one text, or it finds its own package there; and a promotion leaves every pair alone. -/
theorem store_is_pair_map_iff (operations : List Operation) (edgeId version : String) :
    (desiredConfig (run operations) edgeId version = .ok (lastPut operations edgeId version) ↔
      ∀ package ∈ lastJoined operations edgeId version, pair package = (edgeId,version)) ∧
    (∀ package, pair package ≠ (edgeId,version) →
      (desiredConfig (perform (run operations) (.put package)) edgeId version =
          desiredConfig (run operations) edgeId version ↔
        (storable package = true → joined package.edgeId package.version = joined edgeId version →
          lastJoined operations edgeId version = some package))) ∧
    ∀ active activeVersion,
      desiredConfig (perform (run operations) (.promote active activeVersion)) edgeId version =
        desiredConfig (run operations) edgeId version := by
  refine ⟨?_,?_,?_⟩
  · rw [desiredConfig_run,Except.ok.injEq]
    exact lastJoined_eq_lastPut_iff operations edgeId version
  · intro package _
    rw [← run_append,desiredConfig_run,desiredConfig_run,Except.ok.injEq,lastJoined_put]
    split
    · next hsa => exact ⟨fun h _ _ => h.symm,fun h => (h hsa.1 hsa.2).symm⟩
    · next ho => exact ⟨fun _ hs hj => absurd ⟨hs,hj⟩ ho,fun _ => rfl⟩
  · intro active activeVersion
    unfold desiredConfig
    rw [get_promote]

def plantConfigs : List Operation :=
  [.put (.new "plant-1" "v1"),.put (.new "plant-2" "v1"),.promote "plant-1" "v1",
    .put (.new "plant-1" "v2"),.read "plant-1" "v1"]

theorem plant_configs_kept_apart :
    desiredConfig (run plantConfigs) "plant-1" "v1" = .ok (some (.new "plant-1" "v1")) ∧
    desiredConfig (perform (run plantConfigs) (.put (.new "plant-2" "v1"))) "plant-1" "v1" =
      desiredConfig (run plantConfigs) "plant-1" "v1" := by
  have hm := store_is_pair_map_iff plantConfigs "plant-1" "v1"
  refine ⟨hm.1.mpr ?_,(hm.2.1 (.new "plant-2" "v1") (by decide)).mpr ?_⟩
  · rintro pkg hp
    cases hp
    rfl
  · intro _ hj
    exact absurd hj (by decide)

theorem plant_config_read :
    desiredConfig (run plantConfigs) "plant-1" "v1" = .ok (lastPut plantConfigs "plant-1" "v1") :=
  desiredConfig_run_of_slashless plantConfigs (by decide) (by decide) "v1"

/-- The configuration of edge `plant/a` is read back as one of edge `plant`, where none was put, and
a configuration of `plant` then takes its place. -/
theorem slashed_edge_ids_collide : desiredConfig (run [.put (.new "plant/a" "v1")]) "plant" "a/v1" =
      .ok (some (.new "plant/a" "v1")) ∧
    lastPut [.put (.new "plant/a" "v1")] "plant" "a/v1" = none ∧
    desiredConfig (run [.put (.new "plant/a" "v1"),.put (.new "plant" "a/v1")]) "plant/a" "v1" =
      .ok (some (.new "plant" "a/v1")) ∧
    lastPut [.put (.new "plant/a" "v1"),.put (.new "plant" "a/v1")] "plant/a" "v1" =
      some (.new "plant/a" "v1") := by
  refine ⟨?_,?_,?_,?_⟩ <;> rfl

end VelaEdge.Runtime.ConfigStore
