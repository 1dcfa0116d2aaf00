import VelaEdge.Cloud.ReleaseHistory

/-! The requests that write an edge's configuration, and which package counts as the latest
afterwards. -/
namespace VelaEdge.Cloud

open Base Core Registry Text ReleaseHistory

/-- The number after the last dash, counted up; the sum wraps as 64-bit numbers do. -/
def nextVersion (version : String) : String := match rsplitOnce '-' version with
  | none => version ++ "-001"
  | some (start,suffix) =>
    let next := ((parseBelow (2 ^ 64) suffix).getD 0 + 1) % 2 ^ 64
    start ++ "-" ++ padded 3 next

variable (checks : PackageChecks)

/-- What an edit does to the package it is based on; its edge and version are not the edit's. -/
abbrev PackageEdit := EdgeConfigPackage → Except ApiError EdgeConfigPackage

def editedPackage (store : CloudControlStore) (edgeId : String) (change : PackageEdit) :
    Except ApiError EdgeConfigPackage := do
  let package ← context (store.latestConfigPackageForEdge edgeId)
    ⟨.notFound,"missing edge config package"⟩
  let changed ← change package
  pure { changed with edgeId := package.edgeId, version := nextVersion package.version }

/-- An edit up to the point where it waits: the new package is in the store already. -/
def startEdit (store : CloudControlStore) (edgeId : String) (change : PackageEdit) :
    Except ApiError (EdgeConfigPackage × CloudControlStore) := do
  let package ← editedPackage store edgeId change
  pure (package,store.upsertConfigPackage package)

def editEdgeConfig (store : CloudControlStore) (releaseId : Nat) (edgeId : String)
    (change : PackageEdit) : Except ApiError (EdgeConfigPackage × CloudControlStore) := do
  let (package,started) ← startEdit store edgeId change
  pure (package,persistConfigPackage checks started releaseId package)

structure BindEdgeProductRequest where
  projectId : String
  productId : String
  desiredVersion : Option String

def BindEdgeProductRequest.version (request : BindEdgeProductRequest) (product : Product) :
    Option String :=
  (request.desiredVersion.filter fun version => !isBlank version).or product.latestVersion

def BindEdgeProductRequest.bind (request : BindEdgeProductRequest) (node : EdgeNode)
    (desiredVersion : String) : EdgeNode :=
  { node with
    projectId := some request.projectId
    productId := some request.productId
    desiredProductVersion := some desiredVersion
    capabilities := (node.capabilities.filter fun capability =>
      !hasPrefix "project:" capability && !hasPrefix "product:" capability) ++
        [s!"project:{request.projectId}",s!"product:{request.productId}"] }

/-- The node and the package that a binding writes. -/
def planBinding (store : CloudControlStore) (edgeId : String) (request : BindEdgeProductRequest) :
    Except ApiError (EdgeNode × EdgeConfigPackage) := do
  let node ← context (store.edgeNodes.get edgeId) ⟨.notFound,"missing edge node"⟩
  let product ← context (store.product request.productId) ⟨.notFound,"missing product"⟩
  bailIf (product.projectId ≠ request.projectId)
    ⟨.badRequest,"edge project does not match product project"⟩
  let desiredVersion ← context (request.version product)
    ⟨.conflict,"product has no published version"⟩
  let productVersion ← context (store.productVersion request.productId desiredVersion)
    ⟨.notFound,"missing product version"⟩
  bailIf (productVersion.status ≠ .published)
    ⟨.conflict,"only published product versions can be bound to an edge"⟩
  let package ← materializeProductConfigPackage store edgeId productVersion
  pure (request.bind node desiredVersion,package)

def startBinding (store : CloudControlStore) (edgeId : String) (request : BindEdgeProductRequest) :
    Except ApiError (EdgeConfigPackage × CloudControlStore) := do
  let (bound,package) ← planBinding store edgeId request
  pure (package,(store.registerEdge bound).upsertConfigPackage package)

def bindEdgeProduct (store : CloudControlStore) (releaseId : Nat) (edgeId : String)
    (request : BindEdgeProductRequest) :
    Except ApiError (EdgeConfigPackage × CloudControlStore) := do
  let (package,started) ← startBinding store edgeId request
  pure (package,persistConfigPackage checks started releaseId package)

inductive ConfigWrite where
  | post (releaseId : Nat) (package : EdgeConfigPackage)
  | edit (releaseId : Nat) (edgeId : String) (change : PackageEdit)
  | transition (newId : String → Nat) (productId version : String) (rollback : Bool)
  | bind (releaseId : Nat) (edgeId : String) (request : BindEdgeProductRequest)

def ConfigWrite.apply (store : CloudControlStore) :
    ConfigWrite → Except ApiError (List EdgeConfigPackage × CloudControlStore)
  | .post releaseId package =>
    .ok ([package],persistConfigPackage checks store releaseId package)
  | .edit releaseId edgeId change => do
      let (package,after) ← editEdgeConfig checks store releaseId edgeId change
      pure ([package],after)
  | .transition newId productId version rollback => do
      let (_,after) ← transitionProductVersion checks store newId productId version rollback
      pure (transitionPackages store productId version,after)
  | .bind releaseId edgeId request => do
      let (package,after) ← bindEdgeProduct checks store releaseId edgeId request
      pure ([package],after)

/-- Each written package is the latest of its edge. -/
def Latest (store : CloudControlStore) (packages : List EdgeConfigPackage) : Prop :=
  ∀ package ∈ packages, store.latestConfigPackageForEdge package.edgeId = some package

/-- After every successful write of a sequence the written packages are the latest ones. -/
def NoWriteLost : CloudControlStore → List ConfigWrite → Prop
  | _, [] => True
  | store, write :: writes =>
    match write.apply checks store with
    | .ok (packages,after) => Latest after packages ∧ NoWriteLost after writes
    | .error _ => NoWriteLost store writes

/-- No stored version of the edge comes after a version, as text. -/
def NotBehind (store : CloudControlStore) (edgeId version : String) : Prop :=
  ∀ package ∈ store.configPackages.values, package.edgeId = edgeId → package.version ≤ version

/-- The text after the last dash does not come after its zero-padded successor, as it does for 999,
for 7 and for a word. -/
def CountsUp (version : String) : Prop := match rsplitOnce '-' version with
  | none => True
  | some (_,suffix) =>
    suffix ≤ padded 3 (((parseBelow (2 ^ 64) suffix).getD 0 + 1) % 2 ^ 64)

def InOrder (store : CloudControlStore) : ConfigWrite → Prop
  | .post _ package => NotBehind store package.edgeId package.version
  | .edit _ edgeId _ =>
    ∀ base, store.latestConfigPackageForEdge edgeId = some base → CountsUp base.version
  | .transition _ productId version _ =>
    alreadyPublished store productId version = false →
      ∀ edge ∈ rolloutEdges store productId, NotBehind store edge.edgeId version
  | .bind _ edgeId request =>
    ∀ product version, store.product request.productId = some product →
      request.version product = some version → NotBehind store edgeId version

def AllInOrder : CloudControlStore → List ConfigWrite → Prop
  | _, [] => True
  | store, write :: writes =>
    match write.apply checks store with
    | .ok (_,after) => InOrder store write ∧ AllInOrder after writes
    | .error _ => AllInOrder store writes

section Latest

variable {checks} {store after : CloudControlStore}

private theorem mem_packages : pkg ∈ store.configPackages.values ↔
    store.configPackage pkg.edgeId pkg.version = some pkg :=
  mem_values

def Wrote (store after : CloudControlStore) (package : EdgeConfigPackage) : Prop :=
  ∀ version, after.configPackage package.edgeId version =
    if version = package.version then some package
    else store.configPackage package.edgeId version

theorem Wrote.mem_iff {other : EdgeConfigPackage} (h : Wrote store after pkg)
    (he : other.edgeId = pkg.edgeId) : other ∈ after.configPackages.values ↔ other = pkg ∨
        other.version ≠ pkg.version ∧ other ∈ store.configPackages.values := by
  rw [mem_packages,mem_packages,he,h other.version]
  split
  · next hv =>
    simp only [hv,ne_eq,not_true,false_and,or_false,Option.some.injEq]
    exact eq_comm
  · next hv =>
    constructor
    · intro hs
      exact .inr ⟨hv,hs⟩
    · rintro (rfl | ⟨-,hs⟩)
      · exact absurd rfl hv
      · exact hs

theorem Wrote.latest_iff (h : Wrote store after pkg) :
    after.latestConfigPackageForEdge pkg.edgeId = some pkg ↔
      NotBehind store pkg.edgeId pkg.version := by
  constructor
  · intro hl other ho he
    by_cases hv : other.version = pkg.version
    · exact hv.le
    · refine (maxBy_spec hl).2 other (List.mem_filter.mpr ⟨?_,by simpa using he⟩)
      exact (h.mem_iff he).mpr (.inr ⟨hv,ho⟩)
  · intro hb
    have hm : pkg ∈ after.configPackages.values.filter (fun other => other.edgeId = pkg.edgeId) :=
      List.mem_filter.mpr ⟨(h.mem_iff rfl).mpr (.inl rfl),by simp⟩
    obtain ⟨best,hbe⟩ := maxBy_eq_some_of_mem EdgeConfigPackage.version hm
    obtain ⟨hbm,hg⟩ := maxBy_spec hbe
    obtain ⟨hs,he⟩ := List.mem_filter.mp hbm
    have he : best.edgeId = pkg.edgeId := by simpa using he
    rcases (h.mem_iff he).mp hs with rfl | ⟨hv,hol⟩
    · exact hbe
    · exact absurd (le_antisymm (hb best hol he) (hg pkg hm)) hv

@[simp] theorem persistConfigPackage_packages (store : CloudControlStore) (rid : Nat)
    (pkg : EdgeConfigPackage) :
    (persistConfigPackage checks store rid pkg).configPackages =
      store.configPackages.insert pkg := by
  rcases @persistConfigPackage_eq checks store rid pkg with ⟨-,heq⟩ | heq <;> rw [heq] <;> rfl

theorem wrote_insert (h : after.configPackages = store.configPackages.insert pkg) :
    Wrote store after pkg := by
  intro ver
  rw [CloudControlStore.configPackage,h,get_insert]
  simp only [packageKey,toLex_inj,Prod.mk.injEq,true_and]
  rfl

theorem wrote_twice {middle : CloudControlStore}
    (hf : middle.configPackages = store.configPackages.insert pkg)
    (hs : after.configPackages = middle.configPackages.insert pkg) :
    Wrote store after pkg := by
  intro ver
  rw [wrote_insert hs ver,wrote_insert hf ver]
  split <;> rfl

theorem wrote_insertAll (h : after.configPackages = store.configPackages.insertAll pkgs)
    (hm : pkg ∈ pkgs)
    (hu : ∀ other ∈ pkgs, other.edgeId = pkg.edgeId → other = pkg) :
    Wrote store after pkg := by
  intro ver
  rw [CloudControlStore.configPackage,h]
  split
  · next hv =>
    rw [hv]
    refine get_insertAll_of_mem hm ?_
    intro other ho hk
    exact hu other ho (congrArg Prod.fst (toLex_inj.mp hk))
  · next hv =>
    refine get_insertAll_of_ne pkgs ?_
    intro other ho hk
    have hn : other.edgeId = pkg.edgeId ∧ other.version = ver := Prod.mk.inj (toLex_inj.mp hk)
    rw [hu other ho hn.1] at hn
    exact hv hn.2.symm

private theorem countsUp_iff (ver : String) : ver ≤ nextVersion ver ↔ CountsUp ver := by
  unfold nextVersion CountsUp
  split
  · simp only [iff_true]
    exact le_of_hasPrefix (hasPrefix_append ver "-001")
  · next start suffix hs =>
    have hv := rsplitOnce_eq_some hs
    change ver ≤ start ++ "-" ++ _ ↔ _
    rw [hv]
    exact append_le_append_left_iff (start ++ "-") _ _

theorem notBehind_next_iff (h : store.latestConfigPackageForEdge edge = some base) :
    NotBehind store edge (nextVersion base.version) ↔ CountsUp base.version := by
  obtain ⟨hm,hg⟩ := maxBy_spec h
  obtain ⟨hs,he⟩ := List.mem_filter.mp hm
  rw [← countsUp_iff]
  constructor
  · intro hb
    exact hb base hs (by simpa using he)
  · intro hn other ho hna
    exact le_trans (hg other (List.mem_filter.mpr ⟨ho,by simpa using hna⟩)) hn

end Latest

section Requests

variable {checks} {store started after : CloudControlStore}

theorem startEdit_ok {change : PackageEdit} (h : startEdit store edge change = .ok (pkg,started)) :
    editedPackage store edge change = .ok pkg ∧ started = store.upsertConfigPackage pkg := by
  obtain ⟨written,hw,hs⟩ := bind_eq_ok.mp h
  cases hs
  exact ⟨hw,rfl⟩

theorem startBinding_ok {req : BindEdgeProductRequest}
    (h : startBinding store edge req = .ok (pkg,started)) :
    ∃ bound, planBinding store edge req = .ok (bound,pkg) ∧
      started = (store.registerEdge bound).upsertConfigPackage pkg := by
  obtain ⟨⟨bound,written⟩,hp,hs⟩ := bind_eq_ok.mp h
  cases hs
  exact ⟨bound,hp,rfl⟩

private theorem planBinding_ok {req : BindEdgeProductRequest}
    (h : planBinding store edge req = .ok (bound,pkg)) :
    bound.edgeId = edge ∧ pkg.edgeId = edge ∧ ∃ product,
      store.product req.productId = some product ∧ req.version product = some pkg.version := by
  simp only [planBinding,bind_eq_ok,context_eq_ok] at h
  obtain ⟨node,hno,product,hpr,-,-,ver,hve,target,ht,-,-,written,hw,ha⟩ := h
  cases ha
  obtain ⟨he,hn⟩ := materialize_names hw
  rw [CloudControlStore.productVersion_version ht] at hn
  have hk : node.edgeId = edge := key_of_get hno
  exact ⟨hk,he,product,hpr,hn ▸ hve⟩

theorem editEdgeConfig_latest {change : PackageEdit}
    (h : editEdgeConfig checks store rid edge change = .ok (pkg,after)) :
    after.latestConfigPackageForEdge pkg.edgeId = some pkg ↔
      InOrder store (.edit rid edge change) := by
  obtain ⟨⟨written,started⟩,hs,ha⟩ := bind_eq_ok.mp h
  cases ha
  obtain ⟨hw,rfl⟩ := startEdit_ok hs
  simp only [editedPackage,bind_eq_ok,context_eq_ok] at hw
  obtain ⟨base,hb,changed,-,hw⟩ := hw
  cases hw
  have he : base.edgeId = edge := by simpa using (List.mem_filter.mp (maxBy_spec hb).1).2
  rw [(wrote_twice rfl (persistConfigPackage_packages _ _ _)).latest_iff]
  simp only [InOrder,hb,Option.some.injEq,forall_eq',he]
  exact notBehind_next_iff hb

theorem bindEdgeProduct_latest {req : BindEdgeProductRequest}
    (h : bindEdgeProduct checks store rid edge req = .ok (pkg,after)) :
    after.latestConfigPackageForEdge pkg.edgeId = some pkg ↔
      InOrder store (.bind rid edge req) := by
  obtain ⟨⟨written,started⟩,hs,ha⟩ := bind_eq_ok.mp h
  cases ha
  obtain ⟨bound,hp,rfl⟩ := startBinding_ok hs
  obtain ⟨-,he,product,hpr,hve⟩ := planBinding_ok hp
  rw [(wrote_twice rfl (persistConfigPackage_packages _ _ _)).latest_iff,he]
  constructor
  · intro hb product' version' hp hv
    rw [hpr] at hp
    cases hp
    rw [hve] at hv
    cases hv
    exact hb
  · intro ho
    exact ho product _ hpr hve

private theorem transition_latest {ver : String} {published : ProductVersion}
    (h : transitionProductVersion checks store newId prod ver rollback = .ok (published,after)) :
    Latest after (transitionPackages store prod ver) ↔
      InOrder store (.transition newId prod ver rollback) := by
  rcases transitionProductVersion_ok h with ⟨rfl,hs⟩ | ⟨hne,-,hp,hke⟩
  · simp [Latest,InOrder,transitionPackages,hs]
  · have hn : ∀ pkg ∈ transitionPackages store prod ver, ∃ edge ∈ rolloutEdges store prod,
          pkg.edgeId = edge.edgeId ∧ pkg.version = ver := by
      intro pkg hm
      have hk : packageKey pkg ∈ (transitionPackages store prod ver).map packageKey :=
        List.mem_map_of_mem hm
      rw [hke] at hk
      obtain ⟨edge,he,heq⟩ := List.mem_map.mp hk
      exact ⟨edge,he,(Prod.mk.inj (toLex_inj.mp heq)).imp Eq.symm Eq.symm⟩
    have hw : ∀ pkg ∈ transitionPackages store prod ver, Wrote store after pkg := by
      intro pkg hm
      refine wrote_insertAll hp hm ?_
      intro other ho he
      have hk : packageKey other = packageKey pkg := by
        obtain ⟨_,-,-,hv⟩ := hn pkg hm
        obtain ⟨_,-,-,ho⟩ := hn other ho
        rw [packageKey,packageKey,he,hv,ho]
      refine List.inj_on_of_nodup_map ?_ ho hm hk
      have hd := (rolloutEdges_nodup store prod).map (f := fun edgeId => toLex (edgeId,ver))
        fun left right h => congrArg Prod.fst (toLex_inj.mp h)
      rw [hke]
      rw [List.map_map] at hd
      exact hd
    constructor
    · intro hl _ edge he
      have hk : toLex (edge.edgeId,ver) ∈ (transitionPackages store prod ver).map packageKey := by
        rw [hke]
        exact List.mem_map_of_mem he
      obtain ⟨pkg,hm,heq⟩ := List.mem_map.mp hk
      obtain ⟨hna,hv⟩ := Prod.mk.inj (toLex_inj.mp heq)
      rw [← hna,← hv]
      exact (hw pkg hm).latest_iff.mp (hl pkg hm)
    · intro hor pkg hm
      obtain ⟨edge,he,hna,hv⟩ := hn pkg hm
      rw [(hw pkg hm).latest_iff,hna,hv]
      exact hor hne edge he

theorem ConfigWrite.apply_latest {write : ConfigWrite}
    (h : write.apply checks store = .ok (pkgs,after)) :
    Latest after pkgs ↔ InOrder store write := by
  cases write with
  | post rid pkg =>
    cases h
    simp only [Latest,List.mem_singleton,forall_eq]
    exact (wrote_insert (persistConfigPackage_packages _ _ _)).latest_iff
  | edit rid edge change =>
    simp only [ConfigWrite.apply,bind_eq_ok] at h
    obtain ⟨⟨pkg,res⟩,he,hr⟩ := h
    cases hr
    simp only [Latest,List.mem_singleton,forall_eq]
    exact editEdgeConfig_latest he
  | transition newId prod ver rollback =>
    simp only [ConfigWrite.apply,bind_eq_ok] at h
    obtain ⟨⟨published,res⟩,ht,hr⟩ := h
    cases hr
    exact transition_latest ht
  | bind rid edge req =>
    simp only [ConfigWrite.apply,bind_eq_ok] at h
    obtain ⟨⟨pkg,res⟩,hb,hr⟩ := h
    cases hr
    simp only [Latest,List.mem_singleton,forall_eq]
    exact bindEdgeProduct_latest hb

end Requests

/-- A configuration write is never lost exactly when every write's version comes, as text, no
earlier than what is stored for its edge. -/
theorem no_write_lost_iff (store : CloudControlStore) (writes : List ConfigWrite) :
    NoWriteLost checks store writes ↔ AllInOrder checks store writes := by
  induction writes generalizing store with
  | nil => exact Iff.rfl
  | cons write writes ih =>
    simp only [NoWriteLost,AllInOrder]
    split
    · next pkgs after hw =>
      refine and_congr ?_ (ih after)
      exact ConfigWrite.apply_latest hw
    · exact ih store

def countedPackage : EdgeConfigPackage := .new "edge-1" "cfg-999"

def addAlgorithm : PackageEdit := fun package =>
  .ok { package with algorithms := package.algorithms ++ [⟨"mean",⟨[]⟩⟩] }

def storeAt999 : CloudControlStore :=
  persistConfigPackage pumpChecks .empty 1 countedPackage

/-- The edit after number 999 is stored under 1000, which comes before 999 as text: the package
without the algorithm stays the latest one. -/
theorem thousandth_edit_lost :
    (editedPackage storeAt999 "edge-1" addAlgorithm).toOption.map EdgeConfigPackage.version =
        some "cfg-1000" ∧
      ((editEdgeConfig pumpChecks storeAt999 2 "edge-1" addAlgorithm).toOption.bind
          fun result => result.2.latestConfigPackageForEdge "edge-1").map
            EdgeConfigPackage.version = some "cfg-999" ∧
      ¬ NoWriteLost pumpChecks .empty
        [.post 1 countedPackage,.edit 2 "edge-1" addAlgorithm] := by
  refine ⟨by decide +kernel,by decide +kernel,?_⟩
  intro h
  have hl := congrArg (Option.map EdgeConfigPackage.version) (h.2.1 _ List.mem_cons_self)
  revert hl
  decide +kernel

end VelaEdge.Cloud
