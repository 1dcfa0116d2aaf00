import VelaEdge.Core.PointValidation
import VelaEdge.Core.SiemensS7
import VelaEdge.Runtime.ConfigDeploy

/-! What a configuration deploy over the gateway session answers and which runtime it collects
with. The kept runtime is looked up by edge id and version, not by content. -/
namespace VelaEdge.Runtime.DeployOutcomes

open Base Core LocalDb AppliedConfig ConfigDeploy Option

variable (checks : FieldChecks)

/-- The kept runtime, when it was built under the edge id and version of the package. -/
def keptFor (collection : Option PersistentCollectionRuntime) (package : EdgeConfigPackage) :
    Option ConfiguredEdgeRuntime :=
  collection.bind fun collection =>
    if collection.activeConfig = some (package.edgeId,package.version) then collection.runtime
    else none

def handedOut (collection : Option PersistentCollectionRuntime) (package : EdgeConfigPackage) :
    Option ConfiguredEdgeRuntime :=
  (apply checks package).toOption.bind fun applied =>
    (deployRuntime checks collection applied).toOption.map fun built => built.2

/-- The deploy in a session without a store: nothing is stored or promoted. -/
def applyConfigDeployWithoutStore (acknowledge : ConfigReport → Except String Unit)
    (edgeId : String) (collection : Option PersistentCollectionRuntime)
    (package : EdgeConfigPackage) : Deployed :=
  if package.edgeId ≠ edgeId then
    reported acknowledge .empty collection
      ⟨package.version,none,false,some "config package targets a different edge"⟩
      (.error "config package targets a different edge")
  else
    match apply checks package with
    | .error reason =>
      reported acknowledge .empty collection ⟨package.version,none,false,some reason⟩
        (.error "failed to apply EdgeLink config deploy")
    | .ok applied =>
      match deployRuntime checks collection applied with
      | .error _ =>
        ⟨.empty,collection,none,
          .error "failed to run collection after EdgeLink config deploy"⟩
      | .ok (collection,_) =>
        reported acknowledge .empty collection
          ⟨package.version,some applied.package.version,true,none⟩
          (.ok applied.package.version)

section Panics

variable (package : EdgeConfigPackage)

/-- The check of an S7 point parses the address of one of its kind. -/
def siemensS7Panics (address : Json) : Bool :=
  addressField address "kind" = "s7_address" && (address.get "modbus").isNone &&
    parseSiemensS7PointAddress (addressField address "value") matches .error .panic

def pointPanics (mapping : TelemetryPointMapping) : Bool :=
  (checks.validatePointAccess mapping.address mapping.access).isOk &&
  (checks.validatePointReadTransforms mapping.readTransforms mapping.valueType).isOk &&
  (findConnection package mapping.protocolConnectionId).any (·.protocol = .siemensS7) &&
  siemensS7Panics mapping.address

/-- Nothing is wrong with the package before a point whose check panics. -/
def applyPanics : Bool :=
  !Text.isBlank package.edgeId && !Text.isBlank package.version &&
  (package.protocolConnections.forM (checkConnection checks)).isOk &&
  (package.pointMappings.find? fun mapping => pointPanics checks package mapping ||
    !(checkPoint checks package mapping).isOk).any (pointPanics checks package)

-- whether the collection panics, as at a sample that reaches a `Clamp` with crossed limits
variable (collectPanics : ConfiguredEdgeRuntime → Bool) (edgeId : String)
  (collection : Option PersistentCollectionRuntime)

def deployPanics : Bool :=
  package.edgeId = edgeId &&
    (applyPanics checks package || (handedOut checks collection package).any collectPanics)

/-- The report the gateway gets: a panic ends the session's task before one is sent. -/
def answerOf (deployed : Deployed) : Option ConfigReport :=
  if deployPanics checks package collectPanics edgeId collection then none else deployed.report

end Panics

section Runtime

variable {checks} {coll : Option PersistentCollectionRuntime} {pkg : EdgeConfigPackage}
  {applied : AppliedEdgeConfig checks}

theorem apply_package (h : apply checks pkg = .ok applied) :
    applied.package = withClientIds pkg := by
  unfold apply at h
  split at h
  · cases h
  · split at h
    · cases h
    · split at h
      · cases h
      · cases h
        rfl

/-- All that can fail in building a runtime for a checked package is an algorithm without an id. -/
theorem new_applied (applied : AppliedEdgeConfig checks) :
    ConfiguredEdgeRuntime.new checks applied.package =
      (newAlgorithmEngine applied.package.algorithms).map fun _ => ⟨applied.package⟩ := by
  unfold ConfiguredEdgeRuntime.new
  simp only [bailIf,applied.edgeId_present,applied.version_present,applied.valid,
    Bool.false_eq_true,if_false,ok_bind]
  cases newAlgorithmEngine applied.package.algorithms <;> rfl

@[simp] theorem newAlgorithmEngine_ok : newAlgorithmEngine algs = .ok () ↔
      ∀ alg ∈ algs, Text.isBlank alg.id = false := by
  unfold newAlgorithmEngine
  rw [forM_eq_ok]
  simp

theorem deployRuntime_of_kept {coll : PersistentCollectionRuntime}
    {runtime : ConfiguredEdgeRuntime} (h : keptFor (some coll) applied.package = some runtime) :
    deployRuntime checks (some coll) applied = .ok (some coll,runtime) := by
  obtain ⟨active,kept⟩ := coll
  simp only [keptFor,bind_some] at h
  split at h
  · next ha =>
    cases h
    simp only [deployRuntime,runtimeFor,if_pos ha,ok_bind]
    rfl
  · cases h

/-- Without a runtime under the same edge id and version a new one is built, and kept if runtimes
are kept at all. -/
theorem deployRuntime_of_not_kept (h : keptFor coll applied.package = none) :
    deployRuntime checks coll applied = (newAlgorithmEngine applied.package.algorithms).map fun _ =>
        (coll.map fun _ => ⟨some (applied.package.edgeId,applied.package.version),
          some ⟨applied.package⟩⟩,⟨applied.package⟩) := by
  unfold deployRuntime
  cases coll with
  | none =>
    dsimp only
    rw [new_applied]
    cases newAlgorithmEngine applied.package.algorithms <;> rfl
  | some coll =>
    obtain ⟨active,kept⟩ := coll
    have hb : runtimeFor checks ⟨active,kept⟩ applied =
        (ConfiguredEdgeRuntime.new checks applied.package).bind fun runtime =>
          .ok (⟨some (applied.package.edgeId,applied.package.version),some runtime⟩,runtime) := by
      unfold runtimeFor
      cases kept with
      | none => rfl
      | some runtime =>
        simp only [keptFor,bind_some] at h
        split at h
        · cases h
        · next ha => exact if_neg ha
    dsimp only
    rw [hb,new_applied]
    cases newAlgorithmEngine applied.package.algorithms <;> rfl

end Runtime

/-- Collecting leaves the stored configurations alone. -/
def KeepsConfigs (collect : ConfiguredEdgeRuntime → Db → Db × Except String Unit) : Prop :=
  ∀ runtime db edgeId version, (collect runtime db).1.get (desiredConfigKey edgeId version) =
      db.get (desiredConfigKey edgeId version)

section Paths

variable {checks} {collect : ConfiguredEdgeRuntime → Db → Db × Except String Unit}
  {acknowledge : ConfigReport → Except String Unit} {edgeId : String}
  {collection after : Option PersistentCollectionRuntime} {package : EdgeConfigPackage} {db : Db}
  {applied : AppliedEdgeConfig checks} {runtime : ConfiguredEdgeRuntime}

theorem handedOut_of_built (ha : apply checks package = .ok applied)
    (hr : deployRuntime checks collection applied = .ok (after,runtime)) :
    handedOut checks collection package = some runtime := by
  rw [handedOut,ha]
  simp only [Except.toOption,bind_some,hr,map_some]

def promotedDb (collect : ConfiguredEdgeRuntime → Db → Db × Except String Unit) (db : Db)
    (package : EdgeConfigPackage) (runtime : ConfiguredEdgeRuntime) : Db :=
  (collect runtime (db.put (desiredConfigKey package.edgeId package.version)
    (.desiredConfig package))).1.put (activeConfigKey package.edgeId) (.activeVersion package.version)

theorem applyConfigDeploy_of_built (hc : KeepsConfigs collect) (he : package.edgeId = edgeId)
    (hs : Storable package) (ha : apply checks package = .ok applied)
    (hr : deployRuntime checks collection applied = .ok (after,runtime)) :
    applyConfigDeploy checks collect acknowledge edgeId collection package db =
      reported acknowledge (promotedDb collect db package runtime) after
        ⟨package.version,some package.version,true,none⟩ (.ok package.version) := by
  have hv : applied.package.version = package.version := by rw [apply_package ha]; rfl
  have hp : promoteActiveConfig (collect runtime
      (db.put (desiredConfigKey package.edgeId package.version) (.desiredConfig package))).1 edgeId
      package.version = .ok (promotedDb collect db package runtime) := by
    have hd : desiredConfig (collect runtime (db.put
        (desiredConfigKey package.edgeId package.version) (.desiredConfig package))).1 edgeId
        package.version = .ok (some package) := by
      rw [desiredConfig_eq_some,hc,← he,OrderedMap.get_put_self]
    rw [promoteActiveConfig,hd,ok_bind,promotedDb,he]
    rfl
  unfold applyConfigDeploy
  rw [if_neg (not_not.mpr he),putDesiredConfig_storable db hs]
  simp [ha,hr,hv,hp]

/-- The gateway learns from one report what became of the package: its version is named, it counts
as accepted exactly when the package was valid, collects with a runtime of its own content and is
active, and otherwise there is a reason. -/
def Answered (checks : FieldChecks) (edgeId : String) (package : EdgeConfigPackage)
    (used : Option ConfiguredEdgeRuntime) (promoted : Prop) (report : Option ConfigReport) : Prop :=
  ∃ sent, report = some sent ∧ sent.desiredVersion = package.version ∧
    ((sent.accepted = true ∧ sent.appliedVersion = some package.version) ↔
      package.edgeId = edgeId ∧ (∃ applied, apply checks package = .ok applied) ∧
        used = some ⟨withClientIds package⟩ ∧ promoted) ∧
    (sent.accepted = true ∨ ∃ reason, sent.reason = some reason)

/-- A valid package can be run: the kept runtime, if it is under the same edge id and version, has
the same content, and otherwise every algorithm has an id. -/
def Runnable (collection : Option PersistentCollectionRuntime) (package : EdgeConfigPackage) :
    Prop :=
  match keptFor collection package with
  | some runtime => runtime = ⟨withClientIds package⟩
  | none => ∀ algorithm ∈ package.algorithms, Text.isBlank algorithm.id = false

theorem answered_refusal (h : package.edgeId ≠ edgeId ∨ ∃ why, apply checks package = .error why) :
    Answered checks edgeId package used promoted (some ⟨package.version,none,false,some why⟩) := by
  refine ⟨_,rfl,rfl,?_,.inr ⟨why,rfl⟩⟩
  constructor
  · intro ha
    cases ha.1
  · rintro ⟨hed,⟨applied,hap⟩,-⟩
    rcases h with ho | ⟨_,he⟩
    · exact absurd hed ho
    · rw [hap] at he
      cases he

theorem not_answered_silence : ¬ Answered checks edgeId package used promoted none := by
  rintro ⟨sent,hs,-⟩
  cases hs

theorem answered_acceptance_iff (he : package.edgeId = edgeId)
    (ha : apply checks package = .ok applied) (hp : promoted) :
    Answered checks edgeId package (some runtime) promoted
        (some ⟨package.version,some package.version,true,none⟩) ↔
      runtime = ⟨withClientIds package⟩ := by
  constructor
  · rintro ⟨sent,hs,-,hi,-⟩
    cases hs
    exact Option.some.inj (hi.mp ⟨rfl,rfl⟩).2.2.1
  · intro hr
    refine ⟨_,rfl,rfl,?_,.inl rfl⟩
    exact ⟨fun _ => ⟨he,⟨applied,ha⟩,congrArg some hr,hp⟩,fun _ => ⟨rfl,rfl⟩⟩

theorem deployRuntime_cases (collection : Option PersistentCollectionRuntime)
    (ha : apply checks package = .ok applied) :
    (∃ after runtime, deployRuntime checks collection applied = .ok (after,runtime) ∧
        (Runnable collection package ↔ runtime = ⟨withClientIds package⟩)) ∨
      ∃ why, deployRuntime checks collection applied = .error why ∧
        ¬ Runnable collection package := by
  have hp := apply_package ha
  have hk : keptFor collection applied.package = keptFor collection package := by
    rw [hp]
    rfl
  unfold Runnable
  cases hr : keptFor collection package with
  | some runtime =>
    cases collection with
    | none => cases hr
    | some collection =>
      exact .inl ⟨_,runtime,deployRuntime_of_kept (hk.trans hr),Iff.rfl⟩
  | none =>
    rw [deployRuntime_of_not_kept (hk.trans hr),hp]
    dsimp only
    rw [← newAlgorithmEngine_ok]
    rw [show (withClientIds package).algorithms = package.algorithms from rfl]
    cases he : newAlgorithmEngine package.algorithms with
    | ok => exact .inl ⟨_,_,rfl,fun _ => rfl,fun _ => rfl⟩
    | error why => exact .inr ⟨why,rfl,fun h => by cases h⟩

@[simp] theorem active_promotedDb :
    activeVersion (promotedDb collect db package runtime) package.edgeId =
      .ok (some package.version) := by
  unfold activeVersion promotedDb
  rw [OrderedMap.get_put_self]

theorem stored_answered_iff (hc : KeepsConfigs collect) (he : package.edgeId = edgeId) :
    Answered checks edgeId package (handedOut checks collection package)
        (activeVersion (applyConfigDeploy checks collect acknowledge edgeId collection package db).db
          edgeId = .ok (some package.version))
        (applyConfigDeploy checks collect acknowledge edgeId collection package db).report ↔
      Storable package ∧
        ∀ applied, apply checks package = .ok applied → Runnable collection package := by
  by_cases hs : Storable package
  · cases ha : apply checks package with
    | error why =>
      have hr : (applyConfigDeploy checks collect acknowledge edgeId collection package
          db).report = some ⟨package.version,none,false,some why⟩ := by
        unfold applyConfigDeploy
        rw [if_neg (not_not.mpr he),putDesiredConfig_storable db hs]
        simp only [ha]
        rfl
      rw [hr]
      refine iff_of_true (answered_refusal (.inr ⟨why,ha⟩)) ⟨hs,?_⟩
      intro applied h
      cases h
    | ok applied =>
      rcases deployRuntime_cases collection ha with
        ⟨after,runtime,hruntime,hrunnable⟩ | ⟨why,hruntime,hnot⟩
      · rw [applyConfigDeploy_of_built hc he hs ha hruntime,handedOut_of_built ha hruntime]
        have hac : activeVersion (promotedDb collect db package runtime) edgeId =
            .ok (some package.version) := he ▸ active_promotedDb
        refine (answered_acceptance_iff he ha hac).trans ?_
        exact ⟨fun h => ⟨hs,fun _ _ => hrunnable.mpr h⟩,fun h => hrunnable.mp (h.2 applied rfl)⟩
      · have hr : (applyConfigDeploy checks collect acknowledge edgeId collection package
            db).report = none := by
          unfold applyConfigDeploy
          rw [if_neg (not_not.mpr he),putDesiredConfig_storable db hs]
          simp [ha,hruntime]
        rw [hr]
        exact iff_of_false not_answered_silence fun h => hnot (h.2 applied rfl)
  · obtain ⟨why,hp⟩ := putDesiredConfig_not_storable db hs
    have hr : (applyConfigDeploy checks collect acknowledge edgeId collection package
        db).report = none := by
      unfold applyConfigDeploy
      rw [if_neg (not_not.mpr he),hp]
    rw [hr]
    exact iff_of_false not_answered_silence fun h => hs h.1

theorem unstored_answered_iff (he : package.edgeId = edgeId) :
    Answered checks edgeId package (handedOut checks collection package) True
        (applyConfigDeployWithoutStore checks acknowledge edgeId collection package).report ↔
      ∀ applied, apply checks package = .ok applied → Runnable collection package := by
  unfold applyConfigDeployWithoutStore
  rw [if_neg (not_not.mpr he)]
  cases ha : apply checks package with
  | error why =>
    refine iff_of_true (answered_refusal (.inr ⟨why,ha⟩)) ?_
    intro applied h
    cases h
  | ok applied =>
    have hv : applied.package.version = package.version := by
      rw [apply_package ha]
      rfl
    rcases deployRuntime_cases collection ha with
      ⟨after,runtime,hruntime,hrunnable⟩ | ⟨why,hruntime,hnot⟩
    · simp only [hruntime,hv]
      rw [handedOut_of_built ha hruntime]
      refine (answered_acceptance_iff he ha trivial).trans ?_
      exact ⟨fun h _ _ => hrunnable.mpr h,fun h => hrunnable.mp (h applied rfl)⟩
    · simp only [hruntime]
      exact iff_of_false not_answered_silence fun h => hnot (h applied rfl)

/-- The checks do not panic, and a valid package can be run and its collection does not panic. -/
def Returns (checks : FieldChecks) (collectPanics : ConfiguredEdgeRuntime → Bool)
    (collection : Option PersistentCollectionRuntime) (package : EdgeConfigPackage) : Prop :=
  applyPanics checks package = false ∧ ∀ applied, apply checks package = .ok applied →
    Runnable collection package ∧ collectPanics ⟨withClientIds package⟩ = false

variable {collectPanics : ConfiguredEdgeRuntime → Bool}

private theorem handedOut_of_runnable (ha : apply checks package = .ok applied)
    (hr : Runnable collection package) :
    handedOut checks collection package = some ⟨withClientIds package⟩ := by
  rcases deployRuntime_cases collection ha with ⟨after,runtime,hb,hi⟩ | ⟨_,_,hn⟩
  · rw [handedOut_of_built ha hb,hi.mp hr]
  · exact absurd hr hn

private theorem returns_iff (he : package.edgeId = edgeId) :
    Returns checks collectPanics collection package ↔
      (∀ applied, apply checks package = .ok applied → Runnable collection package) ∧
        deployPanics checks package collectPanics edgeId collection = false := by
  have hd : deployPanics checks package collectPanics edgeId collection = false ↔
      applyPanics checks package = false ∧
        (handedOut checks collection package).any collectPanics = false := by
    simp [deployPanics,he]
  rw [hd,Returns]
  cases ha : apply checks package with
  | error why => simp [handedOut,ha,Except.toOption]
  | ok applied =>
    by_cases hr : Runnable collection package
    · simp [handedOut_of_runnable ha hr,hr]
    · simp [hr]

private theorem answered_answerOf_iff {deployed : Deployed} (he : package.edgeId = edgeId)
    (h : Answered checks edgeId package (handedOut checks collection package) promoted
        deployed.report ↔ stored ∧
          ∀ applied, apply checks package = .ok applied → Runnable collection package) :
    Answered checks edgeId package (handedOut checks collection package) promoted
        (answerOf checks package collectPanics edgeId collection deployed) ↔
      stored ∧ Returns checks collectPanics collection package := by
  rw [returns_iff he,answerOf]
  cases deployPanics checks package collectPanics edgeId collection with
  | true => exact iff_of_false not_answered_silence (by simp)
  | false => simpa using h

private theorem answerOf_other (he : package.edgeId ≠ edgeId) (deployed : Deployed) :
    answerOf checks package collectPanics edgeId collection deployed = deployed.report := by
  simp [answerOf,deployPanics,he]

end Paths

/-- A deploy is answered exactly when it is for another edge, or the store takes the package, nothing
panics and the package can be run if it is valid; without a store the last two are enough. -/
theorem deploy_answered_iff (collect : ConfiguredEdgeRuntime → Db → Db × Except String Unit)
    (hcollect : KeepsConfigs collect) (collectPanics : ConfiguredEdgeRuntime → Bool)
    (acknowledge : ConfigReport → Except String Unit) (edgeId : String)
    (collection : Option PersistentCollectionRuntime) (package : EdgeConfigPackage) (db : Db) :
    let stored := applyConfigDeploy checks collect acknowledge edgeId collection package db
    let unstored := applyConfigDeployWithoutStore checks acknowledge edgeId collection package
    (Answered checks edgeId package (handedOut checks collection package)
        (activeVersion stored.db edgeId = .ok (some package.version))
        (answerOf checks package collectPanics edgeId collection stored) ↔
      package.edgeId ≠ edgeId ∨
        (Storable package ∧ Returns checks collectPanics collection package)) ∧
    (Answered checks edgeId package (handedOut checks collection package) True
        (answerOf checks package collectPanics edgeId collection unstored) ↔
      package.edgeId ≠ edgeId ∨ Returns checks collectPanics collection package) := by
  dsimp only
  by_cases he : package.edgeId = edgeId
  · rw [answered_answerOf_iff he (stored_answered_iff hcollect he),
      answered_answerOf_iff he ((unstored_answered_iff he).trans (iff_of_eq (true_and _)).symm)]
    simp [he]
  · rw [answerOf_other he,answerOf_other he]
    constructor
    · unfold applyConfigDeploy
      rw [if_pos he]
      exact iff_of_true (answered_refusal (.inl he)) (.inl he)
    · unfold applyConfigDeployWithoutStore
      rw [if_pos he]
      exact iff_of_true (answered_refusal (.inl he)) (.inl he)

def idle : ConfiguredEdgeRuntime → Db → Db × Except String Unit := fun _ db => (db,.ok ())

def firstDeploy : Deployed :=
  applyConfigDeploy lenientChecks idle (fun _ => .ok ()) "edge-1" none (.new "edge-1" "v1") .empty

theorem first_deploy_answered : firstDeploy.report = some ⟨"v1",some "v1",true,none⟩ ∧
    Answered lenientChecks "edge-1" (.new "edge-1" "v1")
      (handedOut lenientChecks none (.new "edge-1" "v1"))
      (activeVersion firstDeploy.db "edge-1" = .ok (some "v1"))
      (answerOf lenientChecks (.new "edge-1" "v1") (fun _ => false) "edge-1" none firstDeploy) := by
  refine ⟨rfl,(deploy_answered_iff lenientChecks idle (fun _ _ _ _ => rfl) (fun _ => false)
    (fun _ => .ok ()) "edge-1" none (.new "edge-1" "v1") .empty).1.mpr
      (.inr ⟨⟨by decide,by decide⟩,rfl,?_⟩)⟩
  intro _ _
  refine ⟨?_,rfl⟩
  intro alg ha
  cases ha

def unnamedAlgorithm : EdgeConfigPackage :=
  { EdgeConfigPackage.new "edge-1" "v1" with algorithms := [⟨"",⟨[]⟩⟩] }

def accentedPoint : EdgeConfigPackage := { EdgeConfigPackage.new "edge-1" "v1" with
    protocolConnections := [⟨"plc",.siemensS7,.null⟩]
    pointMappings := [{
      pointId := "level"
      deviceId := "tank"
      semanticId := "level"
      protocolConnectionId := "plc"
      address := .object [("kind",.string "s7_address"),("value",.string "Ü10")]
      valueType := .float
      access := .readOnly
      protocolOptions := .null
      range := none
      readTransforms := [] }] }

/-- Of these packages the first is valid and no runtime can be built for it, the second has no
version, and the third makes its check panic. None of them is answered. -/
theorem unbuildable_deploy_unanswered :
    (∃ applied, apply lenientChecks unnamedAlgorithm = .ok applied) ∧
    ∀ package ∈ [unnamedAlgorithm,.new "edge-1" "",accentedPoint],
      answerOf lenientChecks package (fun _ => false) "edge-1" none
        (applyConfigDeploy lenientChecks idle (fun _ => .ok ()) "edge-1" none package .empty) =
          none := by
  refine ⟨⟨_,rfl⟩,?_⟩
  intro package hm
  simp only [List.mem_cons,List.not_mem_nil,or_false] at hm
  rcases hm with rfl | rfl | rfl <;> rfl

/-! Deploys one after another, with one runtime kept between them. -/

section Sessions

variable (collect : ConfiguredEdgeRuntime → Db → Db × Except String Unit)
  (acknowledge : ConfigReport → Except String Unit) (edgeId : String)

structure Session where
  db : Db
  collection : PersistentCollectionRuntime

def Session.start (db : Db) : Session := ⟨db,⟨none,none⟩⟩

def Session.deploy (session : Session) (package : EdgeConfigPackage) : Deployed :=
  applyConfigDeploy checks collect acknowledge edgeId (some session.collection) package session.db

def Session.after (session : Session) (package : EdgeConfigPackage) : Session where
  db := (session.deploy checks collect acknowledge edgeId package).db
  collection :=
    (session.deploy checks collect acknowledge edgeId package).collection.getD session.collection

variable {checks collect acknowledge edgeId} {sess : Session} {package : EdgeConfigPackage}

variable (checks collect acknowledge edgeId)

end Sessions

def releases : List EdgeConfigPackage :=
  [.new "edge-1" "v1",.new "edge-1" "v1",
    { EdgeConfigPackage.new "edge-1" "v2" with devices := [⟨"plc-1"⟩] }]

end VelaEdge.Runtime.DeployOutcomes
