import VelaEdge.Runtime.AppliedConfig

/-! Receiving a configuration, over the gateway session and over HTTP. Both store the package
first, then check it, build a runtime for it and run one collection, and last make its version the
active one. -/
namespace VelaEdge.Runtime.ConfigDeploy

open Base Core LocalDb AppliedConfig OrderedMap Text

structure PersistentCollectionRuntime where
  activeConfig : Option (String × String)
  runtime : Option ConfiguredEdgeRuntime

structure ConfigReport where
  desiredVersion : String
  appliedVersion : Option String
  accepted : Bool
  reason : Option String
deriving DecidableEq

/-- What a deploy leaves behind, whether or not it returns normally. -/
structure Deployed where
  db : Db
  collection : Option PersistentCollectionRuntime
  report : Option ConfigReport
  result : Except String String

structure EdgeDesiredConfig where
  desiredVersion : String
  package : EdgeConfigPackage

variable (checks : FieldChecks)

def runtimeFor (collection : PersistentCollectionRuntime) (applied : AppliedEdgeConfig checks) :
    Except String (PersistentCollectionRuntime × ConfiguredEdgeRuntime) :=
  let identity := (applied.package.edgeId,applied.package.version)
  match collection.runtime with
  | some runtime =>
    if collection.activeConfig = some identity then .ok (collection,runtime)
    else do
      let runtime ← ConfiguredEdgeRuntime.new checks applied.package
      pure (⟨some identity,some runtime⟩,runtime)
  | none => do
      let runtime ← ConfiguredEdgeRuntime.new checks applied.package
      pure (⟨some identity,some runtime⟩,runtime)

/-- The runtime a deploy collects with: the kept one, or one for this deploy alone. -/
def deployRuntime (collection : Option PersistentCollectionRuntime)
    (applied : AppliedEdgeConfig checks) :
    Except String (Option PersistentCollectionRuntime × ConfiguredEdgeRuntime) := do
  match collection with
  | some collection =>
    let (collection,runtime) ← runtimeFor checks collection applied
    pure (some collection,runtime)
  | none =>
    let runtime ← ConfiguredEdgeRuntime.new checks applied.package
    pure (none,runtime)

section Paths

-- `collect` is one collection with what it writes to the store, `acknowledge` the gateway's
-- answer to a report
variable (collect : ConfiguredEdgeRuntime → Db → Db × Except String Unit)
  (acknowledge : ConfigReport → Except String Unit)

def reported (db : Db) (collection : Option PersistentCollectionRuntime) (report : ConfigReport)
    (result : Except String String) : Deployed where
  db := db
  collection := collection
  report := some report
  result :=
    match acknowledge report with
    | .error reason => .error reason
    | .ok () => result

variable (edgeId : String)

def applyConfigDeploy (collection : Option PersistentCollectionRuntime)
    (package : EdgeConfigPackage) (db : Db) : Deployed :=
  if package.edgeId ≠ edgeId then
    reported acknowledge db collection
      ⟨package.version,none,false,some "config package targets a different edge"⟩
      (.error "config package targets a different edge")
  else
    match putDesiredConfig db package with
    | .error _ => ⟨db,collection,none,.error "failed to persist EdgeLink desired config"⟩
    | .ok db =>
      match apply checks package with
      | .error reason =>
        reported acknowledge db collection ⟨package.version,none,false,some reason⟩
          (.error "failed to apply EdgeLink config deploy")
      | .ok applied =>
        match deployRuntime checks collection applied with
        | .error _ =>
          ⟨db,collection,none,
            .error "failed to run collection after EdgeLink config deploy"⟩
        | .ok (collection,runtime) =>
          -- a failed collection is reported as a metric and does not fail the deploy
          match promoteActiveConfig (collect runtime db).1 edgeId applied.package.version with
          | .error _ =>
            ⟨(collect runtime db).1,collection,none,
              .error "failed to promote EdgeLink active config"⟩
          | .ok db =>
            reported acknowledge db collection
              ⟨package.version,some applied.package.version,true,none⟩
              (.ok applied.package.version)

def applyDesiredConfig (desired : EdgeDesiredConfig) :
    Except String (AppliedEdgeConfig checks) := do
  bailIf (desired.package.edgeId ≠ edgeId)
    s!"desired package targets edge {desired.package.edgeId}, but runtime is {edgeId}"
  bailIf (desired.package.version ≠ desired.desiredVersion)
    s!"desired version {desired.desiredVersion} does not match package version {
      desired.package.version}"
  apply checks desired.package

def syncWithStoreOnce (desired : EdgeDesiredConfig) (db : Db) : Db × Except String String :=
  match putDesiredConfig db desired.package with
  | .error reason => (db,.error reason)
  | .ok db =>
    match applyDesiredConfig checks edgeId desired with
    | .error reason => (db,.error reason)
    | .ok applied =>
      match ConfiguredEdgeRuntime.new checks applied.package with
      | .error reason => (db,.error reason)
      | .ok runtime =>
        match collect runtime db with
        | (db,.error reason) => (db,.error reason)
        | (db,.ok ()) =>
          match promoteActiveConfig db edgeId applied.package.version with
          | .error reason => (db,.error reason)
          | .ok db => (db,.ok applied.package.version)

end Paths

/-! When a deploy is turned down before its version can become active. -/

inductive DeployRejected (edgeId : String) (collection : Option PersistentCollectionRuntime)
    (package : EdgeConfigPackage) : Prop where
  | otherEdge (h : package.edgeId ≠ edgeId)
  | invalid {reason : String} (h : apply checks package = .error reason)
  | notBuilt {applied : AppliedEdgeConfig checks} {reason : String}
      (hvalid : apply checks package = .ok applied)
      (h : deployRuntime checks collection applied = .error reason)

inductive SyncRejected (edgeId : String) (desired : EdgeDesiredConfig) : Prop where
  | invalid {reason : String} (h : applyDesiredConfig checks edgeId desired = .error reason)
  | notBuilt {applied : AppliedEdgeConfig checks} {reason : String}
      (hvalid : applyDesiredConfig checks edgeId desired = .ok applied)
      (h : ConfiguredEdgeRuntime.new checks applied.package = .error reason)

/-- The active configuration of an edge, and what a restart makes of it, are as before. -/
def Kept (before after : Db) (edgeId : String) : Prop :=
  activeConfig after edgeId = activeConfig before edgeId ∧
  recoverActiveConfig checks after edgeId = recoverActiveConfig checks before edgeId

/-- Storing the package does not touch the body the active version points to. -/
def KeepsActive (db : Db) (edgeId : String) (package : EdgeConfigPackage) : Prop :=
  ∀ version, activeVersion db edgeId = .ok (some version) →
    desiredConfigKey edgeId version = desiredConfigKey package.edgeId package.version →
    desiredConfig db edgeId version = .ok (some package)

theorem activeConfigKey_ne_desired (edge other ver : String) :
    activeConfigKey edge ≠ desiredConfigKey other ver := by
  intro h
  have hf := congrArg (fun key => key.toList.head?) h
  simp [activeConfigKey,desiredConfigKey,activeConfigPrefix,desiredConfigPrefix,
    String.toList_append] at hf

variable (db : Db)

@[simp] theorem activeVersion_put_desired (pkg : EdgeConfigPackage) (edge : String) :
    activeVersion (db.put (desiredConfigKey pkg.edgeId pkg.version)
      (.desiredConfig pkg)) edge = activeVersion db edge := by
  unfold activeVersion
  rw [get_put_of_ne _ _ (activeConfigKey_ne_desired edge _ _)]

@[simp] theorem desiredConfig_eq_some {ver : String} : desiredConfig db edge ver = .ok (some pkg) ↔
      db.get (desiredConfigKey edge ver) = some (.desiredConfig pkg) := by
  unfold desiredConfig
  split
  · next h => simp [h]
  · next stored h => simp [h]
  · next stored ho h =>
    simp only [h,reduceCtorEq,Option.some.injEq,false_iff]
    exact fun hs => ho pkg hs

/-- The active configuration survives a stored package exactly when it is not the body that is
overwritten, or is overwritten with itself. -/
theorem activeConfig_put_desired (pkg : EdgeConfigPackage) (edge : String) :
    activeConfig (db.put (desiredConfigKey pkg.edgeId pkg.version)
      (.desiredConfig pkg)) edge = activeConfig db edge ↔
      KeepsActive db edge pkg := by
  unfold activeConfig KeepsActive
  rw [activeVersion_put_desired]
  cases hv : activeVersion db edge with
  | error why => simp
  | ok active =>
    cases active with
    | none => simp
    | some ver =>
      simp only [ok_bind,Except.ok.injEq,Option.some.injEq,forall_eq']
      by_cases hk : desiredConfigKey edge ver = desiredConfigKey pkg.edgeId pkg.version
      · have hs : desiredConfig (db.put (desiredConfigKey pkg.edgeId pkg.version)
            (.desiredConfig pkg)) edge ver = .ok (some pkg) := by
          rw [desiredConfig_eq_some,hk,get_put_self]
        rw [hs]
        exact ⟨fun h _ => h.symm,fun h => (h hk).symm⟩
      · have hsa : desiredConfig (db.put (desiredConfigKey pkg.edgeId pkg.version)
            (.desiredConfig pkg)) edge ver = desiredConfig db edge ver := by
          unfold desiredConfig
          rw [get_put_of_ne _ _ hk]
        simp [hsa,hk]

theorem kept_iff (before after : Db) (edge : String) :
    Kept checks before after edge ↔ activeConfig after edge = activeConfig before edge := by
  unfold Kept
  refine ⟨fun h => h.1,fun h => ⟨h,?_⟩⟩
  unfold recoverActiveConfig
  rw [h]

def Storable (package : EdgeConfigPackage) : Prop :=
  isBlank package.edgeId = false ∧ isBlank package.version = false

theorem putDesiredConfig_storable (h : Storable pkg) :
    putDesiredConfig db pkg = .ok (db.put (desiredConfigKey pkg.edgeId pkg.version)
      (.desiredConfig pkg)) := by
  simp [putDesiredConfig,bailIf,h.1,h.2]

theorem putDesiredConfig_not_storable (h : ¬ Storable pkg) :
    ∃ why, putDesiredConfig db pkg = .error why := by
  unfold putDesiredConfig
  cases he : isBlank pkg.edgeId with
  | true => exact ⟨"edge id is required",by simp [bailIf]⟩
  | false =>
    cases hv : isBlank pkg.version with
    | true => exact ⟨"config version is required",by simp [bailIf]⟩
    | false => exact absurd ⟨he,hv⟩ h

section Rejected

variable (collect : ConfiguredEdgeRuntime → Db → Db × Except String Unit)
  (acknowledge : ConfigReport → Except String Unit)

/-- All a rejected deploy over the gateway session can leave in the store is the package itself. -/
theorem deployRejected_db (h : DeployRejected checks edge coll pkg) (db : Db) :
    (applyConfigDeploy checks collect acknowledge edge coll pkg db).db = if pkg.edgeId = edge then
        match putDesiredConfig db pkg with
        | .error _ => db
        | .ok after => after
      else db := by
  unfold applyConfigDeploy
  by_cases he : pkg.edgeId = edge
  · rw [if_neg (not_not.mpr he),if_pos he]
    cases hp : putDesiredConfig db pkg with
    | error why => rfl
    | ok after =>
      cases h with
      | otherEdge ho => exact absurd he ho
      | invalid hi =>
        simp only [hi]
        rfl
      | notBuilt hv hb => simp [hv,hb]
  · rw [if_pos he,if_neg he]
    rfl

theorem syncRejected_db (h : SyncRejected checks edge desired) (db : Db) :
    (syncWithStoreOnce checks collect edge desired db).1 =
      match putDesiredConfig db desired.package with
      | .error _ => db
      | .ok after => after := by
  unfold syncWithStoreOnce
  cases hp : putDesiredConfig db desired.package with
  | error why => rfl
  | ok after =>
    cases h with
    | invalid hi => simp [hi]
    | notBuilt hv hb => simp [hv,hb]

private theorem stored_kept_iff (edge : String) (pkg : EdgeConfigPackage) :
    Kept checks db (match putDesiredConfig db pkg with
      | .error _ => db
      | .ok after => after) edge ↔ (Storable pkg → KeepsActive db edge pkg) := by
  rw [kept_iff]
  by_cases hs : Storable pkg
  · rw [putDesiredConfig_storable db hs]
    simp [activeConfig_put_desired,hs]
  · obtain ⟨why,hp⟩ := putDesiredConfig_not_storable db hs
    simp [hp,hs]

/-- A rejected package leaves the active configuration alone exactly when it was not stored, or
was not stored over the body of the active version, or was that body already. -/
theorem rejected_keeps_active_iff (edgeId desiredVersion : String)
    (collection : Option PersistentCollectionRuntime) (package : EdgeConfigPackage) (db : Db) :
    (DeployRejected checks edgeId collection package → (Kept checks db
          (applyConfigDeploy checks collect acknowledge edgeId collection package db).db edgeId ↔
        (package.edgeId = edgeId → Storable package → KeepsActive db edgeId package))) ∧
    (SyncRejected checks edgeId ⟨desiredVersion,package⟩ → (Kept checks db
          (syncWithStoreOnce checks collect edgeId ⟨desiredVersion,package⟩ db).1 edgeId ↔
        (Storable package → KeepsActive db edgeId package))) := by
  constructor
  · intro hr
    rw [deployRejected_db checks collect acknowledge hr db]
    by_cases he : package.edgeId = edgeId
    · rw [if_pos he,stored_kept_iff]
      exact ⟨fun h _ => h,fun h => h he⟩
    · rw [if_neg he,kept_iff]
      simp [he]
  · intro hr
    rw [syncRejected_db checks collect hr db]
    exact stored_kept_iff checks db edgeId package

end Rejected

/-! A package under the active version, and one under a new version, with a task that has no
id. -/

def workingPackage : EdgeConfigPackage := .new "edge-1" "v1"

def brokenPackage (version : String) : EdgeConfigPackage :=
  { EdgeConfigPackage.new "edge-1" version with collectionTasks := [⟨"","device-1",[],1000⟩] }

def workingStore : Db :=
  (OrderedMap.empty.put (desiredConfigKey "edge-1" "v1") (.desiredConfig workingPackage)).put
    (activeConfigKey "edge-1") (.activeVersion "v1")

theorem broken_rejected (ver : String) (h : isBlank ver = false) :
    apply checks (brokenPackage ver) = .error "collection task id is required" := by
  have he : isBlank (brokenPackage ver).edgeId = false := by
    change isBlank "edge-1" = false
    decide
  have hv : isBlank (brokenPackage ver).version = false := h
  have hre : validateConfigReferences checks (withClientIds (brokenPackage ver)) =
      .error "collection task id is required" := rfl
  unfold apply
  rw [dif_neg (by simp [he]),dif_neg (by simp [hv])]
  split
  · next hr =>
    rw [hre] at hr
    cases hr
    rfl
  · next hr =>
    rw [hre] at hr
    cases hr

/-- A rejected package under the active version takes the place of the active configuration, and
a restart then finds nothing it can run. -/
theorem same_version_replaces_active :
    activeConfig workingStore "edge-1" = .ok (some workingPackage) ∧
    workingPackage ≠ brokenPackage "v1" ∧
    ∀ (checks : FieldChecks) (collect : ConfiguredEdgeRuntime → Db → Db × Except String Unit)
      (acknowledge : ConfigReport → Except String Unit),
      DeployRejected checks "edge-1" none (brokenPackage "v1") ∧
      SyncRejected checks "edge-1" ⟨"v1",brokenPackage "v1"⟩ ∧
      activeConfig (applyConfigDeploy checks collect acknowledge "edge-1" none (brokenPackage "v1")
        workingStore).db "edge-1" = .ok (some (brokenPackage "v1")) ∧
      activeConfig (syncWithStoreOnce checks collect "edge-1" ⟨"v1",brokenPackage "v1"⟩
        workingStore).1 "edge-1" = .ok (some (brokenPackage "v1")) ∧
      recoverActiveConfig checks (applyConfigDeploy checks collect acknowledge "edge-1" none
        (brokenPackage "v1") workingStore).db "edge-1" =
          .error "failed to validate active config for edge `edge-1`" := by
  refine ⟨rfl,fun h => ?_,fun checks collect acknowledge => ?_⟩
  · cases congrArg (fun pkg => pkg.collectionTasks.length) h
  · have hi := broken_rejected checks "v1" (by decide)
    have hde : applyDesiredConfig checks "edge-1" ⟨"v1",brokenPackage "v1"⟩ =
        .error "collection task id is required" := hi
    have hd : DeployRejected checks "edge-1" none (brokenPackage "v1") := .invalid hi
    have hs : SyncRejected checks "edge-1" ⟨"v1",brokenPackage "v1"⟩ := .invalid hde
    refine ⟨hd,hs,?_,?_,?_⟩
    · rw [deployRejected_db checks collect acknowledge hd]
      rfl
    · rw [syncRejected_db checks collect hs]
      rfl
    · rw [deployRejected_db checks collect acknowledge hd]
      have ha : activeConfig (workingStore.put (desiredConfigKey "edge-1" "v1")
        (.desiredConfig (brokenPackage "v1"))) "edge-1" = .ok (some (brokenPackage "v1")) := rfl
      change recoverActiveConfig checks (workingStore.put (desiredConfigKey "edge-1" "v1")
        (.desiredConfig (brokenPackage "v1"))) "edge-1" = _
      rw [recoverActiveConfig,ha,ok_bind]
      simp only [hi]
      rfl

/-- Under a new version the same package is turned down without harm. -/
theorem new_version_keeps_active : DeployRejected lenientChecks "edge-1" none (brokenPackage "v2") ∧
    Kept lenientChecks workingStore (applyConfigDeploy lenientChecks (fun _ db => (db,.ok ()))
      (fun _ => .ok ()) "edge-1" none (brokenPackage "v2") workingStore).db "edge-1" := by
  have hr : DeployRejected lenientChecks "edge-1" none (brokenPackage "v2") :=
    .invalid (broken_rejected lenientChecks "v2" (by decide))
  refine ⟨hr,((rejected_keeps_active_iff lenientChecks _ _ "edge-1" "v2" none
    (brokenPackage "v2") workingStore).1 hr).mpr ?_⟩
  intro _ _ ver ha hk
  have hv : activeVersion workingStore "edge-1" = .ok (some "v1") := rfl
  rw [hv,Except.ok.injEq,Option.some.injEq] at ha
  subst ha
  exact absurd hk (by decide)

end VelaEdge.Runtime.ConfigDeploy
