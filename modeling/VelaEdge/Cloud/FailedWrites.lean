import VelaEdge.Cloud.EdgeRequests

/-! What is left in memory of a request whose answer is a persistence error. -/
namespace VelaEdge.Cloud.EdgeRequests

open Base Core ControlPlane List Effect Registry ReleaseHistory

structure Visible where
  edgeNodes : Registry EdgeNode.edgeId
  configPackages : Registry packageKey
  edgeCredentials : Registry EdgeAccessCredential.credentialId
  mqttUplinks : OrderedMap String MqttUplinkConfig

def ApiStore.visible (store : ApiStore) : Visible :=
  ⟨store.edgeNodes,store.configPackages,store.edgeCredentials,store.mqttUplinks⟩

/-- A request that is answered with a persistence error has changed nothing that can be seen. -/
def LeavesStore (checks : PackageChecks) (sqlite : Option Database) (store : ApiStore)
    (request : EdgeRequest) : Prop :=
  ∀ failure, ((handle checks sqlite request).run store).result = .error failure →
    failure.status = .internalServerError →
    ((handle checks sqlite request).run store).state.visible = store.visible

/-- What a write would put into the store is there already. -/
def MemoryWrite.Present (store : ApiStore) : MemoryWrite → Prop
  | .registerEdge node => store.edgeNodes.get node.edgeId = some node
  | .replaceEdgeCredential credential =>
    store.edgeCredentials.get credential.credentialId = some credential ∧
      ∀ other ∈ store.edgeCredentials.values, other.edgeId = credential.edgeId →
        other.credentialId ≠ credential.credentialId → other.active = false
  | .upsertConfigPackage package => store.configPackages.get (packageKey package) = some package
  | .upsertMqttUplink edgeId uplink => store.mqttUplinks.get edgeId = some uplink
  | .removeEdgeNode edgeId => store.edgeNodes.get edgeId = none

/-! ## The plans of the requests -/

inductive Shape : Plan → Prop where
  | edit (package : EdgeConfigPackage) (releaseId : Nat) :
      Shape ⟨[.upsertConfigPackage package], [.configPackage releaseId package]⟩
  | uplink (package : EdgeConfigPackage) (releaseId : Nat) (edgeId : String)
      (uplink : MqttUplinkConfig) :
      Shape ⟨[.upsertConfigPackage package, .upsertMqttUplink edgeId uplink],
        [.configPackage releaseId package, .mqttUplink edgeId uplink]⟩
  | create (node : EdgeNode) (credential : EdgeAccessCredential) (package : EdgeConfigPackage)
      (releaseId : Nat) :
      Shape ⟨[.registerEdge node, .replaceEdgeCredential credential, .upsertConfigPackage package],
        [.edgeNode node, .configPackage releaseId package, .edgeCredential credential]⟩
  | bind (node : EdgeNode) (package : EdgeConfigPackage) (releaseId : Nat) :
      Shape ⟨[.registerEdge node, .upsertConfigPackage package],
        [.edgeNode node, .configPackage releaseId package]⟩
  | token (credential : EdgeAccessCredential) :
      Shape ⟨[.replaceEdgeCredential credential], [.edgeCredential credential]⟩
  | delete (edgeId : String) : Shape ⟨[.removeEdgeNode edgeId], [.edgeDeletion edgeId]⟩

variable {plan : Plan}

private theorem shape_of_planEdit {store : ApiStore} {change : PackageEdit}
    (h : planEdit store edge change rid = .ok plan) : Shape plan := by
  unfold planEdit at h
  obtain ⟨pkg,-,h⟩ := bind_eq_ok.mp h
  cases h
  exact .edit pkg rid

theorem shape_of_plan {store : ApiStore} {req : EdgeRequest} (h : req.plan store = .ok plan) :
    Shape plan := by
  cases req with
  | createPointMapping edge req rid => exact shape_of_planEdit h
  | savePointMapping edge pid req rid =>
    simp only [EdgeRequest.plan,savePointMappingForEdgeId] at h
    split at h
    · obtain ⟨access,-,h⟩ := bind_eq_ok.mp h
      exact shape_of_planEdit h
    · obtain ⟨access,-,h⟩ := bind_eq_ok.mp h
      exact shape_of_planEdit h
  | deletePointMapping edge pid rid => exact shape_of_planEdit h
  | saveMqttUplink edge req rid =>
    simp only [EdgeRequest.plan,saveEdgeMqttUplink] at h
    obtain ⟨uplink,-,h⟩ := bind_eq_ok.mp h
    obtain ⟨pkg,-,h⟩ := bind_eq_ok.mp h
    cases h
    exact .uplink pkg rid edge uplink
  | createEdge req token rid =>
    obtain ⟨⟨node,pkg⟩,-,h⟩ := bind_eq_ok.mp h
    cases h
    exact .create _ _ pkg rid
  | bindProduct edge req rid =>
    obtain ⟨⟨bound,pkg⟩,-,h⟩ := bind_eq_ok.mp h
    cases h
    exact .bind bound pkg rid
  | generateAccessToken edge token =>
    obtain ⟨_,-,h⟩ := bind_eq_ok.mp h
    cases h
    exact .token _
  | deleteEdge edge =>
    obtain ⟨_,-,h⟩ := bind_eq_ok.mp h
    cases h
    exact .delete edge

variable {step : PersistStep}

/-! ## The steps -/

section Steps

variable {checks : PackageChecks} {sqlite : Option Database} {store : ApiStore}

def PersistStep.Stored (store : ApiStore) : PersistStep → Prop
  | .configPackage _ package => store.configPackages.get (packageKey package) = some package
  | _ => True

private theorem planRevision_configPackages {core : CloudControlStore}
    (h : core.configPackages.get (packageKey pkg) = some pkg) :
    ((planRevision checks core rid pkg).apply core).configPackages = core.configPackages := by
  have hs : core.configPackages.insert pkg = core.configPackages :=
    insert_of_mem (mem_values_of_get h)
  unfold planRevision
  split
  · exact hs
  · exact hs

@[simp] theorem planRevision_edgeNodes (core : CloudControlStore) (rid : Nat)
    (pkg : EdgeConfigPackage) :
    ((planRevision checks core rid pkg).apply core).edgeNodes = core.edgeNodes := by
  unfold planRevision
  split <;> rfl

theorem finish_visible (h : step.Stored store) :
    (step.finish checks store).visible = store.visible := by
  cases step with
  | configPackage rid pkg =>
    simp only [PersistStep.finish,ApiStore.visible]
    rw [planRevision_edgeNodes]
    congr 1
    exact planRevision_configPackages h
  | edgeNode node => rfl
  | edgeCredential cred => rfl
  | mqttUplink edge uplink => rfl
  | edgeDeletion edge => rfl

theorem Stored.of_visible {other : ApiStore} (hv : other.visible = store.visible)
    (h : step.Stored store) : step.Stored other := by
  have hp : other.configPackages = store.configPackages := congrArg Visible.configPackages hv
  cases step with
  | configPackage rid pkg =>
    unfold PersistStep.Stored at h ⊢
    rw [hp]
    exact h
  | edgeNode node => trivial
  | edgeCredential cred => trivial
  | mqttUplink edge uplink => trivial
  | edgeDeletion edge => trivial

def Accepted (checks : PackageChecks) (sqlite : Option Database) :
    ApiStore → List PersistStep → Prop :=
  Along (fun store step => step.finish checks store) fun store step =>
    ∀ database ∈ sqlite, database (step.write checks store) = .ok ()

theorem run_accepted (h : ∀ database ∈ sqlite, database (step.write checks store) = .ok ()) :
    ∃ log, (step.run checks sqlite).run store = ⟨step.finish checks store,log,.ok ()⟩ := by
  unfold PersistStep.run
  cases sqlite with
  | none => exact ⟨[],rfl⟩
  | some database =>
    have hw := h database rfl
    exact ⟨[step.write checks store],by simp only [hw]⟩

theorem run_refused (h : ¬ ∀ database ∈ sqlite, database (step.write checks store) = .ok ()) :
    ∃ cause, (step.run checks sqlite).run store = ⟨store,[],.error (persistenceError cause)⟩ := by
  unfold PersistStep.run
  cases sqlite with
  | none => exact absurd (fun database hm => by cases hm) h
  | some database =>
    cases hw : database (step.write checks store) with
    | ok _ =>
      refine absurd (fun other ho => ?_) h
      cases ho
      exact hw
    | error cause => exact ⟨cause,by simp only [hw]⟩

variable (checks sqlite) in
/-- The steps together: they show nothing new, and they fail exactly when the database refuses
one of them. -/
theorem runSteps_result (steps : List PersistStep) (h : ∀ step ∈ steps, step.Stored store) :
    ((runSteps checks sqlite steps).run store).state.visible = store.visible ∧
      ((Accepted checks sqlite store steps ∧
          ((runSteps checks sqlite steps).run store).result = .ok ()) ∨
        (¬ Accepted checks sqlite store steps ∧
          ∃ cause, ((runSteps checks sqlite steps).run store).result =
            .error (persistenceError cause))) := by
  induction steps generalizing store with
  | nil => exact ⟨rfl,.inl ⟨trivial,rfl⟩⟩
  | cons step steps ih =>
    have hst := h step mem_cons_self
    by_cases ha : ∀ database ∈ sqlite, database (step.write checks store) = .ok ()
    · obtain ⟨log,hru⟩ := run_accepted ha
      have hv : (step.finish checks store).visible = store.visible := finish_visible hst
      have hre : ∀ other ∈ steps, other.Stored (step.finish checks store) := fun other ho =>
        Stored.of_visible hv (h other (mem_cons_of_mem _ ho))
      have hc : Accepted checks sqlite store (step :: steps) ↔
          Accepted checks sqlite (step.finish checks store) steps := and_iff_right ha
      obtain ⟨hs,hr⟩ := ih hre
      unfold runSteps
      rw [run_bind_ok _ hru,hc]
      exact ⟨hs.trans hv,hr⟩
    · obtain ⟨cause,hru⟩ := run_refused ha
      unfold runSteps
      rw [run_bind_error _ hru]
      exact ⟨rfl,.inr ⟨fun hac => ha hac.1,cause,rfl⟩⟩

theorem runSteps_accepted (h : Accepted checks sqlite store steps) :
    ((runSteps checks sqlite steps).run store).state =
      steps.foldl (PersistStep.finish checks) store := by
  induction steps generalizing store with
  | nil => rfl
  | cons step steps ih =>
    obtain ⟨log,hr⟩ := run_accepted h.1
    unfold runSteps
    rw [run_bind_ok _ hr]
    exact ih h.2

end Steps

/-! ## The writes -/

@[simp] theorem revoke_eq_self_iff (edge : String) (cred : EdgeAccessCredential) :
    cred.revoke edge = cred ↔
      (cred.edgeId = edge → cred.active = false) := by
  unfold EdgeAccessCredential.revoke
  split
  · next he =>
    constructor
    · intro h _
      exact (congrArg EdgeAccessCredential.active h).symm
    · intro h
      rw [← h he]
  · next he => simp only [he,false_implies]

@[simp] theorem replaced_eq_self_iff (store : MemoryStore) (cred : EdgeAccessCredential) :
    (store.replaceEdgeCredential cred).edgeCredentials = store.edgeCredentials ↔
      store.edgeCredentials.get cred.credentialId = some cred ∧
        ∀ other ∈ store.edgeCredentials.values, other.edgeId = cred.edgeId →
          other.credentialId ≠ cred.credentialId → other.active = false := by
  have hg : ∀ name, (store.replaceEdgeCredential cred).edgeCredentials.get name =
      if name = cred.credentialId then some cred
      else (store.edgeCredentials.get name).map (.revoke cred.edgeId) := by
    intro name
    unfold MemoryStore.replaceEdgeCredential
    rw [get_insert,get_adjust]
  constructor
  · intro h
    rw [h] at hg
    refine ⟨(hg _).trans (if_pos rfl),fun other hm he hne => ?_⟩
    have ho := hg other.credentialId
    rw [if_neg hne,mem_values.mp hm] at ho
    exact (revoke_eq_self_iff _ _).mp (Option.some.inj ho).symm he
  · intro h
    apply Registry.ext_get
    intro name
    rw [hg]
    split
    · next hn => rw [hn,h.1]
    · next hn =>
      cases hf : store.edgeCredentials.get name with
      | none => rfl
      | some other =>
        have hk : other.credentialId = name := key_of_get hf
        refine congrArg some ((revoke_eq_self_iff _ _).mpr fun he => ?_)
        exact h.2 other (mem_values_of_get hf) he (hk ▸ hn)

@[simp] theorem removed_visible_iff (store : ApiStore) (edge : String) :
    (MemoryWrite.apply store (.removeEdgeNode edge)).visible = store.visible ↔
      store.edgeNodes.get edge = none := by
  cases hn : store.edgeNodes.get edge with
  | none => simp only [MemoryWrite.apply,hn]
  | some node =>
    simp only [MemoryWrite.apply,hn,reduceCtorEq,iff_false]
    intro h
    have he : (store.removeEdgeNode edge).edgeNodes = store.edgeNodes :=
      congrArg Visible.edgeNodes h
    simp only [MemoryStore.removeEdgeNode,hn] at he
    have hg := store.edgeNodes.get_remove edge edge
    rw [he,if_pos rfl,hn] at hg
    cases hg

theorem started_visible_iff (h : Shape plan) (store : ApiStore) :
    (plan.started store).visible = store.visible ↔ ∀ write ∈ plan.memory, write.Present store := by
  cases h with
  | delete edge =>
    simp only [Plan.started,foldl,removed_visible_iff,MemoryWrite.Present,mem_singleton,forall_eq]
  | edit pkg rid =>
    simp only [Plan.started,foldl,MemoryWrite.apply,ApiStore.visible,Visible.mk.injEq,
      insert_eq_self_iff,MemoryWrite.Present,mem_singleton,forall_eq,true_and,
      and_true]
  | token cred =>
    simp only [Plan.started,foldl,MemoryWrite.apply,ApiStore.visible,Visible.mk.injEq,
      MemoryWrite.Present,mem_singleton,forall_eq,← replaced_eq_self_iff]
    exact ⟨fun h => h.2.2.1,fun h => ⟨rfl,rfl,h,trivial⟩⟩
  | uplink pkg rid edge uplink =>
    simp only [Plan.started,foldl,MemoryWrite.apply,ApiStore.visible,Visible.mk.injEq,
      insert_eq_self_iff,OrderedMap.put_eq_self_iff,forall_mem_cons,
      MemoryWrite.Present,not_mem_nil,false_implies,implies_true,true_and,and_true]
  | bind node pkg rid =>
    simp only [Plan.started,foldl,MemoryWrite.apply,ApiStore.visible,Visible.mk.injEq,
      insert_eq_self_iff,forall_mem_cons,MemoryWrite.Present,not_mem_nil,
      false_implies,implies_true,and_true]
  | create node cred pkg rid =>
    have hs : (Plan.started ⟨[.registerEdge node,.replaceEdgeCredential cred,
        .upsertConfigPackage pkg],[.edgeNode node,.configPackage rid pkg,
        .edgeCredential cred]⟩ store).visible =
        ⟨store.edgeNodes.insert node,store.configPackages.insert pkg,
          (store.replaceEdgeCredential cred).edgeCredentials,store.mqttUplinks⟩ := rfl
    rw [hs]
    simp only [ApiStore.visible,Visible.mk.injEq,insert_eq_self_iff,
      forall_mem_cons,MemoryWrite.Present,not_mem_nil,false_implies,implies_true,
      and_true,← replaced_eq_self_iff]
    exact and_congr_right fun _ => and_comm

theorem stored_of_shape (h : Shape plan) (store : ApiStore) :
    ∀ step ∈ plan.steps, step.Stored (plan.started store) := by
  have hi : ∀ pkg : EdgeConfigPackage,
      (store.configPackages.insert pkg).get (packageKey pkg) = some pkg := by
    intro pkg
    rw [get_insert,if_pos rfl]
  cases h with
  | delete edge => simp only [mem_singleton,forall_eq,PersistStep.Stored]
  | token cred => simp only [mem_singleton,forall_eq,PersistStep.Stored]
  | edit pkg rid =>
    simp only [mem_singleton,forall_eq,PersistStep.Stored]
    exact hi pkg
  | uplink pkg rid edge uplink =>
    simp only [forall_mem_cons,not_mem_nil,false_implies,implies_true,and_true,PersistStep.Stored]
    exact hi pkg
  | bind node pkg rid =>
    simp only [forall_mem_cons,not_mem_nil,false_implies,implies_true,and_true,
      true_and,PersistStep.Stored]
    exact hi pkg
  | create node cred pkg rid =>
    simp only [forall_mem_cons,not_mem_nil,false_implies,implies_true,and_true,
      true_and,PersistStep.Stored]
    exact hi pkg

/-! ## A whole request -/

section Requests

variable (checks : PackageChecks) (sqlite : Option Database) (store : ApiStore)
  (request : EdgeRequest)

/-- If a request is to be served at all, either the database takes all of it or all that it writes
is in the store already. -/
def Spared : Prop := ∀ plan, request.plan store = .ok plan →
    Accepted checks sqlite (plan.started store) plan.steps ∨
      ∀ write ∈ plan.memory, write.Present store

variable {checks sqlite store request}

theorem handle_refused {failure : ApiError} (h : request.plan store = .error failure) :
    (handle checks sqlite request).run store = ⟨store,[],.error failure⟩ :=
  run_bind_atomic_error _ (by rw [h]; rfl)

section

variable (h : request.plan store = .ok plan)
include h

theorem handle_planned : (handle checks sqlite request).run store =
      (runSteps checks sqlite plan.steps).run (plan.started store) :=
  run_bind_atomic_ok _ (by rw [h]; rfl)

theorem handle_served {rules : Rules}
    (ha : Accepted rules.checks sqlite (plan.started store) plan.steps)
    (database : SqliteCloudStore) :
    (request.serve rules ⟨store.toMemoryStore,database⟩).map State.memory =
      .ok ((handle rules.checks sqlite request).run store).state.toMemoryStore := by
  rw [← plan_serves,h,handle_planned h,runSteps_accepted ha]
  rfl

private theorem leavesStore_planned : LeavesStore checks sqlite store request ↔
      Accepted checks sqlite (plan.started store) plan.steps ∨
        ∀ write ∈ plan.memory, write.Present store := by
  have hs := shape_of_plan h
  obtain ⟨hv,hre⟩ := runSteps_result checks sqlite plan.steps (stored_of_shape hs store)
  unfold LeavesStore
  rw [handle_planned h,hv,started_visible_iff hs]
  cases hre with
  | inl ha =>
    rw [ha.2]
    simp only [ha.1,reduceCtorEq,false_implies,implies_true,true_or]
  | inr hr =>
    obtain ⟨hr,cause,hc⟩ := hr
    rw [hc]
    simp only [hr,false_or]
    constructor
    · intro hl
      exact hl (persistenceError cause) rfl rfl
    · intro hp _ _ _
      exact hp

end

/-- A request that ends in a persistence error leaves the store as it was exactly when there was
nothing to write; in every other case the refused change stays in memory. -/
theorem leavesStore_iff_spared (checks : PackageChecks) (sqlite : Option Database)
    (store : ApiStore) (request : EdgeRequest) :
    LeavesStore checks sqlite store request ↔ Spared checks sqlite store request := by
  cases hp : request.plan store with
  | error failure =>
    unfold LeavesStore Spared
    rw [handle_refused hp,hp]
    simp only [reduceCtorEq,false_implies,implies_true]
  | ok plan =>
    rw [leavesStore_planned hp]
    unfold Spared
    simp only [hp,Except.ok.injEq,forall_eq']

end Requests

def savedStore : ApiStore where
  toMemoryStore := { MemoryStore.empty with
    configPackages := empty.insert (.new "edge-1" "cfg-001") }
  mqttUplinks := .empty

def fullDisk : Database
  | .configRevision _ => .error "database or disk is full"
  | _ => .ok ()

def addDraftPoint : EdgeRequest := .createPointMapping "edge-1" none 7

/-- The new point mapping is answered with the database's error, and is in the latest package of
the edge all the same. -/
theorem refused_mapping_stays :
    ((handle pumpChecks (some fullDisk) addDraftPoint).run savedStore).result =
        .error (persistenceError "database or disk is full") ∧
      (savedStore.core.latestConfigPackageForEdge "edge-1").map (fun package =>
        (package.version,package.pointMappings.map TelemetryPointMapping.pointId)) =
          some ("cfg-001",[]) ∧
      (((handle pumpChecks (some fullDisk) addDraftPoint).run
        savedStore).state.core.latestConfigPackageForEdge "edge-1").map (fun package =>
          (package.version,package.pointMappings.map TelemetryPointMapping.pointId)) =
            some ("cfg-002",["point-draft-1"]) ∧
      ¬ LeavesStore pumpChecks (some fullDisk) savedStore addDraftPoint := by
  have hr : ((handle pumpChecks (some fullDisk) addDraftPoint).run
      savedStore).result = .error (persistenceError "database or disk is full") := rfl
  have ha : (((handle pumpChecks (some fullDisk) addDraftPoint).run
        savedStore).state.core.latestConfigPackageForEdge "edge-1").map (fun package =>
          (package.version,package.pointMappings.map TelemetryPointMapping.pointId)) =
            some ("cfg-002",["point-draft-1"]) := by
    decide +kernel
  refine ⟨hr,by decide +kernel,ha,?_⟩
  intro h
  have hs := congrArg (fun visible : Visible => visible.configPackages.values.length)
    (h _ hr rfl)
  revert hs
  decide +kernel

end VelaEdge.Cloud.EdgeRequests
