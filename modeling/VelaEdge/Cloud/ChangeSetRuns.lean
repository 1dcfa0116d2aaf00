import VelaEdge.Cloud.VersionLifecycle

/-! Overlapping requests on one change set. A request takes a copy of the change set, waits for the
database and writes its copy back, whatever the change set has become since. An application goes on
to store a version and to publish it, with a wait before each. -/
namespace VelaEdge.Cloud.ChangeSetRuns

open Base Core VelaEdge.Runtime Registry OrderedMap VersionLifecycle
open VersionLifecycle (latestVersion)
open ControlPlane (Caller recordChangeSetValidation reviewChangeSet prepareApplication)

/-- An application that has passed its checks, with the latest version the product had then. -/
structure Application where
  changeSet : AgentChangeSet
  version : ProductVersion
  seenLatest : Option String
  caller : Caller

/-- The moment a version is published, and what its draft was stored over. -/
structure Publication where
  found : Option ProductVersion
  before : CloudControlStore
  after : CloudControlStore

inductive Note where
  | validated (valid : Bool)
  | confirmed (reviewed : AgentChangeSet)
  | rejected
  | published (publication : Publication)
  | applied
  | failed

inductive Task where
  /-- A copy is about to be written back, and the status the change set had when it was taken. -/
  | recording (seen : AgentChangeSetStatus) (next : AgentChangeSet) (notes : List Note)
  | starting (application : Application)
  | storing (application : Application)
  | publishing (application : Application) (found : Option ProductVersion) (plan : TransitionPlan)
  | deleting (productId version : String)

/-- The change set among the versions, with its history, the newest first. -/
structure State where
  versions : VersionLifecycle.State
  changeSet : Option AgentChangeSet
  tasks : OrderedMap Nat Task
  history : List Note

def State.initial : State := ⟨.initial,none,.empty,[]⟩

namespace State

def store (state : State) : CloudControlStore := state.versions.store

def withStore (state : State) (store : CloudControlStore) : State :=
  { state with versions := { state.versions with store := store } }

def status (state : State) : Option AgentChangeSetStatus :=
  state.changeSet.map AgentChangeSet.status

def become (state : State) (task : Nat) (next : Option Task) : State := match next with
  | some waiting => { state with tasks := state.tasks.put task waiting }
  | none => { state with tasks := state.tasks.delete task }

def start (state : State) (task : Nat) (request : Except ApiError Task) : State :=
  match state.tasks.get task, request with
  | none, .ok waiting => state.become task (some waiting)
  | _, _ => state

end State

inductive Event where
  /-- Versions are created, saved, published or rolled back, and whatever happens elsewhere. -/
  | versions (event : VersionLifecycle.Event)
  | deleteVersion (task : Nat) (productId version : String)
  | draft (changeSetId : String) (target : AgentChangeTarget) (baseRevision : String)
      (operations : List AgentChangeOperation) (risk : AgentRiskLevel)
  | validate (task : Nat)
  | confirm (task : Nat) (caller : Caller) (coApprover note : Option String)
  | reject (task : Nat) (caller : Caller) (note : String)
  | apply (task : Nat) (caller : Caller)
  | finish (task : Nat) (newId : String → Nat)
  | refuse (task : Nat) (reason : String)
  | drop (task : Nat)

/-! ## What each request does before it waits -/

variable (rules : ControlPlane.Rules) (store : CloudControlStore) (changeSet : AgentChangeSet)

def drafted (changeSetId : String) (target : AgentChangeTarget) (baseRevision : String)
    (operations : List AgentChangeOperation) (risk : AgentRiskLevel) :
    Except ApiError AgentChangeSet := do
  let changeSet ← (AgentChangeSet.new changeSetId target baseRevision operations risk).mapError
    agentChangeSetError
  recordChangeSetValidation rules store changeSet

def isValid : Bool :=
  changeSet.validation.any fun report => report.valid

def validateRequest : Except ApiError Task := do
  let next ← recordChangeSetValidation rules store changeSet
  pure (.recording changeSet.status next [.validated (isValid next)])

variable (caller : Caller)

def confirmRequest (coApprover note : Option String) : Except ApiError Task := do
  let (next,valid) ← reviewChangeSet rules store changeSet caller coApprover note
  pure (.recording changeSet.status next
    (if valid then [.confirmed next,.validated true] else [.validated false]))

def rejectRequest (note : String) : Except ApiError Task := do
  let next ← (changeSet.reject rules.ext caller.actor note caller.now).mapError agentChangeSetError
  pure (.recording changeSet.status next [.rejected])

/-- The change set is checked once more, and goes back when it is not valid any longer. -/
def applyRequest : Except ApiError Task := do
  match ← prepareApplication rules store changeSet with
  | (blocked,none) => pure (.recording changeSet.status blocked [.validated false])
  | (applying,some version) => pure (.starting ⟨applying,{ version with status := .draft },
      latestVersion store version.productId,caller⟩)

def deleteRequest (productId version : String) : Except ApiError Task := do
  ControlPlane.checkDeletable store productId version
  pure (.deleting productId version)

/-! ## How an application goes on -/

namespace Application

def slot (application : Application) (store : CloudControlStore) : Option ProductVersion :=
  store.productVersion application.version.productId application.version.version

def applied (application : Application) : Option Task :=
  (application.changeSet.markApplied (appliedResult rules.ext application.version
    application.changeSet.validation application.caller.actor application.caller.now)).toOption.map
      fun next => .recording application.changeSet.status next [.applied]

def failed (application : Application) (message : String) : Option Task :=
  (application.changeSet.markFailed (.object
    [("failedAt",.string (rules.ext.renderTime application.caller.now)),
      ("message",.string message)])).toOption.map
        fun next => .recording application.changeSet.status next [.failed]

/-- The draft is stored over what was found there, and is to be published next. -/
def publish (application : Application) (newId : String → Nat) (found : Option ProductVersion)
    (store : CloudControlStore) : Option Task :=
  match planTransition rules.checks store newId application.version.productId
      application.version.version false with
  | .error cause => application.failed rules cause.message
  | .ok (_,none) => application.applied rules
  | .ok (_,some plan) => some (.publishing application found plan)

end Application

def removeVersion (productId version : String) : CloudControlStore :=
  { store with productVersions := store.productVersions.remove (toLex (productId,version)) }

def goOn (state : State) (task : Nat) (newId : String → Nat) : Task → State
  | .recording _ next notes =>
    { state with changeSet := some next, history := notes ++ state.history }.become task none
  | .starting application =>
    { state with changeSet := some application.changeSet }.become task (some (.storing application))
  | .storing application =>
    let store := state.store.upsertProductVersion application.version
    (state.withStore store).become task
      (application.publish rules newId (application.slot state.store) store)
  | .publishing application found plan =>
    let store := plan.apply state.store
    let publication : Publication := ⟨found,state.store,store⟩
    { state.withStore store with
      history := .published publication :: state.history }.become task (application.applied rules)
  | .deleting productId version =>
    (state.withStore (removeVersion state.store productId version)).become task none

/-- Only an application writes down that the database has refused. -/
def giveUp (reason : String) : Task → Option Task
  | .storing application | .publishing application _ _ => application.failed rules reason
  | _ => none

def step (state : State) : Event → State
  | .versions event =>
    { state with versions := VersionLifecycle.step rules.toVersionRules state.versions event }
  | .deleteVersion task productId version =>
    state.start task (deleteRequest state.store productId version)
  | .draft changeSetId target baseRevision operations risk =>
    match state.changeSet, drafted rules state.store changeSetId target baseRevision operations
        risk with
    | none, .ok changeSet =>
      { state with
        changeSet := some changeSet
        history := .validated (isValid changeSet) :: state.history }
    | _, _ => state
  | .validate task =>
    state.start task (loaded state (validateRequest rules state.store))
  | .confirm task caller coApprover note =>
    state.start task (loaded state fun changeSet =>
      confirmRequest rules state.store changeSet caller coApprover note)
  | .reject task caller note =>
    state.start task (loaded state fun changeSet => rejectRequest rules changeSet caller note)
  | .apply task caller =>
    state.start task (loaded state fun changeSet =>
      applyRequest rules state.store changeSet caller)
  | .finish task newId =>
    match state.tasks.get task with
    | some waiting => goOn rules state task newId waiting
    | none => state
  | .refuse task reason => state.become task ((state.tasks.get task).bind (giveUp rules reason))
  | .drop task => state.become task none
where
  loaded (state : State) (request : AgentChangeSet → Except ApiError Task) :
      Except ApiError Task := do
    let changeSet ← context state.changeSet ⟨.notFound,"missing Agent ChangeSet"⟩
    request changeSet

def run (events : List Event) : State := events.foldl (step rules) .initial

/-! ## What the requests leave behind -/

def confirmedByHuman : Bool :=
  changeSet.confirmation.any AgentConfirmationEvidence.isHuman

/-- What no request changes in a change set. -/
def proposal : String × AgentChangeTarget × String × List AgentChangeOperation :=
  (changeSet.changeSetId,changeSet.target,changeSet.baseRevision,changeSet.operations)

def closed (status : AgentChangeSetStatus) : Bool := status ∈ [.applying,.applied,.rejected,.failed]

variable {rules}

section Requests

variable {store : CloudControlStore} {cs next : AgentChangeSet}

theorem recordValidation_ok {rep : ChangeSetReport} (h : cs.recordValidation rep = .ok next) :
    closed cs.status = false ∧ (next.status = .draft ∨ next.status = .awaitingConfirmation) ∧
      proposal next = proposal cs := by
  obtain ⟨_,ho,hn⟩ := bind_eq_ok.mp h
  cases hn
  refine ⟨Bool.eq_false_iff.mpr (bailIf_eq_ok.mp ho),?_,rfl⟩
  dsimp only
  split
  · exact .inr rfl
  · exact .inl rfl

theorem confirm_ok (h : cs.confirm evidence = .ok next) :
    next.status = .confirmed ∧ confirmedByHuman next = true ∧ proposal next = proposal cs := by
  simp only [AgentChangeSet.confirm,bind_eq_ok] at h
  obtain ⟨-,-,-,-,_,hh,-,-,hn⟩ := h
  cases hn
  refine ⟨rfl,?_,rfl⟩
  simpa [confirmedByHuman] using bailIf_eq_ok.mp hh

theorem review_ok {caller : Caller}
    (h : reviewChangeSet rules store cs caller coApprover note = .ok (next,valid)) :
    closed cs.status = false ∧ proposal next = proposal cs ∧
      if valid then next.status = .confirmed ∧ confirmedByHuman next = true
      else next.status = .draft ∨ next.status = .awaitingConfirmation := by
  obtain ⟨checked,hc,h⟩ := bind_eq_ok.mp h
  obtain ⟨ho,hs,hp⟩ := recordValidation_ok (mapError_eq_ok.mp hc)
  split at h
  · obtain ⟨confirmed,hn,h⟩ := bind_eq_ok.mp h
    cases h
    obtain ⟨hst,hh,hco⟩ := confirm_ok (mapError_eq_ok.mp hn)
    exact ⟨ho,hco.trans hp,hst,hh⟩
  · cases h
    exact ⟨ho,hp,hs⟩

theorem reject_ok (h : cs.reject ext rejectedBy note now = .ok next) :
    closed cs.status = false ∧ next.status = .rejected ∧ proposal next = proposal cs := by
  simp only [AgentChangeSet.reject,bind_eq_ok] at h
  obtain ⟨_,ho,-,-,-,-,hn⟩ := h
  cases hn
  exact ⟨Bool.eq_false_iff.mpr (bailIf_eq_ok.mp ho),rfl,rfl⟩

theorem startApply_ok (h : cs.startApply = .ok next) :
    next.status = .applying ∧ proposal next = proposal cs := by
  obtain ⟨_,-,hn⟩ := bind_eq_ok.mp h
  cases hn
  exact ⟨rfl,rfl⟩

theorem prepare_blocked (h : prepareApplication rules store cs = .ok (next,none)) :
    closed cs.status = false ∧ (next.status = .draft ∨ next.status = .awaitingConfirmation) ∧
      proposal next = proposal cs := by
  obtain ⟨_,-,h⟩ := bind_eq_ok.mp h
  dsimp only at h
  split at h
  · obtain ⟨blocked,hb,h⟩ := bind_eq_ok.mp h
    cases h
    exact recordValidation_ok (mapError_eq_ok.mp hb)
  · obtain ⟨_,-,h⟩ := bind_eq_ok.mp h
    obtain ⟨_,-,h⟩ := bind_eq_ok.mp h
    cases h

theorem prepare_started {ver : ProductVersion}
    (h : prepareApplication rules store cs = .ok (next,some ver)) :
    cs.status = .confirmed ∧
      (validateAgentChangeSetCandidate rules.toVersionRules store cs).valid = true ∧
      productVersionFromChangeSet rules.toVersionRules cs = .ok ver ∧
      cs.startApply = .ok next := by
  obtain ⟨_,hc,h⟩ := bind_eq_ok.mp h
  dsimp only at h
  split at h
  · obtain ⟨_,-,h⟩ := bind_eq_ok.mp h
    cases h
  · next hva =>
    obtain ⟨_,hv,h⟩ := bind_eq_ok.mp h
    obtain ⟨_,ha,h⟩ := bind_eq_ok.mp h
    cases h
    exact ⟨not_not.mp (bailIf_eq_ok.mp hc),by simpa using hva,mapError_eq_ok.mp hv,
      mapError_eq_ok.mp ha⟩

theorem finishApply_ok {status : AgentChangeSetStatus} (h : cs.finishApply status res = .ok next) :
    next.status = status ∧ proposal next = proposal cs := by
  obtain ⟨_,-,hn⟩ := bind_eq_ok.mp h
  cases hn
  exact ⟨rfl,rfl⟩

variable {rules : VersionRules} {ver : ProductVersion}

theorem productVersionFromChangeSet_draft (h : productVersionFromChangeSet rules cs = .ok ver) :
    ver.status = .draft := by
  unfold productVersionFromChangeSet at h
  split at h
  · simp only [bind_eq_ok] at h
    obtain ⟨_,-,_,-,_,-,_,-,_,-,_,-,_,-,_,-,_,-,_,-,hv⟩ := h
    cases hv
    rfl
  · cases h

theorem productVersionFromChangeSet_congr (h : proposal cs = proposal next) :
    productVersionFromChangeSet rules cs = productVersionFromChangeSet rules next := by
  simp only [proposal,Prod.mk.injEq] at h
  obtain ⟨-,ht,-,ho⟩ := h
  unfold productVersionFromChangeSet
  rw [ht,ho]

theorem base_of_valid (hv : (validateAgentChangeSetCandidate rules store cs).valid = true)
    (hve : productVersionFromChangeSet rules cs = .ok ver) :
    (latestVersion store ver.productId).getD "none" = cs.baseRevision := by
  unfold validateAgentChangeSetCandidate at hv
  rw [hve] at hv
  dsimp only at hv
  split at hv
  · simp [AgentValidationReport.new] at hv
  · next prod hp =>
    rw [latestVersion,hp,Option.bind_some]
    by_contra hbase
    have hs : cs.baseRevision ≠ prod.latestVersion.getD "none" := fun heq => hbase heq.symm
    simp [AgentValidationReport.new,productIssues,hs] at hv

end Requests

/-! ## The plan of a publication -/

def Reaches (plan : TransitionPlan) (version : ProductVersion) : Prop :=
  ∀ store, (plan.apply store).productVersion version.productId version.version =
    some { version with status := .published }

section Plans

variable {store : CloudControlStore} {newId : String → Nat} {ver target : ProductVersion}
  {plan : TransitionPlan}

@[simp] theorem get_upsertProductVersion (ver : ProductVersion) :
    (store.upsertProductVersion ver).productVersion ver.productId ver.version = some ver := by
  rw [CloudControlStore.productVersion,CloudControlStore.upsertProductVersion,get_insert]
  exact if_pos rfl

theorem planned_reaches
    (h : planTransition rules.checks (store.upsertProductVersion ver) newId ver.productId
      ver.version false = .ok (target,some plan)) : Reaches plan ver := by
  have hr : planRolling rules.toVersionRules
      (store.upsertProductVersion ver) newId ver.productId ver.version false =
        some ⟨plan,latestVersion (store.upsertProductVersion ver) ver.productId,
          ver.version,false⟩ := by
    rw [planRolling,h]
  obtain ⟨prod,stored,-,hs,-,-,hv,-⟩ := planRolling_eq_some hr
  rw [get_upsertProductVersion,Option.some.injEq] at hs
  rw [← hs] at hv
  intro other
  rw [CloudControlStore.productVersion,TransitionPlan.apply]
  dsimp only at hv ⊢
  rw [hv]
  exact other.productVersions.get_insertAll_last _ { ver with status := .published }

theorem planned_some (hd : ver.status = .draft)
    (h : planTransition rules.checks (store.upsertProductVersion ver) newId ver.productId
      ver.version false = .ok (target,none)) : False := by
  simp only [planTransition,bind_eq_ok,context_eq_ok,get_upsertProductVersion] at h
  obtain ⟨prod,-,stored,hs,h⟩ := h
  cases hs
  split at h
  · next hp =>
    rw [hd] at hp
    exact ProductVersionStatus.noConfusion hp.2
  · simp only [bind_eq_ok] at h
    obtain ⟨_,-,_,-,_,-,hpl⟩ := h
    cases hpl

end Plans

/-! ## One request at a time -/

def quiet (state : ControlPlane.State) (changeSetId : String) : State :=
  ⟨⟨state.core,.empty⟩,state.memory.agentChangeSets.get changeSetId,.empty,[]⟩

def finished (rules : ControlPlane.Rules) (newId : String → Nat) (state : State) : State :=
  (List.replicate 4 (.finish 0 newId)).foldl (step rules) state

def alone (rules : ControlPlane.Rules) (state : ControlPlane.State) (changeSetId : String)
    (newId : String → Nat) (request : Event) : State :=
  finished rules newId (step rules (quiet state changeSetId) request)

structure Agrees (reached : State) (after : ControlPlane.State) (changeSetId : String) : Prop where
  store : reached.store = after.core
  changeSet : reached.changeSet = after.memory.agentChangeSets.get changeSetId

section Alone

variable {state after : ControlPlane.State} {newId : String → Nat} {changeSetId : String}

@[simp] theorem get_saveChangeSet (state : ControlPlane.State) (cs : AgentChangeSet) :
    (state.saveChangeSet cs).memory.agentChangeSets.get cs.changeSetId = some cs := by
  rw [ControlPlane.State.saveChangeSet,get_insert,if_pos rfl]

@[simp] theorem quiet_store : (quiet state changeSetId).store = state.core := rfl

theorem start_quiet {req : Except ApiError Task} (h : req = .ok task) :
    (quiet state changeSetId).start 0 req =
      { quiet state changeSetId with tasks := empty.put 0 task } := by
  rw [h]
  rfl

variable {next : AgentChangeSet}

private theorem recording_alone {req : Event}
    (hr : step rules (quiet state next.changeSetId) req = { quiet state next.changeSetId with
        tasks := empty.put 0 (.recording seen next notes) }) :
    Agrees (alone rules state next.changeSetId newId req) (state.saveChangeSet next)
      next.changeSetId := by
  rw [alone,hr]
  constructor
  · simp [finished,step,goOn,State.become,State.store,quiet]
    rfl
  · rw [get_saveChangeSet]
    simp [finished,step,goOn,State.become]

theorem loaded_quiet (req : AgentChangeSet → Except ApiError Task)
    (h : ControlPlane.loadAgentChangeSet state changeSetId = .ok cs) :
    step.loaded (quiet state changeSetId) req = req cs := by
  rw [step.loaded]
  exact (congrArg (· >>= req) h).trans (ok_bind _ _)

theorem changeSetId_of_loaded (h : ControlPlane.loadAgentChangeSet state changeSetId = .ok cs) :
    cs.changeSetId = changeSetId :=
  key_of_get (context_eq_ok.mp h)

theorem recording_loaded_alone {req : AgentChangeSet → Except ApiError Task} {ev : Event}
    (hl : ControlPlane.loadAgentChangeSet state changeSetId = .ok cs)
    (hr : req cs = .ok (.recording seen next notes)) (hp : proposal next = proposal cs)
    (he : step rules (quiet state changeSetId) ev =
      (quiet state changeSetId).start 0 (step.loaded (quiet state changeSetId) req)) :
    Agrees (alone rules state changeSetId newId ev) (state.saveChangeSet next) changeSetId := by
  have hid : next.changeSetId = changeSetId :=
    (congrArg Prod.fst hp).trans (changeSetId_of_loaded hl)
  subst hid
  apply recording_alone
  rw [he,loaded_quiet req hl]
  exact start_quiet hr

theorem validate_alone
    (h : ControlPlane.validateAgentChangeSet rules state changeSetId = .ok after) :
    Agrees (alone rules state changeSetId newId (.validate 0)) after changeSetId := by
  obtain ⟨cs,hl,h⟩ := bind_eq_ok.mp h
  obtain ⟨next,hn,ha⟩ := bind_eq_ok.mp h
  cases ha
  obtain ⟨-,-,hp⟩ := recordValidation_ok (mapError_eq_ok.mp hn)
  have hr : validateRequest rules state.core cs =
      .ok (.recording cs.status next [.validated (isValid next)]) :=
    bind_eq_ok.mpr ⟨next,hn,rfl⟩
  exact recording_loaded_alone hl hr hp rfl

theorem confirm_alone
    (h : ControlPlane.confirmAgentChangeSet rules state changeSetId caller coApprover note =
      .ok after) :
    Agrees (alone rules state changeSetId newId (.confirm 0 caller coApprover note)) after
      changeSetId := by
  obtain ⟨cs,hl,h⟩ := bind_eq_ok.mp h
  obtain ⟨⟨next,valid⟩,hn,ha⟩ := bind_eq_ok.mp h
  cases ha
  have hr : confirmRequest rules state.core cs caller coApprover note = .ok _ :=
    bind_eq_ok.mpr ⟨(next,valid),hn,rfl⟩
  exact recording_loaded_alone hl hr (review_ok hn).2.1 rfl

theorem reject_alone
    (h : ControlPlane.rejectAgentChangeSet rules state changeSetId caller note = .ok after) :
    Agrees (alone rules state changeSetId newId (.reject 0 caller note)) after changeSetId := by
  obtain ⟨cs,hl,h⟩ := bind_eq_ok.mp h
  obtain ⟨next,hn,ha⟩ := bind_eq_ok.mp h
  cases ha
  obtain ⟨-,-,hp⟩ := reject_ok (mapError_eq_ok.mp hn)
  have hr : rejectRequest rules cs caller note =
      .ok (.recording cs.status next [.rejected]) := bind_eq_ok.mpr ⟨next,hn,rfl⟩
  exact recording_loaded_alone hl hr hp rfl

theorem plan_of_transition_error {ver : String}
    (h : ControlPlane.transitionProductVersion rules state newId prod ver rollback = .error cause) :
    planTransition rules.checks state.core newId prod ver rollback = .error cause := by
  unfold ControlPlane.transitionProductVersion at h
  cases hp : planTransition rules.checks state.core newId prod ver rollback with
  | error why =>
    rw [hp] at h
    cases h
    rfl
  | ok planned =>
    obtain ⟨target,plan⟩ := planned
    rw [hp] at h
    cases plan <;> cases h

variable (app : Application)

theorem failed_alone {failed : AgentChangeSet} {cause : ApiError}
    (hf : app.changeSet.markFailed (.object
      [("failedAt",.string (rules.ext.renderTime app.caller.now)),
        ("message",.string cause.message)]) = .ok failed)
    (hp : planTransition rules.checks (state.core.upsertProductVersion app.version) newId
      app.version.productId app.version.version false = .error cause) :
    Agrees (finished rules newId { quiet state failed.changeSetId with
        tasks := empty.put 0 (.starting app) })
      (((state.saveChangeSet app.changeSet).saveProductVersion
        app.version).saveChangeSet failed) failed.changeSetId := by
  have hm := toOption_eq_some.mpr hf
  constructor
  · simp [finished,step,goOn,State.become,State.store,State.withStore,
      Application.publish,Application.failed,quiet,hp,hm]
    rfl
  · rw [get_saveChangeSet]
    simp [finished,step,goOn,State.become,State.store,State.withStore,
      Application.publish,Application.failed,quiet,hp,hm]

private theorem published_alone {applied : AgentChangeSet} {plan : TransitionPlan}
    (ha : app.changeSet.markApplied (appliedResult rules.ext app.version
      app.changeSet.validation app.caller.actor app.caller.now) = .ok applied)
    (hp : planTransition rules.checks (state.core.upsertProductVersion app.version) newId
      app.version.productId app.version.version false = .ok (target,some plan)) :
    Agrees (finished rules newId { quiet state applied.changeSetId with
        tasks := empty.put 0 (.starting app) })
      ((((state.saveChangeSet app.changeSet).saveProductVersion
        app.version).withCore (plan.apply (state.core.upsertProductVersion
          app.version))).saveChangeSet applied) applied.changeSetId := by
  have hm := toOption_eq_some.mpr ha
  constructor
  · simp [finished,step,goOn,State.become,State.store,State.withStore,
      Application.publish,Application.applied,quiet,hp,hm]
    rfl
  · rw [get_saveChangeSet]
    simp [finished,step,goOn,State.become,State.store,State.withStore,
      Application.publish,Application.applied,quiet,hp,hm]

/-- An application that goes through without a break stores the version, publishes it and is marked
as applied, or as failed when the publication is refused. -/
theorem apply_alone
    (h : ControlPlane.applyAgentChangeSet rules state newId changeSetId caller = .ok after) :
    Agrees (alone rules state changeSetId newId (.apply 0 caller)) after changeSetId := by
  obtain ⟨cs,hl,h⟩ := bind_eq_ok.mp h
  obtain ⟨⟨next,found⟩,hn,h⟩ := bind_eq_ok.mp h
  cases found with
  | none =>
    cases h
    have hr : applyRequest rules state.core cs caller = .ok _ :=
      bind_eq_ok.mpr ⟨(next,none),hn,rfl⟩
    exact recording_loaded_alone hl hr (prepare_blocked hn).2.2 rfl
  | some ver =>
    obtain ⟨-,-,hv,hap⟩ := prepare_started hn
    have hd := productVersionFromChangeSet_draft hv
    have hr : applyRequest rules state.core cs caller =
        .ok (.starting ⟨next,ver,latestVersion state.core ver.productId,caller⟩) := by
      refine bind_eq_ok.mpr ⟨(next,some ver),hn,?_⟩
      rw [← hd]
      rfl
    have hid : next.changeSetId = changeSetId :=
      (congrArg Prod.fst (startApply_ok hap).2).trans (changeSetId_of_loaded hl)
    rw [alone,step,loaded_quiet _ hl,quiet_store,start_quiet hr]
    dsimp only at h
    split at h
    · next cause hca =>
      obtain ⟨failed,hf,ha⟩ := bind_eq_ok.mp h
      have hm := mapError_eq_ok.mp hf
      cases ha
      have hs : failed.changeSetId = next.changeSetId := congrArg Prod.fst (finishApply_ok hm).2
      rw [← hid,← hs]
      exact failed_alone ⟨next,ver,latestVersion state.core ver.productId,caller⟩
        hm (plan_of_transition_error hca)
    · next published hp =>
      obtain ⟨⟨target,plan⟩,hpl,hp⟩ := bind_eq_ok.mp hp
      obtain ⟨applied,had,ha⟩ := bind_eq_ok.mp h
      have hm := mapError_eq_ok.mp had
      have hs : applied.changeSetId = next.changeSetId :=
        congrArg Prod.fst (finishApply_ok hm).2
      rw [← hid,← hs]
      cases plan with
      | none => exact (planned_some hd hpl).elim
      | some plan =>
        cases hp
        cases ha
        have hag := published_alone ⟨next,ver,latestVersion state.core ver.productId,caller⟩ hm
          (show planTransition rules.checks (state.core.upsertProductVersion ver) newId
            ver.productId ver.version false = .ok (target,some plan) from hpl)
        exact ⟨hag.store,hag.changeSet⟩

end Alone

end VelaEdge.Cloud.ChangeSetRuns
