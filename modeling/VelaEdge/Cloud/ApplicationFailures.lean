import VelaEdge.Base.Effect
import VelaEdge.Cloud.ChangeSetReview

/-! An application of a change set when the database refuses one of its writes. Each write goes to
the database first and to memory when the database has taken it; what was written before stays. -/
namespace VelaEdge.Cloud.ApplicationFailures

open Base Core VelaEdge.Runtime Effect List
open ControlPlane (State Rules Caller loadAgentChangeSet prepareApplication)
open VersionLifecycle (latestVersion)

/-- The answers of the database to the writes of an application: why it refuses, if it does. -/
structure Answers where
  applying : Option String
  version : Option String
  transition : Option String
  outcome : Option String

abbrev Handler := Effect State Empty ApiError

def current : Handler State := atomic fun state => .ok (state,state)

def persisted (answer : Option String) (write : State → State) : Handler Unit := atomic fun state =>
    match answer with
    | some reason => .error (persistenceError reason)
    | none => .ok (write state,())

variable (rules : Rules) (answers : Answers)

def transitionProductVersion (newId : String → Nat) (productId targetVersion : String)
    (rollback : Bool) : Handler ProductVersion := do
  let state ← current
  let planned ← lift (planTransition rules.checks state.core newId productId targetVersion rollback)
  match planned with
  | (target,none) => pure target
  | (target,some plan) => do
      -- one transaction
      persisted answers.transition fun state => {
        memory := (state.withCore (plan.apply state.core)).memory
        sqlite := state.sqlite.transitionProductVersion plan }
      pure target

def failAgentChangeSet (changeSet : AgentChangeSet) (caller : Caller) (message : String) :
    Handler AgentChangeSet := do
  let failed ← lift ((changeSet.markFailed (.object
    [("failedAt",.string (rules.ext.renderTime caller.now)),
      ("message",.string message)])).mapError agentChangeSetError)
  persisted answers.outcome fun state => state.saveChangeSet failed
  fail ⟨.internalServerError,"ChangeSet apply failed"⟩

/-- What follows once the change set was found valid. -/
def started (newId : String → Nat) (caller : Caller) (applying : AgentChangeSet)
    (version : ProductVersion) : Handler AgentChangeSet := do
  persisted answers.applying fun state => state.saveChangeSet applying
  match answers.version with
  | some reason => failAgentChangeSet rules answers applying caller reason
  | none => do
      persisted none fun state => state.saveProductVersion version
      let transition ← attempt (transitionProductVersion rules answers newId version.productId
        version.version false)
      match transition with
      | .error cause => do
          let _ ← attempt (failAgentChangeSet rules answers applying caller cause.message)
          fail cause
      | .ok _ => do
          let applied ← lift ((applying.markApplied (appliedResult rules.ext version
            applying.validation caller.actor caller.now)).mapError agentChangeSetError)
          persisted answers.outcome fun state => state.saveChangeSet applied
          pure applied

def applyAgentChangeSet (newId : String → Nat) (changeSetId : String) (caller : Caller) :
    Handler AgentChangeSet := do
  let state ← current
  let changeSet ← lift (loadAgentChangeSet state changeSetId)
  let prepared ← lift (prepareApplication rules state.core changeSet)
  match prepared with
  | (blocked,none) => do
      persisted answers.outcome fun state => state.saveChangeSet blocked
      fail ⟨.conflict,"ChangeSet became stale or invalid; review and confirm it again"⟩
  | (applying,some version) => started rules answers newId caller applying version

/-! ## What is asked of an application that fails -/

structure Holdings where
  versions : List ProductVersion
  latest : Option String
  packages : List EdgeConfigPackage
  releases : List ReleaseRecord
deriving DecidableEq

def holdings (nodes : List EdgeNode) (product : Option Product) (versions : List ProductVersion)
    (packages : List EdgeConfigPackage) (releases : List ReleaseRecord) (productId : String) :
    Holdings :=
  let edgeIds := (nodes.filter fun node => node.productId = some productId).map EdgeNode.edgeId
  { versions := versions.filter fun version => version.productId = productId
    latest := product.bind Product.latestVersion
    packages := packages.filter fun package => package.edgeId ∈ edgeIds
    releases := releases.filter fun release => release.edgeId ∈ edgeIds }

def memoryHoldings (state : State) (productId : String) : Holdings :=
  holdings state.core.edgeNodes.values (state.core.product productId)
    state.core.productVersions.values state.core.configPackages.values state.core.releases.values
    productId

def documents {K C V : Type} [LinearOrder K] (table : OrderedMap K (Row C V)) : List V :=
  table.entries.map fun entry => entry.2.document

def databaseHoldings (state : State) (productId : String) : Holdings :=
  holdings (documents state.sqlite.edgeNodes)
    ((state.sqlite.products.get productId).map Row.document)
    (documents state.sqlite.productVersions) (documents state.sqlite.configPackages)
    (documents state.sqlite.releases) productId

def memoryStatus (state : State) (changeSetId : String) : Option AgentChangeSetStatus :=
  (state.memory.agentChangeSets.get changeSetId).map AgentChangeSet.status

def databaseStatus (state : State) (changeSetId : String) : Option AgentChangeSetStatus :=
  (state.sqlite.agentChangeSets.get changeSetId).map fun row => row.document.status

/-- The change set passes the checks that come before an application is started. -/
def passesChecks (state : State) (changeSetId : String) : Bool :=
  (state.memory.agentChangeSets.get changeSetId).any fun changeSet =>
    changeSet.status = .confirmed &&
      (validateAgentChangeSetCandidate rules.toVersionRules state.core changeSet).valid

/-- The product of the change set is as it was, in memory and in the database. -/
def ProductUnchanged (before after : State) (changeSetId : String) : Prop :=
  ∀ productId, (before.memory.agentChangeSets.get changeSetId).bind
      (fun changeSet => changeSet.target.productId) = some productId →
    memoryHoldings after productId = memoryHoldings before productId ∧
      databaseHoldings after productId = databaseHoldings before productId

def EndsFailed (before after : State) (changeSetId : String) : Prop :=
  passesChecks rules before changeSetId = true → answers.applying = none →
    memoryStatus after changeSetId = some .failed ∧ databaseStatus after changeSetId = some .failed

def LeavesNoTrace (state : State) (newId : String → Nat) (changeSetId : String)
    (caller : Caller) : Prop :=
  let after := ((applyAgentChangeSet rules answers newId changeSetId caller).run state).state
  memoryStatus after changeSetId = some .applied ∨
    ProductUnchanged state after changeSetId ∧ EndsFailed rules answers state after changeSetId

/-! ## How far an application gets -/

variable {rules answers}

section Runs

variable {α : Type} {state : State} {newId : String → Nat} {changeSetId : String} {caller : Caller}
  {changeSet : AgentChangeSet} {version : ProductVersion}

@[simp] theorem run_current_bind (next : State → Handler α) (state : State) :
    (current >>= next).run state = (next state).run state := rfl

@[simp] theorem run_taken_bind (write : State → State) (next : Unit → Handler α) (state : State) :
    (persisted none write >>= next).run state = (next ()).run (write state) := rfl

@[simp] theorem run_refused_bind (why : String) (write : State → State) (next : Unit → Handler α)
    (state : State) :
    (persisted (some why) write >>= next).run state =
      ⟨state,[],.error (persistenceError why)⟩ := rfl

def applyingOf (changeSet : AgentChangeSet) : AgentChangeSet :=
  { changeSet with status := .applying }

theorem run_started (hl : loadAgentChangeSet state changeSetId = .ok changeSet)
    (hc : changeSet.status = .confirmed)
    (hva : (validateAgentChangeSetCandidate rules.toVersionRules state.core changeSet).valid =
      true) (hv : productVersionFromChangeSet rules.toVersionRules changeSet = .ok version) :
    (applyAgentChangeSet rules answers newId changeSetId caller).run state =
      (started rules answers newId caller (applyingOf changeSet) version).run state := by
  have hp : prepareApplication rules state.core changeSet =
      .ok (applyingOf changeSet,some version) := by
    simp only [prepareApplication,hc,hva,hv,AgentChangeSet.startApply]
    rfl
  unfold applyAgentChangeSet
  rw [run_current_bind,hl,run_bind_lift_ok,hp]
  rfl

end Runs

/-! ## A valid change set can be published -/

section Publishable

variable {rules : VersionRules} {store : CloudControlStore} {cs : AgentChangeSet}
  {version : ProductVersion}

/-- What the checks of a valid change set have found out about its version. -/
structure Publishable (rules : VersionRules) (store : CloudControlStore)
    (version : ProductVersion) : Prop where
  product : ∃ product, store.product version.productId = some product
  absent : store.productVersion version.productId version.version = none
  complete : validatePublishableProductVersion version = .ok ()
  edges : ∀ edge ∈ rolloutEdges store version.productId, ∃ package,
    materializeProductConfigPackage store edge.edgeId version = .ok package ∧
      ConfigValidator.validatePackage rules.checks package = []

def hasError (issues : List AgentValidationIssue) : Bool :=
  issues.any fun issue => issue.severity = .error

@[simp] theorem hasError_append {second : List AgentValidationIssue} :
    hasError (first ++ second) = false ↔ hasError first = false ∧ hasError second = false := by
  rw [hasError,any_append,Bool.or_eq_false_iff]
  rfl

theorem hasError_guarded {first second : List AgentValidationIssue}
    (h : hasError (if first.any fun issue => issue.severity = .error then first
      else first ++ second) = false) : hasError first = false ∧ hasError second = false := by
  split at h
  · next he =>
    rw [hasError,he] at h
    cases h
  · exact hasError_append.mp h

private theorem requestIssues_ok {out : Except ApiError Unit}
    (h : hasError (requestIssues code path out) = false) : out = .ok () := by
  cases out with
  | ok value => rfl
  | error cause => simp [hasError,requestIssues] at h

private theorem edgeIssues_ok (h : hasError (edgeIssues rules store version edge) = false) :
    ∃ pkg, materializeProductConfigPackage store edge version = .ok pkg ∧
      ConfigValidator.validatePackage rules.checks pkg = [] := by
  unfold edgeIssues at h
  dsimp only at h
  split at h
  · simp [hasError] at h
  · next pkg hp =>
    refine ⟨pkg,hp,?_⟩
    cases hi : ConfigValidator.validatePackage rules.checks pkg with
    | nil => rfl
    | cons issue issues => simp [hasError,hi] at h

theorem publishable_of_valid (hv : (validateAgentChangeSetCandidate rules store cs).valid = true)
    (hve : productVersionFromChangeSet rules cs = .ok version) :
    Publishable rules store version := by
  unfold validateAgentChangeSetCandidate at hv
  rw [hve] at hv
  dsimp only at hv
  split at hv
  · simp [AgentValidationReport.new] at hv
  · next prod hp =>
    have hn : hasError (productIssues rules store cs version prod
        ((rolloutEdges store version.productId).map EdgeNode.edgeId)) = false := by
      simpa [AgentValidationReport.new,hasError] using hv
    obtain ⟨hf,he⟩ := hasError_guarded hn
    simp only [hasError_append] at hf
    obtain ⟨⟨-,hr⟩,hc⟩ := hf
    have ha := requestIssues_ok hr
    simp only [validateProductVersionRequest,bind_eq_ok,bailIf_eq_ok] at ha
    obtain ⟨-,-,-,-,-,-,_,hve,-⟩ := ha
    refine ⟨⟨prod,hp⟩,?_,requestIssues_ok hc,?_⟩
    · simpa using hve
    · intro edge hed
      apply edgeIssues_ok
      rw [hasError,any_eq_false] at he ⊢
      intro issue hi
      exact he issue (mem_flatMap.mpr ⟨edge.edgeId,mem_map_of_mem hed,hi⟩)

theorem planTransition_of_publishable (newId : String → Nat) (hd : version.status = .draft)
    (h : Publishable rules store version) :
    ∃ target plan, planTransition rules.checks (store.upsertProductVersion version) newId
      version.productId version.version false = .ok (target,some plan) := by
  obtain ⟨prod,hpr⟩ := h.product
  obtain ⟨rollouts,hr⟩ : ∃ rollouts, (rolloutEdges store version.productId).mapM
      (rolloutEdge rules.checks (store.upsertProductVersion version) newId version.version
        { version with status := .published }) = .ok rollouts := by
    apply exists_mapM_ok
    intro edge he
    obtain ⟨pkg,hpa,hv⟩ := h.edges edge he
    -- the package depends on neither the stored versions nor the status
    have hp : materializeProductConfigPackage (store.upsertProductVersion version)
        edge.edgeId { version with status := .published } = .ok pkg := hpa
    rw [rolloutEdge,hp,ok_bind,ReleaseService.prepareRelease,hv]
    exact ⟨_,rfl⟩
  have hc : checkTransition version false = .ok () := by
    rw [checkTransition,hd]
    rfl
  have hs : (store.upsertProductVersion version).product version.productId = some prod := hpr
  have hu : ¬(prod.latestVersion = some version.version ∧ version.status = .published) := by
    rw [hd]
    exact fun hp => ProductVersionStatus.noConfusion hp.2
  unfold planTransition
  rw [hs,context_some,ok_bind,ChangeSetRuns.get_upsertProductVersion,context_some,ok_bind]
  rw [if_neg hu,hc,ok_bind,h.complete,ok_bind]
  dsimp only
  rw [show rolloutEdges (store.upsertProductVersion version) version.productId =
    rolloutEdges store version.productId from rfl,hr,ok_bind]
  exact ⟨_,_,rfl⟩

end Publishable

/-! ## Where an application that was started ends -/

section Started

variable {state : State} {newId : String → Nat} {changeSetId : String} {caller : Caller}
  {changeSet : AgentChangeSet} {version target : ProductVersion} {plan : TransitionPlan}

def failedOf (rules : Rules) (caller : Caller) (changeSet : AgentChangeSet) (message : String) :
    AgentChangeSet :=
  { changeSet with
    status := .failed
    result := some (.object [("failedAt",.string (rules.ext.renderTime caller.now)),
      ("message",.string message)]) }

def appliedOf (rules : Rules) (caller : Caller) (changeSet : AgentChangeSet)
    (version : ProductVersion) : AgentChangeSet :=
  { changeSet with
    status := .applied
    result := some (appliedResult rules.ext version changeSet.validation caller.actor caller.now) }

/-- The outcome is written down, unless the database refuses. -/
def noteOutcome (answers : Answers) (state : State) (outcome : AgentChangeSet) : State :=
  match answers.outcome with
  | none => state.saveChangeSet outcome
  | some _ => state

def stored (state : State) (changeSet : AgentChangeSet) (version : ProductVersion) : State :=
  (state.saveChangeSet (applyingOf changeSet)).saveProductVersion version

def published (state : State) (plan : TransitionPlan) : State where
  memory := (state.withCore (plan.apply state.core)).memory
  sqlite := state.sqlite.transitionProductVersion plan

private theorem run_failAgentChangeSet (msg : String) (state : State) :
    ((failAgentChangeSet rules answers (applyingOf changeSet) caller msg).run state).state =
      noteOutcome answers state (failedOf rules caller changeSet msg) := by
  unfold failAgentChangeSet noteOutcome
  cases answers.outcome <;> rfl

private theorem run_transition_refused
    (hp : planTransition rules.checks state.core newId version.productId version.version false =
      .ok (target,some plan)) (hr : answers.transition = some why) :
    (transitionProductVersion rules answers newId version.productId version.version false).run
      state = ⟨state,[],.error (persistenceError why)⟩ := by
  rw [transitionProductVersion,run_current_bind,hp,hr]
  rfl

private theorem run_transition_taken
    (hp : planTransition rules.checks state.core newId version.productId version.version false =
      .ok (target,some plan)) (ht : answers.transition = none) :
    (transitionProductVersion rules answers newId version.productId version.version false).run
      state = ⟨published state plan,[],.ok target⟩ := by
  rw [transitionProductVersion,run_current_bind,hp,ht]
  rfl

theorem run_started_state (ha : answers.applying = none)
    (hp : planTransition rules.checks (stored state changeSet version).core newId
      version.productId version.version false = .ok (target,some plan)) :
    ((started rules answers newId caller (applyingOf changeSet) version).run state).state =
      match answers.version, answers.transition with
      | some why, _ => noteOutcome answers (state.saveChangeSet (applyingOf changeSet))
          (failedOf rules caller changeSet why)
      | none, some why => noteOutcome answers (stored state changeSet version)
          (failedOf rules caller changeSet (persistenceError why).message)
      | none, none => noteOutcome answers (published (stored state changeSet version) plan)
          (appliedOf rules caller changeSet version) := by
  unfold started
  rw [ha,run_taken_bind]
  cases hv : answers.version with
  | some why => exact run_failAgentChangeSet why _
  | none =>
    dsimp only
    rw [run_taken_bind,← stored]
    cases ht : answers.transition with
    | some why =>
      rw [run_bind_attempt_state _ (run_transition_refused hp ht)]
      dsimp only
      rw [run_bind_attempt_state _ rfl]
      exact run_failAgentChangeSet _ _
    | none =>
      rw [run_bind_attempt_state _ (run_transition_taken hp ht)]
      dsimp only
      unfold noteOutcome
      cases answers.outcome <;> rfl

@[simp] theorem memoryStatus_save (state : State) (changeSet : AgentChangeSet) :
    memoryStatus (state.saveChangeSet changeSet) changeSet.changeSetId = some changeSet.status := by
  rw [memoryStatus,ChangeSetRuns.get_saveChangeSet,Option.map_some]

@[simp] theorem databaseStatus_save (state : State) (changeSet : AgentChangeSet) :
    databaseStatus (state.saveChangeSet changeSet) changeSet.changeSetId =
      some changeSet.status := by
  rw [databaseStatus,ControlPlane.State.saveChangeSet,SqliteCloudStore.upsertAgentChangeSet,
    OrderedMap.get_put_self]
  rfl

theorem noteOutcome_taken (h : answers.outcome = none) (state : State) (out : AgentChangeSet) :
    noteOutcome answers state out = state.saveChangeSet out := by
  rw [noteOutcome,h]

theorem noteOutcome_refused (h : answers.outcome = some why) (state : State)
    (out : AgentChangeSet) : noteOutcome answers state out = state := by
  rw [noteOutcome,h]

variable {after : State}

theorem stuck_leaves_trace (hp : passesChecks rules state changeSetId = true)
    (hap : answers.applying = none) (hst : memoryStatus after changeSetId = some .applying) :
    ¬(memoryStatus after changeSetId = some .applied ∨ ProductUnchanged state after changeSetId ∧
        EndsFailed rules answers state after changeSetId) := by
  rintro (ha | ⟨-,hf⟩)
  · rw [hst] at ha
    cases ha
  · have hs := (hf hp hap).1
    rw [hst] at hs
    cases hs

theorem not_productUnchanged_stored (hp : (state.memory.agentChangeSets.get changeSetId).bind
      (fun changeSet => changeSet.target.productId) = some version.productId)
    (ha : state.core.productVersion version.productId version.version = none)
    (haf : after.core = (stored state changeSet version).core) :
    ¬ProductUnchanged state after changeSetId := by
  intro hu
  have hv := congrArg Holdings.versions (hu version.productId hp).1
  have hm : version ∈ (memoryHoldings after version.productId).versions := by
    refine mem_filter.mpr ⟨?_,by simp⟩
    rw [haf]
    exact Registry.mem_values_insert.mpr (.inl rfl)
  rw [hv] at hm
  have hs := Registry.mem_values.mp (mem_filter.mp hm).1
  rw [CloudControlStore.productVersion] at ha
  rw [productVersionKey,ha] at hs
  cases hs

theorem target_of_productVersion {rules : VersionRules}
    (h : productVersionFromChangeSet rules changeSet = .ok version) :
    changeSet.target.productId = some version.productId := by
  unfold productVersionFromChangeSet at h
  split at h
  · simp only [bind_eq_ok,context_eq_ok,bailIf_eq_ok] at h
    obtain ⟨_,-,_,-,_,-,_,-,_,-,_,-,prod,hp,targetVersion,-,_,hs,_,-,hv⟩ := h
    cases hv
    rw [hp]
    by_contra hne
    exact hs (.inl fun heq => hne (congrArg some heq.symm))
  · cases h

theorem exists_productVersion {rules : VersionRules} {store : CloudControlStore}
    (h : (validateAgentChangeSetCandidate rules store changeSet).valid = true) :
    ∃ version, productVersionFromChangeSet rules changeSet = .ok version := by
  unfold validateAgentChangeSetCandidate at h
  split at h
  · simp [AgentValidationReport.new] at h
  · next version hv => exact ⟨version,hv⟩

theorem run_blocked (h : passesChecks rules state changeSetId = false) :
    let after := ((applyAgentChangeSet rules answers newId changeSetId caller).run state).state
    after = state ∨ ∃ blocked, after = state.saveChangeSet blocked := by
  unfold applyAgentChangeSet
  rw [run_current_bind]
  cases hl : loadAgentChangeSet state changeSetId with
  | error cause => exact .inl rfl
  | ok changeSet =>
    rw [run_bind_lift_ok]
    rw [passesChecks,context_eq_ok.mp hl,Option.any_some] at h
    cases hn : prepareApplication rules state.core changeSet with
    | error cause => exact .inl rfl
    | ok prepared =>
      obtain ⟨next,found⟩ := prepared
      rw [run_bind_lift_ok]
      cases found with
      | none =>
        cases answers.outcome with
        | some why => exact .inl rfl
        | none => exact .inr ⟨next,rfl⟩
      | some version =>
        obtain ⟨hc,hva,-,-⟩ := ChangeSetRuns.prepare_started hn
        simp [hc,hva] at h

/-- The database takes what it is asked for in the end, and either the version is refused or its
publication is taken as well. -/
theorem leavesNoTrace_started_iff (hl : loadAgentChangeSet state changeSetId = .ok changeSet)
    (hc : changeSet.status = .confirmed)
    (hva : (validateAgentChangeSetCandidate rules.toVersionRules state.core changeSet).valid =
      true) (ha : answers.applying = none) :
    LeavesNoTrace rules answers state newId changeSetId caller ↔
      answers.outcome = none ∧ (answers.version ≠ none ∨ answers.transition = none) := by
  obtain ⟨version,hv⟩ := exists_productVersion hva
  have hp := publishable_of_valid hva hv
  obtain ⟨target,plan,hpl⟩ := planTransition_of_publishable newId
    (ChangeSetRuns.productVersionFromChangeSet_draft hv) hp
  have hid := ChangeSetRuns.changeSetId_of_loaded hl
  subst hid
  have hpa : passesChecks rules state changeSet.changeSetId = true := by
    rw [passesChecks,context_eq_ok.mp hl,Option.any_some,hc,hva]
    rfl
  have hpr : (state.memory.agentChangeSets.get changeSet.changeSetId).bind
      (fun changeSet => changeSet.target.productId) = some version.productId := by
    rw [context_eq_ok.mp hl]
    exact target_of_productVersion hv
  unfold LeavesNoTrace
  rw [run_started hl hc hva hv,run_started_state ha hpl]
  have hs := memoryStatus_save state (applyingOf changeSet)
  cases ho : answers.outcome with
  | some why =>
    -- the change set stays as it was put under way, whatever has been done by then
    refine iff_of_false (stuck_leaves_trace hpa ha ?_) fun h => nomatch h.1
    cases answers.version with
    | some _ =>
      dsimp only
      rw [noteOutcome_refused ho]
      exact hs
    | none =>
      cases answers.transition <;> dsimp only <;> rw [noteOutcome_refused ho] <;> exact hs
  | none =>
    cases hr : answers.version with
    | some why =>
      dsimp only
      rw [noteOutcome_taken ho]
      refine iff_of_true (.inr ⟨fun _ _ => ⟨rfl,rfl⟩,fun _ _ => ?_⟩) ⟨rfl,.inl nofun⟩
      exact ⟨memoryStatus_save _ (failedOf rules caller changeSet why),
        databaseStatus_save _ (failedOf rules caller changeSet why)⟩
    | none =>
      cases ht : answers.transition with
      | some why =>
        dsimp only
        rw [noteOutcome_taken ho]
        refine iff_of_false ?_ fun h => h.2.elim (fun hv => hv rfl) nofun
        rintro (hap | ⟨hu,-⟩)
        · have hf := memoryStatus_save (stored state changeSet version)
            (failedOf rules caller changeSet (persistenceError why).message)
          cases hf.symm.trans hap
        · exact not_productUnchanged_stored hpr hp.absent rfl hu
      | none =>
        dsimp only
        rw [noteOutcome_taken ho]
        refine iff_of_true (.inl ?_) ⟨rfl,.inr rfl⟩
        exact memoryStatus_save _ (appliedOf rules caller changeSet version)

theorem run_undisturbed
    (h : ControlPlane.applyAgentChangeSet rules state newId changeSetId caller = .ok after) :
    ((applyAgentChangeSet rules ⟨none,none,none,none⟩ newId changeSetId caller).run
      state).state = after := by
  obtain ⟨changeSet,hl,h⟩ := bind_eq_ok.mp h
  obtain ⟨⟨next,found⟩,hn,h⟩ := bind_eq_ok.mp h
  cases found with
  | none =>
    cases h
    unfold applyAgentChangeSet
    rw [run_current_bind,hl,run_bind_lift_ok,hn]
    rfl
  | some version =>
    obtain ⟨hc,hva,hv,hap⟩ := ChangeSetRuns.prepare_started hn
    obtain ⟨target,plan,hpl⟩ := planTransition_of_publishable newId
      (ChangeSetRuns.productVersionFromChangeSet_draft hv)
      (publishable_of_valid hva hv)
    rw [run_started hl hc hva hv,run_started_state rfl hpl]
    obtain ⟨_,-,hs⟩ := bind_eq_ok.mp hap
    cases hs
    dsimp only at h
    have hp : ControlPlane.transitionProductVersion rules
        (stored state changeSet version) newId version.productId version.version false =
          .ok (published (stored state changeSet version) plan) :=
      bind_eq_ok.mpr ⟨(target,some plan),hpl,rfl⟩
    split at h
    · next cause hca => cases hp.symm.trans hca
    · next res hr =>
      have hsa := Except.ok.inj (hp.symm.trans hr)
      obtain ⟨applied,had,ha⟩ := bind_eq_ok.mp h
      cases mapError_eq_ok.mp had
      cases ha
      rw [← hsa]
      rfl

end Started

/-- An application that was started and is not applied in the end leaves no trace if and only if
the database refuses the version and then takes the outcome. -/
theorem failed_application_leaves_no_trace_iff (rules : Rules) (answers : Answers) (state : State)
    (newId : String → Nat) (changeSetId : String) (caller : Caller) :
    LeavesNoTrace rules answers state newId changeSetId caller ↔
      (passesChecks rules state changeSetId = true → answers.applying = none →
        answers.outcome = none ∧ (answers.version ≠ none ∨ answers.transition = none)) := by
  cases hp : passesChecks rules state changeSetId with
  | false =>
    refine iff_of_true (.inr ⟨?_,?_⟩) nofun
    · rcases run_blocked hp with haf | ⟨blocked,haf⟩
      · rw [haf]
        exact fun _ _ => ⟨rfl,rfl⟩
      · rw [haf]
        exact fun _ _ => ⟨rfl,rfl⟩
    · intro hs
      rw [hp] at hs
      cases hs
  | true =>
    cases hg : state.memory.agentChangeSets.get changeSetId with
    | none =>
      rw [passesChecks,hg] at hp
      cases hp
    | some cs =>
      rw [passesChecks,hg,Option.any_some,Bool.and_eq_true,decide_eq_true_eq] at hp
      have hl : loadAgentChangeSet state changeSetId = .ok cs := context_eq_ok.mpr hg
      cases ha : answers.applying with
      | some why =>
        obtain ⟨ver,hv⟩ := exists_productVersion hp.2
        refine iff_of_true (.inr ⟨?_,?_⟩) nofun
        · rw [run_started hl hp.1 hp.2 hv,started,ha,run_refused_bind]
          exact fun _ _ => ⟨rfl,rfl⟩
        · intro _ ht
          rw [ha] at ht
          cases ht
      | none =>
        rw [leavesNoTrace_started_iff hl hp.1 hp.2 ha]
        simp

/-! ## The pump -/

def pumpHistory : List Restart.Operation :=
  [.createProject Restart.plant,.createPointSet ReleaseHistory.pumpPoints,
    .createProduct ⟨"pump","plant",none⟩,
    .createProductVersion (fun _ => 0) "pump" (ReleaseHistory.pumpVersion "1.0.0"),
    .createEdgeNode ⟨none,none,none,some "pump"⟩ ⟨1,"first",0⟩ 1,
    .createAgentChangeSet { Restart.pumpChange with
      target := ⟨"plant",some "pump",some "2.0.0",["edge-draft-1"]⟩
      operations := [⟨"operation-1",.create,.productVersion,"pump:2.0.0",none,
        some (ChangeSetRuns.pumpDocument "2.0.0")⟩] },
    .confirmAgentChangeSet "change-1" Restart.operator none none]

structure PumpOutcome where
  status : Option AgentChangeSetStatus
  versions : List (String × ProductVersionStatus)
  latest : Option String
  releases : List (String × ReleaseStatus)
deriving DecidableEq

def pumpOutcome (answers : Answers) : Option PumpOutcome :=
  (Restart.run ChangeSetRuns.pumpRules pumpHistory).map fun state =>
    let after := ((applyAgentChangeSet ChangeSetRuns.pumpRules answers (fun _ => 2) "change-1"
      Restart.operator).run state).state
    let held := databaseHoldings after "pump"
    { status := memoryStatus after "change-1"
      versions := held.versions.map fun version => (version.version,version.status)
      latest := held.latest
      releases := held.releases.map fun release => (release.desiredVersion,release.status) }

/-- The publication is refused and the draft of the version stays; the outcome is refused and the
change set stays under way, with its version published and released. -/
theorem refused_writes_leave_traces : pumpOutcome ⟨none,none,some "disk full",none⟩ =
        some ⟨some .failed,[("1.0.0",.published),("2.0.0",.draft)],some "1.0.0",
          [("1.0.0",.pending)]⟩ ∧
      pumpOutcome ⟨none,none,none,some "disk full"⟩ =
        some ⟨some .applying,[("1.0.0",.retired),("2.0.0",.published)],some "2.0.0",
          [("1.0.0",.superseded),("2.0.0",.pending)]⟩ ∧
      pumpOutcome ⟨none,some "disk full",none,some "disk full"⟩ =
        some ⟨some .applying,[("1.0.0",.published)],some "1.0.0",[("1.0.0",.pending)]⟩ := by
  decide +kernel

end VelaEdge.Cloud.ApplicationFailures
