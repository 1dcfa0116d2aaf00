import VelaEdge.Cloud.CommandDraft
import VelaEdge.Cloud.ControlPlane

/-! Draft requests that overlap. The store is locked for one look at a time: a request looks for an
earlier draft, drafts a candidate, has it validated, waits for the database if there is one, and
only then puts the candidate into the store. -/
namespace VelaEdge.Cloud.DraftRuns

open Base Core VelaEdge.Runtime OrderedMap Registry Text Option Function
open ControlPlane (Caller requestView)

structure ApiPrincipal where
  authenticationEnabled : Bool
  subject : String

def normalizedRequiredActor (actor : String) : Except String String := do
  let actor := trim actor
  bailIf (actor = "") "agent operator is required"
  bailIf (120 < actor.length) "agent operator exceeds 120 characters"
  pure actor

def effectiveActor (principal : ApiPrincipal) (submittedActor : String) : Except String String :=
  if principal.authenticationEnabled then normalizedRequiredActor principal.subject
  else normalizedRequiredActor submittedActor

structure CreateAgentCommandCandidateRequest where
  projectId : String
  edgeId : String
  flowId : String
  pointId : String
  deviceId : Option String
  value : Json
  title : String
  rationale : String
  idempotencyKey : String

namespace CreateAgentCommandCandidateRequest

variable (request : CreateAgentCommandCandidateRequest)

def arguments : Json :=
  .object [("deviceId",(request.deviceId.map Json.string).getD .null),
    ("edgeId",.string request.edgeId),("flowId",.string request.flowId),
    ("idempotencyKey",.string request.idempotencyKey),("pointId",.string request.pointId),
    ("projectId",.string request.projectId),("rationale",.string request.rationale),
    ("title",.string request.title),("value",request.value)]

def key : DraftKey :=
  ⟨trim request.projectId,trim request.edgeId,trim request.idempotencyKey⟩

def callContext : Json :=
  .object [("scope",.object [("edgeId",.string request.key.edgeId),
    ("projectId",.string request.key.projectId)])]

end CreateAgentCommandCandidateRequest

inductive Answer where
  | existing (candidate : AgentCommandCandidate)
  | created (candidate : AgentCommandCandidate)
  | failed (message : String)
deriving DecidableEq

inductive Task where
  | asked (request : CreateAgentCommandCandidateRequest)
  | drafted (candidate : AgentCommandCandidate)
  | validated (candidate : AgentCommandCandidate)
  | stored (candidate : AgentCommandCandidate)

namespace Task

def key : Task → DraftKey
  | .asked request => request.key
  | .drafted candidate => candidate.command.key
  | .validated candidate => candidate.command.key
  | .stored candidate => candidate.command.key

def candidateId : Task → Option String
  | .asked _ => none
  | .drafted candidate => some candidate.candidateId
  | .validated candidate => some candidate.candidateId
  | .stored candidate => some candidate.candidateId

end Task

structure State where
  memory : MemoryStore
  database : Option SqliteCloudStore
  tasks : OrderedMap Nat Task
  answers : List (Nat × Answer)

namespace State

def initial (persistent : Bool) : State where
  memory := .empty
  database := if persistent then some .empty else none
  tasks := .empty
  answers := []

def answer (state : State) (task : Nat) (answer : Answer) : State :=
  { state with answers := (task,answer) :: state.answers }

variable (state : State)

def fail (task : Nat) (message : String) : State :=
  { state with tasks := state.tasks.delete task }.answer task (.failed message)

def become (task : Nat) (next : Task) : State :=
  { state with tasks := state.tasks.put task next }

def candidates : Registry AgentCommandCandidate.candidateId :=
  state.memory.agentCommandCandidates

def withCandidates (candidates : Registry AgentCommandCandidate.candidateId) : State :=
  { state with memory := { state.memory with agentCommandCandidates := candidates } }

/-- What is stored for good: the rows of the table, or what memory has without a database. -/
def rows : Registry AgentCommandCandidate.candidateId := match state.database with
  | some sqlite => rebuild Format.agentCommandCandidate sqlite.agentCommandCandidates
  | none => state.candidates

end State

inductive Event where
  | create (task : Nat) (principal : ApiPrincipal) (request : CreateAgentCommandCandidateRequest)
  | draft (task : Nat) (candidateId : String)
  /-- A call of the tool at the MCP endpoint. An answer that needs no candidate to be stored is
  given once the call is on record, which the database may refuse. -/
  | callTool (task : Nat) (callContext arguments : Json) (candidateId : String)
      (refusal : Option String)
  | validate (task : Nat) (caller : Caller)
  | store (task : Nat) (refusal : Option String)
  | remember (task : Nat) (refusal : Option String)
  | drop (task : Nat)
  /-- Another request writes a candidate back that it has validated, confirmed or dispatched. -/
  | writeRow (copy : AgentCommandCandidate)
  | writeMemory (copy : AgentCommandCandidate)
  | configure (memory : MemoryStore) (database : SqliteCloudStore)
  | restart

def upsertAgentCommandCandidateWithAudit (sqlite : SqliteCloudStore)
    (candidate : AgentCommandCandidate) : Except ApiError SqliteCloudStore :=
  (sqlite.upsertAgentCommandCandidate candidate).mapError fun _ =>
    ⟨.internalServerError,
      "persist cloud state failed: persist agent command candidate transition"⟩

def persistAgentCommandCandidateTransition (database : Option SqliteCloudStore)
    (candidate : AgentCommandCandidate) (refusal : Option String) :
    Except ApiError (Option SqliteCloudStore) :=
  match database with
  | none => pure none
  | some sqlite => do
      bailIf (refusal.isSome) ⟨.internalServerError,
        "persist cloud state failed: " ++ refusal.getD ""⟩
      some <$> upsertAgentCommandCandidateWithAudit sqlite candidate

variable (ext : Externals) (state : State)

def step : Event → State
  | .create task principal request =>
    match effectiveActor principal "console-operator" with
    | .error message => state.answer task (.failed message)
    | .ok _ =>
      match state.memory.agentCommandCandidateByIdempotency request.key.projectId
          request.key.edgeId request.key.idempotencyKey with
      | some existing => state.answer task (.existing existing)
      | none => state.become task (.asked request)
  | .draft task candidateId =>
    match state.tasks.get task with
    | some (.asked request) =>
      match executeDraft ext state.memory request.callContext request.arguments candidateId with
      | .error message => state.fail task message
      -- The API goes on with a duplicate as with a new draft.
      | .ok draft => state.become task (.drafted draft.commandCandidate)
    | _ => state
  | .callTool task callContext arguments candidateId refusal =>
    match executeDraft ext state.memory callContext arguments candidateId with
    | .error message => state.answer task (.failed message)
    | .ok (.drafted candidate) => state.become task (.drafted candidate)
    | .ok (.duplicate existing) =>
      match refusal with
      | some message => state.answer task (.failed message)
      | none => state.answer task (.existing existing)
  | .validate task caller =>
    match state.tasks.get task with
    | some (.drafted candidate) =>
      let view := requestView ⟨state.memory,.empty⟩ candidate.target.edgeId caller
      match candidate.recordValidation (validateAgentCommandCandidate ext view candidate) with
      | .ok validated => state.become task (.validated validated)
      | .error cause => state.fail task cause.message
    | _ => state
  | .store task refusal =>
    match state.tasks.get task with
    | some (.validated candidate) =>
      match persistAgentCommandCandidateTransition state.database candidate refusal with
      | .ok database => { state with database := database }.become task (.stored candidate)
      | .error cause => state.fail task cause.message
    | _ => state
  | .remember task refusal =>
    match state.tasks.get task with
    | some (.stored candidate) =>
      let stored := { state.withCandidates (state.candidates.insert candidate) with
        tasks := state.tasks.delete task }
      match refusal with
      | none => stored.answer task (.created candidate)
      | some message => stored.answer task (.failed message)
    | _ => state
  | .drop task => { state with tasks := state.tasks.delete task }
  | .writeRow copy =>
    match state.database, state.rows.get copy.candidateId with
    | some sqlite, some previous =>
      if copy.command = previous.command then
        match sqlite.upsertAgentCommandCandidate copy with
        | .ok sqlite => { state with database := some sqlite }
        | .error _ => state
      else state
    | _, _ => state
  | .writeMemory copy =>
    match state.candidates.get copy.candidateId with
    | some previous =>
      if copy.command = previous.command then
        state.withCandidates (state.candidates.insert copy)
      else state
    | none => state
  | .configure memory database =>
    { state with
      memory := { memory with agentCommandCandidates := state.candidates }
      database := state.database.map fun sqlite =>
        { database with agentCommandCandidates := sqlite.agentCommandCandidates } }
  | .restart =>
    { state with
      memory := (state.database.map hydrateFromSqlite).getD .empty
      tasks := .empty }

@[simp] theorem step_drop (task : Nat) :
    step ext state (.drop task) = { state with tasks := state.tasks.delete task } := by
  rw [step]

def run (events : List Event) : State := events.foldl (step ext) state

/-! ## Drafts one at a time -/

def Event.arrival : Event → Option (Nat × DraftKey)
  | .create task _ request => some (task,request.key)
  | .callTool task callContext arguments _ _ =>
    (requestedKey callContext arguments).map fun key => (task,key)
  | _ => none

def Event.isDraft : Event → Bool
  | .create .. => true
  | .draft .. => true
  | .callTool .. => true
  | .validate .. => true
  | .store .. => true
  | .remember .. => true
  | _ => false

namespace State

def isKnown (key : DraftKey) : Bool :=
  state.candidates.values.any fun candidate => candidate.command.key = key

/-- No candidate with the key is stored, and no draft of it is under way. -/
def isFree (key : DraftKey) : Bool :=
  (state.rows.values.all fun candidate => candidate.command.key ≠ key) &&
    state.tasks.entries.all fun entry => entry.2.key ≠ key

def isUnused (candidateId : String) : Bool := (state.rows.get candidateId).isNone &&
    state.tasks.entries.all fun entry => entry.2.candidateId ≠ some candidateId

end State

/-- A request either comes when its candidate is known, and then it is accepted and a call of the
tool is well formed with a trimmed key; or it comes when no draft of that key is stored or under
way. New identifiers have not been drawn before. -/
def cleanStep : Event → Bool
  | .create _ principal request =>
    if state.isKnown request.key then
      (effectiveActor principal "console-operator").toOption.isSome
    else state.isFree request.key
  | .draft _ candidateId => state.isUnused candidateId
  | .callTool _ callContext arguments candidateId refusal =>
    (requestedKey callContext arguments).all fun key =>
      if state.isKnown key then
        isWellFormed state.memory.toCloudControlStore key arguments && isTrimmed arguments &&
          refusal.isNone
      else state.isFree key && state.isUnused candidateId
  | _ => true

def cleanRun : State → List Event → Bool := allAlong (step ext) cleanStep

/-- What a registry of candidates knows of the command under an identifier. -/
def commands (registry : Registry AgentCommandCandidate.candidateId) (candidateId : String) :
    Option Command :=
  (registry.get candidateId).map AgentCommandCandidate.command

structure Free (rows : String → Option Command) (key : DraftKey) (candidateId : Option String) :
    Prop where
  key : ∀ id command, rows id = some command → command.key ≠ key
  id : ∀ id, candidateId = some id → rows id = none

def Task.Ok (known rows : String → Option Command) (persistent : Bool) : Task → Prop
  | .asked request => Free rows request.key none
  | .drafted candidate => Free rows candidate.command.key (some candidate.candidateId) ∧
      candidate.command.Trimmed
  | .validated candidate => Free rows candidate.command.key (some candidate.candidateId) ∧
      candidate.command.Trimmed
  | .stored candidate =>
    candidate.command.Trimmed ∧ known candidate.candidateId = none ∧
      if persistent then rows candidate.candidateId = some candidate.command
      else Free rows candidate.command.key (some candidate.candidateId)

/-- The requests under way have keys and identifiers of their own. -/
def Apart (task other : Task) : Prop :=
  task.key ≠ other.key ∧ ∀ id, task.candidateId = some id → other.candidateId ≠ some id

structure Invariant (known rows : String → Option Command) (persistent : Bool)
    (tasks : OrderedMap Nat Task) : Prop where
  trimmed : ∀ id command, rows id = some command → command.Trimmed
  unique : ∀ id other command same, rows id = some command → rows other = some same →
    command.key = same.key → id = other
  stored : ∀ id command, known id = some command → rows id = some command
  waiting : ∀ number task, tasks.get number = some task → task.Ok known rows persistent
  apart : ∀ number other task second, tasks.get number = some task → tasks.get other = some second →
    number ≠ other → Apart task second

theorem Apart.symm {other : Task} (h : Apart task other) : Apart other task :=
  ⟨h.1.symm,fun id hid ho => h.2 id ho hid⟩

section Steps

variable {known rows : String → Option Command} {persistent : Bool} {tasks : OrderedMap Nat Task}

theorem Invariant.delete (h : Invariant known rows persistent tasks) (number : Nat) :
    Invariant known rows persistent (tasks.delete number) where
  trimmed := h.trimmed
  unique := h.unique
  stored := h.stored
  waiting := by
    intro other task hg
    rw [get_delete] at hg
    split at hg
    · cases hg
    · exact h.waiting other task hg
  apart := by
    intro first second task other hf hs
    rw [get_delete] at hf hs
    split at hf
    · cases hf
    · split at hs
      · cases hs
      · exact h.apart first second task other hf hs

theorem Invariant.start (ht : ∀ id cmd, rows id = some cmd → cmd.Trimmed)
    (hu : ∀ id other cmd same, rows id = some cmd → rows other = some same →
      cmd.key = same.key → id = other) : Invariant rows rows persistent .empty where
  trimmed := ht
  unique := hu
  stored _ _ hg := hg
  waiting _ _ hg := nomatch hg
  apart _ _ _ _ hg := nomatch hg

variable {task : Task}

section

variable (h : Invariant known rows persistent tasks)

include h

theorem Invariant.apart_delete (hg : tasks.get number = some task) (other : Nat) (second : Task)
    (hs : (tasks.delete number).get other = some second) : Apart task second := by
  rw [get_delete] at hs
  split at hs
  · cases hs
  · next hne => exact h.apart number other task second hg hs (Ne.symm hne)

theorem Invariant.put (number : Nat) (hok : task.Ok known rows persistent)
    (ha : ∀ other second, other ≠ number → tasks.get other = some second → Apart task second) :
    Invariant known rows persistent (tasks.put number task) where
  trimmed := h.trimmed
  unique := h.unique
  stored := h.stored
  waiting := by
    intro other second hg
    rw [get_put] at hg
    split at hg
    · cases hg
      exact hok
    · exact h.waiting other second hg
  apart := by
    intro first second task other hf hs hne
    rw [get_put] at hf hs
    split at hf
    · next heq =>
      cases hf
      rw [if_neg (heq ▸ hne.symm)] at hs
      exact ha second other (heq ▸ hne.symm) hs
    · next hfn =>
      split at hs
      · cases hs
        exact (ha first task hfn hf).symm
      · exact h.apart first second task other hf hs hne

theorem Invariant.advance {next : Task}
    (hg : tasks.get number = some task) (hok : next.Ok known rows persistent)
    (hk : next.key = task.key) (hid : next.candidateId = task.candidateId) :
    Invariant known rows persistent (tasks.put number next) := by
  apply h.put number hok
  intro other second hne hs
  have ha := h.apart number other task second hg hs hne.symm
  rw [Apart,hk,hid]
  exact ha

end

variable {cand : AgentCommandCandidate}

theorem Task.Ok.insertRow (h : task.Ok known rows persistent) (hk : cand.command.key ≠ task.key)
    (hid : ∀ id, task.candidateId = some id → id ≠ cand.candidateId) :
    task.Ok known (update rows cand.candidateId (some cand.command)) persistent := by
  have hf : ∀ {drawn : Option String}, (∀ id, drawn = some id → id ≠ cand.candidateId) →
      Free rows task.key drawn →
      Free (update rows cand.candidateId (some cand.command)) task.key drawn := by
    intro drawn hd ho
    refine ⟨fun id cmd hg => ?_,fun id hs => ?_⟩
    · by_cases hsa : id = cand.candidateId
      · rw [hsa,update_self] at hg
        cases hg
        exact hk
      · rw [update_of_ne hsa] at hg
        exact ho.key id cmd hg
    · rw [update_of_ne (hd id hs)]
      exact ho.id id hs
  cases task with
  | asked req => exact hf (fun id hs => nomatch hs) h
  | drafted other => exact ⟨hf hid h.1,h.2⟩
  | validated other => exact ⟨hf hid h.1,h.2⟩
  | stored other =>
    refine ⟨h.1,h.2.1,?_⟩
    have hl := h.2.2
    split at hl
    · rw [if_pos ‹_›,update_of_ne (hid _ rfl)]
      exact hl
    · rw [if_neg ‹_›]
      exact hf hid hl

theorem Task.Ok.insertKnown (h : task.Ok known rows persistent)
    (hid : ∀ id, task.candidateId = some id → id ≠ cand.candidateId) :
    task.Ok (update known cand.candidateId (some cand.command)) rows persistent := by
  cases task with
  | asked req => exact h
  | drafted other => exact h
  | validated other => exact h
  | stored other =>
    refine ⟨h.1,?_,h.2.2⟩
    rw [update_of_ne (hid _ rfl)]
    exact h.2.1

variable (h : Invariant known rows persistent tasks)
include h

theorem Invariant.insertRow (hf : Free rows cand.command.key (some cand.candidateId))
    (ht : cand.command.Trimmed)
    (ha : ∀ number task, tasks.get number = some task → Apart (.drafted cand) task) :
    Invariant known (update rows cand.candidateId (some cand.command)) persistent tasks where
  trimmed := by
    intro id cmd hg
    by_cases hs : id = cand.candidateId
    · rw [hs,update_self] at hg
      cases hg
      exact ht
    · rw [update_of_ne hs] at hg
      exact h.trimmed id cmd hg
  unique := by
    intro id other cmd same hg ho hk
    by_cases hid : id = cand.candidateId
    · by_cases hoi : other = cand.candidateId
      · rw [hid,hoi]
      · rw [hid,update_self] at hg
        rw [update_of_ne hoi] at ho
        cases hg
        exact absurd hk.symm (hf.key other same ho)
    · rw [update_of_ne hid] at hg
      by_cases hoi : other = cand.candidateId
      · rw [hoi,update_self] at ho
        cases ho
        exact absurd hk (hf.key id cmd hg)
      · rw [update_of_ne hoi] at ho
        exact h.unique id other cmd same hg ho hk
  stored := by
    intro id cmd hg
    have hr := h.stored id cmd hg
    rw [update_of_ne]
    · exact hr
    · rintro rfl
      rw [hf.id _ rfl] at hr
      cases hr
  waiting := by
    intro number task hg
    obtain ⟨hk,hid⟩ := ha number task hg
    exact (h.waiting number task hg).insertRow hk fun id hso hs =>
      hid cand.candidateId rfl (hso.trans (congrArg some hs))
  apart := h.apart

theorem Invariant.insertKnown (hr : rows cand.candidateId = some cand.command)
    (ha : ∀ number task, tasks.get number = some task → Apart (.drafted cand) task) :
    Invariant (update known cand.candidateId (some cand.command)) rows persistent tasks where
  trimmed := h.trimmed
  unique := h.unique
  stored := by
    intro id cmd hg
    by_cases hs : id = cand.candidateId
    · rw [hs,update_self] at hg
      rw [hs,hr,hg]
    · rw [update_of_ne hs] at hg
      exact h.stored id cmd hg
  waiting := by
    intro number task hg
    exact (h.waiting number task hg).insertKnown fun id hso hs =>
      (ha number task hg).2 cand.candidateId rfl (hso.trans (congrArg some hs))
  apart := h.apart

end Steps

/-- The commands of the state meet the invariant, and the rows of the table can be read back. -/
structure Sound (state : State) : Prop where
  mirrored : ∀ sqlite, state.database = some sqlite →
    Mirrors Format.agentCommandCandidate sqlite.agentCommandCandidates state.rows
  invariant : Invariant (commands state.candidates) (commands state.rows) state.database.isSome
    state.tasks

variable {state : State}

@[simp] theorem commands_insert (reg : Registry AgentCommandCandidate.candidateId)
    (cand : AgentCommandCandidate) :
    commands (reg.insert cand) = update (commands reg) cand.candidateId (some cand.command) := by
  funext id
  rw [commands,get_insert]
  by_cases hid : id = cand.candidateId
  · rw [if_pos hid,hid,update_self,map_some]
  · rw [if_neg hid,update_of_ne hid,commands]

section

variable {reg : Registry AgentCommandCandidate.candidateId}

include reg

theorem commands_of_mem (h : cand ∈ reg.values) :
    commands reg cand.candidateId = some cand.command := by
  rw [commands,mem_values.mp h,map_some]

theorem mem_of_commands {id : String} {cmd : Command} (h : commands reg id = some cmd) :
    ∃ cand ∈ reg.values, cand.candidateId = id ∧ cand.command = cmd := by
  obtain ⟨cand,hg,rfl⟩ := map_eq_some_iff.mp h
  exact ⟨cand,mem_values_of_get hg,key_of_get hg,rfl⟩

theorem commands_insert_of_same
    {copy : AgentCommandCandidate} (hg : reg.get copy.candidateId = some prev)
    (hs : copy.command = prev.command) :
    commands (reg.insert copy) = commands reg := by
  rw [commands_insert,hs]
  apply update_eq_self_iff.mpr
  rw [commands,hg,map_some]

end

theorem Sound.withTasks (h : Sound state)
    (ht : Invariant (commands state.candidates) (commands state.rows) state.database.isSome
      tasks) (answers : List (Nat × Answer)) :
    Sound { state with tasks := tasks, answers := answers } where
  mirrored := h.mirrored
  invariant := ht

theorem Sound.fail (h : Sound state) (task : Nat) (msg : String) : Sound (state.fail task msg) :=
  h.withTasks (h.invariant.delete task) _

variable {key : DraftKey}

@[simp] theorem isFree_iff : state.isFree key = true ↔ Free (commands state.rows) key none ∧
      ∀ number task, state.tasks.get number = some task → key ≠ task.key := by
  simp only [State.isFree,Bool.and_eq_true,List.all_eq_true,decide_eq_true_eq]
  constructor
  · rintro ⟨hr,ht⟩
    refine ⟨⟨fun id cmd hg => ?_,fun id hs => nomatch hs⟩,fun number task hg => ?_⟩
    · obtain ⟨cand,hm,_,rfl⟩ := mem_of_commands hg
      exact hr cand hm
    · exact (ht (number,task) ((get_eq_some_iff _ _ _).mp hg)).symm
  · rintro ⟨hr,ht⟩
    refine ⟨fun cand hm => hr.key _ _ (commands_of_mem hm),fun entry hm => ?_⟩
    exact (ht entry.1 entry.2 ((get_eq_some_iff _ _ _).mpr hm)).symm

@[simp] theorem isUnused_iff {cid : String} :
    state.isUnused cid = true ↔ commands state.rows cid = none ∧
      ∀ number task, state.tasks.get number = some task → task.candidateId ≠ some cid := by
  simp only [State.isUnused,Bool.and_eq_true,List.all_eq_true,decide_eq_true_eq,commands,
    map_eq_none_iff,isNone_iff_eq_none]
  refine and_congr_right fun _ => ⟨fun h number task hg => ?_,fun h entry hm => ?_⟩
  · exact h (number,task) ((get_eq_some_iff _ _ _).mp hg)
  · exact h entry.1 entry.2 ((get_eq_some_iff _ _ _).mpr hm)

private theorem restrictScope_nonBlank
    (h : restrictScope field (nonBlank (trim raw)) (nonBlank raw) = .ok (some resolved)) :
    resolved = trim raw := by
  obtain ⟨_,hr⟩ := restrictScope_eq_ok.mp h
  rw [nonBlank_trim,Option.orElse_eq_orElse,Option.orElse_eq_or,Option.or_self] at hr
  exact (nonBlank_eq_some.mp hr.symm).2.symm

variable (req : CreateAgentCommandCandidateRequest)

@[simp] theorem fromContext_of_request : AgentToolScope.fromContext req.callContext =
      .ok ⟨nonBlank (trim req.projectId),nonBlank (trim req.edgeId)⟩ := rfl

variable (scope : AgentToolScope) (req : CreateAgentCommandCandidateRequest)

@[simp] theorem resolveProject_of_request : scope.resolveProject req.arguments =
      restrictScope "projectId" scope.projectId (nonBlank req.projectId) := rfl

@[simp] theorem resolveEdge_of_request : scope.resolveEdge req.arguments =
      restrictScope "edgeId" scope.edgeId (nonBlank req.edgeId) := rfl

@[simp] theorem requiredText_of_request :
    requiredText req.arguments "idempotencyKey" = some req.idempotencyKey := rfl

theorem requestedKey_of_request {req : CreateAgentCommandCandidateRequest}
    (h : requestedKey req.callContext req.arguments = some key) : key = req.key := by
  obtain ⟨scope,input,hs,hi,hp,he,hk⟩ := requestedKey_eq_some.mp h
  have hr := decode_idempotencyKey hi
  rw [requiredText_of_request] at hr
  rw [fromContext_of_request] at hs
  obtain rfl := Except.ok.inj hs
  rw [resolveProject_of_request] at hp
  rw [resolveEdge_of_request] at he
  rw [← some.inj hr] at hk
  dsimp only at hp he
  have hpi := restrictScope_nonBlank hp
  have hei := restrictScope_nonBlank he
  rw [CreateAgentCommandCandidateRequest.key,DraftKey.ext_iff]
  exact ⟨hpi,hei,hk⟩

theorem Sound.known_unique (h : Sound state) {other : AgentCommandCandidate}
    (hm : cand ∈ state.candidates.values) (ho : other ∈ state.candidates.values)
    (hk : cand.command.key = other.command.key) : cand = other := by
  have hr := h.invariant.stored _ _ (commands_of_mem hm)
  have hor := h.invariant.stored _ _ (commands_of_mem ho)
  exact eq_of_mem_values hm ho (h.invariant.unique _ _ _ _ hr hor hk)

theorem Sound.byIdempotency (h : Sound state) (hm : cand ∈ state.candidates.values) :
    state.memory.agentCommandCandidateByIdempotency cand.command.key.projectId
      cand.command.key.edgeId cand.command.key.idempotencyKey = some cand := by
  have ht := h.invariant.trimmed _ _ (h.invariant.stored _ _ (commands_of_mem hm))
  cases hf : state.memory.agentCommandCandidateByIdempotency cand.command.key.projectId
      cand.command.key.edgeId cand.command.key.idempotencyKey with
  | none =>
    refine absurd ?_ (List.find?_eq_none.mp hf cand hm)
    rw [decide_eq_true_eq]
    exact ⟨rfl,rfl,ht.symm⟩
  | some found =>
    obtain ⟨hfo,hp,he,hk⟩ := byIdempotency_eq_some hf
    congr 1
    apply h.known_unique hfo hm
    rw [DraftKey.ext_iff]
    refine ⟨hp,he,?_⟩
    exact (congrArg trim hk).trans (trim_trim _)

@[simp] theorem isKnown_iff : state.isKnown key = true ↔
    ∃ cand ∈ state.candidates.values, cand.command.key = key := by
  simp [State.isKnown]

end VelaEdge.Cloud.DraftRuns
