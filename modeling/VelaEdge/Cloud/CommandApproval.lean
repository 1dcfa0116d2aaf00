import VelaEdge.Base.Runs
import VelaEdge.Cloud.ApprovedPlan

/-! Overlapping requests on one command candidate. Every request loads a copy, decides on it,
waits for the database and writes the copy back; a dispatch then waits for the broker and writes
back once more. -/
namespace VelaEdge.Cloud.CommandApproval

open Base Core VelaEdge.Runtime List
open AgentCommandCandidate

inductive Entry where
  | validated (valid : Bool)
  /-- A confirmation, with the number of entries there were when the request read the candidate. -/
  | confirmed (evidence : AgentConfirmationEvidence) (seen : Nat)
  | rejected
  | dispatching
  | published (message : MqttPublishMessage)
  | dispatched
  | failed
deriving DecidableEq

def Entry.isPublished : Entry → Bool
  | .published _ => true
  | _ => false

def Entry.isValidation : Entry → Bool
  | .validated _ => true
  | _ => false

structure Dispatch where
  copy : AgentCommandCandidate
  message : MqttPublishMessage
  actor : String

/-- How far a request is that waits for the database or for the broker. -/
inductive Task where
  | writing (copy : AgentCommandCandidate) (entry : Entry)
  | starting (dispatch : Dispatch)
  | publishing (dispatch : Dispatch)
  | sent (dispatch : Dispatch)

structure State where
  stored : AgentCommandCandidate
  tasks : OrderedMap Nat Task
  /-- Newest first. -/
  history : List Entry

inductive Request where
  | validate (view : RequestView)
  | confirm (view : RequestView) (coApprover note : Option String)
  | reject (view : RequestView) (note : String)
  /-- The store is locked once for the validation and once for the preflight. -/
  | dispatch (view preflight : RequestView)

inductive Event where
  | request (task : Nat) (request : Request)
  | store (task : Nat)
  | send (task : Nat)
  | answer (task : Nat) (now : Time) (result : Except String Unit)
  | drop (task : Nat)

def normalizedOptional (value : Option String) : Option String :=
  (value.map Text.trim).filter fun text => text ≠ ""

variable (ext : Externals)

/-- A request up to its first wait; `none` when it is refused. -/
def Request.start (stored : AgentCommandCandidate) (seen : Nat) : Request → Option Task
  | .validate view =>
    let report := validateAgentCommandCandidate ext view stored
    match stored.recordValidation report with
    | .ok copy => some (.writing copy (.validated report.valid))
    | .error _ => none
  | .confirm view coApprover note =>
    let report := validateAgentCommandCandidate ext view stored
    match stored.recordValidation report with
    | .error _ => none
    | .ok copy =>
      if report.valid then
        let evidence : AgentConfirmationEvidence :=
          ⟨view.actor,normalizedOptional coApprover,normalizedOptional note,view.now⟩
        match copy.confirm evidence with
        | .ok copy => some (.writing copy (.confirmed evidence seen))
        | .error _ => none
      else some (.writing copy (.validated false))
  | .reject view note =>
    match stored.reject ext view.actor note view.now with
    | .ok copy => some (.writing copy .rejected)
    | .error _ => none
  | .dispatch view preflight =>
    if stored.status = .confirmed then
      let report := validateAgentCommandCandidate ext view stored
      if report.valid then
        match prepareDispatch ext preflight stored, stored.startDispatch with
        | .ok prepared, .ok copy => some (.starting ⟨copy,prepared.message,preflight.actor⟩)
        | _, _ => none
      else
        match stored.recordValidation report with
        | .ok copy => some (.writing copy (.validated false))
        | .error _ => none
    else none

variable (dispatch : Dispatch)

def dispatchedResult (now : Time) : Json :=
  .object [("broker",.string dispatch.message.broker),("brokerAcknowledged",.bool true),
    ("commandId",.string dispatch.copy.idempotencyKey),
    ("dispatchedAt",.string (ext.renderTime now)),("dispatchedBy",.string dispatch.actor),
    ("qos",.number (.posInt dispatch.message.qos)),("sinkId",.string dispatch.message.sinkId),
    ("topic",.string dispatch.message.topic)]

def failedResult (now : Time) (cause : String) : Json :=
  .object [("failedAt",.string (ext.renderTime now)),("message",.string cause),
    ("topic",.string dispatch.message.topic)]

def Dispatch.finish (now : Time) : Except String Unit → Option Task
  | .ok () =>
    match dispatch.copy.markDispatched (dispatchedResult ext dispatch now) with
    | .ok copy => some (.writing copy .dispatched)
    | .error _ => none
  | .error cause =>
    match dispatch.copy.markFailed (failedResult ext dispatch now cause) with
    | .ok copy => some (.writing copy .failed)
    | .error _ => none

def State.become (state : State) (task : Nat) : Option Task → State
  | some next => { state with tasks := state.tasks.put task next }
  | none => { state with tasks := state.tasks.delete task }

def step (state : State) : Event → State
  | .request task request =>
    match state.tasks.get task with
    | some _ => state
    | none => state.become task (request.start ext state.stored state.history.length)
  | .store task =>
    match state.tasks.get task with
    | some (.writing copy entry) =>
      { stored := copy, tasks := state.tasks.delete task, history := entry :: state.history }
    | some (.starting dispatch) =>
      { stored := dispatch.copy
        tasks := state.tasks.put task (.publishing dispatch)
        history := .dispatching :: state.history }
    | _ => state
  | .send task =>
    match state.tasks.get task with
    | some (.publishing dispatch) =>
      { state with
        tasks := state.tasks.put task (.sent dispatch)
        history := .published dispatch.message :: state.history }
    | _ => state
  | .answer task now result =>
    match state.tasks.get task, result with
    | some (.sent dispatch), result => state.become task (dispatch.finish ext now result)
    -- without a connection to the broker nothing is sent
    | some (.publishing dispatch), .error cause =>
      state.become task (dispatch.finish ext now (.error cause))
    | _, _ => state
  | .drop task => { state with tasks := state.tasks.delete task }

def State.created (draft : AgentCommandCandidate) (report : AgentValidationReport) : State where
  stored := { draft with status := .draft }.validated report
  tasks := .empty
  history := [.validated report.valid]

def run (start : State) (events : List Event) : State := events.foldl (step ext) start

/-- A human confirmed in sight of all that had happened, and nothing was validated since. -/
def FollowsConfirmation (history : List Entry) : Prop := ∃ since evidence before,
    history = since ++ .confirmed evidence before.length :: before ∧ evidence.isHuman = true ∧
      ∀ entry ∈ since, entry.isValidation = false

def AllApproved : List Entry → Prop
  | [] => True
  | entry :: earlier =>
    (entry.isPublished = true → FollowsConfirmation earlier ∧ .rejected ∉ earlier) ∧
      AllApproved earlier

/-- What the request writes back does not run over what others have written since: the candidate
is still open, a confirmation has seen everything, a dispatch starts from a confirmed candidate. -/
def cleanStep (state : State) : Event → Bool
  | .store task =>
    match state.tasks.get task with
    | some (.writing _ (.confirmed _ seen)) =>
      !state.stored.isClosed && seen == state.history.length
    | some (.writing _ (.validated _)) => !state.stored.isClosed
    | some (.writing _ .rejected) => !state.stored.isClosed
    | some (.starting _) => state.stored.status = .confirmed
    | _ => true
  | _ => true

def cleanRun : State → List Event → Bool := allAlong (step ext) cleanStep

/-! ## What holds throughout -/

/-- The copy of a request carries what the request will enter. -/
def Task.Fits : Task → Prop
  | .writing copy (.validated valid) =>
    copy.status = if valid then .awaitingConfirmation else .draft
  | .writing copy (.confirmed evidence _) => copy.status = .confirmed ∧ evidence.isHuman = true
  | .writing copy .rejected => copy.status = .rejected
  | .writing copy .dispatched => copy.status = .dispatched
  | .writing copy .failed => copy.status = .failed
  | .writing _ .dispatching => False
  | .writing _ (.published _) => False
  | .starting dispatch => dispatch.copy.status = .dispatching
  | .publishing dispatch => dispatch.copy.status = .dispatching
  | .sent dispatch => dispatch.copy.status = .dispatching

def Task.dispatches : Task → Bool
  | .writing _ .dispatched => true
  | .writing _ .failed => true
  | .publishing _ => true
  | .sent _ => true
  | _ => false

section

variable {cand copy : AgentCommandCandidate}

include cand copy

theorem recordValidation_ok
    {rep : AgentValidationReport} (h : cand.recordValidation rep = .ok copy) :
    copy.status = if rep.valid then .awaitingConfirmation else .draft := by
  unfold recordValidation at h
  obtain ⟨_,-,h⟩ := bind_eq_ok.mp h
  cases h
  rfl

theorem confirm_ok (h : cand.confirm evidence = .ok copy) :
    copy.status = .confirmed ∧ evidence.isHuman = true := by
  unfold AgentCommandCandidate.confirm at h
  obtain ⟨_,-,h⟩ := bind_eq_ok.mp h
  obtain ⟨_,-,h⟩ := bind_eq_ok.mp h
  obtain ⟨_,hh,h⟩ := bind_eq_ok.mp h
  obtain ⟨_,-,h⟩ := bind_eq_ok.mp h
  obtain ⟨_,-,h⟩ := bind_eq_ok.mp h
  cases h
  exact ⟨rfl,by simpa using hh⟩

theorem reject_ok
    (h : cand.reject ext rejectedBy note now = .ok copy) : copy.status = .rejected := by
  unfold AgentCommandCandidate.reject at h
  obtain ⟨_,-,h⟩ := bind_eq_ok.mp h
  obtain ⟨_,-,h⟩ := bind_eq_ok.mp h
  obtain ⟨_,-,h⟩ := bind_eq_ok.mp h
  cases h
  rfl

theorem startDispatch_ok (h : cand.startDispatch = .ok copy) : copy.status = .dispatching := by
  unfold startDispatch at h
  obtain ⟨_,-,h⟩ := bind_eq_ok.mp h
  cases h
  rfl

theorem finishDispatch_ok {status : AgentCommandCandidateStatus} {res : Json}
    (h : cand.finishDispatch status res = .ok copy) : copy.status = status := by
  unfold finishDispatch at h
  obtain ⟨_,-,h⟩ := bind_eq_ok.mp h
  cases h
  rfl

end

variable {stored : AgentCommandCandidate}

theorem start_cases {req : Request} (h : req.start ext stored seen = some task) :
    (∃ rep copy, stored.recordValidation rep = .ok copy ∧
      task = .writing copy (.validated rep.valid)) ∨
    (∃ rep checked evidence copy, stored.recordValidation rep = .ok checked ∧
      checked.confirm evidence = .ok copy ∧ task = .writing copy (.confirmed evidence seen)) ∨
    (∃ actor note now copy, stored.reject ext actor note now = .ok copy ∧
      task = .writing copy .rejected) ∨
    ∃ dispatch, stored.startDispatch = .ok dispatch.copy ∧ task = .starting dispatch := by
  cases req with
  | validate view =>
    simp only [Request.start] at h
    split at h
    · next copy hc =>
      cases h
      exact .inl ⟨_,copy,hc,rfl⟩
    · cases h
  | confirm view coApprover note =>
    simp only [Request.start] at h
    split at h
    · cases h
    · next copy hc =>
      split at h
      · split at h
        · next confirmed hco =>
          cases h
          exact .inr (.inl ⟨_,copy,_,confirmed,hc,hco,rfl⟩)
        · cases h
      · next hi =>
        cases h
        exact .inl ⟨_,copy,hc,by rw [Bool.eq_false_of_not_eq_true hi]⟩
  | reject view note =>
    simp only [Request.start] at h
    split at h
    · next copy hc =>
      cases h
      exact .inr (.inr (.inl ⟨_,_,_,copy,hc,rfl⟩))
    · cases h
  | dispatch view preflight =>
    simp only [Request.start] at h
    split at h
    · split at h
      · split at h
        · next prep copy _ hc =>
          cases h
          exact .inr (.inr (.inr ⟨_,hc,rfl⟩))
        · cases h
      · next hi =>
        split at h
        · next copy hc =>
          cases h
          exact .inl ⟨_,copy,hc,by rw [Bool.eq_false_of_not_eq_true hi]⟩
        · cases h
    · cases h

theorem start_fits {req : Request} (h : req.start ext stored seen = some task) :
    task.Fits ∧ task.dispatches = false := by
  rcases start_cases ext h with ⟨_,_,hc,rfl⟩ | ⟨_,_,_,_,-,hc,rfl⟩ | ⟨_,_,_,_,hc,rfl⟩ | ⟨_,hc,rfl⟩
  · exact ⟨recordValidation_ok hc,rfl⟩
  · exact ⟨confirm_ok hc,rfl⟩
  · exact ⟨reject_ok ext hc,rfl⟩
  · exact ⟨startDispatch_ok hc,rfl⟩

variable {res : Except String Unit} {dispatch : Dispatch}

theorem finish_cases (h : dispatch.finish ext now res = some task) : ∃ out copy,
      dispatch.copy.markDispatched out = .ok copy ∧ task = .writing copy .dispatched ∨
      dispatch.copy.markFailed out = .ok copy ∧ task = .writing copy .failed := by
  cases res with
  | ok =>
    simp only [Dispatch.finish] at h
    split at h
    · next copy hc =>
      cases h
      exact ⟨_,copy,.inl ⟨hc,rfl⟩⟩
    · cases h
  | error cause =>
    simp only [Dispatch.finish] at h
    split at h
    · next copy hc =>
      cases h
      exact ⟨_,copy,.inr ⟨hc,rfl⟩⟩
    · cases h

theorem finish_fits {now : Time} {task : Task} (h : dispatch.finish ext now res = some task) :
    task.Fits ∧ task.dispatches = true ∧ ∀ other, task ≠ .publishing other := by
  obtain ⟨_,_,⟨hc,rfl⟩ | ⟨hc,rfl⟩⟩ := finish_cases ext h
  all_goals exact ⟨finishDispatch_ok hc,rfl,fun _ => Task.noConfusion⟩

/-- The requests that wait: at most one of them has a dispatch under way, only while the candidate
is dispatching, and as long as it has not sent its message nothing was published. -/
structure TasksOk (tasks : OrderedMap Nat Task) (status : AgentCommandCandidateStatus)
    (history : List Entry) : Prop where
  fits : ∀ {task request}, tasks.get task = some request → request.Fits
  one : ∀ {task other request competing}, tasks.get task = some request →
    tasks.get other = some competing → request.dispatches = true → competing.dispatches = true →
      task = other
  active : ∀ {task request}, tasks.get task = some request → request.dispatches = true →
    status = .dispatching
  unsent : ∀ {task dispatch}, tasks.get task = some (.publishing dispatch) →
    history.countP Entry.isPublished = 0

structure HistoryOk (status : AgentCommandCandidateStatus) (history : List Entry) : Prop where
  once : history.countP Entry.isPublished ≤ 1
  unpublished : status ∉ [.dispatching, .dispatched, .failed] →
    history.countP Entry.isPublished = 0
  confirmed : status = .confirmed → ∃ evidence before,
    history = .confirmed evidence before.length :: before ∧ evidence.isHuman = true
  dispatching : status = .dispatching → FollowsConfirmation history
  rejected : .rejected ∈ history → status = .rejected
  approved : AllApproved history

structure Invariant (state : State) : Prop where
  tasks : TasksOk state.tasks state.stored.status state.history
  history : HistoryOk state.stored.status state.history

variable {req : Task}

section TasksOk

variable {tasks : OrderedMap Nat Task} {status : AgentCommandCandidateStatus}
  {history : List Entry}

theorem get_of_get_delete {other : Nat} (h : (tasks.delete task).get other = some req) :
    other ≠ task ∧ tasks.get other = some req := by
  rw [OrderedMap.get_delete] at h
  split at h
  · cases h
  · next hne => exact ⟨hne,h⟩

theorem get_of_get_put {other : Nat} (h : (tasks.put task req).get other = some found) :
    (other = task ∧ found = req) ∨ (other ≠ task ∧ tasks.get other = some found) := by
  rw [OrderedMap.get_put] at h
  split at h
  · next heq =>
    cases h
    exact .inl ⟨heq,rfl⟩
  · next hne => exact .inr ⟨hne,h⟩

theorem TasksOk.delete (h : TasksOk tasks status history) (task : Nat) :
    TasksOk (tasks.delete task) status history := by
  constructor
  · intro other req ho
    exact h.fits (get_of_get_delete ho).2
  · intro first second req competing hf hs
    exact h.one (get_of_get_delete hf).2 (get_of_get_delete hs).2
  · intro other req ho
    exact h.active (get_of_get_delete ho).2
  · intro other dispatch ho
    exact h.unsent (get_of_get_delete ho).2

def Alone (tasks : OrderedMap Nat Task) (task : Nat) : Prop :=
  ∀ {other request}, other ≠ task → tasks.get other = some request → request.dispatches = false

variable (h : TasksOk tasks status history)
include h

theorem TasksOk.alone (ht : tasks.get task = some req) (hd : req.dispatches = true) :
    Alone tasks task := by
  intro other competing hne ho
  by_contra hcompeting
  rw [Bool.not_eq_false] at hcompeting
  exact hne (h.one ho ht hcompeting hd)

theorem TasksOk.idle (hs : status ≠ .dispatching) (ht : tasks.get task = some req) :
    req.dispatches = false := by
  by_contra hdispatches
  rw [Bool.not_eq_false] at hdispatches
  exact hs (h.active ht hdispatches)

theorem TasksOk.put {hi : List Entry} (hfs : req.Fits) (ha : Alone tasks task)
    (hac : req.dispatches = true → status' = .dispatching)
    (hu : ∀ dispatch, req = .publishing dispatch → hi.countP Entry.isPublished = 0) :
    TasksOk (tasks.put task req) status' hi := by
  constructor
  · intro other found hf
    rcases get_of_get_put hf with ⟨-,rfl⟩ | ⟨-,ho⟩
    · exact hfs
    · exact h.fits ho
  · intro first second found competing hfi hs hf hc
    rcases get_of_get_put hfi with ⟨rfl,-⟩ | ⟨hne,ho⟩
    · rcases get_of_get_put hs with ⟨rfl,-⟩ | ⟨hne,ho⟩
      · rfl
      · rw [ha hne ho] at hc
        cases hc
    · rw [ha hne ho] at hf
      cases hf
  · intro other found hf hd
    rcases get_of_get_put hf with ⟨-,rfl⟩ | ⟨hne,ho⟩
    · exact hac hd
    · rw [ha hne ho] at hd
      cases hd
  · intro other dispatch hf
    rcases get_of_get_put hf with ⟨-,heq⟩ | ⟨hne,ho⟩
    · exact hu dispatch heq.symm
    · cases ha hne ho

theorem TasksOk.join (task : Nat) (hfs : req.Fits) (hq : req.dispatches = false) :
    TasksOk (tasks.put task req) status history := by
  constructor
  · intro other found hf
    rcases get_of_get_put hf with ⟨-,rfl⟩ | ⟨-,ho⟩
    · exact hfs
    · exact h.fits ho
  · intro first second found competing hfi hs hf hc
    rcases get_of_get_put hfi with ⟨-,rfl⟩ | ⟨-,ho⟩
    · rw [hq] at hf
      cases hf
    · rcases get_of_get_put hs with ⟨-,rfl⟩ | ⟨-,hot⟩
      · rw [hq] at hc
        cases hc
      · exact h.one ho hot hf hc
  · intro other found hf hd
    rcases get_of_get_put hf with ⟨-,rfl⟩ | ⟨-,ho⟩
    · rw [hq] at hd
      cases hd
    · exact h.active ho hd
  · intro other dispatch hf
    rcases get_of_get_put hf with ⟨-,rfl⟩ | ⟨-,ho⟩
    · cases hq
    · exact h.unsent ho

theorem TasksOk.leave (ha : Alone tasks task) : TasksOk (tasks.delete task) status' hi := by
  have hq : ∀ {other req}, (tasks.delete task).get other = some req → req.dispatches = false := by
    intro other req ho
    exact ha (get_of_get_delete ho).1 (get_of_get_delete ho).2
  constructor
  · intro other req ho
    exact h.fits (get_of_get_delete ho).2
  · intro first second req competing hf _ hd
    rw [hq hf] at hd
    cases hd
  · intro other req ho hd
    rw [hq ho] at hd
    cases hd
  · intro other dispatch ho
    cases hq ho

end TasksOk

variable {copy : AgentCommandCandidate} {entry : Entry}

section HistoryOk

variable {status : AgentCommandCandidateStatus} {history : List Entry}

theorem FollowsConfirmation.cons (h : FollowsConfirmation history)
    (he : entry.isValidation = false) : FollowsConfirmation (entry :: history) := by
  obtain ⟨since,evidence,before,rfl,hh,hs⟩ := h
  refine ⟨entry :: since,evidence,before,rfl,hh,?_⟩
  intro other hm
  rcases mem_cons.mp hm with rfl | hm
  · exact he
  · exact hs other hm

theorem AllApproved.cons (h : AllApproved history) (he : entry.isPublished = false) :
    AllApproved (entry :: history) := by
  refine ⟨fun hp => ?_,h⟩
  rw [he] at hp
  cases hp

theorem countP_cons_unpublished (he : entry.isPublished = false) :
    (entry :: history).countP Entry.isPublished = history.countP Entry.isPublished :=
  countP_cons_of_neg (by simp [he])

section

variable (h : HistoryOk status history)
include h

theorem HistoryOk.not_rejected (hs : status ≠ .rejected) : .rejected ∉ history :=
  fun hm => hs (h.rejected hm)

theorem HistoryOk.extend (he : entry.isPublished = false)
    (hu : status' ∉ [.dispatching,.dispatched,.failed] → history.countP Entry.isPublished = 0)
    (hc : status' = .confirmed → ∃ evidence, entry = .confirmed evidence history.length ∧
      evidence.isHuman = true)
    (hd : status' = .dispatching → FollowsConfirmation (entry :: history))
    (hs : status ≠ .rejected) (hr : entry = .rejected → status' = .rejected) :
    HistoryOk status' (entry :: history) where
  once := by
    rw [countP_cons_unpublished he]
    exact h.once
  unpublished := by
    rw [countP_cons_unpublished he]
    exact hu
  confirmed := by
    intro hco
    obtain ⟨evidence,rfl,hh⟩ := hc hco
    exact ⟨evidence,history,rfl,hh⟩
  dispatching := hd
  rejected := by
    intro hm
    rcases mem_cons.mp hm with heq | hm
    · exact hr heq.symm
    · exact absurd (h.rejected hm) hs
  approved := h.approved.cons he

theorem HistoryOk.write (hf : (Task.writing copy entry).Fits)
    (hq : (Task.writing copy entry).dispatches = false)
    (ho : status ∉ [.dispatching,.dispatched,.rejected,.failed])
    (hse : ∀ evidence seen, entry = .confirmed evidence seen → seen = history.length) :
    HistoryOk copy.status (entry :: history) := by
  have hn : history.countP Entry.isPublished = 0 := by
    apply h.unpublished
    simp only [mem_cons,not_mem_nil,or_false,not_or] at ho ⊢
    exact ⟨ho.1,ho.2.1,ho.2.2.2⟩
  have hs : status ≠ .rejected := by
    rintro rfl
    simp at ho
  cases entry with
  | validated valid =>
    have hc : copy.status = if valid then .awaitingConfirmation else .draft := hf
    refine h.extend rfl (fun _ => hn) ?_ ?_ hs (by simp)
    · rw [hc]
      cases valid <;> simp
    · rw [hc]
      cases valid <;> simp
  | confirmed evidence seen =>
    obtain ⟨hc,hh⟩ : copy.status = .confirmed ∧ evidence.isHuman = true := hf
    refine h.extend rfl (fun _ => hn) ?_ ?_ hs (by simp)
    · intro _
      exact ⟨evidence,by rw [hse evidence seen rfl],hh⟩
    · simp [hc]
  | rejected =>
    have hc : copy.status = .rejected := hf
    refine h.extend rfl (fun _ => hn) ?_ ?_ hs (fun _ => hc)
    · simp [hc]
    · simp [hc]
  | dispatching => exact hf.elim
  | published msg => exact hf.elim
  | dispatched => cases hq
  | failed => cases hq

end

theorem HistoryOk.start (h : HistoryOk .confirmed history) :
    HistoryOk .dispatching (.dispatching :: history) := by
  obtain ⟨evidence,before,hh,hhu⟩ := h.confirmed rfl
  refine h.extend rfl (by simp) (by simp) ?_ (by simp) (by simp)
  intro _
  refine ⟨[.dispatching],evidence,before,by rw [hh]; rfl,hhu,?_⟩
  simp [Entry.isValidation]

variable (h : HistoryOk .dispatching history)
include h

theorem HistoryOk.publish (hn : history.countP Entry.isPublished = 0) (msg : MqttPublishMessage) :
    HistoryOk .dispatching (.published msg :: history) where
  once := by rw [countP_cons_of_pos rfl,hn]
  unpublished := by simp
  confirmed := by simp
  dispatching := fun hs => (h.dispatching hs).cons rfl
  rejected := by
    intro hm
    rcases mem_cons.mp hm with heq | hm
    · cases heq
    · exact h.rejected hm
  approved := ⟨fun _ => ⟨h.dispatching rfl,h.not_rejected (by simp)⟩,h.approved⟩

theorem HistoryOk.finish (hf : (Task.writing copy entry).Fits)
    (hd : (Task.writing copy entry).dispatches = true) :
    HistoryOk copy.status (entry :: history) := by
  cases entry with
  | dispatched =>
    have hc : copy.status = .dispatched := hf
    rw [hc]
    exact h.extend rfl (by simp) (by simp) (by simp) (by simp) (by simp)
  | failed =>
    have hc : copy.status = .failed := hf
    rw [hc]
    exact h.extend rfl (by simp) (by simp) (by simp) (by simp) (by simp)
  | _ => cases hd

end HistoryOk

/-! ## Steps and runs -/

section Runs

variable {ext : Externals} {state : State}

theorem clean_writing (hc : cleanStep state (.store task) = true)
    (hg : state.tasks.get task = some (.writing copy entry)) (hf : (Task.writing copy entry).Fits)
    (hq : (Task.writing copy entry).dispatches = false) :
    state.stored.status ∉ [.dispatching,.dispatched,.rejected,.failed] ∧
      ∀ evidence seen, entry = .confirmed evidence seen → seen = state.history.length := by
  cases entry with
  | validated valid =>
    simp only [cleanStep,hg,isClosed,Bool.not_eq_true',decide_eq_false_iff_not] at hc
    exact ⟨hc,by simp⟩
  | confirmed evidence seen =>
    simp only [cleanStep,hg,isClosed,Bool.and_eq_true,Bool.not_eq_true',
      decide_eq_false_iff_not,beq_iff_eq] at hc
    refine ⟨hc.1,?_⟩
    rintro _ _ ⟨⟩
    exact hc.2
  | rejected =>
    simp only [cleanStep,hg,isClosed,Bool.not_eq_true',decide_eq_false_iff_not] at hc
    exact ⟨hc,by simp⟩
  | dispatching => exact hf.elim
  | published msg => exact hf.elim
  | dispatched => cases hq
  | failed => cases hq

section

variable (h : Invariant state)

include h

theorem Invariant.become {next : Option Task} (hp : ∀ req, next = some req →
      TasksOk (state.tasks.put task req) state.stored.status state.history) :
    Invariant (state.become task next) := by
  cases next with
  | none => exact ⟨h.tasks.delete task,h.history⟩
  | some req => exact ⟨hp req rfl,h.history⟩

theorem Invariant.write (hc : cleanStep state (.store task) = true)
    (hg : state.tasks.get task = some (.writing copy entry)) :
    Invariant ⟨copy,state.tasks.delete task,entry :: state.history⟩ := by
  have hf := h.tasks.fits hg
  cases hd : (Task.writing copy entry).dispatches with
  | true =>
    have hh := h.history
    rw [h.tasks.active hg hd] at hh
    exact ⟨h.tasks.leave (h.tasks.alone hg hd),hh.finish hf hd⟩
  | false =>
    obtain ⟨ho,hse⟩ := clean_writing hc hg hf hd
    have hi : Alone state.tasks task := by
      intro other req _ hot
      refine h.tasks.idle ?_ hot
      intro hs
      simp [hs] at ho
    exact ⟨h.tasks.leave hi,h.history.write hf hd ho hse⟩

theorem Invariant.start (hcl : cleanStep state (.store task) = true)
    (hg : state.tasks.get task = some (.starting dispatch)) :
    Invariant ⟨dispatch.copy,state.tasks.put task (.publishing dispatch),
      .dispatching :: state.history⟩ := by
  have hs : state.stored.status = .confirmed := by simpa [cleanStep,hg] using hcl
  have hc : dispatch.copy.status = .dispatching := h.tasks.fits hg
  have hh := h.history
  rw [hs] at hh
  have hi : Alone state.tasks task := by
    intro other req _ ho
    exact h.tasks.idle (by simp [hs]) ho
  refine ⟨h.tasks.put hc hi (fun _ => hc) ?_,?_⟩
  · intro _ _
    rw [countP_cons_unpublished rfl]
    exact hh.unpublished (by simp)
  · show HistoryOk dispatch.copy.status _
    rw [hc]
    exact hh.start

theorem Invariant.send (hg : state.tasks.get task = some (.publishing dispatch)) :
    Invariant { state with
      tasks := state.tasks.put task (.sent dispatch)
      history := .published dispatch.message :: state.history } := by
  have hs := h.tasks.active hg rfl
  have hc : dispatch.copy.status = .dispatching := h.tasks.fits hg
  refine ⟨h.tasks.put hc (h.tasks.alone hg rfl) (fun _ => hs) ?_,?_⟩
  · intro _ heq
    cases heq
  · have hh := h.history
    show HistoryOk state.stored.status _
    rw [hs] at hh ⊢
    exact hh.publish (h.tasks.unsent hg) dispatch.message

theorem Invariant.answer {task : Nat} {now : Time} (hg : state.tasks.get task = some req)
    (hd : req.dispatches = true) :
    Invariant (state.become task (dispatch.finish ext now res)) := by
  apply h.become
  intro next hn
  obtain ⟨hf,-,hs⟩ := finish_fits ext hn
  exact h.tasks.put hf (h.tasks.alone hg hd)
    (fun _ => h.tasks.active hg hd) (fun other heq => absurd heq (hs other))

theorem Invariant.step {ev : Event} (hc : cleanStep state ev = true) :
    Invariant (step ext state ev) := by
  cases ev with
  | request task req =>
    simp only [CommandApproval.step]
    split
    · exact h
    · apply h.become
      intro next hn
      obtain ⟨hf,hq⟩ := start_fits ext hn
      exact h.tasks.join task hf hq
  | store task =>
    simp only [CommandApproval.step]
    split
    · next hg => exact h.write hc hg
    · next hg => exact h.start hc hg
    · exact h
  | send task =>
    simp only [CommandApproval.step]
    split
    · next hg => exact h.send hg
    · exact h
  | answer task now res =>
    simp only [CommandApproval.step]
    split
    · next hg => exact h.answer hg rfl
    · next hg => exact h.answer hg rfl
    · exact h
  | drop task => exact ⟨h.tasks.delete task,h.history⟩

end

theorem Invariant.created (draft : AgentCommandCandidate) (rep : AgentValidationReport) :
    Invariant (.created draft rep) where
  tasks := by constructor <;> intros <;> contradiction
  history := by
    have hs : (State.created draft rep).stored.status =
        if rep.valid then .awaitingConfirmation else .draft := rfl
    rw [hs]
    constructor
    · exact Nat.zero_le 1
    · intro _
      rfl
    · cases rep.valid <;> simp
    · cases rep.valid <;> simp
    · simp [State.created]
    · exact ⟨by simp [Entry.isPublished],trivial⟩

def isSettled (status : AgentCommandCandidateStatus) : Bool :=
  status ∈ [.rejected,.dispatched,.failed]

@[simp] theorem stored_become (task : Nat) (next : Option Task) :
    (state.become task next).stored = state.stored := by
  cases next <;> rfl

theorem Invariant.settled_step (h : Invariant state) {ev : Event}
    (hcl : cleanStep state ev = true) (hse : isSettled state.stored.status = true) :
    (CommandApproval.step ext state ev).stored = state.stored := by
  have hs : state.stored.status ∈ [.rejected,.dispatched,.failed] := by simpa [isSettled] using hse
  cases ev with
  | request task req =>
    simp only [CommandApproval.step]
    split
    · rfl
    · exact stored_become task _
  | store task =>
    simp only [CommandApproval.step]
    split
    · next copy entry hg =>
      cases hd : (Task.writing copy entry).dispatches with
      | true =>
        rw [h.tasks.active hg hd] at hs
        simp at hs
      | false =>
        obtain ⟨ho,-⟩ := clean_writing hcl hg (h.tasks.fits hg) hd
        simp only [mem_cons,not_mem_nil,or_false,not_or] at ho hs
        rcases hs with heq | heq | heq
        · exact absurd heq ho.2.2.1
        · exact absurd heq ho.2.1
        · exact absurd heq ho.2.2.2
    · next dispatch hg =>
      have hc : state.stored.status = .confirmed := by simpa [cleanStep,hg] using hcl
      rw [hc] at hs
      simp at hs
    · rfl
  | send task =>
    simp only [CommandApproval.step]
    split <;> rfl
  | answer task now res =>
    simp only [CommandApproval.step]
    split
    · exact stored_become task _
    · exact stored_become task _
    · rfl
  | drop task => rfl

private theorem settled_run (h : Invariant state) (hs : isSettled state.stored.status = true)
    (hc : Along (step ext) (fun state ev => cleanStep state ev = true) state evs) :
    (run ext state evs).stored = state.stored := by
  refine (hc.keeps (fun next => Invariant next ∧ next.stored = state.stored) ?_ ⟨h,rfl⟩).2
  rintro next ev ⟨hi,he⟩ hcl
  exact ⟨hi.step hcl,(hi.settled_step hcl (by rwa [he])).trans he⟩

end Runs

/-- The command is published at most once, after a human confirmation that nothing was validated
after, and not after a rejection. -/
structure PublishedAsApproved (history : List Entry) : Prop where
  once : history.countP Entry.isPublished ≤ 1
  approved : AllApproved history

/-- In every run in which no request writes over what others have written since, at every point:
the command is published as approved, and a settled status stays. -/
theorem command_published_as_approved (ext : Externals) (draft : AgentCommandCandidate)
    (report : AgentValidationReport) (reached later : List Event)
    (hclean : cleanRun ext (.created draft report) (reached ++ later) = true) :
    PublishedAsApproved (run ext (.created draft report) reached).history ∧
      (isSettled (run ext (.created draft report) reached).stored.status = true →
        (run ext (.created draft report) (reached ++ later)).stored.status =
          (run ext (.created draft report) reached).stored.status) := by
  obtain ⟨hr,hl⟩ := along_append.mp (allAlong_iff.mp hclean)
  have hi : Invariant (run ext _ reached) :=
    hr.keeps Invariant (fun h hc => h.step hc) (.created draft report)
  refine ⟨⟨hi.history.once,hi.history.approved⟩,?_⟩
  intro hs
  have ha : run ext (.created draft report) (reached ++ later) =
      run ext (run ext (.created draft report) reached) later := foldl_append
  rw [ha,settled_run hi hs hl]

/-! ## Opening the valve -/

open ApprovedPlan

def openValve : State := .created (valveCommand (.bool true)) (.new [])

def confirmOpening (task : Nat) : Event :=
  .request task (.confirm openCommand.2.1 none (some "checked on site"))

def dispatchOpening (task : Nat) : Event :=
  .request task (.dispatch openCommand.2.1 openCommand.2.1)

/-- One request after the other. -/
theorem valve_opened_once :
    (run openCommand.1 openValve [confirmOpening 1,.store 1,dispatchOpening 2,.store 2,.send 2,
        .answer 2 0 (.ok ()),.store 2]).stored.status = .dispatched ∧
      PublishedAsApproved (run openCommand.1 openValve [confirmOpening 1,.store 1,
        dispatchOpening 2,.store 2,.send 2,.answer 2 0 (.ok ()),.store 2]).history :=
  ⟨by decide +kernel,(command_published_as_approved openCommand.1 (valveCommand (.bool true))
    (.new []) _ [] (by decide +kernel)).1⟩

/-- Two dispatches that overlap both publish; and a dispatch that overlaps a rejection publishes
after the rejection has succeeded. -/
theorem overlapping_requests_publish_twice_and_after_rejection :
    (run openCommand.1 openValve [confirmOpening 1,.store 1,dispatchOpening 2,dispatchOpening 3,
        .store 2,.store 3,.send 2,.send 3]).history.countP Entry.isPublished = 2 ∧
      (run openCommand.1 openValve [confirmOpening 1,.store 1,dispatchOpening 2,
        .request 3 (.reject openCommand.2.1 "not now"),.store 3]).stored.status = .rejected ∧
      (run openCommand.1 openValve [confirmOpening 1,.store 1,dispatchOpening 2,
        .request 3 (.reject openCommand.2.1 "not now"),.store 3,.store 2,.send 2]).stored.status =
          .dispatching ∧
      (run openCommand.1 openValve [confirmOpening 1,.store 1,dispatchOpening 2,
        .request 3 (.reject openCommand.2.1 "not now"),.store 3,.store 2,
        .send 2]).history.countP Entry.isPublished = 1 := by
  decide +kernel

end VelaEdge.Cloud.CommandApproval
