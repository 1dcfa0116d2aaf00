import VelaEdge.Runtime.CommandExecution

/-! Every interleaving of command deliveries to one store. A delivery is cut at its store
operations and adapter calls; deliveries run side by side, may be abandoned anywhere, and a crash
ends all of them while the store survives. -/
namespace VelaEdge.Runtime.CommandClaims

open Base Core Command LocalDb CommandExecution List OrderedMap Text Option
open Function

structure CommandRef where
  edgeId : String
  flowId : String
  commandId : String
deriving DecidableEq

inductive Phase where
  | claimed
  | writing (remaining : List PlannedPointWrite) (report : CommandExecutionReport)
  | reported (report : CommandExecutionReport)

structure Task where
  package : EdgeConfigPackage
  payload : Bytes
  plan : CommandExecutionPlan
  record : CommandAuditRecord
  phase : Phase

def Task.command (task : Task) : CommandRef :=
  ⟨task.package.edgeId,task.plan.flow.flowId,task.plan.commandId⟩

def Task.progress (task : Task) : Nat := match task.phase with
  | .claimed => 0
  | .writing remaining _ => task.plan.writes.length - remaining.length
  | .reported _ => task.plan.writes.length

inductive Answer where
  | refused (reason : String)
  | duplicate (report : CommandExecutionReport)
  | inProgress
  | conflict

structure Answered where
  delivery : Nat
  command : CommandRef
  answer : Answer

structure PhysicalWrite where
  delivery : Nat
  command : CommandRef
  index : Nat
  write : PlannedPointWrite

/-- The store, the deliveries at work by number, and what has happened: who got which claim, who
was turned away, what was written and what was completed. -/
structure State where
  db : Db
  tasks : Nat → Option Task
  nextDelivery : Nat
  owner : String → Option Nat
  answers : List Answered
  writes : List PhysicalWrite
  completions : List (String × CommandExecutionReport)

def State.initial : State where
  db := empty
  tasks := fun _ => none
  nextDelivery := 0
  owner := fun _ => none
  answers := []
  writes := []
  completions := []

inductive Event where
  | deliver (package : EdgeConfigPackage) (message : MqttCommandMessage) (flowId : String)
      (now : Time)
  | checkSafety (delivery : Nat) (now : Time)
  | write (delivery : Nat) (now : Time) (answer : Except String (Nat × List ProtocolWriteResult))
  | finish (delivery : Nat) (now : Time)
  | complete (delivery : Nat)
  | abandon (delivery : Nat)
  | crash
  | otherWrite (batch : List (WriteOp String StoredValue))

variable (ext : Externals)

def CommandRef.key (command : CommandRef) : String :=
  commandAuditKey ext command.edgeId command.flowId command.commandId

variable (s : State)

def State.setTask (delivery : Nat) (task : Option Task) : State :=
  { s with tasks := update s.tasks delivery task }

def State.turnAway (command : CommandRef) (answer : Answer) : State :=
  { s with
    nextDelivery := s.nextDelivery + 1
    answers := s.answers ++ [⟨s.nextDelivery,command,answer⟩] }

/-- Planning and claiming: the only store operation in between is the claim itself. -/
def deliver (package : EdgeConfigPackage) (message : MqttCommandMessage) (flowId : String)
    (now : Time) : State :=
  match routedFlow package message flowId,
      planCommandExecution ext package flowId message.payload now with
  | .error reason, _ => s.turnAway ⟨package.edgeId,flowId,""⟩ (.refused reason)
  | .ok (), .error reason => s.turnAway ⟨package.edgeId,flowId,""⟩ (.refused reason)
  | .ok (), .ok plan =>
    let command : CommandRef := ⟨package.edgeId,flowId,plan.commandId⟩
    match claimCommand ext s.db package.edgeId flowId plan.commandId message.payload now with
    | .error reason => s.turnAway command (.refused reason)
    | .ok (db,.started record) =>
      { s with
        db := db
        tasks := update s.tasks s.nextDelivery
          (some ⟨package,message.payload,plan,record,.claimed⟩)
        nextDelivery := s.nextDelivery + 1
        owner := update s.owner (command.key ext) (some s.nextDelivery) }
    | .ok (_,.duplicate record) =>
      match record.executionReport with
      | some report => s.turnAway command (.duplicate report)
      | none => s.turnAway command (.refused "completed command audit has no execution report")
    | .ok (_,.inProgress _) => s.turnAway command .inProgress
    | .ok (_,.conflict _) => s.turnAway command .conflict

def checkSafety (delivery : Nat) (task : Task) (now : Time) : State :=
  match enforcePersistentCommandSafety ext task.package.edgeId task.plan now s.db with
  | .ok (db,()) =>
    State.setTask { s with db := db } delivery (some
      { task with phase := .writing task.plan.writes (newReport task.plan now) })
  | .error error =>
    match commandSafetyFailureReport ext task.package task.plan error now with
    | .ok report => s.setTask delivery (some { task with phase := .reported report })
    | .error _ => s.setTask delivery none

def Task.physicalWrites (task : Task) (delivery : Nat) (sent : List PlannedPointWrite) :
    List PhysicalWrite :=
  (sent.zipIdx task.progress).map (fun item => ⟨delivery,task.command,item.2,item.1⟩)

def writeBatch (delivery : Nat) (task : Task) (remaining : List PlannedPointWrite)
    (report : CommandExecutionReport) (now : Time)
    (answer : Except String (Nat × List ProtocolWriteResult)) : State :=
  let next := absorb ext remaining report now answer
  let sent := sentWrites task.package remaining answer
  State.setTask { s with writes := s.writes ++ task.physicalWrites delivery sent } delivery
    (some { task with phase := .writing next.2 next.1 })

def finish (delivery : Nat) (task : Task) (report : CommandExecutionReport) (now : Time) : State :=
  match finishReport ext task.package task.plan report now with
  | .ok report => s.setTask delivery (some { task with phase := .reported report })
  | .error _ => s.setTask delivery none

def complete (delivery : Nat) (task : Task) (report : CommandExecutionReport) : State :=
  match completeCommand ext s.db task.package.edgeId task.payload report with
  | .ok (db,_) =>
    State.setTask { s with
      db := db
      completions := s.completions ++ [(task.command.key ext,report)] } delivery none
  | .error _ => s.setTask delivery none

/-- One event of a delivery at work; an event out of turn changes nothing. -/
def advance (delivery : Nat) (task : Task) : Event → State
  | .checkSafety _ now =>
    match task.phase with
    | .claimed => checkSafety ext s delivery task now
    | _ => s
  | .write _ now answer =>
    match task.phase with
    | .writing (write :: rest) report =>
      writeBatch ext s delivery task (write :: rest) report now answer
    | _ => s
  | .finish _ now =>
    match task.phase with
    | .writing [] report => finish ext s delivery task report now
    | _ => s
  | .complete _ =>
    match task.phase with
    | .reported report => complete ext s delivery task report
    | _ => s
  | .abandon _ => s.setTask delivery none
  | _ => s

def Event.delivery : Event → Option Nat
  | .checkSafety delivery _ => some delivery
  | .write delivery _ _ => some delivery
  | .finish delivery _ => some delivery
  | .complete delivery => some delivery
  | .abandon delivery => some delivery
  | _ => none

def step (event : Event) : State :=
  match event with
  | .deliver package message flowId now => deliver ext s package message flowId now
  | .crash => { s with tasks := fun _ => none }
  | .otherWrite batch =>
    if batch.all (fun op => !hasPrefix commandAuditPrefix op.key) then
      { s with db := s.db.write batch }
    else s
  | event =>
    match event.delivery with
    | none => s
    | some delivery =>
      match s.tasks delivery with
      | none => s
      | some task => advance ext s delivery task event

def run (events : List Event) : State := events.foldl (step ext) State.initial

/-! The invariant. -/

def SameAudit (before after : Db) : Prop :=
  ∀ key, hasPrefix commandAuditPrefix key = true → after.get key = before.get key

/-- A report for the command of a task that has not been stored yet. -/
def Task.Owns (task : Task) (report : CommandExecutionReport) : Prop :=
  report.flowId = task.plan.flow.flowId ∧ report.commandId = task.plan.commandId

def Phase.Valid (task : Task) : Phase → Prop
  | .claimed => True
  | .writing remaining report =>
    remaining.length ≤ task.plan.writes.length ∧ task.Owns report
  | .reported report => task.Owns report

/-- A delivery at work holds the claim, and its record still is the one it claimed. -/
structure Working (s : State) (delivery : Nat) (task : Task) : Prop where
  owner : s.owner (task.command.key ext) = some delivery
  stored : s.db.get (task.command.key ext) = some (.commandAudit task.record)
  flowId : task.record.flowId = task.plan.flow.flowId
  commandId : task.record.commandId = task.plan.commandId
  digest : task.record.payloadDigest = sha256Hex ext task.payload
  processing : task.record.state = .processing
  phase : task.phase.Valid task

structure Inv (s : State) : Prop where
  claimed : ∀ key delivery, s.owner key = some delivery →
    delivery < s.nextDelivery ∧ hasPrefix commandAuditPrefix key = true ∧
      ∃ record, s.db.get key = some (.commandAudit record)
  working : ∀ delivery task, s.tasks delivery = some task → Working ext s delivery task
  written : ∀ entry ∈ s.writes, s.owner (entry.command.key ext) = some entry.delivery ∧
    ∀ task, s.tasks entry.delivery = some task → entry.index < task.progress
  ordered : s.writes.Pairwise (fun earlier later =>
    earlier.delivery = later.delivery → earlier.index < later.index)
  answered : ∀ answered ∈ s.answers, answered.delivery < s.nextDelivery ∧
    ∀ key, s.owner key ≠ some answered.delivery
  replayed : ∀ answered ∈ s.answers, ∀ report, answered.answer = .duplicate report →
    ∃ first, (answered.command.key ext, first) ∈ s.completions ∧
      report = { first with duplicate := true }
  completedOnce : (s.completions.map Prod.fst).Nodup
  completed : ∀ key record, hasPrefix commandAuditPrefix key = true →
    s.db.get key = some (.commandAudit record) → record.state ≠ .processing →
    ∃ first, (key, first) ∈ s.completions ∧
      record.executionReport = some { first with duplicate := true }
  terminal : ∀ key first, (key, first) ∈ s.completions →
    hasPrefix commandAuditPrefix key = true ∧
      ∃ record, s.db.get key = some (.commandAudit record) ∧ record.state ≠ .processing

variable {ext} {s : State}

@[simp] theorem CommandRef.key_inside (cmd : CommandRef) :
    hasPrefix commandAuditPrefix (cmd.key ext) = true :=
  commandAuditKey_inside ext _ _ _

theorem Inv.setDb (h : Inv ext s) (hs : SameAudit s.db db) : Inv ext { s with db := db } where
  claimed := by
    intro key delivery ho
    obtain ⟨hlt,hi,record,hr⟩ := h.claimed key delivery ho
    exact ⟨hlt,hi,record,(hs key hi).trans hr⟩
  working := by
    intro delivery task ht
    have hw := h.working delivery task ht
    exact { hw with stored := (hs _ (CommandRef.key_inside _)).trans hw.stored }
  written := h.written
  ordered := h.ordered
  answered := h.answered
  replayed := h.replayed
  completedOnce := h.completedOnce
  completed := by
    intro key record hi hr
    exact h.completed key record hi ((hs key hi).symm.trans hr)
  terminal := by
    intro key first hf
    obtain ⟨hi,record,hr,hst⟩ := h.terminal key first hf
    exact ⟨hi,record,(hs key hi).trans hr,hst⟩

theorem Inv.dropTask (h : Inv ext s) (delivery : Nat) : Inv ext (s.setTask delivery none) :=
  { h with
    working := by
      intro other task ht
      by_cases ho : other = delivery
      · simp [State.setTask,ho] at ht
      · refine { h.working other task ?_ with }
        simpa [State.setTask,ho] using ht
    written := by
      intro entry he
      obtain ⟨how,hi⟩ := h.written entry he
      refine ⟨how,fun task ht => hi task ?_⟩
      by_cases ho : entry.delivery = delivery
      · simp [State.setTask,ho] at ht
      · simpa [State.setTask,ho] using ht }

theorem Inv.setPhase (h : Inv ext s) {delivery : Nat} (ht : s.tasks delivery = some task)
    {phase : Phase} (hv : phase.Valid task)
    (hp : task.progress ≤ { task with phase := phase }.progress) :
    Inv ext (s.setTask delivery (some { task with phase := phase })) :=
  { h with
    working := by
      intro other found hf
      by_cases ho : other = delivery
      · simp only [State.setTask,ho,update_self,some.injEq] at hf
        subst ho hf
        exact { h.working other task ht with phase := hv }
      · refine { h.working other found ?_ with }
        simpa [State.setTask,ho] using hf
    written := by
      intro entry he
      obtain ⟨how,hi⟩ := h.written entry he
      refine ⟨how,fun found hf => ?_⟩
      by_cases ho : entry.delivery = delivery
      · simp only [State.setTask,ho,update_self,some.injEq] at hf
        subst hf
        exact lt_of_lt_of_le (hi task (ho ▸ ht)) hp
      · exact hi found (by simpa [State.setTask,ho] using hf) }

private theorem newReport_owned (task : Task) (now : Time) : task.Owns (newReport task.plan now) :=
  ⟨rfl,rfl⟩

theorem enforcePersistentCommandSafety_sameAudit {plan : CommandExecutionPlan} {after : Db}
    (h : enforcePersistentCommandSafety ext edge plan now db = .ok (after,())) :
    SameAudit db after := by
  obtain ⟨batch,rfl,hb⟩ := enforcePersistentCommandSafety_writes ext h
  intro key hk
  refine get_write_of_untouched _ _ _ fun op hop heq => ?_
  obtain ⟨limit,-,hop⟩ := hb op hop
  have ho := outside_audit_of_rate (commandRateKey_inside ext edge plan.flow.flowId
    limit.gateId)
  rw [← hop,heq,hk] at ho
  cases ho

theorem checkSafety_inv (h : Inv ext s) {delivery : Nat} (ht : s.tasks delivery = some task)
    (hp : task.phase = .claimed) (now : Time) : Inv ext (checkSafety ext s delivery task now) := by
  have hs : task.progress = 0 := by simp [Task.progress,hp]
  unfold checkSafety
  split
  · next db hsa =>
    refine (h.setDb (enforcePersistentCommandSafety_sameAudit hsa)).setPhase ht
      ⟨le_rfl,newReport_owned task now⟩ ?_
    rw [hs]
    exact Nat.zero_le _
  · split
    · next rep hr =>
      refine h.setPhase ht (commandSafetyFailureReport_ids ext hr) ?_
      rw [hs]
      exact Nat.zero_le _
    · exact h.dropTask delivery

theorem physicalWrites_ordered (task : Task) (delivery : Nat) (sent : List PlannedPointWrite) :
    (task.physicalWrites delivery sent).Pairwise (fun earlier later =>
      earlier.delivery = later.delivery → earlier.index < later.index) := by
  unfold Task.physicalWrites
  rw [pairwise_map]
  have hi : ((sent.zipIdx task.progress).map Prod.snd).Pairwise (· < ·) := by
    rw [zipIdx_map_snd]
    exact pairwise_lt_range'
  refine (pairwise_map.mp hi).imp ?_
  intro earlier later hlt _
  exact hlt

private theorem mem_physicalWrites {task : Task} {delivery : Nat}
    (h : entry ∈ task.physicalWrites delivery sent) :
    entry.delivery = delivery ∧ entry.command = task.command ∧ task.progress ≤ entry.index ∧
      entry.index < task.progress + sent.length := by
  obtain ⟨⟨write,index⟩,hi,rfl⟩ := mem_map.mp h
  obtain ⟨hle,hlt,-⟩ := mem_zipIdx hi
  exact ⟨rfl,rfl,hle,hlt⟩

section

variable (h : Inv ext s) {delivery : Nat} (ht : s.tasks delivery = some task)
  {rep : CommandExecutionReport}

include h delivery ht rep

theorem writeBatch_inv (hp : task.phase = .writing remaining rep) (now : Time)
    (answer : Except String (Nat × List ProtocolWriteResult)) :
    Inv ext (writeBatch ext s delivery task remaining rep now answer) := by
  have hw := h.working delivery task ht
  have hv := hw.phase
  rw [hp] at hv
  have hpr : task.progress = task.plan.writes.length - remaining.length := by
    simp [Task.progress,hp]
  have hse := sentWrites_length_le ext task.package remaining rep now answer
  have hi := absorb_ids ext remaining rep now answer
  -- first the phase moves on, then the new entries stay below its progress
  have hn : Inv ext (s.setTask delivery (some { task with
      phase := .writing (absorb ext remaining rep now answer).2
        (absorb ext remaining rep now answer).1 })) := by
    refine h.setPhase ht ⟨?_,hi.1.trans hv.2.1,hi.2.trans hv.2.2⟩ ?_
    · have := hv.1
      omega
    · rw [hpr]
      simp only [Task.progress]
      omega
  refine { hn with
    working := fun other found hf => { hn.working other found hf with }
    written := ?_
    ordered := ?_ }
  · intro entry he
    rcases mem_append.mp he with he | he
    · exact hn.written entry he
    · obtain ⟨hd,hc,-,hlt⟩ := mem_physicalWrites he
      refine ⟨by rw [hc,hd]; exact hw.owner,fun found hf => ?_⟩
      simp only [writeBatch,State.setTask,hd,update_self,some.injEq] at hf
      subst hf
      have := hv.1
      simp only [Task.progress] at hlt ⊢
      rw [hp] at hlt
      dsimp only at hlt
      omega
  · refine pairwise_append.mpr ⟨h.ordered,physicalWrites_ordered _ _ _,?_⟩
    intro earlier hea later hl hs
    obtain ⟨hd,-,hle,-⟩ := mem_physicalWrites hl
    have hb := (h.written earlier hea).2 task (by rw [hs,hd]; exact ht)
    exact lt_of_lt_of_le hb hle

theorem finish_inv (hp : task.phase = .writing [] rep) (now : Time) :
    Inv ext (finish ext s delivery task rep now) := by
  have hv := (h.working delivery task ht).phase
  rw [hp] at hv
  unfold finish
  split
  · next finished hf =>
    obtain ⟨hfl,hc⟩ := finishReport_ids ext hf
    refine h.setPhase ht ⟨hfl.trans hv.2.1,hc.trans hv.2.2⟩ ?_
    simp [Task.progress,hp]
  · exact h.dropTask delivery

variable (hp : task.phase = .reported rep)
include hp

theorem complete_eq : complete ext s delivery task rep = State.setTask { s with
      db := s.db.put (task.command.key ext) (.commandAudit (completedRecord task.record rep))
      completions := s.completions ++ [(task.command.key ext,rep)] } delivery none := by
  have hw := h.working delivery task ht
  have hv := hw.phase
  rw [hp] at hv
  have hk : commandAuditKey ext task.package.edgeId rep.flowId rep.commandId =
      task.command.key ext := by
    rw [hv.1,hv.2]
    rfl
  unfold complete
  rw [completeCommand_eq ext (by rw [hk]; exact hw.stored) hw.digest hw.processing,hk]

theorem complete_inv : Inv ext (complete ext s delivery task rep) := by
  have hw := h.working delivery task ht
  have hv := hw.phase
  rw [hp] at hv
  rw [complete_eq h ht hp]
  have hd := h.dropTask delivery
  have hfr : ∀ first, (task.command.key ext,first) ∉ s.completions := by
    intro first hf
    obtain ⟨-,record,hr,hs⟩ := h.terminal _ _ hf
    rw [hw.stored] at hr
    cases hr
    exact hs hw.processing
  refine {
    claimed := ?_
    working := ?_
    written := hd.written
    ordered := h.ordered
    answered := h.answered
    replayed := ?_
    completedOnce := ?_
    completed := ?_
    terminal := ?_ }
  · intro key other ho
    obtain ⟨hlt,hi,record,hr⟩ := h.claimed key other ho
    refine ⟨hlt,hi,?_⟩
    by_cases hk : key = task.command.key ext
    · subst hk
      exact ⟨_,get_put_self _ _ _⟩
    · exact ⟨record,(get_put_of_ne _ _ hk).trans hr⟩
  · -- another delivery at work has another key: the claim of this one is taken
    intro other found hfo
    have hot := hd.working other found hfo
    refine { hot with stored := ?_ }
    have hne : found.command.key ext ≠ task.command.key ext := by
      intro heq
      have ho := hot.owner
      rw [heq] at ho
      have hsa : other = delivery := some.inj (ho.symm.trans hw.owner)
      simp [State.setTask,hsa] at hfo
    exact (get_put_of_ne _ _ hne).trans hot.stored
  · intro answered ha replay hre
    obtain ⟨first,hf,heq⟩ := h.replayed answered ha replay hre
    exact ⟨first,mem_append_left _ hf,heq⟩
  · change ((s.completions ++ [(task.command.key ext,rep)]).map Prod.fst).Nodup
    rw [map_append,nodup_append]
    refine ⟨h.completedOnce,nodup_singleton _,?_⟩
    intro key hk other hor heq
    obtain ⟨⟨found,first⟩,hf,rfl⟩ := mem_map.mp hk
    rw [map_singleton,mem_singleton] at hor
    rw [hor] at heq
    subst heq
    exact hfr first hf
  · intro key record hi hr hs
    by_cases hk : key = task.command.key ext
    · subst hk
      have hst := get_put_self s.db (task.command.key ext)
        (.commandAudit (completedRecord task.record rep))
      cases some.inj (hr.symm.trans hst)
      exact ⟨rep,mem_append_right _ (mem_singleton_self _),
        completedRecord_executionReport (hw.flowId.trans hv.1.symm)
          (hw.commandId.trans hv.2.symm)⟩
    · obtain ⟨first,hf,heq⟩ := h.completed key record hi
        ((get_put_of_ne _ _ hk).symm.trans hr) hs
      exact ⟨first,mem_append_left _ hf,heq⟩
  · intro key first hf
    by_cases hk : key = task.command.key ext
    · subst hk
      exact ⟨CommandRef.key_inside _,_,get_put_self _ _ _,completedRecord_state _ _⟩
    · rcases mem_append.mp hf with hf | hf
      · obtain ⟨hi,record,hr,hs⟩ := h.terminal key first hf
        exact ⟨hi,record,(get_put_of_ne _ _ hk).trans hr,hs⟩
      · exact absurd (congrArg Prod.fst (mem_singleton.mp hf)) hk

end

theorem Inv.turnAway (h : Inv ext s) (cmd : CommandRef) (answer : Answer)
    (han : ∀ rep, answer = .duplicate rep → ∃ first, (cmd.key ext,first) ∈ s.completions ∧
        rep = { first with duplicate := true }) : Inv ext (s.turnAway cmd answer) :=
  { h with
    claimed := by
      intro key delivery ho
      obtain ⟨hlt,hre⟩ := h.claimed key delivery ho
      exact ⟨Nat.lt_succ_of_lt hlt,hre⟩
    working := fun delivery task ht => { h.working delivery task ht with }
    answered := by
      intro answered ha
      rcases mem_append.mp ha with ha | ha
      · obtain ⟨hlt,ho⟩ := h.answered answered ha
        exact ⟨Nat.lt_succ_of_lt hlt,ho⟩
      · rw [mem_singleton.mp ha]
        exact ⟨Nat.lt_succ_self _,fun key ho =>
          lt_irrefl _ (h.claimed key s.nextDelivery ho).1⟩
    replayed := by
      intro answered ha rep hr
      rcases mem_append.mp ha with ha | ha
      · exact h.replayed answered ha rep hr
      · rw [mem_singleton.mp ha] at hr ⊢
        exact han rep hr }

theorem Inv.start (h : Inv ext s) (task : Task) (hp : task.phase = .claimed)
    (hfl : task.record.flowId = task.plan.flow.flowId)
    (hc : task.record.commandId = task.plan.commandId)
    (hdi : task.record.payloadDigest = sha256Hex ext task.payload)
    (hs : task.record.state = .processing) (ha : s.db.get (task.command.key ext) = none) :
    Inv ext { s with
      db := s.db.put (task.command.key ext) (.commandAudit task.record)
      tasks := update s.tasks s.nextDelivery (some task)
      nextDelivery := s.nextDelivery + 1
      owner := update s.owner (task.command.key ext) (some s.nextDelivery) } := by
  have hfr : ∀ key delivery, s.owner key = some delivery → key ≠ task.command.key ext := by
    intro key delivery ho heq
    obtain ⟨-,-,record,hr⟩ := h.claimed key delivery ho
    rw [heq,ha] at hr
    cases hr
  have hke : ∀ key delivery, s.owner key = some delivery →
      update s.owner (task.command.key ext) (some s.nextDelivery) key = some delivery :=
    fun key delivery ho => by rw [update_of_ne (hfr key delivery ho),ho]
  refine {
    claimed := ?_
    working := ?_
    written := ?_
    ordered := h.ordered
    answered := ?_
    replayed := h.replayed
    completedOnce := h.completedOnce
    completed := ?_
    terminal := ?_ }
  · intro key delivery ho
    by_cases hk : key = task.command.key ext
    · subst hk
      simp only [update_self,some.injEq] at ho
      exact ⟨by rw [← ho]; exact Nat.lt_succ_self _,CommandRef.key_inside _,_,get_put_self _ _ _⟩
    · simp only [update_of_ne hk] at ho
      obtain ⟨hlt,hi,record,hr⟩ := h.claimed key delivery ho
      exact ⟨Nat.lt_succ_of_lt hlt,hi,record,(get_put_of_ne _ _ hk).trans hr⟩
  · intro delivery found hf
    by_cases hd : delivery = s.nextDelivery
    · subst hd
      simp only [update_self,some.injEq] at hf
      subst hf
      exact {
        owner := update_self _ _ _
        stored := get_put_self _ _ _
        flowId := hfl
        commandId := hc
        digest := hdi
        processing := hs
        phase := by rw [hp]; trivial }
    · simp only [update_of_ne hd] at hf
      have hw := h.working delivery found hf
      exact { hw with
        owner := hke _ _ hw.owner
        stored := (get_put_of_ne _ _ (hfr _ _ hw.owner)).trans
          hw.stored }
  · intro entry he
    obtain ⟨ho,hin⟩ := h.written entry he
    refine ⟨hke _ _ ho,fun found hf => ?_⟩
    have hne : entry.delivery ≠ s.nextDelivery := (h.claimed _ _ ho).1.ne
    simp only [update_of_ne hne] at hf
    exact hin found hf
  · intro answered han
    obtain ⟨hlt,ho⟩ := h.answered answered han
    refine ⟨Nat.lt_succ_of_lt hlt,fun key hk => ?_⟩
    by_cases hsa : key = task.command.key ext
    · subst hsa
      simp only [update_self,some.injEq] at hk
      exact hlt.ne hk.symm
    · simp only [update_of_ne hsa] at hk
      exact ho key hk
  · intro key record hi hr ht
    by_cases hk : key = task.command.key ext
    · subst hk
      cases some.inj (hr.symm.trans (get_put_self _ _ _))
      exact absurd hs ht
    · exact h.completed key record hi
        ((get_put_of_ne _ _ hk).symm.trans hr) ht
  · intro key first hfi
    obtain ⟨hi,record,hr,ht⟩ := h.terminal key first hfi
    refine ⟨hi,record,(get_put_of_ne _ _ ?_).trans hr,ht⟩
    intro heq
    rw [heq,ha] at hr
    cases hr

theorem deliver_inv (h : Inv ext s) (pkg : EdgeConfigPackage) (msg : MqttCommandMessage)
    (flow : String) (now : Time) : Inv ext (deliver ext s pkg msg flow now) := by
  unfold deliver
  split
  · exact h.turnAway _ _ (by simp)
  · exact h.turnAway _ _ (by simp)
  · next plan _ hp =>
    have hfl := plan_flowId ext hp
    split
    · exact h.turnAway _ _ (by simp)
    · next db record hc =>
      cases claims_of_ok ext hc with
      | started ha =>
        subst hfl
        exact h.start ⟨pkg,msg.payload,plan,_,.claimed⟩ rfl rfl rfl rfl rfl ha
    · next record hc =>
      cases claims_of_ok ext hc with
      | duplicate _ hre _ hs =>
        obtain ⟨first,hf,hr⟩ := h.completed _ record (commandAuditKey_inside ext _ _ _) hre hs
        simp only [hr]
        refine h.turnAway _ _ ?_
        intro rep heq
        cases heq
        exact ⟨first,hf,rfl⟩
    · exact h.turnAway _ _ (by simp)
    · exact h.turnAway _ _ (by simp)

theorem otherWrite_sameAudit (db : Db) {batch : List (WriteOp String StoredValue)}
    (h : batch.all (fun op => !hasPrefix commandAuditPrefix op.key) = true) :
    SameAudit db (db.write batch) := by
  have ho : ∀ op ∈ batch, hasPrefix commandAuditPrefix op.key = false := by simpa using h
  intro key hk
  refine get_write_of_untouched _ _ _ fun op hop heq => ?_
  have := ho op hop
  rw [heq,hk] at this
  cases this

private theorem advance_inv (h : Inv ext s) {delivery : Nat} (ht : s.tasks delivery = some task)
    (ev : Event) : Inv ext (advance ext s delivery task ev) := by
  unfold advance
  split
  · split
    · next hp => exact checkSafety_inv h ht hp _
    · exact h
  · split
    · next hp => exact writeBatch_inv h ht hp _ _
    · exact h
  · split
    · next hp => exact finish_inv h ht hp _
    · exact h
  · split
    · next hp => exact complete_inv h ht hp
    · exact h
  · exact h.dropTask delivery
  · exact h

theorem step_inv (h : Inv ext s) (ev : Event) : Inv ext (step ext s ev) := by
  unfold step
  split
  · exact deliver_inv h _ _ _ _
  · exact { h with
      working := by simp
      written := fun entry he => ⟨(h.written entry he).1,by simp⟩ }
  · split
    · next hb => exact h.setDb (otherWrite_sameAudit s.db hb)
    · exact h
  · split
    · exact h
    · split
      · exact h
      · next ht => exact advance_inv h ht _

private theorem initial_inv : Inv ext State.initial where
  claimed := by simp [State.initial]
  working := by simp [State.initial]
  written := by simp [State.initial]
  ordered := .nil
  answered := by simp [State.initial]
  replayed := by simp [State.initial]
  completedOnce := .nil
  completed := by simp [State.initial]
  terminal := by simp [State.initial]

theorem run_inv (evs : List Event) : Inv ext (run ext evs) :=
  List.foldlRecOn evs (step ext) initial_inv fun _ h ev _ => step_inv h ev

/-! What can happen to a stored record. -/

/-- A record stays as it is, or it was being processed and is now completed. -/
def RecordStep (record : CommandAuditRecord) (after : Option StoredValue) : Prop :=
  after = some (.commandAudit record) ∨ (record.state = .processing ∧
      ∃ report, after = some (.commandAudit (completedRecord record report)))

variable {record : CommandAuditRecord} {key : String}

section

variable (hr : s.db.get key = some (.commandAudit record))
include hr

theorem deliver_record (pkg : EdgeConfigPackage) (msg : MqttCommandMessage) (flow : String)
    (now : Time) :
    (deliver ext s pkg msg flow now).db.get key = some (.commandAudit record) := by
  unfold deliver
  split
  · exact hr
  · exact hr
  · split
    · exact hr
    · next db found hc =>
      cases claims_of_ok ext hc with
      | started ha =>
        refine (get_put_of_ne _ _ ?_).trans hr
        intro heq
        rw [heq,ha] at hr
        cases hr
    · split <;> exact hr
    · exact hr
    · exact hr

variable (h : Inv ext s) (hi : hasPrefix commandAuditPrefix key = true)
include h hi

private theorem advance_record {delivery : Nat} (ht : s.tasks delivery = some task) (ev : Event) :
    RecordStep record ((advance ext s delivery task ev).db.get key) := by
  unfold advance
  split
  · split
    · unfold checkSafety
      split
      · next hs =>
        exact .inl ((enforcePersistentCommandSafety_sameAudit hs key hi).trans hr)
      · split <;> exact .inl hr
    · exact .inl hr
  · split <;> exact .inl hr
  · split
    · unfold finish
      split <;> exact .inl hr
    · exact .inl hr
  · split
    · next rep hp =>
      rw [complete_eq h ht hp]
      have hw := h.working delivery task ht
      by_cases hk : key = task.command.key ext
      · subst hk
        rw [hw.stored] at hr
        cases hr
        exact .inr ⟨hw.processing,rep,get_put_self _ _ _⟩
      · exact .inl ((get_put_of_ne _ _ hk).trans hr)
    · exact .inl hr
  · exact .inl hr
  · exact .inl hr

theorem step_record (ev : Event) :
    RecordStep record ((step ext s ev).db.get key) := by
  unfold step
  split
  · exact .inl (deliver_record hr _ _ _ _)
  · exact .inl hr
  · split
    · next hb => exact .inl ((otherWrite_sameAudit s.db hb key hi).trans hr)
    · exact .inl hr
  · split
    · exact .inl hr
    · split
      · exact .inl hr
      · next ht => exact advance_record hr h hi ht _

private theorem run_terminal (evs : List Event) (hs : record.state ≠ .processing) :
    (evs.foldl (step ext) s).db.get key = some (.commandAudit record) := by
  induction evs generalizing s with
  | nil => exact hr
  | cons ev evs ih =>
    refine ih ?_ (step_inv h ev)
    rcases step_record hr h hi ev with hsa | ⟨hp,-⟩
    · exact hsa
    · exact absurd hp hs

end

/-- In every run the writes of a command are handed out at most once each, by the one delivery
that got its claim; a delivery that was turned away writes nothing, and one that is told it is a
duplicate gets the report of the only completion; a stored record changes once at most, from being
processed to completed. -/
theorem run_writes_once (events : List Event) :
    (run ext events).writes.Pairwise (fun earlier later => earlier.command = later.command →
      earlier.delivery = later.delivery ∧ earlier.index < later.index) ∧
    (∀ answered ∈ (run ext events).answers, ∀ write ∈ (run ext events).writes,
      write.delivery ≠ answered.delivery) ∧
    (∀ answered ∈ (run ext events).answers, ∀ report, answered.answer = .duplicate report →
      ∃ first, (answered.command.key ext,first) ∈ (run ext events).completions ∧
        report = { first with duplicate := true }) ∧
    ((run ext events).completions.map Prod.fst).Nodup ∧
    (∀ (command : CommandRef) record, commandAudit ext (run ext events).db command.edgeId
        command.flowId command.commandId = .ok (some record) →
      (∀ event, commandAudit ext (step ext (run ext events) event).db command.edgeId
          command.flowId command.commandId = .ok (some record) ∨
        (record.state = .processing ∧
          ∃ report, commandAudit ext (step ext (run ext events) event).db command.edgeId
            command.flowId command.commandId = .ok (some (completedRecord record report)))) ∧
      (record.state ≠ .processing → ∀ later, commandAudit ext (run ext (events ++ later)).db
        command.edgeId command.flowId command.commandId = .ok (some record))) := by
  have h : Inv ext (run ext events) := run_inv events
  refine ⟨?_,?_,h.replayed,h.completedOnce,?_⟩
  · -- the claim on a command's key has one owner, who wrote all there is for it
    refine (List.Pairwise.and_mem.mp h.ordered).imp ?_
    rintro earlier later ⟨he,hl,hin⟩ hc
    have ho := (h.written earlier he).1
    rw [hc] at ho
    have hd : earlier.delivery = later.delivery := some.inj (ho.symm.trans (h.written later hl).1)
    exact ⟨hd,hin hd⟩
  · intro answered ha write hw heq
    exact (h.answered answered ha).2 _ (heq ▸ (h.written write hw).1)
  · intro command record hr
    have hi := commandAuditKey_inside ext command.edgeId command.flowId command.commandId
    have hs := commandAuditByKey_some.mp hr
    refine ⟨fun event => ?_,fun hst later => ?_⟩
    · rcases step_record hs h hi event with hsa | ⟨hp,report,hdo⟩
      · exact .inl (commandAuditByKey_some.mpr hsa)
      · exact .inr ⟨hp,report,commandAuditByKey_some.mpr hdo⟩
    · refine commandAuditByKey_some.mpr ?_
      unfold run
      rw [foldl_append]
      exact run_terminal hs h hi later hst

end VelaEdge.Runtime.CommandClaims
