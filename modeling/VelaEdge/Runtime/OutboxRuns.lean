import VelaEdge.Base.DeliveryQueue
import VelaEdge.Runtime.Outbox

/-! Whole runs of the outbox: enqueues at any time, one flush at a time with its publish attempts
taken apart, and a crash between any two store writes. The history of a run is kept beside the
store and refines an abstract delivery queue. -/
namespace VelaEdge.Runtime.OutboxRuns

open Base Core LocalDb Outbox List OrderedMap DeliveryQueue

inductive FlushPhase where
  | idle
  | offered
  | confirmed
  | refused (error : String)
deriving DecidableEq

/-- A flush in progress: the entries it has not dealt with, the first of them being worked on. -/
structure Flush where
  remaining : List MqttOutboxEntry
  phase : FlushPhase

/-- The store, the flush that holds the flush lock, and what has happened so far. -/
structure State where
  db : Db
  flush : Option Flush
  enqueued : List (Nat × MqttPublishMessage)
  acknowledged : List (Nat × MqttPublishMessage)
  attempts : List Attempt

def State.initial : State := ⟨empty,none,[],[],[]⟩

/-- The message the publisher has been offered and has not settled in the store yet. -/
def State.current (s : State) : Option Nat := match s.flush with
  | some ⟨entry :: _,phase⟩ => if phase = .idle then none else some entry.sequence
  | _ => none

def State.close (s : State) (outcome : AttemptOutcome) : State :=
  { s with
    flush := none
    attempts := s.attempts ++ (s.current.map (fun ticket => ⟨ticket,outcome⟩)).toList }

@[simp] theorem State.close_current (s : State) (out : AttemptOutcome) :
    (s.close out).current = none := rfl

inductive Event where
  | enqueue (message : MqttPublishMessage) (now : Time)
  | flushStart
  | offer
  | publishResult (result : Except String Unit)
  | acknowledge (now : Time)
  | markFailed
  | flushEnd
  | crash
  | otherWrite (batch : List (WriteOp String StoredValue))

/-- One event; an event that cannot happen in a state changes nothing. -/
def step (s : State) : Event → State
  | .enqueue message now =>
    match enqueueMqttMessage s.db message now with
    | .ok (db,sequence) =>
      { s with db := db, enqueued := s.enqueued ++ [(sequence,message)] }
    | .error _ => s
  | .flushStart =>
    match s.flush, pendingMqttMessages s.db u64Max with
    | none, .ok entries => { s with flush := some ⟨entries,.idle⟩ }
    | _, _ => s
  | .offer =>
    match s.flush with
    | some ⟨entry :: rest,.idle⟩ => { s with flush := some ⟨entry :: rest,.offered⟩ }
    | _ => s
  | .publishResult result =>
    match s.flush, result with
    | some ⟨entry :: rest,.offered⟩, .ok () =>
      { s with flush := some ⟨entry :: rest,.confirmed⟩ }
    | some ⟨entry :: rest,.offered⟩, .error error =>
      { s with flush := some ⟨entry :: rest,.refused error⟩ }
    | _, _ => s
  | .acknowledge now =>
    match s.flush with
    | some ⟨entry :: rest,.confirmed⟩ =>
      match acknowledgeMqttMessage s.db entry.sequence now with
      | .ok (db,_) =>
        { s with
          db := db
          flush := some ⟨rest,.idle⟩
          acknowledged := s.acknowledged ++ [(entry.sequence,entry.message)]
          attempts := s.attempts ++ [⟨entry.sequence,.acknowledged⟩] }
      | .error _ => s.close .interrupted
    | _ => s
  | .markFailed =>
    match s.flush with
    | some ⟨entry :: _,.refused error⟩ =>
      match markMqttMessageFailed s.db entry.sequence error with
      | .ok db => { s.close .failed with db := db }
      | .error _ => s.close .failed
    | _ => s
  | .flushEnd =>
    match s.flush with
    | some ⟨[],.idle⟩ => { s with flush := none }
    | _ => s
  | .crash => s.close .interrupted
  | .otherWrite batch =>
    if batch.all (fun op => !Text.hasPrefix mqttFamily op.key) then
      { s with db := s.db.write batch }
    else s

def run (events : List Event) : State := events.foldl step State.initial

/-! The invariant. -/

def identity (entry : MqttOutboxEntry) : Nat × MqttPublishMessage := (entry.sequence,entry.message)

def State.queue (s : State) : DeliveryQueue (Nat × MqttPublishMessage) where
  queued := s.enqueued
  delivered := s.acknowledged.length
  attempts := s.attempts
  current := s.current

structure Consistent (s : State) (pending : List MqttOutboxEntry) : Prop where
  holds : Holds s.db pending
  split : s.enqueued = s.acknowledged ++ pending.map identity
  numbered : s.enqueued.map Prod.fst = List.range' 1 s.enqueued.length
  lastSequence : LastSequence s.db s.enqueued.length
  countable : Countable s.db
  remaining : ∀ flush, s.flush = some flush →
    flush.remaining.map identity <+: pending.map identity

/-- A step of the runtime is a move of the abstract queue, or no move at all. -/
def Refines (s next : State) : Prop := next.queue = s.queue ∨ ∃ m, next.queue = s.queue.move m

def Steps (s next : State) : Prop := (∃ pending, Consistent next pending) ∧ Refines s next

theorem Consistent.ticket (h : Consistent s (entry :: rest)) :
    entry.sequence = s.acknowledged.length + 1 ∧ s.acknowledged.length < s.enqueued.length := by
  have hl : s.acknowledged.length < s.enqueued.length := by
    rw [h.split,length_append,length_map,length_cons]
    omega
  have hg := congrArg (fun numbers => numbers[s.acknowledged.length]?) h.numbered
  have hp : (s.enqueued.map Prod.fst)[s.acknowledged.length]? = some entry.sequence := by
    rw [h.split]
    simp [identity]
  simp only [hp,List.getElem?_range' hl,Option.some.injEq] at hg
  exact ⟨by omega,hl⟩

theorem close_refines (s : State) {out : AttemptOutcome} (h : out ≠ .acknowledged) :
    Refines s (s.close out) := by
  cases hc : s.current with
  | none =>
    left
    simp only [State.queue,State.close_current,hc]
    simp [State.close,hc]
  | some ticket =>
    refine .inr ⟨.conclude out,?_⟩
    simp only [move,State.queue,State.close_current,hc,h,if_false]
    simp [State.close,hc]

section

variable {pending : List MqttOutboxEntry} (h : Consistent s pending)
include pending h

theorem Consistent.steps_self : Steps s s := ⟨⟨pending,h⟩,.inl rfl⟩

theorem Consistent.sequence_le : ∀ entry ∈ pending, entry.sequence ≤ s.enqueued.length := by
  intro entry he
  have hm : entry.sequence ∈ s.enqueued.map Prod.fst := by
    rw [h.split]
    exact mem_map_of_mem (mem_append_right _ (mem_map_of_mem he))
  rw [h.numbered,mem_range'_1] at hm
  omega

theorem Consistent.working (hf : s.flush = some ⟨entry :: rest,phase⟩) :
    ∃ head tail, pending = head :: tail ∧ head.sequence = entry.sequence ∧
      head.message = entry.message ∧ rest.map identity <+: tail.map identity := by
  have hs := h.remaining _ hf
  cases pending with
  | nil => simp at hs
  | cons head tail =>
    rw [map_cons,map_cons,cons_prefix_cons] at hs
    have hse := congrArg Prod.fst hs.1
    have hm := congrArg Prod.snd hs.1
    exact ⟨head,tail,rfl,hse.symm,hm.symm,hs.2⟩

theorem enqueue_steps (msg : MqttPublishMessage) (now : Time) :
    Steps s (step s (.enqueue msg now)) := by
  by_cases hro : s.enqueued.length < u64Max
  · obtain ⟨after,ha,he⟩ := enqueue_spec h.holds h.lastSequence hro h.sequence_le msg now
    simp only [step,ha]
    refine ⟨⟨pending ++ [newEntry (s.enqueued.length + 1) msg now],?_⟩,
      .inr ⟨.enqueue (s.enqueued.length + 1,msg),rfl⟩⟩
    exact {
      holds := he.holds
      split := by simp [h.split,identity,newEntry]
      numbered := by
        rw [map_append,h.numbered,length_append,length_singleton,List.range'_concat]
        simp [Nat.add_comm]
      lastSequence := by simpa [newEntry] using he.lastSequence
      countable := he.countable h.countable
      remaining := by
        intro flush hf
        rw [map_append]
        exact (h.remaining flush hf).trans (prefix_append _ _) }
  · obtain ⟨why,hr⟩ := nextMqttSequence_exhausted h.lastSequence hro
    simp only [step,enqueueMqttMessage,hr,error_bind]
    exact h.steps_self

theorem flushStart_steps : Steps s (step s .flushStart) := by
  simp only [step,h.holds.pending]
  cases hf : s.flush with
  | some flush => exact h.steps_self
  | none =>
    refine ⟨⟨pending,{ h with remaining := ?_ }⟩,.inl ?_⟩
    · intro flush hn
      cases hn
      exact prefix_rfl
    · cases pending <;> simp [State.queue,State.current,hf]

theorem Consistent.setPhase {remaining : List MqttOutboxEntry} {phase : FlushPhase}
    (hf : s.flush = some ⟨remaining,phase⟩)
    (next : FlushPhase) : Consistent { s with flush := some ⟨remaining,next⟩ } pending :=
  { h with
    remaining := by
      intro other ho
      cases ho
      exact h.remaining ⟨remaining,phase⟩ hf }

theorem offer_steps : Steps s (step s .offer) := by
  simp only [step]
  split
  · next entry rest hf =>
    refine ⟨⟨pending,h.setPhase hf _⟩,.inr ⟨.offer,?_⟩⟩
    obtain ⟨head,tail,rfl,hs,-⟩ := h.working hf
    have ht := h.ticket
    have hc : s.current = none := by simp [State.current,hf]
    simp only [move,State.queue,hc,ht.2,and_self,if_true]
    simp [State.current,← hs,ht.1]
  · exact h.steps_self

theorem publishResult_steps (res : Except String Unit) : Steps s (step s (.publishResult res)) := by
  simp only [step]
  split
  · next entry rest hf =>
    exact ⟨⟨pending,h.setPhase hf _⟩,.inl (by simp [State.queue,State.current,hf])⟩
  · next entry rest error hf =>
    exact ⟨⟨pending,h.setPhase hf _⟩,.inl (by simp [State.queue,State.current,hf])⟩
  · exact h.steps_self

theorem Consistent.close (out : AttemptOutcome) : Consistent (s.close out) pending :=
  { h with remaining := by simp [State.close] }

theorem acknowledge_steps (now : Time) : Steps s (step s (.acknowledge now)) := by
  simp only [step]
  split
  · next entry rest hf =>
    obtain ⟨head,tail,rfl,hs,hm,hr⟩ := h.working hf
    obtain ⟨after,haf,ha⟩ := acknowledge_spec h.holds h.countable now
    rw [hs] at haf
    simp only [haf]
    refine ⟨⟨tail,?_⟩,.inr ⟨.conclude .acknowledged,?_⟩⟩
    · exact {
        holds := ha.holds
        split := by
          rw [h.split,map_cons,← hs,← hm,append_assoc]
          rfl
        numbered := h.numbered
        lastSequence := by
          unfold LastSequence
          rw [ha.lastSequence]
          exact h.lastSequence
        countable := ha.countable
        remaining := by
          intro flush hn
          cases hn
          exact hr }
    · cases rest <;> simp [move,State.queue,State.current,hf]
  · exact h.steps_self

theorem markFailed_steps : Steps s (step s .markFailed) := by
  simp only [step]
  split
  · next entry rest error hf =>
    obtain ⟨head,tail,rfl,hs,-⟩ := h.working hf
    obtain ⟨after,ha,hm⟩ := markFailed_spec h.holds error
    rw [hs] at ha
    simp only [ha]
    refine ⟨⟨failedEntry error head :: tail,?_⟩,close_refines s (by decide)⟩
    exact {
      holds := hm.holds
      split := h.split
      numbered := h.numbered
      lastSequence := by
        unfold LastSequence
        rw [hm.lastSequence]
        exact h.lastSequence
      countable := hm.countable h.countable
      remaining := by simp [State.close] }
  · exact h.steps_self

theorem flushEnd_steps : Steps s (step s .flushEnd) := by
  simp only [step]
  split
  · next hf =>
    exact ⟨⟨pending,{ h with remaining := by simp }⟩,.inl (by simp [State.queue,State.current,hf])⟩
  · exact h.steps_self

private theorem otherWrite_steps (batch : List (WriteOp String StoredValue)) :
    Steps s (step s (.otherWrite batch)) := by
  simp only [step]
  split
  · next hb =>
    have ho : ∀ op ∈ batch, Text.hasPrefix mqttFamily op.key = false := by simpa using hb
    have hk : ∀ key, Text.hasPrefix mqttFamily key = true →
        (s.db.write batch).get key = s.db.get key := fun key hke =>
      get_write_of_untouched _ _ _ fun op hop =>
        (ne_of_hasPrefix hke (ho op hop)).symm
    refine ⟨⟨pending,?_⟩,.inl rfl⟩
    exact { h with
      holds := { h.holds with
        within := by
          rw [← h.holds.within]
          refine within_write_of_outside _ _ fun op hop => ?_
          by_contra hi
          have hf := mqttFamily_of_outbox (by simpa using hi)
          rw [ho op hop] at hf
          cases hf }
      lastSequence := by
        unfold LastSequence
        rw [hk _ mqttFamily_of_sequence]
        exact h.lastSequence
      countable := countable_of_get_eq h.countable
        (hk _ (mqttFamily_of_ack mqttAckCountKey_inside)) }
  · exact h.steps_self

private theorem step_steps (ev : Event) : Steps s (step s ev) := by
  cases ev with
  | enqueue msg now => exact enqueue_steps h msg now
  | flushStart => exact flushStart_steps h
  | offer => exact offer_steps h
  | publishResult res => exact publishResult_steps h res
  | acknowledge now => exact acknowledge_steps h now
  | markFailed => exact markFailed_steps h
  | flushEnd => exact flushEnd_steps h
  | crash => exact ⟨⟨pending,h.close _⟩,close_refines s (by decide)⟩
  | otherWrite batch => exact otherWrite_steps h batch

end

private theorem initial_consistent : Consistent State.initial [] where
  holds := ⟨rfl,.nil,by simp⟩
  split := rfl
  numbered := rfl
  lastSequence := .inr ⟨rfl,rfl⟩
  countable := ⟨_,rfl⟩
  remaining := by simp [State.initial]

theorem run_consistent (evs : List Event) :
    (∃ pending, Consistent (run evs) pending) ∧ (run evs).queue.InOrder := by
  unfold run
  refine List.foldlRecOn
    (motive := fun s => (∃ pending, Consistent s pending) ∧ s.queue.InOrder) evs step
    ⟨⟨[],initial_consistent⟩,empty_inOrder⟩ ?_
  rintro s ⟨⟨pending,hc⟩,hio⟩ ev -
  obtain ⟨hn,hr⟩ := step_steps hc ev
  refine ⟨hn,?_⟩
  rcases hr with hs | ⟨m,hm⟩
  · rw [hs]
    exact hio
  · rw [hm]
    exact move_inOrder hio m

theorem Consistent.strictly_numbered {pending : List MqttOutboxEntry} (h : Consistent s pending) :
    s.enqueued.Pairwise (fun left right => left.1 < right.1) := by
  rw [← pairwise_map (f := Prod.fst),h.numbered]
  exact pairwise_lt_range'

theorem Consistent.exclusive {pending : List MqttOutboxEntry} (h : Consistent s pending)
    (msg : Nat × MqttPublishMessage) (hm : msg ∈ s.enqueued) :
    msg ∈ s.acknowledged ↔ msg ∉ pending.map identity := by
  have ho := h.strictly_numbered
  rw [h.split] at ho hm
  obtain ⟨-,-,hd⟩ := pairwise_append.mp ho
  constructor
  · intro ha hp
    exact lt_irrefl _ (hd msg ha msg hp)
  · intro hp
    exact (mem_append.mp hm).resolve_right hp

/-- In every run a queued message is either pending or acknowledged, numbers only grow, messages
are acknowledged in the order they were queued, and the publisher is offered them in that order,
the same one again only after an attempt on it that was not acknowledged. -/
theorem run_delivers_in_order (events : List Event) :
    (∃ pending, pendingMqttMessages (run events).db u64Max = .ok pending ∧
      (run events).enqueued = (run events).acknowledged ++ pending.map identity ∧
      ∀ message ∈ (run events).enqueued,
        message ∈ (run events).acknowledged ↔ message ∉ pending.map identity) ∧
    (run events).enqueued.Pairwise (fun earlier later => earlier.1 < later.1) ∧
    (run events).acknowledged <+: (run events).enqueued ∧
    (∀ first, (run events).queue.offers.head? = some first → first.ticket = 1) ∧
    (run events).queue.offers.IsChain (fun earlier later => later.ticket = earlier.next) ∧
    (∀ offer ∈ (run events).queue.offers,
      ∃ message, (offer.ticket,message) ∈ (run events).enqueued) ∧
    ∀ entry rest phase, (run events).flush = some ⟨entry :: rest,phase⟩ →
      (entry.sequence,entry.message) ∈ (run events).enqueued := by
  obtain ⟨⟨pending,h⟩,hio⟩ := run_consistent events
  refine ⟨⟨pending,h.holds.pending,h.split,h.exclusive⟩,h.strictly_numbered,
    ⟨pending.map identity,h.split.symm⟩,fun first => offers_head hio,
    offers_chain hio,?_,?_⟩
  · intro offer ho
    obtain ⟨hp,hle⟩ := offers_known hio offer ho
    have hn : offer.ticket ∈ (run events).enqueued.map Prod.fst := by
      rw [h.numbered,mem_range'_1]
      change offer.ticket ≤ (run events).enqueued.length at hle
      omega
    obtain ⟨⟨ticket,message⟩,hme,rfl⟩ := mem_map.mp hn
    exact ⟨message,hme⟩
  · intro entry rest phase hf
    obtain ⟨head,tail,rfl,hs,hm,-⟩ := h.working hf
    rw [h.split,← hs,← hm]
    exact mem_append_right _ (mem_map_of_mem mem_cons_self)

/-! The flush function is one of these runs. -/

section Flush

variable {σ : Type} (publish : σ → MqttPublishMessage → σ × Except String Unit)

private theorem flushEntries_events (now : Time) (entries : List MqttOutboxEntry) (published : Nat)
    (s : State) (pub : σ) (h : s.flush = some ⟨entries,.idle⟩) :
    ∃ evs : List Event, (evs.foldl step s).flush = none ∧
      (evs.foldl step s).db = (flushEntries publish now entries published s.db pub).db := by
  induction entries generalizing published s pub with
  | nil => exact ⟨[.flushEnd],by simp [step,h],by simp [step,h,flushEntries]⟩
  | cons entry entries ih =>
    rcases hpublish : publish pub entry.message with ⟨after,res⟩
    have ho : ∀ evs : List Event, (Event.offer :: evs).foldl step s =
        evs.foldl step { s with flush := some ⟨entry :: entries,.offered⟩ } := by
      intro evs
      simp [step,h]
    cases res with
    | error error =>
      refine ⟨[.offer,.publishResult (.error error),.markFailed],?_⟩
      rw [ho]
      cases hm : markMqttMessageFailed s.db entry.sequence error with
      | error why => simp [step,flushEntries,hpublish,hm,State.close]
      | ok db => simp [step,flushEntries,hpublish,hm,State.close]
    | ok _ =>
      cases ha : acknowledgeMqttMessage s.db entry.sequence now with
      | error why =>
        refine ⟨[.offer,.publishResult (.ok ()),.acknowledge now],?_⟩
        rw [ho]
        simp [step,flushEntries,hpublish,ha,State.close]
      | ok acknowledged =>
        obtain ⟨db,receipt⟩ := acknowledged
        have hn := ih (published + 1) { s with
          db := db
          flush := some ⟨entries,.idle⟩
          acknowledged := s.acknowledged ++ [(entry.sequence,entry.message)]
          attempts := s.attempts ++ [⟨entry.sequence,.acknowledged⟩] } after rfl
        obtain ⟨evs,hf,hdb⟩ := hn
        refine ⟨[.offer,.publishResult (.ok ()),.acknowledge now] ++ evs,?_⟩
        rw [foldl_append,ho]
        simp only [foldl_cons,foldl_nil,step,ha,flushEntries,hpublish]
        exact ⟨hf,hdb⟩

theorem flushMqttOutbox_events (now : Time) (s : State) (pub : σ) (h : s.flush = none) :
    ∃ evs : List Event, (evs.foldl step s).flush = none ∧
      (evs.foldl step s).db = (flushMqttOutbox publish now s.db pub).db := by
  unfold flushMqttOutbox
  cases hp : pendingMqttMessages s.db u64Max with
  | error why => exact ⟨[],h,rfl⟩
  | ok entries =>
    obtain ⟨evs,hf,hdb⟩ := flushEntries_events publish now entries 0
      { s with flush := some ⟨entries,.idle⟩ } pub rfl
    refine ⟨.flushStart :: evs,?_⟩
    simp only [foldl_cons,step,h,hp]
    exact ⟨hf,hdb⟩

end Flush

end VelaEdge.Runtime.OutboxRuns
