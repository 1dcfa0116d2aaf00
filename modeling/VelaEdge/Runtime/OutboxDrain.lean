import VelaEdge.Runtime.MqttUplink
import VelaEdge.Runtime.OutboxRuns

/-! What repeated flushes drain. The outbox is one queue for all sinks: a flush goes through it in
order and stops at the first message that cannot be published. -/
namespace VelaEdge.Runtime.OutboxDrain

open Base Core LocalDb Outbox MqttUplink List OutboxRuns
open OutboxRuns (identity)

section Leading

variable {σ : Type} (publish : σ → MqttPublishMessage → σ × Except String Unit)

def leading : σ → List MqttOutboxEntry → Nat
  | _, [] => 0
  | publisher, entry :: entries =>
    match publish publisher entry.message with
    | (_,.error _) => 0
    | (publisher,.ok ()) => leading publisher entries + 1

theorem flushEntries_leading (now : Time) (entries : List MqttOutboxEntry) (published : Nat)
    (db : Db) (pub : σ) (h : Holds db entries) (hc : Countable db) :
    ∃ left, Holds (flushEntries publish now entries published db pub).db left ∧
      Countable (flushEntries publish now entries published db pub).db ∧
      left.map identity = (entries.drop (leading publish pub entries)).map identity := by
  induction entries generalizing published db pub with
  | nil => exact ⟨[],h,hc,rfl⟩
  | cons entry entries ih =>
    rcases hpublish : publish pub entry.message with ⟨after,res⟩
    cases res with
    | error error =>
      obtain ⟨marked,hm,hs⟩ := markFailed_spec h error
      simp only [flushEntries,leading,hpublish,hm]
      exact ⟨_,hs.holds,hs.countable hc,rfl⟩
    | ok done =>
      obtain ⟨acknowledged,ha,hs⟩ := acknowledge_spec h hc now
      simp only [flushEntries,leading,hpublish,ha,drop_succ_cons]
      exact ih (published + 1) acknowledged after hs.holds hs.countable

end Leading

/-- One flush: the configuration in force and what the brokers answer to each of its publishes. -/
structure Round where
  publisher : MultiBrokerMqttPublisher
  network : Nat → MqttPublishMessage → Exchange
  now : Time

def Round.publish (round : Round) (state : MultiBrokerMqttPublisher × Nat)
    (message : MqttPublishMessage) : (MultiBrokerMqttPublisher × Nat) × Except String Unit :=
  let (publisher,result) := state.1.publish message (round.network state.2 message)
  ((publisher,state.2 + 1),result)

def flushRound (round : Round) (db : Db) : Flushed (MultiBrokerMqttPublisher × Nat) :=
  flushMqttOutbox round.publish round.now db (round.publisher,0)

def Round.leading (round : Round) (pending : List MqttOutboxEntry) : Nat :=
  OutboxDrain.leading round.publish (round.publisher,0) pending

inductive Action where
  | enqueue (message : MqttPublishMessage) (now : Time)
  | flush (round : Round)

def act (db : Db) : Action → Db
  | .enqueue message now =>
    match enqueueMqttMessage db message now with
    | .ok (db,_) => db
    | .error _ => db
  | .flush round => (flushRound round db).db

def drain (db : Db) (actions : List Action) : Db := actions.foldl act db

def drained (actions : List Action) : Db := drain OrderedMap.empty actions

@[simp] theorem drained_append (actions others : List Action) :
    drained (actions ++ others) = drain (drained actions) others :=
  foldl_append

def Round.Accepts (round : Round) (message : MqttPublishMessage) : Prop :=
  round.publisher.routes message = true ∧ ∀ call, (round.network call message).answer = .ok ()

def Round.Refuses (round : Round) (message : MqttPublishMessage) : Prop :=
  round.publisher.routes message = false ∨ ∀ call, (round.network call message).answer ≠ .ok ()

/-! Every store reached here is one the outbox reaches. -/

private theorem act_events (s : State) (h : s.flush = none) (action : Action) :
    ∃ evs : List Event, (evs.foldl step s).flush = none ∧
      (evs.foldl step s).db = act s.db action := by
  cases action with
  | enqueue msg now =>
    refine ⟨[.enqueue msg now],?_⟩
    simp only [foldl_cons,foldl_nil,step,act]
    cases enqueueMqttMessage s.db msg now with
    | error why => exact ⟨h,rfl⟩
    | ok queued => exact ⟨h,rfl⟩
  | flush round =>
    exact flushMqttOutbox_events round.publish round.now s (round.publisher,0) h

variable (actions : List Action)

private theorem drain_events (s : State) (h : s.flush = none) :
    ∃ evs : List Event, (evs.foldl step s).flush = none ∧
      (evs.foldl step s).db = drain s.db actions := by
  induction actions generalizing s with
  | nil => exact ⟨[],h,rfl⟩
  | cons action actions ih =>
    obtain ⟨first,hf,hdb⟩ := act_events s h action
    obtain ⟨others,hf,hd⟩ := ih _ hf
    refine ⟨first ++ others,?_⟩
    rw [foldl_append]
    refine ⟨hf,hd.trans ?_⟩
    rw [hdb]
    rfl

theorem drained_holds :
    ∃ pending, Holds (drained actions) pending ∧ Countable (drained actions) := by
  obtain ⟨evs,-,hdb⟩ := drain_events actions State.initial rfl
  obtain ⟨⟨pending,h⟩,-⟩ := run_consistent evs
  have hs : (run evs).db = drained actions := hdb
  rw [← hs]
  exact ⟨pending,h.holds,h.countable⟩

variable (round : Round)

theorem flushRound_leading {pending : List MqttOutboxEntry} (h : Holds db pending)
    (hc : Countable db) :
    ∃ left, Holds (flushRound round db).db left ∧ Countable (flushRound round db).db ∧
      left.map identity = (pending.drop (round.leading pending)).map identity := by
  unfold flushRound flushMqttOutbox
  rw [h.pending]
  exact flushEntries_leading round.publish round.now pending 0 db (round.publisher,0) h hc

@[simp] theorem Round.publish_ok (pub : MultiBrokerMqttPublisher) (call : Nat)
    (msg : MqttPublishMessage) :
    (round.publish (pub,call) msg).2 = .ok () ↔
      pub.routes msg = true ∧ (round.network call msg).answer = .ok () :=
  pub.publish_ok msg (round.network call msg)

/-- A publisher that still has the round's routes takes what the round accepts, up to the first
message it refuses. -/
theorem Round.leading_append (front rest : List MqttOutboxEntry) (pub : MultiBrokerMqttPublisher)
    (call : Nat) (hr : ∀ msg, pub.routes msg = round.publisher.routes msg)
    (hf : ∀ entry ∈ front, round.Accepts entry.message)
    (hrt : ∀ entry, rest.head? = some entry → round.Refuses entry.message) :
    OutboxDrain.leading round.publish (pub,call) (front ++ rest) = front.length := by
  induction front generalizing pub call with
  | nil =>
    cases rest with
    | nil => rfl
    | cons entry rest =>
      have hre : (round.publish (pub,call) entry.message).2 ≠ .ok () := by
        rw [Ne,round.publish_ok,hr,not_and]
        intro hro
        rcases hrt entry rfl with hu | han
        · rw [hro] at hu
          cases hu
        · exact han call
      rcases hpublish : round.publish (pub,call) entry.message with ⟨after,res⟩
      rw [hpublish] at hre
      cases res with
      | error error => simp [OutboxDrain.leading,hpublish]
      | ok done => exact absurd rfl hre
  | cons entry front ih =>
    obtain ⟨hro,han⟩ := hf entry mem_cons_self
    have ha : (round.publish (pub,call) entry.message).2 = .ok () :=
      (round.publish_ok pub call entry.message).mpr ⟨(hr entry.message).trans hro,han call⟩
    have hn := ih (pub.publish entry.message (round.network call entry.message)).1
      (call + 1) (fun msg => (pub.routes_publish _ _ msg).trans (hr msg))
      fun other ho => hf other (mem_cons_of_mem _ ho)
    rcases hpublish : round.publish (pub,call) entry.message with ⟨after,res⟩
    have haf : after = ((pub.publish entry.message
        (round.network call entry.message)).1,call + 1) := by
      rw [Round.publish] at hpublish
      exact (congrArg Prod.fst hpublish).symm
    rw [hpublish] at ha
    dsimp only at ha
    subst ha haf
    simp [OutboxDrain.leading,hpublish,hn]

theorem flushRound_front (front : List MqttOutboxEntry) (h : Holds db (front ++ rest))
    (hco : Countable db) (hf : ∀ entry ∈ front, round.Accepts entry.message)
    (hr : ∀ entry, rest.head? = some entry → round.Refuses entry.message) :
    ∃ left, Holds (flushRound round db).db left ∧ Countable (flushRound round db).db ∧
      left.map identity = rest.map identity := by
  obtain ⟨left,hh,hc,hl⟩ := flushRound_leading round h hco
  refine ⟨left,hh,hc,?_⟩
  rw [hl,Round.leading,round.leading_append front rest round.publisher 0 (fun _ => rfl)
    hf hr,drop_left]

theorem drain_blocked (rounds : List Round) {pending rest : List MqttOutboxEntry}
    (h : Holds db pending) (hco : Countable db) (hs : pending.map identity = rest.map identity)
    (hr : ∀ round ∈ rounds, ∀ entry, rest.head? = some entry → round.Refuses entry.message) :
    ∃ left, Holds (drain db (rounds.map .flush)) left ∧ left.map identity = rest.map identity := by
  induction rounds generalizing db pending with
  | nil => exact ⟨pending,h,hs⟩
  | cons round rounds ih =>
    have hhe : ∀ entry, pending.head? = some entry → round.Refuses entry.message := by
      intro entry he
      have hh := congrArg head? hs
      rw [head?_map,head?_map,he,Option.map_some,eq_comm,Option.map_eq_some_iff] at hh
      obtain ⟨first,hf,hi⟩ := hh
      rw [← (Prod.mk.inj hi).2]
      exact hr round mem_cons_self first hf
    obtain ⟨left,hho,hc,hl⟩ := flushRound_front round [] h hco
      (fun _ he => absurd he not_mem_nil) hhe
    exact ih hho hc (hl.trans hs) fun other ho => hr other (mem_cons_of_mem _ ho)

/-- Whatever was queued and flushed before, a flush acknowledges exactly the pending messages ahead
of the first one that cannot be published. Flushes that keep accepting the front of the queue and
refusing the message behind it acknowledge the front, and nothing else however often they run. -/
theorem drained_in_order (actions : List Action) :
    ∃ pending, pendingMqttMessages (drained actions) u64Max = .ok pending ∧
      (∀ round : Round, ∃ left,
        pendingMqttMessages (drained (actions ++ [.flush round])) u64Max = .ok left ∧
        left.map identity = (pending.drop (round.leading pending)).map identity) ∧
      ∀ (front rest : List MqttOutboxEntry) (rounds : List Round),
        pending = front ++ rest → rounds ≠ [] →
        (∀ round ∈ rounds, (∀ entry ∈ front, round.Accepts entry.message) ∧
          ∀ entry, rest.head? = some entry → round.Refuses entry.message) →
        ∃ left, pendingMqttMessages (drained (actions ++ rounds.map .flush)) u64Max = .ok left ∧
          left.map identity = rest.map identity := by
  obtain ⟨pending,h,hco⟩ := drained_holds actions
  refine ⟨pending,h.pending,?_,?_⟩
  · intro round
    obtain ⟨left,hh,-,hl⟩ := flushRound_leading round h hco
    refine ⟨left,?_,hl⟩
    rw [drained_append]
    exact hh.pending
  · intro front rest rounds hs hr ha
    subst hs
    cases rounds with
    | nil => exact absurd rfl hr
    | cons round rounds =>
      obtain ⟨hf,hre⟩ := ha round mem_cons_self
      obtain ⟨left,hh,hc,hl⟩ := flushRound_front round front h hco hf hre
      obtain ⟨last,hla,hsa⟩ := drain_blocked rounds hh hc hl
        fun other ho => (ha other (mem_cons_of_mem _ ho)).2
      refine ⟨last,?_,hsa⟩
      rw [drained_append]
      exact hla.pending

/-! A sink that was removed from the configuration. -/

def telemetryFor (sinkId : String) : MqttPublishMessage where
  sinkId := sinkId
  broker := "mqtt://broker:1883"
  clientId := "edge-1"
  topic := "telemetry"
  qos := 1
  payload := []

def twoSinks : List Action :=
  [.enqueue (telemetryFor "legacy") 0,.enqueue (telemetryFor "main") 0]

/-- Only one of the two sinks is still configured, and every broker takes what it is sent. -/
def mainOnly : Round where
  publisher := {
    publishers := OrderedMap.empty.put "main"
      (.connected (.velamq "main" "mqtt://broker:1883" "edge-1"))
    commandMessages := [] }
  network := fun _ _ => ⟨.ok (),1,0⟩
  now := 0

theorem twoSinks_pending : pendingMqttMessages (drained twoSinks) u64Max =
    .ok [newEntry 1 (telemetryFor "legacy") 0,newEntry 2 (telemetryFor "main") 0] := by
  rfl

/-- The message of the configured sink is never acknowledged. -/
theorem mainOnly_never_drains : mainOnly.publisher.routes (telemetryFor "main") = true ∧
    (∀ call message, (mainOnly.network call message).answer = .ok ()) ∧
    ∀ flushes : Nat, ∃ left,
      pendingMqttMessages (drained (twoSinks ++ replicate flushes (.flush mainOnly)))
        u64Max = .ok left ∧ (2,telemetryFor "main") ∈ left.map identity := by
  refine ⟨by decide,fun _ _ => rfl,fun flushes => ?_⟩
  obtain ⟨pending,h,hc⟩ := drained_holds twoSinks
  have hp := Except.ok.inj (h.pending.symm.trans twoSinks_pending)
  have hr : mainOnly.publisher.routes (telemetryFor "legacy") = false := by decide
  obtain ⟨left,hh,hs⟩ := drain_blocked (replicate flushes mainOnly) h hc rfl (by
      intro round hro entry he
      rw [eq_of_mem_replicate hro]
      rw [hp,head?_cons,Option.some.injEq] at he
      subst he
      exact .inl hr)
  rw [map_replicate] at hh
  refine ⟨left,?_,?_⟩
  · rw [drained_append]
    exact hh.pending
  · rw [hs,hp]
    decide

/-- Once the sink is back, one flush drains both. -/
theorem twoSinks_drained : ∃ left, pendingMqttMessages (drained (twoSinks ++ [.flush {
      mainOnly with publisher := { mainOnly.publisher with
        publishers := mainOnly.publisher.publishers.put "legacy"
          (.connected (.velamq "legacy" "mqtt://broker:1883" "edge-1")) } }])) u64Max =
        .ok left ∧ left.map identity = [] := by
  obtain ⟨pending,hp,-,hd⟩ := drained_in_order twoSinks
  have hp := Except.ok.inj (hp.symm.trans twoSinks_pending)
  refine hd pending [] [_] (append_nil _).symm (cons_ne_nil _ _) ?_
  intro round hr
  rw [mem_singleton.mp hr]
  refine ⟨?_,fun entry he => by cases he⟩
  intro entry he
  rw [hp] at he
  refine ⟨?_,fun _ => rfl⟩
  rcases mem_cons.mp he with rfl | he
  · decide
  · rw [mem_singleton.mp he]
    decide

end VelaEdge.Runtime.OutboxDrain
