import VelaEdge.Runtime.CommandExecution

/-! The MQTT uplink: one connection for each sink, the wait for the broker's confirmation of a
publish, and the routing of outgoing messages to the connections. -/
namespace VelaEdge.Runtime.MqttUplink

open Base Core LocalDb

inductive MqttBrokerEvent where
  | publishSent (packetId : Nat)
  | publishAcknowledged (packetId : Nat)
  | publishCompleted (packetId : Nat)
  | connectionError (error : String)
deriving DecidableEq

/-- How far the wait for a confirmation is: it first learns the packet id, then waits for the
answer to that id. -/
inductive Confirmation where
  | sending
  | sent (packetId : Nat)
deriving DecidableEq

/-- One event read by the wait; `none` is the end of it. -/
def confirm (qos : Nat) : Confirmation → MqttBrokerEvent → Except String (Option Confirmation)
  | _, .connectionError error => .error error
  | .sending, .publishSent packetId =>
    if qos = 0 then .ok none
    else if packetId = 0 then
      .error s!"mqtt broker event did not assign a packet id for qos {qos}"
    else .ok (some (.sent packetId))
  | .sent packetId, .publishAcknowledged ackId =>
    if qos = 1 ∧ ackId = packetId then .ok none else .ok (some (.sent packetId))
  | .sent packetId, .publishCompleted ackId =>
    if qos = 2 ∧ ackId = packetId then .ok none else .ok (some (.sent packetId))
  | phase, _ => .ok (some phase)

inductive GiveUp where
  | timeout
  | stopped
deriving DecidableEq

def GiveUp.text : GiveUp → String
  | .timeout => "mqtt broker acknowledgement timed out"
  | .stopped => "mqtt eventloop stopped before broker acknowledgement"

/-- The wait over the events that arrive in time, with the events it leaves unread. -/
def awaitBrokerConfirmation (qos : Nat) (giveUp : GiveUp) :
    Confirmation → List MqttBrokerEvent → Except String Unit × List MqttBrokerEvent
  | _, [] => (.error giveUp.text,[])
  | phase, event :: events =>
    match confirm qos phase event with
    | .error error => (.error error,events)
    | .ok none => (.ok (),events)
    | .ok (some phase) => awaitBrokerConfirmation qos giveUp phase events

structure RumqttcMqttPublisher where
  sinkId : String
  broker : String
  clientId : String
  publishSuccessCount : Nat
  publishFailureCount : Nat
  publishedBytes : Nat
  acknowledgementLatencyTotalMs : Nat
  lastAckLatencyMs : Option Nat
  lastPublishAt : Option Time
  lastTopic : Option String
  lastError : Option String

def RumqttcMqttPublisher.connected (uplink : MqttUplinkConfig) : RumqttcMqttPublisher where
  sinkId := uplink.sinkId
  broker := uplink.broker
  clientId := uplink.clientId
  publishSuccessCount := 0
  publishFailureCount := 0
  publishedBytes := 0
  acknowledgementLatencyTotalMs := 0
  lastAckLatencyMs := none
  lastPublishAt := none
  lastTopic := none
  lastError := none

def validateQos (qos : Nat) : Except String Unit :=
  bailIf (2 < qos) "mqtt qos must be 0, 1, or 2"

/-- What the client library and the broker do with one publish: the outcome of queueing it and of
the wait for its confirmation, and the clock around it. -/
structure Exchange where
  answer : Except String Unit
  latencyMs : Nat
  finishedAt : Time

namespace RumqttcMqttPublisher

variable (publisher : RumqttcMqttPublisher) (message : MqttPublishMessage)

def checkRoute : Except String Unit :=
  bailIf (message.sinkId ≠ publisher.sinkId ∨ message.broker ≠ publisher.broker ∨
      message.clientId ≠ publisher.clientId)
    s!"mqtt message route {message.sinkId} ({message.broker}, {
      message.clientId}) does not match connected route {publisher.sinkId} ({
      publisher.broker}, {publisher.clientId})"

def record (exchange : Exchange) : Except String Unit → RumqttcMqttPublisher
  | .ok () =>
    { publisher with
      publishSuccessCount := min (publisher.publishSuccessCount + 1) u64Max
      publishedBytes := min (publisher.publishedBytes + message.payload.length) u64Max
      acknowledgementLatencyTotalMs :=
        min (publisher.acknowledgementLatencyTotalMs + exchange.latencyMs) u64Max
      lastAckLatencyMs := some exchange.latencyMs
      lastPublishAt := some exchange.finishedAt
      lastTopic := some message.topic
      lastError := none }
  | .error error =>
    { publisher with
      publishFailureCount := min (publisher.publishFailureCount + 1) u64Max
      lastTopic := some message.topic
      lastError := some error }

def publish (exchange : Exchange) : RumqttcMqttPublisher × Except String Unit :=
  let result := do
    publisher.checkRoute message
    validateQos message.qos
    exchange.answer
  (publisher.record message exchange result,result)

end RumqttcMqttPublisher

/-- The connections by sink id, and the commands received and not taken yet. -/
structure MultiBrokerMqttPublisher where
  publishers : OrderedMap String RumqttcMqttPublisher
  commandMessages : List MqttCommandMessage

namespace MultiBrokerMqttPublisher

def publish (publisher : MultiBrokerMqttPublisher) (message : MqttPublishMessage)
    (exchange : Exchange) : MultiBrokerMqttPublisher × Except String Unit :=
  match publisher.publishers.get message.sinkId with
  | none => (publisher,.error s!"mqtt sink is not configured: {message.sinkId}")
  | some connection =>
    let (connection,result) := connection.publish message exchange
    ({ publisher with publishers := publisher.publishers.put message.sinkId connection },result)

/-- The sink of the message is configured, with the route the message was queued for. -/
def routes (publisher : MultiBrokerMqttPublisher) (message : MqttPublishMessage) : Bool :=
  match publisher.publishers.get message.sinkId with
  | none => false
  | some connection =>
    message.sinkId = connection.sinkId && message.broker = connection.broker &&
      message.clientId = connection.clientId && message.qos ≤ 2

end MultiBrokerMqttPublisher

theorem RumqttcMqttPublisher.record_route (pub : RumqttcMqttPublisher)
    (msg : MqttPublishMessage) (exchange : Exchange) (res : Except String Unit) :
    (pub.record msg exchange res).sinkId = pub.sinkId ∧
    (pub.record msg exchange res).broker = pub.broker ∧
    (pub.record msg exchange res).clientId = pub.clientId := by
  cases res with
  | error error => exact ⟨rfl,rfl,rfl⟩
  | ok done => exact ⟨rfl,rfl,rfl⟩

variable (pub : MultiBrokerMqttPublisher) (msg : MqttPublishMessage) (exchange : Exchange)

@[simp] theorem MultiBrokerMqttPublisher.publish_ok :
    (pub.publish msg exchange).2 = .ok () ↔ pub.routes msg = true ∧ exchange.answer = .ok () := by
  unfold publish routes
  cases pub.publishers.get msg.sinkId with
  | none => simp
  | some conn =>
    simp only [RumqttcMqttPublisher.publish]
    constructor
    · intro h
      obtain ⟨_,hr,h⟩ := bind_eq_ok.mp h
      obtain ⟨_,hq,h⟩ := bind_eq_ok.mp h
      have hr := bailIf_eq_ok.mp hr
      have hq := bailIf_eq_ok.mp hq
      push Not at hr hq
      exact ⟨by simp [hr,hq],h⟩
    · intro h
      obtain ⟨hro,ha⟩ := h
      simp only [Bool.and_eq_true,decide_eq_true_eq] at hro
      obtain ⟨⟨⟨hs,hb⟩,hc⟩,hq⟩ := hro
      simp [RumqttcMqttPublisher.checkRoute,validateQos,bailIf,hs,hb,hc,Nat.not_lt.mpr hq,ha]

@[simp] theorem MultiBrokerMqttPublisher.routes_publish (other : MqttPublishMessage) :
    (pub.publish msg exchange).1.routes other = pub.routes other := by
  unfold publish
  cases hg : pub.publishers.get msg.sinkId with
  | none => rfl
  | some conn =>
    have hr := conn.record_route msg exchange (conn.publish msg exchange).2
    simp only [RumqttcMqttPublisher.publish] at hr
    simp only [routes,RumqttcMqttPublisher.publish]
    by_cases hs : other.sinkId = msg.sinkId
    · simp [hs,hg,hr]
    · rw [OrderedMap.get_put_of_ne _ _ hs]

end VelaEdge.Runtime.MqttUplink
