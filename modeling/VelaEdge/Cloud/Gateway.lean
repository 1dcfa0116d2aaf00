import VelaEdge.Cloud.Persistence

/-! The gateway's side of a runtime session: the hello, the deployment of a configuration and the
messages after it, with everything they write to the store. -/
namespace VelaEdge.Cloud.Gateway

open Base Core

structure EdgeRuntimeEvent where
  edgeId : String
  code : String
  message : String
deriving DecidableEq

structure DiscoveryReport where
  jobId : String
  protocolConnectionId : String
deriving DecidableEq

structure DiscoveryRequest where
  jobId : String
  protocolConnectionId : String
deriving DecidableEq

structure EdgeLinkHello where
  runtimeId : String
  runtimeVersion : String
  appliedConfigVersion : Option String
  capabilities : List String
  accessToken : Option String

structure EdgeLinkAck where
  ackMessageId : Nat
  ackSequence : Nat
  accepted : Bool
  reason : Option String

/-- The payloads that the gateway does not look into are kept without their content. -/
inductive EdgeLinkPayload where
  | hello (hello : EdgeLinkHello)
  | heartbeat
  | ack (ack : EdgeLinkAck)
  | nack (nack : EdgeLinkAck)
  | configDeploy (package : EdgeConfigPackage)
  | configReport (report : EdgeLinkConfigReport)
  | commandRequest
  | commandResult
  | telemetryBatch
  | runtimeMetrics (snapshot : EdgeRuntimeMetricsSnapshot)
  | runtimeEvent (event : EdgeRuntimeEvent)
  | discoveryRequest (request : DiscoveryRequest)
  | discoveryReport (report : DiscoveryReport)

structure Message where
  messageId : Nat
  edgeId : String
  runtimeId : Option String
  sequence : Nat
  payload : EdgeLinkPayload

inductive Reply where
  | ack (messageId sequence : Nat)
  | nack (messageId sequence : Nat) (reason : String)
  | configDeploy (package : EdgeConfigPackage)
  | discoveryRequest (messageId sequence : Nat) (request : DiscoveryRequest)

structure Session extends EdgeGatewaySession where
  runtimeVersion : String
  capabilities : List String

structure GatewayStore extends MemoryStore where
  runtimeEvents : List EdgeRuntimeEvent
  discoveryReports : OrderedMap String (List DiscoveryReport)

namespace GatewayStore

def empty : GatewayStore where
  toMemoryStore := .empty
  runtimeEvents := []
  discoveryReports := .empty

def activeEdgeCredential (store : GatewayStore) (edgeId : String) : Option EdgeAccessCredential :=
  maxBy EdgeAccessCredential.createdAt (store.edgeCredentials.values.filter fun credential =>
    credential.edgeId = edgeId ∧ credential.active)

def upsertRuntimeMetrics (store : GatewayStore) (snapshot : EdgeRuntimeMetricsSnapshot) :
    GatewayStore :=
  { store with runtimeMetrics := store.runtimeMetrics.insert snapshot }

def pushRuntimeEvent (store : GatewayStore) (event : EdgeRuntimeEvent) : GatewayStore :=
  { store with runtimeEvents := store.runtimeEvents ++ [event] }

def insertDiscoveryReport (store : GatewayStore) (edgeId : String) (report : DiscoveryReport) :
    GatewayStore :=
  { store with
    discoveryReports := store.discoveryReports.put edgeId
      ((store.discoveryReports.get edgeId).getD [] ++ [report]) }

def replaceEdgeCredential (store : GatewayStore) (credential : EdgeAccessCredential) :
    GatewayStore :=
  { store with toMemoryStore := store.toMemoryStore.replaceEdgeCredential credential }

def removeEdgeNode (store : GatewayStore) (edgeId : String) : GatewayStore :=
  match store.edgeNodes.get edgeId with
  | none => store
  | some _ =>
    { toMemoryStore := store.toMemoryStore.removeEdgeNode edgeId
      runtimeEvents := store.runtimeEvents.filter fun event => event.edgeId ≠ edgeId
      discoveryReports := store.discoveryReports.delete edgeId }

def withCore (store : GatewayStore) (core : CloudControlStore) : GatewayStore :=
  { store with toCloudControlStore := core }

end GatewayStore

structure Refusal where
  reply : Option Reply
  reason : String

/-- Without a credential of the edge any runtime may speak for it. -/
def checkAccessToken (hashAccessToken : String → String) (store : GatewayStore) (message : Message)
    (hello : EdgeLinkHello) : Except Refusal Unit :=
  match store.activeEdgeCredential message.edgeId with
  | none => .ok ()
  | some credential =>
    let reason := "invalid or missing edge access token"
    bailIf (hello.accessToken.map hashAccessToken ≠ some credential.tokenHash)
      ⟨some (.nack message.messageId message.sequence reason),reason⟩

def handleEdgelinkStream (hashAccessToken : String → String) (store : GatewayStore)
    (message : Message) : Except Refusal (Reply × Session) :=
  match message.payload with
  | .hello hello => do
      let runtimeId ← context message.runtimeId ⟨none,"EdgeLink hello is missing runtime_id"⟩
      bailIf (runtimeId ≠ hello.runtimeId)
        ⟨none,"EdgeLink hello runtime_id does not match envelope runtime_id"⟩
      checkAccessToken hashAccessToken store message hello
      pure (.ack message.messageId message.sequence,{
        edgeId := message.edgeId
        runtimeId := hello.runtimeId
        appliedConfigVersion := hello.appliedConfigVersion
        runtimeVersion := hello.runtimeVersion
        capabilities := hello.capabilities })
  | _ => .error ⟨none,"first EdgeLink message must be hello"⟩

def pushUnique (values : List String) (value : String) : List String :=
  if value ∈ values then values else values ++ [value]

/-- The node of a session's edge, filled in with what the runtime says of itself. -/
def discoveredNode (session : Session) (existing : Option EdgeNode) : EdgeNode :=
  let site := s!"runtime/{session.runtimeId}"
  let node := existing.getD {
    edgeId := session.edgeId
    displayName := session.edgeId
    site := some site
    capabilities := []
    projectId := none
    productId := none
    desiredProductVersion := none
    reportedProductVersion := none }
  let known := pushUnique (pushUnique
    (node.capabilities.filter fun capability => capability ≠ "registration:draft")
    "registration:runtime-discovered") s!"runtime-version:{session.runtimeVersion}"
  { node with
    displayName := if node.displayName ∈ ["","新边端注册草稿","新边端待确认"] then session.edgeId
      else node.displayName
    site := if node.site = none ∨ node.site = some "待分配" then some site else node.site
    capabilities := session.capabilities.foldl pushUnique known }

def persistRuntimeDiscoveredEdge (session : Session) (store : GatewayStore) : GatewayStore :=
  store.withCore (store.registerEdge (discoveredNode session (store.edgeNodes.get session.edgeId)))

def acceptConfigReport (session : Session) (version : String) (message : Message)
    (store : GatewayStore) : Except String (Reply × GatewayStore) := do
  bailIf (message.edgeId ≠ session.edgeId) "config report edge_id does not match session edge_id"
  bailIf (message.runtimeId ≠ some session.runtimeId)
    "config report runtime_id does not match session runtime_id"
  match message.payload with
  | .configReport report => do
      let core ← persistConfigReport store.toCloudControlStore session.edgeId version report
      pure (.ack message.messageId message.sequence,store.withCore core)
  | _ => .error "expected EdgeLink config report after config deploy"

def persistRuntimeMessage (session : Session) (message : Message) (store : GatewayStore) :
    Except String (Reply × GatewayStore) := do
  bailIf (message.edgeId ≠ session.edgeId)
    s!"EdgeLink message edge_id {message.edgeId} does not match session edge_id {session.edgeId}"
  bailIf (message.runtimeId ≠ some session.runtimeId)
    "EdgeLink message runtime_id does not match session runtime_id"
  let ack := Reply.ack message.messageId message.sequence
  match message.payload with
  | .runtimeMetrics snapshot => do
      bailIf (snapshot.edgeId ≠ session.edgeId)
        "runtime metrics edge_id does not match session edge_id"
      pure (ack,store.upsertRuntimeMetrics snapshot)
  | .runtimeEvent event => do
      bailIf (event.edgeId ≠ session.edgeId)
        "runtime event edge_id does not match session edge_id"
      pure (ack,store.pushRuntimeEvent event)
  -- a discovery report does not name its edge, so that it goes to the session's
  | .discoveryReport report => pure (ack,store.insertDiscoveryReport session.edgeId report)
  | .heartbeat => pure (ack,store)
  | _ => pure (.nack message.messageId message.sequence
      "unsupported EdgeLink payload for runtime ingestion",store)

structure PendingDiscovery where
  requestMessageId : Nat
  protocolConnectionId : String

structure MessageLoop where
  store : GatewayStore
  pending : OrderedMap String PendingDiscovery
  sequence : Nat
  accepted : Nat
  replies : List Reply

def Reply.isAck : Reply → Bool
  | .ack _ _ => true
  | _ => false

namespace MessageLoop

def reply (loop : MessageLoop) (reply : Reply) : MessageLoop :=
  { loop with
    accepted := if reply.isAck then loop.accepted + 1 else loop.accepted
    replies := loop.replies ++ [reply] }

def persist (session : Session) (loop : MessageLoop) (message : Message) :
    Except String MessageLoop := do
  let (answer,store) ← persistRuntimeMessage session message loop.store
  pure ({ loop with store := store }.reply answer)

def refusedJob (loop : MessageLoop) (nack : EdgeLinkAck) : Option String :=
  (loop.pending.entries.find? fun (_,request) =>
    request.requestMessageId = nack.ackMessageId).map Prod.fst

/-- A message when discovery requests can be sent: reports are only taken as answers to them. -/
def handleWithRegistry (session : Session) (loop : MessageLoop) (message : Message) :
    Except String MessageLoop :=
  match message.payload with
  | .nack nack =>
    match loop.refusedJob nack with
    | some jobId => .ok { loop with pending := loop.pending.delete jobId }
    | none => loop.persist session message
  | .discoveryReport report =>
    match loop.pending.get report.jobId with
    | none => .ok (loop.reply (.nack message.messageId message.sequence
        "unsolicited discovery report"))
    | some expected =>
      let answered := { loop with pending := loop.pending.delete report.jobId }
      if report.protocolConnectionId ≠ expected.protocolConnectionId then
        .ok (answered.reply (.nack message.messageId message.sequence
          "discovery report protocol connection does not match request"))
      else answered.persist session message
  | _ => loop.persist session message

/-- A discovery request of the console; a second one is refused while the first runs. -/
def requestDiscovery (loop : MessageLoop) (messageId : Nat) (request : DiscoveryRequest) :
    MessageLoop :=
  if loop.pending.entries.isEmpty then
    { loop with
      pending := loop.pending.put request.jobId ⟨messageId,request.protocolConnectionId⟩
      sequence := min (loop.sequence + 1) (2 ^ 64 - 1)
      replies := loop.replies ++ [.discoveryRequest messageId loop.sequence request] }
  else loop

end MessageLoop

end VelaEdge.Cloud.Gateway
