import VelaEdge.Cloud.CommandCandidate
import VelaEdge.Cloud.Materialization
import VelaEdge.Core.CommandFlow

/-! Checking an agent's command against the configuration of its edge, and turning a confirmed
one into the message that is sent. -/
namespace VelaEdge.Cloud

open Base Core VelaEdge.Runtime Runtime.Command

structure RuntimeMetrics where
  connected : Bool
  timestamp : Time
deriving DecidableEq

structure RequestView where
  store : CloudControlStore
  metrics : Option RuntimeMetrics
  now : Time
  actor : String
  nonce : String

def errorIssue (code path message : String) : AgentValidationIssue := ⟨.error,code,path,message⟩

def warningIssue (code path message : String) : AgentValidationIssue := ⟨.warning,code,path,message⟩

def issueIf (condition : Prop) [Decidable condition] (issue : AgentValidationIssue) :
    List AgentValidationIssue :=
  if condition then [issue] else []

variable (ext : Externals)

def validateAgentCommandValue (value : Json) (valueType : TelemetryType)
    (range : Option NumberRange) : Except String Unit := do
  let numeric ← match valueType with
    | .float => (context value.asF64 "float point requires a JSON number").map some
    | .integer =>
      (context value.asI64 "integer point requires a JSON integer").map fun number =>
        some (Binary64.ofInt number)
    | .boolean => do
        bailIf (value.asBool.isNone) "boolean point requires true or false"
        pure none
    | .text => do
        bailIf (value.asStr.isNone) "text point requires a JSON string"
        pure none
  match range, numeric with
  | some range, some numeric =>
    bailIf (!range.contains numeric)
      s!"command value {ext.displayF64 numeric} is outside [{
        ext.displayF64 range.min}, {ext.displayF64 range.max}]"
  | _, _ => pure ()

def mappingIssues (candidate : AgentCommandCandidate) (package : EdgeConfigPackage) :
    List AgentValidationIssue :=
  match package.pointMappings.find? fun mapping => mapping.pointId = candidate.target.pointId with
  | none =>
    [errorIssue "missing_point_mapping" "target.pointId" "point mapping no longer exists"]
  | some mapping =>
    issueIf (!mapping.access.isWritable)
        (errorIssue "point_is_read_only" "target.pointId" "point is not writable") ++
      issueIf (mapping.deviceId ≠ candidate.target.deviceId ∨
          mapping.protocolConnectionId ≠ candidate.target.protocolConnectionId)
        (errorIssue "point_target_changed" "target.pointId"
          "point device or protocol connection changed") ++
      match validateAgentCommandValue ext candidate.value mapping.valueType mapping.range with
      | .ok () => []
      | .error cause => [errorIssue "invalid_command_value" "value" cause]

variable (view : RequestView)

def metricsIssues : List AgentValidationIssue := match view.metrics with
  | none =>
    [warningIssue "runtime_metrics_missing" "target.edgeId"
      "Runtime has not reported metrics; MQTT delivery can still be attempted"]
  | some metrics =>
    if !metrics.connected then
      [warningIssue "runtime_cloud_link_disconnected" "target.edgeId"
        "Runtime reports that its cloud control link is disconnected"]
    else
      issueIf (90 < (view.now - metrics.timestamp).tdiv (milliseconds 1000))
        (warningIssue "runtime_metrics_stale" "target.edgeId"
          "Runtime metrics are older than 90 seconds; MQTT delivery can still be attempted")

variable (candidate : AgentCommandCandidate)

def flowIssues (package : EdgeConfigPackage) (flow : CommandFlowConfig) :
    List AgentValidationIssue :=
  issueIf (!flow.enabled)
      (errorIssue "command_flow_disabled" "target.flowId" "command flow is disabled") ++
    issueIf (flow.protocolConnectionId ≠ candidate.target.protocolConnectionId)
      (errorIssue "protocol_connection_changed" "target.protocolConnectionId"
        "command flow protocol connection changed") ++
    (match validateCommandFlow flow package.pointMappings with
      | .ok () => []
      | .error cause => [errorIssue "invalid_command_topology" "target.flowId" cause]) ++
    issueIf (!flow.nodes.any fun node => node.kind = .safetyGate)
      (errorIssue "missing_safety_gate" "target.flowId"
        "Agent-issued device commands require a safety gate in the command flow") ++
    issueIf (!flow.nodes.any fun node =>
        node.kind = .pointWrite && node.refId = some candidate.target.pointId)
      (errorIssue "point_not_exposed_by_flow" "target.pointId"
        "command flow does not expose the selected writable point") ++
    mappingIssues ext candidate package ++
    issueIf (!package.mqttUplinks.any fun uplink => uplink.sinkId = flow.mqttConnectionId)
      (errorIssue "missing_command_mqtt_connection" "target.flowId"
        "command flow MQTT connection no longer exists")

def packageIssues (package : EdgeConfigPackage) : List AgentValidationIssue :=
  let targeted := candidate.target.productVersion.getD "none"
  issueIf (candidate.target.productVersion ≠ some package.version)
      (errorIssue "stale_product_version" "target.productVersion"
        s!"command candidate targets `{targeted}`, but edge currently runs `{package.version}`") ++
    match package.commandFlows.find? fun flow => flow.flowId = candidate.target.flowId with
    | none =>
      [errorIssue "missing_command_flow" "target.flowId"
        "command flow no longer exists in the active package"]
    | some flow => flowIssues ext candidate package flow ++ metricsIssues view

def candidateIssues : List AgentValidationIssue :=
  match view.store.edgeNodes.get candidate.target.edgeId with
  | none =>
    [errorIssue "missing_edge" "target.edgeId" s!"edge `{candidate.target.edgeId}` does not exist"]
  | some edge =>
    issueIf (edge.projectId ≠ some candidate.target.projectId)
        (errorIssue "project_scope_mismatch" "target.projectId"
          "edge is outside the command candidate project scope") ++
      issueIf (candidate.target.productId ≠ edge.productId)
        (errorIssue "product_binding_changed" "target.productId"
          "edge product binding changed after the command candidate was drafted") ++
      match view.store.latestConfigPackageForEdge candidate.target.edgeId with
      | none =>
        [errorIssue "missing_config_package" "target.edgeId"
          "edge has no active configuration package"]
      | some package => packageIssues ext view candidate package

def validateAgentCommandCandidate : AgentValidationReport :=
  .new (candidateIssues ext view candidate)

/-! ## The message -/

def insertAt (value : Json) : List String → Json → Except String Json
  | [], _ => .error "value path is empty"
  | [segment], .object fields => .ok (.object (Json.insertField segment value fields))
  | [_], _ => .error "value path parent is not an object"
  | segment :: next :: segments, .object fields => do
      let child ← insertAt value (next :: segments) ((fields.lookup segment).getD (.object []))
      .ok (.object (Json.insertField segment child fields))
  | segment :: _ :: _, _ => .error s!"`{segment}` traverses a non-object value"

def pathSegments (path : String) : List String :=
  ((Text.split '.' path).map Text.trim).filter fun segment => segment ≠ ""

def insertJsonPath (document : Json) (path : String) (value : Json) : Except String Json :=
  insertAt value (pathSegments path) document

/-- Where the flow takes the value of a point from, after its first write node for the point. -/
def commandValuePath (flow : CommandFlowConfig) (pointId : String) : String :=
  (((flow.nodes.find? fun node => node.kind = .pointWrite && node.refId = some pointId).bind
    fun node => node.param "value_path").bind Json.asStr).getD s!"values.{pointId}"

def commandDocument (confirmation : AgentConfirmationEvidence) : Json :=
  .object [
    ("approvalCandidateId",.string candidate.candidateId),
    ("approvedAt",.string (ext.renderTime confirmation.confirmedAt)),
    ("approvedBy",.string confirmation.confirmedBy),
    ("coApprovedBy",(confirmation.coApprover.map .string).getD .null),
    ("commandId",.string candidate.idempotencyKey),
    ("confirmationToken",.string s!"approval:{candidate.candidateId}:{view.nonce}"),
    ("deviceId",.string candidate.target.deviceId),
    ("expiresAt",.string (ext.renderTime (view.now + milliseconds 60000))),
    ("pointId",.string candidate.target.pointId),
    ("requestedBy",.string view.actor),
    ("value",candidate.value)]

structure PreparedDispatch where
  package : EdgeConfigPackage
  flow : CommandFlowConfig
  uplink : MqttUplinkConfig
  document : Json
  encoded : Bytes

def prepareDispatch : Except ApiError PreparedDispatch := do
  let package ← context (view.store.latestConfigPackageForEdge candidate.target.edgeId)
    ⟨.conflict,"edge has no configuration package"⟩
  let flow ← context (package.commandFlows.find? fun flow => flow.flowId = candidate.target.flowId)
    ⟨.conflict,"command flow no longer exists"⟩
  let uplink ← context (package.mqttUplinks.find? fun uplink =>
      uplink.sinkId = flow.mqttConnectionId)
    ⟨.conflict,"command MQTT connection no longer exists"⟩
  let confirmation ← context candidate.confirmation
    ⟨.conflict,"command candidate is missing human confirmation evidence"⟩
  let document ← (insertJsonPath (commandDocument ext view candidate confirmation)
    (commandValuePath flow candidate.target.pointId) candidate.value).mapError fun message =>
      ⟨.unprocessableEntity,s!"invalid command value path: {message}"⟩
  let encoded := ext.encodeJson document
  let _ ← (planCommandExecution ext package flow.flowId encoded view.now).mapError fun cause =>
    ⟨.unprocessableEntity,s!"Runtime command preflight failed: {cause}"⟩
  pure ⟨package,flow,uplink,document,encoded⟩

def PreparedDispatch.message (prepared : PreparedDispatch) : MqttPublishMessage where
  sinkId := prepared.uplink.sinkId
  broker := prepared.uplink.broker
  clientId := s!"{prepared.uplink.clientId}-agent-dispatch"
  topic := prepared.flow.subscribeTopic
  qos := prepared.flow.qos
  payload := prepared.encoded

end VelaEdge.Cloud
