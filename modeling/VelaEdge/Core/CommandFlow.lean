import VelaEdge.Base.Topological
import VelaEdge.Core.PointValidation

/-! The check of a command flow against the points of its package: its settings, its nodes one by
one, and the shape of its graph. -/
namespace VelaEdge.Core

open Base Text

/-- Of several mappings under one id a map keeps the last. -/
def lastMapping (mappings : List TelemetryPointMapping) (pointId : String) :
    Option TelemetryPointMapping :=
  mappings.reverse.find? (fun mapping => mapping.pointId = pointId)

theorem lastMapping_pointId (h : lastMapping mappings pid = some mapping) :
    mapping.pointId = pid := by
  simpa using List.find?_some h

def validJsonFieldPath (path : String) : Bool := let path := trim path
  path ≠ "" && path.utf8ByteSize ≤ 256 && (split '.' path).all fun segment =>
      segment ≠ "" && !segment.toList.any isWhitespace

def checkParam (node : CommandGraphNode) (name : String) (check : Json → Except String Unit) :
    Except String Unit :=
  match node.param name with
  | none => .ok ()
  | some value => check value

def isPresentText (value : Json) : Bool := value.asStr.any fun text => !isBlank text

def isPositive (value : Json) : Bool := value.asU64.any fun count => 0 < count

namespace CommandFlow

variable (flow : CommandFlowConfig) (mappings : List TelemetryPointMapping)

variable (node : CommandGraphNode)

def checkWriteParams : Except String Unit := do
  let at_ := s!"command flow {flow.flowId} write node {node.nodeId}"
  checkParam node "value_path" fun value => do
    let path ← context value.asStr s!"{at_} value_path must be a string"
    bailIf (!validJsonFieldPath path)
      s!"{at_} value_path must be a non-empty dot-separated JSON field path"
  let mode := if (node.param "verification").isSome then "verification" else "verify_mode"
  checkParam node mode fun value => do
    let verification ← context value.asStr s!"{at_} verification must be a string"
    bailIf (verification ∉ ["response","readback"])
      s!"{at_} verification mode is unsupported: {verification}"
  checkParam node "readback_tolerance" fun value => do
    let tolerance ← context value.asF64 s!"{at_} readback_tolerance must be a number"
    bailIf (!tolerance.isFinite || tolerance.lt .zero)
      s!"{at_} readback_tolerance must be finite and non-negative"

def checkWriteNode : Except String Unit := do
  let pointId := node.refId.getD ""
  let mapping ← context (lastMapping mappings pointId)
    s!"command flow {flow.flowId} write node {node.nodeId} references missing point {pointId}"
  bailIf (!mapping.access.isWritable)
    s!"command flow {flow.flowId} write node {node.nodeId} references read-only point {pointId}"
  bailIf (flow.protocolConnectionId ≠ "" ∧ mapping.protocolConnectionId ≠ flow.protocolConnectionId)
    s!"command flow {flow.flowId} write node {node.nodeId} uses protocol connection {
      mapping.protocolConnectionId}, expected {flow.protocolConnectionId}"
  validatePointAccess mapping.address mapping.access
  checkWriteParams flow node

def maxConfirmationAgeMs : Nat := 7 * 24 * 60 * 60 * 1000

def checkSafetyNode : Except String Unit := do
  let at_ := s!"command flow {flow.flowId} safety node {node.nodeId}"
  checkParam node "require_confirmation" fun value =>
    bailIf (value.asBool.isNone) s!"{at_} require_confirmation must be boolean"
  checkParam node "source_path" fun value =>
    bailIf (!isPresentText value) s!"{at_} source_path must be a non-empty string"
  checkParam node "max_confirmation_age_ms" fun value =>
    bailIf (!(value.asU64.any fun age => 0 < age && age ≤ maxConfirmationAgeMs))
      s!"{at_} max_confirmation_age_ms must be between 1 and 604800000"
  checkParam node "allowed_sources" fun value => do
    let sources ← context value.asArray s!"{at_} allowed_sources must be an array"
    bailIf (sources.isEmpty || sources.any fun source => !isPresentText source)
      s!"{at_} allowed_sources requires non-empty strings"
  bailIf ((node.param "max_commands").isSome ≠ (node.param "window_ms").isSome)
    s!"{at_} max_commands and window_ms must be configured together"
  checkParam node "max_commands" fun value =>
    bailIf (!isPositive value) s!"{at_} max_commands must be a positive integer"
  checkParam node "window_ms" fun value =>
    bailIf (!isPositive value) s!"{at_} window_ms must be a positive integer"

def checkNode : Except String Unit := match node.kind with
  | .pointWrite => checkWriteNode flow mappings node
  | .safetyGate => checkSafetyNode flow node
  | _ => .ok ()

def checkNodes : List String → List CommandGraphNode → Except String Unit
  | _, [] => .ok ()
  | seen, node :: nodes => do
      bailIf (isBlank node.nodeId) s!"command flow {flow.flowId} node id is required"
      bailIf (seen.contains node.nodeId)
        s!"command flow {flow.flowId} has duplicate node {node.nodeId}"
      checkNode flow mappings node
      checkNodes (node.nodeId :: seen) nodes

def kindName : CommandGraphNodeKind → String
  | .mqttInput => "MqttInput"
  | .jsonParse => "JsonParse"
  | .condition => "Condition"
  | .safetyGate => "SafetyGate"
  | .pointWrite => "PointWrite"
  | .mqttReply => "MqttReply"

def nodeKind (nodeId : String) : Option CommandGraphNodeKind :=
  (flow.nodes.find? fun node => node.nodeId = nodeId).map CommandGraphNode.kind

def checkEdges : List String → List CommandGraphEdge → Except String Unit
  | _, [] => .ok ()
  | seen, edge :: edges => do
      bailIf (seen.contains edge.edgeId)
        s!"command flow {flow.flowId} has duplicate edge {edge.edgeId}"
      let fromKind ← context (nodeKind flow edge.fromNode)
        s!"command flow {flow.flowId} edge {edge.edgeId} references missing source {edge.fromNode}"
      let toKind ← context (nodeKind flow edge.toNode)
        s!"command flow {flow.flowId} edge {edge.edgeId} references missing target {edge.toNode}"
      bailIf (fromKind = .mqttReply)
        s!"command flow {flow.flowId} reply node {edge.fromNode} cannot have outgoing edges"
      bailIf (toKind = .mqttInput)
        s!"command flow {flow.flowId} input node {edge.toNode} cannot have incoming edges"
      checkEdges (edge.edgeId :: seen) edges

def graphEdges : List (String × String) :=
  flow.edges.map fun edge => (edge.fromNode,edge.toNode)

def indegree (nodeId : String) : Nat := Topological.indegree (graphEdges flow) nodeId

def checkConnected : Except String Unit := do
  if let some node := flow.nodes.find? fun node =>
      node.kind ≠ .mqttInput ∧ indegree flow node.nodeId = 0 then
    throw s!"command flow {flow.flowId} node {node.nodeId} has no upstream input"
  if let some node := flow.nodes.find? fun node =>
      node.kind ≠ .mqttReply ∧ !flow.edges.any fun edge => edge.fromNode = node.nodeId then
    throw s!"command flow {flow.flowId} node {node.nodeId} has no downstream output"

def checkGraph : Except String Unit := do
  checkConnected flow
  bailIf (Topological.visited (flow.nodes.map CommandGraphNode.nodeId) (graphEdges flow) ≠
      flow.nodes.length)
    s!"command flow {flow.flowId} graph contains a cycle"

def checkSettings : Except String Unit := do
  bailIf (isBlank flow.flowId) "command flow id is required"
  bailIf (isBlank flow.mqttConnectionId)
    s!"command flow {flow.flowId} MQTT connection is required"
  bailIf (isBlank flow.subscribeTopic)
    s!"command flow {flow.flowId} subscribe topic is required"
  bailIf (isBlank flow.replyTopicTemplate)
    s!"command flow {flow.flowId} reply topic is required"
  bailIf (2 < flow.qos) s!"command flow {flow.flowId} QoS must be 0, 1, or 2"
  bailIf (flow.nodes.isEmpty) s!"command flow {flow.flowId} graph requires nodes"

def checkRequiredKinds : Except String Unit :=
  [CommandGraphNodeKind.mqttInput,.pointWrite,.mqttReply].forM fun required =>
    bailIf (!flow.nodes.any fun node => node.kind = required)
      s!"command flow {flow.flowId} requires a {kindName required} node"

end CommandFlow

open CommandFlow in
def validateCommandFlow (flow : CommandFlowConfig) (mappings : List TelemetryPointMapping) :
    Except String Unit := do
  checkSettings flow
  checkNodes flow mappings [] flow.nodes
  checkRequiredKinds flow
  checkEdges flow [] flow.edges
  checkGraph flow

end VelaEdge.Core
