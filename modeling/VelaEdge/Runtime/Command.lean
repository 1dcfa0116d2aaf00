import VelaEdge.Base.Outcome
import VelaEdge.Core.Config

/-! Planning a command: from the bytes of one MQTT message and one command flow to the point
writes, reply nodes and safety gates the flow selects, or the reason it selects none. -/
namespace VelaEdge.Runtime

open Base Core List Text

abbrev Bytes := List UInt8

/-- Nanoseconds since the epoch. -/
abbrev Time := Int

def milliseconds (count : Int) : Time := count * 1000000

/-- What the runtime takes from the libraries it links against. -/
structure Externals where
  parseJson : Bytes → Option Json
  encodeJson : Json → Bytes
  parseRfc3339 : String → Option Time
  renderTime : Time → String
  displayF64 : Binary64 → String
  debugValue : TelemetryValue → String
  sha256 : Bytes → Bytes

structure MqttPublishMessage where
  sinkId : String
  broker : String
  clientId : String
  topic : String
  qos : Nat
  payload : Bytes
deriving DecidableEq

inductive CommandWriteVerification where
  | response
  | readback
deriving DecidableEq

structure PlannedPointWrite where
  nodeId : String
  mapping : TelemetryPointMapping
  value : TelemetryValue
  verification : CommandWriteVerification
  readbackTolerance : Binary64

structure PlannedCommandSafetyGate where
  nodeId : String
  sourcePath : String
  source : Option String
  allowedSources : List String
  maxCommands : Option Nat
  windowMs : Option Nat
deriving DecidableEq

structure CommandExecutionPlan where
  flow : CommandFlowConfig
  commandId : String
  commandSource : Option String
  writes : List PlannedPointWrite
  replyNodeIds : List String
  safetyGates : List PlannedCommandSafetyGate

inductive CommandExecutionStatus where
  | succeeded
  | failed
deriving DecidableEq

structure CommandWriteRecord where
  nodeId : String
  pointId : String
  deviceId : String
  value : TelemetryValue
  verified : Bool
  verification : CommandWriteVerification
  readbackValue : Option TelemetryValue
deriving DecidableEq

structure CommandExecutionReport where
  flowId : String
  commandId : String
  source : Option String
  status : CommandExecutionStatus
  writes : List CommandWriteRecord
  error : Option String
  completedAt : Time
  duplicate : Bool
  replies : List MqttPublishMessage
deriving DecidableEq

structure ProtocolWriteResult where
  pointId : String
  value : TelemetryValue
  verified : Bool
  readbackValue : Option TelemetryValue

namespace CommandExecutionReport

def new (flowId commandId : String) (now : Time) : CommandExecutionReport where
  flowId := flowId
  commandId := commandId
  source := none
  status := .succeeded
  writes := []
  error := none
  completedAt := now
  duplicate := false
  replies := []

def writeRecord (write : PlannedPointWrite) (result : ProtocolWriteResult) :
    CommandWriteRecord where
  nodeId := write.nodeId
  pointId := result.pointId
  deviceId := write.mapping.deviceId
  value := result.value
  verified := result.verified
  verification := write.verification
  readbackValue := result.readbackValue

def recordWrite (report : CommandExecutionReport) (write : PlannedPointWrite)
    (result : ProtocolWriteResult) : CommandExecutionReport :=
  { report with writes := report.writes ++ [writeRecord write result] }

def fail (report : CommandExecutionReport) (error : String) (now : Time) : CommandExecutionReport :=
  { report with status := .failed, error := some error, completedAt := now }

end CommandExecutionReport

variable {plan : CommandExecutionPlan} {doc : Json}

namespace Command

def defaultMaxConfirmationAgeMs : Int := 15 * 60 * 1000
def maxCommandTtlMs : Int := 5 * 60 * 1000
def minConfirmationTokenLength : Nat := 24

variable (ext : Externals)

def validateExpiry (document : Json) (now : Time) : Except String Unit :=
  match document.stringAt "expiresAt" with
  | none => .ok ()
  | some text =>
    match ext.parseRfc3339 text with
    | none => .error "command expiresAt must use RFC3339"
    | some expiresAt => if expiresAt ≤ now then .error "command has expired" else .ok ()

def requiredExpiry (document : Json) (now : Time) : Except String Time :=
  match document.stringAt "expiresAt" with
  | none => .error "human-confirmed command requires expiresAt"
  | some text =>
    match ext.parseRfc3339 text with
    | none => .error "command expiresAt must use RFC3339"
    | some expiresAt => if expiresAt ≤ now then .error "command has expired" else .ok expiresAt

def isHumanActor (actor : String) : Bool :=
  actor ≠ "" && !hasPrefix "agent:" actor && !hasPrefix "model:" actor &&
    actor.toList.map Char.toLower ≠ "system".toList

variable (node : CommandGraphNode)

def maxConfirmationAgeMs : Int :=
  match (node.param "max_confirmation_age_ms").bind Json.asU64 with
  | some value => if value < 2 ^ 63 then value else defaultMaxConfirmationAgeMs
  | none => defaultMaxConfirmationAgeMs

variable (document : Json)

def validateConfirmation (now : Time) : Except String Unit := do
  let token ← context (((document.stringAt "confirmationToken").map trim).filter
      (fun token => minConfirmationTokenLength ≤ token.utf8ByteSize))
    s!"safety gate {node.nodeId} requires a confirmationToken of at least {
      minConfirmationTokenLength} characters"
  bailIf (token.toList.any isWhitespace)
    s!"safety gate {node.nodeId} confirmationToken must not contain whitespace"
  let _ ← context (((document.stringAt "approvedBy").map trim).filter isHumanActor)
    s!"safety gate {node.nodeId} requires approvedBy from a human operator"
  let approvedText ← context (document.stringAt "approvedAt")
    s!"safety gate {node.nodeId} requires an RFC3339 approvedAt timestamp"
  let approvedAt ← context (ext.parseRfc3339 approvedText) "command approvedAt must use RFC3339"
  bailIf (approvedAt > now + milliseconds 30000)
    s!"safety gate {node.nodeId} approval timestamp is in the future"
  bailIf (approvedAt < now - milliseconds (maxConfirmationAgeMs node))
    s!"safety gate {node.nodeId} approval has expired"
  let expiresAt ← requiredExpiry ext document now
  bailIf (expiresAt > now + milliseconds maxCommandTtlMs)
    s!"safety gate {node.nodeId} command expiry exceeds the local five minute limit"

def planSafetyGate (now : Time) : Except String PlannedCommandSafetyGate := do
  validateExpiry ext document now
  if ((node.param "require_confirmation").bind Json.asBool).getD false then
    validateConfirmation ext node document now
  let sourcePath := ((node.param "source_path").bind Json.asStr).getD "requestedBy"
  let allowedSources := (((node.param "allowed_sources").bind Json.asArray).map
    (fun values => values.filterMap Json.asStr)).getD []
  let maxCommands ← match (node.param "max_commands").bind Json.asU64 with
    | none => pure none
    | some value =>
      if value < 2 ^ 32 then pure (some value)
      else throw s!"safety gate {node.nodeId} max_commands is too large"
  pure {
    nodeId := node.nodeId
    sourcePath := sourcePath
    source := document.stringAt sourcePath
    allowedSources := allowedSources
    maxCommands := maxCommands
    windowMs := (node.param "window_ms").bind Json.asU64 }

def evaluateCondition : Except String Bool := do
  let path := ((node.param "path").bind Json.asStr).getD "value"
  let operator := ((node.param "operator").bind Json.asStr).getD "eq"
  let actual ← context (document.valueAt path)
    s!"condition node {node.nodeId} path not found: {path}"
  let expected := (node.param "value").getD (.bool true)
  if operator = "eq" then pure (actual.beq expected)
  else if operator = "ne" then pure (!actual.beq expected)
  else if operator ∈ ["gt","gte","lt","lte"] then
    let actual ← context actual.asF64 "numeric condition actual value must be a number"
    let expected ← context expected.asF64 "numeric condition expected value must be a number"
    if operator = "gt" then pure (expected.lt actual)
    else if operator = "gte" then pure (expected.le actual)
    else if operator = "lt" then pure (actual.lt expected)
    else pure (actual.le expected)
  else throw s!"condition node {node.nodeId} operator is unsupported: {operator}"

def telemetryValue (value : Json) : TelemetryType → Except String TelemetryValue
  | .float => (context value.asF64 "float point requires a JSON number").map .float
  | .integer => (context value.asI64 "integer point requires a JSON integer").map .integer
  | .boolean => (context value.asBool "boolean point requires true or false").map .boolean
  | .text => (context value.asStr "text point requires a JSON string").map .text

/-- The value `1.0e-6` of the source, the binary64 number nearest to it. -/
def floatReadbackTolerance : Binary64 := .finite 4722366482869645 (-72)

def planVerification : Except String CommandWriteVerification :=
  let mode := match node.param "verification" with
    | some value => some value
    | none => node.param "verify_mode"
  match mode.bind Json.asStr with
  | none => .ok .response
  | some value =>
    if value = "response" then .ok .response
    else if value = "readback" then .ok .readback
    else .error s!"write node {node.nodeId} verification mode is unsupported: {value}"

def planReadbackTolerance (valueType : TelemetryType) : Except String Binary64 := do
  let tolerance ← match node.param "readback_tolerance" with
    | none => pure (if valueType = .float then floatReadbackTolerance else .zero)
    | some value =>
      context value.asF64 s!"write node {node.nodeId} readback_tolerance must be a number"
  bailIf (!tolerance.isFinite || tolerance.lt .zero)
    s!"write node {node.nodeId} readback_tolerance must be finite and non-negative"
  pure tolerance

/-- `none` when the command names another point: the branch of the graph ends there. -/
def planPointWrite (mappings : List TelemetryPointMapping) :
    Except String (Option PlannedPointWrite) := do
  let pointId := node.refId.getD ""
  -- the mappings are collected into a map, where a later one replaces an earlier one
  let mapping ← context (mappings.reverse.find? (fun mapping => mapping.pointId = pointId))
    s!"write node {node.nodeId} point not found: {pointId}"
  bailIf (!mapping.access.isWritable)
    s!"point {pointId} is not writable"
  if (document.stringAt "pointId").any (fun requested => requested ≠ pointId) then
    return none
  if let some requestedDevice := document.stringAt "deviceId" then
    bailIf (requestedDevice ≠ mapping.deviceId)
      s!"command device {requestedDevice} does not match point {pointId} device {
        mapping.deviceId}"
  let valuePath := ((node.param "value_path").bind Json.asStr).getD s!"values.{pointId}"
  let rawValue ← context ((document.valueAt valuePath).or (document.valueAt "value"))
    s!"command payload has no value for point {pointId}; expected `{valuePath}` or `value`"
  let value ← match telemetryValue rawValue mapping.valueType with
    | .ok value => pure value
    | .error _ => throw s!"invalid command value for point {pointId}"
  if let some range := mapping.range then
    if let some numeric := value.asF64 then
      bailIf (!range.contains numeric)
        s!"command value {ext.displayF64 numeric} for point {pointId} is outside [{
          ext.displayF64 range.min}, {ext.displayF64 range.max}]"
  let verification ← planVerification node
  let readbackTolerance ← planReadbackTolerance node mapping.valueType
  return some {
    nodeId := node.nodeId
    mapping := mapping
    value := value
    verification := verification
    readbackTolerance := readbackTolerance }

structure Walk where
  queue : List String
  visited : List String
  writes : List PlannedPointWrite
  replyNodeIds : List String
  safetyGates : List PlannedCommandSafetyGate

/-- Targets of the edges out of a node that its selected port opens. -/
def successors (flow : CommandFlowConfig) (nodeId : String) (selectedPort : Option String) :
    List String :=
  (flow.edges.filter (fun edge => edge.fromNode = nodeId &&
    (edge.fromPort.isNone || selectedPort.isNone || edge.fromPort = selectedPort))).map
    (fun edge => edge.toNode)

def Walk.push (walk : Walk) (targets : List String) : Walk :=
  { walk with queue := walk.queue ++ targets }

variable (package : EdgeConfigPackage)

def visitNode (flow : CommandFlowConfig) (document : Json) (now : Time) (nodeId : String)
    (walk : Walk) : Except String Walk := do
  -- a later node with the same id replaces an earlier one
  let node ← context (flow.nodes.reverse.find? (fun node => node.nodeId = nodeId))
    s!"command graph node not found: {nodeId}"
  match node.kind with
  | .mqttInput => pure (walk.push (successors flow nodeId none))
  | .jsonParse => pure (walk.push (successors flow nodeId none))
  | .condition =>
    let holds ← evaluateCondition node document
    pure (walk.push (successors flow nodeId (some (if holds then "true" else "false"))))
  | .safetyGate =>
    let gate ← planSafetyGate ext node document now
    pure ({ walk with safetyGates := walk.safetyGates ++ [gate] }.push
      (successors flow nodeId none))
  | .pointWrite =>
    match ← planPointWrite ext node document package.pointMappings with
    | some write =>
      pure ({ walk with writes := walk.writes ++ [write] }.push (successors flow nodeId none))
    | none => pure walk
  | .mqttReply => pure { walk with replyNodeIds := walk.replyNodeIds ++ [node.nodeId] }

def walkStep (flow : CommandFlowConfig) (document : Json) (now : Time) (nodeId : String)
    (walk : Walk) : Except String Walk :=
  if nodeId ∈ walk.visited then .ok walk
  else visitNode ext package flow document now nodeId { walk with visited := nodeId :: walk.visited }

/-- The breadth-first loop. `walkGraph_queue` shows that the fuel of `planCommandExecution` never
runs out. -/
def walkGraph (package : EdgeConfigPackage) (flow : CommandFlowConfig) (document : Json)
    (now : Time) : Nat → Walk → Except String Walk
  | 0, walk => .ok walk
  | fuel + 1, walk =>
    match walk.queue with
    | [] => .ok walk
    | nodeId :: queue => do
        let next ← walkStep ext package flow document now nodeId { walk with queue := queue }
        walkGraph package flow document now fuel next

def walkFuel (flow : CommandFlowConfig) : Nat := flow.nodes.length + flow.edges.length

def initialWalk (flow : CommandFlowConfig) : Walk where
  queue := (flow.nodes.filter (fun node => node.kind = .mqttInput)).map (fun node => node.nodeId)
  visited := []
  writes := []
  replyNodeIds := []
  safetyGates := []

def commandIdOf : Option String :=
  ((document.stringAt "commandId").or (document.stringAt "command_id")).filter
    (fun value => !isBlank value)

def planCommandExecution (flowId : String) (payload : Bytes) (now : Time) :
    Except String CommandExecutionPlan := do
  let flow ← context (package.commandFlows.find? (fun flow => flow.flowId = flowId))
    s!"command flow not found: {flowId}"
  bailIf (!flow.enabled)
    s!"command flow {flowId} is disabled"
  let document ← context (ext.parseJson payload) "command payload must be valid JSON"
  let commandId ← context (commandIdOf document) "command payload requires commandId"
  validateExpiry ext document now
  let walk ← walkGraph ext package flow document now (walkFuel flow) (initialWalk flow)
  bailIf (walk.writes.isEmpty)
    s!"command flow {flowId} did not select a writable point"
  bailIf (walk.replyNodeIds.isEmpty)
    s!"command flow {flowId} did not reach a reply node"
  pure {
    flow := flow
    commandId := commandId
    commandSource := (walk.safetyGates.findSome? (fun gate => gate.source)).or
      (document.stringAt "requestedBy")
    writes := walk.writes
    replyNodeIds := walk.replyNodeIds
    safetyGates := walk.safetyGates }

def valueDocument : TelemetryValue → Json
  | .float (.finite mantissa exponent) =>
    .object [("Float",.number (.float (.finite mantissa exponent)))]
  | .float _ => .object [("Float",.null)]
  | .integer (.ofNat value) => .object [("Integer",.number (.posInt value))]
  | .integer (.negSucc value) => .object [("Integer",.number (.negInt (.negSucc value)))]
  | .boolean value => .object [("Boolean",.bool value)]
  | .text value => .object [("Text",.string value)]

def writeDocument (write : CommandWriteRecord) : Json := .object [
    ("deviceId",.string write.deviceId),
    ("nodeId",.string write.nodeId),
    ("pointId",.string write.pointId),
    ("readbackValue",(write.readbackValue.map valueDocument).getD .null),
    ("value",valueDocument write.value),
    ("verification",.string (if write.verification = .response then "response" else "readback")),
    ("verified",.bool write.verified)]

def replyDocument (report : CommandExecutionReport) : Json := .object [
    ("commandId",.string report.commandId),
    ("completedAt",.string (ext.renderTime report.completedAt)),
    ("error",(report.error.map .string).getD .null),
    ("flowId",.string report.flowId),
    ("source",(report.source.map .string).getD .null),
    ("status",.string (if report.status = .succeeded then "succeeded" else "failed")),
    ("writes",.array (report.writes.map writeDocument))]

def replyTopic (plan : CommandExecutionPlan) (report : CommandExecutionReport) : String :=
  let pointId := (report.writes.head?.map (fun write => write.pointId)).getD "unknown"
  let deviceId := (report.writes.head?.map (fun write => write.deviceId)).getD "unknown"
  let topic := replace plan.flow.replyTopicTemplate "\x7bedge_id\x7d" package.edgeId
  let topic := replace topic "\x7bcommand_id\x7d" report.commandId
  let topic := replace topic "\x7bdevice_id\x7d" deviceId
  replace topic "\x7bpoint_id\x7d" pointId

def replyMessages (plan : CommandExecutionPlan) (uplink : MqttUplinkConfig)
    (report : CommandExecutionReport) : List MqttPublishMessage :=
  plan.replyNodeIds.map fun _ => {
    sinkId := uplink.sinkId
    broker := uplink.broker
    clientId := uplink.clientId
    topic := replyTopic package plan report
    qos := plan.flow.qos
    payload := ext.encodeJson (replyDocument ext report) }

def buildCommandReplyMessages (plan : CommandExecutionPlan) (report : CommandExecutionReport) :
    Except String (List MqttPublishMessage) := do
  let uplink ← context
    (package.mqttUplinks.find? (fun uplink => uplink.sinkId = plan.flow.mqttConnectionId))
    s!"command flow {plan.flow.flowId} MQTT connection not found: {plan.flow.mqttConnectionId}"
  pure (replyMessages ext package plan uplink report)

/-! The planner's own facts: a plan names the flow it was asked for, carries the document's
command id, selects something to write and something to answer, and its graph walk is complete. -/

structure Planned (package : EdgeConfigPackage) (flowId : String) (payload : Bytes) (now : Time)
    (plan : CommandExecutionPlan) (document : Json) (walk : Walk) : Prop where
  found : package.commandFlows.find? (fun flow => flow.flowId = flowId) = some plan.flow
  enabled : plan.flow.enabled = true
  parsed : ext.parseJson payload = some document
  commandId : commandIdOf document = some plan.commandId
  unexpired : validateExpiry ext document now = .ok ()
  walked : walkGraph ext package plan.flow document now (walkFuel plan.flow)
    (initialWalk plan.flow) = .ok walk
  writes : walk.writes = plan.writes
  writes_ne_nil : plan.writes ≠ []
  replies : walk.replyNodeIds = plan.replyNodeIds
  replies_ne_nil : plan.replyNodeIds ≠ []
  gates : walk.safetyGates = plan.safetyGates

theorem planned_of_ok (h : planCommandExecution ext pkg flowId body now = .ok plan) :
    ∃ doc walk, Planned ext pkg flowId body now plan doc walk := by
  unfold planCommandExecution at h
  simp only [bind_eq_ok,context_eq_ok,bailIf_eq_ok] at h
  obtain ⟨flow,hf,_,he,doc,hd,cid,hc,_,hex,walk,hwa,_,hw,_,hr,h⟩ := h
  cases h
  exact ⟨doc,walk,{
    found := hf
    enabled := by simpa using he
    parsed := hd
    commandId := hc
    unexpired := hex
    walked := hwa
    writes := rfl
    writes_ne_nil := by simpa using hw
    replies := rfl
    replies_ne_nil := by simpa using hr
    gates := rfl }⟩

theorem plan_flowId (h : planCommandExecution ext pkg flow body now = .ok plan) :
    plan.flow.flowId = flow := by
  obtain ⟨_,_,planned⟩ := planned_of_ok ext h
  simpa using List.find?_some planned.found

def openEdges (flow : CommandFlowConfig) (visited : List String) : List CommandGraphEdge :=
  flow.edges.filter (fun edge => edge.fromNode ∉ visited)

def walkMeasure (flow : CommandFlowConfig) (walk : Walk) : Nat :=
  walk.queue.length + (openEdges flow walk.visited).length

theorem successors_length (flow : CommandFlowConfig) (port : Option String) (h : nid ∉ visited) :
    (successors flow nid port).length + (openEdges flow (nid :: visited)).length ≤
      (openEdges flow visited).length := by
  unfold successors openEdges
  rw [length_map]
  induction flow.edges with
  | nil => simp
  | cons edge edges ih =>
    by_cases hf : edge.fromNode = nid
    · simp only [filter_cons,hf,mem_cons,true_or,not_true,h] at ih ⊢
      split <;> simp at * <;> omega
    · by_cases hs : edge.fromNode ∈ visited
      · simpa [filter_cons,hf,hs] using ih
      · simp only [filter_cons,hf,hs,mem_cons] at ih ⊢
        simp at ih ⊢
        omega

theorem visitNode_queue {next : Walk} (h : visitNode ext pkg flow doc now nid walk = .ok next) :
    next.visited = walk.visited ∧ (next.queue = walk.queue ∨
        ∃ port, next.queue = walk.queue ++ successors flow nid port) := by
  unfold visitNode at h
  obtain ⟨node,_,h⟩ := bind_eq_ok.mp h
  cases hk : node.kind with
  | mqttInput =>
    simp only [hk] at h
    cases h
    exact ⟨rfl,.inr ⟨none,rfl⟩⟩
  | jsonParse =>
    simp only [hk] at h
    cases h
    exact ⟨rfl,.inr ⟨none,rfl⟩⟩
  | condition =>
    simp only [hk] at h
    obtain ⟨holds,_,h⟩ := bind_eq_ok.mp h
    cases h
    exact ⟨rfl,.inr ⟨_,rfl⟩⟩
  | safetyGate =>
    simp only [hk] at h
    obtain ⟨gate,_,h⟩ := bind_eq_ok.mp h
    cases h
    exact ⟨rfl,.inr ⟨none,rfl⟩⟩
  | pointWrite =>
    simp only [hk] at h
    obtain ⟨write,_,h⟩ := bind_eq_ok.mp h
    cases write with
    | some write =>
      cases h
      exact ⟨rfl,.inr ⟨none,rfl⟩⟩
    | none =>
      cases h
      exact ⟨rfl,.inl rfl⟩
  | mqttReply =>
    simp only [hk] at h
    cases h
    exact ⟨rfl,.inl rfl⟩

theorem walkStep_measure {next : Walk} (h : walkStep ext pkg flow doc now nid walk = .ok next) :
    walkMeasure flow next ≤ walkMeasure flow walk := by
  unfold walkStep at h
  split at h
  · cases h
    exact le_rfl
  · next hf =>
    obtain ⟨hv,hq⟩ := visitNode_queue ext h
    unfold walkMeasure
    rw [hv]
    rcases hq with hq | ⟨port,hq⟩
    · have hc := successors_length flow none hf
      simp only [hq]
      omega
    · have hc := successors_length flow port hf
      simp only [hq,length_append]
      omega

/-- With fuel for every queued node and every open edge, the walk ends because its queue is
empty. -/
theorem walkGraph_queue (hf : walkMeasure flow walk ≤ fuel)
    (h : walkGraph ext pkg flow doc now fuel walk = .ok final) : final.queue = [] := by
  induction fuel generalizing walk with
  | zero =>
    cases h
    unfold walkMeasure at hf
    exact eq_nil_of_length_eq_zero (by omega)
  | succ fuel ih =>
    unfold walkGraph at h
    split at h
    · next he =>
      cases h
      exact he
    · next nid queue hq =>
      obtain ⟨next,hs,h⟩ := bind_eq_ok.mp h
      refine ih ?_ h
      have hm := walkStep_measure ext hs
      unfold walkMeasure at hm hf ⊢
      rw [hq,length_cons] at hf
      simp only at hm
      omega

theorem planned_queue (planned : Planned ext pkg flow body now plan doc walk) :
    walk.queue = [] := by
  refine walkGraph_queue ext ?_ planned.walked
  unfold walkMeasure walkFuel initialWalk openEdges
  rw [length_map]
  exact Nat.add_le_add (length_filter_le _ _) (length_filter_le _ _)

end Command
end VelaEdge.Runtime
