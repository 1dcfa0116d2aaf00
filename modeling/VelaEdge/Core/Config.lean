import VelaEdge.Core.Json

/-! The configuration package an edge runs, as far as the runtime reads it. Protocol-specific
settings stay in their serialised form: only the field validators and the protocol adapters look
inside them. -/
namespace VelaEdge.Core

inductive TelemetryType where
  | float
  | integer
  | boolean
  | text
deriving DecidableEq

inductive TelemetryValue where
  | float (value : Binary64)
  | integer (value : Int)
  | boolean (value : Bool)
  | text (value : String)
deriving DecidableEq

def TelemetryValue.asF64 : TelemetryValue → Option Binary64
  | .float value => some value
  | .integer value => some (.ofInt value)
  | .boolean _ => none
  | .text _ => none

structure NumberRange where
  min : Binary64
  max : Binary64
deriving DecidableEq

def NumberRange.contains (range : NumberRange) (value : Binary64) : Bool :=
  range.min.le value && value.le range.max

structure DeviceInstance where
  deviceId : String
deriving DecidableEq

inductive ProtocolType where
  | simulated
  | modbusTcp
  | modbusRtu
  | dlt645
  | iec101
  | iec104
  | customSerial
  | opcUa
  | bacnetIp
  | siemensS7
  | omronFins
deriving DecidableEq

structure ProtocolConnection where
  connectionId : String
  protocol : ProtocolType
  settings : Json
deriving DecidableEq

inductive MqttProtocolVersion where
  | v311
  | v50
deriving DecidableEq

structure MqttUserProperty where
  key : String
  value : String
deriving DecidableEq

structure MqttLastWillConfig where
  topic : String
  payload : String
  qos : Nat
  retain : Bool
  delayIntervalSeconds : Nat
  payloadFormatUtf8 : Bool
  messageExpiryIntervalSeconds : Nat
  contentType : Option String
  responseTopic : Option String
  correlationData : Option String
  userProperties : List MqttUserProperty
deriving DecidableEq

structure MqttUplinkConfig where
  sinkId : String
  broker : String
  clientId : String
  protocolVersion : MqttProtocolVersion
  keepAliveSeconds : Nat
  cleanSession : Bool
  cleanStart : Bool
  sessionExpiryIntervalSeconds : Nat
  receiveMaximum : Option Nat
  maximumPacketSizeBytes : Option Nat
  topicAliasMaximum : Option Nat
  requestResponseInformation : Bool
  requestProblemInformation : Bool
  userProperties : List MqttUserProperty
  lastWill : Option MqttLastWillConfig
  username : Option String
  passwordEnv : Option String
  tlsCaPath : Option String
  topicTemplate : String
  qos : Nat
  batchSize : Nat
  flushIntervalMs : Nat
deriving DecidableEq

def MqttUplinkConfig.velamq (sinkId broker clientId : String) : MqttUplinkConfig where
  sinkId := sinkId
  broker := broker
  clientId := clientId
  protocolVersion := .v311
  keepAliveSeconds := 60
  cleanSession := true
  cleanStart := true
  sessionExpiryIntervalSeconds := 0
  receiveMaximum := none
  maximumPacketSizeBytes := none
  topicAliasMaximum := none
  requestResponseInformation := false
  requestProblemInformation := true
  userProperties := []
  lastWill := none
  username := none
  passwordEnv := none
  tlsCaPath := none
  topicTemplate := "edge/\x7bedge_id\x7d/device/\x7bdevice_id\x7d/telemetry"
  qos := 1
  batchSize := 100
  flushIntervalMs := 1000

inductive PointAccess where
  | readOnly
  | readWrite
  | writeOnly
deriving DecidableEq

def PointAccess.isReadable : PointAccess → Bool
  | .readOnly | .readWrite => true
  | .writeOnly => false

def PointAccess.isWritable : PointAccess → Bool
  | .readWrite | .writeOnly => true
  | .readOnly => false

structure TelemetryPointMapping where
  pointId : String
  deviceId : String
  semanticId : String
  protocolConnectionId : String
  address : Json
  valueType : TelemetryType
  access : PointAccess
  protocolOptions : Json
  range : Option NumberRange
  readTransforms : List Json
  unit : Option String := none
  intervalMs : Nat := 1000
deriving DecidableEq

structure DataConfigCollection where
  periodMs : Nat
  timeoutMs : Nat
  retryCount : Nat
deriving DecidableEq

def maxDataConfigTimeoutMs : Nat := 300000
def maxDataConfigRetryCount : Nat := 10

structure DataConfigPoint where
  pointId : String
  semanticId : String
  address : Json
  valueType : TelemetryType
  jsonField : String
deriving DecidableEq

structure DataConfigPublish where
  sinkId : String
deriving DecidableEq

inductive DataConfigGraphNodeKind where
  | point
  | algorithm
  | json
  | mqtt
deriving DecidableEq

structure DataConfigGraphNode where
  nodeId : String
  kind : DataConfigGraphNodeKind
  refId : Option String
deriving DecidableEq

structure DataConfigGraphEdge where
  edgeId : String
  fromNode : String
  fromPort : Option String := none
  toNode : String
deriving DecidableEq

structure DataConfigVisualGraph where
  nodes : List DataConfigGraphNode
  edges : List DataConfigGraphEdge
deriving DecidableEq

structure DataConfig where
  configId : String
  deviceId : String
  protocolConnectionId : String
  collection : DataConfigCollection
  points : List DataConfigPoint
  algorithmIds : List String
  visualGraph : DataConfigVisualGraph
  publish : DataConfigPublish
deriving DecidableEq

inductive CommandGraphNodeKind where
  | mqttInput
  | jsonParse
  | condition
  | safetyGate
  | pointWrite
  | mqttReply
deriving DecidableEq

structure CommandGraphNode where
  nodeId : String
  kind : CommandGraphNodeKind
  refId : Option String
  params : List (String × Json)
deriving DecidableEq

def CommandGraphNode.param (node : CommandGraphNode) (name : String) : Option Json :=
  node.params.lookup name

structure CommandGraphEdge where
  edgeId : String
  fromNode : String
  fromPort : Option String
  toNode : String
deriving DecidableEq

structure CommandFlowConfig where
  flowId : String
  enabled : Bool
  protocolConnectionId : String
  mqttConnectionId : String
  subscribeTopic : String
  qos : Nat
  replyTopicTemplate : String
  nodes : List CommandGraphNode
  edges : List CommandGraphEdge
deriving DecidableEq

structure CollectionTask where
  taskId : String
  deviceId : String
  pointIds : List String
  intervalMs : Nat
deriving DecidableEq

structure AlgorithmInputBinding where
  pointId : String
deriving DecidableEq

structure AlgorithmDsl where
  inputs : List AlgorithmInputBinding
deriving DecidableEq

structure AlgorithmSpec where
  id : String
  dsl : AlgorithmDsl
deriving DecidableEq

structure EdgeConfigPackage where
  edgeId : String
  version : String
  devices : List DeviceInstance
  protocolConnections : List ProtocolConnection
  mqttUplinks : List MqttUplinkConfig
  dataConfigs : List DataConfig
  commandFlows : List CommandFlowConfig
  pointMappings : List TelemetryPointMapping
  collectionTasks : List CollectionTask
  algorithms : List AlgorithmSpec
  -- all that no modelled function reads: device models, steps of algorithms, enabled flags, topics
  rest : Json := .null
deriving DecidableEq

def EdgeConfigPackage.new (edgeId version : String) : EdgeConfigPackage where
  edgeId := edgeId
  version := version
  devices := []
  protocolConnections := []
  mqttUplinks := []
  dataConfigs := []
  commandFlows := []
  pointMappings := []
  collectionTasks := []
  algorithms := []

end VelaEdge.Core
