import VelaEdge.Core.PointValidation
import VelaEdge.Runtime.AppliedConfig

/-! The cloud's check of a configuration package before it is released: every finding is
collected, none ends the check. -/
namespace VelaEdge.Cloud

open Base Core VelaEdge.Runtime Runtime.AppliedConfig Text

/-- The checks of single fields that only the cloud makes, beside those the runtime shares. -/
structure PackageChecks extends FieldChecks where
  validateModbusDecoding : Json → TelemetryType → Except String Unit
  validateOpcUaNodeId : String → Except String Unit
  parseOpcUaBrowsePath : String → Except String Unit
  parseIec104PointAddress : String → Except String Unit
  validateBacnetPoint : Json → TelemetryType → PointAccess → Json → Except String Unit

/-- The access check comes first, then the decoding options of the registers. -/
def PackageChecks.validateModbusPointOptions (checks : PackageChecks) (address : Json)
    (valueType : TelemetryType) (access : PointAccess) : Except String Unit := do
  checks.validatePointAccess address access
  checks.validateModbusDecoding address valueType

structure ValidationError where
  message : String
deriving DecidableEq

namespace ConfigValidator

variable (checks : PackageChecks)

def report (condition : Prop) [Decidable condition] (message : String) : List ValidationError :=
  if condition then [⟨message⟩] else []

def reportError (start : String) : Except String Unit → List ValidationError
  | .ok () => []
  | .error message => [⟨start ++ message⟩]

@[simp] theorem report_eq_nil [Decidable condition] {message : String} :
    report condition message = [] ↔ ¬ condition := by
  unfold report
  split <;> simp [*]

@[simp] theorem reportError_eq_nil {start : String} {out : Except String Unit} :
    reportError start out = [] ↔ out = .ok () := by
  cases out <;> simp [reportError]

def isBlankOption (value : Option String) : Bool := value.any isBlank

def mqttBrokerUsesTls (broker : String) : Bool :=
  match splitOnce "://" broker with
  | none => false
  | some (scheme,_) => ["mqtts","ssl"].contains (toAsciiLowercase scheme)

def connectionErrors (connection : ProtocolConnection) : List ValidationError :=
  reportError s!"protocol connection `{connection.connectionId}`: "
    (checks.validateConnection connection)

def uplinkErrors (uplink : MqttUplinkConfig) : List ValidationError :=
  report (uplink.username.isSome ≠ uplink.passwordEnv.isSome)
      s!"mqtt sink `{uplink.sinkId}` username and password environment reference must be configured together" ++
    report (isBlankOption uplink.username || isBlankOption uplink.passwordEnv)
      s!"mqtt sink `{uplink.sinkId}` credential references must not be empty" ++
    report (isBlankOption uplink.tlsCaPath)
      s!"mqtt sink `{uplink.sinkId}` TLS CA path must not be empty" ++
    report (uplink.tlsCaPath.isSome && !mqttBrokerUsesTls uplink.broker)
      s!"mqtt sink `{uplink.sinkId}` TLS CA path requires an mqtts:// broker"

def protocolErrors (mapping : TelemetryPointMapping) : ProtocolType → List ValidationError
  | .opcUa =>
    reportError s!"point `{mapping.pointId}`: "
      (match addressField mapping.address "kind" with
        | "node_id" => checks.validateOpcUaNodeId (addressField mapping.address "value")
        | "browse_path" => checks.parseOpcUaBrowsePath (addressField mapping.address "value")
        | _ => .error "OPC UA address kind must be `node_id` or `browse_path`")
  | .iec104 =>
    if addressField mapping.address "kind" ≠ "iec104_ioa" then
      [⟨s!"point `{mapping.pointId}` IEC 104 address kind must be `iec104_ioa`"⟩]
    else
      reportError s!"point `{mapping.pointId}`: "
        (checks.parseIec104PointAddress (addressField mapping.address "value"))
  | .bacnetIp =>
    reportError s!"point `{mapping.pointId}`: "
      (checks.validateBacnetPoint mapping.address mapping.valueType mapping.access
        mapping.protocolOptions)
  | .siemensS7 =>
    reportError s!"point `{mapping.pointId}`: "
      (checks.validateSiemensS7Point mapping.address mapping.valueType mapping.access)
  | .omronFins =>
    reportError s!"point `{mapping.pointId}`: "
      (checks.validateOmronFinsPoint mapping.address mapping.valueType mapping.access)
  | _ => []

variable (package : EdgeConfigPackage)

def mappingErrors (mapping : TelemetryPointMapping) : List ValidationError :=
  reportError s!"point `{mapping.pointId}`: "
      (checks.validateModbusPointOptions mapping.address mapping.valueType mapping.access) ++
    (match findConnection package mapping.protocolConnectionId with
      | some connection => protocolErrors checks mapping connection.protocol
      | none =>
        [⟨s!"point `{mapping.pointId}` references missing protocol connection `{
          mapping.protocolConnectionId}`"⟩]) ++
    report (!hasDevice package mapping.deviceId)
      s!"point `{mapping.pointId}` references missing device `{mapping.deviceId}`"

def taskPointErrors (task : CollectionTask) (pointId : String) : List ValidationError :=
  match findPoint package pointId with
  | none => [⟨s!"collection task `{task.taskId}` references missing point `{pointId}`"⟩]
  | some mapping =>
    report (mapping.deviceId ≠ task.deviceId)
        s!"collection task `{task.taskId}` point `{pointId}` belongs to device `{
          mapping.deviceId}`, expected `{task.deviceId}`" ++
      report (!mapping.access.isReadable)
        s!"collection task `{task.taskId}` references write-only point `{pointId}`"

def taskErrors (task : CollectionTask) : List ValidationError :=
  report (isBlank task.taskId) "collection task id is required" ++
    (if isBlank task.deviceId then
      [⟨s!"collection task `{task.taskId}` device id is required"⟩]
    else
      report (!hasDevice package task.deviceId)
        s!"collection task `{task.taskId}` references missing device `{task.deviceId}`") ++
    report (task.intervalMs = 0)
      s!"collection task `{task.taskId}` interval must be greater than zero" ++
    report task.pointIds.isEmpty
      s!"collection task `{task.taskId}` must contain at least one point" ++
    task.pointIds.flatMap (taskPointErrors package task)

def dataPointErrors (config : DataConfig) (point : DataConfigPoint) : List ValidationError :=
  if isBlank point.pointId then
    [⟨s!"data config `{config.configId}` contains point with empty id"⟩]
  else
    match findPoint package point.pointId with
    | some mapping =>
      report (mapping.deviceId ≠ config.deviceId)
          s!"data config `{config.configId}` point `{point.pointId}` belongs to device `{
            mapping.deviceId}`, expected `{config.deviceId}`" ++
        report (mapping.protocolConnectionId ≠ config.protocolConnectionId)
          s!"data config `{config.configId}` point `{point.pointId}` uses protocol connection `{
            mapping.protocolConnectionId}`, expected `{config.protocolConnectionId}`" ++
        report (!mapping.access.isReadable)
          s!"data config `{config.configId}` references write-only point `{point.pointId}`"
    | none =>
      [⟨s!"data config `{config.configId}` references missing point `{point.pointId}`"⟩]

def dataPointsErrors (package : EdgeConfigPackage) (config : DataConfig) :
    List String → List DataConfigPoint → List ValidationError
  | _, [] => []
  | taken, point :: points =>
    dataPointErrors package config point ++ if isBlank point.jsonField then
        ⟨s!"data config `{config.configId}` point `{point.pointId}` json field is required"⟩ ::
          dataPointsErrors package config taken points
      else
        report (taken.contains point.jsonField)
            s!"data config `{config.configId}` has duplicate json field `{point.jsonField}`" ++
          dataPointsErrors package config (point.jsonField :: taken) points

def dataConfigErrors (config : DataConfig) : List ValidationError :=
  report (isBlank config.configId) "data config id is required" ++
    (if isBlank config.deviceId then
      [⟨s!"data config `{config.configId}` device id is required"⟩]
    else
      report (!hasDevice package config.deviceId)
        s!"data config `{config.configId}` references missing device `{config.deviceId}`") ++
    (if isBlank config.protocolConnectionId then
      [⟨s!"data config `{config.configId}` protocol connection is required"⟩]
    else
      report (!hasConnection package config.protocolConnectionId)
        s!"data config `{config.configId}` references missing protocol connection `{
          config.protocolConnectionId}`") ++
    report (!hasSink package config.publish.sinkId)
      s!"data config `{config.configId}` references missing mqtt sink `{config.publish.sinkId}`" ++
    report (config.collection.periodMs = 0)
      s!"data config `{config.configId}` collection period must be greater than zero" ++
    report (config.collection.timeoutMs = 0 ∨ maxDataConfigTimeoutMs < config.collection.timeoutMs)
      s!"data config `{config.configId}` collection timeout must be between 1 and {
        maxDataConfigTimeoutMs} ms" ++
    report (maxDataConfigRetryCount < config.collection.retryCount)
      s!"data config `{config.configId}` collection retry count must not exceed {
        maxDataConfigRetryCount}" ++
    report config.points.isEmpty
      s!"data config `{config.configId}` must contain at least one point" ++
    dataPointsErrors package config [] config.points ++
    config.algorithmIds.flatMap fun algorithmId =>
      report (!hasAlgorithm package algorithmId)
        s!"data config `{config.configId}` references missing algorithm `{algorithmId}`"

def commandFlowErrors (flow : CommandFlowConfig) : List ValidationError :=
  report (flow.protocolConnectionId ≠ "" ∧ hasConnection package flow.protocolConnectionId = false)
      s!"command flow `{flow.flowId}` references missing protocol connection `{
        flow.protocolConnectionId}`" ++
    report (!hasSink package flow.mqttConnectionId)
      s!"command flow `{flow.flowId}` references missing MQTT connection `{
        flow.mqttConnectionId}`" ++
    reportError "" (checks.validateCommandFlow flow package.pointMappings)

def validatePackage : List ValidationError :=
  package.protocolConnections.flatMap (connectionErrors checks) ++
    package.mqttUplinks.flatMap uplinkErrors ++
    package.pointMappings.flatMap (mappingErrors checks package) ++
    package.collectionTasks.flatMap (taskErrors package) ++
    package.dataConfigs.flatMap (dataConfigErrors package) ++
    package.commandFlows.flatMap (commandFlowErrors checks package)

structure Passes (package : EdgeConfigPackage) : Prop where
  connections : ∀ connection ∈ package.protocolConnections, connectionErrors checks connection = []
  uplinks : ∀ uplink ∈ package.mqttUplinks, uplinkErrors uplink = []
  mappings : ∀ mapping ∈ package.pointMappings, mappingErrors checks package mapping = []
  tasks : ∀ task ∈ package.collectionTasks, taskErrors package task = []
  dataConfigs : ∀ config ∈ package.dataConfigs, dataConfigErrors package config = []
  commandFlows : ∀ flow ∈ package.commandFlows, commandFlowErrors checks package flow = []

@[simp] theorem validatePackage_eq_nil : validatePackage checks pkg = [] ↔ Passes checks pkg := by
  simp only [validatePackage,List.append_eq_nil_iff,List.flatMap_eq_nil_iff]
  constructor
  · rintro ⟨⟨⟨⟨⟨hc,hu⟩,hm⟩,ht⟩,hd⟩,hf⟩
    exact ⟨hc,hu,hm,ht,hd,hf⟩
  · intro h
    exact ⟨⟨⟨⟨⟨h.connections,h.uplinks⟩,h.mappings⟩,h.tasks⟩,h.dataConfigs⟩,h.commandFlows⟩

end ConfigValidator

end VelaEdge.Cloud
