import VelaEdge.Runtime.LocalDb

/-! Applying a configuration package: the references inside it are checked, and what passes can
be run. -/
namespace VelaEdge.Runtime

open Base Core LocalDb Text

/-- The checks the configuration types make of their own fields. -/
structure FieldChecks where
  validateConnection : ProtocolConnection → Except String Unit
  validatePointAccess : Json → PointAccess → Except String Unit
  validatePointReadTransforms : List Json → TelemetryType → Except String Unit
  validateSiemensS7Point : Json → TelemetryType → PointAccess → Except String Unit
  validateOmronFinsPoint : Json → TelemetryType → PointAccess → Except String Unit
  validateIec101Point : Json → TelemetryType → PointAccess → Json → Except String Unit
  validateIec104Point : Json → TelemetryType → PointAccess → Json → Except String Unit
  validateDataConfigVisualGraph : DataConfig → Except String Unit
  validateCommandFlow : CommandFlowConfig → List TelemetryPointMapping → Except String Unit

def lenientChecks : FieldChecks where
  validateConnection _ := .ok ()
  validatePointAccess _ _ := .ok ()
  validatePointReadTransforms _ _ := .ok ()
  validateSiemensS7Point _ _ _ := .ok ()
  validateOmronFinsPoint _ _ _ := .ok ()
  validateIec101Point _ _ _ _ := .ok ()
  validateIec104Point _ _ _ _ := .ok ()
  validateDataConfigVisualGraph _ := .ok ()
  validateCommandFlow _ _ := .ok ()

namespace AppliedConfig

variable (checks : FieldChecks)

/-- Of several elements under one key a map keeps the last. -/
def lastWith {α : Type} (key : α → String) (name : String) (items : List α) : Option α :=
  items.reverse.find? (fun item => key item = name)

variable (package : EdgeConfigPackage)

def findConnection (connectionId : String) : Option ProtocolConnection :=
  lastWith ProtocolConnection.connectionId connectionId package.protocolConnections

def findPoint (pointId : String) : Option TelemetryPointMapping :=
  lastWith TelemetryPointMapping.pointId pointId package.pointMappings

def hasDevice (deviceId : String) : Bool :=
  package.devices.any (fun device => device.deviceId = deviceId)

def hasConnection (connectionId : String) : Bool :=
  package.protocolConnections.any (fun connection => connection.connectionId = connectionId)

def hasSink (sinkId : String) : Bool :=
  package.mqttUplinks.any (fun uplink => uplink.sinkId = sinkId)

def hasAlgorithm (algorithmId : String) : Bool :=
  package.algorithms.any (fun algorithm => algorithm.id = algorithmId)

def checkConnection (connection : ProtocolConnection) : Except String Unit :=
  match checks.validateConnection connection with
  | .error message => .error s!"protocol connection {connection.connectionId}: {message}"
  | .ok () => .ok ()

def checkPoint (mapping : TelemetryPointMapping) : Except String Unit := do
  checks.validatePointAccess mapping.address mapping.access
  checks.validatePointReadTransforms mapping.readTransforms mapping.valueType
  let connection ← context (findConnection package mapping.protocolConnectionId)
    s!"point {mapping.pointId} references missing protocol connection {
      mapping.protocolConnectionId}"
  match connection.protocol with
  | .siemensS7 => checks.validateSiemensS7Point mapping.address mapping.valueType mapping.access
  | .omronFins => checks.validateOmronFinsPoint mapping.address mapping.valueType mapping.access
  | .iec101 =>
    checks.validateIec101Point mapping.address mapping.valueType mapping.access
      mapping.protocolOptions
  | .iec104 =>
    checks.validateIec104Point mapping.address mapping.valueType mapping.access
      mapping.protocolOptions
  | _ => pure ()

def checkTaskPoint (task : CollectionTask) (pointId : String) : Except String Unit := do
  let mapping ← context (findPoint package pointId)
    s!"collection task {task.taskId} references missing point {pointId}"
  bailIf (mapping.deviceId ≠ task.deviceId)
    s!"collection task {task.taskId} point {pointId} belongs to device {
      mapping.deviceId}, expected {task.deviceId}"
  bailIf (!mapping.access.isReadable)
    s!"collection task {task.taskId} references write-only point {pointId}"

def checkTask (task : CollectionTask) : Except String Unit := do
  bailIf (isBlank task.taskId) "collection task id is required"
  bailIf (task.intervalMs = 0)
    s!"collection task {task.taskId} interval must be greater than zero"
  bailIf (!hasDevice package task.deviceId)
    s!"collection task {task.taskId} references missing device {task.deviceId}"
  bailIf (task.pointIds.isEmpty) s!"collection task {task.taskId} must include at least one point"
  task.pointIds.forM (checkTaskPoint package task)

def checkDataPoints (package : EdgeConfigPackage) (config : DataConfig) :
    List String → List DataConfigPoint → Except String Unit
  | _, [] => .ok ()
  | taken, point :: points => do
      let mapping ← context (findPoint package point.pointId)
        s!"data config {config.configId} references missing point {point.pointId}"
      bailIf (mapping.deviceId ≠ config.deviceId)
        s!"data config {config.configId} point {point.pointId} belongs to device {
          mapping.deviceId}, expected {config.deviceId}"
      bailIf (mapping.protocolConnectionId ≠ config.protocolConnectionId)
        s!"data config {config.configId} point {point.pointId} uses protocol connection {
          mapping.protocolConnectionId}, expected {config.protocolConnectionId}"
      bailIf (!mapping.access.isReadable)
        s!"data config {config.configId} references write-only point {point.pointId}"
      bailIf (taken.contains point.jsonField)
        s!"data config {config.configId} has duplicate json field {point.jsonField}"
      checkDataPoints package config (point.jsonField :: taken) points

def checkDataConfig (config : DataConfig) : Except String Unit := do
  bailIf (isBlank config.configId) "data config id is required"
  bailIf (config.points.isEmpty) s!"data config {config.configId} must include at least one point"
  bailIf (config.collection.periodMs = 0)
    s!"data config {config.configId} collection period must be greater than zero"
  bailIf (config.collection.timeoutMs = 0 ∨ maxDataConfigTimeoutMs < config.collection.timeoutMs)
    s!"data config {config.configId} collection timeout must be between 1 and {
      maxDataConfigTimeoutMs} ms"
  bailIf (maxDataConfigRetryCount < config.collection.retryCount)
    s!"data config {config.configId} collection retry count must not exceed {
      maxDataConfigRetryCount}"
  bailIf (!hasDevice package config.deviceId)
    s!"data config {config.configId} references missing device {config.deviceId}"
  bailIf (!hasConnection package config.protocolConnectionId)
    s!"data config {config.configId} references missing protocol connection {
      config.protocolConnectionId}"
  bailIf (!hasSink package config.publish.sinkId)
    s!"data config {config.configId} references missing mqtt sink {config.publish.sinkId}"
  checkDataPoints package config [] config.points
  config.algorithmIds.forM fun algorithmId => bailIf (!hasAlgorithm package algorithmId)
    s!"data config {config.configId} references missing algorithm {algorithmId}"
  checks.validateDataConfigVisualGraph config

def checkCommandFlow (flow : CommandFlowConfig) : Except String Unit := do
  bailIf (flow.protocolConnectionId ≠ "" ∧ hasConnection package flow.protocolConnectionId = false)
    s!"command flow {flow.flowId} references missing protocol connection {
      flow.protocolConnectionId}"
  bailIf (!hasSink package flow.mqttConnectionId)
    s!"command flow {flow.flowId} references missing MQTT connection {flow.mqttConnectionId}"
  checks.validateCommandFlow flow package.pointMappings

def validateConfigReferences : Except String Unit := do
  package.protocolConnections.forM (checkConnection checks)
  package.pointMappings.forM (checkPoint checks package)
  package.collectionTasks.forM (checkTask package)
  package.dataConfigs.forM (checkDataConfig checks package)
  package.commandFlows.forM (checkCommandFlow checks package)

end AppliedConfig

structure AppliedEdgeConfig (checks : FieldChecks) where
  package : EdgeConfigPackage
  edgeId_present : isBlank package.edgeId = false
  version_present : isBlank package.version = false
  valid : AppliedConfig.validateConfigReferences checks package = .ok ()

namespace AppliedConfig

variable (checks : FieldChecks) (package : EdgeConfigPackage)

def withClientIds : EdgeConfigPackage := { package with
    mqttUplinks := package.mqttUplinks.map fun uplink => { uplink with clientId := package.edgeId } }

def apply : Except String (AppliedEdgeConfig checks) :=
  if hedge : isBlank package.edgeId then .error "edge id is required"
  else if hversion : isBlank package.version then .error "config version is required"
  else
    match hvalid : validateConfigReferences checks (withClientIds package) with
    | .error reason => .error reason
    | .ok () => .ok {
        package := withClientIds package
        edgeId_present := Bool.not_eq_true _ |>.mp hedge
        version_present := Bool.not_eq_true _ |>.mp hversion
        valid := hvalid }

section

variable (pkg : EdgeConfigPackage)

include pkg

@[simp] theorem hasSink_withClientIds (sinkId : String) :
    hasSink (withClientIds pkg) sinkId = hasSink pkg sinkId := by
  simp only [hasSink,withClientIds,List.any_map]
  rfl

@[simp] theorem checkDataPoints_withClientIds (cfg : DataConfig)
    (taken : List String) (points : List DataConfigPoint) :
    checkDataPoints (withClientIds pkg) cfg taken points =
      checkDataPoints pkg cfg taken points := by
  induction points generalizing taken with
  | nil => rfl
  | cons point points ih =>
    simp only [checkDataPoints,ih]
    rfl

@[simp] theorem checkDataConfig_withClientIds (cfg : DataConfig) :
    checkDataConfig checks (withClientIds pkg) cfg = checkDataConfig checks pkg cfg := by
  unfold checkDataConfig
  rw [hasSink_withClientIds,checkDataPoints_withClientIds]
  rfl

@[simp] theorem checkCommandFlow_withClientIds (flow : CommandFlowConfig) :
    checkCommandFlow checks (withClientIds pkg) flow = checkCommandFlow checks pkg flow := by
  unfold checkCommandFlow
  rw [hasSink_withClientIds]
  rfl

@[simp] theorem validateConfigReferences_withClientIds :
    validateConfigReferences checks (withClientIds pkg) = validateConfigReferences checks pkg := by
  unfold validateConfigReferences
  rw [funext (checkDataConfig_withClientIds checks pkg),
    funext (checkCommandFlow_withClientIds checks pkg)]
  rfl

theorem apply_succeeds_iff : (∃ applied, apply checks pkg = .ok applied) ↔
      isBlank pkg.edgeId = false ∧ isBlank pkg.version = false ∧
        validateConfigReferences checks pkg = .ok () := by
  rw [← validateConfigReferences_withClientIds checks pkg]
  unfold apply
  split
  · simp [*]
  · split
    · simp [*]
    · split
      · simp [*]
      · simp [*]

end

def recoverActiveConfig (db : Db) (edgeId : String) :
    Except String (Option (AppliedEdgeConfig checks)) := do
  match ← activeConfig db edgeId with
  | none => pure none
  | some package =>
    match apply checks package with
    | .error _ => throw s!"failed to validate active config for edge `{edgeId}`"
    | .ok applied => pure (some applied)

structure ConfiguredEdgeRuntime where
  package : EdgeConfigPackage

def newAlgorithmEngine (algorithms : List AlgorithmSpec) : Except String Unit :=
  algorithms.forM fun algorithm => bailIf (isBlank algorithm.id) "algorithm id is required"

def ConfiguredEdgeRuntime.new : Except String ConfiguredEdgeRuntime := do
  bailIf (isBlank package.edgeId) "edge id is required"
  bailIf (isBlank package.version) "config version is required"
  validateConfigReferences checks package
  newAlgorithmEngine package.algorithms
  pure ⟨package⟩

end AppliedConfig

end VelaEdge.Runtime
