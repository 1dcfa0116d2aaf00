import VelaEdge.Base.Effect
import VelaEdge.Cloud.ControlPlane
import VelaEdge.Cloud.PackageDeletions

/-! The requests that write edges, point mappings and MQTT uplinks, with a database that may refuse
what it is given. A request changes the store first and then persists what it wrote, step by step;
the first step that fails is its answer. -/
namespace VelaEdge.Cloud.EdgeRequests

open Base Core ControlPlane Text

structure ApiStore extends MemoryStore where
  mqttUplinks : OrderedMap String MqttUplinkConfig

def ApiStore.core (store : ApiStore) : CloudControlStore := store.toCloudControlStore

inductive MemoryWrite where
  | registerEdge (node : EdgeNode)
  | replaceEdgeCredential (credential : EdgeAccessCredential)
  | upsertConfigPackage (package : EdgeConfigPackage)
  | upsertMqttUplink (edgeId : String) (uplink : MqttUplinkConfig)
  | removeEdgeNode (edgeId : String)

def MemoryWrite.apply (store : ApiStore) : MemoryWrite → ApiStore
  | .registerEdge node => { store with edgeNodes := store.edgeNodes.insert node }
  | .replaceEdgeCredential credential =>
    { store with toMemoryStore := store.toMemoryStore.replaceEdgeCredential credential }
  | .upsertConfigPackage package =>
    { store with configPackages := store.configPackages.insert package }
  | .upsertMqttUplink edgeId uplink =>
    { store with mqttUplinks := store.mqttUplinks.put edgeId uplink }
  | .removeEdgeNode edgeId =>
    match store.edgeNodes.get edgeId with
    | none => store
    | some _ =>
      { toMemoryStore := store.toMemoryStore.removeEdgeNode edgeId
        mqttUplinks := store.mqttUplinks.delete edgeId }

inductive PersistStep where
  | edgeNode (node : EdgeNode)
  | configPackage (releaseId : Nat) (package : EdgeConfigPackage)
  | edgeCredential (credential : EdgeAccessCredential)
  | mqttUplink (edgeId : String) (uplink : MqttUplinkConfig)
  | edgeDeletion (edgeId : String)

structure Plan where
  memory : List MemoryWrite
  steps : List PersistStep

/-! ## Point mappings -/

def nonEmptyOptional (value : Option String) : Option String :=
  (value.map trim).filter fun value => value ≠ "" && value ≠ "-"

def pointName (number : Nat) : String := s!"point-draft-{number}"

/-- The first free name from a number on; there are fewer mappings than names to try. -/
def firstFreePointId (mappings : List TelemetryPointMapping) (next : Nat) : Nat → String
  | 0 => pointName next
  | fuel + 1 =>
    if mappings.all fun mapping => mapping.pointId ≠ pointName next then pointName next
    else firstFreePointId mappings (next + 1) fuel

variable (package : EdgeConfigPackage)

def nextPointId : String :=
  firstFreePointId package.pointMappings (package.pointMappings.length + 1)
    package.pointMappings.length

def pointAddress (kind value : String) : Json :=
  .object [("kind",.string kind),("value",.string value)]

def parseTelemetryType (valueType : String) : Except ApiError TelemetryType :=
  let name := trim valueType
  if name ∈ ["bool","boolean"] then .ok .boolean
  else if name ∈ ["int64","int","integer"] then .ok .integer
  else if name ∈ ["float32","float","double"] then .ok .float
  else if name ∈ ["string","text"] then .ok .text
  else .error ⟨.badRequest,s!"unsupported telemetry valueType: {name}"⟩

def parsePointAccess (access : String) : Except ApiError PointAccess :=
  let name := toAsciiLowercase (trim access)
  if name ∈ ["read","read_only"] then .ok .readOnly
  else if name ∈ ["read_write","readwrite","rw"] then .ok .readWrite
  else if name ∈ ["write","write_only"] then .ok .writeOnly
  else .error ⟨.badRequest,s!"unsupported point readWrite mode: {name}"⟩

def checkPointAccess (address : Json) (access : PointAccess) : Except ApiError Unit :=
  (validatePointAccess address access).mapError fun message => ⟨.badRequest,message⟩

structure CreatePointMappingRequest where
  pointId : Option String
  deviceId : Option String
  semanticId : Option String
  connectionId : Option String
  addressKind : Option String
  addressValue : Option String
  valueType : Option String
  unit : Option String
  intervalMs : Option Nat
  readWrite : Option String

def buildPointMappingFromCreateRequest (request : CreatePointMappingRequest) :
    Except ApiError TelemetryPointMapping := do
  let pointId := (nonEmptyOptional request.pointId).getD (nextPointId package)
  bailIf (package.pointMappings.any fun mapping => mapping.pointId = pointId)
    ⟨.badRequest,s!"point mapping `{pointId}` already exists"⟩
  let deviceId ← context ((nonEmptyOptional request.deviceId).or
      (package.devices.head?.map DeviceInstance.deviceId))
    ⟨.badRequest,"point mapping requires a device"⟩
  bailIf (!package.devices.any fun device => device.deviceId = deviceId)
    ⟨.badRequest,s!"point mapping device `{deviceId}` missing"⟩
  let connectionId ← context ((nonEmptyOptional request.connectionId).or
      (package.protocolConnections.head?.map ProtocolConnection.connectionId))
    ⟨.badRequest,"point mapping requires a protocol connection"⟩
  bailIf (!package.protocolConnections.any fun connection =>
      connection.connectionId = connectionId)
    ⟨.badRequest,s!"point mapping connection `{connectionId}` missing"⟩
  let address := pointAddress ((nonEmptyOptional request.addressKind).getD "simulated")
    ((nonEmptyOptional request.addressValue).getD pointId)
  let valueType ← (request.valueType.map parseTelemetryType).getD (.ok .float)
  let access ← (request.readWrite.map parsePointAccess).getD (.ok .readOnly)
  checkPointAccess address access
  pure {
    pointId := pointId
    deviceId := deviceId
    semanticId := (nonEmptyOptional request.semanticId).getD pointId
    protocolConnectionId := connectionId
    address := address
    valueType := valueType
    access := access
    protocolOptions := .null
    range := none
    readTransforms := []
    unit := some ((nonEmptyOptional request.unit).getD "-")
    intervalMs := max (request.intervalMs.getD 1000) 100 }

def draftPointMapping : TelemetryPointMapping :=
  let pointId := nextPointId package
  { pointId := pointId
    deviceId := (package.devices.head?.map DeviceInstance.deviceId).getD "device-draft-1"
    semanticId := s!"pump.{pointId}"
    protocolConnectionId :=
      (package.protocolConnections.head?.map ProtocolConnection.connectionId).getD "simulated-main"
    address := pointAddress "simulated" pointId
    valueType := .float
    access := .readOnly
    protocolOptions := .null
    range := none
    readTransforms := []
    unit := some "-" }

def addPointMapping (request : Option CreatePointMappingRequest) : PackageEdit := fun package => do
  let mapping ← match request with
    | some request => buildPointMappingFromCreateRequest package request
    | none => pure (draftPointMapping package)
  pure { package with pointMappings := package.pointMappings ++ [mapping] }

structure SavePointMappingRequest where
  addressKind : String
  addressValue : String
  intervalMs : Nat
  unit : String
  readWrite : Option String

def savedPointMapping (request : SavePointMappingRequest) (access : Option PointAccess)
    (mapping : TelemetryPointMapping) : Except ApiError TelemetryPointMapping := do
  let address := pointAddress request.addressKind request.addressValue
  let requestedAccess := access.getD mapping.access
  checkPointAccess address requestedAccess
  pure { mapping with
    address := address
    intervalMs := request.intervalMs
    unit := some request.unit
    access := requestedAccess }

/-- The first mapping under the id is changed, the others are left. -/
def changePointMapping (pointId : String) (request : SavePointMappingRequest)
    (access : Option PointAccess) : PackageEdit := fun package => do
  let index ← context (package.pointMappings.findIdx? fun mapping => mapping.pointId = pointId)
    ⟨.notFound,"missing point mapping"⟩
  let mapping ← context package.pointMappings[index]? ⟨.notFound,"missing point mapping"⟩
  let saved ← savedPointMapping request access mapping
  pure { package with pointMappings := package.pointMappings.set index saved }

def planEdit (store : ApiStore) (edgeId : String) (change : PackageEdit) (releaseId : Nat) :
    Except ApiError Plan := do
  let package ← editedPackage store.core edgeId change
  pure ⟨[.upsertConfigPackage package],[.configPackage releaseId package]⟩

def createEdgePointMapping (store : ApiStore) (edgeId : String)
    (request : Option CreatePointMappingRequest) (releaseId : Nat) : Except ApiError Plan :=
  planEdit store edgeId (addPointMapping request) releaseId

def savePointMappingForEdgeId (store : ApiStore) (edgeId pointId : String)
    (request : SavePointMappingRequest) (releaseId : Nat) : Except ApiError Plan := do
  let access ← match request.readWrite with
    | some name => (parsePointAccess name).map some
    | none => pure none
  planEdit store edgeId (changePointMapping pointId request access) releaseId

def deleteEdgePointMapping (store : ApiStore) (edgeId pointId : String) (releaseId : Nat) :
    Except ApiError Plan :=
  planEdit store edgeId (PackageDeletions.deleteEdgePointMapping pointId) releaseId

/-! ## MQTT uplinks -/

def nonEmpty (value : Option String) : Option String :=
  (value.map trim).filter fun value => value ≠ ""

def blankKey (properties : List MqttUserProperty) : Bool :=
  properties.any fun property => isBlank property.key

def validateMqttAdvancedSettings (request : MqttUplinkConfig) : Except ApiError Unit := do
  bailIf (request.receiveMaximum = some 0)
    ⟨.badRequest,"MQTT 5 receive maximum must be greater than zero"⟩
  bailIf (request.maximumPacketSizeBytes = some 0)
    ⟨.badRequest,"MQTT 5 maximum packet size must be greater than zero"⟩
  bailIf (blankKey request.userProperties)
    ⟨.badRequest,"MQTT 5 user property key is required"⟩
  match request.lastWill with
  | none => pure ()
  | some will =>
    bailIf (isBlank will.topic) ⟨.badRequest,"MQTT last will topic is required"⟩
    bailIf (2 < will.qos) ⟨.badRequest,"MQTT last will QoS must be 0, 1, or 2"⟩
    bailIf (blankKey will.userProperties)
      ⟨.badRequest,"MQTT last will user property key is required"⟩

def mqttUserProperties (values : List MqttUserProperty) : List MqttUserProperty :=
  values.map fun property => { property with key := trim property.key }

def mqttLastWillConfig (value : MqttLastWillConfig) : MqttLastWillConfig :=
  { value with
    topic := trim value.topic
    contentType := nonEmpty value.contentType
    responseTopic := nonEmpty value.responseTopic
    correlationData := nonEmpty value.correlationData
    userProperties := mqttUserProperties value.userProperties }

def isTlsBroker (broker : String) : Bool :=
  (splitOnce "://" broker).any fun (scheme,_) =>
    toAsciiLowercase scheme ∈ ["mqtts","ssl"]

def requestedUplink (request : MqttUplinkConfig) : Except ApiError MqttUplinkConfig := do
  validateMqttAdvancedSettings request
  let username := nonEmpty request.username
  let passwordEnv := nonEmpty request.passwordEnv
  let tlsCaPath := nonEmpty request.tlsCaPath
  bailIf (username.isSome ≠ passwordEnv.isSome)
    ⟨.badRequest,"MQTT username and password environment reference must be configured together"⟩
  bailIf (request.keepAliveSeconds < 5)
    ⟨.badRequest,"MQTT keep alive must be at least 5 seconds"⟩
  bailIf (tlsCaPath.isSome && !isTlsBroker request.broker)
    ⟨.badRequest,"MQTT TLS CA path requires an mqtts:// broker"⟩
  pure { request with
    userProperties := mqttUserProperties request.userProperties
    lastWill := request.lastWill.map mqttLastWillConfig
    username := username
    passwordEnv := passwordEnv
    tlsCaPath := tlsCaPath }

def saveEdgeMqttUplink (store : ApiStore) (edgeId : String) (request : MqttUplinkConfig)
    (releaseId : Nat) : Except ApiError Plan := do
  let uplink ← requestedUplink request
  let package ← editedPackage store.core edgeId fun package =>
    .ok { package with mqttUplinks := [uplink] }
  pure ⟨[.upsertConfigPackage package,.upsertMqttUplink edgeId uplink],
    [.configPackage releaseId package,.mqttUplink edgeId uplink]⟩

/-! ## Edges -/

def createEdgeNode (store : ApiStore) (request : CreateEdgeNodeRequest) (token : IssuedToken)
    (releaseId : Nat) : Except ApiError Plan := do
  let (node,package) ← planEdgeNode store.core request
  let credential := token.credential node.edgeId
  pure ⟨[.registerEdge node,.replaceEdgeCredential credential,.upsertConfigPackage package],
    [.edgeNode node,.configPackage releaseId package,.edgeCredential credential]⟩

def bindEdgeProduct (store : ApiStore) (edgeId : String) (request : BindEdgeProductRequest)
    (releaseId : Nat) : Except ApiError Plan := do
  let (bound,package) ← planBinding store.core edgeId request
  pure ⟨[.registerEdge bound,.upsertConfigPackage package],
    [.edgeNode bound,.configPackage releaseId package]⟩

def generateEdgeAccessToken (store : ApiStore) (edgeId : String) (token : IssuedToken) :
    Except ApiError Plan := do
  bailIf (store.edgeNodes.get edgeId).isNone ⟨.notFound,"missing edge node"⟩
  let credential := token.credential edgeId
  pure ⟨[.replaceEdgeCredential credential],[.edgeCredential credential]⟩

def deleteEdgeNode (store : ApiStore) (edgeId : String) : Except ApiError Plan := do
  checkRemovable store.toMemoryStore edgeId
  pure ⟨[.removeEdgeNode edgeId],[.edgeDeletion edgeId]⟩

inductive EdgeRequest where
  | createPointMapping (edgeId : String) (request : Option CreatePointMappingRequest)
      (releaseId : Nat)
  /-- Under `edge-dev` where the path names no edge. -/
  | savePointMapping (edgeId pointId : String) (request : SavePointMappingRequest)
      (releaseId : Nat)
  | deletePointMapping (edgeId pointId : String) (releaseId : Nat)
  | saveMqttUplink (edgeId : String) (request : MqttUplinkConfig) (releaseId : Nat)
  | createEdge (request : CreateEdgeNodeRequest) (token : IssuedToken) (releaseId : Nat)
  | bindProduct (edgeId : String) (request : BindEdgeProductRequest) (releaseId : Nat)
  | generateAccessToken (edgeId : String) (token : IssuedToken)
  | deleteEdge (edgeId : String)

def EdgeRequest.plan (store : ApiStore) : EdgeRequest → Except ApiError Plan
  | .createPointMapping edgeId request releaseId =>
    createEdgePointMapping store edgeId request releaseId
  | .savePointMapping edgeId pointId request releaseId =>
    savePointMappingForEdgeId store edgeId pointId request releaseId
  | .deletePointMapping edgeId pointId releaseId =>
    deleteEdgePointMapping store edgeId pointId releaseId
  | .saveMqttUplink edgeId request releaseId => saveEdgeMqttUplink store edgeId request releaseId
  | .createEdge request token releaseId => createEdgeNode store request token releaseId
  | .bindProduct edgeId request releaseId => bindEdgeProduct store edgeId request releaseId
  | .generateAccessToken edgeId token => generateEdgeAccessToken store edgeId token
  | .deleteEdge edgeId => deleteEdgeNode store edgeId

/-! ## The database -/

inductive DatabaseWrite where
  | edgeNode (node : EdgeNode)
  | configRevision (revision : ConfigRevision)
  | edgeCredential (credential : EdgeAccessCredential)
  | mqttUplink (edgeId : String) (uplink : MqttUplinkConfig)
  | edgeDeletion (edgeId : String)

abbrev Database := DatabaseWrite → Except String Unit

variable (checks : PackageChecks)

def PersistStep.write (store : ApiStore) : PersistStep → DatabaseWrite
  | .edgeNode node => .edgeNode node
  | .configPackage releaseId package =>
    .configRevision (planRevision checks store.core releaseId package)
  | .edgeCredential credential => .edgeCredential credential
  | .mqttUplink edgeId uplink => .mqttUplink edgeId uplink
  | .edgeDeletion edgeId => .edgeDeletion edgeId

/-- What a step does to the store once the database has taken its write. -/
def PersistStep.finish (store : ApiStore) : PersistStep → ApiStore
  | .configPackage releaseId package =>
    let revised := (planRevision checks store.core releaseId package).apply store.core
    { store with toCloudControlStore := revised }
  | _ => store

def PersistStep.run (sqlite : Option Database) (step : PersistStep) :
    Effect ApiStore DatabaseWrite ApiError Unit := ⟨fun store =>
  match sqlite with
  | none => ⟨step.finish checks store,[],.ok ()⟩
  | some database =>
    match database (step.write checks store) with
    | .error cause => ⟨store,[],.error (persistenceError cause)⟩
    | .ok () => ⟨step.finish checks store,[step.write checks store],.ok ()⟩⟩

def runSteps (sqlite : Option Database) : List PersistStep →
    Effect ApiStore DatabaseWrite ApiError Unit
  | [] => pure ()
  | step :: steps => do
      step.run checks sqlite
      runSteps sqlite steps

/-- A request: its checks and its writes to the store at once, then the steps. -/
def handle (sqlite : Option Database) (request : EdgeRequest) :
    Effect ApiStore DatabaseWrite ApiError Unit := do
  let steps ← Effect.atomic fun store => (request.plan store).map fun plan =>
    (plan.memory.foldl MemoryWrite.apply store,plan.steps)
  runSteps checks sqlite steps

def Plan.started (plan : Plan) (store : ApiStore) : ApiStore :=
  plan.memory.foldl MemoryWrite.apply store

def Plan.finished (plan : Plan) (store : ApiStore) : ApiStore :=
  plan.steps.foldl (PersistStep.finish checks) (plan.started store)

/-! ## With a database that takes everything -/

variable {checks}

def EdgeRequest.serve (rules : Rules) (state : State) : EdgeRequest → Except ApiError State
  | .createPointMapping edgeId request releaseId =>
    ControlPlane.editEdgeConfig rules state releaseId edgeId (addPointMapping request)
  | .savePointMapping edgeId pointId request releaseId => do
      let access ← match request.readWrite with
        | some name => (parsePointAccess name).map some
        | none => pure none
      ControlPlane.editEdgeConfig rules state releaseId edgeId
        (changePointMapping pointId request access)
  | .deletePointMapping edgeId pointId releaseId =>
    ControlPlane.editEdgeConfig rules state releaseId edgeId
      (PackageDeletions.deleteEdgePointMapping pointId)
  | .saveMqttUplink edgeId request releaseId => do
      let uplink ← requestedUplink request
      ControlPlane.editEdgeConfig rules state releaseId edgeId fun package =>
        .ok { package with mqttUplinks := [uplink] }
  | .createEdge request token releaseId =>
    ControlPlane.createEdgeNode rules state request token releaseId
  | .bindProduct edgeId request releaseId =>
    ControlPlane.bindEdgeProduct rules state releaseId edgeId request
  | .generateAccessToken edgeId token => ControlPlane.generateEdgeAccessToken state edgeId token
  | .deleteEdge edgeId => ControlPlane.deleteEdgeNode state edgeId

section Agreement

variable (rules : Rules) (store : ApiStore) (sqlite : SqliteCloudStore)

@[simp] theorem removed_toMemoryStore (edge : String) :
    (MemoryWrite.apply store (.removeEdgeNode edge)).toMemoryStore = store.removeEdgeNode edge := by
  cases hn : store.edgeNodes.get edge with
  | none => simp [MemoryWrite.apply,MemoryStore.removeEdgeNode,hn]
  | some node => simp [MemoryWrite.apply,hn]

private theorem serve_edit (edge : String) (change : PackageEdit) (rid : Nat) :
    (planEdit store edge change rid).map
        (fun plan => (plan.finished rules.checks store).toMemoryStore) =
      (ControlPlane.editEdgeConfig rules ⟨store.toMemoryStore,sqlite⟩ rid edge
        change).map State.memory := by
  simp only [planEdit,ControlPlane.editEdgeConfig,startEdit,map_bind_except,bind_assoc]
  rfl

theorem plan_serves (req : EdgeRequest) :
    (req.plan store).map (fun plan => (plan.finished rules.checks store).toMemoryStore) =
      (req.serve rules ⟨store.toMemoryStore,sqlite⟩).map State.memory := by
  cases req with
  | createPointMapping edge req rid => exact serve_edit rules store sqlite _ _ _
  | savePointMapping edge pid req rid =>
    simp only [EdgeRequest.plan,savePointMappingForEdgeId,EdgeRequest.serve]
    cases req.readWrite with
    | none => exact serve_edit rules store sqlite _ _ _
    | some name =>
      simp [map_bind_except,serve_edit rules store sqlite]
  | deletePointMapping edge pid rid => exact serve_edit rules store sqlite _ _ _
  | saveMqttUplink edge req rid =>
    simp only [EdgeRequest.plan,EdgeRequest.serve,saveEdgeMqttUplink,map_bind_except,
      ControlPlane.editEdgeConfig,startEdit,bind_assoc]
    rfl
  | createEdge req token rid =>
    simp only [EdgeRequest.plan,EdgeRequest.serve,createEdgeNode,ControlPlane.createEdgeNode,
      map_bind_except]
    rfl
  | bindProduct edge req rid =>
    simp only [EdgeRequest.plan,EdgeRequest.serve,bindEdgeProduct,ControlPlane.bindEdgeProduct,
      map_bind_except]
    rfl
  | generateAccessToken edge token =>
    simp only [EdgeRequest.plan,EdgeRequest.serve,generateEdgeAccessToken,
      ControlPlane.generateEdgeAccessToken,map_bind_except]
    rfl
  | deleteEdge edge =>
    have hr : (Plan.finished rules.checks ⟨[.removeEdgeNode edge],
        [.edgeDeletion edge]⟩ store).toMemoryStore = store.removeEdgeNode edge :=
      removed_toMemoryStore store edge
    simp only [EdgeRequest.plan,EdgeRequest.serve,deleteEdgeNode,
      ControlPlane.deleteEdgeNode,map_bind_except]
    simp only [Except.map,pure,Except.pure,hr]

end Agreement

end VelaEdge.Cloud.EdgeRequests
