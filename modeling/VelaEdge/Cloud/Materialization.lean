import VelaEdge.Base.Outcome
import VelaEdge.Cloud.Store

/-! The package of one edge, made from a version of its product. -/
namespace VelaEdge.Cloud

open Base Core

inductive StatusCode where
  | badRequest
  | notFound
  | conflict
  | unprocessableEntity
  | internalServerError
deriving DecidableEq

structure ApiError where
  status : StatusCode
  message : String
deriving DecidableEq

def validatePublishableProductVersion (version : ProductVersion) : Except ApiError Unit := do
  bailIf (version.pointSetIds.isEmpty)
    ⟨.unprocessableEntity, "product version requires at least one point set before publishing"⟩
  bailIf (version.protocolConnections.isEmpty)
    ⟨.unprocessableEntity, "product version requires a protocol connection before publishing"⟩
  bailIf (version.dataConfigs.isEmpty)
    ⟨.unprocessableEntity, "product version requires a data config before publishing"⟩
  bailIf (version.mqttUplinks.isEmpty)
    ⟨.unprocessableEntity, "product version requires an MQTT sink before publishing"⟩

abbrev PointRoutes := OrderedMap String (String × String)

def addRoute (route : String × String) (routes : PointRoutes) (point : DataConfigPoint) :
    Except ApiError PointRoutes :=
  match routes.get point.pointId with
  | some existing =>
    if existing ≠ route then
      .error ⟨.unprocessableEntity,
        s!"point {point.pointId} is assigned to multiple device/protocol routes"⟩
    else .ok (routes.put point.pointId route)
  | none => .ok (routes.put point.pointId route)

def addRoutes (routes : PointRoutes) (config : DataConfig) : Except ApiError PointRoutes :=
  config.points.foldlM (addRoute (config.deviceId, config.protocolConnectionId)) routes

def pointMapping (routes : PointRoutes) (otherwise : String × String) (point : PointSetPoint) :
    TelemetryPointMapping :=
  let (deviceId, connectionId) := (routes.get point.pointId).getD otherwise
  { pointId := point.pointId
    deviceId := deviceId
    semanticId := point.semanticId
    protocolConnectionId := connectionId
    address := point.address
    valueType := point.valueType
    access := point.access
    protocolOptions := point.protocolOptions
    range := none
    readTransforms := point.readTransforms
    unit := point.unit
    intervalMs := point.intervalMs }

def materializeProductPointMappings (store : CloudControlStore) (version : ProductVersion) :
    Except ApiError (List TelemetryPointMapping) := do
  let defaultConnectionId ← context
    ((version.dataConfigs.head?.map DataConfig.protocolConnectionId).or
      (version.protocolConnections.head?.map ProtocolConnection.connectionId))
    ⟨.unprocessableEntity, "product version has no protocol connection"⟩
  let defaultDeviceId :=
    ((version.dataConfigs.head?.map DataConfig.deviceId).or
      (version.devices.head?.map DeviceInstance.deviceId)).getD "device-1"
  let routes ← version.dataConfigs.foldlM addRoutes .empty
  let mappings ← version.pointSetIds.mapM fun pointSetId => do
    let pointSet ← context (store.pointSets.get pointSetId)
      ⟨.unprocessableEntity, "product version references a missing point set"⟩
    pure (pointSet.points.map (pointMapping routes (defaultDeviceId, defaultConnectionId)))
  pure mappings.flatten

def configPackage (edgeId : String) (version : ProductVersion)
    (pointMappings : List TelemetryPointMapping) : EdgeConfigPackage where
  edgeId := edgeId
  version := version.version
  devices := version.devices
  protocolConnections := version.protocolConnections
  mqttUplinks := version.mqttUplinks.map fun uplink => { uplink with clientId := edgeId }
  dataConfigs := version.dataConfigs
  commandFlows := version.commandFlows
  pointMappings := pointMappings
  collectionTasks := version.collectionTasks
  algorithms := version.algorithms

def materializeProductConfigPackage (store : CloudControlStore) (edgeId : String)
    (version : ProductVersion) : Except ApiError EdgeConfigPackage := do
  let pointMappings ← materializeProductPointMappings store version
  pure (configPackage edgeId version pointMappings)

theorem materialize_names {store : CloudControlStore} {ver : ProductVersion}
    (h : materializeProductConfigPackage store edge ver = .ok pkg) :
    pkg.edgeId = edge ∧ pkg.version = ver.version := by
  simp only [materializeProductConfigPackage,bind_eq_ok] at h
  obtain ⟨mappings,-,hp⟩ := h
  cases hp
  exact ⟨rfl,rfl⟩

end VelaEdge.Cloud
