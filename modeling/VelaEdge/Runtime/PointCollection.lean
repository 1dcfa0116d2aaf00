import VelaEdge.Runtime.AppliedConfig

/-! Samples, and the mappings that a data config collects its points with. They are rebuilt from
the points of the config with some of the fields of the package's mapping. -/
namespace VelaEdge.Runtime.PointCollection

open Core

inductive DataQuality where
  | good
  | uncertain
  | bad
deriving DecidableEq

inductive DataQualityCode where
  | good
  | uncertainProtocol
  | uncertainLastKnown
  | uncertainOutOfRange
  | uncertainSubstituted
  | uncertainOverflow
  | badCommunication
  | badTimeout
  | badProtocol
  | badDecode
  | badConfiguration
  | badOutOfService
deriving DecidableEq

namespace DataQualityCode

def defaultFor : DataQuality → DataQualityCode
  | .good => .good
  | .uncertain => .uncertainProtocol
  | .bad => .badProtocol

def asStr : DataQualityCode → String
  | .good => "good"
  | .uncertainProtocol => "uncertain_protocol"
  | .uncertainLastKnown => "uncertain_last_known"
  | .uncertainOutOfRange => "uncertain_out_of_range"
  | .uncertainSubstituted => "uncertain_substituted"
  | .uncertainOverflow => "uncertain_overflow"
  | .badCommunication => "bad_communication"
  | .badTimeout => "bad_timeout"
  | .badProtocol => "bad_protocol"
  | .badDecode => "bad_decode"
  | .badConfiguration => "bad_configuration"
  | .badOutOfService => "bad_out_of_service"

end DataQualityCode

structure TelemetrySample where
  deviceId : String
  telemetryId : String
  value : TelemetryValue
  quality : DataQuality
  qualityCode : Option DataQualityCode
deriving DecidableEq

def i64Bound : Int := 9223372036854775808

def typeOf : TelemetryValue → TelemetryType
  | .float _ => .float
  | .integer _ => .integer
  | .boolean _ => .boolean
  | .text _ => .text

def mappingsForConnection (mappings : List TelemetryPointMapping) (connection : ProtocolConnection) :
    List TelemetryPointMapping :=
  mappings.filter fun mapping => mapping.protocolConnectionId = connection.connectionId

variable (package : EdgeConfigPackage)

variable (config : DataConfig)

def sourceMapping (pointId : String) : Option TelemetryPointMapping :=
  package.pointMappings.find? fun source =>
    source.pointId = pointId && source.deviceId = config.deviceId &&
      source.protocolConnectionId = config.protocolConnectionId

/-- The mapping a data config reads a point with. Access, unit and range come from the package; the
address, the type, the semantic id and the period are those of the config, and the protocol options
and read transforms stay empty. -/
def dataConfigMapping (point : DataConfigPoint) : TelemetryPointMapping where
  pointId := point.pointId
  deviceId := config.deviceId
  semanticId := point.semanticId
  protocolConnectionId := config.protocolConnectionId
  address := point.address
  valueType := point.valueType
  access := ((sourceMapping package config point.pointId).map fun source => source.access).getD
    .readOnly
  protocolOptions := .null
  range := (sourceMapping package config point.pointId).bind fun source => source.range
  readTransforms := []
  unit := (sourceMapping package config point.pointId).bind fun source => source.unit
  intervalMs := config.collection.periodMs

def dataConfigMappings : List TelemetryPointMapping :=
  config.points.map (dataConfigMapping package config)

end VelaEdge.Runtime.PointCollection
