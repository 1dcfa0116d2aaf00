import VelaEdge.Base.Gathering
import VelaEdge.Core.PointValidation
import VelaEdge.Runtime.PointCollection

/-! The IEC 104 adapter. It keeps one session with a station over many reads: each read sends a
general interrogation and takes events off the session until it has every mapped point. What a read
leaves on the session is what the next one finds there. -/
namespace VelaEdge.Runtime.Iec104

open Base Core PointCollection

/-! ## What the client library delivers -/

inductive DoublePointValue where
  | indeterminate
  | off
  | on
  | indeterminateOrFaulty
deriving DecidableEq

structure DataValue where
  double : Option DoublePointValue
  asBool : Option Bool
  asF64 : Option Binary64
deriving DecidableEq

structure Quality where
  invalid : Bool
  blocked : Bool
  substituted : Bool
  notTopical : Bool
  overflow : Bool
  elapsedTimeInvalid : Bool
deriving DecidableEq

def Quality.good : Quality := ⟨false, false, false, false, false, false⟩

structure Cp56Time2a where
  milliseconds : Nat
  minutes : Nat
  hours : Nat
  day : Nat
  month : Nat
  year : Nat
  invalid : Bool
deriving DecidableEq

structure DataPoint where
  ioa : Nat
  value : DataValue
  quality : Quality
  timestamp : Option Cp56Time2a
deriving DecidableEq

inductive Iec104Event where
  | dataUpdate (updates : List DataPoint)
  | interrogationComplete (commonAddress : Nat)
  | error (message : String)
  -- changes of the connection and confirmations of commands
  | other
deriving DecidableEq

inductive Polled where
  | event (event : Iec104Event)
  | nothing
  | failed
deriving DecidableEq

structure Delivery where
  sentAt : Time
  arrivesAt : Time
  polled : Polled
deriving DecidableEq

/-- A connection with what the station sends on it that has not been taken off yet, in the order it
is sent. -/
structure Session where
  unread : List Delivery
  inOrder : unread.Pairwise fun first second => first.sentAt ≤ second.sentAt

def Session.skip (session : Session) (count : Nat) : Session where
  unread := session.unread.drop count
  inOrder := session.inOrder.drop

/-! ## Samples -/

structure TimedSample where
  sample : TelemetrySample
  timestamp : Time
deriving DecidableEq

def isLeap (year : Nat) : Bool :=
  (year % 4 = 0 && year % 100 ≠ 0) || year % 400 = 0

def monthDays (year : Nat) : List Nat :=
  [31, if isLeap year then 29 else 28, 31, 30, 31, 30, 31, 31, 30, 31, 30, 31]

/-- Days from the epoch to a day of a year from 2000 on, if there is such a day. -/
def daysSinceEpoch (year month day : Nat) : Option Nat :=
  match (monthDays (2000 + year))[month - 1]? with
  | none => none
  | some length =>
    if month = 0 ∨ day = 0 ∨ length < day then none
    else
      let leapYears := (year + 3) / 4 + (year + 399) / 400 - (year + 99) / 100
      let monthsBefore := ((monthDays (2000 + year)).take (month - 1)).foldl (· + ·) 0
      some (10957 + 365 * year + leapYears + monthsBefore + (day - 1))

def cp56Timestamp (time : Cp56Time2a) (timezoneOffsetMinutes : Int) : Option Time :=
  if time.invalid ∨ 60000 ≤ time.milliseconds ∨ 60 ≤ time.minutes ∨ 24 ≤ time.hours then none
  else if timezoneOffsetMinutes.natAbs * 60 ≥ 86400 then none
  else
    (daysSinceEpoch time.year time.month time.day).map fun days =>
      let minutes : Int := (days * 24 + time.hours : Nat) * 60 + time.minutes
      milliseconds ((minutes - timezoneOffsetMinutes) * 60000 + time.milliseconds)

def truncated : Binary64 → Int
  | .finite mantissa exponent =>
    if 0 ≤ exponent then mantissa * ((2 ^ exponent.toNat : Nat) : Int)
    else mantissa.tdiv ((2 ^ (-exponent).toNat : Nat) : Int)
  | _ => 0

def telemetryValue (value : DataValue) : TelemetryType → Except String TelemetryValue
  | .boolean => (context value.asBool "IEC 104 value is not boolean").map .boolean
  | .integer =>
    match value.double with
    | some .off => .ok (.integer 1)
    | some .on => .ok (.integer 2)
    | some .indeterminate => .error "IEC 104 double-point value is indeterminate"
    | some .indeterminateOrFaulty =>
      .error "IEC 104 double-point value is indeterminate or faulty"
    | none => do
        let number ← context value.asF64 "IEC 104 value is not numeric"
        bailIf (!number.isFinite || number.lt (.ofInt (-i64Bound)) ||
            (Binary64.ofInt i64Bound).lt number)
          "IEC 104 numeric value is outside the integer range"
        -- the bound itself passes the comparison and saturates in the cast
        pure (.integer (min (truncated number) (i64Bound - 1)))
  | .float => do
      let number ← context value.asF64 "IEC 104 value is not numeric"
      bailIf (!number.isFinite) "IEC 104 floating-point value is not finite"
      pure (.float number)
  | .text => .error "IEC 104 monitoring values cannot be decoded as text"

def defaultValue : TelemetryType → TelemetryValue
  | .boolean => .boolean false
  | .integer => .integer 0
  | .float => .float .zero
  | .text => .text ""

def qualityOf : DataQualityCode → DataQuality
  | .good => .good
  | .uncertainProtocol | .uncertainLastKnown | .uncertainOutOfRange | .uncertainSubstituted
  | .uncertainOverflow => .uncertain
  | .badCommunication | .badTimeout | .badProtocol | .badDecode | .badConfiguration
  | .badOutOfService => .bad

def pointToSample (mapping : TelemetryPointMapping) (point : DataPoint)
    (timezoneOffsetMinutes : Int) (now : Time) : TimedSample :=
  let decodedTimestamp := point.timestamp.bind fun time => cp56Timestamp time timezoneOffsetMinutes
  let timestampInvalid := point.timestamp.isSome && decodedTimestamp.isNone
  let decoded := telemetryValue point.value mapping.valueType
  let qualityCode : DataQualityCode :=
    if !decoded.isOk then .badDecode
    else if point.quality.invalid then .badProtocol
    else if point.quality.blocked then .badOutOfService
    else if point.quality.substituted then .uncertainSubstituted
    else if point.quality.notTopical then .uncertainLastKnown
    else if point.quality.overflow then .uncertainOverflow
    else if point.quality.elapsedTimeInvalid || timestampInvalid then .uncertainProtocol
    else .good
  { sample := {
      deviceId := mapping.deviceId
      telemetryId := mapping.pointId
      value := decoded.toOption.getD (defaultValue mapping.valueType)
      quality := qualityOf qualityCode
      qualityCode := some qualityCode }
    timestamp := decodedTimestamp.getD now }

/-! ## The adapter -/

def mappingAddress (mapping : TelemetryPointMapping) : Except String (Nat × Nat) := do
  bailIf (addressField mapping.address "kind" ≠ "iec104_ioa")
    s!"IEC 104 point {mapping.pointId} requires iec104_ioa address kind"
  (parseIec104PointAddress (addressField mapping.address "value")).mapError fun _ =>
    s!"invalid IEC 104 address for point {mapping.pointId}"

def commonAddress (mappings : List TelemetryPointMapping) : Except String Nat := do
  match ← mappings.mapM mappingAddress with
  | [] => pure 1
  | (first, _) :: addresses =>
    bailIf (addresses.any fun address => address.1 ≠ first)
      ("one IEC 104 connection can target only one common address; use separate connections " ++
        "for multiple stations")
    pure first

def validateMapping (connection : ProtocolConnection) (mapping : TelemetryPointMapping) :
    Except String Unit := do
  bailIf (mapping.protocolConnectionId ≠ connection.connectionId)
    s!"IEC 104 point {mapping.pointId} references connection {
      mapping.protocolConnectionId} instead of {connection.connectionId}"
  (validateIec104Point mapping.address mapping.valueType mapping.access
    mapping.protocolOptions).mapError fun _ => s!"invalid IEC 104 point {mapping.pointId}"
  let _ ← mappingAddress mapping

def validateMappings (connection : ProtocolConnection) (mappings : List TelemetryPointMapping) :
    Except String Unit := do
  mappings.forM (validateMapping connection)
  let _ ← commonAddress mappings

structure Iec104Adapter where
  connection : ProtocolConnection
  mappings : List TelemetryPointMapping
  client : Option Session
  connectionGeneration : Nat
  cp56TimezoneOffsetMinutes : Int
  valid : validateMappings connection mappings = .ok ()

structure ConnectionSettings where
  validate : ProtocolConnection → Except String Unit
  cp56TimezoneOffsetMinutes : ProtocolConnection → Int

variable (adapter : Iec104Adapter) (settings : ConnectionSettings)

namespace Iec104Adapter

def new (connection : ProtocolConnection) (mappings : List TelemetryPointMapping) :
    Except String Iec104Adapter := do
  bailIf (connection.protocol ≠ .iec104) "IEC 104 adapter requires an IEC 104 connection"
  settings.validate connection
  match h : validateMappings connection mappings with
  | .error reason => throw reason
  | .ok () => pure {
      connection := connection
      mappings := mappings
      client := none
      connectionGeneration := 0
      cp56TimezoneOffsetMinutes := settings.cp56TimezoneOffsetMinutes connection
      valid := h }

def setMappings (mappings : List TelemetryPointMapping) : Except String Iec104Adapter :=
  match h : validateMappings adapter.connection mappings with
  | .error reason => .error reason
  | .ok () => .ok { adapter with mappings := mappings, valid := h }

end Iec104Adapter

/-- What one read finds outside: whether the client it holds is still active, what connecting anew
gives, how the interrogation is sent, and the clock. -/
structure ReadCall where
  active : Bool
  connect : Except String Session
  interrogation : Except String Unit
  issuedAt : Time
  stampedAt : Time

def requestTimeout : Time := milliseconds 8000

/-- What an event means to a read that waits until a deadline. -/
def effect (commonAddress : Nat) (deadline : Time) (delivery : Delivery) :
    Gathering.Effect Nat DataPoint String :=
  if deadline < delivery.arrivesAt then .abort "IEC 104 general interrogation timed out"
  else
    match delivery.polled with
    | .failed => .abort "IEC 104 receive failed"
    | .event (.dataUpdate updates) => .bring (updates.map fun point => (point.ioa, point))
    | .event (.interrogationComplete address) =>
      if address = commonAddress then .close else .pass
    | .event (.error message) => .abort s!"IEC 104 server error: {message}"
    | .event .other | .nothing => .pass

namespace Iec104Adapter

variable (call : ReadCall)

def ensureActive : Except String (Session × Iec104Adapter) :=
  match adapter.client, call.active with
  | some session, true => .ok (session, adapter)
  | _, _ => call.connect.map fun session =>
    (session, { adapter with
      client := some session
      connectionGeneration := min (adapter.connectionGeneration + 1) (2 ^ 64 - 1) })

def clearClient : Iec104Adapter := { adapter with client := none }

def sampleOf (points : OrderedMap Nat DataPoint) (offset : Int) (now : Time)
    (mapping : TelemetryPointMapping) : Except String TimedSample := do
  let (_, ioa) ← mappingAddress mapping
  let point ← context (points.get ioa) s!"IEC 104 response is missing IOA {ioa}"
  pure (pointToSample mapping point offset now)

def interrogate (session : Session) (commonAddress : Nat) (requested : List Nat) :
    Except String (List TimedSample) × Iec104Adapter :=
  match call.interrogation with
  | .error _ => (.error "IEC 104 general interrogation failed", adapter.clearClient)
  | .ok () =>
    match Gathering.gather (effect commonAddress (call.issuedAt + requestTimeout)) requested
        OrderedMap.empty 0 session.unread with
    | .done points taken =>
      (adapter.mappings.mapM
          (sampleOf points adapter.cp56TimezoneOffsetMinutes call.stampedAt),
        { adapter with client := some (session.skip taken) })
    | .incomplete missing =>
      (.error s!"IEC 104 interrogation completed without IOAs {missing}", adapter.clearClient)
    | .aborted reason => (.error reason, adapter.clearClient)
    | .starved => (.error "IEC 104 general interrogation timed out", adapter.clearClient)

def readTelemetry : Except String (List TimedSample) × Iec104Adapter :=
  if adapter.mappings.isEmpty then (.ok [], adapter)
  else
    match commonAddress adapter.mappings, adapter.mappings.mapM mappingAddress with
    | .error reason, _ => (.error reason, adapter)
    | _, .error reason => (.error reason, adapter)
    | .ok commonAddress, .ok requested =>
      match adapter.ensureActive call with
      | .error reason => (.error reason, adapter)
      | .ok (session, adapter) =>
        adapter.interrogate call session commonAddress (requested.map Prod.snd)

end Iec104Adapter

structure Collection where
  connection : ProtocolConnection
  mappings : List TelemetryPointMapping
  call : ReadCall

/-- The adapter kept for the connection, or a new one, with the mappings of the collection. -/
def adapterFor (kept : Option Iec104Adapter) (collection : Collection) :
    Except String Iec104Adapter := do
  let adapter ← match kept with
    | some adapter => pure adapter
    | none => Iec104Adapter.new settings collection.connection collection.mappings
  adapter.setMappings collection.mappings

def collectMappings (kept : Option Iec104Adapter) (collection : Collection) :
    Except String (List TimedSample) × Option Iec104Adapter :=
  match adapterFor settings kept collection with
  | .error reason => (.error reason, kept)
  | .ok adapter =>
    let (result, adapter) := adapter.readTelemetry collection.call
    (result, some adapter)

end VelaEdge.Runtime.Iec104
