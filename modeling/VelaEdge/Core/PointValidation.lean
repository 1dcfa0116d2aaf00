import VelaEdge.Base.Outcome
import VelaEdge.Core.Config

/-! Checks of one point by itself: whether its address may be written, and what the two IEC
telecontrol protocols demand of it. -/
namespace VelaEdge.Core

open Base Text

variable (address : Json)

def addressField (field : String) : String :=
  ((address.get field).bind Json.asStr).getD ""

def hasBitIndex : Bool :=
  (((address.get "modbus").bind (·.get "bitIndex")).bind Json.asU64).isSome

def validatePointAccess (access : PointAccess) : Except String Unit := do
  let kind := addressField address "kind"
  bailIf (access.isWritable ∧ ["input_register","discrete_input"].contains kind)
    s!"Modbus {kind} points are protocol-level read-only"
  bailIf (access.isWritable ∧ hasBitIndex address)
    "writable Modbus register bit fields require an atomic mask-write operation"

def TelemetryType.debug : TelemetryType → String
  | .float => "Float"
  | .integer => "Integer"
  | .boolean => "Boolean"
  | .text => "Text"

/-- The commands a telecontrol station knows, for both IEC protocols. -/
inductive Iec104ControlType where
  | singleCommand
  | doubleCommand
  | setpointFloat
deriving DecidableEq

namespace Iec104ControlType

def ofName : String → Option Iec104ControlType
  | "C_SC_NA_1" => some .singleCommand
  | "C_DC_NA_1" => some .doubleCommand
  | "C_SE_NC_1" => some .setpointFloat
  | _ => none

def debug : Iec104ControlType → String
  | .singleCommand => "SingleCommand"
  | .doubleCommand => "DoubleCommand"
  | .setpointFloat => "SetpointFloat"

def accepts : Iec104ControlType → TelemetryType → Bool
  | .singleCommand, .boolean => true
  | .doubleCommand, .integer => true
  | .setpointFloat, .float => true
  | _, _ => false

end Iec104ControlType

def controlType (protocol : String) (options : Json) : Option Iec104ControlType :=
  (((options.get protocol).bind (·.get "controlType")).bind Json.asStr).bind
    Iec104ControlType.ofName

/-- The part both telecontrol protocols address an object by, under the protocol's own label. -/
def parseObjectAddress (label commonAddress informationObjectAddress : String) :
    Except String (Nat × Nat) := do
  let commonAddress ←
    context (parseBelow (2 ^ 16) commonAddress) s!"{label} common address is invalid"
  bailIf (commonAddress = 0) s!"{label} common address must be greater than zero"
  let informationObjectAddress ← context (parseBelow (2 ^ 32) informationObjectAddress)
    s!"{label} information object address is invalid"
  bailIf (0x00FFFFFF < informationObjectAddress)
    s!"{label} information object address exceeds 3-byte range"
  pure (commonAddress,informationObjectAddress)

def parseIec104PointAddress (value : String) : Except String (Nat × Nat) := do
  let (commonAddress,informationObjectAddress) ←
    context (splitOnce ":" value) "IEC 104 address must be common_address:ioa"
  parseObjectAddress "IEC 104" commonAddress informationObjectAddress

def parseIec101PointAddress (value : String) : Except String (Nat × Nat × Nat) :=
  match split ':' value with
  | [linkAddress,commonAddress,informationObjectAddress] => do
      let linkAddress ←
        context (parseBelow (2 ^ 8) linkAddress) "IEC 101 link address is invalid"
      bailIf (linkAddress = 255) "IEC 101 link address 255 is reserved for broadcast"
      let object ← parseObjectAddress "IEC 101" commonAddress informationObjectAddress
      pure (linkAddress,object)
  | _ => .error "IEC 101 address must be link_address:common_address:ioa"

/-- What both telecontrol protocols ask of a control point, under the protocol's own label. -/
def validateControl (label : String) (valueType : TelemetryType) (access : PointAccess)
    (control : Option Iec104ControlType) : Except String Unit :=
  match control with
  | none => bailIf (access.isWritable) s!"writable {label} points require a controlType"
  | some control =>
    bailIf (!control.accepts valueType)
      s!"{label} control type {control.debug} is incompatible with {valueType.debug} telemetry"

def validateTelecontrolPoint {α : Type} (label protocol : String)
    (parse : String → Except String α) (valueType : TelemetryType) (access : PointAccess)
    (options : Json) : Except String Unit := do
  bailIf (addressField address "kind" ≠ s!"{protocol}_ioa")
    s!"{label} points require {protocol}_ioa address kind"
  let _ ← parse (addressField address "value")
  validateControl label valueType access (controlType protocol options)

def validateIec101Point : TelemetryType → PointAccess → Json → Except String Unit :=
  validateTelecontrolPoint address "IEC 101" "iec101" parseIec101PointAddress

def validateIec104Point : TelemetryType → PointAccess → Json → Except String Unit :=
  validateTelecontrolPoint address "IEC 104" "iec104" parseIec104PointAddress

end VelaEdge.Core
