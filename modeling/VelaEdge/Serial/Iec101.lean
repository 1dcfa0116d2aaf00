import VelaEdge.Base.Effect
import VelaEdge.Runtime.Iec104
import VelaEdge.Serial.Checksum

/-! The IEC 101 adapter: FT1.2 frames to a station over a serial bus, and the information elements
of its answers. -/
namespace VelaEdge.Serial.Iec101

open Base Core List Effect
open VelaEdge.Runtime (Time milliseconds)
open VelaEdge.Runtime.PointCollection (DataQuality i64Bound)

def variableFrameStart : UInt8 := 0x68
def fixedFrameStart : UInt8 := 0x10
def frameEnd : UInt8 := 0x16
def singleCharAck : UInt8 := 0xE5
def primaryResetRemoteLink : UInt8 := 0x40
def primarySendConfirmedUserData : UInt8 := 0x53
def primaryRequestClass1Data : UInt8 := 0x5A
def primaryRequestClass2Data : UInt8 := 0x5B
def cotRequest : UInt8 := 5
def cotActivation : UInt8 := 6
def cotActivationConfirmation : UInt8 := 7

structure Iec101PointAddress where
  linkAddress : UInt8
  commonAddress : Nat
  informationObjectAddress : Nat
deriving DecidableEq

structure DecodedIec101Value where
  value : TelemetryValue
  quality : DataQuality
  timestamp : Option Time
deriving DecidableEq

inductive Iec101CommandValue where
  | single (value : Bool)
  | double (value : UInt8)
  | setpointFloat (value : Binary64)

/-- The texts that the standard library gives numbers. -/
structure Numbers where
  display : Binary64 → String
  debug : TelemetryValue → String

def fromLe (low high : UInt8) : Nat := low.toNat + 256 * high.toNat

/-- An `i16` over the largest one, rounded to 53 bits; an odd divisor leaves no ties. -/
def normalized (value : Int) : Binary64 :=
  let shift := 67 - value.natAbs.log2
  .finite (value.sign * ((2 * (value.natAbs * 2 ^ shift) + 32767) / 65534 : Nat)) (-shift)

/-- The value of the bits of an `f32`. -/
def fromF32Bits (bits : Nat) : Binary64 :=
  let negative := 2 ^ 31 ≤ bits
  let exponent := bits / 2 ^ 23 % 256
  let fraction : Int := (bits % 2 ^ 23 : Nat)
  if exponent = 255 then if fraction = 0 then .infinite negative else .nan
  else
    let mantissa := if exponent = 0 then fraction else 2 ^ 23 + fraction
    .finite (if negative then -mantissa else mantissa) ((max exponent 1 : Nat) - 150)

/-- The bits of a number `as f32`, to the nearest and on a tie to the even one. -/
def toF32Bits : Binary64 → Nat
  | .nan => 0x7FC00000
  | .infinite negative => 0x7F800000 + if negative then 2 ^ 31 else 0
  | .finite mantissa exponent =>
    if mantissa = 0 then 0 else
    let size := mantissa.natAbs
    -- the exponent of the last bit kept
    let unit := max (-149) (exponent + size.log2 - 23)
    let scaled := size * 2 ^ (exponent - unit).toNat
    let divisor := 2 ^ (unit - exponent).toNat
    let quotient := scaled / divisor
    let remainder := scaled % divisor
    let rounded := if divisor < 2 * remainder ∨ divisor = 2 * remainder ∧ quotient % 2 = 1 then
      quotient + 1 else quotient
    min ((unit + 149).toNat * 2 ^ 23 + rounded) 0x7F800000 + if mantissa < 0 then 2 ^ 31 else 0

def f32LeBytes (value : Binary64) : Bytes :=
  let bits := toF32Bits value
  [.ofNat bits,.ofNat (bits / 256),.ofNat (bits / 65536),.ofNat (bits / 16777216)]

def parsePointAddress (address : Json) : Except String Iec101PointAddress := do
  bailIf (addressField address "kind" ≠ "iec101_ioa")
    "IEC 101 adapter supports iec101_ioa addresses"
  let (linkAddress,commonAddress,informationObjectAddress) ←
    parseIec101PointAddress (addressField address "value")
  pure ⟨.ofNat linkAddress,commonAddress,informationObjectAddress⟩

/-! ## Frames -/

def buildVariableFrame (body : Bytes) : Bytes :=
  [variableFrameStart,.ofNat body.length,.ofNat body.length,variableFrameStart] ++ body ++
    [sum8 body,frameEnd]

def buildFixedFrame (control linkAddress : UInt8) : Bytes :=
  [fixedFrameStart,control,linkAddress,sum8 [control,linkAddress],frameEnd]

def containsVariableFrame (response : Bytes) : Bool := response.contains variableFrameStart

def validateLinkAck (response : Bytes) (expectedLinkAddress : UInt8) : Except String Unit :=
  if response = [singleCharAck] then .ok ()
  else
    match response.dropWhile (· ≠ fixedFrameStart) with
    | [] => .error "IEC 101 response is not a link acknowledgement"
    | _ :: control :: linkAddress :: checksum :: last :: _ => do
        bailIf (last ≠ frameEnd) "IEC 101 fixed frame has an invalid end byte"
        bailIf (linkAddress ≠ expectedLinkAddress)
          "IEC 101 fixed frame link address does not match request"
        bailIf (checksum ≠ control + linkAddress) "IEC 101 fixed frame checksum mismatch"
    | _ => .error "IEC 101 fixed frame is truncated"

def parseVariableFrame (response : Bytes) : Except String Bytes :=
  match response.dropWhile (· ≠ variableFrameStart) with
  | [] => .error "IEC 101 response has no variable frame"
  | _ :: length :: again :: start :: rest => do
      bailIf (length ≠ again ∨ start ≠ variableFrameStart)
        "IEC 101 variable frame length header is invalid"
      bailIf (rest.length < length.toNat + 2) "IEC 101 variable frame is truncated"
      bailIf (rest.getD (length.toNat + 1) 0 ≠ frameEnd)
        "IEC 101 variable frame has an invalid end byte"
      bailIf (sum8 (rest.take length.toNat) ≠ rest.getD length.toNat 0)
        "IEC 101 variable frame checksum mismatch"
      pure (rest.take length.toNat)
  | _ => .error "IEC 101 variable frame header is truncated"

def addressBytes (address : Iec101PointAddress) : Bytes :=
  [.ofNat address.commonAddress,.ofNat (address.commonAddress / 256),
    .ofNat address.informationObjectAddress,.ofNat (address.informationObjectAddress / 256),
    .ofNat (address.informationObjectAddress / 65536)]

def buildReadCommand (control : UInt8) (address : Iec101PointAddress) : Bytes :=
  buildVariableFrame ([control,address.linkAddress,102,1,cotRequest,0] ++ addressBytes address)

def controlTypeId : Iec104ControlType → UInt8
  | .singleCommand => 45
  | .doubleCommand => 46
  | .setpointFloat => 50

def buildControlCommand (control : UInt8) (address : Iec101PointAddress)
    (controlType : Iec104ControlType) (command : Iec101CommandValue) (select : Bool) :
    Except String Bytes := do
  let selectBit : UInt8 := if select then 0x80 else 0
  let information ← match controlType, command with
    | .singleCommand, .single value => .ok [(if value then 1 else 0) ||| selectBit]
    | .doubleCommand, .double value => .ok [value ||| selectBit]
    | .setpointFloat, .setpointFloat value => .ok (f32LeBytes value ++ [selectBit])
    | _, _ => .error "IEC 101 command value does not match its configured control type"
  pure (buildVariableFrame ([control,address.linkAddress,controlTypeId controlType,1,
    cotActivation,0] ++ addressBytes address ++ information))

/-! ## Information elements -/

def quality (descriptor : UInt8) : DataQuality := if descriptor &&& 0x80 ≠ 0 then .bad
  else if descriptor &&& 0x70 ≠ 0 then .uncertain
  else .good

def asI64 : Binary64 → Int
  | .nan => 0
  | .infinite negative => if negative then -i64Bound else i64Bound - 1
  | number => max (-i64Bound) (min (Runtime.Iec104.truncated number) (i64Bound - 1))

def coerceValue (numbers : Numbers) : TelemetryValue → TelemetryType → Except String TelemetryValue
  | .float value, .float => .ok (.float value)
  | .integer value, .integer => .ok (.integer value)
  | .boolean value, .boolean => .ok (.boolean value)
  | .text value, .text => .ok (.text value)
  | .integer value, .float => .ok (.float (.ofInt value))
  | .boolean value, .integer => .ok (.integer (if value then 1 else 0))
  | .boolean value, .float => .ok (.float (if value then .ofInt 1 else .zero))
  | .integer value, .boolean => .ok (.boolean (value ≠ 0))
  | .float value, .boolean => .ok (.boolean (!value.eq .zero))
  | .float value, .integer => .ok (.integer (asI64 value))
  | .float value, .text => .ok (.text (numbers.display value))
  | .integer value, .text => .ok (.text (toString value))
  | .boolean value, .text => .ok (.text (toString value))
  | .text _, _ => .error "IEC 101 text value cannot be coerced to numeric type"

/-- The candidate closest to the moment of the reading, the first of several. -/
def closest (observed : Time) : Time → List Time → Time := List.foldl fun best next =>
    let distance (time : Time) := ((time - observed).tdiv (milliseconds 1)).natAbs
    if distance next < distance best then next else best

def parseCp24Time2a (observed : Time) : Bytes → Except String (Option Time)
  | [low,high,minutes] =>
    if minutes &&& 0x80 ≠ 0 then .ok none
    else do
      let minute := (minutes &&& 0x3F).toNat
      bailIf (60000 ≤ fromLe low high ∨ 60 ≤ minute)
        "IEC 101 CP24Time2a contains an invalid clock value"
      let hour := milliseconds 3600000
      let candidate := observed - observed % hour +
        milliseconds (minute * 60000 + fromLe low high : Nat)
      pure (some (closest observed (candidate - hour) [candidate,candidate + hour]))
  | _ => .error "IEC 101 CP24Time2a must contain 3 bytes"

def parseCp56Time2a (timezoneOffsetMinutes : Int) : Bytes → Except String (Option Time)
  | [low,high,minutes,hours,days,months,years] =>
    if minutes &&& 0x80 ≠ 0 then .ok none
    else do
      let minute := (minutes &&& 0x3F).toNat
      let hour := (hours &&& 0x1F).toNat
      bailIf (60000 ≤ fromLe low high ∨ 60 ≤ minute ∨ 24 ≤ hour)
        "IEC 101 CP56Time2a contains an invalid clock value"
      bailIf (86400 ≤ timezoneOffsetMinutes.natAbs * 60)
        "IEC 101 CP56Time2a timezone offset is invalid"
      let day ← context (Runtime.Iec104.daysSinceEpoch (years &&& 0x7F).toNat
        (months &&& 0x0F).toNat (days &&& 0x1F).toNat)
        "IEC 101 CP56Time2a contains an invalid date"
      pure (some (milliseconds ((((day * 24 + hour) * 60 + minute : Nat) - timezoneOffsetMinutes) *
        60000 + fromLe low high)))
  | _ => .error "IEC 101 CP56Time2a must contain 7 bytes"

/-- The base type of a monitored type, and the size of its time tag. -/
def baseType : UInt8 → Option (UInt8 × Nat)
  | 1 => some (1,0)
  | 3 => some (3,0)
  | 9 => some (9,0)
  | 11 => some (11,0)
  | 13 => some (13,0)
  | 2 => some (1,3)
  | 4 => some (3,3)
  | 10 => some (9,3)
  | 12 => some (11,3)
  | 14 => some (13,3)
  | 30 => some (1,7)
  | 31 => some (3,7)
  | 34 => some (9,7)
  | 35 => some (11,7)
  | 36 => some (13,7)
  | _ => none

def rawValue (typeId base : UInt8) (bytes : Bytes) :
    Except String (TelemetryValue × DataQuality × Nat) :=
  if base = 1 then
    (context bytes.head? "IEC 101 single-point value is missing").map fun siq =>
      (.boolean (siq &&& 0x01 ≠ 0),quality siq,1)
  else if base = 3 then
    (context bytes.head? "IEC 101 double-point value is missing").map fun diq =>
      (.integer (diq &&& 0x03).toNat,quality diq,1)
  else if base = 9 ∨ base = 11 then
    match bytes with
    | low :: high :: descriptor :: _ =>
      let value := ((fromLe low high : Nat) : Int).bmod 65536
      -- the type as received is compared here, not its base
      .ok (if typeId = 9 then .float (normalized value) else .integer value,
        quality descriptor,3)
    | _ => .error "IEC 101 measured value is truncated"
  else
    match bytes with
    | first :: second :: third :: fourth :: descriptor :: _ =>
      .ok (.float (fromF32Bits (fromLe first second + 65536 * fromLe third fourth)),
        quality descriptor,5)
    | _ => .error "IEC 101 short floating-point value is truncated"

variable (numbers : Numbers) (observed : Time) (timezoneOffsetMinutes : Int)

def timeTag (size : Nat) (bytes : Bytes) : Except String (Option Time) := if size = 0 then .ok none
  else if size = 3 then parseCp24Time2a observed bytes
  else parseCp56Time2a timezoneOffsetMinutes bytes

def decodeInformationElement (typeId : UInt8) (bytes : Bytes) (expectedType : TelemetryType) :
    Except String DecodedIec101Value := do
  let (base,timeSize) ← context (baseType typeId)
    s!"unsupported IEC 101 monitoring type id: {typeId}"
  let (raw,quality,valueSize) ← rawValue typeId base bytes
  bailIf (bytes.length < valueSize + timeSize)
    "IEC 101 time-tagged information element is truncated"
  let timestamp ← timeTag observed timezoneOffsetMinutes timeSize
    ((bytes.drop valueSize).take timeSize)
  let value ← coerceValue numbers raw expectedType
  pure {
    value := value
    quality := if 0 < timeSize ∧ timestamp = none ∧ quality = .good then .uncertain else quality
    timestamp := timestamp }

/-! A time-tagged element against the element of its base type. -/

/-- The integer of a measured value. -/
def measured (value : Bytes) : Int :=
  ((fromLe (value.getD 0 0) (value.getD 1 0) : Nat) : Int).bmod 65536

def valueSize (base : UInt8) : Nat := if base = 1 ∨ base = 3 then 1 else if base = 13 then 5 else 3

def marked (tag : Bytes) : Prop := tag.getD 2 0 &&& 0x80 ≠ 0

instance (tag : Bytes) : Decidable (marked tag) := inferInstanceAs (Decidable (_ ≠ _))

theorem baseType_tagged (h : baseType typeId = some (base,size)) (hs : 0 < size) :
    baseType base = some (base,0) ∧ typeId ≠ 9 ∧ (size = 3 ∨ size = 7) ∧
      (base = 1 ∨ base = 3 ∨ base = 9 ∨ base = 11 ∨ base = 13) := by
  unfold baseType at h
  split at h <;> simp_all <;> (obtain ⟨rfl,rfl⟩ := h; simp [baseType])

/-- What the bytes of a value give with the type id of its base and with a tagged one. -/
structure Reads (base : UInt8) (value : Bytes) (plain tagged : TelemetryValue) : Prop where
  plain_number : ∀ text, plain ≠ .text text
  tagged_number : ∀ text, tagged ≠ .text text
  untagged : rawValue base base value = .ok (plain,quality (value.getLastD 0),valueSize base)
  appended : ∀ typeId tag, typeId ≠ 9 → rawValue typeId base (value ++ tag) =
    .ok (tagged,quality (value.getLastD 0),valueSize base)
  scaled : base = 9 →
    plain = .float (normalized (measured value)) ∧ tagged = .integer (measured value)
  same : base ≠ 9 → tagged = plain

theorem exists_reads {value : Bytes} (hb : base = 1 ∨ base = 3 ∨ base = 9 ∨ base = 11 ∨ base = 13)
    (hv : value.length = valueSize base) : ∃ plain tagged, Reads base value plain tagged := by
  rcases hb with rfl | rfl | rfl | rfl | rfl
  · obtain ⟨siq,rfl⟩ := length_eq_one_iff.mp hv
    exact ⟨.boolean (siq &&& 0x01 ≠ 0),_,by simp,by simp,rfl,fun _ _ _ => rfl,by simp,fun _ => rfl⟩
  · obtain ⟨diq,rfl⟩ := length_eq_one_iff.mp hv
    exact ⟨.integer (diq &&& 0x03).toNat,_,by simp,by simp,rfl,fun _ _ _ => rfl,by simp,
      fun _ => rfl⟩
  · obtain ⟨low,high,descriptor,rfl⟩ := length_eq_three.mp hv
    refine ⟨.float (normalized _),.integer _,by simp,by simp,rfl,fun typeId tag hn => ?_,
      fun _ => ⟨rfl,rfl⟩,by simp⟩
    change Except.ok (ite (typeId = 9) _ _,_,_) = _
    rw [if_neg hn]
    rfl
  · obtain ⟨low,high,descriptor,rfl⟩ := length_eq_three.mp hv
    refine ⟨.integer (measured [low,high,descriptor]),_,by simp,by simp,rfl,
      fun typeId tag hn => ?_,by simp,fun _ => rfl⟩
    change Except.ok (ite (typeId = 9) _ _,_,_) = _
    rw [if_neg hn]
    rfl
  · match value, hv with
    | [first,second,third,fourth,descriptor], _ =>
      exact ⟨.float (fromF32Bits (fromLe first second + 65536 * fromLe third fourth)),_,by simp,
        by simp,rfl,fun _ _ _ => rfl,by simp,fun _ => rfl⟩

theorem coerceValue_total (h : ∀ text, raw ≠ .text text) (expectedType : TelemetryType) :
    ∃ value, coerceValue numbers raw expectedType = .ok value := by
  cases raw with
  | text value => exact absurd rfl (h value)
  | _ => cases expectedType <;> exact ⟨_,rfl⟩

private theorem timeTag_eq_none_iff {tag : Bytes} (hs : size = 3 ∨ size = 7)
    (h : timeTag observed timezoneOffsetMinutes size (tag.take size) = .ok timestamp) :
    timestamp = none ↔ marked tag := by
  have hg : tag.getD 2 0 = (tag.take size).getD 2 0 := by
    rcases hs with rfl | rfl <;> simp [getD_eq_getElem?_getD]
  unfold marked
  rw [hg]
  generalize tag.take size = bytes at h
  rcases hs with rfl | rfl
  · change parseCp24Time2a observed bytes = .ok timestamp at h
    unfold parseCp24Time2a at h
    split at h
    · split at h
      · next hm => cases h; simpa using hm
      · next hm =>
        obtain ⟨_,-,h⟩ := bind_eq_ok.mp h
        cases h
        simpa using hm
    · cases h
  · change parseCp56Time2a timezoneOffsetMinutes bytes = .ok timestamp at h
    unfold parseCp56Time2a at h
    split at h
    · split at h
      · next hm => cases h; simpa using hm
      · next hm =>
        simp only [bind_eq_ok] at h
        obtain ⟨_,-,_,-,_,-,h⟩ := h
        cases h
        simpa using hm
    · cases h

/-- The value and quality bytes decode by themselves. With a tag after them they decode, where the
tag is complete and of a valid time or marked invalid, to the same quality, which the mark turns from
good into uncertain, and to the number they stand for without scaling. -/
theorem tagged_decodes (hb : baseType typeId = some (base,timeSize)) (ht : 0 < timeSize)
    {value : Bytes} (hv : value.length = valueSize base) (tag : Bytes)
    (expectedType : TelemetryType) :
    ∃ raw tagged plain coerced, Reads base value raw tagged ∧
      coerceValue numbers raw expectedType = .ok plain ∧
      coerceValue numbers tagged expectedType = .ok coerced ∧
      decodeInformationElement numbers observed timezoneOffsetMinutes base value expectedType =
        .ok ⟨plain,quality (value.getLastD 0),none⟩ ∧
      decodeInformationElement numbers observed timezoneOffsetMinutes typeId (value ++ tag)
        expectedType = (do
          bailIf (tag.length < timeSize) "IEC 101 time-tagged information element is truncated"
          let timestamp ← timeTag observed timezoneOffsetMinutes timeSize (tag.take timeSize)
          pure ⟨coerced,if marked tag ∧ quality (value.getLastD 0) = .good then .uncertain
            else quality (value.getLastD 0),timestamp⟩) := by
  obtain ⟨hbb,ht9,hs,hc⟩ := baseType_tagged hb ht
  obtain ⟨raw,tagged,hr⟩ := exists_reads hc hv
  obtain ⟨plain,hp⟩ := coerceValue_total numbers hr.plain_number expectedType
  obtain ⟨coerced,hco⟩ := coerceValue_total numbers hr.tagged_number expectedType
  refine ⟨raw,tagged,plain,coerced,hr,hp,hco,?_,?_⟩
  · simp [decodeInformationElement,hbb,hr.untagged,hv,hp,timeTag,bailIf]
  · have hlt : value.length + tag.length < valueSize base + timeSize ↔ tag.length < timeSize := by
      omega
    simp only [decodeInformationElement,hb,context_some,ok_bind,hr.appended typeId tag ht9,
      length_append,hlt,drop_left' hv]
    cases hta : timeTag observed timezoneOffsetMinutes timeSize (tag.take timeSize) with
    | error why => rfl
    | ok timestamp =>
      have hm := timeTag_eq_none_iff observed timezoneOffsetMinutes hs hta
      simp [hco,ht,hm]

/-- Floats are compared as numbers. -/
def SameValue : TelemetryValue → TelemetryValue → Prop
  | .float first, .float second => first = second ∨ first.eq second = true
  | first, second => first = second

theorem SameValue.refl (value : TelemetryValue) : SameValue value value := by
  cases value with
  | float number => exact .inl rfl
  | _ => rfl

/-- The integer and the quotient by the largest one are the same value of this type. -/
def SameUnscaled (value : Int) : TelemetryType → Prop
  | .boolean => True
  | .text => toString value = numbers.display (normalized value)
  | .integer | .float => value = 0

theorem eq_finite_iff {m e m' e' : Int} : (Binary64.finite m e).eq (.finite m' e') = true ↔
    m * ((2 ^ (e - e').toNat : Nat) : Int) = m' * ((2 ^ (e' - e).toNat : Nat) : Int) := by
  simp only [Binary64.eq,Binary64.le,Bool.and_eq_true,decide_eq_true_eq]
  exact ⟨fun h => le_antisymm h.1 h.2,fun h => ⟨h.le,h.ge⟩⟩

/-- The quotient of a nonzero integer is a smaller nonzero number. -/
theorem exists_normalized {value : Int} (h : value.natAbs ≤ 32768) : ∃ size shift : Nat,
    normalized value = .finite (value.sign * size) (-shift) ∧ 0 < shift ∧
      (value ≠ 0 → 0 < size ∧ size < value.natAbs * 2 ^ shift) := by
  have hl : value.natAbs.log2 < 16 := by
    by_cases hz : value.natAbs = 0
    · rw [hz]
      decide
    · exact (Nat.log2_lt hz).mpr (by omega)
  refine ⟨_,67 - value.natAbs.log2,rfl,by omega,fun hn => ?_⟩
  have hp : 2 ^ 52 ≤ 2 ^ (67 - value.natAbs.log2) := Nat.pow_le_pow_right (by decide) (by omega)
  have hm : 2 ^ (67 - value.natAbs.log2) ≤ value.natAbs * 2 ^ (67 - value.natAbs.log2) :=
    Nat.le_mul_of_pos_left _ (by omega)
  omega

theorem normalized_eq_zero_iff {value : Int} (h : value.natAbs ≤ 32768) :
    (normalized value).eq .zero = true ↔ value = 0 := by
  obtain ⟨size,shift,hn,hs,hp⟩ := exists_normalized h
  rw [hn,Binary64.zero,eq_finite_iff]
  by_cases hz : value = 0
  · simp [hz]
  · have hp := (hp hz).1
    simp [hz]
    omega

theorem natAbs_signed {value : Int} (h : value ≠ 0) (size : Nat) :
    (value.sign * size).natAbs = size := by
  rw [Int.natAbs_mul,Int.natAbs_sign_of_ne_zero h,Int.natAbs_natCast,Nat.one_mul]

theorem ofInt_eq_normalized_iff {value : Int} (h : value.natAbs ≤ 32768) :
    (Binary64.ofInt value).eq (normalized value) = true ↔ value = 0 := by
  obtain ⟨size,shift,hn,hs,hp⟩ := exists_normalized h
  have ho : Binary64.ofInt value = .finite value 0 := by
    have hr (n : Nat) (hl : n ≤ 32768) : Binary64.roundNat n = n := if_pos (by omega)
    cases value with
    | ofNat n => simp [Binary64.ofInt,hr n h]
    | negSucc n => simp [Binary64.ofInt,hr (n + 1) h,Int.negSucc_eq]
  rw [hn,ho,eq_finite_iff,show (0 - -(shift : Int)).toNat = shift by omega]
  constructor
  · intro he
    by_contra hz
    have ha := congrArg Int.natAbs he
    rw [Int.natAbs_mul,Int.natAbs_mul,natAbs_signed hz] at ha
    have hl := (hp hz).2
    simp at ha
    omega
  · rintro rfl
    simp

private theorem asI64_normalized_iff {value : Int} (h : value.natAbs ≤ 32768) :
    asI64 (normalized value) = value ↔ value = 0 := by
  obtain ⟨size,shift,hn,hs,hp⟩ := exists_normalized h
  have ht : Runtime.Iec104.truncated (normalized value) =
      (value.sign * size).tdiv ((2 ^ shift : Nat) : Int) := by
    rw [hn,Runtime.Iec104.truncated,if_neg (by omega),Int.neg_neg,Int.toNat_natCast]
  have ha : asI64 (normalized value) =
      max (-i64Bound) (min (Runtime.Iec104.truncated (normalized value)) (i64Bound - 1)) := by
    rw [hn]
    rfl
  rw [ha,ht]
  constructor
  · intro he
    by_contra hz
    have hl : ((value.sign * size).tdiv ((2 ^ shift : Nat) : Int)).natAbs < value.natAbs := by
      rw [Int.natAbs_tdiv,natAbs_signed hz,Int.natAbs_natCast]
      exact Nat.div_lt_of_lt_mul (Nat.mul_comm _ _ ▸ (hp hz).2)
    unfold i64Bound at he
    omega
  · rintro rfl
    simp [i64Bound]

private theorem sameUnscaled_iff {value : Int} {plain : TelemetryValue} (h : value.natAbs ≤ 32768)
    (hp : coerceValue numbers (.float (normalized value)) expectedType = .ok plain)
    (hc : coerceValue numbers (.integer value) expectedType = .ok coerced) :
    SameValue coerced plain ↔ SameUnscaled numbers value expectedType := by
  cases expectedType with
  | boolean =>
    cases hp
    cases hc
    have hz := normalized_eq_zero_iff h
    have hd : (normalized value).eq .zero = decide (value = 0) := by
      rw [Bool.eq_iff_iff,hz,decide_eq_true_eq]
    simp [SameValue,SameUnscaled,hd]
  | integer =>
    cases hp
    cases hc
    change TelemetryValue.integer value = _ ↔ value = 0
    rw [TelemetryValue.integer.injEq,eq_comm,asI64_normalized_iff h]
  | float =>
    cases hp
    cases hc
    change _ ∨ _ ↔ value = 0
    rw [← ofInt_eq_normalized_iff h,or_iff_right_of_imp]
    intro he
    obtain ⟨size,shift,hn,-⟩ := exists_normalized h
    rw [he,hn,eq_finite_iff]
  | text =>
    cases hp
    cases hc
    simp [SameValue,SameUnscaled]

/-- The readings of an element with and without its time tag. -/
def SameReading (typeId base : UInt8) (value tag : Bytes) (expectedType : TelemetryType) : Prop :=
  ∃ plain tagged, decodeInformationElement numbers observed timezoneOffsetMinutes base value
      expectedType = .ok plain ∧
    decodeInformationElement numbers observed timezoneOffsetMinutes typeId (value ++ tag)
      expectedType = .ok tagged ∧
    SameValue tagged.value plain.value ∧ tagged.quality = plain.quality

/-- A tagged element reads as the one of its base type exactly when the tag is complete and of a
valid time or marked invalid, the mark meets no good quality, and a normalized measurement is one
that the missing division leaves as it is. -/
theorem tagged_reads_as_base_iff (hb : baseType typeId = some (base,timeSize)) (ht : 0 < timeSize)
    {value : Bytes} (hv : value.length = valueSize base) (tag : Bytes)
    (expectedType : TelemetryType) :
    SameReading numbers observed timezoneOffsetMinutes typeId base value tag expectedType ↔
      timeSize ≤ tag.length ∧
      (∃ timestamp, timeTag observed timezoneOffsetMinutes timeSize (tag.take timeSize) =
        .ok timestamp) ∧
      (marked tag → quality (value.getLastD 0) ≠ .good) ∧
      (base = 9 → SameUnscaled numbers (measured value) expectedType) := by
  obtain ⟨raw,tagged,plain,coerced,hr,hp,hc,hd,hdt⟩ :=
    tagged_decodes numbers observed timezoneOffsetMinutes hb ht hv tag expectedType
  have hval : SameValue coerced plain ↔
      (base = 9 → SameUnscaled numbers (measured value) expectedType) := by
    by_cases h9 : base = 9
    · obtain ⟨rfl,rfl⟩ := hr.scaled h9
      have hm : (measured value).natAbs ≤ 32768 := by
        have hl := Int.le_bmod (x := fromLe (value.getD 0 0) (value.getD 1 0)) (m := 65536)
          (by decide)
        have hu := Int.bmod_lt (x := fromLe (value.getD 0 0) (value.getD 1 0)) (m := 65536)
          (by decide)
        unfold measured
        omega
      simp [h9,sameUnscaled_iff numbers hm hp hc]
    · rw [hr.same h9,hp] at hc
      cases hc
      simp [h9,SameValue.refl]
  unfold SameReading
  rw [hd,hdt,← hval]
  constructor
  · rintro ⟨_,_,hpl,hta,hs,hq⟩
    cases hpl
    obtain ⟨_,hl,hta⟩ := bind_eq_ok.mp hta
    obtain ⟨timestamp,htt,hta⟩ := bind_eq_ok.mp hta
    cases hta
    refine ⟨not_lt.mp (bailIf_eq_ok.mp hl),⟨timestamp,htt⟩,fun hm hg => ?_,hs⟩
    dsimp only at hq
    rw [if_pos ⟨hm,hg⟩,hg] at hq
    cases hq
  · rintro ⟨hl,⟨timestamp,htt⟩,hm,hs⟩
    refine ⟨_,⟨coerced,quality (value.getLastD 0),timestamp⟩,rfl,?_,hs,rfl⟩
    rw [bailIf_eq_ok (u := ()) |>.mpr (not_lt.mpr hl),htt,ok_bind,ok_bind,
      if_neg (not_and.mpr hm)]
    rfl

def plainNumbers : Numbers where
  display _ := "0"
  debug _ := "Boolean(true)"

/-- A single point with a tag of 5 minutes and 10 seconds past the hour. -/
theorem tagged_single_point : SameReading plainNumbers 0 0 2 1 [0x01] [0x10,0x27,0x05] .boolean :=
  (tagged_reads_as_base_iff plainNumbers 0 0 (show baseType 2 = some (1,3) from rfl) (by decide)
    (by decide) _ _).mpr ⟨by decide,⟨_,rfl⟩,by decide,nofun⟩

/-- Half of the range reads as the raw integer once it has a tag. -/
theorem tagged_normalized_unscaled :
    ¬ SameReading plainNumbers 0 0 10 9 [0x00,0x40,0x00] [0x10,0x27,0x05] .float := by
  have hp : decodeInformationElement plainNumbers 0 0 9 [0x00,0x40,0x00] .float =
      .ok ⟨.float (.finite 4503737070518400 (-53)),.good,none⟩ := by decide +kernel
  have ht : decodeInformationElement plainNumbers 0 0 10
      ([0x00,0x40,0x00] ++ [0x10,0x27,0x05]) .float =
      .ok ⟨.float (.finite 16384 0),.good,some (milliseconds 310000)⟩ := by decide +kernel
  rintro ⟨_,_,hplain,htagged,hs,-⟩
  cases hp.symm.trans hplain
  cases ht.symm.trans htagged
  exact absurd hs (by unfold SameValue; decide)

/-! ## The link -/

/-- What the adapter keeps of its link, and how many frames it has put on the bus. -/
structure Link where
  initializedLink : Option UInt8 := none
  frameCountBit : Bool := false
  frames : Nat := 0

abbrev Station := Nat → Bytes → Except String Bytes

abbrev LinkEffect := Effect Link Bytes String

def primaryControl (frameCountBit : Bool) (function : UInt8) : UInt8 :=
  if frameCountBit then function ||| 0x20 else function

variable (station : Station)

def transact (frame : Bytes) : LinkEffect Bytes :=
  ⟨fun link => ⟨{ link with frames := link.frames + 1 },[frame],station link.frames frame⟩⟩

def withContext (text : Option String) (first : LinkEffect α) : LinkEffect α := ⟨fun link =>
  let ran := first.run link
  ⟨ran.state,ran.log,ran.result.mapError text.getD⟩⟩

def reading (read : Link → α) : LinkEffect α := ⟨fun link => ⟨link,[],.ok (read link)⟩⟩

def changing (change : Link → Link) : LinkEffect Unit := ⟨fun link => ⟨change link,[],.ok ()⟩⟩

def ensureLinkInitialized (linkAddress : UInt8) : LinkEffect Unit := do
  if (← reading (·.initializedLink)) = some linkAddress then pure ()
  else
    let response ← transact station (buildFixedFrame primaryResetRemoteLink linkAddress)
    withContext (some "IEC 101 remote link reset was not acknowledged")
      (lift (validateLinkAck response linkAddress))
    changing fun link =>
      { link with initializedLink := some linkAddress, frameCountBit := false }

/-- One request with user data: how its frame is built, what polls for data when the station only
acknowledges, and the texts of its failures. -/
structure Request where
  build : UInt8 → Except String Bytes
  poll : UInt8
  transportFailed : Option String := none
  unacknowledged : Option String := none
  pollFailed : Option String := none
  noData : String

def exchange (request : Request) (linkAddress : UInt8) : LinkEffect Bytes := do
  let control ← reading fun link => primaryControl link.frameCountBit primarySendConfirmedUserData
  let frame ← lift (request.build control)
  let response ← withContext request.transportFailed (transact station frame)
  changing fun link => { link with frameCountBit := !link.frameCountBit }
  if containsVariableFrame response then pure response
  else
    withContext request.unacknowledged (lift (validateLinkAck response linkAddress))
    -- the bit is not turned again after the poll
    let pollControl ← reading fun link => primaryControl link.frameCountBit request.poll
    let data ← withContext request.pollFailed
      (transact station (buildFixedFrame pollControl linkAddress))
    lift (bailIf (!containsVariableFrame data) request.noData)
    pure data

variable (address : Iec101PointAddress)

def readRequest : Request where
  build control := .ok (buildReadCommand control address)
  poll := primaryRequestClass2Data
  noData := "IEC 101 class 2 response contains no ASDU data"

def commandRequest (controlType : Iec104ControlType) (command : Iec101CommandValue)
    (select : Bool) (phase : String) : Request where
  build control := buildControlCommand control address controlType command select
  poll := primaryRequestClass1Data
  transportFailed := some s!"IEC 101 {phase} command transport failed"
  unacknowledged := some s!"IEC 101 {phase} command was not acknowledged"
  pollFailed := some s!"IEC 101 {phase} confirmation poll failed"
  noData := s!"IEC 101 {phase} confirmation contains no ASDU data"

def parseReadResponse (response : Bytes) (expected : Iec101PointAddress)
    (expectedType : TelemetryType) : Except String DecodedIec101Value := do
  match ← parseVariableFrame response with
  | _ :: linkAddress :: typeId :: qualifier :: cause :: _ :: common :: common' ::
      object :: object' :: object'' :: element => do
    bailIf (linkAddress ≠ expected.linkAddress)
      "IEC 101 response link address does not match request"
    bailIf (qualifier &&& 0x7F ≠ 1 ∨ qualifier &&& 0x80 ≠ 0)
      "IEC 101 point read response must contain one explicit information object"
    bailIf (cause &&& 0x3F ≠ cotRequest) "IEC 101 response cause of transmission is not request"
    bailIf (fromLe common common' ≠ expected.commonAddress)
      "IEC 101 response common address does not match request"
    bailIf (fromLe object object' + 65536 * object''.toNat ≠ expected.informationObjectAddress)
      "IEC 101 response information object address does not match request"
    decodeInformationElement numbers observed timezoneOffsetMinutes typeId element expectedType
  | _ => throw "IEC 101 response ASDU is too short"

def parseCommandConfirmation (response : Bytes) (expected : Iec101PointAddress)
    (controlType : Iec104ControlType) (phase : String) : Except String Unit := do
  match ← parseVariableFrame response with
  | _ :: linkAddress :: typeId :: qualifier :: cause :: _ :: common :: common' ::
      object :: object' :: object'' :: _ => do
    bailIf (linkAddress ≠ expected.linkAddress)
      s!"IEC 101 {phase} confirmation link address does not match request"
    bailIf (typeId ≠ controlTypeId controlType)
      s!"IEC 101 {phase} confirmation type does not match request"
    bailIf (qualifier &&& 0x7F ≠ 1 ∨ qualifier &&& 0x80 ≠ 0)
      s!"IEC 101 {phase} confirmation must contain one explicit information object"
    bailIf (cause &&& 0x3F ≠ cotActivationConfirmation)
      s!"IEC 101 {phase} confirmation cause is not activation confirmation"
    bailIf (cause &&& 0x40 ≠ 0) s!"IEC 101 {phase} command was rejected by the station"
    bailIf (fromLe common common' ≠ expected.commonAddress)
      s!"IEC 101 {phase} confirmation common address does not match request"
    bailIf (fromLe object object' + 65536 * object''.toNat ≠ expected.informationObjectAddress)
      s!"IEC 101 {phase} confirmation information object address does not match request"
  | _ => throw s!"IEC 101 {phase} confirmation ASDU is too short"

def readPoint (mapping : TelemetryPointMapping) : LinkEffect DecodedIec101Value := do
  let address ← withContext (some s!"invalid point address for {mapping.pointId}")
    (lift (parsePointAddress mapping.address))
  ensureLinkInitialized station address.linkAddress
  let response ← exchange station (readRequest address) address.linkAddress
  lift (parseReadResponse numbers observed timezoneOffsetMinutes response address
    mapping.valueType)

def sendCommand (controlType : Iec104ControlType) (command : Iec101CommandValue) (select : Bool)
    (phase : String) : LinkEffect Unit := do
  let confirmation ← exchange station
    (commandRequest address controlType command select phase) address.linkAddress
  lift (parseCommandConfirmation confirmation address controlType phase)

/-! ## Acknowledged requests -/

/-- No byte of an acknowledgement looks like the start of a variable frame. -/
def Clear (control linkAddress : UInt8) : Prop :=
  control ≠ variableFrameStart ∧ linkAddress ≠ variableFrameStart ∧
    control + linkAddress ≠ variableFrameStart

instance (control linkAddress : UInt8) : Decidable (Clear control linkAddress) :=
  inferInstanceAs (Decidable (_ ∧ _))

structure Acknowledges (link : Link) (linkAddress control : UInt8) (data : Bytes) : Prop where
  ready : link.initializedLink = some linkAddress
  ack : ∀ frame, station link.frames frame = .ok (buildFixedFrame control linkAddress)
  data : ∀ frame, station (link.frames + 1) frame = .ok data

def dataFrame (control typeId cause origin : UInt8) (address : Iec101PointAddress)
    (element : Bytes) : Bytes :=
  buildVariableFrame ([control,address.linkAddress,typeId,1,cause,origin] ++
    addressBytes address ++ element)

theorem containsVariableFrame_fixed (control linkAddress : UInt8) :
    containsVariableFrame (buildFixedFrame control linkAddress) = true ↔
      ¬ Clear control linkAddress := by
  simp only [containsVariableFrame,buildFixedFrame,sum8,contains_iff_mem,Clear]
  simp only [foldl_cons,foldl_nil,UInt8.zero_add,mem_cons,not_mem_nil]
  have h1 : variableFrameStart ≠ fixedFrameStart := by decide
  have h2 : variableFrameStart ≠ frameEnd := by decide
  grind

@[simp] theorem validateLinkAck_fixed (control linkAddress : UInt8) :
    validateLinkAck (buildFixedFrame control linkAddress) linkAddress = .ok () := by
  simp [validateLinkAck,buildFixedFrame,sum8,bailIf]

theorem parseVariableFrame_fixed (control linkAddress : UInt8) :
    ∃ why, parseVariableFrame (buildFixedFrame control linkAddress) = .error why := by
  have h1 : fixedFrameStart ≠ variableFrameStart := by decide
  have h2 : frameEnd ≠ variableFrameStart := by decide
  unfold parseVariableFrame buildFixedFrame
  by_cases hc : control = variableFrameStart <;> by_cases hl : linkAddress = variableFrameStart <;>
    by_cases hs : sum8 [control,linkAddress] = variableFrameStart <;>
    simp [List.dropWhile,h1,h2,hc,hl,hs,bailIf]

theorem parseVariableFrame_build {body : Bytes} (h : body.length < 256) :
    parseVariableFrame (buildVariableFrame body) = .ok body := by
  have hl : (UInt8.ofNat body.length).toNat = body.length := by simpa using Nat.mod_eq_of_lt h
  simp [parseVariableFrame,buildVariableFrame,hl,bailIf]

theorem exchange_acknowledged {req : Request} {control : UInt8}
    (h : Acknowledges station link linkAddress control data)
    (hd : containsVariableFrame data = true)
    (hb : req.build (primaryControl link.frameCountBit primarySendConfirmedUserData) = .ok frame) :
    (exchange station req linkAddress).run link = if Clear control linkAddress then
        ⟨{ link with frameCountBit := !link.frameCountBit, frames := link.frames + 2 },
          [frame,buildFixedFrame (primaryControl (!link.frameCountBit) req.poll) linkAddress],
          .ok data⟩
      else
        ⟨{ link with frameCountBit := !link.frameCountBit, frames := link.frames + 1 },[frame],
          .ok (buildFixedFrame control linkAddress)⟩ := by
  have hf := containsVariableFrame_fixed control linkAddress
  have hv := validateLinkAck_fixed control linkAddress
  have ha := h.ack
  have hda := h.data
  by_cases hc : Clear control linkAddress
  · have hn : containsVariableFrame (buildFixedFrame control linkAddress) = false := by
      simpa [hc] using hf
    simp [exchange,Bind.bind,Ran.next,reading,changing,withContext,transact,hb,ha,
      hda,hn,hd,hc,hv,bailIf,Except.mapError]
  · simp [exchange,Bind.bind,Ran.next,reading,changing,withContext,transact,hb,ha,
      hf.mpr hc,hc,Except.mapError]

private theorem parseBelow_lt (h : Text.parseBelow bound text = some value) : value < bound := by
  simp only [Text.parseBelow,Option.ite_none_right_eq_some,Option.some.injEq] at h
  obtain ⟨⟨-,-,hl⟩,rfl⟩ := h
  exact hl

theorem parsePointAddress_bounds {addr : Iec101PointAddress}
    (h : parsePointAddress source = .ok addr) :
    addr.commonAddress < 65536 ∧ addr.informationObjectAddress < 16777216 := by
  unfold parsePointAddress at h
  obtain ⟨_,-,h⟩ := bind_eq_ok.mp h
  obtain ⟨⟨link,common,object⟩,hp,h⟩ := bind_eq_ok.mp h
  cases h
  unfold parseIec101PointAddress at hp
  split at hp
  · simp only [parseObjectAddress,bind_eq_ok,context_eq_ok,bailIf_eq_ok] at hp
    obtain ⟨_,-,_,-,_,⟨_,hc,_,-,_,-,_,ho,hb⟩,hp⟩ := hp
    cases hb
    cases hp
    exact ⟨parseBelow_lt hc,by change object < 16777216; omega⟩
  · cases hp

section Accepted

variable (control typeId cause origin : UInt8) {addr : Iec101PointAddress} {element : Bytes}

theorem fromLe_ofNat (h : value < 65536) :
    fromLe (.ofNat value) (.ofNat (value / 256)) = value := by
  simp [fromLe]
  omega

theorem object_ofNat (h : value < 16777216) : fromLe (.ofNat value) (.ofNat (value / 256)) +
      65536 * (value / 65536 % 256) = value := by
  simp [fromLe]
  omega

theorem oneObject : (1 : UInt8) &&& 127 = 1 ∧ (1 : UInt8) &&& 128 = 0 := by decide

theorem parseVariableFrame_dataFrame (hl : element.length ≤ 244) :
    parseVariableFrame (dataFrame control typeId cause origin addr element) =
      .ok ([control,addr.linkAddress,typeId,1,cause,origin] ++ addressBytes addr ++ element) :=
  parseVariableFrame_build (by
    simp only [length_append,addressBytes,length_cons,length_nil]
    omega)

variable (hc : addr.commonAddress < 65536)
include hc

variable (ho : addr.informationObjectAddress < 16777216)
include ho

theorem parseReadResponse_dataFrame (hl : element.length ≤ 244) (hr : cause &&& 0x3F = cotRequest)
    (expectedType : TelemetryType) :
    parseReadResponse numbers observed timezoneOffsetMinutes
        (dataFrame control typeId cause origin addr element) addr expectedType =
      decodeInformationElement numbers observed timezoneOffsetMinutes typeId element
        expectedType := by
  unfold parseReadResponse
  rw [parseVariableFrame_dataFrame _ _ _ _ hl]
  simp [addressBytes,oneObject,hr,fromLe_ofNat hc,object_ofNat ho,bailIf]

private theorem parseCommandConfirmation_dataFrame (hl : element.length ≤ 244)
    (hr : cause &&& 0x3F = cotActivationConfirmation) (hn : cause &&& 0x40 = 0)
    (controlType : Iec104ControlType) (phase : String) :
    parseCommandConfirmation (dataFrame control (controlTypeId controlType) cause origin addr
      element) addr controlType phase = .ok () := by
  unfold parseCommandConfirmation
  rw [parseVariableFrame_dataFrame _ _ _ _ hl]
  simp [addressBytes,oneObject,hr,hn,fromLe_ofNat hc,object_ofNat ho,bailIf]

end Accepted

/-- Acknowledged data is polled for and accepted, by a read and by a command, exactly when no byte
of the acknowledgement is the start byte of a variable frame. -/
theorem acknowledged_data_accepted_iff {mapping : TelemetryPointMapping}
    {address : Iec101PointAddress} (ha : parsePointAddress mapping.address = .ok address)
    (link : Link) (control answering cause origin : UInt8) {element : Bytes}
    (hl : element.length ≤ 244) :
    (∀ typeId decoded, cause &&& 0x3F = cotRequest →
      decodeInformationElement numbers observed timezoneOffsetMinutes typeId element
        mapping.valueType = .ok decoded →
      Acknowledges station link address.linkAddress control
        (dataFrame answering typeId cause origin address element) →
      (((readPoint numbers observed timezoneOffsetMinutes station mapping).run link).result =
          .ok decoded ∧
        ((readPoint numbers observed timezoneOffsetMinutes station mapping).run link).log =
          [buildReadCommand (primaryControl link.frameCountBit primarySendConfirmedUserData)
            address,
          buildFixedFrame (primaryControl (!link.frameCountBit) primaryRequestClass2Data)
            address.linkAddress] ↔ Clear control address.linkAddress)) ∧
    ∀ controlType command select phase frame, cause &&& 0x3F = cotActivationConfirmation →
      cause &&& 0x40 = 0 →
      buildControlCommand (primaryControl link.frameCountBit primarySendConfirmedUserData)
        address controlType command select = .ok frame →
      Acknowledges station link address.linkAddress control
        (dataFrame answering (controlTypeId controlType) cause origin address element) →
      (((sendCommand station address controlType command select phase).run link).result =
          .ok () ∧
        ((sendCommand station address controlType command select phase).run link).log =
          [frame,buildFixedFrame (primaryControl (!link.frameCountBit) primaryRequestClass1Data)
            address.linkAddress] ↔ Clear control address.linkAddress) := by
  obtain ⟨hc,ho⟩ := parsePointAddress_bounds ha
  obtain ⟨why,hr⟩ := parseVariableFrame_fixed control address.linkAddress
  have hd : ∀ typeId, containsVariableFrame (dataFrame answering typeId cause origin address
      element) = true := fun typeId => by
    simp [containsVariableFrame,dataFrame,buildVariableFrame]
  refine ⟨fun typeId decoded hca hde hac => ?_,
    fun controlType command select phase frame hca hn hb hac => ?_⟩
  · have hx := exchange_acknowledged station hac (hd typeId)
      (show (readRequest address).build _ = _ from rfl)
    have hen : (ensureLinkInitialized station address.linkAddress).run link = ⟨link,[],.ok ()⟩ := by
      simp [ensureLinkInitialized,Bind.bind,Ran.next,reading,hac.ready]
    have hp := parseReadResponse_dataFrame numbers observed timezoneOffsetMinutes answering typeId
      cause origin hc ho hl hca mapping.valueType
    by_cases hcl : Clear control address.linkAddress
    · simp [hcl,readPoint,Bind.bind,Ran.next,withContext,ha,hen,hx,hp,hde,Except.mapError]
      rfl
    · simp [hcl,readPoint,Bind.bind,Ran.next,withContext,ha,hen,hx,
        parseReadResponse,hr,Except.mapError]
  · have hx := exchange_acknowledged station hac (hd _)
      (show (commandRequest address controlType command select phase).build _ = _ from hb)
    have hp := parseCommandConfirmation_dataFrame answering cause origin hc ho hl hca hn
      controlType phase
    by_cases hcl : Clear control address.linkAddress
    · simp [hcl,sendCommand,Bind.bind,Ran.next,hx,hp]
      rfl
    · simp [hcl,sendCommand,Bind.bind,Ran.next,hx,parseCommandConfirmation,hr]

def breaker (address : String) : TelemetryPointMapping where
  pointId := "breaker"
  deviceId := "feeder-1"
  semanticId := "breaker"
  protocolConnectionId := "serial-1"
  address := .object [("kind",.string "iec101_ioa"),("value",.string address)]
  valueType := .boolean
  access := .readOnly
  protocolOptions := .null
  range := none
  readTransforms := []

/-- A station that acknowledges its reset and every request, and has data for every poll. -/
def polledStation : Station := fun count _ =>
  .ok (if 0 < count ∧ count % 2 = 0 then dataFrame 8 1 5 0 address [1]
    else buildFixedFrame 0 address.linkAddress)

theorem polled_read_accepted :
    ((readPoint plainNumbers 0 0 (polledStation ⟨3,1,100⟩) (breaker "3:1:100")).run
      { initializedLink := some 3, frames := 1 }).result = .ok ⟨.boolean true,.good,none⟩ :=
  (((acknowledged_data_accepted_iff plainNumbers 0 0 (polledStation ⟨3,1,100⟩)
    (show parsePointAddress (breaker "3:1:100").address = .ok ⟨3,1,100⟩ by decide)
    { initializedLink := some 3, frames := 1 } 0 8 5 0
    (show ([1] : Bytes).length ≤ 244 by decide)).1 1 _
    (by decide) (by decide) ⟨rfl,fun _ => rfl,fun _ => rfl⟩).mpr (by decide)).1

/-- Link address 104 is the start byte of a variable frame: its acknowledgement is read as one. -/
theorem ack_taken_for_data :
    (readPoint plainNumbers 0 0 (polledStation ⟨0x68,1,100⟩) (breaker "104:1:100")).run
      { initializedLink := some 0x68, frames := 1 } =
      ⟨{ initializedLink := some 0x68, frameCountBit := true, frames := 2 },
        [buildReadCommand primarySendConfirmedUserData ⟨0x68,1,100⟩],
        .error "IEC 101 variable frame header is truncated"⟩ := by
  rfl

end VelaEdge.Serial.Iec101
