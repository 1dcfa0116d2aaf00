import VelaEdge.Base.BitPacking
import VelaEdge.Base.OrderedMap
import VelaEdge.Base.Outcome
import VelaEdge.Base.Text

/-! Modbus TCP: the frames of a read, the built-in simulator that answers them, and the client's
view of the answer. -/
namespace VelaEdge.Modbus

open Base List

def readCoils : UInt8 := 0x01
def readDiscreteInputs : UInt8 := 0x02
def readHoldingRegisters : UInt8 := 0x03
def readInputRegisters : UInt8 := 0x04
def writeSingleCoil : UInt8 := 0x05
def writeSingleRegister : UInt8 := 0x06
def writeMultipleCoils : UInt8 := 0x0F
def writeMultipleRegisters : UInt8 := 0x10
def maxPduBytes : Nat := 253

def isBitFunction (function : UInt8) : Bool := function = readCoils ∨ function = readDiscreteInputs

def isReadFunction (function : UInt8) : Bool :=
  function = readCoils ∨ function = readDiscreteInputs ∨ function = readHoldingRegisters ∨
    function = readInputRegisters

def readLimit (function : UInt8) : Nat := if isBitFunction function then 2000 else 125

structure ModbusAddress where
  unitId : UInt8
  function : UInt8
  offset : UInt16
deriving DecidableEq

/-- The read function of an address kind, and the first reference number of its area. -/
def readArea (kind : String) : Except String (UInt8 × Nat) :=
  if kind = "holding_register" then .ok (readHoldingRegisters,40001)
  else if kind = "input_register" then .ok (readInputRegisters,30001)
  else if kind = "coil" then .ok (readCoils,1)
  else if kind = "discrete_input" then .ok (readDiscreteInputs,10001)
  else .error s!"Modbus TCP address kind is not supported: {kind}"

/-- The unit id before a colon, if there is one, and the address after it. -/
def splitUnit (value : String) (defaultUnitId : UInt8) : Except String (UInt8 × String) :=
  let unit := value.toList.takeWhile (· ≠ ':')
  if unit.length < value.toList.length then do
    let number ← context (Text.parseBelow 256 (String.ofList unit))
      s!"invalid Modbus unit id: {String.ofList unit}"
    pure (UInt8.ofNat number,String.ofList (value.toList.drop (unit.length + 1)))
  else pure (defaultUnitId,value)

def parseAddress (kind value : String) (defaultUnitId : UInt8) : Except String ModbusAddress := do
  let (function,referenceBase) ← readArea kind
  let (unitId,rawAddress) ← splitUnit value defaultUnitId
  let reference ← context (Text.parseBelow 4294967296 rawAddress)
    s!"invalid Modbus address: {rawAddress}"
  let offset :=
    if referenceBase ≤ reference then reference - referenceBase
    else if isBitFunction function ∧ 0 < reference then reference - 1
    else reference
  bailIf (65535 < offset) "Modbus address exceeds u16 range"
  pure ⟨unitId,function,UInt16.ofNat offset⟩

private theorem readArea_read (h : readArea kind = .ok (function,base)) :
    isReadFunction function = true := by
  unfold readArea at h
  split_ifs at h
  all_goals
    cases h
    decide

theorem parseAddress_read {addr : ModbusAddress}
    (h : parseAddress kind value defaultUnitId = .ok addr) :
    isReadFunction addr.function = true := by
  unfold parseAddress at h
  obtain ⟨⟨function,base⟩,ha,h⟩ := bind_eq_ok.mp h
  dsimp only at h
  obtain ⟨⟨unitId,rawAddress⟩,-,h⟩ := bind_eq_ok.mp h
  obtain ⟨reference,-,h⟩ := bind_eq_ok.mp h
  obtain ⟨_,-,h⟩ := bind_eq_ok.mp h
  cases h
  exact readArea_read ha

def toBeBytes (value : UInt16) : List UInt8 :=
  [UInt8.ofNat (value.toNat / 256),UInt8.ofNat value.toNat]

def fromBeBytes (high low : UInt8) : UInt16 := UInt16.ofNat (high.toNat * 256 + low.toNat)

@[simp] theorem fromBeBytes_toBeBytes (value : UInt16) :
    fromBeBytes (UInt8.ofNat (value.toNat / 256)) (UInt8.ofNat value.toNat) = value := by
  unfold fromBeBytes
  apply UInt16.toNat_inj.mp
  have hr := value.toNat_lt
  simp
  omega

@[simp] theorem toBeBytes_fromBeBytes (high low : UInt8) :
    toBeBytes (fromBeBytes high low) = [high,low] := by
  have hh := high.toNat_lt
  have hl := low.toNat_lt
  have hw : (fromBeBytes high low).toNat = high.toNat * 256 + low.toNat := by
    rw [fromBeBytes,UInt16.toNat_ofNat']
    omega
  unfold toBeBytes
  rw [hw]
  congr 1
  · apply UInt8.toNat_inj.mp
    rw [UInt8.toNat_ofNat']
    omega
  · congr 1
    apply UInt8.toNat_inj.mp
    rw [UInt8.toNat_ofNat']
    omega

theorem toBeBytes_injective : Function.Injective toBeBytes := by
  intro a b h
  unfold toBeBytes at h
  obtain ⟨hh,hr⟩ := cons.inj h
  rw [← fromBeBytes_toBeBytes a,← fromBeBytes_toBeBytes b,hh,(cons.inj hr).1]

theorem eq_fromBeBytes_iff (a b : UInt8) (crc : UInt16) :
    crc = fromBeBytes a b ↔ toBeBytes crc = [a,b] := by
  rw [← toBeBytes_fromBeBytes a b]
  exact toBeBytes_injective.eq_iff.symm

def saturatingAdd (offset : UInt16) (index : Nat) : UInt16 :=
  UInt16.ofNat (min (offset.toNat + index) 65535)

/-! The simulated device. -/

/-- A register pair that follows a sine wave; the numbers are binary32 bit patterns. -/
structure DynamicFloatPoint where
  base : UInt32
  amplitude : UInt32
  periodNanos : Nat

structure ModbusTcpSimulatorOptions where
  unitId : UInt8
  holdingRegisters : OrderedMap Nat UInt16
  inputRegisters : OrderedMap Nat UInt16
  coils : OrderedMap Nat Bool
  discreteInputs : OrderedMap Nat Bool
  dynamicHoldingFloats : OrderedMap Nat DynamicFloatPoint
  togglingCoils : OrderedMap Nat Nat

section Simulator

-- `sine` is the value of a dynamic point at a time, as a binary32 bit pattern
variable (sine : DynamicFloatPoint → Nat → UInt32) (options : ModbusTcpSimulatorOptions)

def dynamicFloatRegister (register : UInt16) (now : Nat) : Option UInt16 :=
  match options.dynamicHoldingFloats.get register.toNat with
  | some point => some (UInt16.ofNat ((sine point now).toNat / 65536))
  | none =>
    if register.toNat = 0 then none
    else (options.dynamicHoldingFloats.get (register.toNat - 1)).map fun point =>
      UInt16.ofNat (sine point now).toNat

variable (now : Nat) (function : UInt8)

def registerValue (register : UInt16) : UInt16 :=
  if function = readHoldingRegisters then
    ((dynamicFloatRegister sine options register now).or
      (options.holdingRegisters.get register.toNat)).getD 0
  else (options.inputRegisters.get register.toNat).getD 0

def coilValue (coil : UInt16) : Bool :=
  if function = readCoils then
    match options.togglingCoils.get coil.toNat with
    | some periodNanos => now / 1000000 / max (periodNanos / 1000000) 1 % 2 = 0
    | none => (options.coils.get coil.toNat).getD false
  else (options.discreteInputs.get coil.toNat).getD false

def simulatorException (function code : UInt8) : List UInt8 := [function ||| 0x80,code]

def registerBytes (offset : UInt16) (quantity : Nat) : List UInt8 :=
  (range quantity).flatMap fun index =>
    toBeBytes (registerValue sine options now function (saturatingAdd offset index))

def coilBytes (offset : UInt16) (quantity : Nat) : List UInt8 :=
  BitPacking.pack quantity fun index =>
    coilValue options now function (saturatingAdd offset index)

/-- The loop of a multiple write; it gives up at the end of the address space. -/
def writeCoils (bytes : List UInt8) (offset : UInt16) :
    List Nat → ModbusTcpSimulatorOptions → ModbusTcpSimulatorOptions × Bool
  | [], options => (options,true)
  | index :: indices, options =>
    if 65535 < offset.toNat + index then (options,false)
    else writeCoils bytes offset indices { options with
      coils := options.coils.put (offset.toNat + index) (BitPacking.bitAt bytes index) }

def writeRegisters (bytes : List UInt8) (offset : UInt16) :
    List Nat → ModbusTcpSimulatorOptions → ModbusTcpSimulatorOptions × Bool
  | [], options => (options,true)
  | index :: indices, options =>
    if 65535 < offset.toNat + index then (options,false)
    else writeRegisters bytes offset indices { options with
      holdingRegisters := options.holdingRegisters.put (offset.toNat + index)
        (fromBeBytes (bytes.getD (2 * index) 0) (bytes.getD (2 * index + 1) 0)) }

def simulatorResponsePdu : List UInt8 → ModbusTcpSimulatorOptions × List UInt8
  | function :: o1 :: o2 :: q1 :: q2 :: rest =>
    let offset := fromBeBytes o1 o2
    let quantity := (fromBeBytes q1 q2).toNat
    if function = readHoldingRegisters ∨ function = readInputRegisters then
      if rest ≠ [] ∨ quantity = 0 ∨ 125 < quantity then
        (options,simulatorException function 0x03)
      else (options,function :: UInt8.ofNat (quantity * 2) ::
        registerBytes sine options now function offset quantity)
    else if function = readCoils ∨ function = readDiscreteInputs then
      if rest ≠ [] ∨ quantity = 0 ∨ 2000 < quantity then
        (options,simulatorException function 0x03)
      else (options,function :: UInt8.ofNat (BitPacking.byteCount quantity) ::
        coilBytes options now function offset quantity)
    else if function = writeSingleCoil then
      if rest ≠ [] ∨ (quantity ≠ 0x0000 ∧ quantity ≠ 0xFF00) then
        (options,simulatorException function 0x03)
      else ({ options with coils := options.coils.put offset.toNat (quantity = 0xFF00) },
        [function,o1,o2,q1,q2])
    else if function = writeSingleRegister then
      if rest ≠ [] then (options,simulatorException function 0x03)
      else ({ options with
          holdingRegisters := options.holdingRegisters.put offset.toNat (fromBeBytes q1 q2) },
        [function,o1,o2,q1,q2])
    else if function = writeMultipleCoils then
      match rest with
      | [] => (options,simulatorException function 0x03)
      | count :: bytes =>
        if quantity = 0 ∨ 1968 < quantity ∨ count.toNat ≠ BitPacking.byteCount quantity ∨
            bytes.length ≠ count.toNat then (options,simulatorException function 0x03)
        else
          match writeCoils bytes offset (range quantity) options with
          | (options,false) => (options,simulatorException function 0x02)
          | (options,true) => (options,[function,o1,o2,q1,q2])
    else if function = writeMultipleRegisters then
      match rest with
      | [] => (options,simulatorException function 0x03)
      | count :: bytes =>
        if quantity = 0 ∨ 123 < quantity ∨ count.toNat ≠ quantity * 2 ∨
            bytes.length ≠ count.toNat then (options,simulatorException function 0x03)
        else
          match writeRegisters bytes offset (range quantity) options with
          | (options,false) => (options,simulatorException function 0x02)
          | (options,true) => (options,[function,o1,o2,q1,q2])
    else (options,simulatorException function 0x01)
  | function :: _ => (options,simulatorException function 0x03)
  | [] => (options,[])

def serveRequest (frame : List UInt8) : ModbusTcpSimulatorOptions × Except String (List UInt8) :=
  match frame with
  | t1 :: t2 :: p1 :: p2 :: l1 :: l2 :: unit :: body =>
    let length := (fromBeBytes l1 l2).toNat
    if length < 2 ∨ maxPduBytes + 1 < length then
      (options,.error s!"invalid Modbus TCP request length {length}")
    else if body.length < length - 1 then (options,.error "unexpected end of file")
    else
      let request := body.take (length - 1)
      let (options,pdu) := if fromBeBytes p1 p2 ≠ 0 ∨ unit ≠ options.unitId then
          (options,simulatorException (request.headD 0) 0x03)
        else simulatorResponsePdu sine options now request
      (options,.ok (t1 :: t2 :: 0 :: 0 :: (toBeBytes (UInt16.ofNat (pdu.length + 1)) ++
        unit :: pdu)))
  | _ => (options,.error "unexpected end of file")

end Simulator

/-! The client. -/

def buildRequest (transactionId : UInt16) (address : ModbusAddress) (quantity : UInt16) :
    List UInt8 :=
  toBeBytes transactionId ++ toBeBytes 0 ++ toBeBytes 6 ++ [address.unitId,address.function] ++
    toBeBytes address.offset ++ toBeBytes quantity

def expectedBytes (function : UInt8) (quantity : Nat) : Nat :=
  if isBitFunction function then BitPacking.byteCount quantity else quantity * 2

def parseResponsePdu (pdu : List UInt8) (function : UInt8) (quantity : UInt16) :
    Except String (List UInt8) :=
  match pdu with
  | answered :: count :: payload => do
      bailIf (answered = function ||| 0x80) s!"Modbus TCP exception code {count.toNat}"
      bailIf (answered ≠ function) "Modbus TCP response function does not match request"
      bailIf (count.toNat ≠ expectedBytes function quantity.toNat ∨ payload.length ≠ count.toNat)
        "Modbus TCP response byte count does not match request"
      pure payload
  | _ => .error "Modbus TCP response PDU is too short"

/-- One read: the request goes out, and `exchange` is what comes back on the connection. -/
def transact (transactionId : UInt16) (address : ModbusAddress) (quantity : UInt16)
    (exchange : List UInt8 → Except String (List UInt8)) : Except String (List UInt8) := do
  match ← exchange (buildRequest transactionId address quantity) with
  | t1 :: t2 :: p1 :: p2 :: l1 :: l2 :: unit :: body => do
      bailIf (fromBeBytes t1 t2 ≠ transactionId)
        "Modbus TCP response transaction id does not match request"
      bailIf (p1 ≠ 0 ∨ p2 ≠ 0) "Modbus TCP response protocol id must be zero"
      bailIf (unit ≠ address.unitId) "Modbus TCP response unit id does not match request"
      bailIf ((fromBeBytes l1 l2).toNat < 2 ∨ maxPduBytes + 1 < (fromBeBytes l1 l2).toNat)
        s!"Modbus TCP response has invalid MBAP length {(fromBeBytes l1 l2).toNat}"
      bailIf (body.length < (fromBeBytes l1 l2).toNat - 1) "Modbus TCP response body timeout"
      parseResponsePdu (body.take ((fromBeBytes l1 l2).toNat - 1)) address.function quantity
  | _ => throw "Modbus TCP response header timeout"

/-! What a read of the simulator returns. -/

section Reads

variable (sine : DynamicFloatPoint → Nat → UInt32) (options : ModbusTcpSimulatorOptions) (now : Nat)

def readDevice (transactionId : UInt16) (address : ModbusAddress) (quantity : UInt16) :
    Except String (List UInt8) :=
  transact transactionId address quantity fun frame => (serveRequest sine options now frame).2

def answerPdu (address : ModbusAddress) (quantity : UInt16) : List UInt8 :=
  if address.unitId ≠ options.unitId then simulatorException address.function 0x03
  else (simulatorResponsePdu sine options now
    (address.function :: (toBeBytes address.offset ++ toBeBytes quantity))).2

variable (tid : UInt16) (addr : ModbusAddress) (quantity : UInt16)

theorem serveRequest_buildRequest :
    (serveRequest sine options now (buildRequest tid addr quantity)).2 =
      .ok (toBeBytes tid ++ 0 :: 0 ::
        (toBeBytes (UInt16.ofNat ((answerPdu sine options now addr quantity).length + 1)) ++
          addr.unitId :: answerPdu sine options now addr quantity)) := by
  have hz : fromBeBytes 0 0 = 0 := by decide
  have hs : (fromBeBytes 0 6).toNat = 6 := by decide
  by_cases hu : addr.unitId = options.unitId
  · simp [serveRequest,buildRequest,toBeBytes,hz,hs,maxPduBytes,answerPdu,hu]
  · simp [serveRequest,buildRequest,toBeBytes,hz,hs,maxPduBytes,answerPdu,hu]

theorem transact_framed (pdu : List UInt8) (hp : 1 ≤ pdu.length ∧ pdu.length ≤ maxPduBytes)
    (exchange : List UInt8 → Except String (List UInt8))
    (h : exchange (buildRequest tid addr quantity) = .ok (toBeBytes tid ++ 0 :: 0 ::
        (toBeBytes (UInt16.ofNat (pdu.length + 1)) ++ addr.unitId :: pdu))) :
    transact tid addr quantity exchange = parseResponsePdu pdu addr.function quantity := by
  have hl : (UInt16.ofNat (pdu.length + 1)).toNat = pdu.length + 1 := by
    unfold maxPduBytes at hp
    simp
    omega
  unfold transact
  rw [h,ok_bind]
  simp only [toBeBytes,cons_append,nil_append,fromBeBytes_toBeBytes]
  simp only [hl]
  simp [bailIf,Nat.not_lt.mpr hp.2,show ¬ pdu.length + 1 < 2 by omega]

def payloadBytes (function : UInt8) (offset : UInt16) (quantity : Nat) : List UInt8 :=
  if isBitFunction function then coilBytes options now function offset quantity
  else registerBytes sine options now function offset quantity

theorem length_payloadBytes (function : UInt8) (offset : UInt16) (quantity : Nat) :
    (payloadBytes sine options now function offset quantity).length =
      expectedBytes function quantity := by
  unfold payloadBytes expectedBytes
  split
  · exact BitPacking.length_pack _ _
  · simp [registerBytes,toBeBytes,length_flatMap]

def refuses (address : ModbusAddress) (quantity : UInt16) : Bool :=
  address.unitId ≠ options.unitId ∨ quantity.toNat = 0 ∨ readLimit address.function < quantity.toNat

theorem answerPdu_eq (hr : isReadFunction addr.function = true) :
    answerPdu sine options now addr quantity =
      if refuses options addr quantity then simulatorException addr.function 0x03
      else addr.function :: UInt8.ofNat (expectedBytes addr.function quantity.toNat) ::
        payloadBytes sine options now addr.function addr.offset quantity.toNat := by
  obtain ⟨unit,function,offset⟩ := addr
  unfold answerPdu refuses
  simp only [decide_eq_true_eq]
  by_cases hu : unit = options.unitId
  · simp only [isReadFunction,decide_eq_true_eq] at hr
    simp only [hu,ne_eq,not_true_eq_false,if_false,false_or,toBeBytes,cons_append,
      nil_append,simulatorResponsePdu,fromBeBytes_toBeBytes]
    rcases hr with rfl | rfl | rfl | rfl
    · rw [if_neg (by decide),if_pos (by decide)]
      exact apply_ite Prod.snd _ _ _
    · rw [if_neg (by decide),if_pos (by decide)]
      exact apply_ite Prod.snd _ _ _
    · rw [if_pos (by decide)]
      exact apply_ite Prod.snd _ _ _
    · rw [if_pos (by decide)]
      exact apply_ite Prod.snd _ _ _
  · rw [if_pos hu,if_pos (Or.inl hu)]

theorem readDevice_eq (hre : isReadFunction addr.function = true) :
    readDevice sine options now tid addr quantity =
      if refuses options addr quantity then .error "Modbus TCP exception code 3"
      else .ok (payloadBytes sine options now addr.function addr.offset quantity.toNat) := by
  have ha := answerPdu_eq sine options now addr quantity hre
  have hl := length_payloadBytes sine options now addr.function addr.offset
    quantity.toNat
  have hp : addr.function ≠ addr.function ||| 0x80 := by
    simp only [isReadFunction,decide_eq_true_eq] at hre
    rcases hre with h | h | h | h
    all_goals
      rw [h]
      decide
  by_cases hr : refuses options addr quantity = true
  · rw [if_pos hr] at ha ⊢
    unfold readDevice
    rw [transact_framed tid addr quantity _ ?_ _
      (serveRequest_buildRequest sine options now tid addr quantity),ha]
    · simp only [parseResponsePdu,simulatorException,bailIf,if_true,error_bind]
      rfl
    · rw [ha]
      simp [simulatorException,maxPduBytes]
  · rw [if_neg hr] at ha ⊢
    have hb : expectedBytes addr.function quantity.toNat ≤ 250 := by
      unfold refuses readLimit at hr
      unfold expectedBytes BitPacking.byteCount
      split at hr <;> simp_all <;> omega
    have hc : (UInt8.ofNat (expectedBytes addr.function quantity.toNat)).toNat =
        expectedBytes addr.function quantity.toNat := by
      simp
      omega
    unfold readDevice
    rw [transact_framed tid addr quantity _ ?_ _
      (serveRequest_buildRequest sine options now tid addr quantity),ha]
    · simp only [parseResponsePdu,hc,hl]
      simp [bailIf,hp]
    · rw [ha,length_cons,length_cons,hl]
      unfold maxPduBytes
      omega

end Reads

end VelaEdge.Modbus
