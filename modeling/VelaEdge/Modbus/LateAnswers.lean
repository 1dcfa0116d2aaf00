import VelaEdge.Modbus.BatchReads
import VelaEdge.Modbus.Writes
import VelaEdge.Serial.Bus

/-! Modbus RTU collections on one line. An answer carries nothing of the request it belongs to, and
the bus takes whatever arrives: what the device sends too late is read in a later transaction. -/
namespace VelaEdge.Modbus

open Base Serial List OrderedMap

def parseReadResponse (response : List UInt8) (expectedSlaveId expectedFunction : UInt8)
    (expectedQuantity : UInt16) : Except String (List UInt8) := do
  bailIf (response.length < 5) "Modbus RTU response is too short"
  verifyModbusRtuCrc response
  bailIf (response.getD 0 0 ≠ expectedSlaveId)
    "Modbus RTU response slave id does not match request"
  bailIf (response.getD 1 0 = expectedFunction ||| 0x80) (rtuException (response.getD 2 0))
  bailIf (response.getD 1 0 ≠ expectedFunction)
    "Modbus RTU response function does not match request"
  let byteCount := (response.getD 2 0).toNat
  bailIf (byteCount ≠ expectedBytes expectedFunction expectedQuantity.toNat)
    "Modbus RTU response byte count does not match request"
  bailIf (response.length ≠ byteCount + 5)
    "Modbus RTU response length does not match byte count"
  pure ((response.drop 3).take byteCount)

/-- One request: a window as the planner makes them, the device that answers it, and how many of
the bytes then outstanding arrive before the bus gives up. -/
structure Turn where
  window : ModbusReadWindow
  fits : Fits window
  readable : ∀ point ∈ window.points, point.Readable
  device : ModbusTcpSimulatorOptions
  now : Nat
  count : Nat

structure Sample where
  turn : Turn
  point : ModbusReadPoint
  bytes : List UInt8

variable (sine : DynamicFloatPoint → Nat → UInt32)

/-- The bytes are those of the point's own registers when the device answered. -/
def Sample.Own (sample : Sample) : Prop :=
  sample.bytes = payloadBytes sine sample.turn.device sample.turn.now sample.point.function
    sample.point.offset sample.point.quantity.toNat

variable (turn : Turn)

namespace Turn

def answer : List UInt8 :=
  rtuFrame turn.window.stationId
    (answerPdu sine turn.device turn.now turn.window.address turn.window.quantity)

variable (line : List UInt8)

/-- The line holds what earlier answers have left; the answer to this request comes after it. -/
def arrived : List UInt8 :=
  (line ++ turn.answer sine).take turn.count

def left : List UInt8 :=
  (line ++ turn.answer sine).drop turn.count

def read : Except String (List Sample) := do
  let response ← TokioSerialBus.opened.received (turn.arrived sine line)
  let payload ← parseReadResponse response turn.window.stationId turn.window.function
    turn.window.quantity
  turn.window.points.mapM fun point => do
    let bytes ← extractPointPayload turn.window point payload
    pure ⟨turn, point, bytes⟩

end Turn

/-- One collection: the first request that fails ends it without samples. -/
def collect (line : List UInt8) : List Turn → List UInt8 × Except String (List Sample)
  | [] => (line, .ok [])
  | turn :: turns =>
    match turn.read sine line with
    | .error reason => (turn.left sine line, .error reason)
    | .ok samples =>
      let rest := collect (turn.left sine line) turns
      (rest.1, rest.2.map (samples ++ ·))

/-- Collections one after the other; the port is opened for each, and some of what is outstanding
may be lost before. -/
def run (line : List UInt8) : List (Nat × List Turn) → List Sample
  | [] => []
  | (lost, turns) :: later =>
    let outcome := collect sine (line.drop lost) turns
    outcome.2.toOption.getD [] ++ run outcome.1 later

/-- Every request goes out while no earlier answer is outstanding. -/
def Punctual (line : List UInt8) : List Turn → Prop
  | [] => True
  | turn :: turns => line = [] ∧
    ((turn.read sine line).toOption ≠ none → Punctual (turn.left sine line) turns)

def PunctualRun (line : List UInt8) : List (Nat × List Turn) → Prop
  | [] => True
  | (lost, turns) :: later => Punctual sine (line.drop lost) turns ∧
    PunctualRun (collect sine (line.drop lost) turns).1 later

private theorem parseReadResponse_inversion
    (h : parseReadResponse response slaveId function quantity = .ok body) :
    response.length = expectedBytes function quantity.toNat + 5 ∧
      response.getD 1 0 ≠ function ||| 0x80 ∧
      body = (response.drop 3).take (expectedBytes function quantity.toNat) := by
  unfold parseReadResponse at h
  simp only [bind_eq_ok,bailIf_eq_ok,not_not,exists_const] at h
  obtain ⟨-,_,-,-,he,-,hc,hl,hb⟩ := h
  rw [hc] at hl hb
  exact ⟨hl,he,(Except.ok.inj hb).symm⟩

theorem Turn.parse_own (hr : isReadFunction turn.window.function = true)
    (h : parseReadResponse ((turn.answer sine).take n) turn.window.stationId turn.window.function
      turn.window.quantity = .ok body) :
    body = payloadBytes sine turn.device turn.now turn.window.function turn.window.offset
      turn.window.quantity.toNat := by
  obtain ⟨hl,he,rfl⟩ := parseReadResponse_inversion h
  have hp := length_payloadBytes sine turn.device turn.now turn.window.function
    turn.window.offset turn.window.quantity.toNat
  have ha := answerPdu_eq sine turn.device turn.now turn.window.address turn.window.quantity hr
  rw [length_take] at hl
  unfold Turn.answer at hl he ⊢
  by_cases hre : refuses turn.device turn.window.address turn.window.quantity = true
  · -- a refusal is as short as a response can be, so that it is read whole
    rw [if_pos hre] at ha
    rw [ha,length_rtuFrame] at hl
    rw [ha,take_of_length_le] at he
    · exact absurd rfl he
    · rw [length_rtuFrame]
      simp only [simulatorException,length_cons,length_nil] at hl ⊢
      omega
  · rw [if_neg hre] at ha
    change answerPdu sine turn.device turn.now turn.window.address turn.window.quantity =
      turn.window.function :: UInt8.ofNat (expectedBytes turn.window.function
        turn.window.quantity.toNat) :: payloadBytes sine turn.device turn.now
        turn.window.function turn.window.offset turn.window.quantity.toNat at ha
    rw [ha,length_rtuFrame,length_cons,length_cons,hp] at hl
    rw [ha,take_of_length_le (l := rtuFrame _ _)]
    · simp [rtuFrame,appendModbusRtuCrc,← hp]
    · rw [length_rtuFrame,length_cons,length_cons,hp]
      omega

theorem Turn.reads : isReadFunction turn.window.function = true := by
  obtain ⟨first,rest,hf⟩ := exists_cons_of_ne_nil turn.fits.nonempty
  have hm : first ∈ turn.window.points := hf ▸ mem_cons_self
  rw [← show first.function = turn.window.function from
    congrArg ReadKey.function (turn.fits.members first hm).1]
  exact (turn.readable first hm).1

theorem Turn.read_own (h : turn.read sine [] = .ok samples) :
    ∀ sample ∈ samples, sample.Own sine := by
  unfold Turn.read at h
  obtain ⟨response,ho,h⟩ := bind_eq_ok.mp h
  obtain ⟨body,hb,hm⟩ := bind_eq_ok.mp h
  obtain rfl : turn.arrived sine [] = response := by
    unfold TokioSerialBus.received TokioSerialBus.idle at ho
    split at ho
    · split at ho
      · cases ho
      · exact Except.ok.inj ho
    · cases ho
  obtain rfl := turn.parse_own sine turn.reads hb
  have hx := fun point hp =>
    extract_payload sine turn.device turn.now turn.fits hp (turn.readable point hp)
  rw [mapM_eq_map fun point hp => by rw [hx point hp,ok_bind]; rfl] at hm
  cases hm
  intro sample hs
  obtain ⟨point,-,rfl⟩ := mem_map.mp hs
  rfl

private theorem collect_own (turns : List Turn) (line : List UInt8) (h : Punctual sine line turns)
    (hs : (collect sine line turns).2 = .ok samples) : ∀ sample ∈ samples, sample.Own sine := by
  induction turns generalizing line samples with
  | nil =>
    cases hs
    simp
  | cons turn turns ih =>
    obtain ⟨rfl,hrest⟩ := h
    unfold collect at hs
    split at hs
    · cases hs
    · next first hf =>
      have hnext := hrest (by simp [hf,Except.toOption])
      cases hc : (collect sine (turn.left sine []) turns).2 with
      | error why =>
        simp only [hc] at hs
        cases hs
      | ok others =>
        simp only [hc] at hs
        cases hs
        intro sample hm
        rcases mem_append.mp hm with hm | hm
        · exact turn.read_own sine hf sample hm
        · exact ih _ hnext hc sample hm

/-- In every run in which each request goes out while no earlier answer is outstanding, every
sample carries the bytes of its own point's registers, whatever the device holds and however late
it answers. -/
theorem samples_are_own (collections : List (Nat × List Turn)) (line : List UInt8)
    (h : PunctualRun sine line collections) :
    ∀ sample ∈ run sine line collections, sample.Own sine := by
  induction collections generalizing line with
  | nil => simp [run]
  | cons collection later ih =>
    obtain ⟨lost,turns⟩ := collection
    intro sample hs
    rcases mem_append.mp hs with hs | hs
    · cases hc : (collect sine (line.drop lost) turns).2 with
      | error why => simp [hc,Except.toOption] at hs
      | ok samples =>
        exact collect_own sine turns _ h.1 hc sample (by simpa [hc,Except.toOption] using hs)
    · exact ih _ h.2 sample hs

/-! Two registers of one device; the answer to the first request comes too late. -/

def twoRegisters : ModbusTcpSimulatorOptions where
  unitId := 1
  holdingRegisters := (empty.put 10 0x1234).put 20 0x5678
  inputRegisters := empty
  coils := empty
  discreteInputs := empty
  dynamicHoldingFloats := empty
  togglingCoils := empty

def ask (offset : UInt16) (h : offset < 100) (count : Nat) : Turn where
  window := ModbusReadPoint.window ⟨0, 1, 3, offset, 1, false⟩
  fits := window_fits (by
    change offset.toNat + 1 ≤ 65536
    have := UInt16.lt_iff_toNat_lt.mp h
    have : (100 : UInt16).toNat = 100 := rfl
    omega)
  readable := by simp [ModbusReadPoint.window, ModbusReadPoint.Readable]; decide
  device := twoRegisters
  now := 0
  count := count

def inTurn : List (Nat × List Turn) := [(0, [ask 10 (by decide) 7]), (0, [ask 20 (by decide) 7])]

theorem registers_read_in_turn : (run (fun _ _ => 0) [] inTurn).length = 2 ∧
    ∀ sample ∈ run (fun _ _ => 0) [] inTurn, sample.Own (fun _ _ => 0) :=
  ⟨by decide +kernel,samples_are_own _ inTurn [] ⟨⟨rfl,fun _ => trivial⟩,
    ⟨by decide +kernel,fun _ => trivial⟩,trivial⟩⟩

theorem late_answer_attributed :
    (run (fun _ _ => 0) [] [(0,[ask 10 (by decide) 0]),(0,[ask 20 (by decide) 7])]).map
      (fun sample => (sample.point.offset,sample.bytes)) = [(20,[0x12,0x34])] ∧
    payloadBytes (fun _ _ => 0) twoRegisters 0 3 20 1 = [0x56,0x78] := by decide +kernel

end VelaEdge.Modbus
