import VelaEdge.Serial.Checksum

/-! Write commands, and how the answer to one is read from a TCP response and from a serial
frame. -/
namespace VelaEdge.Modbus

open Base List

def isSingleWrite (function : UInt8) : Bool :=
  function = writeSingleCoil ∨ function = writeSingleRegister

def isMultipleWrite (function : UInt8) : Bool :=
  function = writeMultipleCoils ∨ function = writeMultipleRegisters

/-- A command has a write function, and a single write has its value. -/
structure ModbusWriteCommand where
  function : UInt8
  values : List UInt16
  valid : isSingleWrite function = true ∧ values ≠ [] ∨ isMultipleWrite function = true

def ModbusWriteCommand.echo (command : ModbusWriteCommand) : UInt16 :=
  if isSingleWrite command.function then command.values.headD 0
  else UInt16.ofNat command.values.length

def tcpException (code : UInt8) : String := "Modbus TCP exception code " ++ toString code.toNat

def rtuException (code : UInt8) : String := "Modbus RTU exception code " ++ toString code.toNat

def parseWriteResponsePdu (pdu : List UInt8) (expectedOffset : UInt16)
    (command : ModbusWriteCommand) : Except String Unit := do
  bailIf (pdu.length < 2) "Modbus TCP write response PDU is too short"
  bailIf (pdu.getD 0 0 = command.function ||| 0x80) (tcpException (pdu.getD 1 0))
  bailIf (pdu.length ≠ 5 ∨ pdu.getD 0 0 ≠ command.function)
    "Modbus TCP write response does not match request"
  bailIf (fromBeBytes (pdu.getD 1 0) (pdu.getD 2 0) ≠ expectedOffset)
    "Modbus TCP write response address does not match request"
  bailIf (fromBeBytes (pdu.getD 3 0) (pdu.getD 4 0) ≠ command.echo)
    "Modbus TCP write response value or quantity does not match request"

/-! The serial line. -/

def modbusRtuCrc (bytes : List UInt8) : UInt16 := bytes.foldl Serial.modbusCrcByte 0xFFFF

def appendModbusRtuCrc (frame : List UInt8) : List UInt8 :=
  frame ++ (toBeBytes (modbusRtuCrc frame)).reverse

def verifyModbusRtuCrc (frame : List UInt8) : Except String Unit := do
  bailIf (frame.length < 3) "Modbus RTU frame is too short for CRC"
  let payloadLen := frame.length - 2
  bailIf (fromBeBytes (frame.getD (payloadLen + 1) 0) (frame.getD payloadLen 0) ≠
    modbusRtuCrc (frame.take payloadLen)) "Modbus RTU CRC mismatch"

def parseWriteResponse (response : List UInt8) (expectedSlaveId : UInt8) (expectedOffset : UInt16)
    (command : ModbusWriteCommand) : Except String Unit := do
  bailIf (response.length ≠ 8) "Modbus RTU write response must contain 8 bytes"
  verifyModbusRtuCrc response
  bailIf (response.getD 0 0 ≠ expectedSlaveId)
    "Modbus RTU write response slave id does not match request"
  bailIf (response.getD 1 0 = command.function ||| 0x80) (rtuException (response.getD 2 0))
  bailIf (response.getD 1 0 ≠ command.function)
    "Modbus RTU write response function does not match request"
  bailIf (fromBeBytes (response.getD 2 0) (response.getD 3 0) ≠ expectedOffset)
    "Modbus RTU write response address does not match request"
  bailIf (fromBeBytes (response.getD 4 0) (response.getD 5 0) ≠ command.echo)
    "Modbus RTU write response value or quantity does not match request"

theorem verifyModbusRtuCrc_append {frame : List UInt8} (h : frame ≠ []) :
    verifyModbusRtuCrc (appendModbusRtuCrc frame) = .ok () := by
  have hl : (appendModbusRtuCrc frame).length = frame.length + 2 := by
    rw [appendModbusRtuCrc,length_append]
    rfl
  have hp := length_pos_iff.mpr h
  unfold verifyModbusRtuCrc bailIf
  rw [hl,if_neg (by omega)]
  unfold appendModbusRtuCrc toBeBytes
  simpa using fromBeBytes_toBeBytes (modbusRtuCrc frame)

def rtuFrame (slaveId : UInt8) (pdu : List UInt8) : List UInt8 :=
  appendModbusRtuCrc (slaveId :: pdu)

@[simp] theorem length_rtuFrame (slaveId : UInt8) (pdu : List UInt8) :
    (rtuFrame slaveId pdu).length = pdu.length + 3 := by
  rw [rtuFrame,appendModbusRtuCrc,length_append]
  rfl

/-! The two readings compared. -/

def checkEcho (command : ModbusWriteCommand) (offset : UInt16) (f a b c d : UInt8)
    (function address value : String) : Except String Unit := do
  bailIf (f ≠ command.function) function
  bailIf (fromBeBytes a b ≠ offset) address
  bailIf (fromBeBytes c d ≠ command.echo) value

variable {cmd : ModbusWriteCommand}

@[simp] theorem checkEcho_eq_ok {addr : String} :
    checkEcho cmd offset f a b c d function addr value = .ok () ↔
      f = cmd.function ∧ fromBeBytes a b = offset ∧ fromBeBytes c d = cmd.echo := by
  simp [checkEcho,bind_eq_ok]

theorem checkEcho_error {addr msg : String}
    (h : checkEcho cmd offset f a b c d function addr value = .error msg) :
    msg = function ∨ msg = addr ∨ msg = value := by
  unfold checkEcho bailIf at h
  split at h
  · exact Or.inl (Except.error.inj h).symm
  · rw [ok_bind] at h
    split at h
    · exact Or.inr (Or.inl (Except.error.inj h).symm)
    · rw [ok_bind] at h
      split at h
      · exact Or.inr (Or.inr (Except.error.inj h).symm)
      · cases h

theorem ne_append_of_otherStart {text msg : String} (h : ¬ text.toList <+: msg.toList)
    (rest : String) : msg ≠ text ++ rest := by
  intro hs
  rw [hs,String.toList_append] at h
  exact h (prefix_append _ _)

theorem exception_eq_iff (code other : UInt8) :
    tcpException code = tcpException other ↔ rtuException code = rtuException other := by
  unfold tcpException rtuException
  rw [← String.toList_inj,← String.toList_inj,String.toList_append,String.toList_append,
    String.toList_append,String.toList_append,append_cancel_left_eq,
    append_cancel_left_eq]

section Answers

variable (slaveId : UInt8) (offset : UInt16) (command : ModbusWriteCommand) (f a b c d : UInt8)

theorem parseWriteResponsePdu_five : parseWriteResponsePdu [f,a,b,c,d] offset command = (do
      bailIf (f = command.function ||| 0x80) (tcpException a)
      checkEcho command offset f a b c d "Modbus TCP write response does not match request"
        "Modbus TCP write response address does not match request"
        "Modbus TCP write response value or quantity does not match request") := by
  have hl : ([f,a,b,c,d].length ≠ 5 ∨ [f,a,b,c,d].getD 0 0 ≠ command.function) =
      (f ≠ command.function) := propext ⟨fun h => h.resolve_left (not_not_intro rfl),Or.inr⟩
  unfold parseWriteResponsePdu checkEcho
  simp only [hl]
  rfl

private theorem parseWriteResponse_five :
    parseWriteResponse (rtuFrame slaveId [f,a,b,c,d]) slaveId offset command = (do
      bailIf (f = command.function ||| 0x80) (rtuException a)
      checkEcho command offset f a b c d
        "Modbus RTU write response function does not match request"
        "Modbus RTU write response address does not match request"
        "Modbus RTU write response value or quantity does not match request") := by
  unfold parseWriteResponse
  rw [length_rtuFrame,rtuFrame,verifyModbusRtuCrc_append (cons_ne_nil _ _)]
  have hs : bailIf ((appendModbusRtuCrc (slaveId :: [f,a,b,c,d])).getD 0 0 ≠ slaveId)
      "Modbus RTU write response slave id does not match request" = .ok () :=
    if_neg (not_not_intro rfl)
  rw [hs]
  rfl

def Agree (pdu : List UInt8) : Prop := (parseWriteResponsePdu pdu offset command = .ok () ↔
    parseWriteResponse (rtuFrame slaveId pdu) slaveId offset command = .ok ()) ∧
  ∀ code, parseWriteResponsePdu pdu offset command = .error (tcpException code) ↔
    parseWriteResponse (rtuFrame slaveId pdu) slaveId offset command = .error (rtuException code)

theorem agree_five : Agree slaveId offset command [f,a,b,c,d] := by
  unfold Agree
  rw [parseWriteResponsePdu_five,parseWriteResponse_five]
  unfold bailIf
  split
  · simp only [error_bind,reduceCtorEq,Except.error.injEq]
    exact ⟨trivial,fun code => exception_eq_iff a code⟩
  · simp only [ok_bind,checkEcho_eq_ok]
    refine ⟨trivial,fun code => ⟨fun h => ?_,fun h => ?_⟩⟩
    -- no other failure has the text of an exception
    · rcases checkEcho_error h with h | h | h
      all_goals exact absurd h.symm (ne_append_of_otherStart (by decide) _)
    · rcases checkEcho_error h with h | h | h
      all_goals exact absurd h.symm (ne_append_of_otherStart (by decide) _)

theorem parseWriteResponse_long {pdu : List UInt8} (h : pdu.length ≠ 5) :
    parseWriteResponse (rtuFrame slaveId pdu) slaveId offset command =
      .error "Modbus RTU write response must contain 8 bytes" := by
  unfold parseWriteResponse bailIf
  rw [length_rtuFrame,if_pos (by omega)]
  rfl

/-- A response that reports an exception, in the short form a device sends or a longer one. -/
def ShortException (pdu : List UInt8) : Prop :=
  2 ≤ pdu.length ∧ pdu.length ≠ 5 ∧ pdu.getD 0 0 = command.function ||| 0x80

private theorem parseWriteResponsePdu_exception (h : ShortException command pdu) :
    parseWriteResponsePdu pdu offset command = .error (tcpException (pdu.getD 1 0)) := by
  unfold parseWriteResponsePdu bailIf
  rw [if_neg (Nat.not_lt.mpr h.1),if_pos h.2.2]
  rfl

private theorem parseWriteResponsePdu_mismatch {pdu : List UInt8} (hl : pdu.length ≠ 5)
    (h : ¬ ShortException command pdu) :
    ∃ msg, parseWriteResponsePdu pdu offset command = .error msg ∧
      ¬ "Modbus TCP exception code ".toList <+: msg.toList := by
  unfold parseWriteResponsePdu bailIf
  by_cases hs : pdu.length < 2
  · exact ⟨_,by rw [if_pos hs]; rfl,by decide⟩
  · have hf : ¬ pdu.getD 0 0 = command.function ||| 0x80 := fun hf => h ⟨by omega,hl,hf⟩
    exact ⟨_,by rw [if_neg hs,if_neg hf,if_pos (Or.inl hl)]; rfl,by decide⟩

/-- The serial adapter wants eight bytes before it looks for an exception, and the frame of one
has five. -/
theorem write_answers_agree_iff (pdu : List UInt8) :
    Agree slaveId offset command pdu ↔ ¬ ShortException command pdu := by
  by_cases hf : pdu.length = 5
  · match pdu, hf with
    | [f,a,b,c,d], _ =>
      exact ⟨fun _ h => h.2.1 rfl,fun _ => agree_five slaveId offset command f a b c d⟩
  · have hrt := parseWriteResponse_long slaveId offset command hf
    unfold Agree
    rw [hrt]
    constructor
    · intro ha hs
      have hr := (ha.2 _).mp (parseWriteResponsePdu_exception offset command hs)
      exact absurd (Except.error.inj hr) (ne_append_of_otherStart (by decide) _)
    · intro hp
      obtain ⟨msg,htc,ht⟩ := parseWriteResponsePdu_mismatch offset command hf hp
      rw [htc]
      simp only [reduceCtorEq,Except.error.injEq,iff_self,true_and]
      exact fun code => ⟨fun h => absurd h (ne_append_of_otherStart ht _),
        fun h => absurd h (ne_append_of_otherStart (by decide) _)⟩

end Answers

/-- The device refuses a register write with code 2. -/
theorem refused_write_unreported : ∃ command : ModbusWriteCommand,
      parseWriteResponsePdu [0x86,2] 0 command = .error "Modbus TCP exception code 2" ∧
      parseWriteResponse (rtuFrame 1 [0x86,2]) 1 0 command =
        .error "Modbus RTU write response must contain 8 bytes" :=
  ⟨⟨writeSingleRegister,[7],Or.inl ⟨rfl,cons_ne_nil _ _⟩⟩,by rfl,by rfl⟩

end VelaEdge.Modbus
