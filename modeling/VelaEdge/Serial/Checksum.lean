import VelaEdge.Base.Checksum
import VelaEdge.Modbus.Tcp
import VelaEdge.Serial.Hex

/-! Custom serial checksums: what a request carries, and what a response is checked for. -/
namespace VelaEdge.Serial

open Base List Checksum
open VelaEdge.Modbus (toBeBytes fromBeBytes toBeBytes_injective eq_fromBeBytes_iff)

inductive CustomSerialChecksum where
  | none
  | sum8
  | xor8
  | modbusCrc16
  | crc16CcittFalse
deriving DecidableEq

/-- The part of a point's specification that a response is checked against. -/
structure CustomSerialPointSpec where
  responseChecksum : CustomSerialChecksum := .none
  responsePrefixHex : Option String := .none

variable (bytes : Bytes)

def sum8 : UInt8 := bytes.foldl (· + ·) 0

def xor8 : UInt8 := bytes.foldl (· ^^^ ·) 0

def modbusCrcByte (crc : UInt16) (byte : UInt8) : UInt16 :=
  (shiftRight 0xA001)^[8] (crc ^^^ byte.toUInt16)

def modbusCrc16 : UInt16 := bytes.foldl modbusCrcByte 0xFFFF

def ccittCrcByte (crc : UInt16) (byte : UInt8) : UInt16 :=
  (shiftLeft 0x1021)^[8] (crc ^^^ (byte.toUInt16 <<< 8))

def crc16CcittFalse : UInt16 := bytes.foldl ccittCrcByte 0xFFFF

def checksumBytes : CustomSerialChecksum → Bytes → Bytes
  | .none, _ => []
  | .sum8, frame => [sum8 frame]
  | .xor8, frame => [xor8 frame]
  | .modbusCrc16, frame => (toBeBytes (modbusCrc16 frame)).reverse
  | .crc16CcittFalse, frame => toBeBytes (crc16CcittFalse frame)

def appendCustomSerialChecksum (frame : Bytes) (checksum : CustomSerialChecksum) : Bytes :=
  frame ++ checksumBytes checksum frame

def checkByte (name : String) (actual : Bytes → UInt8) (response : Bytes) :
    Except SerialFailure Bytes := do
  bailIf (response.length < 2) (.invalid s!"custom serial response is too short for {name}")
  let payload := response.take (response.length - 1)
  bailIf (actual payload ≠ response.getD (response.length - 1) 0)
    (.invalid s!"custom serial {name} mismatch")
  pure payload

/-- Cut a checksum of two bytes off and compare it; `expected` reads the two bytes. -/
def checkWord (name : String) (actual : Bytes → UInt16) (expected : UInt8 → UInt8 → UInt16)
    (response : Bytes) : Except SerialFailure Bytes := do
  bailIf (response.length < 3) (.invalid s!"custom serial response is too short for {name}")
  let payload := response.take (response.length - 2)
  bailIf (actual payload ≠ expected (response.getD (response.length - 2) 0)
    (response.getD (response.length - 1) 0)) (.invalid s!"custom serial {name} mismatch")
  pure payload

def checkedPayload (response : Bytes) : CustomSerialChecksum → Except SerialFailure Bytes
  | .none => .ok response
  | .sum8 => checkByte "sum8" sum8 response
  | .xor8 => checkByte "xor8" xor8 response
  | .modbusCrc16 =>
    checkWord "Modbus CRC16" modbusCrc16 (fun low high => fromBeBytes high low) response
  | .crc16CcittFalse => checkWord "CRC-16/CCITT-FALSE" crc16CcittFalse fromBeBytes response

def verifiedResponsePayload (response : Bytes) (spec : CustomSerialPointSpec) :
    Except SerialFailure Bytes := do
  bailIf (response = []) (.invalid "custom serial response is empty")
  bailIf (maxResponseBytes < response.length)
    (.invalid "custom serial response exceeds the 4096-byte limit")
  let payload ← checkedPayload response spec.responseChecksum
  match spec.responsePrefixHex with
  | none => pure payload
  | some prefixHex => do
    let start ← decodeCustomSerialHex prefixHex
    bailIf (¬ start <+: payload) (.invalid "custom serial response prefix does not match")
    pure payload

/-! Every checksum detects one damaged byte. -/

theorem tracks_sum8 : Tracks fun sum byte : UInt8 => sum + byte :=
  ⟨fun _ _ _ h => (UInt8.add_left_inj _).mp h,fun _ _ _ h => (UInt8.add_right_inj _).mp h⟩

theorem tracks_xor8 : Tracks fun value byte : UInt8 => value ^^^ byte :=
  ⟨fun _ _ _ h => (UInt8.xor_left_inj _).mp h,fun _ _ _ h => (UInt8.xor_right_inj _).mp h⟩

private theorem toUInt16_injective : Function.Injective UInt8.toUInt16 := by
  intro a b h
  have hv := congrArg UInt16.toNat h
  rw [UInt8.toNat_toUInt16,UInt8.toNat_toUInt16] at hv
  exact UInt8.toNat_inj.mp hv

theorem shiftedByte_injective : Function.Injective fun byte : UInt8 => byte.toUInt16 <<< 8 := by
  have hv : ∀ byte : UInt8, (byte.toUInt16 <<< 8).toNat = byte.toNat * 256 := by
    intro byte
    have hr := byte.toNat_lt
    rw [UInt16.toNat_shiftLeft,UInt8.toNat_toUInt16]
    change byte.toNat <<< 8 % 2 ^ 16 = _
    rw [Nat.shiftLeft_eq]
    omega
  intro a b h
  have hs := congrArg UInt16.toNat h
  dsimp only at hs
  rw [hv,hv] at hs
  apply UInt8.toNat_inj.mp
  omega

private theorem tracks_modbusCrcByte : Tracks modbusCrcByte :=
  tracks_shifts (shiftRight_injective (by decide)) toUInt16_injective

private theorem tracks_ccittCrcByte : Tracks ccittCrcByte :=
  tracks_shifts (shiftLeft_injective (by decide)) shiftedByte_injective

private theorem detects_byte {step : UInt8 → UInt8 → UInt8} (h : Tracks step) :
    Detects (fun bytes => [bytes.foldl step 0]) 1 :=
  ⟨fun _ => rfl,fun before after _ _ hc =>
    foldl_detects h 0 before after (cons.inj hc).1⟩

private theorem detects_word {step : UInt16 → UInt8 → UInt16} (h : Tracks step)
    (hl : Function.Injective layout) (hle : ∀ crc, (layout crc).length = 2) :
    Detects (fun bytes => layout (bytes.foldl step 0xFFFF)) 2 :=
  ⟨fun _ => hle _,fun before after _ _ hc =>
    foldl_detects h 0xFFFF before after (hl hc)⟩

theorem checksumBytes_detects (h : checksum ≠ .none) :
    ∃ width, Detects (checksumBytes checksum) width := by
  cases checksum with
  | none => exact absurd rfl h
  | sum8 => exact ⟨1,detects_byte tracks_sum8⟩
  | xor8 => exact ⟨1,detects_byte tracks_xor8⟩
  | modbusCrc16 =>
    exact ⟨2,detects_word tracks_modbusCrcByte
      (reverse_injective.comp toBeBytes_injective) fun _ => rfl⟩
  | crc16CcittFalse =>
    exact ⟨2,detects_word tracks_ccittCrcByte toBeBytes_injective fun _ => rfl⟩

/-! A checked response carries its own checksum. -/

@[simp] theorem checkByte_eq_ok {name : String} {resp : Bytes} :
    checkByte name actual resp = .ok body ↔
      body ≠ [] ∧ resp = body ++ [actual body] := by
  unfold checkByte
  simp only [bind_eq_ok,bailIf_eq_ok,exists_const,pure,Except.pure,Except.ok.injEq,not_not]
  apply Iff.intro
  · rintro ⟨hlo,hc,rfl⟩
    refine ⟨fun h => ?_,?_⟩
    · have hl := congrArg length h
      rw [length_take,length_nil] at hl
      omega
    · have hla : resp.length - 1 < resp.length := by omega
      rw [hc,getD_eq_getElem _ _ hla]
      have hd : resp.drop (resp.length - 1) = [resp[resp.length - 1]] := by
        rw [drop_eq_getElem_cons hla,drop_of_length_le (by omega)]
      rw [← hd,take_append_drop]
  · rintro ⟨hp,rfl⟩
    have hpo := length_pos_iff.mpr hp
    simp
    omega

variable {resp body : Bytes}

theorem checkWord_eq_ok {name : String} {actual : Bytes → UInt16} {want : UInt8 → UInt8 → UInt16}
    {layout : UInt16 → Bytes} (hl : ∀ a b crc, crc = want a b ↔ layout crc = [a,b])
    (hle : ∀ crc, ∃ a b, layout crc = [a,b]) :
    checkWord name actual want resp = .ok body ↔
      body ≠ [] ∧ resp = body ++ layout (actual body) := by
  unfold checkWord
  simp only [bind_eq_ok,bailIf_eq_ok,exists_const,pure,Except.pure,Except.ok.injEq,not_not]
  apply Iff.intro
  · rintro ⟨hlo,hc,rfl⟩
    refine ⟨fun h => ?_,?_⟩
    · have hz := congrArg length h
      rw [length_take,length_nil] at hz
      omega
    · have hf : resp.length - 2 < resp.length := by omega
      have hla : resp.length - 1 < resp.length := by omega
      rw [getD_eq_getElem _ _ hf,getD_eq_getElem _ _ hla,hl] at hc
      have hd : resp.drop (resp.length - 2) = [resp[resp.length - 2],resp[resp.length - 1]] := by
        rw [drop_eq_getElem_cons hf]
        congr 1
        have hn : resp.length - 2 + 1 = resp.length - 1 := by omega
        rw [hn,drop_eq_getElem_cons hla,drop_of_length_le (by omega)]
      rw [hc,← hd,take_append_drop]
  · rintro ⟨hp,rfl⟩
    have hpo := length_pos_iff.mpr hp
    obtain ⟨a,b,hb⟩ := hle (actual body)
    have hcr := (hl a b (actual body)).mpr hb
    rw [hb]
    simp [← hcr]
    omega

theorem checkedPayload_eq_ok {checksum : CustomSerialChecksum} (h : checksum ≠ .none) :
    checkedPayload resp checksum = .ok body ↔
      body ≠ [] ∧ resp = appendCustomSerialChecksum body checksum := by
  cases checksum with
  | none => exact absurd rfl h
  | sum8 => exact checkByte_eq_ok
  | xor8 => exact checkByte_eq_ok
  | modbusCrc16 =>
    have hl : ∀ (a b : UInt8) (crc : UInt16),
        crc = fromBeBytes b a ↔ (toBeBytes crc).reverse = [a,b] := by
      intro a b crc
      rw [eq_fromBeBytes_iff,← reverse_injective.eq_iff]
      rfl
    exact checkWord_eq_ok hl fun _ => ⟨_,_,rfl⟩
  | crc16CcittFalse => exact checkWord_eq_ok eq_fromBeBytes_iff fun _ => ⟨_,_,rfl⟩

def startsAsConfigured (spec : CustomSerialPointSpec) (payload : Bytes) : Prop :=
  ∀ prefixHex, spec.responsePrefixHex = some prefixHex →
    ∃ start, decodeCustomSerialHex prefixHex = .ok start ∧ start <+: payload

@[simp] theorem verifiedResponsePayload_eq_ok {resp : Bytes} :
    verifiedResponsePayload resp spec = .ok body ↔ resp ≠ [] ∧ resp.length ≤ maxResponseBytes ∧
        checkedPayload resp spec.responseChecksum = .ok body ∧ startsAsConfigured spec body := by
  unfold verifiedResponsePayload startsAsConfigured
  cases spec.responsePrefixHex with
  | none => simp [bind_eq_ok,pure,Except.pure]
  | some prefixHex =>
    simp only [bind_eq_ok,bailIf_eq_ok,exists_const,pure,Except.pure,Except.ok.injEq,
      not_not,Nat.not_lt,Option.some.injEq,forall_eq']
    apply and_congr_right
    intro _
    apply and_congr_right
    intro _
    apply Iff.intro
    · rintro ⟨found,hf,start,hs,hp,rfl⟩
      exact ⟨hf,start,hs,hp⟩
    · rintro ⟨hpa,start,hs,hp⟩
      exact ⟨body,hpa,start,hs,hp,rfl⟩

theorem checksum_detects_damage (spec : CustomSerialPointSpec) (payload : Bytes)
    (hkind : spec.responseChecksum ≠ .none) (hpayload : payload ≠ []) :
    ((appendCustomSerialChecksum payload spec.responseChecksum).length ≤ maxResponseBytes →
      startsAsConfigured spec payload →
        verifiedResponsePayload (appendCustomSerialChecksum payload spec.responseChecksum) spec =
          .ok payload) ∧
    ∀ before after : Bytes, ∀ intact damaged : UInt8,
      appendCustomSerialChecksum payload spec.responseChecksum = before ++ intact :: after →
        damaged ≠ intact →
          ∀ result, verifiedResponsePayload (before ++ damaged :: after) spec ≠ .ok result := by
  refine ⟨?_,?_⟩
  · intro hl hs
    refine verifiedResponsePayload_eq_ok.mpr ⟨?_,hl,?_,hs⟩
    · intro he
      exact hpayload (append_eq_nil_iff.mp he).1
    · exact (checkedPayload_eq_ok hkind).mpr ⟨hpayload,rfl⟩
  · intro before after intact damaged hf hd result hv
    obtain ⟨_,_,hc,_⟩ := verifiedResponsePayload_eq_ok.mp hv
    obtain ⟨_,hr⟩ := (checkedPayload_eq_ok hkind).mp hc
    obtain ⟨width,hde⟩ := checksumBytes_detects hkind
    exact hd (hde.frame hr hf.symm)

theorem two_byte_response_verified :
    verifiedResponsePayload [0x01,0x03,0x40,0x21] ⟨.modbusCrc16,some "01"⟩ = .ok [0x01,0x03] ∧
      ∀ result, verifiedResponsePayload [0x01,0x02,0x40,0x21] ⟨.modbusCrc16,some "01"⟩ ≠
        .ok result := by
  have h := checksum_detects_damage ⟨.modbusCrc16,some "01"⟩ [0x01,0x03] (by decide) (by decide)
  have hf : appendCustomSerialChecksum [0x01,0x03] .modbusCrc16 =
      [0x01,0x03,0x40,0x21] := by decide +kernel
  have hs : startsAsConfigured ⟨.modbusCrc16,some "01"⟩ [0x01,0x03] := by
    intro prefixHex hp
    cases hp
    exact ⟨[0x01],by decide,by decide⟩
  dsimp only at h
  rw [hf] at h
  exact ⟨h.1 (by decide) hs,h.2 [0x01] [0x40,0x21] 0x03 0x02 rfl (by decide)⟩

/-- A frame that carries its checksum is still refused for its length or its start. -/
theorem long_response_rejected :
    verifiedResponsePayload (appendCustomSerialChecksum (replicate 4096 0x00) .sum8)
        ⟨.sum8,none⟩ = .error (.invalid "custom serial response exceeds the 4096-byte limit") ∧
      verifiedResponsePayload (appendCustomSerialChecksum [0x01] .sum8) ⟨.sum8,some "AA"⟩ =
        .error (.invalid "custom serial response prefix does not match") := by
  refine ⟨?_,by decide⟩
  have hl : maxResponseBytes < (appendCustomSerialChecksum (replicate 4096 0x00) .sum8).length := by
    rw [appendCustomSerialChecksum,length_append,length_replicate]
    exact Nat.lt_succ_self 4096
  have hs : appendCustomSerialChecksum (replicate 4096 0x00) .sum8 ≠ [] :=
    ne_nil_of_length_pos (Nat.lt_of_le_of_lt (Nat.zero_le _) hl)
  simp only [verifiedResponsePayload,bailIf,if_neg hs,if_pos hl,ok_bind,error_bind]

end VelaEdge.Serial
