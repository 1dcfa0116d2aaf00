import Mathlib.Tactic.SplitIfs
import VelaEdge.Base.Outcome

/-! Custom serial framing: how a request is wrapped for the line and how a response is unwrapped. -/
namespace VelaEdge.Serial

open Base List

abbrev Bytes := List UInt8

def maxResponseBytes : Nat := 4096
def maxFramedResponseBytes : Nat := 8192

inductive CustomSerialFrameEncoding where
  | raw
  | slip
  | cobs
deriving DecidableEq

def upperHex (value : UInt8) : String :=
  String.ofList [(Nat.digitChar (value.toNat / 16)).toUpper,
    (Nat.digitChar (value.toNat % 16)).toUpper]

/-! SLIP. -/

def slipEnd : UInt8 := 0xC0
def slipEsc : UInt8 := 0xDB
def slipEscEnd : UInt8 := 0xDC
def slipEscEsc : UInt8 := 0xDD

def escapeSlip (byte : UInt8) : Bytes :=
  if byte = slipEnd then [slipEsc, slipEscEnd]
  else if byte = slipEsc then [slipEsc, slipEscEsc]
  else [byte]

variable (payload : Bytes)

def encodeSlip : Bytes := slipEnd :: (payload.flatMap escapeSlip ++ [slipEnd])

def unescapeSlip : Bytes → Except String Bytes
  | [] => .ok []
  | byte :: bytes =>
    if byte = slipEnd then .error "custom serial SLIP frame contains an unescaped 0xC0 byte"
    else if byte = slipEsc then
      match bytes with
      | [] => .error "custom serial SLIP frame ends with an incomplete escape"
      | escaped :: bytes =>
        if escaped = slipEscEnd then do pure (slipEnd :: (← unescapeSlip bytes))
        else if escaped = slipEscEsc then do pure (slipEsc :: (← unescapeSlip bytes))
        else .error s!"custom serial SLIP frame has invalid escape byte 0x{upperHex escaped}"
    else do pure (byte :: (← unescapeSlip bytes))

variable (frame : Bytes)

def decodeSlip : Except String Bytes := do
  bailIf (frame.length < 2 ∨ frame.head? ≠ some slipEnd ∨ frame.getLast? ≠ some slipEnd)
    "custom serial SLIP frame must start and end with 0xC0"
  unescapeSlip frame.tail.dropLast

/-! COBS. -/

/-- The buffer, the place of the open block's code in it, and the code so far. -/
structure CobsEncoder where
  encoded : Bytes
  codeIndex : Nat
  code : UInt8

def CobsEncoder.start : CobsEncoder := ⟨[0], 0, 1⟩

variable (encoder : CobsEncoder)

def CobsEncoder.closeBlock : CobsEncoder :=
  ⟨encoder.encoded.set encoder.codeIndex encoder.code ++ [0], encoder.encoded.length, 1⟩

def CobsEncoder.extend (byte : UInt8) : CobsEncoder :=
  { encoder with
    encoded := encoder.encoded ++ [byte]
    code := encoder.code + 1 }

def CobsEncoder.push (byte : UInt8) : CobsEncoder :=
  if byte = 0 then encoder.closeBlock
  else if (encoder.extend byte).code = 0xFF then (encoder.extend byte).closeBlock
  else encoder.extend byte

def CobsEncoder.finish : Bytes :=
  encoder.encoded.set encoder.codeIndex encoder.code ++ [0]

def encodeCobs : Bytes :=
  (payload.foldl CobsEncoder.push CobsEncoder.start).finish

/-- The loop over the blocks still to read; a block's end cannot overflow the index. -/
def decodeCobsBlocks (decoded : Bytes) : Bytes → Except String Bytes
  | [] => .ok decoded
  | code :: rest =>
    let blockLength := code.toNat - 1
    if code = 0 then .error "custom serial COBS frame contains an unexpected 0x00 byte"
    else if rest.length < blockLength then
      .error "custom serial COBS block exceeds the frame length"
    else if 0 ∈ rest.take blockLength then
      .error "custom serial COBS block contains an unexpected 0x00 byte"
    else decodeCobsBlocks (decoded ++ rest.take blockLength ++
      if code ≠ 0xFF ∧ rest.drop blockLength ≠ [] then [0] else []) (rest.drop blockLength)
termination_by blocks => blocks.length
decreasing_by
  rw [length_drop, length_cons]
  omega

def decodeCobs : Except String Bytes := do
  bailIf (frame.length < 2 ∨ frame.getLast? ≠ some 0)
    "custom serial COBS frame must end with a 0x00 delimiter"
  bailIf (frame.dropLast = []) "custom serial COBS frame is empty"
  decodeCobsBlocks [] frame.dropLast

/-! Any framing. -/

def encodeCustomSerialFrame : CustomSerialFrameEncoding → Except String Bytes
  | .raw => .ok payload
  | .slip => .ok (encodeSlip payload)
  | .cobs => .ok (encodeCobs payload)

def unwrapFrame : CustomSerialFrameEncoding → Except String Bytes
  | .raw => .ok frame
  | .slip => decodeSlip frame
  | .cobs => decodeCobs frame

variable (encoding : CustomSerialFrameEncoding)

def decodeCustomSerialFrame : Except String Bytes := do
  bailIf (maxFramedResponseBytes < frame.length)
    "custom serial framed response exceeds the 8192-byte limit"
  let payload ← unwrapFrame frame encoding
  bailIf (maxResponseBytes < payload.length)
    "custom serial decoded response exceeds the 4096-byte limit"
  pure payload

def reframe : Except String Bytes := do
  decodeCustomSerialFrame (← encodeCustomSerialFrame payload encoding) encoding

/-! SLIP undoes its own escapes. -/

@[simp] theorem unescapeSlip_escape (byte : UInt8) (bytes : Bytes) :
    unescapeSlip (escapeSlip byte ++ bytes) = (unescapeSlip bytes).map (byte :: ·) := by
  unfold escapeSlip
  split_ifs with hend hesc
  · rw [hend,cons_append,cons_append,nil_append,unescapeSlip.eq_def]
    rfl
  · rw [hesc,cons_append,cons_append,nil_append,unescapeSlip.eq_def]
    rfl
  · rw [cons_append,nil_append,unescapeSlip.eq_def]
    simp only [if_neg hend,if_neg hesc]
    rfl

variable (body : Bytes)

@[simp] theorem unescapeSlip_flatMap : unescapeSlip (body.flatMap escapeSlip) = .ok body := by
  induction body with
  | nil => simp [unescapeSlip]
  | cons byte body ih =>
    rw [flatMap_cons,unescapeSlip_escape,ih]
    rfl

@[simp] theorem decodeSlip_encodeSlip : decodeSlip (encodeSlip body) = .ok body := by
  have hl : ¬ (encodeSlip body).length < 2 := by simp [encodeSlip]
  have hi : (encodeSlip body).tail.dropLast = body.flatMap escapeSlip := by simp [encodeSlip]
  have hla : (encodeSlip body).getLast? = some slipEnd := by simp [encodeSlip,getLast?_cons]
  unfold decodeSlip
  rw [hi,unescapeSlip_flatMap,hla]
  simp [bailIf,hl]
  rfl

def isSlipSpecial (byte : UInt8) : Bool := byte = slipEnd ∨ byte = slipEsc

@[simp] theorem length_encodeSlip :
    (encodeSlip body).length = body.length + body.countP isSlipSpecial + 2 := by
  have he : (body.flatMap escapeSlip).length = body.length + body.countP isSlipSpecial := by
    induction body with
    | nil => rfl
    | cons byte body ih =>
      rw [flatMap_cons,length_append,ih,length_cons,countP_cons]
      unfold escapeSlip isSlipSpecial
      split_ifs <;> simp_all <;> omega
  simp [encodeSlip,he]

/-! COBS: the blocks that the encoder's buffer holds. -/

def cobsBlock (block : Bytes) : Bytes := UInt8.ofNat (block.length + 1) :: block

/-- The blocks of an open block and the payload after it. -/
def cobsBlocks : Bytes → Bytes → Bytes
  | block, [] => cobsBlock block
  | block, byte :: payload =>
    if byte = 0 then cobsBlock block ++ cobsBlocks [] payload
    else if block.length = 253 then cobsBlock (block ++ [byte]) ++ cobsBlocks [] payload
    else cobsBlocks (block ++ [byte]) payload

structure OpenBlock (block : Bytes) : Prop where
  short : block.length < 254
  nonzero : 0 ∉ block

theorem OpenBlock.nil : OpenBlock [] := ⟨by decide,by simp⟩

open CobsEncoder

def CobsEncoder.within (finished block : Bytes) : CobsEncoder :=
  ⟨finished ++ 0 :: block, finished.length, UInt8.ofNat (block.length + 1)⟩

@[simp] theorem closeBlock_within (finished block : Bytes) :
    (within finished block).closeBlock = .within (finished ++ cobsBlock block) [] := by
  simp [closeBlock,within,cobsBlock]

@[simp] theorem push_zero (finished block : Bytes) :
    (within finished block).push 0 = .within (finished ++ cobsBlock block) [] := by
  rw [push,if_pos rfl,closeBlock_within]

private theorem push_nonzero (finished : Bytes) (hb : OpenBlock block) (hby : byte ≠ 0) :
    (within finished block).push byte =
      if block.length = 253 then .within (finished ++ cobsBlock (block ++ [byte])) []
      else .within finished (block ++ [byte]) := by
  have hl : (within finished block).extend byte =
      .within finished (block ++ [byte]) := by
    simp [within,extend]
  have hf : (within finished (block ++ [byte])).code = 0xFF ↔ block.length = 253 := by
    have hs := hb.short
    have hc : (within finished (block ++ [byte])).code =
        UInt8.ofNat (block.length + 2) := by
      simp [within,Nat.add_assoc]
    rw [hc,← UInt8.toNat_inj,UInt8.toNat_ofNat',Nat.mod_eq_of_lt (by omega)]
    change block.length + 2 = 255 ↔ _
    omega
  rw [push,if_neg hby,hl,closeBlock_within]
  simp [hf]

private theorem finish_foldl : ∀ finished block, OpenBlock block →
      (body.foldl push (.within finished block)).finish =
        finished ++ cobsBlocks block body ++ [0] := by
  induction body with
  | nil =>
    intro finished block _
    simp [finish,within,cobsBlocks,cobsBlock]
  | cons byte body ih =>
    intro finished block hb
    rw [foldl_cons,cobsBlocks]
    by_cases hz : byte = 0
    · rw [hz,push_zero,ih _ _ OpenBlock.nil,if_pos rfl,append_assoc finished]
    · rw [push_nonzero finished hb hz,if_neg hz]
      by_cases hf : block.length = 253
      · rw [if_pos hf,if_pos hf,ih _ _ OpenBlock.nil,append_assoc finished]
      · rw [if_neg hf,if_neg hf]
        apply ih
        have hs := hb.short
        exact ⟨by simp; omega,by simp [hb.nonzero,Ne.symm hz]⟩

theorem encodeCobs_eq : encodeCobs body = cobsBlocks [] body ++ [0] :=
  finish_foldl body [] [] OpenBlock.nil

theorem cobsBlocks_ne_nil (block body : Bytes) : cobsBlocks block body ≠ [] := by
  induction body generalizing block with
  | nil => simp [cobsBlocks,cobsBlock]
  | cons byte body ih =>
    rw [cobsBlocks]
    split_ifs
    · simp [cobsBlock]
    · simp [cobsBlock]
    · exact ih _

private theorem decodeCobsBlocks_block (decoded : Bytes) {block : Bytes} (hs : block.length ≤ 254)
    (hn : 0 ∉ block) (rest : Bytes) :
    decodeCobsBlocks decoded (cobsBlock block ++ rest) =
      decodeCobsBlocks (decoded ++ block ++ if block.length ≠ 254 ∧ rest ≠ [] then [0] else [])
        rest := by
  have hc : (UInt8.ofNat (block.length + 1)).toNat = block.length + 1 := by
    rw [UInt8.toNat_ofNat',Nat.mod_eq_of_lt (by omega)]
  have hz : UInt8.ofNat (block.length + 1) ≠ 0 := by
    intro h
    rw [h] at hc
    change 0 = _ at hc
    omega
  have hf : UInt8.ofNat (block.length + 1) ≠ 0xFF ↔ block.length ≠ 254 := by
    rw [Ne,← UInt8.toNat_inj,hc]
    change ¬ block.length + 1 = 255 ↔ _
    omega
  rw [cobsBlock,cons_append,decodeCobsBlocks]
  simp only [hc,Nat.add_sub_cancel,if_neg hz,take_left,drop_left,
    length_append,Nat.not_lt.mpr (Nat.le_add_right _ _),if_false,hn,hf]

private theorem decodeCobsBlocks_cobsBlocks : ∀ decoded block, OpenBlock block →
      decodeCobsBlocks decoded (cobsBlocks block body) = .ok (decoded ++ block ++ body) := by
  induction body with
  | nil =>
    intro decoded block hb
    have hr := decodeCobsBlocks_block decoded (Nat.le_of_lt hb.short) hb.nonzero []
    simp only [append_nil,ne_eq,not_true_eq_false,and_false,if_false,decodeCobsBlocks] at hr
    rw [cobsBlocks,hr,append_nil]
  | cons byte body ih =>
    intro decoded block hb
    have hs := hb.short
    have hm := cobsBlocks_ne_nil [] body
    rw [cobsBlocks]
    by_cases hz : byte = 0
    · rw [if_pos hz,decodeCobsBlocks_block decoded (by omega) hb.nonzero,
        if_pos ⟨by omega,hm⟩,ih _ _ OpenBlock.nil,hz]
      simp
    · have hn : 0 ∉ block ++ [byte] := by simp [hb.nonzero,Ne.symm hz]
      rw [if_neg hz]
      by_cases hf : block.length = 253
      · rw [if_pos hf,decodeCobsBlocks_block decoded (by simp; omega) hn,
          if_neg (by simp [hf]),ih _ _ OpenBlock.nil]
        simp
      · rw [if_neg hf,ih _ _ ⟨by simp; omega,hn⟩]
        simp

@[simp] theorem decodeCobs_encodeCobs : decodeCobs (encodeCobs body) = .ok body := by
  have hs := cobsBlocks_ne_nil [] body
  have hl := length_pos_iff.mpr hs
  have hr := decodeCobsBlocks_cobsBlocks body [] [] OpenBlock.nil
  unfold decodeCobs
  rw [encodeCobs_eq]
  simp [bailIf,hs,hr,Nat.not_lt.mpr (Nat.succ_le_succ hl)]

private theorem length_cobsBlocks : ∀ block : Bytes, block.length < 254 →
      254 * (cobsBlocks block body).length ≤ 255 * (block.length + body.length) + 254 := by
  induction body with
  | nil =>
    intro block _
    simp [cobsBlocks,cobsBlock]
    omega
  | cons byte body ih =>
    intro block hb
    have hn := ih [] (by decide)
    rw [cobsBlocks]
    split_ifs with hzero hfull
    · simp [cobsBlock] at hn ⊢
      omega
    · simp [cobsBlock] at hn ⊢
      omega
    · have hl := ih (block ++ [byte]) (by simp; omega)
      simp at hl ⊢
      omega

theorem length_encodeCobs {body : Bytes} (h : body.length ≤ maxResponseBytes) :
    (encodeCobs body).length ≤ maxFramedResponseBytes := by
  have hb := length_cobsBlocks body [] (by decide)
  unfold maxResponseBytes at h
  rw [encodeCobs_eq,length_append]
  unfold maxFramedResponseBytes
  simp at hb ⊢
  omega

/-! The two size limits against each other. -/

/-- The framed payload is within the limit of the decoder. -/
def Fits : Prop :=
  encoding = .slip →
    payload.length + payload.countP isSlipSpecial + 2 ≤ maxFramedResponseBytes

@[simp] theorem decodeCustomSerialFrame_eq_ok {frame : Bytes} :
    decodeCustomSerialFrame frame enc = .ok body ↔
      frame.length ≤ maxFramedResponseBytes ∧ unwrapFrame frame enc = .ok body ∧
        body.length ≤ maxResponseBytes := by
  unfold decodeCustomSerialFrame
  simp only [bind_eq_ok,bailIf_eq_ok,Nat.not_lt,exists_const,pure,Except.pure,Except.ok.injEq]
  apply and_congr_right
  intro _
  apply Iff.intro
  · rintro ⟨found,hf,hs,rfl⟩
    exact ⟨hf,hs⟩
  · intro h
    exact ⟨body,h.1,h.2,rfl⟩

theorem reframe_iff_fits (payload : Bytes) (encoding : CustomSerialFrameEncoding)
    (h : payload.length ≤ maxResponseBytes) :
    reframe payload encoding = .ok payload ↔ Fits payload encoding := by
  unfold reframe Fits
  cases encoding with
  | raw =>
    have hf : payload.length ≤ maxFramedResponseBytes := Nat.le_trans h (by decide)
    simp [encodeCustomSerialFrame,unwrapFrame,hf,h]
  | slip =>
    simp [encodeCustomSerialFrame,unwrapFrame,h]
  | cobs =>
    simp [encodeCustomSerialFrame,unwrapFrame,length_encodeCobs h,h]

theorem delimiter_payload_reframed : [0xC0,0xDB,0x41].length ≤ maxResponseBytes ∧
      reframe [0xC0,0xDB,0x41] .slip = .ok [0xC0,0xDB,0x41] :=
  ⟨by decide,(reframe_iff_fits [0xC0,0xDB,0x41] .slip (by decide)).mpr fun _ => by decide⟩

/-- The limit of the decoder leaves no room for the two delimiters around escaped bytes only. -/
theorem delimiters_only_rejected : (replicate 4096 slipEnd).length ≤ maxResponseBytes ∧
      reframe (replicate 4096 slipEnd) .slip =
        .error "custom serial framed response exceeds the 8192-byte limit" := by
  have hs : isSlipSpecial slipEnd = true := by decide
  have hl : maxFramedResponseBytes < (encodeSlip (replicate 4096 slipEnd)).length := by
    rw [length_encodeSlip,length_replicate,countP_replicate,if_pos hs]
    decide
  refine ⟨by rw [length_replicate]; decide,?_⟩
  rw [reframe,encodeCustomSerialFrame,ok_bind,decodeCustomSerialFrame,bailIf,if_pos hl]
  rfl

end VelaEdge.Serial
