import Mathlib.Algebra.Group.Nat.Defs
import VelaEdge.Base.Outcome
import VelaEdge.Base.Reading

/-! The frames of EdgeLink: the length of a message in four bytes, then the message as JSON. -/
namespace VelaEdge.EdgeLink

open Base List

def edgelinkMaxFrameBytes : Nat := 16 * 1024 * 1024

def edgelinkFrameHeaderBytes : Nat := 4

inductive EdgeLinkFrameError where
  | incompleteHeader (actual : Nat)
  | incompleteFrame (expected actual : Nat)
  | frameTooLarge (size max : Nat)
  | invalidJson (cause : String)
deriving DecidableEq

def EdgeLinkFrameError.message : EdgeLinkFrameError → String
  | .incompleteHeader actual =>
    s!"incomplete EdgeLink frame header: expected 4 bytes, got {actual}"
  | .incompleteFrame expected actual =>
    s!"incomplete EdgeLink frame: expected {expected} payload bytes, got {actual}"
  | .frameTooLarge size max => s!"EdgeLink frame too large: {size} bytes exceeds {max} bytes"
  | .invalidJson cause => s!"invalid EdgeLink frame JSON: {cause}"

/-- The JSON of messages. What was written is read back. -/
structure MessageCodec (M : Type) where
  toVec : M → Except String (List UInt8)
  fromSlice : List UInt8 → Except String M
  fromSlice_toVec : ∀ message bytes, toVec message = .ok bytes → fromSlice bytes = .ok message

def toBeBytes (value : Nat) : List UInt8 :=
  [UInt8.ofNat (value / 2 ^ 24),UInt8.ofNat (value / 2 ^ 16),UInt8.ofNat (value / 2 ^ 8),
    UInt8.ofNat value]

def fromBeBytes (bytes : List UInt8) : Nat :=
  bytes.foldl (fun value byte => value * 2 ^ 8 + byte.toNat) 0

variable {M : Type} (codec : MessageCodec M)

def encodeEdgelinkFrame (message : M) : Except EdgeLinkFrameError (List UInt8) := do
  let payload ← (codec.toVec message).mapError .invalidJson
  bailIf (payload.length > edgelinkMaxFrameBytes)
    (.frameTooLarge payload.length edgelinkMaxFrameBytes)
  pure (toBeBytes payload.length ++ payload)

def decodeEdgelinkFrame (frame : List UInt8) : Except EdgeLinkFrameError M := do
  bailIf (frame.length < edgelinkFrameHeaderBytes) (.incompleteHeader frame.length)
  let payloadLen := fromBeBytes (frame.take edgelinkFrameHeaderBytes)
  bailIf (payloadLen > edgelinkMaxFrameBytes) (.frameTooLarge payloadLen edgelinkMaxFrameBytes)
  let actual := frame.length - edgelinkFrameHeaderBytes
  bailIf (actual < payloadLen) (.incompleteFrame payloadLen actual)
  (codec.fromSlice ((frame.drop edgelinkFrameHeaderBytes).take payloadLen)).mapError .invalidJson

/-- What both ways to read a message do once they have the header. -/
def readEdgelinkFrame (header : List UInt8) : Reading String M :=
  let payloadLen := fromBeBytes header
  if payloadLen > edgelinkMaxFrameBytes then
    .done (.error (EdgeLinkFrameError.frameTooLarge payloadLen edgelinkMaxFrameBytes).message)
  else do
    let body ← Reading.readExact "failed to read EdgeLink frame body" payloadLen
    .done ((decodeEdgelinkFrame codec (header ++ body)).mapError fun _ =>
      "failed to decode EdgeLink frame")

def readEdgelinkMessage : Reading String M := do
  let header ← Reading.readExact "failed to read EdgeLink frame header" 4
  readEdgelinkFrame codec header

/-- The rest of a header. A header that is cut off is reported with the size of its first piece. -/
def readRemainingHeader (first : List UInt8) : Reading String (List UInt8) :=
  if first.length < 4 then
    Reading.readExact (EdgeLinkFrameError.incompleteHeader first.length).message (4 - first.length)
  else pure []

/-- A stream that ends between two frames is no error here. -/
def readOptionalEdgelinkMessage : Reading String (Option M) := .read 4 fun first =>
    if first = [] then pure none
    else do
      let rest ← readRemainingHeader first
      let message ← readEdgelinkFrame codec (first ++ rest)
      pure (some message)

@[simp] theorem length_toBeBytes (value : Nat) : (toBeBytes value).length = 4 := rfl

theorem fromBeBytes_toBeBytes (h : value < 2 ^ 32) : fromBeBytes (toBeBytes value) = value := by
  simp only [fromBeBytes,toBeBytes,foldl_cons,foldl_nil,UInt8.toNat_ofNat']
  omega

variable {frame : List UInt8} {msg : M}

theorem encodeEdgelinkFrame_eq_ok (h : encodeEdgelinkFrame codec msg = .ok frame) :
    ∃ body, frame = toBeBytes body.length ++ body ∧
      body.length ≤ edgelinkMaxFrameBytes ∧ codec.fromSlice body = .ok msg := by
  simp only [encodeEdgelinkFrame,bind_eq_ok,mapError_eq_ok] at h
  obtain ⟨body,hp,_,hs,hf⟩ := h
  cases hf
  exact ⟨body,rfl,Nat.not_lt.mp (bailIf_eq_ok.mp hs),codec.fromSlice_toVec msg body hp⟩

section Payload

variable {codec} {body : List UInt8} {msg : M}

section

variable (hs : body.length ≤ edgelinkMaxFrameBytes)

include hs

theorem fromBeBytes_header : fromBeBytes (toBeBytes body.length) = body.length := by
  apply fromBeBytes_toBeBytes
  have hm : edgelinkMaxFrameBytes < 2 ^ 32 := by decide
  omega

variable (hp : codec.fromSlice body = .ok msg)
include hp

private theorem decodeEdgelinkFrame_append :
    decodeEdgelinkFrame codec (toBeBytes body.length ++ body) = .ok msg := by
  have hh : (toBeBytes body.length ++ body).take edgelinkFrameHeaderBytes =
      toBeBytes body.length := take_left' rfl
  have hb : (toBeBytes body.length ++ body).drop edgelinkFrameHeaderBytes = body := drop_left' rfl
  have hl : (toBeBytes body.length ++ body).length =
      edgelinkFrameHeaderBytes + body.length := length_append
  simp only [decodeEdgelinkFrame,bind_eq_ok,hh,fromBeBytes_header hs,hb,
    take_length,mapError_eq_ok,hp]
  refine ⟨(),?_,(),?_,(),?_,trivial⟩
  · rw [bailIf_eq_ok]
    omega
  · rw [bailIf_eq_ok]
    omega
  · rw [bailIf_eq_ok]
    omega

theorem readEdgelinkFrame_finishes :
    (readEdgelinkFrame codec (toBeBytes body.length)).Finishes body msg := by
  rw [readEdgelinkFrame,fromBeBytes_header hs,if_neg (by omega)]
  apply (Reading.Finishes.readExact _ body).bind_done
  rw [mapError_eq_ok.mpr (decodeEdgelinkFrame_append hs hp)]

end

end Payload

theorem readEdgelinkMessage_finishes (h : encodeEdgelinkFrame codec msg = .ok frame) :
    (readEdgelinkMessage codec).Finishes frame msg := by
  obtain ⟨body,rfl,hs,hp⟩ := encodeEdgelinkFrame_eq_ok codec h
  exact (Reading.Finishes.readExact _ (toBeBytes body.length)).bind
    (readEdgelinkFrame_finishes hs hp)

theorem readRemainingHeader_finishes (header : List UInt8) (hh : header.length = 4) (count : Nat) :
    (readRemainingHeader (header.take count)).Finishes (header.drop count) (header.drop count) := by
  have ht : (header.take count).length = min count 4 := by rw [length_take,hh]
  have hr : (header.drop count).length = 4 - (header.take count).length := by
    rw [length_drop,hh,ht]
    omega
  rw [readRemainingHeader]
  split
  · rw [← hr]
    exact Reading.Finishes.readExact _ _
  · rw [length_eq_zero_iff.mp (show (header.drop count).length = 0 by omega)]
    exact .done []

theorem readOptionalEdgelinkMessage_finishes (h : encodeEdgelinkFrame codec msg = .ok frame) :
    (readOptionalEdgelinkMessage codec).Finishes frame (some msg) := by
  obtain ⟨body,rfl,hs,hp⟩ := encodeEdgelinkFrame_eq_ok codec h
  apply Reading.Finishes.read (by omega)
  · rw [length_append,length_toBeBytes]
    omega
  · intro count hc hle
    have hh : (toBeBytes body.length).length = 4 := rfl
    rw [take_append_of_le_length (by omega),drop_append_of_le_length (by omega)]
    have hf : ((toBeBytes body.length).take count).length = count := by
      rw [length_take]
      omega
    have hr := readRemainingHeader_finishes (toBeBytes body.length) hh count
    rw [if_neg (length_pos_iff.mp (by omega))]
    apply hr.bind
    rw [take_append_drop]
    exact (readEdgelinkFrame_finishes hs hp).bind_done rfl

end VelaEdge.EdgeLink
