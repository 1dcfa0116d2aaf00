import VelaEdge.Serial.Dlt645
import VelaEdge.Serial.Iec101

/-! The serial bus: a request is written, and the response is whatever arrives until the line
stays idle, up to a limit the bus sets for every protocol. -/
namespace VelaEdge.Serial

open Base List

/-- One read of the port: bytes after a wait in milliseconds, or an error. -/
inductive PortRead where
  | bytes (wait : Nat) (bytes : Bytes)
  | failed

structure TokioSerialBus where
  readIdleTimeout : Nat
  maxResponseBytes : Nat

namespace TokioSerialBus

/-- The bus as it is opened for every serial connection. -/
def opened : TokioSerialBus := ⟨80,256⟩

def idle (response : Bytes) : Except String Bytes :=
  if response = [] then .error "serial response timed out" else .ok response

/-- The reading loop; once the reads are used up nothing arrives any more. -/
def readLoop (bus : TokioSerialBus) : List PortRead → Bytes → Except String Bytes
  | [], response => idle response
  | .failed :: _, _ => .error "failed to read serial response"
  | .bytes wait bytes :: reads, response =>
    if bus.readIdleTimeout < wait then idle response
    else if bytes = [] then .ok response
    else do
      bailIf (bus.maxResponseBytes < (response ++ bytes).length)
        "serial response exceeded maximum frame size"
      bus.readLoop reads (response ++ bytes)

def transact (bus : TokioSerialBus) (write flush : Except String Unit) (reads : List PortRead) :
    Except String Bytes := do
  write.mapError fun _ => "failed to write serial request"
  flush.mapError fun _ => "failed to flush serial request"
  bus.readLoop reads []

/-- What the loop makes of bytes that arrive without a pause. -/
def received (bus : TokioSerialBus) (bytes : Bytes) : Except String Bytes :=
  if bytes.length ≤ bus.maxResponseBytes then idle bytes
  else .error "serial response exceeded maximum frame size"

/-- The pieces a frame arrives in: each fits the read buffer and none is awaited too long. -/
structure Arrives (bus : TokioSerialBus) (frame : Bytes) (pieces : List (Nat × Bytes)) : Prop where
  prompt : ∀ piece ∈ pieces, piece.1 ≤ bus.readIdleTimeout
  buffered : ∀ piece ∈ pieces, piece.2 ≠ [] ∧ piece.2.length ≤ 64
  whole : pieces.flatMap Prod.snd = frame

def reads (pieces : List (Nat × Bytes)) : List PortRead :=
  pieces.map fun piece => .bytes piece.1 piece.2

inductive Accepted (frame : Bytes) : Prop where
  | iec101 (body : Bytes) (h : Iec101.parseVariableFrame frame = .ok body)
  | dlt645 (meter : Bytes) (dataIdentifier : UInt32) (value : Bytes)
      (h : Dlt645.parseReadDataResponse frame meter dataIdentifier = .ok value)
  | customSerial (encoding : CustomSerialFrameEncoding) (payload : Bytes)
      (h : decodeCustomSerialFrame frame encoding = .ok payload)

theorem readLoop_arrives {bus : TokioSerialBus} (h : Arrives bus frame pieces) (response : Bytes)
    (hr : response.length ≤ bus.maxResponseBytes) :
    bus.readLoop (reads pieces) response = bus.received (response ++ frame) := by
  induction pieces generalizing frame response with
  | nil =>
    obtain rfl : [] = frame := h.whole
    simp [reads,readLoop,received,hr]
  | cons piece pieces ih =>
    have hp := h.prompt piece mem_cons_self
    have hb := (h.buffered piece mem_cons_self).1
    have hrest : Arrives bus (pieces.flatMap Prod.snd) pieces :=
      ⟨fun other ho => h.prompt other (mem_cons_of_mem _ ho),
        fun other ho => h.buffered other (mem_cons_of_mem _ ho),rfl⟩
    obtain rfl : piece.2 ++ pieces.flatMap Prod.snd = frame := h.whole
    simp only [reads,map_cons,readLoop,Nat.not_lt.mpr hp,hb,if_false]
    by_cases hfit : (response ++ piece.2).length ≤ bus.maxResponseBytes
    · rw [bailIf,if_neg (Nat.not_lt.mpr hfit),← append_assoc]
      exact ih hrest _ hfit
    · rw [bailIf,if_pos (Nat.not_le.mp hfit),received,if_neg]
      · rfl
      · rw [← append_assoc,length_append]
        omega

/-- However a response that a protocol takes arrives, one transaction returns exactly its bytes
when it is not empty and no longer than the bus allows, and fails otherwise. -/
theorem bus_delivers_frame_iff (frame : Bytes) (pieces : List (Nat × Bytes)) (_ : Accepted frame)
    (h : Arrives opened frame pieces) :
    opened.transact (.ok ()) (.ok ()) (reads pieces) = .ok frame ↔
      frame ≠ [] ∧ frame.length ≤ 256 := by
  change opened.readLoop (reads pieces) [] = .ok frame ↔ _
  rw [readLoop_arrives h [] (Nat.zero_le _),nil_append]
  change (if frame.length ≤ 256 then idle frame else _) = _ ↔ _
  unfold idle
  split
  · split <;> simp [*]
  · simp [*]

theorem raw_frame_delivered : opened.transact (.ok ()) (.ok ()) (reads [(5,[65,66]),(70,[67])]) =
    .ok [65,66,67] :=
  (bus_delivers_frame_iff _ _ (.customSerial .raw [65,66,67] (by decide))
    ⟨by decide,by decide,rfl⟩).mpr (by decide)

/-- An IEC 101 frame with the longest user data its length byte can state. -/
def longestFrame : Bytes := [0x68,255,255,0x68,0x08,0x01] ++ List.replicate 253 0 ++ [0x09,0x16]

def inPieces : List (Nat × Bytes) :=
  (List.range 5).map fun index => (10,(longestFrame.drop (64 * index)).take 64)

theorem longest_frame_refused : (∃ body, Iec101.parseVariableFrame longestFrame = .ok body) ∧
    Arrives opened longestFrame inPieces ∧
    opened.transact (.ok ()) (.ok ()) (reads inPieces) =
      .error "serial response exceeded maximum frame size" := by
  refine ⟨⟨[0x08,0x01] ++ List.replicate 253 0,by decide +kernel⟩,⟨?_,?_,?_⟩,?_⟩
  all_goals decide +kernel

end TokioSerialBus

end VelaEdge.Serial
