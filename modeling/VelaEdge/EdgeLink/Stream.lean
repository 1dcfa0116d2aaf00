import VelaEdge.Base.Runs
import VelaEdge.EdgeLink.Frame

/-! One direction of an EdgeLink session, byte by byte: a sender that writes frames, a stream that
delays and cuts them, and a receiver whose read can be dropped half way. -/
namespace VelaEdge.EdgeLink.Stream

open Base List

/-- The two ways to read a message. The gateway reads the hello and the report on a deployment in
the first way and everything after that in the second; the runtime only knows the first. -/
inductive ReadKind where
  | required
  | optional
deriving DecidableEq

inductive Wakeup where
  /-- At the gateway: a discovery request is to be sent, or refused because another one runs. -/
  | discovery
  /-- At the gateway: the runtime has to connect again for its new configuration. -/
  | configChanged
  /-- At the runtime: no configuration came in time, so that it goes on with the one it has. -/
  | deployTimeout
  /-- At the runtime: the time for commands is over. -/
  | commandDeadline
deriving DecidableEq

def Wakeup.goesOn : Wakeup → Bool
  | .discovery | .deployTimeout => true
  | .configChanged | .commandDeadline => false

inductive Status where
  | receiving
  | finished
  | failed (reason : String)
  | left
deriving DecidableEq

variable {M : Type}

structure State (M : Type) where
  sent : List M
  /-- Written by the sender and still on its way. -/
  wire : List UInt8
  closed : Bool
  /-- Arrived and not yet read. -/
  buffer : List UInt8
  /-- Taken by the read under way; they are gone when it is dropped. -/
  held : List UInt8
  reading : Reading String (Option M)
  decoded : List M
  status : Status

inductive Event (M : Type) where
  | send (message : M)
  | close
  | arrive (count : Nat)
  /-- A call of the read is given this many bytes, or told that the stream has ended. -/
  | read (count : Nat)
  | wake (wakeup : Wakeup)
  /-- The connection broke, or the receiver could not handle a message. -/
  | leave

variable (codec : MessageCodec M) (kinds : Nat → ReadKind)

def ReadKind.read : ReadKind → Reading String (Option M)
  | .required => do
      let message ← readEdgelinkMessage codec
      pure (some message)
  | .optional => readOptionalEdgelinkMessage codec

def nextRead (decoded : List M) : Reading String (Option M) := (kinds decoded.length).read codec

def State.initial : State M where
  sent := []
  wire := []
  closed := false
  buffer := []
  held := []
  reading := nextRead codec kinds []
  decoded := []
  status := .receiving

variable (state : State M)

def State.settle : State M := match state.reading with
  | .read _ _ => state
  | .done (.ok (some message)) =>
    { state with
      held := []
      reading := nextRead codec kinds (state.decoded ++ [message])
      decoded := state.decoded ++ [message] }
  | .done (.ok none) => { state with status := .finished }
  | .done (.error reason) => { state with status := .failed reason }

def State.receive (count : Nat) : State M :=
  match state.status, state.reading with
  | .receiving, .read limit resume =>
    if 0 < count ∧ count ≤ limit ∧ count ≤ state.buffer.length then
      { state with
        buffer := state.buffer.drop count
        held := state.held ++ state.buffer.take count
        reading := resume (state.buffer.take count) }.settle codec kinds
    else if state.closed ∧ state.buffer = [] ∧ state.wire = [] then
      { state with reading := resume [] }.settle codec kinds
    else state
  | _, _ => state

def State.wakeUp (wakeup : Wakeup) : State M :=
  if state.status ≠ .receiving then state
  else if wakeup.goesOn then
    { state with held := [], reading := nextRead codec kinds state.decoded }
  else { state with status := .left }

def State.write (message : M) : State M := if state.closed then state
  else match encodeEdgelinkFrame codec message with
    | .ok frame =>
      { state with sent := state.sent ++ [message], wire := state.wire ++ frame }
    -- a message that cannot be framed ends the session of the sender
    | .error _ => { state with closed := true }

def step : Event M → State M
  | .send message => state.write codec message
  | .close => { state with closed := true }
  | .arrive count =>
    { state with
      wire := state.wire.drop count
      buffer := state.buffer ++ state.wire.take count }
  | .read count => state.receive codec kinds count
  | .wake wakeup => state.wakeUp codec kinds wakeup
  | .leave => if state.status = .receiving then { state with status := .left } else state

def run (events : List (Event M)) : State M :=
  events.foldl (step codec kinds) (.initial codec kinds)

/-- A read that is dropped for a new one has not taken a byte. -/
def cleanStep : Event M → Bool
  | .wake wakeup => !wakeup.goesOn || state.held.isEmpty
  | _ => true

def cleanRun : State M → List (Event M) → Bool := allAlong (step codec kinds) cleanStep

inductive Frames : List M → List UInt8 → Prop where
  | nil : Frames [] []
  | cons {message : M} {frame : List UInt8} {messages : List M} {bytes : List UInt8}
      (hframe : encodeEdgelinkFrame codec message = .ok frame) (h : Frames messages bytes) :
      Frames (message :: messages) (frame ++ bytes)

/-- How far the receiver has got into what is still to come: it waits for the next frame, or it is
inside one and will take exactly the rest of it. -/
inductive Awaits (state : State M) : List M → Prop where
  | frame {messages : List M} (hheld : state.held = [])
      (hreading : state.reading = nextRead codec kinds state.decoded)
      (hframes : Frames codec messages (state.buffer ++ state.wire)) : Awaits state messages
  | rest {message : M} {messages : List M} {rest bytes : List UInt8} (hheld : state.held ≠ [])
      (hrest : rest ≠ []) (hreading : state.reading.Finishes rest (some message))
      (hframes : Frames codec messages bytes) (hbytes : state.buffer ++ state.wire = rest ++ bytes) :
      Awaits state (message :: messages)

/-- No message is lost: those not decoded are still to come, as long as the receiver goes on. -/
structure InSync (state : State M) (messages : List M) : Prop where
  sent : state.sent = state.decoded ++ messages
  awaits : state.status = .receiving → Awaits codec kinds state messages
  ended : (state.status = .finished ∨ ∃ reason, state.status = .failed reason) →
    state.closed = true ∧ messages = []

/-- The messages decoded are those sent, in their order. None is missing when the receiver has read
all bytes, and it comes to the end of its stream behind the last message only. -/
structure Delivered (state : State M) : Prop where
  inOrder : state.decoded <+: state.sent
  complete : state.status = .receiving → state.buffer = [] → state.wire = [] →
    state.decoded = state.sent
  ended : (state.status = .finished ∨ ∃ reason, state.status = .failed reason) →
    state.decoded = state.sent

variable {codec kinds} {state : State M} {msgs : List M} {frame : List UInt8} {msg : M}

theorem Frames.concat (h : Frames codec msgs bytes)
    (hf : encodeEdgelinkFrame codec msg = .ok frame) :
    Frames codec (msgs ++ [msg]) (bytes ++ frame) := by
  induction h with
  | nil =>
    have hl := Frames.cons hf Frames.nil
    rw [append_nil] at hl
    exact hl
  | cons hfi _ ih =>
    rw [append_assoc]
    exact .cons hfi ih

theorem frame_ne_nil (h : encodeEdgelinkFrame codec msg = .ok frame) : frame ≠ [] := by
  obtain ⟨body,rfl,-,-⟩ := encodeEdgelinkFrame_eq_ok codec h
  exact cons_ne_nil _ _

theorem Frames.eq_nil (h : Frames codec msgs []) : msgs = [] := by
  generalize hb : ([] : List UInt8) = bytes at h
  cases h with
  | nil => rfl
  | cons hf _ => exact absurd (append_eq_nil_iff.mp hb.symm).1 (frame_ne_nil hf)

theorem nextRead_finishes (decoded : List M) (h : encodeEdgelinkFrame codec msg = .ok frame) :
    (nextRead codec kinds decoded).Finishes frame (some msg) := by
  unfold nextRead
  cases kinds decoded.length with
  | required => exact (readEdgelinkMessage_finishes codec h).bind_done rfl
  | optional => exact readOptionalEdgelinkMessage_finishes codec h

theorem Awaits.exists_rest (h : Awaits codec kinds state msgs)
    (hb : state.buffer ++ state.wire ≠ []) :
    ∃ msg later rest bytes, msgs = msg :: later ∧ rest ≠ [] ∧
      state.reading.Finishes rest (some msg) ∧ Frames codec later bytes ∧
      state.buffer ++ state.wire = rest ++ bytes := by
  cases h with
  | frame hh hr hf =>
    generalize hs : state.buffer ++ state.wire = stream at hf hb
    cases hf with
    | nil => exact absurd rfl hb
    | @cons msg frame later bytes hfr hl =>
      refine ⟨msg,later,frame,bytes,rfl,frame_ne_nil hfr,?_,hl,rfl⟩
      rw [hr]
      exact nextRead_finishes state.decoded hfr
  | rest hh hre hr hf hb =>
    exact ⟨_,_,_,_,rfl,hre,hr,hf,hb⟩

theorem Awaits.eq_nil (h : Awaits codec kinds state msgs) (hb : state.buffer = [])
    (hw : state.wire = []) : msgs = [] := by
  cases h with
  | frame hh hr hf =>
    rw [hb,hw] at hf
    exact hf.eq_nil
  | rest hh hre hr hf hby =>
    rw [hb,hw] at hby
    exact absurd (append_eq_nil_iff.mp hby.symm).1 hre

theorem not_ended_of_receiving (h : state.status = .receiving) :
    ¬ (state.status = .finished ∨ ∃ why, state.status = .failed why) := by
  rw [h]
  rintro (he | ⟨why,he⟩)
  · cases he
  · cases he

theorem InSync.initial : InSync codec kinds (.initial codec kinds) [] where
  sent := rfl
  awaits _ := .frame rfl rfl .nil
  ended h := absurd h (not_ended_of_receiving rfl)

private theorem settle_read (h : state.reading = .read limit resume) :
    state.settle codec kinds = state := by
  unfold State.settle
  rw [h]

private theorem settle_message (h : state.reading = .done (.ok (some msg))) :
    state.settle codec kinds = { state with
      held := []
      reading := nextRead codec kinds (state.decoded ++ [msg])
      decoded := state.decoded ++ [msg] } := by
  unfold State.settle
  rw [h]

theorem Awaits.receive {count : Nat} (h : Awaits codec kinds state msgs)
    (hr : state.reading = .read limit resume) (hp : 0 < count) (hli : count ≤ limit)
    (hb : count ≤ state.buffer.length) (hs : state.status = .receiving)
    (hse : state.sent = state.decoded ++ msgs) :
    ∃ later, InSync codec kinds ({ state with
      buffer := state.buffer.drop count
      held := state.held ++ state.buffer.take count
      reading := resume (state.buffer.take count) }.settle codec kinds) later := by
  have hst : state.buffer ++ state.wire ≠ [] := by
    intro hni
    rw [(append_eq_nil_iff.mp hni).1,length_nil] at hb
    omega
  obtain ⟨msg,later,rest,bytes,rfl,hrt,hfi,hf,hby⟩ := h.exists_rest hst
  obtain ⟨_,_,hsa,-,hw,hre⟩ := hfi.exists_read hrt
  rw [hr,Reading.read.injEq] at hsa
  obtain ⟨rfl,rfl⟩ := hsa
  -- the bytes given are the first ones of the frame's rest
  have ht : state.buffer.take count = rest.take count := by
    have hft : (state.buffer ++ state.wire).take count = state.buffer.take count :=
      take_append_of_le_length hb
    rw [← hft,hby,take_append_of_le_length (by omega)]
  have hl : state.buffer.drop count ++ state.wire = rest.drop count ++ bytes := by
    rw [← drop_append_of_le_length hb,hby,drop_append_of_le_length (by omega)]
  have hn := hre count hp hli
  rw [← ht] at hn
  by_cases hd : rest.drop count = []
  · rw [hd] at hn hl
    rw [nil_append] at hl
    refine ⟨later,?_⟩
    rw [settle_message hn.eq_done]
    constructor
    · rw [hse,append_assoc,singleton_append]
    · intro _
      rw [← hl] at hf
      exact .frame rfl rfl hf
    · exact fun he => absurd he (not_ended_of_receiving hs)
  · refine ⟨msg :: later,?_⟩
    obtain ⟨_,_,ha,-⟩ := hn.exists_read hd
    rw [settle_read ha]
    constructor
    · exact hse
    · intro _
      have hh : state.held ++ state.buffer.take count ≠ [] := by
        intro hni
        have hno := (append_eq_nil_iff.mp hni).2
        have hle := length_take_of_le hb
        rw [hno,length_nil] at hle
        omega
      exact .rest hh hd hn hf hl
    · exact fun he => absurd he (not_ended_of_receiving hs)

private theorem nextRead_ended (h : nextRead codec kinds decoded = .read limit resume) :
    resume [] = .done (.ok none) ∨ ∃ why, resume [] = .done (.error why) := by
  unfold nextRead at h
  cases hk : kinds decoded.length with
  | required =>
    rw [hk,ReadKind.read,readEdgelinkMessage,Reading.readExact] at h
    cases h
    exact .inr ⟨_,rfl⟩
  | optional =>
    rw [hk] at h
    cases h
    exact .inl rfl

theorem Awaits.end_of_stream (h : Awaits codec kinds state msgs)
    (hr : state.reading = .read limit resume) (hc : state.closed = true) (hb : state.buffer = [])
    (hw : state.wire = []) (hs : state.sent = state.decoded ++ msgs) :
    InSync codec kinds ({ state with reading := resume [] }.settle codec kinds) [] := by
  have hno := h.eq_nil hb hw
  rw [hno] at h hs
  cases h with
  | frame hh hn hf =>
    rw [hr] at hn
    rcases nextRead_ended hn.symm with he | ⟨why,he⟩
    · rw [State.settle,he]
      exact ⟨hs,nofun,fun _ => ⟨hc,rfl⟩⟩
    · rw [State.settle,he]
      exact ⟨hs,nofun,fun _ => ⟨hc,rfl⟩⟩

section

variable (h : InSync codec kinds state msgs)

include h

theorem receive_inSync (count : Nat) :
    ∃ later, InSync codec kinds (state.receive codec kinds count) later := by
  unfold State.receive
  split
  · next limit resume hs hr =>
    have ha := h.awaits hs
    split
    · next hco =>
      obtain ⟨hp,hl,hb⟩ := hco
      exact ha.receive hr hp hl hb hs h.sent
    · split
      · next he =>
        obtain ⟨hc,hb,hw⟩ := he
        exact ⟨[],ha.end_of_stream hr hc hb hw h.sent⟩
      · exact ⟨msgs,h⟩
  · exact ⟨msgs,h⟩

theorem wakeUp_inSync (hc : cleanStep state (.wake wakeup) = true) :
    InSync codec kinds (state.wakeUp codec kinds wakeup) msgs := by
  unfold State.wakeUp
  split
  · exact h
  · next hs =>
    rw [ne_eq,not_not] at hs
    split
    · next hgo =>
      have hh : state.held = [] := by simpa [cleanStep,hgo] using hc
      constructor
      · exact h.sent
      · intro _
        cases h.awaits hs with
        | frame _ _ hf => exact .frame rfl rfl hf
        | rest hso => exact absurd hh hso
      · exact fun he => absurd he (not_ended_of_receiving hs)
    · exact ⟨h.sent,nofun,fun he => by simp at he⟩

theorem arrive_inSync (count : Nat) : InSync codec kinds { state with
      wire := state.wire.drop count
      buffer := state.buffer ++ state.wire.take count } msgs := by
  have hs : state.buffer ++ state.wire.take count ++ state.wire.drop count =
      state.buffer ++ state.wire := by
    rw [append_assoc,take_append_drop]
  refine ⟨h.sent,?_,h.ended⟩
  intro hst
  cases h.awaits hst with
  | frame hh hr hf =>
    rw [← hs] at hf
    exact .frame hh hr hf
  | rest hh hre hr hf hb =>
    exact .rest hh hre hr hf (hs.trans hb)

theorem close_inSync : InSync codec kinds { state with closed := true } msgs := by
  refine ⟨h.sent,?_,fun he => ⟨rfl,(h.ended he).2⟩⟩
  intro hs
  cases h.awaits hs with
  | frame hh hr hf => exact .frame hh hr hf
  | rest hh hre hr hf hb => exact .rest hh hre hr hf hb

theorem write_inSync (msg : M) : ∃ later, InSync codec kinds (state.write codec msg) later := by
  unfold State.write
  split
  · exact ⟨msgs,h⟩
  · next ho =>
    split
    · next frame hfr =>
      refine ⟨msgs ++ [msg],?_,?_,?_⟩
      · rw [h.sent,append_assoc]
      · intro hs
        cases h.awaits hs with
        | frame hh hr hf =>
          refine .frame hh hr ?_
          rw [← append_assoc]
          exact hf.concat hfr
        | rest hh hre hr hf hb =>
          refine .rest hh hre hr (hf.concat hfr) ?_
          rw [← append_assoc,hb,append_assoc]
      · intro he
        exact absurd (h.ended he).1 ho
    · exact ⟨msgs,close_inSync h⟩

end

section

variable (h : InSync codec kinds state msgs)
include h

private theorem step_inSync {ev : Event M} (hc : cleanStep state ev = true) :
    ∃ later, InSync codec kinds (step codec kinds state ev) later := by
  cases ev with
  | send msg => exact write_inSync h msg
  | close => exact ⟨msgs,close_inSync h⟩
  | arrive count => exact ⟨msgs,arrive_inSync h count⟩
  | read count => exact receive_inSync h count
  | wake wakeup => exact ⟨msgs,wakeUp_inSync h hc⟩
  | leave =>
    unfold step
    dsimp only
    split
    · exact ⟨msgs,h.sent,nofun,fun he => by simp at he⟩
    · exact ⟨msgs,h⟩

private theorem foldl_inSync (hc : cleanRun codec kinds state evs = true) :
    ∃ later, InSync codec kinds (evs.foldl (step codec kinds) state) later :=
  (allAlong_iff.mp hc).keeps (fun later => ∃ msgs, InSync codec kinds later msgs)
    (fun h hs => h.elim fun _ h => step_inSync h hs) ⟨msgs,h⟩

theorem InSync.delivered : Delivered state := by
  have ha : msgs = [] → state.decoded = state.sent := by
    intro hn
    rw [h.sent,hn,append_nil]
  constructor
  · exact ⟨msgs,h.sent.symm⟩
  · intro hs hb hw
    exact ha ((h.awaits hs).eq_nil hb hw)
  · intro he
    exact ha (h.ended he).2

end

/-- However the stream is cut and delayed, the receiver decodes what was sent. -/
theorem messages_decoded_in_order (codec : MessageCodec M) (kinds : Nat → ReadKind)
    (events : List (Event M)) (hclean : cleanRun codec kinds (.initial codec kinds) events = true) :
    Delivered (run codec kinds events) := by
  obtain ⟨msgs,h⟩ := foldl_inSync InSync.initial hclean
  exact h.delivered

def textCodec : MessageCodec (List UInt8) where
  toVec text := .ok text
  fromSlice bytes := .ok bytes
  fromSlice_toVec := by
    intro text bytes h
    cases h
    rfl

def ascii (text : String) : List UInt8 := text.toList.map fun c => UInt8.ofNat c.toNat

def heartbeat (sequence : String) : List UInt8 :=
  ascii "\x7b\"message_id\":\"6f1f1a52-0c2e-4b8a-9a53-3f6f5b0f6a01\",\"edge_id\":\"edge-1\"," ++
    ascii "\"runtime_id\":\"runtime-1\",\"schema_version\":\"1.0\",\"sequence\":" ++ ascii sequence ++
    ascii ",\"timestamp\":\"2026-01-01T00:00:00Z\",\"kind\":\"heartbeat\",\"payload\":" ++
    ascii "\x7b\"type\":\"heartbeat\",\"data\":\x7b\"uptime_seconds\":60,\"pending_uploads\":0," ++
    ascii "\"active_config_version\":null\x7d\x7d\x7d"

def unhurried : List (Event (List UInt8)) :=
  let length := (heartbeat "7").length
  [.send (heartbeat "7"),.arrive 3,.read 3,.send (heartbeat "8"),.arrive 100,.read 1,
    .read 97,.arrive (2 * length),.read (length - 97),.wake .discovery,.read 4,.read length,
    .close,.read 1]

theorem unhurried_heartbeats_decoded :
    (run textCodec (fun _ => .optional) unhurried).decoded = [heartbeat "7",heartbeat "8"] ∧
      (run textCodec (fun _ => .optional) unhurried).status = .finished ∧
      Delivered (run textCodec (fun _ => .optional) unhurried) := by
  refine ⟨by decide +kernel,by decide +kernel,?_⟩
  exact messages_decoded_in_order textCodec (fun _ => .optional) unhurried (by decide +kernel)

/-- Two discovery requests, the second of which is refused, come while the gateway is inside a
frame and while it holds the last three bytes of it. -/
def interrupted : List (Event (List UInt8)) :=
  let length := (heartbeat "7").length
  [.send (heartbeat "7"),.arrive (length + 1),.read 4,.read (length - 3),.wake .discovery,
    .arrive 3,.read 3,.wake .discovery,.send (heartbeat "8"),.arrive (length + 4),.read 4,
    .read length]

/-- The heartbeat is lost, and the session goes on with the next one. -/
theorem interrupted_heartbeat_lost :
    (run textCodec (fun _ => .optional) interrupted).sent = [heartbeat "7",heartbeat "8"] ∧
      (run textCodec (fun _ => .optional) interrupted).decoded = [heartbeat "8"] ∧
      (run textCodec (fun _ => .optional) interrupted).status = .receiving := by
  decide +kernel

end VelaEdge.EdgeLink.Stream
