import VelaEdge.Serial.Iec101

/-! The frame count bit of an IEC 101 link, over any calls on one adapter. A station takes a frame
that repeats the bit of the last one for a repetition. -/
namespace VelaEdge.Serial.Iec101

open Base Core Effect
open VelaEdge.Runtime (Time ProtocolWriteResult)
open VelaEdge.Runtime.PointCollection (DataQuality DataQualityCode)
open VelaEdge.Runtime.Iec104 (TimedSample)

def f32Max : Binary64 := .finite 16777215 104

namespace Iec101CommandValue

def tryFrom (numbers : Numbers) :
    Iec104ControlType → TelemetryValue → Except String Iec101CommandValue
  | .singleCommand, .boolean value => .ok (.single value)
  | .doubleCommand, .integer value =>
    if value = 1 ∨ value = 2 then .ok (.double (.ofNat value.toNat))
    else .error s!"IEC 101 double command value must be 1 (OFF) or 2 (ON), got {value}"
  | .setpointFloat, .float value =>
    if value.isFinite && (Binary64.finite (-16777215) 104).le value && value.le f32Max then
      .ok (.setpointFloat value)
    else .error s!"IEC 101 float setpoint must be a finite f32 value, got {numbers.display value}"
  | controlType, value => .error s!"IEC 101 control type {
      controlType.debug} cannot encode telemetry value {numbers.debug value}"

end Iec101CommandValue

structure Iec101Adapter where
  connection : ProtocolConnection
  mappings : List TelemetryPointMapping
  timezoneOffsetMinutes : Int

variable (numbers : Numbers) (station : Station) (adapter : Iec101Adapter)

def readPoints (observed : Time) : List TelemetryPointMapping → LinkEffect (List TimedSample)
  | [] => pure []
  | mapping :: mappings => do
      let decoded ← readPoint numbers observed adapter.timezoneOffsetMinutes station mapping
      let samples ← readPoints observed mappings
      pure ({
        sample := {
          deviceId := mapping.deviceId
          telemetryId := mapping.pointId
          value := decoded.value
          quality := decoded.quality
          qualityCode := some (.defaultFor decoded.quality) }
        timestamp := decoded.timestamp.getD observed } :: samples)

def readTelemetry (observed : Time) : LinkEffect (List TimedSample) := do
  lift (bailIf (adapter.connection.protocol ≠ .iec101)
    "IEC 101 adapter requires an Iec101 protocol connection")
  readPoints numbers station adapter observed (adapter.mappings.filter fun mapping =>
    mapping.protocolConnectionId = adapter.connection.connectionId)

def selectBeforeOperate (options : Json) : Bool :=
  (((options.get "iec101").bind (·.get "selectBeforeOperate")).bind Json.asBool).getD false

def checkedWrite (mapping : TelemetryPointMapping) (value : TelemetryValue) :
    Except String (Iec101PointAddress × Iec104ControlType × Iec101CommandValue) := do
  bailIf (adapter.connection.protocol ≠ .iec101)
    "IEC 101 adapter requires an Iec101 protocol connection"
  bailIf (mapping.protocolConnectionId ≠ adapter.connection.connectionId)
    s!"IEC 101 point {mapping.pointId} references connection {
      mapping.protocolConnectionId} instead of {adapter.connection.connectionId}"
  bailIf (!mapping.access.isWritable) s!"IEC 101 point {mapping.pointId} is read-only"
  validateIec101Point mapping.address mapping.valueType mapping.access mapping.protocolOptions
  let address ← (parsePointAddress mapping.address).mapError fun _ =>
    s!"invalid IEC 101 address for point {mapping.pointId}"
  let control ← context (controlType "iec101" mapping.protocolOptions)
    "writable IEC 101 point is missing control options"
  let command ← Iec101CommandValue.tryFrom numbers control value
  pure (address,control,command)

def writePoint (mapping : TelemetryPointMapping) (value : TelemetryValue) :
    LinkEffect ProtocolWriteResult := do
  let (address,control,command) ← lift (checkedWrite numbers adapter mapping value)
  ensureLinkInitialized station address.linkAddress
  if selectBeforeOperate mapping.protocolOptions then
    sendCommand station address control command true "select"
  sendCommand station address control command false "execute"
  pure ⟨mapping.pointId,value,true,none⟩

inductive Call where
  | readTelemetry (observed : Time)
  | writePoint (mapping : TelemetryPointMapping) (value : TelemetryValue)

def Call.perform : Call → LinkEffect Unit
  | .readTelemetry observed => do
      let _ ← Iec101.readTelemetry numbers station adapter observed
  | .writePoint mapping value => do
      let _ ← Iec101.writePoint numbers station adapter mapping value

/-- Calls one after the other; a failed one does not keep the next from being made. -/
def perform : List Call → LinkEffect Unit
  | [] => pure ()
  | call :: calls => do
      let _ ← attempt (call.perform numbers station adapter)
      perform calls

/-! ## The bits on the wire -/

def header (frame : Bytes) : UInt8 × UInt8 :=
  if frame.head? = some fixedFrameStart then (frame.getD 1 0,frame.getD 2 0)
  else (frame.getD 4 0,frame.getD 5 0)

def frameCountValid (frame : Bytes) : Bool := (header frame).1 &&& 0x10 ≠ 0

def frameCountBit (frame : Bytes) : Bool := (header frame).1 &&& 0x20 ≠ 0

/-- The bit a station has heard last since its link was reset. -/
def heard (linkAddress : UInt8) (last : Option Bool) (frame : Bytes) : Option Bool :=
  if (header frame).2 ≠ linkAddress then last
  else if frameCountValid frame then some (frameCountBit frame) else none

/-- No counted frame to a station repeats the bit it has heard last. -/
def alternates (linkAddress : UInt8) : Option Bool → List Bytes → Bool
  | _, [] => true
  | last, frame :: frames =>
    ((header frame).2 ≠ linkAddress || !frameCountValid frame ||
      last ≠ some (frameCountBit frame)) &&
      alternates linkAddress (heard linkAddress last frame) frames

@[simp] theorem alternates_append (linkAddress : UInt8) (last : Option Bool)
    (frames later : List Bytes) :
    alternates linkAddress last (frames ++ later) = (alternates linkAddress last frames &&
      alternates linkAddress (frames.foldl (heard linkAddress) last) later) := by
  induction frames generalizing last with
  | nil => rfl
  | cons frame frames ih => simp [alternates,ih,Bool.and_assoc]

/-- Every request is answered, and no answer is a mere acknowledgement, after which the station would
be polled. -/
def AnswersAtOnce (station : Station) : Prop :=
  ∀ count frame, frame.head? = some variableFrameStart →
    ∃ response, station count frame = .ok response ∧ (containsVariableFrame response = true ∨
      validateLinkAck response (header frame).2 ≠ .ok ())

/-- The next bit is not one that the station of the link has heard last. -/
def Fits (last : UInt8 → Option Bool) (link : Link) : Prop :=
  ∀ linkAddress, link.initializedLink = some linkAddress →
    last linkAddress ≠ some link.frameCountBit

/-- From a link with `before` and a fitting bit, a computation sends alternating frames and leaves
a fitting bit; if it succeeds, `after` holds. -/
def Keeps (before after : Link → Prop) (effect : LinkEffect α) : Prop :=
  ∀ link last, before link → Fits last link →
    (∀ linkAddress, alternates linkAddress (last linkAddress) (effect.run link).log = true) ∧
    Fits (fun linkAddress => (effect.run link).log.foldl (heard linkAddress) (last linkAddress))
      (effect.run link).state ∧
    ∀ value, (effect.run link).result = .ok value → after (effect.run link).state

section Keeps

variable {before between after : Link → Prop}

theorem Keeps.bind {next : α → LinkEffect β} (hf : Keeps before between first)
    (hn : ∀ value, Keeps between after (next value)) : Keeps before after (first >>= next) := by
  intro link last hb hl
  obtain ⟨ha,hs,hv⟩ := hf link last hb hl
  cases hr : first.run link with
  | mk state log res =>
  rw [hr] at ha hs hv
  cases res with
  | error why =>
    rw [run_bind_error next hr]
    exact ⟨ha,hs,fun value h => by cases h⟩
  | ok value =>
    obtain ⟨han,hsn,hvn⟩ := hn value state _ (hv value rfl) hs
    rw [run_bind_ok next hr]
    refine ⟨fun linkAddress => ?_,by simpa only [List.foldl_append] using hsn,hvn⟩
    rw [alternates_append,ha,han]
    rfl

variable {effect : LinkEffect α}

theorem Keeps.silent (h : ∀ link, (effect.run link).state = link)
    (hl : ∀ link, (effect.run link).log = []) : Keeps before before effect := by
  intro link last hb hf
  rw [h,hl]
  exact ⟨fun _ => rfl,hf,fun _ _ => hb⟩

theorem Keeps.weaken (h : Keeps before between effect) : Keeps before (fun _ => True) effect :=
  fun link last hb hf => ⟨(h link last hb hf).1,(h link last hb hf).2.1,fun _ _ => trivial⟩

end Keeps

def Ready (linkAddress : UInt8) (link : Link) : Prop := link.initializedLink = some linkAddress

theorem ensureLinkInitialized_keeps (linkAddress : UInt8) :
    Keeps (fun _ => True) (Ready linkAddress) (ensureLinkInitialized station linkAddress) := by
  intro link last _ hf
  by_cases hi : link.initializedLink = some linkAddress
  · have hr : (ensureLinkInitialized station linkAddress).run link = ⟨link,[],.ok ()⟩ := by
      simp [ensureLinkInitialized,Bind.bind,Ran.next,reading,hi]
    rw [hr]
    exact ⟨fun _ => rfl,hf,fun _ _ => hi⟩
  · -- the reset frame is not counted, and its station forgets the bit it has heard
    have hc : frameCountValid (buildFixedFrame primaryResetRemoteLink linkAddress) = false := by
      change decide (primaryResetRemoteLink &&& 0x10 ≠ 0) = false
      decide
    have hd : header (buildFixedFrame primaryResetRemoteLink linkAddress) =
        (primaryResetRemoteLink,linkAddress) := rfl
    have hh : ∀ other, heard other (last other) (buildFixedFrame primaryResetRemoteLink
        linkAddress) = if linkAddress ≠ other then last other else none := by
      simp [heard,hc,hd]
    have ha : ∀ other, alternates other (last other)
        [buildFixedFrame primaryResetRemoteLink linkAddress] = true := by simp [alternates,hc]
    have hfa : Fits (fun other => [buildFixedFrame primaryResetRemoteLink linkAddress].foldl
        (heard other) (last other)) { link with frames := link.frames + 1 } := by
      intro other ho
      have hne : linkAddress ≠ other := fun he => hi (he ▸ ho)
      simpa [hh,hne] using hf other ho
    cases hs : station link.frames (buildFixedFrame primaryResetRemoteLink linkAddress) with
    | error why =>
      simp only [ensureLinkInitialized,Bind.bind,Ran.next,reading,hi,if_false,transact,hs]
      exact ⟨ha,hfa,fun _ h => by cases h⟩
    | ok resp =>
      cases hv : validateLinkAck resp linkAddress with
      | error why =>
        simp only [ensureLinkInitialized,Bind.bind,Ran.next,reading,hi,if_false,
          transact,hs,withContext,run_lift,hv,Except.mapError]
        exact ⟨ha,hfa,fun _ h => by cases h⟩
      | ok =>
        simp only [ensureLinkInitialized,Bind.bind,Ran.next,reading,hi,if_false,
          transact,hs,withContext,run_lift,hv,Except.mapError,changing]
        refine ⟨ha,fun other ho => ?_,fun _ _ => rfl⟩
        cases ho
        simp [hh]

private theorem primaryControl_bits (bit : Bool) :
    decide (primaryControl bit primarySendConfirmedUserData &&& 0x10 ≠ 0) = true ∧
      decide (primaryControl bit primarySendConfirmedUserData &&& 0x20 ≠ 0) = bit := by
  cases bit <;> decide

theorem exchange_keeps (ha : AnswersAtOnce station) {req : Request}
    (hb : ∀ control frame, req.build control = .ok frame →
      frame.head? = some variableFrameStart ∧ header frame = (control,linkAddress)) :
    Keeps (Ready linkAddress) (Ready linkAddress) (exchange station req linkAddress) := by
  intro link last hr hf
  cases hbu : req.build (primaryControl link.frameCountBit primarySendConfirmedUserData) with
  | error why =>
    have hx : (exchange station req linkAddress).run link = ⟨link,[],.error why⟩ := by
      simp [exchange,Bind.bind,Ran.next,reading,hbu]
    rw [hx]
    exact ⟨fun _ => rfl,hf,fun _ h => by cases h⟩
  | ok frame =>
    obtain ⟨hh,hhd⟩ := hb _ _ hbu
    obtain ⟨resp,hs,hc⟩ := ha link.frames frame hh
    rw [hhd] at hc
    obtain ⟨out,hx⟩ : ∃ out, (exchange station req linkAddress).run link =
        ⟨{ link with frameCountBit := !link.frameCountBit, frames := link.frames + 1 },[frame],
          out⟩ := by
      by_cases hd : containsVariableFrame resp = true
      · exact ⟨.ok resp,by simp [exchange,Bind.bind,Ran.next,reading,changing,withContext,transact,
          hbu,hs,hd,Except.mapError]⟩
      · cases hv : validateLinkAck resp linkAddress with
        | ok => exact absurd hv (hc.resolve_left hd)
        | error why =>
          exact ⟨.error (req.unacknowledged.getD why),by simp [exchange,Bind.bind,Ran.next,reading,
            changing,withContext,transact,hbu,hs,hd,hv,Except.mapError]⟩
    have hv : frameCountValid frame = true := by
      rw [frameCountValid,hhd]
      exact (primaryControl_bits _).1
    have hbi : frameCountBit frame = link.frameCountBit := by
      rw [frameCountBit,hhd]
      exact (primaryControl_bits _).2
    rw [hx]
    refine ⟨fun other => ?_,fun other ho => ?_,fun _ _ => hr⟩
    · by_cases he : linkAddress = other
      · subst he
        simp [alternates,hbi,hf _ hr]
      · simp [alternates,hhd,he]
    · cases hr.symm.trans ho
      simp [heard,hhd,hv,hbi]

theorem lift_keeps {before : Link → Prop} (out : Except String α) :
    Keeps before before (lift out) :=
  .silent (fun _ => rfl) fun _ => rfl

section

variable (ha : AnswersAtOnce station)

include ha

private theorem readPoint_keeps (observed : Time) (timezoneOffsetMinutes : Int)
    (mapping : TelemetryPointMapping) :
    Keeps (fun _ => True) (fun _ => True)
      (readPoint numbers observed timezoneOffsetMinutes station mapping) := by
  refine .bind (.silent (fun _ => rfl) fun _ => rfl) fun addr => ?_
  refine .bind (ensureLinkInitialized_keeps station addr.linkAddress) fun _ => ?_
  refine .bind (exchange_keeps station ha fun control frame h => ?_) fun resp =>
    (lift_keeps _).weaken
  cases h
  exact ⟨rfl,rfl⟩

theorem readPoints_keeps (observed : Time) (mappings : List TelemetryPointMapping) :
    Keeps (fun _ => True) (fun _ => True)
      (readPoints numbers station adapter observed mappings) := by
  induction mappings with
  | nil => exact lift_keeps (.ok [])
  | cons mapping mappings ih =>
    exact .bind (readPoint_keeps numbers station ha observed _ mapping) fun _ =>
      .bind ih fun _ => lift_keeps (.ok _)

private theorem sendCommand_keeps (addr : Iec101PointAddress)
    (controlType : Iec104ControlType) (cmd : Iec101CommandValue) (select : Bool)
    (phase : String) :
    Keeps (Ready addr.linkAddress) (Ready addr.linkAddress)
      (sendCommand station addr controlType cmd select phase) := by
  refine .bind (exchange_keeps station ha fun control frame h => ?_) fun _ => lift_keeps _
  simp only [commandRequest,buildControlCommand] at h
  split at h
  all_goals cases h
  all_goals exact ⟨rfl,rfl⟩

private theorem writePoint_keeps (mapping : TelemetryPointMapping) (value : TelemetryValue) :
    Keeps (fun _ => True) (fun _ => True) (writePoint numbers station adapter mapping value) := by
  refine .bind (lift_keeps _) fun ⟨addr,control,cmd⟩ => ?_
  refine .bind (ensureLinkInitialized_keeps station addr.linkAddress) fun _ => ?_
  have hex : Keeps (Ready addr.linkAddress) (fun _ => True) (do
      sendCommand station addr control cmd false "execute"
      pure (⟨mapping.pointId,value,true,none⟩ : ProtocolWriteResult)) :=
    .bind (sendCommand_keeps station ha addr control cmd false "execute") fun _ =>
      (lift_keeps (.ok _)).weaken
  by_cases hs : selectBeforeOperate mapping.protocolOptions = true
  · simp only [hs,if_true]
    exact .bind (sendCommand_keeps station ha addr control cmd true "select") fun _ => hex
  · simp only [hs]
    exact hex

private theorem call_keeps (call : Call) :
    Keeps (fun _ => True) (fun _ => True) (call.perform numbers station adapter) := by
  cases call with
  | readTelemetry observed =>
    exact .bind (.bind (lift_keeps _) fun _ => readPoints_keeps numbers station adapter ha _ _)
      fun _ => lift_keeps (.ok ())
  | writePoint mapping value =>
    exact .bind (writePoint_keeps numbers station adapter ha mapping value)
      fun _ => lift_keeps (.ok ())

end

/-- Where no request is answered by a mere acknowledgement, no station ever hears a bit twice in a row,
whatever calls are made on the adapter and however their other frames are answered. -/
theorem frame_count_alternates (ha : AnswersAtOnce station) (calls : List Call)
    (linkAddress : UInt8) :
    alternates linkAddress none ((perform numbers station adapter calls).run {}).log = true := by
  have hk : Keeps (fun _ => True) (fun _ => True) (perform numbers station adapter calls) := by
    induction calls with
    | nil => exact lift_keeps (.ok ())
    | cons call calls ih =>
      refine .bind (fun link last hb hf => ?_) fun _ => ih
      obtain ⟨hal,hft,-⟩ := call_keeps numbers station adapter ha call link last hb hf
      exact ⟨hal,hft,fun _ _ => trivial⟩
  exact (hk {} (fun _ => none) trivial fun _ h => by cases h).1 linkAddress

def feeder : Iec101Adapter where
  connection := ⟨"serial-1",.iec101,.null⟩
  mappings := [breaker "3:1:100"]
  timezoneOffsetMinutes := 0

def promptStation (address : Iec101PointAddress) : Station := fun _ frame =>
  .ok (if frame.head? = some variableFrameStart then dataFrame 8 1 5 0 address [1]
    else buildFixedFrame 0 address.linkAddress)

theorem prompt_reads_alternate :
    alternates 3 none ((perform plainNumbers (promptStation ⟨3,1,100⟩) feeder
      [.readTelemetry 0,.readTelemetry 0]).run {}).log = true :=
  frame_count_alternates plainNumbers (promptStation ⟨3,1,100⟩) feeder
    (fun _ _ h => ⟨_,by rw [promptStation,if_pos h],.inl (by decide)⟩)
    [.readTelemetry 0,.readTelemetry 0] 3

/-- Two reads from a station that acknowledges a request and is then polled: the poll of the first
and the request of the second carry the same bit. -/
theorem polled_reads_repeat : ((perform plainNumbers (polledStation ⟨3,1,100⟩) feeder
      [.readTelemetry 0,.readTelemetry 0]).run {}).log =
        [buildFixedFrame 0x40 3,buildReadCommand 0x53 ⟨3,1,100⟩,buildFixedFrame 0x7B 3,
          buildReadCommand 0x73 ⟨3,1,100⟩,buildFixedFrame 0x5B 3] ∧
    alternates 3 none ((perform plainNumbers (polledStation ⟨3,1,100⟩) feeder
      [.readTelemetry 0,.readTelemetry 0]).run {}).log = false :=
  ⟨rfl,by decide +kernel⟩

end VelaEdge.Serial.Iec101
