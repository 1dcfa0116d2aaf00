import VelaEdge.Runtime.AppliedConfig
import VelaEdge.Runtime.FlowRuns

/-! Which deliveries of a command are answered and audited. The planner checks expiry and approval
before the command is claimed, so a delivery it turns down leaves neither reply nor record. -/
namespace VelaEdge.Runtime.CommandAnswers

open Base Core Command LocalDb Outbox CommandExecution FlowRuns List OrderedMap
open AppliedConfig

def ChecksFlowIds (checks : FieldChecks) : Prop :=
  ∀ flow mappings, checks.validateCommandFlow flow mappings = .ok () →
    Text.isBlank flow.flowId = false

section Applied

variable {checks : FieldChecks} (applied : AppliedEdgeConfig checks)

theorem applied_flow (h : flow ∈ applied.package.commandFlows) :
    hasSink applied.package flow.mqttConnectionId = true ∧
      checks.validateCommandFlow flow applied.package.pointMappings = .ok () := by
  have hv := applied.valid
  unfold validateConfigReferences at hv
  simp only [bind_eq_ok] at hv
  obtain ⟨_,-,_,-,_,-,_,-,hfl⟩ := hv
  have hf := forM_eq_ok.mp hfl flow h
  unfold checkCommandFlow at hf
  simp only [bind_eq_ok,bailIf_eq_ok] at hf
  obtain ⟨_,-,_,hs,hc⟩ := hf
  exact ⟨by simpa using hs,hc⟩

theorem applied_uplink {plan : CommandExecutionPlan}
    (hp : planCommandExecution ext applied.package flow body now = .ok plan) :
    ∃ uplink, replyUplink applied.package plan = some uplink := by
  obtain ⟨doc,walk,planned⟩ := planned_of_ok ext hp
  have hs := (applied_flow applied (mem_of_find?_eq_some planned.found)).1
  unfold replyUplink
  rw [← Option.isSome_iff_exists,List.find?_isSome]
  simpa [hasSink] using hs

theorem applied_named (hc : ChecksFlowIds checks) {msg : MqttCommandMessage}
    (hr : routedFlow applied.package msg flowId = .ok ()) : Named applied.package flowId := by
  refine ⟨applied.edgeId_present,?_⟩
  unfold routedFlow at hr
  simp only [bind_eq_ok,context_eq_ok] at hr
  obtain ⟨flow,hf,-⟩ := hr
  have hch := (applied_flow applied (mem_of_find?_eq_some hf)).2
  have hid : flow.flowId = flowId := by simpa using List.find?_some hf
  rw [← hid]
  exact hc flow _ hch

end Applied

variable (ext : Externals) (package : EdgeConfigPackage) (field : Field)
  (message : MqttCommandMessage) (now : Time) (flowId commandId : String)

/-- A terminal record and queued replies that both tell this report. -/
structure Concluded (before after : Db) (report : CommandExecutionReport) : Prop where
  audited : ∃ record,
    after.get (commandAuditKey ext package.edgeId flowId commandId) =
      some (.commandAudit record) ∧
    record.payloadDigest = sha256Hex ext message.payload ∧ record.state ≠ .processing ∧
    record.executionReport = some { report with duplicate := true }
  replied : report.replies ≠ []
  told : ∀ reply ∈ report.replies, reply.payload = ext.encodeJson (replyDocument ext report)
  queued : ∃ last, Queues before after now last report.replies

/-- A delivery is answered: carried out, turned down by policy before any write, or replayed. -/
inductive Answered (db : Db) (ran : Ran Db (String × PlannedPointWrite) String
    CommandExecutionReport) : Prop
  | executed (plan : CommandExecutionPlan) (report : CommandExecutionReport)
      (planned : planCommandExecution ext package flowId message.payload now = .ok plan)
      (wrote : ran.log = (writeLoop ext package field flowId now plan.writes.length plan.writes
        (newReport plan now)).2.map (fun write => (flowId, write)))
      (returned : ran.result = .ok report)
      (concluded : Concluded ext package message now flowId commandId db ran.state report)
  | rejected (report : CommandExecutionReport) (wrote : ran.log = [])
      (failed : report.status = .failed) (returned : ran.result = .ok report)
      (concluded : Concluded ext package message now flowId commandId db ran.state report)
  | replayed (record : CommandAuditRecord) (report : CommandExecutionReport)
      (stored : db.get (commandAuditKey ext package.edgeId flowId commandId) =
        some (.commandAudit record))
      (digest : record.payloadDigest = sha256Hex ext message.payload)
      (completed : record.executionReport = some report) (wrote : ran.log = [])
      (returned : ran.result = .ok report)
      (kept : ran.state.get (commandAuditKey ext package.edgeId flowId commandId) =
        some (.commandAudit record))
      (queued : ∃ last, Queues db ran.state now last record.replies)

/-- The planner accepts the payload at this time, its command is new or has completed with the
same payload, and the outbox can number the replies. -/
def Answerable (db : Db) : Prop :=
  ∃ plan, planCommandExecution ext package flowId message.payload now = .ok plan ∧
    ((db.get (commandAuditKey ext package.edgeId flowId commandId) = none ∧
        Room db plan.replyNodeIds.length) ∨
      ∃ record, db.get (commandAuditKey ext package.edgeId flowId commandId) =
          some (.commandAudit record) ∧
        record.payloadDigest = sha256Hex ext message.payload ∧ record.state ≠ .processing ∧
        Room db record.replies.length)

variable {ext package field message now flowId commandId} {db : Db} {plan : CommandExecutionPlan}
  {uplink : MqttUplinkConfig}

theorem plan_commandId {doc : Json} (hp : ext.parseJson message.payload = some doc)
    (hc : commandIdOf doc = some commandId)
    (hpl : planCommandExecution ext package flowId message.payload now = .ok plan) :
    plan.commandId = commandId := by
  obtain ⟨found,walk,planned⟩ := planned_of_ok ext hpl
  have hf := planned.parsed
  rw [hp,Option.some.injEq] at hf
  subst hf
  have hid := planned.commandId
  rw [hc,Option.some.injEq] at hid
  exact hid.symm

private theorem concluded_told (safety : Except String Unit) :
    ∀ reply ∈ (concluded ext package field plan uplink now safety).1.replies,
      reply.payload = ext.encodeJson (replyDocument ext
        (concluded ext package field plan uplink now safety).1) := by
  intro reply hr
  cases safety with
  | ok =>
    obtain ⟨node,-,rfl⟩ := mem_map.mp hr
    rfl
  | error why =>
    obtain ⟨node,-,rfl⟩ := mem_map.mp hr
    rfl

variable {rep : CommandExecutionReport} {record : CommandAuditRecord}

theorem executionReport_replies (h : record.executionReport = some rep) :
    rep.replies = record.replies := by
  unfold CommandAuditRecord.executionReport at h
  split at h <;> cases h <;> rfl

theorem executionReport_of_state (h : record.state ≠ .processing) :
    ∃ rep, record.executionReport = some rep := by
  unfold CommandAuditRecord.executionReport
  cases hs : record.state with
  | processing => exact absurd hs h
  | succeeded => exact ⟨_,rfl⟩
  | failed => exact ⟨_,rfl⟩

private theorem started_concluded
    (hp : planCommandExecution ext package flowId message.payload now = .ok plan) {after : Db}
    (hq : Queues db after now last
      (startedOutcome ext package field message now flowId plan uplink db).1.replies)
    (hs : SameElsewhere (startedStore ext package field message now flowId plan uplink db) after) :
    Concluded ext package message now flowId plan.commandId db after
      (startedOutcome ext package field message now flowId plan uplink db).1 where
  audited := by
    have hi := concluded_ids ext package field plan uplink now
      (startedSafety ext package message now flowId plan db).2
    have hr := hs _ (outside_mqtt_of_audit
      (commandAuditKey_inside ext package.edgeId flowId plan.commandId))
    rw [startedStore,get_put_self] at hr
    exact ⟨_,hr,rfl,completedRecord_state _ _,completedRecord_executionReport
      ((plan_flowId ext hp).symm.trans hi.1.symm) hi.2.symm⟩
  replied := by
    obtain ⟨doc,walk,planned⟩ := planned_of_ok ext hp
    intro hn
    have hl := concluded_replies_length ext package field plan uplink now
      (startedSafety ext package message now flowId plan db).2
    rw [startedOutcome] at hn
    rw [hn] at hl
    exact planned.replies_ne_nil (eq_nil_of_length_eq_zero hl.symm)
  told := concluded_told _
  queued := ⟨last,hq⟩

theorem started_answered (hd : delivery ext package message now flowId db = .started plan)
    (hp : planCommandExecution ext package flowId message.payload now = .ok plan)
    (hu : replyUplink package plan = some uplink) (hr : Room db plan.replyNodeIds.length) :
    Answered ext package field message now flowId plan.commandId db
      ((processFlow ext package field message now flowId).run db) := by
  obtain ⟨last,hl,hr⟩ := hr
  have hf := plan_flowId ext hp
  obtain ⟨after,hru,hq,hsa⟩ := processFlow_started_queues field hd hf hu hl hr
  have hc := started_concluded hp hq hsa
  rw [hru]
  cases hs : (startedSafety ext package message now flowId plan db).2 with
  | ok =>
    refine .executed plan _ hp ?_ rfl hc
    simp [startedOutcome,hs,concluded,hf]
  | error why =>
    refine .rejected _ ?_ ?_ rfl hc
    · simp [startedOutcome,hs,concluded]
    · simp [startedOutcome,hs,concluded,withReplies,CommandExecutionReport.fail]

theorem replayed_answered (field : Field)
    (hd : delivery ext package message now flowId db = .replayed record rep)
    (hre : db.get (commandAuditKey ext package.edgeId flowId commandId) =
      some (.commandAudit record)) (hdi : record.payloadDigest = sha256Hex ext message.payload)
    (hrt : record.executionReport = some rep) (hro : Room db record.replies.length) :
    Answered ext package field message now flowId commandId db
      ((processFlow ext package field message now flowId).run db) := by
  obtain ⟨last,hl,hro⟩ := hro
  have hr := executionReport_replies hrt
  rw [← hr] at hro
  obtain ⟨after,hru,hq,hs⟩ := processFlow_replayed_queues field hd hl hro
  rw [hru]
  refine .replayed record rep hre hdi hrt rfl rfl ?_ ?_
  · rw [hs _ (outside_mqtt_of_audit (commandAuditKey_inside ext _ _ _)),hre]
  · rw [← hr]
    exact ⟨last,hq⟩

private theorem delivery_of_ok
    (h : ((processFlow ext package field message now flowId).run db).result = .ok rep) :
    (∃ plan, delivery ext package message now flowId db = .started plan) ∨
      ∃ record stored, delivery ext package message now flowId db = .replayed record stored := by
  rw [processFlow_run] at h
  cases hd : delivery ext package message now flowId db with
  | refused why =>
    rw [hd] at h
    cases h
  | started plan => exact .inl ⟨plan,rfl⟩
  | replayed record stored => exact .inr ⟨record,stored,rfl⟩

theorem Answered.returns (h : Answered ext package field message now flowId commandId db ran) :
    ∃ rep, ran.result = .ok rep ∧ Room db rep.replies.length := by
  cases h with
  | executed plan rep planned wrote returned concluded =>
    obtain ⟨last,hq⟩ := concluded.queued
    exact ⟨rep,returned,last,hq.counted,hq.room⟩
  | rejected rep wrote failed returned concluded =>
    obtain ⟨last,hq⟩ := concluded.queued
    exact ⟨rep,returned,last,hq.counted,hq.room⟩
  | replayed record rep stored digest completed wrote returned kept queued =>
    obtain ⟨last,hq⟩ := queued
    rw [← executionReport_replies completed] at hq
    exact ⟨rep,returned,last,hq.counted,hq.room⟩

/-- Whatever is routed to an applied flow and carries a command id is answered and audited exactly
when the planner accepts it and its command is new or completed. -/
theorem delivery_answered_iff {checks : FieldChecks} (applied : AppliedEdgeConfig checks)
    (hchecks : ChecksFlowIds checks) (ext : Externals) (field : Field)
    (message : MqttCommandMessage) (now : Time) (flowId commandId : String) (db : Db)
    (hrouted : routedFlow applied.package message flowId = .ok ()) {document : Json}
    (hparsed : ext.parseJson message.payload = some document)
    (hcommand : commandIdOf document = some commandId) :
    Answered ext applied.package field message now flowId commandId db
        ((processFlow ext applied.package field message now flowId).run db) ↔
      Answerable ext applied.package message now flowId commandId db := by
  have hn := applied_named applied hchecks hrouted
  constructor
  · intro ha
    obtain ⟨rep,hr,hro⟩ := ha.returns
    rcases delivery_of_ok hr with ⟨plan,hd⟩ | ⟨record,stored,hd⟩
    · obtain ⟨-,hp,hno⟩ := (delivery_started_iff hn).mp hd
      obtain ⟨uplink,hu⟩ := applied_uplink applied hp
      rw [processFlow_started field hd (plan_flowId ext hp) hu] at hr
      rw [answer_result hr,startedOutcome,concluded_replies_length] at hro
      rw [plan_commandId hparsed hcommand hp] at hno
      exact ⟨plan,hp,.inl ⟨hno,hro⟩⟩
    · obtain ⟨-,plan,hp,hre,hdi,hst⟩ := (delivery_replayed_iff hn).mp hd
      rw [processFlow_run,hd] at hr
      rw [answer_result hr,executionReport_replies hst] at hro
      rw [plan_commandId hparsed hcommand hp] at hre
      refine ⟨plan,hp,.inr ⟨record,hre,hdi,?_,hro⟩⟩
      intro hs
      simp [CommandAuditRecord.executionReport,hs] at hst
  · rintro ⟨plan,hp,hc⟩
    have hid := plan_commandId hparsed hcommand hp
    subst hid
    rcases hc with ⟨hno,hro⟩ | ⟨record,hre,hdi,hs,hro⟩
    · obtain ⟨uplink,hu⟩ := applied_uplink applied hp
      exact started_answered ((delivery_started_iff hn).mpr ⟨hrouted,hp,hno⟩) hp hu hro
    · obtain ⟨rep,hrt⟩ := executionReport_of_state hs
      exact replayed_answered field ((delivery_replayed_iff hn).mpr
        ⟨hrouted,plan,hp,hre,hdi,hrt⟩) hre hdi hrt hro

/-! A plant with three command flows, and a command that expires after five seconds. -/

def presentChecks : FieldChecks := { lenientChecks with
    validateCommandFlow flow _ := bailIf (Text.isBlank flow.flowId) "command flow id is required" }

theorem presentChecks_flowIds : ChecksFlowIds presentChecks := by
  intro flow mappings h
  simpa [presentChecks] using h

def plantPoint (pointId : String) (valueType : TelemetryType) : TelemetryPointMapping where
  pointId := pointId
  deviceId := "plc-1"
  semanticId := pointId
  protocolConnectionId := "plc"
  address := .null
  valueType := valueType
  access := .readWrite
  protocolOptions := .null
  range := none
  readTransforms := []

def plantFlow (flowId pointId : String) : CommandFlowConfig where
  flowId := flowId
  enabled := true
  protocolConnectionId := ""
  mqttConnectionId := "cloud"
  subscribeTopic := "edge/edge-1/command"
  qos := 1
  replyTopicTemplate := "edge/edge-1/reply"
  nodes := [⟨"input",.mqttInput,none,[]⟩,⟨"write",.pointWrite,some pointId,[]⟩,
    ⟨"reply",.mqttReply,none,[]⟩]
  edges := [⟨"e1","input",none,"write"⟩,⟨"e2","write",none,"reply"⟩]

def plantPackage : EdgeConfigPackage :=
  { EdgeConfigPackage.new "edge-1" "v1" with
    mqttUplinks := [.velamq "cloud" "mqtt://mqtt.local:1883" "edge-1"]
    protocolConnections := [⟨"plc",.modbusTcp,.null⟩]
    pointMappings := [plantPoint "valve" .boolean,plantPoint "bypass" .boolean,
      plantPoint "speed" .integer]
    commandFlows := [plantFlow "open-valve" "valve",plantFlow "open-bypass" "bypass",
      plantFlow "set-speed" "speed"] }

def plant : AppliedEdgeConfig presentChecks where
  package := plantPackage
  edgeId_present := rfl
  version_present := rfl
  valid := rfl

def plantField : Field where
  writePoint _ remaining := match remaining with
    | write :: _ => .ok ⟨write.mapping.pointId,write.value,true,none⟩
    | [] => .error "command write batch cannot be empty"
  writeModbusPrefix _ remaining := match remaining with
    | write :: _ => .ok (1,[⟨write.mapping.pointId,write.value,true,none⟩])
    | [] => .error "command write batch cannot be empty"

def openText : String :=
  "\x7b\"commandId\":\"c-1\",\"expiresAt\":\"1970-01-01T00:00:05Z\",\"value\":true\x7d"

/-- Its bytes: the text is ASCII. -/
def openPayload : Bytes := openText.toList.map fun c => UInt8.ofNat c.toNat

def openDocument : Json :=
  .object [("commandId",.string "c-1"),("expiresAt",.string "1970-01-01T00:00:05Z"),
    ("value",.bool true)]

def openCommand (flowIds : List String) : MqttCommandMessage where
  sinkId := "cloud"
  topic := "edge/edge-1/command"
  payload := openPayload
  flowIds := flowIds

def digestBytes (digest : Nat) : Bytes :=
  (List.range 32).map fun index => UInt8.ofNat (digest / 256 ^ (31 - index))

/-- The libraries, on the inputs that the command and its three flows give them. -/
def plantExternals : Externals where
  parseJson payload := if payload = openPayload then some openDocument else none
  encodeJson document := document.render.toUTF8.data.toList
  parseRfc3339 text := if text = "1970-01-01T00:00:05Z" then some 5000000000 else none
  renderTime _ := "1970-01-01T00:00:01Z"
  displayF64 _ := "0"
  debugValue _ := "Boolean(true)"
  sha256 input := digestBytes (
    if input = openPayload then
      0xacacec582b3c6ec4db5514121cb38d74aac02e502d4582eee78691de61129f19
    else if input = scopedId "edge-1" "open-valve" "c-1" then
      0x4450a4f274455ffaba345ee9a8502daf1c92c98ea7f2cf9ee8e9ae91fdd44c71
    else if input = scopedId "edge-1" "open-bypass" "c-1" then
      0x2a1f5ac50aa2b6ec8ce4fceefa15274e0cbd9b3750c02207570dc1a5d24953e9
    else 0xb7ad1e1c551fed773805030175d4b5325edacd3bae75fe0184ca74e3671a44db)

/-- The command after its expiry: refused by the planner, whatever the store holds, so neither a
first delivery nor a repeated one is answered or leaves a record. -/
theorem expired_delivery_unanswered :
    routedFlow plant.package (openCommand ["open-valve"]) "open-valve" = .ok () ∧
    plantExternals.parseJson (openCommand ["open-valve"]).payload = some openDocument ∧
    commandIdOf openDocument = some "c-1" ∧
    ∀ db, (processFlow plantExternals plant.package plantField (openCommand ["open-valve"])
        6000000000 "open-valve").run db = ⟨db,[],.error "command has expired"⟩ ∧
      ¬ Answered plantExternals plant.package plantField (openCommand ["open-valve"]) 6000000000
        "open-valve" "c-1" db ((processFlow plantExternals plant.package plantField
          (openCommand ["open-valve"]) 6000000000 "open-valve").run db) := by
  have hru : ∀ db, (processFlow plantExternals plant.package plantField
      (openCommand ["open-valve"]) 6000000000 "open-valve").run db =
      ⟨db,[],.error "command has expired"⟩ := fun db => rfl
  refine ⟨rfl,rfl,rfl,fun db => ⟨hru db,fun ha => ?_⟩⟩
  obtain ⟨rep,hr,-⟩ := ha.returns
  rw [hru db] at hr
  cases hr

/-- Before its expiry the same command is carried out and answered. -/
theorem open_valve_answered :
    Answered plantExternals plant.package plantField (openCommand ["open-valve"]) 1000000000
      "open-valve" "c-1" empty ((processFlow plantExternals plant.package plantField
        (openCommand ["open-valve"]) 1000000000 "open-valve").run empty) :=
  (delivery_answered_iff plant presentChecks_flowIds plantExternals plantField
    (openCommand ["open-valve"]) 1000000000 "open-valve" "c-1" empty rfl rfl rfl).mpr
    ⟨_,rfl,.inl ⟨rfl,0,.inr ⟨rfl,rfl⟩,by decide⟩⟩

end VelaEdge.Runtime.CommandAnswers
