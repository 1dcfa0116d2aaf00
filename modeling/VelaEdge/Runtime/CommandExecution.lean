import VelaEdge.Base.Effect
import VelaEdge.Runtime.Outbox

/-! Executing a command message: for each flow it is routed to, plan, claim, check the safety
gates, write the points, complete the audit record and queue the replies; then flush the outbox. -/
namespace VelaEdge.Runtime

open Base Core List Effect

structure MqttCommandMessage where
  sinkId : String
  topic : String
  payload : Bytes
  flowIds : List String

/-- How the field answers the write calls of one command, given the flow and the writes still to
be done. -/
structure Field where
  writePoint : String → List PlannedPointWrite → Except String ProtocolWriteResult
  writeModbusPrefix : String → List PlannedPointWrite →
    Except String (Nat × List ProtocolWriteResult)

variable {plan : CommandExecutionPlan}

namespace CommandExecution

open Command LocalDb Outbox

variable (package : EdgeConfigPackage)

def isModbusResponseWrite (write : PlannedPointWrite) : Bool :=
  if write.verification ≠ .response then false
  else
    match package.protocolConnections.find?
        (fun connection => connection.connectionId = write.mapping.protocolConnectionId) with
    | some connection => connection.protocol = .modbusTcp || connection.protocol = .modbusRtu
    | none => false

/-- The writes one adapter call may send: a run of response-verified writes on one Modbus
connection, or a single write. -/
def adapterBatch : List PlannedPointWrite → List PlannedPointWrite
  | [] => []
  | write :: rest =>
    if isModbusResponseWrite package write then
      (write :: rest).takeWhile (fun other => other.verification = .response &&
        other.mapping.protocolConnectionId = write.mapping.protocolConnectionId)
    else [write]

def fieldAnswer (field : Field) (flowId : String) :
    List PlannedPointWrite → Except String (Nat × List ProtocolWriteResult)
  | [] => .error "command write batch cannot be empty"
  | write :: rest =>
    if isModbusResponseWrite package write then field.writeModbusPrefix flowId (write :: rest)
    else (field.writePoint flowId (write :: rest)).map (fun result => (1,[result]))

/-- The writes a call has put on the wire: the consumed ones, or possibly all of its batch when it
failed. -/
def sentWrites (remaining : List PlannedPointWrite) :
    Except String (Nat × List ProtocolWriteResult) → List PlannedPointWrite
  | .ok (consumed,_) => (adapterBatch package remaining).take consumed
  | .error _ => adapterBatch package remaining

variable (ext : Externals)

def debugOption : Option TelemetryValue → String
  | none => "None"
  | some value => s!"Some({ext.debugValue value})"

/-- Record results in order up to the first one that did not verify; the flag tells whether there
was one. -/
def recordResults (now : Time) :
    List (PlannedPointWrite × ProtocolWriteResult) → CommandExecutionReport →
      CommandExecutionReport × Bool
  | [], report => (report,false)
  | (write,result) :: rest, report =>
    let report := report.recordWrite write result
    if !result.verified then
      (report.fail s!"point {write.mapping.pointId} readback verification failed: expected {
        ext.debugValue write.value}, actual {debugOption ext result.readbackValue}" now,true)
    else recordResults now rest report

/-- What the write loop does with one answer: the writes left to do, none once it stops. -/
def absorb (remaining : List PlannedPointWrite) (report : CommandExecutionReport) (now : Time) :
    Except String (Nat × List ProtocolWriteResult) → CommandExecutionReport × List PlannedPointWrite
  | .error error => (report.fail error now,[])
  | .ok (consumed,results) =>
    if consumed = 0 ∨ results.length ≠ consumed then
      (report.fail "protocol command adapter returned an invalid batch result" now,[])
    else
      let (report,failedVerification) := recordResults ext now (remaining.zip results) report
      if failedVerification then (report,[]) else (report,remaining.drop consumed)

/-- The write loop. A pass uses up at least one write, so the number of writes is enough fuel. -/
def writeLoop (package : EdgeConfigPackage) (field : Field) (flowId : String) (now : Time) :
    Nat → List PlannedPointWrite → CommandExecutionReport →
      CommandExecutionReport × List PlannedPointWrite
  | 0, _, report => (report,[])
  | _ + 1, [], report => (report,[])
  | fuel + 1, remaining, report =>
    let answer := fieldAnswer package field flowId remaining
    let (report,next) := absorb ext remaining report now answer
    let (report,sent) := writeLoop package field flowId now fuel next report
    (report,sentWrites package remaining answer ++ sent)

def newReport (plan : CommandExecutionPlan) (now : Time) : CommandExecutionReport :=
  { CommandExecutionReport.new plan.flow.flowId plan.commandId now with
    source := plan.commandSource }

variable (package : EdgeConfigPackage)

def finishReport (plan : CommandExecutionPlan) (report : CommandExecutionReport) (now : Time) :
    Except String CommandExecutionReport := do
  let report := { report with completedAt := now }
  let replies ← buildCommandReplyMessages ext package plan report
  pure { report with replies := replies }

def commandSafetyFailureReport (plan : CommandExecutionPlan) (error : String) (now : Time) :
    Except String CommandExecutionReport := do
  let report := (newReport plan now).fail error now
  let replies ← buildCommandReplyMessages ext package plan report
  pure { report with replies := replies }

def enforceCommandSources : List PlannedCommandSafetyGate → Except String Unit
  | [] => .ok ()
  | gate :: gates => do
      if gate.allowedSources ≠ [] then
        let source ← context gate.source
          s!"safety gate {gate.nodeId} requires command source at {gate.sourcePath}"
        bailIf (source ∉ gate.allowedSources)
          s!"safety gate {gate.nodeId} rejected command source {source}"
      enforceCommandSources gates

def commandRateLimits (plan : CommandExecutionPlan) : List CommandRateLimit :=
  plan.safetyGates.filterMap fun gate =>
    match gate.maxCommands, gate.windowMs with
    | some maxCommands, some windowMs => some ⟨gate.nodeId,maxCommands,windowMs⟩
    | _, _ => none

def enforcePersistentCommandSafety (edgeId : String) (plan : CommandExecutionPlan) (now : Time)
    (db : Db) : Except String (Db × Unit) := do
  enforceCommandSources plan.safetyGates
  let (db,decision) ←
    consumeCommandRateSlots ext db edgeId plan.flow.flowId (commandRateLimits plan) now
  match decision with
  | .accepted => pure (db,())
  | .rejected limit => throw s!"safety gate {limit.gateId} rate limit exceeded: {
      limit.maxCommands} commands per {limit.windowMs}ms"

abbrev FlowEffect := Effect Db (String × PlannedPointWrite) String

variable (field : Field)

def executeCommandPlanAfterSafety (plan : CommandExecutionPlan) (now : Time) :
    FlowEffect CommandExecutionReport := ⟨fun db =>
  let (report,sent) := writeLoop ext package field plan.flow.flowId now plan.writes.length
    plan.writes (newReport plan now)
  ⟨db,sent.map (fun write => (plan.flow.flowId,write)), finishReport ext package plan report now⟩⟩

def reportAfterSafety (plan : CommandExecutionPlan) (now : Time) :
    Except String Unit → FlowEffect CommandExecutionReport
  | .ok () => executeCommandPlanAfterSafety ext package field plan now
  | .error error => lift (commandSafetyFailureReport ext package plan error now)

def enqueueReplies (now : Time) : List MqttPublishMessage → FlowEffect Unit
  | [] => pure ()
  | reply :: replies => do
      let _ ← atomic (fun db => enqueueMqttMessage db reply now)
      enqueueReplies now replies

/-- A claimed command: safety gates, writes, completion. -/
def executeStarted (payload : Bytes) (plan : CommandExecutionPlan) (now : Time) :
    FlowEffect CommandExecutionReport := do
  let safety ← attempt
    (atomic (enforcePersistentCommandSafety ext package.edgeId plan now))
  let report ← reportAfterSafety ext package field plan now safety
  let _ ← atomic (fun db => completeCommand ext db package.edgeId payload report)
  pure report

def executeClaim (payload : Bytes) (plan : CommandExecutionPlan) (now : Time) :
    CommandClaim → FlowEffect CommandExecutionReport
  | .started _ => executeStarted ext package field payload plan now
  | .duplicate record => lift (context record.executionReport
      "completed command audit has no execution report")
  | .inProgress _ => fail s!"command {plan.commandId} is already processing"
  | .conflict _ => fail s!"command {plan.commandId} was reused with a different payload"

/-- The flow a message names, if it belongs to the connection the message came from. -/
def routedFlow (message : MqttCommandMessage) (flowId : String) : Except String Unit := do
  let flow ← context (package.commandFlows.find? (fun flow => flow.flowId = flowId))
    s!"command flow not found: {flowId}"
  bailIf (flow.mqttConnectionId ≠ message.sinkId)
    s!"command flow {flowId} belongs to MQTT connection {flow.mqttConnectionId}, not {
      message.sinkId}"

def processFlow (message : MqttCommandMessage) (now : Time) (flowId : String) :
    FlowEffect CommandExecutionReport := do
  lift (routedFlow package message flowId)
  let plan ← lift (planCommandExecution ext package flowId message.payload now)
  let claim ← atomic (fun db =>
    claimCommand ext db package.edgeId flowId plan.commandId message.payload now)
  let report ← executeClaim ext package field message.payload plan now claim
  enqueueReplies now report.replies
  pure report

def processFlows (package : EdgeConfigPackage) (field : Field) (message : MqttCommandMessage)
    (now : Time) : List String → FlowEffect (List CommandExecutionReport)
  | [] => pure []
  | flowId :: flowIds => do
      let report ← processFlow ext package field message now flowId
      let reports ← processFlows package field message now flowIds
      pure (report :: reports)

structure MessageRun (σ : Type) where
  db : Db
  publisher : σ
  sent : List (String × PlannedPointWrite)
  result : Except String (List CommandExecutionReport)

def executeMqttCommandMessageWithStore {σ : Type}
    (publish : σ → MqttPublishMessage → σ × Except String Unit) (package : EdgeConfigPackage)
    (field : Field) (message : MqttCommandMessage) (now : Time) (db : Db) (publisher : σ) :
    MessageRun σ :=
  match (processFlows ext package field message now message.flowIds).run db with
  | ⟨db,sent,.error reason⟩ => ⟨db,publisher,sent,.error reason⟩
  | ⟨db,sent,.ok reports⟩ =>
    let flushed := flushMqttOutbox publish now db publisher
    ⟨flushed.db,flushed.publisher,sent,flushed.result.map (fun _ => reports)⟩

/-! One pass of the write loop. -/

theorem adapterBatch_length_le (pkg : EdgeConfigPackage) (remaining : List PlannedPointWrite) :
    (adapterBatch pkg remaining).length ≤ remaining.length := by
  cases remaining with
  | nil => rfl
  | cons write rest =>
    simp only [adapterBatch]
    split
    · apply IsPrefix.length_le
      exact takeWhile_prefix _
    · simp

theorem sentWrites_length_le (pkg : EdgeConfigPackage) (remaining : List PlannedPointWrite)
    (rep : CommandExecutionReport) (now : Time)
    (answer : Except String (Nat × List ProtocolWriteResult)) :
    (sentWrites pkg remaining answer).length +
      (absorb ext remaining rep now answer).2.length ≤ remaining.length := by
  have hb := adapterBatch_length_le pkg remaining
  cases answer with
  | error error => simpa [sentWrites,absorb] using hb
  | ok out =>
    obtain ⟨consumed,results⟩ := out
    simp only [sentWrites,absorb,length_take]
    split
    · simp only [length_nil]
      omega
    · split
      · simp only [length_nil]
        omega
      · rw [length_drop]
        omega

theorem absorb_length_lt (h : remaining ≠ []) (rep : CommandExecutionReport) (now : Time)
    (answer : Except String (Nat × List ProtocolWriteResult)) :
    (absorb ext remaining rep now answer).2.length < remaining.length := by
  have hp := length_pos_of_ne_nil h
  cases answer with
  | error error => exact hp
  | ok out =>
    obtain ⟨consumed,results⟩ := out
    simp only [absorb]
    split
    · exact hp
    · split
      · exact hp
      · rw [length_drop]
        omega

theorem recordResults_ids (now : Time) (items : List (PlannedPointWrite × ProtocolWriteResult))
    (rep : CommandExecutionReport) :
    (recordResults ext now items rep).1.flowId = rep.flowId ∧
      (recordResults ext now items rep).1.commandId = rep.commandId := by
  induction items generalizing rep with
  | nil => exact ⟨rfl,rfl⟩
  | cons item items ih =>
    obtain ⟨write,res⟩ := item
    simp only [recordResults]
    split
    · exact ⟨rfl,rfl⟩
    · exact ih (rep.recordWrite write res)

theorem absorb_ids (remaining : List PlannedPointWrite) (rep : CommandExecutionReport)
    (now : Time) (answer : Except String (Nat × List ProtocolWriteResult)) :
    (absorb ext remaining rep now answer).1.flowId = rep.flowId ∧
      (absorb ext remaining rep now answer).1.commandId = rep.commandId := by
  cases answer with
  | error error => exact ⟨rfl,rfl⟩
  | ok out =>
    obtain ⟨consumed,results⟩ := out
    simp only [absorb]
    split
    · exact ⟨rfl,rfl⟩
    · split
      · exact recordResults_ids ext now _ rep
      · exact recordResults_ids ext now _ rep

theorem finishReport_ids {rep finished : CommandExecutionReport}
    (h : finishReport ext pkg plan rep now = .ok finished) :
    finished.flowId = rep.flowId ∧ finished.commandId = rep.commandId := by
  unfold finishReport at h
  obtain ⟨replies,-,h⟩ := bind_eq_ok.mp h
  cases h
  exact ⟨rfl,rfl⟩

theorem commandSafetyFailureReport_ids {rep : CommandExecutionReport}
    (h : commandSafetyFailureReport ext pkg plan error now = .ok rep) :
    rep.flowId = plan.flow.flowId ∧ rep.commandId = plan.commandId := by
  unfold commandSafetyFailureReport at h
  obtain ⟨replies,-,h⟩ := bind_eq_ok.mp h
  cases h
  exact ⟨rfl,rfl⟩

theorem enforcePersistentCommandSafety_writes {after : Db}
    (h : enforcePersistentCommandSafety ext edge plan now db = .ok (after,())) :
    ∃ batch, after = db.write batch ∧ ∀ op ∈ batch, ∃ limit ∈ commandRateLimits plan,
      op.key = commandRateKey ext edge plan.flow.flowId limit.gateId := by
  unfold enforcePersistentCommandSafety at h
  obtain ⟨_,-,h⟩ := bind_eq_ok.mp h
  obtain ⟨⟨next,decision⟩,hs,h⟩ := bind_eq_ok.mp h
  cases decision with
  | accepted =>
    cases h
    exact consumeCommandRateSlots_writes ext hs
  | rejected limit => cases h

end CommandExecution
end VelaEdge.Runtime
