import VelaEdge.Runtime.CircuitBreaker
import VelaEdge.Runtime.CommandExecution
import VelaEdge.Runtime.Expression
import VelaEdge.Runtime.PointCollection

/-! The write calls of a command. A call asks the breaker of the connection, prepares the adapter,
writes, reads back where the plan asks for it, and tells the breaker how it went. The adapters and
the devices behind them are what each call meets. -/
namespace VelaEdge.Runtime.PointWrites

open Base Core Command CommandExecution List
open Expression (Arithmetic)
open PointCollection (TelemetrySample)

/-- What one call meets: the times at which the breaker is asked and told, the serial port, the
adapter with its mapping, and the answers to the write, the readback and the batch request. -/
structure AdapterCall where
  asked : Time
  opened : Except String Unit
  created : Except String Unit
  mapped : Except String Unit
  written : Except String ProtocolWriteResult
  telemetry : Except String (List TelemetrySample)
  /-- Whether the adapter makes one request of some writes. -/
  batches : List PlannedPointWrite → Bool
  answered : Except String Unit
  told : Time

/-- What lasts from one call to the next: a breaker for every connection, and the adapters that are
kept. -/
structure ProtocolRuntime where
  breakers : String → ProtocolCircuitBreaker
  adapters : List (ProtocolType × String)

variable (connectionId : String) (runtime : ProtocolRuntime)

def ProtocolRuntime.setBreaker (breaker : ProtocolCircuitBreaker) : ProtocolRuntime :=
  { runtime with breakers := Function.update runtime.breakers connectionId breaker }

def allowProtocolRequest (now : Time) : ProtocolRuntime × Except String Unit :=
  let breaker := runtime.breakers connectionId
  let (next,allowed) := breaker.allowRequest now
  (runtime.setBreaker connectionId next,
    if allowed then .ok () else .error (breaker.openError now connectionId))

def recordProtocol {α : Type} (now : Time) : Except String α → ProtocolRuntime
  | .ok _ => runtime.setBreaker connectionId (runtime.breakers connectionId).recordSuccess
  | .error _ => runtime.setBreaker connectionId ((runtime.breakers connectionId).recordFailure now)

def keepsAdapter : ProtocolType → Bool
  | .siemensS7 | .omronFins | .iec104 | .opcUa | .bacnetIp => true
  | _ => false

variable (call : AdapterCall)

/-- A kept adapter is created with its first use and gets the mapping every time. -/
def prepareAdapter (connection : ProtocolConnection) : ProtocolRuntime × Except String Unit :=
  if keepsAdapter connection.protocol then
    if (connection.protocol,connection.connectionId) ∈ runtime.adapters then (runtime,call.mapped)
    else
      match call.created with
      | .error error => (runtime,.error error)
      | .ok () =>
        ({ runtime with
            adapters := (connection.protocol,connection.connectionId) :: runtime.adapters },
          call.mapped)
  else (runtime,.ok ())

variable (arithmetic : Arithmetic)

def commandValuesMatch (expected actual : TelemetryValue) (tolerance : Binary64) : Bool :=
  match expected.asF64, actual.asF64 with
  | some expected, some actual => (arithmetic.abs (arithmetic.sub expected actual)).le tolerance
  | _, _ => expected = actual

variable (write : PlannedPointWrite)

def verifyCommandWrite (result : ProtocolWriteResult) : Except String ProtocolWriteResult :=
  if write.verification = .response then .ok result
  else do
    let samples ← call.telemetry.mapError fun _ =>
      s!"read back point {write.mapping.pointId} after write"
    let readback ← context (samples.find? fun sample =>
        sample.telemetryId = write.mapping.pointId && sample.deviceId = write.mapping.deviceId)
      s!"readback did not return point {write.mapping.pointId} for device {write.mapping.deviceId}"
    pure { result with
      verified := commandValuesMatch arithmetic write.value readback.value write.readbackTolerance
      readbackValue := some readback.value }

def sendPoint : List PlannedPointWrite × Except String ProtocolWriteResult :=
  ([write],call.written.bind (verifyCommandWrite call arithmetic write))

def debugName : ProtocolType → String
  | .simulated => "Simulated"
  | .modbusTcp => "ModbusTcp"
  | .modbusRtu => "ModbusRtu"
  | .dlt645 => "Dlt645"
  | .iec101 => "Iec101"
  | .iec104 => "Iec104"
  | .customSerial => "CustomSerial"
  | .opcUa => "OpcUa"
  | .bacnetIp => "BacnetIp"
  | .siemensS7 => "SiemensS7"
  | .omronFins => "OmronFins"

/-- The writes that may have gone out, and the outcome. -/
def writeThrough (protocol : ProtocolType) :
    List PlannedPointWrite × Except String ProtocolWriteResult :=
  match protocol with
  | .simulated => ([write],.ok ⟨write.mapping.pointId,write.value,true,
      if write.verification = .readback then some write.value else none⟩)
  | .modbusRtu | .iec101 =>
    match call.opened with
    | .ok () => sendPoint call arithmetic write
    | .error error => ([],.error error)
  | .modbusTcp | .siemensS7 | .omronFins | .iec104 | .opcUa | .bacnetIp =>
    sendPoint call arithmetic write
  | .dlt645 | .customSerial =>
    ([],.error s!"protocol {debugName protocol} does not support command writes")

variable (package : EdgeConfigPackage)

def connectionOf : Except String ProtocolConnection :=
  context (package.protocolConnections.find? fun connection =>
      connection.connectionId = write.mapping.protocolConnectionId)
    s!"point {write.mapping.pointId} protocol connection not found: {
      write.mapping.protocolConnectionId}"

abbrev Called (α : Type) := Ran ProtocolRuntime PlannedPointWrite String α

def writeCommandPoint : Called ProtocolWriteResult :=
  match connectionOf write package with
  | .error error => ⟨runtime,[],.error error⟩
  | .ok connection =>
    match allowProtocolRequest connection.connectionId runtime call.asked with
    | (runtime,.error error) => ⟨runtime,[],.error error⟩
    | (runtime,.ok ()) =>
      match prepareAdapter runtime call connection with
      | (runtime,.error error) => ⟨runtime,[],.error error⟩
      | (runtime,.ok ()) =>
        let (sent,result) := writeThrough call arithmetic write connection.protocol
        ⟨recordProtocol connection.connectionId runtime call.told result,sent,result⟩

variable (writes : List PlannedPointWrite)

/-- The longest start of the writes that makes one request, or the first write alone. -/
def batchableWritePrefix : Nat :=
  ((range' 2 (writes.length - 1)).reverse.find? fun length =>
    call.batches (writes.take length)).getD (min 1 writes.length)

def writtenResult : ProtocolWriteResult := ⟨write.mapping.pointId,write.value,true,none⟩

def sendBatch : List PlannedPointWrite × Except String (Nat × List ProtocolWriteResult) :=
  let consumed := batchableWritePrefix call writes
  let sent := writes.take consumed
  (sent,call.answered.map fun _ => (consumed,sent.map writtenResult))

def writeBatch (protocol : ProtocolType) :
    List PlannedPointWrite × Except String (Nat × List ProtocolWriteResult) :=
  match protocol with
  | .modbusTcp => sendBatch call writes
  | .modbusRtu =>
    match call.opened with
    | .ok () => sendBatch call writes
    | .error error => ([],.error error)
  | _ => ([],.error s!"protocol {debugName protocol} does not support Modbus batch writes")

def writeModbusCommandPrefix : Called (Nat × List ProtocolWriteResult) :=
  match writes with
  | [] => ⟨runtime,[],.error "command write batch cannot be empty"⟩
  | first :: rest =>
    match connectionOf first package with
    | .error error => ⟨runtime,[],.error error⟩
    | .ok connection =>
      let protocolWrites := (first :: rest).takeWhile fun write =>
        write.verification = .response &&
          write.mapping.protocolConnectionId = connection.connectionId
      match allowProtocolRequest connection.connectionId runtime call.asked with
      | (runtime,.error error) => ⟨runtime,[],.error error⟩
      | (runtime,.ok ()) =>
        let (sent,outcome) := writeBatch call protocolWrites connection.protocol
        ⟨recordProtocol connection.connectionId runtime call.told outcome,sent,outcome⟩

/-- The call that one pass of the write loop makes. -/
def commandAnswer : Called (Nat × List ProtocolWriteResult) :=
  match writes with
  | [] => ⟨runtime,[],.error "command write batch cannot be empty"⟩
  | write :: rest =>
    if isModbusResponseWrite package write then
      writeModbusCommandPrefix runtime call package (write :: rest)
    else
      let called := writeCommandPoint runtime call arithmetic write package
      ⟨called.state,called.log,called.result.map fun result => (1,[result])⟩

structure Executed where
  runtime : ProtocolRuntime
  sent : List PlannedPointWrite
  report : CommandExecutionReport

variable (ext : Externals) (calls : Nat → AdapterCall) (now : Time)

/-- The write loop over the calls from an index on; the number of writes is enough fuel. -/
def executeWrites : Nat → Nat → ProtocolRuntime → List PlannedPointWrite →
    CommandExecutionReport → Executed
  | 0, _, runtime, _, report => ⟨runtime,[],report⟩
  | _ + 1, _, runtime, [], report => ⟨runtime,[],report⟩
  | fuel + 1, index, runtime, remaining, report =>
    let called := commandAnswer runtime (calls index) arithmetic package remaining
    let (report,next) := absorb ext remaining report now called.result
    let later := executeWrites fuel (index + 1) called.state next report
    ⟨later.runtime,called.log ++ later.sent,later.report⟩

def executeCommandPlan (plan : CommandExecutionPlan) :
    Except String Unit → Called CommandExecutionReport
  | .ok () =>
    let executed := executeWrites arithmetic package ext calls now plan.writes.length 0 runtime
      plan.writes (newReport plan now)
    ⟨executed.runtime,executed.sent,finishReport ext package plan executed.report now⟩
  | .error error => ⟨runtime,[],commandSafetyFailureReport ext package plan error now⟩

/-! What a call may have sent, and what it answers. -/

section Calls

variable {write writes}

private theorem writeThrough_sent (protocol : ProtocolType) :
    (writeThrough call arithmetic write protocol).1 <+: [write] ∧
      ∀ result, (writeThrough call arithmetic write protocol).2 = .ok result →
        (writeThrough call arithmetic write protocol).1 = [write] := by
  cases ho : call.opened <;> cases protocol <;> simp [writeThrough,sendPoint,ho]

theorem writeCommandPoint_sent (write : PlannedPointWrite) (package : EdgeConfigPackage) :
    (writeCommandPoint runtime call arithmetic write package).log <+: [write] ∧
      ∀ result, (writeCommandPoint runtime call arithmetic write package).result = .ok result →
        (writeCommandPoint runtime call arithmetic write package).log = [write] := by
  unfold writeCommandPoint
  split
  · simp
  · split
    · simp
    · split
      · simp
      · exact writeThrough_sent call arithmetic _

private theorem batchableWritePrefix_bounds (h : writes ≠ []) :
    0 < batchableWritePrefix call writes ∧ batchableWritePrefix call writes ≤ writes.length := by
  have hp := length_pos_of_ne_nil h
  unfold batchableWritePrefix
  cases hf : (range' 2 (writes.length - 1)).reverse.find? fun length =>
      call.batches (writes.take length) with
  | none =>
    simp only [Option.getD_none]
    omega
  | some length =>
    have hm := mem_of_find?_eq_some hf
    simp only [mem_reverse,mem_range'_1] at hm
    simp only [Option.getD_some]
    omega

/-- A batch call that is answered has consumed a first part of its writes, and says that each of
them is verified. -/
theorem writeBatch_sent (h : writes ≠ []) (protocol : ProtocolType) :
    (writeBatch call writes protocol).1 <+: writes ∧
      ∀ out, (writeBatch call writes protocol).2 = .ok out → 0 < out.1 ∧ out.1 ≤ writes.length ∧
        (writeBatch call writes protocol).1 = writes.take out.1 ∧
        out.2 = (writes.take out.1).map writtenResult := by
  have hs : (sendBatch call writes).1 <+: writes ∧
      ∀ out, (sendBatch call writes).2 = .ok out → 0 < out.1 ∧ out.1 ≤ writes.length ∧
        (sendBatch call writes).1 = writes.take out.1 ∧
        out.2 = (writes.take out.1).map writtenResult := by
    constructor
    · exact take_prefix ..
    · intro out ho
      cases ha : call.answered with
      | error why => simp [sendBatch,ha,Except.map] at ho
      | ok =>
        obtain ⟨hp,hl⟩ := batchableWritePrefix_bounds call h
        simp only [sendBatch,ha,Except.map,Except.ok.injEq] at ho
        subst ho
        exact ⟨hp,hl,rfl,rfl⟩
  unfold writeBatch
  split
  · exact hs
  · split
    · exact hs
    · simp
  · simp

private theorem writeModbusCommandPrefix_sent (h : isModbusResponseWrite package write = true)
    (rest : List PlannedPointWrite) :
    let called := writeModbusCommandPrefix runtime call package (write :: rest)
    called.log <+: adapterBatch package (write :: rest) ∧
      ∀ out, called.result = .ok out → 0 < out.1 ∧
        out.1 ≤ (adapterBatch package (write :: rest)).length ∧
        called.log = (adapterBatch package (write :: rest)).take out.1 ∧
        out.2 = ((adapterBatch package (write :: rest)).take out.1).map writtenResult := by
  have hb : adapterBatch package (write :: rest) ≠ [] := by
    have hr : write.verification = .response := by
      by_contra hn
      simp [isModbusResponseWrite,hn] at h
    simp [adapterBatch,h,hr]
  unfold writeModbusCommandPrefix
  cases hc : connectionOf write package with
  | error why => simp [hc]
  | ok connection =>
    have hi : connection.connectionId = write.mapping.protocolConnectionId := by
      simpa using find?_some (context_eq_ok.mp hc)
    have ht : (write :: rest).takeWhile (fun other => other.verification = .response &&
        other.mapping.protocolConnectionId = connection.connectionId) =
        adapterBatch package (write :: rest) := by
      simp [adapterBatch,h,hi]
    simp only [hc,ht]
    split
    · simp
    · exact writeBatch_sent call hb _

theorem adapterBatch_isPrefix (remaining : List PlannedPointWrite) :
    adapterBatch package remaining <+: remaining := by
  cases remaining with
  | nil => exact prefix_rfl
  | cons write rest =>
    simp only [adapterBatch]
    split
    · exact takeWhile_prefix _
    · exact ⟨rest,rfl⟩

/-- The outcomes of a call: it fails and may have sent a first part of its batch, or it answers a
single write, or it answers for a whole request as verified. -/
theorem commandAnswer_cases (write : PlannedPointWrite) (rest : List PlannedPointWrite) :
    let called := commandAnswer runtime call arithmetic package (write :: rest)
    (∃ next sent reason, called = ⟨next,sent,.error reason⟩ ∧
      sent <+: adapterBatch package (write :: rest)) ∨
    (∃ next result, called = ⟨next,[write],.ok (1,[result])⟩ ∧
      adapterBatch package (write :: rest) = [write]) ∨
    ∃ next batch later, called = ⟨next,batch,.ok (batch.length,batch.map writtenResult)⟩ ∧
      write :: rest = batch ++ later ∧ batch ≠ [] ∧ batch <+: adapterBatch package (write :: rest) := by
  simp only [commandAnswer]
  by_cases hm : isModbusResponseWrite package write = true
  · rw [if_pos hm]
    have hs := writeModbusCommandPrefix_sent runtime call package hm rest
    generalize writeModbusCommandPrefix runtime call package (write :: rest) = called at hs ⊢
    obtain ⟨next,sent,error | out⟩ := called
    · exact .inl ⟨next,sent,error,rfl,hs.1⟩
    · obtain ⟨hp,hl,rfl,ho⟩ := hs.2 out rfl
      have ht := take_prefix out.1 (adapterBatch package (write :: rest))
      obtain ⟨later,hlater⟩ := ht.trans (adapterBatch_isPrefix package (write :: rest))
      have hlen : ((adapterBatch package (write :: rest)).take out.1).length = out.1 := by
        rw [length_take,Nat.min_eq_left hl]
      refine .inr (.inr ⟨next,_,later,?_,hlater.symm,?_,ht⟩)
      · rw [hlen,← ho]
      · exact ne_nil_of_length_pos (hlen.symm ▸ hp)
  · have hb : adapterBatch package (write :: rest) = [write] := by simp [adapterBatch,hm]
    rw [if_neg hm,hb]
    have hs := writeCommandPoint_sent runtime call arithmetic write package
    generalize writeCommandPoint runtime call arithmetic write package = called at hs ⊢
    obtain ⟨next,sent,error | result⟩ := called
    · exact .inl ⟨next,sent,error,rfl,hs.1⟩
    · exact .inr (.inl ⟨next,result,by rw [← hs.2 result rfl]; rfl,rfl⟩)

end Calls

end VelaEdge.Runtime.PointWrites
