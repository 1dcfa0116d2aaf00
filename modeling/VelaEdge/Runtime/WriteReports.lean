import VelaEdge.Runtime.CommandAnswers
import VelaEdge.Runtime.PointWrites

/-! What an execution report says about the writes that went out. Every call of the write loop
either answers for a whole batch as verified, and the loop goes on, or ends it. -/
namespace VelaEdge.Runtime.PointWrites

open Base Core Command CommandExecution LocalDb FlowRuns CommandAnswers List
open Expression (Arithmetic)
open CommandExecutionReport (writeRecord)

/-- What was sent when the loop ended: writes recorded as verified, then at most the writes of one
more call, which failed as a whole or was a single write that did not verify. -/
structure Stopped (package : EdgeConfigPackage) (writes : List PlannedPointWrite)
    (records : List CommandWriteRecord) (status : CommandExecutionStatus)
    (sent done last rest : List PlannedPointWrite) : Prop where
  split : writes = done ++ (last ++ rest)
  sent : sent = done ++ last
  recorded : done.length ≤ records.length
  verified : ∀ record ∈ records.take done.length, record.verified = true
  failed : last ≠ [] → status = .failed
  oneCall : last <+: adapterBatch package (last ++ rest)
  single : done.length < records.length →
    last.length = 1 ∧ records.length = done.length + 1

structure Truthful (package : EdgeConfigPackage) (writes : List PlannedPointWrite)
    (records : List CommandWriteRecord) (status : CommandExecutionStatus)
    (sent : List PlannedPointWrite) : Prop where
  recorded : ∃ results, records = zipWith writeRecord writes results ∧
    results.length ≤ writes.length
  succeeded : status = .succeeded ↔ records.length = writes.length ∧
    ∀ record ∈ records, record.verified = true
  stopped : ∃ done last rest, Stopped package writes records status sent done last rest

variable {results : List ProtocolWriteResult}

section Passes

variable {pkg : EdgeConfigPackage} {writes sent : List PlannedPointWrite}

theorem Truthful.done (pkg : EdgeConfigPackage) : Truthful pkg [] [] .succeeded [] where
  recorded := ⟨[],rfl,Nat.le_refl 0⟩
  succeeded := by simp
  stopped := ⟨[],[],[],rfl,rfl,Nat.le_refl 0,by simp,by simp,prefix_rfl,by simp⟩

theorem Truthful.failed (hw : writes ≠ []) (hs : sent <+: adapterBatch pkg writes) :
    Truthful pkg writes [] .failed sent where
  recorded := ⟨[],by simp,Nat.zero_le _⟩
  succeeded := by simp [Ne.symm (mt length_eq_zero_iff.mp hw)]
  stopped := by
    obtain ⟨rest,rfl⟩ := hs.trans (adapterBatch_isPrefix pkg writes)
    exact ⟨[],sent,rest,rfl,rfl,Nat.le_refl 0,by simp,fun _ => rfl,hs,by simp⟩

theorem Truthful.batch {batch later : List PlannedPointWrite} (hl : results.length = batch.length)
    (hv : ∀ res ∈ results, res.verified = true) (h : Truthful pkg later records status sent) :
    Truthful pkg (batch ++ later) (zipWith writeRecord batch results ++ records) status
      (batch ++ sent) := by
  have hr : (zipWith writeRecord batch results).length = batch.length := by simp [hl]
  have hvr : ∀ record ∈ zipWith writeRecord batch results, record.verified = true := by
    intro record hm
    rw [← map_uncurry_zip_eq_zipWith] at hm
    obtain ⟨pair,hp,rfl⟩ := mem_map.mp hm
    exact hv pair.2 (of_mem_zip hp).2
  obtain ⟨answers,ha,hal⟩ := h.recorded
  obtain ⟨done,last,rest,stopped⟩ := h.stopped
  refine ⟨⟨results ++ answers,?_,by simp; omega⟩,?_,batch ++ done,last,rest,?_⟩
  · rw [zipWith_append hl.symm,ha]
  · rw [h.succeeded]
    simp only [length_append,hr,mem_append]
    constructor
    · rintro ⟨hn,hm⟩
      exact ⟨by omega,fun record => Or.rec (hvr record) (hm record)⟩
    · rintro ⟨hn,hm⟩
      exact ⟨by omega,fun record hx => hm record (.inr hx)⟩
  · have hs := stopped.single
    have hd := stopped.recorded
    exact {
      split := by rw [stopped.split,append_assoc]
      sent := by rw [stopped.sent,append_assoc]
      recorded := by simp only [length_append,hr]; omega
      verified := by
        rw [take_append,hr,length_append,Nat.add_sub_cancel_left,take_of_length_le (by omega)]
        intro record hm
        exact (mem_append.mp hm).elim (hvr record) (stopped.verified record)
      failed := stopped.failed
      oneCall := stopped.oneCall
      single := by simp only [length_append,hr]; omega }

end Passes

variable (ext : Externals) {pkg : EdgeConfigPackage}

variable (arithmetic : Arithmetic) (calls : Nat → AdapterCall) (now : Time)

section Field

variable (flow : String) {field other : Field}

private theorem writeLoop_congr {bound : Nat} (h : ∀ writes, writes.length ≤ bound →
      fieldAnswer pkg field flow writes = fieldAnswer pkg other flow writes)
    (fuel : Nat) {remaining : List PlannedPointWrite} (hl : remaining.length ≤ bound)
    (rep : CommandExecutionReport) :
    writeLoop ext pkg field flow now fuel remaining rep =
      writeLoop ext pkg other flow now fuel remaining rep := by
  induction fuel generalizing remaining rep with
  | zero => rfl
  | succ fuel ih =>
    cases remaining with
    | nil => rfl
    | cons write rest =>
      have hn := absorb_length_lt ext (cons_ne_nil write rest) rep now
        (fieldAnswer pkg other flow (write :: rest))
      simp only [writeLoop,h _ hl]
      rw [ih (show _ ≤ bound by omega)]

private theorem commandAnswer_log (runtime : ProtocolRuntime) (call : AdapterCall)
    (write : PlannedPointWrite) (rest : List PlannedPointWrite) :
    (commandAnswer runtime call arithmetic pkg (write :: rest)).log <+
      sentWrites pkg (write :: rest)
        (commandAnswer runtime call arithmetic pkg (write :: rest)).result := by
  obtain ⟨_,_,_,hc,hs⟩ | ⟨_,_,hc,hb⟩ | ⟨_,batch,_,hc,-,-,hs⟩ :=
    commandAnswer_cases runtime call arithmetic pkg write rest
  · rw [hc]
    exact hs.sublist
  · simp [hc,sentWrites,hb]
  · rw [hc,sentWrites,← prefix_iff_eq_take.mp hs]

private theorem executeWrites_field (fuel index : Nat) (runtime : ProtocolRuntime)
    (remaining : List PlannedPointWrite) (rep : CommandExecutionReport) :
    let out := executeWrites arithmetic pkg ext calls now fuel index runtime remaining rep
    ∃ field sent, writeLoop ext pkg field flow now fuel remaining rep = (out.report,sent) ∧
      out.sent <+ sent := by
  induction fuel generalizing index runtime remaining rep with
  | zero => exact ⟨⟨fun _ _ => .error "",fun _ _ => .error ""⟩,[],rfl,.slnil⟩
  | succ fuel ih =>
    cases remaining with
    | nil => exact ⟨⟨fun _ _ => .error "",fun _ _ => .error ""⟩,[],rfl,.slnil⟩
    | cons write rest =>
      let called := commandAnswer runtime (calls index) arithmetic pkg (write :: rest)
      have hn := absorb_length_lt ext (cons_ne_nil write rest) rep now called.result
      obtain ⟨later,sent,hw,hs⟩ := ih (index + 1) called.state
        (absorb ext (write :: rest) rep now called.result).2
        (absorb ext (write :: rest) rep now called.result).1
      let field : Field := {
        writePoint := fun flow writes =>
          if writes.length = (write :: rest).length then
            (writeCommandPoint runtime (calls index) arithmetic write pkg).result
          else later.writePoint flow writes
        writeModbusPrefix := fun flow writes =>
          if writes.length = (write :: rest).length then
            (writeModbusCommandPrefix runtime (calls index) pkg (write :: rest)).result
          else later.writeModbusPrefix flow writes }
      have ha : fieldAnswer pkg field flow (write :: rest) = called.result := by
        simp only [fieldAnswer,field,called,commandAnswer]
        split <;> simp
      have hc : ∀ writes, writes.length ≤ rest.length →
          fieldAnswer pkg field flow writes = fieldAnswer pkg later flow writes := by
        intro writes hl
        have hne : writes.length ≠ (write :: rest).length := by simp; omega
        cases writes with
        | nil => rfl
        | cons first writes => simp only [fieldAnswer,field,hne,if_false]
      refine ⟨field,sentWrites pkg (write :: rest) called.result ++ sent,?_,?_⟩
      · simp only [writeLoop,ha]
        rw [writeLoop_congr ext now flow hc fuel (by simpa using Nat.le_of_lt_succ hn),hw]
        rfl
      · exact (commandAnswer_log arithmetic runtime (calls index) write rest).append hs

/-- Whatever its calls meet, an execution reports what it would report over some field. -/
theorem executeCommandPlan_field (runtime : ProtocolRuntime) (plan : CommandExecutionPlan)
    (safety : Except String Unit) :
    ∃ field sent, (∀ db, (reportAfterSafety ext pkg field plan now safety).run db =
        ⟨db,sent.map (fun write => (plan.flow.flowId,write)),
          (executeCommandPlan runtime arithmetic pkg ext calls now plan safety).result⟩) ∧
      (executeCommandPlan runtime arithmetic pkg ext calls now plan safety).log <+ sent := by
  cases safety with
  | error reason =>
    exact ⟨⟨fun _ _ => .error "",fun _ _ => .error ""⟩,[],fun _ => rfl,.slnil⟩
  | ok =>
    obtain ⟨field,sent,hw,hs⟩ := executeWrites_field ext arithmetic calls now plan.flow.flowId
      plan.writes.length 0 runtime plan.writes (newReport plan now)
    refine ⟨field,sent,fun db => ?_,hs⟩
    simp only [reportAfterSafety,executeCommandPlanAfterSafety,hw]
    rfl

end Field

section Replies

variable {plan : CommandExecutionPlan} {uplink : MqttUplinkConfig} (runtime : ProtocolRuntime)

end Replies

end VelaEdge.Runtime.PointWrites
