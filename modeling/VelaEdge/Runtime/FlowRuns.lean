import VelaEdge.Runtime.CommandExecution

/-! What one flow's share of a command message comes to. Whether it is refused, started or replayed
is read off the message, the package and the stored audit record; each of the three has one
equation for the whole run. -/
namespace VelaEdge.Runtime.FlowRuns

open Base Core Command LocalDb Outbox CommandExecution List OrderedMap Effect Text

/-! Queueing replies. -/

/-- The messages stand behind `last` in the outbox, in order, and no other MQTT key differs. -/
structure Queues (before after : Db) (now : Time) (last : Nat)
    (messages : List MqttPublishMessage) : Prop where
  counted : LastSequence before last
  room : last + messages.length ≤ u64Max
  counter : LastSequence after (last + messages.length)
  entries : ∀ index message, messages[index]? = some message →
    after.get (mqttOutboxKey (last + 1 + index)) =
      some (.outboxEntry (newEntry (last + 1 + index) message now))
  others : ∀ key, hasPrefix mqttFamily key = true → key ≠ mqttOutboxSequenceKey →
    (∀ index < messages.length, key ≠ mqttOutboxKey (last + 1 + index)) →
    after.get key = before.get key

def Room (db : Db) (count : Nat) : Prop := ∃ last, LastSequence db last ∧ last + count ≤ u64Max

def SameMqtt (before after : Db) : Prop :=
  ∀ key, hasPrefix mqttFamily key = true → after.get key = before.get key

variable {before after : Db}

theorem lastSequence_congr (h : SameMqtt before after) :
    LastSequence after last ↔ LastSequence before last := by
  unfold LastSequence
  rw [h _ mqttFamily_of_sequence]

theorem Queues.nil (hl : LastSequence before last) (hr : last ≤ u64Max)
    (hs : SameMqtt before after) : Queues before after now last [] where
  counted := hl
  room := hr
  counter := (lastSequence_congr hs).mpr hl
  entries := by simp
  others := fun key hk _ _ => hs key hk

theorem Queues.append {later : List MqttPublishMessage} (h : Queues before middle now last msgs)
    (hl : Queues middle after now (last + msgs.length) later) :
    Queues before after now last (msgs ++ later) where
  counted := h.counted
  room := by
    have hr := hl.room
    rw [length_append]
    omega
  counter := by
    rw [length_append,← Nat.add_assoc]
    exact hl.counter
  entries := by
    intro index msg hm
    have hr := hl.room
    by_cases hf : index < msgs.length
    · rw [List.getElem?_append_left hf] at hm
      rw [hl.others _ (mqttFamily_of_outbox (mqttOutboxKey_inside _))
        (ne_of_hasPrefix (mqttOutboxKey_inside _) mqttOutboxSequenceKey_outside)]
      · exact h.entries index msg hm
      · intro other hot
        exact mqttOutboxKey_ne (by omega) (by omega) (by omega)
    · rw [List.getElem?_append_right (by omega)] at hm
      have he := hl.entries _ msg hm
      have hi : last + msgs.length + 1 + (index - msgs.length) = last + 1 + index := by omega
      rwa [hi] at he
  others := by
    intro key hk hc ho
    rw [length_append] at ho
    rw [hl.others key hk hc,h.others key hk hc]
    · intro index hi
      exact ho index (by omega)
    · intro index hi
      have hk := ho (msgs.length + index) (by omega)
      rwa [← Nat.add_assoc,Nat.add_right_comm last 1] at hk

theorem Queues.congr (h : Queues before after now last msgs) (hb : SameMqtt before' before)
    (ha : SameMqtt after after') :
    Queues before' after' now last msgs where
  counted := (lastSequence_congr hb).mp h.counted
  room := h.room
  counter := (lastSequence_congr ha).mpr h.counter
  entries := by
    intro index msg hm
    rw [ha _ (mqttFamily_of_outbox (mqttOutboxKey_inside _))]
    exact h.entries index msg hm
  others := by
    intro key hk hc ho
    rw [ha key hk,h.others key hk hc ho,hb key hk]

private theorem enqueue_queues (hl : LastSequence db last) (hr : last < u64Max)
    (msg : MqttPublishMessage) (now : Time) :
    ∃ after, enqueueMqttMessage db msg now = .ok (after,last + 1) ∧
      Queues db after now last [msg] ∧ SameElsewhere db after := by
  refine ⟨_,by rw [enqueueMqttMessage,nextMqttSequence_eq hl hr]; rfl,?_,?_⟩
  · have hke := ne_of_hasPrefix (mqttOutboxKey_inside (last + 1)) mqttOutboxSequenceKey_outside
    simp only [write_cons,write_nil,apply_put]
    refine ⟨hl,hr,.inl ?_,?_,?_⟩
    · rw [get_put_of_ne _ _ hke.symm,get_put_self]
      rfl
    · intro index other hot
      obtain ⟨hi,rfl⟩ : index = 0 ∧ msg = other := by cases index <;> simp_all
      rw [hi,Nat.add_zero,get_put_self]
    · intro key _ hc ho
      have he := ho 0 Nat.one_pos
      rw [get_put_of_ne _ _ he,get_put_of_ne _ _ hc]
  · intro key hk
    refine get_write_of_untouched _ _ _ fun op hop => ?_
    rcases mem_cons.mp hop with rfl | hop
    · exact ne_of_hasPrefix mqttFamily_of_sequence hk
    · rw [mem_singleton.mp hop]
      exact ne_of_hasPrefix (mqttFamily_of_outbox (mqttOutboxKey_inside _)) hk

theorem enqueueReplies_queues (now : Time) {replies : List MqttPublishMessage}
    (hl : LastSequence db last) (hr : last + replies.length ≤ u64Max) :
    ∃ after, (enqueueReplies now replies).run db = ⟨after,[],.ok ()⟩ ∧
      Queues db after now last replies ∧ SameElsewhere db after := by
  induction replies generalizing db last with
  | nil => exact ⟨db,rfl,.nil hl hr fun _ _ => rfl,fun _ _ => rfl⟩
  | cons reply replies ih =>
    rw [length_cons] at hr
    obtain ⟨middle,hf,hq,hsa⟩ := enqueue_queues hl (by omega) reply now
    obtain ⟨after,hre,hla,hs⟩ := ih hq.counter (by simp; omega)
    refine ⟨after,?_,hq.append hla,fun key hk => ?_⟩
    · rw [enqueueReplies,run_bind_ok _ (run_atomic_ok hf),hre]
      rfl
    · rw [hs key hk,hsa key hk]

/-! Refused, started or replayed. -/

inductive Delivery where
  | refused (reason : String)
  | started (plan : CommandExecutionPlan)
  | replayed (record : CommandAuditRecord) (report : CommandExecutionReport)

variable (ext : Externals)

def Delivery.ofClaim (plan : CommandExecutionPlan) : CommandClaim → Delivery
  | .started _ => .started plan
  | .duplicate record =>
    match record.executionReport with
    | some report => .replayed record report
    | none => .refused "completed command audit has no execution report"
  | .inProgress _ => .refused s!"command {plan.commandId} is already processing"
  | .conflict _ => .refused s!"command {plan.commandId} was reused with a different payload"

variable (package : EdgeConfigPackage)

def delivery (message : MqttCommandMessage) (now : Time) (flowId : String) (db : Db) : Delivery :=
  match routedFlow package message flowId with
  | .error reason => .refused reason
  | .ok () =>
    match planCommandExecution ext package flowId message.payload now with
    | .error reason => .refused reason
    | .ok plan =>
      match claimCommand ext db package.edgeId flowId plan.commandId message.payload now with
      | .error reason => .refused reason
      | .ok (_, claim) => .ofClaim plan claim

def withReplies (plan : CommandExecutionPlan) (uplink : MqttUplinkConfig)
    (report : CommandExecutionReport) : CommandExecutionReport :=
  { report with replies := replyMessages ext package plan uplink report }

def replyUplink (plan : CommandExecutionPlan) : Option MqttUplinkConfig :=
  package.mqttUplinks.find? (fun uplink => uplink.sinkId = plan.flow.mqttConnectionId)

def safetyCheck (edgeId : String) (plan : CommandExecutionPlan) (now : Time) (db : Db) :
    Db × Except String Unit :=
  match enforcePersistentCommandSafety ext edgeId plan now db with
  | .ok (after, ()) => (after, .ok ())
  | .error reason => (db, .error reason)

def concluded (field : Field) (plan : CommandExecutionPlan) (uplink : MqttUplinkConfig)
    (now : Time) : Except String Unit → CommandExecutionReport × List PlannedPointWrite
  | .ok () =>
    let (report, sent) := writeLoop ext package field plan.flow.flowId now plan.writes.length
      plan.writes (newReport plan now)
    (withReplies ext package plan uplink { report with completedAt := now }, sent)
  | .error reason =>
    (withReplies ext package plan uplink ((newReport plan now).fail reason now), [])

variable (pkg : EdgeConfigPackage)

private theorem writeLoop_ids (field : Field) (flow : String) (now : Time) (fuel : Nat)
    (remaining : List PlannedPointWrite) (rep : CommandExecutionReport) :
    (writeLoop ext pkg field flow now fuel remaining rep).1.flowId = rep.flowId ∧
      (writeLoop ext pkg field flow now fuel remaining rep).1.commandId = rep.commandId := by
  induction fuel generalizing remaining rep with
  | zero => exact ⟨rfl,rfl⟩
  | succ fuel ih =>
    cases remaining with
    | nil => exact ⟨rfl,rfl⟩
    | cons write rest =>
      have hp := absorb_ids ext (write :: rest) rep now (fieldAnswer pkg field flow (write :: rest))
      have hr := ih (absorb ext (write :: rest) rep now
        (fieldAnswer pkg field flow (write :: rest))).2
        (absorb ext (write :: rest) rep now (fieldAnswer pkg field flow (write :: rest))).1
      exact ⟨hr.1.trans hp.1,hr.2.trans hp.2⟩

theorem concluded_ids (field : Field) (plan : CommandExecutionPlan) (uplink : MqttUplinkConfig)
    (now : Time) (safety : Except String Unit) :
    (concluded ext pkg field plan uplink now safety).1.flowId = plan.flow.flowId ∧
      (concluded ext pkg field plan uplink now safety).1.commandId = plan.commandId := by
  cases safety with
  | ok => exact writeLoop_ids ext pkg field _ now _ _ (newReport plan now)
  | error why => exact ⟨rfl,rfl⟩

@[simp] theorem concluded_replies_length (field : Field) (plan : CommandExecutionPlan)
    (uplink : MqttUplinkConfig) (now : Time) (safety : Except String Unit) :
    (concluded ext pkg field plan uplink now safety).1.replies.length =
      plan.replyNodeIds.length := by
  cases safety <;> exact length_map ..

variable {key : String}

theorem safetyCheck_untouched (edge : String) (plan : CommandExecutionPlan) (now : Time) (db : Db)
    (h : ∀ limit ∈ commandRateLimits plan,
      commandRateKey ext edge plan.flow.flowId limit.gateId ≠ key) :
    (safetyCheck ext edge plan now db).1.get key = db.get key := by
  unfold safetyCheck
  split
  · next after hs =>
    obtain ⟨batch,rfl,hb⟩ := enforcePersistentCommandSafety_writes ext hs
    refine get_write_of_untouched _ _ _ fun op hop => ?_
    obtain ⟨limit,hl,hop⟩ := hb op hop
    rw [hop]
    exact h limit hl
  · rfl

theorem safetyCheck_frame (edge : String) (plan : CommandExecutionPlan) (now : Time) (db : Db)
    (h : hasPrefix commandRatePrefix key = false) :
    (safetyCheck ext edge plan now db).1.get key = db.get key :=
  safetyCheck_untouched ext edge plan now db fun _ _ =>
    ne_of_hasPrefix (commandRateKey_inside ext _ _ _) h

variable {ext} {package : EdgeConfigPackage} {field : Field} {plan : CommandExecutionPlan}
  {uplink : MqttUplinkConfig} {now : Time} {db : Db}

theorem buildCommandReplyMessages_eq (h : replyUplink package plan = some uplink)
    (rep : CommandExecutionReport) :
    buildCommandReplyMessages ext package plan rep =
      .ok (replyMessages ext package plan uplink rep) := by
  unfold buildCommandReplyMessages
  unfold replyUplink at h
  rw [h]
  rfl

theorem reportAfterSafety_run (h : replyUplink package plan = some uplink)
    (safety : Except String Unit) :
    (reportAfterSafety ext package field plan now safety).run db =
      ⟨db,(concluded ext package field plan uplink now safety).2.map
        (fun write => (plan.flow.flowId,write)),
        .ok (concluded ext package field plan uplink now safety).1⟩ := by
  cases safety with
  | ok =>
    simp only [reportAfterSafety,executeCommandPlanAfterSafety,finishReport,
      buildCommandReplyMessages_eq h,ok_bind]
    rfl
  | error why =>
    simp only [reportAfterSafety,commandSafetyFailureReport,buildCommandReplyMessages_eq h,ok_bind]
    rfl

private theorem outside_rate_of_audit (h : hasPrefix commandAuditPrefix key = true) :
    hasPrefix commandRatePrefix key = false :=
  hasPrefix_disjoint h (by decide) (by decide)

theorem outside_rate_of_mqtt (h : hasPrefix mqttFamily key = true) :
    hasPrefix commandRatePrefix key = false :=
  hasPrefix_disjoint h (by decide) (by decide)

theorem outside_mqtt_of_audit (h : hasPrefix commandAuditPrefix key = true) :
    hasPrefix mqttFamily key = false :=
  hasPrefix_disjoint h (by decide) (by decide)

theorem outside_audit_of_mqtt (h : hasPrefix mqttFamily key = true) :
    hasPrefix commandAuditPrefix key = false :=
  hasPrefix_disjoint h (by decide) (by decide)

variable {record : CommandAuditRecord} (field : Field)

theorem executeStarted_run (body : Bytes) (now : Time) (db : Db)
    (h : replyUplink package plan = some uplink)
    (hr : db.get (commandAuditKey ext package.edgeId plan.flow.flowId plan.commandId) =
      some (.commandAudit record)) (hd : record.payloadDigest = sha256Hex ext body)
    (hst : record.state = .processing) :
    (executeStarted ext package field body plan now).run db =
      let safety := safetyCheck ext package.edgeId plan now db
      let out := concluded ext package field plan uplink now safety.2
      ⟨safety.1.put (commandAuditKey ext package.edgeId plan.flow.flowId plan.commandId)
          (.commandAudit (completedRecord record out.1)),
        out.2.map (fun write => (plan.flow.flowId,write)),.ok out.1⟩ := by
  have hs : (Effect.attempt (Effect.atomic
      (enforcePersistentCommandSafety ext package.edgeId plan now)) :
        FlowEffect (Except String Unit)).run db =
      ⟨(safetyCheck ext package.edgeId plan now db).1,[],
        .ok (safetyCheck ext package.edgeId plan now db).2⟩ := by
    rw [run_attempt]
    unfold safetyCheck
    cases hsa : enforcePersistentCommandSafety ext package.edgeId plan now db with
    | ok out =>
      rw [run_atomic_ok hsa]
    | error why =>
      rw [run_atomic_error hsa]
  have hi := concluded_ids ext package field plan uplink now
    (safetyCheck ext package.edgeId plan now db).2
  have hk := (safetyCheck_frame ext package.edgeId plan now db
    (outside_rate_of_audit (commandAuditKey_inside ext package.edgeId plan.flow.flowId
      plan.commandId))).trans hr
  rw [← hi.1,← hi.2] at hk
  have hc := completeCommand_eq ext hk hd hst
  rw [hi.1,hi.2] at hc
  rw [executeStarted,run_bind_ok _ hs,run_bind_ok _ (reportAfterSafety_run h _),
    run_bind_ok _ (run_atomic_ok hc)]
  simp

def answer (now : Time) (report : CommandExecutionReport) : FlowEffect CommandExecutionReport := do
  enqueueReplies now report.replies
  pure report

def claimed (ext : Externals) (package : EdgeConfigPackage) (message : MqttCommandMessage)
    (now : Time) (flowId commandId : String) (db : Db) : Db :=
  db.put (commandAuditKey ext package.edgeId flowId commandId)
    (.commandAudit (claimedRecord ext package.edgeId flowId commandId message.payload now))

variable {rep : CommandExecutionReport}

section Flow

variable {message : MqttCommandMessage} {flowId : String}

theorem processFlow_run : (processFlow ext package field message now flowId).run db =
      match delivery ext package message now flowId db with
      | .refused why => ⟨db,[],.error why⟩
      | .started plan => (executeStarted ext package field message.payload plan now >>=
          answer now).run (claimed ext package message now flowId plan.commandId db)
      | .replayed _ rep => (answer now rep).run db := by
  unfold processFlow delivery
  cases hro : routedFlow package message flowId with
  | error why => rfl
  | ok =>
    cases hp : planCommandExecution ext package flowId message.payload now with
    | error why => rfl
    | ok plan =>
      simp only [run_bind_lift_ok]
      cases hc : claimCommand ext db package.edgeId flowId plan.commandId message.payload now with
      | error why => rw [run_bind_atomic_error _ hc]
      | ok out =>
        obtain ⟨after,claim⟩ := out
        rw [run_bind_atomic_ok _ hc]
        cases claims_of_ok ext hc with
        | started hn => rfl
        | conflict record hr hd => rfl
        | inProgress record hr hd hs => rfl
        | duplicate record hr hd hs =>
          simp only [Delivery.ofClaim,executeClaim]
          cases record.executionReport <;> rfl

/-- A message names what a claim needs: an edge, a flow and a command id. -/
structure Named (package : EdgeConfigPackage) (flowId : String) : Prop where
  edgeId : isBlank package.edgeId = false
  flowId : isBlank flowId = false

theorem plan_commandId_present
    (h : planCommandExecution ext package flowId message.payload now = .ok plan) :
    isBlank plan.commandId = false := by
  obtain ⟨doc,walk,planned⟩ := planned_of_ok ext h
  have hc := planned.commandId
  unfold commandIdOf at hc
  simpa using (Option.filter_eq_some_iff.mp hc).2

private theorem claimCommand_new (hn : Named package flowId)
    (hp : planCommandExecution ext package flowId message.payload now = .ok plan)
    (hno : db.get (commandAuditKey ext package.edgeId flowId plan.commandId) = none) :
    claimCommand ext db package.edgeId flowId plan.commandId message.payload now =
      .ok (claimed ext package message now flowId plan.commandId db,.started
        (claimedRecord ext package.edgeId flowId plan.commandId message.payload now)) := by
  unfold claimCommand
  simp [bailIf,hn.edgeId,hn.flowId,plan_commandId_present hp,
    commandAuditByKey_none.mpr hno,pure,Except.pure,claimed]

theorem claimCommand_completed (hn : Named package flowId)
    (hp : planCommandExecution ext package flowId message.payload now = .ok plan)
    (hr : db.get (commandAuditKey ext package.edgeId flowId plan.commandId) =
      some (.commandAudit record)) (hd : record.payloadDigest = sha256Hex ext message.payload)
    (hs : record.state ≠ .processing) :
    claimCommand ext db package.edgeId flowId plan.commandId message.payload now =
      .ok (db,.duplicate record) := by
  unfold claimCommand
  simp only [bailIf,hn.edgeId,hn.flowId,plan_commandId_present hp,commandAuditByKey_some.mpr hr]
  cases ht : record.state with
  | processing => exact absurd ht hs
  | succeeded => simp [hd,ht,pure,Except.pure]
  | failed => simp [hd,ht,pure,Except.pure]

theorem delivery_started_iff (hna : Named package flowId) :
    delivery ext package message now flowId db = .started plan ↔
      routedFlow package message flowId = .ok () ∧
        planCommandExecution ext package flowId message.payload now = .ok plan ∧
        db.get (commandAuditKey ext package.edgeId flowId plan.commandId) = none := by
  constructor
  · intro h
    unfold delivery at h
    split at h
    · cases h
    · next hr =>
      split at h
      · cases h
      · next found hp =>
        split at h
        · cases h
        · next after claim hc =>
          cases claims_of_ok ext hc with
          | started hn =>
            cases h
            exact ⟨hr,hp,hn⟩
          | conflict record hre hd => cases h
          | inProgress record hre hd hs => cases h
          | duplicate record hre hd hs =>
            simp only [Delivery.ofClaim] at h
            split at h <;> cases h
  · rintro ⟨hr,hp,hn⟩
    simp [delivery,hr,hp,claimCommand_new hna hp hn,Delivery.ofClaim]

theorem delivery_replayed_iff (hn : Named package flowId) :
    delivery ext package message now flowId db = .replayed record rep ↔
      routedFlow package message flowId = .ok () ∧
        ∃ plan, planCommandExecution ext package flowId message.payload now = .ok plan ∧
          db.get (commandAuditKey ext package.edgeId flowId plan.commandId) =
            some (.commandAudit record) ∧
          record.payloadDigest = sha256Hex ext message.payload ∧
          record.executionReport = some rep := by
  constructor
  · intro h
    unfold delivery at h
    split at h
    · cases h
    · next hro =>
      split at h
      · cases h
      · next found hp =>
        split at h
        · cases h
        · next after claim hc =>
          cases claims_of_ok ext hc with
          | started hno => cases h
          | conflict record hr hd => cases h
          | inProgress record hr hd hs => cases h
          | duplicate record hr hd hs =>
            simp only [Delivery.ofClaim] at h
            split at h
            · next hre =>
              cases h
              exact ⟨hro,found,hp,hr,hd,hre⟩
            · cases h
  · rintro ⟨hro,plan,hp,hr,hd,hre⟩
    have hs : record.state ≠ .processing := by
      intro hs
      simp [CommandAuditRecord.executionReport,hs] at hre
    simp [delivery,hro,hp,claimCommand_completed hn hp hr hd hs,Delivery.ofClaim,hre]

/-! The three runs. -/

def startedSafety (ext : Externals) (package : EdgeConfigPackage) (message : MqttCommandMessage)
    (now : Time) (flowId : String) (plan : CommandExecutionPlan) (db : Db) :
    Db × Except String Unit :=
  safetyCheck ext package.edgeId plan now (claimed ext package message now flowId plan.commandId db)

def startedOutcome (ext : Externals) (package : EdgeConfigPackage) (field : Field)
    (message : MqttCommandMessage) (now : Time) (flowId : String) (plan : CommandExecutionPlan)
    (uplink : MqttUplinkConfig) (db : Db) : CommandExecutionReport × List PlannedPointWrite :=
  concluded ext package field plan uplink now
    (startedSafety ext package message now flowId plan db).2

/-- The store a fresh delivery has completed in, its replies not yet queued. -/
def startedStore (ext : Externals) (package : EdgeConfigPackage) (field : Field)
    (message : MqttCommandMessage) (now : Time) (flowId : String) (plan : CommandExecutionPlan)
    (uplink : MqttUplinkConfig) (db : Db) : Db :=
  (startedSafety ext package message now flowId plan db).1.put
    (commandAuditKey ext package.edgeId flowId plan.commandId)
    (.commandAudit (completedRecord
      (claimedRecord ext package.edgeId flowId plan.commandId message.payload now)
      (startedOutcome ext package field message now flowId plan uplink db).1))

theorem answer_queues (now : Time) (rep : CommandExecutionReport) (hl : LastSequence db last)
    (hr : last + rep.replies.length ≤ u64Max) :
    ∃ after, (answer now rep).run db = ⟨after,[],.ok rep⟩ ∧
      Queues db after now last rep.replies ∧ SameElsewhere db after := by
  obtain ⟨after,hru,hq⟩ := enqueueReplies_queues now hl hr
  refine ⟨after,?_,hq⟩
  rw [answer,run_bind_ok _ hru]
  rfl

theorem answer_result (h : ((answer now rep).run db).result = .ok found) : found = rep := by
  rcases hrun : (enqueueReplies now rep.replies).run db with ⟨after,log,res⟩
  cases res with
  | error why =>
    rw [answer,run_bind_error _ hrun] at h
    cases h
  | ok =>
    rw [answer,run_bind_ok _ hrun] at h
    cases h
    rfl

theorem startedStore_mqtt (ext : Externals) (package : EdgeConfigPackage) (field : Field)
    (message : MqttCommandMessage) (now : Time) (flowId : String) (plan : CommandExecutionPlan)
    (uplink : MqttUplinkConfig) (db : Db) :
    SameMqtt db (startedStore ext package field message now flowId plan uplink db) := by
  intro key hk
  have hne : key ≠ commandAuditKey ext package.edgeId flowId plan.commandId :=
    (ne_of_hasPrefix (commandAuditKey_inside ext _ _ _) (outside_audit_of_mqtt hk)).symm
  rw [startedStore,get_put_of_ne _ _ hne,startedSafety,
    safetyCheck_frame _ _ _ _ _ (outside_rate_of_mqtt hk),claimed,
    get_put_of_ne _ _ hne]

section

variable (hd : delivery ext package message now flowId db = .started plan)
include hd

theorem processFlow_started (hf : plan.flow.flowId = flowId)
    (hu : replyUplink package plan = some uplink) :
    (processFlow ext package field message now flowId).run db =
      let out := startedOutcome ext package field message now flowId plan uplink db
      let answered := (answer now out.1).run
        (startedStore ext package field message now flowId plan uplink db)
      ⟨answered.state,out.2.map (fun write => (flowId,write)) ++ answered.log,
        answered.result⟩ := by
  rw [processFlow_run,hd]
  subst hf
  exact run_bind_ok _ (executeStarted_run field message.payload now
    (claimed ext package message now plan.flow.flowId plan.commandId db) hu
    (get_put_self _ _ _) rfl rfl)

theorem processFlow_started_queues (hf : plan.flow.flowId = flowId)
    (hu : replyUplink package plan = some uplink) (hla : LastSequence db last)
    (hr : last + plan.replyNodeIds.length ≤ u64Max) :
    ∃ after, (processFlow ext package field message now flowId).run db =
        ⟨after,(startedOutcome ext package field message now flowId plan uplink db).2.map
          (fun write => (flowId,write)),
          .ok (startedOutcome ext package field message now flowId plan uplink db).1⟩ ∧
      Queues db after now last
        (startedOutcome ext package field message now flowId plan uplink db).1.replies ∧
      SameElsewhere (startedStore ext package field message now flowId plan uplink db) after := by
  have hm := startedStore_mqtt ext package field message now flowId plan uplink db
  have hl := concluded_replies_length ext package field plan uplink now
    (startedSafety ext package message now flowId plan db).2
  obtain ⟨after,ha,hq,hs⟩ := answer_queues now
    (startedOutcome ext package field message now flowId plan uplink db).1
    ((lastSequence_congr hm).mpr hla) (by rw [startedOutcome,hl]; exact hr)
  refine ⟨after,?_,hq.congr hm fun _ _ => rfl,hs⟩
  rw [processFlow_started field hd hf hu]
  simp [ha]

end

theorem processFlow_replayed_queues
    (hd : delivery ext package message now flowId db = .replayed record rep)
    (hl : LastSequence db last) (hr : last + rep.replies.length ≤ u64Max) :
    ∃ after, (processFlow ext package field message now flowId).run db = ⟨after,[],.ok rep⟩ ∧
      Queues db after now last rep.replies ∧ SameElsewhere db after := by
  obtain ⟨after,ha,hq,hs⟩ := answer_queues now rep hl hr
  refine ⟨after,?_,hq,hs⟩
  rw [processFlow_run,hd]
  exact ha

end Flow

end VelaEdge.Runtime.FlowRuns
