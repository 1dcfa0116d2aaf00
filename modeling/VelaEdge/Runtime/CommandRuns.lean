import VelaEdge.Runtime.CommandClaims

/-! The processing of a flow, as the runtime does it in one go, is a run of delivery events: it
leaves the same store and puts the same writes on the wire. -/
namespace VelaEdge.Runtime.CommandClaims

open Base Core Command LocalDb Outbox CommandExecution List Effect

variable (ext : Externals)

def after (s : State) (events : List Event) : State := events.foldl (step ext) s

/-- What a run of events did: where the store got to and what was written on the way. -/
structure Did (s : State) (events : List Event) (db : Db)
    (log : List (String × PlannedPointWrite)) : Prop where
  db : (after ext s events).db = db
  writes : ∃ entries, (after ext s events).writes = s.writes ++ entries ∧
    entries.map (fun entry => (entry.command.flowId, entry.write)) = log

variable {ext} {s : State}

@[simp] theorem after_append (s : State) (evs later : List Event) :
    after ext s (evs ++ later) = after ext (after ext s evs) later :=
  foldl_append

theorem Did.idle {next : State} (hs : after ext s evs = next) (hw : next.writes = s.writes) :
    Did ext s evs next.db [] :=
  ⟨by rw [hs],[],by rw [hs,hw,append_nil],rfl⟩

theorem Did.nil (s : State) : Did ext s [] s.db [] := .idle rfl rfl

theorem Did.append {evs later : List Event} {middle db : Db}
    {log rest : List (String × PlannedPointWrite)} (h : Did ext s evs middle log)
    (hl : Did ext (after ext s evs) later db rest) :
    Did ext s (evs ++ later) db (log ++ rest) := by
  obtain ⟨entries,he,hlo⟩ := h.writes
  obtain ⟨more,hm,hr⟩ := hl.writes
  rw [he] at hm
  refine ⟨by rw [after_append]; exact hl.db,entries ++ more,?_,?_⟩
  · rw [after_append,hm,append_assoc]
  · rw [map_append,hlo,hr]

private theorem physicalWrites_log (task : Task) (delivery : Nat) (sent : List PlannedPointWrite) :
    (task.physicalWrites delivery sent).map (fun entry => (entry.command.flowId,entry.write)) =
      sent.map (fun write => (task.plan.flow.flowId,write)) := by
  unfold Task.physicalWrites
  rw [map_map]
  conv_rhs => rw [← zipIdx_map_fst task.progress sent,map_map]
  rfl

variable (field : Field) (now : Time) {delivery : Nat} {rep : CommandExecutionReport}

private theorem write_did (ht : s.tasks delivery = some task) {write : PlannedPointWrite}
    (hp : task.phase = .writing (write :: rest) rep)
    (answer : Except String (Nat × List ProtocolWriteResult)) :
    Did ext s [.write delivery now answer] s.db
      ((sentWrites task.package (write :: rest) answer).map
        (fun write => (task.plan.flow.flowId,write))) ∧
    (after ext s [.write delivery now answer]).tasks delivery = some { task with
      phase := .writing (absorb ext (write :: rest) rep now answer).2
        (absorb ext (write :: rest) rep now answer).1 } := by
  have hs : after ext s [.write delivery now answer] =
      writeBatch ext s delivery task (write :: rest) rep now answer := by
    simp [after,step,Event.delivery,ht,advance,hp]
  refine ⟨⟨by rw [hs]; rfl,_,by rw [hs]; rfl,physicalWrites_log _ _ _⟩,?_⟩
  rw [hs]
  simp [writeBatch,State.setTask]

theorem writeLoop_events (fuel : Nat) {remaining : List PlannedPointWrite}
    (hf : remaining.length ≤ fuel) (ht : s.tasks delivery = some task)
    (hp : task.phase = .writing remaining rep)
    (hl : writeLoop ext task.package field task.plan.flow.flowId now fuel remaining rep =
      (final,sent)) :
    ∃ evs, Did ext s evs s.db (sent.map (fun write => (task.plan.flow.flowId,write))) ∧
      (after ext s evs).tasks delivery = some { task with phase := .writing [] final } := by
  induction fuel generalizing s task remaining rep sent with
  | zero =>
    have hni : remaining = [] := eq_nil_of_length_eq_zero (by omega)
    subst hni
    cases hl
    exact ⟨[],Did.nil s,by rw [← hp]; exact ht⟩
  | succ fuel ih =>
    cases remaining with
    | nil =>
      cases hl
      exact ⟨[],Did.nil s,by rw [← hp]; exact ht⟩
    | cons write rest =>
      simp only [writeLoop] at hl
      generalize ha : fieldAnswer task.package field task.plan.flow.flowId
        (write :: rest) = answer at hl
      obtain ⟨hd,hn⟩ := write_did now ht hp answer
      have hle := absorb_length_lt ext (cons_ne_nil write rest) rep now answer
      rcases hrest : writeLoop ext task.package field task.plan.flow.flowId now fuel
        (absorb ext (write :: rest) rep now answer).2
        (absorb ext (write :: rest) rep now answer).1 with ⟨last,later⟩
      rw [hrest] at hl
      cases hl
      obtain ⟨evs,he,hdo⟩ := ih (by omega) hn rfl hrest
      rw [hd.db] at he
      refine ⟨_,?_,by rw [after_append]; exact hdo⟩
      rw [map_append]
      exact hd.append he

theorem otherWrite_did (s : State) (hb : ∀ op ∈ batch, Text.hasPrefix mqttFamily op.key = true) :
    Did ext s [.otherWrite batch] (s.db.write batch) [] := by
  have ha : batch.all (fun op => !Text.hasPrefix commandAuditPrefix op.key) = true := by
    rw [all_eq_true]
    intro op hop
    rw [Text.hasPrefix_disjoint (hb op hop) (by decide) (by decide)]
    rfl
  have hs : after ext s [.otherWrite batch] = { s with db := s.db.write batch } := by
    simp [after,step,ha]
  exact .idle hs rfl

/-- Some run of events does what an effect does. -/
def Simulated {α : Type} (ext : Externals) (s : State) (effect : FlowEffect α) : Prop :=
  ∃ events, Did ext s events (effect.run s.db).state (effect.run s.db).log

theorem Simulated.of_idle {effect : FlowEffect α} (h : effect.run s.db = ⟨s.db,[],res⟩) :
    Simulated ext s effect :=
  ⟨[],by rw [h]; exact Did.nil s⟩

variable {next : α → FlowEffect β} {log : List (String × PlannedPointWrite)}

theorem Simulated.bind_error {first : FlowEffect α} (hr : first.run s.db = ⟨db,log,.error why⟩)
    (hd : Did ext s evs db log) :
    Simulated ext s (first >>= next) :=
  ⟨evs,by rw [run_bind_error _ hr]; exact hd⟩

theorem Simulated.bind_ok {first : FlowEffect α} (hr : first.run s.db = ⟨db,log,.ok value⟩)
    (hd : Did ext s evs db log) (hn : Simulated ext (after ext s evs) (next value)) :
    Simulated ext s (first >>= next) := by
  obtain ⟨later,hl⟩ := hn
  rw [hd.db] at hl
  exact ⟨evs ++ later,by rw [run_bind_ok _ hr]; exact hd.append hl⟩

theorem Simulated.bind (h : Simulated ext s first)
    (hn : ∀ value later, Simulated ext later (next value)) : Simulated ext s (first >>= next) := by
  obtain ⟨evs,hd⟩ := h
  rcases hrun : first.run s.db with ⟨db,log,res⟩
  rw [hrun] at hd
  cases res with
  | error why => exact .bind_error hrun hd
  | ok value => exact .bind_ok hrun hd (hn value _)

theorem Simulated.of_lift {outcome : Except String α}
    (h : ∀ value, outcome = .ok value → Simulated ext s (next value)) :
    Simulated ext s (lift outcome >>= next) := by
  cases ho : outcome with
  | error why => exact .bind_error (run_lift _ _) (Did.nil s)
  | ok value => exact .bind_ok (run_lift _ _) (Did.nil s) (h value ho)

theorem enqueueReplies_simulated (replies : List MqttPublishMessage) (s : State) :
    Simulated ext s (enqueueReplies now replies) := by
  induction replies generalizing s with
  | nil => exact .of_idle rfl
  | cons reply replies ih =>
    cases he : enqueueMqttMessage s.db reply now with
    | error why => exact .bind_error (run_atomic_error he) (Did.nil s)
    | ok enqueued =>
      obtain ⟨batch,hb,hk⟩ := enqueue_writes he
      exact .bind_ok (run_atomic_ok he) (hb ▸ otherWrite_did s hk) (ih _)

theorem complete_simulated (ht : s.tasks delivery = some task) (hp : task.phase = .reported rep) :
    Simulated ext s (do
      let _ ← atomic (fun db =>
        completeCommand ext db task.package.edgeId task.payload rep)
      pure rep) := by
  have hs : after ext s [.complete delivery] = complete ext s delivery task rep := by
    simp [after,step,Event.delivery,ht,advance,hp]
  cases hc : completeCommand ext s.db task.package.edgeId task.payload rep with
  | error why => exact .bind_error (run_atomic_error hc) (Did.nil s)
  | ok completed =>
    simp only [complete,hc] at hs
    have hd : Did ext s [.complete delivery] completed.1 [] := .idle hs rfl
    exact .bind_ok (run_atomic_ok hc) hd (.of_idle rfl)

private theorem executePlan_simulated {next : CommandExecutionReport → FlowEffect β}
    (ht : s.tasks delivery = some task)
    (hp : task.phase = .writing task.plan.writes (newReport task.plan now))
    (hn : ∀ rep later, later.tasks delivery = some { task with phase := .reported rep } →
      Simulated ext later (next rep)) :
    Simulated ext s
      (executeCommandPlanAfterSafety ext task.package field task.plan now >>= next) := by
  rcases hloop : writeLoop ext task.package field task.plan.flow.flowId now
    task.plan.writes.length task.plan.writes (newReport task.plan now) with ⟨final,sent⟩
  obtain ⟨evs,hd,hw⟩ := writeLoop_events field now _ le_rfl ht hp hloop
  have hr : (executeCommandPlanAfterSafety ext task.package field task.plan now).run s.db =
      ⟨s.db,sent.map (fun write => (task.plan.flow.flowId,write)),
        finishReport ext task.package task.plan final now⟩ := by
    simp only [executeCommandPlanAfterSafety,hloop]
  cases hf : finishReport ext task.package task.plan final now with
  | error why => exact .bind_error (hf ▸ hr) hd
  | ok rep =>
    have hs : after ext (after ext s evs) [.finish delivery now] =
        (after ext s evs).setTask delivery (some { task with phase := .reported rep }) := by
      simp [after,step,Event.delivery] at hw ⊢
      simp [hw,advance,finish,hf]
    have hk := hd.append (.idle hs rfl)
    rw [append_nil,show (State.setTask _ _ _).db = _ from hd.db] at hk
    refine .bind_ok (hf ▸ hr) hk (hn rep _ ?_)
    rw [after_append,hs]
    simp [State.setTask]

theorem executeStarted_simulated (ht : s.tasks delivery = some task) (hp : task.phase = .claimed) :
    Simulated ext s (executeStarted ext task.package field task.payload task.plan now) := by
  have hst : after ext s [.checkSafety delivery now] = checkSafety ext s delivery task now := by
    simp [after,step,Event.delivery,ht,advance,hp]
  have hd := Did.idle hst (by unfold checkSafety; split <;> [rfl; (split <;> rfl)])
  have hru := run_attempt (atomic (enforcePersistentCommandSafety ext task.package.edgeId task.plan
    now) : FlowEffect Unit) s.db
  cases hs : enforcePersistentCommandSafety ext task.package.edgeId task.plan now s.db with
  | error error =>
    rw [run_atomic_error hs] at hru
    rw [show (checkSafety ext s delivery task now).db = s.db by
      simp only [checkSafety,hs]; split <;> rfl] at hd
    refine .bind_ok hru hd (.of_lift fun rep hre => ?_)
    rw [hst]
    have hn : (checkSafety ext s delivery task now).tasks delivery =
        some { task with phase := .reported rep } := by
      simp [checkSafety,hs,hre,State.setTask]
    apply complete_simulated hn rfl
  | ok safe =>
    obtain ⟨db,⟨⟩⟩ := safe
    rw [run_atomic_ok hs] at hru
    rw [show (checkSafety ext s delivery task now).db = db by simp only [checkSafety,hs]; rfl] at hd
    have hw : (checkSafety ext s delivery task now).tasks delivery = some { task with
        phase := .writing task.plan.writes (newReport task.plan now) } := by
      simp [checkSafety,hs,State.setTask]
    refine .bind_ok hru hd ?_
    rw [hst]
    apply executePlan_simulated field now hw rfl
    intro rep later hr
    apply complete_simulated hr rfl

/-- Everything one delivery does to the store and to the field is a run of events, so what holds
of every run holds of it. -/
theorem processFlow_simulated (pkg : EdgeConfigPackage) (msg : MqttCommandMessage) (flow : String)
    (s : State) :
    Simulated ext s (processFlow ext pkg field msg now flow) := by
  unfold processFlow
  refine .of_lift fun _ hro => .of_lift fun plan hp => ?_
  have hr : ∀ (rep : CommandExecutionReport) (later : State), Simulated ext later (do
        enqueueReplies now rep.replies
        pure rep) := fun rep later =>
    (enqueueReplies_simulated now rep.replies later).bind fun _ _ => .of_idle rfl
  cases hc : claimCommand ext s.db pkg.edgeId flow plan.commandId msg.payload now with
  | error why => exact .bind_error (run_atomic_error hc) (Did.nil s)
  | ok claimed =>
    obtain ⟨db,claim⟩ := claimed
    cases hcl : claims_of_ok ext hc with
    | started ha =>
      have hs : after ext s [.deliver pkg msg flow now] = deliver ext s pkg msg flow now := rfl
      simp only [deliver,hro,hp,hc] at hs
      refine .bind_ok (run_atomic_ok hc) (.idle hs rfl) ?_
      have ht := congrArg (fun next => next.tasks s.nextDelivery) hs
      simp only [Function.update_self] at ht
      exact (executeStarted_simulated field now ht rfl).bind hr
    | conflict record =>
      exact .bind_ok (run_atomic_ok hc) (Did.nil s) (.bind (.of_idle (run_fail _ _)) hr)
    | inProgress record =>
      exact .bind_ok (run_atomic_ok hc) (Did.nil s) (.bind (.of_idle (run_fail _ _)) hr)
    | duplicate record =>
      exact .bind_ok (run_atomic_ok hc) (Did.nil s) (.bind (.of_idle (run_lift _ _)) hr)

private theorem processFlows_simulated (pkg : EdgeConfigPackage) (msg : MqttCommandMessage)
    (flows : List String) (s : State) :
    Simulated ext s (processFlows ext pkg field msg now flows) := by
  induction flows generalizing s with
  | nil => exact .of_idle rfl
  | cons flow flows ih =>
    exact (processFlow_simulated field now pkg msg flow s).bind fun _ later =>
      (ih later).bind fun _ _ => .of_idle rfl

/-- The flush behind the flows puts no write on the wire. -/
theorem message_sent {σ : Type} (publish : σ → MqttPublishMessage → σ × Except String Unit)
    (package : EdgeConfigPackage) (message : MqttCommandMessage) (db : Db) (publisher : σ) :
    (executeMqttCommandMessageWithStore ext publish package field message now db publisher).sent =
      ((processFlows ext package field message now message.flowIds).run db).log := by
  unfold executeMqttCommandMessageWithStore
  rcases (processFlows ext package field message now message.flowIds).run db with
    ⟨after,sent,error | reports⟩ <;> rfl

/-- A message that is processed in one go, whatever happened before, leaves the store and puts the
writes on the wire that some further events do; and no write of a command is put there twice. -/
theorem message_writes_once (events : List Event) (package : EdgeConfigPackage) (field : Field)
    (message : MqttCommandMessage) (now : Time) :
    let ran := (processFlows ext package field message now message.flowIds).run (run ext events).db
    (∀ {σ : Type} (publish : σ → MqttPublishMessage → σ × Except String Unit) (publisher : σ),
      (executeMqttCommandMessageWithStore ext publish package field message now
        (run ext events).db publisher).sent = ran.log) ∧
    ∃ later entries, (run ext (events ++ later)).db = ran.state ∧
      (run ext (events ++ later)).writes = (run ext events).writes ++ entries ∧
      entries.map (fun entry => (entry.command.flowId,entry.write)) = ran.log ∧
      ((run ext events).writes ++ entries).Pairwise fun earlier later =>
        earlier.command = later.command →
          earlier.delivery = later.delivery ∧ earlier.index < later.index := by
  obtain ⟨later,hd,entries,he,hm⟩ := processFlows_simulated field now package message
    message.flowIds (run ext events)
  have hr : run ext (events ++ later) = after ext (run ext events) later := foldl_append
  rw [← hr] at hd he
  have h : Inv ext (run ext (events ++ later)) := run_inv _
  refine ⟨fun publish => message_sent field now publish package message _,later,entries,hd,he,hm,
    he ▸ (Pairwise.and_mem.mp h.ordered).imp ?_⟩
  rintro earlier later ⟨hf,hl,hin⟩ hc
  have ho := (h.written earlier hf).1
  rw [hc] at ho
  have hs := Option.some.inj (ho.symm.trans (h.written later hl).1)
  exact ⟨hs,hin hs⟩

end VelaEdge.Runtime.CommandClaims
