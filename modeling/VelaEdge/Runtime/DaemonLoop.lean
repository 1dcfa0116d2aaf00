import VelaEdge.Base.Runs
import VelaEdge.Runtime.CommandAnswers
import VelaEdge.Runtime.MqttSession

/-! The daemon loop around the MQTT session: commands arrive at the session, iterations and
deployments reconfigure it, and the loop takes the commands and hands them to the command
service. -/
namespace VelaEdge.Runtime.DaemonLoop

open Base Core AppliedConfig MqttSession List CommandAnswers

structure CommandRuntimeService where
  configVersion : String
  runtime : ConfiguredEdgeRuntime

variable (checks : FieldChecks) (env : HostEnvironment)

def hasEnabledCommands (package : EdgeConfigPackage) : Bool :=
  package.commandFlows.any fun flow => flow.enabled

def CommandRuntimeService.fromPackage (package : EdgeConfigPackage) :
    Except String CommandRuntimeService := do
  bailIf (hasEnabledCommands package = false) "at least one enabled command flow is required"
  let runtime ← ConfiguredEdgeRuntime.new checks package
  pure ⟨package.version,runtime⟩

/-- The command service of an iteration: none without enabled flows, a new one for a new
version. -/
def refreshService (service : Option CommandRuntimeService) (package : EdgeConfigPackage) :
    Option CommandRuntimeService :=
  if !hasEnabledCommands package then none
  else if service.all fun service => service.configVersion ≠ package.version then
    match CommandRuntimeService.fromPackage checks package with
    | .ok service => some service
    | .error _ => none
  else service

inductive Fate where
  | handed
  /-- Left behind by a configuration in which its flows are not enabled. -/
  | discarded
  /-- Left behind although one of its flows is still enabled. -/
  | lost
deriving DecidableEq

structure State where
  mqtt : PersistentMqttPublisher
  service : Option CommandRuntimeService
  active : Option EdgeConfigPackage
  accepted : List MqttCommandMessage
  settled : List (MqttCommandMessage × Fate)

def State.initial : State where
  mqtt := .new
  service := none
  active := none
  accepted := []
  settled := []

inductive Event where
  | arrive (sinkId topic : String) (payload : Bytes)
  | iterate (active : Option EdgeConfigPackage)
  | take
  /-- A deployed package is collected once and configures the session for that. -/
  | deploy (package : EdgeConfigPackage)

variable (active : Option EdgeConfigPackage)

def stillEnabled (message : MqttCommandMessage) : Bool :=
  active.any fun package => package.commandFlows.any fun flow =>
    flow.enabled && message.flowIds.contains flow.flowId

def leftBehind (message : MqttCommandMessage) : MqttCommandMessage × Fate :=
  (message,if stillEnabled active message then .lost else .discarded)

variable (mqtt : PersistentMqttPublisher)

/-- The session after a configuration; an error leaves it as it was. -/
def reconfigured : Option EdgeConfigPackage → PersistentMqttPublisher
  | some package => ((mqtt.configurePackage env package).toOption).getD mqtt
  | none => ((mqtt.configure env []).toOption).getD mqtt

/-- The configuration drops the session the loop has, with or without a new one in its place. -/
def replaces : Option EdgeConfigPackage → Bool
  | none => true
  | some package =>
    match commandSubscriptionsBySink package with
    | .error _ => false
    | .ok subscriptions =>
      if package.mqttUplinks = [] then true
      else if mqtt.publisher.isNone ∨ mqtt.uplinks ≠ package.mqttUplinks ∨
          mqtt.commandSubscriptions.entries ≠ subscriptions.entries then
        (connectWithSubscriptions env package.mqttUplinks).isOk
      else false

/-- Reconfigure the session. The commands in the channel of a dropped session go with it. -/
def State.reconfigure (s : State) (active : Option EdgeConfigPackage) : State := { s with
    mqtt := reconfigured env s.mqtt active
    settled := s.settled ++
      if replaces env s.mqtt active then s.mqtt.queued.map (leftBehind active) else [] }

def step (s : State) : Event → State
  | .arrive sinkId topic payload =>
    match s.mqtt.receive sinkId topic payload with
    | none => s
    | some (message,mqtt) => { s with mqtt := mqtt, accepted := s.accepted ++ [message] }
  | .iterate active =>
    { s.reconfigure env active with
      service := active.bind (refreshService checks s.service)
      active := active }
  | .take =>
    match s.mqtt.tryRecvCommand with
    | none => s
    | some (message,mqtt) =>
      let fate := if s.service.isSome then (message,.handed) else leftBehind s.active message
      { s with mqtt := mqtt, settled := s.settled ++ [fate] }
  | .deploy package => s.reconfigure env (some package)

def run (events : List Event) : State := events.foldl (step checks env) State.initial

/-! What a step does to the channel. -/

variable {checks env} {s : State}

theorem connectWithSubscriptions_empty (h : connectWithSubscriptions env uplinks = .ok sess) :
    sess.commandMessages = [] := by
  unfold connectWithSubscriptions at h
  simp only [bind_eq_ok] at h
  obtain ⟨_,-,publishers,-,h⟩ := h
  cases h
  rfl

theorem reconfigured_queued (active : Option EdgeConfigPackage) :
    (reconfigured env mqtt active).queued =
      if replaces env mqtt active then [] else mqtt.queued := by
  cases active with
  | none => rfl
  | some pkg =>
    rcases hsubscriptions : commandSubscriptionsBySink pkg with why | subscriptions
    · simp only [reconfigured,replaces,PersistentMqttPublisher.configurePackage,hsubscriptions]
      rfl
    · simp only [reconfigured,replaces,PersistentMqttPublisher.configurePackage,
        hsubscriptions,ok_bind,PersistentMqttPublisher.configureWithSubscriptions]
      split
      · rfl
      · split
        · rcases hconnect : connectWithSubscriptions env pkg.mqttUplinks with why | sess
          · rfl
          · exact connectWithSubscriptions_empty hconnect
        · rfl

variable {msg : MqttCommandMessage} {mqtt after : PersistentMqttPublisher}

theorem receive_queued (h : mqtt.receive sinkId topic body = some (msg,after)) :
    after.queued = mqtt.queued ++ [msg] := by
  unfold PersistentMqttPublisher.receive at h
  split at h
  · cases h
  · next sess hs =>
    split at h
    · cases h
    · obtain ⟨routed,-,heq⟩ := Option.map_eq_some_iff.mp h
      cases heq
      simp [PersistentMqttPublisher.queued,hs]

theorem tryRecvCommand_none {mqtt : PersistentMqttPublisher} (h : mqtt.tryRecvCommand = none) :
    mqtt.queued = [] := by
  unfold PersistentMqttPublisher.tryRecvCommand at h
  unfold PersistentMqttPublisher.queued
  cases hs : mqtt.publisher with
  | none => rfl
  | some sess =>
    simp only [hs] at h
    split at h
    · assumption
    · cases h

theorem tryRecvCommand_some (h : mqtt.tryRecvCommand = some (msg,after)) :
    mqtt.queued = msg :: after.queued := by
  unfold PersistentMqttPublisher.tryRecvCommand at h
  split at h
  · cases h
  · next sess hs =>
    split at h
    · cases h
    · next first rest hq =>
      cases h
      simp [PersistentMqttPublisher.queued,hs,hq]

/-! Every accepted command is accounted for. -/

/-- In order of acceptance: the commands that have left the session, then those still in it. -/
def Accounted (s : State) : Prop := s.accepted = s.settled.map Prod.fst ++ s.mqtt.queued

private theorem reconfigure_accounted (h : Accounted s) (active : Option EdgeConfigPackage) :
    Accounted (s.reconfigure env active) := by
  unfold Accounted State.reconfigure at *
  rw [h,reconfigured_queued]
  split
  · simp [leftBehind,Function.comp_def]
  · simp

theorem step_accounted (h : Accounted s) (ev : Event) : Accounted (step checks env s ev) := by
  cases ev with
  | arrive sinkId topic body =>
    simp only [step]
    split
    · exact h
    · next msg mqtt hr =>
      unfold Accounted at *
      rw [receive_queued hr,h,append_assoc]
  | iterate active => exact reconfigure_accounted h active
  | take =>
    simp only [step]
    split
    · exact h
    · next msg mqtt hr =>
      unfold Accounted at *
      rw [h,tryRecvCommand_some hr]
      cases s.service.isSome <;> simp [leftBehind]
  | deploy pkg => exact reconfigure_accounted h (some pkg)

theorem run_accounted (evs : List Event) : Accounted (run checks env evs) :=
  List.foldlRecOn evs (step checks env) rfl fun _ h ev _ => step_accounted h ev

/-! When a command is lost. -/

def NothingLost (s : State) : Prop := ∀ entry ∈ s.settled, entry.2 ≠ .lost

def Unconcerned (s : State) (active : Option EdgeConfigPackage) : Prop :=
  ∀ message ∈ s.mqtt.queued, stillEnabled active message = false

/-- A session is dropped only without commands of flows that stay enabled, and such a command is
taken only when there is a service. -/
def CleanStep (env : HostEnvironment) (s : State) : Event → Prop
  | .arrive _ _ _ => True
  | .iterate active => replaces env s.mqtt active = true → Unconcerned s active
  | .take => s.service.isNone = true →
      ∀ message ∈ s.mqtt.queued.head?, stillEnabled s.active message = false
  | .deploy package => replaces env s.mqtt (some package) = true → Unconcerned s (some package)

def CleanRun (checks : FieldChecks) (env : HostEnvironment) : State → List Event → Prop :=
  Along (step checks env) (CleanStep env)

@[simp] theorem leftBehind_lost :
    (leftBehind active msg).2 ≠ .lost ↔ stillEnabled active msg = false := by
  unfold leftBehind
  cases stillEnabled active msg <;> simp

@[simp] theorem reconfigure_lost : NothingLost (s.reconfigure env active) ↔
      NothingLost s ∧ (replaces env s.mqtt active = true → Unconcerned s active) := by
  unfold NothingLost State.reconfigure Unconcerned
  simp only [forall_mem_append]
  apply and_congr_right'
  split
  · next hr =>
    simp [hr]
  · next hk => simp [hk]

@[simp] theorem step_lost (ev : Event) :
    NothingLost (step checks env s ev) ↔ NothingLost s ∧ CleanStep env s ev := by
  cases ev with
  | arrive sinkId topic body =>
    simp only [step,CleanStep,and_true]
    split <;> exact Iff.rfl
  | iterate active => exact reconfigure_lost active
  | deploy pkg => exact reconfigure_lost (some pkg)
  | take =>
    simp only [step,CleanStep]
    split
    · next he => simp [tryRecvCommand_none he]
    · next msg mqtt hr =>
      unfold NothingLost
      rw [tryRecvCommand_some hr]
      simp only [forall_mem_append,forall_mem_singleton,List.head?_cons,
        Option.mem_some_iff,forall_eq']
      apply and_congr_right'
      cases hs : s.service with
      | none => simp
      | some service => simp

theorem run_lost (evs : List Event) : NothingLost (evs.foldl (step checks env) s) ↔
      NothingLost s ∧ CleanRun checks env s evs := by
  induction evs generalizing s with
  | nil => simp [CleanRun,Along]
  | cons ev evs ih =>
    rw [foldl_cons,ih,step_lost,CleanRun,Along,and_assoc]

/-! The loop takes commands until the channel is empty. -/

def drain (checks : FieldChecks) (env : HostEnvironment) (s : State) : State :=
  (List.replicate s.mqtt.queued.length Event.take).foldl (step checks env) s

private theorem drain_handed (h : s.service.isSome = true) :
    (drain checks env s).settled = s.settled ++ s.mqtt.queued.map (fun msg =>
      (msg,Fate.handed)) ∧ (drain checks env s).mqtt.queued = [] := by
  unfold drain
  generalize hq : s.mqtt.queued = queue
  induction queue generalizing s with
  | nil => simp [hq]
  | cons first rest ih =>
    rw [length_cons,replicate_succ,foldl_cons]
    cases hr : s.mqtt.tryRecvCommand with
    | none => simp [tryRecvCommand_none hr] at hq
    | some received =>
      obtain ⟨msg,mqtt⟩ := received
      have hc := tryRecvCommand_some hr
      rw [hq,List.cons.injEq] at hc
      obtain ⟨rfl,hre⟩ := hc
      have hst : step checks env s .take =
          { s with mqtt := mqtt, settled := s.settled ++ [(first,.handed)] } := by
        simp [step,hr,h]
      rw [hst]
      obtain ⟨hs,he⟩ := ih (s := { s with
        mqtt := mqtt, settled := s.settled ++ [(first,.handed)] }) h hre.symm
      refine ⟨?_,he⟩
      rw [hs,append_assoc,map_cons,singleton_append]

/-- Every accepted command has been handed over once or waits in the channel, unless its flows
are no longer enabled; and what waits is handed over once the loop comes to take it. -/
structure Delivered (checks : FieldChecks) (env : HostEnvironment) (s : State) : Prop where
  accounted : s.accepted = s.settled.map Prod.fst ++ s.mqtt.queued
  kept : ∀ entry ∈ s.settled, entry.2 ≠ .lost
  handed : s.service.isSome = true →
    (drain checks env s).settled = s.settled ++ s.mqtt.queued.map (fun message =>
      (message, Fate.handed)) ∧ (drain checks env s).mqtt.queued = []

/-- A run delivers its commands in every state exactly when all its steps are clean. -/
theorem commands_delivered_iff (checks : FieldChecks) (env : HostEnvironment)
    (events : List Event) :
    (∀ front back, events = front ++ back → Delivered checks env (run checks env front)) ↔
      CleanRun checks env State.initial events := by
  have hl : NothingLost (run checks env events) ↔ CleanRun checks env State.initial events := by
    rw [run,run_lost]
    exact and_iff_right (by simp [NothingLost,State.initial])
  constructor
  · intro h
    exact hl.mp (h events [] (append_nil _).symm).kept
  · rintro h front back rfl
    have hf : NothingLost (run checks env front) := by
      rw [← hl,run,foldl_append,run_lost] at h
      exact h.1
    exact ⟨run_accounted front,hf,fun hs => drain_handed hs⟩

def plantVersion (version : String) (flows : List CommandFlowConfig) : EdgeConfigPackage :=
  { plantPackage with version := version, commandFlows := flows }

def widenedEvents : List Event :=
  [.iterate (some (plantVersion "v1" [plantFlow "open-valve" "valve"])),
    .arrive "cloud" "edge/edge-1/command" openPayload,
    .iterate (some (plantVersion "v2" [plantFlow "open-valve" "valve",
      plantFlow "open-bypass" "bypass"]))]

/-- The new session is opened before the command is taken from the old one. -/
theorem widening_loses_command :
    (run presentChecks ⟨fun _ => none,fun _ => none⟩ widenedEvents).accepted =
        [openCommand ["open-valve"]] ∧
      (run presentChecks ⟨fun _ => none,fun _ => none⟩ widenedEvents).settled =
        [(openCommand ["open-valve"],.lost)] ∧
      ¬ Delivered presentChecks ⟨fun _ => none,fun _ => none⟩
        (run presentChecks ⟨fun _ => none,fun _ => none⟩ widenedEvents) := by
  have hs : (run presentChecks ⟨fun _ => none,fun _ => none⟩
      widenedEvents).settled = [(openCommand ["open-valve"],.lost)] := rfl
  refine ⟨rfl,hs,fun h => ?_⟩
  exact h.kept (openCommand ["open-valve"],.lost) (by rw [hs]; exact mem_cons_self) rfl

/-- Taken before the new version becomes active, the command is handed over. -/
example : (run presentChecks ⟨fun _ => none, fun _ => none⟩
    (widenedEvents.insertIdx 2 .take)).settled =
      [(openCommand ["open-valve"], .handed)] := by rfl

end VelaEdge.Runtime.DaemonLoop
