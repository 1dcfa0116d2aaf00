import Mathlib.Data.Rat.Defs
import VelaEdge.Cloud.Persistence

/-! The health a runtime shows in its local document, beside the one its snapshots are evaluated
to, over updates and collection observations in any order. -/
namespace VelaEdge.Runtime.RuntimeHealth

open Base Cloud

structure CollectionRuntimeMetrics where
  activeTaskCount : Nat
  successRate : Rat
  badPointCount : Nat

structure ProtocolRuntimeMetrics where
  connected : Bool
  errorCount : Nat := 0
  timeoutCount : Nat := 0
  reconnectCount : Nat := 0

structure AlgorithmRuntimeMetrics where
  healthy : Bool
  errorCount : Nat

/-- What is observed of a collection, with the records that are buffered at that time. -/
structure Observation where
  collection : CollectionRuntimeMetrics
  protocols : List ProtocolRuntimeMetrics
  algorithms : List AlgorithmRuntimeMetrics := []
  bufferedRecords : Nat := 0

namespace Observation

variable (observed : Observation)

def epsilon : Rat := 1 / 2 ^ 52

def failing : Bool :=
  0 < observed.collection.activeTaskCount && observed.collection.successRate ≤ epsilon

def troubled : Bool :=
  0 < observed.collection.badPointCount || observed.collection.successRate < 1 ||
  observed.protocols.any (fun protocol =>
    0 < protocol.errorCount || 0 < protocol.timeoutCount || 0 < protocol.reconnectCount) ||
  observed.algorithms.any (fun algorithm => !algorithm.healthy || 0 < algorithm.errorCount) ||
  0 < observed.bufferedRecords

/-- The evaluation of an observed collection for a snapshot. -/
def evaluateRuntimeHealth : EdgeHealth :=
  if observed.failing then .critical else if observed.troubled then .degraded else .healthy

def working : Bool :=
  999 / 1000 ≤ observed.collection.successRate && observed.protocols.all (·.connected)

end Observation

structure EdgeRuntimeMetricsSnapshot where
  configVersion : String
  health : EdgeHealth

/-- The document with the latest observation of a collection that the runtime has made. -/
structure State where
  health : EdgeHealth := .critical
  metrics : Option EdgeRuntimeMetricsSnapshot := none
  activeConfig : Bool := false
  latest : Option Observation := none

/-- A cycle is observed with what it collected, if it ran a collection. -/
inductive Event where
  | update (metrics : EdgeRuntimeMetricsSnapshot) (activeConfig : Bool)
  | observe (observed : Option Observation)

variable (s : State)

/-- A snapshot of the configuration that is shown already takes over what was observed. -/
def State.carries (metrics : EdgeRuntimeMetricsSnapshot) : Option EdgeRuntimeMetricsSnapshot :=
  s.metrics.filter fun previous => previous.configVersion = metrics.configVersion

def step : Event → State
  | .update metrics activeConfig =>
    let metrics := { metrics with
      health := ((s.carries metrics).map (·.health)).getD metrics.health }
    { s with
      health := metrics.health, metrics := some metrics,
      activeConfig := s.activeConfig || activeConfig }
  | .observe none => s
  | .observe (some observed) =>
    let health := if observed.working then .healthy else .degraded
    match s.metrics with
    | none => { s with latest := some observed }
    | some metrics => { s with
        health := health, metrics := some { metrics with health := health },
        latest := some observed }

def State.isReady : Bool := s.activeConfig && (s.health ≠ .critical && s.health ≠ .offline)

/-- The health shown is that of the latest observation, and a runtime none of whose active tasks
succeeded is not ready. -/
def Agrees : Prop := ∀ observed ∈ s.latest, s.health = observed.evaluateRuntimeHealth ∧
  (0 < observed.collection.activeTaskCount → observed.collection.successRate = 0 →
    s.isReady = false)

/-- What an event must meet: an observation that is not failing and is troubled exactly when it is
not working, once there are metrics, and is failing before; a snapshot of another configuration
that fits what was observed last. -/
def Fair : Event → Prop
  | .update metrics _ => (s.carries metrics).isSome ∨
      ∀ observed ∈ s.latest, metrics.health = observed.evaluateRuntimeHealth
  | .observe none => True
  | .observe (some observed) => if s.metrics.isSome then
      observed.failing = false ∧ observed.troubled = !observed.working
    else observed.failing = true

def FairRun : State → List Event → Prop := Along step Fair

/-- The states of a run. -/
def states : State → List Event → List State
  | s, [] => [s]
  | s, event :: events => s :: states (step s event) events

variable {s}

private theorem agrees_iff : Agrees s ↔ ∀ observed ∈ s.latest,
    s.health = observed.evaluateRuntimeHealth := by
  refine forall₂_congr fun observed _ => and_iff_left_of_imp ?_
  intro he ha hr
  have hz : 0 ≤ Observation.epsilon := by decide +kernel
  have hf : observed.failing = true := by simp [Observation.failing,ha,hr,hz]
  simp [State.isReady,he,Observation.evaluateRuntimeHealth,hf]

/-- The metrics show the health of the document, which is critical before there are any. -/
def Linked (s : State) : Prop := s.health = (s.metrics.map (·.health)).getD .critical

theorem step_linked (h : Linked s) (event : Event) : Linked (step s event) := by
  match event with
  | .update .. => simp [Linked,step]
  | .observe none => exact h
  | .observe (some observed) =>
    cases hm : s.metrics with
    | none => simpa [Linked,step,hm] using h
    | some metrics => simp [Linked,step,hm]

private theorem step_agrees_iff (hl : Linked s) (h : Agrees s) (event : Event) :
    Agrees (step s event) ↔ Fair s event := by
  rw [agrees_iff] at h ⊢
  match event with
  | .update metrics activeConfig =>
    cases hc : s.carries metrics with
    | none => simp [step,Fair,hc]
    | some previous =>
      have hm : s.metrics = some previous := (Option.filter_eq_some_iff.mp hc).1
      have hp : s.health = previous.health := by simpa [Linked,hm] using hl
      simpa [step,Fair,hc,hp] using h
  | .observe none => simpa [step,Fair] using h
  | .observe (some observed) =>
    cases hm : s.metrics with
    | none =>
      have hc : s.health = .critical := by simpa [Linked,hm] using hl
      simp only [step,Fair,hm,hc,Observation.evaluateRuntimeHealth]
      cases hf : observed.failing <;> cases ht : observed.troubled <;> simp [hf,ht]
    | some metrics =>
      simp only [step,Fair,hm,Observation.evaluateRuntimeHealth]
      cases observed.working <;> cases hf : observed.failing <;>
        cases ht : observed.troubled <;> simp [hf,ht]

private theorem mem_states (s : State) (events : List Event) : s ∈ states s events := by
  cases events <;> exact List.mem_cons_self

/-- In every state of a run the document agrees with the latest observation exactly when every
event meets its condition. -/
theorem health_agrees_iff (events : List Event) :
    (∀ state ∈ states {} events, Agrees state) ↔ FairRun {} events := by
  have hrun (s : State) (hl : Linked s) (h : Agrees s) :
      (∀ state ∈ states s events, Agrees state) ↔ FairRun s events := by
    induction events generalizing s with
    | nil => simpa [states,FairRun,Along] using h
    | cons event events ih =>
      rw [states,List.forall_mem_cons,FairRun,Along,← step_agrees_iff hl h]
      constructor
      · rintro ⟨-,hs⟩
        have ha := hs _ (mem_states _ _)
        exact ⟨ha,(ih _ (step_linked hl event) ha).mp hs⟩
      · rintro ⟨ha,hf⟩
        exact ⟨h,(ih _ (step_linked hl event) ha).mpr hf⟩
  exact hrun {} (by simp [Linked]) (by simp [Agrees])

def stopped : Observation := ⟨⟨2,0,2⟩,[⟨true,0,0,0⟩],[],0⟩

/-- Both tasks failed: the snapshot would be critical, the document shows a degraded runtime, and
it is ready. -/
theorem failed_collection_ready :
    let s := [.update ⟨"v1",.healthy⟩ true,.observe (some stopped)].foldl step {}
    s.latest = some stopped ∧ stopped.evaluateRuntimeHealth = .critical ∧
      s.health = .degraded ∧ s.isReady = true := by
  exact ⟨rfl,by decide +kernel,by decide +kernel,by decide +kernel⟩

end VelaEdge.Runtime.RuntimeHealth
