import VelaEdge.Base.PropagationParts
import VelaEdge.Base.Runs
import VelaEdge.Runtime.AlgorithmDelivery

/-! Samples of several devices in one engine. The state of an algorithm is kept under the
algorithm's id alone, so devices are kept apart only by algorithms without a memory and by
algorithms that see one device. -/
namespace VelaEdge.Runtime.Algorithm

open Base Core List Propagation
open Expression (Arithmetic)
open Propagation (Network Policy Work)

/-! ## Algorithms without a memory -/

/-- What the algorithm makes of a sample does not depend on the samples before. -/
def Memoryless (arithmetic : Arithmetic) (algorithm : AlgorithmSpec) : Prop :=
  ∀ state sample, (execute arithmetic algorithm state sample).2 =
    (execute arithmetic algorithm .default sample).2

variable {arithmetic : Arithmetic} {algorithm : AlgorithmSpec}

theorem memoryless_of_rule (h : algorithm.kind = .thresholdRule) :
    Memoryless arithmetic algorithm := by
  intro state sample
  simp only [execute,h]

def AlgorithmStep.readsSource : AlgorithmStep → Bool
  | .scale _ _ _ _ => true
  | .clamp _ _ _ _ => true
  | _ => false

private theorem numericSource_recordLatest (state : AlgorithmState) (sample : TelemetrySample)
    (src : String) :
    numericSource algorithm (recordLatest algorithm state sample) sample src =
      if ofSource algorithm src sample then sample.value.asF64 else none := by
  rw [numericSource_eq]
  cases hb : algorithm.binding src with
  | none => simp [ofSource,hb]
  | some binding =>
    by_cases hp : binding.pointId = sample.telemetryId
    · have hf : algorithm.feeds src sample = true := by
        have hn := List.find?_some hb
        rw [decide_eq_true_eq] at hn
        simp only [AlgorithmSpec.feeds,any_eq_true,Bool.and_eq_true,decide_eq_true_eq]
        exact ⟨binding,mem_of_find?_eq_some hb,hn,hp⟩
      simp [ofSource,sourceValue,hb,hp,recordLatest_get,hf]
    · simp [ofSource,hb,hp]

private theorem transformSteps_of_sources (h : ∀ step ∈ steps, step.readsSource = true)
    (state other : AlgorithmState) (sample : TelemetrySample) :
    (transformSteps arithmetic algorithm sample steps (recordLatest algorithm state sample)).2 =
      (transformSteps arithmetic algorithm sample steps
        (recordLatest algorithm other sample)).2 := by
  induction steps with
  | nil => rfl
  | cons step steps ih =>
    rw [forall_mem_cons] at h
    rw [transformSteps_cons,transformSteps_cons]
    cases step with
    | scale src output factor offset =>
      simp only [transformStep,numericSource_recordLatest]
      cases hs : (if ofSource algorithm src sample then sample.value.asF64 else none) with
      | none => exact ih h.2
      | some value => rfl
    | clamp src output min max =>
      simp only [transformStep,numericSource_recordLatest]
      cases hs : (if ofSource algorithm src sample then sample.value.asF64 else none) with
      | none => exact ih h.2
      | some value => rfl
    | _ => cases h.1

private theorem applyTransform_outcome (state : AlgorithmState) (sample : TelemetrySample) :
    (applyTransform arithmetic algorithm state sample).2 =
      match (transformSteps arithmetic algorithm sample algorithm.dsl.steps
        (recordLatest algorithm state sample)).2 with
      | none => .ok []
      | some (.error failure) => .error failure
      | some (.ok (name,value)) =>
        namedOutput algorithm sample "output" name (.float value) := by
  unfold applyTransform
  split <;> simp_all

theorem memoryless_of_sources (hk : algorithm.kind = .expressionAggregate)
    (h : ∀ step ∈ algorithm.dsl.steps, step.readsSource = true) :
    Memoryless arithmetic algorithm := by
  intro state sample
  have hs : (applyTransform arithmetic algorithm state sample).2 =
      (applyTransform arithmetic algorithm .default sample).2 := by
    rw [applyTransform_outcome,applyTransform_outcome,
      transformSteps_of_sources h state .default sample]
  simp only [execute,hk,quiet,hs]

/-! ## Devices -/

def ofDevice (device : String) (samples : List TelemetrySample) : List TelemetrySample :=
  samples.filter fun sample => sample.deviceId = device

variable (arithmetic) in
/-- The algorithm keeps its state for the device of the sample, or it needs none. -/
def Apart (owner : String → Option String) (algorithm : AlgorithmSpec)
    (sample : TelemetrySample) : Prop :=
  match owner algorithm.id with
  | none => Memoryless arithmetic algorithm
  | some device => sample.deviceId = device

def Related (owner : String → Option String) (device : String) (state part : EngineState) : Prop :=
  ∀ id, owner id = some device → state.states.get id = part.states.get id

variable {owner : String → Option String} {device : String} {sample : TelemetrySample}

theorem react_states (state : EngineState) (id : String) :
    (react arithmetic algorithm state sample).1.states.get id = if id = algorithm.id then
        some (execute arithmetic algorithm (state.of algorithm) sample).1
      else state.states.get id := by
  unfold react EngineState.of
  dsimp only
  split <;> rw [OrderedMap.get_put]

theorem Related.of_eq (h : Related owner device state part)
    (ho : owner algorithm.id = some device) :
    state.of algorithm = part.of algorithm := by
  unfold EngineState.of
  rw [h algorithm.id ho]

theorem Related.react (h : Related owner device state part) :
    Related owner device (react arithmetic algorithm state sample).1
      (react arithmetic algorithm part sample).1 := by
  intro id ho
  rw [react_states,react_states]
  split
  · next hid =>
    rw [hid] at ho
    rw [h.of_eq ho]
  · exact h id ho

theorem network_separates (arithmetic : Arithmetic) (algs : List AlgorithmSpec)
    (owner : String → Option String) (device : String) :
    Separates (network arithmetic algs)
      (fun sample => decide (sample.deviceId = device)) (Related owner device)
      (Apart arithmetic owner) := by
  constructor
  · intro algorithm other sample another h
    simp only [network,Prod.mk.injEq] at h
    simp only [h.2.1]
  · intro algorithm state sample items made hi hm
    rw [((react_makes hi).derived items rfl made hm).device]
  · intro algorithm state part sample hr ha hd
    refine ⟨?_,hr.react⟩
    rw [decide_eq_true_eq] at hd
    change (react arithmetic algorithm part sample).2 = (react arithmetic algorithm state sample).2
    rw [react_outcome,react_outcome]
    unfold Apart at ha
    split at ha
    · rw [ha,ha ((state.states.get algorithm.id).getD .default)]
    · next ho =>
      rw [hd] at ha
      rw [hr algorithm.id (ha ▸ ho)]
  · intro algorithm state part sample hr ha hd
    rw [decide_eq_false_iff_not] at hd
    intro id ho
    change (react arithmetic algorithm state sample).1.states.get id = _
    rw [react_states,if_neg,hr id ho]
    intro hid
    rw [hid] at ho
    simp only [Apart,ho] at ha
    exact hd ha

/-! ## Streams -/

section Streams

variable (arithmetic : Arithmetic)

def Call.samples : Call → List TelemetrySample
  | .returned (.ok report) => report.samples
  | _ => []

/-- The samples that come out of an engine for one batch after the other. -/
def AlgorithmEngine.stream : AlgorithmEngine → List (List TelemetrySample) → List TelemetrySample
  | _, [] => []
  | engine, batch :: batches =>
    (engine.applySamples arithmetic batch).2.samples ++
      AlgorithmEngine.stream (engine.applySamples arithmetic batch).1 batches

/-- The algorithm makes something of the sample, or nothing, but does not fail on it. -/
def Succeeds (algorithm : AlgorithmSpec) (state : AlgorithmState) (sample : TelemetrySample) :
    Prop :=
  ∃ made, (execute arithmetic algorithm state sample).2 = .ok made

/-- A batch in which devices are left alone: whenever an algorithm is about to be executed, it
succeeds in the state it is in, and it is apart. -/
structure LeavesAlone (owner : String → Option String) (engine : AlgorithmEngine)
    (batch : List TelemetrySample) : Prop where
  succeeds : (network arithmetic engine.algorithms).drainsWith (engine.policy batch)
    (fun work sample algorithm => Succeeds arithmetic algorithm (work.state.of algorithm) sample)
    (engine.rounds batch) (engine.arrived batch)
  apart : (network arithmetic engine.algorithms).drainsWith (engine.policy batch)
    (fun _ sample algorithm => Apart arithmetic owner algorithm sample)
    (engine.rounds batch) (engine.arrived batch)

def StreamLeavesAlone (owner : String → Option String) :
    AlgorithmEngine → List (List TelemetrySample) → Prop :=
  Along (fun engine batch => (engine.applySamples arithmetic batch).1) (LeavesAlone arithmetic owner)

end Streams

variable {engine partEngine : AlgorithmEngine} {batch : List TelemetrySample}

theorem succeeds_eq_failsWith (algs : List AlgorithmSpec) :
    (fun (work : Work EngineState TelemetrySample AlgorithmSpec) sample algorithm =>
      Succeeds arithmetic algorithm (work.state.of algorithm) sample) =
      (network arithmetic algs).failsWith fun _ => False := by
  funext work sample algorithm
  apply propext
  change _ ↔ ∀ why, (react arithmetic algorithm work.state sample).2 = .error why → False
  rw [react_outcome]
  unfold Succeeds EngineState.of
  cases (execute arithmetic algorithm _ sample).2 with
  | error why => simp [Except.map]
  | ok made => simp [Except.map]

/-- Few outputs and no failure are enough for a report. -/
theorem LeavesAlone.finished (h : LeavesAlone arithmetic owner engine batch)
    (hf : fanOut engine.algorithms ≤ 16 * engine.algorithms.length) :
    (engine.propagate arithmetic batch).2 = .finished := by
  have hs := h.succeeds
  rw [succeeds_eq_failsWith engine.algorithms,drainsWith_failsWith] at hs
  cases he : (engine.propagate arithmetic batch).2 with
  | finished => rfl
  | unfinished => exact absurd he (propagate_ends engine batch)
  | stopped stop =>
    cases stop with
    | failed why => exact (hs why he).elim
    | exceeded =>
      rw [propagate_exceeded_iff,generated_allowed batch hf] at he
      cases he

structure Agrees (owner : String → Option String) (device : String)
    (engine partEngine : AlgorithmEngine) : Prop where
  algorithms : partEngine.algorithms = engine.algorithms
  states : ∀ id, owner id = some device → engine.states.get id = partEngine.states.get id

private theorem applySamples_of_propagate {after : Work EngineState TelemetrySample AlgorithmSpec}
    (h : engine.propagate arithmetic batch = (after,.finished)) :
    (engine.applySamples arithmetic batch).2 = .returned (.ok ⟨after.made,after.state.events⟩) := by
  unfold AlgorithmEngine.applySamples
  rw [h]

theorem Agrees.applySamples (ha : Agrees owner device engine partEngine)
    (h : LeavesAlone arithmetic owner engine batch)
    (hf : fanOut engine.algorithms ≤ 16 * engine.algorithms.length) :
    (partEngine.applySamples arithmetic (ofDevice device batch)).2.samples =
      ofDevice device (engine.applySamples arithmetic batch).2.samples ∧
    Agrees owner device (engine.applySamples arithmetic batch).1
      (partEngine.applySamples arithmetic (ofDevice device batch)).1 := by
  have hd : engine.propagate arithmetic batch =
      ((engine.propagate arithmetic batch).1,.finished) := Prod.ext rfl (h.finished hf)
  have hst : Restricted (fun sample => decide (sample.deviceId = device))
      (Related owner device) (engine.arrived batch)
      (partEngine.arrived (ofDevice device batch)) :=
    ⟨ha.states,rfl,rfl,rfl⟩
  have hfo : Followed (engine.policy (ofDevice device batch)).unguarded
      (fun sample => decide (sample.deviceId = device)) (Apart arithmetic owner)
      (engine.propagate arithmetic batch).1 :=
    ⟨(drainsWith_log (engine.rounds batch)).mp ⟨h.apart,fun _ he => nomatch he⟩,rfl⟩
  have hon : (engine.policy (ofDevice device batch)).unguarded.once =
      (engine.policy batch).once := rfl
  rcases hst.drain (network_separates arithmetic engine.algorithms owner device) _ hon hd
    hfo with ⟨partAfter,hpart,hrestricted⟩
  -- the engine that is given the part alone takes another number of rounds, under a guard
  have hp : partEngine.propagate arithmetic (ofDevice device batch) = (partAfter,.finished) := by
    have he := @propagate_ends arithmetic partEngine (ofDevice device batch)
    have hg : (partEngine.propagate arithmetic (ofDevice device batch)).2 ≠
        .stopped .exceeded := by
      rw [ne_eq,propagate_exceeded_iff,generated_allowed _ (by rwa [ha.algorithms])]
      simp
    unfold AlgorithmEngine.propagate AlgorithmEngine.policy at he hg ⊢
    rw [ha.algorithms] at he hg ⊢
    rw [← drain_unguarded _ hg] at he ⊢
    have hpe : ((network arithmetic engine.algorithms).drain
        (engine.policy (ofDevice device batch)).unguarded (engine.rounds batch)
        (partEngine.arrived (ofDevice device batch))).2 ≠ .unfinished := by
      simp [hpart]
    exact (drain_eq_of_ends he hpe).trans hpart
  constructor
  · rw [applySamples_of_propagate hp,applySamples_of_propagate hd]
    exact hrestricted.made
  · constructor
    · exact ha.algorithms
    · intro id ho
      unfold AlgorithmEngine.applySamples
      rw [hp]
      exact hrestricted.state id ho

/-- A device that is left alone gets what it gets when its samples are the only ones. -/
theorem stream_of_device_alone (owner : String → Option String) (device : String)
    (engine : AlgorithmEngine) (batches : List (List TelemetrySample))
    (hf : fanOut engine.algorithms ≤ 16 * engine.algorithms.length)
    (h : StreamLeavesAlone arithmetic owner engine batches) :
    ofDevice device (engine.stream arithmetic batches) =
      engine.stream arithmetic (batches.map (ofDevice device)) := by
  have hg : ∀ (batches : List (List TelemetrySample)) (engine partEngine : AlgorithmEngine),
      Agrees owner device engine partEngine →
      fanOut engine.algorithms ≤ 16 * engine.algorithms.length →
      StreamLeavesAlone arithmetic owner engine batches →
      ofDevice device (engine.stream arithmetic batches) =
        partEngine.stream arithmetic (batches.map (ofDevice device)) := by
    intro batches
    induction batches with
    | nil =>
      intro engine partEngine _ _ _
      rfl
    | cons batch batches ih =>
      intro engine partEngine ha hf hs
      have hb := ha.applySamples hs.1 hf
      rw [map_cons,AlgorithmEngine.stream,AlgorithmEngine.stream,hb.1,← ih _ _ hb.2 hf hs.2]
      exact filter_append _ _
  exact hg batches engine engine ⟨rfl,fun _ _ => rfl⟩ hf h

def changes (id input output : String) : AlgorithmSpec where
  id := id
  kind := .changeReport
  dsl :=
    { inputs := [⟨"x",input⟩]
      trigger := .onSample
      steps := [.changeFilter "x" (.finite 1 0)]
      outputs := [⟨"y",output⟩] }

/-- The levels of all devices are doubled, and changes of the boiler's heat are reported. -/
def plantEngine : AlgorithmEngine :=
  ⟨[multiple "double" "level" "twice" 2,changes "filter" "heat" "heated"],.empty⟩

def plantBatch : List TelemetrySample :=
  [reading "boiler" "level" 1 1,reading "tank" "level" 2 1,reading "boiler" "heat" 5 1]

/-- The tank shares only the algorithm without a memory. -/
theorem boiler_next_to_tank : ofDevice "boiler" (plantEngine.stream .exact [plantBatch]) =
      plantEngine.stream .exact [ofDevice "boiler" plantBatch] := by
  have hd : Memoryless .exact (multiple "double" "level" "twice" 2) :=
    memoryless_of_sources rfl (by decide)
  have hl : ∀ entry ∈ (plantEngine.propagate .exact plantBatch).1.log,
      entry.1 = multiple "double" "level" "twice" 2 ∨
        entry.1.id = "filter" ∧ entry.2.deviceId = "boiler" := by
    decide +kernel
  have he : (plantEngine.propagate .exact plantBatch).2 = .finished := by decide +kernel
  apply stream_of_device_alone (fun id => if id = "filter" then some "boiler" else none)
  · decide
  refine ⟨⟨?_,?_⟩,trivial⟩
  · rw [succeeds_eq_failsWith plantEngine.algorithms,drainsWith_failsWith]
    intro why hw
    cases he.symm.trans hw
  · refine ((drainsWith_log _).mpr ?_).1
    intro entry hm
    cases hl entry hm with
    | inl hs =>
      rw [hs]
      exact hd
    | inr hf =>
      unfold Apart
      rw [hf.1]
      exact hf.2

/-- The boiler's level is not reported, because the tank's was the same. -/
theorem equal_level_of_other_device_is_lost :
    ofDevice "boiler" ((⟨[changes "filter" "level" "changed"],.empty⟩ :
        AlgorithmEngine).stream .exact
      [[reading "tank" "level" 5 1,reading "boiler" "level" 5 1]]) = [] ∧
    (⟨[changes "filter" "level" "changed"],.empty⟩ : AlgorithmEngine).stream .exact
      [ofDevice "boiler" [reading "tank" "level" 5 1,reading "boiler" "level" 5 1]] =
      [reading "boiler" "changed" 5 1] := by
  decide +kernel

end VelaEdge.Runtime.Algorithm
