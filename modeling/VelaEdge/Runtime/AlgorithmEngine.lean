import Mathlib.Data.List.ProdSigma
import VelaEdge.Runtime.Algorithm

/-! The propagation of a batch of samples through the algorithms, which ends for every set of
algorithms. -/
namespace VelaEdge.Runtime.Algorithm

open Base Core Option List Propagation
open Expression (Arithmetic)
open Propagation (Network Policy Work Ending Stop)

/-! ## The engine -/

structure AlgorithmEngine where
  algorithms : List AlgorithmSpec
  states : OrderedMap String AlgorithmState

structure EngineState where
  states : OrderedMap String AlgorithmState
  events : List EdgeRuntimeEvent

structure AlgorithmExecutionReport where
  samples : List TelemetrySample
  events : List EdgeRuntimeEvent
deriving DecidableEq

inductive EngineError where
  | failed (message : String)
  | tooManySamples
deriving DecidableEq

def EngineError.message : EngineError → String
  | .failed message => message
  | .tooManySamples => "algorithm graph generated too many samples; check for a cycle"

inductive Call where
  | returned (result : Except EngineError AlgorithmExecutionReport)
  | panicked
  | unfinished
deriving DecidableEq

abbrev Transition := String × String × String × Time

def usizeMax : Nat := 2 ^ 64 - 1

def saturatingMul (left right : Nat) : Nat := min (left * right) usizeMax

def maxGeneratedSamples (samples algorithms : Nat) : Nat :=
  saturatingMul (saturatingMul (max samples 1) (max algorithms 1)) 16

/-- The sum that is compared with the limit saturates too, so it never exceeds the largest one. -/
def guarded (samples algorithms : Nat) : Policy where
  once := true
  limit :=
    if maxGeneratedSamples samples algorithms = usizeMax then none
    else some (maxGeneratedSamples samples algorithms)

def AlgorithmStep.isRoute : AlgorithmStep → Bool
  | .conditionalRoute _ _ _ _ _ => true
  | _ => false

/-- The most samples that an algorithm makes of one. -/
def AlgorithmSpec.capacity (algorithm : AlgorithmSpec) : Nat := match algorithm.kind with
  | .windowAggregate | .statistics => algorithm.windowStep.elim 0 fun step => step.2.length
  | .thresholdRule => algorithm.dsl.steps.countP (·.isRoute)
  | _ => 1

def transitions (algorithms : List AlgorithmSpec) (samples : List TelemetrySample) :
    List Transition :=
  algorithms.map (·.id) ×ˢ samples.map (·.deviceId) ×ˢ
    algorithms.flatMap (·.inputs) ×ˢ samples.map (·.timestamp)

def width (algorithms : List AlgorithmSpec) : Nat :=
  algorithms.foldr (fun algorithm most => max algorithm.capacity most) 0

section Engine

variable (arithmetic : Arithmetic)

def react (algorithm : AlgorithmSpec) (state : EngineState) (sample : TelemetrySample) :
    EngineState × Except Failure (List TelemetrySample) :=
  let execution := execute arithmetic algorithm
    ((state.states.get algorithm.id).getD .default) sample
  let states := state.states.put algorithm.id execution.1
  match execution.2 with
  | .error failure => (⟨states,state.events⟩,.error failure)
  | .ok (samples,events) => (⟨states,state.events ++ events⟩,.ok samples)

def network (algorithms : List AlgorithmSpec) :
    Network EngineState TelemetrySample AlgorithmSpec Transition Failure where
  consumers := algorithms
  takes algorithm sample :=
    !algorithm.dsl.inputs.isEmpty && algorithm.inputs.contains sample.telemetryId
  key algorithm sample := (algorithm.id,sample.deviceId,sample.telemetryId,sample.timestamp)
  react := react arithmetic

namespace AlgorithmEngine

variable (engine : AlgorithmEngine) (samples : List TelemetrySample)

def new (algorithms : List AlgorithmSpec) : Except String AlgorithmEngine := do
  AppliedConfig.newAlgorithmEngine (algorithms.map (·.packaged))
  pure ⟨algorithms,.empty⟩

def arrived : Work EngineState TelemetrySample AlgorithmSpec := ⟨⟨engine.states,[]⟩,[],samples,[]⟩

def policy : Policy := guarded samples.length engine.algorithms.length

/-- As many rounds as the loop can need. -/
def rounds : Nat :=
  samples.length + width engine.algorithms * (transitions engine.algorithms samples).length

def propagate : Work EngineState TelemetrySample AlgorithmSpec × Ending Failure :=
  (network arithmetic engine.algorithms).drain (engine.policy samples) (engine.rounds samples)
    (engine.arrived samples)

def applySamples : AlgorithmEngine × Call :=
  let work := (engine.propagate arithmetic samples).1
  ({ engine with states := work.state.states },
    match (engine.propagate arithmetic samples).2 with
    | .finished => .returned (.ok ⟨work.made,work.state.events⟩)
    | .stopped (.failed (.error message)) => .returned (.error (.failed message))
    | .stopped (.failed .panic) => .panicked
    | .stopped .exceeded => .returned (.error .tooManySamples)
    | .unfinished => .unfinished)

end AlgorithmEngine

end Engine

/-! ## What an algorithm makes of a sample -/

structure Derived (algorithm : AlgorithmSpec) (sample made : TelemetrySample) : Prop where
  device : made.deviceId = sample.deviceId
  time : made.timestamp = sample.timestamp
  point : made.telemetryId ∈ algorithm.outputs

/-- Not too many samples, which are derived from the sample, or an error. -/
structure Makes (algorithm : AlgorithmSpec) (sample : TelemetrySample) (most : Nat)
    (outcome : Except Failure (List TelemetrySample)) : Prop where
  calm : outcome ≠ .error .panic
  length_le : ∀ items, outcome = .ok items → items.length ≤ most
  derived : ∀ items, outcome = .ok items → ∀ made ∈ items, Derived algorithm sample made

variable {arithmetic : Arithmetic} {algorithm : AlgorithmSpec} {state : AlgorithmState}
variable {sample : TelemetrySample} {most : Nat} {items : List TelemetrySample}

theorem makes_ok (hl : items.length ≤ most) (hd : ∀ made ∈ items, Derived algorithm sample made) :
    Makes algorithm sample most (.ok items) := by
  constructor
  · simp
  · intro others h
    cases h
    exact hl
  · intro others h
    cases h
    exact hd

theorem makes_nil : Makes algorithm sample most (.ok []) := makes_ok (Nat.zero_le _) (by simp)

variable {failure : Failure}

theorem makes_failed (h : failure ≠ .panic) : Makes algorithm sample most (.error failure) := by
  constructor
  · simpa using h
  · simp
  · simp

theorem makes_error (msg : String) : Makes algorithm sample most (.error (.error msg)) :=
  makes_failed (by simp)

variable {output : AlgorithmOutput}

theorem derived_derive (h : output ∈ algorithm.dsl.outputs) (src : TelemetrySample)
    (value : TelemetryValue) :
    Derived algorithm sample (sample.derive src output.pointId value) :=
  ⟨rfl,rfl,mem_map_of_mem h⟩

theorem makes_derive (h : output ∈ algorithm.dsl.outputs) (src : TelemetrySample)
    (value : TelemetryValue) :
    Makes algorithm sample 1 (.ok [sample.derive src output.pointId value]) :=
  makes_ok (Nat.le_refl _) (by
    rw [forall_mem_singleton]
    exact derived_derive h src value)

theorem Makes.failed {more : Nat} (h : Makes algorithm sample most (.error failure)) :
    Makes algorithm sample more (.error failure) :=
  makes_failed (by simpa using h.calm)

theorem onSource_makes (src : String) {run : Execution (List TelemetrySample)}
    (h : Makes algorithm sample most run.2) :
    Makes algorithm sample most (onSource algorithm state sample src run).2 := by
  unfold onSource
  split
  · exact makes_error _
  · split
    · exact h
    · exact makes_nil

theorem namedOutput_makes (kind name : String) (value : TelemetryValue) :
    Makes algorithm sample 1 (namedOutput algorithm sample kind name value) := by
  unfold namedOutput
  split
  · exact makes_error _
  · next ho => exact makes_derive (mem_of_find?_eq_some ho) _ _

theorem applyChangeReport_makes :
    Makes algorithm sample 1 (applyChangeReport arithmetic algorithm state sample).2 := by
  unfold applyChangeReport
  split
  · exact makes_nil
  · apply onSource_makes
    split
    · exact makes_error _
    · next ho =>
      split
      · exact makes_derive (mem_of_head? ho) _ _
      · exact makes_nil

private theorem aggregates_makes (functions : List WindowAggregateFunction)
    (samples : List TelemetrySample) :
    Makes algorithm sample functions.length
      (.ok (aggregates arithmetic algorithm sample functions samples)) := by
  apply makes_ok
  · exact length_filterMap_le _ _
  · intro made hm
    simp only [aggregates,mem_filterMap,bind_eq_bind,bind_eq_some_iff] at hm
    rcases hm with ⟨_,_,_,_,output,ho,hd⟩
    cases hd
    exact derived_derive (mem_of_find?_eq_some ho) _ _

theorem fillWindow_makes (src : String) (functions : List WindowAggregateFunction) (everyMs : Nat) :
    Makes algorithm sample functions.length
      (fillWindow arithmetic algorithm state sample src functions everyMs).2 := by
  unfold fillWindow
  extract_lets window
  split
  · exact makes_nil
  · exact aggregates_makes _ _

theorem applyWindowAggregate_makes
    (h : algorithm.kind = .windowAggregate ∨ algorithm.kind = .statistics) :
    Makes algorithm sample algorithm.capacity
      (applyWindowAggregate arithmetic algorithm state sample).2 := by
  have hc : algorithm.capacity = algorithm.windowStep.elim 0 fun step => step.2.length := by
    cases h with
    | inl h => simp [AlgorithmSpec.capacity,h]
    | inr h => simp [AlgorithmSpec.capacity,h]
  unfold applyWindowAggregate
  split
  · split
    · exact makes_nil
    · next src functions hf =>
      rw [hc,hf]
      apply onSource_makes
      exact fillWindow_makes _ _ _
  · exact makes_nil

theorem applyDebounce_makes :
    Makes algorithm sample 1 (applyDebounce algorithm state sample).2 := by
  unfold applyDebounce
  split
  · exact makes_nil
  · apply onSource_makes
    dsimp only
    split
    · exact makes_nil
    · split
      · exact makes_nil
      · split
        · exact makes_error _
        · next ho =>
          split
          · exact makes_nil
          · exact makes_derive (mem_of_head? ho) _ _

theorem applyDurationCondition_makes :
    Makes algorithm sample 1 (applyDurationCondition arithmetic algorithm state sample).2 := by
  unfold applyDurationCondition
  split
  · exact makes_nil
  · apply onSource_makes
    split
    · exact makes_nil
    · dsimp only
      split
      · exact makes_nil
      · split
        · exact makes_nil
        · exact namedOutput_makes _ _ _

private theorem matchedBy_calm {src : String} {operator : CompareOperator} {threshold : Binary64}
    (failure : Failure)
    (h : matchedBy arithmetic algorithm sample src operator threshold = .error failure) :
    failure ≠ .panic := by
  unfold matchedBy at h
  split at h
  · cases h
    simp
  · split at h <;> cases h

variable (step : AlgorithmStep)

private theorem applyRule_makes : Makes algorithm sample (if step.isRoute then 1 else 0)
      ((applyRule arithmetic algorithm sample step).map (·.1)) := by
  cases step with
  | thresholdRule src operator threshold ev =>
    have hc := @matchedBy_calm arithmetic algorithm sample src operator threshold
    cases hm : matchedBy arithmetic algorithm sample src operator threshold with
    | error failure =>
      rw [hm] at hc
      simp only [applyRule,hm,error_bind]
      exact makes_failed (hc failure rfl)
    | ok verdict =>
      simp only [applyRule,hm,ok_bind,AlgorithmStep.isRoute,Bool.false_eq_true,if_false]
      split <;> exact makes_nil
  | conditionalRoute src operator threshold matchedOutput unmatchedOutput =>
    have hc := @matchedBy_calm arithmetic algorithm sample src operator threshold
    cases hm : matchedBy arithmetic algorithm sample src operator threshold with
    | error failure =>
      rw [hm] at hc
      simp only [applyRule,hm,error_bind]
      exact makes_failed (hc failure rfl)
    | ok verdict =>
      simp only [applyRule,hm,ok_bind,AlgorithmStep.isRoute,if_true]
      split
      · next isMatched =>
        have hn := @namedOutput_makes algorithm sample "route output"
          (if isMatched then matchedOutput else unmatchedOutput) sample.value
        cases ho : namedOutput algorithm sample "route output"
            (if isMatched then matchedOutput else unmatchedOutput) sample.value with
        | error failure =>
          rw [ho] at hn
          exact hn.failed
        | ok samples =>
          rw [ho] at hn
          exact hn
      · exact makes_nil
  | _ => exact makes_nil

theorem makes_append {second : List TelemetrySample} (hf : Makes algorithm sample most (.ok first))
    (hs : Makes algorithm sample more (.ok second)) :
    Makes algorithm sample (most + more) (.ok (first ++ second)) := by
  apply makes_ok
  · rw [length_append]
    exact Nat.add_le_add (hf.length_le first rfl) (hs.length_le second rfl)
  · intro made hm
    rw [mem_append] at hm
    exact hm.elim (hf.derived first rfl made) (hs.derived second rfl made)

theorem applyThresholdRule_makes (steps : List AlgorithmStep) :
    Makes algorithm sample (steps.countP (·.isRoute))
      ((applyThresholdRule arithmetic algorithm sample steps).map (·.1)) := by
  induction steps with
  | nil => exact makes_nil
  | cons step steps ih =>
    have hs := @applyRule_makes arithmetic algorithm sample step
    unfold applyThresholdRule
    cases hr : applyRule arithmetic algorithm sample step with
    | error failure =>
      rw [hr] at hs
      exact hs.failed
    | ok made =>
      rw [hr] at hs
      cases hre : applyThresholdRule arithmetic algorithm sample steps with
      | error failure =>
        rw [hre] at ih
        exact ih.failed
      | ok rest =>
        rw [hre] at ih
        rw [countP_cons,Nat.add_comm]
        exact makes_append hs ih

section Panics

variable (arithmetic algorithm sample) in
/-- The first step that makes something of the sample is a clamp with its bounds out of order. -/
def misclamps : List AlgorithmStep → AlgorithmState → Bool
  | [], _ => false
  | .clamp source _ min max :: steps, state =>
    if (numericSource algorithm state sample source).isSome then !min.le max
    else misclamps steps state
  | step :: steps, state =>
    match transformStep arithmetic algorithm state sample step with
    | (_,some _) => false
    | (state,none) => misclamps steps state

variable (arithmetic algorithm state sample) in
def panics : Bool := algorithm.kind = .expressionAggregate &&
    misclamps arithmetic algorithm sample algorithm.dsl.steps (recordLatest algorithm state sample)

private theorem evaluate_calm (arithmetic : Arithmetic) (latest : String → Option TelemetrySample)
    (expr : String) : evaluate arithmetic latest expr ≠ .error .panic := by
  unfold evaluate
  split <;> simp

private theorem transformStep_calm {step : AlgorithmStep}
    (h : ∀ src output min max, step ≠ .clamp src output min max) :
    (transformStep arithmetic algorithm state sample step).2 ≠ some (.error .panic) := by
  cases step with
  | expression output expr =>
    unfold transformStep
    dsimp only
    split
    · have hc := evaluate_calm arithmetic state.latestByAlias.get expr
      cases hv : evaluate arithmetic state.latestByAlias.get expr with
      | error failure =>
        rw [hv] at hc
        simpa [Except.map] using hc
      | ok value => simp [Except.map]
    · simp
  | scale src output factor offset => simp [transformStep]
  | clamp src output min max => exact absurd rfl (h src output min max)
  | rateOfChange src output perMs => simp [transformStep]
  | _ => simp [transformStep]

@[simp] theorem transformSteps_cons (steps : List AlgorithmStep) :
    transformSteps arithmetic algorithm sample (step :: steps) state =
      match transformStep arithmetic algorithm state sample step with
      | (state,some res) => (state,some res)
      | (state,none) => transformSteps arithmetic algorithm sample steps state := rfl

theorem transformSteps_panic_iff (steps : List AlgorithmStep) (state : AlgorithmState) :
    (transformSteps arithmetic algorithm sample steps state).2 = some (.error .panic) ↔
      misclamps arithmetic algorithm sample steps state = true := by
  induction steps generalizing state with
  | nil => simp [transformSteps,misclamps]
  | cons step steps ih =>
    rw [transformSteps_cons]
    by_cases hc : ∃ src output min max, step = .clamp src output min max
    · rcases hc with ⟨src,output,min,max,rfl⟩
      simp only [misclamps,transformStep]
      cases hso : numericSource algorithm state sample src with
      | none => simpa using ih state
      | some value =>
        simp only [map_some,isSome_some,if_true,clampTo]
        cases min.le max <;> simp [Except.map]
    · have hca := @transformStep_calm arithmetic algorithm state sample step
        (fun src output min max h => hc ⟨src,output,min,max,h⟩)
      have hs : misclamps arithmetic algorithm sample (step :: steps) state =
          match transformStep arithmetic algorithm state sample step with
          | (_,some _) => false
          | (state,none) => misclamps arithmetic algorithm sample steps state := by
        cases step with
        | clamp src output min max => exact absurd ⟨src,output,min,max,rfl⟩ hc
        | _ => rfl
      rw [hs]
      cases hr : transformStep arithmetic algorithm state sample step with
      | mk next res =>
        rw [hr] at hca
        cases res with
        | none => exact ih next
        | some out => simpa using hca

theorem applyTransform_panics (h : misclamps arithmetic algorithm sample algorithm.dsl.steps
      (recordLatest algorithm state sample) = true) :
    (applyTransform arithmetic algorithm state sample).2 = .error .panic := by
  rw [← transformSteps_panic_iff] at h
  unfold applyTransform
  split
  · next hr => simp [hr] at h
  · next hr =>
    rw [hr] at h
    cases h
    rfl
  · next hr => simp [hr] at h

private theorem applyTransform_makes (h : misclamps arithmetic algorithm sample algorithm.dsl.steps
      (recordLatest algorithm state sample) = false) :
    Makes algorithm sample 1 (applyTransform arithmetic algorithm state sample).2 := by
  rw [← Bool.not_eq_true,← transformSteps_panic_iff] at h
  unfold applyTransform
  split
  · exact makes_nil
  · next hr =>
    rw [hr] at h
    exact makes_failed (by simpa using h)
  · exact namedOutput_makes _ _ _

@[simp] theorem quiet_outcome (execution : Execution (List TelemetrySample)) :
    (quiet execution).2.map (·.1) = execution.2 := by
  unfold quiet
  cases execution.2 <;> rfl

theorem execute_makes (h : panics arithmetic algorithm state sample = false) :
    Makes algorithm sample algorithm.capacity
      ((execute arithmetic algorithm state sample).2.map (·.1)) := by
  unfold execute
  cases hk : algorithm.kind with
  | changeReport =>
    simp only [AlgorithmSpec.capacity,hk,quiet_outcome]
    exact applyChangeReport_makes
  | deadband =>
    simp only [AlgorithmSpec.capacity,hk,quiet_outcome]
    exact applyChangeReport_makes
  | windowAggregate =>
    rw [quiet_outcome]
    exact applyWindowAggregate_makes (.inl hk)
  | statistics =>
    rw [quiet_outcome]
    exact applyWindowAggregate_makes (.inr hk)
  | expressionAggregate =>
    simp only [AlgorithmSpec.capacity,hk,quiet_outcome]
    apply applyTransform_makes
    simpa [panics,hk] using h
  | thresholdRule =>
    simp only [AlgorithmSpec.capacity,hk]
    exact applyThresholdRule_makes _
  | debounce =>
    simp only [AlgorithmSpec.capacity,hk,quiet_outcome]
    exact applyDebounce_makes
  | durationRule =>
    simp only [AlgorithmSpec.capacity,hk,quiet_outcome]
    exact applyDurationCondition_makes

theorem execute_panics (h : panics arithmetic algorithm state sample = true) :
    (execute arithmetic algorithm state sample).2.map (·.1) = .error .panic := by
  simp only [panics,Bool.and_eq_true,decide_eq_true_eq] at h
  unfold execute
  simp only [h.1,quiet_outcome]
  exact applyTransform_panics h.2

end Panics

theorem react_outcome (algorithm : AlgorithmSpec) (state : EngineState) (sample : TelemetrySample) :
    (react arithmetic algorithm state sample).2 =
      (execute arithmetic algorithm ((state.states.get algorithm.id).getD .default)
        sample).2.map (·.1) := by
  unfold react
  dsimp only
  split
  · next hf => rw [hf]; rfl
  · next hm => rw [hm]; rfl

def EngineState.of (state : EngineState) (algorithm : AlgorithmSpec) : AlgorithmState :=
  (state.states.get algorithm.id).getD .default

theorem react_panics_iff (state : EngineState) :
    (react arithmetic algorithm state sample).2 = .error .panic ↔
      panics arithmetic algorithm (state.of algorithm) sample = true := by
  rw [react_outcome]
  constructor
  · intro h
    by_contra hcalm
    rw [Bool.not_eq_true] at hcalm
    exact (execute_makes hcalm).calm h
  · exact execute_panics

theorem react_makes {state : EngineState}
    (h : (react arithmetic algorithm state sample).2 = .ok items) :
    Makes algorithm sample algorithm.capacity (.ok items) := by
  rw [← h,react_outcome]
  apply execute_makes
  by_contra hpanics
  rw [Bool.not_eq_false] at hpanics
  rw [react_outcome,execute_panics hpanics] at h
  cases h

/-! ## The loop ends -/

private theorem capacity_le_width (h : algorithm ∈ algs) : algorithm.capacity ≤ width algs := by
  induction algs with
  | nil => cases h
  | cons first rest ih =>
    rw [width,foldr_cons]
    cases h with
    | head => exact Nat.le_max_left _ _
    | tail _ hr => exact Nat.le_trans (ih hr) (Nat.le_max_right _ _)

def FromBatch (samples : List TelemetrySample) (sample : TelemetrySample) : Prop :=
  sample.deviceId ∈ samples.map (·.deviceId) ∧ sample.timestamp ∈ samples.map (·.timestamp)

@[simp] theorem takes_iff : (network arithmetic algs).takes algorithm sample = true ↔
      sample.telemetryId ∈ algorithm.inputs := by
  simp only [network,Bool.and_eq_true,contains_iff_mem,Bool.not_eq_true']
  constructor
  · exact fun h => h.2
  · intro h
    refine ⟨?_,h⟩
    rw [Bool.eq_false_iff]
    intro he
    rw [List.isEmpty_iff] at he
    simp [AlgorithmSpec.inputs,he] at h

private theorem network_bounded (arithmetic : Arithmetic) (algs : List AlgorithmSpec)
    (samples : List TelemetrySample) :
    Bounded (network arithmetic algs) (FromBatch samples)
      (transitions algs samples) (width algs) := by
  constructor
  · intro algorithm hm sample hb ht
    rw [takes_iff] at ht
    simp only [transitions,network,mem_product]
    exact ⟨mem_map_of_mem hm,hb.1,mem_flatMap_of_mem hm ht,hb.2⟩
  · intro algorithm hm state sample items hb _ hi
    have hma := react_makes hi
    refine ⟨Nat.le_trans (hma.length_le items rfl) (capacity_le_width hm),?_⟩
    intro made hm
    have hs := hma.derived items rfl made hm
    exact ⟨hs.device ▸ hb.1,hs.time ▸ hb.2⟩

variable (engine : AlgorithmEngine) (samples : List TelemetrySample)

private theorem arrived_fits : Fits (network arithmetic engine.algorithms) (FromBatch samples)
      (transitions engine.algorithms samples) (engine.arrived samples) := by
  constructor
  · exact nodup_nil
  · intro key hk
    cases hk
  · intro sample hs
    exact ⟨mem_map_of_mem hs,mem_map_of_mem hs⟩

theorem propagate_ends : (engine.propagate arithmetic samples).2 ≠ .unfinished := by
  apply (network_bounded arithmetic engine.algorithms samples).drain_ends rfl _
    (arrived_fits engine samples)
  simp [Propagation.measure,AlgorithmEngine.arrived,AlgorithmEngine.rounds]

def ClampsInOrder (arithmetic : Arithmetic) (engine : AlgorithmEngine)
    (samples : List TelemetrySample) : Prop :=
  (network arithmetic engine.algorithms).drainsWith (engine.policy samples)
    (fun work sample algorithm =>
      panics arithmetic algorithm (work.state.of algorithm) sample = false)
    (engine.rounds samples) (engine.arrived samples)

private theorem clampsInOrder_iff : ClampsInOrder arithmetic engine samples ↔
      (engine.propagate arithmetic samples).2 ≠ .stopped (.failed .panic) := by
  have hf : (fun (work : Work EngineState TelemetrySample AlgorithmSpec) sample algorithm =>
        panics arithmetic algorithm (work.state.of algorithm) sample = false) =
      (network arithmetic engine.algorithms).failsWith (· ≠ .panic) := by
    funext work sample algorithm
    apply propext
    rw [← Bool.not_eq_true,← react_panics_iff,Network.failsWith]
    constructor
    · intro h why hr hp
      exact h (hp ▸ hr)
    · intro h hp
      exact h .panic hp rfl
  rw [ClampsInOrder,hf,drainsWith_failsWith]
  constructor
  · intro h hp
    exact h .panic hp rfl
  · intro h why hr hp
    exact h (hp ▸ hr)

/-- A batch is processed in finitely many rounds, for any set of algorithms, and no transition
twice. What comes out is a report or an error unless a clamp has its bounds out of order. -/
theorem applySamples_ends (arithmetic : Arithmetic) (engine : AlgorithmEngine)
    (samples : List TelemetrySample) :
    (engine.applySamples arithmetic samples).2 ≠ .unfinished ∧
    ((network arithmetic engine.algorithms).keys
      (engine.propagate arithmetic samples).1.log).Nodup ∧
    ((∃ result, (engine.applySamples arithmetic samples).2 = .returned result) ↔
      ClampsInOrder arithmetic engine samples) := by
  have he := @propagate_ends arithmetic engine samples
  refine ⟨?_,?_,?_⟩
  · unfold AlgorithmEngine.applySamples
    dsimp only
    split <;> simp_all
  · exact drain_keys_nodup rfl _ nodup_nil
  · rw [clampsInOrder_iff]
    unfold AlgorithmEngine.applySamples
    dsimp only
    split <;> simp_all

private theorem misclamps_of_ordered (state : AlgorithmState)
    (h : ∀ src output min max, .clamp src output min max ∈ steps → min.le max = true) :
    misclamps arithmetic algorithm sample steps state = false := by
  induction steps generalizing state with
  | nil => rfl
  | cons step steps ih =>
    have hr := fun state => ih state fun src output min max hm =>
      h src output min max (mem_cons_of_mem _ hm)
    unfold misclamps
    split
    · rfl
    · next hs =>
      cases hs
      split
      · rw [h _ _ _ _ mem_cons_self,Bool.not_true]
      · exact hr _
    · next hs =>
      cases hs
      split
      · rfl
      · exact hr _

theorem clampsInOrder_of_ordered {engine : AlgorithmEngine}
    (h : ∀ algorithm ∈ engine.algorithms, ∀ src output min max,
      .clamp src output min max ∈ algorithm.dsl.steps → min.le max = true) :
    ClampsInOrder arithmetic engine samples := by
  apply drainsWith_of_forall
  intro sample algorithm hm work
  rw [panics,misclamps_of_ordered _ (h algorithm hm),Bool.and_false]

def crossedClamp : AlgorithmSpec where
  id := "crossed"
  kind := .expressionAggregate
  dsl :=
    { inputs := [⟨"x","level"⟩]
      trigger := .onSample
      steps := [.clamp "x" "y" (.finite 5 0) (.finite 1 0)]
      outputs := [⟨"y","limited"⟩] }

def level : Int → Int → TelemetrySample := reading "tank" "level"

/-- Neither samples nor an error. -/
theorem crossed_clamp_panics :
    ((⟨[crossedClamp],.empty⟩ : AlgorithmEngine).applySamples .exact [level 3 1]).2 =
      .panicked := by
  rfl

end VelaEdge.Runtime.Algorithm
