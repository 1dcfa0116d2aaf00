import VelaEdge.Base.Deliveries
import VelaEdge.Runtime.AlgorithmGuard

/-! What reaches an algorithm. A transition is processed once, so of two samples of one device,
point and time an algorithm sees the first only. Where nothing comes up twice, an algorithm sees
everything, and the value that it emits last is the one of its last inputs. -/
namespace VelaEdge.Runtime.Algorithm

open Base Core List Propagation
open Expression (Arithmetic)
open Propagation (Network Policy Work)

variable {other : AlgorithmSpec}

/-! ## One algorithm among the others -/

section View

variable (arithmetic : Arithmetic) (algorithm : AlgorithmSpec)

def madeOf (state : AlgorithmState) (sample : TelemetrySample) : List TelemetrySample :=
  match (execute arithmetic algorithm state sample).2 with
  | .ok (samples, _) => samples
  | .error _ => []

def stateAfter (state : AlgorithmState) (samples : List TelemetrySample) : AlgorithmState :=
  samples.foldl (fun state sample => (execute arithmetic algorithm state sample).1) state

def emissions : AlgorithmState → List TelemetrySample → List TelemetrySample
  | _, [] => []
  | state, sample :: samples =>
    madeOf arithmetic algorithm state sample ++
      emissions (execute arithmetic algorithm state sample).1 samples

variable (state : AlgorithmState) (samples : List TelemetrySample) (sample : TelemetrySample)

@[simp] theorem stateAfter_append : stateAfter arithmetic algorithm state (samples ++ [sample]) =
      (execute arithmetic algorithm (stateAfter arithmetic algorithm state samples) sample).1 := by
  simp [stateAfter]

@[simp] theorem emissions_append : emissions arithmetic algorithm state (samples ++ [sample]) =
      emissions arithmetic algorithm state samples ++
        madeOf arithmetic algorithm (stateAfter arithmetic algorithm state samples) sample := by
  induction samples generalizing state with
  | nil => simp [emissions,stateAfter]
  | cons first samples ih =>
    simp only [cons_append,emissions,ih,append_assoc]
    rfl

def received (log : List (AlgorithmSpec × TelemetrySample)) : List TelemetrySample :=
  (log.reverse.filter fun entry => entry.1 = algorithm).map (·.2)

@[simp] theorem received_self (log : List (AlgorithmSpec × TelemetrySample)) :
    received algorithm ((algorithm,sample) :: log) = received algorithm log ++ [sample] := by
  simp [received]

theorem received_other (h : other ≠ algorithm) (sample : TelemetrySample)
    (log : List (AlgorithmSpec × TelemetrySample)) :
    received algorithm ((other,sample) :: log) = received algorithm log := by
  simp [received,h]

end View

variable {arithmetic : Arithmetic} {algorithm : AlgorithmSpec}

@[simp] theorem react_of_self (state : EngineState) (sample : TelemetrySample) :
    (react arithmetic algorithm state sample).1.of algorithm =
      (execute arithmetic algorithm (state.of algorithm) sample).1 := by
  unfold react EngineState.of
  dsimp only
  split <;> simp

theorem react_of_other (h : algorithm.id ≠ other.id) (state : EngineState)
    (sample : TelemetrySample) :
    (react arithmetic other state sample).1.of algorithm = state.of algorithm := by
  unfold react EngineState.of
  dsimp only
  split <;> simp [OrderedMap.get_put_of_ne _ _ h]

theorem madeOf_of_react (h : (react arithmetic algorithm state sample).2 = .ok items) :
    madeOf arithmetic algorithm (state.of algorithm) sample = items := by
  rw [react_outcome] at h
  unfold madeOf
  cases he : (execute arithmetic algorithm (state.of algorithm) sample).2 with
  | error failure =>
    unfold EngineState.of at he
    rw [he] at h
    cases h
  | ok made =>
    unfold EngineState.of at he
    rw [he] at h
    cases h
    rfl

variable (arithmetic algorithm) in
/-- The engine has run the algorithm on what it has received, and what there is of the point is
what the algorithm has made. -/
structure View (start : EngineState) (point : String)
    (work : Work EngineState TelemetrySample AlgorithmSpec) : Prop where
  state : work.state.of algorithm =
    stateAfter arithmetic algorithm (start.of algorithm) (received algorithm work.log)
  made : work.made.filter (fun sample => sample.telemetryId = point) =
    (emissions arithmetic algorithm (start.of algorithm)
      (received algorithm work.log)).filter fun sample => sample.telemetryId = point

/-- The only algorithm with its id, and the only one that makes samples of the point. -/
structure Sole (algorithms : List AlgorithmSpec) (algorithm : AlgorithmSpec) (point : String) :
    Prop where
  member : algorithm ∈ algorithms
  ids : (algorithms.map (·.id)).Nodup
  producer : ∀ other ∈ algorithms, other ≠ algorithm → point ∉ other.outputs

variable {algs : List AlgorithmSpec} {point : String} {start : EngineState}

section

variable (h : Sole algs algorithm point)
include h

theorem Sole.id_ne (ho : other ∈ algs) (hne : other ≠ algorithm) : algorithm.id ≠ other.id := by
  intro hid
  exact hne (inj_on_of_nodup_map h.ids ho h.member hid.symm)

theorem Sole.carries (policy : Policy) :
    Carries (network arithmetic algs) policy (View arithmetic algorithm start point) := by
  constructor
  · intro work sample rest hv _
    exact ⟨hv.state,hv.made⟩
  · intro work sample other after ho hv ht
    rcases take_cases (network arithmetic algs) policy work sample other with
      ⟨items,hitems,htaken⟩ | ⟨stop,htaken⟩
    · cases htaken.symm.trans ht
      by_cases hs : other = algorithm
      · subst hs
        constructor
        · rw [received_self,stateAfter_append,← hv.state]
          exact react_of_self work.state sample
        · rw [received_self,emissions_append,← hv.state,madeOf_of_react hitems,
            filter_append,filter_append,hv.made]
      · have hn : items.filter (fun made => made.telemetryId = point) = [] := by
          apply filter_eq_nil_iff.mpr
          intro made hm hp
          have hd := (react_makes hitems).derived items rfl made hm
          rw [decide_eq_true_eq] at hp
          exact h.producer other ho hs (hp ▸ hd.point)
        constructor
        · rw [received_other algorithm hs,← hv.state]
          exact react_of_other (h.id_ne ho hs) work.state sample
        · rw [received_other algorithm hs,filter_append,hn,append_nil,hv.made]
    · cases htaken.symm.trans ht

theorem Sole.received_deliveries {log : List (AlgorithmSpec × TelemetrySample)}
    (hl : log.reverse = (network arithmetic algs).deliveries items) :
    received algorithm log =
      items.filter fun sample => (network arithmetic algs).takes algorithm sample := by
  have ho : algs.filter (fun other => other = algorithm) = [algorithm] := by
    rw [filter_eq,count_eq_one_of_mem h.ids.of_map h.member]
    rfl
  have hta : ∀ sample, ((network arithmetic algs).takers algs sample).filter
      (fun entry => entry.1 = algorithm) =
        if (network arithmetic algs).takes algorithm sample then [(algorithm,sample)]
        else [] := by
    intro sample
    have hs : (algs.filter fun other =>
        (network arithmetic algs).takes other sample).filter
          (fun other => decide (other = algorithm)) =
        [algorithm].filter fun other => (network arithmetic algs).takes other sample := by
      rw [← ho,filter_filter,filter_filter]
      simp only [Bool.and_comm]
    rw [Network.takers,filter_map]
    change map _ ((algs.filter _).filter fun other => decide (other = algorithm)) = _
    rw [hs]
    cases ht : (network arithmetic algs).takes algorithm sample <;> simp [ht]
  rw [received,hl]
  clear hl
  induction items with
  | nil => rfl
  | cons sample items ih =>
    rw [deliveries_cons,filter_append,map_append,ih]
    change map _ (((network arithmetic algs).takers algs sample).filter _) ++ _ = _
    rw [hta]
    cases ht : (network arithmetic algs).takes algorithm sample <;> simp [ht]

end

/-! ## Values of inputs -/

def AlgorithmSpec.feeds (algorithm : AlgorithmSpec) (name : String) (sample : TelemetrySample) :
    Bool :=
  algorithm.dsl.inputs.any fun input =>
    input.alias_ = name && input.pointId = sample.telemetryId

def lastValues (algorithm : AlgorithmSpec) (before : String → Option TelemetrySample)
    (samples : List TelemetrySample) (name : String) : Option TelemetrySample :=
  (samples.reverse.find? (algorithm.feeds name)).or (before name)

theorem recordLatest_get (state : AlgorithmState) (sample : TelemetrySample) (name : String) :
    (recordLatest algorithm state sample).latestByAlias.get name =
      if algorithm.feeds name sample then some sample else state.latestByAlias.get name := by
  unfold recordLatest AlgorithmSpec.feeds
  dsimp only
  generalize state.latestByAlias = latest
  induction algorithm.dsl.inputs generalizing latest with
  | nil => simp
  | cons input inputs ih =>
    rw [foldl_cons,ih,any_cons]
    by_cases hi : input.pointId = sample.telemetryId
    · rw [if_pos hi,OrderedMap.get_put]
      by_cases hn : name = input.alias_
      · simp [hn,hi]
      · simp [hn,hi,Ne.symm hn]
    · simp [hi]

variable (before : String → Option TelemetrySample) (samples : List TelemetrySample)

theorem lastValues_append (sample : TelemetrySample) (name : String) :
    lastValues algorithm before (samples ++ [sample]) name =
      if algorithm.feeds name sample then some sample
      else lastValues algorithm before samples name := by
  unfold lastValues
  rw [reverse_append,reverse_singleton,singleton_append,find?_cons]
  cases algorithm.feeds name sample <;> simp

@[simp] theorem lastValues_filter : lastValues algorithm before (samples.filter fun sample =>
      (network arithmetic algs).takes algorithm sample) =
      lastValues algorithm before samples := by
  funext name
  unfold lastValues
  rw [← filter_reverse,find?_filter]
  congr 2
  funext sample
  cases hf : algorithm.feeds name sample with
  | false => simp
  | true =>
    simp only [and_true,Bool.decide_eq_true]
    rw [takes_iff]
    simp only [AlgorithmSpec.feeds,any_eq_true,Bool.and_eq_true,decide_eq_true_eq] at hf
    rcases hf with ⟨input,hi,_,hp⟩
    exact mem_map.mpr ⟨input,hi,hp⟩

/-! ## Formulas -/

structure Formula where
  output : String
  value : (String → Option TelemetrySample) → Option (Except Failure Binary64)
  triggers : TelemetrySample → Bool

section Formulas

variable (arithmetic : Arithmetic) (algorithm : AlgorithmSpec)

def sourceValue (source : String) (latest : String → Option TelemetrySample) : Option Binary64 :=
  (algorithm.binding source).bind fun _ => (latest source).bind fun sample => sample.value.asF64

def ofSource (source : String) (sample : TelemetrySample) : Bool :=
  (algorithm.binding source).any fun binding => binding.pointId = sample.telemetryId

def formulaOf : AlgorithmStep → Option Formula
  | .expression output expr => some
      { output := output
        value := fun latest =>
          if algorithm.dsl.inputs.all fun input => (latest input.alias_).isSome then
            some (evaluate arithmetic latest expr)
          else none
        triggers := fun _ => true }
  | .scale source output factor offset => some
      { output := output
        value := fun latest => (sourceValue algorithm source latest).map fun value =>
          .ok (arithmetic.add (arithmetic.mul value factor) offset)
        triggers := ofSource algorithm source }
  | .clamp source output min max => some
      { output := output
        value := fun latest => (sourceValue algorithm source latest).map fun value =>
          clampTo value min max
        triggers := ofSource algorithm source }
  | _ => none

end Formulas

theorem numericSource_eq (src : String) (state : AlgorithmState) (sample : TelemetrySample) :
    numericSource algorithm state sample src =
      if ofSource algorithm src sample then sourceValue algorithm src state.latestByAlias.get
      else none := by
  unfold numericSource ofSource sourceValue
  cases algorithm.binding src with
  | none => simp
  | some binding => by_cases hp : binding.pointId = sample.telemetryId <;> simp [hp]

variable {step : AlgorithmStep} {formula : Formula}

private theorem transformStep_formula (h : formulaOf arithmetic algorithm step = some formula)
    (state : AlgorithmState) (sample : TelemetrySample) :
    transformStep arithmetic algorithm state sample step = (state,if formula.triggers sample then
        (formula.value state.latestByAlias.get).map fun value =>
          value.map fun value => (formula.output,value)
        else none) := by
  cases step with
  | expression output expr =>
    cases h
    simp only [transformStep,if_true]
    split <;> rfl
  | scale src output factor offset =>
    cases h
    simp only [transformStep,numericSource_eq]
    split <;> simp [Except.map,Function.comp_def]
  | clamp src output min max =>
    cases h
    simp only [transformStep,numericSource_eq]
    split <;> simp [Function.comp_def]
  | _ => cases h

variable (arithmetic) in
structure Computes (algorithm : AlgorithmSpec) (formula : Formula) (output : AlgorithmOutput) :
    Prop where
  kind : algorithm.kind = .expressionAggregate
  aliases : (algorithm.dsl.inputs.map (·.alias_)).Nodup
  step : ∃ step, algorithm.dsl.steps = [step] ∧ formulaOf arithmetic algorithm step = some formula
  output : algorithm.output formula.output = some output

variable {output : AlgorithmOutput} {state : AlgorithmState}

section

variable (h : Computes arithmetic algorithm formula output)
include h

theorem Computes.execute_eq (state : AlgorithmState) (sample : TelemetrySample) :
    (execute arithmetic algorithm state sample).1 = recordLatest algorithm state sample ∧
    madeOf arithmetic algorithm state sample = if formula.triggers sample then
        match formula.value (recordLatest algorithm state sample).latestByAlias.get with
        | some (.ok value) => [sample.derive sample output.pointId (.float value)]
        | _ => []
      else [] := by
  rcases h.step with ⟨step,hs,hf⟩
  have ht : transformSteps arithmetic algorithm sample algorithm.dsl.steps
      (recordLatest algorithm state sample) =
        (recordLatest algorithm state sample,if formula.triggers sample then
          (formula.value (recordLatest algorithm state sample).latestByAlias.get).map fun value =>
            value.map fun value => (formula.output,value)
          else none) := by
    rw [hs,transformSteps_cons,transformStep_formula hf]
    split
    · next heq => exact heq.symm
    · next heq => exact (congrArg _ rfl).trans heq.symm
  unfold madeOf execute
  simp only [h.kind,applyTransform,ht]
  cases formula.triggers sample with
  | false => exact ⟨rfl,rfl⟩
  | true =>
    cases formula.value (recordLatest algorithm state sample).latestByAlias.get with
    | none => exact ⟨rfl,rfl⟩
    | some value =>
      cases value with
      | error failure => exact ⟨rfl,rfl⟩
      | ok value =>
        simp only [if_true,Option.map_some,Except.map,namedOutput,h.output,quiet,and_self]

theorem Computes.latest_stateAfter (state : AlgorithmState) (samples : List TelemetrySample) :
    (stateAfter arithmetic algorithm state samples).latestByAlias.get =
      lastValues algorithm state.latestByAlias.get samples := by
  induction samples using reverseRecOn with
  | nil =>
    funext name
    simp [stateAfter,lastValues]
  | append_singleton samples sample ih =>
    funext name
    rw [stateAfter_append,(h.execute_eq _ sample).1,recordLatest_get,lastValues_append,ih]

end

private theorem feeds_eq_ofSource (h : (algorithm.dsl.inputs.map (·.alias_)).Nodup) (src : String)
    (sample : TelemetrySample) :
    algorithm.feeds src sample = ofSource algorithm src sample := by
  unfold AlgorithmSpec.feeds ofSource AlgorithmSpec.binding
  cases hf : algorithm.dsl.inputs.find? (fun input => input.alias_ = src) with
  | none =>
    rw [find?_eq_none] at hf
    rw [Option.any_none,any_eq_false]
    intro input hi
    have hn := hf input hi
    simp only [decide_eq_true_eq] at hn
    simp [hn]
  | some binding =>
    have hm := mem_of_find?_eq_some hf
    have hn := find?_some hf
    rw [decide_eq_true_eq] at hn
    rw [Option.any_some,Bool.eq_iff_iff,any_eq_true]
    simp only [Bool.and_eq_true,decide_eq_true_eq]
    constructor
    · rintro ⟨input,hi,hs,hp⟩
      rwa [← inj_on_of_nodup_map h hi hm (hs.trans hn.symm)]
    · intro hp
      exact ⟨binding,hm,hn,hp⟩

section

variable (h : Computes arithmetic algorithm formula output)

include h

theorem Computes.value_append (ht : formula.triggers sample = false) :
    formula.value (lastValues algorithm before (samples ++ [sample])) =
      formula.value (lastValues algorithm before samples) := by
  have hs : ∀ src, ofSource algorithm src sample = false →
      sourceValue algorithm src (lastValues algorithm before (samples ++ [sample])) =
        sourceValue algorithm src (lastValues algorithm before samples) := by
    intro src ho
    rw [← feeds_eq_ofSource h.aliases] at ho
    simp [sourceValue,lastValues_append,ho]
  rcases h.step with ⟨step,_,hf⟩
  cases step with
  | expression => cases hf; cases ht
  | scale src => cases hf; simp [hs src ht]
  | clamp src => cases hf; simp [hs src ht]
  | _ => cases hf

theorem Computes.last_emission
    (hv : formula.value (lastValues algorithm state.latestByAlias.get samples) = some (.ok value))
    (ht : ∃ sample ∈ samples, formula.triggers sample = true) :
    ∃ last, (emissions arithmetic algorithm state samples).getLast? = some last ∧
      last.value = .float value := by
  induction samples using reverseRecOn with
  | nil => simp at ht
  | append_singleton samples sample ih =>
    rw [emissions_append,(h.execute_eq _ sample).2]
    cases htr : formula.triggers sample with
    | false =>
      rw [h.value_append _ samples htr] at hv
      simp only [Bool.false_eq_true,if_false,append_nil]
      apply ih hv
      rcases ht with ⟨trigger,htri,hy⟩
      rw [mem_append,mem_singleton] at htri
      cases htri with
      | inl hm => exact ⟨trigger,hm,hy⟩
      | inr hs =>
        rw [hs,htr] at hy
        cases hy
    | true =>
      have hl : (recordLatest algorithm
          (stateAfter arithmetic algorithm state samples) sample).latestByAlias.get =
          lastValues algorithm state.latestByAlias.get (samples ++ [sample]) := by
        funext name
        rw [recordLatest_get,lastValues_append,h.latest_stateAfter]
      simp only [if_true,hl,hv,getLast?_concat]
      exact ⟨_,rfl,rfl⟩

theorem Computes.emissions_point : (emissions arithmetic algorithm state samples).filter
      (fun made => made.telemetryId = output.pointId) =
      emissions arithmetic algorithm state samples := by
  apply filter_eq_self.mpr
  induction samples generalizing state with
  | nil =>
    intro made hm
    cases hm
  | cons sample samples ih =>
    intro made hm
    rw [emissions,mem_append,(h.execute_eq _ sample).2] at hm
    cases hm with
    | inl hm =>
      split at hm
      · split at hm
        · rw [mem_singleton] at hm
          simp [hm,TelemetrySample.derive]
        · cases hm
      · cases hm
    | inr hm => exact ih made hm

end

/-! ## A batch -/

section Batch

variable (arithmetic : Arithmetic) (engine : AlgorithmEngine) (samples : List TelemetrySample)

/-- Every sample of the batch and every sample made is taken by all algorithms with its point. -/
def Delivered : Prop :=
  (engine.propagate arithmetic samples).1.log.reverse =
    (network arithmetic engine.algorithms).deliveries
      (samples ++ (engine.propagate arithmetic samples).1.made)

def Unrepeated : Prop :=
  ((network arithmetic engine.algorithms).keys
    ((network arithmetic engine.algorithms).drain (engine.policy samples).repeating
      (engine.rounds samples) (engine.arrived samples)).1.log).Nodup

def AlgorithmEngine.latest (algorithm : AlgorithmSpec) : String → Option TelemetrySample :=
  ((engine.states.get algorithm.id).getD .default).latestByAlias.get

end Batch

variable {engine : AlgorithmEngine} {samples : List TelemetrySample}

private theorem propagate_of_returned {rep : AlgorithmExecutionReport}
    (h : (engine.applySamples arithmetic samples).2 = .returned (.ok rep)) :
    (engine.propagate arithmetic samples).2 = .finished ∧
      (engine.propagate arithmetic samples).1.made = rep.samples := by
  unfold AlgorithmEngine.applySamples at h
  dsimp only at h
  split at h
  · next hf =>
    cases h
    exact ⟨hf,rfl⟩
  · cases h
  · cases h
  · cases h
  · cases h

/-- Everything is delivered exactly if no transition comes up twice, and then a formula has the
value of the last inputs. -/
theorem delivered_iff_unrepeated {report : AlgorithmExecutionReport}
    (h : (engine.applySamples arithmetic samples).2 = .returned (.ok report)) :
    (Delivered arithmetic engine samples ↔ Unrepeated arithmetic engine samples) ∧
    (Unrepeated arithmetic engine samples →
      ∀ algorithm formula output, Sole engine.algorithms algorithm output.pointId →
        Computes arithmetic algorithm formula output → ∀ value,
        formula.value (lastValues algorithm (engine.latest algorithm)
          (samples ++ report.samples)) = some (.ok value) →
        (∃ sample ∈ samples ++ report.samples,
          sample.telemetryId ∈ algorithm.inputs ∧ formula.triggers sample = true) →
        ∃ last, (report.samples.filter
            fun sample => sample.telemetryId = output.pointId).getLast? = some last ∧
          last.value = .float value) := by
  rcases propagate_of_returned h with ⟨hf,hre⟩
  have hd : (network arithmetic engine.algorithms).drain (engine.policy samples)
      (engine.rounds samples) (engine.arrived samples) =
        ((engine.propagate arithmetic samples).1,.finished) := Prod.ext rfl hf
  have hif : Delivered arithmetic engine samples ↔ Unrepeated arithmetic engine samples :=
    drain_delivers_iff rfl _ rfl rfl hd
  refine ⟨hif,?_⟩
  intro hu algorithm formula output hso hc value hv ht
  have hvi : View arithmetic algorithm ⟨engine.states,[]⟩ output.pointId
      (engine.propagate arithmetic samples).1 :=
    (hso.carries _).drain _ hd ⟨rfl,rfl⟩
  have hr := hso.received_deliveries (hif.mpr hu)
  rw [hre] at hr
  have hm := hvi.made
  rw [hre,hr,hc.emissions_point] at hm
  rw [hm]
  apply hc.last_emission
  · rw [lastValues_filter]
    exact hv
  · rcases ht with ⟨sample,hs,hi,htr⟩
    exact ⟨sample,mem_filter.mpr ⟨hs,takes_iff.mpr hi⟩,htr⟩

def multiple (id input output : String) (factor : Int) : AlgorithmSpec where
  id := id
  kind := .expressionAggregate
  dsl :=
    { inputs := [⟨"x", input⟩]
      trigger := .onSample
      steps := [.scale "x" "y" (.finite factor 0) .zero]
      outputs := [⟨"y", output⟩] }

def sumOf (id first second output : String) : AlgorithmSpec where
  id := id
  kind := .expressionAggregate
  dsl :=
    { inputs := [⟨"a", first⟩, ⟨"b", second⟩]
      trigger := .onAnyInput
      steps := [.expression "y" "a + b"]
      outputs := [⟨"y", output⟩] }

/-- Two multiples of the level and their sum. -/
def diamond : List AlgorithmSpec :=
  [multiple "once" "level" "single" 1, multiple "twice" "level" "double" 2,
    sumOf "sum" "single" "double" "triple"]

def valuesOf (point : String) (call : Call) : List TelemetryValue :=
  match call with
  | .returned (.ok report) =>
    (report.samples.filter fun sample => sample.telemetryId = point).map (·.value)
  | _ => []

def diamondReport : AlgorithmExecutionReport where
  samples :=
    [(level 1 1).derive (level 1 1) "single" (.float (.finite 1 0)),
      (level 1 1).derive (level 1 1) "double" (.float (.finite 2 0)),
      (level 2 2).derive (level 2 2) "single" (.float (.finite 2 0)),
      (level 2 2).derive (level 2 2) "double" (.float (.finite 4 0)),
      (level 1 1).derive (level 1 1) "triple" (.float (.finite 3 0)),
      (level 2 2).derive (level 2 2) "triple" (.float (.finite 4 0)),
      (level 2 2).derive (level 2 2) "triple" (.float (.finite 6 0))]
  events := []

/-- The sum is right in the end. -/
theorem diamond_ends_with_the_sum : Delivered .exact ⟨diamond,.empty⟩ [level 1 1,level 2 2] ∧
    ∃ last, (diamondReport.samples.filter
        fun sample => sample.telemetryId = "triple").getLast? = some last ∧
      last.value = .float (.finite 6 0) := by
  have hu : Unrepeated .exact ⟨diamond,.empty⟩ [level 1 1,level 2 2] := by
    unfold Unrepeated
    decide +kernel
  have hr : ((⟨diamond,.empty⟩ : AlgorithmEngine).applySamples .exact
      [level 1 1,level 2 2]).2 = .returned (.ok diamondReport) := by
    decide +kernel
  have hm := delivered_iff_unrepeated hr
  refine ⟨hm.1.mpr hu,?_⟩
  apply hm.2 hu (sumOf "sum" "single" "double" "triple") _ ⟨"y","triple"⟩
  · exact ⟨by decide,by decide,by decide⟩
  · exact ⟨rfl,by decide,⟨_,rfl,rfl⟩,rfl⟩
  · rfl
  · exact ⟨(level 1 1).derive (level 1 1) "single" (.float (.finite 1 0)),by decide,by decide,rfl⟩

/-- Ten times the sum is computed from the first of two sums of one time. -/
theorem sum_reaches_ten_times_late :
    Acyclic (diamond ++ [multiple "tenfold" "triple" "thirtyfold" 10]) ∧
    valuesOf "triple" ((⟨diamond ++ [multiple "tenfold" "triple" "thirtyfold" 10],.empty⟩ :
      AlgorithmEngine).applySamples .exact [level 1 1,level 2 2]).2 =
      [.float (.finite 3 0),.float (.finite 4 0),.float (.finite 6 0)] ∧
    valuesOf "thirtyfold" ((⟨diamond ++ [multiple "tenfold" "triple" "thirtyfold" 10],.empty⟩ :
      AlgorithmEngine).applySamples .exact [level 1 1,level 2 2]).2 =
      [.float (.finite 30 0),.float (.finite 40 0)] := by
  refine ⟨acyclic_of_rank (fun point => if point = "level" then 0 else
    if point = "single" then 1 else if point = "double" then 1 else
    if point = "triple" then 2 else 3) ?_,?_,?_⟩
  · decide
  · decide +kernel
  · decide +kernel

end VelaEdge.Runtime.Algorithm
