import VelaEdge.Base.Propagation
import VelaEdge.Runtime.Expression
import VelaEdge.Runtime.PointCollection

/-! The algorithm engine. Samples are offered to all algorithms that have their point as an input,
and what an algorithm makes of a sample is offered again. The state of an algorithm is kept under
its id. -/
namespace VelaEdge.Runtime.Algorithm

open Base Core
open PointCollection (DataQuality DataQualityCode)
open Expression (Arithmetic)

structure TelemetrySample extends PointCollection.TelemetrySample where
  timestamp : Time
deriving DecidableEq

/-- A new sample with the device and the time of one sample and the quality of another. -/
def TelemetrySample.derive (sample source : TelemetrySample) (telemetryId : String)
    (value : TelemetryValue) : TelemetrySample where
  deviceId := sample.deviceId
  telemetryId := telemetryId
  value := value
  quality := source.quality
  qualityCode := source.qualityCode
  timestamp := sample.timestamp

/-! ## Specifications -/

inductive AlgorithmKind where
  | changeReport
  | windowAggregate
  | expressionAggregate
  | thresholdRule
  | durationRule
  | deadband
  | debounce
  | statistics
deriving DecidableEq

structure AlgorithmInputBinding where
  alias_ : String
  pointId : String
deriving DecidableEq

inductive AlgorithmTrigger where
  | onSample
  | onAnyInput
  | window (everyMs : Nat)
deriving DecidableEq

inductive CompareOperator where
  | gt
  | gte
  | lt
  | lte
  | eq
  | ne
deriving DecidableEq

inductive EventSeverity where
  | info
  | warning
  | critical
deriving DecidableEq

structure AlgorithmEventOutput where
  code : String
  severity : EventSeverity
  message : String
deriving DecidableEq

inductive WindowAggregateFunction where
  | avg (output : String)
  | min (output : String)
  | max (output : String)
  | sum (output : String)
  | count (output : String)
  | first (output : String)
  | last (output : String)
deriving DecidableEq

inductive AlgorithmStep where
  | changeFilter (source : String) (threshold : Binary64)
  | windowAggregate (source : String) (functions : List WindowAggregateFunction)
  | expression (output expr : String)
  | scale (source output : String) (factor offset : Binary64)
  | clamp (source output : String) (min max : Binary64)
  | rateOfChange (source output : String) (perMs : Nat)
  | debounce (source : String) (stableMs : Nat)
  | durationCondition (source : String) (operator : CompareOperator) (threshold : Binary64)
      (durationMs : Nat) (output : String)
  | conditionalRoute (source : String) (operator : CompareOperator) (threshold : Binary64)
      (matchedOutput unmatchedOutput : String)
  | thresholdRule (source : String) (operator : CompareOperator) (threshold : Binary64)
      (event : AlgorithmEventOutput)
deriving DecidableEq

structure AlgorithmOutput where
  name : String
  pointId : String
deriving DecidableEq

structure AlgorithmDsl where
  inputs : List AlgorithmInputBinding
  trigger : AlgorithmTrigger
  steps : List AlgorithmStep
  outputs : List AlgorithmOutput
deriving DecidableEq

structure AlgorithmSpec where
  id : String
  kind : AlgorithmKind
  dsl : AlgorithmDsl
deriving DecidableEq

namespace AlgorithmSpec

/-- The points of the bindings. An algorithm without bindings names its inputs in another field,
but the engine leaves it out. -/
def inputs (algorithm : AlgorithmSpec) : List String := algorithm.dsl.inputs.map (·.pointId)

def outputs (algorithm : AlgorithmSpec) : List String := algorithm.dsl.outputs.map (·.pointId)

variable (algorithm : AlgorithmSpec)

def binding (source : String) : Option AlgorithmInputBinding :=
  algorithm.dsl.inputs.find? fun input => input.alias_ = source

def output (algorithm : AlgorithmSpec) (name : String) : Option AlgorithmOutput :=
  algorithm.dsl.outputs.find? fun output => output.name = name

def changeStep : Option (String × Binary64) :=
  algorithm.dsl.steps.findSome? fun step =>
    match step with
    | .changeFilter source threshold => some (source,threshold)
    | _ => none

def windowStep : Option (String × List WindowAggregateFunction) :=
  algorithm.dsl.steps.findSome? fun step =>
    match step with
    | .windowAggregate source functions => some (source,functions)
    | _ => none

def debounceStep : Option (String × Nat) :=
  algorithm.dsl.steps.findSome? fun step =>
    match step with
    | .debounce source stableMs => some (source,stableMs)
    | _ => none

/-- What a configuration package keeps of it. -/
def packaged : Core.AlgorithmSpec where
  id := algorithm.id
  dsl := ⟨algorithm.dsl.inputs.map fun input => ⟨input.pointId⟩⟩

end AlgorithmSpec

/-! ## State -/

structure DebounceState where
  value : TelemetryValue
  since : Time
deriving DecidableEq

structure DurationConditionState where
  since : Time
  emitted : Bool
deriving DecidableEq

structure WindowState where
  startedAt : Option Time
  samples : List TelemetrySample

structure AlgorithmState where
  lastReported : OrderedMap String TelemetryValue
  latestByAlias : OrderedMap String TelemetrySample
  previousByAlias : OrderedMap String TelemetrySample
  debounceByAlias : OrderedMap String DebounceState
  durationByAlias : OrderedMap String DurationConditionState
  windows : OrderedMap String WindowState

def AlgorithmState.default : AlgorithmState := ⟨.empty,.empty,.empty,.empty,.empty,.empty⟩

inductive Failure where
  | error (message : String)
  /-- A clamp whose bounds are out of order. -/
  | panic
deriving DecidableEq

/-- A state can change before an algorithm fails. -/
abbrev Execution (α : Type) := AlgorithmState × Except Failure α

structure EdgeRuntimeEvent where
  severity : EventSeverity
  code : String
  message : String
  algorithmId : String
  pointId : String
deriving DecidableEq

/-! ## Values -/

/-- Floats are equal as numbers: nothing equals what is not a number. -/
def same : TelemetryValue → TelemetryValue → Bool
  | .float a, .float b => a.eq b
  | .integer a, .integer b => a = b
  | .boolean a, .boolean b => a = b
  | .text a, .text b => a = b
  | _, _ => false

/-- Whole milliseconds, rounded toward zero. -/
def numMilliseconds (duration : Time) : Int := duration.tdiv 1000000

def asI64 (count : Nat) : Int := (count : Int).bmod (2 ^ 64)

def asU64 (count : Int) : Nat := (count % (2 ^ 64 : Nat)).toNat

def epsilon : Binary64 := .finite 1 (-52)

def dataQualityRank : DataQuality → Nat
  | .good => 0
  | .uncertain => 1
  | .bad => 2

/-- The last of the samples with the worst quality. -/
def qualitySource (samples : List TelemetrySample) (sample : TelemetrySample) : TelemetrySample :=
  match samples with
  | [] => sample
  | first :: rest =>
    rest.foldl (fun worst next =>
      if dataQualityRank worst.quality ≤ dataQualityRank next.quality then next else worst) first

/-- A clamp with bounds out of order panics. -/
def clampTo (value min max : Binary64) : Except Failure Binary64 :=
  if min.le max then .ok (if value.lt min then min else if max.lt value then max else value)
  else .error .panic

section Engine

variable (arithmetic : Arithmetic)

def compare (value : Binary64) (operator : CompareOperator) (threshold : Binary64) : Bool :=
  match operator with
  | .gt => threshold.lt value
  | .gte => threshold.le value
  | .lt => value.lt threshold
  | .lte => value.le threshold
  | .eq => (arithmetic.abs (arithmetic.sub value threshold)).lt epsilon
  | .ne => epsilon.le (arithmetic.abs (arithmetic.sub value threshold))

def valueChanged (previous current : TelemetryValue) (threshold : Binary64) : Bool :=
  match previous.asF64, current.asF64 with
  | some previous, some current =>
    threshold.le (arithmetic.abs (arithmetic.sub current previous))
  | _, _ => !same previous current

def sum (values : List Binary64) : Binary64 := values.foldl arithmetic.add .zero

def aggregateValue (function : WindowAggregateFunction) (values : List Binary64) :
    Option (String × TelemetryValue) :=
  match function with
  | .avg output =>
    if values = [] then none
    else some (output,.float (arithmetic.div (sum arithmetic values) (.ofInt values.length)))
  | .min output =>
    if values = [] then none
    else some (output,.float (values.foldl arithmetic.min (.infinite false)))
  | .max output =>
    if values = [] then none
    else some (output,.float (values.foldl arithmetic.max (.infinite true)))
  | .sum output => some (output,.float (sum arithmetic values))
  | .count output => some (output,.integer values.length)
  | .first output => values.head?.map fun value => (output,.float value)
  | .last output => values.getLast?.map fun value => (output,.float value)

/-! ## The algorithms -/

variable (algorithm : AlgorithmSpec) (state : AlgorithmState) (sample : TelemetrySample)

variable (source : String)

/-- Go on if the sample is of the point that the source is bound to. -/
def onSource (run : Execution (List TelemetrySample)) : Execution (List TelemetrySample) :=
  match algorithm.binding source with
  | none =>
    (state,.error (.error
      s!"algorithm {algorithm.id} references missing input alias {source}"))
  | some binding => if binding.pointId = sample.telemetryId then run else (state,.ok [])

def applyChangeReport : Execution (List TelemetrySample) := match algorithm.changeStep with
  | none => (state,.ok [])
  | some (source,threshold) =>
    onSource algorithm state sample source <| match algorithm.dsl.outputs.head? with
      | none => (state,.error (.error s!"algorithm {algorithm.id} requires an output"))
      | some output =>
        if (state.lastReported.get output.pointId).all fun last =>
            valueChanged arithmetic last sample.value threshold then
          ({ state with lastReported := state.lastReported.put output.pointId sample.value },
            .ok [sample.derive sample output.pointId sample.value])
        else (state,.ok [])

def WindowState.push (window : WindowState) (sample : TelemetrySample) : WindowState :=
  ⟨some (window.startedAt.getD sample.timestamp),window.samples ++ [sample]⟩

def aggregates (functions : List WindowAggregateFunction) (samples : List TelemetrySample) :
    List TelemetrySample :=
  functions.filterMap fun function => do
    let (name,value) ← aggregateValue arithmetic function
      (samples.filterMap fun sample => sample.value.asF64)
    let output ← algorithm.output name
    some (sample.derive (qualitySource samples sample) output.pointId value)

def fillWindow (functions : List WindowAggregateFunction) (everyMs : Nat) :
    Execution (List TelemetrySample) :=
  let window := ((state.windows.get source).getD ⟨none,[]⟩).push sample
  if numMilliseconds (sample.timestamp - window.startedAt.getD sample.timestamp) <
      asI64 everyMs then
    ({ state with windows := state.windows.put source window },.ok [])
  else
    ({ state with windows := state.windows.put source ⟨some sample.timestamp,[]⟩ },
      .ok (aggregates arithmetic algorithm sample functions window.samples))

def applyWindowAggregate : Execution (List TelemetrySample) := match algorithm.dsl.trigger with
  | .window everyMs =>
    match algorithm.windowStep with
    | none => (state,.ok [])
    | some (source,functions) =>
      onSource algorithm state sample source
        (fillWindow arithmetic algorithm state sample source functions everyMs)
  | _ => (state,.ok [])

def numericSource : Option Binary64 := do
  let binding ← algorithm.binding source
  if binding.pointId = sample.telemetryId then
    let latest ← state.latestByAlias.get source
    latest.value.asF64
  else none

/-- The sample as the latest one of every input with its point. -/
def recordLatest : AlgorithmState := { state with
    latestByAlias := algorithm.dsl.inputs.foldl (fun latest input =>
      if input.pointId = sample.telemetryId then latest.put input.alias_ sample else latest)
      state.latestByAlias }

def evaluate (latest : String → Option TelemetrySample) (expr : String) : Except Failure Binary64 :=
  match Expression.evaluateExpression arithmetic
    (fun name => (latest name).bind fun sample => sample.value.asF64) expr with
  | .ok value => .ok value
  | .error (.invalid message) => .error (.error message)
  -- the parser has enough fuel
  | .error .exhausted => .error (.error "")

/-- The change of a source since the previous sample, which is replaced. -/
def rateOfChange (perMs : Nat) : AlgorithmState × Option Binary64 :=
  match algorithm.binding source with
  | none => (state,none)
  | some binding =>
    if binding.pointId = sample.telemetryId then
      match sample.value.asF64 with
      | none => (state,none)
      | some current =>
        ({ state with previousByAlias := state.previousByAlias.put source sample },do
          let previous ← state.previousByAlias.get source
          let elapsedMs := numMilliseconds (sample.timestamp - previous.timestamp)
          let previousValue ← previous.value.asF64
          if elapsedMs ≤ 0 ∨ perMs = 0 then none
          else some (arithmetic.div
            (arithmetic.mul (arithmetic.sub current previousValue) (.ofInt perMs))
            (.ofInt elapsedMs)))
    else (state,none)

/-- What one step makes of the sample: the name of an output and its value. -/
def transformStep (step : AlgorithmStep) :
    AlgorithmState × Option (Except Failure (String × Binary64)) :=
  match step with
  | .expression output expr =>
    if algorithm.dsl.inputs.all fun input => (state.latestByAlias.get input.alias_).isSome then
      (state,some ((evaluate arithmetic state.latestByAlias.get expr).map fun value =>
        (output,value)))
    else (state,none)
  | .scale source output factor offset =>
    (state,(numericSource algorithm state sample source).map fun value =>
      .ok (output,arithmetic.add (arithmetic.mul value factor) offset))
  | .clamp source output min max =>
    (state,(numericSource algorithm state sample source).map fun value =>
      (clampTo value min max).map fun value => (output,value))
  | .rateOfChange source output perMs =>
    let change := rateOfChange arithmetic algorithm state sample source perMs
    (change.1,change.2.map fun value => .ok (output,value))
  | _ => (state,none)

/-- The first step that makes something of the sample. -/
def transformSteps : List AlgorithmStep → AlgorithmState →
    AlgorithmState × Option (Except Failure (String × Binary64))
  | [], state => (state,none)
  | step :: steps, state =>
    match transformStep arithmetic algorithm state sample step with
    | (state,some result) => (state,some result)
    | (state,none) => transformSteps steps state

def namedOutput (kind : String) (name : String) (value : TelemetryValue) :
    Except Failure (List TelemetrySample) :=
  match algorithm.output name with
  | none => .error (.error s!"algorithm {algorithm.id} references missing {kind} {name}")
  | some output => .ok [sample.derive sample output.pointId value]

def applyTransform : Execution (List TelemetrySample) :=
  match transformSteps arithmetic algorithm sample algorithm.dsl.steps
    (recordLatest algorithm state sample) with
  | (state,none) => (state,.ok [])
  | (state,some (.error failure)) => (state,.error failure)
  | (state,some (.ok (name,value))) =>
    (state,namedOutput algorithm sample "output" name (.float value))

def applyDebounce : Execution (List TelemetrySample) := match algorithm.debounceStep with
  | none => (state,.ok [])
  | some (source,stableMs) =>
    onSource algorithm state sample source <|
      let pending := (state.debounceByAlias.get source).getD ⟨sample.value,sample.timestamp⟩
      if !same pending.value sample.value then
        ({ state with debounceByAlias :=
            state.debounceByAlias.put source ⟨sample.value,sample.timestamp⟩ },.ok [])
      else
        let state := { state with debounceByAlias := state.debounceByAlias.put source pending }
        if numMilliseconds (sample.timestamp - pending.since) < asI64 stableMs then
          (state,.ok [])
        else
          match algorithm.dsl.outputs.head? with
          | none => (state,.error (.error s!"algorithm {algorithm.id} requires an output"))
          | some output =>
            if (state.lastReported.get output.pointId).any fun last =>
                same last sample.value then (state,.ok [])
            else
              ({ state with
                  lastReported := state.lastReported.put output.pointId sample.value },
                .ok [sample.derive sample output.pointId sample.value])

structure DurationStep where
  source : String
  operator : CompareOperator
  threshold : Binary64
  durationMs : Nat
  output : String

def durationStep : Option DurationStep := algorithm.dsl.steps.findSome? fun step =>
    match step with
    | .durationCondition source operator threshold durationMs output =>
      some ⟨source,operator,threshold,durationMs,output⟩
    | _ => none

/-- The condition as it stands when it is true of a sample. An earlier time than the one it has
been true since starts it again. -/
def DurationConditionState.hold (held : Option DurationConditionState) (timestamp : Time) :
    DurationConditionState :=
  let held := held.getD ⟨timestamp,false⟩
  if timestamp < held.since then ⟨timestamp,false⟩ else held

def applyDurationCondition : Execution (List TelemetrySample) := match durationStep algorithm with
  | none => (state,.ok [])
  | some step =>
    onSource algorithm state sample step.source <| match sample.value.asF64 with
      | none => (state,.ok [])
      | some value =>
        if !compare arithmetic value step.operator step.threshold then
          ({ state with durationByAlias := state.durationByAlias.delete step.source },.ok [])
        else
          let held := DurationConditionState.hold
            (state.durationByAlias.get step.source) sample.timestamp
          let elapsedMs := asU64 (numMilliseconds (sample.timestamp - held.since))
          if held.emitted || elapsedMs < step.durationMs then
            ({ state with durationByAlias := state.durationByAlias.put step.source held }, .ok [])
          else
            ({ state with
                durationByAlias :=
                  state.durationByAlias.put step.source { held with emitted := true } },
              namedOutput algorithm sample "output" step.output sample.value)

/-- The condition of a threshold rule or a route on the sample, if it applies to it. -/
def matchedBy (operator : CompareOperator) (threshold : Binary64) : Except Failure (Option Bool) :=
  match algorithm.binding source with
  | none =>
    .error (.error s!"algorithm {algorithm.id} references missing input alias {source}")
  | some binding =>
    if binding.pointId = sample.telemetryId then
      .ok (sample.value.asF64.map fun value => compare arithmetic value operator threshold)
    else .ok none

def applyRule (step : AlgorithmStep) :
    Except Failure (List TelemetrySample × List EdgeRuntimeEvent) :=
  match step with
  | .thresholdRule source operator threshold event => do
      match ← matchedBy arithmetic algorithm sample source operator threshold with
      | some true =>
        .ok ([],[⟨event.severity,event.code,event.message,algorithm.id,sample.telemetryId⟩])
      | _ => .ok ([],[])
  | .conditionalRoute source operator threshold matchedOutput unmatchedOutput => do
      match ← matchedBy arithmetic algorithm sample source operator threshold with
      | some isMatched =>
        let samples ← namedOutput algorithm sample "route output"
          (if isMatched then matchedOutput else unmatchedOutput) sample.value
        .ok (samples,[])
      | none => .ok ([],[])
  | _ => .ok ([],[])

def applyThresholdRule : List AlgorithmStep →
    Except Failure (List TelemetrySample × List EdgeRuntimeEvent)
  | [] => .ok ([],[])
  | step :: steps => do
      let made ← applyRule arithmetic algorithm sample step
      let rest ← applyThresholdRule steps
      .ok (made.1 ++ rest.1,made.2 ++ rest.2)

def quiet (execution : Execution (List TelemetrySample)) :
    Execution (List TelemetrySample × List EdgeRuntimeEvent) :=
  (execution.1,execution.2.map fun samples => (samples,[]))

def execute : Execution (List TelemetrySample × List EdgeRuntimeEvent) := match algorithm.kind with
  | .changeReport | .deadband => quiet (applyChangeReport arithmetic algorithm state sample)
  | .windowAggregate | .statistics =>
    quiet (applyWindowAggregate arithmetic algorithm state sample)
  | .expressionAggregate => quiet (applyTransform arithmetic algorithm state sample)
  | .thresholdRule => (state,applyThresholdRule arithmetic algorithm sample algorithm.dsl.steps)
  | .debounce => quiet (applyDebounce algorithm state sample)
  | .durationRule => quiet (applyDurationCondition arithmetic algorithm state sample)

end Engine

def reading (device point : String) (value seconds : Int) : TelemetrySample where
  deviceId := device
  telemetryId := point
  value := .integer value
  quality := .good
  qualityCode := some .good
  timestamp := milliseconds (1000 * seconds)

end VelaEdge.Runtime.Algorithm
