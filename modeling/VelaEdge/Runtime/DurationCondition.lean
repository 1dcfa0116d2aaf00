import VelaEdge.Runtime.Algorithm

/-! A duration condition over a sequence of samples. It is true since the earliest sample of the
true run, and an emission marks the run. A true sample that is earlier still takes the mark away. -/
namespace VelaEdge.Runtime.Algorithm

open Base Core List Option
open Expression (Arithmetic)

section Definitions

variable (arithmetic : Arithmetic) (algorithm : AlgorithmSpec)

/-- What the condition says of a sample. It says nothing of other points and of values that are no
numbers. -/
def DurationStep.verdict (step : DurationStep) (sample : TelemetrySample) : Option Bool := do
  let binding ← algorithm.binding step.source
  if binding.pointId = sample.telemetryId then
    let value ← sample.value.asF64
    some (compare arithmetic value step.operator step.threshold)
  else none

/-- The condition after a sample, and whether it has lasted long enough for the first time. -/
def DurationStep.next (step : DurationStep) (held : Option DurationConditionState)
    (sample : TelemetrySample) : Option DurationConditionState × Bool :=
  match step.verdict arithmetic algorithm sample with
  | none => (held,false)
  | some false => (none,false)
  | some true =>
    let held := DurationConditionState.hold held sample.timestamp
    if held.emitted || asU64 (numMilliseconds (sample.timestamp - held.since)) <
        step.durationMs then (some held,false)
    else (some { held with emitted := true },true)

def afterSamples (samples : List TelemetrySample) : AlgorithmState :=
  samples.foldl (fun state sample => (applyDurationCondition arithmetic algorithm state sample).1)
    .default

def Emits (before : List TelemetrySample) (sample : TelemetrySample) : Prop :=
  ∃ made, (applyDurationCondition arithmetic algorithm
    (afterSamples arithmetic algorithm before) sample).2 = .ok [made]

/-- The condition has emitted, and a sample on which it is still true comes from before the time
that it is known to be true since. -/
def rearms (state : AlgorithmState) (sample : TelemetrySample) : Bool :=
  (durationStep algorithm).any fun step =>
    (state.durationByAlias.get step.source).any fun held =>
      held.emitted && step.verdict arithmetic algorithm sample = some true &&
        sample.timestamp < held.since

def steady : AlgorithmState → List TelemetrySample → Bool
  | _, [] => true
  | state, sample :: samples =>
    !rearms arithmetic algorithm state sample &&
      steady (applyDurationCondition arithmetic algorithm state sample).1 samples

end Definitions

variable {arithmetic : Arithmetic} {algorithm : AlgorithmSpec} {step : DurationStep}

variable {sample : TelemetrySample} {state : AlgorithmState}
variable {held : Option DurationConditionState}

/-! ## One sample -/

theorem milliseconds_le_of_asU64 {duration : Int} {count : Nat} (h : 0 ≤ duration)
    (hc : count ≤ asU64 (numMilliseconds duration)) : milliseconds count ≤ duration := by
  unfold asU64 numMilliseconds at hc
  rw [Int.tdiv_eq_ediv_of_nonneg h] at hc
  have hle : (count : Int) ≤ duration / 1000000 := by omega
  have hm := Int.mul_le_of_le_ediv (by decide) hle
  exact hm

theorem hold_since_le (held : Option DurationConditionState) (timestamp : Time) :
    (DurationConditionState.hold held timestamp).since ≤ timestamp := by
  unfold DurationConditionState.hold
  dsimp only
  split
  · exact Int.le_refl _
  · next hl => exact Int.not_lt.mp hl

theorem applyDurationCondition_held (hs : durationStep algorithm = some step) :
    (applyDurationCondition arithmetic algorithm state sample).1.durationByAlias.get step.source =
      (step.next arithmetic algorithm (state.durationByAlias.get step.source) sample).1 := by
  unfold applyDurationCondition onSource DurationStep.next DurationStep.verdict
  simp only [hs]
  cases algorithm.binding step.source with
  | none => rfl
  | some binding =>
    simp only [bind_eq_bind,bind_some]
    split
    · cases sample.value.asF64 with
      | none => rfl
      | some value =>
        cases hc : compare arithmetic value step.operator step.threshold with
        | false => simp [hc]
        | true =>
          simp only [hc,bind_some,Bool.not_true,Bool.false_eq_true,if_false]
          split <;> simp
    · rfl

theorem applyDurationCondition_emits
    (h : ∃ made, (applyDurationCondition arithmetic algorithm state sample).2 = .ok [made]) :
    ∃ step, durationStep algorithm = some step ∧
      (step.next arithmetic algorithm (state.durationByAlias.get step.source) sample).2 = true := by
  rcases h with ⟨made,h⟩
  cases hs : durationStep algorithm with
  | none => simp [applyDurationCondition,hs] at h
  | some step =>
    refine ⟨step,rfl,?_⟩
    unfold applyDurationCondition onSource at h
    unfold DurationStep.next DurationStep.verdict
    simp only [hs] at h
    cases hb : algorithm.binding step.source with
    | none => simp [hb] at h
    | some binding =>
      simp only [hb,bind_eq_bind,bind_some] at h ⊢
      split at h
      · next hp =>
        rw [if_pos hp]
        cases hv : sample.value.asF64 with
        | none => simp [hv] at h
        | some value =>
          cases hc : compare arithmetic value step.operator step.threshold with
          | false => simp [hv,hc] at h
          | true =>
            simp only [hv,hc,bind_some,Bool.not_true,Bool.false_eq_true,if_false] at h ⊢
            split at h
            · simp at h
            · next hd => rw [if_neg hd]
      · simp at h

theorem next_emitted {cond : DurationConditionState} (he : cond.emitted = true)
    (ht : step.verdict arithmetic algorithm sample ≠ some false)
    (hl : step.verdict arithmetic algorithm sample = some true → cond.since ≤ sample.timestamp) :
    step.next arithmetic algorithm (some cond) sample = (some cond,false) := by
  unfold DurationStep.next
  split
  · rfl
  · next hf => exact absurd hf ht
  · next hv =>
    have hh : DurationConditionState.hold (some cond) sample.timestamp = cond := by
      simp only [DurationConditionState.hold,getD_some]
      rw [if_neg (Int.not_lt.mpr (hl hv))]
    simp [hh,he]

theorem next_emits (h : (step.next arithmetic algorithm held sample).2 = true) :
    ∃ since, (step.next arithmetic algorithm held sample).1 = some ⟨since,true⟩ ∧
      milliseconds step.durationMs ≤ sample.timestamp - since := by
  unfold DurationStep.next at h ⊢
  split at h
  · cases h
  · cases h
  · next hv =>
    dsimp only at h ⊢
    split at h
    · cases h
    · next hd =>
      rw [if_neg hd]
      simp only [Bool.or_eq_true,decide_eq_true_eq,not_or,Nat.not_lt] at hd
      refine ⟨_,rfl,milliseconds_le_of_asU64 ?_ hd.2⟩
      have hle := hold_since_le held sample.timestamp
      exact Int.sub_nonneg_of_le hle

variable (samples : List TelemetrySample)

/-! ## A sequence of samples -/

@[simp] theorem afterSamples_append (sample : TelemetrySample) :
    afterSamples arithmetic algorithm (samples ++ [sample]) =
      (applyDurationCondition arithmetic algorithm
        (afterSamples arithmetic algorithm samples) sample).1 := by
  simp [afterSamples]

theorem steady_split (before rest : List TelemetrySample)
    (h : steady arithmetic algorithm state (before ++ sample :: rest) = true) :
    rearms arithmetic algorithm (before.foldl (fun state sample =>
      (applyDurationCondition arithmetic algorithm state sample).1) state) sample = false := by
  induction before generalizing state with
  | nil =>
    simp only [nil_append,steady,Bool.and_eq_true,Bool.not_eq_true'] at h
    exact h.1
  | cons first before ih =>
    simp only [cons_append,steady,Bool.and_eq_true] at h
    exact ih h.2

theorem since_le_of_not_rearms (hs : durationStep algorithm = some step)
    (hc : state.durationByAlias.get step.source = some condition) (he : condition.emitted = true)
    (hv : step.verdict arithmetic algorithm sample = some true)
    (h : rearms arithmetic algorithm state sample = false) :
    condition.since ≤ sample.timestamp := by
  simp only [rearms,hs,hc,he,hv,any_some,decide_true,
    Bool.and_self,Bool.true_and,decide_eq_false_iff_not] at h
  exact Int.not_lt.mp h

variable (arithmetic algorithm step) in
/-- The condition is true since a sample of the sequence, and it has not been false after it. -/
def HeldSince (samples : List TelemetrySample) (since : Time) : Prop :=
  ∃ earlier first held, samples = earlier ++ first :: held ∧ first.timestamp = since ∧
    step.verdict arithmetic algorithm first = some true ∧
    ∀ sample ∈ held, step.verdict arithmetic algorithm sample ≠ some false

theorem HeldSince.append {samples : List TelemetrySample}
    (h : HeldSince arithmetic algorithm step samples since)
    (hs : step.verdict arithmetic algorithm sample ≠ some false) :
    HeldSince arithmetic algorithm step (samples ++ [sample]) since := by
  rcases h with ⟨earlier,first,held,rfl,hsi,hf,ht⟩
  refine ⟨earlier,first,held ++ [sample],by simp,hsi,hf,?_⟩
  intro other ho
  rw [mem_append,mem_singleton] at ho
  cases ho with
  | inl hol => exact ht other hol
  | inr hn => exact hn ▸ hs

private theorem heldSince_self (hs : step.verdict arithmetic algorithm sample = some true) :
    HeldSince arithmetic algorithm step (samples ++ [sample]) sample.timestamp :=
  ⟨samples,sample,[],rfl,rfl,hs,by simp⟩

private theorem next_heldSince {samples : List TelemetrySample} (h : ∀ before, held = some before →
      HeldSince arithmetic algorithm step samples before.since)
    (hn : (step.next arithmetic algorithm held sample).1 = some condition) :
    HeldSince arithmetic algorithm step (samples ++ [sample]) condition.since := by
  unfold DurationStep.next at hn
  split at hn
  · next hv => exact (h condition hn).append (by simp [hv])
  · cases hn
  · next hv =>
    have hs : condition.since = (DurationConditionState.hold held sample.timestamp).since := by
      dsimp only at hn
      split at hn <;> cases hn <;> rfl
    rw [hs]
    cases held with
    | none =>
      simp only [DurationConditionState.hold,getD_none,Int.lt_irrefl,if_false]
      exact heldSince_self samples hv
    | some before =>
      simp only [DurationConditionState.hold,getD_some]
      split
      · exact heldSince_self samples hv
      · exact (h before rfl).append (by simp [hv])

theorem afterSamples_heldSince (hs : durationStep algorithm = some step)
    (samples : List TelemetrySample) (cond : DurationConditionState)
    (h : (afterSamples arithmetic algorithm samples).durationByAlias.get step.source =
      some cond) : HeldSince arithmetic algorithm step samples cond.since := by
  induction samples using List.reverseRecOn generalizing cond with
  | nil => simp [afterSamples,AlgorithmState.default] at h
  | append_singleton samples sample ih =>
    rw [afterSamples_append,applyDurationCondition_held hs] at h
    exact next_heldSince (fun before hb => ih before hb) h

private theorem afterSamples_emitted (hs : durationStep algorithm = some step)
    {before : List TelemetrySample} (hf : Emits arithmetic algorithm before first)
    (between : List TelemetrySample)
    (ht : ∀ sample ∈ between, step.verdict arithmetic algorithm sample ≠ some false)
    (hst : ∀ held sample rest, between = held ++ sample :: rest → rearms arithmetic algorithm
        (afterSamples arithmetic algorithm (before ++ first :: held)) sample = false) :
    ∃ cond, (afterSamples arithmetic algorithm
        (before ++ first :: between)).durationByAlias.get step.source = some cond ∧
      cond.emitted = true := by
  induction between using List.reverseRecOn with
  | nil =>
    rcases applyDurationCondition_emits hf with ⟨other,ho,hem⟩
    cases hs.symm.trans ho
    rcases next_emits hem with ⟨since,hn,_⟩
    refine ⟨⟨since,true⟩,?_,rfl⟩
    rw [afterSamples_append,applyDurationCondition_held hs]
    exact hn
  | append_singleton between sample ih =>
    have hk := ih (fun other ho => ht other (mem_append_left _ ho))
      (fun held other rest hr => hst held other (rest ++ [sample]) (by simp [hr]))
    rcases hk with ⟨cond,hc,he⟩
    refine ⟨cond,?_,he⟩
    have hl := hst between sample [] rfl
    have hv := ht sample (mem_append_right _ mem_cons_self)
    rw [← cons_append,← append_assoc,afterSamples_append,applyDurationCondition_held hs,hc]
    rw [next_emitted he hv]
    intro hso
    exact since_le_of_not_rearms hs hc he hso hl

/-- Without a sample that starts an emitted condition again, a condition emits only after it has
been true for its duration, and once in a true run. -/
theorem emits_once_per_true_run (hstep : durationStep algorithm = some step)
    (samples : List TelemetrySample)
    (hsteady : steady arithmetic algorithm .default samples = true) :
    (∀ before sample rest, samples = before ++ sample :: rest →
      Emits arithmetic algorithm before sample →
      ∃ since, HeldSince arithmetic algorithm step (before ++ [sample]) since ∧
        milliseconds step.durationMs ≤ sample.timestamp - since) ∧
    ∀ before first between second rest, samples = before ++ first :: (between ++ second :: rest) →
      Emits arithmetic algorithm before first →
      Emits arithmetic algorithm (before ++ first :: between) second →
      ∃ sample ∈ between, step.verdict arithmetic algorithm sample = some false := by
  constructor
  · intro before sample rest _ hem
    rcases applyDurationCondition_emits hem with ⟨other,ho,hn⟩
    cases hstep.symm.trans ho
    rcases next_emits hn with ⟨since,ha,hd⟩
    refine ⟨since,?_,hd⟩
    rw [← applyDurationCondition_held hstep,← afterSamples_append] at ha
    exact afterSamples_heldSince hstep _ _ ha
  · intro before first between second rest hs hfi hse
    by_contra hnone
    have ht : ∀ sample ∈ between, step.verdict arithmetic algorithm sample ≠ some false :=
      fun sample hsa hf => hnone ⟨sample,hsa,hf⟩
    have hm := afterSamples_emitted hstep hfi between ht (by
      intro held sample others hb
      apply steady_split (before ++ first :: held) (others ++ second :: rest)
      simpa [hs,hb] using hsteady)
    rcases hm with ⟨cond,hc,he⟩
    rcases applyDurationCondition_emits hse with ⟨other,ho,hn⟩
    cases hstep.symm.trans ho
    rw [hc] at hn
    have hl : rearms arithmetic algorithm (afterSamples arithmetic algorithm
        (before ++ first :: between)) second = false := by
      apply steady_split (before ++ first :: between) rest
      simpa [hs] using hsteady
    -- the second sample is on the mark too
    cases hv : step.verdict arithmetic algorithm second with
    | none => simp [DurationStep.next,hv] at hn
    | some verdict =>
      cases verdict with
      | false => simp [DurationStep.next,hv] at hn
      | true =>
        rw [next_emitted he (by simp [hv])] at hn
        · cases hn
        · intro _
          exact since_le_of_not_rearms hstep hc he hv hl

def overheated : AlgorithmSpec where
  id := "overheated"
  kind := .durationRule
  dsl :=
    { inputs := [⟨"t","temperature"⟩]
      trigger := .onSample
      steps := [.durationCondition "t" .gt (.finite 10 0) 1000 "alarm"]
      outputs := [⟨"alarm","overheated"⟩] }

def temperature : Int → Int → TelemetrySample := reading "boiler" "temperature"

def overheatedStep : DurationStep := ⟨"t",.gt,.finite 10 0,1000,"alarm"⟩

/-- The temperature falls between the two emissions. -/
theorem emits_once_per_true_run_overheated :
    Emits .exact overheated [temperature 20 10] (temperature 20 11) ∧
    Emits .exact overheated [temperature 20 10,temperature 20 11,temperature 5 12,temperature 20 13]
      (temperature 20 14) ∧
    ∃ sample ∈ [temperature 5 12,temperature 20 13],
      overheatedStep.verdict .exact overheated sample = some false :=
  ⟨⟨_,rfl⟩,⟨_,rfl⟩,
    (emits_once_per_true_run (show durationStep overheated = some overheatedStep from rfl)
      [temperature 20 10,temperature 20 11,temperature 5 12,temperature 20 13,
        temperature 20 14] (by decide +kernel)).2
      [temperature 20 10] (temperature 20 11) [temperature 5 12,temperature 20 13]
      (temperature 20 14) [] rfl ⟨_,rfl⟩ ⟨_,rfl⟩⟩

/-- The third sample is late. It starts the condition again, which then emits a second time in one
true run. -/
theorem late_sample_emits_twice : Emits .exact overheated [temperature 20 10] (temperature 20 11) ∧
    Emits .exact overheated [temperature 20 10,temperature 20 11,temperature 20 9]
      (temperature 20 10) ∧
    overheatedStep.verdict .exact overheated (temperature 20 9) = some true :=
  ⟨⟨_,rfl⟩,⟨_,rfl⟩,rfl⟩

end VelaEdge.Runtime.Algorithm
