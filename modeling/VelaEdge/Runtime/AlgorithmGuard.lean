import VelaEdge.Base.PropagationLimit
import VelaEdge.Runtime.AlgorithmEngine

/-! The guard against cycles. It counts the samples that a batch leads to, and an algorithm with
many outputs leads to as many as a cycle would. -/
namespace VelaEdge.Runtime.Algorithm

open Base Core List Propagation
open Expression (Arithmetic)
open Propagation (Policy)

variable (algorithms : List AlgorithmSpec)

/-! ## Cycles -/

def Feeds (point next : String) : Prop :=
  ∃ algorithm ∈ algorithms, point ∈ algorithm.inputs ∧ next ∈ algorithm.outputs

/-- No algorithm has an input that depends on its own output. -/
def Acyclic : Prop :=
  ∀ algorithm ∈ algorithms, ∀ input ∈ algorithm.inputs, ∀ output ∈ algorithm.outputs,
    ¬Relation.ReflTransGen (Feeds algorithms) output input

theorem acyclic_of_rank (rank : String → Nat)
    (h : ∀ alg ∈ algs, ∀ input ∈ alg.inputs, ∀ output ∈ alg.outputs,
      rank input < rank output) : Acyclic algs := by
  have hf : ∀ point next, Relation.ReflTransGen (Feeds algs) point next →
      rank point ≤ rank next := by
    intro point next hp
    induction hp with
    | refl => exact Nat.le_refl _
    | tail _ hs ih =>
      rcases hs with ⟨alg,hm,hi,ho⟩
      have hlt := h alg hm _ hi _ ho
      omega
  intro alg hm input hi output ho hp
  have hle := hf output input hp
  have hlt := h alg hm input hi output ho
  omega

/-! ## What a batch leads to -/

variable {arithmetic : Arithmetic} {engine : AlgorithmEngine} {samples : List TelemetrySample}

/-- All samples that a batch leads to if nothing limits them. -/
def AlgorithmEngine.generated (engine : AlgorithmEngine) (arithmetic : Arithmetic)
    (samples : List TelemetrySample) : List TelemetrySample :=
  ((network arithmetic engine.algorithms).drain (engine.policy samples).unguarded
    (engine.rounds samples) (engine.arrived samples)).1.made

/-- How many samples all algorithms together make if each input brings one. -/
def fanOut : Nat :=
  total (fun algorithm => algorithm.inputs.length * algorithm.capacity) algorithms

theorem maxGeneratedSamples_eq (h : maxGeneratedSamples batch algs ≠ usizeMax) :
    maxGeneratedSamples batch algs = max batch 1 * max algs 1 * 16 := by
  unfold maxGeneratedSamples saturatingMul at h ⊢
  generalize max batch 1 * max algs 1 = prod at h ⊢
  unfold usizeMax at h ⊢
  omega

theorem policy_allows_iff {count : Nat} : (engine.policy samples).allows count = true ↔
      maxGeneratedSamples samples.length engine.algorithms.length = usizeMax ∨
        count ≤ maxGeneratedSamples samples.length engine.algorithms.length := by
  unfold Policy.allows AlgorithmEngine.policy guarded
  dsimp only
  split
  · next h => simp [h]
  · next h => simp [h]

theorem propagate_exceeded_iff : (engine.propagate arithmetic samples).2 = .stopped .exceeded ↔
      (engine.policy samples).allows (engine.generated arithmetic samples).length = false := by
  apply drain_exceeded_iff (engine.rounds samples)
  rw [policy_allows_iff]
  exact .inr (Nat.zero_le _)

theorem tooManySamples_iff :
    (engine.applySamples arithmetic samples).2 = .returned (.error .tooManySamples) ↔
      (engine.policy samples).allows (engine.generated arithmetic samples).length = false := by
  rw [← propagate_exceeded_iff]
  unfold AlgorithmEngine.applySamples
  dsimp only
  split <;> simp_all

/-! ## Few enough outputs -/

def executionOf (algorithm : AlgorithmSpec) (sample : TelemetrySample) :
    AlgorithmSpec × String × String × Time :=
  (algorithm,sample.deviceId,sample.telemetryId,sample.timestamp)

def executions (samples : List TelemetrySample) : List (AlgorithmSpec × String × String × Time) :=
  algorithms.flatMap fun algorithm => samples.flatMap fun sample =>
    algorithm.inputs.map fun point => (algorithm,sample.deviceId,point,sample.timestamp)

variable (algs : List AlgorithmSpec) (samples : List TelemetrySample)

theorem network_priced : Priced (network arithmetic algs) (fun sample => ∃ src ∈ samples,
        sample.deviceId = src.deviceId ∧ sample.timestamp = src.timestamp)
      executionOf (fun execution => execution.1.capacity) (executions algs samples) := by
  constructor
  · intro alg other sample another h
    simp only [executionOf,Prod.mk.injEq] at h
    simp [network,h]
  · intro alg hm sample hb ht
    rw [takes_iff] at ht
    rcases hb with ⟨src,hs,hd,hti⟩
    apply mem_flatMap_of_mem hm
    apply mem_flatMap_of_mem hs
    rw [executionOf,hd,hti]
    exact mem_map_of_mem ht
  · intro alg _ state sample items hb hi
    have hma := react_makes hi
    refine ⟨hma.length_le items rfl,?_⟩
    rcases hb with ⟨src,hs,hd,hti⟩
    intro made hm
    have hsa := hma.derived items rfl made hm
    exact ⟨src,hs,hsa.device.trans hd,hsa.time.trans hti⟩

@[simp] theorem total_executions :
    total (fun execution => execution.1.capacity) (executions algs samples) =
      samples.length * fanOut algs := by
  have hp : ∀ (alg : AlgorithmSpec) (device : String) (time : Time) (points : List String),
      total (fun execution : AlgorithmSpec × String × String × Time =>
          execution.1.capacity)
        (points.map fun point => (alg,device,point,time)) =
        points.length * alg.capacity := by
    intro alg device time points
    induction points with
    | nil => simp [total]
    | cons point points ih =>
      simp only [total,map_cons,foldr_cons,length_cons] at ih ⊢
      rw [ih,Nat.succ_mul,Nat.add_comm]
  induction algs with
  | nil => simp [executions,fanOut,total]
  | cons alg algs ih =>
    have hf := total_flatMap_const
      (fun execution : AlgorithmSpec × String × String × Time => execution.1.capacity) samples
      (fun sample => alg.inputs.map fun point =>
        (alg,sample.deviceId,point,sample.timestamp))
      (fun sample _ => hp alg sample.deviceId sample.timestamp alg.inputs)
    rw [executions,flatMap_cons,total_append,hf]
    simp only [executions,fanOut,total,foldr_cons] at ih ⊢
    rw [ih,Nat.mul_add]

private theorem generated_length_le :
    (engine.generated arithmetic samples).length ≤ samples.length * fanOut engine.algorithms := by
  rw [← total_executions]
  apply (network_priced engine.algorithms samples).drain_made_le
  · rfl
  · constructor
    · exact nodup_nil
    · exact nil_subset _
    · intro sample hs
      exact ⟨sample,hs,rfl,rfl⟩
    · exact Nat.zero_le _

/-- With sixteen samples for each algorithm, on the average, no batch is too large. -/
theorem generated_allowed (h : fanOut engine.algorithms ≤ 16 * engine.algorithms.length) :
    (engine.policy samples).allows (engine.generated arithmetic samples).length = true := by
  rw [policy_allows_iff]
  by_cases hu : maxGeneratedSamples samples.length engine.algorithms.length = usizeMax
  · exact .inl hu
  · right
    rw [maxGeneratedSamples_eq hu]
    calc (engine.generated arithmetic samples).length
        ≤ samples.length * fanOut engine.algorithms := generated_length_le samples
      _ ≤ max samples.length 1 * (16 * max engine.algorithms.length 1) :=
          Nat.mul_le_mul (Nat.le_max_left _ _)
            (Nat.le_trans h (Nat.mul_le_mul_left 16 (Nat.le_max_left _ _)))
      _ = max samples.length 1 * max engine.algorithms.length 1 * 16 := by
          rw [Nat.mul_comm 16,Nat.mul_assoc]

/-- The guard counts, with or without a cycle. It stays quiet if the algorithms make no more than
sixteen samples each, on the average. -/
theorem guard_error_iff_generated (arithmetic : Arithmetic) (engine : AlgorithmEngine)
    (samples : List TelemetrySample) :
    ((engine.applySamples arithmetic samples).2 = .returned (.error .tooManySamples) ↔
      maxGeneratedSamples samples.length engine.algorithms.length ≠ usizeMax ∧
      maxGeneratedSamples samples.length engine.algorithms.length <
        (engine.generated arithmetic samples).length) ∧
    (fanOut engine.algorithms ≤ 16 * engine.algorithms.length →
      (engine.applySamples arithmetic samples).2 ≠ .returned (.error .tooManySamples)) := by
  constructor
  · rw [tooManySamples_iff,← Bool.not_eq_true,policy_allows_iff,not_or,Nat.not_le]
  · intro hf he
    rw [tooManySamples_iff,generated_allowed samples hf] at he
    cases he

def bands : AlgorithmSpec where
  id := "bands"
  kind := .thresholdRule
  dsl :=
    { inputs := [⟨"x","level"⟩]
      trigger := .onSample
      steps := (List.range 17).map fun band =>
        .conditionalRoute "x" .gt (.finite band 0) "above" "below"
      outputs := [⟨"above","above"⟩,⟨"below","below"⟩] }

/-- Nothing depends on what the bands make, and one sample is too many for the guard. -/
theorem seventeen_bands_look_like_a_cycle : Acyclic [bands] ∧
    ((⟨[bands],.empty⟩ : AlgorithmEngine).applySamples .exact [level 3 1]).2 =
      .returned (.error .tooManySamples) := by
  refine ⟨acyclic_of_rank (fun point => if point = "level" then 0 else 1) ?_,by rfl⟩
  decide

end VelaEdge.Runtime.Algorithm
