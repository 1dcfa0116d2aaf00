import Mathlib.Data.List.Chain
import Mathlib.Data.Nat.Dist

/-! The longest time a counter of an acceptance run stood still, followed by a tracker. -/
namespace VelaEdge.Runtime.ProgressGaps

open List

structure ProgressGapTracker where
  previousCount : Nat := 0
  firstProgressAtMs : Option Nat := none
  lastProgressAtMs : Option Nat := none
  maximumProgressGapMs : Nat := 0
  counterResetObserved : Bool := false

/-- The counter and the time at which it was read. -/
abbrev Observation := Nat × Nat

namespace ProgressGapTracker

variable (tracker : ProgressGapTracker)

def observeCounter : Observation → ProgressGapTracker
  | (count, nowMs) =>
    if count < tracker.previousCount then
      { tracker with counterResetObserved := true, previousCount := count }
    else if tracker.previousCount < count then
      match tracker.lastProgressAtMs with
      | some previous =>
        { tracker with
          maximumProgressGapMs := max tracker.maximumProgressGapMs (nowMs - previous)
          lastProgressAtMs := some nowMs
          previousCount := count }
      | none =>
        { tracker with
          firstProgressAtMs := some nowMs
          lastProgressAtMs := some nowMs
          previousCount := count }
    else { tracker with previousCount := count }

def maximumObservedGapMs (finishedAtMs : Nat) : Nat :=
  max (max tracker.maximumProgressGapMs (tracker.firstProgressAtMs.getD finishedAtMs))
    (tracker.lastProgressAtMs.elim finishedAtMs (finishedAtMs - ·))

end ProgressGapTracker

open ProgressGapTracker

/-- The times at which the counter increased over the observation before. -/
def progressTimes : Nat → List Observation → List Nat
  | _, [] => []
  | previous, (count, nowMs) :: rest =>
    if previous < count then nowMs :: progressTimes count rest else progressTimes count rest

def distances : List Nat → List Nat
  | first :: second :: rest => first.dist second :: distances (second :: rest)
  | _ => []

def largestDistance (times : List Nat) : Nat := (distances times).foldr max 0

/-- The longest of the gaps that have ended. -/
def closedGap (tracker : ProgressGapTracker) : Nat :=
  max tracker.maximumProgressGapMs (tracker.firstProgressAtMs.getD 0)

/-- The counter last increased at `last`, or at no time yet. -/
structure Follows (tracker : ProgressGapTracker) (last : Nat) : Prop where
  last : tracker.lastProgressAtMs.getD 0 = last
  paired : tracker.firstProgressAtMs = none ↔ tracker.lastProgressAtMs = none

variable {tracker : ProgressGapTracker} {count nowMs : Nat}

theorem maximumObservedGapMs_eq (h : Follows tracker last) (finish : Nat) :
    tracker.maximumObservedGapMs finish = max (closedGap tracker) (finish - last) := by
  obtain ⟨rfl,hp⟩ := h
  unfold maximumObservedGapMs closedGap
  cases hl : tracker.lastProgressAtMs with
  | none => simp [hp.mpr hl]
  | some last =>
    cases hf : tracker.firstProgressAtMs with
    | none => simp [hp.mp hf] at hl
    | some first => rfl

@[simp] theorem observeCounter_previousCount :
    (tracker.observeCounter (count,nowMs)).previousCount = count := by
  unfold observeCounter
  grind

@[simp] theorem observeCounter_reset :
    (tracker.observeCounter (count,nowMs)).counterResetObserved = true ↔
      tracker.counterResetObserved = true ∨ count < tracker.previousCount := by
  unfold observeCounter
  grind

section

variable (h : Follows tracker last)
include h

private theorem observeCounter_progress (hc : tracker.previousCount < count) (nowMs : Nat) :
    Follows (tracker.observeCounter (count,nowMs)) nowMs ∧
    closedGap (tracker.observeCounter (count,nowMs)) = max (closedGap tracker) (nowMs - last) := by
  obtain ⟨rfl,hp⟩ := h
  simp only [observeCounter,if_neg (Nat.lt_asymm hc),if_pos hc]
  cases hl : tracker.lastProgressAtMs with
  | none => exact ⟨⟨rfl,by simp⟩,by simp [closedGap,hp.mpr hl]⟩
  | some last =>
    refine ⟨⟨rfl,by simp [hp,hl]⟩,?_⟩
    simp only [closedGap,Option.getD_some]
    omega

private theorem observeCounter_still (hc : ¬ tracker.previousCount < count) (nowMs : Nat) :
    Follows (tracker.observeCounter (count,nowMs)) last ∧
    closedGap (tracker.observeCounter (count,nowMs)) = closedGap tracker := by
  simp only [observeCounter,if_neg hc]
  split
  all_goals exact ⟨⟨h.last,h.paired⟩,rfl⟩

/-- A whole run: times in order make the differences of the tracker distances. -/
theorem observe_all (observations : List Observation)
    (ho : (last :: observations.map Prod.snd ++ [finish]).Pairwise (· ≤ ·)) :
    (observations.foldl observeCounter tracker).maximumObservedGapMs finish =
      max (closedGap tracker)
        (largestDistance (last :: progressTimes tracker.previousCount observations ++ [finish])) := by
  induction observations generalizing tracker last with
  | nil =>
    have hle : last ≤ finish := by simpa using ho
    rw [foldl_nil,maximumObservedGapMs_eq h]
    simp [largestDistance,distances,progressTimes,Nat.dist_eq_sub_of_le hle]
  | cons observation rest ih =>
    obtain ⟨count,nowMs⟩ := observation
    simp only [map_cons,cons_append,pairwise_cons,mem_cons,forall_eq_or_imp] at ho
    rw [foldl_cons,progressTimes]
    split
    · next hc =>
      obtain ⟨hf,hg⟩ := observeCounter_progress h hc nowMs
      rw [ih hf (by simpa using ho.2),hg]
      simp [largestDistance,distances,Nat.dist_eq_sub_of_le ho.1.1,max_assoc]
    · next hc =>
      obtain ⟨hf,hg⟩ := observeCounter_still h hc nowMs
      have hn : (last :: rest.map Prod.snd ++ [finish]).Pairwise (· ≤ ·) :=
        pairwise_cons.mpr ⟨ho.1.2,ho.2.2⟩
      rw [ih hf hn,hg,observeCounter_previousCount]

end

variable (observations : List Observation)

@[simp] theorem observe_resets :
    (observations.foldl observeCounter tracker).counterResetObserved = true ↔
      tracker.counterResetObserved = true ∨
        ¬ (tracker.previousCount :: observations.map Prod.fst).IsChain (· ≤ ·) := by
  induction observations generalizing tracker with
  | nil => simp
  | cons observation rest ih =>
    rw [foldl_cons,ih]
    rw [observeCounter_reset,observeCounter_previousCount,map_cons,isChain_cons_cons,or_assoc,
      not_and_or,Nat.not_le]

/-- The tracker reports the largest distance between consecutive times of the start, the times at
which the counter increased, and the finish; and a reset exactly when some observation is lower
than the one before it. -/
theorem tracker_exact (finish : Nat)
    (h : (observations.map Prod.snd ++ [finish]).Pairwise (· ≤ ·)) :
    let tracker := observations.foldl observeCounter {}
    tracker.maximumObservedGapMs finish =
      largestDistance (0 :: progressTimes 0 observations ++ [finish]) ∧
    (tracker.counterResetObserved = true ↔ ∃ before previous next after,
        observations.map Prod.fst = before ++ previous :: next :: after ∧ next < previous) := by
  constructor
  · have hf : Follows {} 0 := ⟨rfl,Iff.rfl⟩
    rw [observe_all hf observations (pairwise_cons.mpr ⟨fun _ _ => Nat.zero_le _,h⟩)]
    exact Nat.zero_max _
  · have hz : (0 :: observations.map Prod.fst).IsChain (· ≤ ·) ↔
        (observations.map Prod.fst).IsChain (· ≤ ·) := by simp [isChain_cons]
    rw [observe_resets,hz,isChain_iff_forall_rel_of_append_cons_cons]
    simp only [Bool.false_eq_true,false_or,not_forall,Nat.not_le]
    grind

theorem slow_start_tracked :
    ([(0,10),(2,700),(5,900),(1,950)].foldl observeCounter {}).maximumObservedGapMs 1000 = 700 :=
  (tracker_exact [(0,10),(2,700),(5,900),(1,950)] 1000 (by decide)).1.trans (by decide)

end VelaEdge.Runtime.ProgressGaps
