import Mathlib.Algebra.Order.Ring.Int
import Mathlib.Data.List.Basic

/-! Admission under a sliding window. A limiter keeps some of the times it has admitted and prunes
them as they age; it works when what it keeps and what it has admitted show the same recent times
from now on. -/
namespace VelaEdge.Base.SlidingWindow

open List

/-- The times of which less than a window has passed. -/
def recent (window now : Int) (times : List Int) : List Int :=
  times.filter fun time => now - time < window

def during (window start : Int) (times : List Int) : List Int :=
  times.filter fun time => start ≤ time ∧ time < start + window

/-- The kept times stand for all the admitted ones, from the last time seen on. -/
def Covers (window : Int) (seen kept admitted : List Int) : Prop :=
  ∀ now, (∀ time ∈ seen, time ≤ now) → recent window now kept = recent window now admitted

/-- No interval of a window's length holds more than the allowed number. -/
def Limited (window : Int) (most : Nat) (admitted : List Int) : Prop :=
  ∀ start, (during window start admitted).length ≤ most

variable {win : Int}

@[simp] theorem recent_append (win now : Int) (times more : List Int) :
    recent win now (times ++ more) = recent win now times ++ recent win now more :=
  filter_append ..

theorem recent_recent {later : Int} (h : now ≤ later) (times : List Int) :
    recent win later (recent win now times) = recent win later times := by
  unfold recent
  rw [filter_filter]
  apply filter_congr
  intro time _
  rw [← Bool.decide_and,decide_eq_decide]
  omega

theorem dropWhile_eq_recent {times : List Int} (hs : times.Pairwise (· ≤ ·))
    (he : ∀ time ∈ times, (expired time = true ↔ win ≤ now - time)) :
    times.dropWhile expired = recent win now times := by
  induction times with
  | nil => rfl
  | cons first rest ih =>
    rw [pairwise_cons] at hs
    have hr := ih hs.2 fun time ht => he time (mem_cons_of_mem _ ht)
    have hf := he first mem_cons_self
    by_cases hg : expired first = true
    · rw [dropWhile_cons_of_pos hg,hr,recent,recent,filter_cons_of_neg]
      rw [decide_eq_true_eq,not_lt]
      exact hf.mp hg
    · -- the first time is recent, so every later one is too
      rw [dropWhile_cons_of_neg hg,recent,eq_comm,filter_eq_self]
      rw [hf] at hg
      intro time ht
      rw [decide_eq_true_eq]
      rcases mem_cons.mp ht with rfl | ht
      · omega
      · have := hs.1 time ht
        omega

theorem recent_map_mul (hs : 0 < scale) (now : Int) (times : List Int) :
    recent (win * scale) (now * scale) (times.map (· * scale)) =
      (recent win now times).map (· * scale) := by
  unfold recent
  rw [filter_map]
  congr 1
  apply filter_congr
  intro time _
  rw [Function.comp_apply,decide_eq_decide,← sub_mul]
  exact mul_lt_mul_iff_left₀ hs

theorem covers_refl (win : Int) (seen times : List Int) : Covers win seen times times :=
  fun _ _ => rfl

namespace Covers

variable {seen kept admitted : List Int}

theorem mono (h : Covers win seen kept admitted) (hs : seen ⊆ more) :
    Covers win more kept admitted :=
  fun now hn => h now fun time ht => hn time (hs ht)

theorem prune (h : Covers win seen kept admitted) (hn : now ∈ seen) :
    Covers win seen (recent win now kept) admitted := by
  intro later hl
  rw [recent_recent (hl now hn),h later hl]

theorem record (h : Covers win seen kept admitted) (now : Int) :
    Covers win seen (kept ++ [now]) (admitted ++ [now]) := by
  intro later hl
  rw [recent_append,recent_append,h later hl]

end Covers

theorem limited_nil (win : Int) (most : Nat) : Limited win most [] := fun _ => Nat.zero_le _

theorem Limited.record (h : Limited win most admitted) (hn : ∀ time ∈ admitted, time ≤ now)
    (hf : (recent win now admitted).length < most) :
    Limited win most (admitted ++ [now]) := by
  intro start
  unfold during
  rw [filter_append,length_append]
  by_cases hi : start ≤ now ∧ now < start + win
  · -- what the interval holds so far is recent, so it is counted by the check
    have hs : (during win start admitted).length ≤ (recent win now admitted).length := by
      apply List.Sublist.length_le
      apply monotone_filter_right
      intro time ht
      rw [decide_eq_true_eq] at ht ⊢
      omega
    rw [filter_cons_of_pos (by simpa using hi),filter_nil,length_singleton]
    exact Nat.le_trans (Nat.add_le_add_right hs 1) hf
  · rw [filter_cons_of_neg (by simpa using hi),filter_nil,length_nil]
    exact h start

end VelaEdge.Base.SlidingWindow
