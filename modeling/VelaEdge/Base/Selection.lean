import Mathlib.Data.List.Sort

/-! Picking one element of a list: the one with the greatest key, the last one with a property. -/
namespace VelaEdge.Base

open List

variable {α κ : Type} [LinearOrder κ] (key : α → κ)

/-- Of several elements with the greatest key the last. -/
def maxBy : List α → Option α
  | [] => none
  | item :: items =>
    match maxBy items with
    | none => some item
    | some best => if key best < key item then some item else some best

variable {key} {items : List α} {best : α}

@[simp] theorem maxBy_eq_none : maxBy key items = none ↔ items = [] := by
  cases items with
  | nil => simp [maxBy]
  | cons item items =>
    simp only [maxBy,reduceCtorEq,iff_false]
    split
    · simp
    · split <;> simp

theorem maxBy_spec (h : maxBy key items = some best) :
    best ∈ items ∧ ∀ item ∈ items, key item ≤ key best := by
  induction items generalizing best with
  | nil => cases h
  | cons first items ih =>
    simp only [maxBy] at h
    split at h
    · next hn =>
      cases h
      rw [maxBy_eq_none.mp hn]
      simp
    · next found hf =>
      obtain ⟨hme,hm⟩ := ih hf
      split at h
      · next hlt =>
        cases h
        refine ⟨mem_cons_self,fun item hi => ?_⟩
        rcases mem_cons.mp hi with rfl | hi
        · exact le_refl _
        · exact le_trans (hm item hi) (le_of_lt hlt)
      · next hle =>
        cases h
        refine ⟨mem_cons_of_mem _ hme,fun item hi => ?_⟩
        rcases mem_cons.mp hi with rfl | hi
        · exact not_lt.mp hle
        · exact hm item hi

theorem maxBy_eq_some_of_mem (key : α → κ) (h : item ∈ items) :
    ∃ best, maxBy key items = some best := by
  cases hb : maxBy key items with
  | none =>
    rw [maxBy_eq_none.mp hb] at h
    cases h
  | some best => exact ⟨best,rfl⟩

def latest (wanted : α → Bool) (items : List α) : Option α := items.reverse.find? wanted

variable {wanted : α → Bool} {item : α}

theorem latest_eq_some_iff : latest wanted items = some item ↔ wanted item = true ∧
      ∃ before after, items = before ++ item :: after ∧ ∀ later ∈ after, wanted later = false := by
  rw [latest,List.find?_eq_some_iff_append]
  refine and_congr_right fun _ => ⟨?_,?_⟩
  · rintro ⟨after,before,hs,ha⟩
    refine ⟨before.reverse,after.reverse,?_,?_⟩
    · rw [← reverse_reverse items,hs]
      simp
    · intro later hl
      simpa using ha later (mem_reverse.mp hl)
  · rintro ⟨before,after,rfl,ha⟩
    refine ⟨after.reverse,before.reverse,by simp,?_⟩
    intro later hl
    simp [ha later (mem_reverse.mp hl)]

@[simp] theorem latest_eq_none_iff :
    latest wanted items = none ↔ ∀ item ∈ items, wanted item = false := by
  simp [latest]

@[simp] theorem latest_concat (before : List α) (last : α) :
    latest wanted (before ++ [last]) = if wanted last then some last else latest wanted before := by
  by_cases h : wanted last = true <;> simp [latest,h]

theorem latest_append_of_unwanted {before after : List α}
    (h : ∀ item ∈ after, wanted item = false) :
    latest wanted (before ++ after) = latest wanted before := by
  have hn : after.reverse.find? wanted = none := by simpa using h
  simp [latest,List.find?_append,hn]

@[simp] theorem latest_map (change : β → α) (items : List β) : latest wanted (items.map change) =
      (latest (fun item => wanted (change item)) items).map change := by
  rw [latest,latest,← map_reverse,List.find?_map]
  rfl

theorem latest_mem (h : latest wanted items = some item) : item ∈ items := by
  simpa using mem_of_find?_eq_some h

end VelaEdge.Base
