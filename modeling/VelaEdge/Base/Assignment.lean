import VelaEdge.Base.OrderedMap
import VelaEdge.Base.Outcome

/-! A map collected from pairs: a key may come again, with the value it has. -/
namespace VelaEdge.Base

open List

variable {K V ε : Type} [LinearOrder K]

def assign [DecidableEq V] (conflict : K → ε) (map : OrderedMap K V) (entry : K × V) :
    Except ε (OrderedMap K V) :=
  match map.get entry.1 with
  | some existing =>
    if existing ≠ entry.2 then .error (conflict entry.1) else .ok (map.put entry.1 entry.2)
  | none => .ok (map.put entry.1 entry.2)

def OneValued (entries : List (K × V)) : Prop :=
  ∀ key first second, (key,first) ∈ entries → (key,second) ∈ entries → first = second

def Collects (map : OrderedMap K V) (entries : List (K × V)) : Prop :=
  ∀ key value, map.get key = some value ↔ (key,value) ∈ entries

variable {conflict : K → ε} {map final : OrderedMap K V} {entries done : List (K × V)}

theorem Collects.empty : Collects (.empty : OrderedMap K V) [] := by
  intro key value
  simp

theorem Collects.oneValued (h : Collects map entries) : OneValued entries := by
  intro key first second hf hs
  rw [← h] at hf hs
  exact Option.some.inj (hf.symm.trans hs)

theorem Collects.put {entry : K × V} (h : Collects map done)
    (ha : ∀ old, map.get entry.1 = some old → old = entry.2) :
    Collects (map.put entry.1 entry.2) (done ++ [entry]) := by
  intro key value
  rw [OrderedMap.get_put,mem_append,mem_singleton,← h]
  split
  · next hk =>
    subst hk
    constructor
    · intro hv
      cases hv
      exact .inr rfl
    · rintro (hg | he)
      · rw [ha value hg]
      · rw [← he]
  · next hk =>
    constructor
    · exact .inl
    · rintro (hg | he)
      · exact hg
      · exact absurd (congrArg Prod.fst he) hk

variable [DecidableEq V]

theorem assign_eq_ok : assign conflict map entry = .ok final ↔
    (∀ old, map.get entry.1 = some old → old = entry.2) ∧ final = map.put entry.1 entry.2 := by
  unfold assign
  cases map.get entry.1 with
  | none =>
    simp only [Except.ok.injEq,reduceCtorEq,false_implies,implies_true,true_and,eq_comm]
  | some old =>
    by_cases hs : old = entry.2
    · simp [hs,eq_comm]
    · simp [hs]

theorem Collects.foldlM (h : Collects map done)
    (hf : entries.foldlM (assign conflict) map = .ok final) : Collects final (done ++ entries) := by
  induction entries generalizing map done with
  | nil =>
    cases hf
    rw [append_nil]
    exact h
  | cons entry entries ih =>
    rw [foldlM_cons,bind_eq_ok] at hf
    obtain ⟨next,hn,hr⟩ := hf
    obtain ⟨ha,rfl⟩ := assign_eq_ok.mp hn
    rw [append_cons]
    exact ih (h.put ha) hr

theorem Collects.exists_foldlM (h : Collects map done) (hov : OneValued (done ++ entries)) :
    ∃ final, entries.foldlM (assign conflict) map = .ok final := by
  induction entries generalizing map done with
  | nil => exact ⟨map,rfl⟩
  | cons entry entries ih =>
    have ha : ∀ old, map.get entry.1 = some old → old = entry.2 := by
      intro old hg
      apply hov entry.1
      · exact mem_append_left _ ((h _ _).mp hg)
      · exact mem_append_right _ mem_cons_self
    rw [append_cons] at hov
    obtain ⟨final,hf⟩ := ih (h.put ha) hov
    refine ⟨final,?_⟩
    rw [foldlM_cons,assign_eq_ok.mpr ⟨ha,rfl⟩,ok_bind,hf]

theorem exists_assigned_iff :
    (∃ map, entries.foldlM (assign conflict) .empty = .ok map) ↔ OneValued entries := by
  constructor
  · rintro ⟨map,hm⟩
    exact (Collects.empty.foldlM hm).oneValued
  · intro h
    exact Collects.empty.exists_foldlM h

end VelaEdge.Base
