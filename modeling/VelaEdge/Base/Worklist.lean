import Mathlib.Data.Finset.Card

/-! A search with a stack: an item taken off is skipped if it was seen before, otherwise it is
noted and what follows from it is pushed. -/
namespace VelaEdge.Base.Worklist

open List

variable {α : Type} [DecidableEq α] (next : α → List α)

/-- The items seen in the end, the last one first. -/
def search : Nat → List α → List α → List α
  | 0, _, seen => seen
  | _ + 1, [], seen => seen
  | fuel + 1, item :: stack, seen =>
    if item ∈ seen then search fuel stack seen
    else search fuel ((next item).reverse ++ stack) (item :: seen)

variable {next} {stack seen : List α}

theorem search_sound {P : α → Prop} (hn : ∀ item, P item → ∀ other ∈ next item, P other)
    (fuel : Nat) (hs : ∀ item ∈ stack, P item) (he : ∀ item ∈ seen, P item) :
    ∀ item ∈ search next fuel stack seen, P item := by
  induction fuel generalizing stack seen with
  | zero => exact he
  | succ fuel ih =>
    cases stack with
    | nil => exact he
    | cons top stack =>
      have ht := hs top mem_cons_self
      have hr : ∀ item ∈ stack, P item := fun item hi => hs item (mem_cons_of_mem _ hi)
      rw [search]
      split
      · exact ih hr he
      · refine ih (fun item hi => ?_) fun item hi => ?_
        · rcases mem_append.mp hi with hi | hi
          · exact hn top ht item (mem_reverse.mp hi)
          · exact hr item hi
        · rcases mem_cons.mp hi with rfl | hi
          · exact ht
          · exact he item hi

variable {space : Finset α}

/-- With enough fuel the stack is emptied: the search keeps what it has seen, sees its stack and
ends closed under what follows. Fuel is used up by the stack and by every item not seen yet. -/
theorem search_closed {width fuel : Nat} (hw : ∀ item, (next item).length ≤ width)
    (hu : ∀ item ∈ space, ∀ other ∈ next item, other ∈ space) (hs : ∀ item ∈ stack, item ∈ space)
    (hc : ∀ item ∈ seen, ∀ other ∈ next item, other ∈ seen ∨ other ∈ stack)
    (hf : stack.length + (space \ seen.toFinset).card * width ≤ fuel) :
    (∀ item, item ∈ seen ∨ item ∈ stack → item ∈ search next fuel stack seen) ∧
      ∀ item ∈ search next fuel stack seen, ∀ other ∈ next item,
        other ∈ search next fuel stack seen := by
  induction fuel generalizing stack seen with
  | zero =>
    have hn : stack = [] := length_eq_zero_iff.mp (by omega)
    subst hn
    exact ⟨fun item hi => by simpa [search] using hi,
      fun item hi other ho => by simpa [search] using hc item hi other ho⟩
  | succ fuel ih =>
    cases stack with
    | nil => exact ⟨fun item hi => by simpa [search] using hi,
        fun item hi other ho => by simpa [search] using hc item hi other ho⟩
    | cons top stack =>
      have ht := hs top mem_cons_self
      have hr : ∀ item ∈ stack, item ∈ space := fun item hi => hs item (mem_cons_of_mem _ hi)
      rw [length_cons] at hf
      rw [search]
      split
      · next hm =>
        have hcs : ∀ item ∈ seen, ∀ other ∈ next item, other ∈ seen ∨ other ∈ stack := by grind
        obtain ⟨hk,hcl⟩ := ih hr hcs (by omega)
        exact ⟨fun item hi => hk item (by grind),hcl⟩
      · next hm =>
        have hca : (space \ (top :: seen).toFinset).card + 1 ≤ (space \ seen.toFinset).card := by
          rw [toFinset_cons,Finset.sdiff_insert]
          exact Finset.card_erase_lt_of_mem (by simp [ht,hm])
        have hmu := Nat.mul_le_mul_right width hca
        have hwt := hw top
        rw [Nat.add_mul] at hmu
        have hss : ∀ item ∈ (next top).reverse ++ stack, item ∈ space := by grind
        have hcs : ∀ item ∈ top :: seen, ∀ other ∈ next item,
            other ∈ top :: seen ∨ other ∈ (next top).reverse ++ stack := by grind
        obtain ⟨hk,hcl⟩ := ih hss hcs (by rw [length_append,length_reverse]; omega)
        exact ⟨fun item hi => hk item (by grind),hcl⟩

theorem mem_search_iff {width fuel : Nat} (hw : ∀ item, (next item).length ≤ width)
    (hu : ∀ item ∈ space, ∀ other ∈ next item, other ∈ space) (hs : ∀ item ∈ stack, item ∈ space)
    (hf : stack.length + space.card * width ≤ fuel) :
    item ∈ search next fuel stack [] ↔
      ∃ start ∈ stack, Relation.ReflTransGen (fun item other => other ∈ next item) start item := by
  constructor
  · intro hi
    exact search_sound (P := fun item => ∃ start ∈ stack,
        Relation.ReflTransGen (fun item other => other ∈ next item) start item)
      (fun _ ⟨start,hst,hp⟩ _ ho => ⟨start,hst,hp.tail ho⟩) fuel
      (fun item hi => ⟨item,hi,.refl⟩) (by simp) item hi
  · rintro ⟨start,hst,hp⟩
    obtain ⟨hk,hc⟩ := @search_closed _ _ next stack [] space width fuel hw hu hs (by simp)
      (by simpa using hf)
    induction hp with
    | refl => exact hk start (.inr hst)
    | tail _ ho ih => exact hc _ ih _ ho

end VelaEdge.Base.Worklist
