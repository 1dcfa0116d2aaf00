import Mathlib.Data.List.Sort

/-! A key-ordered map with atomic write batches and forward iteration: the part of an embedded
key-value store that a program can observe. -/
namespace VelaEdge.Base

open List

/-- Strictly sorted entries, so every key is bound at most once. -/
structure OrderedMap (K V : Type) [LinearOrder K] where
  entries : List (K × V)
  sorted : entries.Pairwise (fun left right => left.1 < right.1)

namespace OrderedMap

variable {K V : Type} [LinearOrder K]

def lookupEntries (key : K) : List (K × V) → Option V
  | [] => none
  | (other,value) :: rest => if key = other then some value else lookupEntries key rest

def putEntries (key : K) (value : V) : List (K × V) → List (K × V)
  | [] => [(key,value)]
  | (other,previous) :: rest =>
    if key < other then (key,value) :: (other,previous) :: rest
    else if key = other then (key,value) :: rest
    else (other,previous) :: putEntries key value rest

theorem mem_putEntries (key : K) (value : V) (entries : List (K × V)) (entry : K × V)
    (h : entry ∈ putEntries key value entries) : entry = (key,value) ∨ entry ∈ entries := by
  induction entries with
  | nil => simpa [putEntries] using h
  | cons head rest ih =>
    obtain ⟨other,prev⟩ := head
    simp only [putEntries] at h
    split_ifs at h with hlt heq
    · simpa using h
    · simp only [mem_cons] at h ⊢
      tauto
    · simp only [mem_cons] at h ⊢
      rcases h with h | h
      · exact .inr (.inl h)
      · exact (ih h).imp id .inr

theorem putEntries_sorted (key : K) (value : V) {entries : List (K × V)}
    (h : entries.Pairwise (fun left right => left.1 < right.1)) :
    (putEntries key value entries).Pairwise (fun left right => left.1 < right.1) := by
  induction entries with
  | nil => simp [putEntries]
  | cons head rest ih =>
    obtain ⟨other,prev⟩ := head
    rw [pairwise_cons] at h
    simp only [putEntries]
    split_ifs with hlt heq
    · refine pairwise_cons.mpr ⟨?_,pairwise_cons.mpr h⟩
      intro entry he
      rcases mem_cons.mp he with rfl | hr
      · exact hlt
      · exact hlt.trans (h.1 entry hr)
    · subst heq
      exact pairwise_cons.mpr h
    · refine pairwise_cons.mpr ⟨?_,ih h.2⟩
      intro entry he
      rcases mem_putEntries key value rest entry he with rfl | hr
      · exact lt_of_le_of_ne (not_lt.mp hlt) (Ne.symm heq)
      · exact h.1 entry hr

def empty : OrderedMap K V := ⟨[],.nil⟩

variable (map : OrderedMap K V)

def get (key : K) : Option V := lookupEntries key map.entries

def put (key : K) (value : V) : OrderedMap K V :=
  ⟨putEntries key value map.entries,putEntries_sorted key value map.sorted⟩

def delete (key : K) : OrderedMap K V :=
  ⟨map.entries.filter (fun entry => entry.1 ≠ key),map.sorted.filter _⟩

def retain (keep : K → V → Bool) : OrderedMap K V :=
  ⟨map.entries.filter (fun entry => keep entry.1 entry.2),map.sorted.filter _⟩

def mapValues {W : Type} (map : OrderedMap K V) (change : V → W) : OrderedMap K W :=
  ⟨map.entries.map (fun entry => (entry.1,change entry.2)),List.pairwise_map.mpr map.sorted⟩

def iterateFrom (start : K) : List (K × V) :=
  map.entries.dropWhile (fun entry => entry.1 < start)

inductive WriteOp (K V : Type) where
  | put : K → V → WriteOp K V
  | delete : K → WriteOp K V

def WriteOp.key : WriteOp K V → K
  | .put key _ => key
  | .delete key => key

def WriteOp.apply : WriteOp K V → OrderedMap K V
  | .put key value => map.put key value
  | .delete key => map.delete key

/-- A batch is one atomic write; its operations take effect in order. -/
def write (batch : List (WriteOp K V)) : OrderedMap K V :=
  batch.foldl WriteOp.apply map

@[simp] theorem get_empty (key : K) : (empty : OrderedMap K V).get key = none := rfl

private theorem lookup_putEntries (key other : K) (value : V) (entries : List (K × V)) :
    lookupEntries other (putEntries key value entries) =
      if other = key then some value else lookupEntries other entries := by
  induction entries with
  | nil => simp [putEntries,lookupEntries]
  | cons head rest ih =>
    obtain ⟨first,prev⟩ := head
    by_cases ho : other = key
    · subst ho
      simp only [putEntries,if_true] at ih ⊢
      split_ifs with hlt heq
      · simp [lookupEntries]
      · simp [lookupEntries]
      · simp [lookupEntries,heq,ih]
    · simp only [putEntries,if_neg ho] at ih ⊢
      split_ifs with hlt heq
      · simp [lookupEntries,ho]
      · subst heq
        simp [lookupEntries,ho]
      · simp [lookupEntries,ih]

theorem get_put (key other : K) (value : V) :
    (map.put key value).get other = if other = key then some value else map.get other :=
  lookup_putEntries key other value map.entries

@[simp] theorem get_put_self (key : K) (value : V) : (map.put key value).get key = some value := by
  simp [get_put]

variable (value : V)

theorem get_put_of_ne {key other : K} (h : other ≠ key) :
    (map.put key value).get other = map.get other := by
  simp [get_put,h]

private theorem lookup_filter_ne (key other : K) (entries : List (K × V)) :
    lookupEntries other (entries.filter (fun entry => entry.1 ≠ key)) =
      if other = key then none else lookupEntries other entries := by
  induction entries with
  | nil => simp [lookupEntries]
  | cons head rest ih =>
    obtain ⟨first,prev⟩ := head
    by_cases hf : first = key
    · subst hf
      rw [filter_cons_of_neg (by simp),ih]
      by_cases ho : other = first <;> simp [lookupEntries,ho]
    · rw [filter_cons_of_pos (by simpa using hf)]
      by_cases ho : other = key
      · subst ho
        simp only [lookupEntries,if_neg (Ne.symm hf),ih,if_true]
      · simp only [lookupEntries,ih,if_neg ho]

theorem get_delete (key other : K) :
    (map.delete key).get other = if other = key then none else map.get other :=
  lookup_filter_ne key other map.entries

@[simp] theorem get_delete_self (key : K) : (map.delete key).get key = none := by
  simp [get_delete]

theorem get_delete_of_ne {key other : K} (h : other ≠ key) :
    (map.delete key).get other = map.get other := by
  simp [get_delete,h]

@[simp] theorem write_nil : map.write [] = map := rfl

@[simp] theorem write_cons (op : WriteOp K V) (batch : List (WriteOp K V)) :
    map.write (op :: batch) = (op.apply map).write batch := rfl

@[simp] theorem apply_put (key : K) (value : V) :
    (WriteOp.put key value).apply map = map.put key value := rfl

@[simp] theorem apply_delete (key : K) :
    (WriteOp.delete key : WriteOp K V).apply map = map.delete key := rfl

@[simp] theorem write_append (first second : List (WriteOp K V)) :
    map.write (first ++ second) = (map.write first).write second :=
  foldl_append

variable (batch : List (WriteOp K V))

theorem get_write_of_untouched (key : K) (h : ∀ op ∈ batch, op.key ≠ key) :
    (map.write batch).get key = map.get key := by
  induction batch generalizing map with
  | nil => rfl
  | cons op batch ih =>
    rw [write_cons,ih _ fun other ho => h other (mem_cons_of_mem _ ho)]
    have hop : op.key ≠ key := h op mem_cons_self
    cases op with
    | put written value => exact get_put_of_ne map value (Ne.symm hop)
    | delete written => exact get_delete_of_ne map (Ne.symm hop)

variable {key : K}

theorem get_write_of_agreed {value : V} {batch : List (WriteOp K V)}
    (hp : .put key value ∈ batch) (ha : ∀ op ∈ batch, op.key = key → op = .put key value) :
    (map.write batch).get key = some value := by
  induction batch generalizing map with
  | nil => cases hp
  | cons op batch ih =>
    have hr : ∀ other ∈ batch, other.key = key → other = .put key value :=
      fun other ho => ha other (mem_cons_of_mem _ ho)
    rw [write_cons]
    by_cases hl : .put key value ∈ batch
    · exact ih _ hl hr
    · rw [get_write_of_untouched _ _ _ fun other ho hk =>
        hl (hr other ho hk ▸ ho)]
      rcases mem_cons.mp hp with rfl | hp
      · exact get_put_self map key value
      · exact absurd hp hl

variable {left right : OrderedMap K V}

theorem get_eq_some_iff (key : K) (value : V) :
    map.get key = some value ↔ (key,value) ∈ map.entries := by
  obtain ⟨entries,sorted⟩ := map
  change lookupEntries key entries = some value ↔ (key,value) ∈ entries
  induction entries with
  | nil => simp [lookupEntries]
  | cons head rest ih =>
    obtain ⟨other,prev⟩ := head
    rw [pairwise_cons] at sorted
    by_cases heq : key = other
    · subst heq
      have hr : (key,value) ∉ rest := fun hm => lt_irrefl key (sorted.1 _ hm)
      simp only [lookupEntries,if_true,Option.some.injEq,mem_cons,Prod.mk.injEq,
        true_and,hr,or_false]
      exact eq_comm
    · simp [lookupEntries,heq,ih sorted.2]

private theorem eq_of_sorted_of_mem_iff {left right : List (K × V)}
    (hl : left.Pairwise (fun a b => a.1 < b.1)) (hr : right.Pairwise (fun a b => a.1 < b.1))
    (h : ∀ entry, entry ∈ left ↔ entry ∈ right) : left = right := by
  have hn : ∀ {entries : List (K × V)}, entries.Pairwise (fun a b => a.1 < b.1) →
      entries.Nodup := fun hs => hs.imp fun hlt heq => hlt.ne (congrArg Prod.fst heq)
  refine List.Perm.eq_of_pairwise (fun a b _ _ hab hba => absurd hab hba.asymm) hl hr ?_
  exact (perm_ext_iff_of_nodup (hn hl) (hn hr)).mpr h

theorem ext_get (h : ∀ key, left.get key = right.get key) : left = right := by
  have he : left.entries = right.entries := by
    apply eq_of_sorted_of_mem_iff left.sorted right.sorted
    rintro ⟨key,value⟩
    rw [← get_eq_some_iff,← get_eq_some_iff,h]
  cases left
  cases right
  congr

@[simp] theorem put_eq_self_iff (key : K) (value : V) :
    map.put key value = map ↔ map.get key = some value := by
  constructor
  · intro h
    have hg := map.get_put_self key value
    rw [h] at hg
    exact hg
  · intro h
    apply ext_get
    intro other
    rw [get_put]
    split
    · next ho => rw [ho,h]
    · rfl

@[simp] theorem put_delete (key : K) (value : V) :
    (map.delete key).put key value = map.put key value := by
  apply ext_get
  intro other
  rw [get_put,get_put,get_delete]
  split <;> rfl

@[simp] theorem get_retain (keep : K → V → Bool) (key : K) :
    (map.retain keep).get key = (map.get key).filter (keep key) := by
  apply Option.ext
  intro value
  rw [get_eq_some_iff,Option.filter_eq_some_iff,get_eq_some_iff]
  exact mem_filter

@[simp] theorem get_mapValues (change : V → W) (key : K) :
    (map.mapValues change).get key = (map.get key).map change := by
  apply Option.ext
  intro value
  rw [get_eq_some_iff,Option.map_eq_some_iff]
  simp only [mapValues,mem_map,Prod.mk.injEq,Prod.exists,get_eq_some_iff]
  constructor
  · rintro ⟨name,found,hm,rfl,rfl⟩
    exact ⟨found,hm,rfl⟩
  · rintro ⟨found,hm,rfl⟩
    exact ⟨key,found,hm,rfl,rfl⟩

/-! The entries under one family of keys, in key order. -/

def within (inside : K → Bool) : List (K × V) :=
  map.entries.filter (fun entry => inside entry.1)

theorem within_sorted (inside : K → Bool) :
    (map.within inside).Pairwise (fun left right => left.1 < right.1) :=
  map.sorted.filter _

@[simp] theorem mem_within (inside : K → Bool) (entry : K × V) :
    entry ∈ map.within inside ↔ map.get entry.1 = some entry.2 ∧ inside entry.1 = true := by
  rw [within,mem_filter,get_eq_some_iff]

theorem within_put_of_outside (h : inside key = false) :
    (map.put key value).within inside = map.within inside := by
  apply eq_of_sorted_of_mem_iff (within_sorted _ _) (within_sorted _ _)
  rintro ⟨other,found⟩
  by_cases ho : other = key
  · subst ho
    simp [h]
  · simp [get_put,ho]

theorem within_delete_of_outside (h : inside key = false) :
    (map.delete key).within inside = map.within inside := by
  apply eq_of_sorted_of_mem_iff (within_sorted _ _) (within_sorted _ _)
  rintro ⟨other,found⟩
  by_cases ho : other = key
  · subst ho
    simp [h]
  · simp [get_delete,ho]

theorem within_write_of_outside (h : ∀ op ∈ batch, inside op.key = false) :
    (map.write batch).within inside = map.within inside := by
  induction batch generalizing map with
  | nil => rfl
  | cons op batch ih =>
    rw [write_cons,ih _ fun other ho => h other (mem_cons_of_mem _ ho)]
    have hop : inside op.key = false := h op mem_cons_self
    cases op with
    | put key value => exact within_put_of_outside map value hop
    | delete key => exact within_delete_of_outside map hop

@[simp] theorem within_delete (inside : K → Bool) (key : K) :
    (map.delete key).within inside = (map.within inside).filter (fun entry => entry.1 ≠ key) := by
  apply eq_of_sorted_of_mem_iff (within_sorted _ _) ((within_sorted _ _).filter _)
  rintro ⟨other,found⟩
  by_cases ho : other = key <;> simp [get_delete,ho]

theorem within_put_last (hi : inside key = true) (hl : ∀ entry ∈ map.within inside, entry.1 < key) :
    (map.put key value).within inside = map.within inside ++ [(key,value)] := by
  apply eq_of_sorted_of_mem_iff (within_sorted _ _)
  · refine pairwise_append.mpr ⟨within_sorted _ _,pairwise_singleton _ _,?_⟩
    intro entry he last hm
    rw [mem_singleton.mp hm]
    exact hl entry he
  · rintro ⟨other,found⟩
    by_cases ho : other = key
    · subst ho
      have ha : map.get other ≠ some found := fun hg =>
        lt_irrefl other (hl (other,found) ((mem_within _ _ _).mpr ⟨hg,hi⟩))
      simp [hi,ha,eq_comm]
    · simp [get_put,ho]

theorem within_put_present (value prev : V) (h : map.get key = some prev) :
    (map.put key value).within inside =
      (map.within inside).map (fun entry => if entry.1 = key then (key,value) else entry) := by
  apply eq_of_sorted_of_mem_iff (within_sorted _ _)
  · rw [pairwise_map]
    refine (within_sorted map inside).imp ?_
    intro left right hlt
    split_ifs with hleft hright hright
    · exact absurd (hleft.trans hright.symm) hlt.ne
    · exact hleft ▸ hlt
    · exact hright ▸ hlt
    · exact hlt
  · rintro ⟨other,found⟩
    simp only [mem_within,get_put,mem_map,Prod.exists]
    constructor
    · rintro ⟨hg,hi⟩
      by_cases ho : other = key
      · subst ho
        refine ⟨other,prev,⟨h,hi⟩,?_⟩
        simp only [if_true,Option.some.injEq] at hg ⊢
        rw [hg]
      · exact ⟨other,found,⟨by simpa [ho] using hg,hi⟩,by simp [ho]⟩
    · rintro ⟨first,stored,⟨hg,hi⟩,heq⟩
      by_cases hf : first = key
      · subst hf
        simp only [if_true,Prod.mk.injEq] at heq
        obtain ⟨rfl,rfl⟩ := heq
        simp [hi]
      · simp only [if_neg hf,Prod.mk.injEq] at heq
        obtain ⟨rfl,rfl⟩ := heq
        simp [hf,hg,hi]

private theorem dropWhile_takeWhile_eq_filter {start : K} {inside : K → Bool}
    (ha : ∀ key, inside key = true → start ≤ key)
    (hc : ∀ key later, start ≤ key → inside key = false → key < later → inside later = false)
    (entries : List (K × V)) (sorted : entries.Pairwise (fun a b => a.1 < b.1)) :
    (entries.dropWhile (fun entry => entry.1 < start)).takeWhile (fun entry => inside entry.1) =
      entries.filter (fun entry => inside entry.1) := by
  induction entries with
  | nil => rfl
  | cons head rest ih =>
    rw [pairwise_cons] at sorted
    by_cases hs : head.1 < start
    · have ho : inside head.1 = false := by
        by_contra hin
        exact absurd (ha _ (by simpa using hin)) (not_le.mpr hs)
      rw [dropWhile_cons_of_pos (by simpa using hs),ih sorted.2,filter_cons_of_neg (by simp [ho])]
    · rw [dropWhile_cons_of_neg (by simpa using hs)]
      have hd : rest.dropWhile (fun entry => entry.1 < start) = rest := by
        cases rest with
        | nil => rfl
        | cons next tail =>
          refine dropWhile_cons_of_neg ?_
          have := sorted.1 next mem_cons_self
          simpa using (not_lt.mp hs).trans this.le
      cases hin : inside head.1 with
      | true =>
        rw [takeWhile_cons_of_pos (by simpa using hin),
          filter_cons_of_pos (by simpa using hin),← ih sorted.2,hd]
      | false =>
        rw [takeWhile_cons_of_neg (by simp [hin]),
          filter_cons_of_neg (by simp [hin]),eq_comm,filter_eq_nil_iff]
        intro entry he
        simp [hc head.1 entry.1 (not_lt.mp hs) hin (sorted.1 entry he)]

theorem iterateFrom_takeWhile {start : K} (ha : ∀ key, inside key = true → start ≤ key)
    (hc : ∀ key later, start ≤ key → inside key = false → key < later → inside later = false) :
    (map.iterateFrom start).takeWhile (fun entry => inside entry.1) = map.within inside :=
  dropWhile_takeWhile_eq_filter ha hc map.entries map.sorted

end OrderedMap
end VelaEdge.Base
