import VelaEdge.Base.OrderedMap

/-! A map that keeps every value under the value's own key. -/
namespace VelaEdge.Base

open List OrderedMap

structure Registry {K V : Type} [LinearOrder K] (key : V → K) where
  map : OrderedMap K V
  keyed : ∀ name value, map.get name = some value → key value = name

namespace Registry

variable {K V : Type} [LinearOrder K] {key : V → K}

def empty : Registry key where
  map := .empty
  keyed := by simp

def get (registry : Registry key) (name : K) : Option V := registry.map.get name

variable (registry : Registry key)

def values : List V := registry.map.entries.map Prod.snd

def insert (value : V) : Registry key where
  map := registry.map.put (key value) value
  keyed := by
    intro name stored h
    rw [get_put] at h
    split at h
    · next hname =>
      cases h
      exact hname.symm
    · exact registry.keyed name stored h

def insertAll (values : List V) : Registry key :=
  values.foldl insert registry

def remove (name : K) : Registry key where
  map := registry.map.delete name
  keyed := by
    intro other stored h
    rw [get_delete] at h
    split at h
    · cases h
    · exact registry.keyed other stored h

def retain (registry : Registry key) (keep : V → Bool) : Registry key where
  map := registry.map.retain fun _ value => keep value
  keyed := by
    intro name stored h
    rw [OrderedMap.get_retain,Option.filter_eq_some_iff] at h
    exact registry.keyed name stored h.1

def adjust (change : V → V) (hkey : ∀ value, key (change value) = key value) : Registry key where
  map := registry.map.mapValues change
  keyed := by
    intro name stored h
    rw [get_mapValues,Option.map_eq_some_iff] at h
    obtain ⟨value,hvalue,rfl⟩ := h
    rw [hkey,registry.keyed name value hvalue]

def select (names : List K) : List V := names.filterMap registry.get

variable {reg other : Registry key} {name : K} {value : V}

theorem key_of_get (h : reg.get name = some value) : key value = name := reg.keyed name value h

@[simp] theorem get_empty (name : K) : (empty : Registry key).get name = none := rfl

@[simp] theorem values_empty : (empty : Registry key).values = [] := rfl

theorem get_insert (reg : Registry key) (name : K) (value : V) :
    (reg.insert value).get name = if name = key value then some value else reg.get name :=
  get_put reg.map (key value) name value

theorem get_remove (reg : Registry key) (name other : K) :
    (reg.remove name).get other = if other = name then none else reg.get other :=
  get_delete reg.map name other

@[simp] theorem get_retain (reg : Registry key) (keep : V → Bool) (name : K) :
    (reg.retain keep).get name = (reg.get name).filter keep :=
  OrderedMap.get_retain reg.map _ name

theorem get_adjust (reg : Registry key) {change : V → V}
    (hk : ∀ value, key (change value) = key value) (name : K) :
    (reg.adjust change hk).get name = (reg.get name).map change :=
  get_mapValues reg.map change name

theorem ext_get (h : ∀ name, reg.get name = other.get name) : reg = other := by
  have hm : reg.map = other.map := OrderedMap.ext_get h
  cases reg
  cases other
  congr

theorem mem_values : value ∈ reg.values ↔ reg.get (key value) = some value := by
  simp only [values,mem_map,Prod.exists,exists_eq_right,get]
  constructor
  · rintro ⟨name,hm⟩
    have hg := (get_eq_some_iff _ _ _).mpr hm
    rw [reg.keyed name value hg]
    exact hg
  · intro h
    exact ⟨key value,(get_eq_some_iff _ _ _).mp h⟩

theorem mem_values_of_get (h : reg.get name = some value) : value ∈ reg.values := by
  rw [mem_values,key_of_get h]
  exact h

theorem eq_of_mem_values (hl : left ∈ reg.values) (hr : right ∈ reg.values)
    (h : key left = key right) : left = right := by
  rw [mem_values] at hl hr
  rw [h,hr] at hl
  exact (Option.some.inj hl).symm

@[simp] theorem find_key [DecidableEq K] (reg : Registry key) (name : K) :
    (reg.values.find? fun value => key value = name) = reg.get name := by
  cases hf : reg.values.find? fun value => key value = name with
  | some value =>
    have hn : key value = name := by simpa using List.find?_some hf
    rw [← hn,mem_values.mp (mem_of_find?_eq_some hf)]
  | none =>
    cases hg : reg.get name with
    | none => rfl
    | some value =>
      have ho := List.find?_eq_none.mp hf value (mem_values_of_get hg)
      exact absurd (key_of_get hg) (by simpa using ho)

variable {keep : V → Bool}

theorem retain_eq_self (h : ∀ value ∈ reg.values, keep value = true) : reg.retain keep = reg := by
  apply ext_get
  intro name
  rw [get_retain]
  cases hg : reg.get name with
  | none => rfl
  | some value => rw [Option.filter_some,if_pos (h value (mem_values_of_get hg))]

theorem retain_insert (hv : keep value = false)
    (ho : ∀ old, reg.get (key value) = some old → keep old = false) :
    (reg.insert value).retain keep = reg.retain keep := by
  apply ext_get
  intro name
  rw [get_retain,get_retain,get_insert]
  split
  · next hn =>
    rw [hn,Option.filter_some,hv]
    cases hg : reg.get (key value) with
    | none => rfl
    | some old =>
      rw [Option.filter_some,ho old hg]
      rfl
  · rfl

theorem mem_map_key_filter : name ∈ (reg.values.filter test).map key ↔
      ∃ value, reg.get name = some value ∧ test value = true := by
  simp only [mem_map,mem_filter]
  constructor
  · rintro ⟨value,⟨hm,ht⟩,rfl⟩
    exact ⟨value,mem_values.mp hm,ht⟩
  · rintro ⟨value,hg,ht⟩
    exact ⟨value,⟨mem_values_of_get hg,ht⟩,key_of_get hg⟩

theorem insert_of_mem (h : value ∈ reg.values) : reg.insert value = reg := by
  apply ext_get
  intro name
  rw [get_insert]
  split
  · next hn => rw [hn,mem_values.mp h]
  · rfl

@[simp] theorem insert_eq_self_iff : reg.insert value = reg ↔ reg.get (key value) = some value := by
  constructor
  · intro h
    have hg := reg.get_insert (key value) value
    rw [h,if_pos rfl] at hg
    exact hg
  · intro h
    exact insert_of_mem (mem_values.mpr h)

theorem values_keys_nodup (reg : Registry key) : (reg.values.map key).Nodup := by
  rw [values,map_map,nodup_iff_pairwise_ne,pairwise_map]
  refine reg.map.sorted.imp_of_mem ?_
  intro left right hl hr hlt
  rw [← get_eq_some_iff] at hl hr
  simp only [Function.comp_apply,reg.keyed _ _ hl,reg.keyed _ _ hr]
  exact hlt.ne

theorem mem_values_insert : item ∈ (reg.insert value).values ↔
    item = value ∨ key item ≠ key value ∧ item ∈ reg.values := by
  rw [mem_values,mem_values,get_insert]
  split
  · next hk =>
    simp only [hk,ne_eq,not_true,false_and,or_false,Option.some.injEq]
    exact eq_comm
  · next hk =>
    constructor
    · intro hg
      exact .inr ⟨hk,hg⟩
    · rintro (rfl | ⟨-,hg⟩)
      · exact absurd rfl hk
      · exact hg

theorem get_insertAll_of_ne (values : List V) (h : ∀ value ∈ values, key value ≠ name) :
    (reg.insertAll values).get name = reg.get name := by
  induction values generalizing reg with
  | nil => rfl
  | cons value values ih =>
    rw [insertAll,foldl_cons,← insertAll,
      ih fun later hl => h later (mem_cons_of_mem _ hl),get_insert,
      if_neg (Ne.symm (h value mem_cons_self))]

variable {values : List V}

theorem get_insertAll_of_mem (hm : value ∈ values)
    (hu : ∀ item ∈ values, key item = key value → item = value) :
    (reg.insertAll values).get (key value) = some value := by
  induction values generalizing reg with
  | nil => cases hm
  | cons first values ih =>
    rw [insertAll,foldl_cons,← insertAll]
    by_cases hl : value ∈ values
    · exact ih hl fun item hi => hu item (mem_cons_of_mem _ hi)
    · have hf : value = first := (mem_cons.mp hm).resolve_right hl
      subst hf
      rw [get_insertAll_of_ne,get_insert,if_pos rfl]
      intro item hi hk
      rw [hu item (mem_cons_of_mem _ hi) hk] at hi
      exact hl hi

@[simp] theorem get_insertAll_last (reg : Registry key) (values : List V) (value : V) :
    (reg.insertAll (values ++ [value])).get (key value) = some value := by
  rw [insertAll,foldl_append,foldl_cons,foldl_nil,get_insert,if_pos rfl]

/-- What is there afterwards was inserted, or was there and nothing was inserted under its key. -/
theorem mem_values_insertAll (h : value ∈ (reg.insertAll values).values) :
    value ∈ values ∨ value ∈ reg.values ∧ ∀ item ∈ values, key item ≠ key value := by
  rw [mem_values] at h
  induction values generalizing reg with
  | nil => exact .inr ⟨mem_values.mpr h,by simp⟩
  | cons first values ih =>
    rw [insertAll,foldl_cons,← insertAll] at h
    rcases ih h with hl | ⟨ht,ho⟩
    · exact .inl (mem_cons_of_mem _ hl)
    · rw [mem_values,get_insert] at ht
      split at ht
      · cases ht
        exact .inl mem_cons_self
      · next hne =>
        refine .inr ⟨mem_values.mpr ht,?_⟩
        intro item hi
        rcases mem_cons.mp hi with rfl | hi
        · exact Ne.symm hne
        · exact ho item hi

theorem isSome_get_insertAll
    (h : (reg.get name).isSome = true ∨ ∃ value ∈ values, key value = name) :
    ((reg.insertAll values).get name).isSome = true := by
  induction values generalizing reg with
  | nil => simpa [insertAll] using h
  | cons first values ih =>
    rw [insertAll,foldl_cons,← insertAll]
    apply ih
    rw [get_insert]
    rcases h with hb | ⟨value,hv,hk⟩
    · left
      split
      · rfl
      · exact hb
    · rcases mem_cons.mp hv with rfl | hv
      · left
        rw [if_pos hk.symm]
        rfl
      · exact .inr ⟨value,hv,hk⟩

theorem select_eq_map {change : V → V}
    (h : ∀ name ∈ names, other.get name = (reg.get name).map change) :
    other.select names = (reg.select names).map change := by
  rw [select,select,map_filterMap]
  exact filterMap_congr h

theorem select_insert_present {prev : V} (h : reg.get (key value) = some prev) :
    (reg.insert value).select names =
      (reg.select names).map fun old => if key old = key value then value else old := by
  apply select_eq_map
  intro name _
  rw [get_insert]
  by_cases hn : name = key value
  · rw [if_pos hn,hn,h,Option.map_some,if_pos (key_of_get h)]
  · rw [if_neg hn]
    cases hg : reg.get name with
    | none => rfl
    | some old => rw [Option.map_some,key_of_get hg,if_neg hn]

theorem select_keys_sublist (reg : Registry key) (names : List K) :
    ((reg.select names).map key).Sublist names := by
  induction names with
  | nil => exact .slnil
  | cons name names ih =>
    rw [select,filterMap_cons]
    split
    · exact ih.cons _
    · next value hv =>
      rw [map_cons,key_of_get hv]
      exact ih.cons_cons name

@[simp] theorem mem_select : value ∈ reg.select names ↔ key value ∈ names ∧ value ∈ reg.values := by
  rw [select,mem_filterMap,mem_values]
  constructor
  · rintro ⟨name,hn,hg⟩
    rw [key_of_get hg]
    exact ⟨hn,hg⟩
  · rintro ⟨hn,hg⟩
    exact ⟨_,hn,hg⟩

end Registry

end VelaEdge.Base
