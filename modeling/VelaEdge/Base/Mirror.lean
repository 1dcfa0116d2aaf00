import VelaEdge.Base.Registry

/-! A registry in memory and the table it is written through to. A row has columns that queries
look at, and it may keep its value in another form than memory does. -/
namespace VelaEdge.Base

open List OrderedMap

/-- How values are kept as rows: what is written, what is read back, and the columns. -/
structure RowFormat (V R C : Type) where
  row : V → R
  read : R → V
  columns : R → C
  describe : V → C
  read_row : ∀ value, read (row value) = value
  columns_row : ∀ value, columns (row value) = describe value

structure Row (C V : Type) where
  columns : C
  document : V

def RowFormat.document {V C : Type} (describe : V → C) : RowFormat V (Row C V) C where
  row value := ⟨describe value,value⟩
  read := Row.document
  columns := Row.columns
  describe := describe
  read_row _ := rfl
  columns_row _ := rfl

variable {K V R C : Type} [LinearOrder K] {key : V → K}

/-- Reading the row under a key gives the value in memory, and the columns describe that value. -/
structure Mirrors (format : RowFormat V R C) (table : OrderedMap K R) (registry : Registry key) :
    Prop where
  reads : ∀ name, (table.get name).map format.read = registry.get name
  describes : ∀ name row, table.get name = some row →
    format.columns row = format.describe (format.read row)

def rebuild (format : RowFormat V R C) (table : OrderedMap K R) : Registry key :=
  Registry.empty.insertAll (table.entries.map fun entry => format.read entry.2)

def putRows (format : RowFormat V R C) (key : V → K) (table : OrderedMap K R) (values : List V) :
    OrderedMap K R :=
  values.foldl (fun table value => table.put (key value) (format.row value)) table

namespace Mirrors

variable {format : RowFormat V R C} {table : OrderedMap K R} {reg : Registry key}

theorem empty : Mirrors format .empty (.empty : Registry key) where
  reads _ := rfl
  describes := by simp

section

variable (h : Mirrors format table reg)

include h

theorem put (value : V) :
    Mirrors format (table.put (key value) (format.row value)) (reg.insert value) where
  reads := by
    intro name
    rw [get_put,Registry.get_insert]
    split
    · rw [Option.map_some,format.read_row]
    · exact h.reads name
  describes := by
    intro name row hr
    rw [get_put] at hr
    split at hr
    · cases hr
      rw [format.read_row,format.columns_row]
    · exact h.describes name row hr

theorem putRows (values : List V) :
    Mirrors format (putRows format key table values) (reg.insertAll values) := by
  induction values generalizing table reg with
  | nil => exact h
  | cons value values ih => exact ih (h.put value)

theorem delete (name : K) : Mirrors format (table.delete name) (reg.remove name) where
  reads := by
    intro other
    rw [get_delete,Registry.get_remove]
    split
    · rfl
    · exact h.reads other
  describes := by
    intro other row hr
    rw [get_delete] at hr
    split at hr
    · cases hr
    · exact h.describes other row hr

theorem retain (keep : C → Bool) :
    Mirrors format (table.retain fun _ row => keep (format.columns row))
      (reg.retain fun value => keep (format.describe value)) where
  reads := by
    intro name
    rw [get_retain,Registry.get_retain,← h.reads name]
    cases hr : table.get name with
    | none => rfl
    | some row =>
      rw [Option.map_some,Option.filter_some,Option.filter_some,h.describes name row hr]
      split <;> rfl
  describes := by
    intro name row hr
    rw [get_retain,Option.filter_eq_some_iff] at hr
    exact h.describes name row hr.1

theorem update {change : R → R} {effect : V → V} (hk : ∀ value, key (effect value) = key value)
    (hc : ∀ row, format.columns row = format.describe (format.read row) →
      format.read (change row) = effect (format.read row) ∧
        format.columns (change row) = format.describe (effect (format.read row))) :
    Mirrors format (table.mapValues change) (reg.adjust effect hk) where
  reads := by
    intro name
    rw [get_mapValues,Registry.get_adjust,← h.reads name]
    cases hr : table.get name with
    | none => rfl
    | some row => exact congrArg some (hc row (h.describes name row hr)).1
  describes := by
    intro name row hr
    rw [get_mapValues,Option.map_eq_some_iff] at hr
    obtain ⟨prev,hp,rfl⟩ := hr
    obtain ⟨hre,hco⟩ := hc prev (h.describes name prev hp)
    rw [hre,hco]

theorem get_of_entry (he : entry ∈ table.entries) :
    reg.get entry.1 = some (format.read entry.2) := by
  rw [← h.reads,(get_eq_some_iff table entry.1 entry.2).mpr he,Option.map_some]

theorem mem_keys_filter (test : C → Bool) (name : K) :
    name ∈ (table.entries.filter fun entry => test (format.columns entry.2)).map Prod.fst ↔
      ∃ value, reg.get name = some value ∧ test (format.describe value) = true := by
  simp only [mem_map,mem_filter]
  constructor
  · rintro ⟨entry,⟨he,ht⟩,rfl⟩
    have hr := (get_eq_some_iff table entry.1 entry.2).mpr he
    refine ⟨_,h.get_of_entry he,?_⟩
    rw [← h.describes entry.1 entry.2 hr]
    exact ht
  · rintro ⟨value,hg,ht⟩
    obtain ⟨row,hr,rfl⟩ := Option.map_eq_some_iff.mp ((h.reads name).trans hg)
    refine ⟨(name,row),⟨(get_eq_some_iff _ _ _).mp hr,?_⟩,rfl⟩
    rw [h.describes name row hr]
    exact ht

theorem rebuild_eq : rebuild format table = reg := by
  apply Registry.ext_get
  intro name
  cases hg : reg.get name with
  | none =>
    rw [rebuild,Registry.get_insertAll_of_ne,Registry.get_empty]
    intro value hv hn
    obtain ⟨entry,he,rfl⟩ := mem_map.mp hv
    have hs := h.get_of_entry he
    rw [← Registry.key_of_get hs,hn,hg] at hs
    cases hs
  | some value =>
    obtain ⟨row,hro,hr⟩ := Option.map_eq_some_iff.mp ((h.reads name).trans hg)
    have hm : value ∈ table.entries.map fun entry => format.read entry.2 :=
      mem_map.mpr ⟨(name,row),(get_eq_some_iff _ _ _).mp hro,hr⟩
    rw [rebuild,← Registry.key_of_get hg,Registry.get_insertAll_of_mem hm]
    intro item hi hn
    obtain ⟨entry,he,rfl⟩ := mem_map.mp hi
    have hs := h.get_of_entry he
    rw [← Registry.key_of_get hs,hn,Registry.key_of_get hg,hg] at hs
    exact (Option.some.inj hs).symm

end

end Mirrors

end VelaEdge.Base
