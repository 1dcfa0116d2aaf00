import VelaEdge.Base.OrderedMap

/-! A loop that takes items off a stream until it holds a value for every key it wants. An item may
bring values, close the stream, break it off, or mean nothing to the loop. -/
namespace VelaEdge.Base.Gathering

open List

variable {α κ ν ε : Type} [LinearOrder κ]

inductive Effect (κ ν ε : Type) where
  | bring (values : List (κ × ν))
  | close
  | abort (reason : ε)
  | pass

/-- The items after which the loop goes on, unless it has everything. -/
def Effect.continues : Effect κ ν ε → Bool
  | .bring _ | .pass => true
  | .close | .abort _ => false

def Effect.values : Effect κ ν ε → List (κ × ν)
  | .bring values => values
  | _ => []

inductive Ending (κ ν ε : Type) [LinearOrder κ] where
  | done (held : OrderedMap κ ν) (taken : Nat)
  | incomplete (missing : List κ)
  | aborted (reason : ε)
  | starved

variable (wanted : List κ) (held : OrderedMap κ ν)

/-- Only wanted values are kept, and of two values under one key the later. -/
def keep (values : List (κ × ν)) : OrderedMap κ ν :=
  values.foldl (fun held entry => if entry.1 ∈ wanted then held.put entry.1 entry.2 else held) held

def complete : Bool :=
  wanted.all fun key => (held.get key).isSome

def missing : List κ :=
  wanted.filter fun key => (held.get key).isNone

def gather (effect : α → Effect κ ν ε) (wanted : List κ) :
    OrderedMap κ ν → Nat → List α → Ending κ ν ε
  | _, _, [] => .starved
  | held, taken, item :: items =>
    match effect item with
    | .bring values =>
      if complete wanted (keep wanted held values) then
        .done (keep wanted held values) (taken + 1)
      else gather effect wanted (keep wanted held values) (taken + 1) items
    | .close =>
      if complete wanted held then .done held (taken + 1)
      else .incomplete (missing wanted held)
    | .abort reason => .aborted reason
    | .pass => gather effect wanted held (taken + 1) items

/-! ## What is held -/

variable {wanted : List κ} {held : OrderedMap κ ν} {values : List (κ × ν)} {key : κ}

@[simp] theorem keep_nil : keep wanted held ([] : List (κ × ν)) = held := rfl

variable (first second : List (κ × ν))

@[simp] theorem keep_append :
    keep wanted held (first ++ second) = keep wanted (keep wanted held first) second :=
  foldl_append

def newest (key : κ) (values : List (κ × ν)) : Option ν :=
  (values.reverse.find? fun entry => entry.1 = key).map Prod.snd

@[simp] theorem newest_append :
    newest key (first ++ second) = (newest key second).or (newest key first) := by
  unfold newest
  rw [reverse_append,List.find?_append]
  cases second.reverse.find? fun entry => entry.1 = key <;> rfl

@[simp] theorem newest_isSome :
    (newest key values).isSome = true ↔ ∃ value, (key,value) ∈ values := by
  unfold newest
  rw [Option.isSome_map,List.find?_isSome]
  constructor
  · rintro ⟨⟨other,value⟩,hm,hk⟩
    rw [decide_eq_true_eq] at hk
    subst hk
    exact ⟨value,mem_reverse.mp hm⟩
  · rintro ⟨value,hm⟩
    exact ⟨(key,value),mem_reverse.mpr hm,by simp⟩

theorem mem_of_newest (h : newest key values = some value) : (key,value) ∈ values := by
  unfold newest at h
  obtain ⟨⟨other,found⟩,hf,hv⟩ := Option.map_eq_some_iff.mp h
  have hk := List.find?_some hf
  rw [decide_eq_true_eq] at hk
  subst hk hv
  exact mem_reverse.mp (mem_of_find?_eq_some hf)

theorem get_keep (hk : key ∈ wanted) :
    (keep wanted held values).get key = (newest key values).or (held.get key) := by
  induction values generalizing held with
  | nil => rfl
  | cons entry values ih =>
    rw [← singleton_append,keep_append,newest_append,ih]
    cases newest key values with
    | some value => rfl
    | none =>
      simp only [keep,foldl_cons,foldl_nil,Option.none_or]
      by_cases hs : entry.1 = key
      · subst hs
        simp [hk,newest]
      · have ho : newest key [entry] = none := by simp [newest,hs]
        rw [ho,Option.none_or]
        split
        · exact held.get_put_of_ne _ (Ne.symm hs)
        · rfl

theorem get_keep_empty (hk : key ∈ wanted) :
    (keep wanted OrderedMap.empty values).get key = newest key values := by
  rw [get_keep hk,OrderedMap.get_empty,Option.or_none]

theorem complete_keep_empty : complete wanted (keep wanted OrderedMap.empty values) = true ↔
      ∀ key ∈ wanted, ∃ value, (key,value) ∈ values := by
  unfold complete
  rw [all_eq_true]
  apply forall₂_congr
  intro key hk
  rw [get_keep_empty hk]
  exact newest_isSome

/-! ## When the loop succeeds -/

variable {effect : α → Effect κ ν ε} {items : List α} {taken : Nat}

def brought (effect : α → Effect κ ν ε) (items : List α) : List (κ × ν) :=
  items.flatMap fun item => (effect item).values

omit [LinearOrder κ] in
@[simp] theorem brought_append (first second : List α) :
    brought effect (first ++ second) = brought effect first ++ brought effect second :=
  flatMap_append

omit [LinearOrder κ] in
@[simp] theorem brought_cons (item : α) (items : List α) :
    brought effect (item :: items) = (effect item).values ++ brought effect items :=
  flatMap_cons

omit [LinearOrder κ] in
@[simp] theorem brought_singleton (item : α) : brought effect [item] = (effect item).values :=
  flatMap_singleton ..

omit [LinearOrder κ] in
@[simp] theorem mem_brought :
    entry ∈ brought effect items ↔ ∃ item ∈ items, entry ∈ (effect item).values :=
  mem_flatMap

theorem gather_cons (hc : (effect item).continues = true)
    (ho : complete wanted (keep wanted held (effect item).values) = false) :
    gather effect wanted held taken (item :: items) =
      gather effect wanted (keep wanted held (effect item).values) (taken + 1) items := by
  rw [gather]
  cases he : effect item with
  | bring values =>
    rw [he] at ho
    simp only [Effect.values] at ho ⊢
    rw [if_neg (by simp [ho])]
  | pass => rfl
  | close => simp [he,Effect.continues] at hc
  | abort why => simp [he,Effect.continues] at hc

theorem complete_keep (h : complete wanted held = true) :
    complete wanted (keep wanted held values) = true := by
  unfold complete at h ⊢
  rw [all_eq_true] at h ⊢
  intro key hk
  rw [get_keep hk]
  cases newest key values with
  | none => exact h key hk
  | some value => rfl

theorem gather_append (he : ∀ item ∈ early, (effect item).continues = true)
    (ho : complete wanted (keep wanted held (brought effect early)) = false) :
    gather effect wanted held taken (early ++ items) =
      gather effect wanted (keep wanted held (brought effect early)) (taken + early.length)
        items := by
  induction early generalizing held taken with
  | nil => rfl
  | cons item early ih =>
    rw [brought_cons,keep_append] at ho ⊢
    have hh : complete wanted (keep wanted held (effect item).values) = false := by
      by_contra hcomplete
      rw [Bool.not_eq_false] at hcomplete
      rw [complete_keep hcomplete] at ho
      cases ho
    rw [cons_append,gather_cons (he item mem_cons_self) hh,
      ih (fun other hot => he other (mem_cons_of_mem _ hot)) ho,
      length_cons,Nat.add_assoc,Nat.add_comm 1]

/-- The part of a stream that a successful loop takes: up to the first item with which everything
is there. -/
structure Gathered (effect : α → Effect κ ν ε) (wanted : List κ) (held : OrderedMap κ ν)
    (early : List α) (last : α) : Prop where
  early_continues : ∀ item ∈ early, (effect item).continues = true
  last_continues : (effect last).continues = true
  early_open : complete wanted (keep wanted held (brought effect early)) = false
  last_completes : complete wanted (keep wanted held (brought effect (early ++ [last]))) = true

theorem Gathered.gather (h : Gathered effect wanted held early last) :
    gather effect wanted held taken (early ++ last :: items) =
      .done (keep wanted held (brought effect (early ++ [last]))) (taken + early.length + 1) := by
  have hl := h.last_completes
  have ho := h.early_open
  rw [brought_append,brought_singleton,keep_append] at hl ⊢
  rw [gather_append h.early_continues ho,Gathering.gather]
  cases he : effect last with
  | bring values =>
    rw [he] at hl
    simp only [Effect.values] at hl ⊢
    rw [if_pos hl]
  | pass =>
    rw [he] at hl
    simp only [Effect.values,keep_nil] at hl
    rw [ho] at hl
    cases hl
  | close =>
    have hc := h.last_continues
    simp [he,Effect.continues] at hc
  | abort why =>
    have hc := h.last_continues
    simp [he,Effect.continues] at hc

theorem Gathered.cons (hc : (effect item).continues = true)
    (h : Gathered effect wanted (keep wanted held (effect item).values) early last) :
    Gathered effect wanted held (item :: early) last where
  early_continues := by
    intro other ho
    cases ho with
    | head => exact hc
    | tail _ ho => exact h.early_continues other ho
  last_continues := h.last_continues
  early_open := by
    rw [brought_cons,keep_append]
    exact h.early_open
  last_completes := by
    rw [cons_append,brought_cons,keep_append]
    exact h.last_completes

variable (hl : complete wanted held = false)
include hl

/-- A loop that lacks something succeeds only by taking the items up to the first with which
everything is there. -/
theorem gathered_of_done {count : Nat}
    (h : gather effect wanted held taken items = .done final count) :
    ∃ early last rest, items = early ++ last :: rest ∧ Gathered effect wanted held early last := by
  induction items generalizing held taken with
  | nil => cases h
  | cons item items ih =>
    cases he : effect item with
    | bring values =>
      have hc : (effect item).continues = true := by rw [he]; rfl
      have hv : (effect item).values = values := by rw [he]; rfl
      simp only [gather,he] at h
      cases hh : complete wanted (keep wanted held values) with
      | true =>
        refine ⟨[],item,items,rfl,by simp,hc,hl,?_⟩
        rw [nil_append,brought_singleton,hv]
        exact hh
      | false =>
        rw [if_neg (by simp [hh])] at h
        obtain ⟨early,last,rest,hi,hg⟩ := ih hh h
        rw [← hv] at hg
        exact ⟨item :: early,last,rest,by rw [hi]; rfl,hg.cons hc⟩
    | pass =>
      have hc : (effect item).continues = true := by rw [he]; rfl
      have hv : (effect item).values = [] := by rw [he]; rfl
      simp only [gather,he] at h
      obtain ⟨early,last,rest,hi,hg⟩ := ih hl h
      refine ⟨item :: early,last,rest,by rw [hi]; rfl,Gathered.cons hc ?_⟩
      rw [hv]
      exact hg
    | close =>
      simp only [gather,he] at h
      rw [if_neg (by simp [hl])] at h
      cases h
    | abort why =>
      simp only [gather,he] at h
      cases h

theorem exists_gathered (hco : ∀ item ∈ items, (effect item).continues = true)
    (hc : complete wanted (keep wanted held (brought effect items)) = true) :
    ∃ early last rest, items = early ++ last :: rest ∧ Gathered effect wanted held early last := by
  induction items generalizing held with
  | nil =>
    rw [brought,flatMap_nil,keep_nil,hl] at hc
    cases hc
  | cons item items ih =>
    have hi := hco item mem_cons_self
    cases hh : complete wanted (keep wanted held (effect item).values) with
    | true =>
      refine ⟨[],item,items,rfl,by simp,hi,hl,?_⟩
      rw [nil_append,brought_singleton]
      exact hh
    | false =>
      rw [brought_cons,keep_append] at hc
      obtain ⟨early,last,rest,hit,hg⟩ := ih hh (fun other ho => hco other (mem_cons_of_mem _ ho)) hc
      exact ⟨item :: early,last,rest,by rw [hit]; rfl,hg.cons hi⟩

end VelaEdge.Base.Gathering
