import Mathlib.Init

/-! Fallible computations: how to take a successful one apart. -/
namespace VelaEdge.Base

open List

def context {ε α : Type} (value : Option α) (message : ε) : Except ε α := match value with
  | some found => .ok found
  | none => .error message

def bailIf {ε : Type} (condition : Prop) [Decidable condition] (message : ε) : Except ε Unit :=
  if condition then .error message else .ok ()

section Outcome

variable {ε α β : Type}

@[simp] theorem context_some (found : α) (msg : ε) : context (some found) msg = .ok found := rfl

@[simp] theorem context_none (msg : ε) : context (none : Option α) msg = .error msg := rfl

@[simp] theorem context_eq_ok {msg : ε} : context value msg = .ok found ↔ value = some found := by
  cases value <;> simp

@[simp] theorem ok_bind (found : α) (next : α → Except ε β) :
    (Except.ok found >>= next) = next found := rfl

@[simp] theorem error_bind (why : ε) (next : α → Except ε β) :
    ((Except.error why : Except ε α) >>= next) = .error why := rfl

theorem bind_eq_ok {next : α → Except ε β} :
    (first >>= next) = .ok res ↔ ∃ found, first = .ok found ∧ next found = .ok res := by
  cases first <;> simp

@[simp] theorem bailIf_eq_ok [Decidable condition] {message : ε} :
    bailIf condition message = .ok u ↔ ¬ condition := by
  unfold bailIf
  split <;> simp [*]

variable {items : List α}

@[simp] theorem forM_eq_ok {check : α → Except ε Unit} :
    items.forM check = .ok () ↔ ∀ item ∈ items, check item = .ok () := by
  induction items with
  | nil => simp [List.forM,pure,Except.pure]
  | cons item items ih =>
    rw [List.forM,bind_eq_ok,forall_mem_cons,← ih]
    exact ⟨fun ⟨_,hit,hi⟩ => ⟨hit,hi⟩,fun ⟨hit,hi⟩ => ⟨_,hit,hi⟩⟩

theorem map_bind_except (first : Except ε α) (next : α → Except ε β) (view : β → γ) :
    (first >>= next).map view = first >>= fun found => (next found).map view := by
  cases first <;> rfl

variable {action : α → Except ε β}

theorem exists_mapM_ok (h : ∀ item ∈ items, ∃ found, action item = .ok found) :
    ∃ founds, items.mapM action = .ok founds := by
  induction items with
  | nil => exact ⟨[],rfl⟩
  | cons item items ih =>
    obtain ⟨found,hfo⟩ := h item mem_cons_self
    obtain ⟨founds,hf⟩ := ih fun later hl => h later (mem_cons_of_mem _ hl)
    refine ⟨found :: founds,?_⟩
    rw [mapM_cons,hfo,ok_bind,hf,ok_bind]
    rfl

variable {results : List β}

theorem ok_of_mapM_eq_ok (h : items.mapM action = .ok results) {item : α} (hi : item ∈ items) :
    ∃ res, action item = .ok res := by
  induction items generalizing results with
  | nil => cases hi
  | cons first items ih =>
    rw [mapM_cons,bind_eq_ok] at h
    obtain ⟨res,hr,h⟩ := h
    rw [bind_eq_ok] at h
    obtain ⟨rest,hre,-⟩ := h
    cases hi with
    | head => exact ⟨res,hr⟩
    | tail _ hi => exact ih hre hi

theorem mapM_eq_map {res : α → β} (h : ∀ item ∈ items, action item = .ok (res item)) :
    items.mapM action = .ok (items.map res) := by
  induction items with
  | nil => rfl
  | cons item items ih =>
    rw [mapM_cons,h item mem_cons_self,ok_bind,
      ih fun later hl => h later (mem_cons_of_mem _ hl),ok_bind]
    rfl

theorem map_of_mapM_eq_ok {γ : Type} {view : β → γ} {want : α → γ}
    (ha : ∀ item res, action item = .ok res → view res = want item)
    (h : items.mapM action = .ok results) :
    results.map view = items.map want := by
  induction items generalizing results with
  | nil =>
    cases h
    rfl
  | cons item items ih =>
    rw [mapM_cons,bind_eq_ok] at h
    obtain ⟨res,hr,h⟩ := h
    rw [bind_eq_ok] at h
    obtain ⟨rest,hre,h⟩ := h
    cases h
    rw [map_cons,map_cons,ha item res hr,ih hre]

variable {out : Except ε α}

@[simp] theorem mapError_eq_ok {change : ε → ε'} :
    out.mapError change = .ok found ↔ out = .ok found := by
  cases out with
  | error why =>
    constructor
    · intro h
      cases h
    · intro h
      cases h
  | ok value =>
    constructor
    · intro h
      rw [Except.ok.inj h]
    · intro h
      rw [Except.ok.inj h]
      rfl

@[simp] theorem toOption_eq_some : out.toOption = some found ↔ out = .ok found := by
  cases out with
  | error why =>
    constructor
    · intro h
      cases h
    · intro h
      cases h
  | ok value =>
    constructor
    · intro h
      rw [Option.some.inj h]
    · intro h
      rw [Except.ok.inj h]
      rfl

variable {check : List β → List α → Except ε Unit}

/-! Checks that go through a list with the ids seen so far. -/

theorem nodup_of_seen {id : α → β} (hc : ∀ {seen item items}, check seen (item :: items) = .ok () →
      id item ∉ seen ∧ check (id item :: seen) items = .ok ()) (h : check seen items = .ok ()) :
    (items.map id).Nodup ∧ ∀ item ∈ items, id item ∉ seen := by
  induction items generalizing seen with
  | nil => simp
  | cons item items ih =>
    obtain ⟨hs,h⟩ := hc h
    obtain ⟨hn,hse⟩ := ih h
    refine ⟨nodup_cons.mpr ⟨fun hm => ?_,hn⟩,fun other ho => ?_⟩
    · obtain ⟨other,ho,he⟩ := mem_map.mp hm
      exact hse other ho (by simp [he])
    · rcases mem_cons.mp ho with rfl | ho
      · exact hs
      · exact fun hm => hse other ho (mem_cons_of_mem _ hm)

theorem forall_of_seen {P : α → Prop}
    (hc : ∀ {seen item items}, check seen (item :: items) = .ok () →
      P item ∧ ∃ later, check later items = .ok ()) (h : check seen items = .ok ()) :
    ∀ item ∈ items, P item := by
  induction items generalizing seen with
  | nil => simp
  | cons item items ih =>
    obtain ⟨hp,later,h⟩ := hc h
    exact forall_mem_cons.mpr ⟨hp,ih h⟩

end Outcome
end VelaEdge.Base
