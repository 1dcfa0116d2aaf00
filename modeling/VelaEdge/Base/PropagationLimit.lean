import VelaEdge.Base.Propagation

/-! How much a work queue makes, with and without a limit. -/
namespace VelaEdge.Base.Propagation

open List

variable {σ α γ κ ε : Type} [DecidableEq κ]
variable {network : Network σ α γ κ ε} {policy : Policy}
variable {work : Work σ α γ} {item : α} {consumer : γ} {consumers : List γ}

def Policy.unguarded (policy : Policy) : Policy := { policy with limit := none }

theorem Policy.not_allows_of_le {count : Nat} (h : policy.allows count = false)
    (hle : count ≤ more) :
    policy.allows more = false := by
  by_contra hallows
  rw [Bool.not_eq_false] at hallows
  rw [Policy.allows_of_le hallows hle] at h
  cases h

@[simp] theorem ready_unguarded : network.ready policy.unguarded work item consumer =
    network.ready policy work item consumer := rfl

omit [DecidableEq κ] in
theorem take_unguarded {after : Work σ α γ} {stop : Option (Stop ε)}
    (h : network.take policy work item consumer = (after,stop)) (hs : stop ≠ some .exceeded) :
    network.take policy.unguarded work item consumer = (after,stop) := by
  unfold Network.take at h ⊢
  dsimp only at h ⊢
  split at h
  · exact h
  · next items hi =>
    split at h
    · exact h
    · cases h
      exact absurd rfl hs

omit [DecidableEq κ] in
theorem take_exceeded {after : Work σ α γ}
    (h : network.take policy work item consumer = (after,some .exceeded)) :
    ∃ further, network.take policy.unguarded work item consumer = (further,none) ∧
      policy.allows further.made.length = false := by
  unfold Network.take at h ⊢
  dsimp only at h ⊢
  split at h
  · cases h
  · next items hi =>
    split at h
    · cases h
    · next ho =>
      exact ⟨_,rfl,by simpa using ho⟩

theorem visit_unguarded {after : Work σ α γ} {stop : Option (Stop ε)}
    (h : network.visit policy item consumers work = (after,stop)) (hs : stop ≠ some .exceeded) :
    network.visit policy.unguarded item consumers work = (after,stop) := by
  induction consumers, work using visit_induction network policy item with
  | nil => exact h
  | skip hr ih =>
    rw [visit_skip hr] at h
    rw [visit_skip (ready_unguarded.trans hr)]
    exact ih h
  | take hr ht ih =>
    rw [visit_take hr ht] at h
    rw [visit_take (ready_unguarded.trans hr) (take_unguarded ht (by simp))]
    exact ih h
  | stop hr ht =>
    rw [visit_stop hr ht] at h
    cases h
    exact visit_stop (ready_unguarded.trans hr) (take_unguarded ht hs)

theorem visit_exceeded {after : Work σ α γ} (hs : consumers ⊆ network.consumers)
    (h : network.visit policy item consumers work = (after,some .exceeded)) :
    policy.allows (network.visit policy.unguarded item consumers work).1.made.length = false := by
  induction consumers, work using visit_induction network policy item with
  | nil => cases h
  | skip hr ih =>
    rw [visit_skip hr] at h
    rw [visit_skip (ready_unguarded.trans hr)]
    exact ih (cons_subset.mp hs).2 h
  | take hr ht ih =>
    rw [visit_take hr ht] at h
    rw [visit_take (ready_unguarded.trans hr) (take_unguarded ht (by simp))]
    exact ih (cons_subset.mp hs).2 h
  | @stop work consumer consumers _ _ hr ht =>
    rw [visit_stop hr ht] at h
    cases h
    rcases take_exceeded ht with ⟨further,hf,ho⟩
    rw [visit_take (ready_unguarded.trans hr) hf]
    have hm : further.made <+: (network.visit policy.unguarded item consumers further).1.made :=
      (keeps_made network policy.unguarded further.made).visit trivial (cons_subset.mp hs).2
        prefix_rfl
    exact Policy.not_allows_of_le ho hm.length_le

variable (fuel : Nat)

theorem drain_unguarded (h : (network.drain policy fuel work).2 ≠ .stopped .exceeded) :
    network.drain policy.unguarded fuel work = network.drain policy fuel work := by
  induction fuel, work using drain_induction network policy with
  | empty hq => rw [drain_nil _ hq,drain_nil _ hq]
  | spent hq => rw [drain_zero hq,drain_zero hq]
  | stop hq hv =>
    rw [drain_stop hq hv] at h ⊢
    apply drain_stop hq (visit_unguarded hv _)
    rintro ⟨⟩
    exact h rfl
  | next hq hv ih =>
    rw [drain_next hq hv] at h ⊢
    rw [drain_next hq (visit_unguarded hv (by simp))]
    exact ih h

theorem drain_exceeded (h : (network.drain policy fuel work).2 = .stopped .exceeded) :
    policy.allows (network.drain policy.unguarded fuel work).1.made.length = false := by
  induction fuel, work using drain_induction network policy with
  | empty hq =>
    rw [drain_nil _ hq] at h
    cases h
  | spent hq =>
    rw [drain_zero hq] at h
    cases h
  | @stop fuel work item rest _ _ hq hv =>
    rw [drain_stop hq hv] at h
    cases h
    have ho := visit_exceeded (List.Subset.refl _) hv
    cases hn : network.visit policy.unguarded item network.consumers
        { work with queue := rest } with
    | mk next halt =>
      rw [hn] at ho
      cases halt with
      | none =>
        rw [drain_next hq hn]
        have hm : next.made <+: (network.drain policy.unguarded fuel next).1.made :=
          (keeps_made network policy.unguarded next.made).drain fuel prefix_rfl
        exact Policy.not_allows_of_le ho hm.length_le
      | some halt => rwa [drain_stop hq hn]
  | next hq hv ih =>
    rw [drain_next hq hv] at h
    rw [drain_next hq (visit_unguarded hv (by simp))]
    exact ih h

theorem drain_allows (h : policy.allows work.made.length = true) :
    policy.allows (network.drain policy fuel work).1.made.length = true := by
  have hk : Keeps network policy (fun work => policy.allows work.made.length = true)
      (fun _ => True) := by
    constructor
    · intro work item rest hw _
      exact ⟨hw,trivial⟩
    · intro work item consumer _ hw _ _
      unfold Network.take
      dsimp only
      split
      · exact hw
      · split
        · next ha =>
          rw [← length_append] at ha
          exact ha
        · exact hw
  exact hk.drain fuel h

theorem drain_exceeded_iff (h : policy.allows work.made.length = true) :
    (network.drain policy fuel work).2 = .stopped .exceeded ↔
      policy.allows (network.drain policy.unguarded fuel work).1.made.length = false := by
  constructor
  · exact drain_exceeded fuel
  · intro ho
    by_contra hnot
    rw [drain_unguarded fuel hnot,drain_allows fuel h] at ho
    cases ho

/-! ## Costs -/

section Costs

variable {ι : Type}

def total (cost : ι → Nat) (labels : List ι) : Nat :=
  labels.foldr (fun label sum => cost label + sum) 0

variable (cost : ι → Nat)

@[simp] theorem total_append (first second : List ι) :
    total cost (first ++ second) = total cost first + total cost second := by
  induction first with
  | nil => simp [total]
  | cons label first ih =>
    simp only [total,cons_append,foldr_cons] at ih ⊢
    omega

theorem total_perm {first second : List ι} (h : first.Perm second) :
    total cost first = total cost second := by
  induction h with
  | nil => rfl
  | cons label _ ih =>
    simp only [total,foldr_cons] at ih ⊢
    omega
  | swap first second rest =>
    simp only [total,foldr_cons]
    omega
  | trans _ _ ihfirst ihsecond => exact ihfirst.trans ihsecond

theorem total_le_of_sublist {labels : List ι} (h : labels.Sublist space) :
    total cost labels ≤ total cost space := by
  induction h with
  | slnil => exact Nat.le_refl _
  | cons label _ ih =>
    simp only [total,foldr_cons] at ih ⊢
    omega
  | cons_cons label _ ih =>
    simp only [total,foldr_cons] at ih ⊢
    omega

theorem total_le_of_nodup {labels : List ι} (hn : labels.Nodup) (hsu : labels ⊆ space) :
    total cost labels ≤ total cost space := by
  rcases hn.subperm hsu with ⟨chosen,hp,hs⟩
  rw [← total_perm cost hp]
  exact total_le_of_sublist cost hs

theorem total_flatMap_const (items : List β) (labels : β → List ι)
    (h : ∀ item ∈ items, total cost (labels item) = each) :
    total cost (items.flatMap labels) = items.length * each := by
  induction items with
  | nil => simp [total]
  | cons item items ih =>
    rw [forall_mem_cons] at h
    rw [flatMap_cons,total_append,h.1,ih h.2,length_cons,Nat.succ_mul]
    exact Nat.add_comm _ _

variable (network) in
/-- A finer description of who takes what than the keys give, with what it may cost at most. -/
structure Priced (good : α → Prop) (label : γ → α → ι) (cost : ι → Nat) (space : List ι) :
    Prop where
  key : ∀ {consumer other item another}, label consumer item = label other another →
    network.key consumer item = network.key other another
  known : ∀ consumer ∈ network.consumers, ∀ item, good item →
    network.takes consumer item = true → label consumer item ∈ space
  made : ∀ consumer ∈ network.consumers, ∀ state item items, good item →
    (network.react consumer state item).2 = .ok items →
    items.length ≤ cost (label consumer item) ∧ ∀ made ∈ items, good made

def labels (label : γ → α → ι) (log : List (γ × α)) : List ι :=
  log.map fun entry => label entry.1 entry.2

/-- Nothing has been taken twice, and what has been made is paid for. -/
structure Paid (good : α → Prop) (label : γ → α → ι) (cost : ι → Nat) (space : List ι)
    (work : Work σ α γ) : Prop where
  once : (labels label work.log).Nodup
  known : labels label work.log ⊆ space
  queue : ∀ item ∈ work.queue, good item
  made : work.made.length ≤ total cost (labels label work.log)

variable {good : α → Prop} {label : γ → α → ι} {cost : ι → Nat} {space : List ι}

variable (h : Priced network good label cost space)
include h

theorem Priced.keeps (hon : policy.once = true) :
    Keeps network policy (Paid good label cost space) good := by
  constructor
  · intro work item rest hp hq
    have hg := hp.queue
    rw [hq,forall_mem_cons] at hg
    exact ⟨⟨hp.once,hp.known,hg.2,hp.made⟩,hg.1⟩
  · intro work item consumer hc hp hg hr
    simp only [Network.ready,hon,Bool.true_and,Bool.and_eq_true,Bool.not_eq_true',
      decide_eq_false_iff_not] at hr
    have hn : label consumer item ∉ labels label work.log := by
      intro hol
      rcases mem_map.mp hol with ⟨entry,he,hs⟩
      exact hr.2 (mem_map.mpr ⟨entry,he,h.key hs⟩)
    have hoa : (labels label ((consumer,item) :: work.log)).Nodup := nodup_cons.mpr ⟨hn,hp.once⟩
    have hk : labels label ((consumer,item) :: work.log) ⊆ space :=
      cons_subset.mpr ⟨h.known consumer hc item hg hr.1,hp.known⟩
    have hm := hp.made
    have hto : total cost (labels label ((consumer,item) :: work.log)) =
        cost (label consumer item) + total cost (labels label work.log) := rfl
    rcases take_cases network policy work item consumer with ⟨items,hi,ht⟩ | ⟨stop,ht⟩
    · have hco := h.made consumer hc work.state item items hg hi
      rw [ht]
      refine ⟨hoa,hk,?_,?_⟩
      · intro other ho
        exact (mem_append.mp ho).elim (hp.queue other) (hco.2 other)
      · rw [length_append,hto]
        omega
    · rw [ht]
      refine ⟨hoa,hk,hp.queue,?_⟩
      rw [hto]
      exact Nat.le_add_left_of_le hm

theorem Priced.drain_made_le (ho : policy.once = true) (fuel : Nat)
    (hp : Paid good label cost space work) :
    (network.drain policy fuel work).1.made.length ≤ total cost space := by
  have ha := (h.keeps ho).drain fuel hp
  exact Nat.le_trans ha.made (total_le_of_nodup cost ha.once ha.known)

end Costs

end VelaEdge.Base.Propagation
