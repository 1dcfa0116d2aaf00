import Mathlib.Data.List.Nodup
import Mathlib.Data.List.Perm.Subperm

/-! A work queue. Items are taken from the front and offered to every consumer; what a consumer
makes of an item goes to the back. A consumer may be kept from taking what it has taken before, and
the whole may be stopped when too much has been made. -/
namespace VelaEdge.Base.Propagation

open List

structure Network (σ α γ κ ε : Type) where
  consumers : List γ
  takes : γ → α → Bool
  /-- What a consumer sees as the same. -/
  key : γ → α → κ
  react : γ → σ → α → σ × Except ε (List α)

structure Policy where
  /-- Nothing is taken twice under the same key. -/
  once : Bool
  limit : Option Nat

structure Work (σ α γ : Type) where
  state : σ
  /-- Who has taken what, the latest first. -/
  log : List (γ × α)
  queue : List α
  made : List α

inductive Stop (ε : Type) where
  | failed (reason : ε)
  | exceeded
deriving DecidableEq

inductive Ending (ε : Type) where
  | finished
  | stopped (stop : Stop ε)
  /-- The fuel has run out. -/
  | unfinished
deriving DecidableEq

section Definitions

variable {σ α γ κ ε : Type} [DecidableEq κ]

def Policy.allows (policy : Policy) (count : Nat) : Bool :=
  policy.limit.all fun limit => count ≤ limit

variable (network : Network σ α γ κ ε) (policy : Policy)

def Network.keys (log : List (γ × α)) : List κ := log.map fun entry => network.key entry.1 entry.2

variable (work : Work σ α γ)

def Network.ready (item : α) (consumer : γ) : Bool :=
  network.takes consumer item && !(policy.once && network.key consumer item ∈ network.keys work.log)

def Network.take (item : α) (consumer : γ) : Work σ α γ × Option (Stop ε) :=
  let reaction := network.react consumer work.state item
  let taken : Work σ α γ := { work with state := reaction.1, log := (consumer,item) :: work.log }
  match reaction.2 with
  | .error reason => (taken,some (.failed reason))
  | .ok items =>
    if policy.allows (work.made.length + items.length) then
      ({ taken with queue := work.queue ++ items, made := work.made ++ items },none)
    else (taken,some .exceeded)

def Network.offer (item : α) (consumer : γ) : Work σ α γ × Option (Stop ε) :=
  if network.ready policy work item consumer then network.take policy work item consumer
  else (work,none)

def Network.visit (item : α) : List γ → Work σ α γ → Work σ α γ × Option (Stop ε)
  | [], work => (work,none)
  | consumer :: consumers, work =>
    match network.offer policy work item consumer with
    | (work,none) => Network.visit item consumers work
    | (work,some stop) => (work,some stop)

def Network.drain : Nat → Work σ α γ → Work σ α γ × Ending ε
  | fuel, work =>
    match work.queue with
    | [] => (work,.finished)
    | item :: rest =>
      match fuel with
      | 0 => (work,.unfinished)
      | fuel + 1 =>
        match network.visit policy item network.consumers { work with queue := rest } with
        | (work,none) => Network.drain fuel work
        | (work,some stop) => (work,.stopped stop)

end Definitions

variable {σ α γ κ ε : Type} [DecidableEq κ]
variable {network : Network σ α γ κ ε} {policy : Policy}
variable {work : Work σ α γ} {item : α} {consumer : γ}

/-! ## What one consumer does -/

omit [DecidableEq κ] in
@[simp] theorem take_log (network : Network σ α γ κ ε) (policy : Policy) (work : Work σ α γ)
    (item : α)
    (consumer : γ) :
    (network.take policy work item consumer).1.log = (consumer,item) :: work.log := by
  unfold Network.take
  dsimp only
  split
  · rfl
  · split <;> rfl

omit [DecidableEq κ] in
theorem take_cases (network : Network σ α γ κ ε) (policy : Policy) (work : Work σ α γ) (item : α)
    (consumer : γ) :
    (∃ items, (network.react consumer work.state item).2 = .ok items ∧
      network.take policy work item consumer =
        (⟨(network.react consumer work.state item).1,(consumer,item) :: work.log,
          work.queue ++ items,work.made ++ items⟩,none)) ∨
    ∃ stop, network.take policy work item consumer =
      (⟨(network.react consumer work.state item).1,(consumer,item) :: work.log,
        work.queue,work.made⟩,some stop) := by
  unfold Network.take
  dsimp only
  split
  · exact .inr ⟨_,rfl⟩
  · next items hi =>
    split
    · exact .inl ⟨items,hi,rfl⟩
    · exact .inr ⟨_,rfl⟩

theorem takes_of_ready (h : network.ready policy work item consumer = true) :
    network.takes consumer item = true := by
  simp only [Network.ready,Bool.and_eq_true] at h
  exact h.1

theorem visit_skip (h : network.ready policy work item consumer = false) :
    network.visit policy item (consumer :: consumers) work =
      network.visit policy item consumers work := by
  simp [Network.visit,Network.offer,h]

variable {after : Work σ α γ}

theorem visit_take (h : network.ready policy work item consumer = true)
    (ht : network.take policy work item consumer = (after,none)) :
    network.visit policy item (consumer :: consumers) work =
      network.visit policy item consumers after := by
  simp [Network.visit,Network.offer,h,ht]

variable {stop : Stop ε}

theorem visit_stop (h : network.ready policy work item consumer = true)
    (ht : network.take policy work item consumer = (after,some stop)) :
    network.visit policy item (consumer :: consumers) work = (after,some stop) := by
  simp [Network.visit,Network.offer,h,ht]

theorem drain_nil (fuel : Nat) (h : work.queue = []) :
    network.drain policy fuel work = (work,.finished) := by
  cases fuel <;> simp [Network.drain,h]

theorem drain_zero (h : work.queue = item :: rest) :
    network.drain policy 0 work = (work,.unfinished) := by
  simp [Network.drain,h]

theorem drain_next (h : work.queue = item :: rest)
    (hv : network.visit policy item network.consumers { work with queue := rest } = (after,none)) :
    network.drain policy (fuel + 1) work = network.drain policy fuel after := by
  rw [Network.drain]
  simp [h,hv]

theorem drain_stop (h : work.queue = item :: rest)
    (hv : network.visit policy item network.consumers { work with queue := rest } =
      (after,some stop)) : network.drain policy (fuel + 1) work = (after,.stopped stop) := by
  rw [Network.drain]
  simp [h,hv]

/-- The round over the consumers, by what the first of them does with the item. -/
@[elab_as_elim]
theorem visit_induction (network : Network σ α γ κ ε) (policy : Policy) (item : α)
    {motive : List γ → Work σ α γ → Prop} (consumers : List γ) (work : Work σ α γ)
    (nil : ∀ {work}, motive [] work)
    (skip : ∀ {work consumer consumers}, network.ready policy work item consumer = false →
      motive consumers work → motive (consumer :: consumers) work)
    (take : ∀ {work consumer consumers after}, network.ready policy work item consumer = true →
      network.take policy work item consumer = (after,none) →
      motive consumers after → motive (consumer :: consumers) work)
    (stop : ∀ {work consumer consumers after stop}, network.ready policy work item consumer = true →
      network.take policy work item consumer = (after,some stop) →
      motive (consumer :: consumers) work) : motive consumers work := by
  induction consumers generalizing work with
  | nil => exact nil
  | cons consumer consumers ih =>
    cases hr : network.ready policy work item consumer with
    | false => exact skip hr (ih work)
    | true =>
      cases ht : network.take policy work item consumer with
      | mk after halt =>
        cases halt with
        | none => exact take hr ht (ih after)
        | some halt => exact stop hr ht

/-- The run over the queue, by what becomes of its first item. -/
@[elab_as_elim]
theorem drain_induction (network : Network σ α γ κ ε) (policy : Policy)
    {motive : Nat → Work σ α γ → Prop} (fuel : Nat) (work : Work σ α γ)
    (empty : ∀ {fuel work}, work.queue = [] → motive fuel work)
    (spent : ∀ {work item rest}, work.queue = item :: rest → motive 0 work)
    (stop : ∀ {fuel work item rest after stop}, work.queue = item :: rest →
      network.visit policy item network.consumers { work with queue := rest } = (after,some stop) →
      motive (fuel + 1) work)
    (next : ∀ {fuel work item rest after}, work.queue = item :: rest →
      network.visit policy item network.consumers { work with queue := rest } = (after,none) →
      motive fuel after → motive (fuel + 1) work) : motive fuel work := by
  induction fuel generalizing work with
  | zero =>
    cases hq : work.queue with
    | nil => exact empty hq
    | cons item rest => exact spent hq
  | succ fuel ih =>
    cases hq : work.queue with
    | nil => exact empty hq
    | cons item rest =>
      cases hv : network.visit policy item network.consumers { work with queue := rest } with
      | mk after halt =>
        cases halt with
        | none => exact next hq hv (ih after)
        | some halt => exact stop hq hv

/-! ## Invariants -/

variable (network policy) in
/-- What holds of the work, with what is true of every item that is taken from the queue. -/
structure Keeps (invariant : Work σ α γ → Prop) (good : α → Prop) : Prop where
  pop : ∀ work item rest, invariant work → work.queue = item :: rest →
    invariant { work with queue := rest } ∧ good item
  take : ∀ work item consumer, consumer ∈ network.consumers → invariant work → good item →
    network.ready policy work item consumer = true →
    invariant (network.take policy work item consumer).1

variable {consumers : List γ} {good : α → Prop}

theorem Keeps.visit (h : Keeps network policy invariant good) (hi : good item)
    (hs : consumers ⊆ network.consumers) (hw : invariant work) :
    invariant (network.visit policy item consumers work).1 := by
  induction consumers, work using visit_induction network policy item with
  | nil => exact hw
  | skip hr ih =>
    rw [visit_skip hr]
    exact ih (cons_subset.mp hs).2 hw
  | take hr ht ih =>
    rw [cons_subset] at hs
    have hn := h.take _ item _ hs.1 hw hi hr
    rw [ht] at hn
    rw [visit_take hr ht]
    exact ih hs.2 hn
  | stop hr ht =>
    have hn := h.take _ item _ (cons_subset.mp hs).1 hw hi hr
    rw [ht] at hn
    rw [visit_stop hr ht]
    exact hn

theorem Keeps.drain (h : Keeps network policy invariant good) (fuel : Nat) (hw : invariant work) :
    invariant (network.drain policy fuel work).1 := by
  induction fuel, work using drain_induction network policy with
  | empty hq => rwa [drain_nil _ hq]
  | spent hq => rwa [drain_zero hq]
  | stop hq hv =>
    have hp := h.pop _ _ _ hw hq
    have hn := h.visit hp.2 (List.Subset.refl _) hp.1
    rw [hv] at hn
    rwa [drain_stop hq hv]
  | next hq hv ih =>
    have hp := h.pop _ _ _ hw hq
    have hn := h.visit hp.2 (List.Subset.refl _) hp.1
    rw [hv] at hn
    rw [drain_next hq hv]
    exact ih hn

variable (network policy) in
/-- What holds of the work as long as nothing stops it. -/
structure Carries (invariant : Work σ α γ → Prop) : Prop where
  pop : ∀ work item rest, invariant work → work.queue = item :: rest →
    invariant { work with queue := rest }
  take : ∀ work item consumer after, consumer ∈ network.consumers → invariant work →
    network.take policy work item consumer = (after, none) → invariant after

theorem Carries.visit (h : Carries network policy invariant) (hs : consumers ⊆ network.consumers)
    (hv : network.visit policy item consumers work = (after,none)) (hw : invariant work) :
    invariant after := by
  induction consumers, work using visit_induction network policy item with
  | nil =>
    cases hv
    exact hw
  | skip hr ih =>
    rw [visit_skip hr] at hv
    exact ih (cons_subset.mp hs).2 hv hw
  | take hr ht ih =>
    rw [visit_take hr ht] at hv
    rw [cons_subset] at hs
    exact ih hs.2 hv (h.take _ item _ _ hs.1 hw ht)
  | stop hr ht =>
    rw [visit_stop hr ht] at hv
    cases hv

theorem Carries.drain (h : Carries network policy invariant) (fuel : Nat)
    (hd : network.drain policy fuel work = (after,.finished)) (hw : invariant work) :
    invariant after := by
  induction fuel, work using drain_induction network policy with
  | empty hq =>
    rw [drain_nil _ hq] at hd
    cases hd
    exact hw
  | spent hq =>
    rw [drain_zero hq] at hd
    cases hd
  | stop hq hv =>
    rw [drain_stop hq hv] at hd
    cases hd
  | next hq hv ih =>
    rw [drain_next hq hv] at hd
    exact ih hd (h.visit (List.Subset.refl _) hv (h.pop _ _ _ hw hq))

theorem keeps_log (network : Network σ α γ κ ε) (policy : Policy) (log : List (γ × α)) :
    Keeps network policy (fun work => log <:+ work.log) (fun _ => True) := by
  constructor
  · intro work item rest hl _
    exact ⟨hl,trivial⟩
  · intro work item consumer _ hl _ _
    rw [take_log]
    exact hl.trans (suffix_cons _ _)

theorem keeps_made (network : Network σ α γ κ ε) (policy : Policy) (made : List α) :
    Keeps network policy (fun work => made <+: work.made) (fun _ => True) := by
  constructor
  · intro work item rest hm _
    exact ⟨hm,trivial⟩
  · intro work item consumer _ hm _ _
    rcases take_cases network policy work item consumer with ⟨items,_,ht⟩ | ⟨stop,ht⟩
    · rw [ht]
      exact hm.trans (prefix_append _ _)
    · rw [ht]
      exact hm

theorem Policy.allows_of_le {count : Nat} (h : policy.allows more = true) (hle : count ≤ more) :
    policy.allows count = true := by
  cases hl : policy.limit with
  | none => simp [Policy.allows,hl]
  | some limit =>
    simp only [Policy.allows,hl,Option.all_some,decide_eq_true_eq] at h ⊢
    omega

theorem drain_keys_nodup (ho : policy.once = true) (fuel : Nat)
    (h : (network.keys work.log).Nodup) :
    (network.keys (network.drain policy fuel work).1.log).Nodup := by
  have hk : Keeps network policy (fun work => (network.keys work.log).Nodup) (fun _ => True) := by
    constructor
    · intro work item rest hw _
      exact ⟨hw,trivial⟩
    · intro work item consumer _ hw _ hr
      simp only [Network.ready,ho,Bool.true_and,Bool.and_eq_true,Bool.not_eq_true',
        decide_eq_false_iff_not] at hr
      rw [take_log,Network.keys,map_cons]
      exact nodup_cons.mpr ⟨hr.2,hw⟩
  exact hk.drain fuel h

/-! ## Termination -/

variable (network) in
/-- Only finitely many keys come up, and no reaction makes more than `width` items. -/
structure Bounded (good : α → Prop) (keySpace : List κ) (width : Nat) : Prop where
  known : ∀ consumer ∈ network.consumers, ∀ item, good item →
    network.takes consumer item = true → network.key consumer item ∈ keySpace
  made : ∀ consumer ∈ network.consumers, ∀ state item items, good item →
    network.takes consumer item = true → (network.react consumer state item).2 = .ok items →
    items.length ≤ width ∧ ∀ made ∈ items, good made

variable (network) in
/-- Nothing has been taken twice, and all items to come are good ones. -/
structure Fits (good : α → Prop) (keySpace : List κ) (work : Work σ α γ) : Prop where
  once : (network.keys work.log).Nodup
  known : ∀ key ∈ network.keys work.log, key ∈ keySpace
  queue : ∀ item ∈ work.queue, good item

variable {good : α → Prop} {keySpace : List κ} {width : Nat}

omit [DecidableEq κ] in
theorem Fits.log_length_le (h : Fits network good keySpace work) :
    work.log.length ≤ keySpace.length := by
  have hle := (h.once.subperm h.known).length_le
  rwa [Network.keys,length_map] at hle

theorem Bounded.keeps (h : Bounded network good keySpace width) (hon : policy.once = true) :
    Keeps network policy (Fits network good keySpace) good := by
  constructor
  · intro work item rest hf hq
    have hg := hf.queue
    rw [hq] at hg
    have hre : ∀ other ∈ rest, good other := fun other ho =>
      hg other (mem_cons_of_mem _ ho)
    exact ⟨⟨hf.once,hf.known,hre⟩,hg item mem_cons_self⟩
  · intro work item consumer hc hf hg hr
    simp only [Network.ready,hon,Bool.true_and,Bool.and_eq_true,Bool.not_eq_true',
      decide_eq_false_iff_not] at hr
    have hke : (network.keys ((consumer,item) :: work.log)).Nodup := by
      rw [Network.keys,map_cons]
      exact nodup_cons.mpr ⟨hr.2,hf.once⟩
    have hk : ∀ key ∈ network.keys ((consumer,item) :: work.log), key ∈ keySpace := by
      intro key hky
      rw [Network.keys,map_cons,mem_cons] at hky
      cases hky with
      | inl hs => exact hs ▸ h.known consumer hc item hg hr.1
      | inr hb => exact hf.known key hb
    rcases take_cases network policy work item consumer with ⟨items,hi,ht⟩ | ⟨stop,ht⟩
    · rw [ht]
      refine ⟨hke,hk,fun other ho => ?_⟩
      cases mem_append.mp ho with
      | inl hol => exact hf.queue other hol
      | inr hn =>
        exact (h.made consumer hc work.state item items hg hr.1 hi).2 other hn
    · rw [ht]
      exact ⟨hke,hk,hf.queue⟩

/-- What is left to do: the items that wait, and those that can still be made. -/
def measure (keySpace : List κ) (width : Nat) (work : Work σ α γ) : Nat :=
  work.queue.length + width * (keySpace.length - work.log.length)

section

variable (h : Bounded network good keySpace width) (ho : policy.once = true)

include h ho

theorem Bounded.measure_take (hi : good item) (hm : consumer ∈ network.consumers)
    (hf : Fits network good keySpace work) (hr : network.ready policy work item consumer = true)
    {stop : Option (Stop ε)} (ht : network.take policy work item consumer = (after,stop)) :
    measure keySpace width after ≤ measure keySpace width work := by
  have hl := ((h.keeps ho).take work item consumer hm hf hi hr).log_length_le
  rw [take_log,length_cons] at hl
  have hro : width * (keySpace.length - work.log.length) =
      width * (keySpace.length - (work.log.length + 1)) + width := by
    rw [← Nat.mul_succ]
    congr 1
    omega
  rcases take_cases network policy work item consumer with ⟨items,hit,hc⟩ | ⟨_,hc⟩
  · have hw := (h.made consumer hm work.state item items hi (takes_of_ready hr) hit).1
    rw [hc] at ht
    cases ht
    simp only [measure,length_append,length_cons]
    omega
  · rw [hc] at ht
    cases ht
    simp only [measure,length_cons]
    omega

theorem Bounded.measure_visit
    (hi : good item) (hs : consumers ⊆ network.consumers) (hf : Fits network good keySpace work) :
    measure keySpace width (network.visit policy item consumers work).1 ≤
      measure keySpace width work := by
  induction consumers, work using visit_induction network policy item with
  | nil => exact Nat.le_refl _
  | skip hr ih =>
    rw [visit_skip hr]
    exact ih (cons_subset.mp hs).2 hf
  | take hr ht ih =>
    rw [cons_subset] at hs
    have hn := (h.keeps ho).take _ item _ hs.1 hf hi hr
    rw [ht] at hn
    rw [visit_take hr ht]
    exact Nat.le_trans (ih hs.2 hn) (h.measure_take ho hi hs.1 hf hr ht)
  | stop hr ht =>
    rw [visit_stop hr ht]
    exact h.measure_take ho hi (cons_subset.mp hs).1 hf hr ht

theorem Bounded.drain_ends
    (hf : measure keySpace width work ≤ fuel) (hfi : Fits network good keySpace work) :
    (network.drain policy fuel work).2 ≠ .unfinished := by
  induction fuel, work using drain_induction network policy with
  | empty hq => simp [drain_nil _ hq]
  | spent hq =>
    simp only [measure,hq,length_cons] at hf
    omega
  | stop hq hv => simp [drain_stop hq hv]
  | next hq hv ih =>
    have hp := (h.keeps ho).pop _ _ _ hfi hq
    have hn := (h.keeps ho).visit hp.2 (List.Subset.refl _) hp.1
    have hm := h.measure_visit ho hp.2 (List.Subset.refl _) hp.1
    rw [hv] at hn hm
    rw [drain_next hq hv]
    refine ih ?_ hn
    simp only [measure,hq,length_cons] at hf hm ⊢
    omega

end

/-! ## Fuel -/

theorem drain_more (fuel : Nat) (h : (network.drain policy fuel work).2 ≠ .unfinished) :
    network.drain policy (fuel + 1) work = network.drain policy fuel work := by
  induction fuel, work using drain_induction network policy with
  | empty hq => rw [drain_nil _ hq,drain_nil _ hq]
  | spent hq => exact absurd (by rw [drain_zero hq]) h
  | stop hq hv => rw [drain_stop hq hv,drain_stop hq hv]
  | next hq hv ih =>
    rw [drain_next hq hv] at h ⊢
    rw [drain_next hq hv]
    exact ih h

theorem drain_fuel (hle : fuel ≤ larger) (h : (network.drain policy fuel work).2 ≠ .unfinished) :
    network.drain policy larger work = network.drain policy fuel work := by
  induction hle with
  | refl => rfl
  | step _ ih => exact (drain_more _ (ih.symm ▸ h)).trans ih

theorem drain_eq_of_ends {other : Nat} (h : (network.drain policy fuel work).2 ≠ .unfinished)
    (ho : (network.drain policy other work).2 ≠ .unfinished) :
    network.drain policy fuel work = network.drain policy other work := by
  cases Nat.le_total fuel other with
  | inl hle => exact (drain_fuel hle h).symm
  | inr hle => exact drain_fuel hle ho

/-! ## Conditions along a run -/

section Along

variable (network policy) in
/-- Something holds whenever a consumer takes the item. -/
def Network.visitsWith (holds : Work σ α γ → α → γ → Prop) (item : α) : List γ → Work σ α γ → Prop
  | [], _ => True
  | consumer :: consumers, work =>
    if network.ready policy work item consumer then
      holds work item consumer ∧ match network.take policy work item consumer with
        | (work,none) => Network.visitsWith holds item consumers work
        | (_,some _) => True
    else Network.visitsWith holds item consumers work

variable (network policy) in
/-- Something holds whenever an item is taken, as far as the fuel goes. -/
def Network.drainsWith (holds : Work σ α γ → α → γ → Prop) : Nat → Work σ α γ → Prop
  | fuel, work =>
    match work.queue with
    | [] => True
    | item :: rest =>
      match fuel with
      | 0 => True
      | fuel + 1 =>
        network.visitsWith policy holds item network.consumers { work with queue := rest } ∧
          match network.visit policy item network.consumers { work with queue := rest } with
          | (work,none) => Network.drainsWith holds fuel work
          | (_,some _) => True

variable {holds : Work σ α γ → α → γ → Prop}

theorem visitsWith_skip (h : network.ready policy work item consumer = false) :
    network.visitsWith policy holds item (consumer :: consumers) work ↔
      network.visitsWith policy holds item consumers work := by
  simp [Network.visitsWith,h]

section

variable (h : network.ready policy work item consumer = true)
include h

theorem visitsWith_take (ht : network.take policy work item consumer = (after,none)) :
    network.visitsWith policy holds item (consumer :: consumers) work ↔
      holds work item consumer ∧ network.visitsWith policy holds item consumers after := by
  simp [Network.visitsWith,h,ht]

theorem visitsWith_stop (ht : network.take policy work item consumer = (after,some stop)) :
    network.visitsWith policy holds item (consumer :: consumers) work ↔
      holds work item consumer := by
  simp [Network.visitsWith,h,ht]

end

theorem drainsWith_next (h : work.queue = item :: rest)
    (hv : network.visit policy item network.consumers { work with queue := rest } = (after,none)) :
    network.drainsWith policy holds (fuel + 1) work ↔
      network.visitsWith policy holds item network.consumers { work with queue := rest } ∧
        network.drainsWith policy holds fuel after := by
  rw [Network.drainsWith]
  simp [h,hv]

theorem drainsWith_stop (h : work.queue = item :: rest)
    (hv : network.visit policy item network.consumers { work with queue := rest } =
      (after,some stop)) :
    network.drainsWith policy holds (fuel + 1) work ↔
      network.visitsWith policy holds item network.consumers { work with queue := rest } := by
  rw [Network.drainsWith]
  simp [h,hv]

theorem visitsWith_of_forall (h : ∀ consumer ∈ consumers, ∀ work, holds work item consumer)
    (work : Work σ α γ) : network.visitsWith policy holds item consumers work := by
  induction consumers, work using visit_induction network policy item with
  | nil => trivial
  | skip hr ih =>
    rw [visitsWith_skip hr]
    exact ih (forall_mem_cons.mp h).2
  | take hr ht ih =>
    rw [visitsWith_take hr ht]
    exact ⟨h _ mem_cons_self _,ih (forall_mem_cons.mp h).2⟩
  | stop hr ht =>
    rw [visitsWith_stop hr ht]
    exact h _ mem_cons_self _

theorem drainsWith_of_forall
    (h : ∀ item, ∀ consumer ∈ network.consumers, ∀ work, holds work item consumer) (fuel : Nat)
    (work : Work σ α γ) : network.drainsWith policy holds fuel work := by
  induction fuel, work using drain_induction network policy with
  | @empty fuel work hq => cases fuel <;> simp [Network.drainsWith,hq]
  | spent hq => simp [Network.drainsWith,hq]
  | stop hq hv =>
    rw [drainsWith_stop hq hv]
    exact visitsWith_of_forall (h _) _
  | next hq hv ih =>
    rw [drainsWith_next hq hv]
    exact ⟨visitsWith_of_forall (h _) _,ih⟩

variable (network) in
def Network.failsWith (expected : ε → Prop) (work : Work σ α γ) (item : α) (consumer : γ) : Prop :=
  ∀ reason, (network.react consumer work.state item).2 = .error reason → expected reason

variable {want : ε → Prop}

omit [DecidableEq κ] in
theorem failsWith_of_take (ht : network.take policy work item consumer = (after,none)) :
    network.failsWith want work item consumer := by
  intro why hr
  simp [Network.take,hr] at ht

omit [DecidableEq κ] in
theorem failsWith_of_stop (ht : network.take policy work item consumer = (after,some stop)) :
    network.failsWith want work item consumer ↔ ∀ why, stop = .failed why → want why := by
  unfold Network.take at ht
  dsimp only at ht
  split at ht
  · next failure hf =>
    cases ht
    simp [Network.failsWith,hf]
  · next items hi =>
    split at ht
    · cases ht
    · cases ht
      simp [Network.failsWith,hi]

theorem visitsWith_failsWith {stop : Option (Stop ε)}
    (h : network.visit policy item consumers work = (after,stop)) :
    network.visitsWith policy (network.failsWith want) item consumers work ↔
      ∀ why, stop = some (.failed why) → want why := by
  induction consumers, work using visit_induction network policy item with
  | nil =>
    cases h
    simp [Network.visitsWith]
  | skip hr ih =>
    rw [visitsWith_skip hr]
    exact ih (visit_skip hr ▸ h)
  | take hr ht ih =>
    rw [visitsWith_take hr ht]
    simp only [failsWith_of_take ht,true_and]
    exact ih (visit_take hr ht ▸ h)
  | stop hr ht =>
    rw [visitsWith_stop hr ht,failsWith_of_stop ht]
    rw [visit_stop hr ht] at h
    cases h
    simp

theorem drainsWith_failsWith (fuel : Nat) :
    network.drainsWith policy (network.failsWith want) fuel work ↔
      ∀ why, (network.drain policy fuel work).2 = .stopped (.failed why) → want why := by
  induction fuel, work using drain_induction network policy with
  | @empty fuel work hq => cases fuel <;> simp [Network.drainsWith,hq,drain_nil]
  | spent hq => simp [Network.drainsWith,hq,drain_zero hq]
  | stop hq hv =>
    rw [drainsWith_stop hq hv,visitsWith_failsWith hv,drain_stop hq hv]
    simp
  | next hq hv ih =>
    rw [drainsWith_next hq hv,visitsWith_failsWith hv,drain_next hq hv,ih]
    simp

/-- What is asked of every take alone is asked of the log. -/
theorem visitsWith_log {p : γ → α → Prop} {stop : Option (Stop ε)}
    (h : network.visit policy item consumers work = (after,stop)) :
    (network.visitsWith policy (fun _ item consumer => p consumer item) item consumers work ∧
      ∀ entry ∈ work.log, p entry.1 entry.2) ↔ ∀ entry ∈ after.log, p entry.1 entry.2 := by
  induction consumers, work using visit_induction network policy item with
  | nil =>
    cases h
    simp [Network.visitsWith]
  | skip hr ih =>
    rw [visitsWith_skip hr]
    exact ih (visit_skip hr ▸ h)
  | @take work consumer _ _ hr ht ih =>
    have hl := take_log network policy work item consumer
    rw [ht] at hl
    rw [← ih (visit_take hr ht ▸ h),visitsWith_take hr ht,hl,forall_mem_cons]
    tauto
  | @stop work consumer _ _ _ hr ht =>
    have hl := take_log network policy work item consumer
    rw [visit_stop hr ht] at h
    cases h
    rw [ht] at hl
    rw [visitsWith_stop hr ht,hl,forall_mem_cons]

theorem drainsWith_log {p : γ → α → Prop} (fuel : Nat) :
    (network.drainsWith policy (fun _ item consumer => p consumer item) fuel work ∧
      ∀ entry ∈ work.log, p entry.1 entry.2) ↔
      ∀ entry ∈ (network.drain policy fuel work).1.log, p entry.1 entry.2 := by
  induction fuel, work using drain_induction network policy with
  | @empty fuel work hq => cases fuel <;> simp [Network.drainsWith,hq,drain_nil]
  | spent hq => simp [Network.drainsWith,hq,drain_zero hq]
  | stop hq hv => rw [drainsWith_stop hq hv,drain_stop hq hv,← visitsWith_log hv]
  | next hq hv ih =>
    rw [drainsWith_next hq hv,drain_next hq hv,← ih,← visitsWith_log hv]
    tauto

end Along

end VelaEdge.Base.Propagation
