import VelaEdge.Base.Propagation

/-! A work queue that is given only a part of the items. -/
namespace VelaEdge.Base.Propagation

open List

variable {σ α γ κ ε : Type} [DecidableEq κ]
variable {network : Network σ α γ κ ε} {policy : Policy}
variable {work : Work σ α γ} {item : α} {consumer : γ} {consumers : List γ} {after : Work σ α γ}

section Parts

/-- A run on some of the items only, next to the run on all of them. -/
structure Restricted (inside : α → Bool) (related : σ → σ → Prop)
    (work part : Work σ α γ) : Prop where
  state : related work.state part.state
  log : part.log = work.log.filter fun entry => inside entry.2
  queue : part.queue = work.queue.filter inside
  made : part.made = work.made.filter inside

variable (network) in
/-- Items inside and outside do not meet: not in a key, not in what is made of them, and not in
the state as long as they are taken `apart`. -/
structure Separates (inside : α → Bool) (related : σ → σ → Prop) (apart : γ → α → Prop) :
    Prop where
  key : ∀ {consumer other item another}, network.key consumer item = network.key other another →
    inside item = inside another
  made : ∀ {consumer state item items made},
    (network.react consumer state item).2 = .ok items → made ∈ items → inside made = inside item
  within : ∀ {consumer state part item}, related state part → apart consumer item →
    inside item = true →
    (network.react consumer part item).2 = (network.react consumer state item).2 ∧
      related (network.react consumer state item).1 (network.react consumer part item).1
  outside : ∀ {consumer state part item}, related state part → apart consumer item →
    inside item = false → related (network.react consumer state item).1 part

variable {partPolicy : Policy} {inside : α → Bool} {related : σ → σ → Prop}
variable {apart : γ → α → Prop} {part : Work σ α γ}

variable (partPolicy inside apart) in
/-- A state of the run on all items up to which the part can follow. -/
structure Followed (after : Work σ α γ) : Prop where
  apart : ∀ entry ∈ after.log, apart entry.1 entry.2
  allows : partPolicy.allows (after.made.filter inside).length = true

theorem Followed.before {after next : Work σ α γ} (h : Followed partPolicy inside apart after)
    (hl : next.log <:+ after.log) (hm : next.made <+: after.made) :
    Followed partPolicy inside apart next :=
  ⟨fun entry he => h.apart entry (hl.subset he),
    Policy.allows_of_le h.allows (hm.filter inside).length_le⟩

theorem visit_extends (hs : consumers ⊆ network.consumers) {stop : Option (Stop ε)}
    (hv : network.visit policy item consumers work = (after,stop)) :
    work.log <:+ after.log ∧ work.made <+: after.made := by
  have hl : work.log <:+ (network.visit policy item consumers work).1.log :=
    (keeps_log network policy work.log).visit trivial hs suffix_rfl
  have hm : work.made <+: (network.visit policy item consumers work).1.made :=
    (keeps_made network policy work.made).visit trivial hs prefix_rfl
  rw [hv] at hl hm
  exact ⟨hl,hm⟩

theorem drain_extends (fuel : Nat) (hd : network.drain policy fuel work = (after,ending)) :
    work.log <:+ after.log ∧ work.made <+: after.made := by
  have hl : work.log <:+ (network.drain policy fuel work).1.log :=
    (keeps_log network policy work.log).drain fuel suffix_rfl
  have hm : work.made <+: (network.drain policy fuel work).1.made :=
    (keeps_made network policy work.made).drain fuel prefix_rfl
  rw [hd] at hl hm
  exact ⟨hl,hm⟩

variable (h : Restricted inside related work part) (hs : Separates network inside related apart)
include h hs

theorem Restricted.ready (ho : partPolicy.once = policy.once) (hi : inside item = true) :
    network.ready partPolicy part item consumer = network.ready policy work item consumer := by
  have hke : network.key consumer item ∈ network.keys part.log ↔
      network.key consumer item ∈ network.keys work.log := by
    simp only [Network.keys,h.log,mem_map,mem_filter]
    constructor
    · rintro ⟨entry,⟨hm,_⟩,hk⟩
      exact ⟨entry,hm,hk⟩
    · rintro ⟨entry,hm,hk⟩
      exact ⟨entry,⟨hm,(hs.key hk).trans hi⟩,hk⟩
  simp [Network.ready,ho,hke]

omit [DecidableEq κ] in
theorem Restricted.take_inside {next : Work σ α γ}
    (hta : network.take policy work item consumer = (next,none))
    (hf : Followed partPolicy inside apart next) (hi : inside item = true) :
    ∃ partNext, network.take partPolicy part item consumer = (partNext,none) ∧
      Restricted inside related next partNext := by
  rcases take_cases network policy work item consumer with ⟨items,hit,ht⟩ | ⟨stop,ht⟩
  · cases ht.symm.trans hta
    have hr := hs.within h.state (hf.apart _ mem_cons_self) hi
    have hk : items.filter inside = items := by
      apply filter_eq_self.mpr
      intro made hm
      rw [hs.made hit hm,hi]
    have ha := hf.allows
    simp only [filter_append,hk,length_append,← h.made] at ha
    refine ⟨⟨(network.react consumer part.state item).1,(consumer,item) :: part.log,
      part.queue ++ items,part.made ++ items⟩,?_,?_⟩
    · simp only [Network.take,hr.1,hit,ha,if_true]
    · constructor
      · exact hr.2
      · simp [h.log,hi]
      · simp [h.queue,hk]
      · simp [h.made,hk]
  · cases ht.symm.trans hta

omit [DecidableEq κ] in
theorem Restricted.take_outside {next : Work σ α γ}
    (hta : network.take policy work item consumer = (next,none))
    (hf : Followed partPolicy inside apart next) (hi : inside item = false) :
    Restricted inside related next part := by
  rcases take_cases network policy work item consumer with ⟨items,hit,ht⟩ | ⟨stop,ht⟩
  · cases ht.symm.trans hta
    have hk : items.filter inside = [] := by
      apply filter_eq_nil_iff.mpr
      intro made hm
      rw [hs.made hit hm,hi]
      exact Bool.false_ne_true
    constructor
    · exact hs.outside h.state (hf.apart _ mem_cons_self) hi
    · simp [h.log,hi]
    · simp [h.queue,hk]
    · simp [h.made,hk]
  · cases ht.symm.trans hta

theorem Restricted.visit_inside (ho : partPolicy.once = policy.once)
    (hsu : consumers ⊆ network.consumers)
    (hv : network.visit policy item consumers work = (after,none))
    (hf : Followed partPolicy inside apart after) (hi : inside item = true) :
    ∃ partAfter, network.visit partPolicy item consumers part = (partAfter,none) ∧
      Restricted inside related after partAfter := by
  induction consumers, work using visit_induction network policy item generalizing part with
  | nil =>
    cases hv
    exact ⟨part,rfl,h⟩
  | skip hr ih =>
    rw [visit_skip hr] at hv
    rw [visit_skip ((h.ready hs ho hi).trans hr)]
    exact ih h (cons_subset.mp hsu).2 hv
  | take hr ht ih =>
    rw [visit_take hr ht] at hv
    have he := visit_extends (cons_subset.mp hsu).2 hv
    rcases h.take_inside hs ht (hf.before he.1 he.2) hi with ⟨partNext,hpart,hrestricted⟩
    rw [visit_take ((h.ready hs ho hi).trans hr) hpart]
    exact ih hrestricted (cons_subset.mp hsu).2 hv
  | stop hr ht =>
    rw [visit_stop hr ht] at hv
    cases hv

theorem Restricted.visit_outside (hsu : consumers ⊆ network.consumers)
    (hv : network.visit policy item consumers work = (after,none))
    (hf : Followed partPolicy inside apart after) (hi : inside item = false) :
    Restricted inside related after part := by
  induction consumers, work using visit_induction network policy item with
  | nil =>
    cases hv
    exact h
  | skip hr ih =>
    rw [visit_skip hr] at hv
    exact ih h (cons_subset.mp hsu).2 hv
  | take hr ht ih =>
    rw [visit_take hr ht] at hv
    have he := visit_extends (cons_subset.mp hsu).2 hv
    exact ih (h.take_outside hs ht (hf.before he.1 he.2) hi) (cons_subset.mp hsu).2 hv
  | stop hr ht =>
    rw [visit_stop hr ht] at hv
    cases hv

theorem Restricted.drain (fuel : Nat) (ho : partPolicy.once = policy.once)
    (hd : network.drain policy fuel work = (after,.finished))
    (hf : Followed partPolicy inside apart after) :
    ∃ partAfter, network.drain partPolicy fuel part = (partAfter,.finished) ∧
      Restricted inside related after partAfter := by
  induction fuel, work using drain_induction network policy generalizing part with
  | empty hq =>
    have hpa : part.queue = [] := by rw [h.queue,hq,filter_nil]
    rw [drain_nil _ hq] at hd
    cases hd
    exact ⟨part,drain_nil _ hpa,h⟩
  | spent hq =>
    rw [drain_zero hq] at hd
    cases hd
  | stop hq hv =>
    rw [drain_stop hq hv] at hd
    cases hd
  | @next fuel work item rest _ hq hv ih =>
    rw [drain_next hq hv] at hd
    have he := drain_extends fuel hd
    have hb := hf.before he.1 he.2
    cases hi : inside item with
    | true =>
      -- the part visits the same item
      have hpa : part.queue = item :: rest.filter inside := by
        rw [h.queue,hq,filter_cons_of_pos hi]
      have hp : Restricted inside related { work with queue := rest }
          { part with queue := rest.filter inside } :=
        ⟨h.state,h.log,rfl,h.made⟩
      rcases hp.visit_inside hs ho (List.Subset.refl _) hv hb hi with ⟨partNext,hpartVisit,hr⟩
      rw [drain_next hpa hpartVisit]
      exact ih hr hd
    | false =>
      -- the part waits
      have hp : Restricted inside related { work with queue := rest } part := by
        refine ⟨h.state,h.log,?_,h.made⟩
        rw [h.queue,hq,filter_cons_of_neg (by simp [hi])]
      have hr := hp.visit_outside hs (List.Subset.refl _) hv hb hi
      rcases ih hr hd with ⟨partAfter,hpd,hen⟩
      have hm : network.drain partPolicy (fuel + 1) part = network.drain partPolicy fuel part :=
        drain_more fuel (by simp [hpd])
      exact ⟨partAfter,hm.trans hpd,hen⟩

end Parts

end VelaEdge.Base.Propagation

