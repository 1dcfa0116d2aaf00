import VelaEdge.Base.Propagation

/-! Whether every item of a work queue reaches everyone who takes it. -/
namespace VelaEdge.Base.Propagation

open List

variable {σ α γ κ ε : Type} [DecidableEq κ]
variable {network : Network σ α γ κ ε} {policy : Policy}
variable {work : Work σ α γ} {item : α} {consumer : γ} {consumers : List γ}

def Policy.repeating (policy : Policy) : Policy := { policy with once := false }

/-- Every consumer that takes the item, with the item. -/
def Network.takers (network : Network σ α γ κ ε) (consumers : List γ) (item : α) : List (γ × α) :=
  (consumers.filter fun consumer => network.takes consumer item).map fun consumer =>
    (consumer,item)

def Network.deliveries (network : Network σ α γ κ ε) (items : List α) : List (γ × α) :=
  items.flatMap (network.takers network.consumers)

omit [DecidableEq κ] in
theorem takers_cons_of_takes (h : network.takes consumer item = true) :
    network.takers (consumer :: consumers) item =
      (consumer,item) :: network.takers consumers item := by
  simp [Network.takers,h]

omit [DecidableEq κ] in
theorem takers_cons_of_not (h : network.takes consumer item = false) :
    network.takers (consumer :: consumers) item = network.takers consumers item := by
  simp [Network.takers,h]

omit [DecidableEq κ] in
theorem takers_cons_le (network : Network σ α γ κ ε) (consumers : List γ) (item : α)
    (consumer : γ) : (network.takers consumers item).length ≤
      (network.takers (consumer :: consumers) item).length :=
  (((sublist_cons_self consumer consumers).filter _).map _).length_le

omit [DecidableEq κ] in
@[simp] theorem deliveries_cons (item : α) (items : List α) : network.deliveries (item :: items) =
      network.takers network.consumers item ++ network.deliveries items :=
  flatMap_cons

theorem ready_of_not_takes (h : network.takes consumer item = false) :
    network.ready policy work item consumer = false := by
  simp [Network.ready,h]

theorem ready_repeating (h : policy.once = false) :
    network.ready policy work item consumer = network.takes consumer item := by
  simp [Network.ready,h]

variable {after : Work σ α γ}

theorem visit_grows (h : network.visit policy item consumers work = (after,none)) :
    ∃ items, after.queue = work.queue ++ items ∧ after.made = work.made ++ items := by
  induction consumers, work using visit_induction network policy item with
  | nil =>
    cases h
    exact ⟨[],by simp⟩
  | skip hr ih => exact ih (visit_skip hr ▸ h)
  | @take work consumer _ _ hr ht ih =>
    rcases ih (visit_take hr ht ▸ h) with ⟨more,hq,hm⟩
    rcases take_cases network policy work item consumer with ⟨items,_,hc⟩ | ⟨_,hc⟩
    · rw [hc] at ht
      cases ht
      exact ⟨items ++ more,by simp [hq],by simp [hm]⟩
    · rw [hc] at ht
      cases ht
  | stop hr ht =>
    rw [visit_stop hr ht] at h
    cases h

theorem visit_delivers (ho : policy.once = false)
    (h : network.visit policy item consumers work = (after,none)) :
    after.log.reverse = work.log.reverse ++ network.takers consumers item := by
  induction consumers, work using visit_induction network policy item with
  | nil =>
    cases h
    simp [Network.takers]
  | skip hr ih =>
    rw [takers_cons_of_not ((ready_repeating ho).symm.trans hr)]
    exact ih (visit_skip hr ▸ h)
  | @take work consumer _ _ hr ht ih =>
    have hl := take_log network policy work item consumer
    simp only [ht] at hl
    rw [takers_cons_of_takes (takes_of_ready hr),ih (visit_take hr ht ▸ h),hl]
    simp
  | stop hr ht =>
    rw [visit_stop hr ht] at h
    cases h

theorem drain_delivers (ho : policy.once = false) (fuel : Nat)
    (h : network.drain policy fuel work = (after,.finished)) :
    ∃ items, after.made = work.made ++ items ∧
      after.log.reverse = work.log.reverse ++ network.deliveries (work.queue ++ items) := by
  induction fuel, work using drain_induction network policy with
  | empty hq =>
    rw [drain_nil _ hq] at h
    cases h
    exact ⟨[],by simp [hq,Network.deliveries]⟩
  | spent hq =>
    rw [drain_zero hq] at h
    cases h
  | stop hq hv =>
    rw [drain_stop hq hv] at h
    cases h
  | next hq hv ih =>
    rw [drain_next hq hv] at h
    rcases visit_grows hv with ⟨items,hnq,hnm⟩
    rcases ih h with ⟨more,hm,hl⟩
    refine ⟨items ++ more,by rw [hm,hnm,append_assoc],?_⟩
    rw [hl,visit_delivers ho hv,hnq,hq,cons_append,deliveries_cons]
    simp [append_assoc]

variable {stop : Option (Stop ε)}

theorem visit_log_le (h : network.visit policy item consumers work = (after,stop)) :
    after.log.length ≤ work.log.length + (network.takers consumers item).length := by
  induction consumers, work using visit_induction network policy item with
  | nil =>
    cases h
    exact Nat.le_add_right _ _
  | @skip _ consumer consumers hr ih =>
    have hle := ih (visit_skip hr ▸ h)
    have hs := takers_cons_le network consumers item consumer
    omega
  | @take work consumer _ _ hr ht ih =>
    have hl := take_log network policy work item consumer
    have hle := ih (visit_take hr ht ▸ h)
    simp only [ht] at hl
    simp only [hl,length_cons] at hle
    rw [takers_cons_of_takes (takes_of_ready hr),length_cons]
    omega
  | @stop work consumer _ _ _ hr ht =>
    have hl := take_log network policy work item consumer
    rw [visit_stop hr ht] at h
    cases h
    simp only [ht] at hl
    rw [takers_cons_of_takes (takes_of_ready hr),hl,length_cons,length_cons]
    omega

theorem visit_once_cases (h : network.visit policy item consumers work = (after,none)) :
    network.visit policy.repeating item consumers work = (after,none) ∨
      after.log.length < work.log.length + (network.takers consumers item).length := by
  induction consumers, work using visit_induction network policy item with
  | nil => exact .inl h
  | @skip _ consumer _ hr ih =>
    rw [visit_skip hr] at h
    cases ht : network.takes consumer item with
    | false =>
      rw [visit_skip (ready_of_not_takes ht),takers_cons_of_not ht]
      exact ih h
    | true =>
      have hle := visit_log_le h
      rw [takers_cons_of_takes ht,length_cons]
      right
      omega
  | @take work consumer _ _ hr ht ih =>
    have hta := takes_of_ready hr
    have hre : network.ready policy.repeating work item consumer = true :=
      (ready_repeating rfl).trans hta
    have hl := take_log network policy work item consumer
    rw [visit_take hr ht] at h
    rw [visit_take hre ht,takers_cons_of_takes hta,length_cons]
    have hn := ih h
    simp only [ht] at hl
    simp only [hl,length_cons] at hn
    apply hn.imp_right
    intro hls
    omega
  | stop hr ht =>
    rw [visit_stop hr ht] at h
    cases h

theorem drain_once_cases (fuel : Nat) (h : network.drain policy fuel work = (after,.finished)) :
    ∃ items, after.made = work.made ++ items ∧
      (network.drain policy.repeating fuel work = (after,.finished) ∨ after.log.length <
          work.log.length + (network.deliveries (work.queue ++ items)).length) := by
  induction fuel, work using drain_induction network policy with
  | empty hq =>
    rw [drain_nil _ hq] at h
    cases h
    exact ⟨[],by simp,.inl (drain_nil _ hq)⟩
  | spent hq =>
    rw [drain_zero hq] at h
    cases h
  | stop hq hv =>
    rw [drain_stop hq hv] at h
    cases h
  | @next fuel _ item rest next hq hv ih =>
    rw [drain_next hq hv] at h
    rcases visit_grows hv with ⟨items,hnq,hnm⟩
    rcases ih h with ⟨more,hm,hc⟩
    refine ⟨items ++ more,by rw [hm,hnm,append_assoc],?_⟩
    have hqu : item :: rest ++ (items ++ more) = item :: (next.queue ++ more) := by simp [hnq]
    have hle := visit_log_le hv
    simp only [hq,hqu,deliveries_cons,length_append]
    rcases hc with hs | hls
    · rcases visit_once_cases hv with hr | hk
      · rw [drain_next hq hr]
        exact .inl hs
      · -- What was kept back here is missing in the end.
        rcases drain_delivers rfl fuel hs with ⟨again,ha,hlo⟩
        have hi : again = more := append_cancel_left (ha.symm.trans hm)
        have hl := congrArg List.length hlo
        simp only [hi,length_append,length_reverse] at hl
        simp only at hk
        omega
    · right
      simp only at hle
      omega

omit [DecidableEq κ] in
theorem keys_nodup_of_suffix {log : List (γ × α)} (h : log <:+ more)
    (hn : (network.keys more).Nodup) : (network.keys log).Nodup :=
  hn.sublist (h.sublist.map _)

theorem ready_of_nodup (h : network.takes consumer item = true)
    (ht : network.take policy.repeating work item consumer = (after,stop))
    (hn : (network.keys after.log).Nodup) : network.ready policy work item consumer = true := by
  have hl := take_log network policy.repeating work item consumer
  simp only [ht] at hl
  rw [hl,Network.keys,map_cons,nodup_cons] at hn
  simp only [Network.ready,h,Bool.true_and,Bool.not_eq_true',Bool.and_eq_false_iff,
    decide_eq_false_iff_not]
  exact .inr hn.1

theorem visit_of_nodup (hs : consumers ⊆ network.consumers)
    (h : (network.keys (network.visit policy.repeating item consumers work).1.log).Nodup) :
    network.visit policy item consumers work =
      network.visit policy.repeating item consumers work := by
  induction consumers, work using visit_induction network policy.repeating item with
  | nil => rfl
  | skip hr ih =>
    rw [visit_skip hr] at h ⊢
    rw [visit_skip (ready_of_not_takes ((ready_repeating rfl).symm.trans hr))]
    exact ih (cons_subset.mp hs).2 h
  | @take _ _ consumers next hr ht ih =>
    rw [visit_take hr ht] at h ⊢
    have hsu : next.log <:+ (network.visit policy.repeating item consumers next).1.log :=
      (keeps_log network policy.repeating next.log).visit trivial (cons_subset.mp hs).2 suffix_rfl
    rw [visit_take (ready_of_nodup (takes_of_ready hr) ht (keys_nodup_of_suffix hsu h)) ht]
    exact ih (cons_subset.mp hs).2 h
  | stop hr ht =>
    rw [visit_stop hr ht] at h ⊢
    exact visit_stop (ready_of_nodup (takes_of_ready hr) ht h) ht

theorem drain_of_nodup (fuel : Nat)
    (h : (network.keys (network.drain policy.repeating fuel work).1.log).Nodup) :
    network.drain policy fuel work = network.drain policy.repeating fuel work := by
  induction fuel, work using drain_induction network policy.repeating with
  | empty hq => rw [drain_nil _ hq,drain_nil _ hq]
  | spent hq => rw [drain_zero hq,drain_zero hq]
  | stop hq hv =>
    rw [drain_stop hq hv] at h ⊢
    refine drain_stop hq ?_
    rw [visit_of_nodup (List.Subset.refl _),hv]
    rwa [hv]
  | @next fuel _ _ _ next hq hv ih =>
    rw [drain_next hq hv] at h ⊢
    have hsu : next.log <:+ (network.drain policy.repeating fuel next).1.log :=
      (keeps_log network policy.repeating next.log).drain fuel suffix_rfl
    rw [drain_next hq]
    · exact ih h
    · rw [visit_of_nodup (List.Subset.refl _),hv]
      rw [hv]
      exact keys_nodup_of_suffix hsu h

/-- Under the rule of once everything is delivered exactly if nothing comes up twice without it. -/
theorem drain_delivers_iff (ho : policy.once = true) (fuel : Nat) (hlo : work.log = [])
    (hm : work.made = []) (h : network.drain policy fuel work = (after,.finished)) :
    after.log.reverse = network.deliveries (work.queue ++ after.made) ↔
      (network.keys (network.drain policy.repeating fuel work).1.log).Nodup := by
  rcases drain_once_cases fuel h with ⟨items,hi,hc⟩
  rw [hm,nil_append] at hi
  rw [hlo,length_nil,Nat.zero_add,← hi] at hc
  constructor
  · intro hd
    rcases hc with hs | hl
    · rw [hs]
      have hn : (network.keys (network.drain policy fuel work).1.log).Nodup :=
        drain_keys_nodup ho fuel (by simp [hlo,Network.keys])
      rwa [h] at hn
    · rw [← hd,length_reverse] at hl
      exact absurd hl (Nat.lt_irrefl _)
  · intro hn
    have hre := (drain_of_nodup fuel hn).symm.trans h
    rcases drain_delivers rfl fuel hre with ⟨again,ha,hr⟩
    rw [hm,nil_append] at ha
    rw [hr,hlo,ha]
    rfl

end VelaEdge.Base.Propagation
