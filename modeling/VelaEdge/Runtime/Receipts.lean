import VelaEdge.Runtime.Outbox

/-! Publish receipts over whole histories of the outbox: messages are queued and acknowledged in
any order, the runtime restarts in between, and the store may come from before receipts were
counted. -/
namespace VelaEdge.Runtime.Receipts

open Base Core LocalDb Outbox OrderedMap Text List

structure State where
  db : Db
  acknowledged : List Nat

inductive Event where
  | enqueue (message : MqttPublishMessage) (now : Time)
  | acknowledge (sequence : UInt64) (now : Time)
  | restart

/-- One event; a refused one leaves the store as it is, and reopening the store writes nothing. -/
def step (s : State) : Event → State
  | .enqueue message now =>
    match enqueueMqttMessage s.db message now with
    | .ok (db,_) => { s with db := db }
    | .error _ => s
  | .acknowledge sequence now =>
    match acknowledgeMqttMessage s.db sequence.toNat now with
    | .ok (db,_) => ⟨db,s.acknowledged ++ [sequence.toNat]⟩
    | .error _ => s
  | .restart => s

/-- The keys of the stored receipts, in key order. -/
def receipts (db : Db) : List String := (scan db mqttAckPrefix).map Prod.fst

/-- Every number in use has been handed out, and none is both pending and acknowledged. -/
structure Numbered (db : Db) (last : Nat) : Prop where
  counter : LastSequence db last
  pending : ∀ n ≤ u64Max, db.get (mqttOutboxKey n) ≠ none →
    n ≤ last ∧ db.get (mqttAckKey n) = none
  acknowledged : ∀ n ≤ u64Max, db.get (mqttAckKey n) ≠ none → n ≤ last

/-- A store in which receipts are not counted yet: an empty one, or one of an older runtime. -/
structure Uncounted (s : State) : Prop where
  numbered : ∃ last, Numbered s.db last
  uncounted : s.db.get mqttAckCountKey = none
  few : (receipts s.db).length ≤ mqttAckRetention
  known : receipts s.db = s.acknowledged.map mqttAckKey
  bounded : ∀ n ∈ s.acknowledged, n ≤ u64Max

structure Kept (s : State) : Prop where
  numbered : ∃ last, Numbered s.db last
  counted : mqttAcknowledgementCount s.db = .ok (receipts s.db).length
  few : (receipts s.db).length ≤ mqttAckRetention
  recent : s.acknowledged.Pairwise (· < ·) →
    receipts s.db = (s.acknowledged.rtake mqttAckRetention).map mqttAckKey
  bounded : ∀ n ∈ s.acknowledged, n ≤ u64Max

theorem mqttAckKey_lt (hlt : left < right) (hr : right ≤ u64Max) :
    mqttAckKey left < mqttAckKey right :=
  append_lt_append_left _ (padded_lt 20 hlt (lt_of_le_of_lt hr (by decide)))

theorem mqttAckKey_inj (hl : left ≤ u64Max) (hr : right ≤ u64Max)
    (h : mqttAckKey left = mqttAckKey right) : left = right := by
  rcases Nat.lt_trichotomy left right with hlt | heq | hlt
  · exact absurd h (mqttAckKey_lt hlt hr).ne
  · exact heq
  · exact absurd h.symm (mqttAckKey_lt hlt hl).ne

@[simp] theorem mqttAckKey_inside (n : Nat) : hasPrefix mqttAckPrefix (mqttAckKey n) = true :=
  hasPrefix_append _ _

@[simp] theorem mqttAckCountKey_outside :
    hasPrefix mqttAckPrefix mqttAckCountKey = false := by decide

@[simp] theorem mqttOutboxKey_outside (n : Nat) :
    hasPrefix mqttAckPrefix (mqttOutboxKey n) = false :=
  hasPrefix_disjoint (mqttOutboxKey_inside n) (by decide) (by decide)

theorem receipts_sorted (db : Db) : (receipts db).Pairwise (· < ·) := by
  rw [receipts,scan_eq_within]
  exact pairwise_map.mpr (within_sorted _ _)

theorem receipts_nodup (db : Db) : (receipts db).Nodup := (receipts_sorted db).imp ne_of_lt

@[simp] theorem mem_receipts : key ∈ receipts db ↔
    db.get key ≠ none ∧ hasPrefix mqttAckPrefix key = true := by
  rw [receipts,scan_eq_within,Option.ne_none_iff_exists']
  simp

variable {before after : Db}

theorem receipts_congr
    (h : ∀ key, hasPrefix mqttAckPrefix key = true → after.get key = before.get key) :
    receipts after = receipts before := by
  refine Perm.eq_of_pairwise (fun a b _ _ hab hba => absurd hab hba.asymm)
    (receipts_sorted after) (receipts_sorted before) ?_
  refine (perm_ext_iff_of_nodup (receipts_nodup _) (receipts_nodup _)).mpr fun key => ?_
  rw [mem_receipts,mem_receipts]
  exact and_congr_left fun hk => by rw [h key hk]

theorem oldest_eq_head (db : Db) : oldestMqttAcknowledgementKey db = (receipts db).head? := by
  unfold oldestMqttAcknowledgementKey receipts scan
  cases db.iterateFrom mqttAckPrefix with
  | nil => rfl
  | cons item items =>
    cases hi : hasPrefix mqttAckPrefix item.1 with
    | false => simp [hi,Option.filter]
    | true => simp [hi,Option.filter]

variable {db after : Db} {count : Nat}

theorem acknowledge_inversion (h : acknowledgeMqttMessage db n now = .ok (after,receipt)) :
    db.get (mqttOutboxKey n) ≠ none ∧ ∃ count, mqttAcknowledgementCount db = .ok count ∧
      after = db.write (.delete (mqttOutboxKey n) ::
        .put (mqttAckKey n) (.acknowledgement receipt) :: retention db count) := by
  unfold acknowledgeMqttMessage at h
  obtain ⟨value,hv,h⟩ := bind_eq_ok.mp h
  obtain ⟨entry,-,h⟩ := bind_eq_ok.mp h
  obtain ⟨count,hc,h⟩ := bind_eq_ok.mp h
  cases h
  exact ⟨by rw [context_eq_ok.mp hv]; exact Option.some_ne_none _,count,hc,rfl⟩

/-- The receipts after an acknowledgement: the new one, and those before it without the first
when there were as many as are kept. -/
theorem receipts_acknowledge (hn : db.get (mqttAckKey n) = none)
    (hf : (receipts db).length ≤ mqttAckRetention) (receipt : StoredValue) :
    (receipts (db.write (.delete (mqttOutboxKey n) :: .put (mqttAckKey n) receipt ::
      retention db (receipts db).length))).Perm
    (mqttAckKey n :: (receipts db).drop ((receipts db).length + 1 - mqttAckRetention)) := by
  have hnew : mqttAckKey n ∉ receipts db := fun hm => (mem_receipts.mp hm).1 hn
  have hget : ∀ key, hasPrefix mqttAckPrefix key = true →
      (((db.delete (mqttOutboxKey n)).put (mqttAckKey n) receipt).get key ≠ none ↔
        key = mqttAckKey n ∨ key ∈ receipts db) := by
    intro key hk
    rw [get_put,mem_receipts,get_delete_of_ne _ (ne_of_hasPrefix hk (mqttOutboxKey_outside n))]
    split <;> simp [*]
  refine (perm_ext_iff_of_nodup (receipts_nodup _) ?_).mpr fun key => ?_
  · exact nodup_cons.mpr ⟨fun hm => hnew (mem_of_mem_drop hm),
      (receipts_nodup db).sublist (drop_sublist _ _)⟩
  rw [mem_receipts]
  by_cases hk : hasPrefix mqttAckPrefix key = true
  swap
  · have hne : key ≠ mqttAckKey n := fun heq => hk (heq ▸ mqttAckKey_inside n)
    exact iff_of_false (fun hm => hk hm.2) fun hm => (mem_cons.mp hm).elim hne fun hm =>
      hk (mem_receipts.mp (mem_of_mem_drop hm)).2
  have hc := ne_of_hasPrefix hk mqttAckCountKey_outside
  simp only [hk,and_true,write_cons,apply_delete,apply_put,retention,mem_cons]
  split
  · next hfull =>
    rw [show (receipts db).length + 1 - mqttAckRetention = 1 by omega,oldest_eq_head]
    have hnd := receipts_nodup db
    cases hr : receipts db with
    | nil =>
      rw [hr] at hfull
      exact absurd hfull (by decide)
    | cons first rest =>
      rw [hr] at hnew hget hnd
      have hg := hget key hk
      simp only [head?_cons,Option.map_some,Option.toList_some,singleton_append,
        write_cons,write_nil,apply_delete,apply_put,
        drop_one,tail_cons,get_put_of_ne _ _ hc,get_delete]
      grind
  · next hroom =>
    rw [show (receipts db).length + 1 - mqttAckRetention = 0 by omega,drop_zero]
    simpa only [write_cons,write_nil,apply_put,get_put_of_ne _ _ hc] using hget key hk

theorem count_acknowledge (hf : count ≤ mqttAckRetention) (ops : List (WriteOp _ _)) :
    mqttAcknowledgementCount (db.write (ops ++ retention db count)) =
      .ok (min (count + 1) mqttAckRetention) := by
  unfold retention
  split
  · next hfull =>
    rw [← append_assoc,write_append]
    simp [mqttAcknowledgementCount,show count = mqttAckRetention by omega]
  · next hroom =>
    have hmax : mqttAckRetention ≤ u64Max := by decide
    rw [write_append]
    simp [mqttAcknowledgementCount,show min (count + 1) u64Max = count + 1 by omega,
      show min (count + 1) mqttAckRetention = count + 1 by omega]

theorem rtake_concat (items : List α) (item : α) (hk : 0 < k) : (items ++ [item]).rtake k =
      (items.rtake k).drop ((items.rtake k).length + 1 - k) ++ [item] := by
  unfold rtake
  rw [length_append,length_singleton,drop_append_of_le_length (by omega), drop_drop,length_drop]
  congr 2
  omega

theorem Uncounted.kept (h : Uncounted s) : Kept s where
  numbered := h.numbered
  counted := by
    have hmax : mqttAckRetention ≤ u64Max := by decide
    have hf := h.few
    simp only [mqttAcknowledgementCount,h.uncounted]
    rw [receipts,length_map] at *
    rw [Nat.min_eq_left (by omega)]
  few := h.few
  recent := by
    intro _
    have hf := h.few
    rw [h.known,length_map] at hf
    rw [h.known,rtake,Nat.sub_eq_zero_of_le hf,drop_zero]
  bounded := h.bounded

theorem count_congr (hr : receipts after = receipts before)
    (hc : after.get mqttAckCountKey = before.get mqttAckCountKey) :
    mqttAcknowledgementCount after = mqttAcknowledgementCount before := by
  have hl := congrArg length hr
  simp only [receipts,length_map] at hl
  simp [mqttAcknowledgementCount,hc,hl]

/-- The store after a message was queued under the next number. -/
def queued (db : Db) (last : Nat) (entry : StoredValue) : Db :=
  (db.put mqttOutboxSequenceKey (.counter (last + 1))).put (mqttOutboxKey (last + 1)) entry

theorem queued_elsewhere (entry : StoredValue) (hk : hasPrefix mqttAckFamily key = true) :
    (queued db last entry).get key = db.get key := by
  rw [queued,get_put_of_ne _ _ (ne_of_hasPrefix (mqttOutboxKey_inside _)
    (outside_outbox_of_ack hk)).symm,get_put_of_ne _ _ (ne_of_hasPrefix hk (by decide))]

theorem Numbered.enqueue (h : Numbered db last) (hr : last < u64Max) (entry : StoredValue) :
    Numbered (queued db last entry) (last + 1) := by
  have hack : ∀ n, (queued db last entry).get (mqttAckKey n) = db.get (mqttAckKey n) :=
    fun n => queued_elsewhere entry (hasPrefix_trans (by decide) (mqttAckKey_inside n))
  have hfresh : db.get (mqttAckKey (last + 1)) = none := by
    by_contra hne
    have := h.acknowledged _ hr hne
    omega
  refine ⟨.inl ?_,fun n hn hp => ?_,fun n hn ha => ?_⟩
  · rw [queued,get_put_of_ne _ _ (ne_of_hasPrefix (mqttOutboxKey_inside _)
      mqttOutboxSequenceKey_outside).symm,get_put_self]
  · rw [hack]
    by_cases heq : n = last + 1
    · exact ⟨heq.le,heq ▸ hfresh⟩
    · rw [queued,get_put_of_ne _ _ (mqttOutboxKey_ne hn hr heq),get_put_of_ne _ _
        (ne_of_hasPrefix (mqttOutboxKey_inside n) mqttOutboxSequenceKey_outside)] at hp
      obtain ⟨hle,hno⟩ := h.pending n hn hp
      exact ⟨by omega,hno⟩
  · rw [hack] at ha
    exact Nat.le_succ_of_le (h.acknowledged n hn ha)

theorem enqueue_kept (h : Kept s) (msg : MqttPublishMessage) (now : Time) :
    Kept (step s (.enqueue msg now)) := by
  obtain ⟨last,hl⟩ := h.numbered
  by_cases hr : last < u64Max
  · simp only [step,enqueueMqttMessage,nextMqttSequence_eq hl.counter hr,ok_bind,pure,Except.pure,
      write_cons,write_nil,apply_put]
    generalize StoredValue.outboxEntry _ = entry
    change Kept { s with db := queued s.db last entry }
    have hre : receipts (queued s.db last entry) = receipts s.db := receipts_congr fun key hk =>
      queued_elsewhere entry (hasPrefix_trans (by decide) hk)
    refine ⟨⟨last + 1,hl.enqueue hr _⟩,?_,?_,?_,h.bounded⟩
    · rw [count_congr hre (queued_elsewhere entry mqttAckCountKey_inside),hre]
      exact h.counted
    · rw [hre]
      exact h.few
    · rw [hre]
      exact h.recent
  · obtain ⟨why,hw⟩ := nextMqttSequence_exhausted hl.counter hr
    simp only [step,enqueueMqttMessage,hw,error_bind]
    exact h

theorem Numbered.acknowledge (h : Numbered db last) (hn : n ≤ u64Max)
    (hp : db.get (mqttOutboxKey n) ≠ none)
    (ho : ∀ key, hasPrefix mqttAckFamily key = false →
      after.get key = (db.delete (mqttOutboxKey n)).get key)
    (hr : ∀ key ∈ receipts after, key = mqttAckKey n ∨ key ∈ receipts db) :
    Numbered after last := by
  have hack : ∀ m ≤ u64Max, after.get (mqttAckKey m) ≠ none →
      m = n ∨ db.get (mqttAckKey m) ≠ none := by
    intro m hm ha
    rcases hr _ (mem_receipts.mpr ⟨ha,mqttAckKey_inside m⟩) with heq | hre
    · exact .inl (mqttAckKey_inj hm hn heq)
    · exact .inr (mem_receipts.mp hre).1
  have hout : ∀ m, hasPrefix mqttAckFamily (mqttOutboxKey m) = false := fun m =>
    hasPrefix_disjoint (mqttOutboxKey_inside m) (by decide) (by decide)
  refine ⟨?_,fun m hm hpe => ?_,fun m hm ha => ?_⟩
  · have hs := ho mqttOutboxSequenceKey (by decide)
    rw [get_delete_of_ne _ (ne_of_hasPrefix (mqttOutboxKey_inside _)
      mqttOutboxSequenceKey_outside).symm] at hs
    unfold LastSequence
    rw [hs]
    exact h.counter
  · rw [ho _ (hout m),get_delete] at hpe
    split at hpe
    · exact absurd rfl hpe
    · next hne =>
      obtain ⟨hle,hno⟩ := h.pending m hm hpe
      refine ⟨hle,by_contra fun ha => ?_⟩
      rcases hack m hm ha with rfl | ha
      · exact hne rfl
      · exact ha hno
  · rcases hack m hm ha with rfl | ha
    · exact (h.pending m hm hp).1
    · exact h.acknowledged m hm ha

private theorem keys_sorted {numbers : List Nat} (hs : numbers.Pairwise (· < ·))
    (hb : ∀ n ∈ numbers, n ≤ u64Max) :
    (numbers.map mqttAckKey).Pairwise (· < ·) :=
  pairwise_map.mpr (hs.imp_of_mem fun _ hr hlt => mqttAckKey_lt hlt (hb _ hr))

private theorem acknowledge_kept (h : Kept s) (n : UInt64) (now : Time) :
    Kept (step s (.acknowledge n now)) := by
  have hn : n.toNat ≤ u64Max := Nat.le_of_lt_succ n.toNat_lt
  simp only [step]
  split
  · next after receipt ha =>
    obtain ⟨last,hl⟩ := h.numbered
    obtain ⟨hp,count,hc,haf⟩ := acknowledge_inversion ha
    rw [h.counted] at hc
    cases hc
    have hperm := receipts_acknowledge (hl.pending _ hn hp).2 h.few (.acknowledgement receipt)
    rw [← haf] at hperm
    have hb : ∀ m ∈ s.acknowledged ++ [n.toNat], m ≤ u64Max := by
      intro m hm
      rcases mem_append.mp hm with hm | hm
      · exact h.bounded m hm
      · rwa [mem_singleton.mp hm]
    have hpos : 0 < mqttAckRetention := by decide
    have hf := h.few
    have hlen : (receipts after).length = min ((receipts s.db).length + 1) mqttAckRetention := by
      rw [hperm.length_eq,length_cons,length_drop]
      omega
    refine ⟨⟨last,hl.acknowledge hn hp (fun key hk => ?_) fun key hk => ?_⟩,?_,
      hlen ▸ Nat.min_le_right _ _,fun hs => ?_,hb⟩
    · rw [haf,write_cons,apply_delete]
      refine get_write_of_untouched _ _ _ fun op hop => ?_
      rcases mem_cons.mp hop with rfl | hop
      · exact ne_of_hasPrefix (hasPrefix_trans (by decide) (mqttAckKey_inside _)) hk
      · exact ne_of_hasPrefix (retention_inside _ _ op hop) hk
    · exact (mem_cons.mp (hperm.mem_iff.mp hk)).imp_right mem_of_mem_drop
    · rw [hlen,haf]
      exact count_acknowledge h.few [.delete _,.put _ _]
    · -- both lists are in key order, so being permutations of each other they are equal
      have hold := h.recent (pairwise_append.mp hs).1
      refine Perm.eq_of_pairwise (fun a b _ _ hab hba => absurd hab hba.asymm)
        (receipts_sorted after) (keys_sorted (hs.sublist (drop_sublist _ _)) fun m hm =>
          hb m (mem_of_mem_drop hm)) (hperm.trans ?_)
      rw [rtake_concat _ _ hpos,map_append,map_drop,hold,length_map]
      exact (perm_append_singleton _ _).symm
  · exact h

theorem step_kept (h : Kept s) (ev : Event) : Kept (step s ev) := by
  cases ev with
  | enqueue msg now => exact enqueue_kept h msg now
  | acknowledge n now => exact acknowledge_kept h n now
  | restart => exact h

/-- From a store whose receipts are not counted yet, after any events, the count is the number of
receipts, a stored counter says the same, at most as many as the retention limit are kept, and
they are the most recent ones as long as messages were acknowledged in sequence order. -/
theorem receipts_retained_exactly (s : State) (h : Uncounted s) (events : List Event) :
    let after := events.foldl step s
    mqttAcknowledgementCount after.db = .ok (receipts after.db).length ∧
    (∀ value, after.db.get mqttAckCountKey = some value →
      value = .counter (receipts after.db).length) ∧
    (receipts after.db).length ≤ 1000 ∧
    (after.acknowledged.Pairwise (· < ·) →
      receipts after.db = (after.acknowledged.rtake 1000).map mqttAckKey) := by
  have hk : Kept (events.foldl step s) :=
    foldlRecOn events step h.kept fun _ hb ev _ => step_kept hb ev
  refine ⟨hk.counted,fun value hv => ?_,hk.few,hk.recent⟩
  have hc := hk.counted
  simp only [mqttAcknowledgementCount,hv] at hc
  cases value with
  | counter count => rw [Except.ok.inj hc]
  | _ => cases hc

theorem empty_store_uncounted : Uncounted ⟨empty,[]⟩ where
  numbered := ⟨0,.inr ⟨rfl,rfl⟩,fun _ _ hp => absurd rfl hp,fun _ _ ha => absurd rfl ha⟩
  uncounted := rfl
  few := Nat.zero_le _
  known := rfl
  bounded := by simp

/-- The store of an older runtime has the receipts and no count of them. -/
theorem Kept.uncounted (h : Kept s) (ho : s.acknowledged.Pairwise (· < ·))
    (hl : s.acknowledged.length ≤ mqttAckRetention) :
    Uncounted { s with db := s.db.delete mqttAckCountKey } := by
  have hg : ∀ key ≠ mqttAckCountKey, (s.db.delete mqttAckCountKey).get key = s.db.get key :=
    fun _ hk => get_delete_of_ne _ hk
  have hne : ∀ n, mqttAckKey n ≠ mqttAckCountKey := fun n =>
    ne_of_hasPrefix (mqttAckKey_inside n) mqttAckCountKey_outside
  have hr : receipts (s.db.delete mqttAckCountKey) = receipts s.db :=
    receipts_congr fun _ hk => hg _ (ne_of_hasPrefix hk mqttAckCountKey_outside)
  refine ⟨?_,get_delete_self _ _,hr ▸ h.few,?_,h.bounded⟩
  · obtain ⟨last,hc,hp,ha⟩ := h.numbered
    refine ⟨last,?_,fun n hn => ?_,fun n hn => ?_⟩
    · rw [LastSequence,hg _ (by decide)]
      exact hc
    · rw [hg _ (ne_of_hasPrefix (mqttOutboxKey_inside n) (by decide)),hg _ (hne n)]
      exact hp n hn
    · rw [hg _ (hne n)]
      exact ha n hn
  · rw [hr,h.recent ho,rtake,Nat.sub_eq_zero_of_le hl,drop_zero]

def reading (payload : UInt8) : Event := .enqueue ⟨"sink","broker","edge","plant",1,[payload]⟩ 0

def olderStore : State :=
  let s := [reading 50,reading 51,.acknowledge 1 5].foldl step ⟨empty,[]⟩
  { s with db := s.db.delete mqttAckCountKey }

theorem older_receipts_retained : receipts olderStore.db = [mqttAckKey 1] ∧
    receipts ([Event.restart,.acknowledge 2 7].foldl step olderStore).db =
      [mqttAckKey 1,mqttAckKey 2] := by
  have hk : Kept ([reading 50,reading 51,.acknowledge 1 5].foldl step ⟨empty,[]⟩) :=
    foldlRecOn _ step empty_store_uncounted.kept fun _ hb ev _ => step_kept hb ev
  refine ⟨by decide +kernel,?_⟩
  exact (receipts_retained_exactly olderStore (hk.uncounted (by decide +kernel) (by decide +kernel))
    [.restart,.acknowledge 2 7]).2.2.2 (by decide +kernel)

end VelaEdge.Runtime.Receipts
