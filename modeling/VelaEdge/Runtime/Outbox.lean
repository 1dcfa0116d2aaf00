import VelaEdge.Runtime.LocalDb

/-! The persistent MQTT outbox: queueing a message, reading what is pending, moving a published
message to a receipt, counting a failed attempt, and the flush loop over them. -/
namespace VelaEdge.Runtime.Outbox

open Base Core LocalDb List Text OrderedMap

/-- The entries under a key family, as a forward iterator started at the family's name sees
them. -/
def scan (db : Db) (family : String) : List (String × StoredValue) :=
  (db.iterateFrom family).takeWhile (fun item => hasPrefix family item.1)

def nextMqttSequence (db : Db) : Except String Nat := do
  let current ← match db.get mqttOutboxSequenceKey with
    | none => pure 0
    | some (.counter value) => pure value
    | some _ => throw "mqtt outbox sequence is invalid"
  bailIf (u64Max ≤ current) "mqtt outbox sequence is exhausted"
  pure (current + 1)

def newEntry (sequence : Nat) (message : MqttPublishMessage) (now : Time) : MqttOutboxEntry where
  sequence := sequence
  enqueuedAt := now
  attempts := 0
  lastError := none
  message := message

def enqueueMqttMessage (db : Db) (message : MqttPublishMessage) (now : Time) :
    Except String (Db × Nat) := do
  let sequence ← nextMqttSequence db
  pure (db.write [.put mqttOutboxSequenceKey (.counter sequence),
    .put (mqttOutboxKey sequence) (.outboxEntry (newEntry sequence message now))],sequence)

def decodeOutboxEntry : StoredValue → Except String MqttOutboxEntry
  | .outboxEntry entry => .ok entry
  | _ => .error "failed to decode mqtt outbox entry"

/-- The reading loop: it stops at the first key outside the outbox, or once it has `limit`
entries. -/
def collectPending (limit : Nat) :
    List (String × StoredValue) → List MqttOutboxEntry → Except String (List MqttOutboxEntry)
  | [], entries => .ok entries
  | (key,value) :: items, entries =>
    if !hasPrefix mqttOutboxPrefix key then .ok entries
    else do
      let entry ← decodeOutboxEntry value
      if (entries ++ [entry]).length = limit then .ok (entries ++ [entry])
      else collectPending limit items (entries ++ [entry])

def pendingMqttMessages (db : Db) (limit : Nat) : Except String (List MqttOutboxEntry) :=
  collectPending limit (db.iterateFrom mqttOutboxPrefix) []

def mqttAcknowledgementCount (db : Db) : Except String Nat := match db.get mqttAckCountKey with
  | some (.counter value) => .ok value
  | some _ => .error "mqtt acknowledgement count is invalid"
  | none => .ok (min (scan db mqttAckPrefix).length u64Max)

def oldestMqttAcknowledgementKey (db : Db) : Option String :=
  ((db.iterateFrom mqttAckPrefix).head?.map Prod.fst).filter (hasPrefix mqttAckPrefix)

def acknowledgementOf (sequence : Nat) (entry : MqttOutboxEntry) (now : Time) :
    MqttPublishAcknowledgement where
  sequence := sequence
  acknowledgedAt := now
  sinkId := entry.message.sinkId
  broker := entry.message.broker
  clientId := entry.message.clientId
  topic := entry.message.topic
  qos := entry.message.qos
  payloadBytes := entry.message.payload.length

/-- Beyond the retention limit the oldest receipt makes room for the new one. -/
def retention (db : Db) (count : Nat) : List (WriteOp String StoredValue) :=
  if mqttAckRetention ≤ count then
    ((oldestMqttAcknowledgementKey db).map .delete).toList ++
      [.put mqttAckCountKey (.counter count)]
  else [.put mqttAckCountKey (.counter (min (count + 1) u64Max))]

def acknowledgeMqttMessage (db : Db) (sequence : Nat) (now : Time) :
    Except String (Db × MqttPublishAcknowledgement) := do
  let value ← context (db.get (mqttOutboxKey sequence))
    s!"mqtt outbox entry {sequence} does not exist"
  let entry ← decodeOutboxEntry value
  let acknowledgement := acknowledgementOf sequence entry now
  let count ← mqttAcknowledgementCount db
  pure (db.write (.delete (mqttOutboxKey sequence) ::
    .put (mqttAckKey sequence) (.acknowledgement acknowledgement) ::
    retention db count),acknowledgement)

def failedEntry (error : String) (entry : MqttOutboxEntry) : MqttOutboxEntry :=
  { entry with attempts := min (entry.attempts + 1) u32Max, lastError := some error }

def markMqttMessageFailed (db : Db) (sequence : Nat) (error : String) : Except String Db := do
  let value ← context (db.get (mqttOutboxKey sequence))
    s!"mqtt outbox entry {sequence} does not exist"
  let entry ← decodeOutboxEntry value
  pure (db.put (mqttOutboxKey sequence) (.outboxEntry (failedEntry error entry)))

structure Flushed (σ : Type) where
  db : Db
  publisher : σ
  result : Except String Nat

section Flush

variable {σ : Type} (publish : σ → MqttPublishMessage → σ × Except String Unit)

def flushEntries (now : Time) : List MqttOutboxEntry → Nat → Db → σ → Flushed σ
  | [], published, db, publisher => ⟨db,publisher,.ok published⟩
  | entry :: entries, published, db, publisher =>
    match publish publisher entry.message with
    | (publisher,.error error) =>
      match markMqttMessageFailed db entry.sequence error with
      | .error reason => ⟨db,publisher,.error reason⟩
      | .ok db => ⟨db,publisher,.error s!"failed to publish queued mqtt message {
          entry.sequence} to {entry.message.topic}"⟩
    | (publisher,.ok ()) =>
      match acknowledgeMqttMessage db entry.sequence now with
      | .error reason => ⟨db,publisher,.error reason⟩
      | .ok (db,_) => flushEntries now entries (published + 1) db publisher

def flushMqttOutbox (now : Time) (db : Db) (publisher : σ) : Flushed σ :=
  match pendingMqttMessages db u64Max with
  | .error reason => ⟨db,publisher,.error reason⟩
  | .ok entries => flushEntries publish now entries 0 db publisher

end Flush

/-! Where the keys lie: the outbox, its counter and its receipts share no key, and nothing else
in the store starts with `mqtt-`. -/

def mqttFamily : String := "mqtt-"
def mqttAckFamily : String := "mqtt-ack"

@[simp] theorem mqttOutboxKey_inside (sequence : Nat) :
    hasPrefix mqttOutboxPrefix (mqttOutboxKey sequence) = true :=
  hasPrefix_append _ _

theorem mqttOutboxKey_lt (hlt : left < right) (hr : right ≤ u64Max) :
    mqttOutboxKey left < mqttOutboxKey right := by
  have hb : right < 10 ^ 20 := lt_of_le_of_lt hr (by decide)
  exact append_lt_append_left _ (padded_lt 20 hlt hb)

theorem mqttOutboxKey_ne (hl : left ≤ u64Max) (hr : right ≤ u64Max) (hne : left ≠ right) :
    mqttOutboxKey left ≠ mqttOutboxKey right := by
  rcases Nat.lt_or_gt_of_ne hne with hlt | hlt
  · exact (mqttOutboxKey_lt hlt hr).ne
  · exact (mqttOutboxKey_lt hlt hl).ne'

variable {key : String}

theorem outside_outbox_of_ack (h : hasPrefix mqttAckFamily key = true) :
    hasPrefix mqttOutboxPrefix key = false :=
  hasPrefix_disjoint h (by decide) (by decide)

theorem mqttFamily_of_ack (h : hasPrefix mqttAckFamily key = true) :
    hasPrefix mqttFamily key = true :=
  hasPrefix_trans (by decide) h

theorem mqttFamily_of_outbox (h : hasPrefix mqttOutboxPrefix key = true) :
    hasPrefix mqttFamily key = true :=
  hasPrefix_trans (by decide) h

@[simp] theorem mqttOutboxSequenceKey_outside :
    hasPrefix mqttOutboxPrefix mqttOutboxSequenceKey = false := by decide

@[simp] theorem mqttFamily_of_sequence :
    hasPrefix mqttFamily mqttOutboxSequenceKey = true := by decide

@[simp] theorem mqttAckCountKey_inside : hasPrefix mqttAckFamily mqttAckCountKey = true := by decide

theorem ne_of_hasPrefix {start key other : String} (h : hasPrefix start key = true)
    (ho : hasPrefix start other = false) : key ≠ other := by
  intro heq
  rw [heq,ho] at h
  cases h

theorem retention_inside (db : Db) (count : Nat) :
    ∀ op ∈ retention db count, hasPrefix mqttAckFamily op.key = true := by
  intro op hop
  unfold retention at hop
  split at hop
  · rcases mem_append.mp hop with hd | hp
    · cases ho : oldestMqttAcknowledgementKey db with
      | none => simp [ho] at hd
      | some key =>
        simp only [ho,Option.map_some,Option.toList_some,mem_singleton] at hd
        rw [hd]
        unfold oldestMqttAcknowledgementKey at ho
        exact hasPrefix_trans (by decide) (Option.filter_eq_some_iff.mp ho).2
    · rw [mem_singleton.mp hp]
      exact mqttAckCountKey_inside
  · rw [mem_singleton.mp hop]
    exact mqttAckCountKey_inside

/-! What the outbox part of a store holds. -/

def stored (entry : MqttOutboxEntry) : String × StoredValue :=
  (mqttOutboxKey entry.sequence,.outboxEntry entry)

/-- The outbox keys of a store are exactly these entries, in sequence order. -/
structure Holds (db : Db) (entries : List MqttOutboxEntry) : Prop where
  within : db.within (hasPrefix mqttOutboxPrefix) = entries.map stored
  increasing : entries.Pairwise (fun left right => left.sequence < right.sequence)
  bounded : ∀ entry ∈ entries, 0 < entry.sequence ∧ entry.sequence ≤ u64Max

def Countable (db : Db) : Prop := ∃ count, mqttAcknowledgementCount db = .ok count

def LastSequence (db : Db) (last : Nat) : Prop :=
  db.get mqttOutboxSequenceKey = some (.counter last) ∨
    (db.get mqttOutboxSequenceKey = none ∧ last = 0)

def SameElsewhere (before after : Db) : Prop :=
  ∀ key, hasPrefix mqttFamily key = false → after.get key = before.get key

variable {db : Db} {entries : List MqttOutboxEntry}

theorem Holds.get (h : Holds db entries) (he : entry ∈ entries) :
    db.get (mqttOutboxKey entry.sequence) = some (.outboxEntry entry) := by
  have hm : stored entry ∈ db.within (hasPrefix mqttOutboxPrefix) := by
    rw [h.within]
    exact mem_map_of_mem he
  exact ((mem_within _ _ _).mp hm).1

theorem Holds.length_le (h : Holds db entries) : entries.length ≤ u64Max := by
  have hn : (entries.map (fun entry => entry.sequence)).Nodup :=
    pairwise_map.mpr (h.increasing.imp fun hlt => hlt.ne)
  have hsu : entries.map (fun entry => entry.sequence) ⊆ List.range' 1 u64Max := by
    intro sequence hs
    obtain ⟨entry,he,rfl⟩ := mem_map.mp hs
    have hb := h.bounded entry he
    rw [mem_range'_1]
    omega
  have hl := (subperm_of_subset hn hsu).length_le
  rwa [length_map,length_range'] at hl

private theorem collectPending_stored (limit : Nat) (items : List (String × StoredValue))
    (entries found : List MqttOutboxEntry)
    (h : items.takeWhile (fun item => hasPrefix mqttOutboxPrefix item.1) =
      entries.map stored) (hl : found.length + entries.length ≤ limit) :
    collectPending limit items found = .ok (found ++ entries) := by
  induction items generalizing entries found with
  | nil =>
    rw [takeWhile_nil,eq_comm,map_eq_nil_iff] at h
    rw [h,append_nil]
    rfl
  | cons item items ih =>
    cases hi : hasPrefix mqttOutboxPrefix item.1 with
    | false =>
      rw [takeWhile_cons_of_neg (by simp [hi]),eq_comm,map_eq_nil_iff] at h
      simp [collectPending,hi,h]
    | true =>
      rw [takeWhile_cons_of_pos (by simpa using hi)] at h
      cases entries with
      | nil => cases h
      | cons entry entries =>
        rw [map_cons,List.cons.injEq] at h
        rw [length_cons] at hl
        have hn := ih entries (found ++ [entry]) h.2 (by
          rw [length_append,length_singleton]
          omega)
        rw [append_assoc,singleton_append] at hn
        obtain ⟨rfl,hr⟩ := h
        simp only [collectPending,stored,mqttOutboxKey_inside,decodeOutboxEntry]
        simp only [Bool.not_true,Bool.false_eq_true,if_false,ok_bind]
        split
        · next hf =>
          -- the limit was hit at the very last entry
          rw [length_append,length_singleton] at hf
          have hni : entries = [] := eq_nil_of_length_eq_zero (by omega)
          rw [hni]
        · exact hn

theorem scan_eq_within (db : Db) (family : String) :
    scan db family = db.within (hasPrefix family) :=
  iterateFrom_takeWhile db (fun _ => le_of_hasPrefix)
    (fun _ _ hle ho hlt => hasPrefix_convex hle ho hlt)

theorem Holds.pending (h : Holds db entries) : pendingMqttMessages db u64Max = .ok entries := by
  have hs := scan_eq_within db mqttOutboxPrefix
  rw [h.within] at hs
  exact collectPending_stored u64Max (db.iterateFrom mqttOutboxPrefix) entries [] hs
    (by simpa using h.length_le)

theorem countable_of_get_eq {before after : Db} (h : Countable before)
    (heq : after.get mqttAckCountKey = before.get mqttAckCountKey) : Countable after := by
  obtain ⟨count,hc⟩ := h
  unfold Countable
  unfold mqttAcknowledgementCount at *
  rw [heq]
  split at hc
  · exact ⟨_,rfl⟩
  · cases hc
  · exact ⟨_,rfl⟩

theorem nextMqttSequence_eq (h : LastSequence db last) (hr : last < u64Max) :
    nextMqttSequence db = .ok (last + 1) := by
  unfold nextMqttSequence
  rcases h with h | ⟨h,rfl⟩
  · simp [h,bailIf,Nat.not_le.mpr hr]
  · simp [h,bailIf,Nat.not_le.mpr hr]

theorem nextMqttSequence_exhausted (h : LastSequence db last) (hr : ¬ last < u64Max) :
    ∃ why, nextMqttSequence db = .error why := by
  unfold nextMqttSequence
  rcases h with h | ⟨h,rfl⟩
  · exact ⟨"mqtt outbox sequence is exhausted",by simp [h,bailIf,Nat.not_lt.mp hr]⟩
  · exact absurd (by decide) hr

theorem enqueue_writes {sequence : Nat} {after : Db} {msg : MqttPublishMessage}
    (h : enqueueMqttMessage db msg now = .ok (after,sequence)) :
    ∃ batch, after = db.write batch ∧ ∀ op ∈ batch, hasPrefix mqttFamily op.key = true := by
  unfold enqueueMqttMessage at h
  obtain ⟨number,-,h⟩ := bind_eq_ok.mp h
  cases h
  refine ⟨_,rfl,?_⟩
  intro op hop
  rcases mem_cons.mp hop with rfl | hop
  · exact mqttFamily_of_sequence
  · rw [mem_singleton.mp hop]
    exact mqttFamily_of_outbox (mqttOutboxKey_inside _)

structure Enqueued (before after : Db) (entries : List MqttOutboxEntry) (entry : MqttOutboxEntry) :
    Prop where
  holds : Holds after (entries ++ [entry])
  lastSequence : LastSequence after entry.sequence
  countable : Countable before → Countable after
  elsewhere : SameElsewhere before after

theorem enqueue_spec (h : Holds db entries) (hl : LastSequence db last) (hr : last < u64Max)
    (hn : ∀ entry ∈ entries, entry.sequence ≤ last) (msg : MqttPublishMessage) (now : Time) :
    ∃ after, enqueueMqttMessage db msg now = .ok (after,last + 1) ∧
      Enqueued db after entries (newEntry (last + 1) msg now) := by
  refine ⟨_,by rw [enqueueMqttMessage,nextMqttSequence_eq hl hr]; rfl,?_⟩
  have hk : ∀ entry ∈ entries, mqttOutboxKey entry.sequence < mqttOutboxKey (last + 1) := by
    intro entry he
    have := hn entry he
    exact mqttOutboxKey_lt (by omega) (by omega)
  simp only [write_cons,write_nil,apply_put]
  refine ⟨⟨?_,?_,?_⟩,.inl ?_,?_,?_⟩
  · have hc := within_put_of_outside db (.counter (last + 1)) mqttOutboxSequenceKey_outside
    rw [within_put_last _ _ (mqttOutboxKey_inside _),hc,h.within,map_append]
    · rfl
    · rw [hc,h.within]
      intro item hi
      obtain ⟨entry,he,rfl⟩ := mem_map.mp hi
      exact hk entry he
  · refine pairwise_append.mpr ⟨h.increasing,pairwise_singleton _ _,?_⟩
    intro entry he fresh hf
    rw [mem_singleton.mp hf]
    exact Nat.lt_succ_of_le (hn entry he)
  · intro entry he
    rcases mem_append.mp he with he | he
    · exact h.bounded entry he
    · rw [mem_singleton.mp he]
      exact ⟨Nat.succ_pos _,hr⟩
  · rw [get_put_of_ne _ _
      (ne_of_hasPrefix (mqttOutboxKey_inside _) mqttOutboxSequenceKey_outside).symm,
      get_put_self]
    rfl
  · intro hco
    refine countable_of_get_eq hco ?_
    rw [get_put_of_ne,get_put_of_ne _ _ (by decide)]
    exact (ne_of_hasPrefix (mqttOutboxKey_inside _) (by decide)).symm
  · intro key hk
    rw [get_put_of_ne,get_put_of_ne]
    · exact (ne_of_hasPrefix mqttFamily_of_sequence hk).symm
    · exact (ne_of_hasPrefix (mqttFamily_of_outbox (mqttOutboxKey_inside _)) hk).symm

/-- What a successful acknowledgement changes: the entry leaves the outbox. -/
structure Acknowledged (before after : Db) (rest : List MqttOutboxEntry) : Prop where
  holds : Holds after rest
  lastSequence : after.get mqttOutboxSequenceKey = before.get mqttOutboxSequenceKey
  countable : Countable after
  elsewhere : SameElsewhere before after

theorem acknowledge_spec (h : Holds db (entry :: rest)) (hc : Countable db) (now : Time) :
    ∃ after, acknowledgeMqttMessage db entry.sequence now =
        .ok (after,acknowledgementOf entry.sequence entry now) ∧ Acknowledged db after rest := by
  obtain ⟨count,hc⟩ := hc
  have hg := h.get mem_cons_self
  refine ⟨_,by rw [acknowledgeMqttMessage,hg,hc]; rfl,?_⟩
  have hr : ∀ op ∈ WriteOp.put (mqttAckKey entry.sequence)
      (.acknowledgement (acknowledgementOf entry.sequence entry now)) :: retention db count,
      hasPrefix mqttAckFamily op.key = true := by
    intro op hop
    rcases mem_cons.mp hop with rfl | hop
    · exact hasPrefix_trans (by decide) (hasPrefix_append mqttAckPrefix _)
    · exact retention_inside db count op hop
  rw [write_cons,apply_delete]
  obtain ⟨hf,hi⟩ := pairwise_cons.mp h.increasing
  refine ⟨⟨?_,hi,fun other ho => h.bounded other (mem_cons_of_mem _ ho)⟩,?_,?_,?_⟩
  · rw [within_write_of_outside _ _ fun op hop =>
      outside_outbox_of_ack (hr op hop),within_delete,h.within,map_cons,
      filter_cons_of_neg (by simp [stored]),filter_eq_self]
    intro item hit
    obtain ⟨other,ho,rfl⟩ := mem_map.mp hit
    have hlt := hf other ho
    exact decide_eq_true (mqttOutboxKey_ne (h.bounded other (mem_cons_of_mem _ ho)).2
      (h.bounded entry mem_cons_self).2 (by omega))
  · rw [get_write_of_untouched _ _ _ fun op hop =>
      ne_of_hasPrefix (hr op hop) (by decide),get_delete_of_ne]
    exact (ne_of_hasPrefix (mqttOutboxKey_inside _) mqttOutboxSequenceKey_outside).symm
  · -- the batch ends by writing the counter
    have hl : ∃ ops value, retention db count = ops ++ [.put mqttAckCountKey (.counter value)] := by
      unfold retention
      split
      · exact ⟨_,_,rfl⟩
      · exact ⟨[],_,rfl⟩
    obtain ⟨ops,value,hl⟩ := hl
    refine ⟨value,?_⟩
    rw [hl,← cons_append,write_append]
    simp [mqttAcknowledgementCount]
  · intro key hk
    rw [get_write_of_untouched _ _ _ fun op hop =>
      ne_of_hasPrefix (mqttFamily_of_ack (hr op hop)) hk,get_delete_of_ne]
    exact (ne_of_hasPrefix (mqttFamily_of_outbox (mqttOutboxKey_inside _)) hk).symm

/-- What counting a failed attempt changes: nothing but the entry's own attempt record. -/
structure MarkedFailed (before after : Db) (entries : List MqttOutboxEntry) : Prop where
  holds : Holds after entries
  lastSequence : after.get mqttOutboxSequenceKey = before.get mqttOutboxSequenceKey
  countable : Countable before → Countable after
  elsewhere : SameElsewhere before after

theorem markFailed_spec (h : Holds db (entry :: rest)) (error : String) :
    ∃ after, markMqttMessageFailed db entry.sequence error = .ok after ∧
      MarkedFailed db after (failedEntry error entry :: rest) := by
  have hg := h.get mem_cons_self
  refine ⟨_,by rw [markMqttMessageFailed,hg]; rfl,?_⟩
  obtain ⟨hf,hi⟩ := pairwise_cons.mp h.increasing
  refine ⟨⟨?_,pairwise_cons.mpr ⟨hf,hi⟩,?_⟩,?_,?_,?_⟩
  · rw [within_put_present _ _ _ hg,h.within,map_cons,map_cons,map_cons]
    refine congrArg₂ List.cons ?_ ?_
    · simp [stored,failedEntry]
    · conv_rhs => rw [← map_id (rest.map stored)]
      apply map_congr_left
      intro item hit
      obtain ⟨other,ho,rfl⟩ := mem_map.mp hit
      have hlt := hf other ho
      have hne := mqttOutboxKey_ne (h.bounded other (mem_cons_of_mem _ ho)).2
        (h.bounded entry mem_cons_self).2 (by omega)
      simp [stored,hne]
  · intro other ho
    rcases mem_cons.mp ho with rfl | ho
    · exact h.bounded entry mem_cons_self
    · exact h.bounded other (mem_cons_of_mem _ ho)
  · exact get_put_of_ne _ _
      (ne_of_hasPrefix (mqttOutboxKey_inside _) mqttOutboxSequenceKey_outside).symm
  · intro hc
    refine countable_of_get_eq hc (get_put_of_ne _ _ ?_)
    exact (ne_of_hasPrefix (mqttOutboxKey_inside _) (by decide)).symm
  · intro key hk
    exact get_put_of_ne _ _
      (ne_of_hasPrefix (mqttFamily_of_outbox (mqttOutboxKey_inside _)) hk).symm

end VelaEdge.Runtime.Outbox
