import VelaEdge.Base.Runs
import VelaEdge.Runtime.Iec104

/-! Consecutive reads on one IEC 104 adapter: which of them succeed, and which of them return what
the station sent since their interrogation. -/
namespace VelaEdge.Runtime.Iec104

open Base Base.Gathering Core List OrderedMap Effect

def Delivery.points (delivery : Delivery) : List DataPoint := match delivery.polled with
  | .event (.dataUpdate updates) => updates
  | _ => []

/-- The events with which a read stops looking for points: the end of an interrogation of its
station, an error, a broken connection. -/
def Delivery.stops (commonAddress : Nat) (delivery : Delivery) : Bool := match delivery.polled with
  | .failed | .event (.error _) => true
  | .event (.interrogationComplete address) => address = commonAddress
  | .nothing | .event _ => false

def Updates (deliveries : List Delivery) (ioa : Nat) : Prop :=
  ∃ delivery ∈ deliveries, ∃ point ∈ delivery.points, point.ioa = ioa

instance (deliveries : List Delivery) (ioa : Nat) : Decidable (Updates deliveries ioa) :=
  inferInstanceAs (Decidable (∃ delivery ∈ deliveries, ∃ point ∈ delivery.points, point.ioa = ioa))

@[simp] theorem updates_append {second : List Delivery} :
    Updates (first ++ second) ioa ↔ Updates first ioa ∨ Updates second ioa := by
  unfold Updates
  constructor
  · rintro ⟨delivery,hm,hp⟩
    rcases mem_append.mp hm with hm | hm
    · exact .inl ⟨delivery,hm,hp⟩
    · exact .inr ⟨delivery,hm,hp⟩
  · rintro (⟨delivery,hm,hp⟩ | ⟨delivery,hm,hp⟩)
    · exact ⟨delivery,mem_append_left _ hm,hp⟩
    · exact ⟨delivery,mem_append_right _ hm,hp⟩

/-! ## One read -/

/-- How the unread events serve a read: old ones first, then new ones up to the one with which the
read has every requested point. By then the station has sent every one of them again. -/
structure Serves (requested : List Nat) (commonAddress : Nat) (issuedAt : Time)
    (stale early : List Delivery) (last : Delivery) : Prop where
  stale_before : ∀ delivery ∈ stale, delivery.sentAt < issuedAt
  fresh : ∀ delivery ∈ early ++ [last], issuedAt ≤ delivery.sentAt
  in_time : ∀ delivery ∈ stale ++ early ++ [last],
    delivery.arrivesAt ≤ issuedAt + requestTimeout
  unstopped : ∀ delivery ∈ stale ++ early ++ [last], delivery.stops commonAddress = false
  renewed : ∀ ioa ∈ requested, Updates (early ++ [last]) ioa
  waited : ∃ ioa ∈ requested, ¬ Updates (stale ++ early) ioa

def Served (requested : List Nat) (commonAddress : Nat) (issuedAt : Time)
    (unread : List Delivery) : Prop :=
  ∃ stale early last rest, unread = stale ++ early ++ last :: rest ∧
    Serves requested commonAddress issuedAt stale early last

variable {deliveries : List Delivery}

section Loop

variable {requested : List Nat} {address : Nat} {deadline issuedAt : Time}
  {deliveries unread : List Delivery}

variable (delivery : Delivery)

@[simp] theorem effect_continues : (effect address deadline delivery).continues = true ↔
      delivery.arrivesAt ≤ deadline ∧ delivery.stops address = false := by
  unfold effect Delivery.stops
  by_cases hl : deadline < delivery.arrivesAt
  · rw [if_pos hl]
    simp [continues,hl]
  · rw [if_neg hl]
    have ht : delivery.arrivesAt ≤ deadline := not_lt.mp hl
    cases delivery.polled with
    | failed => simp [continues]
    | nothing => simp [continues,ht]
    | event ev =>
      cases ev with
      | dataUpdate updates => simp [continues,ht]
      | interrogationComplete other =>
        by_cases ho : other = address <;> simp [continues,ht,ho]
      | error msg => simp [continues]
      | other => simp [continues,ht]

private theorem effect_values (h : delivery.arrivesAt ≤ deadline) :
    (effect address deadline delivery).values =
      delivery.points.map fun point => (point.ioa,point) := by
  unfold effect Delivery.points
  rw [if_neg (not_lt.mpr h)]
  cases delivery.polled with
  | failed => rfl
  | nothing => rfl
  | event ev =>
    cases ev with
    | dataUpdate updates => rfl
    | interrogationComplete other =>
      by_cases ho : other = address <;> simp [ho,values]
    | error msg => rfl
    | other => rfl

section

variable (h : ∀ delivery ∈ deliveries, delivery.arrivesAt ≤ deadline)
include h

theorem mem_brought_effect : (ioa,point) ∈ brought (effect address deadline) deliveries ↔
      ∃ delivery ∈ deliveries, point ∈ delivery.points ∧ point.ioa = ioa := by
  rw [mem_brought]
  apply exists_congr
  intro delivery
  apply and_congr_right
  intro hm
  rw [effect_values delivery (h delivery hm),mem_map]
  constructor
  · rintro ⟨found,hf,hpa⟩
    cases hpa
    exact ⟨hf,rfl⟩
  · rintro ⟨hp,hi⟩
    exact ⟨point,hp,by rw [hi]⟩

theorem complete_iff_updates : complete requested
        (keep requested empty (brought (effect address deadline) deliveries)) = true ↔
      ∀ ioa ∈ requested, Updates deliveries ioa := by
  rw [complete_keep_empty]
  apply forall₂_congr
  intro ioa _
  constructor
  · rintro ⟨point,hp⟩
    obtain ⟨delivery,hm,hp⟩ := (mem_brought_effect h).mp hp
    exact ⟨delivery,hm,point,hp⟩
  · rintro ⟨delivery,hm,point,hp⟩
    exact ⟨point,(mem_brought_effect h).mpr ⟨delivery,hm,hp⟩⟩

end

def pointsOf (requested : List Nat) (address : Nat) (issuedAt : Time) (taken : List Delivery) :
    OrderedMap Nat DataPoint :=
  keep requested empty (brought (effect address (issuedAt + requestTimeout)) taken)

/-- The point that a read holds for an address is one of a delivery that it took, sent since the
interrogation. -/
def HoldsFresh (issuedAt : Time) (taken : List Delivery) (points : OrderedMap Nat DataPoint)
    (ioa : Nat) : Prop :=
  ∃ point, points.get ioa = some point ∧ point.ioa = ioa ∧
    ∃ delivery ∈ taken, issuedAt ≤ delivery.sentAt ∧ point ∈ delivery.points

section

variable (h : Serves requested address issuedAt stale early last)

include h

theorem Serves.gathered : Gathered (effect address (issuedAt + requestTimeout)) requested empty
      (stale ++ early) last where
  early_continues := by
    intro delivery hm
    have hme := mem_append_left [last] hm
    exact (effect_continues delivery).mpr ⟨h.in_time delivery hme,h.unstopped delivery hme⟩
  last_continues := by
    have hm : last ∈ stale ++ early ++ [last] := by simp
    exact (effect_continues last).mpr ⟨h.in_time last hm,h.unstopped last hm⟩
  early_open := by
    rw [Bool.eq_false_iff,ne_eq,complete_iff_updates]
    · obtain ⟨ioa,hi,hn⟩ := h.waited
      exact fun ha => hn (ha ioa hi)
    · exact fun delivery hm => h.in_time delivery (mem_append_left _ hm)
  last_completes := by
    rw [complete_iff_updates h.in_time]
    intro ioa hi
    rw [append_assoc,updates_append]
    exact .inr (h.renewed ioa hi)

theorem Serves.gather (hu : unread = stale ++ early ++ last :: rest) :
    Gathering.gather (effect address (issuedAt + requestTimeout)) requested empty 0 unread =
      .done (pointsOf requested address issuedAt (stale ++ early ++ [last]))
        (0 + (stale ++ early).length + 1) := by
  rw [hu]
  exact h.gathered.gather

/-- A served read holds what was sent since its interrogation: later values replace earlier ones. -/
theorem Serves.holdsFresh (ioa : Nat) (hi : ioa ∈ requested) :
    HoldsFresh issuedAt (stale ++ early ++ [last])
      (pointsOf requested address issuedAt (stale ++ early ++ [last])) ioa := by
  have hin : ∀ delivery ∈ early ++ [last], delivery.arrivesAt ≤ issuedAt + requestTimeout := by
    intro delivery hm
    apply h.in_time delivery
    rw [append_assoc]
    exact mem_append_right _ hm
  obtain ⟨delivery,hd,renewed,hr⟩ := h.renewed ioa hi
  have hso : (newest ioa (brought (effect address (issuedAt + requestTimeout))
      (early ++ [last]))).isSome = true :=
    newest_isSome.mpr ⟨renewed,(mem_brought_effect hin).mpr ⟨delivery,hd,hr⟩⟩
  obtain ⟨point,hp⟩ := Option.isSome_iff_exists.mp hso
  obtain ⟨src,hs,hm,hk⟩ := (mem_brought_effect hin).mp (mem_of_newest hp)
  refine ⟨point,?_,hk,src,?_,h.fresh src hs,hm⟩
  · rw [pointsOf,get_keep_empty hi,append_assoc,brought_append,newest_append,hp]
    rfl
  · rw [append_assoc]
    exact mem_append_right _ hs

end

private theorem mem_dropWhile_fresh
    (ho : deliveries.Pairwise fun first second => first.sentAt ≤ second.sentAt)
    {delivery : Delivery}
    (hm : delivery ∈ deliveries.dropWhile fun delivery => delivery.sentAt < issuedAt) :
    issuedAt ≤ delivery.sentAt := by
  induction deliveries with
  | nil => cases hm
  | cons first rest ih =>
    rw [dropWhile_cons] at hm
    split at hm
    · exact ih ho.of_cons hm
    · next hf =>
      rw [decide_eq_true_eq,not_lt] at hf
      cases hm with
      | head => exact hf
      | tail _ hm => exact hf.trans (rel_of_pairwise_cons ho hm)

/-- A read that takes every requested point from what was sent since its interrogation was
served. -/
theorem serves_of_gathered (ho : unread.Pairwise fun first second => first.sentAt ≤ second.sentAt)
    (hu : unread = early ++ last :: rest) (hne : requested ≠ [])
    (hg : Gathered (effect address (issuedAt + requestTimeout)) requested empty early last)
    (hf : ∀ ioa ∈ requested, ∃ delivery ∈ early ++ [last], issuedAt ≤ delivery.sentAt ∧
      ∃ point ∈ delivery.points, point.ioa = ioa) : Served requested address issuedAt unread := by
  have hp : ∀ delivery ∈ early ++ [last],
      delivery.arrivesAt ≤ issuedAt + requestTimeout ∧ delivery.stops address = false := by
    intro delivery hm
    apply (effect_continues delivery).mp
    rcases mem_append.mp hm with hm | hm
    · exact hg.early_continues delivery hm
    · rw [mem_singleton.mp hm]
      exact hg.last_continues
  have ht : (early ++ [last]).Pairwise fun first second => first.sentAt ≤ second.sentAt := by
    rw [hu,append_cons] at ho
    exact ho.sublist (sublist_append_left _ _)
  -- something was sent since the interrogation, so the last delivery was
  have hl : issuedAt ≤ last.sentAt := by
    obtain ⟨ioa,hi⟩ := exists_mem_of_ne_nil _ hne
    obtain ⟨delivery,hm,hs,_⟩ := hf ioa hi
    rcases mem_append.mp hm with hm | hm
    · exact hs.trans ((pairwise_append.mp ht).2.2 delivery hm last (by simp))
    · rw [mem_singleton.mp hm] at hs
      exact hs
  have hsp : early.takeWhile (fun delivery => decide (delivery.sentAt < issuedAt)) ++
      early.dropWhile (fun delivery => decide (delivery.sentAt < issuedAt)) = early :=
    takeWhile_append_dropWhile
  refine ⟨early.takeWhile fun delivery => delivery.sentAt < issuedAt,
    early.dropWhile fun delivery => delivery.sentAt < issuedAt,last,rest,?_,?_⟩
  · rw [hsp]
    exact hu
  constructor
  · intro delivery hm
    simpa using mem_takeWhile_imp hm
  · intro delivery hm
    rcases mem_append.mp hm with hm | hm
    · exact mem_dropWhile_fresh (pairwise_append.mp ht).1 hm
    · rw [mem_singleton.mp hm]
      exact hl
  · rw [hsp]
    exact fun delivery hm => (hp delivery hm).1
  · rw [hsp]
    exact fun delivery hm => (hp delivery hm).2
  · intro ioa hi
    obtain ⟨delivery,hm,hs,hpo⟩ := hf ioa hi
    refine ⟨delivery,?_,hpo⟩
    rw [← hsp,append_assoc,mem_append] at hm
    rcases hm with hm | hm
    · have hb : delivery.sentAt < issuedAt := by simpa using mem_takeWhile_imp hm
      exact absurd hs (not_le.mpr hb)
    · exact hm
  · rw [hsp]
    have hop := hg.early_open
    rw [Bool.eq_false_iff,ne_eq,complete_iff_updates] at hop
    · push Not at hop
      exact hop
    · exact fun delivery hm => (hp delivery (mem_append_left _ hm)).1

end Loop

/-! ## What the mappings ask for -/

def ioaOf (mapping : TelemetryPointMapping) : Nat :=
  ((mappingAddress mapping).toOption.map Prod.snd).getD 0

def Iec104Adapter.requested (adapter : Iec104Adapter) : List Nat := adapter.mappings.map ioaOf

def Iec104Adapter.stationAddress (adapter : Iec104Adapter) : Nat :=
  (commonAddress adapter.mappings).toOption.getD 1

section Addresses

variable (adapter : Iec104Adapter)

theorem mappingAddress_of_valid (hme : mapping ∈ adapter.mappings) :
    ∃ addr, mappingAddress mapping = .ok (addr,ioaOf mapping) := by
  have hv := adapter.valid
  unfold validateMappings at hv
  obtain ⟨_,hal,_⟩ := bind_eq_ok.mp hv
  have hm := forM_eq_ok.mp hal mapping hme
  unfold validateMapping at hm
  obtain ⟨_,-,hm⟩ := bind_eq_ok.mp hm
  obtain ⟨_,-,hm⟩ := bind_eq_ok.mp hm
  obtain ⟨⟨addr,ioa⟩,ha,_⟩ := bind_eq_ok.mp hm
  refine ⟨addr,?_⟩
  rw [ioaOf,ha]
  rfl

@[simp] theorem commonAddress_of_valid :
    commonAddress adapter.mappings = .ok adapter.stationAddress := by
  have hv := adapter.valid
  unfold validateMappings at hv
  obtain ⟨_,-,hv⟩ := bind_eq_ok.mp hv
  obtain ⟨addr,ha,_⟩ := bind_eq_ok.mp hv
  rw [Iec104Adapter.stationAddress,ha]
  rfl

theorem addresses_of_valid : ∃ addresses, adapter.mappings.mapM mappingAddress = .ok addresses ∧
      addresses.map Prod.snd = adapter.requested := by
  have ha : ∀ mapping ∈ adapter.mappings, mappingAddress mapping =
        .ok (((mappingAddress mapping).toOption.map Prod.fst).getD 0,ioaOf mapping) := by
    intro mapping hm
    obtain ⟨addr,had⟩ := mappingAddress_of_valid adapter hm
    rw [had]
    rfl
  refine ⟨_,mapM_eq_map ha,?_⟩
  rw [map_map]
  rfl

end Addresses

theorem readTelemetry_eq (adapter : Iec104Adapter) (call : ReadCall) (h : adapter.mappings ≠ []) :
    adapter.readTelemetry call = match adapter.ensureActive call with
      | .error why => (.error why,adapter)
      | .ok (sess,held) =>
        held.interrogate call sess adapter.stationAddress adapter.requested := by
  obtain ⟨addresses,ha,hr⟩ := addresses_of_valid adapter
  unfold Iec104Adapter.readTelemetry
  rw [if_neg (by simpa using h),commonAddress_of_valid adapter,ha]
  cases adapter.ensureActive call with
  | error why => rfl
  | ok active =>
    exact congrArg (active.2.interrogate call active.1 adapter.stationAddress) hr

/-! ## Success and freshness -/

def SampledSince (call : ReadCall) (taken : List Delivery) (mapping : TelemetryPointMapping)
    (point : DataPoint) : Prop :=
  point.ioa = ioaOf mapping ∧
    ∃ delivery ∈ taken, call.issuedAt ≤ delivery.sentAt ∧ point ∈ delivery.points

/-- The read succeeds, and every sample is of a point that the station sent since the
interrogation, among the deliveries that this read took off its session. -/
def ReadFresh (adapter : Iec104Adapter) (call : ReadCall) : Prop :=
  ∃ (source : TelemetryPointMapping → DataPoint) (next : Iec104Adapter),
    adapter.readTelemetry call = (.ok (adapter.mappings.map fun mapping =>
        pointToSample mapping (source mapping) adapter.cp56TimezoneOffsetMinutes call.stampedAt),
        next) ∧
    (adapter.mappings ≠ [] → ∃ session held rest taken,
      adapter.ensureActive call = .ok (session,held) ∧ next.client = some rest ∧
      session.unread = taken ++ rest.unread ∧
      ∀ mapping ∈ adapter.mappings, SampledSince call taken mapping (source mapping))

/-- The read finds a session, can send its interrogation, and is served by what is unread. -/
def ReadServed (adapter : Iec104Adapter) (call : ReadCall) : Prop :=
  adapter.mappings ≠ [] → ∃ session held, adapter.ensureActive call = .ok (session,held) ∧
    call.interrogation = .ok () ∧
    Served adapter.requested adapter.stationAddress call.issuedAt session.unread

variable {samples : List TimedSample}

section Read

variable {adapter : Iec104Adapter} {call : ReadCall}

theorem ensureActive_keeps (h : adapter.ensureActive call = .ok (sess,held)) :
    held.mappings = adapter.mappings ∧
      held.cp56TimezoneOffsetMinutes = adapter.cp56TimezoneOffsetMinutes := by
  unfold Iec104Adapter.ensureActive at h
  split at h
  · cases h
    exact ⟨rfl,rfl⟩
  · cases hc : call.connect with
    | error why =>
      rw [hc] at h
      cases h
    | ok sess =>
      rw [hc] at h
      cases h
      exact ⟨rfl,rfl⟩

theorem skip_unread {sess : Session} (h : sess.unread = early ++ last :: rest) :
    (sess.skip (0 + early.length + 1)).unread = rest := by
  change sess.unread.drop (0 + early.length + 1) = rest
  rw [h,append_cons]
  apply drop_left'
  rw [length_append,length_singleton,Nat.zero_add]

theorem requested_ne_nil (h : adapter.mappings ≠ []) : adapter.requested ≠ [] := by
  unfold Iec104Adapter.requested
  simpa using h

theorem lacks_empty {requested : List Nat} (h : requested ≠ []) :
    complete requested (empty : OrderedMap Nat DataPoint) = false := by
  obtain ⟨ioa,hi⟩ := exists_mem_of_ne_nil _ h
  unfold complete
  rw [all_eq_false]
  exact ⟨ioa,hi,by simp⟩

/-- What a successful read did to its session: it took the deliveries up to the first with which it
had every requested point. -/
structure ReadTook (adapter : Iec104Adapter) (call : ReadCall) (next : Iec104Adapter)
    (session : Session) (early : List Delivery) (last : Delivery) (rest : Session) : Prop where
  interrogated : call.interrogation = .ok ()
  unread : session.unread = early ++ last :: rest.unread
  gathered : Gathered (effect adapter.stationAddress (call.issuedAt + requestTimeout))
    adapter.requested empty early last
  left : next.client = some rest
  mappings : next.mappings = adapter.mappings

theorem readTook_of_ok {next : Iec104Adapter} (hne : adapter.mappings ≠ [])
    (ha : adapter.ensureActive call = .ok (sess,held))
    (hr : adapter.readTelemetry call = (.ok samples,next)) :
    ∃ early last rest, ReadTook adapter call next sess early last rest := by
  rw [readTelemetry_eq adapter call hne,ha] at hr
  simp only [Iec104Adapter.interrogate] at hr
  cases hse : call.interrogation with
  | error why =>
    rw [hse] at hr
    cases hr
  | ok _ =>
    rw [hse] at hr
    dsimp only at hr
    cases hg : gather (effect adapter.stationAddress (call.issuedAt + requestTimeout))
        adapter.requested empty 0 sess.unread with
    | incomplete missing =>
      rw [hg] at hr
      cases hr
    | aborted why =>
      rw [hg] at hr
      cases hr
    | starved =>
      rw [hg] at hr
      cases hr
    | done points count =>
      rw [hg] at hr
      have hn := (Prod.mk.inj hr).2
      subst hn
      obtain ⟨early,last,later,hs,hga⟩ := gathered_of_done (lacks_empty (requested_ne_nil hne)) hg
      have hc : 0 + early.length + 1 = count := by
        rw [hs,hga.gather] at hg
        cases hg
        rfl
      refine ⟨early,last,sess.skip count,hse,?_,hga,rfl,(ensureActive_keeps ha).1⟩
      rw [← hc,skip_unread hs]
      exact hs

theorem readServed_of_readFresh (h : ReadFresh adapter call) : ReadServed adapter call := by
  intro hne
  obtain ⟨src,next,hr,ht⟩ := h
  obtain ⟨sess,held,rest,taken,ha,hc,hu,hf⟩ := ht hne
  obtain ⟨early,last,left,ht⟩ := readTook_of_ok hne ha hr
  refine ⟨sess,held,ha,ht.interrogated,?_⟩
  have hta : taken = early ++ [last] := by
    have hl := ht.left
    rw [hc] at hl
    cases hl
    have hs := ht.unread
    rw [hu,append_cons] at hs
    exact append_cancel_right hs
  apply serves_of_gathered sess.inOrder ht.unread (requested_ne_nil hne) ht.gathered
  intro ioa hi
  obtain ⟨mapping,hm,rfl⟩ := mem_map.mp hi
  obtain ⟨hk,delivery,hme,hsi,hp⟩ := hf mapping hm
  rw [hta] at hme
  exact ⟨delivery,hme,hsi,src mapping,hp,hk⟩

theorem readFresh_of_readServed (h : ReadServed adapter call) : ReadFresh adapter call := by
  have hp : Nonempty DataPoint := ⟨⟨0,⟨none,none,none⟩,.good,none⟩⟩
  by_cases hne : adapter.mappings = []
  · refine ⟨fun _ => ⟨0,⟨none,none,none⟩,.good,none⟩,adapter,?_,fun hot => absurd hne hot⟩
    simp [Iec104Adapter.readTelemetry,hne]
  · obtain ⟨sess,held,ha,hse,stale,early,last,rest,hu,hs⟩ := h hne
    obtain ⟨hma,ho⟩ := ensureActive_keeps ha
    choose! source hheld hkey hfresh using hs.holdsFresh
    have hme : ∀ mapping ∈ adapter.mappings, ioaOf mapping ∈ adapter.requested :=
      fun mapping hm => mem_map_of_mem hm
    have hsa : ∀ mapping ∈ adapter.mappings,
        Iec104Adapter.sampleOf (pointsOf adapter.requested adapter.stationAddress call.issuedAt
            (stale ++ early ++ [last])) adapter.cp56TimezoneOffsetMinutes call.stampedAt mapping =
          .ok (pointToSample mapping (source (ioaOf mapping)) adapter.cp56TimezoneOffsetMinutes
            call.stampedAt) := by
      intro mapping hm
      obtain ⟨addr,had⟩ := mappingAddress_of_valid adapter hm
      rw [Iec104Adapter.sampleOf,had,ok_bind]
      dsimp only
      rw [hheld _ (hme mapping hm)]
      rfl
    refine ⟨fun mapping => source (ioaOf mapping),
      { held with client := some (sess.skip (0 + (stale ++ early).length + 1)) },?_,
      fun _ => ⟨sess,held,_,stale ++ early ++ [last],ha,rfl,?_,?_⟩⟩
    · rw [readTelemetry_eq adapter call hne,ha]
      simp only [Iec104Adapter.interrogate,hse,hs.gather hu]
      congr 1
      rw [hma,ho,mapM_eq_map hsa]
    · rw [skip_unread hu,hu,append_assoc _ [last]]
      rfl
    · intro mapping hm
      exact ⟨hkey _ (hme mapping hm),hfresh _ (hme mapping hm)⟩

@[simp] theorem readFresh_iff : ReadFresh adapter call ↔ ReadServed adapter call :=
  ⟨readServed_of_readFresh,readFresh_of_readServed⟩

end Read

/-! ## Stations that answer every interrogation -/

/-- A station answers every interrogation in turn: it sends all its points and then the end of the
interrogation, in time for the read, and may send updates whenever it likes. -/
inductive AnswersEach (points : List Nat) (address : Nat) : List Time → List Delivery → Prop where
  | quiet {deliveries : List Delivery}
      (hquiet : ∀ delivery ∈ deliveries, delivery.stops address = false) :
      AnswersEach points address [] deliveries
  | answer {issuedAt : Time} {times : List Time} {answer deliveries : List Delivery}
      {ending : Delivery} (hquiet : ∀ delivery ∈ answer, delivery.stops address = false)
      (hpoints : ∀ ioa ∈ points,
        Updates (answer.filter fun delivery => issuedAt ≤ delivery.sentAt) ioa)
      (hending : ending.polled = .event (.interrogationComplete address))
      (hafter : issuedAt ≤ ending.sentAt)
      (hin_time : ∀ delivery ∈ answer ++ [ending],
        delivery.arrivesAt ≤ issuedAt + requestTimeout)
      (hnext : AnswersEach points address times deliveries) :
      AnswersEach points address (issuedAt :: times) (answer ++ ending :: deliveries)

section Station

variable {points requested : List Nat} {addr : Nat} {issuedAt : Time} {times : List Time}
  {unread : List Delivery}

theorem updates_of_filter {keep : Delivery → Bool} (h : Updates (deliveries.filter keep) ioa) :
    Updates deliveries ioa := by
  obtain ⟨delivery,hm,hp⟩ := h
  exact ⟨delivery,mem_of_mem_filter hm,hp⟩

theorem served_of_answers (h : AnswersEach points addr (issuedAt :: times) unread)
    (ho : unread.Pairwise fun first second => first.sentAt ≤ second.sentAt)
    (hn : ∀ delivery ∈ unread, issuedAt ≤ delivery.sentAt) (hne : requested ≠ [])
    (hp : ∀ ioa ∈ requested, ioa ∈ points) : Served requested addr issuedAt unread := by
  cases h with
  | @answer _ _ answer deliveries ending hq ha he haf hit _ =>
    have hin : ∀ delivery ∈ answer, delivery.arrivesAt ≤ issuedAt + requestTimeout :=
      fun delivery hm => hit delivery (mem_append_left _ hm)
    obtain ⟨early,last,rest,hs,hg⟩ := exists_gathered (lacks_empty hne) (fun delivery hm =>
        (effect_continues delivery).mpr ⟨hin delivery hm,hq delivery hm⟩)
      ((complete_iff_updates hin).mpr fun ioa hi =>
        updates_of_filter (ha ioa (hp ioa hi)))
    have hu : answer ++ ending :: deliveries = early ++ last :: (rest ++ ending :: deliveries) := by
      rw [hs,append_assoc]
      rfl
    apply serves_of_gathered ho hu hne hg
    have ht : ∀ delivery ∈ early ++ [last], delivery.arrivesAt ≤ issuedAt + requestTimeout := by
      intro delivery hm
      apply hin
      rw [hs,append_cons]
      exact mem_append_left _ hm
    intro ioa hi
    obtain ⟨delivery,hm,hpo⟩ := (complete_iff_updates ht).mp hg.last_completes ioa hi
    refine ⟨delivery,hm,hn delivery ?_,hpo⟩
    rw [hu,append_cons]
    exact mem_append_left _ hm

theorem not_served_of_ended (ho : unread.Pairwise fun first second => first.sentAt ≤ second.sentAt)
    (hm : ending ∈ unread) (hb : ending.sentAt < issuedAt) (hst : ending.stops addr = true) :
    ¬ Served requested addr issuedAt unread := by
  rintro ⟨stale,early,last,rest,hu,hs⟩
  rw [hu,append_cons,mem_append] at hm
  rcases hm with hm | hm
  · have hp := hs.unstopped ending hm
    rw [hst] at hp
    cases hp
  · rw [hu,append_cons] at ho
    have hl : last.sentAt ≤ ending.sentAt := (pairwise_append.mp ho).2.2 last (by simp) ending hm
    have hf : issuedAt ≤ last.sentAt := hs.fresh last (by simp)
    exact absurd (hf.trans hl) (not_le.mpr hb)

/-- A successful read leaves the end of its interrogation on the session. If the station has sent it
by the time of the next read, that read fails or returns something old. -/
theorem next_read_not_fresh {adapter next : Iec104Adapter} {call later : ReadCall}
    (hne : adapter.mappings ≠ []) (hac : adapter.ensureActive call = .ok (sess,held))
    (hr : adapter.readTelemetry call = (.ok samples,next)) (hk : later.active = true)
    (hm : ending ∈ sess.unread) (hst : ending.stops adapter.stationAddress = true)
    (hb : ending.sentAt < later.issuedAt) : ¬ ReadFresh next later := by
  rw [readFresh_iff]
  intro hs
  obtain ⟨early,last,rest,ht⟩ := readTook_of_ok hne hac hr
  have hre : ending ∈ rest.unread := by
    rw [ht.unread,mem_append,mem_cons] at hm
    rcases hm with hm | rfl | hm
    · have hc := ht.gathered.early_continues ending hm
      rw [effect_continues,hst] at hc
      cases hc.2
    · have hc := ht.gathered.last_continues
      rw [effect_continues,hst] at hc
      cases hc.2
    · exact hm
  obtain ⟨found,other,hf,_,hs⟩ := hs (ht.mappings ▸ hne)
  have hfo : next.ensureActive later = .ok (rest,next) := by
    unfold Iec104Adapter.ensureActive
    rw [ht.left,hk]
  rw [hfo] at hf
  cases hf
  have ha : next.stationAddress = adapter.stationAddress := by
    unfold Iec104Adapter.stationAddress
    rw [ht.mappings]
  rw [ha] at hs
  exact not_served_of_ended rest.inOrder hre hb hst hs

/-- With a station that answers in turn a first read is fresh, and the next one is not once the end
of that interrogation has been sent. -/
theorem only_first_read_fresh {adapter : Iec104Adapter} {call later : ReadCall}
    (hne : adapter.mappings ≠ []) (hac : adapter.ensureActive call = .ok (sess,held))
    (hi : call.interrogation = .ok ()) (hp : ∀ ioa ∈ adapter.requested, ioa ∈ points)
    (h : AnswersEach points adapter.stationAddress (call.issuedAt :: times) sess.unread)
    (hn : ∀ delivery ∈ sess.unread, call.issuedAt ≤ delivery.sentAt) (hk : later.active = true)
    (he : ∃ ending ∈ sess.unread, ending.stops adapter.stationAddress = true ∧
      ending.sentAt < later.issuedAt) :
    ReadFresh adapter call ∧ ¬ ReadFresh (adapter.readTelemetry call).2 later := by
  have hf : ReadFresh adapter call := readFresh_of_readServed fun _ =>
    ⟨sess,held,hac,hi,served_of_answers h sess.inOrder hn (requested_ne_nil hne) hp⟩
  obtain ⟨ending,hm,hst,hb⟩ := he
  refine ⟨hf,?_⟩
  obtain ⟨_,next,hr,_⟩ := hf
  rw [hr]
  exact next_read_not_fresh hne hac hr hk hm hst hb

end Station

/-! ## Runs -/

def Throughout (settings : ConnectionSettings)
    (property : Iec104Adapter → ReadCall → Prop) : Option Iec104Adapter → List Collection → Prop :=
  Along (fun kept collection => (collectMappings settings kept collection).2) fun kept collection =>
    ∃ adapter, adapterFor settings kept collection = .ok adapter ∧ property adapter collection.call

theorem collectMappings_of_adapter (h : adapterFor settings kept coll = .ok adapter) :
    (collectMappings settings kept coll).1 = (adapter.readTelemetry coll.call).1 := by
  unfold collectMappings
  rw [h]

/-- Every read of a run succeeds with what the station sent since its interrogation, exactly when
every read is served. -/
theorem reads_fresh_iff_served (settings : ConnectionSettings) (kept : Option Iec104Adapter)
    (collections : List Collection) :
    Throughout settings ReadFresh kept collections ↔
      Throughout settings ReadServed kept collections := by
  simp only [Throughout,readFresh_iff]

/-! ## Two reads of a plain station -/

def stationPoint (pointId ioa : String) (valueType : TelemetryType) : TelemetryPointMapping where
  pointId := pointId
  deviceId := "pump-1"
  semanticId := pointId
  protocolConnectionId := "iec104-main"
  address := .object [("kind",.string "iec104_ioa"),("value",.string s!"1:{ioa}")]
  valueType := valueType
  access := .readOnly
  protocolOptions := .null
  range := none
  readTransforms := []

def stationPoints : List TelemetryPointMapping :=
  [stationPoint "pressure" "1001" .float,stationPoint "running" "1002" .boolean]

def pressure (value : Int) : DataPoint where
  ioa := 1001
  value := ⟨none,none,some (.ofInt value)⟩
  quality := .good
  timestamp := none

def running (value : Bool) : DataPoint where
  ioa := 1002
  value := ⟨none,some value,some (.ofInt (if value then 1 else 0))⟩
  quality := .good
  timestamp := none

def sentAt (second : Int) (event : Iec104Event) : Delivery :=
  ⟨milliseconds (second * 1000),milliseconds (second * 1000),.event event⟩

def answered : List Delivery :=
  [sentAt 1 (.dataUpdate [pressure 12]),sentAt 1 (.dataUpdate [running false]),
    sentAt 1 (.interrogationComplete 1),sentAt 11 (.dataUpdate [pressure 13]),
    sentAt 11 (.dataUpdate [running true]),sentAt 11 (.interrogationComplete 1)]

def plainSession : Session := ⟨answered,by decide⟩

def plainSettings : ConnectionSettings := ⟨fun _ => .ok (),fun _ => 0⟩

def readAt (second : Int) : Collection where
  connection := ⟨"iec104-main",.iec104,.null⟩
  mappings := stationPoints
  call := ⟨true,.ok plainSession,.ok (),milliseconds (second * 1000),
    milliseconds (second * 1000)⟩

/-- The first read stops at its last point. The second one finds the end of the first
interrogation before any point and gives up. -/
theorem second_read_meets_the_first_end :
    AnswersEach [1001,1002] 1 [milliseconds 0,milliseconds 10000] answered ∧
      (collectMappings plainSettings (collectMappings plainSettings none (readAt 0)).2
          (readAt 10)).1 =
        .error "IEC 104 interrogation completed without IOAs [1001, 1002]" ∧
      ¬ Throughout plainSettings ReadFresh none [readAt 0,readAt 10] := by
  have hs : (collectMappings plainSettings (collectMappings plainSettings none (readAt 0)).2
      (readAt 10)).1 =
        .error "IEC 104 interrogation completed without IOAs [1001, 1002]" := by
    decide +kernel
  refine ⟨?_,hs,?_⟩
  · apply @AnswersEach.answer _ _ _ _ [sentAt 1 (.dataUpdate [pressure 12]),
      sentAt 1 (.dataUpdate [running false])] _ (sentAt 1 (.interrogationComplete 1))
      (by decide) (by decide) rfl (by decide) (by decide)
    apply @AnswersEach.answer _ _ _ _ [sentAt 11 (.dataUpdate [pressure 13]),
      sentAt 11 (.dataUpdate [running true])] _ (sentAt 11 (.interrogationComplete 1))
      (by decide) (by decide) rfl (by decide) (by decide)
    exact .quiet (by decide)
  · rintro ⟨_,⟨adapter,ha,src,next,hr,_⟩,_⟩
    rw [collectMappings_of_adapter ha,hr] at hs
    cases hs

def plainAdapter : Iec104Adapter where
  connection := (readAt 0).connection
  mappings := stationPoints
  client := some ⟨answered.take 3,by decide⟩
  connectionGeneration := 1
  cp56TimezoneOffsetMinutes := 0
  valid := by decide

theorem plainAdapter_fresh_once : ReadFresh plainAdapter (readAt 0).call ∧
    ¬ ReadFresh (plainAdapter.readTelemetry (readAt 0).call).2 (readAt 10).call :=
  only_first_read_fresh (by decide) rfl rfl (by decide) (@AnswersEach.answer [1001,1002] 1 _ []
    (answered.take 2) [] (sentAt 1 (.interrogationComplete 1)) (by decide) (by decide) rfl
    (by decide) (by decide) (.quiet (by decide))) (by decide) rfl (by decide)

end VelaEdge.Runtime.Iec104
