import VelaEdge.Base.Runs
import VelaEdge.Runtime.MqttUplink

/-! Runs of one MQTT client: publish calls one after the other, the library sending their packets
in order, and the broker's answers arriving on an event queue that outlives a call. -/
namespace VelaEdge.Runtime.PublishConfirmations

open Base Core MqttUplink List Option

/-- An event on the queue, with the request it is about. The request is history: a call sees the
event alone. -/
inductive Notice where
  | sent (packetId request : Nat)
  | answered (packetId request : Nat) (completed : Bool)
  | failed (error : String)
deriving DecidableEq

def Notice.event : Notice → MqttBrokerEvent
  | .sent packetId _ => .publishSent packetId
  | .answered packetId _ true => .publishCompleted packetId
  | .answered packetId _ false => .publishAcknowledged packetId
  | .failed error => .connectionError error

def Notice.sentRequest : Notice → Option Nat
  | .sent _ request => some request
  | _ => none

structure Waiting where
  request : Nat
  qos : Nat
  phase : Confirmation

/-- `requests` are the QoS levels handed to the library, in order; the first `sent` of them have
been sent, and the calls have read the events of the first `reported`. -/
structure State where
  publisher : RumqttcMqttPublisher
  requests : List Nat
  sent : Nat
  reported : Nat
  inFlight : List (Nat × Nat)
  queue : List Notice
  waiting : Option Waiting
  acknowledged : List Nat
  results : List (Nat × Except String Unit)

variable (publisher : RumqttcMqttPublisher)

def State.initial : State := ⟨publisher,[],0,0,[],[],none,[],[]⟩

def State.finish (s : State) (waiting : Waiting) (result : Except String Unit) : State :=
  { s with waiting := none, results := s.results ++ [(waiting.request,result)] }

inductive Event where
  | call (message : MqttPublishMessage)
  | send (packetId : Nat)
  | answer (packetId : Nat)
  | fail (error : String)
  | poll
  | giveUp (reason : GiveUp)

def startPublish (message : MqttPublishMessage) : Except String Unit := do
  publisher.checkRoute message
  validateQos message.qos

def readNotice (s : State) (waiting : Waiting) (notice : Notice) : State :=
  match confirm waiting.qos waiting.phase notice.event with
  | .error error => s.finish waiting (.error error)
  | .ok none => s.finish waiting (.ok ())
  | .ok (some phase) => { s with waiting := some { waiting with phase := phase } }

def step (s : State) : Event → State
  | .call message =>
    match s.waiting, startPublish s.publisher message with
    | none, .ok () =>
      { s with
        requests := s.requests ++ [message.qos]
        waiting := some ⟨s.requests.length,message.qos,.sending⟩ }
    | _, _ => s
  | .send packetId =>
    match s.requests[s.sent]? with
    | none => s
    | some qos =>
      if qos = 0 ∧ packetId = 0 then
        { s with sent := s.sent + 1, queue := s.queue ++ [.sent packetId s.sent] }
      -- a packet id is free until its packet is sent and again once it is answered
      else if qos ≠ 0 ∧ packetId ≠ 0 ∧ ∀ flight ∈ s.inFlight, flight.1 ≠ packetId then
        { s with
          sent := s.sent + 1
          inFlight := s.inFlight ++ [(packetId,s.sent)]
          queue := s.queue ++ [.sent packetId s.sent] }
      else s
  | .answer packetId =>
    match s.inFlight.find? (fun flight => flight.1 = packetId) with
    | none => s
    | some (_,request) =>
      { s with
        inFlight := s.inFlight.filter (fun flight => flight.1 ≠ packetId)
        queue := s.queue ++ [.answered packetId request (s.requests[request]? = some 2)]
        acknowledged := s.acknowledged ++ [request] }
  | .fail error => { s with queue := s.queue ++ [.failed error] }
  | .poll =>
    match s.waiting, s.queue with
    | some waiting, notice :: queue =>
      readNotice { s with
        queue := queue
        reported := s.reported + notice.sentRequest.toList.length } waiting notice
    | _, _ => s
  | .giveUp reason =>
    match s.waiting with
    | some waiting => s.finish waiting (.error reason.text)
    | none => s

def run (events : List Event) : State :=
  events.foldl step (State.initial publisher)

variable {ev : MqttBrokerEvent}

/-! What a read event does to a wait. -/

theorem confirm_done (h : confirm qos phase ev = .ok none) :
    qos = 0 ∨ ∃ pkt, phase = .sent pkt ∧ (qos = 1 ∧ ev = .publishAcknowledged pkt ∨
        qos = 2 ∧ ev = .publishCompleted pkt) := by
  cases phase with
  | sending =>
    cases ev with
    | publishSent pkt =>
      simp only [confirm] at h
      split_ifs at h with hqos hid
      · exact .inl hqos
      · cases h
    | publishAcknowledged pkt => cases h
    | publishCompleted pkt => cases h
    | connectionError error => cases h
  | sent pkt =>
    refine .inr ⟨pkt,rfl,?_⟩
    cases ev with
    | publishSent other => cases h
    | publishAcknowledged ackId =>
      simp only [confirm] at h
      split_ifs at h with hmatch
      · exact .inl ⟨hmatch.1,by rw [hmatch.2]⟩
      · cases h
    | publishCompleted ackId =>
      simp only [confirm] at h
      split_ifs at h with hmatch
      · exact .inr ⟨hmatch.1,by rw [hmatch.2]⟩
      · cases h
    | connectionError error => cases h

theorem confirm_waiting {next : Confirmation} (h : confirm qos phase ev = .ok (some next)) :
    (next = phase ∧ (phase = .sending → ∀ pkt, ev ≠ .publishSent pkt)) ∨
    ∃ pkt, phase = .sending ∧ ev = .publishSent pkt ∧ next = .sent pkt ∧ qos ≠ 0 := by
  cases phase with
  | sending =>
    cases ev with
    | publishSent pkt =>
      simp only [confirm] at h
      split_ifs at h with hqos hid
      · cases h
      · exact .inr ⟨pkt,rfl,rfl,(some.inj (Except.ok.inj h)).symm,hqos⟩
    | publishAcknowledged pkt =>
      exact .inl ⟨(some.inj (Except.ok.inj h)).symm,fun _ _ => by nofun⟩
    | publishCompleted pkt =>
      exact .inl ⟨(some.inj (Except.ok.inj h)).symm,fun _ _ => by nofun⟩
    | connectionError error => cases h
  | sent pkt =>
    refine .inl ⟨?_,by nofun⟩
    cases ev with
    | publishSent other => exact (some.inj (Except.ok.inj h)).symm
    | publishAcknowledged ackId =>
      simp only [confirm] at h
      split_ifs at h with hmatch
      · cases h
      · exact (some.inj (Except.ok.inj h)).symm
    | publishCompleted ackId =>
      simp only [confirm] at h
      split_ifs at h with hmatch
      · cases h
      · exact (some.inj (Except.ok.inj h)).symm
    | connectionError error => cases h

/-! The invariant. -/

/-- The library keeps its promises, and every confirmed call was acknowledged. -/
structure Consistent (s : State) : Prop where
  levels : ∀ qos ∈ s.requests, qos ≤ 2
  sent_le : s.sent ≤ s.requests.length
  reported_le : s.reported ≤ s.sent
  reports : s.queue.filterMap Notice.sentRequest = range' s.reported (s.sent - s.reported)
  flight : ∀ packetId request, (packetId, request) ∈ s.inFlight →
    packetId ≠ 0 ∧ request < s.sent ∧ s.requests[request]? ≠ some 0
  answers : ∀ packetId request completed, .answered packetId request completed ∈ s.queue →
    request ∈ s.acknowledged ∧ request < s.sent ∧
      s.requests[request]? = some (if completed then 2 else 1)
  latest : ∀ packetId earlier request, .sent packetId earlier ∈ s.queue →
    (packetId, request) ∈ s.inFlight → earlier ≤ request
  order : s.queue.Pairwise fun first later => ∀ packetId earlier request completed,
    first = .sent packetId earlier → later = .answered packetId request completed →
      earlier ≤ request
  confirmed : ∀ request, (request, .ok ()) ∈ s.results →
    request < s.requests.length ∧ (s.requests[request]? ≠ some 0 → request ∈ s.acknowledged)

/-- Whatever answer comes for the packet id, if it has the level of the call it is the call's
own. -/
structure Owns (s : State) (waiting : Waiting) (packetId : Nat) : Prop where
  flight : ∀ request, (packetId, request) ∈ s.inFlight →
    s.requests[request]? = some waiting.qos → request = waiting.request
  answers : ∀ request completed, .answered packetId request completed ∈ s.queue →
    s.requests[request]? = some waiting.qos → request = waiting.request
  unsent : ∀ request, s.sent ≤ request →
    s.requests[request]? = some waiting.qos → request = waiting.request

structure Current (s : State) (waiting : Waiting) : Prop where
  last : waiting.request + 1 = s.requests.length
  qos : s.requests[waiting.request]? = some waiting.qos
  sending : waiting.phase = .sending → waiting.qos ≠ 0 → ∀ request, s.reported ≤ request →
    request < waiting.request → s.requests[request]? ≠ some waiting.qos
  owns : ∀ packetId, waiting.phase = .sent packetId → Owns s waiting packetId

structure Sound (s : State) : Prop where
  consistent : Consistent s
  current : ∀ waiting, s.waiting = some waiting → Current s waiting

theorem initial_sound (pub : RumqttcMqttPublisher) : Sound (State.initial pub) := by
  refine ⟨⟨?_,Nat.le_refl _,Nat.le_refl _,rfl,?_,?_,?_,Pairwise.nil,?_⟩,?_⟩
  all_goals
    intros
    simp_all [State.initial]

variable {req : Nat}

theorem Consistent.report_lt (h : Consistent s) (hm : .sent pkt req ∈ s.queue) :
    s.reported ≤ req ∧ req < s.sent := by
  have hr : req ∈ s.queue.filterMap Notice.sentRequest := mem_filterMap.mpr ⟨_,hm,rfl⟩
  have hle := h.reported_le
  rw [h.reports,mem_range'_1] at hr
  omega

theorem finish_sound (h : Consistent s) (waiting : Waiting) (res : Except String Unit)
    (hr : waiting.request < s.requests.length)
    (hc : res = .ok () → s.requests[waiting.request]? ≠ some 0 →
      waiting.request ∈ s.acknowledged) : Sound (s.finish waiting res) := by
  refine ⟨{ h with confirmed := ?_ },fun _ hn => by cases hn⟩
  intro req hm
  rcases mem_append.mp hm with hm | hm
  · exact h.confirmed req hm
  · obtain ⟨rfl,hre⟩ := Prod.mk.inj (mem_singleton.mp hm)
    exact ⟨hr,hc hre.symm⟩

theorem giveUp_sound (h : Sound s) (why : GiveUp) : Sound (step s (.giveUp why)) := by
  simp only [step]
  cases hw : s.waiting with
  | none => exact h
  | some waiting =>
    have hl := (h.current waiting hw).last
    exact finish_sound h.consistent waiting _ (by omega) (by nofun)

theorem fail_sound (h : Sound s) (error : String) : Sound (step s (.fail error)) := by
  obtain ⟨h,hc⟩ := h
  have hq : ∀ notice ∈ s.queue ++ [Notice.failed error], notice ≠ .failed error →
      notice ∈ s.queue := by
    intro notice hm hne
    rcases mem_append.mp hm with hm | hm
    · exact hm
    · exact absurd (mem_singleton.mp hm) hne
  refine ⟨{ h with reports := ?_, answers := ?_, latest := ?_, order := ?_ },?_⟩
  · simp [step,h.reports,Notice.sentRequest]
  · exact fun pkt req completed hm =>
      h.answers pkt req completed (hq _ hm (by nofun))
  · exact fun pkt earlier req hm =>
      h.latest pkt earlier req (hq _ hm (by nofun))
  · refine pairwise_append.mpr ⟨h.order,pairwise_singleton _ _,?_⟩
    intro first _ later hl pkt earlier req completed _ ha
    rw [mem_singleton.mp hl] at ha
    cases ha
  · intro waiting hw
    have hol := hc waiting hw
    refine { hol with owns := fun pkt hp => ?_ }
    have ho := hol.owns pkt hp
    exact { ho with
      answers := fun req completed hm =>
        ho.answers req completed (hq _ hm (by nofun)) }

/-- No earlier request of this level is unsent, or sent with its event still unread. -/
def Clean (s : State) (qos : Nat) : Prop :=
  ∀ request, s.reported ≤ request → s.requests[request]? ≠ some qos

private theorem startPublish_qos {msg : MqttPublishMessage}
    (h : startPublish pub msg = .ok ()) : msg.qos ≤ 2 := by
  unfold startPublish at h
  obtain ⟨_,-,hq⟩ := bind_eq_ok.mp h
  exact Nat.not_lt.mp (bailIf_eq_ok.mp hq)

theorem call_sound (h : Sound s) (msg : MqttPublishMessage)
    (hcl : msg.qos ≠ 0 → Clean s msg.qos) : Sound (step s (.call msg)) := by
  simp only [step]
  split
  · next hw hs =>
    obtain ⟨h,-⟩ := h
    have ho : ∀ req, req < s.requests.length → (s.requests ++ [msg.qos])[req]? = s.requests[req]? :=
      fun req hr => getElem?_append_left hr
    have hse := h.sent_le
    refine ⟨{ h with levels := ?_, sent_le := ?_, flight := ?_, answers := ?_, confirmed := ?_ },
      ?_⟩
    · intro qos hq
      rcases mem_append.mp hq with hq | hq
      · exact h.levels qos hq
      · rw [mem_singleton.mp hq]
        exact startPublish_qos hs
    · rw [length_append]
      exact Nat.le_add_right_of_le hse
    · intro pkt req hm
      obtain ⟨hid,hr,hq⟩ := h.flight pkt req hm
      rw [ho req (by omega)]
      exact ⟨hid,hr,hq⟩
    · intro pkt req completed hm
      obtain ⟨ha,hr,hq⟩ := h.answers pkt req completed hm
      rw [ho req (by omega)]
      exact ⟨ha,hr,hq⟩
    · intro req hm
      obtain ⟨hr,hc⟩ := h.confirmed req hm
      rw [ho req hr,length_append]
      exact ⟨by omega,hc⟩
    · intro waiting hw
      cases hw
      refine ⟨by simp,by simp,fun _ hq req hre hr => ?_,by nofun⟩
      rw [ho req hr]
      exact hcl hq req hre
  · exact h

private theorem sent_sound (h : Sound s) (pkt : Nat) (flights : List (Nat × Nat))
    (hq : s.requests[s.sent]? = some qos) (hfr : ∀ flight ∈ s.inFlight, flight.1 ≠ pkt)
    (hfl : ∀ flight ∈ flights, flight ∈ s.inFlight ∨ flight = (pkt,s.sent) ∧ pkt ≠ 0 ∧ qos ≠ 0) :
    Sound { s with
      sent := s.sent + 1
      inFlight := flights
      queue := s.queue ++ [.sent pkt s.sent] } := by
  obtain ⟨h,hc⟩ := h
  have hre := h.reported_le
  have han : ∀ {other req completed}, .answered other req completed ∈
      s.queue ++ [Notice.sent pkt s.sent] → .answered other req completed ∈ s.queue := by
    intro other req completed hm
    rcases mem_append.mp hm with hm | hm
    · exact hm
    · cases mem_singleton.mp hm
  have hs : s.sent < s.requests.length := (List.getElem?_eq_some_iff.mp hq).1
  refine ⟨{ h with
    sent_le := hs, reported_le := ?_, reports := ?_, flight := ?_, answers := ?_,
    latest := ?_, order := ?_ },?_⟩
  · exact Nat.le_succ_of_le hre
  · rw [filterMap_append,h.reports,show s.sent + 1 - s.reported = s.sent - s.reported + 1 by
      omega,range'_1_concat]
    simp only [filterMap_cons,Notice.sentRequest,filterMap_nil]
    congr 2
    omega
  · intro id req hm
    rcases hfl _ hm with hm | ⟨heq,hid,hl⟩
    · obtain ⟨hid,hr,hl⟩ := h.flight id req hm
      exact ⟨hid,Nat.lt_succ_of_lt hr,hl⟩
    · obtain ⟨rfl,rfl⟩ := Prod.mk.inj heq
      refine ⟨hid,Nat.lt_succ_self _,?_⟩
      rw [hq]
      exact fun hz => hl (some.inj hz)
  · intro id req completed hm
    obtain ⟨ha,hr,hl⟩ := h.answers id req completed (han hm)
    exact ⟨ha,Nat.lt_succ_of_lt hr,hl⟩
  · intro id earlier req hm hf
    rcases hfl _ hf with hf | ⟨heq,-,-⟩
    · rcases mem_append.mp hm with hm | hm
      · exact h.latest id earlier req hm hf
      · cases mem_singleton.mp hm
        exact absurd rfl (hfr _ hf)
    · obtain ⟨rfl,rfl⟩ := Prod.mk.inj heq
      rcases mem_append.mp hm with hm | hm
      · exact (h.report_lt hm).2.le
      · cases mem_singleton.mp hm
        exact Nat.le_refl _
  · refine pairwise_append.mpr ⟨h.order,pairwise_singleton _ _,?_⟩
    intro first _ later hla id earlier req completed _ har
    rw [mem_singleton.mp hla] at har
    cases har
  · intro waiting hw
    have hol := hc waiting hw
    refine { hol with owns := fun id hp => ?_ }
    have ho := hol.owns id hp
    refine ⟨?_,fun req completed hm => ho.answers req completed (han hm),?_⟩
    · intro req hm
      rcases hfl _ hm with hm | ⟨heq,-,-⟩
      · exact ho.flight req hm
      · obtain ⟨rfl,rfl⟩ := Prod.mk.inj heq
        exact ho.unsent s.sent (Nat.le_refl _)
    · exact fun req hr => ho.unsent req (Nat.le_of_succ_le hr)

theorem send_sound (h : Sound s) (pkt : Nat) : Sound (step s (.send pkt)) := by
  simp only [step]
  cases hq : s.requests[s.sent]? with
  | none => exact h
  | some qos =>
    dsimp only
    split
    · next hz =>
      refine sent_sound h pkt s.inFlight hq ?_ fun flight hf => .inl hf
      intro flight hf hid
      exact (h.consistent.flight flight.1 flight.2 hf).1 (hid.trans hz.2)
    · split
      · next hfr =>
        refine sent_sound h pkt _ hq hfr.2.2 fun flight hf => ?_
        rcases mem_append.mp hf with hf | hf
        · exact .inl hf
        · exact .inr ⟨mem_singleton.mp hf,hfr.2.1,hfr.1⟩
      · exact h

theorem answer_sound (h : Sound s) (pkt : Nat) : Sound (step s (.answer pkt)) := by
  simp only [step]
  split
  · exact h
  · next id answered hfi =>
    obtain ⟨h,hcu⟩ := h
    have hid : id = pkt := by simpa using find?_some hfi
    subst hid
    have hm := mem_of_find?_eq_some hfi
    obtain ⟨hid,hs,hl⟩ := h.flight id answered hm
    have hre : ∀ {flight}, flight ∈ s.inFlight.filter (fun flight => flight.1 ≠ id) →
        flight ∈ s.inFlight := fun hf => mem_of_mem_filter hf
    have hla : ∀ {notice}, notice ∈ s.queue ++ [Notice.answered id answered
        (s.requests[answered]? = some 2)] → notice ∈ s.queue ∨
          notice = .answered id answered (s.requests[answered]? = some 2) := by
      intro notice hn
      rcases mem_append.mp hn with hn | hn
      · exact .inl hn
      · exact .inr (mem_singleton.mp hn)
    refine ⟨{ h with
      reports := ?_, flight := ?_, answers := ?_, latest := ?_, order := ?_, confirmed := ?_ },?_⟩
    · rw [filterMap_append,h.reports]
      simp [Notice.sentRequest]
    · exact fun other req hf => h.flight other req (hre hf)
    · intro other req completed hn
      rcases hla hn with hn | hne
      · obtain ⟨hac,ha⟩ := h.answers other req completed hn
        exact ⟨mem_append_left _ hac,ha⟩
      · cases hne
        refine ⟨mem_append_right _ (mem_singleton.mpr rfl),hs,?_⟩
        have hb : answered < s.requests.length := Nat.lt_of_lt_of_le hs h.sent_le
        have ht := h.levels _ (getElem_mem hb)
        rw [getElem?_eq_getElem hb] at hl ⊢
        simp only [some.injEq,ne_eq] at hl ⊢
        by_cases hc : s.requests[answered] = 2
        · simp [hc]
        · simp only [hc,decide_false,Bool.false_eq_true,if_false]
          omega
    · intro other earlier req hn hf
      rcases hla hn with hn | hne
      · exact h.latest other earlier req hn (hre hf)
      · cases hne
    · refine pairwise_append.mpr ⟨h.order,pairwise_singleton _ _,?_⟩
      intro first hft later hlr other earlier req completed hsf ha
      rw [mem_singleton.mp hlr] at ha
      cases ha
      subst hsf
      exact h.latest id earlier answered hft hm
    · intro req hrt
      obtain ⟨hr,hco⟩ := h.confirmed req hrt
      exact ⟨hr,fun hq => mem_append_left _ (hco hq)⟩
    · intro waiting hw
      have hol := hcu waiting hw
      refine { hol with owns := fun other hp => ?_ }
      have ho := hol.owns other hp
      refine ⟨fun req hf => ho.flight req (hre hf),?_,ho.unsent⟩
      intro req completed hn
      rcases hla hn with hn | hne
      · exact ho.answers req completed hn
      · cases hne
        exact ho.flight answered hm

variable {queue : List Notice}

theorem Consistent.tail (h : Consistent s) (hq : s.queue = notice :: queue) : Consistent { s with
      queue := queue
      reported := s.reported + notice.sentRequest.toList.length } := by
  have hm : ∀ {other}, other ∈ queue → other ∈ s.queue := by
    intro other hot
    rw [hq]
    exact mem_cons_of_mem _ hot
  have hr := h.reports
  have hle := h.reported_le
  rw [hq,filterMap_cons] at hr
  have ho := h.order
  rw [hq] at ho
  have hc : s.reported + notice.sentRequest.toList.length ≤ s.sent ∧
      queue.filterMap Notice.sentRequest =
        range' (s.reported + notice.sentRequest.toList.length)
          (s.sent - (s.reported + notice.sentRequest.toList.length)) := by
    cases hs : notice.sentRequest with
    | none =>
      rw [hs] at hr
      exact ⟨hle,hr⟩
    | some req =>
      rw [hs] at hr
      have hp : s.sent - s.reported ≠ 0 := by
        intro hz
        rw [hz] at hr
        cases hr
      obtain ⟨count,hc⟩ := Nat.exists_eq_succ_of_ne_zero hp
      rw [hc,range'_succ] at hr
      simp only [toList_some,length_singleton]
      refine ⟨by omega,?_⟩
      rw [(cons.inj hr).2]
      congr 1
      omega
  exact { h with
    reported_le := hc.1
    reports := hc.2
    answers := fun id req completed hn => h.answers id req completed (hm hn)
    latest := fun id earlier req hn => h.latest id earlier req (hm hn)
    order := (pairwise_cons.mp ho).2 }

/-- While a call waits for its packet id, it is the only request of its level that is not
reported yet. -/
theorem Current.only (h : Current s waiting) (hp : waiting.phase = .sending)
    (hq : waiting.qos ≠ 0) (hr : s.reported ≤ req) (hl : s.requests[req]? = some waiting.qos) :
    req = waiting.request := by
  have hb := (List.getElem?_eq_some_iff.mp hl).1
  have hla := h.last
  by_contra hne
  exact h.sending hp hq req hr (by omega) hl

theorem Sound.takes (h : Sound s) (hw : s.waiting = some waiting) (hp : waiting.phase = .sending)
    (hqo : waiting.qos ≠ 0) (hq : s.queue = .sent pkt req :: queue) :
    Owns { s with queue := queue, reported := s.reported + 1 }
      { waiting with phase := .sent pkt } pkt := by
  have ho : ∀ {other}, s.reported ≤ other → s.requests[other]? = some waiting.qos →
      other = waiting.request :=
    fun hr hl => (h.current waiting hw).only hp hqo hr hl
  have hm : .sent pkt req ∈ s.queue := by
    rw [hq]
    exact mem_cons_self
  have hr := (h.consistent.report_lt hm).1
  have hor := h.consistent.order
  rw [hq] at hor
  refine ⟨?_,?_,?_⟩
  · intro other hf
    have hla := h.consistent.latest pkt req other hm hf
    exact ho (by omega)
  · intro other completed ha
    have hla := (pairwise_cons.mp hor).1 _ ha pkt req other completed rfl rfl
    exact ho (by omega)
  · intro other hu
    have hle := h.consistent.reported_le
    exact ho (hle.trans hu)

theorem Sound.done (h : Sound s) (hw : s.waiting = some waiting) (hme : notice ∈ s.queue)
    (hd : confirm waiting.qos waiting.phase notice.event = .ok none)
    (hl : s.requests[waiting.request]? ≠ some 0) : waiting.request ∈ s.acknowledged := by
  have hc := h.current waiting hw
  rcases confirm_done hd with hz | ⟨pkt,hp,ha⟩
  · rw [hc.qos,hz] at hl
    exact absurd rfl hl
  · have ho := hc.owns pkt hp
    cases notice with
    | sent other req => simp [Notice.event] at ha
    | failed error => simp [Notice.event] at ha
    | answered other req completed =>
      obtain ⟨hac,-,hr⟩ := h.consistent.answers other req completed hme
      have hm : other = pkt ∧ s.requests[req]? = some waiting.qos := by
        cases completed with
        | true =>
          simp only [Notice.event,reduceCtorEq,and_false,false_or,
            MqttBrokerEvent.publishCompleted.injEq] at ha
          exact ⟨ha.2,by rw [hr,ha.1]; rfl⟩
        | false =>
          simp only [Notice.event,reduceCtorEq,and_false,or_false,
            MqttBrokerEvent.publishAcknowledged.injEq] at ha
          exact ⟨ha.2,by rw [hr,ha.1]; rfl⟩
      obtain ⟨rfl,hq⟩ := hm
      rw [← ho.answers req completed hme hq]
      exact hac

theorem poll_sound (h : Sound s) : Sound (step s .poll) := by
  simp only [step]
  split
  · next waiting notice queue hw hq =>
    have hc := h.current waiting hw
    have ht := h.consistent.tail hq
    have hl := hc.last
    have hb : waiting.request < s.requests.length := by omega
    have hm : notice ∈ s.queue := by
      rw [hq]
      exact mem_cons_self
    unfold readNotice
    split
    · exact finish_sound ht waiting _ hb (by nofun)
    · next hd =>
      exact finish_sound ht waiting _ hb fun _ hle =>
        h.done hw hm hd hle
    · next phase hp =>
      refine ⟨{ ht with },fun other hot => ?_⟩
      cases hot
      rcases confirm_waiting hp with ⟨rfl,-⟩ | ⟨pkt,hs,he,rfl,hqo⟩
      · -- still the same wait, over a shorter queue
        refine ⟨hl,hc.qos,?_,?_⟩
        · intro hs hqo req hr
          exact hc.sending hs hqo req (Nat.le_trans (Nat.le_add_right _ _) hr)
        · intro pkt hse
          have ho := hc.owns pkt hse
          refine ⟨ho.flight,fun req completed ha => ?_,ho.unsent⟩
          refine ho.answers req completed ?_
          rw [hq]
          exact mem_cons_of_mem _ ha
      · refine ⟨hl,hc.qos,by nofun,?_⟩
        intro other hot
        cases hot
        cases notice with
        | answered other req completed => cases completed <;> cases he
        | failed error => cases he
        | sent other req =>
          cases he
          have ho := h.takes hw hs hqo hq
          exact ⟨ho.flight,ho.answers,ho.unsent⟩
  · exact h

theorem awaitBrokerConfirmation_events (giveUp : GiveUp) (queue : List Notice) (s : State)
    (waiting : Waiting) (hw : s.waiting = some waiting) (hq : s.queue = queue) :
    ∃ evs : List Event, (evs.foldl step s).waiting = none ∧
      (evs.foldl step s).results = s.results ++ [(waiting.request,
        (awaitBrokerConfirmation waiting.qos giveUp waiting.phase (queue.map Notice.event)).1)] ∧
      (evs.foldl step s).queue.map Notice.event =
        (awaitBrokerConfirmation waiting.qos giveUp waiting.phase (queue.map Notice.event)).2 := by
  induction queue generalizing s waiting with
  | nil =>
    refine ⟨[.giveUp giveUp],?_⟩
    simp [step,hw,State.finish,awaitBrokerConfirmation,hq]
  | cons notice queue ih =>
    have hp : step s .poll = readNotice { s with
        queue := queue
        reported := s.reported + notice.sentRequest.toList.length } waiting notice := by
      simp [step,hw,hq]
    cases hc : confirm waiting.qos waiting.phase notice.event with
    | error error =>
      refine ⟨[.poll],?_⟩
      simp [hp,readNotice,hc,State.finish,awaitBrokerConfirmation]
    | ok next =>
      cases next with
      | none =>
        refine ⟨[.poll],?_⟩
        simp [hp,readNotice,hc,State.finish,awaitBrokerConfirmation]
      | some phase =>
        have hn : step s .poll = { s with
            queue := queue
            reported := s.reported + notice.sentRequest.toList.length
            waiting := some { waiting with phase := phase } } := by
          simp [hp,readNotice,hc]
        obtain ⟨evs,he⟩ := ih (step s .poll) { waiting with phase := phase }
          (by rw [hn]) (by rw [hn])
        refine ⟨.poll :: evs,?_⟩
        rw [show (step s .poll).results = s.results by rw [hn]] at he
        simpa [awaitBrokerConfirmation,hc] using he

def CleanStep (s : State) (event : Event) : Prop :=
  ∀ message, event = .call message → message.qos ≠ 0 → Clean s message.qos

def CleanRun : State → List Event → Prop := Along step CleanStep

theorem step_sound {ev : Event} (h : Sound s) (hc : CleanStep s ev) : Sound (step s ev) := by
  cases ev with
  | call msg => exact call_sound h msg (hc msg rfl)
  | send pkt => exact send_sound h pkt
  | answer pkt => exact answer_sound h pkt
  | fail error => exact fail_sound h error
  | poll => exact poll_sound h
  | giveUp why => exact giveUp_sound h why

/-- Where every call begins with nothing unreported of its own level, a call at QoS 1 or 2 returns
success only after the broker has acknowledged its own packet. -/
theorem clean_run_confirms_own (publisher : RumqttcMqttPublisher) (events : List Event)
    (hclean : CleanRun (State.initial publisher) events) (request : Nat)
    (hresult : (request,.ok ()) ∈ (run publisher events).results)
    (hqos : (run publisher events).requests[request]? = some 1 ∨
      (run publisher events).requests[request]? = some 2) :
    request ∈ (run publisher events).acknowledged := by
  have hs := hclean.keeps Sound step_sound (initial_sound publisher)
  refine (hs.consistent.confirmed request hresult).2 fun hz => ?_
  rw [run,hz] at hqos
  simp at hqos

/-! Two calls on one client. -/

def mainPublisher : RumqttcMqttPublisher :=
  .connected (.velamq "main" "mqtt://broker:1883" "edge-1")

def telemetry : MqttPublishMessage where
  sinkId := "main"
  broker := "mqtt://broker:1883"
  clientId := "edge-1"
  topic := "telemetry"
  qos := 1
  payload := []

/-- The first call times out before its packet is sent; the second reads the event of the first
packet and takes its acknowledgement for its own. -/
def staleEvents : List Event :=
  [.call telemetry,.giveUp .timeout,.call telemetry,.send 1,.send 2,.answer 1,.poll,.poll, .poll]

theorem stale_confirmation : (run mainPublisher staleEvents).requests = [1,1] ∧
    (1,.ok ()) ∈ (run mainPublisher staleEvents).results ∧
    1 ∉ (run mainPublisher staleEvents).acknowledged := by
  have hr : (run mainPublisher staleEvents).results =
      [(0,.error "mqtt broker acknowledgement timed out"),(1,.ok ())] := rfl
  have ha : (run mainPublisher staleEvents).acknowledged = [0] := rfl
  refine ⟨rfl,?_,?_⟩
  · rw [hr]
    exact mem_cons_of_mem _ (mem_singleton.mpr rfl)
  · rw [ha]
    decide

def orderlyEvents : List Event :=
  [.call telemetry,.send 1,.poll,.giveUp .timeout,.call telemetry,.send 2,.answer 1,.poll,
    .poll,.answer 2,.poll]

private theorem orderlyEvents_clean : CleanRun (State.initial mainPublisher) orderlyEvents := by
  have he : ∀ qos, Clean (State.initial mainPublisher) qos := by
    intro qos req _ h
    simp [State.initial] at h
  have hre : Clean ((orderlyEvents.take 4).foldl step (State.initial mainPublisher)) 1 := by
    intro req hr h
    have hb := (List.getElem?_eq_some_iff.mp h).1
    change 1 ≤ req at hr
    change req < 1 at hb
    omega
  refine ⟨fun _ hc _ => ?_,by nofun,by nofun,by nofun,fun _ hc _ => ?_,by nofun,
    by nofun,by nofun,by nofun,by nofun,by nofun,trivial⟩
  · cases hc
    exact he 1
  · cases hc
    exact hre

theorem orderlyEvents_confirmed : (1,.ok ()) ∈ (run mainPublisher orderlyEvents).results ∧
    1 ∈ (run mainPublisher orderlyEvents).acknowledged := by
  have hr : (1,.ok ()) ∈ (run mainPublisher orderlyEvents).results := by
    change (1,Except.ok ()) ∈
      [(0,Except.error "mqtt broker acknowledgement timed out"),(1,Except.ok ())]
    exact mem_cons_of_mem _ (mem_singleton.mpr rfl)
  exact ⟨hr,clean_run_confirms_own mainPublisher orderlyEvents orderlyEvents_clean 1 hr (.inl rfl)⟩

/-- A wait that first reads a late answer to packet 1, learns its own packet id and leaves what comes
after its confirmation. -/
theorem confirmed_wait_ends : ∃ events : List Event,
    let ended := events.foldl step { State.initial mainPublisher with
      queue := [.answered 1 0 false,.sent 2 1,.answered 1 0 false,.answered 2 1 false,.sent 3 2]
      waiting := some ⟨1,1,.sending⟩ }
    ended.waiting = none ∧ ended.results = [(1,.ok ())] ∧
      ended.queue.map Notice.event = [.publishSent 3] :=
  awaitBrokerConfirmation_events .timeout [.answered 1 0 false,.sent 2 1,.answered 1 0 false,
    .answered 2 1 false,.sent 3 2] _ ⟨1,1,.sending⟩ rfl rfl

end VelaEdge.Runtime.PublishConfirmations
