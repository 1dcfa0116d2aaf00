import VelaEdge.Cloud.Gateway

/-! What a runtime session can reach: the part of the store that belongs to its own edge, and only
with the token of that edge. -/
namespace VelaEdge.Cloud.SessionScope

open Base Core Gateway List Registry Option

inductive Phase where
  | accepted
  | registered
  | deploying (version : String)
  | receiving
  | ended

structure State extends MessageLoop where
  phase : Phase

inductive Input where
  | proceed
  | message (message : Message)
  | discovery (messageId : Nat) (request : DiscoveryRequest)
  | configChanged
  | disconnect
  | elsewhere (change : GatewayStore → GatewayStore)

def State.start (store : GatewayStore) : State where
  store := store
  pending := .empty
  sequence := 10000
  accepted := 0
  replies := []
  phase := .accepted

def State.fail (state : State) : State := { state with phase := .ended }

def State.continue (state : State) : Except String MessageLoop → State
  | .ok loop => { toMessageLoop := loop, phase := .receiving }
  | .error _ => state.fail

/-- Registration, then the deployment of what is due, then the messages. -/
def State.proceed (session : Session) (state : State) : State := match state.phase with
  | .accepted =>
    { state with store := persistRuntimeDiscoveredEdge session state.store, phase := .registered }
  | .registered =>
    match deployableConfigPackage state.store.toCloudControlStore session.edgeId
        session.appliedConfigVersion with
    | none => { state with phase := .receiving }
    | some package =>
      { state with
        replies := state.replies ++ [.configDeploy package]
        phase := .deploying package.version }
  | _ => state

def State.receive (registry : Bool) (session : Session) (state : State) (message : Message) :
    State :=
  match state.phase with
  | .deploying version =>
    state.continue (do
      let (answer,store) ← acceptConfigReport session version message state.store
      pure { state.toMessageLoop with store := store, replies := state.replies ++ [answer] })
  | .receiving =>
    state.continue (if registry then state.toMessageLoop.handleWithRegistry session message
      else state.toMessageLoop.persist session message)
  | _ => state

def step (registry : Bool) (session : Session) (state : State) : Input → State
  | .proceed => state.proceed session
  | .message message => state.receive registry session message
  | .discovery messageId request =>
    match state.phase with
    | .receiving =>
      { state with toMessageLoop := state.toMessageLoop.requestDiscovery messageId request }
    | _ => state
  | .configChanged => state.fail
  | .disconnect => state.fail
  | .elsewhere change => { state with store := change state.store }

def run (registry : Bool) (session : Session) (store : GatewayStore) (inputs : List Input) : State :=
  inputs.foldl (step registry session) (.start store)

structure EdgeView where
  node : Option EdgeNode
  packages : Registry packageKey
  releases : Registry ReleaseRecord.releaseId
  metrics : Option EdgeRuntimeMetricsSnapshot
  events : List EdgeRuntimeEvent
  discoveryReports : Option (List DiscoveryReport)
  credentials : Registry EdgeAccessCredential.credentialId

def edgeView (store : GatewayStore) (edgeId : String) : EdgeView where
  node := store.edgeNodes.get edgeId
  packages := store.configPackages.retain fun package => package.edgeId = edgeId
  releases := store.releases.retain fun release => release.edgeId = edgeId
  metrics := store.runtimeMetrics.get edgeId
  events := store.runtimeEvents.filter fun event => event.edgeId = edgeId
  discoveryReports := store.discoveryReports.get edgeId
  credentials := store.edgeCredentials.retain fun credential => credential.edgeId = edgeId

def Input.Spares (edgeId : String) : Input → Prop
  | .elsewhere change => ∀ store, edgeView (change store) edgeId = edgeView store edgeId
  | _ => True

variable {msg : Message}

section Views

variable {sess : Session} {store : GatewayStore} {other : String}

theorem view_registerEdge (store : GatewayStore) (node : EdgeNode) (h : other ≠ node.edgeId) :
    edgeView (store.withCore (store.registerEdge node)) other = edgeView store other := by
  have hn : (store.edgeNodes.insert node).get other = store.edgeNodes.get other := by
    rw [get_insert,if_neg h]
  exact congrArg (fun node => { edgeView store other with node := node }) hn

theorem view_insertRelease {rel prev : ReleaseRecord}
    (hp : store.releases.get rel.releaseId = some prev) (he : prev.edgeId ≠ other)
    (h : rel.edgeId ≠ other) :
    edgeView (store.withCore (store.insertRelease rel)) other = edgeView store other := by
  have hr : ((store.releases.insert rel).retain fun rel =>
      rel.edgeId = other) = store.releases.retain fun rel => rel.edgeId = other := by
    refine retain_insert ?_ ?_
    · exact decide_eq_false h
    · intro old ho
      rw [hp,some.injEq] at ho
      rw [← ho]
      exact decide_eq_false he
  exact congrArg (fun rels => { edgeView store other with releases := rels }) hr

theorem view_upsertRuntimeMetrics {snapshot : EdgeRuntimeMetricsSnapshot}
    (h : other ≠ snapshot.edgeId) :
    edgeView (store.upsertRuntimeMetrics snapshot) other = edgeView store other := by
  have hm : (store.runtimeMetrics.insert snapshot).get other = store.runtimeMetrics.get other := by
    rw [get_insert,if_neg h]
  exact congrArg (fun metrics => { edgeView store other with metrics := metrics }) hm

theorem view_pushRuntimeEvent {ev : EdgeRuntimeEvent} (h : ev.edgeId ≠ other) :
    edgeView (store.pushRuntimeEvent ev) other = edgeView store other := by
  have he : ((store.runtimeEvents ++ [ev]).filter fun ev => ev.edgeId = other) =
      store.runtimeEvents.filter fun ev => ev.edgeId = other := by
    rw [filter_append,filter_cons_of_neg (by simpa using h),filter_nil,append_nil]
  exact congrArg (fun evs => { edgeView store other with events := evs }) he

theorem view_insertDiscoveryReport {rep : DiscoveryReport} (h : other ≠ edge) :
    edgeView (store.insertDiscoveryReport edge rep) other = edgeView store other :=
  congrArg (fun reps => { edgeView store other with discoveryReports := reps })
    (OrderedMap.get_put_of_ne _ _ h)

variable (h : other ≠ sess.edgeId)
include h

theorem view_discoveredEdge :
    edgeView (persistRuntimeDiscoveredEdge sess store) other = edgeView store other := by
  apply view_registerEdge
  have hn : (discoveredNode sess (store.edgeNodes.get sess.edgeId)).edgeId = sess.edgeId := by
    cases he : store.edgeNodes.get sess.edgeId with
    | none => rfl
    | some old =>
      have hk : old.edgeId = sess.edgeId := key_of_get he
      exact hk
  rw [hn]
  exact h

theorem view_configReport {core : CloudControlStore} {ver : String} {rep : EdgeLinkConfigReport}
    (hc : persistConfigReport store.toCloudControlStore sess.edgeId ver rep =
      .ok core) : edgeView (store.withCore core) other = edgeView store other := by
  simp only [persistConfigReport,bind_eq_ok] at hc
  obtain ⟨-,-,hc⟩ := hc
  split at hc
  · cases hc
    rfl
  · next rel hre =>
    obtain ⟨hm,he,-,-⟩ := reportableRelease_eq_some hre
    rw [mem_values] at hm
    rw [ReleaseService.markReported,hm,map_some,context_some,ok_bind] at hc
    have ho : rel.edgeId ≠ other := by
      rw [he]
      exact h.symm
    have hb : edgeView (store.withCore (store.insertRelease
        (ReleaseService.reported rep.reportedVersion rel))) other =
          edgeView store other := view_insertRelease hm ho ho
    dsimp only at hc
    split at hc
    · split at hc
      · cases hc
        exact hb
      · next node hn =>
        cases hc
        have hk : node.edgeId = sess.edgeId := key_of_get hn
        have ho : other ≠ node.edgeId := by
          rw [hk]
          exact h
        have hr := view_registerEdge (store.withCore (store.insertRelease
          (ReleaseService.reported rep.reportedVersion rel)))
          { node with reportedProductVersion := some rep.reportedVersion } ho
        exact hr.trans hb
    · cases hc
      exact hb

variable {after : GatewayStore}

theorem view_acceptConfigReport {ver : String} {answer : Reply}
    (ha : acceptConfigReport sess ver msg store = .ok (answer,after)) :
    edgeView after other = edgeView store other := by
  simp only [acceptConfigReport,bind_eq_ok] at ha
  obtain ⟨-,-,-,-,ha⟩ := ha
  split at ha
  · simp only [bind_eq_ok] at ha
    obtain ⟨core,hc,ha⟩ := ha
    cases ha
    exact view_configReport h hc
  · cases ha

theorem view_persistRuntimeMessage {answer : Reply}
    (ha : persistRuntimeMessage sess msg store = .ok (answer,after)) :
    edgeView after other = edgeView store other := by
  simp only [persistRuntimeMessage,bind_eq_ok] at ha
  obtain ⟨-,-,-,-,ha⟩ := ha
  split at ha
  · next snapshot _ =>
    simp only [bind_eq_ok] at ha
    obtain ⟨_,he,ha⟩ := ha
    rw [bailIf_eq_ok,ne_eq,not_not] at he
    cases ha
    exact view_upsertRuntimeMetrics (he ▸ h)
  · next ev _ =>
    simp only [bind_eq_ok] at ha
    obtain ⟨_,he,ha⟩ := ha
    rw [bailIf_eq_ok,ne_eq,not_not] at he
    cases ha
    exact view_pushRuntimeEvent (he ▸ h.symm)
  · cases ha
    exact view_insertDiscoveryReport h
  · cases ha
    rfl
  · cases ha
    rfl

end Views

section Sessions

variable {sess : Session} {state : State} {loop after : MessageLoop} {other : String}

theorem view_continue {out : Except String MessageLoop}
    (h : ∀ loop, out = .ok loop → edgeView loop.store other = edgeView state.store other) :
    edgeView (state.continue out).store other = edgeView state.store other := by
  cases out with
  | error why => rfl
  | ok loop => exact h loop rfl

@[simp] theorem view_requestDiscovery (messageId : Nat) (req : DiscoveryRequest) :
    (loop.requestDiscovery messageId req).store = loop.store := by
  unfold MessageLoop.requestDiscovery
  split
  · rfl
  · rfl

variable (h : other ≠ sess.edgeId)
include h

theorem view_persist (ha : loop.persist sess msg = .ok after) :
    edgeView after.store other = edgeView loop.store other := by
  obtain ⟨⟨answer,store⟩,hs,ha⟩ := bind_eq_ok.mp ha
  cases ha
  exact view_persistRuntimeMessage h hs

private theorem view_handleWithRegistry (ha : loop.handleWithRegistry sess msg = .ok after) :
    edgeView after.store other = edgeView loop.store other := by
  unfold MessageLoop.handleWithRegistry at ha
  split at ha
  · split at ha
    · cases ha
      rfl
    · exact view_persist h ha
  · split at ha
    · cases ha
      rfl
    · dsimp only at ha
      split at ha
      · cases ha
        rfl
      · have hp := view_persist h ha
        exact hp
  · exact view_persist h ha

theorem view_proceed : edgeView (state.proceed sess).store other = edgeView state.store other := by
  unfold State.proceed
  split
  · exact view_discoveredEdge h
  · split
    · rfl
    · rfl
  · rfl

private theorem view_receive :
    edgeView (state.receive reg sess msg).store other = edgeView state.store other := by
  unfold State.receive
  split
  · apply view_continue
    intro loop hl
    obtain ⟨⟨answer,store⟩,hs,hl⟩ := bind_eq_ok.mp hl
    cases hl
    exact view_acceptConfigReport h hs
  · apply view_continue
    intro loop hl
    split at hl
    · exact view_handleWithRegistry h hl
    · exact view_persist h hl
  · rfl

private theorem view_step {input : Input} (hi : input.Spares other) :
    edgeView (step reg sess state input).store other = edgeView state.store other := by
  cases input with
  | proceed => exact view_proceed h
  | message msg => exact view_receive h
  | discovery messageId req =>
    unfold step
    dsimp only
    split
    · rw [view_requestDiscovery]
    · rfl
  | configChanged => rfl
  | disconnect => rfl
  | elsewhere change => exact hi state.store

theorem view_foldl {inputs : List Input} (hi : ∀ input ∈ inputs, input.Spares other) :
    edgeView (inputs.foldl (step reg sess) state).store other = edgeView state.store other := by
  induction inputs generalizing state with
  | nil => rfl
  | cons input inputs ih =>
    rw [foldl_cons,ih fun later hl => hi later (mem_cons_of_mem _ hl),
      view_step h (hi input mem_cons_self)]

end Sessions

/-! ## Tokens -/

inductive CredentialEvent where
  /-- A token is issued, with the new edge or for one that is there. -/
  | issue (edgeId token : String) (credentialId : Nat) (createdAt : Runtime.Time)
  | removeEdge (edgeId : String)
  | elsewhere (change : GatewayStore → GatewayStore)

variable (hashAccessToken : String → String)

def CredentialEvent.apply (store : GatewayStore) : CredentialEvent → GatewayStore
  | .issue edgeId token credentialId createdAt =>
    store.replaceEdgeCredential ⟨credentialId,edgeId,hashAccessToken token,true,createdAt⟩
  | .removeEdge edgeId => store.removeEdgeNode edgeId
  | .elsewhere change => { change store with edgeCredentials := store.edgeCredentials }

def storeAfter (events : List CredentialEvent) : GatewayStore :=
  events.foldl (CredentialEvent.apply hashAccessToken) .empty

def CredentialEvent.tokenFor (edgeId : String) : CredentialEvent → Option String
  | .issue issuedFor token _ _ => if issuedFor = edgeId then some token else none
  | _ => none

def lastToken (events : List CredentialEvent) (edgeId : String) : Option String :=
  (events.filterMap (CredentialEvent.tokenFor edgeId)).getLast?

def ActiveFor (store : GatewayStore) (edgeId : String) (token : Option String) : Prop :=
  ∀ credential ∈ store.edgeCredentials.values, credential.edgeId = edgeId →
    credential.active = true → some credential.tokenHash = token.map hashAccessToken

section Tokens

variable {hashAccessToken} {store : GatewayStore} {edgeId : String} {token : Option String}

section

variable (h : ActiveFor hashAccessToken store edgeId token)
include h

theorem ActiveFor.issue {issued : String} : ActiveFor hashAccessToken (store.replaceEdgeCredential
      ⟨credentialId,issuedFor,hashAccessToken issued,true,createdAt⟩) edgeId
      (if issuedFor = edgeId then some issued else token) := by
  intro cred hc he ha
  rcases mem_values_insert.mp hc with rfl | ⟨-,had⟩
  · dsimp only at he
    rw [if_pos he]
    rfl
  · -- what was there before is there still, or was made inactive for the same edge
    rw [mem_values,get_adjust,map_eq_some_iff] at had
    obtain ⟨prev,hp,rfl⟩ := had
    unfold EdgeAccessCredential.revoke at he ha ⊢
    dsimp only at he ha ⊢
    split at ha
    · cases ha
    · next ho =>
      rw [if_neg ho] at he ⊢
      have hi : issuedFor ≠ edgeId := by
        rintro rfl
        exact ho he
      rw [if_neg hi]
      exact h prev (mem_values_of_get hp) he ha

theorem ActiveFor.removeEdge :
    ActiveFor hashAccessToken (store.removeEdgeNode removed) edgeId token := by
  unfold GatewayStore.removeEdgeNode
  split
  · exact h
  · next node hn =>
    intro cred hc
    have hk : cred ∈ store.edgeCredentials.values := by
      rw [MemoryStore.removeEdgeNode,hn,mem_values,get_retain,filter_eq_some_iff] at hc
      exact mem_values.mpr hc.1
    exact h cred hk

theorem ActiveFor.apply (ev : CredentialEvent) :
    ActiveFor hashAccessToken (ev.apply hashAccessToken store) edgeId
      ((ev.tokenFor edgeId).or token) := by
  cases ev with
  | issue issuedFor issued credentialId createdAt =>
    have ht : ((CredentialEvent.issue issuedFor issued credentialId createdAt).tokenFor
        edgeId).or token = if issuedFor = edgeId then some issued else token := by
      unfold CredentialEvent.tokenFor
      dsimp only
      split
      · rfl
      · rfl
    rw [ht]
    exact h.issue
  | removeEdge removed => exact h.removeEdge
  | elsewhere change => exact h

end

@[simp] theorem lastToken_cons (ev : CredentialEvent) (evs : List CredentialEvent) :
    lastToken (ev :: evs) edgeId = (lastToken evs edgeId).or (ev.tokenFor edgeId) := by
  unfold lastToken
  cases ht : ev.tokenFor edgeId with
  | none => rw [filterMap_cons_none ht,or_none]
  | some issued =>
    rw [filterMap_cons_some ht,List.getLast?_cons]
    cases (evs.filterMap (CredentialEvent.tokenFor edgeId)).getLast? with
    | none => rfl
    | some later => rfl

private theorem foldl_activeFor {evs : List CredentialEvent}
    (h : ActiveFor hashAccessToken store edgeId token) :
    ActiveFor hashAccessToken (evs.foldl (CredentialEvent.apply hashAccessToken) store) edgeId
      ((lastToken evs edgeId).or token) := by
  induction evs generalizing store token with
  | nil => exact h
  | cons ev evs ih =>
    rw [foldl_cons,lastToken_cons,Option.or_assoc]
    exact ih (h.apply ev)

theorem activeEdgeCredential_storeAfter {cred : EdgeAccessCredential}
    (h : (storeAfter hashAccessToken evs).activeEdgeCredential edgeId = some cred) :
    some cred.tokenHash = (lastToken evs edgeId).map hashAccessToken := by
  have hm := (maxBy_spec h).1
  rw [mem_filter,decide_eq_true_eq] at hm
  have he : ActiveFor hashAccessToken .empty edgeId none := by
    intro cred hc
    cases hc
  have ha := foldl_activeFor he cred hm.1 hm.2.1 hm.2.2
  rw [or_none] at ha
  exact ha

private theorem handleEdgelinkStream_ok {reply : Reply}
    (h : handleEdgelinkStream hashAccessToken store msg = .ok (reply,sess)) :
    sess.edgeId = msg.edgeId ∧ ∃ he, msg.payload = .hello he ∧
      ∀ cred, store.activeEdgeCredential msg.edgeId = some cred →
        he.accessToken.map hashAccessToken = some cred.tokenHash := by
  unfold handleEdgelinkStream at h
  split at h
  · next he hp =>
    simp only [bind_eq_ok] at h
    obtain ⟨_,-,_,-,_,hch,hs⟩ := h
    cases hs
    refine ⟨rfl,he,hp,?_⟩
    intro cred hc
    rw [checkAccessToken,hc] at hch
    exact not_not.mp (bailIf_eq_ok.mp hch)
  · cases h

end Tokens

/-- A session writes to its own edge only, whatever its runtime sends; and it was opened with the
token issued last for the edge, if a credential of the edge is active. -/
theorem session_confined_to_edge (hashAccessToken : String → String)
    (hinjective : Function.Injective hashAccessToken) :
    (∀ store message reply session,
      handleEdgelinkStream hashAccessToken store message = .ok (reply,session) →
        ∀ registry inputs other, other ≠ message.edgeId → (∀ input ∈ inputs, input.Spares other) →
            edgeView (run registry session store inputs).store other = edgeView store other) ∧
      ∀ events message reply session credential,
        (storeAfter hashAccessToken events).activeEdgeCredential message.edgeId = some credential →
          handleEdgelinkStream hashAccessToken (storeAfter hashAccessToken events) message =
              .ok (reply,session) →
            ∃ hello token, message.payload = .hello hello ∧ hello.accessToken = some token ∧
              lastToken events message.edgeId = some token := by
  constructor
  · intro store message reply session ha registry inputs other ho hi
    rw [← (handleEdgelinkStream_ok ha).1] at ho
    exact view_foldl ho hi
  · intro events message reply session credential hc ha
    obtain ⟨-,hello,hpa,hch⟩ := handleEdgelinkStream_ok ha
    have hh := (hch credential hc).trans (activeEdgeCredential_storeAfter hc)
    have ht : hello.accessToken = lastToken events message.edgeId := map_injective hinjective hh
    obtain ⟨token,hp,-⟩ := map_eq_some_iff.mp (hch credential hc)
    exact ⟨hello,token,hpa,hp,ht.symm.trans hp⟩

def firstToken : String := "edge_edge-1_0b6f0a6b6a1c4b1f9a3d6c1f2e4d5a61"

def secondToken : String := "edge_edge-1_7c1d2e3f4a5b4c6d8e7f9a0b1c2d3e4f"

/-- The digests of the two tokens; what else it does keeps it one to one. -/
def pumpHash (text : String) : String :=
  Equiv.swap firstToken "df9e00d542300abc321799d3dd32cdeed59353fa78abd5b9324fd17c0effa314"
    (Equiv.swap secondToken "e674721df69eb341f7178bdccafb25a6c84d5cc8b643b8df0a5d097368720b17" text)

private theorem pumpHash_injective : Function.Injective pumpHash :=
  (Equiv.injective _).comp (Equiv.injective _)

def pumpTokens : List CredentialEvent :=
  [.issue "edge-1" firstToken 1 0,.issue "edge-2" "other" 2 1,.issue "edge-1" secondToken 3 2]

def pumpHello : Message where
  messageId := 1
  edgeId := "edge-1"
  runtimeId := some "runtime-1"
  sequence := 1
  payload := .hello ⟨"runtime-1","1.0.0",none,["modbus"],some secondToken⟩

def pumpInputs : List Input := [.proceed,.proceed,
    .message ⟨2,"edge-1",some "runtime-1",2,.runtimeEvent ⟨"edge-1","started","started"⟩⟩,
    .message ⟨3,"edge-1",some "runtime-1",3,.runtimeEvent ⟨"edge-2","stopped","stopped"⟩⟩]

theorem pump_session_confined :
    ∃ reply session, handleEdgelinkStream pumpHash (storeAfter pumpHash pumpTokens) pumpHello =
        .ok (reply,session) ∧
      edgeView (run true session (storeAfter pumpHash pumpTokens) pumpInputs).store "edge-2" =
        edgeView (storeAfter pumpHash pumpTokens) "edge-2" ∧
      ∃ hello token, pumpHello.payload = .hello hello ∧ hello.accessToken = some token ∧
        lastToken pumpTokens "edge-1" = some token := by
  have ho : (handleEdgelinkStream pumpHash (storeAfter pumpHash pumpTokens)
      pumpHello).toOption.isSome = true := by decide +kernel
  obtain ⟨⟨reply,session⟩,hs⟩ := isSome_iff_exists.mp ho
  rw [toOption_eq_some] at hs
  have hc : (storeAfter pumpHash pumpTokens).activeEdgeCredential "edge-1" =
      some ⟨3,"edge-1",pumpHash secondToken,true,2⟩ := by decide +kernel
  obtain ⟨hco,ht⟩ := session_confined_to_edge pumpHash pumpHash_injective
  refine ⟨reply,session,hs,?_,?_⟩
  · apply hco _ _ _ _ hs true pumpInputs "edge-2" (by decide)
    intro input hi
    simp only [pumpInputs,mem_cons,not_mem_nil,or_false] at hi
    rcases hi with rfl | rfl | rfl | rfl <;> trivial
  · exact ht pumpTokens pumpHello reply session _ hc hs

end VelaEdge.Cloud.SessionScope
