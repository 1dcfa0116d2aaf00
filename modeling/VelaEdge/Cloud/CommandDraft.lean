import VelaEdge.Cloud.AgentToolScope

/-! The tool that drafts a device command. It looks for an earlier draft with the same idempotency
key before it makes one of its own. -/
namespace VelaEdge.Cloud

open Base Core VelaEdge.Runtime Option Text

structure DraftDeviceCommandInput where
  projectId : Option String
  edgeId : String
  flowId : String
  pointId : String
  deviceId : Option String
  value : Json
  title : String
  rationale : String
  idempotencyKey : String
deriving DecidableEq

variable (arguments : Json)

def requiredText (key : String) : Option String :=
  (arguments.get key).bind Json.asStr

/-- An absent field and `null` are the same; `none` for anything else that is not text. -/
def optionalText (key : String) : Option (Option String) :=
  match arguments.get key with
  | none => some none
  | some .null => some none
  | some raw => raw.asStr.map some

def DraftDeviceCommandInput.decode : Option DraftDeviceCommandInput := do
  let projectId ← optionalText arguments "projectId"
  let edgeId ← requiredText arguments "edgeId"
  let flowId ← requiredText arguments "flowId"
  let pointId ← requiredText arguments "pointId"
  let deviceId ← optionalText arguments "deviceId"
  let value ← arguments.get "value"
  let title ← requiredText arguments "title"
  let rationale ← requiredText arguments "rationale"
  let idempotencyKey ← requiredText arguments "idempotencyKey"
  pure ⟨projectId,edgeId,flowId,pointId,deviceId,value,title,rationale,idempotencyKey⟩

def AgentCommandCandidateStatus.debug : AgentCommandCandidateStatus → String
  | .draft => "Draft"
  | .awaitingConfirmation => "AwaitingConfirmation"
  | .confirmed => "Confirmed"
  | .dispatching => "Dispatching"
  | .dispatched => "Dispatched"
  | .rejected => "Rejected"
  | .failed => "Failed"

def AgentCommandCandidateError.message : AgentCommandCandidateError → String
  | .missingTargetField field => s!"command target field `{field}` is required"
  | .idempotencyKeyRequired => "command candidate requires an idempotency key"
  | .validationRequired => "command candidate validation must pass before confirmation"
  | .humanConfirmationRequired => "command confirmation must be provided by a human operator"
  | .reviewNoteRequired => "device commands require a reviewer note"
  | .twoPersonConfirmationRequired =>
    "critical device commands require two distinct human approvers"
  | .invalidTransition source action =>
    s!"cannot perform `{action}` while command candidate is in `{source.debug}` state"

inductive CommandDraft where
  | duplicate (existing : AgentCommandCandidate)
  | drafted (candidate : AgentCommandCandidate)
deriving DecidableEq

def CommandDraft.commandCandidate : CommandDraft → AgentCommandCandidate
  | .duplicate existing => existing
  | .drafted candidate => candidate

variable (ext : Externals)

/-- The tool's own check, with the bounds and the messages of the later validation. -/
def validateCommandValue (value : Json) (valueType : TelemetryType) (range : Option NumberRange) :
    Except String Unit :=
  validateAgentCommandValue ext value valueType range

def draftForEdge (store : CloudControlStore) (input : DraftDeviceCommandInput) (projectId : String)
    (edgeId : String) (edge : EdgeNode) (candidateId : String) :
    Except String AgentCommandCandidate := do
  let package ← context (store.latestConfigPackageForEdge edgeId)
    s!"edge `{edgeId}` has no configuration package"
  let flow ← context (package.commandFlows.find? fun flow => flow.flowId = input.flowId)
    s!"command flow `{input.flowId}` does not exist"
  bailIf (!flow.enabled) s!"command flow `{input.flowId}` is disabled"
  (validateCommandFlow flow package.pointMappings).mapError fun error =>
    s!"command flow is invalid: {error}"
  bailIf (!flow.nodes.any fun node =>
      node.kind = .pointWrite && node.refId = some input.pointId)
    s!"command flow `{input.flowId}` does not expose writable point `{input.pointId}`"
  let mapping ← context
    (package.pointMappings.find? fun mapping => mapping.pointId = input.pointId)
    s!"point `{input.pointId}` does not exist"
  bailIf (!mapping.access.isWritable) s!"point `{input.pointId}` is read-only"
  bailIf (mapping.protocolConnectionId ≠ flow.protocolConnectionId)
    s!"point `{input.pointId}` uses protocol connection `{
      mapping.protocolConnectionId}`, but flow `{flow.flowId}` uses `{flow.protocolConnectionId}`"
  bailIf (input.deviceId.isSome ∧ input.deviceId ≠ some mapping.deviceId)
    "deviceId does not match the writable point mapping"
  validateCommandValue ext input.value mapping.valueType mapping.range
  (AgentCommandCandidate.new candidateId
    { projectId := projectId
      edgeId := edgeId
      productId := edge.productId
      productVersion := some package.version
      flowId := flow.flowId
      protocolConnectionId := flow.protocolConnectionId
      deviceId := mapping.deviceId
      pointId := mapping.pointId }
    input.value (trim input.idempotencyKey) .high).mapError
      AgentCommandCandidateError.message

def draftDeviceCommand (store : MemoryStore) (scope : AgentToolScope) (arguments : Json)
    (candidateId : String) : Except String CommandDraft := do
  let input ← context (DraftDeviceCommandInput.decode arguments) "decode device command draft"
  let projectId ← context (← scope.resolveProject arguments)
    "projectId is required to draft a device command"
  bailIf (input.projectId.isSome ∧ input.projectId ≠ some projectId)
    "projectId is outside the active Agent scope"
  let edgeId ← context (← scope.resolveEdge arguments)
    "edgeId is required to draft a device command"
  bailIf (input.edgeId ≠ edgeId) "edgeId is outside the active Agent scope"
  [("flowId",input.flowId),("pointId",input.pointId),("title",input.title),
    ("rationale",input.rationale),("idempotencyKey",input.idempotencyKey)].forM
      fun (label,value) => ensureNonEmpty label value
  let edge ← ensureEdgeScope store.toCloudControlStore (some projectId) edgeId
  -- The key is looked up as it came and kept without the blanks around it.
  match store.agentCommandCandidateByIdempotency projectId edgeId input.idempotencyKey with
  | some existing => pure (.duplicate existing)
  | none =>
    let candidate ← draftForEdge ext store.toCloudControlStore input projectId edgeId edge
      candidateId
    pure (.drafted candidate)

def executeDraft (store : MemoryStore) (callContext arguments : Json) (candidateId : String) :
    Except String CommandDraft :=
  (do
    let scope ← AgentToolScope.fromContext callContext
    draftDeviceCommand ext store scope arguments candidateId).mapError fun error =>
      s!"Agent tool `device.command.draft` failed: {error}"

/-! ## Keys -/

@[ext] structure DraftKey where
  projectId : String
  edgeId : String
  idempotencyKey : String
deriving DecidableEq

/-- What of a candidate never changes once it has its identifier. -/
structure Command where
  target : AgentCommandTarget
  idempotencyKey : String
deriving DecidableEq

def Command.key (command : Command) : DraftKey :=
  ⟨command.target.projectId,command.target.edgeId,trim command.idempotencyKey⟩

def Command.Trimmed (command : Command) : Prop :=
  trim command.idempotencyKey = command.idempotencyKey

def AgentCommandCandidate.command (candidate : AgentCommandCandidate) : Command :=
  ⟨candidate.target,candidate.idempotencyKey⟩

/-- The key that a call of the tool asks for; `none` when it names no project, edge or key. -/
def requestedKey (callContext arguments : Json) : Option DraftKey := do
  let scope ← (AgentToolScope.fromContext callContext).toOption
  let input ← DraftDeviceCommandInput.decode arguments
  let projectId ← (scope.resolveProject arguments).toOption.join
  let edgeId ← (scope.resolveEdge arguments).toOption.join
  pure ⟨projectId,edgeId,trim input.idempotencyKey⟩

/-- The arguments name everything a draft needs, once and in agreement with the scope, and the edge
belongs to the project. -/
def isWellFormed (store : CloudControlStore) (key : DraftKey) (arguments : Json) : Bool :=
  (DraftDeviceCommandInput.decode arguments).any fun input =>
    (input.projectId = none || input.projectId = some key.projectId) && input.edgeId = key.edgeId &&
      [input.flowId,input.pointId,input.title,input.rationale,input.idempotencyKey].all
        (fun text => trim text ≠ "") &&
      (store.edgeNodes.get key.edgeId).any fun edge => edge.projectId = some key.projectId

def isTrimmed : Bool :=
  (requiredText arguments "idempotencyKey").all fun key => trim key = key

variable {ext : Externals}

theorem decode_idempotencyKey {args : Json} (h : DraftDeviceCommandInput.decode args = some input) :
    requiredText args "idempotencyKey" = some input.idempotencyKey := by
  simp only [DraftDeviceCommandInput.decode,bind_eq_bind,bind_eq_some_iff] at h
  obtain ⟨_,_,_,_,_,_,_,_,_,_,_,_,_,_,_,_,key,hk,hi⟩ := h
  cases hi
  exact hk

variable {callContext args : Json}

theorem requestedKey_eq_some {key : DraftKey} : requestedKey callContext args = some key ↔
      ∃ scope input, AgentToolScope.fromContext callContext = .ok scope ∧
        DraftDeviceCommandInput.decode args = some input ∧
        scope.resolveProject args = .ok (some key.projectId) ∧
        scope.resolveEdge args = .ok (some key.edgeId) ∧
        key.idempotencyKey = trim input.idempotencyKey := by
  simp only [requestedKey,bind_eq_bind,bind_eq_some_iff,toOption_eq_some,join_eq_some_iff]
  constructor
  · rintro ⟨scope,hs,input,hi,proj,hp,edge,he,hk⟩
    cases hk
    exact ⟨scope,input,hs,hi,hp,he,rfl⟩
  · rintro ⟨scope,input,hs,hi,hp,he,hk⟩
    refine ⟨scope,hs,input,hi,_,hp,_,he,?_⟩
    rw [← hk]
    rfl

variable {cid : String}

theorem new_eq_ok (h : AgentCommandCandidate.new cid target value idempotencyKey risk = .ok cand) :
    cand = .drafted cid target value idempotencyKey risk := by
  simp only [AgentCommandCandidate.new,bind_eq_ok,bailIf_eq_ok,exists_const] at h
  obtain ⟨_,_,_,hc⟩ := h
  cases hc
  rfl

theorem draftForEdge_ok {store : CloudControlStore}
    (h : draftForEdge ext store input proj edgeId edge cid = .ok cand) :
    cand.candidateId = cid ∧ cand.target.projectId = proj ∧ cand.target.edgeId = edgeId ∧
      cand.idempotencyKey = trim input.idempotencyKey := by
  simp only [draftForEdge,bind_eq_ok,mapError_eq_ok] at h
  obtain ⟨_,_,_,_,_,_,_,_,_,_,_,_,_,_,_,_,_,_,_,_,hc⟩ := h
  rw [new_eq_ok hc]
  exact ⟨rfl,rfl,rfl,rfl⟩

variable {old : AgentCommandCandidate}

section

variable {store : MemoryStore}

include store

theorem draftDeviceCommand_eq {scope : AgentToolScope} {args : Json} {draft : CommandDraft}
    (h : draftDeviceCommand ext store scope args cid = .ok draft) :
    ∃ input proj edgeId edge, DraftDeviceCommandInput.decode args = some input ∧
      scope.resolveProject args = .ok (some proj) ∧
      scope.resolveEdge args = .ok (some edgeId) ∧
      (match store.agentCommandCandidateByIdempotency proj edgeId input.idempotencyKey with
        | some old => draft = .duplicate old
        | none => ∃ cand, draft = .drafted cand ∧
            draftForEdge ext store.toCloudControlStore input proj edgeId edge cid = .ok cand) := by
  simp only [draftDeviceCommand,bind_eq_ok,context_eq_ok] at h
  obtain ⟨input,hi,_,hp,proj,rfl,_,_,_,he,edgeId,rfl,_,_,_,_,edge,_,hd⟩ := h
  refine ⟨input,proj,edgeId,edge,hi,hp,he,?_⟩
  split at hd
  · cases hd
    rfl
  · obtain ⟨cand,hc,hs⟩ := bind_eq_ok.mp hd
    cases hs
    exact ⟨cand,rfl,hc⟩

theorem executeDraft_drafted
    (h : executeDraft ext store callContext args cid = .ok (.drafted cand)) :
    requestedKey callContext args = some cand.command.key ∧
      cand.candidateId = cid ∧ cand.command.Trimmed := by
  obtain ⟨scope,hs,hd⟩ := bind_eq_ok.mp (mapError_eq_ok.mp h)
  obtain ⟨input,proj,edgeId,edge,hi,hp,he,hm⟩ := draftDeviceCommand_eq hd
  split at hm
  · cases hm
  · obtain ⟨_,hsa,hm⟩ := hm
    cases hsa
    obtain ⟨hid,hpi,hei,hk⟩ := draftForEdge_ok hm
    refine ⟨?_,hid,?_⟩
    · rw [requestedKey_eq_some]
      refine ⟨scope,input,hs,hi,?_,?_,?_⟩
      · exact hp.trans (by rw [← hpi]; rfl)
      · exact he.trans (by rw [← hei]; rfl)
      · exact (congrArg trim hk).trans (trim_trim _)
    · exact (congrArg trim hk).trans ((trim_trim _).trans hk.symm)

theorem byIdempotency_eq_some
    (h : store.agentCommandCandidateByIdempotency proj edge idempotencyKey = some old) :
    old ∈ store.agentCommandCandidates.values ∧ old.target.projectId = proj ∧
      old.target.edgeId = edge ∧ old.idempotencyKey = idempotencyKey := by
  refine ⟨List.mem_of_find?_eq_some h,?_⟩
  simpa using List.find?_some h

theorem executeDraft_duplicate
    (h : executeDraft ext store callContext args cid = .ok (.duplicate old)) :
    old ∈ store.agentCommandCandidates.values ∧
      requestedKey callContext args = some old.command.key := by
  obtain ⟨scope,hs,hd⟩ := bind_eq_ok.mp (mapError_eq_ok.mp h)
  obtain ⟨input,proj,edgeId,edge,hi,hp,he,hm⟩ := draftDeviceCommand_eq hd
  split at hm
  · next found hf =>
    cases hm
    obtain ⟨hme,rfl,rfl,hk⟩ := byIdempotency_eq_some hf
    refine ⟨hme,requestedKey_eq_some.mpr ⟨scope,input,hs,hi,hp,he,?_⟩⟩
    rw [← hk]
    rfl
  · obtain ⟨_,hsa,_⟩ := hm
    cases hsa

theorem executeDraft_of_existing {key : DraftKey} (hk : requestedKey callContext args = some key)
    (hw : isWellFormed store.toCloudControlStore key args = true) (htr : isTrimmed args = true)
    (hf : store.agentCommandCandidateByIdempotency key.projectId key.edgeId
      key.idempotencyKey = some old) :
    executeDraft ext store callContext args cid = .ok (.duplicate old) := by
  obtain ⟨scope,input,hs,hi,hp,he,hr⟩ := requestedKey_eq_some.mp hk
  have hsa : trim input.idempotencyKey = input.idempotencyKey := by
    simpa only [isTrimmed,decode_idempotencyKey hi,all_some,decide_eq_true_eq] using htr
  rw [hr,hsa] at hf
  simp only [isWellFormed,hi,any_some,Bool.and_eq_true,Bool.or_eq_true,decide_eq_true_eq] at hw
  obtain ⟨⟨⟨hpi,hei⟩,ht⟩,hn⟩ := hw
  obtain ⟨edge,hge,hep⟩ : ∃ edge, store.edgeNodes.get key.edgeId = some edge ∧
      edge.projectId = some key.projectId := by
    cases hge : store.edgeNodes.get key.edgeId with
    | none =>
      rw [hge] at hn
      cases hn
    | some edge =>
      rw [hge,any_some,decide_eq_true_eq] at hn
      exact ⟨edge,rfl,hn⟩
  rw [executeDraft,mapError_eq_ok,bind_eq_ok]
  refine ⟨scope,hs,?_⟩
  simp only [draftDeviceCommand,bind_eq_ok,context_eq_ok,bailIf_eq_ok]
  refine ⟨input,hi,_,hp,_,rfl,⟨⟩,?_,_,he,_,rfl,⟨⟩,?_,⟨⟩,?_,edge,?_,?_⟩
  · rintro ⟨hg,ho⟩
    rcases hpi with hno | hso
    · rw [hno] at hg
      cases hg
    · exact ho hso
  · exact not_not.mpr hei
  · rw [forM_eq_ok]
    simpa [ensureNonEmpty] using ht
  · rw [ensureEdgeScope_eq_ok]
    exact ⟨hge,fun _ => hep⟩
  · rw [hf]
    rfl

end

end VelaEdge.Cloud
