import VelaEdge.Cloud.CommandDispatch
import VelaEdge.Runtime.CommandReach

/-! What the runtime plans from the message of a dispatched agent command, compared with what was
approved. -/
namespace VelaEdge.Cloud.ApprovedPlan

open Base Core VelaEdge.Runtime Runtime.Command

/-! ## What the message carries -/

def isObject : Json → Bool
  | .object _ => true
  | _ => false

/-- Putting a value at a path changes no field that holds anything but an object, unless the path
is that field. -/
theorem insertAt_get {doc : Json} {segs : List String}
    (h : insertAt value segs (.object fields) = .ok doc) {name : String}
    (hi : fields.lookup name = some item) (hs : isObject item = false) :
    doc.get name = if segs = [name] then some value else some item := by
  match segs, h with
  | [segment], h =>
    cases h
    simp only [Json.get,Json.lookup_insertField,hi,List.cons.injEq,and_true]
    by_cases hn : name = segment
    · simp [hn]
    · simp [hn,Ne.symm hn]
  | segment :: next :: segs, h =>
    obtain ⟨child,hc,h⟩ := bind_eq_ok.mp h
    cases h
    have hn : name ≠ segment := by
      intro hn
      rw [← hn,hi,Option.getD_some] at hc
      -- a path does not lead through anything but an object
      cases item with
      | object _ => cases hs
      | _ => cases segs <;> cases hc
    simp [Json.get,Json.lookup_insertField,hn,hi]

theorem valueAt_field {doc : Json} {name : String}
    (hn : (Text.split '.' name).filter (fun seg => seg ≠ "") = [name]) :
    doc.valueAt name = doc.get name := by
  unfold Json.valueAt
  rw [hn]
  simp [List.foldlM]

theorem scalar_of_validValue (h : validateAgentCommandValue ext value valueType range = .ok ()) :
    isObject value = false := by
  cases value with
  | object _ => cases valueType <;> cases h
  | _ => rfl

def Clear (issues : List AgentValidationIssue) : Prop := ∀ issue ∈ issues, issue.severity ≠ .error

@[simp] theorem clear_append :
    Clear (first ++ rest) ↔ Clear first ∧ Clear rest := List.forall_mem_append

@[simp] theorem not_clear_errorIssue {msg : String} : ¬ Clear [errorIssue code path msg] := by
  simp [Clear,errorIssue]

@[simp] theorem report_valid_iff :
    (AgentValidationReport.new issues).valid = true ↔ Clear issues := by
  simp [AgentValidationReport.new,Clear]

private theorem scalar_of_mapping (h : Clear (mappingIssues ext cand pkg)) :
    isObject cand.value = false := by
  unfold mappingIssues at h
  split at h
  · exact absurd h not_clear_errorIssue
  · have hv := (clear_append.mp h).2
    split at hv
    · next hva => exact scalar_of_validValue hva
    · exact absurd hv not_clear_errorIssue

theorem scalar_of_valid {view : RequestView}
    (h : (validateAgentCommandCandidate ext view cand).valid = true) :
    isObject cand.value = false := by
  have hi : Clear (candidateIssues ext view cand) := report_valid_iff.mp h
  unfold candidateIssues at hi
  split at hi
  · exact absurd hi not_clear_errorIssue
  · have hp := (clear_append.mp hi).2
    split at hp
    · exact absurd hp not_clear_errorIssue
    · have hf := (clear_append.mp hp).2
      split at hf
      · exact absurd hf not_clear_errorIssue
      · have hf := (clear_append.mp hf).1
        have hm := (clear_append.mp (clear_append.mp hf).1).2
        exact scalar_of_mapping hm

/-- The path at which a dispatch puts the value into its message. -/
def valueSegments (candidate : AgentCommandCandidate) (flow : CommandFlowConfig) : List String :=
  pathSegments (commandValuePath flow candidate.target.pointId)

structure Carries (candidate : AgentCommandCandidate) (flow : CommandFlowConfig)
    (document : Json) : Prop where
  commandId : document.stringAt "commandId" =
    if valueSegments candidate flow = ["commandId"] then candidate.value.asStr
    else some candidate.idempotencyKey
  otherCommandId : valueSegments candidate flow = ["commandId"] →
    document.stringAt "command_id" = none
  pointId : document.stringAt "pointId" =
    if valueSegments candidate flow = ["pointId"] then candidate.value.asStr
    else some candidate.target.pointId
  deviceId : document.stringAt "deviceId" =
    if valueSegments candidate flow = ["deviceId"] then candidate.value.asStr
    else some candidate.target.deviceId
  value : document.valueAt "value" = some candidate.value

variable {ext : Externals} {view : RequestView} {candidate : AgentCommandCandidate}
  {prepared : PreparedDispatch}

theorem prepareDispatch_ok (h : prepareDispatch ext view candidate = .ok prepared) :
    (prepared.package.commandFlows.find? fun flow => flow.flowId = candidate.target.flowId) =
        some prepared.flow ∧
      ∃ confirmation, insertAt candidate.value (valueSegments candidate prepared.flow)
        (commandDocument ext view candidate confirmation) = .ok prepared.document := by
  unfold prepareDispatch at h
  simp only [bind_eq_ok,context_eq_ok,mapError_eq_ok] at h
  obtain ⟨pkg,_,flow,hf,uplink,_,confirmation,_,doc,hd,plan,_,h⟩ := h
  cases h
  exact ⟨hf,confirmation,hd⟩

theorem Carries.of_prepared (hv : (validateAgentCommandCandidate ext view candidate).valid)
    (h : prepareDispatch ext view candidate = .ok prepared) :
    Carries candidate prepared.flow prepared.document := by
  obtain ⟨-,confirmation,hd⟩ := prepareDispatch_ok h
  have hva := scalar_of_valid hv
  have hs : ∀ (name text : String),
      (Text.split '.' name).filter (fun seg => seg ≠ "") = [name] →
      (commandDocument ext view candidate confirmation).get name = some (.string text) →
      prepared.document.stringAt name =
        if valueSegments candidate prepared.flow = [name] then candidate.value.asStr
        else some text := by
    intro name text hn hg
    unfold Json.stringAt
    rw [valueAt_field hn,insertAt_get hd hg rfl]
    split <;> rfl
  refine ⟨hs _ _ rfl rfl,?_,hs _ _ rfl rfl,hs _ _ rfl rfl,?_⟩
  · intro hse
    rw [hse] at hd
    unfold Json.stringAt
    rw [valueAt_field rfl,← Except.ok.inj hd,Json.get,Json.lookup_insertField]
    rfl
  · rw [valueAt_field rfl,insertAt_get hd rfl hva]
    split <;> rfl

/-! ## What was approved and what is planned -/

/-- The plan writes the approved value to the approved point of the approved device and nothing
else, behind a safety gate and under the key that lets the runtime recognise a repetition. -/
structure DoesWhatWasApproved (candidate : AgentCommandCandidate) (plan : CommandExecutionPlan) :
    Prop where
  writes_ne_nil : plan.writes ≠ []
  writes : ∀ write ∈ plan.writes,
    write.mapping.pointId = candidate.target.pointId ∧
      write.mapping.deviceId = candidate.target.deviceId ∧
      telemetryValue candidate.value write.mapping.valueType = .ok write.value
  gated : plan.safetyGates ≠ []
  commandId : plan.commandId = candidate.idempotencyKey

structure ReachesTarget (candidate : AgentCommandCandidate) (flow : CommandFlowConfig)
    (document : Json) (node : CommandGraphNode) : Prop where
  reaches : Reaches flow document node
  kind : node.kind = .pointWrite
  point : node.refId.getD "" = candidate.target.pointId

/-- The value path replaces none of the fields the planner goes by, or with the same text or
without effect; other write nodes of the point read the same value; and a safety gate lies on
the way of the message. -/
structure PathHarmless (candidate : AgentCommandCandidate) (package : EdgeConfigPackage)
    (flow : CommandFlowConfig) (document : Json) : Prop where
  commandId : valueSegments candidate flow = ["commandId"] →
    candidate.value.asStr = some candidate.idempotencyKey
  pointText : valueSegments candidate flow = ["pointId"] → ∀ text ∈ candidate.value.asStr,
    text = candidate.target.pointId
  pointOther : valueSegments candidate flow = ["pointId"] → candidate.value.asStr = none →
    ∀ node, Reaches flow document node → node.kind = .pointWrite →
      node.refId.getD "" = candidate.target.pointId
  deviceText : valueSegments candidate flow = ["deviceId"] → ∀ text ∈ candidate.value.asStr,
    text = candidate.target.deviceId
  deviceOther : valueSegments candidate flow = ["deviceId"] → candidate.value.asStr = none →
    ∀ mapping ∈ lastMapping package.pointMappings candidate.target.pointId,
      mapping.deviceId = candidate.target.deviceId
  values : ∀ node, ReachesTarget candidate flow document node →
    ∀ raw ∈ document.valueAt (((node.param "value_path").bind Json.asStr).getD
      s!"values.{candidate.target.pointId}"),
    ∀ mapping ∈ lastMapping package.pointMappings candidate.target.pointId,
      telemetryValue raw mapping.valueType = telemetryValue candidate.value mapping.valueType
  gate : ∃ node, Reaches flow document node ∧ node.kind = .safetyGate

variable {now : Time} {plan : CommandExecutionPlan} {walk : Walk} {flowId : String}
  {body : Bytes} {pkg : EdgeConfigPackage} {document : Json}

theorem planned_commandId (planned : Planned ext pkg flowId body now plan document walk)
    (carries : Carries candidate plan.flow document) :
    plan.commandId = candidate.idempotencyKey ↔
      (valueSegments candidate plan.flow = ["commandId"] →
        candidate.value.asStr = some candidate.idempotencyKey) := by
  have hid := planned.commandId
  unfold commandIdOf at hid
  rw [carries.commandId] at hid
  by_cases hs : valueSegments candidate plan.flow = ["commandId"]
  · rw [if_pos hs,carries.otherCommandId hs,Option.or_none,Option.filter_eq_some_iff] at hid
    simp [hs,hid.1]
  · rw [if_neg hs,Option.some_or,Option.filter_eq_some_iff] at hid
    simp [hs,Option.some.inj hid.1]

/-- Unless the value path replaces the point id by another text, the message selects the write
nodes of the approved point. -/
theorem selects_target (carries : Carries candidate plan.flow document)
    (hp : valueSegments candidate plan.flow = ["pointId"] → ∀ text ∈ candidate.value.asStr,
      text = candidate.target.pointId) {node : CommandGraphNode}
    (hn : node.refId.getD "" = candidate.target.pointId) : selects document node = true := by
  rw [selects_iff,carries.pointId,hn]
  split
  · next hs => exact hp hs
  · intro pid hm
    exact (Option.mem_some_iff.mp hm).symm

section

variable (planned : Planned ext pkg flowId body now plan document walk)
include planned

variable (carries : Carries candidate plan.flow document)
include carries

theorem approved_of_harmless (ha : PathHarmless candidate pkg plan.flow document) :
    DoesWhatWasApproved candidate plan where
  writes_ne_nil := planned.writes_ne_nil
  writes := by
    intro write hwr
    obtain ⟨node,hr,hk,hse,hw⟩ := planned.write_origin hwr
    have hp : node.refId.getD "" = candidate.target.pointId := by
      rw [selects_iff,carries.pointId] at hse
      split at hse
      · next hs =>
        cases ht : candidate.value.asStr with
        | none => exact ha.pointOther hs ht node hr hk
        | some text =>
          rw [← hse text ht]
          exact ha.pointText hs text ht
      · exact (hse _ rfl).symm
    have hm := hw.mapping
    rw [hp] at hm
    refine ⟨lastMapping_pointId hm,?_,?_⟩
    · have hd := hw.device
      rw [carries.deviceId] at hd
      split at hd
      · next hs =>
        cases ht : candidate.value.asStr with
        | none => exact ha.deviceOther hs ht _ hm
        | some text =>
          rw [← hd text ht]
          exact ha.deviceText hs text ht
      · exact (hd _ rfl).symm
    · obtain ⟨raw,hra,hv⟩ := hw.value
      simp only [readValue,hp] at hra
      rw [carries.value,Option.or_eq_some_iff] at hra
      rcases hra with hra | ⟨-,hra⟩
      · rw [← hv]
        exact (ha.values node ⟨hr,hk,hp⟩ raw hra _ hm).symm
      · cases hra
        exact hv
  gated := planned.gates_ne_nil_iff.mpr ha.gate
  commandId := (planned_commandId planned carries).mpr ha.commandId

private theorem harmless_of_approved (approved : DoesWhatWasApproved candidate plan) :
    PathHarmless candidate pkg plan.flow document := by
  obtain ⟨first,hfi⟩ := List.exists_mem_of_ne_nil _ approved.writes_ne_nil
  obtain ⟨origin,-,-,hse,hw⟩ := planned.write_origin hfi
  obtain ⟨hfp,hfd,-⟩ := approved.writes first hfi
  have hpt : valueSegments candidate plan.flow = ["pointId"] →
      ∀ text ∈ candidate.value.asStr, text = candidate.target.pointId := by
    intro hs text ht
    rw [selects_iff,carries.pointId,if_pos hs] at hse
    rw [hse text ht,← lastMapping_pointId hw.mapping]
    exact hfp
  -- the write of a write node for the approved point
  have hta : ∀ node, ReachesTarget candidate plan.flow document node →
      ∃ write ∈ plan.writes, Writes node document pkg.pointMappings write := by
    intro node hn
    exact planned.write_of_reaches hn.reaches hn.kind (selects_target carries hpt hn.point)
  constructor
  · exact (planned_commandId planned carries).mp approved.commandId
  · exact hpt
  · intro hs ht node hr hk
    have ha : selects document node = true := by
      rw [selects_iff,carries.pointId,if_pos hs,ht]
      intro pid hme
      cases hme
    obtain ⟨write,hwr,hw⟩ := planned.write_of_reaches hr hk ha
    rw [← lastMapping_pointId hw.mapping]
    exact (approved.writes write hwr).1
  · intro hs text ht
    have hd := hw.device
    rw [carries.deviceId,if_pos hs] at hd
    rw [hd text ht]
    exact hfd
  · intro _ _ mapping hm
    have ho : origin.refId.getD "" = candidate.target.pointId := by
      rw [← lastMapping_pointId hw.mapping]
      exact hfp
    have hsa := hw.mapping
    rw [ho,Option.mem_def.mp hm] at hsa
    cases hsa
    exact hfd
  · intro node hn raw hra mapping hm
    obtain ⟨write,hwr,hw⟩ := hta node hn
    have hsa := hw.mapping
    rw [hn.point,Option.mem_def.mp hm] at hsa
    cases hsa
    obtain ⟨found,hf,hv⟩ := hw.value
    simp only [readValue,hn.point] at hf
    rw [Option.mem_def.mp hra,Option.some_or] at hf
    cases hf
    rw [hv,(approved.writes write hwr).2.2]
  · exact planned.gates_ne_nil_iff.mp approved.gated

end

/-- A command that passed validation and preflight does what was approved exactly when its value
path is harmless. `hcodec` is the JSON library reading back what it wrote. -/
theorem dispatched_does_what_was_approved_iff (ext : Externals) (view : RequestView)
    (candidate : AgentCommandCandidate) (prepared : PreparedDispatch) (now : Time)
    (plan : CommandExecutionPlan)
    (hvalid : (validateAgentCommandCandidate ext view candidate).valid)
    (hprepared : prepareDispatch ext view candidate = .ok prepared)
    (hcodec : ext.parseJson prepared.encoded = some prepared.document)
    (hplan : planCommandExecution ext prepared.package prepared.flow.flowId prepared.encoded now =
      .ok plan) :
    DoesWhatWasApproved candidate plan ↔
      PathHarmless candidate prepared.package prepared.flow prepared.document := by
  obtain ⟨document,walk,planned⟩ := planned_of_ok ext hplan
  have hd := planned.parsed
  rw [hcodec] at hd
  cases hd
  have hfl : prepared.flow = plan.flow := by
    have hf := (prepareDispatch_ok hprepared).1
    have hid : prepared.flow.flowId = candidate.target.flowId := by simpa using List.find?_some hf
    have hp := planned.found
    rw [hid,hf] at hp
    exact Option.some.inj hp
  have carries := Carries.of_prepared hvalid hprepared
  rw [hfl] at carries ⊢
  exact ⟨harmless_of_approved planned carries,approved_of_harmless planned carries⟩

/-! ## A valve -/

def encode (document : Json) : Bytes := document.render.toUTF8.data.toList

/-- Midnight and the minute after it, and a JSON library that reads back one message. -/
def valveExternals (document : Json) : Externals where
  parseJson payload := if payload = encode document then some document else none
  encodeJson := encode
  parseRfc3339 text := if text = "1970-01-01T00:01:00Z" then some (milliseconds 60000) else some 0
  renderTime time := if time = 0 then "1970-01-01T00:00:00Z" else "1970-01-01T00:01:00Z"
  displayF64 _ := ""
  debugValue _ := ""
  sha256 _ := []

def valveNodes (valuePath : List (String × Json)) : List CommandGraphNode :=
  [⟨"input",.mqttInput,none,[]⟩,⟨"gate",.safetyGate,none,[]⟩,
    ⟨"write",.pointWrite,some "valve",valuePath⟩,⟨"reply",.mqttReply,none,[]⟩]

def valveFlow (nodes : List CommandGraphNode) (edges : List CommandGraphEdge) :
    CommandFlowConfig where
  flowId := "valve-commands"
  enabled := true
  protocolConnectionId := "sim"
  mqttConnectionId := "cloud"
  subscribeTopic := "commands"
  qos := 1
  replyTopicTemplate := "replies"
  nodes := nodes
  edges := edges

def gatedFlow (valuePath : List (String × Json)) : CommandFlowConfig :=
  valveFlow (valveNodes valuePath)
    [⟨"e1","input",none,"gate"⟩,⟨"e2","gate",none,"write"⟩,⟨"e3","write",none,"reply"⟩]

/-- Only a command that does not open the valve passes the gate. -/
def bypassFlow : CommandFlowConfig :=
  valveFlow (⟨"opens",.condition,none,[("value",.bool true)]⟩ :: valveNodes [])
    [⟨"e1","input",none,"opens"⟩,⟨"e2","opens",some "true","write"⟩,
      ⟨"e3","opens",some "false","gate"⟩,⟨"e4","gate",none,"write"⟩,
      ⟨"e5","write",none,"reply"⟩]

variable (flow : CommandFlowConfig) (valueType : TelemetryType)

def valvePackage : EdgeConfigPackage :=
  { EdgeConfigPackage.new "edge-1" "1.0.0" with
    devices := [⟨"pump-1"⟩]
    protocolConnections := [⟨"sim",.simulated,.null⟩]
    mqttUplinks := [.velamq "cloud" "mqtt://mqtt.local:1883" "edge-1"]
    commandFlows := [flow]
    pointMappings := [{
      pointId := "valve"
      deviceId := "pump-1"
      semanticId := "valve"
      protocolConnectionId := "sim"
      address := .object [("kind",.string "simulated"),("value",.string "valve")]
      valueType := valueType
      access := .readWrite
      protocolOptions := .null
      range := none
      readTransforms := [] }] }

def valveView : RequestView where
  store := (CloudControlStore.empty.registerEdge
      ⟨"edge-1","Edge",none,[],some "plant",none,none,none⟩)
    |>.upsertConfigPackage (valvePackage flow valueType)
  metrics := some ⟨true,0⟩
  now := 0
  actor := "operator"
  nonce := "6c1f"

def valveApproval : AgentConfirmationEvidence := ⟨"operator",none,some "checked on site",0⟩

def valveCommand (value : Json) : AgentCommandCandidate :=
  { AgentCommandCandidate.drafted "candidate-1"
      ⟨"plant","edge-1",none,some "1.0.0","valve-commands","sim","pump-1","valve"⟩
      value "open-valve-1" .high with
    status := .confirmed
    validation := some (.new [])
    confirmation := some valveApproval }

def valveLibrary (value : Json) : Externals :=
  match insertJsonPath (commandDocument (valveExternals .null) (valveView flow valueType)
      (valveCommand value) valveApproval) (commandValuePath flow "valve") value with
  | .ok document => valveExternals document
  | .error _ => valveExternals .null

def openCommand : Externals × RequestView × AgentCommandCandidate :=
  (valveLibrary (gatedFlow []) .boolean (.bool true),valveView (gatedFlow []) .boolean,
    valveCommand (.bool true))

private theorem open_command_path_harmless (document : Json)
    (hv : document.valueAt "values.valve" = some (.bool true)) :
    PathHarmless (valveCommand (.bool true)) (valvePackage (gatedFlow []) .boolean) (gatedFlow [])
      document where
  commandId := by decide
  pointText := by decide
  pointOther := by
    intro hs
    exact absurd hs (by decide)
  deviceText := by decide
  deviceOther := by
    intro hs
    exact absurd hs (by decide)
  values := by
    intro node hn raw hr mapping _
    have hm : node ∈ (gatedFlow []).nodes :=
      List.mem_reverse.mp (List.mem_of_find?_eq_some hn.reaches.found)
    have hk := hn.kind
    simp only [gatedFlow,valveFlow,valveNodes,List.mem_cons,List.not_mem_nil,or_false] at hm
    rcases hm with rfl | rfl | rfl | rfl
    · cases hk
    · cases hk
    · have hsa : some raw = some (.bool true) := hr.symm.trans hv
      cases hsa
      rfl
    · cases hk
  gate := by
    refine ⟨⟨"gate",.safetyGate,none,[]⟩,⟨?_,rfl⟩,rfl⟩
    have hi : ⟨"input",.mqttInput,none,[]⟩ ∈ (gatedFlow []).nodes := List.mem_cons_self
    have he : ⟨"e1","input",none,"gate"⟩ ∈ (gatedFlow []).edges := List.mem_cons_self
    exact .edge he (.input hi rfl) rfl rfl

/-- A command that opens the valve through the gate. -/
theorem open_command_does_what_was_approved : ∃ prepared plan,
      prepareDispatch openCommand.1 openCommand.2.1 openCommand.2.2 = .ok prepared ∧
      planCommandExecution openCommand.1 prepared.package prepared.flow.flowId prepared.encoded 0 =
        .ok plan ∧
      DoesWhatWasApproved openCommand.2.2 plan := by
  -- the message is written, read back and planned
  have hd : (prepareDispatch openCommand.1 openCommand.2.1 openCommand.2.2).toOption.any
      fun prepared => prepared.package = valvePackage (gatedFlow []) .boolean ∧
        prepared.flow = gatedFlow [] ∧
        prepared.document.valueAt "values.valve" = some (.bool true) ∧
        openCommand.1.parseJson prepared.encoded = some prepared.document ∧
        (planCommandExecution openCommand.1 prepared.package prepared.flow.flowId
          prepared.encoded 0).toOption.isSome := by decide +kernel
  obtain ⟨prepared,hp,hd⟩ := (Option.any_eq_true _ _).mp hd
  obtain ⟨hpk,hf,hv,hc,hplan⟩ := of_decide_eq_true hd
  obtain ⟨plan,hplan⟩ := Option.isSome_iff_exists.mp hplan
  have hp := toOption_eq_some.mp hp
  have hplan := toOption_eq_some.mp hplan
  have hiff := dispatched_does_what_was_approved_iff openCommand.1 openCommand.2.1 openCommand.2.2
    prepared 0 plan (by decide +kernel) hp hc hplan
  rw [hpk,hf] at hiff
  exact ⟨prepared,plan,hp,hplan,hiff.mpr (open_command_path_harmless _ hv)⟩

def valveOutcome (value : Json) : Bool × Option CommandExecutionPlan :=
  let ext := valveLibrary flow valueType value
  let view := valveView flow valueType
  ((validateAgentCommandCandidate ext view (valveCommand value)).valid,
    match prepareDispatch ext view (valveCommand value) with
    | .error _ => none
    | .ok prepared =>
      (planCommandExecution ext prepared.package prepared.flow.flowId prepared.encoded 0).toOption)

/-- Opening the valve does not pass the gate; and a value put in the place of the command id
becomes the command id. -/
theorem gate_bypassed_and_command_id_replaced :
    (valveOutcome bypassFlow .boolean (.bool true)).1 = true ∧
      (valveOutcome bypassFlow .boolean (.bool true)).2.map CommandExecutionPlan.safetyGates =
        some [] ∧
      (valveOutcome (gatedFlow [("value_path",.string "commandId")]) .text (.string "open")).1 =
        true ∧
      (valveOutcome (gatedFlow [("value_path",.string "commandId")]) .text (.string "open")).2.map
        CommandExecutionPlan.commandId = some "open" := by
  decide +kernel

end VelaEdge.Cloud.ApprovedPlan
