import VelaEdge.Runtime.CommandAnswers
import VelaEdge.Runtime.CommandReach
import VelaEdge.Runtime.PointCollection

/-! A plan, seen from outside: its writes, gates and replies are the nodes that the message reaches,
each of them once, and each write is one that its point allows. -/
namespace VelaEdge.Runtime.Command

open Base Core List

section Write

variable {ext : Externals} {node : CommandGraphNode} {document : Json}
  {mappings : List TelemetryPointMapping} {write : PlannedPointWrite}

structure SafeWrite (mappings : List TelemetryPointMapping) (document : Json)
    (write : PlannedPointWrite) : Prop where
  configured : lastMapping mappings write.mapping.pointId = some write.mapping
  writable : write.mapping.access.isWritable = true
  point : ∀ pointId ∈ document.stringAt "pointId", pointId = write.mapping.pointId
  device : ∀ deviceId ∈ document.stringAt "deviceId", deviceId = write.mapping.deviceId
  typed : PointCollection.typeOf write.value = write.mapping.valueType
  inRange : ∀ range ∈ write.mapping.range, ∀ numeric ∈ write.value.asF64,
    range.contains numeric = true

theorem telemetryValue_typeOf (h : telemetryValue raw valueType = .ok value) :
    PointCollection.typeOf value = valueType := by
  unfold telemetryValue at h
  split at h
  · cases hr : raw.asF64 <;> rw [hr] at h <;> cases h
    rfl
  · cases hr : raw.asI64 <;> rw [hr] at h <;> cases h
    rfl
  · cases hr : raw.asBool <;> rw [hr] at h <;> cases h
    rfl
  · cases hr : raw.asStr <;> rw [hr] at h <;> cases h
    rfl

theorem checkRange_ok (h : checkRange ext mapping pid value = .ok ()) :
    ∀ range ∈ mapping.range, ∀ numeric ∈ value.asF64, range.contains numeric = true := by
  intro range hr numeric hn
  unfold checkRange at h
  rw [Option.mem_def.mp hr,Option.mem_def.mp hn] at h
  simpa using bailIf_eq_ok.mp h

section

variable (h : planPointWrite ext node document mappings = .ok (some write))

include h

theorem planPointWrite_checks :
    write.nodeId = node.nodeId ∧ write.mapping.access.isWritable = true ∧
      checkRange ext write.mapping (node.refId.getD "") write.value = .ok () := by
  rw [planPointWrite_eq] at h
  obtain ⟨mapping,-,h⟩ := bind_eq_ok.mp h
  obtain ⟨_,hw,h⟩ := bind_eq_ok.mp h
  split at h
  · obtain ⟨_,-,h⟩ := bind_eq_ok.mp h
    obtain ⟨value,-,h⟩ := bind_eq_ok.mp h
    obtain ⟨_,hr,h⟩ := bind_eq_ok.mp h
    obtain ⟨verification,-,h⟩ := bind_eq_ok.mp h
    obtain ⟨readbackTolerance,-,h⟩ := bind_eq_ok.mp h
    cases h
    exact ⟨rfl,by simpa using bailIf_eq_ok.mp hw,hr⟩
  · cases h

theorem planPointWrite_selects :
    selects document node = true ∧ Writes node document mappings write := by
  rcases planPointWrite_ok ext h with ⟨_,hn⟩ | ⟨hs,found,hf,hw⟩
  · cases hn
  · cases hf
    exact ⟨hs,hw⟩

theorem planPointWrite_safe : SafeWrite mappings document write := by
  obtain ⟨hs,hw⟩ := planPointWrite_selects h
  obtain ⟨_,hwr,hr⟩ := planPointWrite_checks h
  obtain ⟨raw,_,hv⟩ := hw.value
  have hp := lastMapping_pointId hw.mapping
  constructor
  · rw [hp]
    exact hw.mapping
  · exact hwr
  · intro pid hn
    rw [hp]
    exact selects_iff.mp hs pid hn
  · exact hw.device
  · exact telemetryValue_typeOf hv
  · exact checkRange_ok hr

end

theorem writesAt_nodeIds (node : CommandGraphNode) :
    ((writesAt ext document mappings node).map fun write => write.nodeId).Sublist
      [node.nodeId] := by
  unfold writesAt
  split
  · next write _ hp => rw [map_singleton,(planPointWrite_checks hp).1]
  · exact nil_sublist _

end Write

/-! ## Replies -/

def repliesAt (node : CommandGraphNode) : List String :=
  if node.kind = .mqttReply then [node.nodeId] else []

section Replies

variable {ext : Externals} {pkg : EdgeConfigPackage} {flow : CommandFlowConfig}
  {doc : Json} {now : Time}

theorem visitNode_replies {next : Walk} (h : visitNode ext pkg flow doc now nid walk = .ok next) :
    next.replyNodeIds = walk.replyNodeIds ++ (nodeAt flow nid).toList.flatMap repliesAt := by
  unfold visitNode at h
  obtain ⟨node,hn,h⟩ := bind_eq_ok.mp h
  have hf : nodeAt flow nid = some node := context_eq_ok.mp hn
  rw [hf,Option.toList_some,flatMap_singleton]
  cases hk : node.kind with
  | mqttInput | jsonParse =>
    simp only [hk] at h
    cases h
    simp [repliesAt,hk,Walk.push]
  | condition | safetyGate =>
    simp only [hk] at h
    obtain ⟨_,-,h⟩ := bind_eq_ok.mp h
    cases h
    simp [repliesAt,hk,Walk.push]
  | pointWrite =>
    simp only [hk] at h
    obtain ⟨write,-,h⟩ := bind_eq_ok.mp h
    cases write <;> cases h <;> simp [repliesAt,hk,Walk.push]
  | mqttReply =>
    simp only [hk] at h
    cases h
    simp [repliesAt,hk]

def Replied (flow : CommandFlowConfig) (walk : Walk) : Prop := walk.replyNodeIds =
    walk.visited.reverse.flatMap fun nodeId => (nodeAt flow nodeId).toList.flatMap repliesAt

theorem Replied.step {next : Walk} (hw : Replied flow walk)
    (h : walkStep ext pkg flow doc now nid walk = .ok next) : Replied flow next := by
  unfold walkStep at h
  split at h
  · cases h
    exact hw
  · unfold Replied at hw ⊢
    rw [visitNode_replies h,(visitNode_queue ext h).1,reverse_cons,flatMap_append,
      ← hw,flatMap_singleton]

theorem Replied.graph (hw : Replied flow walk)
    (h : walkGraph ext pkg flow doc now fuel walk = .ok final) : Replied flow final := by
  refine walkGraph_invariant (fun {walk next nid queue} hw _ hs => ?_) hw h
  have hp : Replied flow { walk with queue := queue } := hw
  exact hp.step hs

end Replies

/-! ## The whole plan -/

/-- The nodes of a plan are the ones that the message reaches, and no write leaves the bounds of its
point. -/
structure ReachedPlan (package : EdgeConfigPackage) (document : Json)
    (plan : CommandExecutionPlan) : Prop where
  writes : ∀ nodeId, nodeId ∈ plan.writes.map PlannedPointWrite.nodeId ↔
    ∃ node, Reaches plan.flow document node ∧ node.nodeId = nodeId ∧ node.kind = .pointWrite ∧
      selects document node = true
  gates : ∀ nodeId, nodeId ∈ plan.safetyGates.map PlannedCommandSafetyGate.nodeId ↔
    ∃ node, Reaches plan.flow document node ∧ node.nodeId = nodeId ∧ node.kind = .safetyGate
  replies : ∀ nodeId, nodeId ∈ plan.replyNodeIds ↔
    ∃ node, Reaches plan.flow document node ∧ node.nodeId = nodeId ∧ node.kind = .mqttReply
  writes_once : (plan.writes.map PlannedPointWrite.nodeId).Nodup
  gates_once : (plan.safetyGates.map PlannedCommandSafetyGate.nodeId).Nodup
  replies_once : plan.replyNodeIds.Nodup
  target : ∀ write ∈ plan.writes, ∀ node ∈ nodeAt plan.flow write.nodeId,
    write.mapping.pointId = node.refId.getD ""
  safe : ∀ write ∈ plan.writes, SafeWrite package.pointMappings document write

section Plan

variable {ext : Externals} {package : EdgeConfigPackage} {flowId : String} {payload : Bytes}
  {now : Time} {plan : CommandExecutionPlan} {document : Json} {walk : Walk}

section

variable (planned : Planned ext package flowId payload now plan document walk)

include planned

/-- The ids of what the taken nodes contribute, where a reached node contributes under its own id
exactly when it is chosen. -/
theorem Planned.mem_ids_iff
    (contribute : CommandGraphNode → List α) (idOf : α → String) (chosen : CommandGraphNode → Prop)
    (his : ∀ node, Reaches plan.flow document node → ∀ nid,
      nid ∈ (contribute node).map idOf ↔ node.nodeId = nid ∧ chosen node) (nid : String) :
    (nid ∈ (walk.visited.reverse.flatMap fun nid =>
        (nodeAt plan.flow nid).toList.flatMap contribute).map idOf) ↔
      ∃ node, Reaches plan.flow document node ∧ node.nodeId = nid ∧ chosen node := by
  constructor
  · intro hm
    obtain ⟨item,hi,hid⟩ := mem_map.mp hm
    obtain ⟨node,hn,hi⟩ := (planned.mem_contributions contribute item).mp hi
    exact ⟨node,hn,(his node hn nid).mp (mem_map.mpr ⟨item,hi,hid⟩)⟩
  · rintro ⟨node,hn,hc⟩
    obtain ⟨item,hi,hid⟩ := mem_map.mp ((his node hn nid).mpr hc)
    exact mem_map.mpr ⟨item,(planned.mem_contributions contribute item).mpr ⟨node,hn,hi⟩,hid⟩

variable {node : CommandGraphNode}

variable (hn : Reaches plan.flow document node)
include hn

theorem Planned.writeIds_iff (nid : String) :
    nid ∈ (writesAt ext document package.pointMappings node).map PlannedPointWrite.nodeId ↔
      node.nodeId = nid ∧ node.kind = .pointWrite ∧ selects document node = true := by
  constructor
  · intro hm
    have hid := (writesAt_nodeIds node).subset hm
    unfold writesAt at hm
    split at hm
    · next hk hp =>
      exact ⟨(mem_singleton.mp hid).symm,hk,(planPointWrite_selects hp).1⟩
    · cases hm
  · rintro ⟨rfl,hk,hs⟩
    obtain ⟨_,_,hv⟩ := planned.visit hn
    obtain ⟨write,hp⟩ := hv.planned hk hs
    simp [writesAt,hk,hp,(planPointWrite_checks hp).1]

theorem Planned.gateIds_iff (nid : String) :
    nid ∈ (gatesAt ext document now node).map PlannedCommandSafetyGate.nodeId ↔
      node.nodeId = nid ∧ node.kind = .safetyGate := by
  constructor
  · intro hm
    have hid := (gatesAt_nodeIds node).subset hm
    unfold gatesAt at hm
    split at hm
    · next hk _ => exact ⟨(mem_singleton.mp hid).symm,hk⟩
    · cases hm
  · rintro ⟨rfl,hk⟩
    obtain ⟨_,_,hv⟩ := planned.visit hn
    obtain ⟨gate,hp⟩ := hv.gated hk
    simp [gatesAt,hk,hp,planSafetyGate_nodeId hp]

end

variable (node : CommandGraphNode)

@[simp] theorem replyIds_iff (nid : String) :
    nid ∈ (repliesAt node).map id ↔ node.nodeId = nid ∧ node.kind = .mqttReply := by
  unfold repliesAt
  split
  · next hk => simp [hk,eq_comm]
  · next hk => simp [hk]

theorem repliesAt_nodeIds : ((repliesAt node).map id).Sublist [node.nodeId] := by
  unfold repliesAt
  split
  · exact List.Sublist.refl _
  · exact nil_sublist _

section

variable (planned : Planned ext package flowId payload now plan document walk)
include planned

theorem Planned.replied : plan.replyNodeIds = (walk.visited.reverse.flatMap fun nid =>
      (nodeAt plan.flow nid).toList.flatMap repliesAt).map id := by
  have hi : Replied plan.flow (initialWalk plan.flow) := rfl
  have hf : Replied plan.flow walk := hi.graph planned.walked
  rw [← planned.replies,map_id]
  exact hf

theorem Planned.write_planned {write : PlannedPointWrite} (hw : write ∈ plan.writes) :
    ∃ node, Reaches plan.flow document node ∧
      planPointWrite ext node document package.pointMappings = .ok (some write) := by
  obtain ⟨node,hn,hm⟩ := (planned.mem_writes_iff write).mp hw
  unfold writesAt at hm
  split at hm
  · next hp =>
    cases mem_singleton.mp hm
    exact ⟨node,hn,hp⟩
  · cases hm

end

/-- Planning is reachability. -/
theorem plan_reached (h : planCommandExecution ext package flowId payload now = .ok plan) :
    ∃ document, ext.parseJson payload = some document ∧ ReachedPlan package document plan := by
  obtain ⟨document,walk,planned⟩ := planned_of_ok ext h
  have hwr : plan.writes = _ := planned.writes.symm.trans planned.walkedAll.writes
  have hg : plan.safetyGates = _ := planned.gates.symm.trans planned.walkedAll.gates
  refine ⟨document,planned.parsed,?_⟩
  constructor
  · rw [hwr]
    exact planned.mem_ids_iff _ _ _ fun node hn => planned.writeIds_iff hn
  · rw [hg]
    exact planned.mem_ids_iff _ _ _ fun node hn => planned.gateIds_iff hn
  · rw [planned.replied]
    exact planned.mem_ids_iff _ _ _ fun node _ => replyIds_iff node
  · rw [hwr]
    exact planned.contributions_nodup _ _ writesAt_nodeIds
  · rw [hg]
    exact planned.contributions_nodup _ _ gatesAt_nodeIds
  · rw [planned.replied]
    exact planned.contributions_nodup _ _ repliesAt_nodeIds
  · intro write hw node hn
    obtain ⟨src,hs,hp⟩ := planned.write_planned hw
    obtain ⟨hid,_⟩ := planPointWrite_checks hp
    rw [hid,hs.found] at hn
    cases hn
    exact lastMapping_pointId (planPointWrite_selects hp).2.mapping
  · intro write hw
    obtain ⟨_,_,hp⟩ := planned.write_planned hw
    exact planPointWrite_safe hp

end Plan

/-! ## Ports of conditions

An edge out of a condition may name no port. It is then open whatever the condition says, so a
node can be planned although no path leads to it along the ports of the conditions. -/

/-- As `passesOn`, but a condition passes only along the port of its outcome. -/
def passesByPort (document : Json) (node : CommandGraphNode) (fromPort : Option String) : Bool :=
  match node.kind, evaluateCondition node document with
  | .condition, .ok holds => fromPort = some (if holds then "true" else "false")
  | _, _ => passesOn document node fromPort

inductive ReachedByPort (flow : CommandFlowConfig) (document : Json) : String → Prop where
  | input {node : CommandGraphNode} (hnode : node ∈ flow.nodes) (hkind : node.kind = .mqttInput) :
      ReachedByPort flow document node.nodeId
  | edge {node : CommandGraphNode} {edge : CommandGraphEdge} (hedge : edge ∈ flow.edges)
      (hsource : ReachedByPort flow document edge.fromNode)
      (hnode : nodeAt flow edge.fromNode = some node)
      (hopen : passesByPort document node edge.fromPort = true) :
      ReachedByPort flow document edge.toNode

open CommandAnswers (plantPoint plantFlow plantPackage plantExternals)

def pumpPoint : TelemetryPointMapping :=
  { plantPoint "speed" .integer with range := some ⟨.ofInt 0,.ofInt 3000⟩ }

/-- Set the speed of a pump if it is armed: one input, one condition, one gate, one write, one
reply. The edge out of the condition names the given port. -/
def pumpFlow (fromPort : Option String) : CommandFlowConfig :=
  { plantFlow "set-speed" "speed" with
    nodes := [⟨"input",.mqttInput,none,[]⟩,
      ⟨"armed",.condition,none,[("path",.string "armed")]⟩,⟨"gate",.safetyGate,none,[]⟩,
      ⟨"write",.pointWrite,some "speed",[]⟩,⟨"reply",.mqttReply,none,[]⟩]
    edges := [⟨"e1","input",none,"armed"⟩,⟨"e2","armed",fromPort,"gate"⟩,
      ⟨"e3","gate",none,"write"⟩,⟨"e4","write",none,"reply"⟩] }

def pumpPackage (fromPort : Option String) : EdgeConfigPackage :=
  { plantPackage with pointMappings := [pumpPoint], commandFlows := [pumpFlow fromPort] }

def speedDocument (armed : Bool) : Json :=
  .object [("commandId",.string "c-1"),("armed",.bool armed),("value",.number (.posInt 1500))]

def speedPayload (armed : Bool) : Bytes :=
  (speedDocument armed).render.toList.map fun c => UInt8.ofNat c.toNat

def pumpExternals : Externals := { plantExternals with
    parseJson := fun payload =>
      if payload = speedPayload true then some (speedDocument true)
      else if payload = speedPayload false then some (speedDocument false) else none }

theorem reachedByPort_disarmed (h : ReachedByPort (pumpFlow none) (speedDocument false) nid) :
    nid = "input" ∨ nid = "armed" := by
  induction h with
  | @input node hn hk =>
    simp only [pumpFlow,mem_cons,not_mem_nil,or_false] at hn
    rcases hn with rfl | rfl | rfl | rfl | rfl
    · exact .inl rfl
    all_goals cases hk
  | @edge node edge he _ hn ho ih =>
    simp only [pumpFlow,mem_cons,not_mem_nil,or_false] at he
    rcases he with rfl | rfl | rfl | rfl
    · exact .inr rfl
    · cases hn
      cases ho
    all_goals simp at ih

/-- The write to a pump that is not armed is planned along an edge without a port. -/
theorem unported_edge_passes_disarmed :
    validateCommandFlow (pumpFlow none) (pumpPackage none).pointMappings = .ok () ∧
    ∃ plan, planCommandExecution pumpExternals (pumpPackage none) "set-speed" (speedPayload false) 0
        = .ok plan ∧
      pumpExternals.parseJson (speedPayload false) = some (speedDocument false) ∧
      "write" ∈ plan.writes.map PlannedPointWrite.nodeId ∧
      ¬ ReachedByPort plan.flow (speedDocument false) "write" := by
  refine ⟨by decide +kernel,_,rfl,rfl,by decide +kernel,?_⟩
  intro hr
  have hs := reachedByPort_disarmed hr
  simp at hs

/-- An armed pump gets its speed. -/
theorem armed_pump_reached :
    ∃ plan, planCommandExecution pumpExternals (pumpPackage (some "true")) "set-speed"
        (speedPayload true) 0 = .ok plan ∧
      ∃ document, pumpExternals.parseJson (speedPayload true) = some document ∧
        ReachedPlan (pumpPackage (some "true")) document plan := by
  have hp : ∃ plan, planCommandExecution pumpExternals (pumpPackage (some "true")) "set-speed"
      (speedPayload true) 0 = .ok plan := ⟨_,rfl⟩
  obtain ⟨plan,hp⟩ := hp
  exact ⟨plan,hp,plan_reached hp⟩

end VelaEdge.Runtime.Command
