import VelaEdge.Core.CommandFlow
import VelaEdge.Runtime.Command

/-! Which nodes of a command flow a message reaches: from the inputs along the edges that
conditions and point selection leave open. A plan is exactly what the reached nodes contribute. -/
namespace VelaEdge.Runtime.Command

open Base Core List

/-- Of several nodes under one id a map keeps the last. -/
def nodeAt (flow : CommandFlowConfig) (nodeId : String) : Option CommandGraphNode :=
  flow.nodes.reverse.find? (fun node => node.nodeId = nodeId)

/-- The message names no point, or the point of this node. -/
def selects (document : Json) (node : CommandGraphNode) : Bool :=
  !(document.stringAt "pointId").any (fun requested => requested ≠ node.refId.getD "")

variable {node : CommandGraphNode}

theorem selects_iff {doc : Json} : selects doc node = true ↔
      ∀ pid ∈ doc.stringAt "pointId", pid = node.refId.getD "" := by
  unfold selects
  cases doc.stringAt "pointId" <;> simp

/-- Whether a node lets the message pass on along an edge with the given port. -/
def passesOn (document : Json) (node : CommandGraphNode) (fromPort : Option String) : Bool :=
  match node.kind with
  | .mqttInput | .jsonParse | .safetyGate => true
  | .condition =>
    match evaluateCondition node document with
    | .ok holds => fromPort.isNone || fromPort = some (if holds then "true" else "false")
    | .error _ => false
  | .pointWrite => selects document node
  | .mqttReply => false

inductive Reached (flow : CommandFlowConfig) (document : Json) : String → Prop where
  | input {node : CommandGraphNode} (hnode : node ∈ flow.nodes) (hkind : node.kind = .mqttInput) :
      Reached flow document node.nodeId
  | edge {node : CommandGraphNode} {edge : CommandGraphEdge} (hedge : edge ∈ flow.edges)
      (hsource : Reached flow document edge.fromNode)
      (hnode : nodeAt flow edge.fromNode = some node)
      (hopen : passesOn document node edge.fromPort = true) :
      Reached flow document edge.toNode

def targets (flow : CommandFlowConfig) (document : Json) (nodeId : String)
    (node : CommandGraphNode) : List String :=
  (flow.edges.filter fun edge => edge.fromNode = nodeId && passesOn document node edge.fromPort).map
    CommandGraphEdge.toNode

def readValue (document : Json) (node : CommandGraphNode) : Option Json :=
  let pointId := node.refId.getD ""
  (document.valueAt (((node.param "value_path").bind Json.asStr).getD s!"values.{pointId}")).or
    (document.valueAt "value")

variable (ext : Externals) (document : Json)

def checkDevice (mapping : TelemetryPointMapping) (pointId : String) : Except String Unit :=
  match document.stringAt "deviceId" with
  | none => .ok ()
  | some requestedDevice =>
    bailIf (requestedDevice ≠ mapping.deviceId)
      s!"command device {requestedDevice} does not match point {pointId} device {
        mapping.deviceId}"

def checkRange (mapping : TelemetryPointMapping) (pointId : String) (value : TelemetryValue) :
    Except String Unit :=
  match mapping.range, value.asF64 with
  | some range, some numeric =>
    bailIf (!range.contains numeric)
      s!"command value {ext.displayF64 numeric} for point {pointId} is outside [{
        ext.displayF64 range.min}, {ext.displayF64 range.max}]"
  | _, _ => .ok ()

def planValue (node : CommandGraphNode) (document : Json) (mapping : TelemetryPointMapping) :
    Except String TelemetryValue := do
  let pointId := node.refId.getD ""
  let valuePath := ((node.param "value_path").bind Json.asStr).getD s!"values.{pointId}"
  let rawValue ← context (readValue document node)
    s!"command payload has no value for point {pointId}; expected `{valuePath}` or `value`"
  match telemetryValue rawValue mapping.valueType with
  | .ok value => .ok value
  | .error _ => .error s!"invalid command value for point {pointId}"

theorem planPointWrite_eq (node : CommandGraphNode) (document : Json)
    (mappings : List TelemetryPointMapping) :
    planPointWrite ext node document mappings = (do
      let pointId := node.refId.getD ""
      let mapping ← context (lastMapping mappings pointId)
        s!"write node {node.nodeId} point not found: {pointId}"
      bailIf (!mapping.access.isWritable) s!"point {pointId} is not writable"
      if selects document node then do
        checkDevice document mapping pointId
        let value ← planValue node document mapping
        checkRange ext mapping pointId value
        let verification ← planVerification node
        let readbackTolerance ← planReadbackTolerance node mapping.valueType
        pure (some ⟨node.nodeId,mapping,value,verification,readbackTolerance⟩)
      else pure none) := by
  unfold planPointWrite
  refine congrArg _ (funext fun mapping => congrArg _ (funext fun _ => ?_))
  unfold selects checkDevice planValue readValue checkRange
  cases (document.stringAt "pointId").any (fun requested => requested ≠ node.refId.getD "") with
  | true => rfl
  | false =>
    dsimp only
    generalize (document.valueAt (((node.param "value_path").bind Json.asStr).getD
      (toString "values." ++ toString (node.refId.getD "")))).or (document.valueAt "value") = found
    cases document.stringAt "deviceId" <;> cases found with
    | none => rfl
    | some raw =>
      cases ht : telemetryValue raw mapping.valueType with
      | error =>
        simp only [context_some,ok_bind,ht]
        rfl
      | ok value =>
        simp only [context_some,ok_bind,ht,pure_bind]
        cases mapping.range with
        | none => rfl
        | some range => cases value.asF64 <;> rfl

structure Writes (node : CommandGraphNode) (document : Json)
    (mappings : List TelemetryPointMapping) (write : PlannedPointWrite) : Prop where
  mapping : lastMapping mappings (node.refId.getD "") = some write.mapping
  device : ∀ deviceId ∈ document.stringAt "deviceId", deviceId = write.mapping.deviceId
  value : ∃ raw, readValue document node = some raw ∧
    telemetryValue raw write.mapping.valueType = .ok write.value

theorem planPointWrite_ok {document : Json}
    (h : planPointWrite ext node document mappings = .ok planned) :
    (selects document node = false ∧ planned = none) ∨ (selects document node = true ∧
        ∃ write, planned = some write ∧ Writes node document mappings write) := by
  rw [planPointWrite_eq] at h
  obtain ⟨mapping,hm,h⟩ := bind_eq_ok.mp h
  obtain ⟨_,-,h⟩ := bind_eq_ok.mp h
  split at h
  · next hs =>
    obtain ⟨_,hd,h⟩ := bind_eq_ok.mp h
    obtain ⟨value,hv,h⟩ := bind_eq_ok.mp h
    obtain ⟨_,-,h⟩ := bind_eq_ok.mp h
    obtain ⟨verification,-,h⟩ := bind_eq_ok.mp h
    obtain ⟨readbackTolerance,-,h⟩ := bind_eq_ok.mp h
    cases h
    obtain ⟨raw,hr,hv⟩ := bind_eq_ok.mp hv
    refine .inr ⟨hs,_,rfl,context_eq_ok.mp hm,?_,raw,context_eq_ok.mp hr,?_⟩
    · intro deviceId hn
      simpa [checkDevice,Option.mem_def.mp hn] using hd
    · split at hv
      · next ht =>
        cases hv
        exact ht
      · cases hv
  · next hs =>
    cases h
    exact .inl ⟨by simpa using hs,rfl⟩

def writesAt (mappings : List TelemetryPointMapping) (node : CommandGraphNode) :
    List PlannedPointWrite :=
  match node.kind, planPointWrite ext node document mappings with
  | .pointWrite, .ok (some write) => [write]
  | _, _ => []

def gatesAt (now : Time) (node : CommandGraphNode) : List PlannedCommandSafetyGate :=
  match node.kind, planSafetyGate ext node document now with
  | .safetyGate, .ok gate => [gate]
  | _, _ => []

variable {queue : List String}

section Visit

variable {package : EdgeConfigPackage} {flow : CommandFlowConfig} {document : Json} {now : Time}

structure Visit (package : EdgeConfigPackage) (flow : CommandFlowConfig) (document : Json)
    (now : Time) (nodeId : String) (node : CommandGraphNode) (walk next : Walk) : Prop where
  found : nodeAt flow nodeId = some node
  planned : node.kind = .pointWrite → selects document node = true →
    ∃ write, planPointWrite ext node document package.pointMappings = .ok (some write)
  gated : node.kind = .safetyGate → ∃ gate, planSafetyGate ext node document now = .ok gate
  queue : next.queue = walk.queue ++ targets flow document nodeId node
  visited : next.visited = walk.visited
  writes : next.writes = walk.writes ++ writesAt ext document package.pointMappings node
  gates : next.safetyGates = walk.safetyGates ++ gatesAt ext document now node

private theorem targets_of_passes (h : ∀ port, passesOn document node port = true) :
    targets flow document nid node = successors flow nid none := by
  simp [targets,successors,h]

private theorem targets_of_blocks (h : ∀ port, passesOn document node port = false) :
    targets flow document nid node = [] := by
  simp [targets,h]

theorem Visit.passed (hf : nodeAt flow nid = some node)
    (ht : targets flow document nid node = succ) (hw : node.kind ≠ .pointWrite)
    (hg : node.kind ≠ .safetyGate) :
    Visit ext package flow document now nid node walk (walk.push succ) := by
  refine ⟨hf,fun hk => absurd hk hw,fun hk => absurd hk hg,by rw [ht]; rfl,rfl,?_,?_⟩
  · simp [writesAt,hw,Walk.push]
  · simp [gatesAt,hg,Walk.push]

variable {next : Walk}

theorem visit_of_visitNode (h : visitNode ext package flow document now nid walk = .ok next) :
    ∃ node, Visit ext package flow document now nid node walk next := by
  unfold visitNode at h
  obtain ⟨node,hn,h⟩ := bind_eq_ok.mp h
  have hf : nodeAt flow nid = some node := context_eq_ok.mp hn
  refine ⟨node,?_⟩
  cases hk : node.kind with
  | mqttInput =>
    simp only [hk] at h
    cases h
    exact .passed ext hf (targets_of_passes fun port => by simp [passesOn,hk]) (by simp [hk])
      (by simp [hk])
  | jsonParse =>
    simp only [hk] at h
    cases h
    exact .passed ext hf (targets_of_passes fun port => by simp [passesOn,hk]) (by simp [hk])
      (by simp [hk])
  | condition =>
    simp only [hk] at h
    obtain ⟨holds,hh,h⟩ := bind_eq_ok.mp h
    cases h
    exact .passed ext hf (by simp [targets,successors,passesOn,hk,hh]) (by simp [hk]) (by simp [hk])
  | safetyGate =>
    simp only [hk] at h
    obtain ⟨gate,hg,h⟩ := bind_eq_ok.mp h
    cases h
    have ht : targets flow document nid node = successors flow nid none :=
      targets_of_passes fun port => by simp [passesOn,hk]
    exact ⟨hf,by simp [hk],fun _ => ⟨gate,hg⟩,by rw [ht]; rfl,rfl,
      by simp [writesAt,hk,Walk.push],by simp [gatesAt,hk,hg,Walk.push]⟩
  | pointWrite =>
    simp only [hk] at h
    obtain ⟨planned,hp,h⟩ := bind_eq_ok.mp h
    rcases planPointWrite_ok ext hp with ⟨hs,rfl⟩ | ⟨hs,write,rfl,-⟩
    · cases h
      have ht : targets flow document nid node = [] :=
        targets_of_blocks fun port => by simp [passesOn,hk,hs]
      exact ⟨hf,by simp [hs],by simp [hk],by simp [ht],rfl,
        by simp [writesAt,hk,hp],by simp [gatesAt,hk]⟩
    · cases h
      have ht : targets flow document nid node = successors flow nid none :=
        targets_of_passes fun port => by simp [passesOn,hk,hs]
      exact ⟨hf,fun _ _ => ⟨write,hp⟩,by simp [hk],by rw [ht]; rfl,rfl,
        by simp [writesAt,hk,hp,Walk.push],by simp [gatesAt,hk,Walk.push]⟩
  | mqttReply =>
    simp only [hk] at h
    cases h
    have ht : targets flow document nid node = [] :=
      targets_of_blocks fun port => by simp [passesOn,hk]
    exact ⟨hf,by simp [hk],by simp [hk],by simp [ht],rfl,by simp [writesAt,hk],by simp [gatesAt,hk]⟩

/-- What holds of a walk at any time: it has only taken reached nodes, has queued whatever they
lead to, and has collected what the taken nodes contribute, in the order they were taken. -/
structure Walked (package : EdgeConfigPackage) (flow : CommandFlowConfig) (document : Json)
    (now : Time) (walk : Walk) : Prop where
  reached : ∀ nodeId, nodeId ∈ walk.queue ∨ nodeId ∈ walk.visited → Reached flow document nodeId
  inputs : ∀ node ∈ flow.nodes, node.kind = .mqttInput →
    node.nodeId ∈ walk.queue ∨ node.nodeId ∈ walk.visited
  closed : ∀ edge ∈ flow.edges, edge.fromNode ∈ walk.visited →
    ∀ node, nodeAt flow edge.fromNode = some node → passesOn document node edge.fromPort = true →
      edge.toNode ∈ walk.queue ∨ edge.toNode ∈ walk.visited
  visits : ∀ nodeId ∈ walk.visited, ∃ node before after,
    Visit ext package flow document now nodeId node before after
  writes : walk.writes = walk.visited.reverse.flatMap fun nodeId =>
    (nodeAt flow nodeId).toList.flatMap (writesAt ext document package.pointMappings)
  gates : walk.safetyGates = walk.visited.reverse.flatMap fun nodeId =>
    (nodeAt flow nodeId).toList.flatMap (gatesAt ext document now)

theorem Walked.initial : Walked ext package flow document now (initialWalk flow) where
  reached := by
    intro nid hm
    rcases hm with hm | hm
    · obtain ⟨node,hn,rfl⟩ := mem_map.mp hm
      rw [mem_filter] at hn
      exact .input hn.1 (by simpa using hn.2)
    · cases hm
  inputs := by
    intro node hn hk
    exact .inl (mem_map.mpr ⟨node,mem_filter.mpr ⟨hn,by simp [hk]⟩,rfl⟩)
  closed := by
    intro edge _ hf
    cases hf
  visits := by
    intro nid hm
    cases hm
  writes := rfl
  gates := rfl

variable {ext}

theorem walkGraph_invariant {P : Walk → Prop} (hs : ∀ {walk next nid queue}, P walk →
      walk.queue = nid :: queue → walkStep ext package flow document now nid
        { walk with queue := queue } = .ok next → P next) (hw : P walk)
    (h : walkGraph ext package flow document now fuel walk = .ok final) : P final := by
  induction fuel generalizing walk with
  | zero =>
    cases h
    exact hw
  | succ fuel ih =>
    unfold walkGraph at h
    split at h
    · cases h
      exact hw
    · next nid queue hq =>
      obtain ⟨next,hn,h⟩ := bind_eq_ok.mp h
      exact ih (hs hw hq hn) h

section

variable (hw : Walked ext package flow document now walk)
include hw

theorem Walked.skip (hq : walk.queue = nid :: queue) (hs : nid ∈ walk.visited) :
    Walked ext package flow document now { walk with queue := queue } where
  reached := by
    intro other hm
    refine hw.reached other (hm.imp_left fun hm => ?_)
    rw [hq]
    exact mem_cons_of_mem _ hm
  inputs := by
    intro node hn hk
    rcases hw.inputs node hn hk with hm | hm
    · rw [hq,mem_cons] at hm
      rcases hm with heq | hm
      · exact .inr (heq ▸ hs)
      · exact .inl hm
    · exact .inr hm
  closed := by
    intro edge he hf node hn ho
    rcases hw.closed edge he hf node hn ho with hm | hm
    · rw [hq,mem_cons] at hm
      rcases hm with heq | hm
      · exact .inr (heq ▸ hs)
      · exact .inl hm
    · exact .inr hm
  visits := hw.visits
  writes := hw.writes
  gates := hw.gates

theorem Walked.visit (hq : walk.queue = nid :: queue)
    (hv : Visit ext package flow document now nid node
      { walk with queue := queue, visited := nid :: walk.visited } next) :
    Walked ext package flow document now next := by
  have hn : ∀ other, other ∈ next.queue ∨ other ∈ next.visited ↔
      (other ∈ walk.queue ∨ other ∈ walk.visited) ∨ other ∈ targets flow document nid node := by
    intro other
    rw [hv.queue,hv.visited,hq]
    simp only [mem_append,mem_cons]
    tauto
  have hh : Reached flow document nid := hw.reached nid (.inl (by simp [hq]))
  constructor
  · intro other hm
    rcases (hn other).mp hm with hm | hm
    · exact hw.reached other hm
    · obtain ⟨edge,he,rfl⟩ := mem_map.mp hm
      rw [mem_filter,Bool.and_eq_true,decide_eq_true_iff] at he
      obtain ⟨he,rfl,ho⟩ := he
      exact .edge he hh hv.found ho
  · intro input hi hk
    exact (hn _).mpr (.inl (hw.inputs input hi hk))
  · intro edge he hf src hs ho
    rw [hv.visited,mem_cons] at hf
    refine (hn _).mpr ?_
    rcases hf with heq | hf
    · right
      rw [heq,hv.found] at hs
      cases hs
      exact mem_map.mpr ⟨edge,mem_filter.mpr ⟨he,by simp [heq,ho]⟩,rfl⟩
    · exact .inl (hw.closed edge he hf src hs ho)
  · intro other hm
    rw [hv.visited,mem_cons] at hm
    rcases hm with rfl | hm
    · exact ⟨node,_,_,hv⟩
    · exact hw.visits other hm
  · rw [hv.writes,hv.visited,reverse_cons,flatMap_append,← hw.writes]
    simp [hv.found]
  · rw [hv.gates,hv.visited,reverse_cons,flatMap_append,← hw.gates]
    simp [hv.found]

theorem Walked.step (hq : walk.queue = nid :: queue)
    (h : walkStep ext package flow document now nid { walk with queue := queue } = .ok next) :
    Walked ext package flow document now next := by
  unfold walkStep at h
  split at h
  · next hs =>
    cases h
    exact hw.skip hq hs
  · obtain ⟨node,hv⟩ := visit_of_visitNode ext h
    exact hw.visit hq hv

theorem Walked.visited_iff (hq : walk.queue = []) (nid : String) :
    nid ∈ walk.visited ↔ Reached flow document nid := by
  constructor
  · intro hm
    exact hw.reached nid (.inr hm)
  · intro hr
    induction hr with
    | input hn hk => simpa [hq] using hw.inputs _ hn hk
    | edge he _ hn ho ih => simpa [hq] using hw.closed _ he ih _ hn ho

end

theorem walkGraph_visited_nodup {walk : Walk} (hw : walk.visited.Nodup)
    (h : walkGraph ext package flow document now fuel walk = .ok final) : final.visited.Nodup := by
  refine walkGraph_invariant (P := fun walk => walk.visited.Nodup) (fun hw _ hs => ?_) hw h
  unfold walkStep at hs
  split at hs
  · cases hs
    exact hw
  · next hf =>
    rw [(visitNode_queue ext hs).1]
    exact nodup_cons.mpr ⟨hf,hw⟩

end Visit

structure Reaches (flow : CommandFlowConfig) (document : Json) (node : CommandGraphNode) :
    Prop where
  reached : Reached flow document node.nodeId
  found : nodeAt flow node.nodeId = some node

variable (contribute : CommandGraphNode → List α)

section Plan

variable {ext : Externals} {package : EdgeConfigPackage} {flowId : String} {payload : Bytes}
  {now : Time} {plan : CommandExecutionPlan} {document : Json} {walk : Walk}

theorem nodeAt_nodeId (h : nodeAt flow nodeId = some node) : node.nodeId = nodeId := by
  simpa using List.find?_some h

section

variable (planned : Planned ext package flowId payload now plan document walk)
include planned

theorem Planned.walkedAll : Walked ext package plan.flow document now walk :=
  walkGraph_invariant (fun hw => hw.step) (Walked.initial ext) planned.walked

theorem Planned.mem_contributions (contribute : CommandGraphNode → List α) (item : α) :
    (item ∈ walk.visited.reverse.flatMap fun nodeId =>
        (nodeAt plan.flow nodeId).toList.flatMap contribute) ↔
      ∃ node, Reaches plan.flow document node ∧ item ∈ contribute node := by
  have hv := planned.walkedAll.visited_iff (planned_queue ext planned)
  simp only [mem_flatMap,mem_reverse,Option.mem_toList]
  constructor
  · rintro ⟨nodeId,hm,node,hn,hi⟩
    have hid := nodeAt_nodeId hn
    subst hid
    exact ⟨node,⟨(hv _).mp hm,hn⟩,hi⟩
  · rintro ⟨node,hr,hi⟩
    exact ⟨node.nodeId,(hv _).mpr hr.reached,node,hr.found,hi⟩

end

theorem planSafetyGate_nodeId {gate : PlannedCommandSafetyGate}
    (h : planSafetyGate ext node document now = .ok gate) : gate.nodeId = node.nodeId := by
  unfold planSafetyGate at h
  obtain ⟨_,-,h⟩ := bind_eq_ok.mp h
  -- whatever the limit and the confirmation are, the gate carries the id of its node
  split at h
  · dsimp only at h
    split at h
    · obtain ⟨_,-,h⟩ := bind_eq_ok.mp h
      cases h
      rfl
    · cases h
      rfl
  · dsimp only at h
    split at h
    · obtain ⟨_,-,h⟩ := bind_eq_ok.mp h
      split at h
      · cases h
        rfl
      · cases h
    · split at h
      · cases h
        rfl
      · cases h

theorem gatesAt_nodeIds (node : CommandGraphNode) :
    ((gatesAt ext document now node).map fun gate => gate.nodeId).Sublist [node.nodeId] := by
  unfold gatesAt
  split
  · next gate _ hg => rw [map_singleton,planSafetyGate_nodeId hg]
  · exact nil_sublist _

variable (idOf : α → String)

private theorem nodeIds_sublist (hi : ∀ node, ((contribute node).map idOf).Sublist [node.nodeId])
    (visited : List String) :
    ((visited.flatMap fun nodeId =>
      (nodeAt flow nodeId).toList.flatMap contribute).map idOf).Sublist visited := by
  induction visited with
  | nil => exact List.Sublist.refl _
  | cons nodeId visited ih =>
    have hh : (((nodeAt flow nodeId).toList.flatMap contribute).map idOf).Sublist [nodeId] := by
      cases hn : nodeAt flow nodeId with
      | none => exact nil_sublist _
      | some node =>
        rw [Option.toList_some,flatMap_singleton,← nodeAt_nodeId hn]
        exact hi node
    rw [flatMap_cons,map_append]
    exact hh.append ih

section

variable (planned : Planned ext package flowId payload now plan document walk)

include planned

theorem Planned.contributions_nodup
    (hi : ∀ node, ((contribute node).map idOf).Sublist [node.nodeId]) :
    ((walk.visited.reverse.flatMap fun nid =>
      (nodeAt plan.flow nid).toList.flatMap contribute).map idOf).Nodup := by
  have hv : walk.visited.Nodup := walkGraph_visited_nodup nodup_nil planned.walked
  exact (nodup_reverse.mpr hv).sublist (nodeIds_sublist contribute idOf hi _)

theorem Planned.mem_writes_iff (write : PlannedPointWrite) :
    write ∈ plan.writes ↔ ∃ node, Reaches plan.flow document node ∧
      write ∈ writesAt ext document package.pointMappings node := by
  rw [← planned.writes,planned.walkedAll.writes]
  exact planned.mem_contributions _ write

theorem Planned.mem_gates_iff (gate : PlannedCommandSafetyGate) :
    gate ∈ plan.safetyGates ↔ ∃ node, Reaches plan.flow document node ∧
      gate ∈ gatesAt ext document now node := by
  rw [← planned.gates,planned.walkedAll.gates]
  exact planned.mem_contributions _ gate

theorem Planned.visit (hn : Reaches plan.flow document node) :
    ∃ before after, Visit ext package plan.flow document now node.nodeId node before after := by
  have hvi := planned.walkedAll.visited_iff (planned_queue ext planned)
  obtain ⟨found,before,after,hv⟩ := planned.walkedAll.visits node.nodeId ((hvi _).mpr hn.reached)
  have hs := hv.found
  rw [hn.found] at hs
  cases hs
  exact ⟨before,after,hv⟩

theorem Planned.write_origin {write : PlannedPointWrite} (hwr : write ∈ plan.writes) :
    ∃ node, Reaches plan.flow document node ∧ node.kind = .pointWrite ∧
      selects document node = true ∧ Writes node document package.pointMappings write := by
  obtain ⟨node,hn,hm⟩ := (planned.mem_writes_iff write).mp hwr
  unfold writesAt at hm
  split at hm
  · next hk hp =>
    cases mem_singleton.mp hm
    rcases planPointWrite_ok ext hp with ⟨_,hno⟩ | ⟨hs,found,hf,hw⟩
    · cases hno
    · cases hf
      exact ⟨node,hn,hk,hs,hw⟩
  · cases hm

theorem Planned.write_of_reaches (hn : Reaches plan.flow document node)
    (hk : node.kind = .pointWrite) (hs : selects document node = true) :
    ∃ write ∈ plan.writes, Writes node document package.pointMappings write := by
  obtain ⟨_,_,hv⟩ := planned.visit hn
  obtain ⟨write,hp⟩ := hv.planned hk hs
  refine ⟨write,(planned.mem_writes_iff write).mpr ⟨node,hn,?_⟩,?_⟩
  · simp [writesAt,hk,hp]
  · rcases planPointWrite_ok ext hp with ⟨ho,_⟩ | ⟨_,found,hf,hw⟩
    · rw [hs] at ho
      cases ho
    · cases hf
      exact hw

theorem Planned.gates_ne_nil_iff :
    plan.safetyGates ≠ [] ↔ ∃ node, Reaches plan.flow document node ∧ node.kind = .safetyGate := by
  constructor
  · intro hne
    obtain ⟨gate,hg⟩ := exists_mem_of_ne_nil _ hne
    obtain ⟨node,hn,hm⟩ := (planned.mem_gates_iff gate).mp hg
    unfold gatesAt at hm
    split at hm
    · next hk _ => exact ⟨node,hn,hk⟩
    · cases hm
  · rintro ⟨node,hn,hk⟩
    obtain ⟨_,_,hv⟩ := planned.visit hn
    obtain ⟨gate,hp⟩ := hv.gated hk
    have hg : gate ∈ plan.safetyGates :=
      (planned.mem_gates_iff gate).mpr ⟨node,hn,by simp [gatesAt,hk,hp]⟩
    exact ne_nil_of_mem hg

end

end Plan

end VelaEdge.Runtime.Command
