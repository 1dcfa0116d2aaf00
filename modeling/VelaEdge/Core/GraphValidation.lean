import VelaEdge.Core.CommandFlow

/-! The check of a data config's visual graph, and what both graph checks accept: no cycle, and
every node on a way to an output. -/
namespace VelaEdge.Core

open Base Topological List

namespace DataConfigGraph

variable (config : DataConfig)

def checkNodes : List String → List DataConfigGraphNode → Except String Unit
  | _, [] => .ok ()
  | seen, node :: nodes => do
      bailIf (Text.isBlank node.nodeId) s!"data config {config.configId} graph node id is required"
      bailIf (seen.contains node.nodeId)
        s!"data config {config.configId} graph has duplicate node {node.nodeId}"
      let pointId := node.refId.getD ""
      bailIf (node.kind = .point ∧ !config.points.any fun point => point.pointId = pointId)
        s!"data config {config.configId} graph point node {
          node.nodeId} references missing point {pointId}"
      checkNodes (node.nodeId :: seen) nodes

def nodeKind (nodeId : String) : Option DataConfigGraphNodeKind :=
  (config.visualGraph.nodes.find? fun node => node.nodeId = nodeId).map DataConfigGraphNode.kind

def checkEdges : List String → List DataConfigGraphEdge → Except String Unit
  | _, [] => .ok ()
  | seen, edge :: edges => do
      bailIf (seen.contains edge.edgeId)
        s!"data config {config.configId} graph has duplicate edge {edge.edgeId}"
      let fromKind ← context (nodeKind config edge.fromNode)
        s!"data config {config.configId} graph edge {
          edge.edgeId} references missing source {edge.fromNode}"
      let toKind ← context (nodeKind config edge.toNode)
        s!"data config {config.configId} graph edge {
          edge.edgeId} references missing target {edge.toNode}"
      bailIf (fromKind = .mqtt) s!"data config {config.configId} graph MQTT node {
        edge.fromNode} cannot have outgoing edges"
      bailIf (toKind = .point) s!"data config {config.configId} graph point node {
        edge.toNode} cannot have incoming edges"
      checkEdges (edge.edgeId :: seen) edges

def checkOutputs : Except String Unit := do
  let graph := config.visualGraph
  let mqttNodes := graph.nodes.filter fun node => node.kind = .mqtt
  bailIf (mqttNodes.isEmpty)
    s!"data config {config.configId} graph requires at least one MQTT output"
  if let some node := mqttNodes.find? fun node =>
      !graph.edges.any fun edge => edge.toNode = node.nodeId then
    throw s!"data config {config.configId} graph MQTT output {node.nodeId} is disconnected"
  if let some node := graph.nodes.find? fun node =>
      node.kind ≠ .mqtt ∧ !graph.edges.any fun edge => edge.fromNode = node.nodeId then
    throw s!"data config {config.configId} graph node {node.nodeId} has no downstream output"

def edges (graph : DataConfigVisualGraph) : List (String × String) :=
  graph.edges.map fun edge => (edge.fromNode,edge.toNode)

def checkShape : Except String Unit := do
  let graph := config.visualGraph
  bailIf (graph.nodes.isEmpty) s!"data config {config.configId} graph has edges but no nodes"
  checkNodes config [] graph.nodes
  checkEdges config [] graph.edges
  checkOutputs config

end DataConfigGraph

open DataConfigGraph in
def validateDataConfigVisualGraph (config : DataConfig) : Except String Unit :=
  let graph := config.visualGraph
  if graph.nodes.isEmpty && graph.edges.isEmpty then .ok ()
  else do
    checkShape config
    bailIf (visited (graph.nodes.map DataConfigGraphNode.nodeId) (edges graph) ≠ graph.nodes.length)
      s!"data config {config.configId} graph contains a cycle"

/-! ## The search for a cycle -/

namespace CommandFlow

variable {flow : CommandFlowConfig} {mappings : List TelemetryPointMapping}

theorem checkNodes_nodup (h : checkNodes flow mappings [] nodes = .ok ()) :
    (nodes.map CommandGraphNode.nodeId).Nodup := by
  refine (nodup_of_seen (fun h => ?_) h).1
  simp only [checkNodes,bind_eq_ok,bailIf_eq_ok] at h
  obtain ⟨_,-,_,hs,_,-,h⟩ := h
  exact ⟨by simpa using hs,h⟩

theorem nodeKind_mem (h : nodeKind flow nid = some kind) :
    nid ∈ flow.nodes.map CommandGraphNode.nodeId := by
  obtain ⟨node,hf,-⟩ := Option.map_eq_some_iff.mp h
  exact mem_map.mpr ⟨node,mem_of_find?_eq_some hf,by simpa using find?_some hf⟩

theorem checkEdges_ends {edges : List CommandGraphEdge} (h : checkEdges flow [] edges = .ok ()) :
    ∀ edge ∈ edges, edge.fromNode ∈ flow.nodes.map CommandGraphNode.nodeId ∧
      edge.toNode ∈ flow.nodes.map CommandGraphNode.nodeId := by
  refine forall_of_seen (fun h => ?_) h
  simp only [checkEdges,bind_eq_ok,context_eq_ok] at h
  obtain ⟨_,-,_,hs,_,ht,_,-,_,-,h⟩ := h
  exact ⟨⟨nodeKind_mem hs,nodeKind_mem ht⟩,_,h⟩

theorem visited_iff (hn : checkNodes flow mappings [] flow.nodes = .ok ())
    (he : checkEdges flow [] flow.edges = .ok ()) :
    visited (flow.nodes.map CommandGraphNode.nodeId) (graphEdges flow) = flow.nodes.length ↔
      Acyclic (graphEdges flow) := by
  rw [← length_map CommandGraphNode.nodeId]
  exact visited_iff_acyclic (forall_mem_map.mpr (checkEdges_ends he)) (checkNodes_nodup hn)

private theorem checkConnected_ok (h : checkConnected flow = .ok ()) :
    (∀ node ∈ flow.nodes, node.kind = .mqttInput ∨ indegree flow node.nodeId ≠ 0) ∧
      ∀ node ∈ flow.nodes, node.kind = .mqttReply ∨
        ∃ edge ∈ flow.edges, edge.fromNode = node.nodeId := by
  unfold checkConnected at h
  cases hin : flow.nodes.find? (fun node =>
    node.kind ≠ .mqttInput ∧ indegree flow node.nodeId = 0) with
  | some node =>
    rw [hin] at h
    cases h
  | none =>
    cases ho : flow.nodes.find? (fun node => node.kind ≠ .mqttReply ∧
      !flow.edges.any fun edge => edge.fromNode = node.nodeId) with
    | some node =>
      rw [hin,ho] at h
      cases h
    | none =>
      rw [find?_eq_none] at hin ho
      refine ⟨fun node hm => ?_,fun node hm => ?_⟩
      · have := hin node hm
        grind
      · have := ho node hm
        simp only [decide_eq_true_eq,not_and,Bool.not_eq_true',Bool.not_eq_false,
          any_eq_true] at this
        grind

structure OnPath (flow : CommandFlowConfig) (node : CommandGraphNode) : Prop where
  fromInput : ∃ input ∈ flow.nodes, input.kind = .mqttInput ∧
    Relation.ReflTransGen (Precedes (graphEdges flow)) input.nodeId node.nodeId
  toReply : ∃ reply ∈ flow.nodes, reply.kind = .mqttReply ∧
    Relation.ReflTransGen (Precedes (graphEdges flow)) node.nodeId reply.nodeId

theorem onPath (he : checkEdges flow [] flow.edges = .ok ()) (hc : checkConnected flow = .ok ())
    (ha : Acyclic (graphEdges flow)) (hm : node ∈ flow.nodes) : OnPath flow node := by
  obtain ⟨hin,ho⟩ := checkConnected_ok hc
  constructor
  · refine ha.exists_source (fun node hn => (hin node hn).imp_right fun hd => ?_) hm
    obtain ⟨_,hg,hto⟩ := countP_pos_iff.mp (Nat.pos_of_ne_zero hd)
    obtain ⟨edge,hem,rfl⟩ := mem_map.mp hg
    exact ⟨_,hg,by simpa using hto,(checkEdges_ends he edge hem).1⟩
  · exact ha.exists_sink (fun node hn => (ho node hn).imp_right fun ⟨edge,hem,hf⟩ =>
      ⟨_,mem_map_of_mem hem,hf,(checkEdges_ends he edge hem).2⟩) hm

end CommandFlow

namespace DataConfigGraph

variable {cfg : DataConfig}

theorem checkNodes_nodup (h : checkNodes cfg [] nodes = .ok ()) :
    (nodes.map DataConfigGraphNode.nodeId).Nodup := by
  refine (nodup_of_seen (fun h => ?_) h).1
  simp only [checkNodes,bind_eq_ok,bailIf_eq_ok] at h
  obtain ⟨_,-,_,hs,_,-,h⟩ := h
  exact ⟨by simpa using hs,h⟩

theorem nodeKind_mem (h : nodeKind cfg nid = some kind) :
    nid ∈ cfg.visualGraph.nodes.map DataConfigGraphNode.nodeId := by
  obtain ⟨node,hf,-⟩ := Option.map_eq_some_iff.mp h
  exact mem_map.mpr ⟨node,mem_of_find?_eq_some hf,by simpa using find?_some hf⟩

theorem checkEdges_ends {edges : List DataConfigGraphEdge} (h : checkEdges cfg [] edges = .ok ()) :
    ∀ edge ∈ edges, edge.fromNode ∈ cfg.visualGraph.nodes.map DataConfigGraphNode.nodeId ∧
      edge.toNode ∈ cfg.visualGraph.nodes.map DataConfigGraphNode.nodeId := by
  refine forall_of_seen (fun h => ?_) h
  simp only [checkEdges,bind_eq_ok,context_eq_ok] at h
  obtain ⟨_,-,_,hs,_,ht,_,-,_,-,h⟩ := h
  exact ⟨⟨nodeKind_mem hs,nodeKind_mem ht⟩,_,h⟩

theorem visited_iff (hn : checkNodes cfg [] cfg.visualGraph.nodes = .ok ())
    (he : checkEdges cfg [] cfg.visualGraph.edges = .ok ()) :
    visited (cfg.visualGraph.nodes.map DataConfigGraphNode.nodeId) (edges cfg.visualGraph) =
      cfg.visualGraph.nodes.length ↔ Acyclic (edges cfg.visualGraph) := by
  rw [← length_map DataConfigGraphNode.nodeId]
  exact visited_iff_acyclic (forall_mem_map.mpr (checkEdges_ends he)) (checkNodes_nodup hn)

theorem checkShape_ok (h : checkShape cfg = .ok ()) :
    checkNodes cfg [] cfg.visualGraph.nodes = .ok () ∧
      checkEdges cfg [] cfg.visualGraph.edges = .ok () ∧ checkOutputs cfg = .ok () := by
  unfold checkShape at h
  obtain ⟨_,-,h⟩ := bind_eq_ok.mp h
  obtain ⟨_,hn,h⟩ := bind_eq_ok.mp h
  obtain ⟨_,he,h⟩ := bind_eq_ok.mp h
  exact ⟨hn,he,h⟩

private theorem checkOutputs_ok (h : checkOutputs cfg = .ok ()) :
    ∀ node ∈ cfg.visualGraph.nodes, node.kind = .mqtt ∨
      ∃ edge ∈ cfg.visualGraph.edges, edge.fromNode = node.nodeId := by
  unfold checkOutputs at h
  obtain ⟨_,-,h⟩ := bind_eq_ok.mp h
  cases hin : (cfg.visualGraph.nodes.filter fun node => node.kind = .mqtt).find? (fun node =>
    !cfg.visualGraph.edges.any fun edge => edge.toNode = node.nodeId) with
  | some node =>
    rw [hin] at h
    cases h
  | none =>
    cases ho : cfg.visualGraph.nodes.find? (fun node => node.kind ≠ .mqtt ∧
      !cfg.visualGraph.edges.any fun edge => edge.fromNode = node.nodeId) with
    | some node =>
      rw [hin,ho] at h
      cases h
    | none =>
      intro node hm
      have := find?_eq_none.mp ho node hm
      simp only [decide_eq_true_eq,not_and,Bool.not_eq_true',Bool.not_eq_false,any_eq_true] at this
      grind

private theorem reachesOutput (he : checkEdges cfg [] cfg.visualGraph.edges = .ok ())
    (ho : checkOutputs cfg = .ok ()) (ha : Acyclic (edges cfg.visualGraph))
    (hm : node ∈ cfg.visualGraph.nodes) :
    ∃ output ∈ cfg.visualGraph.nodes, output.kind = .mqtt ∧
      Relation.ReflTransGen (Precedes (edges cfg.visualGraph)) node.nodeId output.nodeId := by
  exact ha.exists_sink (fun node hn => (checkOutputs_ok ho node hn).imp_right
    fun ⟨edge,hem,hf⟩ => ⟨_,mem_map_of_mem hem,hf,(checkEdges_ends he edge hem).2⟩) hm

end DataConfigGraph

/-- What the two checks accept has no cycle; every node of an accepted command flow is on a path
from an input to a reply, and every node of an accepted visual graph reaches an output. Where there
is no cycle the search for one changes nothing: the checks before it decide. -/
theorem graph_validators_sound : (∀ flow mappings, validateCommandFlow flow mappings = .ok () →
      Acyclic (CommandFlow.graphEdges flow) ∧ ∀ node ∈ flow.nodes, CommandFlow.OnPath flow node) ∧
    (∀ config, validateDataConfigVisualGraph config = .ok () →
      Acyclic (DataConfigGraph.edges config.visualGraph) ∧
        ∀ node ∈ config.visualGraph.nodes, ∃ output ∈ config.visualGraph.nodes,
          output.kind = .mqtt ∧ Relation.ReflTransGen
            (Precedes (DataConfigGraph.edges config.visualGraph)) node.nodeId output.nodeId) ∧
    (∀ flow mappings, Acyclic (CommandFlow.graphEdges flow) →
      validateCommandFlow flow mappings = (do
        CommandFlow.checkSettings flow
        CommandFlow.checkNodes flow mappings [] flow.nodes
        CommandFlow.checkRequiredKinds flow
        CommandFlow.checkEdges flow [] flow.edges
        CommandFlow.checkConnected flow)) ∧
    ∀ config, Acyclic (DataConfigGraph.edges config.visualGraph) →
      validateDataConfigVisualGraph config =
        if config.visualGraph.nodes.isEmpty && config.visualGraph.edges.isEmpty then .ok ()
        else DataConfigGraph.checkShape config := by
  refine ⟨fun flow mappings h => ?_,fun config h => ?_,fun flow mappings ha => ?_,
    fun config ha => ?_⟩
  · simp only [validateCommandFlow,CommandFlow.checkGraph,bind_eq_ok,bailIf_eq_ok] at h
    obtain ⟨_,-,_,hn,_,-,_,he,_,hc,hv⟩ := h
    have ha := (CommandFlow.visited_iff hn he).mp (by simpa using hv)
    exact ⟨ha,fun node hm => CommandFlow.onPath he hc ha hm⟩
  · simp only [validateDataConfigVisualGraph] at h
    split at h
    · next hem =>
      simp only [Bool.and_eq_true,List.isEmpty_iff] at hem
      refine ⟨fun node hc => ?_,by simp [hem.1]⟩
      obtain ⟨other,hp,-⟩ := Relation.TransGen.head'_iff.mp hc
      simp [DataConfigGraph.edges,hem.2,Precedes] at hp
    · obtain ⟨_,hs,hv⟩ := bind_eq_ok.mp h
      obtain ⟨hn,he,ho⟩ := DataConfigGraph.checkShape_ok hs
      have ha := (DataConfigGraph.visited_iff hn he).mp (by simpa using hv)
      exact ⟨ha,fun node hm => DataConfigGraph.reachesOutput he ho ha hm⟩
  · simp only [validateCommandFlow,CommandFlow.checkGraph]
    cases CommandFlow.checkSettings flow with
    | error => rfl
    | ok =>
      cases hn : CommandFlow.checkNodes flow mappings [] flow.nodes with
      | error => rfl
      | ok =>
        cases CommandFlow.checkRequiredKinds flow with
        | error => rfl
        | ok =>
          cases he : CommandFlow.checkEdges flow [] flow.edges with
          | error => rfl
          | ok =>
            have hv := (CommandFlow.visited_iff hn he).mpr ha
            cases CommandFlow.checkConnected flow <;> simp [hv,bailIf]
  · simp only [validateDataConfigVisualGraph]
    split
    · rfl
    · cases hs : DataConfigGraph.checkShape config with
      | error => rfl
      | ok =>
        obtain ⟨hn,he,-⟩ := DataConfigGraph.checkShape_ok hs
        simp [(DataConfigGraph.visited_iff hn he).mpr ha,bailIf]

end VelaEdge.Core
