import VelaEdge.Base.OrderedMap
import VelaEdge.Base.Worklist
import VelaEdge.Core.Config

/-! Which points and algorithm outputs an MQTT output of a visual graph delivers: the edges are
followed back from the output, and an algorithm is reached with the port of the edge that was
followed. An algorithm that no port was named for delivers all of its outputs. -/
namespace VelaEdge.Runtime.OutputScope

open Base Core List OrderedMap

structure DataConfigGraphScope where
  active : Bool := false
  algorithmIds : List String := []
  algorithmOutputNames : OrderedMap String (List String) := .empty
  pointIds : List String := []

abbrev Source := String × Option String

variable (graph : DataConfigVisualGraph)

/-- Of several nodes under one id a map keeps the last. -/
def graphNode (nodeId : String) : Option DataConfigGraphNode :=
  graph.nodes.reverse.find? fun node => node.nodeId = nodeId

def incoming (nodeId : String) : List Source :=
  (graph.edges.filter fun edge => edge.toNode = nodeId).map fun edge =>
    (edge.fromNode,edge.fromPort)

/-- The algorithm a node stands for; a merge of points is passed through. -/
def algorithmOf (node : DataConfigGraphNode) : Option String := match node.kind with
  | .algorithm | .json => node.refId.filter fun algorithmId => algorithmId ≠ "merge_points"
  | .point | .mqtt => none

def pointOf (node : DataConfigGraphNode) : Option String :=
  if node.kind = .point then node.refId else none

def upstream (source : Source) : List Source := match graphNode graph source.1 with
  | none => []
  | some node => if (algorithmOf node).isSome then [] else incoming graph source.1

namespace DataConfigGraphScope

def visit (source : Source) (scope : DataConfigGraphScope) : DataConfigGraphScope :=
  match graphNode graph source.1 with
  | none => scope
  | some node =>
    match pointOf node, algorithmOf node with
    | some pointId, _ => { scope with pointIds := pointId :: scope.pointIds }
    | none, none => scope
    | none, some algorithmId => { scope with
        algorithmIds := algorithmId :: scope.algorithmIds
        algorithmOutputNames := match source.2 with
          | none => scope.algorithmOutputNames
          | some outputPort => scope.algorithmOutputNames.put algorithmId
              (outputPort :: (scope.algorithmOutputNames.get algorithmId).getD []) }

/-- Every visit pushes no more than the edges, and there are no more sources than edges. -/
def fromOutput (outputNodeId : String) : DataConfigGraphScope :=
  (Worklist.search (upstream graph) (graph.edges.length + graph.edges.length * graph.edges.length)
    (incoming graph outputNodeId).reverse []).foldr (visit graph) { active := true }

variable (scope : DataConfigGraphScope)

def allowsPoint (pointId : String) : Bool := !scope.active || scope.pointIds.contains pointId

def allowsAlgorithm (algorithmId : String) : Bool :=
  !scope.active || scope.algorithmIds.contains algorithmId

def allowsAlgorithmOutput (algorithmId outputName : String) : Bool := !scope.active ||
    match scope.algorithmOutputNames.get algorithmId with
    | none => true
    | some ports => ports.contains "output" || ports.contains outputName

/-- What `algorithm_output_points` asks of an output of an algorithm. -/
def delivers (algorithmId outputName : String) : Bool :=
  scope.allowsAlgorithm algorithmId && scope.allowsAlgorithmOutput algorithmId outputName

end DataConfigGraphScope

open DataConfigGraphScope

/-! ## What the traversal collects -/

/-- A way back from the output, through nodes that are passed through. -/
def Arrives (outputNodeId : String) (source : Source) : Prop :=
  ∃ start ∈ incoming graph outputNodeId,
    Relation.ReflTransGen (fun source other => other ∈ upstream graph source) start source

def PointAt (pointId : String) (source : Source) : Prop :=
  ∃ node, graphNode graph source.1 = some node ∧ pointOf node = some pointId

def AlgorithmAt (algorithmId : String) (source : Source) : Prop :=
  ∃ node, graphNode graph source.1 = some node ∧ algorithmOf node = some algorithmId

def Feeds (outputNodeId algorithmId : String) (port : Option String) : Prop :=
  ∃ nodeId, Arrives graph outputNodeId (nodeId,port) ∧ AlgorithmAt graph algorithmId (nodeId,port)

variable {graph}

theorem incoming_length (nid : String) : (incoming graph nid).length ≤ graph.edges.length := by
  rw [incoming,length_map]
  exact length_filter_le ..

theorem upstream_mem (h : other ∈ upstream graph source) : other ∈ incoming graph source.1 := by
  unfold upstream at h
  split at h
  · cases h
  · split at h
    · cases h
    · exact h

theorem upstream_length (src : Source) : (upstream graph src).length ≤ graph.edges.length := by
  unfold upstream
  split
  · exact Nat.zero_le _
  · split
    · exact Nat.zero_le _
    · exact incoming_length src.1

theorem mem_search (outputNodeId : String) (src : Source) : src ∈ Worklist.search (upstream graph)
        (graph.edges.length + graph.edges.length * graph.edges.length)
        (incoming graph outputNodeId).reverse [] ↔ Arrives graph outputNodeId src := by
  have hs : ∀ nid, ∀ src ∈ incoming graph nid,
      src ∈ (graph.edges.map fun edge => (edge.fromNode,edge.fromPort)).toFinset := by
    intro nid src h
    obtain ⟨edge,he,rfl⟩ := mem_map.mp h
    exact mem_toFinset.mpr (mem_map_of_mem (mem_of_mem_filter he))
  have hc := toFinset_card_le (graph.edges.map fun edge => (edge.fromNode,edge.fromPort))
  rw [length_map] at hc
  rw [Worklist.mem_search_iff upstream_length (fun src _ other h => hs _ other (upstream_mem h))
    (fun src h => hs _ src (mem_reverse.mp h))]
  · simp [Arrives]
  · have hi : (incoming graph outputNodeId).length ≤ _ := incoming_length outputNodeId
    have hm := Nat.mul_le_mul_right graph.edges.length hc
    rw [length_reverse]
    omega

structure Collects (graph : DataConfigVisualGraph) (seen : List Source)
    (scope : DataConfigGraphScope) : Prop where
  active : scope.active = true
  points : ∀ pointId, pointId ∈ scope.pointIds ↔ ∃ source ∈ seen, PointAt graph pointId source
  algorithms : ∀ algorithmId, algorithmId ∈ scope.algorithmIds ↔
    ∃ source ∈ seen, AlgorithmAt graph algorithmId source
  ports : ∀ algorithmId port, port ∈ (scope.algorithmOutputNames.get algorithmId).getD [] ↔
    ∃ source ∈ seen, AlgorithmAt graph algorithmId source ∧ source.2 = some port
  nonempty : ∀ algorithmId, scope.algorithmOutputNames.get algorithmId ≠ some []

private theorem algorithmOf_point (h : pointOf node = some pid) : algorithmOf node = none := by
  unfold pointOf at h
  split at h
  · next hk => simp [algorithmOf,hk]
  · cases h

theorem Collects.visit (h : Collects graph seen scope) (src : Source) :
    Collects graph (src :: seen) (scope.visit graph src) := by
  unfold DataConfigGraphScope.visit
  cases hn : graphNode graph src.1 with
  | none =>
    have hp : ∀ pid, ¬ PointAt graph pid src := by simp [PointAt,hn]
    have ha : ∀ algorithmId, ¬ AlgorithmAt graph algorithmId src := by simp [AlgorithmAt,hn]
    exact ⟨h.active,by simp [hp,h.points],by simp [ha,h.algorithms],by simp [ha,h.ports],h.nonempty⟩
  | some node =>
    have hp : ∀ pid, PointAt graph pid src ↔ pointOf node = some pid := by simp [PointAt,hn]
    have ha : ∀ algorithmId, AlgorithmAt graph algorithmId src ↔
        algorithmOf node = some algorithmId := by simp [AlgorithmAt,hn]
    cases hpt : pointOf node with
    | some pid =>
      have hal := algorithmOf_point hpt
      simp only [hpt]
      exact ⟨h.active,by simp [hp,hpt,h.points,eq_comm],by simp [ha,hal,h.algorithms],
        by simp [ha,hal,h.ports],h.nonempty⟩
    | none =>
      cases hal : algorithmOf node with
      | none =>
        simp only [hpt,hal]
        exact ⟨h.active,by simp [hp,hpt,h.points],by simp [ha,hal,h.algorithms],
          by simp [ha,hal,h.ports],h.nonempty⟩
      | some algorithmId =>
        simp only [hpt,hal]
        refine ⟨h.active,by simp [hp,hpt,h.points],by simp [ha,hal,h.algorithms,eq_comm],
          fun other port => ?_,fun other => ?_⟩
        · have hpo := h.ports other port
          rw [exists_mem_cons_iff,ha,hal,← hpo]
          cases src.2 with
          | none => simp
          | some reached =>
            simp only [get_put]
            split <;> grind
        · cases src.2
          · exact h.nonempty other
          · rw [get_put]
            split
            · simp
            · exact h.nonempty other

theorem fromOutput_collects (graph : DataConfigVisualGraph) (outputNodeId : String) :
    ∃ seen, (∀ src, src ∈ seen ↔ Arrives graph outputNodeId src) ∧
      Collects graph seen (.fromOutput graph outputNodeId) := by
  refine ⟨_,mem_search outputNodeId,?_⟩
  unfold fromOutput
  generalize Worklist.search (upstream graph) _ _ _ = seen
  induction seen with
  | nil => exact ⟨rfl,by simp,by simp,fun _ _ => by simp,
      fun _ => by simp⟩
  | cons src seen ih => exact ih.visit src

theorem allowsPoint_fromOutput : (fromOutput graph outputNodeId).allowsPoint pid = true ↔
      ∃ src, Arrives graph outputNodeId src ∧ PointAt graph pid src := by
  obtain ⟨seen,hs,h⟩ := fromOutput_collects graph outputNodeId
  simp [allowsPoint,h.active,h.points,hs]

theorem delivers_fromOutput :
    (fromOutput graph outputNodeId).delivers algorithmId outputName = true ↔
      (∃ port, Feeds graph outputNodeId algorithmId port) ∧
        ((∀ port, ¬ Feeds graph outputNodeId algorithmId (some port)) ∨
          Feeds graph outputNodeId algorithmId (some "output") ∨
          Feeds graph outputNodeId algorithmId (some outputName)) := by
  obtain ⟨seen,hs,h⟩ := fromOutput_collects graph outputNodeId
  have hf : ∀ port, port ∈ ((fromOutput graph
      outputNodeId).algorithmOutputNames.get algorithmId).getD [] ↔
        Feeds graph outputNodeId algorithmId (some port) := by
    intro port
    rw [h.ports]
    simp only [hs,Feeds,Prod.exists]
    grind
  have ha : algorithmId ∈ (fromOutput graph outputNodeId).algorithmIds ↔
      ∃ port, Feeds graph outputNodeId algorithmId port := by
    rw [h.algorithms]
    simp only [hs,Feeds,Prod.exists]
    grind
  have hne := h.nonempty algorithmId
  simp only [delivers,allowsAlgorithm,
    allowsAlgorithmOutput,h.active,Bool.not_true,Bool.false_or,
    Bool.and_eq_true,contains_iff_mem,ha,← hf]
  cases hg : (fromOutput graph
      outputNodeId).algorithmOutputNames.get algorithmId with
  | none => simp
  | some ports =>
    obtain ⟨port,rest,rfl⟩ := exists_cons_of_ne_nil fun hn => hne (hn ▸ hg)
    simp
    grind

/-! ## One edge more -/

def addEdge (graph : DataConfigVisualGraph) (edge : DataConfigGraphEdge) : DataConfigVisualGraph :=
  { graph with edges := graph.edges ++ [edge] }

variable (edge : DataConfigGraphEdge)

private theorem incoming_addEdge (h : source ∈ incoming graph nid) :
    source ∈ incoming (addEdge graph edge) nid := by
  obtain ⟨kept,hk,rfl⟩ := mem_map.mp h
  refine mem_map.mpr ⟨kept,?_,rfl⟩
  rw [addEdge,filter_append]
  exact mem_append_left _ hk

theorem Arrives.addEdge (h : Arrives graph outputNodeId src) :
    Arrives (addEdge graph edge) outputNodeId src := by
  obtain ⟨start,hs,hp⟩ := h
  refine ⟨start,incoming_addEdge edge hs,hp.lift id fun src other ho => ?_⟩
  unfold upstream at ho ⊢
  change other ∈ match graphNode graph src.1 with
    | none => []
    | some node => if (algorithmOf node).isSome then []
        else incoming (OutputScope.addEdge graph edge) src.1
  split at ho
  · cases ho
  · split at ho
    · cases ho
    · next hn => simpa [hn] using incoming_addEdge edge ho

theorem Feeds.addEdge (h : Feeds graph outputNodeId algorithmId port) :
    Feeds (addEdge graph edge) outputNodeId algorithmId port := by
  obtain ⟨nid,ha,hn⟩ := h
  exact ⟨nid,ha.addEdge edge,hn⟩

/-- With one edge more an output keeps its points. It keeps an output of an algorithm exactly when
the algorithm was reached through a named port before, or is not reached through one now, or is
now reached through the port of all outputs or of that output. -/
theorem delivered_after_edge (graph : DataConfigVisualGraph) (outputNodeId : String)
    (edge : DataConfigGraphEdge) :
    (∀ pointId, (fromOutput graph outputNodeId).allowsPoint pointId = true →
      (fromOutput (addEdge graph edge) outputNodeId).allowsPoint pointId =
        true) ∧
    ∀ algorithmId outputName, (fromOutput graph outputNodeId).delivers
        algorithmId outputName = true →
      ((fromOutput (addEdge graph edge) outputNodeId).delivers algorithmId
          outputName = true ↔
        (∃ port, Feeds graph outputNodeId algorithmId (some port)) ∨
          (∀ port, ¬ Feeds (addEdge graph edge) outputNodeId algorithmId (some port)) ∨
          Feeds (addEdge graph edge) outputNodeId algorithmId (some "output") ∨
          Feeds (addEdge graph edge) outputNodeId algorithmId (some outputName)) := by
  refine ⟨fun pointId h => ?_,fun algorithmId outputName h => ?_⟩
  · obtain ⟨src,ha,hp⟩ := allowsPoint_fromOutput.mp h
    exact allowsPoint_fromOutput.mpr ⟨src,ha.addEdge edge,hp⟩
  · obtain ⟨⟨port,hf⟩,hb⟩ := delivers_fromOutput.mp h
    rw [delivers_fromOutput]
    constructor
    · rintro ⟨-,hn⟩
      exact .inr hn
    · intro hc
      refine ⟨⟨port,hf.addEdge edge⟩,?_⟩
      rcases hc with ⟨named,hc⟩ | hc
      · rcases hb with hb | hb | hb
        · exact absurd hc (hb named)
        · exact .inr (.inl (hb.addEdge edge))
        · exact .inr (.inr (hb.addEdge edge))
      · exact hc

def averageGraph : DataConfigVisualGraph where
  nodes := [⟨"level",.point,some "level"⟩,⟨"stats",.algorithm,some "window-stats"⟩,
    ⟨"cloud",.mqtt,none⟩]
  edges := [{ edgeId := "e1", fromNode := "level", toNode := "cloud" },
    { edgeId := "e2", fromNode := "stats", toNode := "cloud" }]

def portedEdge (port : String) : DataConfigGraphEdge where
  edgeId := "e3"
  fromNode := "stats"
  fromPort := some port
  toNode := "cloud"

/-- An edge for the average of the algorithm keeps the point, and the average itself. -/
theorem ported_edge_keeps :
    (fromOutput (addEdge averageGraph (portedEdge "avg")) "cloud").allowsPoint
      "level" = true ∧
    (fromOutput (addEdge averageGraph (portedEdge "avg")) "cloud").delivers
      "window-stats" "avg" = true := by
  obtain ⟨hp,ha⟩ := delivered_after_edge averageGraph "cloud" (portedEdge "avg")
  have hf : Feeds (addEdge averageGraph (portedEdge "avg")) "cloud" "window-stats" (some "avg") :=
    ⟨"stats",⟨("stats",some "avg"),by decide,.refl⟩,_,rfl,rfl⟩
  exact ⟨hp "level" (by decide),(ha "window-stats" "avg" (by decide)).mpr (.inr (.inr (.inr hf)))⟩

/-- The algorithm was connected without a port. A second edge for its average takes its maximum
away from the output. -/
theorem ported_edge_drops : (fromOutput averageGraph "cloud").delivers "window-stats" "max" = true ∧
    (fromOutput (addEdge averageGraph (portedEdge "avg")) "cloud").delivers
      "window-stats" "max" = false := by
  decide

end VelaEdge.Runtime.OutputScope
