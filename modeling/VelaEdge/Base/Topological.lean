import Mathlib.Data.Finset.Card
import Mathlib.Data.List.Sort
import Mathlib.Order.WellFounded

/-! A pass over a graph in topological order. A node is queued when its last incoming edge is
closed, and the edges out of a node are closed when it is taken from the queue. The pass takes
every node exactly when the graph has no cycle. -/
namespace VelaEdge.Base.Topological

variable {α : Type}

def Precedes (edges : List (α × α)) (node other : α) : Prop := (node,other) ∈ edges

def Acyclic (edges : List (α × α)) : Prop := ∀ node, ¬ Relation.TransGen (Precedes edges) node node

open Classical in
section

variable {edges : List (α × α)}

include edges

theorem Acyclic.wellFounded (h : Acyclic edges) : WellFounded (Precedes edges) := by
  -- the ancestors of a node are a proper part of those of its successors
  let ancestors (node : α) : Finset α := (edges.map Prod.fst).toFinset.filter fun other =>
    Relation.TransGen (Precedes edges) other node
  refine Subrelation.wf (fun {node other} hp => ?_)
    (InvImage.wf (fun node => (ancestors node).card) Nat.lt_wfRel.wf)
  refine Finset.card_lt_card (Finset.ssubset_iff_of_subset (fun ancestor ha => ?_) |>.mpr
    ⟨node,?_,?_⟩)
  · obtain ⟨hm,ht⟩ := Finset.mem_filter.mp ha
    exact Finset.mem_filter.mpr ⟨hm,ht.tail hp⟩
  · exact Finset.mem_filter.mpr ⟨List.mem_toFinset.mpr (List.mem_map.mpr ⟨_,hp,rfl⟩),.single hp⟩
  · exact fun hm => h node (Finset.mem_filter.mp hm).2

@[simp] theorem precedes_swap :
    Precedes (edges.map Prod.swap) node other ↔ Precedes edges other node := by
  simp [Precedes]

theorem Acyclic.swap (h : Acyclic edges) : Acyclic (edges.map Prod.swap) := by
  intro node ht
  have hr : Relation.TransGen (Function.swap (Precedes edges)) node node :=
    ht.lift (p := Function.swap (Precedes edges)) id fun _ _ hp => precedes_swap.mp hp
  exact h node (Relation.transGen_swap.mp hr)

variable {nodes : List β} {id : β → α} {P : β → Prop}

theorem Acyclic.exists_source (h : Acyclic edges) (hs : ∀ node ∈ nodes,
      P node ∨ ∃ edge ∈ edges, edge.2 = id node ∧ edge.1 ∈ nodes.map id) (hn : node ∈ nodes) :
    ∃ src ∈ nodes, P src ∧ Relation.ReflTransGen (Precedes edges) (id src) (id node) := by
  induction hid : id node using h.wellFounded.induction generalizing node with
  | _ _ ih =>
    subst hid
    rcases hs node hn with hp | ⟨edge,he,ht,hf⟩
    · exact ⟨node,hn,hp,.refl⟩
    · obtain ⟨other,ho,hof⟩ := List.mem_map.mp hf
      have hpr : Precedes edges (id other) (id node) := by
        rw [hof,← ht]
        exact he
      obtain ⟨src,hsr,hps,hr⟩ := ih _ hpr ho rfl
      exact ⟨src,hsr,hps,hr.tail hpr⟩

theorem Acyclic.exists_sink (h : Acyclic edges) (hs : ∀ node ∈ nodes,
      P node ∨ ∃ edge ∈ edges, edge.1 = id node ∧ edge.2 ∈ nodes.map id) (hn : node ∈ nodes) :
    ∃ sink ∈ nodes, P sink ∧ Relation.ReflTransGen (Precedes edges) (id node) (id sink) := by
  obtain ⟨sink,hq,hp,hr⟩ := h.swap.exists_source (fun node hn => (hs node hn).imp_right
    fun ⟨edge,he,hends⟩ => ⟨edge.swap,List.mem_map_of_mem he,hends⟩) hn
  have hs : Relation.ReflTransGen (Function.swap (Precedes edges)) (id sink) (id node) :=
    hr.lift (p := Function.swap (Precedes edges)) (fun node => node) fun _ _ hp =>
      precedes_swap.mp hp
  exact ⟨sink,hq,hp,Relation.reflTransGen_swap.mp hs⟩

end

/-- Nodes in the order they were taken, the last one first: each after its predecessors. -/
def Ordered (edges : List (α × α)) : List α → Prop
  | [] => True
  | node :: taken => (∀ edge ∈ edges, edge.2 = node → edge.1 ∈ taken) ∧ Ordered edges taken

theorem Ordered.before {edges : List (α × α)} (h : Ordered edges taken) (hn : taken.Nodup)
    (hm : other ∈ taken) (hp : Relation.TransGen (Precedes edges) node other) :
    node ∈ taken ∧ node ≠ other := by
  induction taken generalizing other with
  | nil => cases hm
  | cons last taken ih =>
    obtain ⟨hl,ho⟩ := h
    obtain ⟨hni,hnd⟩ := List.nodup_cons.mp hn
    rcases List.mem_cons.mp hm with rfl | hm
    · have hin : node ∈ taken := by
        rcases Relation.TransGen.tail'_iff.mp hp with ⟨middle,hr,he⟩
        have hmi := hl _ he rfl
        rcases Relation.reflTransGen_iff_eq_or_transGen.mp hr with rfl | hr
        · exact hmi
        · exact (ih ho hnd hmi hr).1
      exact ⟨List.mem_cons_of_mem _ hin,fun he => hni (he ▸ hin)⟩
    · obtain ⟨hin,hne⟩ := ih ho hnd hm hp
      exact ⟨List.mem_cons_of_mem _ hin,hne⟩

/-! ## The pass -/

variable [DecidableEq α]

/-- Nodes without open incoming edges, the open incoming edges of every node, and how many nodes
were taken. -/
structure Pass (α : Type) where
  queue : List α
  openEdges : List (α × Nat)
  visited : Nat

def Pass.close (pass : Pass α) (node : α) : Pass α :=
  let count := (pass.openEdges.lookup node).getD 0 - 1
  { pass with
    openEdges := pass.openEdges.map fun entry => if entry.1 = node then (node,count) else entry
    queue := if count = 0 then node :: pass.queue else pass.queue }

def targets (edges : List (α × α)) (node : α) : List α :=
  (edges.filter fun edge => edge.1 = node).map Prod.snd

def Pass.run (edges : List (α × α)) : Nat → Pass α → Pass α
  | 0, pass => pass
  | fuel + 1, pass =>
    match pass.queue with
    | [] => pass
    | node :: queue => Pass.run edges fuel ((targets edges node).foldl Pass.close
        { pass with queue := queue, visited := pass.visited + 1 })

def indegree (edges : List (α × α)) (node : α) : Nat := edges.countP fun edge => edge.2 = node

section Counting

variable {edges : List (α × α)} {nodes taken : List α} {count : α → Nat} {pass : Pass α}

structure Counts (nodes : List α) (count : α → Nat) (taken : List α) (pass : Pass α) : Prop where
  counts : ∀ node ∈ nodes, pass.openEdges.lookup node = some (count node)
  queued : ∀ node ∈ nodes, node ∈ taken ++ pass.queue ↔ count node = 0
  within : ∀ node ∈ taken ++ pass.queue, node ∈ nodes
  nodup : (taken ++ pass.queue).Nodup
  visited : pass.visited = taken.length

theorem lookup_replace (node other : α) (value : Nat) (entries : List (α × Nat)) :
    (entries.map fun entry => if entry.1 = node then (node,value) else entry).lookup other =
      if other = node then (entries.lookup other).map fun _ => value else entries.lookup other := by
  induction entries with
  | nil => simp
  | cons entry entries ih =>
    obtain ⟨key,old⟩ := entry
    by_cases ho : other = key
    · subst ho
      by_cases hk : other = node <;> simp [hk]
    · have hb : (other == key) = false := by simpa using ho
      by_cases hk : key = node
      · subst hk
        simp [List.lookup_cons,hb,ih,ho]
      · simp [List.lookup_cons,hk,hb,ih]

theorem lookup_map (h : node ∈ nodes) (value : α → Nat) :
    (nodes.map fun node => (node,value node)).lookup node = some (value node) := by
  induction nodes with
  | nil => cases h
  | cons first nodes ih =>
    by_cases hf : node = first
    · simp [hf]
    · have hb : (node == first) = false := by simpa using hf
      simp [List.lookup_cons,hb,ih ((List.mem_cons.mp h).resolve_left hf)]

theorem Counts.close (h : Counts nodes count taken pass) (hm : node ∈ nodes) (hc : 0 < count node) :
    Counts nodes (Function.update count node (count node - 1)) taken (pass.close node) := by
  have hl := h.counts node hm
  have hq : node ∉ taken ++ pass.queue := fun hi => by
    have := (h.queued node hm).mp hi
    omega
  have hlo : ∀ other ∈ nodes, (pass.close node).openEdges.lookup other =
      some (Function.update count node (count node - 1) other) := by
    intro other ho
    simp only [Pass.close,lookup_replace,h.counts other ho,hl,Function.update_apply]
    split <;> simp
  by_cases hz : count node - 1 = 0
  · have hqu : (pass.close node).queue = node :: pass.queue := by simp [Pass.close,hl,hz]
    have hp : (taken ++ node :: pass.queue).Perm (node :: (taken ++ pass.queue)) := List.perm_middle
    refine ⟨hlo,fun other ho => ?_,fun other ho => ?_,?_,h.visited⟩
    · rw [hqu,hp.mem_iff,List.mem_cons,h.queued other ho,Function.update_apply]
      split <;> grind
    · rw [hqu,hp.mem_iff,List.mem_cons] at ho
      exact ho.elim (fun he => he ▸ hm) (h.within other)
    · rw [hqu,hp.nodup_iff,List.nodup_cons]
      exact ⟨hq,h.nodup⟩
  · have hqu : (pass.close node).queue = pass.queue := by simp [Pass.close,hl,hz]
    refine ⟨hlo,fun other ho => ?_,by rw [hqu]; exact h.within,by rw [hqu]; exact h.nodup,h.visited⟩
    rw [hqu,h.queued other ho,Function.update_apply]
    split <;> grind

theorem Counts.closeAll (h : Counts nodes count taken pass) {closed : List α}
    (hm : ∀ node ∈ closed, node ∈ nodes) (hc : ∀ node, closed.count node ≤ count node) :
    Counts nodes (fun node => count node - closed.count node) taken
      (closed.foldl Pass.close pass) := by
  induction closed generalizing count pass with
  | nil => simpa using h
  | cons node closed ih =>
    have hn := hc node
    rw [List.count_cons_self] at hn
    have hs := h.close (hm node List.mem_cons_self) (by omega)
    have hr := ih hs (fun other ho => hm other (List.mem_cons_of_mem _ ho)) (fun other => by
      have := hc other
      rw [List.count_cons] at this
      rw [Function.update_apply]
      split <;> grind)
    have he : (fun other => count other - (node :: closed).count other) = fun other =>
        Function.update count node (count node - 1) other - closed.count other := by
      funext other
      rw [List.count_cons,Function.update_apply]
      split <;> grind
    rw [he]
    exact hr

/-- The edges into a node that no taken node has closed. -/
def opened (edges : List (α × α)) (taken : List α) (node : α) : Nat :=
  edges.countP fun edge => edge.2 = node ∧ edge.1 ∉ taken

theorem opened_cons (hn : node ∉ taken) (other : α) : opened edges taken other =
      opened edges (node :: taken) other + (targets edges node).count other := by
  unfold opened targets
  induction edges with
  | nil => rfl
  | cons edge edges ih =>
    obtain ⟨src,target⟩ := edge
    by_cases hs : src = node <;> by_cases ht : target = other <;>
      by_cases hm : src ∈ taken <;> simp_all <;> omega

@[simp] theorem opened_eq_zero : opened edges taken node = 0 ↔
    ∀ edge ∈ edges, edge.2 = node → edge.1 ∈ taken := by
  simp [opened,List.countP_eq_zero]

variable (he : ∀ edge ∈ edges, edge.1 ∈ nodes ∧ edge.2 ∈ nodes)

include he

section

variable (h : Counts nodes (opened edges taken) taken pass)
include h

theorem Counts.take {queue : List α} (hq : pass.queue = node :: queue) :
    Counts nodes (opened edges (node :: taken)) (node :: taken) ((targets edges node).foldl
      Pass.close { pass with queue := queue, visited := pass.visited + 1 }) := by
  have hp : (taken ++ node :: queue).Perm (node :: taken ++ queue) := List.perm_middle
  have hnd := h.nodup
  rw [hq,hp.nodup_iff] at hnd
  have hnt : node ∉ taken := fun hm =>
    (List.nodup_cons.mp hnd).1 (List.mem_append_left _ hm)
  have hs : Counts nodes (opened edges taken) (node :: taken)
      { pass with queue := queue, visited := pass.visited + 1 } := by
    refine ⟨h.counts,fun other ho => ?_,fun other ho => ?_,hnd,by simp [h.visited]⟩
    · rw [← h.queued other ho,hq,hp.mem_iff]
    · exact h.within other (by rwa [hq,hp.mem_iff])
  have hin : ∀ other ∈ targets edges node, other ∈ nodes := by
    intro other ho
    obtain ⟨edge,hm,rfl⟩ := List.mem_map.mp ho
    exact (he edge (List.mem_of_mem_filter hm)).2
  have hc := hs.closeAll hin fun other => by
    rw [opened_cons hnt]
    omega
  have heq : (fun other => opened edges taken other - (targets edges node).count other) =
      opened edges (node :: taken) := by
    funext other
    rw [opened_cons hnt]
    omega
  rwa [heq] at hc

theorem run_ends (ho : Ordered edges taken) (hf : nodes.length ≤ taken.length + fuel) :
    ∃ final, Counts nodes (opened edges final) final (Pass.run edges fuel pass) ∧
      Ordered edges final ∧ (Pass.run edges fuel pass).queue = [] := by
  induction fuel generalizing taken pass with
  | zero =>
    have hl := (h.nodup.subperm h.within).length_le
    rw [List.length_append] at hl
    exact ⟨taken,h,ho,List.length_eq_zero_iff.mp (by change pass.queue.length = 0; omega)⟩
  | succ fuel ih =>
    rw [Pass.run]
    split
    · next hq => exact ⟨taken,h,ho,hq⟩
    · next node queue hq =>
      have hm : node ∈ taken ++ pass.queue := by simp [hq]
      have hz := (h.queued node (h.within node hm)).mp hm
      exact ih (h.take he hq) ⟨opened_eq_zero.mp hz,ho⟩ (by rw [List.length_cons]; omega)

end

/-- A pass that starts with the nodes without incoming edges takes all nodes exactly when the
graph has no cycle. -/
theorem visited_eq_length_iff (hn : nodes.Nodup) {queue : List α} (hq : queue.Nodup)
    (hm : ∀ node, node ∈ queue ↔ node ∈ nodes ∧ indegree edges node = 0)
    (hf : nodes.length ≤ fuel) :
    (Pass.run edges fuel ⟨queue,nodes.map fun node => (node,indegree edges node),0⟩).visited =
      nodes.length ↔ Acyclic edges := by
  have hin : ∀ node, opened edges [] node = indegree edges node := by simp [opened,indegree]
  have hs : Counts nodes (opened edges []) []
      ⟨queue,nodes.map fun node => (node,indegree edges node),0⟩ := by
    refine ⟨fun node hme => by rw [hin]; exact lookup_map hme _,fun node hme => ?_,
      fun node hme => ((hm node).mp hme).1,hq,rfl⟩
    rw [hin,List.nil_append,hm]
    exact ⟨And.right,fun hz => ⟨hme,hz⟩⟩
  obtain ⟨final,hc,ho,hem⟩ := run_ends he hs trivial (by simpa using hf)
  have hnd : final.Nodup := hc.nodup.of_append_left
  have hsu : ∀ node ∈ final, node ∈ nodes := fun node hme =>
    hc.within node (List.mem_append_left _ hme)
  have ht : ∀ node ∈ nodes, node ∈ final ↔ opened edges final node = 0 := by
    intro node hme
    rw [← hc.queued node hme,hem,List.append_nil]
  rw [hc.visited]
  constructor
  · intro hl node hcy
    have hp := (hnd.subperm hsu).perm_of_length_le hl.ge
    obtain ⟨next,hfi,-⟩ := Relation.TransGen.head'_iff.mp hcy
    exact (ho.before hnd (hp.mem_iff.mpr (he _ hfi).1) hcy).2 rfl
  · intro hac
    have ha : ∀ node, node ∈ nodes → node ∈ final := by
      intro node
      induction node using hac.wellFounded.induction with
      | _ node ih =>
        intro hme
        rw [ht node hme,opened_eq_zero]
        rintro ⟨src,target⟩ hed rfl
        exact ih src hed (he _ hed).1
    exact ((List.perm_ext_iff_of_nodup hnd hn).mpr fun node =>
      ⟨hsu node,ha node⟩).length_eq

/-! ## The count of the nodes taken -/

variable [LE α] [DecidableRel fun node other : α => node ≤ other]

/-- The queue is a stack: the greatest node is taken first. -/
def firstQueue (nodes : List α) (edges : List (α × α)) : List α :=
  ((nodes.filter fun node => indegree edges node = 0).insertionSort (· ≤ ·)).reverse

def visited (nodes : List α) (edges : List (α × α)) : Nat :=
  (Pass.run edges nodes.length ⟨firstQueue nodes edges,
    nodes.map fun node => (node,indegree edges node),0⟩).visited

include he in
theorem visited_iff_acyclic (hn : nodes.Nodup) :
    visited nodes edges = nodes.length ↔ Acyclic edges := by
  refine visited_eq_length_iff he hn ?_ ?_ (Nat.le_refl _)
  · exact List.nodup_reverse.mpr ((List.perm_insertionSort _ _).nodup_iff.mpr (hn.filter _))
  · intro node
    simp [firstQueue,(List.perm_insertionSort _ _).mem_iff]

end Counting

end VelaEdge.Base.Topological
