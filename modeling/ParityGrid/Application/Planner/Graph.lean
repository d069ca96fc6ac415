import ParityGrid.Application.Planner.Documents
import ParityGrid.Foundation.DigraphOrder

/-!
# The deterministic node order

Nodes are taken from a heap in order of their identities, each after the
sources of all its edges.
-/

namespace ParityGrid.Application

open ParityGrid.Foundation
open ParityGrid.Domain

def maxTopologicalNodes : Nat := 256

/-- Raised for an invalid order. -/
def pipelineGraphError (message : String) : PythonError :=
  .raised (text "PipelineGraphError") true (text message)

/-- Raised when a cycle remains. -/
def pipelineCycleError : PythonError :=
  .raised (text "PipelineCycleError") true
    (text "pipeline graph contains a directed cycle")

/-- The checks of `TopologicalOrder.__post_init__`. -/
def validateTopologicalOrder (nodeIds : List NodeId) :
    Except PythonError Unit := do
  require (nodeIds != [])
    (pipelineGraphError "topological order requires at least one node")
  require (nodeIds.length ≤ maxTopologicalNodes)
    (pipelineGraphError "topological order exceeds the node limit")
  require (decide nodeIds.Nodup)
    (pipelineGraphError "topological node identities must be unique")

/-- One complete order of unique node identities. -/
structure TopologicalOrder where
  nodeIds : List NodeId
  valid : validateTopologicalOrder nodeIds = .ok ()

/-- `TopologicalOrder(...)`. -/
def TopologicalOrder.create (nodeIds : List NodeId) :
    Except PythonError TopologicalOrder :=
  match valid : validateTopologicalOrder nodeIds with
  | .ok () => .ok ⟨nodeIds, valid⟩
  | .error error => .error error

theorem TopologicalOrder.create_eq_ok {nodeIds : List NodeId}
    {order : TopologicalOrder}
    (created : TopologicalOrder.create nodeIds = .ok order) :
    order.nodeIds = nodeIds := by
  simp only [create] at created
  split at created
  · cases created
    rfl
  · cases created

theorem TopologicalOrder.create_returns {nodeIds : List NodeId}
    (nonempty : nodeIds ≠ []) (short : nodeIds.length ≤ maxTopologicalNodes)
    (distinct : nodeIds.Nodup) :
    ∃ order, TopologicalOrder.create nodeIds = .ok order := by
  have valid : validateTopologicalOrder nodeIds = .ok () := by
    simp only [validateTopologicalOrder, check_bind_eq_ok, require_eq_ok,
      bne_iff_ne, decide_eq_true_eq]
    exact ⟨nonempty, short, distinct⟩
  simp only [create]
  split
  · exact ⟨_, rfl⟩
  next error invalid =>
    rw [valid] at invalid
    cases invalid

section Order

variable [PythonRuntime]

/-- The nodes that the loop pops from its heap, in order. -/
def poppedNodes (document : PipelineDocument) : List NodeId :=
  orderBy (sortedBy fun nodeId : NodeId => nodeId.value) document.nodeIds
    document.links

/-- `topological_node_order`. -/
def topologicalNodeOrder (document : PipelineDocument) :
    Except PythonError TopologicalOrder := do
  let ordered := poppedNodes document
  require (ordered.length == document.nodeIds.length) pipelineCycleError
  TopologicalOrder.create ordered

/-! ## Every document -/

namespace PipelineDocument

variable (document : PipelineDocument)

/-- The graph joins nodes of the document. -/
theorem links_spans : Spans document.nodeIds document.links := by
  intro link member
  obtain ⟨edge, inside, rfl⟩ := List.mem_map.mp member
  exact document.edge_known inside

end PipelineDocument

variable {document : PipelineDocument}

theorem poppedNodes_complete :
    (poppedNodes document).length = document.nodeIds.length ↔
      Acyclic document.links :=
  orderBy_length (sortedBy_perm _) document.nodeIds_nodup
    document.links_spans

/-- Without a cycle the order is returned, with every source first. -/
theorem topologicalNodeOrder_returns (acyclic : Acyclic document.links) :
    ∃ order, topologicalNodeOrder document = .ok order ∧
      order.nodeIds = poppedNodes document := by
  have complete := poppedNodes_complete.mpr acyclic
  have nonempty : poppedNodes document ≠ [] := by
    intro empty
    rw [empty, List.length_nil] at complete
    have none := List.eq_nil_of_length_eq_zero complete.symm
    exact document.nodes_ne_nil (List.map_eq_nil_iff.mp none)
  have short : (poppedNodes document).length ≤ maxTopologicalNodes := by
    rw [complete, PipelineDocument.nodeIds, List.length_map]
    exact document.nodes_length
  obtain ⟨order, created⟩ := TopologicalOrder.create_returns nonempty short
    (orderBy_nodup (sortedBy_perm _) document.nodeIds_nodup
      document.links_spans)
  refine ⟨order, ?_, TopologicalOrder.create_eq_ok created⟩
  simp only [topologicalNodeOrder, check_bind_eq_ok, require_eq_ok,
    beq_iff_eq]
  exact ⟨complete, created⟩

/-- A cycle is what raises. -/
theorem topologicalNodeOrder_raises (cyclic : ¬ Acyclic document.links) :
    topologicalNodeOrder document = .error pipelineCycleError := by
  have incomplete : ((poppedNodes document).length ==
      document.nodeIds.length) = false := by
    rw [beq_eq_false_iff_ne]
    exact fun complete => cyclic (poppedNodes_complete.mp complete)
  simp only [topologicalNodeOrder, incomplete, require_false, error_bind]

theorem topologicalNodeOrder_eq_ok {order : TopologicalOrder}
    (ordered : topologicalNodeOrder document = .ok order) :
    Acyclic document.links ∧ order.nodeIds = poppedNodes document := by
  simp only [topologicalNodeOrder, check_bind_eq_ok, require_eq_ok,
    beq_iff_eq] at ordered
  exact ⟨poppedNodes_complete.mp ordered.1,
    TopologicalOrder.create_eq_ok ordered.2⟩

/-- The popped nodes are a topological order, and the least by identity. -/
theorem poppedNodes_isTopological (acyclic : Acyclic document.links) :
    IsTopological document.nodeIds document.links (poppedNodes document) :=
  orderBy_isTopological (sortedBy_perm _) document.nodeIds_nodup
    document.links_spans acyclic

theorem poppedNodes_least {other : List NodeId}
    (topological : IsTopological document.nodeIds document.links other) :
    (poppedNodes document).map (·.value) ≤ other.map (·.value) :=
  orderBy_le (fun _ _ _ _ same => Identifier.ext same) document.nodeIds_nodup
    document.links_spans topological

/-- A cycle and nothing else raises; otherwise the returned order is the
lexicographically least of the orders in which every edge goes forward. -/
theorem topologicalNodeOrder_least (document : PipelineDocument) :
    (topologicalNodeOrder document = .error pipelineCycleError ↔
      HasCycle document.links) ∧
    (¬ HasCycle document.links →
      ∃ order, topologicalNodeOrder document = .ok order) ∧
    ∀ order, topologicalNodeOrder document = .ok order →
      IsTopological document.nodeIds document.links order.nodeIds ∧
      ∀ other, IsTopological document.nodeIds document.links other →
        order.nodeIds.map (·.value) ≤ other.map (·.value) := by
  have acyclic := acyclic_iff_not_hasCycle document.links_spans
  refine ⟨⟨?_, ?_⟩, ?_, ?_⟩
  · intro raised
    by_contra unclosed
    obtain ⟨order, returned, _⟩ :=
      topologicalNodeOrder_returns (acyclic.mpr unclosed)
    rw [returned] at raised
    cases raised
  · intro closed
    exact topologicalNodeOrder_raises
      (fun ended => acyclic.mp ended closed)
  · intro unclosed
    obtain ⟨order, returned, _⟩ :=
      topologicalNodeOrder_returns (acyclic.mpr unclosed)
    exact ⟨order, returned⟩
  · intro order returned
    obtain ⟨ended, same⟩ := topologicalNodeOrder_eq_ok returned
    rw [same]
    exact ⟨poppedNodes_isTopological ended,
      fun other topological => poppedNodes_least topological⟩

end Order

end ParityGrid.Application
