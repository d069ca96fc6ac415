import ParityGrid.Application.Planner.RepairSafety
import ParityGrid.Foundation.DigraphTrees

/-!
# Reachability of pipeline graphs

A pipeline must be one connected acyclic graph whose roots are sources and
whose sinks are terminals.
-/

namespace ParityGrid.Application

open ParityGrid.Foundation
open ParityGrid.Domain

def maxReachabilityEndpoints : Nat := 256

/-- Raised for an invalid summary. -/
def pipelineReachabilityError (message : String) : PythonError :=
  .raised (text "PipelineReachabilityError") true (text message)

/-- Raised for a node outside the connected graph. -/
def disconnectedPipelineError (message : String) : PythonError :=
  .raised (text "DisconnectedPipelineError") true (text message)

/-- Raised for a dead end. -/
def invalidPipelineTerminalError : PythonError :=
  .raised (text "InvalidPipelineTerminalError") true
    (text "pipeline graph contains a non-terminal dead end")

/-! ## Summaries -/

/-- `_validate_node_ids`. -/
def validateEndpoints (nodeIds : List NodeId) (subject : String) :
    Except PythonError Unit := do
  require (nodeIds != []) (pipelineReachabilityError
    ("reachability requires at least one " ++ subject ++ " node"))
  require (nodeIds.length ≤ maxReachabilityEndpoints)
    (pipelineReachabilityError
      (subject ++ " node identities exceed the limit"))
  require (decide nodeIds.Nodup) (pipelineReachabilityError
    (subject ++ " node identities must be unique"))

/-- `GraphReachabilitySummary`: both lists are kept in order. -/
structure GraphReachabilitySummary where
  sourceNodeIds : List NodeId
  terminalNodeIds : List NodeId

/-- `GraphReachabilitySummary(...)`. -/
def GraphReachabilitySummary.create (sources terminals : List NodeId) :
    Except PythonError GraphReachabilitySummary := do
  validateEndpoints sources "source"
  validateEndpoints terminals "terminal"
  require (sources.all fun nodeId => !terminals.contains nodeId)
    (pipelineReachabilityError
      "source and terminal identities must be disjoint")
  return {
    sourceNodeIds := sortedBy (fun nodeId => nodeId.value) sources
    terminalNodeIds := sortedBy (fun nodeId => nodeId.value) terminals }

/-- `_TERMINAL_ROLES`. -/
def terminalRoles : List NodeRole :=
  [.export, .verification]

section Reachability

variable [PythonRuntime]

/-! ## The graph -/

/-- `outgoing[node_id]`, a set. -/
def outgoingOf (document : PipelineDocument) (nodeId : NodeId) :
    List NodeId :=
  ((document.edges.filter (·.sourceNodeId = nodeId)).map
    (·.targetNodeId)).dedup

/-- `incoming[node_id]`, a set. -/
def incomingOf (document : PipelineDocument) (nodeId : NodeId) :
    List NodeId :=
  ((document.edges.filter (·.targetNodeId = nodeId)).map
    (·.sourceNodeId)).dedup

/-- `adjacent[node_id]`, a set. -/
def adjacentOf (document : PipelineDocument) (nodeId : NodeId) :
    List NodeId :=
  (outgoingOf document nodeId ++ incomingOf document nodeId).dedup

/-- `_walk`: every turn pops one node, and each of the nodes pushes at most all
nodes once. -/
def walk (document : PipelineDocument) (start : NodeId) : List NodeId :=
  explore (sortedBy fun nodeId : NodeId => nodeId.value)
    (adjacentOf document)
    (1 + document.nodeIds.length * document.nodeIds.length) [] [start]

/-- `node_ids[0]`. -/
def firstNodeId (document : PipelineDocument) : NodeId :=
  document.nodeIds.head fun empty =>
    document.nodes_ne_nil (List.map_eq_nil_iff.mp empty)

/-- `validate_graph_reachability`. -/
def validateGraphReachability (document : PipelineDocument) :
    Except PythonError GraphReachabilitySummary := do
  let _ ← topologicalNodeOrder document
  let nodeIds := document.nodeIds
  let definitions ← nodeDefinitions document
  let sources ← nodesOfRole definitions .source nodeIds
  require (sources != []) (disconnectedPipelineError
    "pipeline graph requires at least one source node")
  require (sources.all fun nodeId => incomingOf document nodeId == [])
    (disconnectedPipelineError
      "pipeline source nodes cannot have incoming dependencies")
  let roots := nodeIds.filter fun nodeId => incomingOf document nodeId == []
  let otherRoot ← roots.anyM fun nodeId => do
    return (← definitionOf definitions nodeId).role != .source
  require (!otherRoot) (disconnectedPipelineError
    "pipeline graph roots must be source nodes")
  let connected := walk document (firstNodeId document)
  require (connected.length == nodeIds.length) (disconnectedPipelineError
    "pipeline graph contains disconnected components")
  let sinks := nodeIds.filter fun nodeId => outgoingOf document nodeId == []
  let deadEnd ← sinks.anyM fun nodeId => do
    return !terminalRoles.contains (← definitionOf definitions nodeId).role
  require (!deadEnd) invalidPipelineTerminalError
  GraphReachabilitySummary.create sources sinks

/-! ## Walking -/

variable {document : PipelineDocument}

/-- One edge, in either direction. -/
def Adjacent (document : PipelineDocument) (one other : NodeId) : Prop :=
  (one, other) ∈ document.links ∨ (other, one) ∈ document.links

theorem mem_incomingOf {nodeId other : NodeId} :
    other ∈ incomingOf document nodeId ↔ (other, nodeId) ∈ document.links := by
  rw [incomingOf, List.mem_dedup]
  exact mem_parentsOf

theorem mem_outgoingOf {nodeId other : NodeId} :
    other ∈ outgoingOf document nodeId ↔ (nodeId, other) ∈ document.links := by
  simp only [outgoingOf, List.mem_dedup, PipelineDocument.links,
    List.mem_map, List.mem_filter, decide_eq_true_eq, Prod.mk.injEq]
  constructor
  · rintro ⟨edge, ⟨member, out⟩, into⟩
    exact ⟨edge, member, out, into⟩
  · rintro ⟨edge, member, out, into⟩
    exact ⟨edge, ⟨member, out⟩, into⟩

theorem mem_adjacentOf {nodeId other : NodeId} :
    other ∈ adjacentOf document nodeId ↔ Adjacent document nodeId other := by
  rw [adjacentOf, List.mem_dedup, List.mem_append, mem_outgoingOf,
    mem_incomingOf, Adjacent]

theorem adjacentOf_known {nodeId other : NodeId}
    (member : other ∈ adjacentOf document nodeId) :
    other ∈ document.nodeIds := by
  rcases mem_adjacentOf.mp member with forward | backward
  · exact (document.links_spans _ forward).2
  · exact (document.links_spans _ backward).1

/-- The walk visits the nodes that edges connect with its start. -/
theorem mem_walk {start nodeId : NodeId} (known : start ∈ document.nodeIds) :
    nodeId ∈ walk document start ↔
      Relation.ReflTransGen (Adjacent document) start nodeId := by
  rw [walk, mem_explore (sortedBy_perm _) known
    (fun _ _ _ neighbour => adjacentOf_known neighbour)
    (fun node _ => (List.subperm_of_subset (List.nodup_dedup _)
      fun _ neighbour => adjacentOf_known neighbour).length_le)]
  simp only [mem_adjacentOf]

/-- The walk visits as many nodes as there are exactly when all are connected
with its start. -/
theorem walk_length {start : NodeId} (known : start ∈ document.nodeIds)
    (complete : (walk document start).length = document.nodeIds.length)
    {nodeId : NodeId} (member : nodeId ∈ document.nodeIds) :
    Relation.ReflTransGen (Adjacent document) start nodeId := by
  have within : ∀ other ∈ walk document start,
      other ∈ document.nodeIds := by
    intro other reached
    have connected := (mem_walk known).mp reached
    rcases connected.cases_tail with rfl | ⟨_, _, last⟩
    · exact known
    · exact adjacentOf_known (mem_adjacentOf.mpr last)
  have distinct : (walk document start).Nodup := explore_nodup List.nodup_nil
  have perm := (List.subperm_of_subset distinct within).perm_of_length_le
    complete.ge
  exact (mem_walk known).mp (perm.mem_iff.mpr member)

instance : Std.Symm (Adjacent document) where
  symm _ _ := Or.symm

/-- What acceptance says of the graph: it has a source, no edge enters a source,
and any two nodes are connected. -/
theorem validateGraphReachability_eq_ok
    {summary : GraphReachabilitySummary}
    (accepted : validateGraphReachability document = .ok summary) :
    (∃ nodeId ∈ document.nodeIds, HasRole document nodeId .source) ∧
    (∀ nodeId, HasRole document nodeId .source →
      IsRoot document.links nodeId) ∧
    ∀ one ∈ document.nodeIds, ∀ other ∈ document.nodeIds,
      Relation.ReflTransGen (Adjacent document) one other := by
  simp only [validateGraphReachability, bind_eq_ok, require_eq_ok]
    at accepted
  obtain ⟨_, _, definitions, built, sources, listed, _, some_, _, rootless, _,
    _, _, _, _, complete, _⟩ := accepted
  rw [nodesOfRole_eq_ok built fun _ member => member] at listed
  cases listed
  have sourceIff : ∀ nodeId definition, Defines document nodeId definition →
      (nodeId ∈ document.nodeIds.filter (fun nodeId =>
          ((definitions.lookup nodeId).map (·.role)) == some .source) ↔
        definition.role = .source) := by
    intro nodeId definition defined
    have found := (definitionOf_eq_ok built).mpr defined
    obtain ⟨node, member, rfl, _⟩ := defined
    rw [definitionOf] at found
    split at found
    next looked =>
      cases found
      rw [List.mem_filter, looked]
      simp only [Option.map_some, beq_iff_eq, Option.some.injEq,
        and_iff_right_iff_imp]
      exact fun _ => List.mem_map.mpr ⟨node, member, rfl⟩
    next => cases found
  refine ⟨?_, ?_, ?_⟩
  · obtain ⟨nodeId, member⟩ := List.exists_mem_of_ne_nil _
      (bne_iff_ne.mp some_)
    have known := (List.mem_filter.mp member).1
    obtain ⟨definition, defined⟩ := defines_of_mem built known
    exact ⟨nodeId, known, definition, defined,
      (sourceIff nodeId definition defined).mp member⟩
  · rintro nodeId ⟨definition, defined, role⟩
    have member := (sourceIff nodeId definition defined).mpr role
    have none := eq_of_beq (List.all_eq_true.mp rootless nodeId member)
    rintro ⟨parent, other⟩ link rfl
    have entering := mem_incomingOf.mpr link
    rw [none] at entering
    cases entering
  · have known : firstNodeId document ∈ document.nodeIds :=
      List.head_mem _
    have all : ∀ nodeId ∈ document.nodeIds, Relation.ReflTransGen
        (Adjacent document) (firstNodeId document) nodeId :=
      fun _ member => walk_length known (eq_of_beq complete) member
    intro one oneKnown other otherKnown
    have back : Relation.ReflTransGen (Adjacent document) one
        (firstNodeId document) :=
      Std.Symm.symm _ _ (all one oneKnown)
    exact back.trans (all other otherKnown)

end Reachability

end ParityGrid.Application
