import ParityGrid.Application.Planner.PortValidation
import ParityGrid.Application.Planner.Reachability

/-!
# What typed ports force

Every edge raises the rank of the payload, so a pipeline with typed ports has no
cycle.  Every input is required and takes one connection, so a node that is no
source has exactly one edge into it: a connected pipeline is a tree below its
only source.
-/

namespace ParityGrid.Application

open ParityGrid.Foundation
open ParityGrid.Domain

section Shape

variable [PythonRuntime] {document : PipelineDocument}

/-! ## Ranks -/

/-- The rank of a node of the document. -/
def nodeRank (document : PipelineDocument) (nodeId : NodeId) : Nat :=
  match nodeDefinitions document with
  | .ok definitions =>
      match definitionOf definitions nodeId with
      | .ok definition => definition.rank
      | .error _ => 0
  | .error _ => 0

theorem nodeRank_eq (registered : AllRegistered document) {nodeId : NodeId}
    {definition : NodeDefinition}
    (defined : Defines document nodeId definition) :
    nodeRank document nodeId = definition.rank := by
  obtain ⟨definitions, built⟩ := nodeDefinitions_returns registered
  simp only [nodeRank, built, (definitionOf_eq_ok built).mpr defined]

/-- An accepted edge leads to a node of a higher rank. -/
theorem Joins.rank_lt {edge : PipelineEdge} {source target : NodeDefinition}
    {output : OutputPortDefinition} {input : InputPortDefinition}
    (joins : Joins document edge source target output input) :
    source.rank < target.rank := by
  have out := (NodePortSchema.mem_of_output joins.outputFound).1
  have into := (NodePortSchema.mem_of_input joins.inputFound).1
  rw [← output_rank joins.sourceDefined.known out]
  exact accepted_rank joins.targetDefined.known into joins.compatible

section Typed

variable (typed : validateTypedPorts document = .ok ())

include typed

theorem edge_rises {edge : PipelineEdge} (member : edge ∈ document.edges) :
    nodeRank document edge.sourceNodeId <
      nodeRank document edge.targetNodeId := by
  obtain ⟨registered, joined, _⟩ := validateTypedPorts_eq_ok typed
  obtain ⟨source, target, output, input, joins, _⟩ := joined edge member
  rw [nodeRank_eq registered joins.sourceDefined,
    nodeRank_eq registered joins.targetDefined]
  exact joins.rank_lt

theorem links_acyclic : Acyclic document.links := by
  apply Acyclic.of_height (nodeRank document)
  intro link member
  obtain ⟨edge, inside, rfl⟩ := List.mem_map.mp member
  exact edge_rises typed inside

/-! ## Connections -/

/-- Every input has exactly the connections it allows. -/
theorem connectionCount_eq {nodeId : NodeId} {definition : NodeDefinition}
    (defined : Defines document nodeId definition)
    {port : InputPortDefinition}
    (member : port ∈ definition.portSchema.inputs) :
    connectionCount document nodeId port.name = port.maximumConnections := by
  obtain ⟨_, joined, connected⟩ := validateTypedPorts_eq_ok typed
  obtain ⟨isRequired, single⟩ := input_single defined.known member
  have some_ := connected nodeId definition defined port member isRequired
  have positive := Nat.pos_of_ne_zero some_
  obtain ⟨edge, inside, key⟩ := List.mem_map.mp
    (List.count_pos_iff.mp positive)
  simp only [edgeTarget, Prod.mk.injEq] at key
  obtain ⟨source, target, output, input, joins, bounded⟩ := joined edge inside
  have definedTarget := joins.targetDefined
  rw [key.1] at definedTarget
  have same := defined.unique definedTarget
  subst same
  have inputMember := (NodePortSchema.mem_of_input joins.inputFound).1
  rw [key.1, key.2, (input_single defined.known inputMember).2] at bounded
  omega

/-- A node that is no source has an edge into it. -/
theorem entered_of_not_source {nodeId : NodeId}
    (known : nodeId ∈ document.nodeIds)
    (other : ¬ HasRole document nodeId .source) :
    ∃ edge ∈ document.edges, edge.targetNodeId = nodeId := by
  obtain ⟨registered, _, connected⟩ := validateTypedPorts_eq_ok typed
  obtain ⟨definitions, built⟩ := nodeDefinitions_returns registered
  obtain ⟨definition, defined⟩ := defines_of_mem built known
  have inputs : definition.portSchema.inputs ≠ [] := by
    intro empty
    exact other ⟨definition, defined, (source_iff defined.known).mpr empty⟩
  obtain ⟨port, member⟩ := List.exists_mem_of_ne_nil _ inputs
  have some_ := connected nodeId definition defined port member
    (input_single defined.known member).1
  obtain ⟨edge, inside, key⟩ := List.mem_map.mp
    (List.count_pos_iff.mp (Nat.pos_of_ne_zero some_))
  simp only [edgeTarget, Prod.mk.injEq] at key
  exact ⟨edge, inside, key.1⟩

/-- No two edges enter one node: they would enter its only input. -/
theorem edge_single {one other : PipelineEdge} (first : one ∈ document.edges)
    (second : other ∈ document.edges)
    (same : one.targetNodeId = other.targetNodeId) : one = other := by
  obtain ⟨_, joined, _⟩ := validateTypedPorts_eq_ok typed
  have targets : (document.edges.map edgeTarget).Nodup := by
    rw [List.nodup_iff_count_le_one]
    rintro ⟨nodeId, name⟩
    by_cases member : (nodeId, name) ∈ document.edges.map edgeTarget
    · obtain ⟨edge, inside, key⟩ := List.mem_map.mp member
      obtain ⟨_, _, _, input, joins, bounded⟩ := joined edge inside
      have inputMember := (NodePortSchema.mem_of_input joins.inputFound).1
      rw [(input_single joins.targetDefined.known inputMember).2] at bounded
      rw [← key]
      exact bounded
    · rw [List.count_eq_zero.mpr member]
      exact Nat.zero_le 1
  refine List.inj_on_of_nodup_map targets first second ?_
  obtain ⟨_, target, _, input, joins, _⟩ := joined one first
  obtain ⟨_, target', _, input', joins', _⟩ := joined other second
  have defined := joins'.targetDefined
  rw [← same] at defined
  have target_eq := joins.targetDefined.unique defined
  subst target_eq
  obtain ⟨member, named⟩ := NodePortSchema.mem_of_input joins.inputFound
  obtain ⟨member', named'⟩ := NodePortSchema.mem_of_input joins'.inputFound
  have input_eq := input_alone joins.targetDefined.known member member'
  rw [edgeTarget, edgeTarget, ← named, ← named', same, input_eq]

/-! ## Repairs -/

/-- The only way to a repair effect is an edge from an approval. -/
theorem effect_approved {nodeId : NodeId}
    (effect : HasRole document nodeId .repairEffect) :
    ¬ Unapproved document nodeId := by
  obtain ⟨_, joined, _⟩ := validateTypedPorts_eq_ok typed
  obtain ⟨definition, defined, role⟩ := effect
  have known : nodeId ∈ document.nodeIds := by
    obtain ⟨node, member, same, _⟩ := defined
    exact List.mem_map.mpr ⟨node, member, same⟩
  have noSource : ¬ HasRole document nodeId .source := by
    rintro ⟨other, definedOther, source⟩
    rw [← defined.unique definedOther, role] at source
    cases source
  intro reached
  rcases (isOpen_iff.mp reached).2 with atRoot | ⟨parent, link, openParent⟩
  · obtain ⟨edge, inside, into⟩ := entered_of_not_source typed known noSource
    exact atRoot _ (List.mem_map.mpr ⟨edge, inside, rfl⟩) into
  · obtain ⟨edge, inside, ends⟩ := List.mem_map.mp link
    rw [Prod.mk.injEq] at ends
    obtain ⟨source, target, output, input, joins, _⟩ := joined edge inside
    have definedTarget := joins.targetDefined
    rw [ends.2] at definedTarget
    have same := defined.unique definedTarget
    subst same
    have approval := effect_accepts defined.known joins.sourceDefined.known
      role (NodePortSchema.mem_of_input joins.inputFound).1
      (NodePortSchema.mem_of_output joins.outputFound).1 joins.compatible
    have definedSource := joins.sourceDefined
    rw [ends.1] at definedSource
    exact (isOpen_iff.mp openParent).1 ⟨source, definedSource, approval⟩

/-! ## The tree -/

/-- The pipeline is a tree below its only source. -/
def IsPipelineTree (document : PipelineDocument) : Prop :=
  ∃ (root : NodeId) (known : root ∈ document.nodeIds),
    (∀ nodeId, HasRole document nodeId .source ↔ nodeId = root) ∧
    IsRootedTree document.nodeIds document.edges
      (fun edge => edge.sourceNodeId) (fun edge => edge.targetNodeId)
      ⟨root, known⟩ ∧
    document.edges.length + 1 = document.nodes.length

theorem pipeline_isTree {summary : GraphReachabilitySummary}
    (reachable : validateGraphReachability document = .ok summary) :
    IsPipelineTree document := by
  obtain ⟨⟨root, known, source⟩, rootless, connected⟩ :=
    validateGraphReachability_eq_ok reachable
  have single : ∀ one other node, (one, node) ∈ document.links →
      (other, node) ∈ document.links → one = other := by
    intro one other node first second
    obtain ⟨edge, inside, ends⟩ := List.mem_map.mp first
    obtain ⟨edge', inside', ends'⟩ := List.mem_map.mp second
    rw [Prod.mk.injEq] at ends ends'
    have same := edge_single typed inside inside'
      (ends.2.trans ends'.2.symm)
    rw [← ends.1, ← ends'.1, same]
  have free := rootless root source
  have reached : ∀ nodeId ∈ document.nodeIds, Relation.ReflTransGen
      (fun one other => (one, other) ∈ document.links) root nodeId := by
    intro nodeId member
    exact reaches_of_connected single
      (fun node link => free _ link rfl) (connected root known nodeId member)
  have entered : ∀ nodeId ∈ document.nodeIds, nodeId ≠ root →
      ∃ edge ∈ document.edges, edge.targetNodeId = nodeId := by
    intro nodeId member apart
    rcases (reached nodeId member).cases_tail with same | ⟨parent, _, link⟩
    · exact absurd same apart
    · obtain ⟨edge, inside, ends⟩ := List.mem_map.mp link
      rw [Prod.mk.injEq] at ends
      exact ⟨edge, inside, ends.2⟩
  have unique : ∀ one ∈ document.edges, ∀ other ∈ document.edges,
      one.targetNodeId = other.targetNodeId → one = other :=
    fun one first other second => edge_single typed first second
  refine ⟨root, known, ?_, ?_, ?_⟩
  · intro nodeId
    constructor
    · intro other
      by_contra apart
      obtain ⟨definition, ⟨node, member, named, _⟩, _⟩ := id other
      obtain ⟨edge, inside, into⟩ := entered nodeId
        (List.mem_map.mpr ⟨node, member, named⟩) apart
      exact rootless nodeId other _ (List.mem_map.mpr ⟨edge, inside, rfl⟩)
        into
    · rintro rfl
      exact source
  · exact isRootedTree_of_single known (nodeRank document)
      (fun edge inside => edge_rises typed inside)
      (fun edge inside => (document.edge_known inside).1) unique entered
  · have count := edges_length_of_single known document.nodeIds_nodup
      document.edges_nodup (fun edge inside => (document.edge_known inside).2)
      unique (fun edge inside => free _ (List.mem_map.mpr ⟨edge, inside, rfl⟩))
      entered
    rw [count, PipelineDocument.nodeIds, List.length_map]

end Typed

/-- What a document with registered nodes and typed ports is: acyclic, fed at
every input, safe to repair, and a tree when it is connected. -/
theorem typedPorts_force_shape (document : PipelineDocument)
    (_registered : validateRegisteredNodes document = .ok ())
    (typed : validateTypedPorts document = .ok ()) :
    ¬ HasCycle document.links ∧
    (∀ nodeId ∈ document.nodeIds, ¬ HasRole document nodeId .source →
      ∃ edge ∈ document.edges, edge.targetNodeId = nodeId) ∧
    (∀ nodeId definition, Defines document nodeId definition →
      ∀ port ∈ definition.portSchema.inputs,
        connectionCount document nodeId port.name =
          port.maximumConnections) ∧
    (∃ summary, validateRepairSafety document = .ok summary) ∧
    ((∃ summary, validateGraphReachability document = .ok summary) →
      IsPipelineTree document) := by
  have acyclic := links_acyclic typed
  refine ⟨(acyclic_iff_not_hasCycle document.links_spans).mp acyclic, ?_, ?_,
    ?_, ?_⟩
  · exact fun nodeId known other => entered_of_not_source typed known other
  · exact fun nodeId definition defined port member =>
      connectionCount_eq typed defined member
  · exact (validateRepairSafety_iff acyclic
      (validateTypedPorts_eq_ok typed).1).mpr
        fun nodeId effect => effect_approved typed effect
  · rintro ⟨summary, reachable⟩
    exact pipeline_isTree typed reachable

end Shape

section Sample

attribute [local instance] asciiRuntime

theorem exportKind_valid :
    validateStableText .nodeKind (text "export.parquet") = .ok () := by
  decide

theorem generateKind_valid :
    validateStableText .nodeKind (text "repair.generate") = .ok () := by
  decide

theorem normalizeKind_valid :
    validateStableText .nodeKind (text "transform.normalize") = .ok () := by
  decide

theorem reconcileKind_valid :
    validateStableText .nodeKind (text "reconcile.target") = .ok () := by
  decide

theorem sourceKind_valid :
    validateStableText .nodeKind (text "source.csv") = .ok () := by
  decide

theorem verifyKind_valid :
    validateStableText .nodeKind (text "verify.target") = .ok () := by
  decide

def nodApply : PipelineNodeSpecification :=
  plainNode "nod_apply" "repair.apply" (by decide +kernel) applyKind_valid

def nodApprove : PipelineNodeSpecification :=
  plainNode "nod_approve" "repair.approval" approveNode_valid approvalKind_valid

def nodExport : PipelineNodeSpecification :=
  plainNode "nod_export" "export.parquet" (by decide +kernel) exportKind_valid

def nodGenerate : PipelineNodeSpecification :=
  plainNode "nod_generate" "repair.generate" (by decide +kernel)
    generateKind_valid

def nodNormalize : PipelineNodeSpecification :=
  plainNode "nod_normalize" "transform.normalize" (by decide +kernel)
    normalizeKind_valid

def nodReconcile : PipelineNodeSpecification :=
  plainNode "nod_reconcile" "reconcile.target" (by decide +kernel)
    reconcileKind_valid

def nodSource : PipelineNodeSpecification :=
  plainNode "nod_source" "source.csv" (by decide +kernel) sourceKind_valid

def nodVerify : PipelineNodeSpecification :=
  plainNode "nod_verify" "verify.target" (by decide +kernel) verifyKind_valid

/-- Read, normalize, export, and repair after an approval. -/
def repairPipeline : PipelineDocument where
  nodes := [nodApply, nodApprove, nodExport, nodGenerate, nodNormalize,
    nodReconcile, nodSource, nodVerify]
  edges := [
    plainEdge nodApply repairResultPort nodVerify repairResultPort,
    plainEdge nodApprove approvedPlanPort nodApply approvedPlanPort,
    plainEdge nodGenerate repairPlanPort nodApprove repairPlanPort,
    plainEdge nodNormalize recordsPort nodExport recordsPort,
    plainEdge nodNormalize recordsPort nodReconcile recordsPort,
    plainEdge nodReconcile reconciliationPort nodGenerate reconciliationPort,
    plainEdge nodSource recordsPort nodNormalize recordsPort]
  resourcePolicy := ⟨[], validateDocumentObject_nil⟩
  layout := []
  schemaVersion := 1
  canonicalFormatVersion := 1
  valid := by decide +kernel
  nodesOrdered := by decide +kernel
  edgesOrdered := by decide +kernel
  layoutOrdered := emptyLayout_ordered

theorem repairPipeline_shape :
    (∃ summary, validateRepairSafety repairPipeline = .ok summary) ∧
      IsPipelineTree repairPipeline := by
  have shape := typedPorts_force_shape repairPipeline (by decide)
    (by decide)
  exact ⟨shape.2.2.2.1,
    shape.2.2.2.2 (returns_of_isSome (by decide))⟩

end Sample

end ParityGrid.Application
