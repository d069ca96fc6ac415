import ParityGrid.Application.Planner.BuiltinNodes
import ParityGrid.Application.Planner.Graph
import ParityGrid.Foundation.DigraphPaths

/-!
# Approval before effect

One pass along the topological order marks the nodes that a path without an
approval reaches, and rejects a marked repair effect.
-/

namespace ParityGrid.Application

open ParityGrid.Foundation
open ParityGrid.Domain

def maxRepairSafetyNodes : Nat := 256

/-- Raised for an invalid summary. -/
def repairSafetyError (message : String) : PythonError :=
  .raised (text "RepairSafetyError") true (text message)

/-- Raised for a repair effect on a path without an approval. -/
def unapprovedRepairEffectError : PythonError :=
  .raised (text "UnapprovedRepairEffectError") true
    (text "repair effect requires prior approval on every incoming path")

/-! ## Summaries -/

/-- The checks of `RepairSafetySummary.__post_init__`. -/
def validateSafetySummary (approvals effects : List NodeId) :
    Except PythonError Unit := do
  require (decide approvals.Nodup)
    (repairSafetyError "repair approval nodes must be unique")
  require (decide effects.Nodup)
    (repairSafetyError "repair effect nodes must be unique")
  require (approvals.length + effects.length ≤ maxRepairSafetyNodes)
    (repairSafetyError "repair safety summary exceeds the node limit")
  require (approvals.all fun nodeId => !effects.contains nodeId)
    (repairSafetyError "repair approval and effect nodes must be disjoint")

/-- `RepairSafetySummary`: both lists are kept in order. -/
structure RepairSafetySummary where
  approvalNodeIds : List NodeId
  repairEffectNodeIds : List NodeId

/-- `RepairSafetySummary(...)`. -/
def RepairSafetySummary.create (approvals effects : List NodeId) :
    Except PythonError RepairSafetySummary := do
  validateSafetySummary approvals effects
  return {
    approvalNodeIds := sortedBy (fun nodeId => nodeId.value) approvals
    repairEffectNodeIds := sortedBy (fun nodeId => nodeId.value) effects }

/-! ## The pass -/

/-- A search by tests that do not raise. -/
theorem anyM_eq_ok {ε α : Type} {p : α → Except ε Bool} {q : α → Bool}
    {values : List α} (agrees : ∀ value ∈ values, p value = .ok (q value)) :
    values.anyM p = .ok (values.any q) := by
  induction values with
  | nil => rfl
  | cons value rest ih =>
      rw [List.forall_mem_cons] at agrees
      rw [List.anyM, agrees.1, ok_bind, List.any_cons]
      cases q value with
      | true => rfl
      | false => exact ih agrees.2

section Pass

variable [PythonRuntime]

/-- `incoming[node_id]`: one parent for each edge. -/
def parentsOf (document : PipelineDocument) (nodeId : NodeId) : List NodeId :=
  (document.edges.filter (·.targetNodeId = nodeId)).map (·.sourceNodeId)

/-- `has_unapproved_path[parent]`. -/
def unapprovedPathOf (paths : List (NodeId × Bool)) (parent : NodeId) :
    Except PythonError Bool :=
  match paths.lookup parent with
  | some path => .ok path
  | none => .error .keyError

/-- The value that the loop stores for one node. -/
def hasUnapprovedPath (role : NodeRole) (parents : List NodeId)
    (paths : List (NodeId × Bool)) : Except PythonError Bool :=
  if role = .approval then .ok false
  else if parents = [] then .ok true
  else parents.anyM (unapprovedPathOf paths)

/-- The loop of `validate_repair_safety`; the dictionary so far. -/
def markUnapproved (document : PipelineDocument)
    (definitions : List (NodeId × NodeDefinition)) :
    List NodeId → List (NodeId × Bool) → Except PythonError Unit
  | [], _ => .ok ()
  | nodeId :: rest, paths => do
      let definition ← definitionOf definitions nodeId
      let unapproved ← hasUnapprovedPath definition.role
        (parentsOf document nodeId) paths
      require (definition.role != .repairEffect || !unapproved)
        unapprovedRepairEffectError
      markUnapproved document definitions rest ((nodeId, unapproved) :: paths)

/-- The nodes of one role, in order. -/
def nodesOfRole (definitions : List (NodeId × NodeDefinition))
    (role : NodeRole) (nodeIds : List NodeId) :
    Except PythonError (List NodeId) :=
  nodeIds.filterM fun nodeId => do
    return (← definitionOf definitions nodeId).role == role

/-- `validate_repair_safety`. -/
def validateRepairSafety (document : PipelineDocument) :
    Except PythonError RepairSafetySummary := do
  let order ← topologicalNodeOrder document
  let definitions ← nodeDefinitions document
  markUnapproved document definitions order.nodeIds []
  RepairSafetySummary.create
    (← nodesOfRole definitions .approval order.nodeIds)
    (← nodesOfRole definitions .repairEffect order.nodeIds)

/-! ## What is marked -/

variable {document : PipelineDocument}

/-- A path without an approval reaches the node. -/
def Unapproved (document : PipelineDocument) (nodeId : NodeId) : Prop :=
  IsOpen document.links (fun other => HasRole document other .approval) nodeId

theorem mem_parentsOf {nodeId parent : NodeId} :
    parent ∈ parentsOf document nodeId ↔
      (parent, nodeId) ∈ document.links := by
  simp only [parentsOf, PipelineDocument.links, List.mem_map,
    List.mem_filter, decide_eq_true_eq, Prod.mk.injEq]
  constructor
  · rintro ⟨edge, ⟨member, into⟩, out⟩
    exact ⟨edge, member, out, into⟩
  · rintro ⟨edge, member, out, into⟩
    exact ⟨edge, ⟨member, into⟩, out⟩

theorem isRoot_iff {nodeId : NodeId} :
    IsRoot document.links nodeId ↔ parentsOf document nodeId = [] := by
  rw [List.eq_nil_iff_forall_not_mem]
  constructor
  · intro atRoot parent member
    exact atRoot _ (mem_parentsOf.mp member) rfl
  · rintro none ⟨parent, other⟩ member rfl
    exact none parent (mem_parentsOf.mpr member)

/-- The dictionary says of each node in it whether a path without an approval
reaches it. -/
def Marks (document : PipelineDocument) (nodeIds : List NodeId)
    (paths : List (NodeId × Bool)) : Prop :=
  ∀ nodeId ∈ nodeIds, ∃ unapproved, paths.lookup nodeId = some unapproved ∧
    (unapproved = true ↔ Unapproved document nodeId)

/-- The value of a node whose parents are marked. -/
theorem hasUnapprovedPath_spec {nodeIds : List NodeId}
    {paths : List (NodeId × Bool)} (marks : Marks document nodeIds paths)
    {nodeId : NodeId} {definition : NodeDefinition}
    (defined : Defines document nodeId definition)
    (before : ∀ parent ∈ parentsOf document nodeId, parent ∈ nodeIds) :
    ∃ unapproved, hasUnapprovedPath definition.role
        (parentsOf document nodeId) paths = .ok unapproved ∧
      (unapproved = true ↔ Unapproved document nodeId) := by
  have guard : HasRole document nodeId .approval ↔
      definition.role = .approval := by
    constructor
    · rintro ⟨other, definedOther, role⟩
      rwa [defined.unique definedOther]
    · exact fun role => ⟨definition, defined, role⟩
  rw [Unapproved, isOpen_iff, guard, isRoot_iff, hasUnapprovedPath]
  by_cases approval : definition.role = .approval
  · exact ⟨false, by simp [approval], by simp [approval]⟩
  by_cases root : parentsOf document nodeId = []
  · exact ⟨true, by simp [approval, root], by simp [approval, root]⟩
  have agrees : ∀ parent ∈ parentsOf document nodeId,
      unapprovedPathOf paths parent =
        .ok ((paths.lookup parent).getD false) := by
    intro parent member
    obtain ⟨unapproved, found, _⟩ := marks parent (before parent member)
    rw [unapprovedPathOf, found, Option.getD_some]
  refine ⟨(parentsOf document nodeId).any
    fun parent => (paths.lookup parent).getD false, ?_, ?_⟩
  · rw [if_neg approval, if_neg root, anyM_eq_ok agrees]
  · rw [List.any_eq_true]
    constructor
    · rintro ⟨parent, member, marked⟩
      obtain ⟨unapproved, found, spec⟩ := marks parent (before parent member)
      rw [found, Option.getD_some] at marked
      exact ⟨approval, .inr ⟨parent, mem_parentsOf.mp member,
        spec.mp marked⟩⟩
    · rintro ⟨_, none | ⟨parent, edge, reached⟩⟩
      · exact absurd none root
      · have member := mem_parentsOf.mpr edge
        obtain ⟨unapproved, found, spec⟩ := marks parent (before parent member)
        refine ⟨parent, member, ?_⟩
        rw [found, Option.getD_some]
        exact spec.mpr reached

theorem Marks.cons {nodeIds : List NodeId} {paths : List (NodeId × Bool)}
    (marks : Marks document nodeIds paths) {nodeId : NodeId}
    {unapproved : Bool}
    (spec : unapproved = true ↔ Unapproved document nodeId) :
    Marks document (nodeIds ++ [nodeId]) ((nodeId, unapproved) :: paths) := by
  intro other member
  by_cases same : other = nodeId
  · subst same
    exact ⟨unapproved, by simp, spec⟩
  · have older : other ∈ nodeIds := by
      simpa [same] using member
    obtain ⟨value, found, valueSpec⟩ := marks other older
    refine ⟨value, ?_, valueSpec⟩
    rw [List.lookup_cons, beq_eq_false_iff_ne.mpr same]
    exact found

/-- The loop passes exactly when no repair effect is reached unapproved; each
node comes after its parents, so their values are there. -/
theorem markUnapproved_iff {definitions : List (NodeId × NodeDefinition)}
    (built : nodeDefinitions document = .ok definitions)
    {before rest : List NodeId}
    (topological : IsTopological document.nodeIds document.links
      (before ++ rest))
    {paths : List (NodeId × Bool)} (marks : Marks document before paths) :
    markUnapproved document definitions rest paths = .ok () ↔
      ∀ nodeId ∈ rest, HasRole document nodeId .repairEffect →
        ¬ Unapproved document nodeId := by
  induction rest generalizing before paths with
  | nil => simp [markUnapproved]
  | cons nodeId rest ih =>
      have known : nodeId ∈ document.nodeIds :=
        topological.perm.mem_iff.mp (by simp)
      obtain ⟨definition, found⟩ := definitionOf_returns built known
      have defined := (definitionOf_eq_ok built).mp found
      have parents : ∀ parent ∈ parentsOf document nodeId,
          parent ∈ before := fun parent member =>
        topological.predecessor document.nodeIds_nodup
          (mem_parentsOf.mp member)
      obtain ⟨unapproved, value, spec⟩ :=
        hasUnapprovedPath_spec marks defined parents
      have effect : HasRole document nodeId .repairEffect ↔
          definition.role = .repairEffect := by
        constructor
        · rintro ⟨other, definedOther, role⟩
          rwa [defined.unique definedOther]
        · exact fun role => ⟨definition, defined, role⟩
      have ordered : IsTopological document.nodeIds document.links
          (before ++ [nodeId] ++ rest) := by simpa using topological
      have later := ih ordered (marks.cons spec)
      rw [markUnapproved, found, ok_bind, value, ok_bind, check_bind_eq_ok,
        require_eq_ok, later, List.forall_mem_cons, effect, ← spec]
      refine and_congr_left fun _ => ?_
      by_cases isEffect : definition.role = .repairEffect <;>
        simp [isEffect]

/-! ## The summary -/

theorem nodesOfRole_eq_ok {definitions : List (NodeId × NodeDefinition)}
    (built : nodeDefinitions document = .ok definitions) {role : NodeRole}
    {nodeIds : List NodeId}
    (known : ∀ nodeId ∈ nodeIds, nodeId ∈ document.nodeIds) :
    nodesOfRole definitions role nodeIds =
      .ok (nodeIds.filter fun nodeId =>
        ((definitions.lookup nodeId).map (·.role)) == some role) := by
  apply filterM_eq_ok
  intro nodeId member
  obtain ⟨definition, found⟩ := definitionOf_returns built
    (known nodeId member)
  rw [found, ok_bind]
  rw [definitionOf] at found
  split at found
  next other looked =>
    cases found
    rw [looked]
    rfl
  next => cases found

/-- Approvals and effects are different nodes of one order. -/
theorem safetySummary_returns {definitions : List (NodeId × NodeDefinition)}
    (built : nodeDefinitions document = .ok definitions)
    {nodeIds : List NodeId} (distinct : nodeIds.Nodup)
    (known : ∀ nodeId ∈ nodeIds, nodeId ∈ document.nodeIds) :
    ∃ summary, (do
      RepairSafetySummary.create
        (← nodesOfRole definitions .approval nodeIds)
        (← nodesOfRole definitions .repairEffect nodeIds)) =
          .ok summary := by
  rw [nodesOfRole_eq_ok built known, nodesOfRole_eq_ok built known, ok_bind,
    ok_bind]
  set hasRole : NodeRole → NodeId → Bool := fun role nodeId =>
    ((definitions.lookup nodeId).map (·.role)) == some role with hasRole_def
  have apart : ∀ nodeId, hasRole .approval nodeId →
      hasRole .repairEffect nodeId = false := by
    intro nodeId approval
    have role := eq_of_beq approval
    simp [hasRole_def, role]
  have bounded : (nodeIds.filter (hasRole .approval)).length +
      (nodeIds.filter (hasRole .repairEffect)).length ≤
        maxRepairSafetyNodes := by
    have all : nodeIds.length ≤ document.nodeIds.length :=
      (List.subperm_of_subset distinct known).length_le
    have limit : document.nodeIds.length ≤ maxPipelineNodes := by
      rw [PipelineDocument.nodeIds, List.length_map]
      exact document.nodes_length
    have others : (nodeIds.filter (hasRole .repairEffect)).length ≤
        (nodeIds.filter fun nodeId => !hasRole .approval nodeId).length := by
      apply List.Sublist.length_le
      apply List.monotone_filter_right
      intro nodeId effect
      cases approval : hasRole .approval nodeId with
      | false => rfl
      | true =>
          rw [apart nodeId approval] at effect
          cases effect
    have split := List.length_eq_length_filter_add (l := nodeIds)
      (hasRole .approval)
    have limits : maxPipelineNodes ≤ maxRepairSafetyNodes := by decide
    omega
  have valid : validateSafetySummary (nodeIds.filter (hasRole .approval))
      (nodeIds.filter (hasRole .repairEffect)) = .ok () := by
    simp only [validateSafetySummary, check_bind_eq_ok, require_eq_ok,
      decide_eq_true_eq, List.all_eq_true, Bool.not_eq_true',
      List.contains_eq_mem, decide_eq_false_iff_not, List.mem_filter, not_and,
      Bool.not_eq_true]
    exact ⟨distinct.filter _, distinct.filter _, bounded,
      fun nodeId member _ => apart nodeId member.2⟩
  exact ⟨_, by rw [RepairSafetySummary.create, valid, ok_bind]; rfl⟩

/-- On acyclic documents of registered kinds the check accepts exactly when no
repair effect is reached unapproved. -/
theorem validateRepairSafety_iff (acyclic : Acyclic document.links)
    (registered : AllRegistered document) :
    (∃ summary, validateRepairSafety document = .ok summary) ↔
      ∀ nodeId, HasRole document nodeId .repairEffect →
        ¬ Unapproved document nodeId := by
  obtain ⟨order, ordered, same⟩ := topologicalNodeOrder_returns acyclic
  obtain ⟨definitions, built⟩ := nodeDefinitions_returns registered
  have topological := poppedNodes_isTopological acyclic
  rw [← same] at topological
  have unmarked : Marks document [] [] := by simp [Marks]
  have loop := markUnapproved_iff built (by simpa using topological) unmarked
  have within : (∀ nodeId ∈ order.nodeIds,
      HasRole document nodeId .repairEffect →
        ¬ Unapproved document nodeId) ↔
      ∀ nodeId, HasRole document nodeId .repairEffect →
        ¬ Unapproved document nodeId := by
    constructor
    · intro each nodeId effect
      obtain ⟨definition, ⟨node, member, rfl, _⟩, _⟩ := id effect
      exact each _ (topological.perm.mem_iff.mpr
        (List.mem_map.mpr ⟨node, member, rfl⟩)) effect
    · exact fun all nodeId _ => all nodeId
  rw [← within, ← loop]
  simp only [validateRepairSafety, ordered, built, ok_bind, check_bind_eq_ok]
  constructor
  · rintro ⟨summary, passed, _⟩
    exact passed
  · intro passed
    obtain ⟨summary, returned⟩ := safetySummary_returns built
      (topological.perm.nodup_iff.mpr document.nodeIds_nodup)
      (fun nodeId => topological.perm.mem_iff.mp)
    exact ⟨summary, passed, returned⟩

/-- Acceptance is a statement about all paths: an approval stands on each path
from a root to a repair effect. -/
theorem repairSafety_iff_paths (document : PipelineDocument)
    (acyclic : ¬ HasCycle document.links)
    (registered : AllRegistered document) :
    (∃ summary, validateRepairSafety document = .ok summary) ↔
      ∀ path root effect, IsPath document.links path root effect →
        IsRoot document.links root →
        HasRole document effect .repairEffect →
        ∃ approval ∈ path, HasRole document approval .approval := by
  have ended := (acyclic_iff_not_hasCycle document.links_spans).mpr acyclic
  rw [validateRepairSafety_iff ended registered]
  constructor
  · intro safe path root effect leads atRoot isEffect
    by_contra none
    refine safe effect isEffect ⟨path, root, leads, atRoot, ?_⟩
    intro other member approval
    exact none ⟨other, member, approval⟩
  · rintro guarded effect isEffect ⟨path, root, leads, atRoot, unguarded⟩
    obtain ⟨approval, member, isApproval⟩ :=
      guarded path root effect leads atRoot isEffect
    exact unguarded approval member isApproval

end Pass

section Sample

attribute [local instance] asciiRuntime

/-- A node with an empty configuration. -/
def plainNode (name kind : String)
    (validId : validateIdentifier .node (text name) = .ok () := by
      decide +kernel)
    (validKind : validateStableText .nodeKind (text kind) = .ok () := by
      decide +kernel) : PipelineNodeSpecification where
  nodeId := ⟨text name, validId⟩
  kind := ⟨text kind, validKind⟩
  configurationVersion := 1
  configuration := ⟨[], validateDocumentObject_nil⟩
  connectorId := none
  valid := by decide

/-- One edge between two nodes. -/
def plainEdge (source : PipelineNodeSpecification) (sourcePort : PortName)
    (target : PipelineNodeSpecification) (targetPort : PortName) :
    PipelineEdge :=
  ⟨source.nodeId, sourcePort, target.nodeId, targetPort⟩

theorem approveNode_valid :
    validateIdentifier .node (text "nod_approve") = .ok () := by
  decide

theorem approvalKind_valid :
    validateStableText .nodeKind (text "repair.approval") = .ok () := by
  decide

theorem applyKind_valid :
    validateStableText .nodeKind (text "repair.apply") = .ok () := by
  decide

theorem emptyLayout_ordered :
    sortedBy (fun position : PipelineNodeLayout => position.nodeId.value)
      [] = [] := rfl

/-- An approval and the repair behind it. -/
def approvedRepair : PipelineDocument where
  nodes := [
    plainNode "nod_approve" "repair.approval" approveNode_valid
      approvalKind_valid,
    plainNode "nod_repair" "repair.apply" (by decide +kernel) applyKind_valid]
  edges := [plainEdge
    (plainNode "nod_approve" "repair.approval" approveNode_valid
      approvalKind_valid) approvedPlanPort
    (plainNode "nod_repair" "repair.apply" (by decide +kernel) applyKind_valid)
    approvedPlanPort]
  resourcePolicy := ⟨[], validateDocumentObject_nil⟩
  layout := []
  schemaVersion := 1
  canonicalFormatVersion := 1
  valid := by decide +kernel
  nodesOrdered := by decide +kernel
  edgesOrdered := rfl
  layoutOrdered := emptyLayout_ordered

theorem approvedRepair_guarded :
    (∃ summary, validateRepairSafety approvedRepair = .ok summary) ∧
    ∀ path root effect, IsPath approvedRepair.links path root effect →
      IsRoot approvedRepair.links root →
      HasRole approvedRepair effect .repairEffect →
      ∃ approval ∈ path, HasRole approvedRepair approval .approval := by
  have acyclic : ¬ HasCycle approvedRepair.links := by
    rw [← acyclic_iff_not_hasCycle approvedRepair.links_spans,
      ← poppedNodes_complete]
    decide
  have registered : AllRegistered approvedRepair := by
    intro node member
    have all : approvedRepair.nodes.all (fun node =>
        (registeredNodeDefinition node.kind
          node.configurationVersion).toOption.isSome) := by decide
    exact returns_of_isSome (List.all_eq_true.mp all node member)
  have accepted :
      ∃ summary, validateRepairSafety approvedRepair = .ok summary :=
    returns_of_isSome (by decide)
  exact ⟨accepted,
    (repairSafety_iff_paths approvedRepair acyclic registered).mp accepted⟩

end Sample

end ParityGrid.Application
