import ParityGrid.Application.Planner.BuiltinNodes

/-!
# Typed port validation

Every edge joins a declared output to a declared input that accepts its type,
no input has more connections than it allows, and every required input has one.
-/

namespace ParityGrid.Application

open ParityGrid.Foundation
open ParityGrid.Domain

section PortValidation

variable [PythonRuntime]

/-- The key under which the connections of one input are counted. -/
def edgeTarget (edge : PipelineEdge) : NodeId × PortName :=
  (edge.targetNodeId, edge.targetPort)

/-- One turn of the loop over the edges; `incoming` counts each key as often as
it is listed. -/
def checkEdge (definitions : List (NodeId × NodeDefinition))
    (incoming : List (NodeId × PortName)) (edge : PipelineEdge) :
    Except PythonError (List (NodeId × PortName)) := do
  let sourceDefinition ← definitionOf definitions edge.sourceNodeId
  let targetDefinition ← definitionOf definitions edge.targetNodeId
  match sourceDefinition.portSchema.output edge.sourcePort with
  | none => .error (invalidPortConnectionError
      "pipeline edge source port is not declared")
  | some source =>
      match targetDefinition.portSchema.input edge.targetPort with
      | none => .error (invalidPortConnectionError
          "pipeline edge target port is not declared")
      | some target => do
          require (portsAreCompatible source target)
            (invalidPortConnectionError
              "pipeline edge port types are incompatible")
          let counted := edgeTarget edge :: incoming
          require (counted.count (edgeTarget edge) ≤
              target.maximumConnections)
            (invalidPortConnectionError
              "pipeline input exceeds its connection limit")
          return counted

/-- The required inputs of one node without a connection. -/
def missingInputs (definitions : List (NodeId × NodeDefinition))
    (incoming : List (NodeId × PortName)) (node : PipelineNodeSpecification) :
    Except PythonError (List (NodeId × PortName)) := do
  let definition ← definitionOf definitions node.nodeId
  return (definition.portSchema.inputs.filter fun port =>
    port.required && incoming.count (node.nodeId, port.name) == 0).map
      fun port => (node.nodeId, port.name)

/-- `validate_typed_ports`. -/
def validateTypedPorts (document : PipelineDocument) :
    Except PythonError Unit := do
  let definitions ← nodeDefinitions document
  let incoming ← document.edges.foldlM (checkEdge definitions) []
  let missing ← document.nodes.mapM (missingInputs definitions incoming)
  require missing.flatten.isEmpty (invalidPortConnectionError
    "pipeline node is missing a required input connection")

/-! ## Accepted edges -/

/-- An edge from a declared output to a declared input that accepts its type. -/
structure Joins (document : PipelineDocument) (edge : PipelineEdge)
    (source target : NodeDefinition) (output : OutputPortDefinition)
    (input : InputPortDefinition) : Prop where
  sourceDefined : Defines document edge.sourceNodeId source
  targetDefined : Defines document edge.targetNodeId target
  outputFound : source.portSchema.output edge.sourcePort = some output
  inputFound : target.portSchema.input edge.targetPort = some input
  compatible : portsAreCompatible output input

variable {document : PipelineDocument}
  {definitions : List (NodeId × NodeDefinition)}

/-- Edges into one input find the same declaration. -/
theorem Joins.input_eq {edge edge' : PipelineEdge}
    {source source' target target' : NodeDefinition}
    {output output' : OutputPortDefinition}
    {input input' : InputPortDefinition}
    (one : Joins document edge source target output input)
    (other : Joins document edge' source' target' output' input')
    (same : edgeTarget edge = edgeTarget edge') : input = input' := by
  simp only [edgeTarget, Prod.mk.injEq] at same
  have defined := other.targetDefined
  rw [← same.1] at defined
  have target_eq := one.targetDefined.unique defined
  subst target_eq
  have found := other.inputFound
  rw [← same.2, one.inputFound] at found
  exact Option.some.inj found

theorem checkEdge_eq_ok
    (built : nodeDefinitions document = .ok definitions)
    {incoming counted : List (NodeId × PortName)} {edge : PipelineEdge}
    (checked : checkEdge definitions incoming edge = .ok counted) :
    ∃ source target output input,
      Joins document edge source target output input ∧
      counted = edgeTarget edge :: incoming ∧
      counted.count (edgeTarget edge) ≤ input.maximumConnections := by
  simp only [checkEdge, bind_eq_ok] at checked
  obtain ⟨source, sourceFound, target, targetFound, checked⟩ := checked
  split at checked
  next => cases checked
  next output outputFound =>
    split at checked
    next => cases checked
    next input inputFound =>
      simp only [check_bind_eq_ok, require_eq_ok, decide_eq_true_eq]
        at checked
      obtain ⟨compatible, bounded, returned⟩ := checked
      cases returned
      exact ⟨source, target, output, input,
        ⟨(definitionOf_eq_ok built).mp sourceFound,
          (definitionOf_eq_ok built).mp targetFound, outputFound, inputFound,
          compatible⟩, rfl, bounded⟩

/-- Every edge is accepted, and the final count of its input is within the
limit: the last edge into an input saw that count. -/
theorem foldlM_checkEdge
    (built : nodeDefinitions document = .ok definitions)
    {edges : List PipelineEdge} {incoming counted : List (NodeId × PortName)}
    (checked : edges.foldlM (checkEdge definitions) incoming = .ok counted) :
    counted = (edges.map edgeTarget).reverse ++ incoming ∧
      ∀ edge ∈ edges, ∃ source target output input,
        Joins document edge source target output input ∧
        counted.count (edgeTarget edge) ≤ input.maximumConnections := by
  induction edges generalizing incoming with
  | nil =>
      cases checked
      simp
  | cons edge rest ih =>
      rw [List.foldlM_cons, bind_eq_ok] at checked
      obtain ⟨next, first, later⟩ := checked
      obtain ⟨source, target, output, input, joins, rfl, bounded⟩ :=
        checkEdge_eq_ok built first
      obtain ⟨total, accepted⟩ := ih later
      refine ⟨by simp [total], ?_⟩
      intro other member
      rcases List.mem_cons.mp member with rfl | member
      · refine ⟨source, target, output, input, joins, ?_⟩
        by_cases again : edgeTarget other ∈ rest.map edgeTarget
        · obtain ⟨edge', inside, same⟩ := List.mem_map.mp again
          obtain ⟨_, _, _, input', joins', bounded'⟩ := accepted edge' inside
          rw [joins.input_eq joins' same.symm, ← same]
          exact bounded'
        · have absent : edgeTarget other ∉ (rest.map edgeTarget).reverse := by
            rwa [List.mem_reverse]
          rw [total, List.count_append, List.count_eq_zero.mpr absent,
            Nat.zero_add]
          exact bounded
      · exact accepted other member

/-! ## Accepted documents -/

/-- How many edges enter one input. -/
def connectionCount (document : PipelineDocument) (nodeId : NodeId)
    (name : PortName) : Nat :=
  (document.edges.map edgeTarget).count (nodeId, name)

/-- What acceptance means: every edge joins compatible ports within the limit
of its input, and every required input is connected. -/
theorem validateTypedPorts_eq_ok
    (accepted : validateTypedPorts document = .ok ()) :
    AllRegistered document ∧
    (∀ edge ∈ document.edges, ∃ source target output input,
      Joins document edge source target output input ∧
      connectionCount document edge.targetNodeId edge.targetPort ≤
        input.maximumConnections) ∧
    ∀ nodeId definition, Defines document nodeId definition →
      ∀ port ∈ definition.portSchema.inputs, port.required = true →
        connectionCount document nodeId port.name ≠ 0 := by
  simp only [validateTypedPorts, bind_eq_ok] at accepted
  obtain ⟨definitions, built, incoming, folded, missing, listed, none⟩ :=
    accepted
  obtain ⟨total, joined⟩ := foldlM_checkEdge built folded
  have counts : ∀ nodeId name, incoming.count (nodeId, name) =
      connectionCount document nodeId name := by
    intro nodeId name
    rw [total, List.append_nil, List.count_reverse, connectionCount]
  refine ⟨?_, ?_, ?_⟩
  · intro node member
    obtain ⟨entry, _, returned⟩ := mapM_image built member
    rw [bind_eq_ok] at returned
    obtain ⟨definition, found, _⟩ := returned
    exact ⟨definition, found⟩
  · intro edge member
    obtain ⟨source, target, output, input, joins, bounded⟩ :=
      joined edge member
    rw [edgeTarget, counts] at bounded
    exact ⟨source, target, output, input, joins, bounded⟩
  · intro nodeId definition defined port member isRequired unconnected
    obtain ⟨node, inside, rfl, _⟩ := id defined
    obtain ⟨result, inMissing, returned⟩ := mapM_image listed inside
    rw [missingInputs, (definitionOf_eq_ok built).mpr defined, ok_bind]
      at returned
    cases returned
    rw [require_eq_ok, List.isEmpty_iff, List.flatten_eq_nil_iff] at none
    have empty := none _ inMissing
    rw [List.map_eq_nil_iff, List.filter_eq_nil_iff] at empty
    apply empty port member
    rw [isRequired, Bool.true_and, beq_iff_eq, counts]
    exact unconnected

end PortValidation

end ParityGrid.Application
