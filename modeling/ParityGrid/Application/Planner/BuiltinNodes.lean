import ParityGrid.Application.Planner.Registry

/-!
# The built-in node definitions

Each payload type has a rank, and every definition puts out a type of a higher
rank than those it accepts.
-/

namespace ParityGrid.Application

open ParityGrid.Foundation
open ParityGrid.Domain

/-! ## Ports -/

/-- A port name written in the source. -/
def portName (name : String)
    (valid : validateStableText .portName (text name) = .ok () := by
      decide +kernel) : PortName :=
  ⟨text name, valid⟩

/-- `_input`: a required input with one connection, its types sorted. -/
def inputPort (name : PortName) (accepted : List PortValueType)
    (valid : validateInputPort
      (sortedBy (fun type => text type.value) accepted) 1 = .ok () := by
        decide +kernel) : InputPortDefinition where
  name := name
  acceptedTypes := sortedBy (fun type => text type.value) accepted
  required := true
  maximumConnections := 1
  valid := valid
  ordered := sortedBy_idem _ accepted

/-- The ports of the built-in nodes: at most one input and one output. -/
def portSchema (inputs : List InputPortDefinition)
    (outputs : List OutputPortDefinition)
    (valid : validatePortSchema inputs outputs = .ok () := by decide +kernel)
    (inputsOrdered :
      sortedBy (fun port => port.name.value) inputs = inputs := by rfl)
    (outputsOrdered :
      sortedBy (fun port => port.name.value) outputs = outputs := by rfl) :
    NodePortSchema :=
  ⟨inputs, outputs, valid, inputsOrdered, outputsOrdered⟩

def recordsPort : PortName := portName "records"

def reconciliationPort : PortName := portName "reconciliation"

def repairPlanPort : PortName := portName "repair-plan"

def approvedPlanPort : PortName := portName "approved-plan"

def repairResultPort : PortName := portName "repair-result"

def verificationPort : PortName := portName "verification"

/-- `_SOURCE_PORTS`. -/
def sourcePorts : NodePortSchema :=
  portSchema [] [⟨recordsPort, .rawRecords⟩]

/-- `_NORMALIZE_PORTS`. -/
def normalizePorts : NodePortSchema :=
  portSchema [inputPort recordsPort [.rawRecords]]
    [⟨recordsPort, .normalizedRecords⟩]

/-- `_VALIDATE_PORTS`. -/
def validatePorts : NodePortSchema :=
  portSchema [inputPort recordsPort [.normalizedRecords]]
    [⟨recordsPort, .validatedRecords⟩]

/-- `_PARTITION_PORTS`. -/
def partitionPorts : NodePortSchema :=
  portSchema [inputPort recordsPort [.validatedRecords]]
    [⟨recordsPort, .partitionedRecords⟩]

/-- `_RECONCILE_PORTS`. -/
def reconcilePorts : NodePortSchema :=
  portSchema
    [inputPort recordsPort
      [.normalizedRecords, .validatedRecords, .partitionedRecords]]
    [⟨reconciliationPort, .reconciliation⟩]

/-- `_REPAIR_GENERATE_PORTS`. -/
def repairGeneratePorts : NodePortSchema :=
  portSchema [inputPort reconciliationPort [.reconciliation]]
    [⟨repairPlanPort, .repairPlan⟩]

/-- `_REPAIR_APPROVAL_PORTS`. -/
def repairApprovalPorts : NodePortSchema :=
  portSchema [inputPort repairPlanPort [.repairPlan]]
    [⟨approvedPlanPort, .approvedRepairPlan⟩]

/-- `_REPAIR_APPLY_PORTS`. -/
def repairApplyPorts : NodePortSchema :=
  portSchema [inputPort approvedPlanPort [.approvedRepairPlan]]
    [⟨repairResultPort, .repairResult⟩]

/-- `_VERIFY_PORTS`. -/
def verifyPorts : NodePortSchema :=
  portSchema [inputPort repairResultPort [.repairResult]]
    [⟨verificationPort, .verification⟩]

/-- `_EXPORT_PORTS`. -/
def exportPorts : NodePortSchema :=
  portSchema
    [inputPort recordsPort [.rawRecords, .normalizedRecords,
      .validatedRecords, .partitionedRecords]] []

/-! ## Configurations -/

/-- An optional field of a built-in configuration. -/
def optionalField (name : String) (valueKind : NodeConfigurationValueKind)
    (valid : validateConfigurationField (text name) = .ok () := by
      decide +kernel) : NodeConfigurationField :=
  ⟨text name, valueKind, false, valid⟩

/-- Version 1 of a built-in configuration. -/
def configurationV1 (fields : List NodeConfigurationField)
    (valid : validateConfigurationSchema 1 fields = .ok () := by
      decide +kernel)
    (ordered : sortedBy (fun field => field.name) fields = fields := by
      decide +kernel) : NodeConfigurationSchema :=
  ⟨1, fields, valid, ordered⟩

/-- `_EMPTY_CONFIGURATION_V1`. -/
def emptyConfigurationV1 : NodeConfigurationSchema :=
  configurationV1 []

/-- `_HTTP_SOURCE_CONFIGURATION_V1`. -/
def httpSourceConfigurationV1 : NodeConfigurationSchema :=
  configurationV1 [optionalField "page_size" .integer]

/-- `_CSV_SOURCE_CONFIGURATION_V1`. -/
def csvSourceConfigurationV1 : NodeConfigurationSchema :=
  configurationV1
    [optionalField "encoding" .text, optionalField "header" .boolean]

/-- `_JSONL_SOURCE_CONFIGURATION_V1`. -/
def jsonlSourceConfigurationV1 : NodeConfigurationSchema :=
  configurationV1 [optionalField "encoding" .text]

/-- `_PARTITION_CONFIGURATION_V1`. -/
def partitionConfigurationV1 : NodeConfigurationSchema :=
  configurationV1 [optionalField "partition_count" .integer]

/-- `_EXPORT_CONFIGURATION_V1`. -/
def exportConfigurationV1 : NodeConfigurationSchema :=
  configurationV1 [optionalField "compression" .text]

/-! ## Definitions -/

/-- `_STANDARD_RUNNERS`, in order. -/
def standardRunners : List PlannerRunnerKind :=
  [.asyncio, .sequential, .threaded]

/-- `_CPU_RUNNERS`, in order. -/
def cpuRunners : List PlannerRunnerKind :=
  [.asyncio, .process, .sequential, .threaded]

/-- `_definition`. -/
def nodeDefinition (kind : String) (role : NodeRole)
    (configuration : NodeConfigurationSchema) (ports : NodePortSchema)
    (connector : ConnectorRequirement) (runners : List PlannerRunnerKind)
    (retry : RetryBehavior) (requiresIdempotency : Bool)
    (validKind : validateStableText .nodeKind (text kind) = .ok () := by
      decide +kernel)
    (valid : validateNodeDefinition role runners requiresIdempotency =
      .ok () := by decide +kernel)
    (ordered : sortedBy (fun runner => text runner.value) runners =
      runners := by decide +kernel) : NodeDefinition :=
  ⟨⟨text kind, validKind⟩, role, configuration, ports, connector, runners,
    retry, requiresIdempotency, valid, ordered⟩

/-- The definitions of `BUILTIN_NODE_REGISTRY`, in order of kind. -/
def builtinNodeDefinitions : List NodeDefinition :=
  [nodeDefinition "export.parquet" .export exportConfigurationV1 exportPorts
      .none standardRunners .never false,
    nodeDefinition "reconcile.target" .reconciliation emptyConfigurationV1
      reconcilePorts .target standardRunners .connector false,
    nodeDefinition "repair.apply" .repairEffect emptyConfigurationV1
      repairApplyPorts .target standardRunners .connector true,
    nodeDefinition "repair.approval" .approval emptyConfigurationV1
      repairApprovalPorts .none standardRunners .never false,
    nodeDefinition "repair.generate" .repairPlan emptyConfigurationV1
      repairGeneratePorts .none cpuRunners .never false,
    nodeDefinition "source.csv" .source csvSourceConfigurationV1 sourcePorts
      .source standardRunners .connector false,
    nodeDefinition "source.http.async" .source httpSourceConfigurationV1
      sourcePorts .source standardRunners .connector false,
    nodeDefinition "source.http.blocking" .source httpSourceConfigurationV1
      sourcePorts .source standardRunners .connector false,
    nodeDefinition "source.jsonl" .source jsonlSourceConfigurationV1
      sourcePorts .source standardRunners .connector false,
    nodeDefinition "transform.normalize" .transform emptyConfigurationV1
      normalizePorts .none cpuRunners .never false,
    nodeDefinition "transform.partition" .transform partitionConfigurationV1
      partitionPorts .none cpuRunners .never false,
    nodeDefinition "transform.validate" .transform emptyConfigurationV1
      validatePorts .none cpuRunners .never false,
    nodeDefinition "verify.target" .verification emptyConfigurationV1
      verifyPorts .target standardRunners .connector false]

/-- `BUILTIN_NODE_REGISTRY`. -/
def builtinNodeRegistry : NodeRegistry where
  definitions := builtinNodeDefinitions
  valid := by decide +kernel
  ordered := by decide +kernel

/-- `registered_node_definition`. -/
def registeredNodeDefinition (kind : NodeKind) (configurationVersion : Nat) :
    Except PythonError NodeDefinition :=
  builtinNodeRegistry.require kind configurationVersion

/-- `validate_registered_nodes`. -/
def validateRegisteredNodes [PythonRuntime] (document : PipelineDocument) :
    Except PythonError Unit :=
  document.nodes.forM fun node => do
    let definition ←
      registeredNodeDefinition node.kind node.configurationVersion
    definition.configurationSchema.validate node.configuration

theorem registered_mem {kind : NodeKind} {version : Nat}
    {definition : NodeDefinition}
    (found : registeredNodeDefinition kind version = .ok definition) :
    definition ∈ builtinNodeDefinitions :=
  NodeRegistry.mem_of_require found

/-! ## The definitions of a document -/

section Definitions

variable [PythonRuntime]

/-- The dictionary of definitions that the planner's validators build first. -/
def nodeDefinitions (document : PipelineDocument) :
    Except PythonError (List (NodeId × NodeDefinition)) :=
  document.nodes.mapM fun node => do
    let definition ←
      registeredNodeDefinition node.kind node.configurationVersion
    return (node.nodeId, definition)

/-- `definitions[node_id]`. -/
def definitionOf (definitions : List (NodeId × NodeDefinition))
    (nodeId : NodeId) : Except PythonError NodeDefinition :=
  match definitions.lookup nodeId with
  | some definition => .ok definition
  | none => .error .keyError

/-- A node of the document has a registered definition. -/
def Defines (document : PipelineDocument) (nodeId : NodeId)
    (definition : NodeDefinition) : Prop :=
  ∃ node ∈ document.nodes, node.nodeId = nodeId ∧
    registeredNodeDefinition node.kind node.configurationVersion =
      .ok definition

/-- A node of the document has a registered definition of this role. -/
def HasRole (document : PipelineDocument) (nodeId : NodeId)
    (role : NodeRole) : Prop :=
  ∃ definition, Defines document nodeId definition ∧ definition.role = role

/-- All nodes of the document are of registered kinds. -/
def AllRegistered (document : PipelineDocument) : Prop :=
  ∀ node ∈ document.nodes, ∃ definition,
    registeredNodeDefinition node.kind node.configurationVersion =
      .ok definition

variable {document : PipelineDocument}

theorem Defines.known {nodeId : NodeId} {definition : NodeDefinition}
    (defined : Defines document nodeId definition) :
    definition ∈ builtinNodeDefinitions := by
  obtain ⟨_, _, _, found⟩ := defined
  exact registered_mem found

theorem nodeDefinitions_returns (registered : AllRegistered document) :
    ∃ definitions, nodeDefinitions document = .ok definitions := by
  apply returns_mapM.mpr
  intro node member
  obtain ⟨definition, found⟩ := registered node member
  exact ⟨(node.nodeId, definition), by rw [found]; rfl⟩

section Built

variable {definitions : List (NodeId × NodeDefinition)}
  (built : nodeDefinitions document = .ok definitions)

include built

theorem nodeDefinitions_keys : definitions.map Prod.fst = document.nodeIds :=
  mapM_keeps (fun node _ entry found => by
      rw [bind_eq_ok] at found
      obtain ⟨definition, _, returned⟩ := found
      cases returned
      rfl) built

/-- Looking a node up finds its registered definition. -/
theorem definitionOf_eq_ok {nodeId : NodeId} {definition : NodeDefinition} :
    definitionOf definitions nodeId = .ok definition ↔
      Defines document nodeId definition := by
  have distinct : (definitions.map Prod.fst).Nodup := by
    rw [nodeDefinitions_keys built]
    exact document.nodeIds_nodup
  have found : definitionOf definitions nodeId = .ok definition ↔
      (nodeId, definition) ∈ definitions := by
    rw [← lookup_eq_some_iff_mem distinct, definitionOf]
    split
    next other same => rw [same, Except.ok.injEq, Option.some.injEq]
    next absent => simp [absent]
  rw [found]
  constructor
  · intro member
    obtain ⟨node, inside, returned⟩ := mapM_origin built member
    rw [bind_eq_ok] at returned
    obtain ⟨other, registered, same⟩ := returned
    cases same
    exact ⟨node, inside, rfl, registered⟩
  · rintro ⟨node, inside, rfl, registered⟩
    obtain ⟨entry, member, returned⟩ := mapM_image built inside
    rw [registered] at returned
    cases returned
    exact member

theorem definitionOf_returns {nodeId : NodeId}
    (known : nodeId ∈ document.nodeIds) :
    ∃ definition, definitionOf definitions nodeId = .ok definition := by
  rw [← nodeDefinitions_keys built, ← lookup_isSome,
    Option.isSome_iff_exists] at known
  obtain ⟨definition, found⟩ := known
  exact ⟨definition, by rw [definitionOf, found]⟩

/-- Every node of the document is defined. -/
theorem defines_of_mem {nodeId : NodeId} (known : nodeId ∈ document.nodeIds) :
    ∃ definition, Defines document nodeId definition := by
  obtain ⟨definition, found⟩ := definitionOf_returns built known
  exact ⟨definition, (definitionOf_eq_ok built).mp found⟩

end Built

theorem Defines.unique {nodeId : NodeId} {one other : NodeDefinition}
    (first : Defines document nodeId one)
    (second : Defines document nodeId other) : one = other := by
  obtain ⟨node, member, same, found⟩ := first
  obtain ⟨node', member', same', found'⟩ := second
  have equal : node = node' := List.inj_on_of_nodup_map
    document.nodeIds_nodup member member' (same.trans same'.symm)
  subst equal
  exact Except.ok.inj (found.symm.trans found')

end Definitions

/-! ## The rank of the payload types -/

/-- How far a payload is from the raw records. -/
def PortValueType.rank : PortValueType → Nat
  | .rawRecords => 0
  | .normalizedRecords => 1
  | .validatedRecords => 2
  | .partitionedRecords => 3
  | .reconciliation => 4
  | .repairPlan => 5
  | .approvedRepairPlan => 6
  | .repairResult => 7
  | .verification => 8

/-- The rank of what a node puts out; nodes without outputs are last. -/
def NodeDefinition.rank (definition : NodeDefinition) : Nat :=
  match definition.portSchema.outputs with
  | [] => 9
  | port :: _ => port.valueType.rank

section Builtin

variable {definition : NodeDefinition}
  (known : definition ∈ builtinNodeDefinitions)

include known

theorem output_rank {port : OutputPortDefinition}
    (member : port ∈ definition.portSchema.outputs) :
    port.valueType.rank = definition.rank := by
  have all : builtinNodeDefinitions.all (fun definition =>
      definition.portSchema.outputs.all fun port =>
        port.valueType.rank == definition.rank) := by decide
  have each := List.all_eq_true.mp (List.all_eq_true.mp all _ known) _ member
  simpa using each

/-- A node accepts only payloads of a lower rank than its own. -/
theorem accepted_rank {port : InputPortDefinition}
    (member : port ∈ definition.portSchema.inputs) {type : PortValueType}
    (accepted : port.accepts type) : type.rank < definition.rank := by
  have all : builtinNodeDefinitions.all (fun definition =>
      definition.portSchema.inputs.all fun port =>
        port.acceptedTypes.all fun type =>
          decide (type.rank < definition.rank)) := by decide
  have each := List.all_eq_true.mp
    (List.all_eq_true.mp (List.all_eq_true.mp all _ known) _ member) type
      (List.contains_iff_mem.mp accepted)
  simpa using each

/-- Every built-in input is required and takes one connection. -/
theorem input_single {port : InputPortDefinition}
    (member : port ∈ definition.portSchema.inputs) :
    port.required = true ∧ port.maximumConnections = 1 := by
  have all : builtinNodeDefinitions.all (fun definition =>
      definition.portSchema.inputs.all fun port =>
        port.required && port.maximumConnections == 1) := by decide
  have each := List.all_eq_true.mp (List.all_eq_true.mp all _ known) _ member
  simpa using each

/-- No built-in node has two inputs. -/
theorem input_alone {one other : InputPortDefinition}
    (first : one ∈ definition.portSchema.inputs)
    (second : other ∈ definition.portSchema.inputs) : one = other := by
  have all : builtinNodeDefinitions.all (fun definition =>
      decide (definition.portSchema.inputs.length ≤ 1)) := by decide
  have short := List.all_eq_true.mp all _ known
  rw [decide_eq_true_eq] at short
  match inputs : definition.portSchema.inputs with
  | [] =>
      rw [inputs] at first
      cases first
  | [port] =>
      rw [inputs, List.mem_singleton] at first second
      exact first.trans second.symm
  | _ :: _ :: _ =>
      rw [inputs] at short
      simp at short

/-- The sources are the nodes without inputs. -/
theorem source_iff :
    definition.role = .source ↔ definition.portSchema.inputs = [] := by
  have all : builtinNodeDefinitions.all (fun definition =>
      decide (definition.role = .source) ==
        definition.portSchema.inputs.isEmpty) := by decide
  have each := List.all_eq_true.mp all _ known
  rw [beq_iff_eq, Bool.eq_iff_iff, decide_eq_true_eq,
    List.isEmpty_iff] at each
  exact each

/-- Repair effects accept only what approvals put out. -/
theorem effect_accepts {other : NodeDefinition}
    (knownOther : other ∈ builtinNodeDefinitions)
    (effect : definition.role = .repairEffect)
    {target : InputPortDefinition}
    (member : target ∈ definition.portSchema.inputs)
    {source : OutputPortDefinition}
    (memberOther : source ∈ other.portSchema.outputs)
    (compatible : portsAreCompatible source target) :
    other.role = .approval := by
  have all : builtinNodeDefinitions.all (fun definition =>
      decide (definition.role ≠ .repairEffect) ||
        definition.portSchema.inputs.all fun port =>
          port.acceptedTypes == [.approvedRepairPlan]) := by decide
  have others : builtinNodeDefinitions.all (fun definition =>
      definition.portSchema.outputs.all fun port =>
        port.valueType != .approvedRepairPlan ||
          decide (definition.role = .approval)) := by decide
  have inputs := List.all_eq_true.mp all _ known
  rw [Bool.or_eq_true, decide_eq_true_eq] at inputs
  have accepted := List.all_eq_true.mp
    (inputs.resolve_left (not_not_intro effect)) target member
  have outputs := List.all_eq_true.mp
    (List.all_eq_true.mp others _ knownOther) source memberOther
  rw [portsAreCompatible, InputPortDefinition.accepts,
    eq_of_beq accepted, List.contains_iff_mem, List.mem_singleton]
    at compatible
  rw [compatible] at outputs
  simpa using outputs

end Builtin

end ParityGrid.Application
