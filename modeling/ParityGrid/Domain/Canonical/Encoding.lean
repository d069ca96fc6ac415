import ParityGrid.Domain.Pipeline
import ParityGrid.Domain.Repair.Plans
import ParityGrid.Foundation.Json

/-!
# Versioned canonical encoding

The registry is closed: `CanonicalType` lists the registered types, `Carrier`
gives the values of each and `adapter` its type tag and its JSON primitive.
Each adapter comes with what it distinguishes.  The repair-plan adapter leaves
the binding of a plan out, and is the one adapter that does not distinguish
all its values.
-/

namespace ParityGrid.Domain

open Foundation

/-! ## Errors -/

/-- `CanonicalErrorCode`. -/
inductive CanonicalErrorCode where
  | unsupportedCanonicalVersion
  | unsupportedCanonicalType
  | invalidCanonicalValue
deriving DecidableEq

/-- `CanonicalEncodingError`, with the message of its reason. -/
def canonicalEncodingError (reason : CanonicalErrorCode)
    (subjectType : Text) : PythonError :=
  let quoted := point '\'' :: subjectType ++ [point '\'']
  .raised (text "CanonicalEncodingError") false
    (match reason with
    | .unsupportedCanonicalVersion =>
        text "canonical encoding version " ++ subjectType ++
          text " is unsupported"
    | .unsupportedCanonicalType =>
        text "canonical encoding does not support type " ++ quoted
    | .invalidCanonicalValue =>
        text "canonical value for type " ++ quoted ++
          text " violates encoding invariants")

/-- Independent version of the canonical byte protocol. -/
inductive CanonicalVersion where
  | v1
deriving DecidableEq

def CanonicalVersion.number : CanonicalVersion → Int
  | .v1 => 1

section Encoding

variable [PythonRuntime]

/-! ## Primitives -/

def moneyValue (value : Money) : JsonValue :=
  .object
    [(text "currency", .string value.currency.value),
      (text "minor_unit_exponent", .int value.minorUnitExponent),
      (text "minor_units", .int value.minorUnits)]

def attributeItemValue (item : Text × Text) : JsonValue :=
  .array [.string item.1, .string item.2]

def attributesValue (value : InventoryAttributes) : JsonValue :=
  .array (value.items.map attributeItemValue)

def inventoryRecordValue (value : InventoryRecord) : JsonValue :=
  .object
    [(text "attributes", attributesValue value.attributes),
      (text "connector_id", .string value.connectorId.value),
      (text "name", .string value.name),
      (text "quantity", .int value.quantity),
      (text "sku", .string value.sku),
      (text "source_record_key", .string value.sourceRecordKey),
      (text "unit_price", moneyValue value.unitPrice),
      (text "updated_at", .string value.updatedAt.toText)]

/-- The business state affected by a repair, without provenance. -/
def inventoryEffectValue (value : InventoryRecord) : JsonValue :=
  .object
    [(text "attributes", attributesValue value.attributes),
      (text "name", .string value.name),
      (text "quantity", .int value.quantity),
      (text "sku", .string value.sku),
      (text "unit_price", moneyValue value.unitPrice),
      (text "updated_at", .string value.updatedAt.toText)]

def portValue (port : PortName) : JsonValue :=
  .string port.value

def pipelineNodePrimitive (node : PipelineNode) : JsonValue :=
  .object
    [(text "id", .string node.nodeId.value),
      (text "inputs", .array (node.inputPorts.map portValue)),
      (text "kind", .string node.kind.value),
      (text "outputs", .array (node.outputPorts.map portValue))]

def pipelineEdgePrimitive (edge : PipelineEdge) : JsonValue :=
  .object
    [(text "source", .object
        [(text "node_id", .string edge.sourceNodeId.value),
          (text "port", .string edge.sourcePort.value)]),
      (text "target", .object
        [(text "node_id", .string edge.targetNodeId.value),
          (text "port", .string edge.targetPort.value)])]

/-- `_comparable_value` of the source and of the target side. -/
def comparableValues : FieldMismatch → JsonValue × JsonValue
  | .name source target _ => (.string source, .string target)
  | .quantity source target _ => (.int source, .int target)
  | .unitPrice source target _ => (moneyValue source, moneyValue target)
  | .updatedAt source target _ =>
      (.string source.toText, .string target.toText)
  | .attributes source target _ =>
      (attributesValue source, attributesValue target)

def fieldMismatchValue (value : FieldMismatch) : JsonValue :=
  .object
    [(text "field", .string (text value.field.value)),
      (text "source", (comparableValues value).1),
      (text "target", (comparableValues value).2)]

def reconciliationOutcomePrimitive (outcome : ReconciliationOutcome) :
    JsonValue :=
  .object
    [(text "classification", .string (text outcome.classification.value)),
      (text "mismatches", .array (outcome.mismatches.map fieldMismatchValue)),
      (text "sku", .string outcome.sku),
      (text "source_records",
        .array (outcome.sourceRecords.map inventoryRecordValue)),
      (text "target_records",
        .array (outcome.targetRecords.map inventoryRecordValue))]

/-- `None if record is None else record_value(record)`. -/
def optionalRecordValue (recordValue : InventoryRecord → JsonValue) :
    Option InventoryRecord → JsonValue
  | none => .null
  | some record => recordValue record

/-- `_repair_action_value`, with its three flags. -/
def repairActionValue
    (includeIdentity includeRecordProvenance includeStateFingerprint : Bool)
    (value : RepairAction) : JsonValue :=
  let recordValue :=
    if includeRecordProvenance then inventoryRecordValue
    else inventoryEffectValue
  .object
    ([(text "expected_target_record",
        optionalRecordValue recordValue value.expectedTargetRecord),
      (text "kind", .string (text value.kind.value)),
      (text "mismatches", .array (value.mismatches.map fieldMismatchValue)),
      (text "proposed_record", recordValue value.proposedRecord)] ++
      (if includeIdentity then
        [(text "action_id", .string value.actionId.value),
          (text "conflict_id", .string value.conflictId.value)]
      else []) ++
      (if includeStateFingerprint then
        [(text "state_fingerprint", .string value.stateFingerprint.value)]
      else []))

def repairActionPrimitive (value : RepairAction) : JsonValue :=
  repairActionValue true true true value

/-- The plan adapter: identity, state and actions, but no binding. -/
def repairPlanPrimitive (plan : RepairPlan) : JsonValue :=
  .object
    [(text "actions", .array (plan.actions.map repairActionPrimitive)),
      (text "plan_id", .string plan.planId.value),
      (text "state_fingerprint", .string plan.stateFingerprint.value)]

def bindingValue (binding : RepairPlanBinding) : JsonValue :=
  .object
    [(text "run_id", .string binding.runId.value),
      (text "reconciliation_fingerprint",
        .string binding.reconciliationFingerprint.value),
      (text "source_input_identity", .string binding.sourceInputIdentity),
      (text "target_input_identity", .string binding.targetInputIdentity),
      (text "policy_version", .int binding.policyVersion),
      (text "generation_version", .int binding.generationVersion),
      (text "rules_version", .int binding.rulesVersion),
      (text "analysis_version", .int binding.analysisVersion),
      (text "analytical_query_version", .int binding.analyticalQueryVersion),
      (text "action_count", .int binding.actionCount)]

/-- Logical repair contents without generated identities. -/
def repairPlanContentPrimitive (plan : RepairPlan) : JsonValue :=
  .object
    ([(text "actions",
        .array (plan.actions.map (repairActionValue false false false))),
      (text "state_fingerprint", .string plan.stateFingerprint.value)] ++
      (match plan.binding with
      | none => []
      | some binding => [(text "binding", bindingValue binding)]))

/-! ## The registry -/

/-- The keys of `_ADAPTERS`. -/
inductive CanonicalType where
  | pipelineId
  | nodeId
  | connectorId
  | runId
  | workItemId
  | artifactId
  | conflictId
  | repairPlanId
  | repairActionId
  | pipelineVersion
  | attemptNumber
  | utcTimestamp
  | duration
  | currencyCode
  | money
  | inventoryAttributes
  | inventoryRecord
  | stateFingerprint
  | nodeKind
  | portName
  | partitionKey
  | pipelineNode
  | pipelineEdge
  | runState
  | workItemState
  | failureClassification
  | failureDisposition
  | reconciliationClassification
  | reconciliationField
  | fieldMismatch
  | reconciliationOutcome
  | repairActionKind
  | repairAction
  | repairPlan
deriving DecidableEq

/-- The values of each registered type. -/
def CanonicalType.Carrier : CanonicalType → Type
  | .pipelineId => PipelineId
  | .nodeId => NodeId
  | .connectorId => ConnectorId
  | .runId => RunId
  | .workItemId => WorkItemId
  | .artifactId => ArtifactId
  | .conflictId => ConflictId
  | .repairPlanId => RepairPlanId
  | .repairActionId => RepairActionId
  | .pipelineVersion => PipelineVersion
  | .attemptNumber => AttemptNumber
  | .utcTimestamp => UtcTimestamp
  | .duration => Duration
  | .currencyCode => CurrencyCode
  | .money => Money
  | .inventoryAttributes => InventoryAttributes
  | .inventoryRecord => InventoryRecord
  | .stateFingerprint => StateFingerprint
  | .nodeKind => NodeKind
  | .portName => PortName
  | .partitionKey => PartitionKey
  | .pipelineNode => PipelineNode
  | .pipelineEdge => PipelineEdge
  | .runState => RunState
  | .workItemState => WorkItemState
  | .failureClassification => FailureClassification
  | .failureDisposition => FailureDisposition
  | .reconciliationClassification => ReconciliationClassification
  | .reconciliationField => ReconciliationField
  | .fieldMismatch => FieldMismatch
  | .reconciliationOutcome => ReconciliationOutcome
  | .repairActionKind => RepairActionKind
  | .repairAction => RepairAction
  | .repairPlan => RepairPlan

/-- A registered type together with how it is written. -/
structure CanonicalAdapter (α : Type) where
  typeTag : String
  toPrimitive : α → JsonValue

/-- `_ADAPTERS`. -/
def adapter : (type : CanonicalType) → CanonicalAdapter type.Carrier
  | .pipelineId =>
      ⟨"pipeline-id", fun value : PipelineId => .string value.value⟩
  | .nodeId => ⟨"node-id", fun value : NodeId => .string value.value⟩
  | .connectorId =>
      ⟨"connector-id", fun value : ConnectorId => .string value.value⟩
  | .runId => ⟨"run-id", fun value : RunId => .string value.value⟩
  | .workItemId =>
      ⟨"work-item-id", fun value : WorkItemId => .string value.value⟩
  | .artifactId =>
      ⟨"artifact-id", fun value : ArtifactId => .string value.value⟩
  | .conflictId =>
      ⟨"conflict-id", fun value : ConflictId => .string value.value⟩
  | .repairPlanId =>
      ⟨"repair-plan-id", fun value : RepairPlanId => .string value.value⟩
  | .repairActionId =>
      ⟨"repair-action-id", fun value : RepairActionId => .string value.value⟩
  | .pipelineVersion =>
      ⟨"pipeline-version", fun value : PipelineVersion => .int value.number⟩
  | .attemptNumber =>
      ⟨"attempt-number", fun value : AttemptNumber => .int value.number⟩
  | .utcTimestamp =>
      ⟨"utc-timestamp", fun value : UtcTimestamp => .string value.toText⟩
  | .duration =>
      ⟨"duration", fun value : Duration => .int value.microseconds⟩
  | .currencyCode =>
      ⟨"currency-code", fun value : CurrencyCode => .string value.value⟩
  | .money => ⟨"money", moneyValue⟩
  | .inventoryAttributes => ⟨"inventory-attributes", attributesValue⟩
  | .inventoryRecord => ⟨"inventory-record", inventoryRecordValue⟩
  | .stateFingerprint =>
      ⟨"state-fingerprint",
        fun value : StateFingerprint => .string value.value⟩
  | .nodeKind => ⟨"node-kind", fun value : NodeKind => .string value.value⟩
  | .portName => ⟨"port-name", portValue⟩
  | .partitionKey =>
      ⟨"partition-key", fun value : PartitionKey => .string value.value⟩
  | .pipelineNode => ⟨"pipeline-node", pipelineNodePrimitive⟩
  | .pipelineEdge => ⟨"pipeline-edge", pipelineEdgePrimitive⟩
  | .runState =>
      ⟨"run-state", fun value : RunState => .string (text value.value)⟩
  | .workItemState =>
      ⟨"work-item-state",
        fun value : WorkItemState => .string (text value.value)⟩
  | .failureClassification =>
      ⟨"failure-classification",
        fun value : FailureClassification => .string (text value.value)⟩
  | .failureDisposition =>
      ⟨"failure-disposition",
        fun value : FailureDisposition => .string (text value.value)⟩
  | .reconciliationClassification =>
      ⟨"reconciliation-classification",
        fun value : ReconciliationClassification =>
          .string (text value.value)⟩
  | .reconciliationField =>
      ⟨"reconciliation-field",
        fun value : ReconciliationField => .string (text value.value)⟩
  | .fieldMismatch => ⟨"field-mismatch", fieldMismatchValue⟩
  | .reconciliationOutcome =>
      ⟨"reconciliation-outcome", reconciliationOutcomePrimitive⟩
  | .repairActionKind =>
      ⟨"repair-action-kind",
        fun value : RepairActionKind => .string (text value.value)⟩
  | .repairAction => ⟨"repair-action", repairActionPrimitive⟩
  | .repairPlan => ⟨"repair-plan", repairPlanPrimitive⟩

/-- A value of a registered type. -/
structure CanonicalValue where
  type : CanonicalType
  value : type.Carrier

/-! ## Envelopes -/

/-- `_validate_primitive`. -/
def validatePrimitive (value : JsonValue) : Except PythonError Unit :=
  require value.closed
    (.typeError (text "canonical adapters may emit only closed JSON primitives"))

def envelope (typeTag : String) (value : JsonValue)
    (version : CanonicalVersion) : JsonValue :=
  .object
    [(text "format", .string (text "paritygrid-canonical")),
      (text "type", .string (text typeTag)),
      (text "value", value),
      (text "version", .int version.number)]

/-- `_encode_envelope`. -/
def encodeEnvelope (typeTag : String) (value : JsonValue)
    (version : CanonicalVersion) : Except PythonError Bytes := do
  validatePrimitive value
  let rendered ← jsonDumps (envelope typeTag value version)
  pure (encodeAscii rendered)

/-- `CanonicalEncoder.encode`. -/
def CanonicalVersion.encode (version : CanonicalVersion)
    (value : CanonicalValue) : Except PythonError Bytes :=
  let entry := adapter value.type
  match encodeEnvelope entry.typeTag (entry.toPrimitive value.value) version with
  | .ok bytes => .ok bytes
  | .error error =>
      if error.isTypeOrValueError || error == .overflowError then
        .error (canonicalEncodingError .invalidCanonicalValue
          (text entry.typeTag))
      else
        .error error

/-- `encode_canonical` under its default version. -/
def encodeCanonical (value : CanonicalValue) : Except PythonError Bytes :=
  CanonicalVersion.v1.encode value

/-- `encode_repair_plan_content`. -/
def encodeRepairPlanContent (plan : RepairPlan) (version : CanonicalVersion) :
    Except PythonError Bytes :=
  encodeEnvelope "repair-plan-content" (repairPlanContentPrimitive plan)
    version

/-- `encode_inventory_observation`. -/
def encodeInventoryObservation (record : InventoryRecord)
    (version : CanonicalVersion) : Except PythonError Bytes :=
  encodeEnvelope "inventory-observation" (inventoryEffectValue record) version

end Encoding

end ParityGrid.Domain
