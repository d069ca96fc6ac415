import ParityGrid.Domain.Canonical.Encoding

/-!
# What the adapters distinguish

Every adapter but one determines its value: two values of the type that are
written alike are equal.  The repair-plan adapter determines a plan up to its
binding.  Together with the type tag this says exactly when two encoded values
are equal.
-/

namespace ParityGrid.Domain

open Foundation

/-! ## Leaves -/

/-- A text that determines a value distinguishes it. -/
theorem string_distinguishes {α : Type} {value : α → Text}
    (injective : Function.Injective value) :
    Distinguishes fun a => .string (value a) := by
  intro left right equal
  simp only [JsonValue.sortKeys_string, JsonValue.string.injEq] at equal
  exact injective equal

/-- So does an integer. -/
theorem int_distinguishes {α : Type} {value : α → Int}
    (injective : Function.Injective value) :
    Distinguishes fun a => .int (value a) := by
  intro left right equal
  simp only [JsonValue.sortKeys_scalar, JsonValue.scalar.injEq,
    JsonScalar.int.injEq] at equal
  exact injective equal

theorem identifier_distinguishes {kind : IdentifierKind} :
    Distinguishes fun value : Identifier kind => .string value.value :=
  string_distinguishes fun _ _ => Identifier.ext

theorem stableText_distinguishes {kind : StableTextKind} :
    Distinguishes fun value : StableText kind => .string value.value :=
  string_distinguishes fun _ _ => StableText.ext

theorem pipelineVersion_distinguishes :
    Distinguishes fun value : PipelineVersion => .int value.number :=
  int_distinguishes fun _ _ equal =>
    congrArg PipelineVersion.mk (PositiveSequence.ext equal)

theorem attemptNumber_distinguishes :
    Distinguishes fun value : AttemptNumber => .int value.number :=
  int_distinguishes fun _ _ equal =>
    congrArg AttemptNumber.mk (PositiveSequence.ext equal)

theorem duration_distinguishes :
    Distinguishes fun value : Duration => .int value.microseconds :=
  int_distinguishes fun _ _ => Duration.ext

theorem timestamp_distinguishes :
    Distinguishes fun value : UtcTimestamp => .string value.toText :=
  string_distinguishes UtcTimestamp.toText_injective

theorem currency_distinguishes :
    Distinguishes fun value : CurrencyCode => .string value.value :=
  string_distinguishes fun _ _ => CurrencyCode.ext

theorem fingerprint_distinguishes :
    Distinguishes fun value : StateFingerprint => .string value.value :=
  string_distinguishes fun _ _ => StateFingerprint.ext

/-- The words of an enumeration distinguish its values. -/
theorem text_distinguishes {α : Type} {value : α → String}
    (injective : Function.Injective value) :
    Distinguishes fun a => .string (text (value a)) :=
  string_distinguishes fun _ _ equal => injective (text_injective equal)

theorem RunState.value_injective : Function.Injective RunState.value := by
  intro left right equal
  cases left <;> cases right <;> first | rfl | exact absurd equal (by decide)

theorem WorkItemState.value_injective :
    Function.Injective WorkItemState.value := by
  intro left right equal
  cases left <;> cases right <;> first | rfl | exact absurd equal (by decide)

theorem FailureClassification.value_injective :
    Function.Injective FailureClassification.value := by
  intro left right equal
  cases left <;> cases right <;> first | rfl | exact absurd equal (by decide)

theorem FailureDisposition.value_injective :
    Function.Injective FailureDisposition.value := by
  intro left right equal
  cases left <;> cases right <;> first | rfl | exact absurd equal (by decide)

theorem ReconciliationClassification.value_injective :
    Function.Injective ReconciliationClassification.value := by
  intro left right equal
  cases left <;> cases right <;> first | rfl | exact absurd equal (by decide)

theorem ReconciliationField.value_injective :
    Function.Injective ReconciliationField.value := by
  intro left right equal
  cases left <;> cases right <;> first | rfl | exact absurd equal (by decide)

theorem RepairActionKind.value_injective :
    Function.Injective RepairActionKind.value := by
  intro left right equal
  cases left <;> cases right <;> first | rfl | exact absurd equal (by decide)

/-! ## Composite values -/

/-- A price is written with all three fields. -/
theorem moneyValue_distinguishes : Distinguishes moneyValue := by
  intro left right equal
  have currency := JsonValue.field_congr equal (text "currency")
  have exponent := JsonValue.field_congr equal (text "minor_unit_exponent")
  have units := JsonValue.field_congr equal (text "minor_units")
  simp [moneyValue, JsonValue.field, List.lookup] at currency exponent units
  exact Money.ext (CurrencyCode.ext currency) (by omega) units

theorem attributeItemValue_distinguishes :
    Distinguishes attributeItemValue := by
  intro left right equal
  simp only [attributeItemValue, JsonValue.sortKeys_array, List.map_cons,
    List.map_nil, JsonValue.sortKeys_string, JsonValue.array.injEq,
    List.cons.injEq, JsonValue.string.injEq, and_true] at equal
  exact Prod.ext equal.1 equal.2

theorem portValue_distinguishes : Distinguishes portValue :=
  stableText_distinguishes

/-- A node is written with its kind and the ports of both sides. -/
theorem pipelineNodePrimitive_distinguishes :
    Distinguishes pipelineNodePrimitive := by
  intro left right equal
  have nodeId := JsonValue.field_congr equal (text "id")
  have inputs := JsonValue.field_congr equal (text "inputs")
  have kind := JsonValue.field_congr equal (text "kind")
  have outputs := JsonValue.field_congr equal (text "outputs")
  simp [pipelineNodePrimitive, JsonValue.field, List.lookup,
    -List.map_map] at nodeId inputs kind outputs
  exact PipelineNode.ext (Identifier.ext nodeId) (StableText.ext kind)
    (portValue_distinguishes.items inputs)
    (portValue_distinguishes.items outputs)

/-- Both ends of an edge are written with node and port. -/
theorem pipelineEdgePrimitive_distinguishes :
    Distinguishes pipelineEdgePrimitive := by
  intro left right equal
  have source := JsonValue.field_congr equal (text "source")
  have target := JsonValue.field_congr equal (text "target")
  simp only [pipelineEdgePrimitive, JsonValue.field, List.lookup, text_beq,
    String.reduceBEq, Option.map_some, Option.some.injEq] at source target
  have sourceNode := JsonValue.field_congr source (text "node_id")
  have sourcePort := JsonValue.field_congr source (text "port")
  have targetNode := JsonValue.field_congr target (text "node_id")
  have targetPort := JsonValue.field_congr target (text "port")
  simp [JsonValue.field, List.lookup]
    at sourceNode sourcePort targetNode targetPort
  exact PipelineEdge.ext (Identifier.ext sourceNode)
    (StableText.ext sourcePort) (Identifier.ext targetNode)
    (StableText.ext targetPort)

theorem moneyValue_unicode (value : Money) : (moneyValue value).unicode := by
  simp [moneyValue, JsonValue.unicode, JsonValue.unicodeFields,
    isUnicode_of_ascii value.currency.value_ascii]

theorem timestamp_unicode (value : UtcTimestamp) :
    isUnicode value.toText :=
  isUnicode_of_ascii value.toText_ascii

theorem portValues_unicode (ports : List PortName) :
    JsonValue.unicodeItems (ports.map portValue) :=
  JsonValue.unicodeItems_map fun port _ => port.value_unicode

section Adapters

variable [PythonRuntime]

/-- The items are written in the order in which they are kept. -/
theorem attributesValue_distinguishes : Distinguishes attributesValue := by
  intro left right equal
  simp only [attributesValue, JsonValue.sortKeys_array,
    JsonValue.array.injEq] at equal
  exact InventoryAttributes.ext
    (attributeItemValue_distinguishes.items equal)

/-- The effect of a record is its business content. -/
theorem inventoryEffectValue_content {left right : InventoryRecord}
    (equal : (inventoryEffectValue left).sortKeys =
      (inventoryEffectValue right).sortKeys) :
    left.content = right.content := by
  have attributes := JsonValue.field_congr equal (text "attributes")
  have name := JsonValue.field_congr equal (text "name")
  have quantity := JsonValue.field_congr equal (text "quantity")
  have sku := JsonValue.field_congr equal (text "sku")
  have price := JsonValue.field_congr equal (text "unit_price")
  have updated := JsonValue.field_congr equal (text "updated_at")
  simp [inventoryEffectValue, JsonValue.field, List.lookup]
    at attributes name quantity sku price updated
  simp only [InventoryRecord.content, BusinessContent.mk.injEq]
  exact ⟨sku, name, quantity, moneyValue_distinguishes _ _ price,
    UtcTimestamp.toText_injective updated,
    attributesValue_distinguishes _ _ attributes⟩

/-- Equal content is written equally. -/
theorem inventoryEffectValue_congr {left right : InventoryRecord}
    (content : left.content = right.content) :
    inventoryEffectValue left = inventoryEffectValue right := by
  simp only [InventoryRecord.content, BusinessContent.mk.injEq] at content
  obtain ⟨sku, name, quantity, price, updated, attributes⟩ := content
  simp only [inventoryEffectValue, sku, name, quantity, price, updated,
    attributes]

theorem inventoryRecordValue_distinguishes :
    Distinguishes inventoryRecordValue := by
  intro left right equal
  have attributes := JsonValue.field_congr equal (text "attributes")
  have connector := JsonValue.field_congr equal (text "connector_id")
  have name := JsonValue.field_congr equal (text "name")
  have quantity := JsonValue.field_congr equal (text "quantity")
  have sku := JsonValue.field_congr equal (text "sku")
  have key := JsonValue.field_congr equal (text "source_record_key")
  have price := JsonValue.field_congr equal (text "unit_price")
  have updated := JsonValue.field_congr equal (text "updated_at")
  simp [inventoryRecordValue, JsonValue.field, List.lookup]
    at attributes connector name quantity sku key price updated
  apply InventoryRecord.ext_content _ (Identifier.ext connector) key
  simp only [InventoryRecord.content, BusinessContent.mk.injEq]
  exact ⟨sku, name, quantity, moneyValue_distinguishes _ _ price,
    UtcTimestamp.toText_injective updated,
    attributesValue_distinguishes _ _ attributes⟩

/-- A mismatch is written with its field and both values. -/
theorem fieldMismatchValue_distinguishes :
    Distinguishes fieldMismatchValue := by
  intro left right equal
  have field := JsonValue.field_congr equal (text "field")
  have source := JsonValue.field_congr equal (text "source")
  have target := JsonValue.field_congr equal (text "target")
  simp [fieldMismatchValue, JsonValue.field, List.lookup]
    at field source target
  have sameField : left.field = right.field :=
    ReconciliationField.value_injective (text_injective field)
  -- The field fixes the constructor, and with it the type of both sides.
  cases left with
  | name leftSource leftTarget leftDiffers =>
      cases right with
      | name rightSource rightTarget rightDiffers =>
          simp [comparableValues] at source target
          subst source
          subst target
          rfl
      | _ => cases sameField
  | quantity leftSource leftTarget leftDiffers =>
      cases right with
      | quantity rightSource rightTarget rightDiffers =>
          simp [comparableValues] at source target
          subst source
          subst target
          rfl
      | _ => cases sameField
  | unitPrice leftSource leftTarget leftDiffers =>
      cases right with
      | unitPrice rightSource rightTarget rightDiffers =>
          cases moneyValue_distinguishes _ _ source
          cases moneyValue_distinguishes _ _ target
          rfl
      | _ => cases sameField
  | updatedAt leftSource leftTarget leftDiffers =>
      cases right with
      | updatedAt rightSource rightTarget rightDiffers =>
          simp [comparableValues] at source target
          cases UtcTimestamp.toText_injective source
          cases UtcTimestamp.toText_injective target
          rfl
      | _ => cases sameField
  | attributes leftSource leftTarget leftDiffers =>
      cases right with
      | attributes rightSource rightTarget rightDiffers =>
          cases attributesValue_distinguishes _ _ source
          cases attributesValue_distinguishes _ _ target
          rfl
      | _ => cases sameField

/-- The records of both sides determine an outcome. -/
theorem reconciliationOutcomePrimitive_distinguishes :
    Distinguishes reconciliationOutcomePrimitive := by
  intro left right equal
  have sources := JsonValue.field_congr equal (text "source_records")
  have targets := JsonValue.field_congr equal (text "target_records")
  simp [reconciliationOutcomePrimitive, JsonValue.field, List.lookup,
    -List.map_map] at sources targets
  exact ReconciliationOutcome.ext
    (inventoryRecordValue_distinguishes.items sources)
    (inventoryRecordValue_distinguishes.items targets)

/-- `null` is written for no record only. -/
theorem optionalRecordValue_distinguishes :
    Distinguishes (optionalRecordValue inventoryRecordValue) := by
  intro left right equal
  cases left with
  | none =>
      cases right with
      | none => rfl
      | some record => cases equal
  | some record =>
      cases right with
      | none => cases equal
      | some other =>
          rw [inventoryRecordValue_distinguishes record other equal]

theorem repairActionPrimitive_distinguishes :
    Distinguishes repairActionPrimitive := by
  intro left right equal
  have expected := JsonValue.field_congr equal (text "expected_target_record")
  have kind := JsonValue.field_congr equal (text "kind")
  have proposed := JsonValue.field_congr equal (text "proposed_record")
  have actionId := JsonValue.field_congr equal (text "action_id")
  have conflictId := JsonValue.field_congr equal (text "conflict_id")
  have fingerprint := JsonValue.field_congr equal (text "state_fingerprint")
  simp [repairActionPrimitive, repairActionValue, JsonValue.field,
    List.lookup] at expected kind proposed actionId conflictId fingerprint
  have fields : left.toActionFields = right.toActionFields := by
    obtain ⟨leftFields, leftMismatches, leftValid⟩ := left
    obtain ⟨rightFields, rightMismatches, rightValid⟩ := right
    cases leftFields
    cases rightFields
    simp only [ActionFields.mk.injEq]
    exact ⟨Identifier.ext actionId, Identifier.ext conflictId,
      StateFingerprint.ext fingerprint,
      RepairActionKind.value_injective (text_injective kind),
      inventoryRecordValue_distinguishes _ _ proposed,
      optionalRecordValue_distinguishes _ _ expected⟩
  exact RepairAction.ext fields

/-- The plan adapter determines everything but the binding. -/
theorem repairPlanPrimitive_upToBinding {left right : RepairPlan}
    (equal : (repairPlanPrimitive left).sortKeys =
      (repairPlanPrimitive right).sortKeys) :
    left.planId = right.planId ∧
      left.stateFingerprint = right.stateFingerprint ∧
      left.actions = right.actions := by
  have actions := JsonValue.field_congr equal (text "actions")
  have planId := JsonValue.field_congr equal (text "plan_id")
  have fingerprint := JsonValue.field_congr equal (text "state_fingerprint")
  simp [repairPlanPrimitive, JsonValue.field, List.lookup, -List.map_map]
    at actions planId fingerprint
  exact ⟨Identifier.ext planId, StateFingerprint.ext fingerprint,
    repairActionPrimitive_distinguishes.items actions⟩

/-! ## Texts and sizes of what the adapters write -/

/-- Values of a name mismatch are free texts; all others are canonical. -/
def FieldMismatch.validText : FieldMismatch → Bool
  | .name source target _ => isUnicode source && isUnicode target
  | _ => true

theorem attributesValue_unicode (value : InventoryAttributes) :
    (attributesValue value).unicode := by
  simp only [attributesValue, JsonValue.unicode]
  apply JsonValue.unicodeItems_map
  intro item member
  have valid := value.items_unicode member
  simp [attributeItemValue, JsonValue.unicode, JsonValue.unicodeItems,
    valid.1, valid.2]

theorem inventoryRecordValue_unicode (value : InventoryRecord) :
    (inventoryRecordValue value).unicode := by
  simp [inventoryRecordValue, JsonValue.unicode, JsonValue.unicodeFields,
    attributesValue_unicode, moneyValue_unicode, timestamp_unicode,
    value.connectorId.value_unicode, value.name_unicode,
    isUnicode_of_ascii value.sku_ascii, value.sourceRecordKey_unicode]

theorem inventoryEffectValue_unicode (value : InventoryRecord) :
    (inventoryEffectValue value).unicode := by
  simp [inventoryEffectValue, JsonValue.unicode, JsonValue.unicodeFields,
    attributesValue_unicode, moneyValue_unicode, timestamp_unicode,
    value.name_unicode, isUnicode_of_ascii value.sku_ascii]

theorem fieldMismatchValue_unicode {value : FieldMismatch}
    (valid : value.validText) :
    (fieldMismatchValue value).unicode := by
  cases value <;>
    simp_all [fieldMismatchValue, comparableValues, FieldMismatch.validText,
      JsonValue.unicode, JsonValue.unicodeFields, moneyValue_unicode,
      attributesValue_unicode, timestamp_unicode]

/-- The mismatches of two records hold their normalized names. -/
theorem fieldMismatches_validText (source target : InventoryRecord) :
    ∀ mismatch ∈ fieldMismatches source target, mismatch.validText := by
  intro mismatch member
  simp only [fieldMismatches, List.mem_append, mismatchOf] at member
  rcases member with (((name | quantity) | price) | updated) | attributes
  · split at name
    · cases name
    · cases List.mem_singleton.mp name
      simp [FieldMismatch.validText, source.name_unicode,
        target.name_unicode]
  · split at quantity
    · cases quantity
    · cases List.mem_singleton.mp quantity
      rfl
  · split at price
    · cases price
    · cases List.mem_singleton.mp price
      rfl
  · split at updated
    · cases updated
    · cases List.mem_singleton.mp updated
      rfl
  · split at attributes
    · cases attributes
    · cases List.mem_singleton.mp attributes
      rfl

/-- Mismatches of an outcome or an action come from comparing records. -/
def ComeFromRecords (mismatches : List FieldMismatch) : Prop :=
  mismatches = [] ∨
    ∃ source target, mismatches = fieldMismatches source target

/-- A comparison reads every value from the two records. -/
theorem differencesBetween_comeFromRecords
    {source target : InventoryRecord} {mismatches : List FieldMismatch}
    (compared : differencesBetween source target = .ok mismatches) :
    ComeFromRecords mismatches := by
  simp only [differencesBetween, bind_eq_ok] at compared
  obtain ⟨_, _, same⟩ := compared
  cases same
  exact .inr ⟨source, target, rfl⟩

/-- The records of an outcome are classified as it says. -/
theorem ReconciliationOutcome.classified (outcome : ReconciliationOutcome) :
    (∀ record ∈ outcome.sourceRecords ++ outcome.targetRecords,
        record.sku = outcome.sku) ∧
      classifyRecords outcome.sourceRecords outcome.targetRecords =
        .ok (outcome.classification, outcome.mismatches) := by
  have valid := outcome.valid
  simp only [outcomeFields, bind_eq_ok] at valid
  obtain ⟨sources, _, targets, _, classified⟩ := valid
  split at classified
  next => cases classified
  next first rest all =>
    simp only [bind_eq_ok, require_eq_ok, List.all_eq_true, beq_iff_eq]
      at classified
    obtain ⟨_, share, ⟨classification, mismatches⟩, derived, same⟩ :=
      classified
    have fields := Except.ok.inj same
    rw [← fields]
    dsimp only
    rw [all]
    exact ⟨share, derived⟩

/-- Only a pair of single records is compared. -/
theorem ReconciliationOutcome.mismatches_comeFromRecords
    (outcome : ReconciliationOutcome) :
    ComeFromRecords outcome.mismatches := by
  have derived := outcome.classified.2
  simp only [classifyRecords] at derived
  split at derived
  · exact .inl (congrArg Prod.snd (Except.ok.inj derived)).symm
  · exact .inl (congrArg Prod.snd (Except.ok.inj derived)).symm
  · exact .inl (congrArg Prod.snd (Except.ok.inj derived)).symm
  · exact .inl (congrArg Prod.snd (Except.ok.inj derived)).symm
  · exact .inl (congrArg Prod.snd (Except.ok.inj derived)).symm
  · obtain ⟨found, compared, same⟩ := bind_eq_ok.mp derived
    obtain ⟨_, rfl⟩ := Prod.mk.inj (Except.ok.inj same)
    exact differencesBetween_comeFromRecords compared

theorem RepairAction.mismatches_comeFromRecords (action : RepairAction) :
    ComeFromRecords action.mismatches := by
  have valid := action.valid
  simp only [ActionFields.deriveMismatches] at valid
  split at valid
  · exact .inl (Except.ok.inj valid).symm
  · cases valid
  · cases valid
  · obtain ⟨found, compared, rest⟩ := bind_eq_ok.mp valid
    obtain ⟨_, _, same⟩ := bind_eq_ok.mp rest
    cases same
    exact differencesBetween_comeFromRecords compared

theorem mismatchValues_unicode {mismatches : List FieldMismatch}
    (origin : ComeFromRecords mismatches) :
    JsonValue.unicodeItems (mismatches.map fieldMismatchValue) := by
  apply JsonValue.unicodeItems_map
  intro mismatch member
  apply fieldMismatchValue_unicode
  rcases origin with rfl | ⟨source, target, rfl⟩
  · cases member
  · exact fieldMismatches_validText source target mismatch member

theorem recordValues_unicode (records : List InventoryRecord) :
    JsonValue.unicodeItems (records.map inventoryRecordValue) :=
  JsonValue.unicodeItems_map fun record _ =>
    inventoryRecordValue_unicode record

/-- The key of an outcome is the SKU of a record. -/
theorem ReconciliationOutcome.sku_ascii (outcome : ReconciliationOutcome) :
    outcome.sku.all isAscii := by
  obtain ⟨record, same⟩ := outcome.sku_of_record
  rw [same]
  exact record.sku_ascii

theorem reconciliationOutcomePrimitive_unicode
    (outcome : ReconciliationOutcome) :
    (reconciliationOutcomePrimitive outcome).unicode := by
  simp [reconciliationOutcomePrimitive, JsonValue.unicode,
    JsonValue.unicodeFields, recordValues_unicode,
    mismatchValues_unicode outcome.mismatches_comeFromRecords,
    isUnicode_of_ascii outcome.sku_ascii]

theorem repairActionValue_unicode (identity provenance fingerprint : Bool)
    (action : RepairAction) :
    (repairActionValue identity provenance fingerprint action).unicode := by
  have recordValue : ∀ record, (if provenance then inventoryRecordValue record
      else inventoryEffectValue record).unicode := by
    intro record
    cases provenance
    · exact inventoryEffectValue_unicode record
    · exact inventoryRecordValue_unicode record
  have expected : (optionalRecordValue
      (if provenance then inventoryRecordValue else inventoryEffectValue)
      action.expectedTargetRecord).unicode := by
    cases action.expectedTargetRecord with
    | none => rfl
    | some record =>
        cases provenance
        · exact inventoryEffectValue_unicode record
        · exact inventoryRecordValue_unicode record
  have proposed := recordValue action.proposedRecord
  cases identity <;> cases fingerprint <;> cases provenance <;>
    simp_all [repairActionValue, JsonValue.unicode, JsonValue.unicodeFields,
      mismatchValues_unicode action.mismatches_comeFromRecords,
      action.actionId.value_unicode, action.conflictId.value_unicode,
      action.stateFingerprint.value_unicode]

theorem repairPlanPrimitive_unicode (plan : RepairPlan) :
    (repairPlanPrimitive plan).unicode := by
  have actions : JsonValue.unicodeItems
      (plan.actions.map repairActionPrimitive) :=
    JsonValue.unicodeItems_map fun action _ =>
      repairActionValue_unicode true true true action
  simp [repairPlanPrimitive, JsonValue.unicode, JsonValue.unicodeFields,
    actions, plan.planId.value_unicode, plan.stateFingerprint.value_unicode]

/-! ## Whole values -/

/--
Free texts of the value are valid Unicode.  Only field mismatches hold a text
that no validator has seen.
-/
def CanonicalValue.validText : CanonicalValue → Bool
  | ⟨.fieldMismatch, mismatch⟩ => FieldMismatch.validText mismatch
  | _ => true

/-- No adapter writes a surrogate of a valid value. -/
theorem CanonicalValue.primitive_unicode {value : CanonicalValue}
    (valid : value.validText) :
    ((adapter value.type).toPrimitive value.value).unicode := by
  obtain ⟨type, value⟩ := value
  cases type with
  | pipelineId => exact Identifier.value_unicode value
  | nodeId => exact Identifier.value_unicode value
  | connectorId => exact Identifier.value_unicode value
  | runId => exact Identifier.value_unicode value
  | workItemId => exact Identifier.value_unicode value
  | artifactId => exact Identifier.value_unicode value
  | conflictId => exact Identifier.value_unicode value
  | repairPlanId => exact Identifier.value_unicode value
  | repairActionId => exact Identifier.value_unicode value
  | pipelineVersion => rfl
  | attemptNumber => rfl
  | utcTimestamp => exact timestamp_unicode value
  | duration => rfl
  | currencyCode =>
      exact isUnicode_of_ascii (CurrencyCode.value_ascii value)
  | money => exact moneyValue_unicode value
  | inventoryAttributes => exact attributesValue_unicode value
  | inventoryRecord => exact inventoryRecordValue_unicode value
  | stateFingerprint => exact StateFingerprint.value_unicode value
  | nodeKind => exact StableText.value_unicode value
  | portName => exact StableText.value_unicode value
  | partitionKey => exact StableText.value_unicode value
  | pipelineNode =>
      have id := (PipelineNode.nodeId value).value_unicode
      have kind := (PipelineNode.kind value).value_unicode
      have inputs := portValues_unicode (PipelineNode.inputPorts value)
      have outputs := portValues_unicode (PipelineNode.outputPorts value)
      simp [adapter, pipelineNodePrimitive, JsonValue.unicode,
        JsonValue.unicodeFields, id, kind, inputs, outputs]
  | pipelineEdge =>
      have sourceNode := (PipelineEdge.sourceNodeId value).value_unicode
      have sourcePort := (PipelineEdge.sourcePort value).value_unicode
      have targetNode := (PipelineEdge.targetNodeId value).value_unicode
      have targetPort := (PipelineEdge.targetPort value).value_unicode
      simp [adapter, pipelineEdgePrimitive, JsonValue.unicode,
        JsonValue.unicodeFields, sourceNode, sourcePort, targetNode,
        targetPort]
  | runState => exact isUnicode_text _
  | workItemState => exact isUnicode_text _
  | failureClassification => exact isUnicode_text _
  | failureDisposition => exact isUnicode_text _
  | reconciliationClassification => exact isUnicode_text _
  | reconciliationField => exact isUnicode_text _
  | fieldMismatch => exact fieldMismatchValue_unicode valid
  | reconciliationOutcome =>
      exact reconciliationOutcomePrimitive_unicode value
  | repairActionKind => exact isUnicode_text _
  | repairAction => exact repairActionValue_unicode true true true value
  | repairPlan => exact repairPlanPrimitive_unicode value

/-- Two plans that agree in everything but their bindings. -/
def DifferOnlyInBinding (left right : CanonicalValue) : Prop :=
  ∃ first second : RepairPlan,
    left = ⟨.repairPlan, first⟩ ∧ right = ⟨.repairPlan, second⟩ ∧
      first.planId = second.planId ∧
      first.stateFingerprint = second.stateFingerprint ∧
      first.actions = second.actions ∧ first.binding ≠ second.binding

/-- All of a plan is written but its binding. -/
theorem repairPlanPrimitive_distinguishes {left right : RepairPlan}
    (equal : (repairPlanPrimitive left).sortKeys =
      (repairPlanPrimitive right).sortKeys) :
    left = right ∨
      DifferOnlyInBinding ⟨.repairPlan, left⟩ ⟨.repairPlan, right⟩ := by
  obtain ⟨planId, fingerprint, actions⟩ :=
    repairPlanPrimitive_upToBinding equal
  by_cases binding : left.binding = right.binding
  · refine .inl (RepairPlan.ext ?_)
    obtain ⟨leftFields, leftValid⟩ := left
    obtain ⟨rightFields, rightValid⟩ := right
    cases leftFields
    cases rightFields
    simp only [PlanFields.mk.injEq]
    exact ⟨planId, fingerprint, actions, binding⟩
  · exact .inr ⟨left, right, rfl, rfl, planId, fingerprint, actions, binding⟩

/-- What the registered adapter of a type leaves undetermined. -/
theorem adapter_distinguishes {type : CanonicalType}
    {left right : type.Carrier}
    (equal : ((adapter type).toPrimitive left).sortKeys =
      ((adapter type).toPrimitive right).sortKeys) :
    left = right ∨ DifferOnlyInBinding ⟨type, left⟩ ⟨type, right⟩ := by
  cases type with
  | pipelineId => exact .inl (identifier_distinguishes _ _ equal)
  | nodeId => exact .inl (identifier_distinguishes _ _ equal)
  | connectorId => exact .inl (identifier_distinguishes _ _ equal)
  | runId => exact .inl (identifier_distinguishes _ _ equal)
  | workItemId => exact .inl (identifier_distinguishes _ _ equal)
  | artifactId => exact .inl (identifier_distinguishes _ _ equal)
  | conflictId => exact .inl (identifier_distinguishes _ _ equal)
  | repairPlanId => exact .inl (identifier_distinguishes _ _ equal)
  | repairActionId => exact .inl (identifier_distinguishes _ _ equal)
  | pipelineVersion => exact .inl (pipelineVersion_distinguishes _ _ equal)
  | attemptNumber => exact .inl (attemptNumber_distinguishes _ _ equal)
  | utcTimestamp => exact .inl (timestamp_distinguishes _ _ equal)
  | duration => exact .inl (duration_distinguishes _ _ equal)
  | currencyCode => exact .inl (currency_distinguishes _ _ equal)
  | money => exact .inl (moneyValue_distinguishes _ _ equal)
  | inventoryAttributes =>
      exact .inl (attributesValue_distinguishes _ _ equal)
  | inventoryRecord =>
      exact .inl (inventoryRecordValue_distinguishes _ _ equal)
  | stateFingerprint => exact .inl (fingerprint_distinguishes _ _ equal)
  | nodeKind => exact .inl (stableText_distinguishes _ _ equal)
  | portName => exact .inl (portValue_distinguishes _ _ equal)
  | partitionKey => exact .inl (stableText_distinguishes _ _ equal)
  | pipelineNode =>
      exact .inl (pipelineNodePrimitive_distinguishes _ _ equal)
  | pipelineEdge =>
      exact .inl (pipelineEdgePrimitive_distinguishes _ _ equal)
  | runState =>
      exact .inl (text_distinguishes RunState.value_injective _ _ equal)
  | workItemState =>
      exact .inl (text_distinguishes WorkItemState.value_injective _ _ equal)
  | failureClassification =>
      exact .inl (text_distinguishes FailureClassification.value_injective
        _ _ equal)
  | failureDisposition =>
      exact .inl (text_distinguishes FailureDisposition.value_injective
        _ _ equal)
  | reconciliationClassification =>
      exact .inl (text_distinguishes
        ReconciliationClassification.value_injective _ _ equal)
  | reconciliationField =>
      exact .inl (text_distinguishes ReconciliationField.value_injective
        _ _ equal)
  | fieldMismatch =>
      exact .inl (fieldMismatchValue_distinguishes _ _ equal)
  | reconciliationOutcome =>
      exact .inl (reconciliationOutcomePrimitive_distinguishes _ _ equal)
  | repairActionKind =>
      exact .inl (text_distinguishes RepairActionKind.value_injective
        _ _ equal)
  | repairAction =>
      exact .inl (repairActionPrimitive_distinguishes _ _ equal)
  | repairPlan => exact repairPlanPrimitive_distinguishes equal

/-! ## Type tags -/

/-- The registered types, in registration order. -/
def canonicalTypes : List CanonicalType :=
  [.pipelineId, .nodeId, .connectorId, .runId, .workItemId, .artifactId,
    .conflictId, .repairPlanId, .repairActionId, .pipelineVersion,
    .attemptNumber, .utcTimestamp, .duration, .currencyCode, .money,
    .inventoryAttributes, .inventoryRecord, .stateFingerprint, .nodeKind,
    .portName, .partitionKey, .pipelineNode, .pipelineEdge, .runState,
    .workItemState, .failureClassification, .failureDisposition,
    .reconciliationClassification, .reconciliationField, .fieldMismatch,
    .reconciliationOutcome, .repairActionKind, .repairAction, .repairPlan]

omit [PythonRuntime] in
theorem mem_canonicalTypes (type : CanonicalType) :
    type ∈ canonicalTypes := by
  cases type <;> decide

/-- No two registered types share a tag. -/
theorem typeTag_injective {left right : CanonicalType}
    (equal : (adapter left).typeTag = (adapter right).typeTag) :
    left = right := by
  have distinct :
      (canonicalTypes.map fun type => (adapter type).typeTag).Nodup := by
    simp [canonicalTypes, adapter]
  exact List.inj_on_of_nodup_map distinct (mem_canonicalTypes left)
    (mem_canonicalTypes right) equal

/-! ## Encoded values -/

/-- A closed primitive is encoded once its envelope can be dumped. -/
theorem encodeEnvelope_eq_ok {typeTag : String} {value : JsonValue}
    {version : CanonicalVersion} {bytes : Bytes} :
    encodeEnvelope typeTag value version = .ok bytes ↔
      value.closed ∧ ∃ rendered,
        jsonDumps (envelope typeTag value version) = .ok rendered ∧
          bytes = encodeAscii rendered := by
  simp only [encodeEnvelope, validatePrimitive, bind_eq_ok, require_eq_ok]
  constructor
  · rintro ⟨_, closed, rendered, dumped, same⟩
    cases same
    exact ⟨closed, rendered, dumped, rfl⟩
  · rintro ⟨closed, rendered, dumped, rfl⟩
    exact ⟨(), closed, rendered, dumped, rfl⟩

omit [PythonRuntime] in
/-- Version and tag are Unicode. -/
theorem envelope_unicode {typeTag : String} {value : JsonValue}
    {version : CanonicalVersion} (valid : value.unicode) :
    (envelope typeTag value version).unicode := by
  simp [envelope, JsonValue.unicode, JsonValue.unicodeFields, valid]

/-- Equal envelopes carry one tag and one primitive up to key order. -/
theorem encodeEnvelope_inj {leftTag rightTag : String}
    {left right : JsonValue} {version : CanonicalVersion} {bytes : Bytes}
    (leftUnicode : left.unicode) (rightUnicode : right.unicode)
    (leftEncodes : encodeEnvelope leftTag left version = .ok bytes)
    (rightEncodes : encodeEnvelope rightTag right version = .ok bytes) :
    leftTag = rightTag ∧ left.sortKeys = right.sortKeys := by
  obtain ⟨_, leftText, leftDumps, rfl⟩ := encodeEnvelope_eq_ok.mp leftEncodes
  obtain ⟨_, rightText, rightDumps, sameBytes⟩ :=
    encodeEnvelope_eq_ok.mp rightEncodes
  have sameText : leftText = rightText :=
    encodeAscii_injOn (jsonDumps_ascii leftDumps)
      (jsonDumps_ascii rightDumps) sameBytes
  subst sameText
  have sorted :=
    jsonDumps_inj (envelope_unicode leftUnicode)
      (envelope_unicode rightUnicode) leftDumps rightDumps
  have tag := JsonValue.field_congr sorted (text "type")
  have value := JsonValue.field_congr sorted (text "value")
  simp [envelope, JsonValue.field, List.lookup] at tag value
  exact ⟨text_injective tag, value⟩

theorem encodeCanonical_eq_ok {value : CanonicalValue} {bytes : Bytes} :
    encodeCanonical value = .ok bytes ↔
      encodeEnvelope (adapter value.type).typeTag
        ((adapter value.type).toPrimitive value.value) .v1 = .ok bytes := by
  simp only [encodeCanonical, CanonicalVersion.encode]
  split
  next encoded form => rw [form]
  next error form =>
    rw [form]
    constructor
    · intro raised
      split at raised <;> cases raised
    · intro raised
      cases raised

/-- Two encodings agree exactly for equal values and for plans that differ
only in their bindings. -/
theorem encodeCanonical_eq_iff {left right : CanonicalValue}
    {leftBytes rightBytes : Bytes}
    (leftText : left.validText) (rightText : right.validText)
    (leftEncodes : encodeCanonical left = .ok leftBytes)
    (rightEncodes : encodeCanonical right = .ok rightBytes) :
    leftBytes = rightBytes ↔
      left = right ∨ DifferOnlyInBinding left right := by
  constructor
  · intro same
    subst same
    obtain ⟨tags, primitives⟩ :=
      encodeEnvelope_inj (CanonicalValue.primitive_unicode leftText)
        (CanonicalValue.primitive_unicode rightText)
        (encodeCanonical_eq_ok.mp leftEncodes)
        (encodeCanonical_eq_ok.mp rightEncodes)
    obtain ⟨leftType, leftValue⟩ := left
    obtain ⟨rightType, rightValue⟩ := right
    have types : leftType = rightType := typeTag_injective tags
    subst types
    rcases adapter_distinguishes primitives with rfl | binding
    · exact .inl rfl
    · exact .inr binding
  · rintro (rfl | ⟨first, second, rfl, rfl, planId, fingerprint, actions, _⟩)
    · rw [leftEncodes] at rightEncodes
      exact Except.ok.inj rightEncodes
    · have primitives : repairPlanPrimitive first =
          repairPlanPrimitive second := by
        simp only [repairPlanPrimitive, planId, fingerprint, actions]
      have leftForm := encodeCanonical_eq_ok.mp leftEncodes
      have rightForm := encodeCanonical_eq_ok.mp rightEncodes
      simp only [adapter] at leftForm rightForm
      rw [primitives, rightForm] at leftForm
      exact (Except.ok.inj leftForm).symm

/-- The encoding identifies values exactly when no two plans that differ only
in their bindings are compared. -/
theorem encodeCanonical_identifies {left right : CanonicalValue}
    {leftBytes rightBytes : Bytes}
    (leftText : left.validText) (rightText : right.validText)
    (leftEncodes : encodeCanonical left = .ok leftBytes)
    (rightEncodes : encodeCanonical right = .ok rightBytes) :
    (leftBytes = rightBytes ↔ left = right) ↔
      ¬ DifferOnlyInBinding left right := by
  rw [encodeCanonical_eq_iff leftText rightText leftEncodes rightEncodes]
  constructor
  · rintro identifies ⟨first, second, rfl, rfl, parts⟩
    have same := identifies.mp (.inr ⟨first, second, rfl, rfl, parts⟩)
    have plans : first = second := by
      cases same
      rfl
    exact parts.2.2.2 (by rw [plans])
  · intro apart
    constructor
    · rintro (same | binding)
      · exact same
      · exact absurd binding apart
    · exact .inl

end Adapters

section Sample

attribute [local instance] asciiRuntime

/-- The creation of the sample record. -/
def sampleAction : RepairAction where
  actionId := ⟨text "rac_one", by decide +kernel⟩
  conflictId := ⟨text "cnf_one", by decide +kernel⟩
  stateFingerprint := .ofDigest (sha256 [])
  kind := .createTarget
  proposedRecord := sampleRecord
  expectedTargetRecord := none
  mismatches := []
  valid := rfl

/-- A plan without a binding. -/
def samplePlan : RepairPlan where
  planId := ⟨text "rpl_one", by decide +kernel⟩
  stateFingerprint := .ofDigest (sha256 [])
  actions := [sampleAction]
  binding := none
  valid := by decide +kernel

def sampleBinding : RepairPlanBinding where
  runId := ⟨text "run_one", by decide +kernel⟩
  reconciliationFingerprint := .ofDigest (sha256 [])
  sourceInputIdentity := (sha256 []).hex
  targetInputIdentity := (sha256 []).hex
  policyVersion := 1
  generationVersion := 1
  rulesVersion := 1
  analysisVersion := 1
  analyticalQueryVersion := 1
  actionCount := 1
  valid := by decide +kernel

/-- The same plan, bound to a run. -/
def sampleBoundPlan : RepairPlan where
  planId := samplePlan.planId
  stateFingerprint := samplePlan.stateFingerprint
  actions := samplePlan.actions
  binding := some sampleBinding
  valid := by decide +kernel

theorem encodeCanonical_identifies_record_and_plan :
    ∃ recordBytes planBytes,
      encodeCanonical ⟨.inventoryRecord, sampleRecord⟩ = .ok recordBytes ∧
      encodeCanonical ⟨.repairPlan, samplePlan⟩ = .ok planBytes ∧
      ((recordBytes = planBytes ↔
          (⟨.inventoryRecord, sampleRecord⟩ : CanonicalValue) =
            ⟨.repairPlan, samplePlan⟩) ↔
        ¬ DifferOnlyInBinding ⟨.inventoryRecord, sampleRecord⟩
          ⟨.repairPlan, samplePlan⟩) :=
  ⟨_, _, rfl, rfl, encodeCanonical_identifies rfl rfl rfl rfl⟩

/-- Two plans that differ only in their binding share their bytes. -/
theorem encodeCanonical_omits_binding :
    ∃ bytes,
      encodeCanonical ⟨.repairPlan, samplePlan⟩ = .ok bytes ∧
      encodeCanonical ⟨.repairPlan, sampleBoundPlan⟩ = .ok bytes ∧
      CanonicalValue.validText ⟨.repairPlan, samplePlan⟩ = true ∧
      CanonicalValue.validText ⟨.repairPlan, sampleBoundPlan⟩ = true ∧
      (⟨.repairPlan, samplePlan⟩ : CanonicalValue) ≠
        ⟨.repairPlan, sampleBoundPlan⟩ := by
  refine ⟨_, rfl, rfl, rfl, rfl, ?_⟩
  intro same
  cases same

end Sample

end ParityGrid.Domain
