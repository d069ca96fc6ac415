import ParityGrid.Domain.Canonical.Adapters

/-!
# Sizes of canonical values

Validated records are bounded in every field, so records and outcomes always
encode, and their encodings are far below the eight-byte length of a frame.
-/

namespace ParityGrid.Domain

open Foundation

/-! ## Lengths of validated texts -/

/-- A marker and at most 64 characters. -/
theorem Identifier.value_length {kind : IdentifierKind}
    (identifier : Identifier kind) :
    identifier.value.length ≤ 68 := by
  have valid := identifier.valid
  simp only [validateIdentifier, bind_eq_ok, require_eq_ok] at valid
  obtain ⟨_, _, _, _, _, _, _, sized, _⟩ := valid
  have marker : kind.marker.length = 4 := by
    cases kind <;> decide
  simp only [maxPayloadLength, Bool.and_eq_true, decide_eq_true_eq,
    List.length_drop, marker] at sized
  omega

/-- Microseconds and the final `Z` are always written. -/
theorem UtcTimestamp.toText_length (timestamp : UtcTimestamp) :
    timestamp.toText.length = 27 := by
  simp [toText]

theorem ReconciliationClassification.value_length
    (classification : ReconciliationClassification) :
    (text classification.value).length ≤ 32 := by
  cases classification <;> decide

/-! ## Money -/

/-- Both integers of a price have a decimal text. -/
theorem Money.integers (money : Money) :
    intReprError (money.minorUnitExponent : Int) = none ∧
      intReprError money.minorUnits = none := by
  have exponent := money.exponentValid
  have magnitude := money.magnitudeValid
  simp only [maxMinorUnitExponent, maxAbsoluteMinorUnits]
    at exponent magnitude
  exact ⟨intReprError_ordinary (by omega), intReprError_ordinary (by omega)⟩

theorem moneyValue_fits (money : Money) (budget : Nat) :
    (moneyValue money).fits (budget + 1) := by
  simp [moneyValue, JsonValue.fits, JsonValue.fitsFields, money.integers]

/-- A currency and two integers of ordinary size. -/
theorem moneyValue_extent (money : Money) :
    (moneyValue money).extent ≤ 10000 := by
  have currency := money.currency.shape.1
  have first : (text "currency").length = 8 := by decide
  have second : (text "minor_unit_exponent").length = 19 := by decide
  have third : (text "minor_units").length = 11 := by decide
  simp only [moneyValue, JsonValue.extent, JsonValue.extentFields, first,
    second, third]
  omega

section Sizes

variable [PythonRuntime]

/-! ## Attributes -/

/-- Attributes are an array of pairs of texts. -/
theorem attributesValue_fits (attributes : InventoryAttributes)
    (budget : Nat) :
    (attributesValue attributes).fits (budget + 2) := by
  simp only [attributesValue, JsonValue.fits]
  apply JsonValue.fitsItems_map
  intro item _
  simp [attributeItemValue, JsonValue.fits, JsonValue.fitsItems]

/-- At most 32 pairs of bounded keys and values. -/
theorem attributesValue_extent (attributes : InventoryAttributes) :
    (attributesValue attributes).extent ≤ 200000 := by
  have count := attributes.valid.count
  have items : JsonValue.extentItems
      (attributes.items.map attributeItemValue) ≤
        attributes.items.length * (1 + 4000) := by
    apply JsonValue.extentItems_map
    intro item member
    have key := (attributes.valid.keys item member).2
    have value : item.2.length ≤ 256 :=
      normalizeBusinessText_length (attributes.valid.values item member)
    simp only [attributeItemValue, JsonValue.extent, JsonValue.extentItems]
    omega
  simp only [maxAttributeItems] at count
  simp only [attributesValue, JsonValue.extent]
  have product : attributes.items.length * (1 + 4000) ≤ 32 * (1 + 4000) :=
    Nat.mul_le_mul_right _ count
  omega

/-! ## Records -/

theorem InventoryRecord.quantity_integer (record : InventoryRecord) :
    intReprError record.quantity = none := by
  have bounds := record.quantity_bounds
  exact intReprError_ordinary (by omega)

/-- A record nests no deeper than its attributes. -/
theorem inventoryRecordValue_fits (record : InventoryRecord) (budget : Nat) :
    (inventoryRecordValue record).fits (budget + 3) := by
  simp [inventoryRecordValue, JsonValue.fits, JsonValue.fitsFields,
    attributesValue_fits, moneyValue_fits, record.quantity_integer]

theorem inventoryEffectValue_fits (record : InventoryRecord) (budget : Nat) :
    (inventoryEffectValue record).fits (budget + 3) := by
  simp [inventoryEffectValue, JsonValue.fits, JsonValue.fitsFields,
    attributesValue_fits, moneyValue_fits, record.quantity_integer]

/-- What a record checks of its texts bounds its document. -/
theorem inventoryRecordValue_extent (record : InventoryRecord) :
    (inventoryRecordValue record).extent ≤ 300000 := by
  obtain ⟨sku, name, key⟩ := record.lengths
  have connector := record.connectorId.value_length
  have attributes := attributesValue_extent record.attributes
  have price := moneyValue_extent record.unitPrice
  have updated := record.updatedAt.toText_length
  have keys : (text "attributes").length = 10 ∧
      (text "connector_id").length = 12 ∧ (text "name").length = 4 ∧
      (text "quantity").length = 8 ∧ (text "sku").length = 3 ∧
      (text "source_record_key").length = 17 ∧
      (text "unit_price").length = 10 ∧ (text "updated_at").length = 10 := by
    decide
  simp only [inventoryRecordValue, JsonValue.extent, JsonValue.extentFields,
    keys, updated]
  omega

theorem inventoryEffectValue_extent (record : InventoryRecord) :
    (inventoryEffectValue record).extent ≤ 300000 := by
  obtain ⟨sku, name, _⟩ := record.lengths
  have attributes := attributesValue_extent record.attributes
  have price := moneyValue_extent record.unitPrice
  have updated := record.updatedAt.toText_length
  have keys : (text "attributes").length = 10 ∧ (text "name").length = 4 ∧
      (text "quantity").length = 8 ∧ (text "sku").length = 3 ∧
      (text "unit_price").length = 10 ∧ (text "updated_at").length = 10 := by
    decide
  simp only [inventoryEffectValue, JsonValue.extent, JsonValue.extentFields,
    keys, updated]
  omega

theorem recordValues_fits (records : List InventoryRecord) (budget : Nat) :
    JsonValue.fitsItems (budget + 3) (records.map inventoryRecordValue) :=
  JsonValue.fitsItems_map fun record _ =>
    inventoryRecordValue_fits record budget

/-- The size of a side is that of its records. -/
theorem recordValues_extent (records : List InventoryRecord) :
    JsonValue.extentItems (records.map inventoryRecordValue) ≤
      records.length * (1 + 300000) :=
  JsonValue.extentItems_map fun record _ => inventoryRecordValue_extent record

/-! ## Mismatches and outcomes -/

/-- Mismatches of records hold validated values on both sides. -/
theorem fieldMismatches_sized (source target : InventoryRecord)
    (budget : Nat) :
    ∀ mismatch ∈ fieldMismatches source target,
      (fieldMismatchValue mismatch).fits (budget + 3) ∧
        (fieldMismatchValue mismatch).extent ≤ 500000 := by
  have keys : (text "field").length = 5 ∧ (text "source").length = 6 ∧
      (text "target").length = 6 := by
    decide
  intro mismatch member
  have field := mismatch.field.value_length
  simp only [fieldMismatches, List.mem_append, mismatchOf] at member
  rcases member with (((name | quantity) | price) | updated) | attributes
  · split at name
    · cases name
    · cases List.mem_singleton.mp name
      have sourceName := source.lengths.2.1
      have targetName := target.lengths.2.1
      simp only [fieldMismatchValue, comparableValues, JsonValue.fits,
        JsonValue.fitsFields, JsonValue.extent, JsonValue.extentFields, keys]
      exact ⟨rfl, by omega⟩
  · split at quantity
    · cases quantity
    · cases List.mem_singleton.mp quantity
      simp only [fieldMismatchValue, comparableValues, JsonValue.fits,
        JsonValue.fitsFields, JsonValue.extent, JsonValue.extentFields, keys,
        source.quantity_integer, target.quantity_integer]
      exact ⟨rfl, by omega⟩
  · split at price
    · cases price
    · cases List.mem_singleton.mp price
      have sourcePrice := moneyValue_extent source.unitPrice
      have targetPrice := moneyValue_extent target.unitPrice
      simp only [fieldMismatchValue, comparableValues, JsonValue.fits,
        JsonValue.fitsFields, JsonValue.extent, JsonValue.extentFields, keys,
        moneyValue_fits]
      exact ⟨rfl, by omega⟩
  · split at updated
    · cases updated
    · cases List.mem_singleton.mp updated
      have sourceUpdated := source.updatedAt.toText_length
      have targetUpdated := target.updatedAt.toText_length
      simp only [fieldMismatchValue, comparableValues, JsonValue.fits,
        JsonValue.fitsFields, JsonValue.extent, JsonValue.extentFields, keys]
      exact ⟨rfl, by omega⟩
  · split at attributes
    · cases attributes
    · cases List.mem_singleton.mp attributes
      have sourceAttributes := attributesValue_extent source.attributes
      have targetAttributes := attributesValue_extent target.attributes
      simp only [fieldMismatchValue, comparableValues, JsonValue.fits,
        JsonValue.fitsFields, JsonValue.extent, JsonValue.extentFields, keys,
        attributesValue_fits]
      exact ⟨rfl, by omega⟩

/-- The at most five mismatches of two records are small. -/
theorem mismatchValues_sized {mismatches : List FieldMismatch}
    (origin : ComeFromRecords mismatches) (budget : Nat) :
    JsonValue.fitsItems (budget + 3) (mismatches.map fieldMismatchValue) ∧
      JsonValue.extentItems (mismatches.map fieldMismatchValue) ≤
        5 * (1 + 500000) := by
  rcases origin with rfl | ⟨source, target, rfl⟩
  · exact ⟨rfl, Nat.zero_le _⟩
  · have sized := fieldMismatches_sized source target budget
    constructor
    · exact JsonValue.fitsItems_map fun mismatch member =>
        (sized mismatch member).1
    · have items := JsonValue.extentItems_map fun mismatch member =>
        (sized mismatch member).2
      exact items.trans (Nat.mul_le_mul_right _
        (fieldMismatches_length source target))

/-- The key of an outcome is the SKU of a record. -/
theorem ReconciliationOutcome.sku_length (outcome : ReconciliationOutcome) :
    outcome.sku.length ≤ 64 := by
  obtain ⟨record, same⟩ := outcome.sku_of_record
  rw [same]
  exact record.lengths.1

/-- An outcome holds two bounded lists of records and their mismatches. -/
theorem reconciliationOutcomePrimitive_sized
    (outcome : ReconciliationOutcome) :
    (reconciliationOutcomePrimitive outcome).fits 99 ∧
      (reconciliationOutcomePrimitive outcome).extent ≤ 10 ^ 12 := by
  obtain ⟨sources, targets⟩ := outcome.sides
  have mismatches :=
    mismatchValues_sized outcome.mismatches_comeFromRecords 94
  have sourceExtent := recordValues_extent outcome.sourceRecords
  have targetExtent := recordValues_extent outcome.targetRecords
  have sku := outcome.sku_length
  have classification := outcome.classification.value_length
  have keys : (text "classification").length = 14 ∧
      (text "mismatches").length = 10 ∧ (text "sku").length = 3 ∧
      (text "source_records").length = 14 ∧
      (text "target_records").length = 14 := by
    decide
  simp only [maxRecordsPerSide] at sources targets
  constructor
  · simp only [reconciliationOutcomePrimitive, JsonValue.fits,
      JsonValue.fitsFields, mismatches.1,
      recordValues_fits outcome.sourceRecords 94,
      recordValues_fits outcome.targetRecords 94, Bool.and_self]
  · simp only [reconciliationOutcomePrimitive, JsonValue.extent,
      JsonValue.extentFields, keys]
    omega

/-! ## Envelopes of sized primitives -/

omit [PythonRuntime] in
/-- An envelope adds one level, its version and its tag. -/
theorem envelope_sized {typeTag : String} {value : JsonValue}
    (version : CanonicalVersion) (inside : value.fits 99)
    (extent : value.extent ≤ 10 ^ 12)
    (short : (text typeTag).length ≤ 64) :
    (envelope typeTag value version).fits 100 ∧
      (envelope typeTag value version).extent ≤ 10 ^ 13 := by
  have number : intReprError version.number = none := by
    cases version
    decide
  have keys : (text "format").length = 6 ∧ (text "type").length = 4 ∧
      (text "value").length = 5 ∧ (text "version").length = 7 ∧
      (text "paritygrid-canonical").length = 20 := by
    decide
  constructor
  · simp [envelope, JsonValue.fits, JsonValue.fitsFields, inside, number]
  · simp only [envelope, JsonValue.extent, JsonValue.extentFields, keys]
    omega

/-- A sized primitive encodes, to few enough bytes for a frame. -/
theorem encodeEnvelope_sized {typeTag : String} {value : JsonValue}
    (version : CanonicalVersion) (inside : value.fits 99)
    (extent : value.extent ≤ 10 ^ 12)
    (short : (text typeTag).length ≤ 64) :
    ∃ bytes, encodeEnvelope typeTag value version = .ok bytes ∧
      bytes.length < 256 ^ 8 := by
  obtain ⟨enveloped, total⟩ := envelope_sized version inside extent short
  obtain ⟨rendered, dumps, length⟩ := jsonDumps_length enveloped
  refine ⟨encodeAscii rendered, ?_, ?_⟩
  · exact encodeEnvelope_eq_ok.mpr
      ⟨value.closed_of_fits inside, rendered, dumps, rfl⟩
  · simp only [encodeAscii, List.length_map]
    omega

end Sizes

end ParityGrid.Domain
