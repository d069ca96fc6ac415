import ParityGrid.Domain.Inventory
import ParityGrid.Foundation.Sorting

/-!
# Reconciliation outcomes

An outcome holds the records of one canonical key on both sides, in an order
that does not depend on arrival, and the one classification they determine.
-/

namespace ParityGrid.Domain

open Foundation

/-- The one primary result assigned to a canonical inventory key. -/
inductive ReconciliationClassification where
  | match_
  | missingFromTarget
  | missingFromSource
  | fieldMismatch
  | duplicateSource
  | duplicateTarget
  | duplicateBoth
deriving DecidableEq

def ReconciliationClassification.value :
    ReconciliationClassification → String
  | .match_ => "match"
  | .missingFromTarget => "missing_from_target"
  | .missingFromSource => "missing_from_source"
  | .fieldMismatch => "field_mismatch"
  | .duplicateSource => "duplicate_source"
  | .duplicateTarget => "duplicate_target"
  | .duplicateBoth => "duplicate_both"

/-- Business fields that determine inventory parity. -/
inductive ReconciliationField where
  | name
  | quantity
  | unitPrice
  | updatedAt
  | attributes
deriving DecidableEq

def ReconciliationField.value : ReconciliationField → String
  | .name => "name"
  | .quantity => "quantity"
  | .unitPrice => "unit_price"
  | .updatedAt => "updated_at"
  | .attributes => "attributes"

theorem ReconciliationField.value_ne_nil (field : ReconciliationField) :
    text field.value ≠ [] := by
  cases field <;> decide

theorem ReconciliationField.value_length (field : ReconciliationField) :
    (text field.value).length ≤ 32 := by
  cases field <;> decide

section Outcomes

variable [PythonRuntime]

/-! ## Field mismatches -/

/--
The exact source and target values that differ for one business field.  The
constructor fixes the type of both values, as the field does in the program.
-/
inductive FieldMismatch where
  | name (source target : Text) (differs : source ≠ target)
  | quantity (source target : Int) (differs : source ≠ target)
  | unitPrice (source target : Money) (differs : source ≠ target)
  | updatedAt (source target : UtcTimestamp) (differs : source ≠ target)
  | attributes (source target : InventoryAttributes)
      (differs : source ≠ target)
deriving DecidableEq

def FieldMismatch.field : FieldMismatch → ReconciliationField
  | .name .. => .name
  | .quantity .. => .quantity
  | .unitPrice .. => .unitPrice
  | .updatedAt .. => .updatedAt
  | .attributes .. => .attributes

/-- One mismatch when two values of a field differ. -/
def mismatchOf {α : Type} [DecidableEq α]
    (build : (source target : α) → source ≠ target → FieldMismatch)
    (source target : α) : List FieldMismatch :=
  if equal : source = target then [] else [build source target equal]

theorem mismatchOf_eq_nil {α : Type} [DecidableEq α]
    {build : (source target : α) → source ≠ target → FieldMismatch}
    {source target : α} :
    mismatchOf build source target = [] ↔ source = target := by
  simp only [mismatchOf]
  split
  next equal => simp [equal]
  next differs => simp [differs]

/-- The mismatches of two records, in the fixed order of the fields. -/
def fieldMismatches (source target : InventoryRecord) : List FieldMismatch :=
  mismatchOf .name source.name target.name ++
    mismatchOf .quantity source.quantity target.quantity ++
    mismatchOf .unitPrice source.unitPrice target.unitPrice ++
    mismatchOf .updatedAt source.updatedAt target.updatedAt ++
    mismatchOf .attributes source.attributes target.attributes

/-- `differences_between`. -/
def differencesBetween (source target : InventoryRecord) :
    Except PythonError (List FieldMismatch) := do
  require (source.sku == target.sku)
    (.valueError (text "reconciliation comparison requires matching SKUs"))
  pure (fieldMismatches source target)

/-- Records with one SKU differ in no field exactly when the content agrees. -/
theorem fieldMismatches_eq_nil {source target : InventoryRecord}
    (sameSku : source.sku = target.sku) :
    fieldMismatches source target = [] ↔ source.content = target.content := by
  simp only [fieldMismatches, List.append_eq_nil_iff, mismatchOf_eq_nil,
    InventoryRecord.content, BusinessContent.mk.injEq]
  constructor
  · rintro ⟨⟨⟨⟨name, quantity⟩, price⟩, updated⟩, attributes⟩
    exact ⟨sameSku, name, quantity, price, updated, attributes⟩
  · rintro ⟨_, name, quantity, price, updated, attributes⟩
    exact ⟨⟨⟨⟨name, quantity⟩, price⟩, updated⟩, attributes⟩

theorem fieldMismatches_length (source target : InventoryRecord) :
    (fieldMismatches source target).length ≤ 5 := by
  have one : ∀ {α : Type} [DecidableEq α]
      (build : (s t : α) → s ≠ t → FieldMismatch) (s t : α),
      (mismatchOf build s t).length ≤ 1 := by
    intro α _ build s t
    simp only [mismatchOf]
    split <;> simp
  have name := one .name source.name target.name
  have quantity := one .quantity source.quantity target.quantity
  have price := one .unitPrice source.unitPrice target.unitPrice
  have updated := one .updatedAt source.updatedAt target.updatedAt
  have attributes := one .attributes source.attributes target.attributes
  simp only [fieldMismatches, List.length_append]
  omega

/-! ## Canonical order of records -/

/-- The sort key of a record: every field, compared one after another. -/
abbrev RecordOrderKey :=
  Text ×ₗ Text ×ₗ Int ×ₗ Text ×ₗ Text ×ₗ Text ×ₗ Text ×ₗ
    List (Text ×ₗ Text)

/-- `_record_order_key`. -/
def recordOrderKey (record : InventoryRecord) : RecordOrderKey :=
  toLex (record.sku, toLex (record.name, toLex (record.quantity,
    toLex (record.unitPrice.toText, toLex (record.updatedAt.toText,
      toLex (record.connectorId.value, toLex (record.sourceRecordKey,
        record.attributes.items.map toLex)))))))

/-- The sort key determines the record, so equal keys never reorder values. -/
theorem recordOrderKey_injective : Function.Injective recordOrderKey := by
  intro left right equal
  simp only [recordOrderKey, EmbeddingLike.apply_eq_iff_eq, Prod.mk.injEq]
    at equal
  obtain ⟨sku, name, quantity, price, updated, connector, key, items⟩ := equal
  have attributes : left.attributes = right.attributes :=
    InventoryAttributes.ext (List.map_injective_iff.mpr toLex.injective items)
  apply InventoryRecord.ext_content _ (Identifier.ext connector) key
  simp only [InventoryRecord.content, BusinessContent.mk.injEq]
  exact ⟨sku, name, quantity, Money.toText_injective price,
    UtcTimestamp.toText_injective updated, attributes⟩

/-- `ReconciliationOutcome.MAX_RECORDS_PER_SIDE`. -/
def maxRecordsPerSide : Nat := 1024

/-- `_canonical_records`. -/
def canonicalRecords (side : String) (records : List InventoryRecord) :
    Except PythonError (List InventoryRecord) := do
  require (records.length ≤ maxRecordsPerSide)
    (.valueError (text side ++
      text " records must contain at most 1024 values"))
  pure (sortedBy recordOrderKey records)

/-! ## Classification -/

/-- `_classify_records`. -/
def classifyRecords (sources targets : List InventoryRecord) :
    Except PythonError
      (ReconciliationClassification × List FieldMismatch) :=
  match sources, targets with
  | _ :: _ :: _, _ :: _ :: _ => .ok (.duplicateBoth, [])
  | _ :: _ :: _, _ => .ok (.duplicateSource, [])
  | _, _ :: _ :: _ => .ok (.duplicateTarget, [])
  | [], _ => .ok (.missingFromSource, [])
  | _, [] => .ok (.missingFromTarget, [])
  | [source], [target] => do
      let mismatches ← differencesBetween source target
      pure
        (if mismatches.isEmpty then .match_ else .fieldMismatch, mismatches)

/-- The classification that the records of a key determine. -/
def determinedClassification (sources targets : List InventoryRecord) :
    ReconciliationClassification :=
  if 2 ≤ sources.length ∧ 2 ≤ targets.length then .duplicateBoth
  else if 2 ≤ sources.length then .duplicateSource
  else if 2 ≤ targets.length then .duplicateTarget
  else if sources = [] then .missingFromSource
  else if targets = [] then .missingFromTarget
  else if sources.map InventoryRecord.content =
      targets.map InventoryRecord.content then .match_
  else .fieldMismatch

/-- The order of the records does not matter. -/
theorem determinedClassification_perm
    {sources others targets rest : List InventoryRecord}
    (sourcePerm : sources.Perm others) (targetPerm : targets.Perm rest) :
    determinedClassification sources targets =
      determinedClassification others rest := by
  have sourceLength := sourcePerm.length_eq
  have targetLength := targetPerm.length_eq
  simp only [determinedClassification, sourceLength, targetLength]
  split
  · rfl
  next notBoth =>
    split
    · rfl
    next oneSource =>
      split
      · rfl
      next oneTarget =>
        have sourceSame : sources = others :=
          perm_eq_of_length_le_one sourcePerm (by omega)
        have targetSame : targets = rest :=
          perm_eq_of_length_le_one targetPerm (by omega)
        rw [sourceSame, targetSame]

/-- The records of one key are classified as they determine. -/
theorem classifyRecords_determined {sources targets : List InventoryRecord}
    {sku : Text} (sourcesShare : ∀ record ∈ sources, record.sku = sku)
    (targetsShare : ∀ record ∈ targets, record.sku = sku) :
    ∃ mismatches,
      classifyRecords sources targets =
        .ok (determinedClassification sources targets, mismatches) ∧
      (determinedClassification sources targets = .fieldMismatch →
        ∃ source target, sources = [source] ∧ targets = [target] ∧
          mismatches = fieldMismatches source target ∧ mismatches ≠ []) := by
  match sources, targets with
  | [], [] => exact ⟨[], rfl, by simp [determinedClassification]⟩
  | [], [_] => exact ⟨[], rfl, by simp [determinedClassification]⟩
  | [_], [] => exact ⟨[], rfl, by simp [determinedClassification]⟩
  | [], _ :: _ :: _ => exact ⟨[], rfl, by simp [determinedClassification]⟩
  | [_], _ :: _ :: _ => exact ⟨[], rfl, by simp [determinedClassification]⟩
  | _ :: _ :: _, [] => exact ⟨[], rfl, by simp [determinedClassification]⟩
  | _ :: _ :: _, [_] => exact ⟨[], rfl, by simp [determinedClassification]⟩
  | _ :: _ :: _, _ :: _ :: _ =>
      exact ⟨[], rfl, by simp [determinedClassification]⟩
  | [source], [target] =>
      have same : source.sku = target.sku :=
        (sourcesShare source (by simp)).trans
          (targetsShare target (by simp)).symm
      have agrees := fieldMismatches_eq_nil same
      refine ⟨fieldMismatches source target, ?_, ?_⟩
      · by_cases equal : source.content = target.content
        · simp [classifyRecords, differencesBetween, same,
            determinedClassification, agrees.mpr equal, equal]
        · have differs : fieldMismatches source target ≠ [] :=
            fun none_ => equal (agrees.mp none_)
          simp [classifyRecords, differencesBetween, same,
            determinedClassification, differs, equal]
      · intro mismatch
        refine ⟨source, target, rfl, rfl, rfl, ?_⟩
        intro none_
        simp [determinedClassification, agrees.mp none_] at mismatch

/-! ## Outcomes -/

structure OutcomeFields where
  sourceRecords : List InventoryRecord
  targetRecords : List InventoryRecord
  sku : Text
  classification : ReconciliationClassification
  mismatches : List FieldMismatch
deriving DecidableEq

/-- `ReconciliationOutcome.__post_init__`. -/
def outcomeFields (sourceRecords targetRecords : List InventoryRecord) :
    Except PythonError OutcomeFields := do
  let sources ← canonicalRecords "source" sourceRecords
  let targets ← canonicalRecords "target" targetRecords
  match sources ++ targets with
  | [] =>
      .error (.valueError (text
        "reconciliation outcome requires at least one record"))
  | first :: rest =>
      require ((first :: rest).all fun record => record.sku == first.sku)
        (.valueError (text
          "reconciliation outcome records must share one SKU"))
      let (classification, mismatches) ← classifyRecords sources targets
      pure
        { sourceRecords := sources
          targetRecords := targets
          sku := first.sku
          classification
          mismatches }

/-- An immutable, exclusive outcome for one canonical inventory key. -/
structure ReconciliationOutcome extends OutcomeFields where
  valid : outcomeFields sourceRecords targetRecords = .ok toOutcomeFields
deriving DecidableEq

theorem canonicalRecords_eq_ok {side : String}
    {records canonical : List InventoryRecord} :
    canonicalRecords side records = .ok canonical ↔
      records.length ≤ maxRecordsPerSide ∧
        canonical = sortedBy recordOrderKey records := by
  simp only [canonicalRecords, bind_eq_ok, require_eq_ok, decide_eq_true_eq]
  constructor
  · rintro ⟨_, small, same⟩
    cases same
    exact ⟨small, rfl⟩
  · rintro ⟨small, rfl⟩
    exact ⟨(), small, rfl⟩

/-- Canonical sides are kept as they are. -/
theorem canonicalRecords_idem {side : String}
    {records canonical : List InventoryRecord}
    (accepted : canonicalRecords side records = .ok canonical) :
    canonicalRecords side canonical = .ok canonical := by
  obtain ⟨small, rfl⟩ := canonicalRecords_eq_ok.mp accepted
  exact canonicalRecords_eq_ok.mpr
    ⟨by simpa using small, (sortedBy_idem _ _).symm⟩

theorem outcomeFields_valid {sources targets : List InventoryRecord}
    {fields : OutcomeFields}
    (accepted : outcomeFields sources targets = .ok fields) :
    outcomeFields fields.sourceRecords fields.targetRecords = .ok fields := by
  simp only [outcomeFields, bind_eq_ok] at accepted
  obtain ⟨canonicalSources, acceptsSources, canonicalTargets, acceptsTargets,
    accepted⟩ := accepted
  have sourcesKept : fields.sourceRecords = canonicalSources ∧
      fields.targetRecords = canonicalTargets := by
    split at accepted
    next => cases accepted
    next =>
      simp only [bind_eq_ok] at accepted
      obtain ⟨_, _, _, _, same⟩ := accepted
      cases same
      exact ⟨rfl, rfl⟩
  rw [sourcesKept.1, sourcesKept.2]
  simp only [outcomeFields, canonicalRecords_idem acceptsSources,
    canonicalRecords_idem acceptsTargets, ok_bind]
  exact accepted

/-- The constructor on two tuples of records. -/
def ReconciliationOutcome.create
    (sourceRecords targetRecords : List InventoryRecord) :
    Except PythonError ReconciliationOutcome :=
  (certify (outcomeFields sourceRecords targetRecords)
    (fun _ => outcomeFields_valid)).map fun fields =>
      ⟨fields.1, fields.2⟩

theorem ReconciliationOutcome.create_eq_ok
    {sources targets : List InventoryRecord}
    {outcome : ReconciliationOutcome} :
    create sources targets = .ok outcome ↔
      outcomeFields sources targets = .ok outcome.toOutcomeFields := by
  constructor
  · intro built
    simp only [create, Except.map] at built
    split at built
    next => cases built
    next fields accepted =>
      cases built
      exact certify_eq_ok.mp accepted
  · intro accepted
    have certified := certify_ok (fun _ => outcomeFields_valid) accepted
    simp only [create, certified, Except.map]

theorem ReconciliationOutcome.ext {left right : ReconciliationOutcome}
    (sources : left.sourceRecords = right.sourceRecords)
    (targets : left.targetRecords = right.targetRecords) :
    left = right := by
  obtain ⟨leftFields, leftValid⟩ := left
  obtain ⟨rightFields, rightValid⟩ := right
  simp only at sources targets
  rw [sources, targets, rightValid] at leftValid
  cases leftValid
  rfl

/-- The outcome takes its key from its first record. -/
theorem ReconciliationOutcome.sku_of_record (outcome : ReconciliationOutcome) :
    ∃ record : InventoryRecord, outcome.sku = record.sku := by
  have valid := outcome.valid
  simp only [outcomeFields, bind_eq_ok] at valid
  obtain ⟨sources, _, targets, _, classified⟩ := valid
  split at classified
  next => cases classified
  next first rest _ =>
    simp only [bind_eq_ok] at classified
    obtain ⟨_, _, _, _, same⟩ := classified
    exact ⟨first, (congrArg OutcomeFields.sku (Except.ok.inj same)).symm⟩

theorem ReconciliationOutcome.sides (outcome : ReconciliationOutcome) :
    outcome.sourceRecords.length ≤ maxRecordsPerSide ∧
      outcome.targetRecords.length ≤ maxRecordsPerSide := by
  have valid := outcome.valid
  simp only [outcomeFields, bind_eq_ok, canonicalRecords_eq_ok] at valid
  obtain ⟨_, sources, _, targets, _⟩ := valid
  exact ⟨sources.1, targets.1⟩

/-- Some records of one key, few enough on each side, have an outcome. -/
theorem outcomeFields_returns {sources targets : List InventoryRecord}
    {sku : Text} (some_ : sources ≠ [] ∨ targets ≠ [])
    (sourcesShare : ∀ record ∈ sources, record.sku = sku)
    (targetsShare : ∀ record ∈ targets, record.sku = sku)
    (sourcesFew : sources.length ≤ maxRecordsPerSide)
    (targetsFew : targets.length ≤ maxRecordsPerSide) :
    Returns (outcomeFields sources targets) := by
  have sourcesSorted : ∀ record ∈ sortedBy recordOrderKey sources,
      record.sku = sku :=
    fun record member => sourcesShare record (mem_sortedBy.mp member)
  have targetsSorted : ∀ record ∈ sortedBy recordOrderKey targets,
      record.sku = sku :=
    fun record member => targetsShare record (mem_sortedBy.mp member)
  obtain ⟨mismatches, classified, _⟩ :=
    classifyRecords_determined sourcesSorted targetsSorted
  simp only [outcomeFields, canonicalRecords_eq_ok.mpr ⟨sourcesFew, rfl⟩,
    canonicalRecords_eq_ok.mpr ⟨targetsFew, rfl⟩, ok_bind]
  cases all : sortedBy recordOrderKey sources ++
      sortedBy recordOrderKey targets with
  | nil =>
      have lengths := congrArg List.length all
      simp only [List.length_append, sortedBy_length, List.length_nil]
        at lengths
      rcases some_ with nonempty | nonempty <;>
        exact absurd (List.eq_nil_of_length_eq_zero (by omega)) nonempty
  | cons first rest =>
      have share : ∀ record ∈ first :: rest, record.sku = sku := by
        intro record member
        rw [← all] at member
        rcases List.mem_append.mp member with inSources | inTargets
        · exact sourcesSorted record inSources
        · exact targetsSorted record inTargets
      have agree : ((first :: rest).all fun record =>
          record.sku == first.sku) = true := by
        simp only [List.all_eq_true, beq_iff_eq]
        intro record member
        rw [share record member, share first (by simp)]
      simp only [agree, require_true, ok_bind, classified]
      exact .ok _

/-- What an outcome holds: sorted sides, their SKU and their classification. -/
theorem outcomeFields_form {sources targets : List InventoryRecord}
    {fields : OutcomeFields}
    (accepted : outcomeFields sources targets = .ok fields) :
    fields.sourceRecords = sortedBy recordOrderKey sources ∧
      fields.targetRecords = sortedBy recordOrderKey targets ∧
      (∀ record ∈ sources ++ targets, record.sku = fields.sku) ∧
      classifyRecords fields.sourceRecords fields.targetRecords =
        .ok (fields.classification, fields.mismatches) := by
  simp only [outcomeFields, bind_eq_ok, canonicalRecords_eq_ok] at accepted
  obtain ⟨_, ⟨_, rfl⟩, _, ⟨_, rfl⟩, accepted⟩ := accepted
  split at accepted
  next => cases accepted
  next first rest all =>
    simp only [bind_eq_ok, require_eq_ok, List.all_eq_true, beq_iff_eq]
      at accepted
    obtain ⟨_, share, ⟨classification, mismatches⟩, classified, same⟩ :=
      accepted
    cases same
    refine ⟨rfl, rfl, ?_, classified⟩
    intro record member
    apply share record
    rw [← all]
    rcases List.mem_append.mp member with inSources | inTargets
    · exact List.mem_append_left _ (mem_sortedBy.mpr inSources)
    · exact List.mem_append_right _ (mem_sortedBy.mpr inTargets)

theorem outcomeFields_inhabited {sources targets : List InventoryRecord}
    {fields : OutcomeFields}
    (accepted : outcomeFields sources targets = .ok fields) :
    sources ≠ [] ∨ targets ≠ [] := by
  by_contra neither
  simp only [not_or, not_not] at neither
  rw [neither.1, neither.2] at accepted
  cases accepted

/-- Classification and mismatches of an outcome, from its records. -/
theorem ReconciliationOutcome.determined (outcome : ReconciliationOutcome) :
    outcome.classification = determinedClassification
        outcome.sourceRecords outcome.targetRecords ∧
      (outcome.classification = .fieldMismatch →
        ∃ source target, outcome.sourceRecords = [source] ∧
          outcome.targetRecords = [target] ∧
          outcome.mismatches = fieldMismatches source target ∧
          outcome.mismatches ≠ []) := by
  obtain ⟨_, _, share, classified⟩ := outcomeFields_form outcome.valid
  obtain ⟨mismatches, determined, mismatching⟩ :=
    classifyRecords_determined
      (fun record member => share record (List.mem_append_left _ member))
      (fun record member => share record (List.mem_append_right _ member))
  rw [determined] at classified
  obtain ⟨classification, same⟩ :=
    Prod.mk.inj (Except.ok.inj classified)
  rw [← classification, ← same]
  exact ⟨rfl, mismatching⟩

end Outcomes

end ParityGrid.Domain
