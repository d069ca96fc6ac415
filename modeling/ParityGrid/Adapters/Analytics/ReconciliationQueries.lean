import ParityGrid.Adapters.Analytics.ReconciliationViews
import ParityGrid.Foundation.JsonReading

/-!
# Reconciliation queries

Pages of outcomes and counts of classifications, read from the views and
checked against the outcomes of the domain.
-/

namespace ParityGrid.Adapters.Analytics

open ParityGrid.Foundation
open ParityGrid.Domain (ConnectorId CurrencyCode FieldMismatch Identifier
  InventoryAttributes InventoryRecord Money ReconciliationClassification
  ReconciliationField ReconciliationOutcome UtcTimestamp skuPattern
  maxRecordsPerSide)

/-- What a reconciliation query raises. -/
inductive QueryError where
  | invalid (message : String)
  | state (message : String)
  | integrity (message : String)
  | corruption (message : String)
  /-- A traversal that was stopped before its last page. -/
  | unfinished
deriving DecidableEq

/-! ## The installed snapshot -/

/-- One view of the catalog. -/
structure InstalledView where
  name : Text
  version : Nat
  definitionSha256 : Text
  outputSchemaSha256 : Text
deriving DecidableEq

structure QuerySnapshot where
  referenceManifestSha256 : Text
  targetManifestSha256 : Text
  referenceArtifactSha256s : List Text
  targetArtifactSha256s : List Text
  referenceRowCount : Nat
  targetRowCount : Nat
  querySha256 : Text
  viewCatalog : List InstalledView
deriving DecidableEq

/-- The engine over the two loaded tables; `catalog` is what is registered. -/
structure QueryEngine where
  reference : List TableRow
  target : List TableRow
  catalog : List InstalledView
  snapshot : Option QuerySnapshot

/-- `_require_prepared`. -/
def QueryEngine.requirePrepared (engine : QueryEngine)
    (snapshot : QuerySnapshot) : Except QueryError Unit := do
  require (engine.snapshot == some snapshot)
    (.state "reconciliation snapshot is not currently prepared")
  require (engine.catalog == snapshot.viewCatalog)
    (.corruption "reconciliation analytical views changed")

def maxReconciliationPageSize : Int := 100

/-- `validate_reconciliation_page_limit`. -/
def validatePageLimit (limit : Int) : Except QueryError Nat := do
  require (1 ≤ limit && limit ≤ maxReconciliationPageSize)
    (.invalid "reconciliation page limit is outside the supported range")
  .ok limit.toNat

/-- `ReconciliationQueryCursor.__post_init__`. -/
def validateQueryCursor (sku : Text) : Except QueryError Unit :=
  require (sku.length ≤ 64 && skuPattern.fullmatch sku)
    (.invalid "reconciliation cursor SKU is invalid")

/-- The SKU after which a page begins. -/
structure ReconciliationQueryCursor where
  sku : Text
  valid : validateQueryCursor sku = .ok ()
deriving DecidableEq

def ReconciliationQueryCursor.create (sku : Text) :
    Except QueryError ReconciliationQueryCursor :=
  (certify (validateQueryCursor sku) fun _ accepted => accepted).map
    fun checked => ⟨sku, checked.2⟩

section Queries

variable [JsonRuntime] (toJson : List (Text × Text) → Text)

/-! ## Rows as records -/

/-- One item of the attributes, a mapping of exactly `key` and `value`. -/
def attributePair : JsonValue → Except QueryError (Text × Text)
  | .object fields =>
      match fields.length, fields.lookup (text "key"),
          fields.lookup (text "value") with
      | 2, some (.string key), some (.string value) => .ok (key, value)
      | _, _, _ =>
          .error (.corruption "reconciliation attributes are malformed")
  | _ => .error (.corruption "reconciliation attributes are malformed")

/-- `_attributes_from_json`. -/
def attributesFromJson (value : Text) :
    Except QueryError InventoryAttributes := do
  let decoded ← (jsonLoads value).mapError fun _ =>
    .corruption "reconciliation attributes are malformed"
  match decoded with
  | .array items => do
      let pairs ← items.mapM attributePair
      let attributes ← (InventoryAttributes.create pairs).mapError fun _ =>
        .corruption "reconciliation attributes violate the domain contract"
      require (attributes.items == pairs)
        (.corruption "reconciliation attributes are not canonical")
      .ok attributes
  | _ => .error (.corruption "reconciliation attributes are malformed")

/-- The domain values of a row, attributes apart. -/
def rowRecord (row : SourceRow) (attributes : InventoryAttributes) :
    Except PythonError InventoryRecord := do
  let unitPrice ← Money.create row.unitPriceCurrency row.unitPriceExponent
    row.unitPriceMinorUnits
  let updatedAt ← UtcTimestamp.parse row.updatedAt
  let connectorId ← Identifier.create .connector row.connectorId
  InventoryRecord.construct
    { sku := row.sku
      name := row.name
      quantity := row.quantity
      unitPrice
      updatedAt
      connectorId
      sourceRecordKey := row.sourceRecordKey
      attributes }

/-- `_record_from_row`. -/
def recordFromRow (row : SourceRow) : Except QueryError InventoryRecord := do
  let attributes ← attributesFromJson row.attributesJson
  (rowRecord row attributes).mapError fun _ =>
    .corruption "reconciliation source row violates the domain contract"

/-- The order of `_records_for`. -/
abbrev SourceRowOrder :=
  Text ×ₗ Text ×ₗ Int ×ₗ Text ×ₗ Int ×ₗ Nat ×ₗ Text ×ₗ Text ×ₗ Text ×ₗ Int

def SourceRow.order (row : SourceRow) : SourceRowOrder :=
  toLex (row.sku, toLex (row.name, toLex (row.quantity,
    toLex (row.unitPriceCurrency, toLex (row.unitPriceMinorUnits,
      toLex (row.unitPriceExponent, toLex (row.updatedAt,
        toLex (row.connectorId, toLex (row.sourceRecordKey,
          row.recordIndex)))))))))

/-- One step of the loop of `_records_for`. -/
def addRecord (grouped : List (Text × List InventoryRecord))
    (row : SourceRow) :
    Except QueryError (List (Text × List InventoryRecord)) := do
  let record ← recordFromRow row
  require ((grouped.map Prod.fst).contains record.sku)
    (.corruption "reconciliation row returned outside the requested page")
  .ok (alter record.sku (fun members => members.getD [] ++ [record]) grouped)

/-- `_records_for`. -/
def recordsFor (view : List SourceRow) (skus : List Text) :
    Except QueryError (List (Text × List InventoryRecord)) :=
  (sortedBy SourceRow.order
    (view.filter fun row => skus.contains row.sku)).foldlM addRecord
      (skus.map fun sku => (sku, []))

/-! ## Validated outcomes -/

/-- `ReconciliationClassification(value)`. -/
def classificationOf (value : Text) : Option ReconciliationClassification :=
  [.match_, .missingFromTarget, .missingFromSource, .fieldMismatch,
    .duplicateSource, .duplicateTarget, .duplicateBoth].find?
      fun classification => text classification.value == value

/-- `mismatch_flags`. -/
def OutcomeRow.flags (row : OutcomeRow) : List (ReconciliationField × Bool) :=
  [(.name, row.nameMismatch), (.quantity, row.quantityMismatch),
    (.unitPrice, row.unitPriceMismatch),
    (.updatedAt, row.updatedAtMismatch),
    (.attributes, row.attributesMismatch)]

/-- `_validated_outcome`. -/
def validatedOutcome (row : OutcomeRow) (source target : List InventoryRecord) :
    Except QueryError ReconciliationOutcome :=
  match classificationOf row.classification,
      ReconciliationOutcome.create source target with
  | some classification, .ok outcome => do
      require
        (outcome.sku == row.sku && source.length == row.sourceCount &&
          target.length == row.targetCount &&
          outcome.classification == classification)
        (.corruption "reconciliation SQL and domain classifications disagree")
      let actual := outcome.mismatches.map FieldMismatch.field
      let expected := (row.flags.filter Prod.snd).map Prod.fst
      require
        (actual.all (fun field => expected.contains field) &&
          expected.all fun field => actual.contains field)
        (.corruption
          "reconciliation SQL and domain mismatch evidence disagree")
      .ok outcome
  | _, _ =>
      .error (.corruption
        "reconciliation outcome violates the domain contract")

/-! ## Pages -/

/-- `ReconciliationQueryPage`. -/
structure ReconciliationQueryPage where
  snapshot : QuerySnapshot
  items : List ReconciliationOutcome
  nextCursor : Option ReconciliationQueryCursor

/-- `ReconciliationQueryPage.__post_init__`. -/
def validatePage (items : List ReconciliationOutcome) :
    Except QueryError Unit := do
  require (items.length ≤ maxReconciliationPageSize)
    (.invalid "reconciliation page exceeds the result limit")
  let skus := items.map fun item => item.sku
  require (skus == sorted skus && decide skus.Nodup)
    (.invalid "reconciliation page items must use unique SKU order")

/-- The rows that one page reads: `limit + 1` of those after the cursor. -/
def pageRows (engine : QueryEngine) (limit : Nat)
    (after : Option ReconciliationQueryCursor) : List OutcomeRow :=
  (sortedBy OutcomeRow.sku
    ((outcomesView toJson engine.reference engine.target).filter fun row =>
      after.all fun cursor => cursor.sku < row.sku)).take (limit + 1)

/-- `next_cursor`: the last item of a page that is not the last one. -/
def pageCursor (items : List ReconciliationOutcome) (more : Bool) :
    Except QueryError (Option ReconciliationQueryCursor) :=
  match items.getLast?, more with
  | some last, true => (ReconciliationQueryCursor.create last.sku).map some
  | _, _ => .ok none

/-- `list_outcomes`. -/
def listOutcomes (engine : QueryEngine) (snapshot : QuerySnapshot)
    (limit : Int) (after : Option ReconciliationQueryCursor) :
    Except QueryError ReconciliationQueryPage := do
  engine.requirePrepared snapshot
  let pageSize ← validatePageLimit limit
  let rows := pageRows toJson engine pageSize after
  let visible := rows.take pageSize
  let skus := visible.map OutcomeRow.sku
  let source ← recordsFor (engine.reference.map (sourceSelect toJson)) skus
  let target ← recordsFor (engine.target.map (sourceSelect toJson)) skus
  let items ← visible.mapM fun row =>
    validatedOutcome row ((source.lookup row.sku).getD [])
      ((target.lookup row.sku).getD [])
  let nextCursor ← pageCursor items (decide (pageSize < rows.length))
  validatePage items
  .ok { snapshot, items, nextCursor }

/-- The items of all pages from a cursor on, in at most `fuel` pages. -/
def followPages (engine : QueryEngine) (snapshot : QuerySnapshot)
    (limit : Int) : Nat → Option ReconciliationQueryCursor →
      Except QueryError (List ReconciliationOutcome)
  | 0, _ => .error .unfinished
  | fuel + 1, after => do
      let page ← listOutcomes toJson engine snapshot limit after
      match page.nextCursor with
      | none => .ok page.items
      | some cursor => do
          let rest ← followPages engine snapshot limit fuel (some cursor)
          .ok (page.items ++ rest)

/-! ## Counts -/

/-- One row of `classification_counts`. -/
def summaryCount (row : SummaryRow) :
    Except QueryError (ReconciliationClassification × Nat) := do
  require (1 ≤ row.keyCount)
    (.corruption "reconciliation summary row is malformed")
  match classificationOf row.classification with
  | some classification => .ok (classification, row.keyCount)
  | none =>
      .error (.corruption "reconciliation summary classification is unknown")

/-- `classification_counts`. -/
def classificationCounts (engine : QueryEngine) (snapshot : QuerySnapshot) :
    Except QueryError (List (ReconciliationClassification × Nat)) := do
  engine.requirePrepared snapshot
  let rows := sortedBy SummaryRow.classification
    (summaryView toJson engine.reference engine.target)
  let counts ← rows.mapM summaryCount
  let names := rows.map SummaryRow.classification
  require (names == sorted names && decide names.Nodup)
    (.corruption "reconciliation summary rows are not canonically ordered")
  require
    ((outcomesView toJson engine.reference engine.target).length ==
      (counts.map Prod.snd).sum)
    (.corruption "reconciliation summary disagrees with the outcome total")
  .ok counts

/-- `_require_duplicate_bounds`. -/
def requireDuplicateBounds (reference target : List TableRow) :
    Except QueryError Unit :=
  require
    ((outcomesView toJson reference target).all fun row =>
      row.sourceCount ≤ maxRecordsPerSide && row.targetCount ≤ maxRecordsPerSide)
    (.integrity "reconciliation input exceeds the duplicate-key limit")

end Queries

end ParityGrid.Adapters.Analytics
