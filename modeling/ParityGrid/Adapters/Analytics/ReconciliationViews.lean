import ParityGrid.Domain.Reconciliation.Outcomes
import ParityGrid.Foundation.Relational

/-!
# The reconciliation views

The fixed views over the two loaded tables: the rows with their rendered
columns, one outcome for every SKU, and the number of keys of each
classification.
-/

namespace ParityGrid.Adapters.Analytics

open ParityGrid.Foundation
open ParityGrid.Domain (InventoryRecord ReconciliationClassification UtcTimestamp)

/-! ## Tables -/

/-- The columns of `_TABLE_DEFINITION`. -/
structure TableRow where
  recordIndex : Int
  sku : Text
  name : Text
  quantity : Int
  unitPriceMinorUnits : Int
  unitPriceCurrency : Text
  unitPriceExponent : Nat
  updatedAt : UtcTimestamp
  connectorId : Text
  sourceRecordKey : Text
  attributes : List (Text × Text)

/-- The row that a normalized artifact holds for a record. -/
def TableRow.ofRecord [PythonRuntime] (recordIndex : Int)
    (record : InventoryRecord) : TableRow where
  recordIndex
  sku := record.sku
  name := record.name
  quantity := record.quantity
  unitPriceMinorUnits := record.unitPrice.minorUnits
  unitPriceCurrency := record.unitPrice.currency.value
  unitPriceExponent := record.unitPrice.minorUnitExponent
  updatedAt := record.updatedAt
  connectorId := record.connectorId.value
  sourceRecordKey := record.sourceRecordKey
  attributes := record.attributes.items

/-- The columns of `_ROW_COLUMNS`. -/
structure SourceRow where
  recordIndex : Int
  sku : Text
  name : Text
  quantity : Int
  unitPriceMinorUnits : Int
  unitPriceCurrency : Text
  unitPriceExponent : Nat
  updatedAt : Text
  connectorId : Text
  sourceRecordKey : Text
  attributesJson : Text

/-- `strftime(updated_at, '%Y-%m-%dT%H:%M:%S.%fZ')`. -/
def renderedTimestamp (timestamp : UtcTimestamp) : Text :=
  let civil := timestamp.civil
  zeroPadded 4 civil.year ++ point '-' :: zeroPadded 2 civil.month ++
    point '-' :: zeroPadded 2 civil.day ++
    point 'T' :: zeroPadded 2 civil.hour ++
    point ':' :: zeroPadded 2 civil.minute ++
    point ':' :: zeroPadded 2 civil.second ++
    point '.' :: zeroPadded 6 civil.microsecond ++ [point 'Z']

section Views

-- `to_json(attributes)` is rendered by the database.
variable (toJson : List (Text × Text) → Text)

/-- `_SOURCE_SELECT`. -/
def sourceSelect (row : TableRow) : SourceRow where
  recordIndex := row.recordIndex
  sku := row.sku
  name := row.name
  quantity := row.quantity
  unitPriceMinorUnits := row.unitPriceMinorUnits
  unitPriceCurrency := row.unitPriceCurrency
  unitPriceExponent := row.unitPriceExponent
  updatedAt := renderedTimestamp row.updatedAt
  connectorId := row.connectorId
  sourceRecordKey := row.sourceRecordKey
  attributesJson := toJson row.attributes

/-! ## The outcomes view -/

/-- `ORDER BY record_index, connector_id, source_record_key`. -/
def SourceRow.provenance (row : SourceRow) : Int ×ₗ Text ×ₗ Text :=
  toLex (row.recordIndex, toLex (row.connectorId, row.sourceRecordKey))

/-- One row of `source_rows` or `target_rows`. -/
structure SideRow where
  sku : Text
  recordCount : Nat
  name : Option Text
  quantity : Option Int
  priceUnits : Option Int
  priceCurrency : Option Text
  priceExponent : Option Nat
  updatedAt : Option Text
  attributesJson : Option Text
deriving DecidableEq

/-- The aggregates of the rows of one SKU. -/
def sideRow (sku : Text) (rows : List SourceRow) : SideRow where
  sku
  recordCount := rows.length
  name := firstBy SourceRow.provenance SourceRow.name rows
  quantity := firstBy SourceRow.provenance SourceRow.quantity rows
  priceUnits := firstBy SourceRow.provenance SourceRow.unitPriceMinorUnits rows
  priceCurrency :=
    firstBy SourceRow.provenance SourceRow.unitPriceCurrency rows
  priceExponent :=
    firstBy SourceRow.provenance SourceRow.unitPriceExponent rows
  updatedAt := firstBy SourceRow.provenance SourceRow.updatedAt rows
  attributesJson := firstBy SourceRow.provenance SourceRow.attributesJson rows

/-- `source_rows` and `target_rows`. -/
def sideRows (view : List SourceRow) : List SideRow :=
  groupBy SourceRow.sku sideRow view

/-- One row of `compared`. -/
structure ComparedRow where
  sku : Text
  sourceCount : Nat
  targetCount : Nat
  nameMismatch : Bool
  quantityMismatch : Bool
  unitPriceMismatch : Bool
  updatedAtMismatch : Bool
  attributesMismatch : Bool

/-- The price columns of a side; a price is compared as a row of three. -/
def SideRow.price (row : SideRow) : Option Int × Option Text × Option Nat :=
  (row.priceUnits, row.priceCurrency, row.priceExponent)

/-- The price columns of a side that may be absent. -/
def sidePrice (row : Option SideRow) : Option Int × Option Text × Option Nat :=
  (row.map SideRow.price).getD (none, none, none)

/-- The columns of `compared`. -/
def comparedRow (row : OuterRow SideRow SideRow) : ComparedRow where
  sku := row.coalesce SideRow.sku SideRow.sku
  sourceCount := (row.left?.map SideRow.recordCount).getD 0
  targetCount := (row.right?.map SideRow.recordCount).getD 0
  nameMismatch :=
    distinctFrom (row.left?.bind SideRow.name) (row.right?.bind SideRow.name)
  quantityMismatch := distinctFrom (row.left?.bind SideRow.quantity)
    (row.right?.bind SideRow.quantity)
  unitPriceMismatch :=
    distinctFrom (sidePrice row.left?).1 (sidePrice row.right?).1 ||
      distinctFrom (sidePrice row.left?).2.1 (sidePrice row.right?).2.1 ||
      distinctFrom (sidePrice row.left?).2.2 (sidePrice row.right?).2.2
  updatedAtMismatch := distinctFrom (row.left?.bind SideRow.updatedAt)
    (row.right?.bind SideRow.updatedAt)
  attributesMismatch := distinctFrom (row.left?.bind SideRow.attributesJson)
    (row.right?.bind SideRow.attributesJson)

/-- The columns of `_OUTCOME_COLUMNS`. -/
structure OutcomeRow where
  sku : Text
  sourceCount : Nat
  targetCount : Nat
  classification : Text
  nameMismatch : Bool
  quantityMismatch : Bool
  unitPriceMismatch : Bool
  updatedAtMismatch : Bool
  attributesMismatch : Bool
deriving DecidableEq

/-- The `CASE` of the classification. -/
def ComparedRow.classification (row : ComparedRow) : Text :=
  if 1 < row.sourceCount ∧ 1 < row.targetCount then text "duplicate_both"
  else if 1 < row.sourceCount then text "duplicate_source"
  else if 1 < row.targetCount then text "duplicate_target"
  else if row.sourceCount = 0 then text "missing_from_source"
  else if row.targetCount = 0 then text "missing_from_target"
  else if row.nameMismatch || row.quantityMismatch ||
      row.unitPriceMismatch || row.updatedAtMismatch ||
      row.attributesMismatch then text "field_mismatch"
  else text "match"

/-- The final `SELECT` of `_OUTCOMES_SELECT`. -/
def outcomeRow (row : ComparedRow) : OutcomeRow :=
  let single := row.sourceCount = 1 ∧ row.targetCount = 1
  { sku := row.sku
    sourceCount := row.sourceCount
    targetCount := row.targetCount
    classification := row.classification
    nameMismatch := if single then row.nameMismatch else false
    quantityMismatch := if single then row.quantityMismatch else false
    unitPriceMismatch := if single then row.unitPriceMismatch else false
    updatedAtMismatch := if single then row.updatedAtMismatch else false
    attributesMismatch := if single then row.attributesMismatch else false }

/-- `_OUTCOMES_SELECT`. -/
def outcomesView (reference target : List TableRow) : List OutcomeRow :=
  (fullOuterJoin SideRow.sku SideRow.sku
    (sideRows (reference.map (sourceSelect toJson)))
    (sideRows (target.map (sourceSelect toJson)))).map fun row =>
      outcomeRow (comparedRow row)

/-! ## The summary view -/

/-- The columns of `_SUMMARY_COLUMNS`. -/
structure SummaryRow where
  classification : Text
  keyCount : Nat
deriving DecidableEq

/-- `_SUMMARY_SELECT`. -/
def summaryView (reference target : List TableRow) : List SummaryRow :=
  sortedBy SummaryRow.classification
    (groupBy OutcomeRow.classification
      (fun classification rows => ⟨classification, rows.length⟩)
      (outcomesView toJson reference target))

end Views

end ParityGrid.Adapters.Analytics
