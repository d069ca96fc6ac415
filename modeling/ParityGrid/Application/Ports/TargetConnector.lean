import ParityGrid.Application.Ports.Connectors
import ParityGrid.Domain.Inventory

/-!
# Target records and their pages

A target is read in pages.  A page carries bounded records, each under its
record key, and the cursor of the next page when there is one.
-/

namespace ParityGrid.Application

open ParityGrid.Foundation
open ParityGrid.Domain

/-! ## Keys and cursors -/

/-- `[A-Za-z0-9._:-]`. -/
def isCursorPoint (c : CodePoint) : Bool :=
  isUpper c || isLower c || isDigit c || (text "._:-").contains c

/-- `_CURSOR_PATTERN`: `[A-Za-z0-9._:-]{1,128}`. -/
def isCursor (cursor : Text) : Bool :=
  cursor != [] && cursor.length ≤ maxCursorLength &&
    cursor.all isCursorPoint

/-- `validate_cursor`. -/
def validateCursor (cursor : Text) : Except ConnectorError Unit :=
  require (isCursor cursor) (refuse "cursor is outside the accepted shape")

/-- `validate_sku`: the pattern does not bound the length. -/
def validateRecordKey (sku : Text) : Except ConnectorError Unit :=
  require (skuPattern.fullmatch sku)
    (refuse "record key is outside the canonical shape")

/-- `_IDEMPOTENCY_KEY_PATTERN`: `[A-Za-z0-9][A-Za-z0-9._:-]{0,127}`. -/
def isExternalKey : Text → Bool
  | [] => false
  | c :: rest =>
      (isUpper c || isLower c || isDigit c) && rest.length ≤ 127 &&
        rest.all isCursorPoint

/-! ## Records -/

/-- The checks of `TargetRecord.__post_init__`. -/
def checkTargetRecord (sku : Text) (payload : List (Text × JsonValue))
    (recordVersion targetVersion : Int) : Except ConnectorError Unit := do
  validateRecordKey sku
  validateSourceRecordPayload payload
  require (0 ≤ recordVersion)
    (refuse "target record_version must be a nonnegative integer")
  require (0 ≤ targetVersion)
    (refuse "target target_version must be a nonnegative integer")

/-- One stored target record as observed by a read. -/
structure TargetRecord where
  sku : Text
  payload : List (Text × JsonValue)
  distinct : (JsonValue.object payload).keysDistinct
  recordVersion : Int
  targetVersion : Int
  checked :
    checkTargetRecord sku payload recordVersion targetVersion = .ok ()

/-! ## Pages -/

/-- The checks of `TargetRecordPage.__post_init__`. -/
def checkTargetRecordPage (records : List TargetRecord)
    (nextCursor : Option Text) (requestCount byteCount : Int) :
    Except ConnectorError Unit := do
  require (records.length ≤ maxPageRecords)
    (refuse "target page exceeds the record bound")
  require (0 ≤ requestCount)
    (refuse "target page request_count must be a nonnegative integer")
  require (0 ≤ byteCount)
    (refuse "target page byte_count must be a nonnegative integer")
  nextCursor.elim (.ok ()) validateCursor

/-- One bounded page of independently observed target records. -/
structure TargetRecordPage where
  records : List TargetRecord
  nextCursor : Option Text
  requestCount : Int
  byteCount : Int
  checked :
    checkTargetRecordPage records nextCursor requestCount byteCount = .ok ()

end ParityGrid.Application
