import ParityGrid.Demo.Simulators.Warehouse

/-!
# Reading the state file of the warehouse

A behavior with a state root starts from its file.  The loader trusts nothing:
every counter, record, receipt, effect count and applied failure is checked
against bounds of the loader's own.
-/

namespace ParityGrid.Demo

open Foundation Domain

/-! ## Reading documents -/

/-- `set(document) == expected`, for an object. -/
def hasKeys (expected : List Text) : JsonValue → Bool
  | .object fields =>
      (fields.map Prod.fst).all (fun key => expected.contains key) &&
        expected.all fun key => (fields.map Prod.fst).contains key
  | _ => false

/-- `document[key]`. -/
def item (key : String) (document : JsonValue) : JsonValue :=
  (document.field (text key)).getD .null

/-- `value == n` for a number `n`, whatever type the value has. -/
def equalsNumber (n : Nat) : JsonValue → Bool
  | .scalar (.bool value) => value.toNat == n
  | .scalar (.int value) => value == n
  | .scalar (.float value) => value.value == decimal n ++ text ".0"
  | _ => false

/-- `_state_counter`. -/
def stateCounter (field : String) (minimum : Int) :
    JsonValue → Except PythonError Nat
  | .scalar (.int value) => do
      require (minimum ≤ value && value ≤ maxCounter) (invalidCounter field)
      pure value.toNat
  | _ => .error (invalidCounter field)
where
  invalidCounter (field : String) : PythonError :=
    warehouseError ("persistent warehouse state field " ++ field ++
      " is invalid")

/-- The text is `NaN` or an infinity. -/
def isNonFinite (value : FloatText) : Bool :=
  value.value == text "NaN" || value.value == text "Infinity" ||
    value.value == text "-Infinity"

def requireDepth (depth : Nat) : Except PythonError Unit :=
  require (depth ≤ maxStateDepth)
    (warehouseError "persistent warehouse payload nesting is too deep")

mutual

/-- `_state_json_value`. -/
def stateJsonValue (depth : Nat) : JsonValue → Except PythonError JsonValue
  | .scalar value => do
      requireDepth depth
      match value with
      | .float f => do
          require (!isNonFinite f) (warehouseError
            "persistent warehouse payload carries a non-finite number")
          pure (.float f)
      | other => pure (.scalar other)
  | .string value => do
      requireDepth depth
      require (value.length ≤ maxStateStringLength)
        (warehouseError "persistent warehouse payload text is too long")
      pure (.string value)
  | .array items => do
      requireDepth depth
      require (items.length ≤ maxStateItems)
        (warehouseError "persistent warehouse payload list is too large")
      let items ← stateJsonItems (depth + 1) items
      pure (.array items)
  | .object fields => do
      requireDepth depth
      require (fields.length ≤ maxStateItems)
        (warehouseError "persistent warehouse payload object is too large")
      let fields ← stateJsonFields (depth + 1) fields
      pure (.object fields)

def stateJsonItems (depth : Nat) :
    List JsonValue → Except PythonError (List JsonValue)
  | [] => pure []
  | item :: rest => do
      let item ← stateJsonValue depth item
      let rest ← stateJsonItems depth rest
      pure (item :: rest)

def stateJsonFields (depth : Nat) :
    List (Text × JsonValue) → Except PythonError (List (Text × JsonValue))
  | [] => pure []
  | (key, value) :: rest => do
      require (key.length ≤ maxStateStringLength)
        (warehouseError "persistent warehouse payload object key is invalid")
      let value ← stateJsonValue depth value
      let rest ← stateJsonFields depth rest
      pure ((key, value) :: rest)

end

/-! ## The parts of the state -/

/-- One turn of the loop of `_state_records`. -/
def stateRecord (targetVersion : Nat) (entry : Text × JsonValue) :
    Except PythonError (Text × StoredRecord) := do
  let (sku, document) := entry
  require (skuPattern.fullmatch sku &&
      hasKeys [text "payload", text "record_version"] document)
    (warehouseError "persistent warehouse record entry is invalid")
  match ← stateJsonValue 0 (item "payload" document) with
  | .object payload => do
      let recordVersion ←
        stateCounter "record_version" 1 (item "record_version" document)
      require (recordVersion ≤ targetVersion) (warehouseError
        "persistent warehouse record version exceeds target version")
      pure (sku, { payload, recordVersion })
  | _ => .error (warehouseError
      "persistent warehouse record payload must be an object")

/-- `_state_records`. -/
def stateRecords (targetVersion : Nat) (settings : WarehouseSettings) :
    JsonValue → Except PythonError (List (Text × StoredRecord))
  | .object entries => do
      require (entries.length ≤ settings.capacity)
        (warehouseError "persistent warehouse records are invalid")
      let records ← entries.mapM (stateRecord targetVersion)
      require (targetVersion != 0 || records.isEmpty) (warehouseError
        "a zero-version persistent warehouse cannot carry records")
      pure records
  | _ => .error (warehouseError "persistent warehouse records are invalid")

/-- The outcome that a text names. -/
def UpsertOutcome.ofValue : JsonValue → Option UpsertOutcome
  | .string value =>
      if value = text "applied" then some .applied
      else if value = text "unchanged" then some .unchanged
      else none
  | _ => none

/-- The fingerprint and the outcome of a receipt. -/
def receiptIdentity (document : JsonValue) : Option (Text × UpsertOutcome) :=
  match item "request_fingerprint" document,
      UpsertOutcome.ofValue (item "outcome" document) with
  | .string fingerprint, some outcome =>
      if isSha256Text fingerprint && equalsNumber 200 (item "status" document)
      then some (fingerprint, outcome)
      else none
  | _, _ => none

/-- The keys of a receipt. -/
def entryKeys : List Text :=
  [text "outcome", text "record_version", text "request_fingerprint",
    text "status", text "target_version"]

/-- One turn of the loop of `_state_idempotency`. -/
def stateEntry (targetVersion : Nat) (entry : Text × JsonValue) :
    Except PythonError (Text × IdempotencyEntry) := do
  let (key, document) := entry
  require (isIdempotencyKey key && hasKeys entryKeys document)
    (warehouseError "persistent warehouse idempotency entry is invalid")
  match receiptIdentity document with
  | none => .error (warehouseError
      "persistent warehouse idempotency receipt is invalid")
  | some (requestFingerprint, outcome) => do
      let entryTarget ← stateCounter "idempotency target_version" 0
        (item "target_version" document)
      let recordVersion ← stateCounter "idempotency record_version" 1
        (item "record_version" document)
      require (entryTarget ≤ targetVersion && recordVersion ≤ targetVersion)
        (warehouseError
          "persistent warehouse idempotency receipt exceeds target state")
      pure (key, {
        requestFingerprint
        outcome
        targetVersion := entryTarget
        recordVersion
        status := 200 })

/-- `_state_idempotency`. -/
def stateIdempotency (targetVersion : Nat) :
    JsonValue → Except PythonError (List (Text × IdempotencyEntry))
  | .object entries => do
      require (entries.length ≤ maxIdempotencyEntries)
        (warehouseError "persistent warehouse idempotency state is invalid")
      entries.mapM (stateEntry targetVersion)
  | _ => .error (warehouseError
      "persistent warehouse idempotency state is invalid")

/-- One turn of the loop of `_state_effect_commits`. -/
def stateEffect (idempotency : List (Text × IdempotencyEntry))
    (entry : Text × JsonValue) : Except PythonError (Text × Nat) := do
  require ((idempotency.lookup entry.1).any fun stored =>
      stored.outcome == .applied)
    (warehouseError
      "persistent warehouse effect lacks an applied idempotency receipt")
  let count ← stateCounter "effect_commit" 1 entry.2
  pure (entry.1, count)

/-- `_state_effect_commits`. -/
def stateEffectCommits (idempotency : List (Text × IdempotencyEntry))
    (targetVersion : Nat) : JsonValue → Except PythonError (List (Text × Nat))
  | .object entries => do
      require (entries.length ≤ maxIdempotencyEntries)
        (warehouseError "persistent warehouse effect counts are invalid")
      let effects ← entries.mapM (stateEffect idempotency)
      require ((effects.map Prod.snd).sum == targetVersion) (warehouseError
        "persistent warehouse effect count diverges from target version")
      pure effects
  | _ => .error (warehouseError
      "persistent warehouse effect counts are invalid")

/-- One turn of the loop of `_state_applied_failures`. -/
def stateAppliedFailure (document : JsonValue) :
    Except PythonError AppliedFailure := do
  require (hasKeys [text "kind", text "sequence"] document)
    (warehouseError "persistent warehouse applied failure is invalid")
  let sequence ← stateCounter "failure sequence" 1 (item "sequence" document)
  match item "kind" document with
  | .string value =>
      match ScriptedFailureKind.ofValue value with
      | some kind => pure { sequence := sequence, kind }
      | none => .error (warehouseError
          "persistent warehouse applied failure kind is unsupported")
  | _ => .error (warehouseError
      "persistent warehouse applied failure kind is invalid")

/-- `_state_applied_failures`. -/
def stateAppliedFailures : JsonValue → Except PythonError (List AppliedFailure)
  | .array entries => do
      require (entries.length ≤ maxStateItems)
        (warehouseError "persistent warehouse applied failures are invalid")
      entries.mapM stateAppliedFailure
  | _ => .error (warehouseError
      "persistent warehouse applied failures are invalid")

/-! ## The state -/

/-- `expected_keys`. -/
def documentKeys : List Text :=
  [text "applied_failures", text "effect_commits", text "format",
    text "idempotency", text "records", text "request_count",
    text "target_version", text "version"]

def isStateFormat : JsonValue → Bool
  | .string value => value == text "paritygrid.demo.warehouse-state"
  | _ => false

/-- The checks of `_load_persisted_state` on the decoded document. -/
def stateOfDocument (settings : WarehouseSettings) (raw : Bytes)
    (document : JsonValue) : Except PythonError WarehouseState := do
  require (hasKeys documentKeys document) (warehouseError
    "the persistent warehouse state has an unexpected schema")
  require (isStateFormat (item "format" document) &&
      equalsNumber 1 (item "version" document))
    (warehouseError
      "the persistent warehouse state has an unsupported version")
  -- Counters have the minimum 1 unless the caller says otherwise.
  let targetVersion ←
    stateCounter "target_version" 1 (item "target_version" document)
  let requestCount ←
    stateCounter "request_count" 0 (item "request_count" document)
  let records ←
    stateRecords targetVersion settings (item "records" document)
  let idempotency ←
    stateIdempotency targetVersion (item "idempotency" document)
  let effectCommits ← stateEffectCommits idempotency targetVersion
    (item "effect_commits" document)
  let applied ← stateAppliedFailures (item "applied_failures" document)
  pure {
    records
    targetVersion
    idempotency
    requestCount
    applied
    effectCommits
    stateFile := some raw }

section File

variable [JsonRuntime]

/-- `_load_persisted_state`, of a file that exists. -/
def loadPersistedState (settings : WarehouseSettings) (raw : Bytes) :
    Except PythonError WarehouseState := do
  require (raw.length ≤ maxStateBytes)
    (warehouseError "the persistent warehouse state is oversized")
  match ← readBody raw with
  | none => .error (warehouseError
      "the persistent warehouse state is malformed")
  | some (.object fields) => stateOfDocument settings raw (.object fields)
  | some _ => .error (warehouseError
      "the persistent warehouse state must be a JSON object")

/-- The state that a new behavior starts from. -/
def WarehouseBehavior.start (behavior : WarehouseBehavior)
    (stateFile : Option Bytes) : Except PythonError WarehouseState :=
  match behavior.durable, stateFile with
  | true, some raw => loadPersistedState behavior.settings raw
  | _, _ => .ok .fresh

end File

end ParityGrid.Demo
