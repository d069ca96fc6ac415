import ParityGrid.Demo.Failures
import ParityGrid.Demo.Simulators.HttpWire
import ParityGrid.Domain.Inventory
import ParityGrid.Foundation.JsonReading

/-!
# The simulated warehouse

A loopback target whose upserts carry an idempotency key.  One request counts
itself, meets its scripted failure, and then is rejected, replayed, found to
change nothing, or applied; the state is written to its file whenever it has
changed.  A new behavior reads the file back with checks of its own.
-/

namespace ParityGrid.Demo

open Foundation Domain

/-! ## Settings and state -/

def warehouseError (message : String) : PythonError :=
  .raised (text "WarehouseError") true (text message)

/-- `WarehouseSettings`. -/
structure WarehouseSettings where
  capacity : Nat
  capacity_bounds : 1 ≤ capacity ∧ capacity ≤ 1000000

/-- `_MAX_COUNTER`. -/
def maxCounter : Nat := 2147483647

/-- `_MAX_IDEMPOTENCY_ENTRIES`. -/
def maxIdempotencyEntries : Nat := 10000

/-- `_MAX_WAREHOUSE_STATE_BYTES`. -/
def maxStateBytes : Nat := 16 * 1024 * 1024

/-- `_MAX_WAREHOUSE_STATE_DEPTH`. -/
def maxStateDepth : Nat := 12

/-- `_MAX_WAREHOUSE_STATE_ITEMS`. -/
def maxStateItems : Nat := 10000

/-- `_MAX_WAREHOUSE_STATE_STRING_LENGTH`. -/
def maxStateStringLength : Nat := 16384

/-- What a receipt says about its request. -/
inductive UpsertOutcome where
  | applied
  | unchanged
deriving DecidableEq

def UpsertOutcome.value : UpsertOutcome → Text
  | .applied => text "applied"
  | .unchanged => text "unchanged"

/-- The payload of a record and how many effects it has seen. -/
structure StoredRecord where
  payload : List (Text × JsonValue)
  recordVersion : Nat

/-- `_IdempotencyEntry`. -/
structure IdempotencyEntry where
  requestFingerprint : Text
  outcome : UpsertOutcome
  targetVersion : Nat
  recordVersion : Nat
  status : Nat
deriving DecidableEq

/-- What a behavior mutates, with the content of its state file. -/
structure WarehouseState where
  records : List (Text × StoredRecord)
  targetVersion : Nat
  idempotency : List (Text × IdempotencyEntry)
  requestCount : Nat
  applied : List AppliedFailure
  effectCommits : List (Text × Nat)
  stateFile : Option Bytes

/-- The state of a behavior that has read no file. -/
def WarehouseState.fresh : WarehouseState where
  records := []
  targetVersion := 0
  idempotency := []
  requestCount := 0
  applied := []
  effectCommits := []
  stateFile := none

/-- What a behavior is constructed with; `durable` says that it has a root. -/
structure WarehouseBehavior where
  script : FailureScript
  settings : WarehouseSettings
  durable : Bool
  transport : requireTransportScript script (text "warehouse") = .ok ()

/-! ## The state document -/

/-- One record of the state document. -/
def recordDocument (record : StoredRecord) : JsonValue :=
  .object [(text "payload", .object record.payload),
    (text "record_version", .int record.recordVersion)]

/-- One receipt of the state document. -/
def entryDocument (entry : IdempotencyEntry) : JsonValue :=
  .object [(text "outcome", .string entry.outcome.value),
    (text "record_version", .int entry.recordVersion),
    (text "request_fingerprint", .string entry.requestFingerprint),
    (text "status", .int entry.status),
    (text "target_version", .int entry.targetVersion)]

/-- One applied failure of the state document. -/
def appliedDocument (failure : AppliedFailure) : JsonValue :=
  .object [(text "kind", .string failure.kind.value),
    (text "sequence", .int failure.sequence)]

/-- `dict(sorted(d.items()))`, with a document for each value. -/
def sortedDocument {α : Type} (write : α → JsonValue)
    (d : List (Text × α)) : JsonValue :=
  .object ((sortedBy Prod.fst d).map fun item => (item.1, write item.2))

/-- `_state_document`. -/
def WarehouseState.document (state : WarehouseState) : JsonValue :=
  .object [(text "applied_failures",
      .array (state.applied.map appliedDocument)),
    (text "effect_commits",
      sortedDocument (fun count : Nat => .int count) state.effectCommits),
    (text "format", .string (text "paritygrid.demo.warehouse-state")),
    (text "idempotency", sortedDocument entryDocument state.idempotency),
    (text "records", sortedDocument recordDocument state.records),
    (text "request_count", .int state.requestCount),
    (text "target_version", .int state.targetVersion),
    (text "version", .int 1)]

section Warehouse

variable [JsonRuntime]

/-- `_persist_state`.  A failure of the file system raises as well. -/
def WarehouseBehavior.persist (behavior : WarehouseBehavior)
    (state : WarehouseState) : Except PythonError WarehouseState :=
  if behavior.durable then do
    let payload ← jsonDumps state.document
    require (payload.length ≤ maxStateBytes) (warehouseError
      "the persistent warehouse state exceeds its bounded size")
    pure { state with stateFile := some (encodeAscii payload) }
  else pure state

/-! ## Reading a request -/

def isKeyHead (c : CodePoint) : Bool :=
  isUpper c || isLower c || isDigit c

/-- `_IDEMPOTENCY_KEY_PATTERN`: `[A-Za-z0-9][A-Za-z0-9._:-]{0,127}`. -/
def isIdempotencyKey : Text → Bool
  | [] => false
  | c :: rest =>
      isKeyHead c && rest.length ≤ 127 &&
        rest.all fun d => isKeyHead d || (text "._:-").contains d

/-- `_request_fingerprint`. -/
def requestFingerprint (method path : Text) (body : Bytes)
    (precondition : Option Text) : Except PythonError Text := do
  let condition ← precondition.elim (pure []) encodeStrict
  let method ← encodeStrict method
  let path ← encodeStrict path
  let payload := List.intercalate [0] [method, path, body, condition]
  pure (sha256 (encodeAscii (text "paritygrid-warehouse-request-v1") ++
    0 :: payload)).hex

/-- A well-formed upsert. -/
structure UpsertRequest where
  key : Text
  payload : List (Text × JsonValue)
  precondition : Option Text
  fingerprint : Text

/-- `json.loads(body.decode("utf-8"))`, or nothing for a malformed body. -/
def readBody (body : Bytes) : Except PythonError (Option JsonValue) :=
  match decodeUtf8 body with
  | none => .ok none
  | some t =>
      match jsonLoads t with
      | .ok value => .ok (some value)
      | .error .malformed => .ok none
      | .error .digits => .error (.valueError (text
          "Exceeds the limit (4300 digits) for integer string conversion"))
      | .error .nesting => .error .recursionError

/-- The checks of `_handle_upsert` before the registry is consulted. -/
def readUpsert (sku : Text) (request : HttpRequest) :
    Except PythonError (PlannedResponse ⊕ UpsertRequest) :=
  match request.header "idempotency-key" with
  | none => rejectKey
  | some key =>
      if !isIdempotencyKey key then rejectKey
      else do
        match ← readBody request.body with
        | some (.object payload) =>
            if (payload.lookup (text "sku")).any (isText sku) then do
              let precondition :=
                request.header "x-paritygrid-target-precondition"
              let fingerprint ← requestFingerprint request.method request.path
                request.body precondition
              pure (.inr { key, payload, precondition, fingerprint })
            else
              .inl <$> errorResponse 400 "body_mismatch"
                "The body SKU must match the addressed record."
        | _ =>
            .inl <$> errorResponse 400 "invalid_body"
              "The request body must be a JSON object."
where
  rejectKey : Except PythonError (PlannedResponse ⊕ UpsertRequest) :=
    .inl <$> errorResponse 400 "missing_idempotency_key"
      "A canonical Idempotency-Key header is required."
  isText (expected : Text) : JsonValue → Bool
    | .string value => value == expected
    | _ => false

/-! ## Scripted failures -/

/-- `_pre_commit_transport_failure`. -/
def preCommitTransportFailure (failure : ScriptedFailure) :
    Except PythonError (Option PlannedResponse) :=
  match failure.kind with
  | .rateLimit => do
      let body ← errorBody "rate_limited"
        "The warehouse request exceeded its rate limit."
      pure (some {
        status := 429
        body
        headers := [jsonContentType, (text "Retry-After",
          failure.retryAfterSeconds.elim (text "None") decimalInt)] })
  | .transientError => do
      let body ← errorBody "transient"
        "The warehouse is temporarily unavailable."
      pure (some { status := 503, body, headers := [jsonContentType] })
  | .hang =>
      pure (some {
        status := 200
        body := []
        action := .holdUntilDisconnect
        holdCapMicroseconds := failure.delayMicroseconds.getD 0 })
  | _ => pure none

/-- `_post_commit_transport_failure`. -/
def postCommitTransportFailure (failure : Option ScriptedFailure)
    (response : PlannedResponse) : Except PythonError PlannedResponse :=
  match failure with
  | none => pure response
  | some failure =>
      match failure.kind with
      | .timeout =>
          pure { response with
            delayMicroseconds := failure.delayMicroseconds.getD 0 }
      | .connectionLoss => do
          let body ← response.encoded
          pure {
            status := response.status
            body
            action := .closePartial
            partialBytes := failure.partialBytes.getD 1 }
      | _ => pure response

/-! ## Target preconditions -/

def connectorValidationError (message : String) : PythonError :=
  .raised (text "ConnectorValidationError") true (text message)

mutual

/-- `validate_value`, inside `validate_source_record_payload`. -/
def validateRecordValue (depth : Nat) : JsonValue → Except PythonError Unit
  | .scalar .null => pure ()
  | .scalar (.bool _) => pure ()
  | .scalar (.int value) =>
      require (-(2 ^ 53) ≤ value && value ≤ 2 ^ 53) (connectorValidationError
        "record integer is outside the safe range")
  | .string value =>
      require (value.length ≤ 1024) (connectorValidationError
        "record text field exceeds the length bound")
  | .object fields => do
      require (depth < 4) (connectorValidationError
        "record payload exceeds the nesting bound")
      require (fields.length ≤ 32) (connectorValidationError
        "record mapping exceeds the field bound")
      validateRecordFields (depth + 1) fields
  | .array items => do
      require (depth < 4) (connectorValidationError
        "record payload exceeds the nesting bound")
      require (items.length ≤ 64) (connectorValidationError
        "record list exceeds the item bound")
      validateRecordItems (depth + 1) items
  | .scalar (.float _) => do
      require (depth < 4) (connectorValidationError
        "record payload exceeds the nesting bound")
      .error (connectorValidationError
        "record payload carries an unsupported value type")

def validateRecordItems (depth : Nat) :
    List JsonValue → Except PythonError Unit
  | [] => pure ()
  | item :: rest => do
      validateRecordValue depth item
      validateRecordItems depth rest

def validateRecordFields (depth : Nat) :
    List (Text × JsonValue) → Except PythonError Unit
  | [] => pure ()
  | (_, value) :: rest => do
      validateRecordValue depth value
      validateRecordFields depth rest

end

/-- `validate_source_record_payload`, of a mapping. -/
def validateSourceRecordPayload (payload : List (Text × JsonValue)) :
    Except PythonError Unit := do
  require (payload.length ≤ 32) (connectorValidationError
    "record payload exceeds the field bound")
  validateRecordFields 1 payload

/-- `canonical_target_payload_sha256`. -/
def canonicalTargetPayloadSha256 (payload : List (Text × JsonValue)) :
    Except PythonError Text := do
  validateSourceRecordPayload payload
  let projected := payload.filter fun field =>
    field.1 ≠ text "source_record_key"
  let encoded ← jsonDumps (.object projected)
  pure (sha256 (encodeAscii (text "paritygrid:target-precondition:v1") ++
    0 :: encodeAscii encoded)).hex

/-- `_precondition_holds`. -/
def preconditionHolds (precondition : Option Text)
    (existing : Option StoredRecord) : Except PythonError Bool :=
  match precondition with
  | none => pure true
  | some condition =>
      if condition = text "absent" then pure existing.isNone
      else if (text "sha256:").isPrefixOf condition then
        let expected := condition.drop (text "sha256:").length
        if isSha256Text expected then
          match existing with
          | none => pure false
          | some record => do
              let digest ← canonicalTargetPayloadSha256 record.payload
              pure (digest == expected)
        else pure false
      else pure false

/-! ## Upserts -/

/-- `_store_idempotency`. -/
def storeIdempotency (key : Text) (entry : IdempotencyEntry)
    (state : WarehouseState) : Except PythonError WarehouseState := do
  require ((state.idempotency.lookup key).isSome ||
      state.idempotency.length < maxIdempotencyEntries)
    (warehouseError "the idempotency registry is exhausted")
  pure { state with
    idempotency := alter key (fun _ => entry) state.idempotency }

/-- The document of an outcome. -/
def outcomeDocument (entry : IdempotencyEntry) (replayed : Bool) : JsonValue :=
  .object [(text "outcome", .string entry.outcome.value),
    (text "record_version", .int entry.recordVersion),
    (text "replayed", .bool replayed),
    (text "target_version", .int entry.targetVersion)]

/-- The answer to a request whose key is stored with the same fingerprint. -/
def replayResponse (stored : IdempotencyEntry) :
    Except PythonError PlannedResponse := do
  let response ← jsonResponse stored.status (outcomeDocument stored true)
  pure (response.withHeader (text "Idempotency-Replayed") (text "true"))

/-- Both payloads have the same canonical document. -/
def isUnchanged (payload : List (Text × JsonValue))
    (existing : Option StoredRecord) : Except PythonError Bool := do
  let canonical ← jsonDumps (.object payload)
  match existing with
  | none => pure false
  | some record => do
      let stored ← jsonDumps (.object record.payload)
      pure (stored == canonical)

/-- The receipt of a write that changes nothing. -/
def unchangedEntry (upsert : UpsertRequest) (existing : Option StoredRecord)
    (state : WarehouseState) : IdempotencyEntry where
  requestFingerprint := upsert.fingerprint
  outcome := .unchanged
  targetVersion := state.targetVersion
  recordVersion := (existing.map StoredRecord.recordVersion).getD 0
  status := 200

/-- The receipt of a write that is applied. -/
def appliedEntry (upsert : UpsertRequest) (existing : Option StoredRecord)
    (state : WarehouseState) : IdempotencyEntry where
  requestFingerprint := upsert.fingerprint
  outcome := .applied
  targetVersion := state.targetVersion + 1
  recordVersion := (existing.map StoredRecord.recordVersion).getD 0 + 1
  status := 200

/-- The record and the target version after an applied write. -/
def WarehouseState.write (sku : Text) (upsert : UpsertRequest)
    (state : WarehouseState) : WarehouseState :=
  { state with
    targetVersion := state.targetVersion + 1
    records := alter sku (fun existing => {
      payload := upsert.payload
      recordVersion := (existing.map StoredRecord.recordVersion).getD 0 + 1 })
      state.records }

/-- `effect_commits[key] = effect_commits.get(key, 0) + 1`. -/
def WarehouseState.commit (key : Text) (state : WarehouseState) :
    WarehouseState :=
  { state with effectCommits := countKey state.effectCommits key }

/-- A write of the payload that is already stored. -/
def settleUnchanged (behavior : WarehouseBehavior)
    (failure : Option ScriptedFailure) (upsert : UpsertRequest)
    (existing : Option StoredRecord) (state : WarehouseState) :
    Except PythonError (WarehouseState × PlannedResponse) := do
  let entry := unchangedEntry upsert existing state
  let state ← storeIdempotency upsert.key entry state
  let state ← behavior.persist state
  let response ← jsonResponse 200 (outcomeDocument entry false)
  let response ← postCommitTransportFailure failure response
  pure (state, response)

/-- A write that commits one effect. -/
def settleApplied (behavior : WarehouseBehavior)
    (failure : Option ScriptedFailure) (sku : Text) (upsert : UpsertRequest)
    (existing : Option StoredRecord) (state : WarehouseState) :
    Except PythonError (WarehouseState × PlannedResponse) := do
  let entry := appliedEntry upsert existing state
  let state ← storeIdempotency upsert.key entry (state.write sku upsert)
  let state ← behavior.persist (state.commit upsert.key)
  let response ← jsonResponse 200 (outcomeDocument entry false)
  let response ← postCommitTransportFailure failure response
  pure (state, response)

/-- The part of `_handle_upsert` that a key without a receipt reaches. -/
def settleUpsert (behavior : WarehouseBehavior)
    (failure : Option ScriptedFailure) (sku : Text) (upsert : UpsertRequest)
    (state : WarehouseState) :
    Except PythonError (WarehouseState × PlannedResponse) :=
  let existing := state.records.lookup sku
  if existing.isNone && behavior.settings.capacity ≤ state.records.length then do
    let response ← errorResponse 507 "capacity_exceeded"
      "The warehouse record capacity is exhausted."
    pure (state, response)
  else do
    let holds ← preconditionHolds upsert.precondition existing
    if !holds then do
      let response ← errorResponse 409 "target_precondition_failed"
        "The target no longer satisfies the repair precondition."
      pure (state, response)
    else do
      let unchanged ← isUnchanged upsert.payload existing
      if unchanged then
        settleUnchanged behavior failure upsert existing state
      else settleApplied behavior failure sku upsert existing state

/-- The part of `_handle_upsert` that a well-formed request reaches. -/
def serveUpsert (behavior : WarehouseBehavior)
    (failure : Option ScriptedFailure) (sku : Text) (upsert : UpsertRequest)
    (state : WarehouseState) :
    Except PythonError (WarehouseState × PlannedResponse) :=
  match state.idempotency.lookup upsert.key with
  | none => settleUpsert behavior failure sku upsert state
  | some stored =>
      if stored.requestFingerprint ≠ upsert.fingerprint then do
        let response ← errorResponse 409 "idempotency_conflict"
          "The idempotency key was reused with a different request."
        pure (state, response)
      else do
        let response ← replayResponse stored
        let response ← postCommitTransportFailure failure response
        pure (state, response)

/-- The part of `_handle_upsert` after its scripted failure. -/
def readAndServe (behavior : WarehouseBehavior)
    (failure : Option ScriptedFailure) (sku : Text) (request : HttpRequest)
    (state : WarehouseState) :
    Except PythonError (WarehouseState × PlannedResponse) := do
  match ← readUpsert sku request with
  | .inl rejection => pure (state, rejection)
  | .inr upsert => serveUpsert behavior failure sku upsert state

/-- Count one request. -/
def WarehouseState.count (state : WarehouseState) : WarehouseState :=
  { state with requestCount := state.requestCount + 1 }

/-- Note that a scripted failure was applied. -/
def WarehouseState.note (failure : ScriptedFailure) (state : WarehouseState) :
    WarehouseState :=
  { state with
    applied := state.applied ++ [⟨failure.sequence, failure.kind⟩] }

/-- `_handle_upsert`. -/
def handleUpsert (behavior : WarehouseBehavior) (sku : Text)
    (request : HttpRequest) (state : WarehouseState) :
    Except PythonError (WarehouseState × PlannedResponse) := do
  let state ← behavior.persist state.count
  match behavior.script.failureFor state.requestCount with
  | none => readAndServe behavior none sku request state
  | some failure => do
      let state ← behavior.persist (state.note failure)
      match ← preCommitTransportFailure failure with
      | some planned => pure (state, planned)
      | none => readAndServe behavior (some failure) sku request state

/-- The record that `handle` upserts for a request, if that is its route. -/
def upsertSku (request : HttpRequest) : Option Text :=
  let sku := (request.path.reverse.takeWhile (· ≠ point '/')).reverse
  if (text "/v1/records/").isPrefixOf request.path &&
      skuPattern.fullmatch sku && request.method == text "PUT" then
    some sku
  else none

end Warehouse

end ParityGrid.Demo
