import ParityGrid.Domain.Reconciliation.Differences

/-!
# Normalization of source observations

One closed wire payload becomes a canonical record with its comparison
projection, or a quarantined observation that names the field at fault.  The
definitions follow the rules in the order the program applies them, exceptions
included: what a rule does not catch aborts the batch.
-/

namespace ParityGrid.Domain

open Foundation

/-- `NORMALIZATION_RULES_VERSION`. -/
def normalizationRulesVersion : Nat := 1

/-- `MAX_SOURCE_OBSERVATIONS`. -/
def maxSourceObservations : Nat := 100000

/-- `MAX_QUARANTINE_DETAIL_CHARACTERS`. -/
def maxQuarantineDetailCharacters : Nat := 200

/-- `MAX_QUARANTINE_FIELD_BYTES`. -/
def maxQuarantineFieldBytes : Nat := 96

/-- `MAX_PAYLOAD_FIELDS`. -/
def maxPayloadFields : Nat := 32

/-- `NormalizationError`, a `ValueError`. -/
def normalizationError (reason : String) : PythonError :=
  .raised (text "NormalizationError") true (text reason)

inductive QuarantineCode where
  | sourceMalformed
  | payloadNotObject
  | missingField
  | nullField
  | wrongType
  | invalidValue
deriving DecidableEq

def QuarantineCode.value : QuarantineCode → String
  | .sourceMalformed => "source_malformed"
  | .payloadNotObject => "payload_not_object"
  | .missingField => "missing_field"
  | .nullField => "null_field"
  | .wrongType => "wrong_type"
  | .invalidValue => "invalid_value"

/-! ## Observations and their entries -/

/-- The fields of a payload mapping. -/
abbrev Payload := List (Text × JsonValue)

/-- A payload mapping, or the reason for which there is none. -/
inductive ObservedPayload where
  | mapping (fields : Payload)
      (distinct : (JsonValue.object fields).keysDistinct)
  | malformed (reason : Text) (nonempty : reason ≠ [])
      (bounded : reason.length ≤ maxQuarantineDetailCharacters)

/-- One ordered connector observation before normalization. -/
structure SourceObservation where
  position : Nat
  connectorId : ConnectorId
  payload : ObservedPayload

/-- The checks of `QuarantinedObservation.__post_init__`. -/
def validateQuarantined (field detail sourceRecordKey : Text) :
    Except PythonError Unit := do
  let fieldBytes ← encodeUtf8 field
  require (field != [] && fieldBytes.length ≤ maxQuarantineFieldBytes)
    (normalizationError "quarantined field must be bounded nonempty text")
  require (detail != [] && detail.length ≤ maxQuarantineDetailCharacters)
    (normalizationError "quarantined detail must be bounded nonempty text")
  let keyBytes ← encodeUtf8 sourceRecordKey
  require (keyBytes.length ≤ maxQuarantineFieldBytes)
    (normalizationError
      "quarantined source record key must be bounded text")

/-- Bounded quarantine evidence for one observation. -/
structure QuarantinedObservation where
  position : Nat
  connectorId : ConnectorId
  code : QuarantineCode
  field : Text
  detail : Text
  sourceRecordKey : Text
  valid : validateQuarantined field detail sourceRecordKey = .ok ()
deriving DecidableEq

section Normalization

variable [PythonRuntime]

/-- One valid canonical record with its comparison projection. -/
structure NormalizedRecord where
  position : Nat
  record : InventoryRecord
  document : ComparisonDocument
deriving DecidableEq

/-- Where one observation ends. -/
inductive NormalizationEntry where
  | record (normalized : NormalizedRecord)
  | quarantined (found : QuarantinedObservation)

def NormalizationEntry.position : NormalizationEntry → Nat
  | .record normalized => normalized.position
  | .quarantined found => found.position

/-! ## Quarantine -/

/-- `_quarantine_key`. -/
def quarantineKey (observation : SourceObservation) :
    Except PythonError Text :=
  match observation.payload with
  | .malformed .. => .ok []
  | .mapping payload _ =>
      match payload.lookup (text "source_record_key") with
      | some (.string key) => do
          let normalized := nfc key
          let encoded ← encodeUtf8 normalized
          pure (if encoded.length ≤ maxQuarantineFieldBytes then normalized
            else [])
      | _ => .ok []

/-- `_bounded_detail_str`. -/
def boundedDetail (detail : Text) : Text :=
  let normalized := strip (nfc detail)
  if normalized = [] then text "normalization failed"
  else normalized.take maxQuarantineDetailCharacters

/-- `_quarantine`. -/
def quarantine (observation : SourceObservation) (code : QuarantineCode)
    (field detail : Text) : Except PythonError QuarantinedObservation := do
  let sourceRecordKey ← quarantineKey observation
  let checked ← certify
    (validateQuarantined field (boundedDetail detail) sourceRecordKey)
    fun _ accepted => accepted
  pure
    { position := observation.position
      connectorId := observation.connectorId
      code
      field
      detail := boundedDetail detail
      sourceRecordKey
      valid := checked.2 }

/-! ## Projection -/

/--
Comparison leaves by path, in the order they are stored.  No path is stored
twice, so the parts of a projection are joined by concatenation.
-/
abbrev Projection := List (Text × ComparisonValue)

/-- A leaf of text that `leaf` constructs, else a marker. -/
def projectText (leaf : Text → Except PythonError ComparisonValue) :
    JsonValue → Except PythonError ComparisonValue
  | .null => .ok .null
  | .string value =>
      exceptValueErrors (leaf value)
        (ComparisonValue.wrongTypeOf (.string value))
  | value => ComparisonValue.wrongTypeOf value

/-- The leaf of `quantity`; an integer out of range is not caught. -/
def projectQuantity : JsonValue → Except PythonError ComparisonValue
  | .null => .ok .null
  | .int value => ComparisonValue.integerValue value
  | value => ComparisonValue.wrongTypeOf value

/-- Store the leaf of a field, when the field is present. -/
def projectField (project : JsonValue → Except PythonError ComparisonValue)
    (path : String) : Option JsonValue → Except PythonError Projection
  | none => .ok []
  | some value => (project value).map fun leaf => [(text path, leaf)]

/-- `_project_leaf`. -/
def projectLeaf (payload : Payload) (name : String) :
    Except PythonError Projection :=
  let project :=
    if name = "quantity" then projectQuantity
    else projectText ComparisonValue.textValue
  projectField project name (payload.lookup (text name))

/-- `_project_unit_price`. -/
def projectUnitPrice (payload : Payload) : Except PythonError Projection :=
  match payload.lookup (text "unit_price") with
  | none => .ok []
  | some .null => .ok [(text "unit_price", .null)]
  | some (.object price) => do
      let child := projectField (projectText ComparisonValue.textValue)
      let currency ← child "unit_price/currency"
        (price.lookup (text "currency"))
      let amount ← child "unit_price/amount" (price.lookup (text "amount"))
      pure (currency ++ amount)
  | some value => do
      let leaf ← ComparisonValue.wrongTypeOf value
      pure [(text "unit_price", leaf)]

/-- The loop of `_project_attributes`; `invalidKey` is the least so far. -/
def projectItems (invalidKey : Option Text) :
    List (Text × JsonValue) → Except PythonError (Projection × Option Text)
  | [] => .ok ([], invalidKey)
  | (key, item) :: rest =>
      match canonicalAttributePath key with
      | none =>
          projectItems
            (if invalidKey.all (key < ·) then some key else invalidKey) rest
      | some path => do
          let leaf ← projectText ComparisonValue.attributeTextValue item
          let (leaves, invalid) ← projectItems invalidKey rest
          pure ((path, leaf) :: leaves, invalid)

/-- `_project_attributes`. -/
def projectAttributes (payload : Payload) :
    Except PythonError (Projection × Option Text) :=
  match payload.lookup (text "attributes") with
  | none => .ok ([], none)
  | some .null => .ok ([(text "attributes", .null)], none)
  | some (.object attributes) =>
      projectItems none (sortedBy Prod.fst attributes)
  | some value => do
      let leaf ← ComparisonValue.wrongTypeOf value
      pure ([(text "attributes", leaf)], none)

/-- `_project_payload`. -/
def projectPayload (payload : Payload) :
    Except PythonError (Projection × Option Text) := do
  let name ← projectLeaf payload "name"
  let quantity ← projectLeaf payload "quantity"
  let updatedAt ← projectLeaf payload "updated_at"
  let unitPrice ← projectUnitPrice payload
  let (attributes, invalidKey) ← projectAttributes payload
  pure (name ++ quantity ++ updatedAt ++ unitPrice ++ attributes, invalidKey)

/-! ## Quarantine of whole payloads -/

/-- One step of `_provenance_quarantine`. -/
def provenanceField (observation : SourceObservation) (payload : Payload)
    (name : String) : Except PythonError (Option QuarantinedObservation) :=
  match payload.lookup (text name) with
  | some (.string _) => .ok none
  | none =>
      some <$> quarantine observation .missingField (text name)
        (text name ++ text " is absent")
  | some .null =>
      some <$> quarantine observation .nullField (text name)
        (text name ++ text " is null")
  | some _ =>
      some <$> quarantine observation .wrongType (text name)
        (text name ++ text " must be text")

/-- `_provenance_quarantine`. -/
def provenanceQuarantine (observation : SourceObservation)
    (payload : Payload) :
    Except PythonError (Option QuarantinedObservation) := do
  match ← provenanceField observation payload "sku" with
  | some found => pure (some found)
  | none => provenanceField observation payload "source_record_key"

/-- `_EXPECTED_TYPES`. -/
def expectedTypes : List (Text × Text) :=
  [(text "name", text "canonical text"),
    (text "quantity", text "an integer"),
    (text "updated_at", text "canonical text"),
    (text "unit_price", text "an object"),
    (text "unit_price/currency", text "canonical text"),
    (text "unit_price/amount", text "canonical text"),
    (text "attributes", text "an object")]

/-- The detail of a wrong-type marker at a path. -/
def wrongTypeDetail (path : Text) : Text :=
  let expected :=
    if (text "attributes/").isPrefixOf path then some (text "canonical text")
    else expectedTypes.lookup path
  match expected with
  | some expected => path ++ text " must be " ++ expected
  | none => path ++ text " must be a supported canonical type"

/-- A marker leaf cannot take part in a canonical record. -/
def ComparisonValue.isMarker (value : ComparisonValue) : Bool :=
  value.kind = .null || value.kind = .wrongType

/-- `_marker_quarantine` at the first marker of the sorted projection. -/
def markerQuarantine (observation : SourceObservation)
    (projection : Projection) :
    Except PythonError (Option QuarantinedObservation) :=
  match (sortedBy Prod.fst projection).find? (·.2.isMarker) with
  | none => .ok none
  | some (path, value) =>
      if value.kind = .null then
        some <$> quarantine observation .nullField path
          (path ++ text " is null")
      else
        some <$> quarantine observation .wrongType path
          (wrongTypeDetail path)

/-- The first required path that the projection lacks. -/
def missingPath (projection : Projection) : Option String :=
  let has (path : String) : Bool := (projection.lookup (text path)).isSome
  if !has "name" then some "name"
  else if !has "quantity" then some "quantity"
  else if !has "updated_at" then some "updated_at"
  else if !has "unit_price" && !has "unit_price/currency" then
    some "unit_price"
  else if !has "unit_price/currency" then some "unit_price/currency"
  else if !has "unit_price/amount" then some "unit_price/amount"
  else none

/-- `_required_quarantine`. -/
def requiredQuarantine (observation : SourceObservation)
    (projection : Projection) :
    Except PythonError (Option QuarantinedObservation) :=
  match missingPath projection with
  | none => .ok none
  | some path =>
      some <$> quarantine observation .missingField (text path)
        (text path ++ text " is absent")

/-! ## Parsing the projected leaves -/

/-- The text of the leaf at a path. -/
def readText (projection : Projection) (path : String) :
    Except PythonError Text :=
  match (projection.lookup (text path)).bind ComparisonValue.leafText with
  | some value => .ok value
  | none => .error .keyError

/-- `projection[path] = leaf` at a path that is present. -/
def storeLeaf (path : String) (leaf : ComparisonValue)
    (projection : Projection) : Projection :=
  projection.map fun entry =>
    if entry.1 = text path then (entry.1, leaf) else entry

/-- `Money.parse` with its errors turned into `None`. -/
def tryMoney (value : Text) : Except PythonError (Option Money) :=
  exceptValueErrors ((Money.parse value).map some) (.ok none)

/-- `_parse_money`. -/
def parseMoney (currency amount : Text) :
    Except PythonError (Option Money × Option Money) := do
  let currencyMoney ← tryMoney (currency ++ text " 1.00")
  let amountMoney ← tryMoney (text "USD " ++ amount)
  if currencyMoney.isNone || amountMoney.isNone then
    pure (currencyMoney, amountMoney)
  else do
    let combined ← tryMoney (currency ++ point ' ' :: amount)
    pure (currencyMoney, combined)

/-- Parse the money leaf, or quarantine the half that failed first. -/
def resolveAmount (observation : SourceObservation)
    (projection : Projection) :
    Except PythonError (Except QuarantinedObservation Projection) := do
  let currency ← readText projection "unit_price/currency"
  match projection.lookup (text "unit_price/amount") with
  | some (.text amount) => do
      match ← parseMoney currency amount with
      | (none, _) =>
          .error <$> quarantine observation .invalidValue
            (text "unit_price/currency")
            (text "unit_price/currency is not a canonical currency: " ++
              currency)
      | (some _, none) =>
          .error <$> quarantine observation .invalidValue
            (text "unit_price/amount")
            (text "unit_price/amount is not a canonical amount: " ++ amount)
      | (some _, some money) =>
          pure (.ok (storeLeaf "unit_price/amount" (.moneyAmount money)
            projection))
  | some _ => pure (.ok projection)
  | none => .error .keyError

/-- Parse the timestamp leaf, or quarantine it. -/
def resolveTimestamp (observation : SourceObservation)
    (projection : Projection) :
    Except PythonError (Except QuarantinedObservation Projection) :=
  match projection.lookup (text "updated_at") with
  | some (.text value) =>
      exceptValueErrors
        ((UtcTimestamp.parse value).map fun parsed =>
          .ok (storeLeaf "updated_at" (.timestamp parsed) projection))
        (.error <$> quarantine observation .invalidValue (text "updated_at")
          (text "updated_at is not a canonical timestamp: " ++ value))
  | some _ => .ok (.ok projection)
  | none => .error .keyError

/-- `path.partition("/")[2]`. -/
def afterSlash (path : Text) : Text :=
  (path.dropWhile (· != point '/')).drop 1

/-- The attribute texts of a projection, by key. -/
def attributeItems (projection : Projection) : List (Text × Text) :=
  projection.filterMap fun entry =>
    match entry.2 with
    | .attributeText value =>
        if (text "attributes/").isPrefixOf entry.1 then
          some (afterSlash entry.1, value)
        else none
    | _ => none

/-- The keyword arguments that the record is created from. -/
def recordArguments (observation : SourceObservation) (payload : Payload)
    (projection : Projection) : Except PythonError RecordArguments :=
  match payload.lookup (text "sku"),
      projection.lookup (text "name"),
      projection.lookup (text "quantity"),
      projection.lookup (text "unit_price/amount"),
      projection.lookup (text "updated_at"),
      payload.lookup (text "source_record_key") with
  | some (.string sku), some (.text name), some (.integer quantity _),
      some (.moneyAmount unitPrice), some (.timestamp updatedAt),
      some (.string sourceRecordKey) =>
      .ok
        { sku, name, quantity, unitPrice, updatedAt
          connectorId := observation.connectorId
          sourceRecordKey
          attributes := attributeItems projection }
  | _, _, _, _, _, _ => .error .keyError

/-! ## Probing a rejected record -/

/-- `_PROBE_MONEY`. -/
def probeMoney : Money where
  currency := ⟨text "USD", dollars_valid⟩
  minorUnitExponent := 2
  minorUnits := 100
  exponentValid := cents_valid
  magnitudeValid := by decide

/-- `_PROBE_TIMESTAMP`. -/
def probeTimestamp : UtcTimestamp where
  civil :=
    { year := 2024, month := 1, day := 2, hour := 3, minute := 4
      second := 5, microsecond := 6 }
  valid := sampleInstant_valid

/-- The record of `_probe_record` without overrides. -/
def probeArguments (connectorId : ConnectorId) : RecordArguments where
  sku := text "PROBE-1"
  name := text "Probe value"
  quantity := 1
  unitPrice := probeMoney
  updatedAt := probeTimestamp
  connectorId := connectorId
  sourceRecordKey := text "probe-key"
  attributes := []

/-- Whether the domain contract rejects a probe. -/
def probeRejects (arguments : RecordArguments) : Except PythonError Bool :=
  exceptValueErrors ((InventoryRecord.create arguments).map fun _ => false)
    (.ok true)

/-- The first probe that the domain contract rejects. -/
def firstRejected : List (String × RecordArguments) →
    Except PythonError String
  | [] => .ok "record"
  | (field, arguments) :: rest => do
      if ← probeRejects arguments then pure field else firstRejected rest

/-- `_probe_invalid_field`. -/
def probeInvalidField (arguments : RecordArguments) :
    Except PythonError String :=
  let probe := probeArguments arguments.connectorId
  firstRejected
    [("sku", { probe with sku := arguments.sku }),
      ("name", { probe with name := arguments.name }),
      ("quantity", { probe with quantity := arguments.quantity }),
      ("source_record_key",
        { probe with sourceRecordKey := arguments.sourceRecordKey }),
      ("attributes",
        { probe with
          attributes := sortedBy Prod.fst arguments.attributes })]

/-! ## One observation -/

/-- The end of `normalize_observation`, from parsed leaves. -/
def createRecord (observation : SourceObservation) (payload : Payload)
    (projection : Projection) : Except PythonError NormalizationEntry := do
  let arguments ← recordArguments observation payload projection
  match InventoryRecord.create arguments with
  | .ok record => do
      let document ←
        ComparisonDocument.create (sortedBy Prod.fst projection)
      pure (.record { position := observation.position, record, document })
  | .error error => do
      if error.isTypeOrValueError then
        let field ← probeInvalidField arguments
        .quarantined <$> quarantine observation .invalidValue (text field)
          error.message
      else .error error

/-- Normalize a payload whose leaves are all present and typed. -/
def normalizeProjection (observation : SourceObservation)
    (payload : Payload) (projection : Projection) :
    Except PythonError NormalizationEntry := do
  match ← resolveAmount observation projection with
  | .error found => pure (.quarantined found)
  | .ok priced => do
      match ← resolveTimestamp observation priced with
      | .error found => pure (.quarantined found)
      | .ok parsed => createRecord observation payload parsed

/--
Normalize a payload of few enough fields.  The three quarantine checks are
all evaluated before the first result is looked at.
-/
def normalizePayload (observation : SourceObservation) (payload : Payload) :
    Except PythonError NormalizationEntry := do
  let (projection, invalidKey) ← projectPayload payload
  match invalidKey with
  | some key =>
      .quarantined <$> quarantine observation .invalidValue
        (text "attributes")
        (text "attribute keys must be canonical lowercase ASCII: " ++ key)
  | none => do
      let provenance ← provenanceQuarantine observation payload
      let marker ← markerQuarantine observation projection
      let required ← requiredQuarantine observation projection
      match (provenance.or marker).or required with
      | some found => pure (.quarantined found)
      | none => normalizeProjection observation payload projection

/-- `normalize_observation`. -/
def normalizeObservation (observation : SourceObservation) :
    Except PythonError NormalizationEntry :=
  match observation.payload with
  | .malformed reason _ _ =>
      .quarantined <$> quarantine observation .sourceMalformed
        (text "payload") reason
  | .mapping payload _ =>
      if maxPayloadFields < payload.length then
        .quarantined <$> quarantine observation .wrongType (text "payload")
          (text "payload exceeds the field limit")
      else normalizePayload observation payload

/-! ## Batches -/

/-- The checks of `SourceNormalization.__post_init__`. -/
def validateNormalization (records : List NormalizedRecord)
    (quarantined : List QuarantinedObservation) :
    Except PythonError Unit := do
  let ordered (positions : List Nat) : Bool :=
    positions == sorted positions && positions.Nodup
  require (ordered (records.map NormalizedRecord.position) &&
      ordered (quarantined.map QuarantinedObservation.position))
    (normalizationError
      "normalization results must use ordered unique positions")
  require (records.length + quarantined.length ≤ maxSourceObservations)
    (normalizationError "normalization batch exceeds the observation limit")

/-- The complete result of normalizing one batch. -/
structure SourceNormalization where
  rulesVersion : Nat
  records : List NormalizedRecord
  quarantined : List QuarantinedObservation
  supported : rulesVersion = normalizationRulesVersion
  valid : validateNormalization records quarantined = .ok ()

/-- The constructor at the current rules version. -/
def SourceNormalization.create (records : List NormalizedRecord)
    (quarantined : List QuarantinedObservation) :
    Except PythonError SourceNormalization :=
  (certify (validateNormalization records quarantined)
    fun _ accepted => accepted).map fun checked =>
      ⟨normalizationRulesVersion, records, quarantined, rfl, checked.2⟩

/-- The loop of `normalize_source_observations`; `seen` holds positions. -/
def normalizeEach (seen : List Nat) :
    List SourceObservation → Except PythonError (List NormalizationEntry)
  | [] => .ok []
  | observation :: rest => do
      require (!seen.contains observation.position)
        (normalizationError "normalization positions must be unique")
      require (seen.length + 1 ≤ maxSourceObservations)
        (normalizationError
          "normalization batch exceeds the observation limit")
      let entry ← normalizeObservation observation
      let entries ← normalizeEach (observation.position :: seen) rest
      pure (entry :: entries)

def NormalizationEntry.asRecord :
    NormalizationEntry → Option NormalizedRecord
  | .record normalized => some normalized
  | .quarantined _ => none

def NormalizationEntry.asQuarantined :
    NormalizationEntry → Option QuarantinedObservation
  | .record _ => none
  | .quarantined found => some found

/-- The records among some entries. -/
def recordEntries (entries : List NormalizationEntry) :
    List NormalizedRecord :=
  entries.filterMap NormalizationEntry.asRecord

/-- The quarantined observations among some entries. -/
def quarantinedEntries (entries : List NormalizationEntry) :
    List QuarantinedObservation :=
  entries.filterMap NormalizationEntry.asQuarantined

/-- `normalize_source_observations`. -/
def normalizeSourceObservations (observations : List SourceObservation) :
    Except PythonError SourceNormalization := do
  let entries ← normalizeEach [] observations
  SourceNormalization.create
    (sortedBy NormalizedRecord.position (recordEntries entries))
    (sortedBy QuarantinedObservation.position (quarantinedEntries entries))

end Normalization

end ParityGrid.Domain
