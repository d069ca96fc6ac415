import ParityGrid.Domain.Identifiers
import ParityGrid.Domain.Temporal
import ParityGrid.Domain.Money

/-!
# Canonical inventory records

A record carries the evidence that every field passed its validator, so the
later stages never meet an invalid one.  `BusinessContent` is what a record
says about the inventory, without the connector and source key that observed
it.
-/

namespace ParityGrid.Domain

open Foundation

/-! ## Field validators -/

def isUpperOrDigit (c : CodePoint) : Bool :=
  isUpper c || isDigit c

/-- `_SKU_PATTERN`: `[A-Z0-9]+(?:-[A-Z0-9]+)*`. -/
def skuPattern : SegmentPattern where
  first := isUpperOrDigit
  later := isUpperOrDigit
  body := isUpperOrDigit
  separator c := c == point '-'

/-- `_ATTRIBUTE_KEY_PATTERN`: `[a-z][a-z0-9]*(?:[-_][a-z0-9]+)*`. -/
def attributeKeyPattern : SegmentPattern where
  first := isLower
  later := isLowerOrDigit
  body := isLowerOrDigit
  separator c := c == point '-' || c == point '_'

theorem skuPattern_ascii : skuPattern.Within isAscii := by
  have char : ∀ c, isUpperOrDigit c → isAscii c := by
    intro c member
    simp only [isUpperOrDigit, Bool.or_eq_true] at member
    rcases member with upper | digit
    · exact isAscii_of_isUpper upper
    · exact isAscii_of_isDigit digit
  refine ⟨char, char, char, ?_⟩
  intro c separator
  simp only [skuPattern, beq_iff_eq] at separator
  subst separator
  decide

theorem isAscii_of_isLowerOrDigit {c : CodePoint}
    (char : isLowerOrDigit c) :
    isAscii c := by
  simp only [isLowerOrDigit, Bool.or_eq_true] at char
  rcases char with lower | digit
  · exact isAscii_of_isLower lower
  · exact isAscii_of_isDigit digit

theorem attributeKeyPattern_ascii : attributeKeyPattern.Within isAscii := by
  refine ⟨fun c => isAscii_of_isLower, fun c => isAscii_of_isLowerOrDigit,
    fun c => isAscii_of_isLowerOrDigit, ?_⟩
  intro c separator
  simp only [attributeKeyPattern, Bool.or_eq_true, beq_iff_eq] at separator
  rcases separator with rfl | rfl <;> decide

/-- `_validate_sku`. -/
def validateSku (value : Text) : Except PythonError Unit := do
  require (1 ≤ value.length && value.length ≤ 64)
    (.valueError (text "SKU must contain between 1 and 64 characters"))
  require (skuPattern.fullmatch value)
    (.valueError (text
      "SKU must use canonical uppercase ASCII letters, digits, and hyphens"))

/-- `_validate_quantity`. -/
def validateQuantity (value : Int) : Except PythonError Unit :=
  require (0 ≤ value && value ≤ 2147483647)
    (.valueError (text
      "inventory quantity is outside the supported range"))

/-- `_validate_unit_price`. -/
def validateUnitPrice (value : Money) : Except PythonError Unit :=
  require (0 ≤ value.minorUnits)
    (.valueError (text "inventory unit price must not be negative"))

/-- `value.strip(" ")`. -/
def stripSpaces (t : Text) : Text :=
  ((t.dropWhile (· == point ' ')).reverse.dropWhile (· == point ' ')).reverse

/-- `"  " in value`. -/
def hasDoubleSpace : Text → Bool
  | c :: d :: rest =>
      (c == point ' ' && d == point ' ') || hasDoubleSpace (d :: rest)
  | _ => false

section Records

variable [PythonRuntime]

/-- `_normalize_business_text`. -/
def normalizeBusinessText (field : String)
    (maxCharacters maxUtf8Bytes : Nat) (allowEmpty : Bool) (value : Text) :
    Except PythonError Text := do
  let normalized := nfc value
  require (normalized != [] || allowEmpty)
    (.valueError (text field ++ text " must not be empty"))
  require (normalized == stripSpaces normalized &&
      !hasDoubleSpace normalized)
    (.valueError (text field ++ text " must use canonical spacing"))
  require (!normalized.any fun c => isSpace c && c != point ' ')
    (.valueError (text field ++ text " contains unsupported whitespace"))
  require (!normalized.any categoryOther)
    (.valueError (text field ++
      text " contains a control or unsupported code point"))
  let encoded ← encodeUtf8 normalized
  require (normalized.length ≤ maxCharacters &&
      encoded.length ≤ maxUtf8Bytes)
    (.valueError (text field ++ text " exceeds its size limit"))
  pure normalized

section Accepted

variable {field : String} {characters bytes : Nat} {allowEmpty : Bool}
  {value normalized : Text}
  (accepted : normalizeBusinessText field characters bytes allowEmpty value =
    .ok normalized)

include accepted

theorem normalizeBusinessText_eq :
    normalized = nfc value := by
  simp only [normalizeBusinessText, bind_eq_ok] at accepted
  obtain ⟨_, _, _, _, _, _, _, _, _, _, _, _, same⟩ := accepted
  cases same
  rfl

/-- Normalized business text is accepted unchanged. -/
theorem normalizeBusinessText_idem :
    normalizeBusinessText field characters bytes allowEmpty normalized =
      .ok normalized := by
  have form := normalizeBusinessText_eq accepted
  subst form
  simp only [normalizeBusinessText, PythonRuntime.nfc_nfc] at accepted ⊢
  exact accepted

theorem normalizeBusinessText_length :
    normalized.length ≤ characters := by
  have form := normalizeBusinessText_eq accepted
  simp only [normalizeBusinessText, bind_eq_ok, require_eq_ok,
    Bool.and_eq_true, decide_eq_true_eq] at accepted
  obtain ⟨_, _, _, _, _, _, _, _, _, _, _, sized, _⟩ := accepted
  rw [form]
  exact sized.1

theorem normalizeBusinessText_unicode :
    isUnicode normalized := by
  have form := normalizeBusinessText_eq accepted
  simp only [normalizeBusinessText, bind_eq_ok, require_eq_ok] at accepted
  obtain ⟨_, _, _, _, _, _, _, printable, _⟩ := accepted
  rw [← form] at printable
  simp only [Bool.not_eq_true', List.any_eq_false] at printable
  simp only [isUnicode, List.all_eq_true, Bool.not_eq_true']
  intro c member
  cases surrogate : isSurrogate c with
  | false => rfl
  | true =>
      exact absurd (PythonRuntime.categoryOther_surrogate c surrogate)
        (printable c member)

end Accepted

theorem normalizeBusinessText_ne_nil {field : String}
    {characters bytes : Nat} {value normalized : Text}
    (accepted : normalizeBusinessText field characters bytes false value =
      .ok normalized) :
    normalized ≠ [] := by
  have same := normalizeBusinessText_eq accepted
  simp only [normalizeBusinessText, bind_eq_ok, require_eq_ok,
    Bool.or_false, bne_iff_ne] at accepted
  obtain ⟨_, nonempty, _⟩ := accepted
  rwa [same]

theorem normalizeBusinessText_raises (field : String)
    (characters bytes : Nat) (allowEmpty : Bool) (value : Text) :
    RaisesOnlyValueErrors
      (normalizeBusinessText field characters bytes allowEmpty value) := by
  apply RaisesOnlyValueErrors.bind (RaisesOnlyValueErrors.require rfl)
  intro _ _
  apply RaisesOnlyValueErrors.bind (RaisesOnlyValueErrors.require rfl)
  intro _ _
  apply RaisesOnlyValueErrors.bind (RaisesOnlyValueErrors.require rfl)
  intro _ _
  apply RaisesOnlyValueErrors.bind (RaisesOnlyValueErrors.require rfl)
  intro _ _
  apply RaisesOnlyValueErrors.bind (RaisesOnlyValueErrors.encodeUtf8 _)
  intro encoded _
  apply RaisesOnlyValueErrors.bind (RaisesOnlyValueErrors.require rfl)
  intro _ _
  exact RaisesOnlyValueErrors.ok _

/-! ## Attributes -/

/-- `InventoryAttributes.MAX_ITEMS`. -/
def maxAttributeItems : Nat := 32

/-- `InventoryAttributes.MAX_TOTAL_UTF8_BYTES`. -/
def maxAttributeBytes : Nat := 4096

def normalizeAttributeValue (value : Text) : Except PythonError Text :=
  normalizeBusinessText "inventory attribute value" 256 512 true value

/-- The loop of `_canonical_attributes`; `seen` holds the keys so far. -/
def canonicalItems (seen : List Text) :
    List (Text × Text) → Except PythonError (List (Text × Text))
  | [] => .ok []
  | (key, rawValue) :: rest => do
      require (attributeKeyPattern.fullmatch key)
        (.valueError (text
          "inventory attribute keys must be canonical lowercase ASCII"))
      require (key.length ≤ 64)
        (.valueError (text "inventory attribute key exceeds 64 characters"))
      require (!seen.contains key)
        (.valueError (text "inventory attribute keys must be unique"))
      let value ← normalizeAttributeValue rawValue
      let items ← canonicalItems (key :: seen) rest
      pure ((key, value) :: items)

/-- `total_bytes`: keys are ASCII, so a character is a byte. -/
def attributeBytes (items : List (Text × Text)) : Nat :=
  (items.map fun item => item.1.length + utf8Length item.2).sum

def attributeLe (left right : Text × Text) : Prop :=
  left.1 ≤ right.1

instance : DecidableRel attributeLe := fun left right =>
  inferInstanceAs (Decidable (left.1 ≤ right.1))

/-- `_canonical_attributes`.  Keys are unique, so pairs sort by key. -/
def canonicalAttributes (items : List (Text × Text)) :
    Except PythonError (List (Text × Text)) := do
  require (items.length ≤ maxAttributeItems)
    (.valueError (text "inventory record has too many attributes"))
  let canonical ← canonicalItems [] items
  require (attributeBytes canonical ≤ maxAttributeBytes)
    (.valueError (text
      "inventory attributes exceed the total encoded-size limit"))
  pure (canonical.insertionSort attributeLe)

/-- What `_canonical_attributes` guarantees of its result. -/
structure AttributesValid (items : List (Text × Text)) : Prop where
  count : items.length ≤ maxAttributeItems
  keys : ∀ item ∈ items,
    attributeKeyPattern.fullmatch item.1 ∧ item.1.length ≤ 64
  values : ∀ item ∈ items, normalizeAttributeValue item.2 = .ok item.2
  total : attributeBytes items ≤ maxAttributeBytes
  sorted : (items.map Prod.fst).Pairwise (· < ·)

theorem canonicalItems_spec {seen : List Text}
    {items canonical : List (Text × Text)}
    (accepted : canonicalItems seen items = .ok canonical) :
    canonical.map Prod.fst = items.map Prod.fst ∧
      (∀ item ∈ canonical,
        attributeKeyPattern.fullmatch item.1 ∧ item.1.length ≤ 64 ∧
          normalizeAttributeValue item.2 = .ok item.2 ∧ item.1 ∉ seen) ∧
      (canonical.map Prod.fst).Nodup := by
  induction items generalizing seen canonical with
  | nil =>
      cases accepted
      simp
  | cons item rest ih =>
      obtain ⟨key, rawValue⟩ := item
      simp only [canonicalItems, bind_eq_ok, require_eq_ok] at accepted
      obtain ⟨_, canonicalKey, _, short, _, fresh, value, accepts, items,
        acceptsRest, same⟩ := accepted
      cases same
      obtain ⟨keysEqual, valid, distinct⟩ := ih acceptsRest
      have short : key.length ≤ 64 := by simpa using short
      have fresh : key ∉ seen := by simpa using fresh
      refine ⟨by simp [keysEqual], ?_, ?_⟩
      · intro item member
        rcases List.mem_cons.mp member with rfl | later
        · exact ⟨canonicalKey, short,
            normalizeBusinessText_idem accepts, fresh⟩
        · obtain ⟨pattern, length, value, notSeen⟩ := valid item later
          exact ⟨pattern, length, value,
            fun inside => notSeen (List.mem_cons_of_mem _ inside)⟩
      · simp only [List.map_cons, List.nodup_cons]
        refine ⟨?_, distinct⟩
        intro member
        obtain ⟨item, inside, sameKey⟩ := List.mem_map.mp member
        obtain ⟨_, _, _, notSeen⟩ := valid item inside
        rw [sameKey] at notSeen
        exact notSeen (List.mem_cons_self)

instance : Std.Total attributeLe :=
  ⟨fun left right => le_total left.1 right.1⟩

instance : IsTrans (Text × Text) attributeLe :=
  ⟨fun _ _ _ first second => le_trans first second⟩

theorem canonicalAttributes_valid {items canonical : List (Text × Text)}
    (accepted : canonicalAttributes items = .ok canonical) :
    AttributesValid canonical := by
  simp only [canonicalAttributes, bind_eq_ok, require_eq_ok,
    decide_eq_true_eq] at accepted
  obtain ⟨_, few, unsorted, acceptsItems, _, small, same⟩ := accepted
  cases same
  obtain ⟨keysEqual, valid, distinct⟩ := canonicalItems_spec acceptsItems
  have perm := List.perm_insertionSort attributeLe unsorted
  have lengths : unsorted.length = items.length := by
    have := congrArg List.length keysEqual
    simpa using this
  refine ⟨?_, ?_, ?_, ?_, ?_⟩
  · rw [perm.length_eq, lengths]
    exact few
  · intro item member
    obtain ⟨pattern, length, _, _⟩ := valid item (perm.mem_iff.mp member)
    exact ⟨pattern, length⟩
  · intro item member
    exact (valid item (perm.mem_iff.mp member)).2.2.1
  · rw [attributeBytes, (perm.map _).sum_nat]
    exact small
  · have nodup : ((unsorted.insertionSort attributeLe).map Prod.fst).Nodup :=
      (perm.map Prod.fst).nodup_iff.mpr distinct
    have ordered : ((unsorted.insertionSort attributeLe).map
        Prod.fst).Pairwise (· ≤ ·) :=
      (List.pairwise_insertionSort attributeLe unsorted).map _
        (fun _ _ le => le)
    exact (ordered.and nodup).imp fun both => lt_of_le_of_ne both.1 both.2

/-- A sorted, immutable collection of canonical record attributes. -/
structure InventoryAttributes where
  items : List (Text × Text)
  valid : AttributesValid items

instance : DecidableEq InventoryAttributes := fun left right =>
  decidable_of_iff (left.items = right.items) <| by
    constructor
    · intro equal
      cases left
      cases right
      cases equal
      rfl
    · intro equal
      rw [equal]

theorem InventoryAttributes.ext {left right : InventoryAttributes}
    (equal : left.items = right.items) :
    left = right := by
  cases left
  cases right
  cases equal
  rfl

/-- The constructor on a tuple of pairs. -/
def InventoryAttributes.create (items : List (Text × Text)) :
    Except PythonError InventoryAttributes :=
  (certify (canonicalAttributes items)
    (fun _ => canonicalAttributes_valid)).map fun canonical =>
      ⟨canonical.1, canonical.2⟩

/-- `InventoryAttributes.from_mapping`, on the items of the mapping. -/
def InventoryAttributes.fromMapping (values : List (Text × Text)) :
    Except PythonError InventoryAttributes := do
  require (values.length ≤ maxAttributeItems)
    (.valueError (text "inventory record has too many attributes"))
  InventoryAttributes.create values

theorem InventoryAttributes.create_items {items : List (Text × Text)}
    {attributes : InventoryAttributes}
    (created : InventoryAttributes.create items = .ok attributes) :
    canonicalAttributes items = .ok attributes.items := by
  simp only [create, Except.map] at created
  split at created
  next => cases created
  next canonical accepted =>
    cases created
    exact certify_eq_ok.mp accepted

/-! ## Records -/

def normalizeName (value : Text) : Except PythonError Text :=
  normalizeBusinessText "inventory name" 160 320 false value

def normalizeSourceRecordKey (value : Text) : Except PythonError Text :=
  normalizeBusinessText "source record key" 128 256 false value

/-- The fields of a record before their checks are recorded. -/
structure InventoryFields where
  sku : Text
  name : Text
  quantity : Int
  unitPrice : Money
  updatedAt : UtcTimestamp
  connectorId : ConnectorId
  sourceRecordKey : Text
  attributes : InventoryAttributes
deriving DecidableEq

/-- What `InventoryRecord.__post_init__` guarantees. -/
structure InventoryFields.Valid (fields : InventoryFields) : Prop where
  sku : validateSku fields.sku = .ok ()
  name : normalizeName fields.name = .ok fields.name
  quantity : validateQuantity fields.quantity = .ok ()
  unitPrice : validateUnitPrice fields.unitPrice = .ok ()
  sourceRecordKey :
    normalizeSourceRecordKey fields.sourceRecordKey =
      .ok fields.sourceRecordKey

/-- A normalized source observation ready for reconciliation. -/
structure InventoryRecord extends InventoryFields where
  valid : toInventoryFields.Valid
deriving DecidableEq

theorem InventoryRecord.ext {left right : InventoryRecord}
    (equal : left.toInventoryFields = right.toInventoryFields) :
    left = right := by
  cases left
  cases right
  cases equal
  rfl

/-- `InventoryRecord.__post_init__`, in the order of its checks. -/
def InventoryFields.normalize (fields : InventoryFields) :
    Except PythonError InventoryFields := do
  validateSku fields.sku
  let name ← normalizeName fields.name
  validateQuantity fields.quantity
  validateUnitPrice fields.unitPrice
  let sourceRecordKey ← normalizeSourceRecordKey fields.sourceRecordKey
  pure { fields with name, sourceRecordKey }

theorem InventoryFields.normalize_valid {fields normalized : InventoryFields}
    (accepted : fields.normalize = .ok normalized) :
    normalized.Valid := by
  simp only [normalize, bind_eq_ok] at accepted
  obtain ⟨_, sku, name, acceptsName, _, quantity, _, price, key, acceptsKey,
    same⟩ := accepted
  cases same
  exact
    { sku
      name := normalizeBusinessText_idem acceptsName
      quantity
      unitPrice := price
      sourceRecordKey := normalizeBusinessText_idem acceptsKey }

/-- The `InventoryRecord` constructor. -/
def InventoryRecord.construct (fields : InventoryFields) :
    Except PythonError InventoryRecord :=
  (certify fields.normalize
    (fun _ => InventoryFields.normalize_valid)).map fun normalized =>
      ⟨normalized.1, normalized.2⟩

theorem InventoryRecord.construct_eq_ok {fields : InventoryFields}
    {record : InventoryRecord} :
    construct fields = .ok record ↔
      fields.normalize = .ok record.toInventoryFields := by
  constructor
  · intro built
    simp only [construct, Except.map] at built
    split at built
    next => cases built
    next normalized accepted =>
      cases built
      exact certify_eq_ok.mp accepted
  · intro accepted
    have certified :=
      certify_ok (fun _ => InventoryFields.normalize_valid) accepted
    simp only [construct, certified, Except.map]

theorem InventoryRecord.construct_eq_error {fields : InventoryFields}
    {error : PythonError} :
    construct fields = .error error ↔ fields.normalize = .error error := by
  constructor
  · intro raised
    simp only [construct, Except.map] at raised
    split at raised
    next e rejected =>
      cases raised
      exact certify_eq_error.mp rejected
    next => cases raised
  · intro rejected
    have certified :
        certify fields.normalize (fun _ => InventoryFields.normalize_valid) =
          .error error :=
      certify_eq_error.mpr rejected
    simp only [construct, certified, Except.map]

/-- The keyword arguments of `InventoryRecord.create`. -/
structure RecordArguments where
  sku : Text
  name : Text
  quantity : Int
  unitPrice : Money
  updatedAt : UtcTimestamp
  connectorId : ConnectorId
  sourceRecordKey : Text
  attributes : List (Text × Text)

/-- `InventoryRecord.create`. -/
def InventoryRecord.create (arguments : RecordArguments) :
    Except PythonError InventoryRecord := do
  let attributes ← InventoryAttributes.fromMapping arguments.attributes
  InventoryRecord.construct
    { sku := arguments.sku
      name := arguments.name
      quantity := arguments.quantity
      unitPrice := arguments.unitPrice
      updatedAt := arguments.updatedAt
      connectorId := arguments.connectorId
      sourceRecordKey := arguments.sourceRecordKey
      attributes }

theorem canonicalItems_raises (seen : List Text)
    (items : List (Text × Text)) :
    RaisesOnlyValueErrors (canonicalItems seen items) := by
  induction items generalizing seen with
  | nil => exact RaisesOnlyValueErrors.ok []
  | cons item rest ih =>
      apply RaisesOnlyValueErrors.bind (RaisesOnlyValueErrors.require rfl)
      intro _ _
      apply RaisesOnlyValueErrors.bind (RaisesOnlyValueErrors.require rfl)
      intro _ _
      apply RaisesOnlyValueErrors.bind (RaisesOnlyValueErrors.require rfl)
      intro _ _
      apply RaisesOnlyValueErrors.bind
        (normalizeBusinessText_raises _ _ _ _ _)
      intro value _
      apply RaisesOnlyValueErrors.bind (ih _)
      intro canonical _
      exact RaisesOnlyValueErrors.ok _

theorem InventoryAttributes.fromMapping_raises
    (values : List (Text × Text)) :
    RaisesOnlyValueErrors (InventoryAttributes.fromMapping values) := by
  apply RaisesOnlyValueErrors.bind (RaisesOnlyValueErrors.require rfl)
  intro _ _ error raised
  simp only [create, Except.map] at raised
  split at raised
  next e rejected =>
    cases raised
    have rejected := certify_eq_error.mp rejected
    revert rejected
    apply RaisesOnlyValueErrors.bind (RaisesOnlyValueErrors.require rfl)
    intro _ _
    apply RaisesOnlyValueErrors.bind (canonicalItems_raises _ _)
    intro canonical _
    apply RaisesOnlyValueErrors.bind (RaisesOnlyValueErrors.require rfl)
    intro _ _
    exact RaisesOnlyValueErrors.ok _
  next => cases raised

/-- Building a record raises nothing but `TypeError` and `ValueError`. -/
theorem InventoryRecord.create_raises (arguments : RecordArguments) :
    RaisesOnlyValueErrors (InventoryRecord.create arguments) := by
  apply RaisesOnlyValueErrors.bind
    (InventoryAttributes.fromMapping_raises _)
  intro attributes _ error raised
  have rejected := construct_eq_error.mp raised
  revert error
  intro error _ rejected
  revert rejected
  apply RaisesOnlyValueErrors.bind
  · apply RaisesOnlyValueErrors.bind (RaisesOnlyValueErrors.require rfl)
    intro _ _
    exact RaisesOnlyValueErrors.require rfl
  intro _ _
  apply RaisesOnlyValueErrors.bind (normalizeBusinessText_raises _ _ _ _ _)
  intro name _
  apply RaisesOnlyValueErrors.bind (RaisesOnlyValueErrors.require rfl)
  intro _ _
  apply RaisesOnlyValueErrors.bind (RaisesOnlyValueErrors.require rfl)
  intro _ _
  apply RaisesOnlyValueErrors.bind (normalizeBusinessText_raises _ _ _ _ _)
  intro key _
  exact RaisesOnlyValueErrors.ok _

/-- A created record carries its arguments, texts in normal form. -/
theorem InventoryRecord.create_eq_ok {arguments : RecordArguments}
    {record : InventoryRecord} (created : create arguments = .ok record) :
    record.sku = arguments.sku ∧
      normalizeName arguments.name = .ok record.name ∧
      record.quantity = arguments.quantity ∧
      record.unitPrice = arguments.unitPrice ∧
      record.updatedAt = arguments.updatedAt ∧
      record.connectorId = arguments.connectorId ∧
      normalizeSourceRecordKey arguments.sourceRecordKey =
        .ok record.sourceRecordKey ∧
      canonicalAttributes arguments.attributes =
        .ok record.attributes.items := by
  simp only [create, InventoryAttributes.fromMapping, bind_eq_ok] at created
  obtain ⟨attributes, ⟨_, _, accepted⟩, constructed⟩ := created
  have normalized := construct_eq_ok.mp constructed
  simp only [InventoryFields.normalize, bind_eq_ok] at normalized
  obtain ⟨_, _, name, acceptsName, _, _, _, _, key, acceptsKey, same⟩ :=
    normalized
  have fields := Except.ok.inj same
  rw [← fields]
  exact ⟨rfl, acceptsName, rfl, rfl, rfl, rfl, acceptsKey,
    InventoryAttributes.create_items accepted⟩

theorem canonicalAttributes_input {items canonical : List (Text × Text)}
    (accepted : canonicalAttributes items = .ok canonical) :
    items.length ≤ maxAttributeItems ∧
      ∀ key ∈ items.map Prod.fst,
        attributeKeyPattern.fullmatch key ∧ key.length ≤ 64 := by
  simp only [canonicalAttributes, bind_eq_ok, require_eq_ok,
    decide_eq_true_eq] at accepted
  obtain ⟨_, few, unsorted, acceptsItems, _⟩ := accepted
  obtain ⟨keysEqual, valid, _⟩ := canonicalItems_spec acceptsItems
  refine ⟨few, ?_⟩
  rw [← keysEqual]
  intro key member
  obtain ⟨item, inside, rfl⟩ := List.mem_map.mp member
  exact ⟨(valid item inside).1, (valid item inside).2.1⟩

theorem InventoryRecord.create_unicode {arguments : RecordArguments}
    {record : InventoryRecord} (created : create arguments = .ok record) :
    isUnicode arguments.sourceRecordKey := by
  have accepts := (create_eq_ok created).2.2.2.2.2.2.1
  have unicode := normalizeBusinessText_unicode accepts
  rwa [normalizeBusinessText_eq accepts, PythonRuntime.nfc_isUnicode]
    at unicode

/-! ## Business content -/

/-- What a record says about the inventory, whoever observed it. -/
structure BusinessContent where
  sku : Text
  name : Text
  quantity : Int
  unitPrice : Money
  updatedAt : UtcTimestamp
  attributes : InventoryAttributes
deriving DecidableEq

def InventoryRecord.content (record : InventoryRecord) : BusinessContent where
  sku := record.sku
  name := record.name
  quantity := record.quantity
  unitPrice := record.unitPrice
  updatedAt := record.updatedAt
  attributes := record.attributes

/-- Content and provenance together determine a record. -/
theorem InventoryRecord.ext_content {left right : InventoryRecord}
    (content : left.content = right.content)
    (connector : left.connectorId = right.connectorId)
    (key : left.sourceRecordKey = right.sourceRecordKey) :
    left = right := by
  obtain ⟨leftFields, leftValid⟩ := left
  obtain ⟨rightFields, rightValid⟩ := right
  cases leftFields
  cases rightFields
  simp only [InventoryRecord.content, BusinessContent.mk.injEq] at content
  obtain ⟨sku, name, quantity, price, updated, attributes⟩ := content
  simp only at connector key
  simp only [InventoryRecord.mk.injEq, InventoryFields.mk.injEq]
  exact ⟨sku, name, quantity, price, updated, connector, key, attributes⟩

theorem InventoryRecord.sku_ascii (record : InventoryRecord) :
    record.sku.all isAscii := by
  have valid := record.valid.sku
  simp only [validateSku, bind_eq_ok, require_eq_ok] at valid
  obtain ⟨_, _, pattern⟩ := valid
  exact skuPattern_ascii.fullmatch_all pattern

theorem InventoryRecord.name_unicode (record : InventoryRecord) :
    isUnicode record.name :=
  normalizeBusinessText_unicode record.valid.name

theorem InventoryRecord.sourceRecordKey_unicode (record : InventoryRecord) :
    isUnicode record.sourceRecordKey :=
  normalizeBusinessText_unicode record.valid.sourceRecordKey

theorem InventoryRecord.sku_ne_nil (record : InventoryRecord) :
    record.sku ≠ [] := by
  have valid := record.valid.sku
  simp only [validateSku, bind_eq_ok, require_eq_ok, Bool.and_eq_true,
    decide_eq_true_eq] at valid
  obtain ⟨_, ⟨some_, _⟩, _⟩ := valid
  exact List.ne_nil_of_length_pos some_

theorem InventoryRecord.sourceRecordKey_ne_nil (record : InventoryRecord) :
    record.sourceRecordKey ≠ [] :=
  normalizeBusinessText_ne_nil record.valid.sourceRecordKey

theorem InventoryRecord.lengths (record : InventoryRecord) :
    record.sku.length ≤ 64 ∧ record.name.length ≤ 160 ∧
      record.sourceRecordKey.length ≤ 128 := by
  have sku := record.valid.sku
  simp only [validateSku, bind_eq_ok, require_eq_ok, Bool.and_eq_true,
    decide_eq_true_eq] at sku
  obtain ⟨_, sized, _⟩ := sku
  exact ⟨sized.2, normalizeBusinessText_length record.valid.name,
    normalizeBusinessText_length record.valid.sourceRecordKey⟩

theorem InventoryRecord.quantity_bounds (record : InventoryRecord) :
    0 ≤ record.quantity ∧ record.quantity ≤ 2147483647 := by
  have valid := record.valid.quantity
  simpa [validateQuantity, require_eq_ok] using valid

theorem InventoryAttributes.items_unicode (attributes : InventoryAttributes)
    {item : Text × Text} (member : item ∈ attributes.items) :
    isUnicode item.1 ∧ isUnicode item.2 := by
  have key := (attributes.valid.keys item member).1
  have value := attributes.valid.values item member
  exact ⟨isUnicode_of_ascii (attributeKeyPattern_ascii.fullmatch_all key),
    normalizeBusinessText_unicode value⟩

end Records

/-! ## A concrete record -/

section Sample

attribute [local instance] asciiRuntime

theorem dollars_valid : validateCurrency (text "USD") = .ok () := by decide

theorem sampleInstant_valid :
    Civil.isValid { year := 2024, month := 1, day := 2, hour := 3, minute := 4
                    second := 5, microsecond := 6 } := by
  decide

theorem sourceConnector_valid :
    validateIdentifier .connector (text "con_source") = .ok () := by
  decide

theorem targetConnector_valid :
    validateIdentifier .connector (text "con_target") = .ok () := by
  decide

/-- One widget, as a connector would observe it. -/
def sampleRecord : InventoryRecord where
  sku := text "SKU-1"
  name := text "Widget"
  quantity := 3
  unitPrice :=
    { currency := ⟨text "USD", dollars_valid⟩
      minorUnitExponent := 2
      minorUnits := 125
      exponentValid := cents_valid
      magnitudeValid := by decide }
  updatedAt :=
    { civil :=
        { year := 2024, month := 1, day := 2, hour := 3, minute := 4
          second := 5, microsecond := 6 }
      valid := sampleInstant_valid }
  connectorId := ⟨text "con_source", sourceConnector_valid⟩
  sourceRecordKey := text "key-1"
  attributes := ⟨[], by constructor <;> decide⟩
  valid := by constructor <;> decide +kernel

end Sample

end ParityGrid.Domain
