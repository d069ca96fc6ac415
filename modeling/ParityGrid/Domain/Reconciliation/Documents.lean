import ParityGrid.Domain.Reconciliation.Blocking

/-!
# Documents of normalized records

The comparison document of a normalized record is a function of the record:
one leaf for each business field and one for each attribute.  Comparing
documents therefore compares records, and no document is large.
-/

namespace ParityGrid.Domain

open Foundation

section Documents

variable [PythonRuntime]

/-! ## The document of a record -/

theorem InventoryRecord.quantity_isInt64 (record : InventoryRecord) :
    isInt64 record.quantity := by
  have bounds := record.quantity_bounds
  simp only [isInt64, Bool.and_eq_true, decide_eq_true_eq]
  omega

/-- The fixed paths of a complete projection. -/
def storedPaths : List Text :=
  [text "name", text "quantity", text "updated_at",
    text "unit_price/currency", text "unit_price/amount"]

/-- The leaves of the business fields, in the order they are projected. -/
def fieldLeaves (record : InventoryRecord) : Projection :=
  [(text "name", .text record.name),
    (text "quantity", .integer record.quantity record.quantity_isInt64),
    (text "updated_at", .timestamp record.updatedAt),
    (text "unit_price/currency", .text record.unitPrice.currency.value),
    (text "unit_price/amount", .moneyAmount record.unitPrice)]

/-- The leaf of an attribute. -/
def attributeLeaf (item : Text × Text) : Text × ComparisonValue :=
  (attributePath item.1, .attributeText item.2)

/-- Every leaf of the document of a record. -/
def documentLeaves (record : InventoryRecord) : Projection :=
  sortedBy Prod.fst
    (fieldLeaves record ++ record.attributes.items.map attributeLeaf)

theorem documentPaths_nodup (record : InventoryRecord) :
    ((fieldLeaves record ++
      record.attributes.items.map attributeLeaf).map Prod.fst).Nodup := by
  have keys : (record.attributes.items.map Prod.fst).Nodup :=
    record.attributes.valid.sorted.imp ne_of_lt
  have paths : ((record.attributes.items.map Prod.fst).map
      attributePath).Nodup :=
    keys.map fun _ _ same => attributePath_injective same
  rw [List.map_append, List.map_map, List.nodup_append]
  rw [List.map_map] at paths
  refine ⟨show storedPaths.Nodup by decide, paths, ?_⟩
  intro path inFields other inAttributes same
  obtain ⟨item, _, rfl⟩ := List.mem_map.mp inAttributes
  have known : path ∈ fixedPaths :=
    (show storedPaths ⊆ fixedPaths by decide) inFields
  have lt := attributePath_lt_fixed item.1 known
  rw [same] at lt
  exact lt_irrefl _ lt

/-! ## Attributes -/

/-- Values in normal form are kept by the attribute rules. -/
theorem canonicalItems_normal {seen : List Text}
    {items canonical : List (Text × Text)}
    (normal : ∀ item ∈ items, nfc item.2 = item.2)
    (accepted : canonicalItems seen items = .ok canonical) :
    canonical = items := by
  induction items generalizing seen canonical with
  | nil =>
      cases accepted
      rfl
  | cons item rest ih =>
      obtain ⟨key, value⟩ := item
      rw [List.forall_mem_cons] at normal
      simp only [canonicalItems, bind_eq_ok] at accepted
      obtain ⟨_, _, _, _, _, _, kept, accepts, others, later, same⟩ :=
        accepted
      cases same
      rw [ih normal.2 later, normalizeBusinessText_eq accepts, normal.1]

theorem canonicalAttributes_normal {items canonical : List (Text × Text)}
    (normal : ∀ item ∈ items, nfc item.2 = item.2)
    (accepted : canonicalAttributes items = .ok canonical) :
    canonical.Perm items := by
  simp only [canonicalAttributes, bind_eq_ok] at accepted
  obtain ⟨_, _, kept, accepts, _, _, same⟩ := accepted
  cases same
  rw [canonicalItems_normal normal accepts]
  exact List.perm_insertionSort _ _

/-- Attribute leaves are the leaves of the items they are read as. -/
theorem attributeItems_form {part : Projection}
    (leaves : AttributeLeaves part) :
    (attributeItems part).map attributeLeaf = part ∧
      ∀ item ∈ attributeItems part, nfc item.2 = item.2 := by
  induction part with
  | nil => exact ⟨rfl, by simp [attributeItems]⟩
  | cons entry rest ih =>
      obtain ⟨key, value, _, normal, rfl⟩ :=
        leaves entry List.mem_cons_self
      obtain ⟨form, others⟩ := ih fun entry member =>
        leaves entry (List.mem_cons_of_mem _ member)
      have prefixed :
          (text "attributes/").isPrefixOf (attributePath key) = true :=
        List.isPrefixOf_iff_prefix.mpr (List.prefix_append _ _)
      have after : afterSlash (attributePath key) = key := rfl
      have split : attributeItems
          ((attributePath key, .attributeText value) :: rest) =
            (key, value) :: attributeItems rest := by
        simp only [attributeItems, List.filterMap_cons, prefixed, if_true,
          after]
      rw [split]
      refine ⟨by simp [attributeLeaf, form], ?_⟩
      rw [List.forall_mem_cons]
      exact ⟨normal, others⟩

/-! ## Fixed leaves -/

/-- The leaves of the fixed paths before money and time are parsed. -/
def rawLeaves (name : Text) (quantity : Int) (inRange : isInt64 quantity)
    (updated currency amount : Text) : Projection :=
  [(text "name", .text name), (text "quantity", .integer quantity inRange),
    (text "updated_at", .text updated),
    (text "unit_price/currency", .text currency),
    (text "unit_price/amount", .text amount)]

theorem fixedPart_paths {fixed attributes : Projection}
    (fixedPart : FixedPart fixedPaths fixed)
    (unmarked : ∀ entry ∈ fixed, entry.2.isMarker = false)
    (leaves : AttributeLeaves attributes)
    (complete : Complete (fixed ++ attributes)) :
    fixed.map Prod.fst = storedPaths := by
  have noPrice : text "unit_price" ∉ fixed.map Prod.fst := by
    intro member
    obtain ⟨entry, inside, path⟩ := List.mem_map.mp member
    rcases fixedPart.typed entry inside with
      marks | ⟨quantity, _⟩ | ⟨textual, _⟩
    · simp [unmarked entry inside] at marks
    · rw [path] at quantity
      exact absurd quantity (by decide)
    · rw [path] at textual
      exact absurd textual (by decide)
  have stored : (fixed.map Prod.fst).Sublist storedPaths := by
    have kept : (fixed.map Prod.fst).filter (· != text "unit_price") =
        fixed.map Prod.fst := by
      apply List.filter_eq_self.mpr
      intro path member
      simp only [bne_iff_ne]
      rintro rfl
      exact noPrice member
    have fewer := fixedPart.paths.filter (· != text "unit_price")
    rw [kept] at fewer
    exact fewer
  have inFixed {path : Text} {leaf : ComparisonValue}
      (known : path ∈ fixedPaths)
      (found : (fixed ++ attributes).lookup path = some leaf) :
      path ∈ fixed.map Prod.fst := by
    rcases List.mem_append.mp (mem_of_lookup found) with member | member
    · exact List.mem_map.mpr ⟨_, member, rfl⟩
    · obtain ⟨key, _, _, _, same⟩ := leaves _ member
      have lt := attributePath_lt_fixed key known
      rw [(Prod.mk.inj same).1] at lt
      exact absurd lt (lt_irrefl _)
  have all : storedPaths ⊆ fixed.map Prod.fst := by
    obtain ⟨name, nameLeaf⟩ := complete.name
    obtain ⟨number, inRange, quantityLeaf⟩ := complete.quantity
    obtain ⟨updated, updatedLeaf⟩ := complete.updatedAt
    obtain ⟨currency, currencyLeaf⟩ := complete.currency
    obtain ⟨amount, amountLeaf⟩ := complete.amount
    intro path member
    simp only [storedPaths, List.mem_cons, List.not_mem_nil, or_false]
      at member
    rcases member with rfl | rfl | rfl | rfl | rfl
    · exact inFixed (by decide) nameLeaf
    · exact inFixed (by decide) quantityLeaf
    · exact inFixed (by decide) updatedLeaf
    · exact inFixed (by decide) currencyLeaf
    · exact inFixed (by decide) amountLeaf
  have enough := (List.subperm_of_subset
    (show storedPaths.Nodup by decide) all).length_le
  exact stored.eq_of_length_le enough

omit [PythonRuntime] in
theorem length_eq_five {α : Type} {values : List α}
    (five : values.length = 5) :
    ∃ a b c d e, values = [a, b, c, d, e] := by
  match values, five with
  | [a, b, c, d, e], _ => exact ⟨a, b, c, d, e, rfl⟩

/-- A complete fixed part has one typed leaf at each stored path. -/
theorem fixedPart_form {fixed attributes : Projection}
    (fixedPart : FixedPart fixedPaths fixed)
    (unmarked : ∀ entry ∈ fixed, entry.2.isMarker = false)
    (leaves : AttributeLeaves attributes)
    (complete : Complete (fixed ++ attributes)) :
    ∃ name quantity inRange updated currency amount,
      fixed = rawLeaves name quantity inRange updated currency amount ∧
        nfc name = name := by
  have paths := fixedPart_paths fixedPart unmarked leaves complete
  have textual (path : Text) (leaf : ComparisonValue)
      (member : (path, leaf) ∈ fixed) (other : path ≠ text "quantity") :
      ∃ value, nfc value = value ∧ leaf = .text value := by
    rcases fixedPart.typed _ member with marks | ⟨same, _⟩ | ⟨_, form⟩
    · simp [unmarked _ member] at marks
    · exact absurd same other
    · exact form
  have number (leaf : ComparisonValue)
      (member : (text "quantity", leaf) ∈ fixed) :
      ∃ value inRange, leaf = .integer value inRange := by
    rcases fixedPart.typed _ member with marks | ⟨_, form⟩ | ⟨impossible, _⟩
    · simp [unmarked _ member] at marks
    · exact form
    · exact absurd impossible
        (show text "quantity" ∉ textPaths by decide)
  have five : fixed.length = 5 := by
    have lengths := congrArg List.length paths
    rwa [List.length_map] at lengths
  obtain ⟨⟨_, first⟩, ⟨_, second⟩, ⟨_, third⟩, ⟨_, fourth⟩, ⟨_, fifth⟩,
    rfl⟩ := length_eq_five five
  simp only [storedPaths, List.map_cons, List.map_nil, List.cons.injEq,
    and_true] at paths
  obtain ⟨rfl, rfl, rfl, rfl, rfl⟩ := paths
  obtain ⟨name, normal, rfl⟩ :=
    textual (text "name") first (by simp) (by decide)
  obtain ⟨quantity, inRange, rfl⟩ := number second (by simp)
  obtain ⟨updated, _, rfl⟩ :=
    textual (text "updated_at") third (by simp) (by decide)
  obtain ⟨currency, _, rfl⟩ :=
    textual (text "unit_price/currency") fourth (by simp) (by decide)
  obtain ⟨amount, _, rfl⟩ :=
    textual (text "unit_price/amount") fifth (by simp) (by decide)
  exact ⟨name, quantity, inRange, updated, currency, amount, rfl, normal⟩

/-- The fixed leaves after money and time are parsed. -/
def parsedFields (name : Text) (quantity : Int) (inRange : isInt64 quantity)
    (updated : UtcTimestamp) (currency : Text) (price : Money) :
    Projection :=
  [(text "name", .text name), (text "quantity", .integer quantity inRange),
    (text "updated_at", .timestamp updated),
    (text "unit_price/currency", .text currency),
    (text "unit_price/amount", .moneyAmount price)]

omit [PythonRuntime] in
theorem parsedFields_lookup (name : Text) (quantity : Int)
    (inRange : isInt64 quantity) (updated : UtcTimestamp) (currency : Text)
    (price : Money) (attributes : Projection) :
    let fields := parsedFields name quantity inRange updated currency price ++
      attributes
    fields.lookup (text "name") = some (.text name) ∧
      fields.lookup (text "quantity") = some (.integer quantity inRange) ∧
      fields.lookup (text "unit_price/amount") = some (.moneyAmount price) ∧
      fields.lookup (text "updated_at") = some (.timestamp updated) :=
  ⟨rfl, rfl, rfl, rfl⟩

theorem parsedLeaves_rawLeaves {name : Text} {quantity : Int}
    {inRange : isInt64 quantity} {updated currency amount : Text}
    (money : Money) (timestamp : UtcTimestamp) {attributes : Projection}
    (leaves : AttributeLeaves attributes) :
    parsedLeaves money timestamp
        (rawLeaves name quantity inRange updated currency amount ++
          attributes) =
      parsedFields name quantity inRange timestamp currency money ++
        attributes := by
  have knownAmount : text "unit_price/amount" ∈ fixedPaths := by decide
  have knownUpdated : text "updated_at" ∈ fixedPaths := by decide
  simp only [parsedLeaves, storeLeaf_append,
    storeLeaf_attributes _ knownAmount leaves,
    storeLeaf_attributes _ knownUpdated leaves]
  rfl

/-- A record created from parsed leaves has the document of its fields. -/
theorem createRecord_document {observation : SourceObservation}
    {payload : Payload} {name : Text} {quantity : Int}
    {inRange : isInt64 quantity} {updated : UtcTimestamp} {price : Money}
    {currency : Text} {attributes : Projection}
    (normal : nfc name = name) (priced : price.currency.value = currency)
    (leaves : AttributeLeaves attributes)
    {normalized : NormalizedRecord}
    (returned : createRecord observation payload
      (parsedFields name quantity inRange updated currency price ++
        attributes) = .ok (.record normalized)) :
    normalized.document.values = documentLeaves normalized.record := by
  simp only [createRecord, bind_eq_ok] at returned
  obtain ⟨arguments, reads, returned⟩ := returned
  split at returned
  next record created =>
    simp only [bind_eq_ok] at returned
    obtain ⟨document, built, same⟩ := returned
    cases same
    have values := (ComparisonDocument.create_eq_ok.mp built).2
    have read : arguments.name = name ∧ arguments.quantity = quantity ∧
        arguments.unitPrice = price ∧ arguments.updatedAt = updated ∧
        arguments.attributes = attributeItems attributes := by
      obtain ⟨nameLeaf, quantityLeaf, amountLeaf, updatedLeaf⟩ :=
        parsedFields_lookup name quantity inRange updated currency price
          attributes
      simp only [recordArguments, nameLeaf, quantityLeaf, amountLeaf,
        updatedLeaf] at reads
      split at reads
      next nameRead quantityRead amountRead updatedRead _ =>
        cases reads
        cases nameRead
        cases quantityRead
        cases amountRead
        cases updatedRead
        exact ⟨rfl, rfl, rfl, rfl, rfl⟩
      next => cases reads
    obtain ⟨_, named, counted, costs, stamped, _, _, listed⟩ :=
      InventoryRecord.create_eq_ok created
    obtain ⟨form, normals⟩ := attributeItems_form leaves
    obtain ⟨rfl, rfl, rfl, rfl, items⟩ := read
    rw [items] at listed
    have perm := canonicalAttributes_normal normals listed
    have keepsName : record.name = arguments.name := by
      rw [normalizeBusinessText_eq named, normal]
    have fields : fieldLeaves record = parsedFields arguments.name
        arguments.quantity inRange arguments.updatedAt currency
          arguments.unitPrice := by
      simp only [fieldLeaves, parsedFields, keepsName, counted, costs,
        stamped, priced]
    have reordered : attributes.Perm
        (record.attributes.items.map attributeLeaf) := by
      rw [← form]
      exact (perm.map attributeLeaf).symm
    rw [values, documentLeaves]
    refine (sortedBy_eq_of_perm ?_ ?_).symm
    · exact fun a first b second same =>
        List.inj_on_of_nodup_map (documentPaths_nodup record) first second
          same
    · rw [fields]
      exact reordered.symm.append_left _
  next error _ =>
    split at returned
    · simp only [bind_eq_ok] at returned
      obtain ⟨field, _, quarantines⟩ := returned
      obtain ⟨found, _, impossible⟩ := fmap_eq_ok.mp quarantines
      cases impossible
    · cases returned

/-- The price and the instant of a record are parsed from their leaves. -/
theorem normalizeProjection_parses {observation : SourceObservation}
    {payload : Payload} {name : Text} {quantity : Int}
    {inRange : isInt64 quantity} {updated currency amount : Text}
    {attributes : Projection} (leaves : AttributeLeaves attributes)
    {normalized : NormalizedRecord}
    (returned : normalizeProjection observation payload
      (rawLeaves name quantity inRange updated currency amount ++
        attributes) = .ok (.record normalized)) :
    ∃ money timestamp,
      Money.parse (currency ++ point ' ' :: amount) = .ok money ∧
      UtcTimestamp.parse updated = .ok timestamp ∧
      createRecord observation payload
        (parsedFields name quantity inRange timestamp currency money ++
          attributes) = .ok (.record normalized) := by
  have currencyLeaf : (rawLeaves name quantity inRange updated currency
      amount ++ attributes).lookup (text "unit_price/currency") =
        some (.text currency) := rfl
  have amountLeaf : (rawLeaves name quantity inRange updated currency
      amount ++ attributes).lookup (text "unit_price/amount") =
        some (.text amount) := rfl
  have updatedLeaf : (rawLeaves name quantity inRange updated currency
      amount ++ attributes).lookup (text "updated_at") =
        some (.text updated) := rfl
  simp only [normalizeProjection, bind_eq_ok] at returned
  obtain ⟨priced, pricing, returned⟩ := returned
  rcases resolveAmount_cases observation currencyLeaf amountLeaf with
    ⟨money, parses, priced'⟩ | ⟨code, field, detail, _, quarantines⟩
  · rw [priced'] at pricing
    cases pricing
    simp only [bind_eq_ok] at returned
    obtain ⟨parsed, parsing, returned⟩ := returned
    have leaf : (storeLeaf "unit_price/amount" (.moneyAmount money)
        (rawLeaves name quantity inRange updated currency amount ++
          attributes)).lookup (text "updated_at") = some (.text updated) :=
      (lookup_storeLeaf_ne (by decide)).trans updatedLeaf
    simp only [resolveTimestamp, leaf] at parsing
    cases stamped : UtcTimestamp.parse updated with
    | ok timestamp =>
        rw [stamped] at parsing
        cases parsing
        have form : parsedLeaves money timestamp
            (rawLeaves name quantity inRange updated currency amount ++
              attributes) =
            parsedFields name quantity inRange timestamp currency money ++
              attributes := parsedLeaves_rawLeaves money timestamp leaves
        refine ⟨money, timestamp, parses, rfl, ?_⟩
        rw [← form]
        exact returned
    | error error =>
        rw [stamped] at parsing
        simp only [Except.map, exceptValueErrors] at parsing
        split at parsing
        · obtain ⟨found, _, rfl⟩ := fmap_eq_ok.mp parsing
          cases returned
        · cases parsing
  · rw [quarantines] at pricing
    obtain ⟨found, _, rfl⟩ := fmap_eq_ok.mp pricing
    cases returned

/-- The projection of a payload that becomes a record. -/
theorem normalizePayload_projects {observation : SourceObservation}
    {payload : Payload} {normalized : NormalizedRecord}
    (returned : normalizePayload observation payload =
      .ok (.record normalized)) :
    ∃ name quantity inRange updated currency amount attributes,
      nfc name = name ∧
      projectPayload payload = .ok (rawLeaves name quantity inRange updated
        currency amount ++ attributes, none) ∧
      projectAttributes payload = .ok (attributes, none) ∧
      (∀ entry ∈ attributes, entry.2.isMarker = false) ∧
      AttributeLeaves attributes ∧
      normalizeProjection observation payload
        (rawLeaves name quantity inRange updated currency amount ++
          attributes) = .ok (.record normalized) := by
  simp only [normalizePayload, bind_eq_ok] at returned
  obtain ⟨⟨projection, invalidKey⟩, projected, returned⟩ := returned
  cases invalidKey with
  | some key =>
      obtain ⟨found, _, impossible⟩ := fmap_eq_ok.mp returned
      cases impossible
  | none =>
      simp only [bind_eq_ok] at returned
      obtain ⟨provenance, provenanceReturned, marker, markerReturned,
        required, requiredReturned, returned⟩ := returned
      cases provenance with
      | some found => cases returned
      | none =>
      cases marker with
      | some found => cases returned
      | none =>
      cases required with
      | some found => cases returned
      | none =>
        obtain ⟨fixed, attributes, rfl, fixedPart, projects⟩ :=
          projectPayload_parts projected
        have unmarked := markerQuarantine_none markerReturned
        have plainAttributes : ∀ entry ∈ attributes,
            entry.2.isMarker = false := fun entry member =>
          unmarked entry (List.mem_append_right _ member)
        have leaves := attributeLeaves_of_part
          (projectAttributes_part projects) plainAttributes
        have plain : ∀ entry ∈ fixed, entry.2.isMarker = false :=
          fun entry member => unmarked entry
            (List.mem_append_left _ member)
        rcases requiredQuarantine_owned requiredReturned with
          ⟨_, present⟩ | ⟨found, impossible, _⟩
        · obtain ⟨name, quantity, inRange, updated, currency, amount, rfl,
            normal⟩ := fixedPart_form fixedPart plain leaves
              (complete_of_checks fixedPart leaves plain present)
          exact ⟨name, quantity, inRange, updated, currency, amount,
            attributes, normal, projected, projects, plainAttributes, leaves,
            returned⟩
        · cases impossible

theorem normalizePayload_document {observation : SourceObservation}
    {payload : Payload} {normalized : NormalizedRecord}
    (returned : normalizePayload observation payload =
      .ok (.record normalized)) :
    normalized.document.values = documentLeaves normalized.record := by
  obtain ⟨name, quantity, inRange, updated, currency, amount, attributes,
    normal, _, _, _, leaves, projection⟩ :=
      normalizePayload_projects returned
  obtain ⟨money, timestamp, parses, _, created⟩ :=
    normalizeProjection_parses leaves projection
  exact createRecord_document normal (Money.parse_currency parses) leaves
    created

/-- The document of a normalized record is the document of its record. -/
theorem normalizeObservation_document {observation : SourceObservation}
    {normalized : NormalizedRecord}
    (returned : normalizeObservation observation =
      .ok (.record normalized)) :
    normalized.document.values = documentLeaves normalized.record := by
  simp only [normalizeObservation] at returned
  split at returned
  · obtain ⟨found, _, impossible⟩ := fmap_eq_ok.mp returned
    cases impossible
  · split at returned
    · obtain ⟨found, _, impossible⟩ := fmap_eq_ok.mp returned
      cases impossible
    · exact normalizePayload_document returned

/-! ## Sizes of documents -/

theorem documentLeaves_length (record : InventoryRecord) :
    (documentLeaves record).length ≤ 37 := by
  have few := record.attributes.valid.count
  simp only [maxAttributeItems] at few
  simp only [documentLeaves, sortedBy_length, List.length_append,
    List.length_map, fieldLeaves, List.length_cons, List.length_nil]
  omega

omit [PythonRuntime] in
theorem Money.toText_length (money : Money) : money.toText.length ≤ 27 := by
  have currency := money.currency.shape.1
  have exponent := money.exponentValid
  have magnitude := money.magnitudeValid
  simp only [maxMinorUnitExponent, maxAbsoluteMinorUnits]
    at exponent magnitude
  have whole : (decimal (money.minorUnits.natAbs /
      10 ^ money.minorUnitExponent)).length ≤ 15 := by
    apply (decimal_length_le (by decide)).mpr
    exact (Nat.div_le_self _ _).trans_lt (by omega)
  have fraction : (fractionText money.minorUnitExponent
      (money.minorUnits.natAbs % 10 ^ money.minorUnitExponent)).length ≤
        7 := by
    simp only [fractionText]
    split
    · exact Nat.zero_le _
    · simp only [List.length_cons, zeroPadded_length]
      omega
  have sign : (if money.minorUnits < 0 then [point '-']
      else ([] : Text)).length ≤ 1 := by
    split <;> decide
  simp only [toText, amountText, List.length_append, List.length_cons]
  omega

theorem documentLeaves_bounded (record : InventoryRecord)
    {entry : Text × ComparisonValue}
    (member : entry ∈ documentLeaves record) :
    entry.2.canonicalText.length ≤ maxLeafTextCharacters := by
  have name := record.lengths.2.1
  have quantity : (decimalInt record.quantity).length ≤ 11 := by
    have bounds := record.quantity_bounds
    have digits : (decimal record.quantity.natAbs).length ≤ 10 :=
      (decimal_length_le (by decide)).mpr (by omega)
    simp only [decimalInt]
    split
    · simp only [List.length_cons]
      omega
    · omega
  have currency := record.unitPrice.currency.shape.1
  have price := record.unitPrice.toText_length
  have updated : record.updatedAt.toText.length = 27 := by
    simp [UtcTimestamp.toText]
  simp only [documentLeaves, mem_sortedBy, List.mem_append, List.mem_map]
    at member
  rcases member with inFields | ⟨item, inside, rfl⟩
  · simp only [maxLeafTextCharacters] at price ⊢
    simp only [fieldLeaves, List.mem_cons, List.not_mem_nil, or_false]
      at inFields
    rcases inFields with rfl | rfl | rfl | rfl | rfl <;>
      simp only [ComparisonValue.canonicalText] <;> omega
  · have value : item.2.length ≤ 256 := normalizeBusinessText_length
      (record.attributes.valid.values item inside)
    simp only [attributeLeaf, ComparisonValue.canonicalText,
      maxLeafTextCharacters]
    omega

/-- A normalized record whose document is that of its record. -/
def NormalizedRecord.Documented (normalized : NormalizedRecord) : Prop :=
  normalized.document.values = documentLeaves normalized.record

theorem NormalizedRecord.Documented.bounded {normalized : NormalizedRecord}
    (documented : normalized.Documented) : normalized.document.Bounded := by
  intro entry member
  rw [documented] at member
  exact documentLeaves_bounded _ member

/-- Two normalized records always compare. -/
theorem NormalizedRecord.Documented.compares
    {source target : NormalizedRecord}
    (sourceDocumented : source.Documented)
    (targetDocumented : target.Documented) :
    ∃ found,
      buildFieldDifferences source.document target.document = .ok found ∧
      found.map FieldDifference.field =
        differingPaths source.document target.document := by
  apply buildFieldDifferences_returns sourceDocumented.bounded
    targetDocumented.bounded
  have sourceFew := documentLeaves_length source.record
  have targetFew := documentLeaves_length target.record
  rw [← sourceDocumented] at sourceFew
  rw [← targetDocumented] at targetFew
  have paths := comparedPaths_length source.document target.document
  have fewer := List.length_filter_le (fun path =>
    source.document.get path != target.document.get path)
    (comparedPaths source.document target.document)
  simp only [differingPaths, maxDifferences]
  omega

/-! ## Normalized batches -/

theorem normalizeEach_distinct {seen : List Nat}
    {observations : List SourceObservation}
    {entries : List NormalizationEntry}
    (returned : normalizeEach seen observations = .ok entries) :
    (observations.map SourceObservation.position).Nodup ∧
      ∀ observation ∈ observations, observation.position ∉ seen := by
  induction observations generalizing seen entries with
  | nil => exact ⟨List.nodup_nil, by simp⟩
  | cons observation rest ih =>
      simp only [normalizeEach, bind_eq_ok, require_eq_ok] at returned
      obtain ⟨_, unseen, _, _, entry, _, later, others, _⟩ := returned
      obtain ⟨distinct, fresh⟩ := ih others
      constructor
      · rw [List.map_cons, List.nodup_cons]
        refine ⟨fun repeated => ?_, distinct⟩
        obtain ⟨other, inside, same⟩ := List.mem_map.mp repeated
        exact fresh other inside (same ▸ List.mem_cons_self)
      · rw [List.forall_mem_cons]
        exact ⟨by simpa using unseen, fun other inside inSeen =>
          fresh other inside (List.mem_cons_of_mem _ inSeen)⟩

/-- What a normalized batch holds. -/
structure BatchEntries (observations : List SourceObservation)
    (normalization : SourceNormalization)
    (entries : List NormalizationEntry) : Prop where
  distinct : (observations.map SourceObservation.position).Nodup
  each : observations.map normalizeObservation = entries.map .ok
  records : normalization.records =
    sortedBy NormalizedRecord.position (recordEntries entries)
  quarantined : normalization.quarantined =
    sortedBy QuarantinedObservation.position (quarantinedEntries entries)
  normalizes : NormalizesEach observations normalization

theorem normalizeSourceObservations_entries
    {observations : List SourceObservation}
    {normalization : SourceNormalization}
    (returned : normalizeSourceObservations observations =
      .ok normalization) :
    ∃ entries, BatchEntries observations normalization entries := by
  simp only [normalizeSourceObservations, bind_eq_ok] at returned
  obtain ⟨entries, normalized, created⟩ := returned
  obtain ⟨records, quarantined⟩ := SourceNormalization.create_eq_ok created
  have distinct := (normalizeEach_distinct normalized).1
  exact ⟨entries, distinct, normalizeEach_map normalized, records,
    quarantined,
    normalizesEach_of_entries distinct normalized records quarantined⟩

/-- Every record of a batch has the document of its fields. -/
theorem BatchEntries.documented {observations : List SourceObservation}
    {normalization : SourceNormalization}
    {entries : List NormalizationEntry}
    (batch : BatchEntries observations normalization entries)
    {normalized : NormalizedRecord}
    (member : normalized ∈ normalization.records) :
    normalized.Documented := by
  rw [batch.records, mem_sortedBy, recordEntries, List.mem_filterMap]
    at member
  obtain ⟨entry, inside, selected⟩ := member
  have image : Except.ok entry ∈
      observations.map normalizeObservation := by
    rw [batch.each]
    exact List.mem_map.mpr ⟨entry, inside, rfl⟩
  obtain ⟨observation, _, returned⟩ := List.mem_map.mp image
  cases entry with
  | record found =>
      cases selected
      exact normalizeObservation_document returned
  | quarantined found => cases selected

/-- The entry of an observation is all that its batch holds at its place. -/
theorem BatchEntries.at_place {observations : List SourceObservation}
    {normalization : SourceNormalization}
    {entries : List NormalizationEntry}
    (batch : BatchEntries observations normalization entries)
    {observation : SourceObservation} (member : observation ∈ observations) :
    ∃ entry, normalizeObservation observation = .ok entry ∧
      normalization.records.filter
          (fun r => r.position = observation.position) =
        [entry].filterMap NormalizationEntry.asRecord ∧
      normalization.quarantined.filter
          (fun q => q.position = observation.position) =
        [entry].filterMap NormalizationEntry.asQuarantined := by
  obtain ⟨single, returned, records, quarantined⟩ :=
    batch.normalizes.alone observation member
  obtain ⟨entries, alone⟩ := normalizeSourceObservations_entries returned
  have each := alone.each
  obtain ⟨entry, rfl⟩ : ∃ entry, entries = [entry] := by
    have lengths := congrArg List.length each
    simp only [List.length_map, List.length_singleton] at lengths
    exact List.length_eq_one_iff.mp lengths.symm
  refine ⟨entry, (List.cons.inj each).1, ?_, ?_⟩
  · rw [← records, alone.records]
    cases entry <;> rfl
  · rw [← quarantined, alone.quarantined]
    cases entry <;> rfl

end Documents

end ParityGrid.Domain
