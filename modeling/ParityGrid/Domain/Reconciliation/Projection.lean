import ParityGrid.Domain.Reconciliation.Normalization

/-!
# When projecting and quarantining raise

Quarantine raises on a key it cannot encode and on a field path it cannot
hold; projection raises on a quantity out of range and on leaves too deep for
the JSON encoder of their evidence.  A projection that is returned consists of
typed leaves and markers at known paths.
-/

namespace ParityGrid.Domain

open Foundation

section Projection

variable [PythonRuntime]

/-! ## Quarantine evidence -/

/-- A text source record key has no lone surrogate. -/
def KeyEncodes (payload : Payload) : Prop :=
  ∀ key, payload.lookup (text "source_record_key") = some (.string key) →
    isUnicode key

/-- The quarantine key of the observation can be encoded. -/
def SourceObservation.KeyEncodes (observation : SourceObservation) : Prop :=
  match observation.payload with
  | .malformed .. => True
  | .mapping payload _ => Domain.KeyEncodes payload

theorem boundedDetail_bounds (detail : Text) :
    boundedDetail detail ≠ [] ∧
      (boundedDetail detail).length ≤ maxQuarantineDetailCharacters := by
  simp only [boundedDetail]
  split
  · decide
  next nonempty =>
    constructor
    · simpa [List.take_eq_nil_iff, maxQuarantineDetailCharacters]
        using nonempty
    · exact List.length_take_le _ _

theorem quarantineKey_returns {observation : SourceObservation} :
    Returns (quarantineKey observation) ↔ observation.KeyEncodes := by
  obtain ⟨position, connectorId, carried⟩ := observation
  cases carried with
  | malformed => simp [quarantineKey, SourceObservation.KeyEncodes, Returns]
  | mapping payload distinct =>
      simp only [quarantineKey, SourceObservation.KeyEncodes]
      split
      next key found =>
        simp only [Domain.KeyEncodes, found, Option.some.injEq,
          JsonValue.string.injEq, forall_eq', encodeUtf8,
          PythonRuntime.nfc_isUnicode]
        split
        next unicode => simp [unicode, Returns, pure, Except.pure]
        next lone => simp [lone, Returns]
      next other =>
        have encodes : Domain.KeyEncodes payload := by
          intro key found
          exact absurd found (other key)
        simp [encodes, Returns]

theorem quarantineKey_bounds {observation : SourceObservation} {key : Text}
    (returned : quarantineKey observation = .ok key) :
    isUnicode key ∧ utf8Length key ≤ maxQuarantineFieldBytes := by
  have nothing : isUnicode [] ∧ utf8Length [] ≤ maxQuarantineFieldBytes := by
    decide
  simp only [quarantineKey] at returned
  split at returned
  · cases returned
    exact nothing
  · split at returned
    · simp only [bind_eq_ok, encodeUtf8] at returned
      obtain ⟨encoded, encodes, same⟩ := returned
      split at encodes
      next unicode =>
        cases encodes
        cases same
        split
        next short => exact ⟨unicode, short⟩
        next => exact nothing
      next => cases encodes
    · cases returned
      exact nothing

/-- A field path that quarantine evidence accepts. -/
def FieldFits (field : Text) : Prop :=
  isUnicode field ∧ field ≠ [] ∧ utf8Length field ≤ maxQuarantineFieldBytes

omit [PythonRuntime] in
theorem validateQuarantined_ok {field detail key : Text}
    (detailBounds : detail ≠ [] ∧
      detail.length ≤ maxQuarantineDetailCharacters)
    (keyBounds : isUnicode key ∧ utf8Length key ≤ maxQuarantineFieldBytes) :
    validateQuarantined field detail key = .ok () ↔ FieldFits field := by
  simp only [validateQuarantined, bind_eq_ok, require_eq_ok, encodeUtf8,
    keyBounds.1, if_true, Bool.and_eq_true, bne_iff_ne, ne_eq,
    decide_eq_true_eq, FieldFits, utf8Length] at detailBounds keyBounds ⊢
  constructor
  · rintro ⟨bytes, encodes, _, ⟨nonempty, short⟩, _⟩
    split at encodes
    next unicode =>
      cases encodes
      exact ⟨unicode, nonempty, short⟩
    next => cases encodes
  · rintro ⟨unicode, nonempty, short⟩
    exact ⟨_, by rw [if_pos unicode], (), ⟨nonempty, short⟩, (),
      detailBounds, _, rfl, keyBounds.2⟩

/-- Quarantine raises on its key and its field only. -/
theorem quarantine_returns {observation : SourceObservation}
    {code : QuarantineCode} {field detail : Text} :
    Returns (quarantine observation code field detail) ↔
      observation.KeyEncodes ∧ FieldFits field := by
  simp only [quarantine, returns_bind, ← quarantineKey_returns]
  constructor
  · rintro ⟨key, keyed, checked, accepted, _⟩
    exact ⟨⟨key, keyed⟩, (validateQuarantined_ok (boundedDetail_bounds detail)
      (quarantineKey_bounds keyed)).mp (certify_eq_ok.mp accepted)⟩
  · rintro ⟨⟨key, keyed⟩, fits⟩
    have accepted := (validateQuarantined_ok (boundedDetail_bounds detail)
      (quarantineKey_bounds keyed)).mpr fits
    exact ⟨key, keyed, _, certify_ok (P := fun u => validateQuarantined field
      (boundedDetail detail) key = .ok u) (fun _ h => h) accepted, .ok _⟩

theorem quarantine_position {observation : SourceObservation}
    {code : QuarantineCode} {field detail : Text}
    {found : QuarantinedObservation}
    (returned : quarantine observation code field detail = .ok found) :
    found.position = observation.position := by
  simp only [quarantine, bind_eq_ok] at returned
  obtain ⟨_, _, _, _, same⟩ := returned
  cases same
  rfl

/-! ## Leaves that raise -/

theorem not_tooDeep_scalar (value : JsonScalar) :
    ¬ TooDeep (.scalar value) := by
  intro deep
  cases value with
  | int value =>
      simp only [TooDeep, jsonDumps, JsonValue.sortKeys_scalar,
        JsonValue.dumpsError, intReprError] at deep
      split at deep
      next error raised =>
        split at raised
        · cases raised
          cases deep
        · cases raised
      next => cases deep
  | null => simp [TooDeep, jsonDumps, JsonValue.dumpsError] at deep
  | bool value => simp [TooDeep, jsonDumps, JsonValue.dumpsError] at deep
  | float value => simp [TooDeep, jsonDumps, JsonValue.dumpsError] at deep

/-- A text leaf raises exactly when its value is too deep. -/
theorem projectText_returns
    {leaf : Text → Except PythonError ComparisonValue}
    (raises : ∀ value, RaisesOnlyValueErrors (leaf value))
    (value : JsonValue) :
    Returns (projectText leaf value) ↔ ¬ TooDeep value := by
  rcases value with (_ | _ | _ | _) | value | _ | _
  · exact ⟨fun _ => not_tooDeep_scalar _, fun _ => .ok _⟩
  · exact ComparisonValue.wrongTypeOf_returns
  · exact ComparisonValue.wrongTypeOf_returns
  · exact ComparisonValue.wrongTypeOf_returns
  · refine ⟨fun _ => not_tooDeep_string value, fun _ => ?_⟩
    rcases (raises value).exceptValueErrors
      (ComparisonValue.wrongTypeOf (.string value)) with
      ⟨made, _, returned⟩ | handled
    · exact ⟨made, returned⟩
    · simp only [projectText, handled]
      exact ComparisonValue.wrongTypeOf_returns.mpr (not_tooDeep_string value)
  · exact ComparisonValue.wrongTypeOf_returns
  · exact ComparisonValue.wrongTypeOf_returns

/-- The quantity leaf also raises on an integer out of range. -/
theorem projectQuantity_returns (value : JsonValue) :
    Returns (projectQuantity value) ↔
      ¬ TooDeep value ∧ ∀ number, value = .int number → isInt64 number := by
  have otherwise (other : projectQuantity value =
      ComparisonValue.wrongTypeOf value)
      (notInteger : ∀ number, value ≠ .int number) :
      Returns (projectQuantity value) ↔
        ¬ TooDeep value ∧
          ∀ number, value = .int number → isInt64 number := by
    rw [other, ComparisonValue.wrongTypeOf_returns]
    exact ⟨fun shallow => ⟨shallow, fun number same =>
      absurd same (notInteger number)⟩, fun both => both.1⟩
  rcases value with (_ | _ | number | _) | _ | _ | _
  · simp [projectQuantity, Returns, not_tooDeep_scalar]
  · exact otherwise rfl (by simp)
  · simp only [projectQuantity, ComparisonValue.integerValue]
    split
    next inside => simp [Returns, not_tooDeep_scalar, inside]
    next outside => simp [Returns, outside]
  all_goals exact otherwise rfl (by simp)

theorem textValue_raises (value : Text) :
    RaisesOnlyValueErrors (ComparisonValue.textValue value) := by
  intro error raised
  simp only [ComparisonValue.textValue, Except.map] at raised
  split at raised
  next rejected =>
    cases raised
    exact normalizedLeafText_raises value _ rejected
  next => cases raised

theorem attributeTextValue_raises (value : Text) :
    RaisesOnlyValueErrors (ComparisonValue.attributeTextValue value) := by
  intro error raised
  simp only [ComparisonValue.attributeTextValue, Except.map] at raised
  split at raised
  next rejected =>
    cases raised
    exact normalizedLeafText_raises value _ rejected
  next => cases raised

omit [PythonRuntime] in
theorem projectField_returns
    {project : JsonValue → Except PythonError ComparisonValue}
    {path : String} {value : Option JsonValue} :
    Returns (projectField project path value) ↔
      ∀ present, value = some present → Returns (project present) := by
  cases value with
  | none => simp [projectField, Returns]
  | some present => simp [projectField, returns_map]

/-! ## Projections that raise -/

/-- The values below `unit_price` that become leaves. -/
def priceValues : JsonValue → List JsonValue
  | .object price =>
      (price.lookup (text "currency")).toList ++
        (price.lookup (text "amount")).toList
  | value => [value]

/-- The values below `attributes` that become leaves. -/
def attributeValues : JsonValue → List JsonValue
  | .object items =>
      (items.filter fun item => pathSegment.fullmatch item.1).map Prod.snd
  | value => [value]

/-- The values of a payload that become leaves of its projection. -/
def projectedValues (payload : Payload) : List JsonValue :=
  (payload.lookup (text "name")).toList ++
    (payload.lookup (text "quantity")).toList ++
    (payload.lookup (text "updated_at")).toList ++
    (payload.lookup (text "unit_price")).toList.flatMap priceValues ++
    (payload.lookup (text "attributes")).toList.flatMap attributeValues

theorem projectUnitPrice_returns (payload : Payload) :
    Returns (projectUnitPrice payload) ↔
      ∀ value ∈ (payload.lookup (text "unit_price")).toList.flatMap
        priceValues, ¬ TooDeep value := by
  simp only [projectUnitPrice]
  cases payload.lookup (text "unit_price") with
  | none => simp [Returns]
  | some value =>
      simp only [Option.toList_some, List.flatMap_cons, List.flatMap_nil,
        List.append_nil]
      rcases value with (_ | _ | _ | _) | _ | _ | price
      case object =>
        simp only [priceValues, List.mem_append, Option.mem_toList, or_imp,
          forall_and]
        have child (path : String) (value : Option JsonValue) :
            Returns (projectField (projectText ComparisonValue.textValue)
              path value) ↔
            ∀ present, value = some present → ¬ TooDeep present := by
          simp only [projectField_returns,
            projectText_returns textValue_raises]
        rw [← child "unit_price/currency", ← child "unit_price/amount"]
        constructor
        · intro returned
          obtain ⟨currency, first, rest⟩ := returns_bind.mp returned
          obtain ⟨amount, second, _⟩ := returns_bind.mp rest
          exact ⟨⟨currency, first⟩, ⟨amount, second⟩⟩
        · rintro ⟨⟨currency, first⟩, ⟨amount, second⟩⟩
          exact returns_bind.mpr ⟨currency, first,
            returns_bind.mpr ⟨amount, second, .ok _⟩⟩
      case scalar.null => simp [Returns, priceValues, not_tooDeep_scalar]
      all_goals
        simp only [priceValues, List.mem_singleton, forall_eq,
          ← ComparisonValue.wrongTypeOf_returns]
        constructor
        · intro returned
          obtain ⟨leaf, made, _⟩ := returns_bind.mp returned
          exact ⟨leaf, made⟩
        · rintro ⟨leaf, made⟩
          exact returns_bind.mpr ⟨leaf, made, .ok _⟩

omit [PythonRuntime] in
theorem canonicalAttributePath_of_fullmatch {key : Text}
    (canonical : pathSegment.fullmatch key) :
    canonicalAttributePath key = some (text "attributes/" ++ key) := by
  simp [canonicalAttributePath, canonical]

theorem projectItems_returns (invalidKey : Option Text)
    (items : List (Text × JsonValue)) :
    Returns (projectItems invalidKey items) ↔
      ∀ item ∈ items, pathSegment.fullmatch item.1 → ¬ TooDeep item.2 := by
  induction items generalizing invalidKey with
  | nil => simp [projectItems, Returns]
  | cons item rest ih =>
      obtain ⟨key, value⟩ := item
      by_cases canonical : pathSegment.fullmatch key
      · simp only [projectItems, canonicalAttributePath_of_fullmatch canonical,
          List.forall_mem_cons, canonical, true_imp_iff]
        rw [← projectText_returns attributeTextValue_raises, ← ih invalidKey]
        constructor
        · intro returned
          obtain ⟨leaf, first, later⟩ := returns_bind.mp returned
          obtain ⟨leaves, second, _⟩ := returns_bind.mp later
          exact ⟨⟨leaf, first⟩, ⟨leaves, second⟩⟩
        · rintro ⟨⟨leaf, first⟩, ⟨leaves, second⟩⟩
          exact returns_bind.mpr ⟨leaf, first,
            returns_bind.mpr ⟨leaves, second, .ok _⟩⟩
      · simp only [projectItems, canonicalAttributePath, canonical,
          List.forall_mem_cons, false_imp_iff, true_and, Bool.false_eq_true,
          if_false]
        exact ih _

theorem projectAttributes_returns (payload : Payload) :
    Returns (projectAttributes payload) ↔
      ∀ value ∈ (payload.lookup (text "attributes")).toList.flatMap
        attributeValues, ¬ TooDeep value := by
  simp only [projectAttributes]
  cases payload.lookup (text "attributes") with
  | none => simp [Returns]
  | some value =>
      simp only [Option.toList_some, List.flatMap_cons, List.flatMap_nil,
        List.append_nil]
      rcases value with (_ | _ | _ | _) | _ | _ | items
      case object =>
        simp only [projectItems_returns, mem_sortedBy, attributeValues,
          List.mem_map, List.mem_filter]
        constructor
        · rintro shallow value ⟨item, ⟨member, canonical⟩, rfl⟩
          exact shallow item member canonical
        · intro shallow item member canonical
          exact shallow item.2 ⟨item, ⟨member, canonical⟩, rfl⟩
      case scalar.null => simp [Returns, attributeValues, not_tooDeep_scalar]
      all_goals
        simp only [attributeValues, List.mem_singleton, forall_eq,
          ← ComparisonValue.wrongTypeOf_returns]
        constructor
        · intro returned
          obtain ⟨leaf, made, _⟩ := returns_bind.mp returned
          exact ⟨leaf, made⟩
        · rintro ⟨leaf, made⟩
          exact returns_bind.mpr ⟨leaf, made, .ok _⟩

/-- Projection raises on a huge quantity and on deep leaves only. -/
theorem projectPayload_returns (payload : Payload) :
    Returns (projectPayload payload) ↔
      (∀ number, payload.lookup (text "quantity") = some (.int number) →
        isInt64 number) ∧
      ∀ value ∈ projectedValues payload, ¬ TooDeep value := by
  have plain (name : String) (other : name ≠ "quantity") :
      Returns (projectLeaf payload name) ↔
        ∀ value ∈ (payload.lookup (text name)).toList, ¬ TooDeep value := by
    simp only [projectLeaf, other, if_false, projectField_returns,
      projectText_returns textValue_raises, Option.mem_toList]
  have quantity : Returns (projectLeaf payload "quantity") ↔
      (∀ number, payload.lookup (text "quantity") = some (.int number) →
        isInt64 number) ∧
      ∀ value ∈ (payload.lookup (text "quantity")).toList,
        ¬ TooDeep value := by
    simp only [projectLeaf, if_true, projectField_returns,
      projectQuantity_returns, Option.mem_toList]
    constructor
    · intro each
      exact ⟨fun number found => (each _ found).2 number rfl,
        fun value found => (each value found).1⟩
    · rintro ⟨inside, shallow⟩ value found
      exact ⟨shallow value found,
        fun number same => inside number (by rw [found, same])⟩
  simp only [projectedValues, List.mem_append, or_imp, forall_and]
  rw [← plain "name" (by decide), ← plain "updated_at" (by decide),
    ← projectUnitPrice_returns, ← projectAttributes_returns]
  constructor
  · intro returned
    obtain ⟨name, nameReturns, rest⟩ := returns_bind.mp returned
    obtain ⟨amount, quantityReturns, rest⟩ := returns_bind.mp rest
    obtain ⟨updated, updatedReturns, rest⟩ := returns_bind.mp rest
    obtain ⟨price, priceReturns, rest⟩ := returns_bind.mp rest
    obtain ⟨attributes, attributesReturn, _⟩ := returns_bind.mp rest
    obtain ⟨inside, shallow⟩ := quantity.mp ⟨amount, quantityReturns⟩
    exact ⟨inside, ⟨⟨⟨⟨name, nameReturns⟩, shallow⟩,
      ⟨updated, updatedReturns⟩⟩, ⟨price, priceReturns⟩⟩,
      ⟨attributes, attributesReturn⟩⟩
  · rintro ⟨inside, ⟨⟨⟨nameReturns, shallow⟩, updatedReturns⟩,
      priceReturns⟩, attributesReturn⟩
    exact nameReturns.bind fun _ _ =>
      (quantity.mpr ⟨inside, shallow⟩).bind fun _ _ =>
        updatedReturns.bind fun _ _ =>
          priceReturns.bind fun _ _ =>
            attributesReturn.bind fun _ _ => .ok _

/-! ## Parts of a projection -/

/-- The paths outside `attributes`, in the order they are stored. -/
def fixedPaths : List Text :=
  [text "name", text "quantity", text "updated_at", text "unit_price",
    text "unit_price/currency", text "unit_price/amount"]

/-- The fixed paths whose leaves are text. -/
def textPaths : List Text :=
  [text "name", text "updated_at", text "unit_price/currency",
    text "unit_price/amount"]

/-- A leaf is a marker or has the type of its path. -/
def TypedLeaf (entry : Text × ComparisonValue) : Prop :=
  entry.2.isMarker ∨
    (entry.1 = text "quantity" ∧
      ∃ number inRange, entry.2 = .integer number inRange) ∨
    (entry.1 ∈ textPaths ∧
      ∃ value, nfc value = value ∧ entry.2 = .text value)

theorem projectText_form
    {leaf : Text → Except PythonError ComparisonValue}
    {value : JsonValue} {made : ComparisonValue}
    (projected : projectText leaf value = .ok made) :
    made.isMarker ∨ ∃ t, value = .string t ∧ leaf t = .ok made := by
  have marks {raw : JsonValue}
      (returned : ComparisonValue.wrongTypeOf raw = .ok made) :
      made.isMarker := by
    obtain ⟨evidence, nonempty, rfl, _⟩ :=
      ComparisonValue.wrongTypeOf_form returned
    rfl
  rcases value with (_ | _ | _ | _) | t | _ | _
  case scalar.null =>
    cases projected
    exact .inl rfl
  case string =>
    simp only [projectText, exceptValueErrors] at projected
    split at projected
    next accepted =>
      cases projected
      exact .inr ⟨t, rfl, accepted⟩
    next =>
      split at projected
      · exact .inl (marks projected)
      · cases projected
  all_goals exact .inl (marks projected)

theorem projectQuantity_form {value : JsonValue} {made : ComparisonValue}
    (projected : projectQuantity value = .ok made) :
    made.isMarker ∨ ∃ number inRange, made = .integer number inRange := by
  have marks {raw : JsonValue}
      (returned : ComparisonValue.wrongTypeOf raw = .ok made) :
      made.isMarker := by
    obtain ⟨evidence, nonempty, rfl, _⟩ :=
      ComparisonValue.wrongTypeOf_form returned
    rfl
  rcases value with (_ | _ | number | _) | _ | _ | _
  case scalar.null =>
    cases projected
    exact .inl rfl
  case scalar.int =>
    simp only [projectQuantity, ComparisonValue.integerValue] at projected
    split at projected
    · cases projected
      exact .inr ⟨number, _, rfl⟩
    · cases projected
  all_goals exact .inl (marks projected)

omit [PythonRuntime] in
theorem projectField_parts
    {project : JsonValue → Except PythonError ComparisonValue}
    {path : String} {value : Option JsonValue} {part : Projection}
    (projected : projectField project path value = .ok part) :
    part = [] ∨ ∃ present leaf, value = some present ∧
      project present = .ok leaf ∧ part = [(text path, leaf)] := by
  cases value with
  | none =>
      cases projected
      exact .inl rfl
  | some present =>
      simp only [projectField, map_eq_ok] at projected
      obtain ⟨leaf, made, same⟩ := projected
      exact .inr ⟨present, leaf, rfl, made, same.symm⟩

/-- A part of the projection with at most the given paths. -/
structure FixedPart (paths : List Text) (part : Projection) : Prop where
  paths : (part.map Prod.fst).Sublist paths
  typed : ∀ entry ∈ part, TypedLeaf entry

theorem FixedPart.append {left right : List Text}
    {leftPart rightPart : Projection} (first : FixedPart left leftPart)
    (second : FixedPart right rightPart) :
    FixedPart (left ++ right) (leftPart ++ rightPart) := by
  refine ⟨?_, ?_⟩
  · rw [List.map_append]
    exact first.paths.append second.paths
  · intro entry member
    rcases List.mem_append.mp member with inLeft | inRight
    · exact first.typed entry inLeft
    · exact second.typed entry inRight

theorem FixedPart.single {path : Text} {leaf : ComparisonValue}
    (typed : TypedLeaf (path, leaf)) : FixedPart [path] [(path, leaf)] := by
  refine ⟨List.Sublist.refl _, ?_⟩
  intro entry member
  rw [List.mem_singleton.mp member]
  exact typed

theorem FixedPart.nil (paths : List Text) : FixedPart paths [] :=
  ⟨List.nil_sublist paths, by simp⟩

theorem FixedPart.mono {fewer paths : List Text} {part : Projection}
    (fixed : FixedPart fewer part) (sublist : fewer.Sublist paths) :
    FixedPart paths part :=
  ⟨fixed.paths.trans sublist, fixed.typed⟩

theorem textField_part {path : String} (member : text path ∈ textPaths)
    {value : Option JsonValue} {part : Projection}
    (projected : projectField (projectText ComparisonValue.textValue) path
      value = .ok part) :
    FixedPart [text path] part := by
  rcases projectField_parts projected with
    rfl | ⟨present, leaf, _, made, rfl⟩
  · exact FixedPart.nil _
  · apply FixedPart.single
    rcases projectText_form made with marker | ⟨t, _, accepted⟩
    · exact .inl marker
    · simp only [ComparisonValue.textValue, map_eq_ok] at accepted
      obtain ⟨normalized, normalizes, same⟩ := accepted
      exact .inr (.inr ⟨member, normalized,
        normalizedLeafText_normal normalizes, same.symm⟩)

theorem quantityField_part {value : Option JsonValue} {part : Projection}
    (projected : projectField projectQuantity "quantity" value = .ok part) :
    FixedPart [text "quantity"] part := by
  rcases projectField_parts projected with
    rfl | ⟨present, leaf, _, made, rfl⟩
  · exact FixedPart.nil _
  · apply FixedPart.single
    rcases projectQuantity_form made with marker | typed
    · exact .inl marker
    · exact .inr (.inl ⟨rfl, typed⟩)

theorem projectUnitPrice_part {payload : Payload} {part : Projection}
    (projected : projectUnitPrice payload = .ok part) :
    FixedPart [text "unit_price", text "unit_price/currency",
      text "unit_price/amount"] part := by
  have marker {leaf : ComparisonValue} (marks : leaf.isMarker) :
      FixedPart [text "unit_price", text "unit_price/currency",
        text "unit_price/amount"] [(text "unit_price", leaf)] :=
    (FixedPart.single (.inl marks)).mono (by simp)
  simp only [projectUnitPrice] at projected
  split at projected
  · cases projected
    exact FixedPart.nil _
  · cases projected
    exact marker rfl
  · simp only [bind_eq_ok] at projected
    obtain ⟨currency, first, amount, second, same⟩ := projected
    cases same
    have currencyPart := textField_part (by decide) first
    have amountPart := textField_part (by decide) second
    exact (currencyPart.append amountPart).mono (by simp)
  · simp only [bind_eq_ok] at projected
    obtain ⟨leaf, made, same⟩ := projected
    cases same
    obtain ⟨evidence, nonempty, rfl, _⟩ :=
      ComparisonValue.wrongTypeOf_form made
    exact marker rfl

/-- A projection is a fixed part and the part of the attributes. -/
theorem projectPayload_parts {payload : Payload} {projection : Projection}
    {invalidKey : Option Text}
    (projected : projectPayload payload = .ok (projection, invalidKey)) :
    ∃ fixed attributes, projection = fixed ++ attributes ∧
      FixedPart fixedPaths fixed ∧
      projectAttributes payload = .ok (attributes, invalidKey) := by
  simp only [projectPayload, bind_eq_ok] at projected
  obtain ⟨name, namePart, quantity, quantityPart, updated, updatedPart, price,
    pricePart, ⟨attributes, invalid⟩, attributesPart, same⟩ := projected
  cases same
  simp only [projectLeaf, if_true] at quantityPart
  have plainName : "name" ≠ "quantity" := by decide
  have plainUpdated : "updated_at" ≠ "quantity" := by decide
  simp only [projectLeaf, plainName, if_false] at namePart
  simp only [projectLeaf, plainUpdated, if_false] at updatedPart
  exact ⟨name ++ quantity ++ updated ++ price, attributes, rfl,
    (((textField_part (by decide) namePart).append
      (quantityField_part quantityPart)).append
      (textField_part (by decide) updatedPart)).append
      (projectUnitPrice_part pricePart), attributesPart⟩

end Projection

end ParityGrid.Domain
