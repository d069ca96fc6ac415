import ParityGrid.Domain.Reconciliation.Projection

/-!
# Observations that block a batch

Normalization quarantines what violates a rule.  Four kinds of payload make a
rule or the quarantine itself raise instead, and one such observation aborts
the whole batch; every other batch is normalized observation by observation.
-/

namespace ParityGrid.Domain

open Foundation

/-! ## Paths -/

/-- The path of an attribute. -/
abbrev attributePath (key : Text) : Text := text "attributes/" ++ key

theorem attributePath_le {left right : Text} :
    attributePath left ≤ attributePath right ↔ left ≤ right := by
  constructor
  · intro le
    by_contra above
    exact absurd le (not_le.mpr (List.append_left_lt (not_le.mp above)))
  · intro le
    by_contra above
    have below : right < left := by
      rcases lt_or_eq_of_le le with lt | rfl
      · exact absurd (List.append_left_lt lt) (not_lt.mpr
          (not_le.mp above).le)
      · exact absurd (le_refl _) above
    exact absurd le (not_le.mpr below)

theorem attributePath_injective {left right : Text}
    (same : attributePath left = attributePath right) :
    left = right :=
  List.append_cancel_left same

/-- Attribute paths come before all others and are none of them. -/
theorem attributePath_lt_fixed (key : Text) {path : Text}
    (fixed : path ∈ fixedPaths) :
    attributePath key < path := by
  have first : ∀ {c : CodePoint} {rest : Text}, point 'a' < c →
      attributePath key < c :: rest := fun lt =>
    List.cons_lt_cons_iff.mpr (.inl lt)
  simp only [fixedPaths, List.mem_cons, List.not_mem_nil, or_false] at fixed
  rcases fixed with rfl | rfl | rfl | rfl | rfl | rfl <;>
    exact first (by decide)

theorem attributePath_fits {key : Text} (canonical : pathSegment.fullmatch key) :
    FieldFits (attributePath key) ↔ key.length ≤ 85 := by
  have ascii : (attributePath key).all isAscii := by
    rw [List.all_append, Bool.and_eq_true]
    exact ⟨by decide, attributeKeyPattern_ascii.fullmatch_all canonical⟩
  have prefixLength : (text "attributes/").length = 11 := by decide
  have nonempty : attributePath key ≠ [] := by
    intro empty
    have lengths := congrArg List.length empty
    simp only [List.length_append, prefixLength, List.length_nil] at lengths
    omega
  simp only [FieldFits, isUnicode_of_ascii ascii, utf8Length_ascii ascii,
    List.length_append, prefixLength, maxQuarantineFieldBytes, true_and,
    ne_eq, nonempty, not_false_eq_true]
  omega

theorem fixedPath_fits {path : Text} (fixed : path ∈ fixedPaths) :
    FieldFits path := by
  simp only [fixedPaths, List.mem_cons, List.not_mem_nil, or_false] at fixed
  rcases fixed with rfl | rfl | rfl | rfl | rfl | rfl <;>
    exact ⟨by decide, by decide, by decide⟩

theorem missingPath_none {projection : Projection}
    (complete : missingPath projection = none) :
    (projection.lookup (text "name")).isSome ∧
      (projection.lookup (text "quantity")).isSome ∧
      (projection.lookup (text "updated_at")).isSome ∧
      (projection.lookup (text "unit_price/currency")).isSome ∧
      (projection.lookup (text "unit_price/amount")).isSome := by
  simp only [missingPath] at complete
  repeat' split at complete
  all_goals simp_all

/-! ## Storing parsed leaves -/

theorem lookup_storeLeaf {projection : Projection} {path : String}
    {old : ComparisonValue} (leaf : ComparisonValue)
    (present : projection.lookup (text path) = some old) :
    (storeLeaf path leaf projection).lookup (text path) = some leaf := by
  induction projection with
  | nil => cases present
  | cons entry rest ih =>
      by_cases same : entry.1 = text path
      · simp [storeLeaf, same]
      · have other : (text path == entry.1) = false := by
          simpa using fun equal => same equal.symm
        simp only [List.lookup, other] at present
        have found := ih present
        simp only [storeLeaf] at found
        simp only [storeLeaf, List.map_cons, same, if_false, List.lookup,
          other, found]

theorem lookup_storeLeaf_ne {projection : Projection} {path : String}
    {leaf : ComparisonValue} {other : Text} (different : other ≠ text path) :
    (storeLeaf path leaf projection).lookup other =
      projection.lookup other := by
  induction projection with
  | nil => rfl
  | cons entry rest ih =>
      obtain ⟨key, value⟩ := entry
      simp only [storeLeaf] at ih
      simp only [storeLeaf, List.map_cons]
      split
      next same =>
        have apart : (other == key) = false := by
          simpa [same] using different
        simp only [List.lookup, apart, ih]
      next => simp only [List.lookup, ih]

@[simp]
theorem storeLeaf_paths (path : String) (leaf : ComparisonValue)
    (projection : Projection) :
    (storeLeaf path leaf projection).map Prod.fst =
      projection.map Prod.fst := by
  simp only [storeLeaf, List.map_map]
  apply List.map_congr_left
  intro entry _
  simp only [Function.comp_apply]
  split <;> rfl

theorem storeLeaf_append (path : String) (leaf : ComparisonValue)
    (left right : Projection) :
    storeLeaf path leaf (left ++ right) =
      storeLeaf path leaf left ++ storeLeaf path leaf right :=
  List.map_append

/-- Attribute leaves without markers. -/
def AttributeLeaves [PythonRuntime] (part : Projection) : Prop :=
  ∀ entry ∈ part, ∃ key value, pathSegment.fullmatch key ∧
    nfc value = value ∧ entry = (attributePath key, .attributeText value)

theorem storeLeaf_attributes [PythonRuntime] {path : String} (leaf : ComparisonValue)
    (known : text path ∈ fixedPaths) {part : Projection}
    (leaves : AttributeLeaves part) :
    storeLeaf path leaf part = part := by
  simp only [storeLeaf]
  conv_rhs => rw [← List.map_id part]
  apply List.map_congr_left
  intro entry member
  obtain ⟨key, _, _, _, rfl⟩ := leaves entry member
  have different : attributePath key ≠ text path :=
    ne_of_lt (attributePath_lt_fixed key known)
  simp only [different, if_false, id]

/-- The attribute texts keep the keys of their leaves. -/
theorem attributeItems_leaves [PythonRuntime] {part : Projection}
    (leaves : AttributeLeaves part) :
    ((attributeItems part).map Prod.fst).map attributePath =
      part.map Prod.fst := by
  induction part with
  | nil => rfl
  | cons entry rest ih =>
      obtain ⟨key, value, _, _, rfl⟩ := leaves entry List.mem_cons_self
      have later := ih fun entry member =>
        leaves entry (List.mem_cons_of_mem _ member)
      have inside : (text "attributes/").isPrefixOf (attributePath key) := by
        simp
      have back : afterSlash (attributePath key) = key := rfl
      simp only [attributeItems] at later
      simp only [attributeItems, List.filterMap_cons, inside, if_true, back,
        List.map_cons, later]

/-- The projection with its money and its timestamp parsed. -/
def parsedLeaves (money : Money) (timestamp : UtcTimestamp)
    (projection : Projection) : Projection :=
  storeLeaf "updated_at" (.timestamp timestamp)
    (storeLeaf "unit_price/amount" (.moneyAmount money) projection)

@[simp]
theorem parsedLeaves_paths (money : Money) (timestamp : UtcTimestamp)
    (projection : Projection) :
    (parsedLeaves money timestamp projection).map Prod.fst =
      projection.map Prod.fst := by
  simp only [parsedLeaves, storeLeaf_paths]

theorem lookup_parsedLeaves_ne {money : Money} {timestamp : UtcTimestamp}
    {projection : Projection} {path : Text}
    (notAmount : path ≠ text "unit_price/amount")
    (notUpdated : path ≠ text "updated_at") :
    (parsedLeaves money timestamp projection).lookup path =
      projection.lookup path := by
  simp only [parsedLeaves, lookup_storeLeaf_ne notUpdated,
    lookup_storeLeaf_ne notAmount]

theorem lookup_parsedLeaves_amount (money : Money)
    (timestamp : UtcTimestamp) {projection : Projection}
    {old : ComparisonValue}
    (present : projection.lookup (text "unit_price/amount") = some old) :
    (parsedLeaves money timestamp projection).lookup
      (text "unit_price/amount") = some (.moneyAmount money) := by
  have different : text "unit_price/amount" ≠ text "updated_at" := by decide
  simp only [parsedLeaves, lookup_storeLeaf_ne different,
    lookup_storeLeaf (.moneyAmount money) present]

theorem lookup_parsedLeaves_updated (money : Money)
    (timestamp : UtcTimestamp) {projection : Projection}
    {old : ComparisonValue}
    (present : projection.lookup (text "updated_at") = some old) :
    (parsedLeaves money timestamp projection).lookup (text "updated_at") =
      some (.timestamp timestamp) := by
  have different : text "updated_at" ≠ text "unit_price/amount" := by decide
  have still : (storeLeaf "unit_price/amount" (.moneyAmount money)
      projection).lookup (text "updated_at") = some old :=
    (lookup_storeLeaf_ne different).trans present
  exact lookup_storeLeaf (.timestamp timestamp) still

/-- Parsing leaves the attributes as they are. -/
theorem attributeItems_parsedLeaves [PythonRuntime] (money : Money)
    (timestamp : UtcTimestamp) (fixed : Projection)
    {attributes : Projection} (leaves : AttributeLeaves attributes) :
    ∃ before, attributeItems (parsedLeaves money timestamp
      (fixed ++ attributes)) = before ++ attributeItems attributes := by
  have amount : text "unit_price/amount" ∈ fixedPaths := by decide
  have updated : text "updated_at" ∈ fixedPaths := by decide
  refine ⟨attributeItems (parsedLeaves money timestamp fixed), ?_⟩
  simp only [parsedLeaves, storeLeaf_append,
    storeLeaf_attributes _ amount leaves,
    storeLeaf_attributes _ updated leaves]
  exact List.filterMap_append

/-! ## Documents of projections -/

theorem requirePath_attribute {key : Text}
    (canonical : pathSegment.fullmatch key) (short : key.length ≤ 64) :
    requirePath (attributePath key) = .ok () := by
  obtain ⟨unicode, nonempty, bounded⟩ :=
    (attributePath_fits canonical).mpr (by omega)
  have noSlash : pathSegment.Within (· != point '/') := by
    refine ⟨?_, ?_, ?_, ?_⟩ <;> intro c member <;>
      simp only [bne_iff_ne, ne_eq] <;> rintro rfl <;> revert member <;>
      decide
  have notSlash : point '/' ∉ key := by
    intro member
    have apart := List.all_eq_true.mp (noSlash.fullmatch_all canonical) _ member
    simp at apart
  have segments : (attributePath key).splitOn (point '/') =
      [text "attributes", key] := by
    show (text "attributes" ++ point '/' :: key).splitOn (point '/') = _
    rw [List.splitOn_append_cons_self, List.splitOn_eq_singleton notSlash,
      List.splitOn_eq_singleton (by decide)]
    rfl
  have encoded : (List.flatMap utf8Bytes (attributePath key)).length ≤
      maxFieldPathBytes := bounded
  simp only [requirePath, encodeUtf8_ok unicode, ok_bind, segments]
  simp only [encoded, decide_true, Bool.and_true, bne_iff_ne.mpr nonempty,
    require_true, ok_bind, List.head?_cons, Option.any_some, List.tail_cons,
    List.all_cons, List.all_nil, canonical]
  rfl

theorem requirePath_fixed {path : Text} (fixed : path ∈ fixedPaths) :
    requirePath path = .ok () := by
  simp only [fixedPaths, List.mem_cons, List.not_mem_nil, or_false] at fixed
  rcases fixed with rfl | rfl | rfl | rfl | rfl | rfl <;> decide

/-- The sorted leaves of a complete projection form a document. -/
theorem validateDocument_sorted {values : Projection}
    {fixed keys : List Text} (sub : fixed.Sublist fixedPaths)
    (paths : values.map Prod.fst = fixed ++ keys.map attributePath)
    (distinct : keys.Nodup)
    (canonical : ∀ key ∈ keys, pathSegment.fullmatch key ∧ key.length ≤ 64)
    (few : keys.length ≤ maxAttributeItems) :
    validateDocument (sortedBy Prod.fst values) = .ok () := by
  have fixedNodup : fixed.Nodup := sub.nodup (by decide)
  have nodup : (values.map Prod.fst).Nodup := by
    rw [paths, List.nodup_append]
    refine ⟨fixedNodup,
      distinct.map fun _ _ => attributePath_injective, ?_⟩
    intro path inFixed other inKeys same
    obtain ⟨key, _, rfl⟩ := List.mem_map.mp inKeys
    have lt := attributePath_lt_fixed key (sub.subset inFixed)
    rw [same] at lt
    exact absurd lt (lt_irrefl _)
  have perm := (sortedBy_perm Prod.fst values).map Prod.fst
  have lengths := congrArg List.length paths
  have fixedFew : fixed.length ≤ 6 := sub.length_le
  simp only [List.length_map, List.length_append] at lengths
  simp only [maxAttributeItems] at few
  simp only [validateDocument, bind_eq_ok, require_eq_ok, forM_eq_ok,
    decide_eq_true_eq, sortedBy_length, maxDocumentPaths, beq_iff_eq]
  refine ⟨(), by omega, (), ?_, (), perm.nodup_iff.mpr nodup, ?_⟩
  · intro entry member
    have inPaths : entry.1 ∈ fixed ++ keys.map attributePath := by
      rw [← paths]
      exact List.mem_map.mpr ⟨entry, mem_sortedBy.mp member, rfl⟩
    rcases List.mem_append.mp inPaths with inFixed | inKeys
    · exact requirePath_fixed (sub.subset inFixed)
    · obtain ⟨key, inside, same⟩ := List.mem_map.mp inKeys
      rw [← same]
      exact requirePath_attribute (canonical key inside).1
        (canonical key inside).2
  · exact sortedBy_of_pairwise
      (List.pairwise_map.mpr (sortedBy_pairwise Prod.fst values))

section Blocking

variable [PythonRuntime]

/-! ## Attributes -/

/-- An attribute value that becomes a text leaf. -/
def IsAttributeText (item : JsonValue) : Prop :=
  ∃ value, item = .string value ∧ Returns (normalizedLeafText value)

/-- An attribute becomes a marker exactly when it is no bounded text. -/
theorem projectAttribute_marker {item : JsonValue} {leaf : ComparisonValue}
    (projected : projectText ComparisonValue.attributeTextValue item =
      .ok leaf) :
    (leaf.isMarker ↔ ¬ IsAttributeText item) ∧
      (leaf.isMarker ∨
        ∃ value, nfc value = value ∧ leaf = .attributeText value) := by
  by_cases isText : IsAttributeText item
  · obtain ⟨value, rfl, normalized, accepted⟩ := isText
    simp only [projectText, ComparisonValue.attributeTextValue, accepted,
      Except.map, exceptValueErrors_ok, Except.ok.injEq] at projected
    subst projected
    have textual : IsAttributeText (.string value) :=
      ⟨value, rfl, normalized, accepted⟩
    simp only [textual, not_true_eq_false, iff_false]
    exact ⟨by simp [ComparisonValue.isMarker, ComparisonValue.kind],
      .inr ⟨normalized, normalizedLeafText_normal accepted, rfl⟩⟩
  · have marks : leaf.isMarker := by
      rcases projectText_form projected with marker | ⟨value, rfl, accepted⟩
      · exact marker
      · simp only [ComparisonValue.attributeTextValue, map_eq_ok] at accepted
        obtain ⟨normalized, accepts, _⟩ := accepted
        exact absurd ⟨value, rfl, normalized, accepts⟩ isText
    exact ⟨⟨fun _ => isText, fun _ => marks⟩, .inl marks⟩

/-- Without an invalid key, every item has its leaf at its own path. -/
theorem projectItems_parts {invalidKey : Option Text}
    {items : List (Text × JsonValue)} {leaves : Projection}
    (projected : projectItems invalidKey items = .ok (leaves, none)) :
    invalidKey = none ∧
      (∀ item ∈ items, pathSegment.fullmatch item.1) ∧
      leaves.map (fun entry => (entry.1, Except.ok entry.2)) =
        items.map fun item => (attributePath item.1,
          projectText ComparisonValue.attributeTextValue item.2) := by
  induction items generalizing invalidKey leaves with
  | nil =>
      cases projected
      exact ⟨rfl, by simp, rfl⟩
  | cons item rest ih =>
      obtain ⟨key, value⟩ := item
      by_cases canonical : pathSegment.fullmatch key
      · simp only [projectItems, canonicalAttributePath_of_fullmatch canonical,
          bind_eq_ok] at projected
        obtain ⟨leaf, made, ⟨later, invalid⟩, projects, same⟩ := projected
        cases same
        obtain ⟨none_, all, maps⟩ := ih projects
        refine ⟨none_, ?_, by simp [made, maps]⟩
        intro item member
        rcases List.mem_cons.mp member with rfl | inRest
        · exact canonical
        · exact all item inRest
      · -- the first invalid key is never forgotten
        simp only [projectItems, canonicalAttributePath, canonical,
          Bool.false_eq_true, if_false] at projected
        obtain ⟨impossible, _, _⟩ := ih projected
        split at impossible
        · cases impossible
        next kept =>
          subst impossible
          simp at kept

/-- Canonical keys leave no invalid key. -/
theorem projectItems_canonical {invalidKey invalid : Option Text}
    {items : List (Text × JsonValue)} {leaves : Projection}
    (canonical : ∀ item ∈ items, pathSegment.fullmatch item.1)
    (projected : projectItems invalidKey items = .ok (leaves, invalid)) :
    invalid = invalidKey := by
  induction items generalizing leaves with
  | nil =>
      cases projected
      rfl
  | cons item rest ih =>
      obtain ⟨key, value⟩ := item
      have first := canonical (key, value) List.mem_cons_self
      simp only [projectItems, canonicalAttributePath_of_fullmatch first,
        bind_eq_ok] at projected
      obtain ⟨leaf, _, ⟨later, invalid⟩, projects, same⟩ := projected
      cases same
      exact ih (fun item member =>
        canonical item (List.mem_cons_of_mem _ member)) projects

/-- What the attributes of a payload contribute to its projection. -/
inductive AttributePart (payload : Payload) (part : Projection) : Prop where
  | absent (absent : payload.lookup (text "attributes") = none)
      (empty : part = [])
  | marker (noObject : ∀ items,
        payload.lookup (text "attributes") ≠ some (.object items))
      (leaf : ComparisonValue) (marks : leaf.isMarker)
      (single : part = [(text "attributes", leaf)])
  | items (items : List (Text × JsonValue))
      (found : payload.lookup (text "attributes") = some (.object items))
      (canonical : ∀ item ∈ items, pathSegment.fullmatch item.1)
      (leaves : part.map (fun entry => (entry.1, Except.ok entry.2)) =
        (sortedBy Prod.fst items).map fun item => (attributePath item.1,
          projectText ComparisonValue.attributeTextValue item.2))

theorem projectAttributes_part {payload : Payload} {part : Projection}
    (projected : projectAttributes payload = .ok (part, none)) :
    AttributePart payload part := by
  simp only [projectAttributes] at projected
  split at projected
  next absent =>
    cases projected
    exact .absent absent rfl
  next found =>
    cases projected
    exact .marker (by simp [found]) _ rfl rfl
  next items found =>
    obtain ⟨_, canonical, leaves⟩ := projectItems_parts projected
    exact .items items found
      (fun item member => canonical item (mem_sortedBy.mpr member)) leaves
  next other found =>
    simp only [bind_eq_ok] at projected
    obtain ⟨leaf, made, same⟩ := projected
    cases same
    obtain ⟨evidence, nonempty, rfl, _⟩ :=
      ComparisonValue.wrongTypeOf_form made
    exact .marker (by simpa [found] using other) _ rfl rfl

/-- Every leaf of projected items belongs to one item. -/
theorem leaf_of_items {items : List (Text × JsonValue)} {part : Projection}
    (leaves : part.map (fun entry => (entry.1, Except.ok entry.2)) =
      (sortedBy Prod.fst items).map fun item => (attributePath item.1,
        projectText ComparisonValue.attributeTextValue item.2))
    {entry : Text × ComparisonValue} (member : entry ∈ part) :
    ∃ item ∈ items, entry.1 = attributePath item.1 ∧
      projectText ComparisonValue.attributeTextValue item.2 =
        .ok entry.2 := by
  have image : (entry.1, Except.ok entry.2) ∈
      (sortedBy Prod.fst items).map fun item => (attributePath item.1,
        projectText ComparisonValue.attributeTextValue item.2) := by
    rw [← leaves]
    exact List.mem_map.mpr ⟨entry, member, rfl⟩
  obtain ⟨item, inside, same⟩ := List.mem_map.mp image
  obtain ⟨path, leaf⟩ := Prod.mk.inj same
  exact ⟨item, mem_sortedBy.mp inside, path.symm, leaf⟩

theorem item_has_leaf {items : List (Text × JsonValue)} {part : Projection}
    (leaves : part.map (fun entry => (entry.1, Except.ok entry.2)) =
      (sortedBy Prod.fst items).map fun item => (attributePath item.1,
        projectText ComparisonValue.attributeTextValue item.2))
    {item : Text × JsonValue} (member : item ∈ items) :
    ∃ entry ∈ part, entry.1 = attributePath item.1 ∧
      projectText ComparisonValue.attributeTextValue item.2 =
        .ok entry.2 := by
  have image : (attributePath item.1,
      projectText ComparisonValue.attributeTextValue item.2) ∈
      part.map (fun entry => (entry.1, Except.ok entry.2)) := by
    rw [leaves]
    exact List.mem_map.mpr ⟨item, mem_sortedBy.mpr member, rfl⟩
  obtain ⟨entry, inside, same⟩ := List.mem_map.mp image
  obtain ⟨path, leaf⟩ := Prod.mk.inj same
  exact ⟨entry, inside, path, leaf.symm⟩

/-! ## Payloads that block -/

/-- The least key of a marker attribute is too long for a field path. -/
def LongMarker (items : List (Text × JsonValue)) : Prop :=
  (∀ item ∈ items, pathSegment.fullmatch item.1) ∧
    ∃ item ∈ items, ¬ IsAttributeText item.2 ∧ 85 < item.1.length ∧
      ∀ other ∈ items, ¬ IsAttributeText other.2 → item.1 ≤ other.1

/-- The payloads on which a rule, or the quarantine, raises. -/
inductive BlockingPayload (payload : Payload) : Prop where
  | surrogateKey (lone : ¬ KeyEncodes payload)
  | hugeQuantity (few : payload.length ≤ maxPayloadFields) (number : Int)
      (found : payload.lookup (text "quantity") = some (.int number))
      (outside : ¬ isInt64 number)
  | deepLeaf (few : payload.length ≤ maxPayloadFields) (value : JsonValue)
      (member : value ∈ projectedValues payload) (deep : TooDeep value)
  | longMarker (few : payload.length ≤ maxPayloadFields)
      (items : List (Text × JsonValue))
      (found : payload.lookup (text "attributes") = some (.object items))
      (long : LongMarker items)

/-- The observation aborts every batch it is part of. -/
def SourceObservation.Blocks (observation : SourceObservation) : Prop :=
  match observation.payload with
  | .malformed .. => False
  | .mapping payload _ => BlockingPayload payload

/-- The first marker of a projection has a path that quarantine can hold. -/
def MarkerFits (projection : Projection) : Prop :=
  ∀ first, (sortedBy Prod.fst projection).find? (·.2.isMarker) = some first →
    FieldFits first.1

theorem markerQuarantine_returns {observation : SourceObservation}
    (encodes : observation.KeyEncodes) {projection : Projection} :
    Returns (markerQuarantine observation projection) ↔
      MarkerFits projection := by
  simp only [markerQuarantine, MarkerFits]
  cases found : (sortedBy Prod.fst projection).find? (·.2.isMarker) with
  | none => simp [Returns]
  | some first =>
      simp only [Option.some.injEq, forall_eq']
      split <;>
        simp only [returns_fmap, quarantine_returns, encodes, true_and]

/-- A payload whose first marker does not fit has a long marker. -/
theorem markerFits_iff {payload : Payload} {projection : Projection}
    (projected : projectPayload payload = .ok (projection, none)) :
    MarkerFits projection ↔
      ¬ ∃ items, payload.lookup (text "attributes") = some (.object items) ∧
        LongMarker items := by
  obtain ⟨fixed, attributes, rfl, fixedPart, projectsAttributes⟩ :=
    projectPayload_parts projected
  have part := projectAttributes_part projectsAttributes
  have inFixed : ∀ entry ∈ fixed, entry.1 ∈ fixedPaths := fun entry member =>
    fixedPart.paths.subset (List.mem_map.mpr ⟨entry, member, rfl⟩)
  constructor
  · rintro fits ⟨items, found, canonical, ⟨key, value⟩, member, marks, long,
      least⟩
    cases part with
    | absent absent _ =>
        rw [absent] at found
        cases found
    | marker noObject _ _ _ => exact noObject items found
    | items others foundOthers _ leaves =>
        obtain rfl : items = others := by
          rw [found] at foundOthers
          cases foundOthers
          rfl
        obtain ⟨entry, entryMember, entryPath, entryLeaf⟩ :=
          item_has_leaf leaves member
        have entryMarks := (projectAttribute_marker entryLeaf).1.mpr marks
        have some_ : ((sortedBy Prod.fst (fixed ++ attributes)).find?
            (·.2.isMarker)).isSome :=
          List.find?_isSome.mpr ⟨entry, mem_sortedBy.mpr
            (List.mem_append_right fixed entryMember), entryMarks⟩
        obtain ⟨first, isFirst⟩ := Option.isSome_iff_exists.mp some_
        obtain ⟨firstMember, firstMarks, firstLeast⟩ := find?_sortedBy isFirst
        have below := firstLeast entry
          (List.mem_append_right fixed entryMember) entryMarks
        rw [entryPath] at below
        rcases List.mem_append.mp firstMember with inFirst | inAttributes
        · exact absurd below (not_le.mpr
            (attributePath_lt_fixed key (inFixed first inFirst)))
        · obtain ⟨item, inside, path, leaf⟩ :=
            leaf_of_items leaves inAttributes
          rw [path] at below
          have same : item.1 = key := le_antisymm (attributePath_le.mp below)
            (least item inside ((projectAttribute_marker leaf).1.mp firstMarks))
          have fit := fits first isFirst
          rw [path, attributePath_fits (canonical item inside), same] at fit
          exact absurd long (by simpa using fit)
  · intro short first found
    obtain ⟨member, marks, least⟩ := find?_sortedBy found
    rcases List.mem_append.mp member with inFirst | inAttributes
    · exact fixedPath_fits (inFixed first inFirst)
    · cases part with
      | absent _ empty =>
          rw [empty] at inAttributes
          cases inAttributes
      | marker _ leaf _ single =>
          rw [single, List.mem_singleton] at inAttributes
          subst inAttributes
          show FieldFits (text "attributes")
          exact ⟨by decide, by decide, by decide⟩
      | items items foundItems canonical leaves =>
          obtain ⟨item, inside, path, leaf⟩ :=
            leaf_of_items leaves inAttributes
          rw [path, attributePath_fits (canonical item inside)]
          by_contra long
          refine short ⟨items, foundItems, canonical, item, inside,
            (projectAttribute_marker leaf).1.mp marks, by omega, ?_⟩
          intro other otherInside otherMarks
          obtain ⟨entry, entryMember, entryPath, entryLeaf⟩ :=
            item_has_leaf leaves otherInside
          have above := least entry (List.mem_append_right _ entryMember)
            ((projectAttribute_marker entryLeaf).1.mpr otherMarks)
          rw [path, entryPath] at above
          exact attributePath_le.mp above

/-! ## Leaves after the quarantine checks -/

/-- The leaves that the record is created from are present and typed. -/
structure Complete (projection : Projection) : Prop where
  name : ∃ value, projection.lookup (text "name") = some (.text value)
  quantity : ∃ number inRange,
    projection.lookup (text "quantity") = some (.integer number inRange)
  updatedAt : ∃ value,
    projection.lookup (text "updated_at") = some (.text value)
  currency : ∃ value,
    projection.lookup (text "unit_price/currency") = some (.text value)
  amount : ∃ value,
    projection.lookup (text "unit_price/amount") = some (.text value)

/-- A projection that passed the marker check has no markers. -/
theorem markerQuarantine_none {observation : SourceObservation}
    {projection : Projection}
    (passed : markerQuarantine observation projection = .ok none) :
    ∀ entry ∈ projection, entry.2.isMarker = false := by
  simp only [markerQuarantine] at passed
  split at passed
  next none_ =>
    intro entry member
    have rejected := List.find?_eq_none.mp none_ entry
      (mem_sortedBy.mpr member)
    simpa using rejected
  · split at passed
    · obtain ⟨_, _, impossible⟩ := fmap_eq_ok.mp passed
      cases impossible
    · obtain ⟨_, _, impossible⟩ := fmap_eq_ok.mp passed
      cases impossible

theorem attributeLeaves_of_part {payload : Payload} {part : Projection}
    (attributes : AttributePart payload part)
    (unmarked : ∀ entry ∈ part, entry.2.isMarker = false) :
    AttributeLeaves part := by
  intro entry member
  cases attributes with
  | absent _ empty =>
      rw [empty] at member
      cases member
  | marker _ leaf marks single =>
      rw [single, List.mem_singleton] at member
      have plain := unmarked entry (by simp [single, member])
      rw [member] at plain
      simp [marks] at plain
  | items items _ canonical leaves =>
      obtain ⟨item, inside, path, leaf⟩ := leaf_of_items leaves member
      rcases (projectAttribute_marker leaf).2 with marks |
        ⟨value, normal, form⟩
      · simp [unmarked entry member] at marks
      · exact ⟨item.1, value, canonical item inside, normal,
          Prod.ext path form⟩

/-- Without markers and absences, a projection is complete. -/
theorem complete_of_checks {fixed attributes : Projection}
    (fixedPart : FixedPart fixedPaths fixed)
    (leaves : AttributeLeaves attributes)
    (unmarked : ∀ entry ∈ fixed, entry.2.isMarker = false)
    (present : missingPath (fixed ++ attributes) = none) :
    Complete (fixed ++ attributes) := by
  obtain ⟨name, quantity, updated, currency, amount⟩ :=
    missingPath_none present
  have inFixed {path : Text} {leaf : ComparisonValue}
      (known : path ∈ fixedPaths)
      (found : (fixed ++ attributes).lookup path = some leaf) :
      (path, leaf) ∈ fixed := by
    rcases List.mem_append.mp (mem_of_lookup found) with member | member
    · exact member
    · obtain ⟨key, _, _, _, same⟩ := leaves _ member
      have lt := attributePath_lt_fixed key known
      rw [(Prod.mk.inj same).1] at lt
      exact absurd lt (lt_irrefl _)
  have textual {path : Text} (known : path ∈ fixedPaths)
      (other : path ≠ text "quantity")
      (isSome : ((fixed ++ attributes).lookup path).isSome) :
      ∃ value, (fixed ++ attributes).lookup path = some (.text value) := by
    obtain ⟨leaf, found⟩ := Option.isSome_iff_exists.mp isSome
    have member := inFixed known found
    rcases fixedPart.typed _ member with marks | ⟨same, _⟩ |
      ⟨_, value, _, form⟩
    · simp [unmarked _ member] at marks
    · exact absurd same other
    · exact ⟨value, found.trans (congrArg some form)⟩
  refine ⟨textual (by decide) (by decide) name, ?_,
    textual (by decide) (by decide) updated,
    textual (by decide) (by decide) currency,
    textual (by decide) (by decide) amount⟩
  obtain ⟨leaf, found⟩ := Option.isSome_iff_exists.mp quantity
  have member := inFixed (by decide) found
  rcases fixedPart.typed _ member with marks | ⟨_, number, inRange, form⟩ |
    ⟨impossible, _⟩
  · simp [unmarked _ member] at marks
  · exact ⟨number, inRange, found.trans (congrArg some form)⟩
  · exact absurd impossible (show text "quantity" ∉ textPaths by decide)

/-! ## Stages of one observation -/

/-- The entry is one of the observation, whose key was encoded. -/
def SourceObservation.Owns (observation : SourceObservation)
    (entry : NormalizationEntry) : Prop :=
  observation.KeyEncodes ∧ entry.position = observation.position

theorem quarantine_owned {observation : SourceObservation}
    {code : QuarantineCode} {field detail : Text}
    {found : QuarantinedObservation}
    (returned : quarantine observation code field detail = .ok found) :
    observation.Owns (.quarantined found) :=
  ⟨(quarantine_returns.mp ⟨found, returned⟩).1, quarantine_position returned⟩

theorem provenanceField_owned {observation : SourceObservation}
    {payload : Payload} {name : String}
    {result : Option QuarantinedObservation}
    (returned : provenanceField observation payload name = .ok result) :
    (result = none ∧ ∃ value,
        payload.lookup (text name) = some (.string value)) ∨
      ∃ found, result = some found ∧
        observation.Owns (.quarantined found) := by
  simp only [provenanceField] at returned
  split at returned
  next value present =>
    cases returned
    exact .inl ⟨rfl, value, present⟩
  all_goals
    obtain ⟨found, quarantines, rfl⟩ := fmap_eq_ok.mp returned
    exact .inr ⟨found, rfl, quarantine_owned quarantines⟩

theorem provenanceField_returns {observation : SourceObservation}
    (encodes : observation.KeyEncodes) (payload : Payload) {name : String}
    (fits : FieldFits (text name)) :
    Returns (provenanceField observation payload name) := by
  simp only [provenanceField]
  split
  · exact .ok _
  all_goals exact returns_fmap.mpr (quarantine_returns.mpr ⟨encodes, fits⟩)

theorem provenanceQuarantine_owned {observation : SourceObservation}
    {payload : Payload} {result : Option QuarantinedObservation}
    (returned : provenanceQuarantine observation payload = .ok result) :
    (result = none ∧
        (∃ sku, payload.lookup (text "sku") = some (.string sku)) ∧
        ∃ key, payload.lookup (text "source_record_key") =
          some (.string key)) ∨
      ∃ found, result = some found ∧
        observation.Owns (.quarantined found) := by
  simp only [provenanceQuarantine, bind_eq_ok] at returned
  obtain ⟨first, firstReturned, rest⟩ := returned
  rcases provenanceField_owned firstReturned with
    ⟨rfl, sku⟩ | ⟨found, rfl, owned⟩
  · rcases provenanceField_owned rest with ⟨rfl, key⟩ | owned
    · exact .inl ⟨rfl, sku, key⟩
    · exact .inr owned
  · cases rest
    exact .inr ⟨found, rfl, owned⟩

theorem provenanceQuarantine_returns {observation : SourceObservation}
    (encodes : observation.KeyEncodes) (payload : Payload) :
    Returns (provenanceQuarantine observation payload) := by
  apply Returns.bind (provenanceField_returns encodes payload
    ⟨by decide, by decide, by decide⟩)
  intro first _
  cases first with
  | some found => exact .ok _
  | none =>
      exact provenanceField_returns encodes payload
        ⟨by decide, by decide, by decide⟩

theorem markerQuarantine_owned {observation : SourceObservation}
    {projection : Projection} {found : QuarantinedObservation}
    (returned : markerQuarantine observation projection =
      .ok (some found)) :
    observation.Owns (.quarantined found) := by
  simp only [markerQuarantine] at returned
  split at returned
  · cases returned
  · split at returned <;>
    · obtain ⟨_, quarantines, same⟩ := fmap_eq_ok.mp returned
      cases same
      exact quarantine_owned quarantines

theorem requiredQuarantine_owned {observation : SourceObservation}
    {projection : Projection} {result : Option QuarantinedObservation}
    (returned : requiredQuarantine observation projection = .ok result) :
    (result = none ∧ missingPath projection = none) ∨
      ∃ found, result = some found ∧
        observation.Owns (.quarantined found) := by
  simp only [requiredQuarantine] at returned
  split at returned
  next complete =>
    cases returned
    exact .inl ⟨rfl, complete⟩
  · obtain ⟨found, quarantines, rfl⟩ := fmap_eq_ok.mp returned
    exact .inr ⟨found, rfl, quarantine_owned quarantines⟩

theorem requiredQuarantine_returns {observation : SourceObservation}
    (encodes : observation.KeyEncodes) (projection : Projection) :
    Returns (requiredQuarantine observation projection) := by
  simp only [requiredQuarantine]
  split
  · exact .ok _
  next path missing =>
    apply returns_fmap.mpr (quarantine_returns.mpr ⟨encodes, ?_⟩)
    apply fixedPath_fits
    simp only [missingPath] at missing
    repeat' split at missing
    all_goals
      cases missing
      try decide

/-! ## Parsing -/

omit [PythonRuntime] in
theorem tryMoney_returns (value : Text) : Returns (tryMoney value) := by
  have raises : RaisesOnlyValueErrors ((Money.parse value).map some) := by
    intro error raised
    simp only [Except.map] at raised
    split at raised
    next rejected =>
      cases raised
      exact Money.parse_raises value _ rejected
    next => cases raised
  rcases raises.exceptValueErrors (.ok none) with
    ⟨money, _, returned⟩ | returned
  · exact ⟨money, returned⟩
  · exact ⟨none, returned⟩

omit [PythonRuntime] in
theorem parseMoney_returns (currency amount : Text) :
    Returns (parseMoney currency amount) := by
  apply Returns.bind (tryMoney_returns _)
  intro currencyMoney _
  apply Returns.bind (tryMoney_returns _)
  intro amountMoney _
  split
  · exact .ok _
  · exact Returns.bind (tryMoney_returns _) fun _ _ => .ok _

omit [PythonRuntime] in
theorem parseMoney_parses {currency amount : Text}
    {currencyMoney money : Money}
    (parsed : parseMoney currency amount =
      .ok (some currencyMoney, some money)) :
    Money.parse (currency ++ point ' ' :: amount) = .ok money := by
  simp only [parseMoney, bind_eq_ok] at parsed
  obtain ⟨first, _, second, _, parsed⟩ := parsed
  split at parsed
  next missing =>
    cases parsed
    cases missing
  next =>
    simp only [bind_eq_ok] at parsed
    obtain ⟨combined, tried, same⟩ := parsed
    cases same
    simp only [tryMoney, exceptValueErrors] at tried
    split at tried
    next found accepted =>
      cases tried
      obtain ⟨money, parses, same⟩ := map_eq_ok.mp accepted
      cases same
      exact parses
    next =>
      split at tried <;> cases tried

/-- The money leaf is parsed, or its observation is quarantined. -/
theorem resolveAmount_cases (observation : SourceObservation)
    {projection : Projection} {currency amount : Text}
    (currencyLeaf : projection.lookup (text "unit_price/currency") =
      some (.text currency))
    (amountLeaf : projection.lookup (text "unit_price/amount") =
      some (.text amount)) :
    (∃ money, Money.parse (currency ++ point ' ' :: amount) = .ok money ∧
        resolveAmount observation projection =
          .ok (.ok (storeLeaf "unit_price/amount" (.moneyAmount money)
            projection))) ∨
      ∃ code field detail, text field ∈ fixedPaths ∧
        resolveAmount observation projection =
          .error <$> quarantine observation code (text field) detail := by
  obtain ⟨parsed, parses⟩ := parseMoney_returns currency amount
  have read : readText projection "unit_price/currency" = .ok currency := by
    simp only [readText, currencyLeaf, Option.bind_some,
      ComparisonValue.leafText]
  simp only [resolveAmount, read, ok_bind, amountLeaf, parses]
  rcases parsed with ⟨_ | currencyMoney, amountMoney⟩
  · exact .inr ⟨_, "unit_price/currency", _, by decide, rfl⟩
  · cases amountMoney with
    | none => exact .inr ⟨_, "unit_price/amount", _, by decide, rfl⟩
    | some money => exact .inl ⟨money, parseMoney_parses parses, rfl⟩

theorem resolveTimestamp_cases (observation : SourceObservation)
    {projection : Projection} {value : Text}
    (leaf : projection.lookup (text "updated_at") = some (.text value)) :
    (∃ parsed, resolveTimestamp observation projection =
        .ok (.ok (storeLeaf "updated_at" (.timestamp parsed)
          projection))) ∨
      ∃ code field detail, text field ∈ fixedPaths ∧
        resolveTimestamp observation projection =
          .error <$> quarantine observation code (text field) detail := by
  simp only [resolveTimestamp, leaf]
  cases parses : UtcTimestamp.parse value with
  | ok parsed => exact .inl ⟨parsed, rfl⟩
  | error error =>
      have caught := UtcTimestamp.parse_raises value error parses
      simp only [Except.map, exceptValueErrors, caught, if_true]
      exact .inr ⟨_, "updated_at", _, by decide, rfl⟩

/-! ## Records -/

theorem probeInvalidField_returns (arguments : RecordArguments) :
    ∃ field, probeInvalidField arguments = .ok field ∧
      FieldFits (text field) := by
  have rejects (probe : RecordArguments) : Returns (probeRejects probe) := by
    have raises : RaisesOnlyValueErrors
        ((InventoryRecord.create probe).map fun _ => false) := by
      intro error raised
      simp only [Except.map] at raised
      split at raised
      next rejected =>
        cases raised
        exact InventoryRecord.create_raises probe _ rejected
      next => cases raised
    rcases raises.exceptValueErrors (.ok true) with
      ⟨answer, _, returned⟩ | returned
    · exact ⟨answer, returned⟩
    · exact ⟨true, returned⟩
  have first (probes : List (String × RecordArguments))
      (fits : ∀ probe ∈ probes, FieldFits (text probe.1)) :
      ∃ field, firstRejected probes = .ok field ∧ FieldFits (text field) := by
    induction probes with
    | nil => exact ⟨"record", rfl, by decide, by decide, by decide⟩
    | cons probe rest ih =>
        obtain ⟨answer, returned⟩ := rejects probe.2
        cases answer with
        | true =>
            exact ⟨probe.1, by simp [firstRejected, returned, pure,
              Except.pure], fits probe List.mem_cons_self⟩
        | false =>
            obtain ⟨field, found, fit⟩ := ih fun probe member =>
              fits probe (List.mem_cons_of_mem _ member)
            exact ⟨field, by simp [firstRejected, returned, found], fit⟩
  have fits : ∀ name ∈ ["sku", "name", "quantity", "source_record_key",
      "attributes"], FieldFits (text name) := by
    intro name member
    simp only [List.mem_cons, List.not_mem_nil, or_false] at member
    rcases member with rfl | rfl | rfl | rfl | rfl <;>
      exact ⟨by decide, by decide, by decide⟩
  apply first
  intro probe member
  apply fits
  simp only [List.mem_cons, List.not_mem_nil, or_false] at member
  rcases member with rfl | rfl | rfl | rfl | rfl <;> simp

/-- The paths of a projection and the keys of its attribute leaves. -/
structure Arranged (projection : Projection) (fixed keys : List Text) :
    Prop where
  known : fixed.Sublist fixedPaths
  paths : projection.map Prod.fst = fixed ++ keys.map attributePath
  distinct : keys.Nodup
  attributes : keys.Sublist ((attributeItems projection).map Prod.fst)

theorem createRecord_owned {observation : SourceObservation}
    {payload : Payload} {distinct}
    (carried : observation.payload = .mapping payload distinct)
    {projection : Projection} {entry : NormalizationEntry}
    (returned : createRecord observation payload projection = .ok entry) :
    observation.Owns entry := by
  simp only [createRecord, bind_eq_ok] at returned
  obtain ⟨arguments, reads, returned⟩ := returned
  split at returned
  next record created =>
    simp only [bind_eq_ok] at returned
    obtain ⟨document, _, same⟩ := returned
    cases same
    refine ⟨?_, rfl⟩
    simp only [SourceObservation.KeyEncodes, carried]
    intro key found
    have unicode := InventoryRecord.create_unicode created
    simp only [recordArguments] at reads
    split at reads
    next key' _ _ _ _ _ _ found' =>
      cases reads
      rw [found] at found'
      cases found'
      exact unicode
    next => cases reads
  next error _ =>
    split at returned
    · simp only [bind_eq_ok] at returned
      obtain ⟨field, _, quarantines⟩ := returned
      obtain ⟨found, held, rfl⟩ := fmap_eq_ok.mp quarantines
      exact quarantine_owned held
    · cases returned

theorem createRecord_returns {observation : SourceObservation}
    (encodes : observation.KeyEncodes) {payload : Payload}
    {projection : Projection} {arguments : RecordArguments}
    (reads : recordArguments observation payload projection = .ok arguments)
    (items : arguments.attributes = attributeItems projection)
    {fixed keys : List Text} (arranged : Arranged projection fixed keys) :
    Returns (createRecord observation payload projection) := by
  simp only [createRecord, reads, ok_bind]
  cases created : InventoryRecord.create arguments with
  | ok record =>
      have accepts :=
        (InventoryRecord.create_eq_ok created).2.2.2.2.2.2.2
      obtain ⟨few, canonical⟩ := canonicalAttributes_input accepts
      rw [items] at few canonical
      have fewKeys : keys.length ≤ maxAttributeItems := by
        have shorter := arranged.attributes.length_le
        rw [List.length_map] at shorter
        omega
      have valid := validateDocument_sorted arranged.known arranged.paths
        arranged.distinct
        (fun key member => canonical key (arranged.attributes.subset member))
        fewKeys
      have document : ComparisonDocument.create (sortedBy Prod.fst projection) =
          .ok ⟨_, valid⟩ :=
        ComparisonDocument.create_eq_ok.mpr ⟨valid, rfl⟩
      simp only [document, ok_bind]
      exact .ok _
  | error error =>
      obtain ⟨field, probes, fits⟩ := probeInvalidField_returns arguments
      have caught := InventoryRecord.create_raises arguments error created
      simp only [caught, if_true, probes, ok_bind]
      exact returns_fmap.mpr (quarantine_returns.mpr ⟨encodes, fits⟩)

theorem normalizeProjection_owned {observation : SourceObservation}
    {payload : Payload} {distinct}
    (carried : observation.payload = .mapping payload distinct)
    {projection : Projection} (complete : Complete projection)
    {entry : NormalizationEntry}
    (returned : normalizeProjection observation payload projection =
      .ok entry) :
    observation.Owns entry := by
  obtain ⟨currency, currencyLeaf⟩ := complete.currency
  obtain ⟨amount, amountLeaf⟩ := complete.amount
  obtain ⟨updated, updatedLeaf⟩ := complete.updatedAt
  simp only [normalizeProjection, bind_eq_ok] at returned
  obtain ⟨priced, pricing, returned⟩ := returned
  rcases resolveAmount_cases observation currencyLeaf amountLeaf with
    ⟨money, _, priced'⟩ | ⟨code, field, detail, _, quarantines⟩
  · rw [priced'] at pricing
    cases pricing
    simp only [bind_eq_ok] at returned
    obtain ⟨parsed, parsing, returned⟩ := returned
    have leaf : (storeLeaf "unit_price/amount" (.moneyAmount money)
        projection).lookup (text "updated_at") = some (.text updated) :=
      (lookup_storeLeaf_ne (by decide)).trans updatedLeaf
    rcases resolveTimestamp_cases observation leaf with
      ⟨timestamp, parsed'⟩ | ⟨code, field, detail, _, quarantines⟩
    · rw [parsed'] at parsing
      cases parsing
      exact createRecord_owned carried returned
    · rw [quarantines] at parsing
      obtain ⟨found, held, rfl⟩ := fmap_eq_ok.mp parsing
      cases returned
      exact quarantine_owned held
  · rw [quarantines] at pricing
    obtain ⟨found, held, rfl⟩ := fmap_eq_ok.mp pricing
    cases returned
    exact quarantine_owned held

/-- A stage that quarantines at a known path ends the observation. -/
theorem quarantine_ends {observation : SourceObservation}
    (encodes : observation.KeyEncodes) {code : QuarantineCode}
    {field : String} {detail : Text} (known : text field ∈ fixedPaths)
    {stage : Except PythonError (Except QuarantinedObservation Projection)}
    (quarantines : stage =
      .error <$> quarantine observation code (text field) detail) :
    ∃ found, stage = .ok (.error found) := by
  have returned : Returns (quarantine observation code (text field) detail) :=
    quarantine_returns.mpr ⟨encodes, fixedPath_fits known⟩
  obtain ⟨found, held⟩ := returned
  exact ⟨found, by rw [quarantines, held]; rfl⟩

theorem normalizeProjection_returns {observation : SourceObservation}
    (encodes : observation.KeyEncodes) {payload : Payload}
    {fixed attributes : Projection} {keys : List Text}
    (complete : Complete (fixed ++ attributes))
    (fixedPart : FixedPart fixedPaths fixed)
    (leaves : AttributeLeaves attributes)
    (keyed : attributes.map Prod.fst = keys.map attributePath)
    (distinct : keys.Nodup)
    (sku : ∃ sku, payload.lookup (text "sku") = some (.string sku))
    (key : ∃ key, payload.lookup (text "source_record_key") =
      some (.string key)) :
    Returns (normalizeProjection observation payload
      (fixed ++ attributes)) := by
  obtain ⟨currency, currencyLeaf⟩ := complete.currency
  obtain ⟨amount, amountLeaf⟩ := complete.amount
  obtain ⟨updated, updatedLeaf⟩ := complete.updatedAt
  obtain ⟨name, nameLeaf⟩ := complete.name
  obtain ⟨number, inRange, quantityLeaf⟩ := complete.quantity
  obtain ⟨sku, skuField⟩ := sku
  obtain ⟨key, keyField⟩ := key
  simp only [normalizeProjection]
  rcases resolveAmount_cases observation currencyLeaf amountLeaf with
    ⟨money, _, priced⟩ | ⟨code, field, detail, known, quarantines⟩
  case inr =>
    obtain ⟨found, ended⟩ := quarantine_ends encodes known quarantines
    simp only [ended, ok_bind]
    exact .ok _
  simp only [priced, ok_bind]
  have stillUpdated : (storeLeaf "unit_price/amount" (.moneyAmount money)
      (fixed ++ attributes)).lookup (text "updated_at") =
        some (.text updated) :=
    (lookup_storeLeaf_ne (by decide)).trans updatedLeaf
  rcases resolveTimestamp_cases observation stillUpdated with
    ⟨timestamp, parsed⟩ | ⟨code, field, detail, known, quarantines⟩
  case inr =>
    obtain ⟨found, ended⟩ := quarantine_ends encodes known quarantines
    simp only [ended, ok_bind]
    exact .ok _
  simp only [parsed, ok_bind]
  have amountStored := lookup_parsedLeaves_amount money timestamp amountLeaf
  have updatedStored :=
    lookup_parsedLeaves_updated money timestamp updatedLeaf
  have nameStored : (parsedLeaves money timestamp
      (fixed ++ attributes)).lookup (text "name") = some (.text name) :=
    (lookup_parsedLeaves_ne (by decide) (by decide)).trans nameLeaf
  have quantityStored : (parsedLeaves money timestamp
      (fixed ++ attributes)).lookup (text "quantity") =
        some (.integer number inRange) :=
    (lookup_parsedLeaves_ne (by decide) (by decide)).trans quantityLeaf
  have reads : recordArguments observation payload
      (parsedLeaves money timestamp (fixed ++ attributes)) =
      .ok
        { sku, name
          quantity := number
          unitPrice := money
          updatedAt := timestamp
          connectorId := observation.connectorId
          sourceRecordKey := key
          attributes := attributeItems
            (parsedLeaves money timestamp (fixed ++ attributes)) } := by
    simp only [recordArguments, skuField, nameStored, quantityStored,
      amountStored, updatedStored, keyField]
  have arranged : Arranged
      (parsedLeaves money timestamp (fixed ++ attributes))
      (fixed.map Prod.fst) keys := by
    refine ⟨fixedPart.paths, ?_, distinct, ?_⟩
    · rw [parsedLeaves_paths, List.map_append, keyed]
    · obtain ⟨before, items⟩ :=
        attributeItems_parsedLeaves money timestamp fixed leaves
      have itemKeys : (attributeItems attributes).map Prod.fst = keys :=
        List.map_injective_iff.mpr (fun _ _ => attributePath_injective)
          ((attributeItems_leaves leaves).trans keyed)
      rw [items, List.map_append, itemKeys]
      exact List.sublist_append_right _ _
  exact createRecord_returns encodes reads rfl arranged

/-! ## Observations -/

theorem normalizePayload_owned {observation : SourceObservation}
    {payload : Payload} {distinct}
    (carried : observation.payload = .mapping payload distinct)
    {entry : NormalizationEntry}
    (returned : normalizePayload observation payload = .ok entry) :
    observation.Owns entry := by
  simp only [normalizePayload, bind_eq_ok] at returned
  obtain ⟨⟨projection, invalidKey⟩, projected, returned⟩ := returned
  cases invalidKey with
  | some key =>
      obtain ⟨found, held, rfl⟩ := fmap_eq_ok.mp returned
      exact quarantine_owned held
  | none =>
      simp only [bind_eq_ok] at returned
      obtain ⟨provenance, provenanceReturned, marker, markerReturned,
        required, requiredReturned, returned⟩ := returned
      rcases provenanceQuarantine_owned provenanceReturned with
        ⟨rfl, _, _⟩ | ⟨found, rfl, owned⟩
      case inr =>
        cases returned
        exact owned
      cases marker with
      | some found =>
          cases returned
          exact markerQuarantine_owned markerReturned
      | none =>
          rcases requiredQuarantine_owned requiredReturned with
            ⟨rfl, complete⟩ | ⟨found, rfl, owned⟩
          · obtain ⟨fixed, attributes, rfl, fixedPart, projects⟩ :=
              projectPayload_parts projected
            have unmarked := markerQuarantine_none markerReturned
            have leaves := attributeLeaves_of_part
              (projectAttributes_part projects)
              (fun entry member => unmarked entry
                (List.mem_append_right _ member))
            exact normalizeProjection_owned carried
              (complete_of_checks fixedPart leaves
                (fun entry member => unmarked entry
                  (List.mem_append_left _ member)) complete) returned
          · cases returned
            exact owned

/-- What an observation becomes is its own, and its key was encoded. -/
theorem normalizeObservation_owned {observation : SourceObservation}
    {entry : NormalizationEntry}
    (returned : normalizeObservation observation = .ok entry) :
    observation.Owns entry := by
  simp only [normalizeObservation] at returned
  split at returned
  · obtain ⟨found, held, rfl⟩ := fmap_eq_ok.mp returned
    exact quarantine_owned held
  next carried =>
    split at returned
    · obtain ⟨found, held, rfl⟩ := fmap_eq_ok.mp returned
      exact quarantine_owned held
    · exact normalizePayload_owned carried returned

/-- The attribute leaves of a payload have distinct keys. -/
theorem attributePart_keys {payload : Payload} {part : Projection}
    (distinct : (JsonValue.object payload).keysDistinct)
    (attributes : AttributePart payload part)
    (leaves : AttributeLeaves part) :
    ∃ keys : List Text,
      part.map Prod.fst = keys.map attributePath ∧ keys.Nodup := by
  cases attributes with
  | absent _ empty => exact ⟨[], by rw [empty]; rfl, List.nodup_nil⟩
  | marker _ leaf marks single =>
      obtain ⟨key, value, _, _, same⟩ :=
        leaves (text "attributes", leaf) (by simp [single])
      rw [(Prod.mk.inj same).2] at marks
      cases marks
  | items items found _ forms =>
      refine ⟨(sortedBy Prod.fst items).map Prod.fst, ?_, ?_⟩
      · have paths := congrArg (List.map Prod.fst) forms
        simpa only [List.map_map, Function.comp_def] using paths
      · simp only [JsonValue.keysDistinct, Bool.and_eq_true,
          JsonValue.keysDistinctFields_iff] at distinct
        have nested := distinct.2 _ (mem_of_lookup found)
        simp only [JsonValue.keysDistinct, Bool.and_eq_true,
          decide_eq_true_eq] at nested
        exact ((sortedBy_perm Prod.fst items).map Prod.fst).nodup_iff.mpr
          nested.1

/-- A payload of few fields is normalized unless it blocks. -/
theorem normalizePayload_returns {observation : SourceObservation}
    {payload : Payload} {distinct}
    (carried : observation.payload = .mapping payload distinct)
    (few : payload.length ≤ maxPayloadFields) :
    Returns (normalizePayload observation payload) ↔
      ¬ BlockingPayload payload := by
  constructor
  · rintro ⟨entry, returned⟩ blocks
    have owned := (normalizePayload_owned carried returned).1
    simp only [SourceObservation.KeyEncodes, carried] at owned
    simp only [normalizePayload, bind_eq_ok] at returned
    obtain ⟨⟨projection, invalidKey⟩, projected, returned⟩ := returned
    obtain ⟨inside, shallow⟩ :=
      (projectPayload_returns payload).mp ⟨_, projected⟩
    cases blocks with
    | surrogateKey lone => exact lone owned
    | hugeQuantity _ number found outside => exact outside (inside _ found)
    | deepLeaf _ value member deep => exact shallow value member deep
    | longMarker _ items found long =>
        obtain ⟨fixed, attributes, rfl, _, projects⟩ :=
          projectPayload_parts projected
        have valid : invalidKey = none := by
          simp only [projectAttributes, found] at projects
          exact projectItems_canonical (fun item member =>
            long.1 item (mem_sortedBy.mp member)) projects
        subst valid
        simp only [bind_eq_ok] at returned
        obtain ⟨_, _, marker, markerReturned, _⟩ := returned
        have encodes : observation.KeyEncodes := by
          simpa only [SourceObservation.KeyEncodes, carried] using owned
        exact (markerFits_iff projected).mp
          ((markerQuarantine_returns encodes).mp ⟨marker, markerReturned⟩)
          ⟨items, found, long⟩
  · intro passes
    have encodes : observation.KeyEncodes := by
      simp only [SourceObservation.KeyEncodes, carried]
      by_contra lone
      exact passes (.surrogateKey lone)
    have projects : Returns (projectPayload payload) := by
      rw [projectPayload_returns]
      constructor
      · intro number found
        by_contra outside
        exact passes (.hugeQuantity few number found outside)
      · intro value member deep
        exact passes (.deepLeaf few value member deep)
    obtain ⟨⟨projection, invalidKey⟩, projected⟩ := projects
    simp only [normalizePayload, projected, ok_bind]
    cases invalidKey with
    | some key =>
        exact returns_fmap.mpr (quarantine_returns.mpr
          ⟨encodes, by decide, by decide, by decide⟩)
    | none =>
        have fits : MarkerFits projection := by
          rw [markerFits_iff projected]
          rintro ⟨items, found, long⟩
          exact passes (.longMarker few items found long)
        obtain ⟨provenance, provenanceReturned⟩ :=
          provenanceQuarantine_returns encodes payload
        obtain ⟨marker, markerReturned⟩ :=
          (markerQuarantine_returns encodes).mpr fits
        obtain ⟨required, requiredReturned⟩ :=
          requiredQuarantine_returns encodes projection
        simp only [provenanceReturned, markerReturned, requiredReturned,
          ok_bind]
        rcases provenanceQuarantine_owned provenanceReturned with
          ⟨rfl, sku, key⟩ | ⟨found, rfl, _⟩
        case inr => exact .ok _
        cases marker with
        | some found => exact .ok _
        | none =>
            rcases requiredQuarantine_owned requiredReturned with
              ⟨rfl, complete⟩ | ⟨found, rfl, _⟩
            case inr => exact .ok _
            obtain ⟨fixed, attributes, rfl, fixedPart, projectsAttributes⟩ :=
              projectPayload_parts projected
            have unmarked := markerQuarantine_none markerReturned
            have part := projectAttributes_part projectsAttributes
            have leaves := attributeLeaves_of_part part
              (fun entry member => unmarked entry
                (List.mem_append_right _ member))
            obtain ⟨keys, keyed, keysDistinct⟩ :=
              attributePart_keys distinct part leaves
            exact normalizeProjection_returns encodes
              (complete_of_checks fixedPart leaves
                (fun entry member => unmarked entry
                  (List.mem_append_left _ member)) complete)
              fixedPart leaves keyed keysDistinct sku key

/-- An observation is normalized exactly when it does not block. -/
theorem normalizeObservation_returns (observation : SourceObservation) :
    Returns (normalizeObservation observation) ↔ ¬ observation.Blocks := by
  obtain ⟨position, connectorId, carried⟩ := observation
  cases carried with
  | malformed =>
      simp only [SourceObservation.Blocks, not_false_eq_true, iff_true]
      exact returns_fmap.mpr (quarantine_returns.mpr
        ⟨trivial, by decide, by decide, by decide⟩)
  | mapping payload distinct =>
      simp only [normalizeObservation, SourceObservation.Blocks]
      split
      next many =>
        rw [returns_fmap, quarantine_returns]
        simp only [SourceObservation.KeyEncodes]
        constructor
        · rintro ⟨encodes, _⟩ blocks
          cases blocks with
          | surrogateKey lone => exact lone encodes
          | hugeQuantity few | deepLeaf few | longMarker few =>
              exact absurd few (not_le.mpr many)
        · intro passes
          refine ⟨?_, by decide, by decide, by decide⟩
          by_contra lone
          exact passes (.surrogateKey lone)
      next few => exact normalizePayload_returns rfl (not_lt.mp few)

/-! ## Batches -/

theorem normalizeEach_map {seen : List Nat}
    {observations : List SourceObservation}
    {entries : List NormalizationEntry}
    (returned : normalizeEach seen observations = .ok entries) :
    observations.map normalizeObservation = entries.map .ok := by
  induction observations generalizing seen entries with
  | nil =>
      cases returned
      rfl
  | cons observation rest ih =>
      simp only [normalizeEach, bind_eq_ok] at returned
      obtain ⟨_, _, _, _, entry, first, later, others, same⟩ := returned
      cases same
      simp only [List.map_cons, first, ih others]

theorem normalizeEach_returns {seen : List Nat}
    {observations : List SourceObservation}
    (distinct : (observations.map SourceObservation.position).Nodup)
    (fresh : ∀ observation ∈ observations, observation.position ∉ seen)
    (few : seen.length + observations.length ≤ maxSourceObservations) :
    Returns (normalizeEach seen observations) ↔
      ∀ observation ∈ observations, ¬ observation.Blocks := by
  induction observations generalizing seen with
  | nil => exact ⟨fun _ => by simp, fun _ => .ok []⟩
  | cons observation rest ih =>
      simp only [List.map_cons, List.nodup_cons, List.length_cons]
        at distinct few
      have notSeen : observation.position ∉ seen :=
        fresh observation List.mem_cons_self
      have freshRest : ∀ other ∈ rest,
          other.position ∉ observation.position :: seen := by
        intro other member inSeen
        rcases List.mem_cons.mp inSeen with same | earlier
        · exact distinct.1 (List.mem_map.mpr ⟨other, member, same⟩)
        · exact fresh other (List.mem_cons_of_mem _ member) earlier
      have deeper : (observation.position :: seen).length + rest.length ≤
          maxSourceObservations := by
        simp only [List.length_cons]
        omega
      have later := ih distinct.2 freshRest deeper
      have room : seen.length + 1 ≤ maxSourceObservations := by omega
      have unseen : (!seen.contains observation.position) = true := by
        simpa using notSeen
      simp only [normalizeEach, unseen, room, decide_true, require_true,
        ok_bind]
      rw [List.forall_mem_cons, ← later, ← normalizeObservation_returns]
      constructor
      · intro returned
        obtain ⟨entry, first, returned⟩ := returns_bind.mp returned
        obtain ⟨entries, others, _⟩ := returns_bind.mp returned
        exact ⟨⟨entry, first⟩, ⟨entries, others⟩⟩
      · rintro ⟨first, others⟩
        exact first.bind fun _ _ => others.bind fun _ _ => .ok _

theorem normalizeEach_owned {seen : List Nat}
    {observations : List SourceObservation}
    {entries : List NormalizationEntry}
    (returned : normalizeEach seen observations = .ok entries) :
    entries.map NormalizationEntry.position =
      observations.map SourceObservation.position := by
  have maps := normalizeEach_map returned
  clear returned
  induction observations generalizing entries with
  | nil =>
      have empty : entries = [] := by simpa using maps.symm
      rw [empty]
      rfl
  | cons observation rest ih =>
      cases entries with
      | nil => cases maps
      | cons entry others =>
          simp only [List.map_cons, List.cons.injEq] at maps
          simp only [List.map_cons, (normalizeObservation_owned maps.1).2,
            ih maps.2]

/-- Records and quarantined observations partition the entries. -/
theorem entries_partition (entries : List NormalizationEntry) :
    ((recordEntries entries).map NormalizedRecord.position ++
      (quarantinedEntries entries).map
        QuarantinedObservation.position).Perm
      (entries.map NormalizationEntry.position) := by
  induction entries with
  | nil => exact List.Perm.refl _
  | cons entry rest ih =>
      cases entry with
      | record normalized => exact ih.cons normalized.position
      | quarantined found =>
          exact List.perm_middle.trans (ih.cons found.position)

/-- Selecting a side commutes with selecting positions. -/
theorem filterMap_filter_position {α : Type}
    (select : NormalizationEntry → Option α) (position : α → Nat)
    (agrees : ∀ entry value, select entry = some value →
      position value = entry.position)
    (place : Nat) (entries : List NormalizationEntry) :
    (entries.filterMap select).filter (fun v => position v = place) =
      (entries.filter fun e => e.position = place).filterMap select := by
  induction entries with
  | nil => rfl
  | cons entry rest ih =>
      cases selected : select entry with
      | none =>
          simp only [List.filterMap_cons, selected, ih, List.filter_cons]
          split <;> simp [selected]
      | some value =>
          have same := agrees entry value selected
          simp only [List.filterMap_cons, selected, List.filter_cons, same,
            ih]
          split <;> simp [selected]

/-- At the place of an entry, a sorted side holds that entry or nothing. -/
theorem sortedSide_at {α : Type}
    (select : NormalizationEntry → Option α) (position : α → Nat)
    (agrees : ∀ entry value, select entry = some value →
      position value = entry.position)
    {entries : List NormalizationEntry}
    (distinct : (entries.map NormalizationEntry.position).Nodup)
    {entry : NormalizationEntry} (member : entry ∈ entries) :
    (sortedBy position (entries.filterMap select)).filter
        (fun v => position v = entry.position) =
      sortedBy position ([entry].filterMap select) := by
  have chosen : ((sortedBy position (entries.filterMap select)).filter
      fun v => position v = entry.position).Perm
        ([entry].filterMap select) := by
    have unsorted := (sortedBy_perm position
      (entries.filterMap select)).filter
        (fun v => decide (position v = entry.position))
    rwa [filterMap_filter_position select position agrees,
      filter_key_eq_singleton distinct member] at unsorted
  cases selected : select entry with
  | none =>
      simp only [List.filterMap_cons, selected, List.filterMap_nil]
        at chosen ⊢
      exact chosen.eq_nil
  | some value =>
      simp only [List.filterMap_cons, selected, List.filterMap_nil]
        at chosen ⊢
      exact List.perm_singleton.mp chosen

/--
Every input position occurs exactly once, in position order on each side, and
each observation has the entry that it has alone.
-/
structure NormalizesEach (observations : List SourceObservation)
    (normalization : SourceNormalization) : Prop where
  positions :
    (normalization.records.map NormalizedRecord.position ++
      normalization.quarantined.map
        QuarantinedObservation.position).Perm
      (observations.map SourceObservation.position)
  recordsOrdered :
    (normalization.records.map NormalizedRecord.position).Pairwise (· < ·)
  quarantinedOrdered :
    (normalization.quarantined.map
      QuarantinedObservation.position).Pairwise (· < ·)
  alone : ∀ observation ∈ observations, ∃ single,
    normalizeSourceObservations [observation] = .ok single ∧
      single.records = normalization.records.filter
        (fun r => r.position = observation.position) ∧
      single.quarantined = normalization.quarantined.filter
        (fun q => q.position = observation.position)

theorem SourceNormalization.create_eq_ok {records : List NormalizedRecord}
    {quarantined : List QuarantinedObservation}
    {normalization : SourceNormalization}
    (created : create records quarantined = .ok normalization) :
    normalization.records = records ∧
      normalization.quarantined = quarantined := by
  simp only [create, map_eq_ok] at created
  obtain ⟨checked, _, rfl⟩ := created
  exact ⟨rfl, rfl⟩

/-- Entries at distinct positions form a normalization. -/
theorem SourceNormalization.create_returns
    (entries : List NormalizationEntry)
    (distinct : (entries.map NormalizationEntry.position).Nodup)
    (few : entries.length ≤ maxSourceObservations) :
    Returns (create
      (sortedBy NormalizedRecord.position (recordEntries entries))
      (sortedBy QuarantinedObservation.position
        (quarantinedEntries entries))) := by
  have partition := entries_partition entries
  have nodup := partition.nodup_iff.mpr distinct
  rw [List.nodup_append] at nodup
  have total := partition.length_eq
  simp only [List.length_append, List.length_map] at total
  have ordered {α : Type} (position : α → Nat) (values : List α)
      (apart : (values.map position).Nodup) :
      ((sortedBy position values).map position ==
          sorted ((sortedBy position values).map position) &&
        decide ((sortedBy position values).map position).Nodup) = true := by
    have sorts : sorted ((sortedBy position values).map position) =
        (sortedBy position values).map position :=
      sortedBy_of_pairwise
        (List.pairwise_map.mpr (sortedBy_pairwise position values))
    have still : ((sortedBy position values).map position).Nodup :=
      ((sortedBy_perm position values).map position).nodup_iff.mpr apart
    simp only [sorts, beq_self_eq_true, still, decide_true, Bool.and_self]
  have valid : validateNormalization
      (sortedBy NormalizedRecord.position (recordEntries entries))
      (sortedBy QuarantinedObservation.position
        (quarantinedEntries entries)) = .ok () := by
    have room : (recordEntries entries).length +
        (quarantinedEntries entries).length ≤ maxSourceObservations := by
      omega
    simp only [validateNormalization, ordered _ _ nodup.1,
      ordered _ _ nodup.2.1, sortedBy_length, room, decide_true,
      Bool.and_self, require_true, ok_bind]
  exact returns_map.mpr ⟨_, certify_ok (fun _ h => h) valid⟩

theorem normalizesEach_of_entries {observations : List SourceObservation}
    (distinct : (observations.map SourceObservation.position).Nodup)
    {entries : List NormalizationEntry}
    (returned : normalizeEach [] observations = .ok entries)
    {normalization : SourceNormalization}
    (records : normalization.records =
      sortedBy NormalizedRecord.position (recordEntries entries))
    (quarantined : normalization.quarantined =
      sortedBy QuarantinedObservation.position
        (quarantinedEntries entries)) :
    NormalizesEach observations normalization := by
  have positions := normalizeEach_owned returned
  have entriesDistinct :
      (entries.map NormalizationEntry.position).Nodup := by
    rw [positions]
    exact distinct
  have partition := entries_partition entries
  have nodup := partition.nodup_iff.mpr entriesDistinct
  rw [List.nodup_append] at nodup
  refine ⟨?_, ?_, ?_, ?_⟩
  · rw [records, quarantined, ← positions]
    exact (((sortedBy_perm _ _).map _).append
      ((sortedBy_perm _ _).map _)).trans partition
  · rw [records]
    exact List.pairwise_map.mpr (sortedBy_strict nodup.1)
  · rw [quarantined]
    exact List.pairwise_map.mpr (sortedBy_strict nodup.2.1)
  · intro observation member
    obtain ⟨entry, inside, own⟩ : ∃ entry ∈ entries,
        normalizeObservation observation = .ok entry := by
      have image : normalizeObservation observation ∈
          entries.map Except.ok := by
        rw [← normalizeEach_map returned]
        exact List.mem_map.mpr ⟨observation, member, rfl⟩
      obtain ⟨entry, inside, same⟩ := List.mem_map.mp image
      exact ⟨entry, inside, same.symm⟩
    have place := (normalizeObservation_owned own).2
    have single : normalizeEach [] [observation] = .ok [entry] := by
      simp only [normalizeEach, own, ok_bind]
      rfl
    have one : [entry].length ≤ maxSourceObservations := by
      simp [maxSourceObservations]
    obtain ⟨alone, created⟩ :=
      SourceNormalization.create_returns [entry] (by simp) one
    obtain ⟨aloneRecords, aloneQuarantined⟩ :=
      SourceNormalization.create_eq_ok created
    refine ⟨alone, ?_, ?_, ?_⟩
    · simp only [normalizeSourceObservations, single, ok_bind, created]
    · rw [aloneRecords, records, ← place]
      refine (sortedSide_at NormalizationEntry.asRecord _ ?_
        entriesDistinct inside).symm
      intro entry value selected
      cases entry <;> cases selected
      rfl
    · rw [aloneQuarantined, quarantined, ← place]
      refine (sortedSide_at NormalizationEntry.asQuarantined _ ?_
        entriesDistinct inside).symm
      intro entry value selected
      cases entry <;> cases selected
      rfl

/--
A batch is normalized, with every position exactly once and every entry as
when normalized alone, exactly when none of its observations blocks.
-/
theorem normalizeSourceObservations_blocks
    (observations : List SourceObservation)
    (distinct : (observations.map SourceObservation.position).Nodup)
    (few : observations.length ≤ maxSourceObservations) :
    (∃ normalization,
        normalizeSourceObservations observations = .ok normalization ∧
        NormalizesEach observations normalization) ↔
      ∀ observation ∈ observations, ¬ observation.Blocks := by
  have each : Returns (normalizeEach [] observations) ↔
      ∀ observation ∈ observations, ¬ observation.Blocks :=
    normalizeEach_returns distinct (by simp) (by simpa using few)
  rw [← each]
  constructor
  · rintro ⟨normalization, returned, _⟩
    simp only [normalizeSourceObservations, bind_eq_ok] at returned
    obtain ⟨entries, normalized, _⟩ := returned
    exact ⟨entries, normalized⟩
  · rintro ⟨entries, returned⟩
    have positions := normalizeEach_owned returned
    have lengths := congrArg List.length positions
    simp only [List.length_map] at lengths
    obtain ⟨normalization, created⟩ :=
      SourceNormalization.create_returns entries
        (by rw [positions]; exact distinct) (by omega)
    obtain ⟨records, quarantined⟩ :=
      SourceNormalization.create_eq_ok created
    refine ⟨normalization, ?_,
      normalizesEach_of_entries distinct returned records quarantined⟩
    simp only [normalizeSourceObservations, returned, ok_bind, created]

end Blocking

/-! ## Concrete batches -/

section Sample

attribute [local instance] asciiRuntime

/-- The fields of a widget in the wire shape of the source. -/
def widgetFields (sku key name currency amount updatedAt : String)
    (attributes : Payload) : Payload :=
  [(text "sku", .string (text sku)),
    (text "source_record_key", .string (text key)),
    (text "name", .string (text name)),
    (text "quantity", .int 3),
    (text "unit_price", .object
      [(text "currency", .string (text currency)),
        (text "amount", .string (text amount))]),
    (text "updated_at", .string (text updatedAt)),
    (text "attributes", .object attributes)]

/-- One widget. -/
def sampleObservation : SourceObservation where
  position := 0
  connectorId := ⟨text "con_source", sourceConnector_valid⟩
  payload := .mapping (widgetFields "SKU-1" "key-1" "Widget" "USD"
    "1.25" "2024-01-02T03:04:05.000006Z" [(text "color", .string (text "red"))])
    (by decide +kernel)

/-- The widget twice, and an observation that is quarantined. -/
def sampleBatch : List SourceObservation :=
  [sampleObservation,
    { sampleObservation with position := 1 },
    { sampleObservation with
      position := 2
      payload := .mapping [(text "sku", .int 1)] (by decide +kernel) }]

/-- A payload whose quantity is one above the comparison range. -/
def hugeQuantityObservation : SourceObservation where
  position := 0
  connectorId := ⟨text "con_source", sourceConnector_valid⟩
  payload := .mapping [(text "quantity", .int 9223372036854775808)]
    (by decide +kernel)

/-- Nothing blocks the batch. -/
theorem normalizeSourceObservations_blocks_sample :
    ∃ normalization,
      normalizeSourceObservations sampleBatch = .ok normalization ∧
      NormalizesEach sampleBatch normalization := by
  have returns : ∀ observation ∈ sampleBatch,
      (normalizeObservation observation).toOption.isSome := by
    decide
  exact (normalizeSourceObservations_blocks sampleBatch (by decide)
    (by decide)).mpr fun observation member =>
      (normalizeObservation_returns observation).mp
        (returns_of_isSome (returns observation member))

/-- A quantity out of range aborts its batch. -/
theorem normalizeSourceObservations_blocked_by_quantity :
    ¬ ∀ observations : List SourceObservation,
      (observations.map SourceObservation.position).Nodup →
      observations.length ≤ maxSourceObservations →
      ∃ normalization,
        normalizeSourceObservations observations = .ok normalization ∧
        NormalizesEach observations normalization := by
  intro always
  obtain ⟨normalization, returned, _⟩ :=
    always [hugeQuantityObservation] (by decide) (by decide)
  have raises : (normalizeSourceObservations
      [hugeQuantityObservation]).toOption.isNone := by decide
  rw [returned] at raises
  cases raises

end Sample

end ParityGrid.Domain
