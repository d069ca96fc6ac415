import ParityGrid.Foundation.Json
import ParityGrid.Foundation.Sorting
import ParityGrid.Domain.Inventory

/-!
# Normalized comparison values and field differences

A comparison document is a closed set of field paths, each with one leaf.  Two
documents are compared path by path over the union of their paths, so the
differences of a pair do not depend on how either payload was written.
-/

namespace ParityGrid.Domain

open Foundation

/-- `_MAX_FIELD_PATH_BYTES`. -/
def maxFieldPathBytes : Nat := 96

/-- `_MAX_LEAF_TEXT_CHARACTERS`. -/
def maxLeafTextCharacters : Nat := 512

/-- `_MAX_LEAF_TEXT_BYTES`. -/
def maxLeafTextBytes : Nat := 1024

/-- `_MAX_DIFFERENCES`. -/
def maxDifferences : Nat := 128

/-- `ComparisonDocument.MAX_PATHS`. -/
def maxDocumentPaths : Nat := 128

/-- `_PATH_SEGMENT`, which mirrors the attribute-key contract. -/
def pathSegment : SegmentPattern := attributeKeyPattern

/-- `ComparisonDocumentError`, a `ValueError`. -/
def comparisonDocumentError (reason : String) : PythonError :=
  .raised (text "ComparisonDocumentError") true (text reason)

/-! ## Leaves -/

inductive ComparisonValueKind where
  | text
  | integer
  | moneyAmount
  | timestamp
  | attributeText
  | missing
  | null
  | wrongType
deriving DecidableEq

/-- The range of a comparison integer. -/
def isInt64 (value : Int) : Bool :=
  -9223372036854775808 ≤ value && value ≤ 9223372036854775807

/--
One typed or marker leaf.  A kind carries exactly the value that
`_require_leaf` demands of it, so no leaf carries too much or too little.
-/
inductive ComparisonValue where
  | text (value : Text)
  | integer (value : Int) (inRange : isInt64 value)
  | moneyAmount (money : Money)
  | timestamp (value : UtcTimestamp)
  | attributeText (value : Text)
  | missing
  | null
  | wrongType (evidence : Text) (nonempty : evidence ≠ [])
deriving DecidableEq

namespace ComparisonValue

def kind : ComparisonValue → ComparisonValueKind
  | .text _ => .text
  | .integer _ _ => .integer
  | .moneyAmount _ => .moneyAmount
  | .timestamp _ => .timestamp
  | .attributeText _ => .attributeText
  | .missing => .missing
  | .null => .null
  | .wrongType _ _ => .wrongType

/-- The `text` of a leaf, or `None`. -/
def leafText : ComparisonValue → Option Text
  | .text value => some value
  | .attributeText value => some value
  | .wrongType evidence _ => some evidence
  | _ => none

/-- `canonical_text`. -/
def canonicalText : ComparisonValue → Text
  | .missing => []
  | .null => Foundation.text "null"
  | .integer value _ => decimalInt value
  | .moneyAmount money => money.toText
  | .timestamp value => value.toText
  | .text value => value
  | .attributeText value => value
  | .wrongType evidence _ => evidence

/-- `is_equivalent`. -/
def isEquivalent : ComparisonValue → ComparisonValue → Bool
  | .integer left _, .integer right _ => left == right
  | .moneyAmount left, .moneyAmount right => left == right
  | .timestamp left, .timestamp right => left == right
  | .missing, .missing => true
  | .null, .null => true
  | .text left, .text right => left == right
  | .attributeText left, .attributeText right => left == right
  | .wrongType left _, .wrongType right _ => left == right
  | _, _ => false

/-- Equivalent leaves are equal leaves. -/
theorem isEquivalent_iff {left right : ComparisonValue} :
    isEquivalent left right ↔ left = right := by
  cases left <;> cases right <;> simp [isEquivalent]

/-- `integer_value`, with the range check of `_require_leaf`. -/
def integerValue (value : Int) : Except PythonError ComparisonValue :=
  if inRange : isInt64 value then
    .ok (.integer value inRange)
  else
    .error (.valueError (Foundation.text
      "comparison integer leaf is outside the supported range"))

end ComparisonValue

/-- `type(raw).__name__`. -/
def typeName : JsonValue → Text
  | .scalar .null => text "NoneType"
  | .scalar (.bool _) => text "bool"
  | .scalar (.int _) => text "int"
  | .scalar (.float _) => text "float"
  | .string _ => text "str"
  | .array _ => text "list"
  | .object _ => text "dict"

theorem typeName_ne_nil (raw : JsonValue) : typeName raw ≠ [] := by
  rcases raw with (_ | _ | _ | _) | _ | _ | _ <;> simp only [typeName] <;>
    decide

section Leaves

variable [PythonRuntime]

/-- `_normalized_leaf_text`. -/
def normalizedLeafText (value : Text) : Except PythonError Text := do
  let normalized := nfc value
  let encoded ← encodeUtf8 normalized
  require (normalized.length ≤ maxLeafTextCharacters &&
      encoded.length ≤ maxLeafTextBytes)
    (.valueError (text "comparison text leaf exceeds its size limit"))
  pure normalized

/-- `_bounded_raw`; a `RecursionError` of `json.dumps` is not caught. -/
def boundedRaw (raw : JsonValue) : Except PythonError Text := do
  let rendered ← exceptValueErrors (jsonDumps raw) (.ok (typeName raw))
  pure (if rendered.length ≤ maxLeafTextCharacters then rendered
    else rendered.take (maxLeafTextCharacters - 3) ++ text "...")

/-- `ComparisonValue.text_value`. -/
def ComparisonValue.textValue (value : Text) :
    Except PythonError ComparisonValue :=
  (normalizedLeafText value).map .text

/-- `ComparisonValue.attribute_text_value`. -/
def ComparisonValue.attributeTextValue (value : Text) :
    Except PythonError ComparisonValue :=
  (normalizedLeafText value).map .attributeText

/-- The construction of a wrong-type leaf from its evidence. -/
def wrongTypeLeaf (evidence : Text) : Except PythonError ComparisonValue :=
  if nonempty : evidence ≠ [] then
    .ok (.wrongType evidence nonempty)
  else
    .error (.valueError (text
      "comparison wrong-type leaf requires bounded evidence text"))

/-- `ComparisonValue.wrong_type`. -/
def ComparisonValue.wrongTypeOf (raw : JsonValue) :
    Except PythonError ComparisonValue := do
  let evidence ← boundedRaw raw
  wrongTypeLeaf evidence

/-- The leaf is too deep for the JSON encoder of its evidence. -/
def TooDeep (raw : JsonValue) : Prop :=
  jsonDumps raw = .error .recursionError

theorem normalizedLeafText_raises (value : Text) :
    RaisesOnlyValueErrors (normalizedLeafText value) := by
  apply RaisesOnlyValueErrors.bind (RaisesOnlyValueErrors.encodeUtf8 _)
  intro encoded _
  apply RaisesOnlyValueErrors.bind (RaisesOnlyValueErrors.require rfl)
  intro _ _
  exact RaisesOnlyValueErrors.ok _

theorem normalizedLeafText_normal {value normalized : Text}
    (accepted : normalizedLeafText value = .ok normalized) :
    nfc normalized = normalized := by
  simp only [normalizedLeafText, bind_eq_ok] at accepted
  obtain ⟨_, _, _, _, same⟩ := accepted
  cases same
  exact PythonRuntime.nfc_nfc value

theorem boundedRaw_ne_nil {raw : JsonValue} {evidence : Text}
    (bounded : boundedRaw raw = .ok evidence) :
    evidence ≠ [] ∧ evidence.length ≤ maxLeafTextCharacters := by
  simp only [boundedRaw, bind_eq_ok] at bounded
  obtain ⟨rendered, renders, same⟩ := bounded
  have nonempty : rendered ≠ [] := by
    simp only [exceptValueErrors] at renders
    split at renders
    next t dumped =>
      cases renders
      exact jsonDumps_ne_nil dumped
    next e raised =>
      split at renders
      · cases renders
        exact typeName_ne_nil raw
      · cases renders
  cases same
  have dots : (text "...").length = 3 := by decide
  split
  next short => exact ⟨nonempty, short⟩
  next long =>
    simp only [maxLeafTextCharacters] at long ⊢
    constructor
    · intro empty
      have lengths := congrArg List.length empty
      simp only [List.length_append, dots, List.length_nil] at lengths
      omega
    · simp only [List.length_append, List.length_take, dots]
      omega

/-- Evidence of a wrong type exists unless the value is too deep. -/
theorem ComparisonValue.wrongTypeOf_returns {raw : JsonValue} :
    Returns (wrongTypeOf raw) ↔ ¬ TooDeep raw := by
  constructor
  · rintro ⟨leaf, returned⟩ deep
    simp only [wrongTypeOf, boundedRaw, TooDeep] at returned deep
    simp [deep, exceptValueErrors, PythonError.isTypeOrValueError]
      at returned
  · intro shallow
    have rendered : ∃ evidence, boundedRaw raw = .ok evidence := by
      cases dumped : jsonDumps raw with
      | ok rendered =>
          simp only [boundedRaw, dumped, exceptValueErrors_ok, ok_bind]
          exact ⟨_, rfl⟩
      | error error =>
          rcases jsonDumps_raises dumped with caught | recursion
          · simp only [boundedRaw, dumped, exceptValueErrors, caught, if_true,
              ok_bind]
            exact ⟨_, rfl⟩
          · rw [recursion] at dumped
            exact absurd dumped shallow
    obtain ⟨evidence, bounded⟩ := rendered
    obtain ⟨nonempty, _⟩ := boundedRaw_ne_nil bounded
    exact ⟨.wrongType evidence nonempty, by
      simp only [wrongTypeOf, bounded, ok_bind, wrongTypeLeaf, nonempty,
        ne_eq, not_false_eq_true, dif_pos]⟩

theorem ComparisonValue.wrongTypeOf_form {raw : JsonValue}
    {leaf : ComparisonValue} (returned : wrongTypeOf raw = .ok leaf) :
    ∃ evidence nonempty, leaf = .wrongType evidence nonempty ∧
      evidence.length ≤ maxLeafTextCharacters := by
  simp only [wrongTypeOf, bind_eq_ok, wrongTypeLeaf] at returned
  obtain ⟨evidence, bounded, built⟩ := returned
  split at built
  next nonempty =>
    cases built
    exact ⟨evidence, nonempty, rfl, (boundedRaw_ne_nil bounded).2⟩
  next => cases built

/-- Text is evidence of a wrong type at any length. -/
theorem not_tooDeep_string (value : Text) : ¬ TooDeep (.string value) := by
  intro deep
  simp [TooDeep, jsonDumps, JsonValue.dumpsError] at deep

/-! ## Documents -/

/-- `_TOP_LEVEL_PATHS` and the two containers. -/
def pathHeads : List Text :=
  [text "name", text "quantity", text "updated_at", text "unit_price",
    text "attributes"]

/-- `_require_path`. -/
def requirePath (value : Text) : Except PythonError Unit := do
  let encoded ← encodeUtf8 value
  require (value != [] && encoded.length ≤ maxFieldPathBytes)
    (comparisonDocumentError
      "comparison field path is empty or exceeds the byte limit")
  let segments := value.splitOn (point '/')
  require (segments.head?.any pathHeads.contains &&
      segments.tail.all pathSegment.fullmatch)
    (comparisonDocumentError "comparison field path is not canonical")

/-- `canonical_attribute_path`. -/
def canonicalAttributePath (key : Text) : Option Text :=
  if pathSegment.fullmatch key then some (text "attributes/" ++ key)
  else none

end Leaves

/-- The checks of `ComparisonDocument.__post_init__`. -/
def validateDocument (values : List (Text × ComparisonValue)) :
    Except PythonError Unit := do
  require (values.length ≤ maxDocumentPaths)
    (comparisonDocumentError "comparison document exceeds the path limit")
  values.forM fun entry => requirePath entry.1
  require (values.map Prod.fst).Nodup
    (comparisonDocumentError "comparison document paths must be unique")
  require (sorted (values.map Prod.fst) == values.map Prod.fst)
    (comparisonDocumentError "comparison document paths must be sorted")

/-- A closed, deterministically ordered set of normalized field leaves. -/
structure ComparisonDocument where
  values : List (Text × ComparisonValue)
  valid : validateDocument values = .ok ()
deriving DecidableEq

namespace ComparisonDocument

theorem ext {left right : ComparisonDocument}
    (equal : left.values = right.values) :
    left = right := by
  cases left
  cases right
  cases equal
  rfl

/-- The constructor. -/
def create (values : List (Text × ComparisonValue)) :
    Except PythonError ComparisonDocument :=
  (certify (validateDocument values) fun _ accepted => accepted).map
    fun checked => ⟨values, checked.2⟩

theorem create_eq_ok {values : List (Text × ComparisonValue)}
    {document : ComparisonDocument} :
    create values = .ok document ↔
      validateDocument values = .ok () ∧ document.values = values := by
  constructor
  · intro created
    simp only [create, Except.map] at created
    split at created
    next => cases created
    next checked accepted =>
      cases created
      exact ⟨certify_eq_ok.mp accepted, rfl⟩
  · rintro ⟨accepted, rfl⟩
    have certified := certify_ok (P := fun u =>
      validateDocument document.values = .ok u) (fun _ h => h) accepted
    simp only [create, certified, Except.map]

/-- `get`: the leaf at a path, absent by default. -/
def get (document : ComparisonDocument) (path : Text) : ComparisonValue :=
  (document.values.lookup path).getD .missing

/-- `paths`. -/
def paths (document : ComparisonDocument) : List Text :=
  document.values.map Prod.fst

end ComparisonDocument

/-! ## Differences -/

inductive FieldDifferenceKind where
  | valueMismatch
  | missingOnSource
  | missingOnTarget
  | nullOnSource
  | nullOnTarget
  | typeMismatch
deriving DecidableEq

/-- `_bounded_difference_text`. -/
def boundedDifferenceText (side : String) (value : Text) :
    Except PythonError Unit :=
  require (value.length ≤ maxLeafTextCharacters)
    (.valueError (text "field difference " ++ text side ++
      text " text exceeds its size limit"))

/-- Stable evidence for one field path that differs between two sides. -/
structure FieldDifference where
  field : Text
  kind : FieldDifferenceKind
  sourceText : Text
  targetText : Text
  fieldValid : requirePath field = .ok ()
  sourceBounded : boundedDifferenceText "source" sourceText = .ok ()
  targetBounded : boundedDifferenceText "target" targetText = .ok ()
deriving DecidableEq

/-- The constructor. -/
def FieldDifference.create (field : Text) (kind : FieldDifferenceKind)
    (sourceText targetText : Text) : Except PythonError FieldDifference := do
  let path ← certify (requirePath field) fun _ accepted => accepted
  let source ← certify (boundedDifferenceText "source" sourceText)
    fun _ accepted => accepted
  let target ← certify (boundedDifferenceText "target" targetText)
    fun _ accepted => accepted
  pure ⟨field, kind, sourceText, targetText, path.2, source.2, target.2⟩

theorem FieldDifference.create_returns {field : Text}
    (kind : FieldDifferenceKind) {sourceText targetText : Text}
    (path : requirePath field = .ok ())
    (source : sourceText.length ≤ maxLeafTextCharacters)
    (target : targetText.length ≤ maxLeafTextCharacters) :
    ∃ difference, create field kind sourceText targetText = .ok difference := by
  have sourceBounded : boundedDifferenceText "source" sourceText = .ok () := by
    simp [boundedDifferenceText, source]
  have targetBounded : boundedDifferenceText "target" targetText = .ok () := by
    simp [boundedDifferenceText, target]
  refine ⟨⟨field, kind, sourceText, targetText, path, sourceBounded,
    targetBounded⟩, ?_⟩
  simp only [create, certify_ok (P := fun u => requirePath field = .ok u)
      (fun _ h => h) path,
    certify_ok (P := fun u => boundedDifferenceText "source" sourceText =
      .ok u) (fun _ h => h) sourceBounded,
    certify_ok (P := fun u => boundedDifferenceText "target" targetText =
      .ok u) (fun _ h => h) targetBounded, ok_bind]
  rfl

theorem FieldDifference.create_field {field sourceText targetText : Text}
    {kind : FieldDifferenceKind} {difference : FieldDifference}
    (created : create field kind sourceText targetText = .ok difference) :
    difference.field = field := by
  simp only [create, bind_eq_ok] at created
  obtain ⟨_, _, _, _, _, _, same⟩ := created
  cases same
  rfl

/-- `_difference_kind`. -/
def differenceKind (source target : ComparisonValue) : FieldDifferenceKind :=
  if source.kind = .missing then .missingOnSource
  else if target.kind = .missing then .missingOnTarget
  else if source.kind = .null then .nullOnSource
  else if target.kind = .null then .nullOnTarget
  else if source.kind = target.kind then .valueMismatch
  else .typeMismatch

/-- `_difference_at`. -/
def differenceAt (path : Text) (source target : ComparisonValue) :
    Except PythonError (Option FieldDifference) :=
  if source.isEquivalent target then .ok none
  else (FieldDifference.create path (differenceKind source target)
    source.canonicalText target.canonicalText).map some

/-- `sorted(set(source.paths()) | set(target.paths()))`. -/
def comparedPaths (source target : ComparisonDocument) : List Text :=
  sorted (source.paths ++ target.paths).dedup

/-- The loop of `build_field_differences` after `count` differences. -/
def collectDifferences (source target : ComparisonDocument) :
    Nat → List Text → Except PythonError (List FieldDifference)
  | _, [] => .ok []
  | count, path :: rest => do
      let difference ← differenceAt path (source.get path) (target.get path)
      match difference with
      | none => collectDifferences source target count rest
      | some found => do
          require (count + 1 ≤ maxDifferences)
            (comparisonDocumentError
              "field comparison exceeds the difference limit")
          let later ← collectDifferences source target (count + 1) rest
          pure (found :: later)

/-- `build_field_differences`. -/
def buildFieldDifferences (source target : ComparisonDocument) :
    Except PythonError (List FieldDifference) :=
  collectDifferences source target 0 (comparedPaths source target)

/-- The paths at which two documents differ. -/
def differingPaths (source target : ComparisonDocument) : List Text :=
  (comparedPaths source target).filter fun path =>
    source.get path != target.get path

/-- Every leaf of the document has a bounded rendering. -/
def ComparisonDocument.Bounded (document : ComparisonDocument) : Prop :=
  ∀ entry ∈ document.values,
    entry.2.canonicalText.length ≤ maxLeafTextCharacters

theorem ComparisonDocument.requirePath {document : ComparisonDocument}
    {path : Text} (member : path ∈ document.paths) :
    Domain.requirePath path = .ok () := by
  have valid := document.valid
  simp only [validateDocument, bind_eq_ok, forM_eq_ok] at valid
  obtain ⟨_, _, _, paths, _⟩ := valid
  obtain ⟨entry, inside, rfl⟩ := List.mem_map.mp member
  exact paths entry inside

theorem ComparisonDocument.Bounded.get {document : ComparisonDocument}
    (bounded : document.Bounded) (path : Text) :
    (document.get path).canonicalText.length ≤ maxLeafTextCharacters := by
  simp only [ComparisonDocument.get]
  cases found : document.values.lookup path with
  | none => exact Nat.zero_le _
  | some value =>
      obtain ⟨before, after, form, _⟩ := List.lookup_eq_some_iff.mp found
      exact bounded (path, value) (by simp [form])

theorem mem_comparedPaths {source target : ComparisonDocument}
    {path : Text} :
    path ∈ comparedPaths source target ↔
      path ∈ source.paths ∨ path ∈ target.paths := by
  simp [comparedPaths]

theorem comparedPaths_length (source target : ComparisonDocument) :
    (comparedPaths source target).length ≤
      source.values.length + target.values.length := by
  have fewer := List.Sublist.length_le
    (List.dedup_sublist (source.paths ++ target.paths))
  simpa [comparedPaths, ComparisonDocument.paths] using fewer

section Returns

variable {source target : ComparisonDocument}
  (sourceBounded : source.Bounded) (targetBounded : target.Bounded)

include sourceBounded targetBounded in
/-- One path of two bounded documents yields a difference iff they differ. -/
theorem differenceAt_returns {path : Text}
    (member : path ∈ comparedPaths source target) :
    differenceAt path (source.get path) (target.get path) = .ok none ∧
        source.get path = target.get path ∨
      (∃ found, differenceAt path (source.get path) (target.get path) =
          .ok (some found) ∧ found.field = path) ∧
        source.get path ≠ target.get path := by
  by_cases same : source.get path = target.get path
  · left
    have equivalent := ComparisonValue.isEquivalent_iff.mpr same
    exact ⟨by simp only [differenceAt, equivalent, if_true], same⟩
  · right
    have different : ¬ (source.get path).isEquivalent (target.get path) :=
      fun equivalent => same (ComparisonValue.isEquivalent_iff.mp equivalent)
    have valid : requirePath path = .ok () := by
      rcases mem_comparedPaths.mp member with inSource | inTarget
      · exact source.requirePath inSource
      · exact target.requirePath inTarget
    obtain ⟨found, created⟩ := FieldDifference.create_returns
      (differenceKind (source.get path) (target.get path)) valid
      (sourceBounded.get path) (targetBounded.get path)
    refine ⟨⟨found, ?_, FieldDifference.create_field created⟩, same⟩
    simp only [differenceAt, different, created, Except.map]
    rfl

include sourceBounded targetBounded in
theorem collectDifferences_returns {count : Nat} {paths : List Text}
    (inside : ∀ path ∈ paths, path ∈ comparedPaths source target)
    (few : count + (paths.filter fun path =>
      source.get path != target.get path).length ≤ maxDifferences) :
    ∃ found, collectDifferences source target count paths = .ok found ∧
      found.map FieldDifference.field = paths.filter fun path =>
        source.get path != target.get path := by
  induction paths generalizing count with
  | nil => exact ⟨[], rfl, rfl⟩
  | cons path rest ih =>
      have member := inside path List.mem_cons_self
      have later : ∀ path ∈ rest, path ∈ comparedPaths source target :=
        fun path inRest => inside path (List.mem_cons_of_mem _ inRest)
      rcases differenceAt_returns sourceBounded targetBounded member with
        ⟨nothing, same⟩ | ⟨⟨first, something, field⟩, different⟩
      · have skipped : (source.get path != target.get path) = false := by
          simp [same]
        simp only [List.filter_cons, skipped] at few ⊢
        obtain ⟨found, collected, fields⟩ := ih later few
        exact ⟨found, by simp only [collectDifferences, nothing, ok_bind,
          collected], fields⟩
      · have kept : (source.get path != target.get path) = true := by
          simp [different]
        simp only [List.filter_cons, kept, if_true, List.length_cons]
          at few ⊢
        have deeper : (count + 1) + (rest.filter fun path =>
            source.get path != target.get path).length ≤ maxDifferences := by
          omega
        obtain ⟨found, collected, fields⟩ := ih later deeper
        have room : decide (count + 1 ≤ maxDifferences) = true := by
          simp only [decide_eq_true_eq]
          omega
        refine ⟨first :: found, ?_, by simp [field, fields]⟩
        simp only [collectDifferences, something, ok_bind, room, require_true,
          collected]
        rfl

include sourceBounded targetBounded in
/-- Bounded documents compare, with one difference for each path. -/
theorem buildFieldDifferences_returns
    (few : (differingPaths source target).length ≤ maxDifferences) :
    ∃ found, buildFieldDifferences source target = .ok found ∧
      found.map FieldDifference.field = differingPaths source target := by
  apply collectDifferences_returns sourceBounded targetBounded
    (fun _ member => member)
  simpa [differingPaths] using few

end Returns

end ParityGrid.Domain
