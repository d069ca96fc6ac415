import ParityGrid.Domain.Reconciliation.Documents
import ParityGrid.Domain.Reconciliation.Outcomes

/-!
# Records and documents differ in the same fields

Records are compared field by field, documents path by path.  The leaves of a
document fall into one part for each business field, and a part determines the
field, so both comparisons name the same fields.
-/

namespace ParityGrid.Domain

open Foundation

/-- The top-level field of a path. -/
def topLevelField (path : Text) : Text :=
  path.takeWhile (· != point '/')

theorem fieldName_injective :
    Function.Injective fun field : ReconciliationField => text field.value := by
  intro left right same
  cases left <;> cases right <;> first | rfl | exact absurd same (by decide)

/-! ## Documents as sets of leaves -/

/-- A document holds at most one leaf at a path. -/
theorem ComparisonDocument.get_of_mem {document : ComparisonDocument}
    {path : Text} {leaf : ComparisonValue}
    (member : (path, leaf) ∈ document.values) : document.get path = leaf := by
  have valid := document.valid
  simp only [validateDocument, bind_eq_ok, require_eq_ok, decide_eq_true_eq]
    at valid
  obtain ⟨_, _, _, _, _, distinct, _⟩ := valid
  rw [get, (lookup_eq_some_iff_mem distinct).mpr member]
  rfl

theorem ComparisonDocument.mem_of_get {document : ComparisonDocument}
    {path : Text} (present : document.get path ≠ .missing) :
    (path, document.get path) ∈ document.values := by
  rw [get] at present ⊢
  cases found : document.values.lookup path with
  | none =>
      rw [found] at present
      exact absurd rfl present
  | some leaf => exact mem_of_lookup found

/-- A path differs when one document holds a leaf that the other lacks. -/
theorem mem_differingPaths {source target : ComparisonDocument} {path : Text}
    (sourcePresent : ∀ entry ∈ source.values, entry.2 ≠ .missing)
    (targetPresent : ∀ entry ∈ target.values, entry.2 ≠ .missing) :
    path ∈ differingPaths source target ↔
      ∃ leaf, ¬((path, leaf) ∈ source.values ↔
        (path, leaf) ∈ target.values) := by
  rw [differingPaths, List.mem_filter, mem_comparedPaths, bne_iff_ne]
  constructor
  · rintro ⟨inSource | inTarget, different⟩
    · obtain ⟨⟨_, leaf⟩, member, rfl⟩ := List.mem_map.mp inSource
      refine ⟨leaf, fun same => different ?_⟩
      rw [source.get_of_mem member, target.get_of_mem (same.mp member)]
    · obtain ⟨⟨_, leaf⟩, member, rfl⟩ := List.mem_map.mp inTarget
      refine ⟨leaf, fun same => different ?_⟩
      rw [source.get_of_mem (same.mpr member), target.get_of_mem member]
  · rintro ⟨leaf, different⟩
    by_cases inSource : (path, leaf) ∈ source.values
    · refine ⟨.inl (List.mem_map.mpr ⟨_, inSource, rfl⟩), fun same => ?_⟩
      rw [source.get_of_mem inSource] at same
      have inTarget := target.mem_of_get
        (same ▸ sourcePresent _ inSource)
      rw [← same] at inTarget
      exact different ⟨fun _ => inTarget, fun _ => inSource⟩
    · have inTarget : (path, leaf) ∈ target.values := by
        by_contra absent
        exact different ⟨fun member => absurd member inSource,
          fun member => absurd member absent⟩
      refine ⟨.inr (List.mem_map.mpr ⟨_, inTarget, rfl⟩), fun same => ?_⟩
      rw [target.get_of_mem inTarget] at same
      have alsoSource := source.mem_of_get
        (same ▸ targetPresent _ inTarget)
      rw [same] at alsoSource
      exact inSource alsoSource

section Agreement

variable [PythonRuntime]

/-! ## The part of each field -/

/-- The leaves that a business field is projected to. -/
def fieldPart (record : InventoryRecord) : ReconciliationField → Projection
  | .name => [(text "name", .text record.name)]
  | .quantity =>
      [(text "quantity", .integer record.quantity record.quantity_isInt64)]
  | .unitPrice =>
      [(text "unit_price/currency", .text record.unitPrice.currency.value),
        (text "unit_price/amount", .moneyAmount record.unitPrice)]
  | .updatedAt => [(text "updated_at", .timestamp record.updatedAt)]
  | .attributes => record.attributes.items.map attributeLeaf

theorem mem_documentLeaves {record : InventoryRecord}
    {entry : Text × ComparisonValue} :
    entry ∈ documentLeaves record ↔ ∃ field, entry ∈ fieldPart record field := by
  rw [documentLeaves, mem_sortedBy, List.mem_append]
  constructor
  · rintro (inFields | inAttributes)
    · simp only [fieldLeaves, List.mem_cons, List.not_mem_nil, or_false]
        at inFields
      rcases inFields with rfl | rfl | rfl | rfl | rfl
      · exact ⟨.name, List.mem_cons_self⟩
      · exact ⟨.quantity, List.mem_cons_self⟩
      · exact ⟨.updatedAt, List.mem_cons_self⟩
      · exact ⟨.unitPrice, List.mem_cons_self⟩
      · exact ⟨.unitPrice, List.mem_cons_of_mem _ List.mem_cons_self⟩
    · exact ⟨.attributes, inAttributes⟩
  · rintro ⟨field, member⟩
    cases field with
    | attributes => exact .inr member
    | name | quantity | unitPrice | updatedAt =>
        left
        simp only [fieldPart, List.mem_cons, List.not_mem_nil, or_false]
          at member
        simp only [fieldLeaves, List.mem_cons]
        tauto

theorem fieldPart_topLevel {record : InventoryRecord}
    {field : ReconciliationField} {entry : Text × ComparisonValue}
    (member : entry ∈ fieldPart record field) :
    topLevelField entry.1 = text field.value := by
  cases field with
  | attributes =>
      obtain ⟨item, _, rfl⟩ := List.mem_map.mp member
      rfl
  | name | quantity | unitPrice | updatedAt =>
      simp only [fieldPart, List.mem_cons, List.not_mem_nil, or_false] at member
      rcases member with rfl | rfl <;> dsimp only <;> decide

/-- The leaves below a field are the part of the field. -/
theorem mem_documentLeaves_of {record : InventoryRecord}
    {field : ReconciliationField} {entry : Text × ComparisonValue}
    (below : topLevelField entry.1 = text field.value) :
    entry ∈ documentLeaves record ↔ entry ∈ fieldPart record field := by
  rw [mem_documentLeaves]
  constructor
  · rintro ⟨other, member⟩
    have same : other = field := fieldName_injective
      ((fieldPart_topLevel member).symm.trans below)
    exact same ▸ member
  · exact fun member => ⟨field, member⟩

theorem fieldPart_present {record : InventoryRecord}
    {field : ReconciliationField} {entry : Text × ComparisonValue}
    (member : entry ∈ fieldPart record field) : entry.2 ≠ .missing := by
  cases field with
  | attributes =>
      obtain ⟨item, _, rfl⟩ := List.mem_map.mp member
      intro missing
      cases missing
  | name | quantity | unitPrice | updatedAt =>
      simp only [fieldPart, List.mem_cons, List.not_mem_nil, or_false] at member
      rcases member with rfl | rfl <;> intro missing <;> cases missing

/-- Attributes with the same items are the same. -/
theorem attributes_eq {left right : InventoryAttributes}
    (same : ∀ item, item ∈ left.items ↔ item ∈ right.items) : left = right := by
  have distinct (attributes : InventoryAttributes) :
      attributes.items.Nodup :=
    List.Nodup.of_map Prod.fst (attributes.valid.sorted.imp ne_of_lt)
  have perm := (List.perm_ext_iff_of_nodup (distinct left)
    (distinct right)).mpr same
  have sorted (attributes : InventoryAttributes) :
      attributes.items.Pairwise fun left right => left.1 < right.1 :=
    List.pairwise_map.mp attributes.valid.sorted
  exact InventoryAttributes.ext (perm.eq_of_pairwise
    (fun _ _ _ _ first second => absurd first (lt_asymm second))
    (sorted left) (sorted right))

/-- Two records hold the same value in a field. -/
def SameField (source target : InventoryRecord) : ReconciliationField → Prop
  | .name => source.name = target.name
  | .quantity => source.quantity = target.quantity
  | .unitPrice => source.unitPrice = target.unitPrice
  | .updatedAt => source.updatedAt = target.updatedAt
  | .attributes => source.attributes = target.attributes

/-- The leaves of a field determine its value. -/
theorem sameField_iff {source target : InventoryRecord}
    {field : ReconciliationField} :
    SameField source target field ↔
      ∀ entry, entry ∈ fieldPart source field ↔
        entry ∈ fieldPart target field := by
  constructor
  · intro same entry
    cases field <;> simp only [SameField] at same <;>
      simp only [fieldPart, same]
  · intro same
    cases field with
    | name =>
        have member := (same _).mp List.mem_cons_self
        simp only [fieldPart, List.mem_singleton, Prod.mk.injEq, true_and,
          ComparisonValue.text.injEq] at member
        exact member
    | quantity =>
        have member := (same _).mp List.mem_cons_self
        simp only [fieldPart, List.mem_singleton, Prod.mk.injEq, true_and,
          ComparisonValue.integer.injEq] at member
        exact member
    | unitPrice =>
        have member := (same _).mp
          (List.mem_cons_of_mem _ List.mem_cons_self)
        have apart : text "unit_price/amount" ≠ text "unit_price/currency" := by
          decide
        simp only [fieldPart, List.mem_cons, List.not_mem_nil, or_false,
          Prod.mk.injEq, apart, false_and, false_or, true_and,
          ComparisonValue.moneyAmount.injEq] at member
        exact member
    | updatedAt =>
        have member := (same _).mp List.mem_cons_self
        simp only [fieldPart, List.mem_singleton, Prod.mk.injEq, true_and,
          ComparisonValue.timestamp.injEq] at member
        exact member
    | attributes =>
        have injective : Function.Injective attributeLeaf := by
          intro left right leaves
          simp only [attributeLeaf, Prod.mk.injEq,
            ComparisonValue.attributeText.injEq] at leaves
          exact Prod.ext (attributePath_injective leaves.1) leaves.2
        apply attributes_eq
        intro item
        have member := same (attributeLeaf item)
        simp only [fieldPart, List.mem_map_of_injective injective] at member
        exact member

theorem mem_mismatchOf {α : Type} [DecidableEq α]
    {build : (source target : α) → source ≠ target → FieldMismatch}
    {source target : α} {mismatch : FieldMismatch} :
    mismatch ∈ mismatchOf build source target ↔
      ∃ differs, mismatch = build source target differs := by
  rw [mismatchOf]
  split
  next equal => simp [equal]
  next differs => simp [differs]

/-- The fields in which two records differ. -/
theorem mem_mismatchFields {source target : InventoryRecord}
    {field : ReconciliationField} :
    field ∈ (fieldMismatches source target).map FieldMismatch.field ↔
      ¬SameField source target field := by
  simp only [List.mem_map, fieldMismatches, List.mem_append, mem_mismatchOf]
  constructor
  · rintro ⟨_, ((((⟨differs, rfl⟩ | ⟨differs, rfl⟩) | ⟨differs, rfl⟩) |
      ⟨differs, rfl⟩) | ⟨differs, rfl⟩), rfl⟩ <;> exact differs
  · intro differs
    cases field with
    | name => exact ⟨_, .inl (.inl (.inl (.inl ⟨differs, rfl⟩))), rfl⟩
    | quantity => exact ⟨_, .inl (.inl (.inl (.inr ⟨differs, rfl⟩))), rfl⟩
    | unitPrice => exact ⟨_, .inl (.inl (.inr ⟨differs, rfl⟩)), rfl⟩
    | updatedAt => exact ⟨_, .inl (.inr ⟨differs, rfl⟩), rfl⟩
    | attributes => exact ⟨_, .inr ⟨differs, rfl⟩, rfl⟩

/-! ## Both comparisons -/

/-- Documents of records differ at the paths of the fields that differ. -/
theorem topLevel_differingPaths {source target : NormalizedRecord}
    (sourceDocumented : source.Documented)
    (targetDocumented : target.Documented) {name : Text} :
    name ∈ (differingPaths source.document target.document).map
        topLevelField ↔
      ∃ field : ReconciliationField, name = text field.value ∧
        ¬SameField source.record target.record field := by
  have present (normalized : NormalizedRecord)
      (documented : normalized.Documented) :
      ∀ entry ∈ normalized.document.values, entry.2 ≠ .missing := by
    intro entry member
    rw [documented, mem_documentLeaves] at member
    exact fieldPart_present member.choose_spec
  rw [List.mem_map]
  simp only [mem_differingPaths (present _ sourceDocumented)
    (present _ targetDocumented)]
  rw [sourceDocumented, targetDocumented]
  constructor
  · rintro ⟨path, ⟨leaf, different⟩, rfl⟩
    have below : ∃ field : ReconciliationField,
        topLevelField path = text field.value := by
      by_contra outside
      refine different ⟨fun member => ?_, fun member => ?_⟩ <;>
      · obtain ⟨field, inside⟩ := mem_documentLeaves.mp member
        exact absurd ⟨field, fieldPart_topLevel inside⟩ outside
    obtain ⟨field, below⟩ := below
    refine ⟨field, below, fun same => different ?_⟩
    rw [mem_documentLeaves_of below, mem_documentLeaves_of below]
    exact sameField_iff.mp same (path, leaf)
  · rintro ⟨field, rfl, differs⟩
    rw [sameField_iff, not_forall] at differs
    obtain ⟨⟨path, leaf⟩, different⟩ := differs
    have below : topLevelField path = text field.value := by
      by_contra outside
      exact different ⟨fun member => absurd (fieldPart_topLevel member) outside,
        fun member => absurd (fieldPart_topLevel member) outside⟩
    refine ⟨path, ⟨leaf, ?_⟩, below⟩
    rwa [mem_documentLeaves_of below, mem_documentLeaves_of below]

/--
For observations that normalize to records of one SKU, the document comparison
returns, and it names the same top-level fields as the record comparison.
-/
theorem comparisons_agree {left right : SourceObservation}
    {source target : NormalizedRecord}
    (leftNormalized : normalizeObservation left = .ok (.record source))
    (rightNormalized : normalizeObservation right = .ok (.record target))
    (sameSku : source.record.sku = target.record.sku) :
    ∃ differences mismatches,
      buildFieldDifferences source.document target.document =
        .ok differences ∧
      differencesBetween source.record target.record = .ok mismatches ∧
      (differences = [] ↔ mismatches = []) ∧
      ∀ name, name ∈ differences.map (fun difference =>
          topLevelField difference.field) ↔
        name ∈ mismatches.map fun mismatch => text mismatch.field.value := by
  have sourceDocumented : source.Documented :=
    normalizeObservation_document leftNormalized
  have targetDocumented : target.Documented :=
    normalizeObservation_document rightNormalized
  obtain ⟨differences, compared, fields⟩ :=
    sourceDocumented.compares targetDocumented
  have named : ∀ name, name ∈ differences.map (fun difference =>
        topLevelField difference.field) ↔
      name ∈ (fieldMismatches source.record target.record).map
        fun mismatch => text mismatch.field.value := by
    intro name
    have tops : differences.map (fun difference =>
        topLevelField difference.field) =
        (differingPaths source.document target.document).map
          topLevelField := by
      rw [← fields, List.map_map]
      rfl
    rw [tops, topLevel_differingPaths sourceDocumented targetDocumented]
    simp only [← mem_mismatchFields, List.mem_map]
    constructor
    · rintro ⟨_, rfl, mismatch, member, rfl⟩
      exact ⟨mismatch, member, rfl⟩
    · rintro ⟨mismatch, member, rfl⟩
      exact ⟨mismatch.field, rfl, mismatch, member, rfl⟩
  refine ⟨differences, _, compared, ?_, ?_, named⟩
  · rw [differencesBetween, beq_iff_eq.mpr sameSku]
    rfl
  · rw [← List.map_eq_nil_iff (f := fun difference : FieldDifference =>
        topLevelField difference.field),
      ← List.map_eq_nil_iff (l := fieldMismatches _ _)
        (f := fun mismatch => text mismatch.field.value),
      List.eq_nil_iff_forall_not_mem, List.eq_nil_iff_forall_not_mem]
    exact forall_congr' fun name => not_congr (named name)

end Agreement

/-! ## A concrete pair -/

section Sample

attribute [local instance] asciiRuntime

/-- The widget at another price, with one more attribute. -/
def repricedObservation : SourceObservation where
  position := 1
  connectorId := ⟨text "con_target", targetConnector_valid⟩
  payload := .mapping (widgetFields "SKU-1" "key-2" "Widget" "EUR"
    "1.250" "2024-01-02T03:04:05.000006Z"
    [(text "color", .string (text "red")),
      (text "size", .string (text "xl"))])
    (by decide +kernel)

/-- The record that an observation normalizes to. -/
def normalizedRecord (observation : SourceObservation) :
    Option NormalizedRecord :=
  (normalizeObservation observation).toOption.bind
    NormalizationEntry.asRecord

theorem normalizeObservation_of_record {observation : SourceObservation}
    {normalized : NormalizedRecord}
    (found : normalizedRecord observation = some normalized) :
    normalizeObservation observation = .ok (.record normalized) := by
  obtain ⟨entry, returned, recorded⟩ := Option.bind_eq_some_iff.mp found
  rw [toOption_eq_some.mp returned]
  cases entry with
  | record other =>
      cases recorded
      rfl
  | quarantined other => cases recorded

/-- The two prices and the attributes are named by both comparisons. -/
theorem comparisons_agree_sample :
    ∃ source target,
      normalizeObservation sampleObservation = .ok (.record source) ∧
      normalizeObservation repricedObservation = .ok (.record target) ∧
      ∃ differences mismatches,
        buildFieldDifferences source.document target.document =
          .ok differences ∧
        differencesBetween source.record target.record = .ok mismatches ∧
        (differences = [] ↔ mismatches = []) ∧
        ∀ name, name ∈ differences.map (fun difference =>
            topLevelField difference.field) ↔
          name ∈ mismatches.map fun mismatch => text mismatch.field.value := by
  have sameSku : ((normalizedRecord sampleObservation).any fun source =>
      (normalizedRecord repricedObservation).any fun target =>
        source.record.sku = target.record.sku) = true := by
    decide
  cases foundSource : normalizedRecord sampleObservation with
  | none =>
      rw [foundSource] at sameSku
      cases sameSku
  | some source =>
      cases foundTarget : normalizedRecord repricedObservation with
      | none =>
          rw [foundSource, foundTarget] at sameSku
          cases sameSku
      | some target =>
          rw [foundSource, foundTarget] at sameSku
          have left := normalizeObservation_of_record foundSource
          have right := normalizeObservation_of_record foundTarget
          exact ⟨source, target, left, right,
            comparisons_agree left right (of_decide_eq_true sameSku)⟩

end Sample

end ParityGrid.Domain
