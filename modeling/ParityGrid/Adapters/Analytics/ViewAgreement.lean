import ParityGrid.Adapters.Analytics.ReconciliationViews
import ParityGrid.Domain.Rebuilding

/-!
# The views agree with the domain

The outcomes view has one row for every SKU, and it is the row that the records
of the SKU determine.
-/

namespace ParityGrid.Adapters.Analytics

open ParityGrid.Foundation
open ParityGrid.Domain (FieldMismatch InventoryAttributes InventoryRecord
  ReconciliationClassification ReconciliationField ReconciliationOutcome
  classifyRecords determinedClassification fieldMismatches recordOrderKey
  mismatchOf)

section Agreement

variable [PythonRuntime]

/-! ## What the records of a SKU determine -/

/-- The mismatches that the records of a key determine. -/
def determinedMismatches :
    (sources targets : List InventoryRecord) → List FieldMismatch
  | [source], [target] => fieldMismatches source target
  | _, _ => []

theorem determinedMismatches_perm
    {sources others targets rest : List InventoryRecord}
    (sourcePerm : sources.Perm others) (targetPerm : targets.Perm rest) :
    determinedMismatches sources targets =
      determinedMismatches others rest := by
  have sourceLength := sourcePerm.length_eq
  have targetLength := targetPerm.length_eq
  match sources, targets with
  | [], _ =>
      cases List.nil_perm.mp sourcePerm
      rfl
  | _ :: _ :: _, _ =>
      match others, sourceLength with
      | _ :: _ :: _, _ => rfl
  | [source], [] =>
      cases List.singleton_perm.mp sourcePerm
      cases List.nil_perm.mp targetPerm
      rfl
  | [source], [target] =>
      cases List.singleton_perm.mp sourcePerm
      cases List.singleton_perm.mp targetPerm
      rfl
  | [source], _ :: _ :: _ =>
      cases List.singleton_perm.mp sourcePerm
      match rest, targetLength with
      | _ :: _ :: _, _ => rfl

/-- The records of one key are classified as they determine. -/
theorem classifyRecords_eq {sources targets : List InventoryRecord}
    {sku : Text} (sourcesShare : ∀ record ∈ sources, record.sku = sku)
    (targetsShare : ∀ record ∈ targets, record.sku = sku) :
    classifyRecords sources targets =
      .ok (determinedClassification sources targets,
        determinedMismatches sources targets) := by
  rcases Domain.classifyRecords_determined sourcesShare targetsShare with
    ⟨mismatches, classified, _⟩
  rw [classified]
  match sources, targets with
  | [], [] => cases classified; rfl
  | [], [_] => cases classified; rfl
  | [_], [] => cases classified; rfl
  | [], _ :: _ :: _ => cases classified; rfl
  | [_], _ :: _ :: _ => cases classified; rfl
  | _ :: _ :: _, [] => cases classified; rfl
  | _ :: _ :: _, [_] => cases classified; rfl
  | _ :: _ :: _, _ :: _ :: _ => cases classified; rfl
  | [source], [target] =>
      rcases bind_eq_ok.mp classified with ⟨found, compared, same⟩
      rcases bind_eq_ok.mp compared with ⟨_, _, made⟩
      cases made
      rw [← (Prod.mk.inj (Except.ok.inj same)).2]
      rfl

/-- Some mismatch of a field. -/
def differsIn (field : ReconciliationField)
    (mismatches : List FieldMismatch) : Bool :=
  decide (field ∈ mismatches.map FieldMismatch.field)

/-- The row that the records of a key determine. -/
def determinedRow (sku : Text) (sources targets : List InventoryRecord) :
    OutcomeRow :=
  let mismatches := determinedMismatches sources targets
  { sku
    sourceCount := sources.length
    targetCount := targets.length
    classification := text (determinedClassification sources targets).value
    nameMismatch := differsIn .name mismatches
    quantityMismatch := differsIn .quantity mismatches
    unitPriceMismatch := differsIn .unitPrice mismatches
    updatedAtMismatch := differsIn .updatedAt mismatches
    attributesMismatch := differsIn .attributes mismatches }

/-- The row of an outcome. -/
def OutcomeRow.ofOutcome (outcome : ReconciliationOutcome) : OutcomeRow where
  sku := outcome.sku
  sourceCount := outcome.sourceRecords.length
  targetCount := outcome.targetRecords.length
  classification := text outcome.classification.value
  nameMismatch := differsIn .name outcome.mismatches
  quantityMismatch := differsIn .quantity outcome.mismatches
  unitPriceMismatch := differsIn .unitPrice outcome.mismatches
  updatedAtMismatch := differsIn .updatedAt outcome.mismatches
  attributesMismatch := differsIn .attributes outcome.mismatches

/-- An outcome has the row that its records determine. -/
theorem OutcomeRow.ofOutcome_eq {sources targets : List InventoryRecord}
    {outcome : ReconciliationOutcome}
    (created : ReconciliationOutcome.create sources targets = .ok outcome) :
    ofOutcome outcome = determinedRow outcome.sku sources targets := by
  have accepted := ReconciliationOutcome.create_eq_ok.mp created
  rcases Domain.outcomeFields_form accepted with
    ⟨sourceForm, targetForm, share, classified⟩
  have sourcePerm : outcome.sourceRecords.Perm sources := by
    rw [sourceForm]
    exact sortedBy_perm _ _
  have targetPerm : outcome.targetRecords.Perm targets := by
    rw [targetForm]
    exact sortedBy_perm _ _
  rw [classifyRecords_eq
    (fun record member => share record
      (List.mem_append_left _ (sourcePerm.mem_iff.mp member)))
    (fun record member => share record
      (List.mem_append_right _ (targetPerm.mem_iff.mp member)))] at classified
  rcases Prod.mk.inj (Except.ok.inj classified) with ⟨kind, mismatches⟩
  rw [Domain.determinedClassification_perm sourcePerm targetPerm] at kind
  rw [determinedMismatches_perm sourcePerm targetPerm] at mismatches
  simp only [ofOutcome, determinedRow, kind, mismatches,
    sourcePerm.length_eq, targetPerm.length_eq]

/-! ## What the view computes -/

/-- `to_json` writes the attributes as the list of their pairs. -/
def attributesDocument (items : List (Text × Text)) : JsonValue :=
  .array (items.map fun item =>
    .object [(text "key", .string item.1), (text "value", .string item.2)])

omit [PythonRuntime] in
theorem attributesDocument_injective :
    Function.Injective attributesDocument := by
  intro left right equal
  refine List.map_injective_iff.mpr ?_ (JsonValue.array.inj equal)
  rintro ⟨key, value⟩ ⟨other, child⟩ same
  simp only [JsonValue.object.injEq, List.cons.injEq, Prod.mk.injEq,
    JsonValue.string.injEq, true_and, and_true] at same
  rw [same.1, same.2]

omit [PythonRuntime] in
theorem renderedTimestamp_eq (timestamp : Domain.UtcTimestamp) :
    renderedTimestamp timestamp = timestamp.toText :=
  rfl

variable {toJson : List (Text × Text) → Text}

/-- The loaded row of a record, as the views show it. -/
def shownRow (toJson : List (Text × Text) → Text)
    (loaded : Int × InventoryRecord) : SourceRow :=
  sourceSelect toJson (TableRow.ofRecord loaded.1 loaded.2)

theorem mem_mismatchOf {α : Type} [DecidableEq α]
    (build : (source target : α) → source ≠ target → FieldMismatch)
    {other : ReconciliationField}
    (named : ∀ source target differs,
      (build source target differs).field = other)
    {source target : α} {field : ReconciliationField} :
    field ∈ (mismatchOf build source target).map FieldMismatch.field ↔
      source ≠ target ∧ field = other := by
  unfold mismatchOf
  split
  next equal => simp [equal]
  next differs => simp [differs, named]

/-- The mismatches of two records are the columns that differ. -/
theorem differsIn_fieldMismatches (source target : InventoryRecord) :
    differsIn .name (fieldMismatches source target) =
        decide (source.name ≠ target.name) ∧
      differsIn .quantity (fieldMismatches source target) =
        decide (source.quantity ≠ target.quantity) ∧
      differsIn .unitPrice (fieldMismatches source target) =
        decide (source.unitPrice ≠ target.unitPrice) ∧
      differsIn .updatedAt (fieldMismatches source target) =
        decide (source.updatedAt ≠ target.updatedAt) ∧
      differsIn .attributes (fieldMismatches source target) =
        decide (source.attributes ≠ target.attributes) := by
  simp only [differsIn, fieldMismatches, List.map_append, List.mem_append,
    mem_mismatchOf FieldMismatch.name fun _ _ _ => rfl,
    mem_mismatchOf FieldMismatch.quantity fun _ _ _ => rfl,
    mem_mismatchOf FieldMismatch.unitPrice fun _ _ _ => rfl,
    mem_mismatchOf FieldMismatch.updatedAt fun _ _ _ => rfl,
    mem_mismatchOf FieldMismatch.attributes fun _ _ _ => rfl]
  refine ⟨?_, ?_, ?_, ?_, ?_⟩ <;> simp

/-- Equal attributes are those with equal texts. -/
def RendersApart (toJson : List (Text × Text) → Text) : Prop :=
  ∀ left right : InventoryAttributes,
    toJson left.items = toJson right.items → left = right

/-- The price columns determine the price. -/
theorem price_ne_iff (source target : InventoryRecord) :
    source.unitPrice ≠ target.unitPrice ↔
      source.unitPrice.minorUnits ≠ target.unitPrice.minorUnits ∨
        source.unitPrice.currency.value ≠ target.unitPrice.currency.value ∨
        source.unitPrice.minorUnitExponent ≠
          target.unitPrice.minorUnitExponent := by
  constructor
  · intro differs
    by_contra same
    simp only [not_or, not_not] at same
    exact differs (Domain.Money.ext (Domain.CurrencyCode.ext same.2.1)
      same.2.2 same.1)
  · rintro (units | currency | exponent) same
    · exact units (congrArg Domain.Money.minorUnits same)
    · exact currency (congrArg (fun money => money.currency.value) same)
    · exact exponent (congrArg Domain.Money.minorUnitExponent same)

/-- The group of a SKU, if it has records. -/
def sideOf (toJson : List (Text × Text) → Text) (sku : Text)
    (loaded : List (Int × InventoryRecord)) : Option SideRow :=
  if loaded = [] then none
  else some (sideRow sku (loaded.map (shownRow toJson)))

theorem comparedRow_of {sku : Text}
    {sources targets : List (Int × InventoryRecord)}
    {row : OuterRow SideRow SideRow}
    (joined : OuterRow.of (sideOf toJson sku sources)
      (sideOf toJson sku targets) = some row) :
    sku = (comparedRow row).sku ∧
      (comparedRow row).sourceCount = (sources.map Prod.snd).length ∧
      (comparedRow row).targetCount = (targets.map Prod.snd).length := by
  match sources, targets with
  | [], [] => cases joined
  | [], _ :: _ =>
      cases joined
      simp [comparedRow, OuterRow.left?, OuterRow.right?, OuterRow.coalesce,
        sideRow]
  | _ :: _, [] =>
      cases joined
      simp [comparedRow, OuterRow.left?, OuterRow.right?, OuterRow.coalesce,
        sideRow]
  | _ :: _, _ :: _ =>
      cases joined
      simp [comparedRow, OuterRow.left?, OuterRow.right?, OuterRow.coalesce,
        sideRow]

/-- Counts other than one on both sides decide without any column. -/
theorem outcomeRow_counts {row : ComparedRow} {sku : Text}
    {sources targets : List InventoryRecord}
    (several : 1 < sources.length ∨ 1 < targets.length)
    (named : sku = row.sku)
    (sourceCount : row.sourceCount = sources.length)
    (targetCount : row.targetCount = targets.length) :
    outcomeRow row = determinedRow sku sources targets := by
  subst named
  have notSingle : ¬ (sources.length = 1 ∧ targets.length = 1) := by omega
  have none_ : determinedMismatches sources targets = [] := by
    match sources, targets with
    | [], _ => rfl
    | [_], [] => rfl
    | [_], _ :: _ :: _ => rfl
    | _ :: _ :: _, _ => rfl
    | [_], [_] => simp at several
  have kind : row.classification =
      text (determinedClassification sources targets).value := by
    unfold ComparedRow.classification determinedClassification
    rw [sourceCount, targetCount]
    simp only [← Nat.succ_le_iff, Nat.succ_eq_add_one, Nat.reduceAdd]
    by_cases source : 2 ≤ sources.length
    · by_cases target : 2 ≤ targets.length
      · rw [if_pos ⟨source, target⟩, if_pos ⟨source, target⟩]
        rfl
      · rw [if_neg fun both => target both.2, if_pos source,
          if_neg fun both => target both.2, if_pos source]
        rfl
    · have target : 2 ≤ targets.length := several.resolve_left source
      rw [if_neg fun both => source both.1, if_neg source, if_pos target,
        if_neg fun both => source both.1, if_neg source, if_pos target]
      rfl
  simp only [outcomeRow, determinedRow, sourceCount, targetCount, kind, none_,
    if_neg notSingle]
  rfl

omit [PythonRuntime] in
/-- One record on each side is classified by the columns. -/
theorem classification_single {row : ComparedRow}
    (sourceCount : row.sourceCount = 1) (targetCount : row.targetCount = 1) :
    row.classification =
      if row.nameMismatch || row.quantityMismatch || row.unitPriceMismatch ||
          row.updatedAtMismatch || row.attributesMismatch then
        text "field_mismatch"
      else text "match" := by
  simp [ComparedRow.classification, sourceCount, targetCount]

/-- One record on each side is shown by its columns. -/
theorem outcomeRow_single {row : ComparedRow} {sku : Text}
    {source target : InventoryRecord} (named : row.sku = sku)
    (sourceCount : row.sourceCount = 1) (targetCount : row.targetCount = 1)
    (kind : row.classification =
      text (determinedClassification [source] [target]).value)
    (name : row.nameMismatch =
      differsIn .name (fieldMismatches source target))
    (quantity : row.quantityMismatch =
      differsIn .quantity (fieldMismatches source target))
    (price : row.unitPriceMismatch =
      differsIn .unitPrice (fieldMismatches source target))
    (updated : row.updatedAtMismatch =
      differsIn .updatedAt (fieldMismatches source target))
    (attributes : row.attributesMismatch =
      differsIn .attributes (fieldMismatches source target)) :
    outcomeRow row = determinedRow sku [source] [target] := by
  simp only [outcomeRow, named, sourceCount, targetCount, kind, name, quantity,
    price, updated, attributes, and_self, if_true]
  rfl

/-- The row of one record on each side. -/
def pairedRow (toJson : List (Text × Text) → Text) (sku : Text)
    (source target : Int × InventoryRecord) : ComparedRow :=
  comparedRow (.both (sideRow sku [shownRow toJson source])
    (sideRow sku [shownRow toJson target]))

theorem pairedRow_counts (toJson : List (Text × Text) → Text) (sku : Text)
    (source target : Int × InventoryRecord) :
    (pairedRow toJson sku source target).sku = sku ∧
      (pairedRow toJson sku source target).sourceCount = 1 ∧
      (pairedRow toJson sku source target).targetCount = 1 :=
  ⟨rfl, rfl, rfl⟩

/-- The columns of one record on each side differ as its fields do. -/
theorem pairedRow_differs (apart : RendersApart toJson) (sku : Text)
    (source target : Int × InventoryRecord) :
    (pairedRow toJson sku source target).nameMismatch =
        decide (source.2.name ≠ target.2.name) ∧
      (pairedRow toJson sku source target).quantityMismatch =
        decide (source.2.quantity ≠ target.2.quantity) ∧
      (pairedRow toJson sku source target).unitPriceMismatch =
        decide (source.2.unitPrice ≠ target.2.unitPrice) ∧
      (pairedRow toJson sku source target).updatedAtMismatch =
        decide (source.2.updatedAt ≠ target.2.updatedAt) ∧
      (pairedRow toJson sku source target).attributesMismatch =
        decide (source.2.attributes ≠ target.2.attributes) := by
  refine ⟨?_, ?_, ?_, ?_, ?_⟩
  · have column : (pairedRow toJson sku source target).nameMismatch =
        distinctFrom (some source.2.name) (some target.2.name) := rfl
    rw [column, distinctFrom_some]
  · have column : (pairedRow toJson sku source target).quantityMismatch =
        distinctFrom (some source.2.quantity) (some target.2.quantity) := rfl
    rw [column, distinctFrom_some]
  · have columns : (pairedRow toJson sku source target).unitPriceMismatch =
        (distinctFrom (some source.2.unitPrice.minorUnits)
            (some target.2.unitPrice.minorUnits) ||
          distinctFrom (some source.2.unitPrice.currency.value)
            (some target.2.unitPrice.currency.value) ||
          distinctFrom (some source.2.unitPrice.minorUnitExponent)
            (some target.2.unitPrice.minorUnitExponent)) := rfl
    rw [columns, Bool.eq_iff_iff, decide_eq_true_eq, price_ne_iff]
    simp only [distinctFrom_some, Bool.or_eq_true, decide_eq_true_eq,
      or_assoc]
  · have shown (record : Int × InventoryRecord) :
        (sideRow sku [shownRow toJson record]).updatedAt =
          some record.2.updatedAt.toText := rfl
    simp only [pairedRow, comparedRow, OuterRow.left?, OuterRow.right?,
      Option.bind_some, shown, distinctFrom_some]
    exact decide_eq_decide.mpr Domain.UtcTimestamp.toText_injective.ne_iff
  · have column : (pairedRow toJson sku source target).attributesMismatch =
        distinctFrom (some (toJson source.2.attributes.items))
          (some (toJson target.2.attributes.items)) := rfl
    rw [column, distinctFrom_some]
    refine decide_eq_decide.mpr (not_congr ⟨apart _ _, fun same => ?_⟩)
    rw [same]

/-- One record on each side is shown as the two records determine. -/
theorem outcomeRow_paired (apart : RendersApart toJson) {sku : Text}
    {source target : Int × InventoryRecord}
    (sourceSku : source.2.sku = sku) (targetSku : target.2.sku = sku) :
    outcomeRow (pairedRow toJson sku source target) =
      determinedRow sku [source.2] [target.2] := by
  rcases pairedRow_counts toJson sku source target with
    ⟨named, sourceCount, targetCount⟩
  rcases pairedRow_differs apart sku source target with
    ⟨name, quantity, price, updated, attributes⟩
  rcases differsIn_fieldMismatches source.2 target.2 with
    ⟨alsoName, alsoQuantity, alsoPrice, alsoUpdated, alsoAttributes⟩
  have content : source.2.content = target.2.content ↔
      source.2.name = target.2.name ∧ source.2.quantity = target.2.quantity ∧
        source.2.unitPrice = target.2.unitPrice ∧
        source.2.updatedAt = target.2.updatedAt ∧
        source.2.attributes = target.2.attributes := by
    simp [InventoryRecord.content, sourceSku, targetSku]
  refine outcomeRow_single named sourceCount targetCount ?_
    (name.trans alsoName.symm) (quantity.trans alsoQuantity.symm) (price.trans alsoPrice.symm)
    (updated.trans alsoUpdated.symm) (attributes.trans alsoAttributes.symm)
  have determined : determinedClassification [source.2] [target.2] =
      if source.2.content = target.2.content then .match_
      else .fieldMismatch := by
    simp [determinedClassification]
  rw [classification_single sourceCount targetCount, determined, name,
    quantity, price, updated, attributes]
  by_cases same : source.2.content = target.2.content
  · rw [if_pos same]
    rw [content] at same
    simp only [same, ne_eq, not_true_eq_false, decide_false, Bool.or_self,
      Bool.false_eq_true, if_false]
    rfl
  · rw [if_neg same, if_pos]
    · rfl
    · simp only [Bool.or_eq_true, decide_eq_true_eq]
      by_contra none_
      simp only [not_or, not_not, ne_eq, and_assoc] at none_
      exact same (content.mpr none_)

/-- The joined row of a SKU shows what its records determine. -/
theorem outcomeRow_of (apart : RendersApart toJson) {sku : Text}
    {sources targets : List (Int × InventoryRecord)}
    (sourcesShare : ∀ loaded ∈ sources, loaded.2.sku = sku)
    (targetsShare : ∀ loaded ∈ targets, loaded.2.sku = sku)
    {row : OuterRow SideRow SideRow}
    (joined : OuterRow.of (sideOf toJson sku sources)
      (sideOf toJson sku targets) = some row) :
    outcomeRow (comparedRow row) =
      determinedRow sku (sources.map Prod.snd) (targets.map Prod.snd) := by
  rcases comparedRow_of joined with ⟨named, sourceCount, targetCount⟩
  by_cases many : 1 < sources.length ∨ 1 < targets.length
  · exact outcomeRow_counts (by simpa using many) named sourceCount targetCount
  · rcases sources with _ | ⟨source, _ | ⟨_, _⟩⟩ <;>
      rcases targets with _ | ⟨target, _ | ⟨_, _⟩⟩ <;> simp at many
    · cases joined
    · cases joined
      rfl
    · cases joined
      rfl
    · cases joined
      exact outcomeRow_paired apart (sourcesShare _ List.mem_cons_self)
        (targetsShare _ List.mem_cons_self)

/-! ## The whole view -/

/-- The loaded records of a SKU. -/
def loadedAt (sku : Text) (loaded : List (Int × InventoryRecord)) :
    List (Int × InventoryRecord) :=
  loaded.filter fun row => row.2.sku = sku

/-- The table of loaded records. -/
def tableOf (loaded : List (Int × InventoryRecord)) : List TableRow :=
  loaded.map fun row => TableRow.ofRecord row.1 row.2

theorem shownTable (loaded : List (Int × InventoryRecord)) :
    (tableOf loaded).map (sourceSelect toJson) =
      loaded.map (shownRow toJson) := by
  rw [tableOf, List.map_map]
  rfl

/-- The SKUs of both sides, each once and in order. -/
def allSkus (reference target : List (Int × InventoryRecord)) : List Text :=
  sorted ((reference ++ target).map fun row => row.2.sku).dedup

theorem allSkus_strict (reference target : List (Int × InventoryRecord)) :
    (allSkus reference target).Pairwise (· < ·) := by
  have distinct := List.nodup_dedup
    ((reference ++ target).map fun row => row.2.sku)
  rw [← List.map_id (_ : List Text).dedup] at distinct
  exact sortedBy_strict distinct

theorem mem_allSkus {reference target : List (Int × InventoryRecord)}
    {sku : Text} :
    sku ∈ allSkus reference target ↔
      (∃ row ∈ reference, row.2.sku = sku) ∨
        ∃ row ∈ target, row.2.sku = sku := by
  rw [allSkus, mem_sorted, List.mem_dedup, List.map_append, List.mem_append,
    List.mem_map, List.mem_map]

theorem shown_skus (loaded : List (Int × InventoryRecord)) :
    (loaded.map (shownRow toJson)).map SourceRow.sku =
      loaded.map fun row => row.2.sku := by
  rw [List.map_map]
  rfl

theorem find?_sideRows (loaded : List (Int × InventoryRecord)) (sku : Text) :
    (sideRows (loaded.map (shownRow toJson))).find?
        (fun row => row.sku = sku) =
      sideOf toJson sku (loadedAt sku loaded) := by
  have group : (loaded.map (shownRow toJson)).filter
      (fun row => row.sku = sku) =
        (loadedAt sku loaded).map (shownRow toJson) := by
    rw [List.filter_map]
    rfl
  have present : sku ∈ (loaded.map (shownRow toJson)).map SourceRow.sku ↔
      loadedAt sku loaded ≠ [] := by
    rw [shown_skus, List.mem_map, ne_eq, loadedAt, List.filter_eq_nil_iff]
    simp
  rw [sideRows, find?_groupBy fun _ _ => rfl, group, sideOf]
  by_cases empty : loadedAt sku loaded = []
  · rw [if_pos empty, if_neg (mt present.mp (not_not_intro empty))]
  · rw [if_neg empty, if_pos (present.mpr empty)]

/-- The view has one row for every SKU, and it is the determined one. -/
theorem outcomesView_perm (apart : RendersApart toJson)
    (reference target : List (Int × InventoryRecord)) :
    (outcomesView toJson (tableOf reference) (tableOf target)).Perm
      ((allSkus reference target).map fun sku =>
        determinedRow sku ((loadedAt sku reference).map Prod.snd)
          ((loadedAt sku target).map Prod.snd)) := by
  have keys (loaded : List (Int × InventoryRecord)) :
      (sideRows (loaded.map (shownRow toJson))).map SideRow.sku =
        (loaded.map fun row => row.2.sku).dedup := by
    rw [sideRows, groupBy_keys fun _ _ => rfl, shown_skus]
  have distinct (loaded : List (Int × InventoryRecord)) :
      ((sideRows (loaded.map (shownRow toJson))).map SideRow.sku).Nodup := by
    rw [keys]
    exact List.nodup_dedup _
  have joined := fullOuterJoin_perm (distinct reference) (distinct target)
    ((allSkus_strict reference target).imp ne_of_lt) (fun sku => by
      rw [mem_allSkus, keys, keys, List.mem_dedup, List.mem_dedup,
        List.mem_map, List.mem_map])
  have rows := joined.map fun row => outcomeRow (comparedRow row)
  rw [outcomesView, shownTable, shownTable]
  refine rows.trans (.of_eq ?_)
  rw [List.map_filterMap]
  refine (List.filterMap_congr (g := some ∘ fun sku => determinedRow sku
    ((loadedAt sku reference).map Prod.snd)
    ((loadedAt sku target).map Prod.snd)) fun sku member => ?_).trans
      (congrFun List.filterMap_eq_map _)
  rw [find?_sideRows, find?_sideRows, Function.comp_apply]
  have share : ∀ loaded : List (Int × InventoryRecord),
      ∀ row ∈ loadedAt sku loaded, row.2.sku = sku := by
    intro loaded row inside
    exact of_decide_eq_true (List.mem_filter.mp inside).2
  cases made : OuterRow.of (sideOf toJson sku (loadedAt sku reference))
      (sideOf toJson sku (loadedAt sku target)) with
  | some row =>
      exact congrArg some (outcomeRow_of apart (share _) (share _) made)
  | none =>
      have side : ∀ loaded : List (Int × InventoryRecord),
          (∃ row ∈ loaded, row.2.sku = sku) →
            sideOf toJson sku (loadedAt sku loaded) ≠ none := by
        rintro loaded ⟨row, inside, named⟩
        have some_ : loadedAt sku loaded ≠ [] := List.ne_nil_of_mem
          (List.mem_filter.mpr ⟨inside, decide_eq_true named⟩)
        rw [sideOf, if_neg some_]
        exact Option.some_ne_none _
      rcases OuterRow.of_eq_none.mp made with ⟨noSource, noTarget⟩
      rcases mem_allSkus.mp member with inReference | inTarget
      · exact absurd noSource (side _ inReference)
      · exact absurd noTarget (side _ inTarget)

end Agreement

end ParityGrid.Adapters.Analytics
