import ParityGrid.Adapters.Analytics.QueryAgreement
import ParityGrid.Domain.Reconciliation.Classification

/-!
# Analytical SQL and the domain

The views, the pages, the counts and the match classifier decide every SKU
alike.
-/

namespace ParityGrid.Adapters.Analytics

open ParityGrid.Foundation
open ParityGrid.Domain (CanonicalKeyMatch ClassificationResult InventoryRecord
  Matches NormalizedRecord Ordered ReconciliationClassification
  ReconciliationOutcome classifyMatches maxRecordsPerSide recordOrderKey)

section Agreement

variable [JsonRuntime] {toJson : List (Text × Text) → Text}
variable {reference target : List (Int × InventoryRecord)}
variable {outcomes : List ReconciliationOutcome}

/-! ## All pages -/

theorem outcomesAfter_none (outcomes : List ReconciliationOutcome) :
    outcomesAfter none outcomes = outcomes := by
  simp [outcomesAfter]

/-- The next page begins where the page before it ended. -/
theorem Outcomes.after_page (all : Outcomes reference target outcomes)
    {after : Option ReconciliationQueryCursor} {size : Nat}
    {last : ReconciliationOutcome} {cursor : ReconciliationQueryCursor}
    (isLast : ((outcomesAfter after outcomes).take size).getLast? = some last)
    (named : cursor.sku = last.sku) :
    outcomesAfter (some cursor) outcomes =
      (outcomesAfter after outcomes).drop size := by
  have strict : (outcomesAfter after outcomes).Pairwise
      fun left right => left.sku < right.sku :=
    all.strict.sublist List.filter_sublist
  rw [← filter_after_take strict isLast, outcomesAfter, outcomesAfter,
    List.filter_filter]
  have inRest : last ∈ outcomesAfter after outcomes :=
    List.mem_of_mem_take (List.mem_of_getLast? isLast)
  have beyond := (List.mem_filter.mp inRest).2
  refine List.filter_congr fun outcome _ => ?_
  cases after with
  | none => simp [named]
  | some first =>
      simp only [Option.all_some, decide_eq_true_eq] at beyond
      rw [Option.all_some, Option.all_some, named, Bool.eq_iff_iff]
      simp only [Bool.and_eq_true, decide_eq_true_eq]
      exact ⟨fun later => ⟨later, beyond.trans later⟩, fun both => both.1⟩

/-- Following the cursors gives every outcome after the first one, once. -/
theorem Outcomes.followPages (all : Outcomes reference target outcomes)
    (renders : RendersJson toJson) {engine : QueryEngine}
    {snapshot : QuerySnapshot}
    (prepared : Prepared engine snapshot reference target) {limit : Int}
    (least : 1 ≤ limit) (most : limit ≤ maxReconciliationPageSize)
    {fuel : Nat} (after : Option ReconciliationQueryCursor)
    (enough : (outcomesAfter after outcomes).length < fuel) :
    followPages toJson engine snapshot limit fuel after =
      .ok (outcomesAfter after outcomes) := by
  induction fuel generalizing after with
  | zero => exact absurd enough (Nat.not_lt_zero _)
  | succ fuel ih =>
      rcases all.listOutcomes renders prepared least most after with
        ⟨page, listed, _, holds⟩
      rw [Analytics.followPages, listed, ok_bind]
      by_cases more : limit.toNat < (outcomesAfter after outcomes).length
      · rcases holds.more more with ⟨cursor, last, next, isLast, named⟩
        have rest := all.after_page isLast named
        have shorter : (outcomesAfter (some cursor) outcomes).length < fuel := by
          rw [rest, List.length_drop]
          omega
        simp only [next, ih (some cursor) shorter, ok_bind]
        rw [holds.items, rest, List.take_append_drop]
      · simp only [holds.last (Nat.le_of_not_lt more)]
        rw [holds.items, List.take_of_length_le (Nat.le_of_not_lt more)]

/-! ## Counts -/

/-- The outcomes of a classification, for every classification that has one. -/
structure CountsOf (outcomes : List ReconciliationOutcome)
    (counts : List (ReconciliationClassification × Nat)) : Prop where
  distinct : (counts.map Prod.fst).Nodup
  counted : ∀ classification count, (classification, count) ∈ counts ↔
    0 < count ∧ count = (outcomes.filter fun outcome =>
      outcome.classification = classification).length

/-- The count of a classification in the view. -/
theorem Outcomes.viewCount (all : Outcomes reference target outcomes)
    (apart : RendersApart toJson) (value : Text) :
    ((outcomesView toJson (tableOf reference) (tableOf target)).filter
        fun row => row.classification = value).length =
      (outcomes.filter fun outcome =>
        text outcome.classification.value = value).length := by
  have perm := sortedBy_perm OutcomeRow.sku
    (outcomesView toJson (tableOf reference) (tableOf target))
  rw [all.view apart] at perm
  rw [← (perm.filter _).length_eq, List.filter_map, List.length_map]
  rfl

/-- What a row of the summary counts. -/
theorem Outcomes.mem_summary (all : Outcomes reference target outcomes)
    (apart : RendersApart toJson) {row : SummaryRow} :
    row ∈ summaryView toJson (tableOf reference) (tableOf target) ↔
      ∃ classification : ReconciliationClassification,
        row.classification = text classification.value ∧ 0 < row.keyCount ∧
          row.keyCount = (outcomes.filter fun outcome =>
            outcome.classification = classification).length := by
  have perm := sortedBy_perm OutcomeRow.sku
    (outcomesView toJson (tableOf reference) (tableOf target))
  rw [all.view apart] at perm
  have same (classification : ReconciliationClassification) :
      (outcomes.filter fun outcome => text outcome.classification.value =
        text classification.value) = outcomes.filter fun outcome =>
          outcome.classification = classification := by
    refine List.filter_congr fun outcome _ => ?_
    congr 1
    refine propext ⟨fun equal => ?_, fun equal => by rw [equal]⟩
    have found := classificationOf_value outcome.classification
    rw [equal, classificationOf_value] at found
    exact (Option.some.inj found).symm
  rw [summaryView, mem_sortedBy, groupBy, List.mem_map]
  constructor
  · rintro ⟨value, inView, rfl⟩
    rcases List.mem_map.mp (List.mem_dedup.mp inView) with ⟨shown, member, rfl⟩
    rcases List.mem_map.mp (perm.mem_iff.mpr member) with
      ⟨outcome, inside, rfl⟩
    refine ⟨outcome.classification, rfl, ?_, ?_⟩
    · exact List.length_pos_of_mem
        (List.mem_filter.mpr ⟨member, decide_eq_true rfl⟩)
    · rw [← same]
      exact all.viewCount apart _
  · rintro ⟨classification, named, positive, counted⟩
    refine ⟨text classification.value, ?_, ?_⟩
    · rw [counted] at positive
      rcases List.exists_mem_of_length_pos positive with ⟨outcome, member⟩
      rcases List.mem_filter.mp member with ⟨inside, classified⟩
      rw [List.mem_dedup, List.mem_map]
      refine ⟨OutcomeRow.ofOutcome outcome,
        perm.mem_iff.mp (List.mem_map_of_mem inside), ?_⟩
      rw [← of_decide_eq_true classified]
      rfl
    · rw [all.viewCount apart, same, ← counted, ← named]

/-- The counts of the summary are those of the outcomes. -/
theorem Outcomes.counts (all : Outcomes reference target outcomes)
    (apart : RendersApart toJson) {engine : QueryEngine}
    {snapshot : QuerySnapshot}
    (prepared : Prepared engine snapshot reference target) :
    ∃ counts, classificationCounts toJson engine snapshot = .ok counts ∧
      CountsOf outcomes counts := by
  have ready : engine.requirePrepared snapshot = .ok () := by
    simp only [QueryEngine.requirePrepared, prepared.installed,
      prepared.catalog, beq_self_eq_true, require_true, ok_bind]
  have ordered := sortedBy_idem SummaryRow.classification
    (groupBy OutcomeRow.classification
      (fun classification rows => SummaryRow.mk classification rows.length)
      (outcomesView toJson (tableOf reference) (tableOf target)))
  generalize form : summaryView toJson (tableOf reference)
    (tableOf target) = rows
  have inOrder : sortedBy SummaryRow.classification rows = rows := by
    rw [← form]
    exact ordered
  have names : (rows.map SummaryRow.classification).Nodup := by
    rw [← form, summaryView]
    refine ((sortedBy_perm _ _).map _).nodup_iff.mpr ?_
    rw [groupBy_keys fun _ _ => rfl]
    exact List.nodup_dedup _
  have meaning : ∀ row ∈ rows, ∃ classification,
      row.classification = text classification.value ∧ 0 < row.keyCount ∧
        row.keyCount = (outcomes.filter fun outcome =>
          outcome.classification = classification).length := by
    intro row member
    rw [← form] at member
    exact (all.mem_summary apart).mp member
  have reads : ∀ row ∈ rows, ∀ classification,
      row.classification = text classification.value → 0 < row.keyCount →
        summaryCount row = .ok (classification, row.keyCount) := by
    intro row _ classification named positive
    have some_ : decide (1 ≤ row.keyCount) = true := decide_eq_true positive
    simp only [summaryCount, some_, require_true, ok_bind, named,
      classificationOf_value]
  have returns : Returns (rows.mapM summaryCount) := by
    rw [returns_mapM]
    intro row member
    rcases meaning row member with ⟨classification, named, positive, _⟩
    exact ⟨_, reads row member classification named positive⟩
  rcases returns with ⟨counts, counted⟩
  have sorts : sorted (rows.map SummaryRow.classification) =
      rows.map SummaryRow.classification := by
    have pairwise := sortedBy_pairwise SummaryRow.classification rows
    rw [inOrder] at pairwise
    exact sortedBy_of_pairwise (List.pairwise_map.mpr pairwise)
  have total : (outcomesView toJson (tableOf reference)
      (tableOf target)).length = (counts.map Prod.snd).sum := by
    have kept : counts.map Prod.snd = rows.map SummaryRow.keyCount := by
      refine mapM_keeps (fun row member count one => ?_) counted
      rcases meaning row member with ⟨classification, named, positive, _⟩
      rw [reads row member classification named positive] at one
      cases one
      rfl
    rw [kept, ← form, summaryView,
      ((sortedBy_perm _ _).map SummaryRow.keyCount).sum_nat, groupBy,
      List.map_map]
    exact (sum_groups OutcomeRow.classification _).symm
  refine ⟨counts, ?_, ⟨?_, fun classification count => ⟨fun member => ?_,
    fun counted_ => ?_⟩⟩⟩
  · simp only [classificationCounts, ready, ok_bind, prepared.referenceTable,
      prepared.targetTable, form, inOrder, counted, sorts, names, total,
      beq_self_eq_true, decide_true, Bool.and_self, require_true]
  · have kept : counts.map (fun count => text count.1.value) =
        rows.map SummaryRow.classification := by
      refine mapM_keeps (fun row member count one => ?_) counted
      rcases meaning row member with ⟨classification, named, positive, _⟩
      rw [reads row member classification named positive] at one
      cases one
      exact named.symm
    have composed : ((counts.map Prod.fst).map fun classification =>
        text (ReconciliationClassification.value classification)).Nodup := by
      rw [List.map_map]
      exact kept ▸ names
    exact composed.of_map
  · rcases mapM_origin counted member with ⟨row, inRows, one⟩
    rcases meaning row inRows with ⟨known, named, positive, counted⟩
    rw [reads row inRows known named positive] at one
    cases one
    exact ⟨positive, counted⟩
  · have inSummary : SummaryRow.mk (text classification.value) count ∈ rows := by
      rw [← form]
      exact (all.mem_summary apart).mpr ⟨classification, rfl, counted_⟩
    have image : summaryCount ⟨text classification.value, count⟩ ∈
        counts.map .ok := by
      rw [← mapM_eq_ok.mp counted]
      exact List.mem_map_of_mem inSummary
    rw [reads _ inSummary classification rfl counted_.1] at image
    rcases List.mem_map.mp image with ⟨known, inside, same⟩
    cases same
    exact inside

/-! ## The match classifier -/

omit [JsonRuntime] in
/-- Two strictly ordered sequences of the same members are equal. -/
theorem strict_eq {left right : List Text} (leftStrict : left.Pairwise (· < ·))
    (rightStrict : right.Pairwise (· < ·))
    (same : ∀ value, value ∈ left ↔ value ∈ right) : left = right := by
  have perm : left.Perm right :=
    (List.perm_ext_iff_of_nodup (leftStrict.imp ne_of_lt)
      (rightStrict.imp ne_of_lt)).mpr same
  exact perm.eq_of_pairwise (fun _ _ _ _ below above =>
    absurd (lt_trans below above) (lt_irrefl _)) leftStrict rightStrict

/-- The records of two normalized sides, however they were loaded. -/
structure Loads (source others : List NormalizedRecord)
    (reference target : List (Int × InventoryRecord)) : Prop where
  reference : (reference.map Prod.snd).Perm
    (source.map NormalizedRecord.record)
  target : (target.map Prod.snd).Perm (others.map NormalizedRecord.record)

/-- The loaded records of a SKU are those of its match. -/
theorem loadedAt_perm {normalized : List NormalizedRecord}
    {loaded : List (Int × InventoryRecord)}
    (loads : (loaded.map Prod.snd).Perm
      (normalized.map NormalizedRecord.record)) (sku : Text) :
    ((loadedAt sku loaded).map Prod.snd).Perm
      ((Domain.recordsOf sku normalized).map NormalizedRecord.record) := by
  have filtered := loads.filter fun record => decide (record.sku = sku)
  rw [List.filter_map, List.filter_map] at filtered
  exact filtered

/-- Matches over the same records are classified as the outcomes are. -/
theorem Outcomes.classified (all : Outcomes reference target outcomes)
    {source others : List NormalizedRecord}
    (loads : Loads source others reference target)
    (sourceOrdered : Ordered source) (targetOrdered : Ordered others)
    (sourceDocumented : ∀ record ∈ source, record.Documented)
    (targetDocumented : ∀ record ∈ others, record.Documented)
    {matched : List CanonicalKeyMatch}
    (matches_ : Matches source others matched) :
    ∃ result, classifyMatches matched = .ok result ∧
      (result.keys.map fun key => key.outcome) = outcomes := by
  have compares : ∀ keyMatch ∈ matched,
      Returns (Domain.keyDifferences keyMatch) := by
    intro keyMatch member
    have sourceForm := matches_.source keyMatch member
    have targetForm := matches_.target keyMatch member
    unfold Domain.keyDifferences
    split
    next one two sources targets =>
      rw [sourceForm] at sources
      rw [targetForm] at targets
      have inSource : one ∈ Domain.recordsOf keyMatch.sku source := by
        rw [sources]
        exact List.mem_cons_self
      have inTarget : two ∈ Domain.recordsOf keyMatch.sku others := by
        rw [targets]
        exact List.mem_cons_self
      rcases (sourceDocumented one
        (Domain.mem_recordsOf.mp inSource).1).compares
          (targetDocumented two (Domain.mem_recordsOf.mp inTarget).1) with
        ⟨found, returned, _⟩
      exact ⟨found, returned⟩
    next => exact .ok []
  rcases (Domain.classifyMatches_returns matches_ sourceOrdered
    targetOrdered).mpr compares with ⟨result, returned⟩
  refine ⟨result, returned, ?_⟩
  rcases Domain.classifyMatches_eq_ok returned with ⟨parts, classified, keys, _⟩
  have skus : (result.keys.map fun key => key.outcome.sku) =
      allSkus reference target := by
    rw [keys, Domain.classified_skus classified]
    refine strict_eq matches_.ordered (allSkus_strict reference target)
      fun sku => ?_
    rw [matches_.covers, mem_allSkus, List.map_append, List.mem_append]
    have side {normalized : List NormalizedRecord}
        {loaded : List (Int × InventoryRecord)}
        (perm : (loaded.map Prod.snd).Perm
          (normalized.map NormalizedRecord.record)) :
        (sku ∈ normalized.map fun record => record.record.sku) ↔
          ∃ row ∈ loaded, row.2.sku = sku := by
      have image := perm.map fun record : InventoryRecord => record.sku
      rw [List.map_map, List.map_map] at image
      exact image.mem_iff.symm.trans List.mem_map
    rw [side loads.reference, side loads.target]
  have made : ∀ key ∈ result.keys,
      outcomeAt reference target key.outcome.sku = .ok key.outcome := by
    intro key member
    rw [keys] at member
    rcases List.mem_map.mp member with ⟨part, inParts, rfl⟩
    rcases mapM_origin classified inParts with ⟨keyMatch, inMatched, one⟩
    have form := Domain.classifyMatch_classifies one
    have sources : ((loadedAt part.1.outcome.sku reference).map Prod.snd).Perm
        part.1.outcome.sourceRecords := by
      rw [form.sources, matches_.source keyMatch inMatched, form.sku]
      exact (loadedAt_perm loads.reference _).trans (sortedBy_perm _ _).symm
    have targets : ((loadedAt part.1.outcome.sku target).map Prod.snd).Perm
        part.1.outcome.targetRecords := by
      rw [form.targets, matches_.target keyMatch inMatched, form.sku]
      exact (loadedAt_perm loads.target _).trans (sortedBy_perm _ _).symm
    rw [outcomeAt, create_perm sources targets]
    exact ReconciliationOutcome.create_eq_ok.mpr part.1.outcome.valid
  have again : (allSkus reference target).mapM (outcomeAt reference target) =
      .ok (result.keys.map fun key => key.outcome) := by
    rw [← skus, mapM_eq_ok, List.map_map, List.map_map]
    exact List.map_congr_left made
  exact Except.ok.inj (again.symm.trans all.made)

/-- Nothing that is loaded exceeds the duplicate bounds. -/
theorem Outcomes.bounded (all : Outcomes reference target outcomes)
    (apart : RendersApart toJson) :
    requireDuplicateBounds toJson (tableOf reference) (tableOf target) =
      .ok () := by
  have perm := sortedBy_perm OutcomeRow.sku
    (outcomesView toJson (tableOf reference) (tableOf target))
  rw [all.view apart] at perm
  rw [requireDuplicateBounds, require_eq_ok, List.all_eq_true]
  intro row member
  rcases List.mem_map.mp (perm.mem_iff.mpr member) with ⟨outcome, _, rfl⟩
  rw [Bool.and_eq_true, decide_eq_true_eq, decide_eq_true_eq]
  exact outcome.sides

/-! ## Agreement -/

/--
The queries of an engine agree with the outcomes of the domain: the view holds
their rows, every page is returned and holds the next of them, the pages
together hold all of them in the order of the SKUs, the counts are theirs, and
the match classifier gives the same ones.
-/
structure Agrees (toJson : List (Text × Text) → Text) (engine : QueryEngine)
    (snapshot : QuerySnapshot) (reference target : List (Int × InventoryRecord))
    (outcomes : List ReconciliationOutcome) : Prop where
  domain : domainOutcomes (reference.map Prod.snd) (target.map Prod.snd) =
    .ok outcomes
  skus : (outcomes.map fun outcome => outcome.sku) =
    sorted ((reference ++ target).map fun row => row.2.sku).dedup
  bounds : requireDuplicateBounds toJson engine.reference engine.target =
    .ok ()
  view : (outcomesView toJson engine.reference engine.target).Perm
    (outcomes.map OutcomeRow.ofOutcome)
  pages : ∀ limit after, 1 ≤ limit → limit ≤ maxReconciliationPageSize →
    ∃ page, listOutcomes toJson engine snapshot limit after = .ok page ∧
      page.snapshot = snapshot ∧
      PageOf (outcomesAfter after outcomes) limit.toNat page
  traversal : ∀ limit fuel, 1 ≤ limit → limit ≤ maxReconciliationPageSize →
    outcomes.length < fuel →
      followPages toJson engine snapshot limit fuel none = .ok outcomes
  counts : ∃ counts, classificationCounts toJson engine snapshot = .ok counts ∧
    CountsOf outcomes counts
  classifier : ∀ source others matched,
    Loads source others reference target → Ordered source → Ordered others →
      (∀ record ∈ source, record.Documented) →
      (∀ record ∈ others, record.Documented) →
      Matches source others matched →
        ∃ result, classifyMatches matched = .ok result ∧
          (result.keys.map fun key => key.outcome) = outcomes

/-- The analytical queries agree with the domain. -/
theorem reconciliation_agrees (renders : RendersJson toJson)
    (referenceFew : FewDuplicates (reference.map Prod.snd))
    (targetFew : FewDuplicates (target.map Prod.snd)) {engine : QueryEngine}
    {snapshot : QuerySnapshot}
    (prepared : Prepared engine snapshot reference target) :
    ∃ outcomes, Agrees toJson engine snapshot reference target outcomes := by
  have each : ∀ sku ∈ allSkus reference target,
      Returns (outcomeAt reference target sku) := fun _ member =>
    outcomeAt_returns referenceFew targetFew member
  rcases returns_mapM.mpr each with ⟨outcomes, made⟩
  have all : Outcomes reference target outcomes := ⟨made⟩
  refine ⟨outcomes, ?_, all.skus, ?_, ?_, ?_, ?_, ?_, ?_⟩
  · rw [domainOutcomes_loaded, made]
  · rw [prepared.referenceTable, prepared.targetTable]
    exact all.bounded renders.apart
  · rw [prepared.referenceTable, prepared.targetTable]
    refine (sortedBy_perm OutcomeRow.sku _).symm.trans (.of_eq ?_)
    exact all.view renders.apart
  · intro limit after least most
    exact all.listOutcomes renders prepared least most after
  · intro limit fuel least most enough
    have whole := outcomesAfter_none outcomes
    rw [← whole] at enough ⊢
    exact all.followPages renders prepared least most none enough
  · exact all.counts renders.apart prepared
  · intro source others matched loads sourceOrdered targetOrdered
      sourceDocumented targetDocumented matches_
    exact all.classified loads sourceOrdered targetOrdered sourceDocumented
      targetDocumented matches_

/-- Attributes that are rendered as JSON are read back. -/
theorem rendersJson_render :
    RendersJson fun items => (attributesDocument items).render := by
  intro attributes
  have nests : (attributesDocument attributes.items).nests 2 := by
    refine JsonValue.nestsItems_iff.mpr fun item member => ?_
    rcases List.mem_map.mp member with ⟨pair, inside, rfl⟩
    rfl
  refine jsonLoads_render ?_ nests
    ((by decide : 2 ≤ 100).trans JsonRuntime.jsonReadingLimit_large)
  refine JsonValue.wellReadItems_iff.mpr fun item member => ?_
  rcases List.mem_map.mp member with ⟨pair, inside, rfl⟩
  have unicode := attributes.items_unicode inside
  have names : ([text "key", text "value"] : List Text).Nodup := by
    decide
  refine ⟨names, JsonValue.wellReadFields_iff.mpr ?_⟩
  simp only [List.forall_mem_cons]
  refine ⟨⟨by decide, paired_of_isUnicode unicode.1⟩,
    ⟨by decide, paired_of_isUnicode unicode.2⟩, by simp⟩

end Agreement

section Sample

attribute [local instance] asciiJsonRuntime

def sampleSnapshot : QuerySnapshot where
  referenceManifestSha256 := []
  targetManifestSha256 := []
  referenceArtifactSha256s := []
  targetArtifactSha256s := []
  referenceRowCount := 3
  targetRowCount := 1
  querySha256 := []
  viewCatalog := []

def blueRecord : Domain.InventoryRecord :=
  { Domain.sampleRecord with
    sku := text "SKU-2"
    attributes := ⟨[(text "color", text "blue")], by constructor <;> decide⟩
    valid := by constructor <;> decide +kernel }

def sampleReference : List (Int × Domain.InventoryRecord) :=
  [(0, Domain.sampleRecord), (1, Domain.sampleRecord), (2, blueRecord)]

/-- A duplicate in the source, and a record of both sides. -/
def sampleEngine : QueryEngine where
  reference := tableOf sampleReference
  target := tableOf [(0, blueRecord)]
  catalog := []
  snapshot := some sampleSnapshot

theorem reconciliation_agrees_sample :
    ∃ outcomes, Agrees (fun items => (attributesDocument items).render)
      sampleEngine sampleSnapshot sampleReference [(0, blueRecord)]
      outcomes :=
  reconciliation_agrees rendersJson_render
    (fun _ => (List.length_filter_le _ _).trans (by decide))
    (fun _ => (List.length_filter_le _ _).trans (by decide))
    ⟨rfl, rfl, rfl, rfl⟩

end Sample

end ParityGrid.Adapters.Analytics
