import ParityGrid.Adapters.Analytics.ReconciliationQueries
import ParityGrid.Adapters.Analytics.ViewAgreement
import ParityGrid.Domain.Reconciliation.Documents

/-!
# The queries agree with the domain

Every page holds the outcomes of the domain, its cursors lead through all SKUs,
and the counts are those of the outcomes.
-/

namespace ParityGrid.Adapters.Analytics

open ParityGrid.Foundation
open ParityGrid.Domain (FieldMismatch InventoryAttributes InventoryRecord
  ReconciliationClassification ReconciliationField ReconciliationOutcome
  maxRecordsPerSide recordOrderKey)

section Agreement

variable [JsonRuntime] {toJson : List (Text × Text) → Text}

/-! ## Rows as records -/

/-- `to_json` gives a text that `json.loads` reads as the list of pairs. -/
def RendersJson (toJson : List (Text × Text) → Text) : Prop :=
  ∀ attributes : InventoryAttributes,
    jsonLoads (toJson attributes.items) =
      .ok (attributesDocument attributes.items)

theorem RendersJson.apart (renders : RendersJson toJson) :
    RendersApart toJson := by
  intro left right same
  have documents := renders left
  rw [same, renders right] at documents
  exact InventoryAttributes.ext
    (attributesDocument_injective (Except.ok.inj documents)).symm

theorem attributesFromJson_self (renders : RendersJson toJson)
    (attributes : InventoryAttributes) :
    attributesFromJson (toJson attributes.items) = .ok attributes := by
  have pairs : (attributes.items.map fun item =>
      JsonValue.object [(text "key", .string item.1),
        (text "value", .string item.2)]).mapM attributePair =
          .ok attributes.items := by
    rw [mapM_eq_ok, List.map_map]
    refine List.map_congr_left fun item _ => ?_
    rfl
  refine bind_eq_ok.mpr ⟨_, mapError_eq_ok.mpr (renders attributes), ?_⟩
  refine bind_eq_ok.mpr ⟨_, pairs, ?_⟩
  refine bind_eq_ok.mpr
    ⟨_, mapError_eq_ok.mpr (InventoryAttributes.create_self attributes), ?_⟩
  simp only [beq_self_eq_true, require_true, ok_bind]

/-- A shown row is read as its record. -/
theorem recordFromRow_shown (renders : RendersJson toJson)
    (loaded : Int × InventoryRecord) :
    recordFromRow (shownRow toJson loaded) = .ok loaded.2 := by
  have price := Domain.Money.create_self loaded.2.unitPrice
  have updated := Domain.UtcTimestamp.parse_toText loaded.2.updatedAt
  have connector := Domain.Identifier.create_self loaded.2.connectorId
  have record := InventoryRecord.construct_self loaded.2
  have built : rowRecord (shownRow toJson loaded) loaded.2.attributes =
      .ok loaded.2 := by
    simp only [rowRecord, shownRow, sourceSelect, TableRow.ofRecord, price,
      renderedTimestamp_eq, updated, connector, ok_bind]
    exact record
  have attributes := attributesFromJson_self renders loaded.2.attributes
  show (attributesFromJson (toJson loaded.2.attributes.items) >>= _) = _
  rw [attributes, ok_bind, built]
  rfl

/-! ## Records of a page -/

theorem loadedAt_cons (sku : Text) (row : Int × InventoryRecord)
    (rest : List (Int × InventoryRecord)) :
    (loadedAt sku (row :: rest)).map Prod.snd =
      (if row.2.sku = sku then [row.2] else []) ++
        (loadedAt sku rest).map Prod.snd := by
  rw [loadedAt, List.filter_cons]
  by_cases same : row.2.sku = sku
  · simp [same, loadedAt]
  · simp [same, loadedAt]

theorem foldlM_addRecord (renders : RendersJson toJson)
    (loaded : List (Int × InventoryRecord))
    (grouped : List (Text × List InventoryRecord))
    (covered : ∀ row ∈ loaded, row.2.sku ∈ grouped.map Prod.fst) :
    ∃ after, (loaded.map (shownRow toJson)).foldlM addRecord grouped =
        .ok after ∧
      ∀ sku, after.lookup sku = (grouped.lookup sku).map fun members =>
        members ++ (loadedAt sku loaded).map Prod.snd := by
  induction loaded generalizing grouped with
  | nil =>
      refine ⟨grouped, rfl, fun sku => ?_⟩
      cases grouped.lookup sku <;> simp [loadedAt]
  | cons row rest ih =>
      rw [List.forall_mem_cons] at covered
      have known : (grouped.map Prod.fst).contains row.2.sku = true := by
        simpa using covered.1
      have step : addRecord grouped (shownRow toJson row) =
          .ok (alter row.2.sku (fun members => members.getD [] ++ [row.2])
            grouped) := by
        simp only [addRecord, recordFromRow_shown renders, ok_bind, known,
          require_true]
      have keys := keys_alter row.2.sku
        (fun members => members.getD [] ++ [row.2]) grouped
      rw [if_pos covered.1] at keys
      rcases ih (alter row.2.sku
        (fun members => members.getD [] ++ [row.2]) grouped)
        (by rw [keys]; exact covered.2) with ⟨after, folded, lookups⟩
      refine ⟨after, ?_, fun sku => ?_⟩
      · rw [List.map_cons, List.foldlM_cons, step, ok_bind, folded]
      · rw [lookups, loadedAt_cons]
        by_cases same : row.2.sku = sku
        · subst same
          rcases Option.isSome_iff_exists.mp (lookup_isSome.mpr covered.1)
            with ⟨members, found⟩
          simp [found]
        · rw [lookup_alter_ne (Ne.symm same), if_neg same, List.nil_append]

/-- The records of the SKUs of a page, each SKU with all of its records. -/
theorem recordsFor_shown (renders : RendersJson toJson)
    (loaded : List (Int × InventoryRecord)) (skus : List Text) :
    ∃ grouped, recordsFor (loaded.map (shownRow toJson)) skus =
        .ok grouped ∧
      ∀ sku ∈ skus, ∃ members, grouped.lookup sku = some members ∧
        members.Perm ((loadedAt sku loaded).map Prod.snd) := by
  have arranged : sortedBy SourceRow.order
      ((loaded.map (shownRow toJson)).filter fun row =>
        skus.contains row.sku) =
      (sortedBy (fun row => (shownRow toJson row).order)
        (loaded.filter fun row => skus.contains row.2.sku)).map
          (shownRow toJson) := by
    rw [List.filter_map, sortedBy_map]
    rfl
  have keys : (skus.map fun sku =>
      ((sku, []) : Text × List InventoryRecord)).map Prod.fst = skus := by
    rw [List.map_map]
    exact List.map_id _
  rcases foldlM_addRecord renders
    (sortedBy (fun row => (shownRow toJson row).order)
      (loaded.filter fun row => skus.contains row.2.sku))
    (skus.map fun sku => (sku, []))
    (by
      intro row member
      rw [keys]
      simpa using (List.mem_filter.mp (mem_sortedBy.mp member)).2) with
    ⟨grouped, folded, lookups⟩
  refine ⟨grouped, ?_, fun sku member => ?_⟩
  · rw [recordsFor, arranged, folded]
  · have start : (skus.map fun sku =>
        ((sku, []) : Text × List InventoryRecord)).lookup sku = some [] :=
      lookup_map_self (fun _ => []) member
    refine ⟨_, (lookups sku).trans (by rw [start]; rfl), ?_⟩
    refine List.Perm.map _ ?_
    refine ((sortedBy_perm _ _).filter _).trans (.of_eq ?_)
    rw [List.filter_filter]
    refine List.filter_congr fun row _ => ?_
    by_cases same : row.2.sku = sku
    · simp [same, member]
    · simp [same]

/-! ## Outcomes of the domain -/

/-- The outcomes of the domain over all SKUs of two sides, in order. -/
def domainOutcomes (sources targets : List InventoryRecord) :
    Except PythonError (List ReconciliationOutcome) :=
  (sorted ((sources ++ targets).map fun record => record.sku).dedup).mapM
    fun sku => ReconciliationOutcome.create
      (sources.filter fun record => record.sku = sku)
      (targets.filter fun record => record.sku = sku)

/-- The outcome of a SKU over the loaded records. -/
def outcomeAt (reference target : List (Int × InventoryRecord)) (sku : Text) :
    Except PythonError ReconciliationOutcome :=
  ReconciliationOutcome.create ((loadedAt sku reference).map Prod.snd)
    ((loadedAt sku target).map Prod.snd)

theorem domainOutcomes_loaded (reference target : List (Int × InventoryRecord)) :
    domainOutcomes (reference.map Prod.snd) (target.map Prod.snd) =
      (allSkus reference target).mapM (outcomeAt reference target) := by
  have skus : ((reference.map Prod.snd ++ target.map Prod.snd).map
      fun record => record.sku) =
        (reference ++ target).map fun row => row.2.sku := by
    rw [← List.map_append, List.map_map]
    rfl
  have side (sku : Text) (loaded : List (Int × InventoryRecord)) :
      (loaded.map Prod.snd).filter (fun record => record.sku = sku) =
        (loadedAt sku loaded).map Prod.snd := by
    rw [List.filter_map]
    rfl
  rw [domainOutcomes, skus, allSkus]
  congr 1
  funext sku
  rw [side, side, outcomeAt]

theorem loadedAt_share {sku : Text} {loaded : List (Int × InventoryRecord)}
    {record : InventoryRecord}
    (member : record ∈ (loadedAt sku loaded).map Prod.snd) :
    record.sku = sku := by
  rcases List.mem_map.mp member with ⟨row, inside, rfl⟩
  exact of_decide_eq_true (List.mem_filter.mp inside).2

/-- The outcome of a SKU has that SKU. -/
theorem outcomeAt_sku {reference target : List (Int × InventoryRecord)}
    {sku : Text} {outcome : ReconciliationOutcome}
    (made : outcomeAt reference target sku = .ok outcome) :
    outcome.sku = sku := by
  have accepted := ReconciliationOutcome.create_eq_ok.mp made
  have share := (Domain.outcomeFields_form accepted).2.2.1
  rcases Domain.outcomeFields_inhabited accepted with some_ | some_
  · rcases List.exists_mem_of_ne_nil _ some_ with ⟨record, inside⟩
    rw [← share record (List.mem_append_left _ inside)]
    exact loadedAt_share inside
  · rcases List.exists_mem_of_ne_nil _ some_ with ⟨record, inside⟩
    rw [← share record (List.mem_append_right _ inside)]
    exact loadedAt_share inside

/-- No SKU has too many records on a side. -/
def FewDuplicates (records : List InventoryRecord) : Prop :=
  ∀ sku, (records.filter fun record => record.sku = sku).length ≤
    maxRecordsPerSide

theorem FewDuplicates.loadedAt {loaded : List (Int × InventoryRecord)}
    (few : FewDuplicates (loaded.map Prod.snd)) (sku : Text) :
    ((loadedAt sku loaded).map Prod.snd).length ≤ maxRecordsPerSide := by
  have bound := few sku
  rw [List.filter_map, List.length_map] at bound
  rw [List.length_map]
  exact bound

theorem outcomeAt_returns {reference target : List (Int × InventoryRecord)}
    (referenceFew : FewDuplicates (reference.map Prod.snd))
    (targetFew : FewDuplicates (target.map Prod.snd)) {sku : Text}
    (member : sku ∈ allSkus reference target) :
    Returns (outcomeAt reference target sku) := by
  have some_ (loaded : List (Int × InventoryRecord))
      (inside : ∃ row ∈ loaded, row.2.sku = sku) :
      (loadedAt sku loaded).map Prod.snd ≠ [] := by
    rcases inside with ⟨row, inside, named⟩
    exact List.ne_nil_of_mem (List.mem_map_of_mem
      (List.mem_filter.mpr ⟨inside, decide_eq_true named⟩))
  rcases Domain.outcomeFields_returns
    ((mem_allSkus.mp member).imp (some_ reference) (some_ target))
    (fun _ => loadedAt_share) (fun _ => loadedAt_share)
    (referenceFew.loadedAt sku) (targetFew.loadedAt sku) with
    ⟨fields, accepted⟩
  exact ⟨⟨fields, Domain.outcomeFields_valid accepted⟩,
    ReconciliationOutcome.create_eq_ok.mpr accepted⟩

/-- The outcome does not depend on the order of the records. -/
theorem create_perm {sources others targets rest : List InventoryRecord}
    (sourcePerm : sources.Perm others) (targetPerm : targets.Perm rest) :
    ReconciliationOutcome.create sources targets =
      ReconciliationOutcome.create others rest := by
  have canonical {side : String} {left right : List InventoryRecord}
      (perm : left.Perm right) : Domain.canonicalRecords side left =
        Domain.canonicalRecords side right := by
    unfold Domain.canonicalRecords
    rw [perm.length_eq, sortedBy_eq_of_perm (fun _ _ _ _ same =>
      Domain.recordOrderKey_injective same) perm]
  have fields : Domain.outcomeFields sources targets =
      Domain.outcomeFields others rest := by
    unfold Domain.outcomeFields
    rw [canonical sourcePerm, canonical targetPerm]
  unfold ReconciliationOutcome.create
  simp only [fields]

/-! ## Validated outcomes -/

omit [JsonRuntime] in
theorem classificationOf_value (classification : ReconciliationClassification) :
    classificationOf (text classification.value) = some classification := by
  cases classification <;> decide

theorem mem_flags (outcome : ReconciliationOutcome)
    (field : ReconciliationField) :
    field ∈ ((OutcomeRow.ofOutcome outcome).flags.filter Prod.snd).map
        Prod.fst ↔ field ∈ outcome.mismatches.map FieldMismatch.field := by
  have flagged : field ∈ ((OutcomeRow.ofOutcome outcome).flags.filter
      Prod.snd).map Prod.fst ↔ differsIn field outcome.mismatches = true := by
    cases field <;> simp [OutcomeRow.flags, OutcomeRow.ofOutcome]
  rw [flagged, differsIn, decide_eq_true_eq]

/-- The row of an outcome is validated against its records. -/
theorem validatedOutcome_self {sources targets : List InventoryRecord}
    {outcome : ReconciliationOutcome}
    (created : ReconciliationOutcome.create sources targets = .ok outcome) :
    validatedOutcome (OutcomeRow.ofOutcome outcome) sources targets =
      .ok outcome := by
  rcases Domain.outcomeFields_form
    (ReconciliationOutcome.create_eq_ok.mp created) with
    ⟨sourceForm, targetForm, _⟩
  have sourceCount : (sources.length ==
      (OutcomeRow.ofOutcome outcome).sourceCount) = true := by
    simp [OutcomeRow.ofOutcome, sourceForm]
  have targetCount : (targets.length ==
      (OutcomeRow.ofOutcome outcome).targetCount) = true := by
    simp [OutcomeRow.ofOutcome, targetForm]
  have named : classificationOf (OutcomeRow.ofOutcome outcome).classification =
      some outcome.classification := classificationOf_value _
  have sku : (outcome.sku == (OutcomeRow.ofOutcome outcome).sku) = true :=
    beq_self_eq_true _
  have fields : ((outcome.mismatches.map FieldMismatch.field).all fun field =>
      (((OutcomeRow.ofOutcome outcome).flags.filter Prod.snd).map
        Prod.fst).contains field) = true := by
    simp only [List.all_eq_true, List.contains_iff_mem]
    exact fun field member => (mem_flags outcome field).mpr member
  have flags : ((((OutcomeRow.ofOutcome outcome).flags.filter Prod.snd).map
      Prod.fst).all fun field =>
        (outcome.mismatches.map FieldMismatch.field).contains field) =
          true := by
    simp only [List.all_eq_true, List.contains_iff_mem]
    exact fun field member => (mem_flags outcome field).mp member
  unfold validatedOutcome
  rw [named, created]
  simp only [sku, sourceCount, targetCount, beq_self_eq_true, Bool.and_self,
    require_true, ok_bind, fields, flags]

/-! ## Pages -/

/-- The engine over two loaded sides, with an installed snapshot. -/
structure Prepared (engine : QueryEngine) (snapshot : QuerySnapshot)
    (reference target : List (Int × InventoryRecord)) : Prop where
  referenceTable : engine.reference = tableOf reference
  targetTable : engine.target = tableOf target
  installed : engine.snapshot = some snapshot
  catalog : engine.catalog = snapshot.viewCatalog

/-- The outcomes of all SKUs. -/
structure Outcomes (reference target : List (Int × InventoryRecord))
    (outcomes : List ReconciliationOutcome) : Prop where
  made : (allSkus reference target).mapM (outcomeAt reference target) =
    .ok outcomes

section Pages

variable {reference target : List (Int × InventoryRecord)}
variable {outcomes : List ReconciliationOutcome}

theorem Outcomes.skus (all : Outcomes reference target outcomes) :
    (outcomes.map fun outcome => outcome.sku) = allSkus reference target :=
  (mapM_keeps (g := id) (fun _ _ _ one => outcomeAt_sku one) all.made).trans
    (List.map_id _)

theorem Outcomes.strict (all : Outcomes reference target outcomes) :
    outcomes.Pairwise fun left right => left.sku < right.sku := by
  rw [← List.pairwise_map (f := fun outcome : ReconciliationOutcome =>
    outcome.sku), all.skus]
  exact allSkus_strict reference target

theorem Outcomes.created (all : Outcomes reference target outcomes)
    {outcome : ReconciliationOutcome} (member : outcome ∈ outcomes) :
    outcomeAt reference target outcome.sku = .ok outcome := by
  rcases mapM_origin all.made member with ⟨sku, _, made⟩
  rw [outcomeAt_sku made, made]

/-- The ordered view holds the rows of the outcomes. -/
theorem Outcomes.view (all : Outcomes reference target outcomes)
    (apart : RendersApart toJson) :
    sortedBy OutcomeRow.sku
        (outcomesView toJson (tableOf reference) (tableOf target)) =
      outcomes.map OutcomeRow.ofOutcome := by
  have rows : outcomes.map OutcomeRow.ofOutcome =
      (allSkus reference target).map fun sku =>
        determinedRow sku ((loadedAt sku reference).map Prod.snd)
          ((loadedAt sku target).map Prod.snd) := by
    refine mapM_keeps (fun sku _ outcome one => ?_) all.made
    rw [OutcomeRow.ofOutcome_eq one, outcomeAt_sku one]
  have perm := outcomesView_perm apart reference target
  rw [← rows] at perm
  have ordered : (outcomes.map OutcomeRow.ofOutcome).Pairwise
      fun left right => left.sku ≤ right.sku := by
    rw [List.pairwise_map]
    exact all.strict.imp le_of_lt
  rw [← sortedBy_of_pairwise ordered]
  refine sortedBy_eq_of_perm (fun left inView right alsoIn same => ?_) perm
  rcases List.mem_map.mp (perm.mem_iff.mp inView) with ⟨one, inside, rfl⟩
  rcases List.mem_map.mp (perm.mem_iff.mp alsoIn) with ⟨two, within, rfl⟩
  have equal := (all.created inside).symm.trans
    ((congrArg (outcomeAt reference target) same).trans (all.created within))
  rw [Except.ok.inj equal]

/-- The outcomes after a cursor. -/
def outcomesAfter (after : Option ReconciliationQueryCursor)
    (outcomes : List ReconciliationOutcome) : List ReconciliationOutcome :=
  outcomes.filter fun outcome => after.all fun cursor =>
    cursor.sku < outcome.sku

theorem Outcomes.pageRows (all : Outcomes reference target outcomes)
    (apart : RendersApart toJson) {engine : QueryEngine}
    {snapshot : QuerySnapshot}
    (prepared : Prepared engine snapshot reference target) (limit : Nat)
    (after : Option ReconciliationQueryCursor) :
    pageRows toJson engine limit after =
      ((outcomesAfter after outcomes).take (limit + 1)).map
        OutcomeRow.ofOutcome := by
  have view := all.view apart
  have distinct : ((outcomesView toJson (tableOf reference)
      (tableOf target)).map OutcomeRow.sku).Nodup := by
    refine (((sortedBy_perm OutcomeRow.sku _).map
      OutcomeRow.sku).nodup_iff.mp ?_)
    rw [view, List.map_map]
    have skus := all.skus
    rw [show OutcomeRow.sku ∘ OutcomeRow.ofOutcome =
      fun outcome : ReconciliationOutcome => outcome.sku from rfl, skus]
    exact (allSkus_strict reference target).imp ne_of_lt
  rw [Analytics.pageRows, prepared.referenceTable, prepared.targetTable,
    sortedBy_filter distinct, view, List.filter_map, List.map_take]
  rfl

theorem Outcomes.cursor (all : Outcomes reference target outcomes)
    {outcome : ReconciliationOutcome} (member : outcome ∈ outcomes) :
    ∃ cursor, ReconciliationQueryCursor.create outcome.sku = .ok cursor ∧
      cursor.sku = outcome.sku := by
  have accepted := ReconciliationOutcome.create_eq_ok.mp (all.created member)
  have share := (Domain.outcomeFields_form accepted).2.2.1
  have shown : ∃ record : InventoryRecord, record.sku = outcome.sku := by
    rcases Domain.outcomeFields_inhabited accepted with some_ | some_
    · rcases List.exists_mem_of_ne_nil _ some_ with ⟨record, inside⟩
      exact ⟨record, share record (List.mem_append_left _ inside)⟩
    · rcases List.exists_mem_of_ne_nil _ some_ with ⟨record, inside⟩
      exact ⟨record, share record (List.mem_append_right _ inside)⟩
  rcases shown with ⟨record, named⟩
  have canonical := record.valid.sku
  have length := record.lengths.1
  simp only [Domain.validateSku, bind_eq_ok, require_eq_ok] at canonical
  rw [named] at canonical length
  rcases canonical with ⟨_, _, pattern⟩
  have valid : validateQueryCursor outcome.sku = .ok () := by
    simp only [validateQueryCursor, length, pattern, decide_true,
      Bool.and_self, require_true]
  exact ⟨⟨outcome.sku, valid⟩,
    map_eq_ok.mpr ⟨_, certify_ok (fun _ accepted => accepted) valid, rfl⟩, rfl⟩

/-- What a page of a prepared engine holds. -/
structure PageOf (rest : List ReconciliationOutcome) (size : Nat)
    (page : ReconciliationQueryPage) : Prop where
  items : page.items = rest.take size
  last : rest.length ≤ size → page.nextCursor = none
  more : size < rest.length → ∃ cursor last,
    page.nextCursor = some cursor ∧ (rest.take size).getLast? = some last ∧
      cursor.sku = last.sku

/-- The next cursor of the first outcomes of a rest. -/
theorem Outcomes.pageCursor (all : Outcomes reference target outcomes)
    {rest : List ReconciliationOutcome} (within : ∀ outcome ∈ rest,
      outcome ∈ outcomes) {size : Nat} (some_ : 1 ≤ size) :
    ∃ cursor, pageCursor (rest.take size) (decide (size < rest.length)) =
        .ok cursor ∧ (rest.length ≤ size → cursor = none) ∧
      (size < rest.length → ∃ next last, cursor = some next ∧
        (rest.take size).getLast? = some last ∧ next.sku = last.sku) := by
  by_cases more : size < rest.length
  · have nonempty : rest.take size ≠ [] := by
      rw [ne_eq, List.take_eq_nil_iff]
      rintro (none_ | none_)
      · omega
      · rw [none_] at more
        exact absurd more (Nat.not_lt_zero _)
    have last := List.getLast?_eq_some_getLast nonempty
    have member := within _ (List.mem_of_mem_take
      (List.getLast_mem nonempty))
    rcases all.cursor member with ⟨cursor, made, named⟩
    refine ⟨some cursor, ?_, fun few => ?_, fun _ => ?_⟩
    · unfold Analytics.pageCursor
      rw [last, decide_eq_true more]
      exact map_eq_ok.mpr ⟨cursor, made, rfl⟩
    · omega
    · exact ⟨cursor, _, rfl, last, named⟩
  · refine ⟨none, ?_, fun _ => rfl, fun lower => absurd lower more⟩
    unfold Analytics.pageCursor
    rw [decide_eq_false more]
    cases (rest.take size).getLast? <;> rfl

/-- A page holds the next outcomes, validated against the loaded records. -/
theorem Outcomes.listOutcomes (all : Outcomes reference target outcomes)
    (renders : RendersJson toJson) {engine : QueryEngine}
    {snapshot : QuerySnapshot}
    (prepared : Prepared engine snapshot reference target) {limit : Int}
    (least : 1 ≤ limit) (most : limit ≤ maxReconciliationPageSize)
    (after : Option ReconciliationQueryCursor) :
    ∃ page, listOutcomes toJson engine snapshot limit after = .ok page ∧
      page.snapshot = snapshot ∧
      PageOf (outcomesAfter after outcomes) limit.toNat page := by
  have ready : engine.requirePrepared snapshot = .ok () := by
    simp only [QueryEngine.requirePrepared, prepared.installed,
      prepared.catalog, beq_self_eq_true, require_true, ok_bind]
  have sized : validatePageLimit limit = .ok limit.toNat := by
    simp only [validatePageLimit, least, most, decide_true, Bool.and_self,
      require_true, ok_bind]
  have rows := all.pageRows renders.apart prepared limit.toNat after
  generalize form : outcomesAfter after outcomes = rest at rows
  have within : ∀ outcome ∈ rest, outcome ∈ outcomes := by
    rw [← form]
    exact fun outcome member => (List.mem_filter.mp member).1
  have strict : rest.Pairwise fun left right => left.sku < right.sku := by
    rw [← form]
    exact all.strict.sublist List.filter_sublist
  have visible : (Analytics.pageRows toJson engine limit.toNat after).take
      limit.toNat = (rest.take limit.toNat).map OutcomeRow.ofOutcome := by
    rw [rows, ← List.map_take, List.take_take,
      Nat.min_eq_left (Nat.le_succ _)]
  have skus : ((rest.take limit.toNat).map OutcomeRow.ofOutcome).map
      OutcomeRow.sku = (rest.take limit.toNat).map fun outcome =>
        outcome.sku := by
    rw [List.map_map]
    rfl
  rcases recordsFor_shown renders reference ((rest.take limit.toNat).map
    fun outcome => outcome.sku) with ⟨source, sourceRead, sourceMembers⟩
  rcases recordsFor_shown renders target ((rest.take limit.toNat).map
    fun outcome => outcome.sku) with ⟨others, targetRead, targetMembers⟩
  have validated : ((rest.take limit.toNat).map OutcomeRow.ofOutcome).mapM
      (fun row => validatedOutcome row ((source.lookup row.sku).getD [])
        ((others.lookup row.sku).getD [])) =
        .ok (rest.take limit.toNat) := by
    rw [mapM_eq_ok, List.map_map]
    refine List.map_congr_left fun outcome member => ?_
    have listed : outcome.sku ∈ (rest.take limit.toNat).map fun outcome =>
      outcome.sku := List.mem_map_of_mem member
    rcases sourceMembers _ listed with ⟨sources, found, sourcePerm⟩
    rcases targetMembers _ listed with ⟨targets, alsoFound, targetPerm⟩
    have made := all.created (within outcome (List.mem_of_mem_take member))
    rw [outcomeAt, ← create_perm sourcePerm targetPerm] at made
    have checked := validatedOutcome_self made
    rw [Function.comp_apply]
    have sku : (OutcomeRow.ofOutcome outcome).sku = outcome.sku := rfl
    rw [sku, found, alsoFound]
    exact checked
  rcases all.pageCursor within (by omega : 1 ≤ limit.toNat) with
    ⟨cursor, next, few, more⟩
  have longer : decide (limit.toNat <
      (Analytics.pageRows toJson engine limit.toNat after).length) =
        decide (limit.toNat < rest.length) := by
    rw [rows, List.length_map, List.length_take]
    congr 1
    apply propext
    omega
  have page : validatePage (rest.take limit.toNat) = .ok () := by
    have length : ((rest.take limit.toNat).length : Int) ≤
        maxReconciliationPageSize := by
      have bound := List.length_take_le limit.toNat rest
      omega
    have ordered : ((rest.take limit.toNat).map
        fun item => item.sku).Pairwise (· < ·) := by
      rw [List.pairwise_map]
      exact strict.sublist (List.take_sublist _ _)
    have sorts : sorted ((rest.take limit.toNat).map fun item => item.sku) =
        (rest.take limit.toNat).map fun item => item.sku :=
      sortedBy_of_pairwise (ordered.imp le_of_lt)
    have distinct : ((rest.take limit.toNat).map
        fun item => item.sku).Nodup := ordered.imp ne_of_lt
    simp only [validatePage, length, sorts, distinct, beq_self_eq_true,
      decide_true, Bool.and_self, require_true, ok_bind]
  refine ⟨⟨snapshot, rest.take limit.toNat, cursor⟩, ?_, rfl,
    ⟨rfl, few, more⟩⟩
  rw [Analytics.listOutcomes, ready, ok_bind, sized, ok_bind]
  simp only [visible, skus, longer]
  rw [prepared.referenceTable, prepared.targetTable, shownTable, shownTable,
    sourceRead, ok_bind, targetRead, ok_bind, validated, ok_bind, next,
    ok_bind, page, ok_bind]

end Pages

end Agreement

end ParityGrid.Adapters.Analytics
