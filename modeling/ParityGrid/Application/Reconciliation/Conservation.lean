import ParityGrid.Application.Reconciliation.Analysis

/-!
# Conservation through the reconciliation pipeline

Every observation of a request ends in exactly one place of its analysis: one
quarantined entry of its side, or one classified record that carries the
classification of the only key with its SKU.  The counts of the summary add up
to the batches, and the conflict rows are the keys that are no matches.
-/

namespace ParityGrid.Application

open Foundation Domain

section Conservation

variable [PythonRuntime]

/-! ## Where observations end -/

/-- The quarantined entries of one side of an analysis. -/
def ReconciliationAnalysis.quarantined (analysis : ReconciliationAnalysis) :
    RecordSide → List QuarantinedObservation
  | .source => analysis.sourceQuarantined
  | .target => analysis.targetQuarantined

/-- The classified records at one position of one side. -/
def ReconciliationAnalysis.classifiedAt (analysis : ReconciliationAnalysis)
    (kind : RecordSide) (position : Nat) : List RecordClassification :=
  analysis.classification.records.filter fun record =>
    record.identity = (kind, position)

/-- The quarantined entries at one position of one side. -/
def ReconciliationAnalysis.quarantinedAt (analysis : ReconciliationAnalysis)
    (kind : RecordSide) (position : Nat) : List QuarantinedObservation :=
  (analysis.quarantined kind).filter fun found => found.position = position

/-- The classified keys with one SKU. -/
def ReconciliationAnalysis.keysOf (analysis : ReconciliationAnalysis)
    (sku : Text) : List ClassifiedKey :=
  analysis.classification.keys.filter fun key => key.outcome.sku = sku

/-- The observation is quarantined once and not classified. -/
structure EndsQuarantined (analysis : ReconciliationAnalysis)
    (kind : RecordSide) (observation : SourceObservation)
    (found : QuarantinedObservation) : Prop where
  entry : normalizeObservation observation = .ok (.quarantined found)
  once : analysis.quarantinedAt kind observation.position = [found]
  unclassified : analysis.classifiedAt kind observation.position = []

/-- The observation is classified once, as its key is, and not quarantined. -/
structure EndsClassified (analysis : ReconciliationAnalysis)
    (kind : RecordSide) (observation : SourceObservation)
    (normalized : NormalizedRecord) (record : RecordClassification)
    (key : ClassifiedKey) : Prop where
  entry : normalizeObservation observation = .ok (.record normalized)
  once : analysis.classifiedAt kind observation.position = [record]
  unquarantined : analysis.quarantinedAt kind observation.position = []
  sku : record.sku = normalized.record.sku
  sourceRecordKey :
    record.sourceRecordKey = normalized.record.sourceRecordKey
  uniqueKey : analysis.keysOf record.sku = [key]
  agrees : record.classification = key.outcome.classification

/-! ## Conservation -/

/-- The records counted on one side. -/
def countedRecords (counts : CountFields) : RecordSide → Nat
  | .source => counts.sourceRecordCount
  | .target => counts.targetRecordCount

/-- The quarantined observations counted on one side. -/
def countedQuarantined (counts : CountFields) : RecordSide → Nat
  | .source => counts.sourceQuarantinedCount
  | .target => counts.targetQuarantinedCount

/-- The positions that a conflict row references on one side. -/
def ConflictFields.positions (fields : ConflictFields) :
    RecordSide → List Nat
  | .source => fields.sourcePositions
  | .target => fields.targetPositions

/-- The classified keys that are no matches. -/
def ReconciliationAnalysis.conflictingKeys
    (analysis : ReconciliationAnalysis) : List ClassifiedKey :=
  analysis.classification.keys.filter fun key =>
    key.outcome.classification ≠ .match_

/-- An analysis loses, repeats and misattributes no observation. -/
structure Conserves {request : ReconciliationAnalysisRequest}
    (sides : NormalizedSides request) (analysis : ReconciliationAnalysis) :
    Prop where
  ends : ∀ kind, ∀ observation ∈ request.observations kind,
    (∃ found, EndsQuarantined analysis kind observation found) ∨
      ∃ normalized record key,
        EndsClassified analysis kind observation normalized record key
  determined : ∀ key ∈ analysis.classification.keys,
    key.outcome.classification = determinedClassification
      ((sides.recordsOf .source key.outcome.sku).map NormalizedRecord.record)
      ((sides.recordsOf .target key.outcome.sku).map NormalizedRecord.record)
  counted : (analysis.summary.counts.byClassification.map Prod.snd).sum =
    analysis.classification.keys.length
  batches : ∀ kind,
    countedRecords analysis.summary.counts.toCountFields kind +
      countedQuarantined analysis.summary.counts.toCountFields kind =
        (request.observations kind).length
  ordered : (analysis.classification.keys.map
    fun key => key.outcome.sku).Pairwise (· < ·)
  conflicts : analysis.conflicts.map
      (fun row => (row.sku, row.classification)) =
    analysis.conflictingKeys.map
      fun key => (key.outcome.sku, key.outcome.classification)
  indices : analysis.conflicts.map (fun row => row.conflictIndex) =
    List.range analysis.conflicts.length
  members : ∀ kind, ∀ row ∈ analysis.conflicts,
    row.toConflictFields.positions kind =
      (sides.recordsOf kind row.sku).map NormalizedRecord.position

/-! ## Every observation ends once -/

theorem classifiedRecords_nodup (result : ClassificationResult) :
    (result.records.map fun record => record.identity).Nodup := by
  have valid := result.valid
  simp only [validateClassification, bind_eq_ok, require_eq_ok,
    decide_eq_true_eq] at valid
  obtain ⟨_, _, _, _, _, distinct, _⟩ := valid
  exact distinct

variable {request : ReconciliationAnalysisRequest}
  {sides : NormalizedSides request} {analysis : ReconciliationAnalysis}
  {digest : StateFingerprint}

theorem AnalysisParts.matches_ (parts : AnalysisParts sides analysis digest) :
    sides.Matched analysis.matched :=
  matchByCanonicalKey_matches parts.matched

theorem AnalysisParts.quarantined
    (parts : AnalysisParts sides analysis digest) (kind : RecordSide) :
    analysis.quarantined kind = (sides.side kind).quarantined := by
  cases kind
  · exact parts.sourceQuarantined
  · exact parts.targetQuarantined

/-- The classified records are at the positions of the normalized ones. -/
theorem AnalysisParts.classified_position
    (parts : AnalysisParts sides analysis digest)
    {record : RecordClassification}
    (member : record ∈ analysis.classification.records) :
    ∃ normalized ∈ (sides.side record.side).records,
      normalized.position = record.position := by
  obtain ⟨classified, mapped, _, records⟩ :=
    classifyMatches_eq_ok parts.classification
  have identity : record.identity ∈
      (classified.flatMap Prod.snd).map fun record => record.identity := by
    rw [records, mem_sortedBy] at member
    exact List.mem_map.mpr ⟨record, member, rfl⟩
  rw [(classified_identities parts.matches_ mapped).mem_iff,
    List.mem_append, List.mem_map, List.mem_map] at identity
  simp only [RecordClassificationFields.identity, Prod.mk.injEq] at identity
  rcases identity with ⟨normalized, inside, kind, place⟩ |
    ⟨normalized, inside, kind, place⟩
  · exact ⟨normalized, kind ▸ inside, place⟩
  · exact ⟨normalized, kind ▸ inside, place⟩

/-- A normalized record is classified as the key of its SKU. -/
theorem AnalysisParts.classifies
    (parts : AnalysisParts sides analysis digest) {kind : RecordSide}
    {normalized : NormalizedRecord}
    (member : normalized ∈ (sides.side kind).records) :
    ∃ keyMatch key,
      keyMatch.sku = normalized.record.sku ∧
      key ∈ analysis.classification.keys ∧
      key.outcome.sku = normalized.record.sku ∧
      ∃ record ∈ analysis.classification.records,
        record.toRecordClassificationFields =
          memberFields keyMatch key kind normalized := by
  have matches_ := parts.matches_
  obtain ⟨classified, mapped, keys, records⟩ :=
    classifyMatches_eq_ok parts.classification
  have inSkus : normalized.record.sku ∈
      analysis.matched.map CanonicalKeyMatch.sku := by
    rw [matches_.covers]
    refine List.mem_map.mpr ⟨normalized, ?_, rfl⟩
    cases kind
    · exact List.mem_append_left _ member
    · exact List.mem_append_right _ member
  obtain ⟨keyMatch, inMatched, sku⟩ := List.mem_map.mp inSkus
  obtain ⟨part, inside, one⟩ := mapM_image mapped inMatched
  have classifies := classifyMatch_classifies one
  have inMatch : normalized ∈ keyMatch.records kind := by
    rw [matches_.records inMatched]
    exact mem_recordsOf.mpr ⟨member, sku.symm⟩
  have image : memberFields keyMatch part.1 kind normalized ∈
      part.2.map RecordClassification.toRecordClassificationFields := by
    rw [classifies.records, List.mem_append, List.mem_map, List.mem_map]
    cases kind
    · exact .inl ⟨normalized, inMatch, rfl⟩
    · exact .inr ⟨normalized, inMatch, rfl⟩
  obtain ⟨record, inPart, fields⟩ := List.mem_map.mp image
  refine ⟨keyMatch, part.1, sku, ?_, classifies.sku.trans sku, record, ?_,
    fields⟩
  · rw [keys]
    exact List.mem_map.mpr ⟨part, inside, rfl⟩
  · rw [records, mem_sortedBy]
    exact List.mem_flatMap.mpr ⟨part, inside, inPart⟩

theorem AnalysisParts.keys_ordered
    (parts : AnalysisParts sides analysis digest) :
    (analysis.classification.keys.map
      fun key => key.outcome.sku).Pairwise (· < ·) := by
  obtain ⟨classified, mapped, keys, _⟩ :=
    classifyMatches_eq_ok parts.classification
  rw [keys, classified_skus mapped]
  exact parts.matches_.ordered

/-- Every observation ends in exactly one place. -/
theorem AnalysisParts.ends (parts : AnalysisParts sides analysis digest)
    (kind : RecordSide) {observation : SourceObservation}
    (member : observation ∈ request.observations kind) :
    (∃ found, EndsQuarantined analysis kind observation found) ∨
      ∃ normalized record key,
        EndsClassified analysis kind observation normalized record key := by
  obtain ⟨entries, batch⟩ := sides.batch kind
  obtain ⟨entry, normalizes, records, quarantined⟩ :=
    batch.at_place member
  cases entry with
  | quarantined found =>
      refine .inl ⟨found, normalizes, ?_, ?_⟩
      · rw [ReconciliationAnalysis.quarantinedAt, parts.quarantined]
        exact quarantined
      · rw [ReconciliationAnalysis.classifiedAt, List.filter_eq_nil_iff]
        intro record inside
        simp only [RecordClassificationFields.identity, decide_eq_true_eq,
          Prod.mk.injEq, not_and]
        rintro rfl same
        obtain ⟨normalized, inSide, place⟩ :=
          parts.classified_position inside
        have atPlace : normalized ∈ ((sides.side record.side).records.filter
            fun r => r.position = observation.position) :=
          List.mem_filter.mpr ⟨inSide, by simp [place, same]⟩
        rw [records] at atPlace
        cases atPlace
  | record normalized =>
      have atPlace : normalized ∈ ((sides.side kind).records.filter
          fun r => r.position = observation.position) := by
        rw [records]
        exact List.mem_cons_self
      obtain ⟨inSide, place⟩ := List.mem_filter.mp atPlace
      rw [decide_eq_true_eq] at place
      obtain ⟨keyMatch, key, matchSku, inKeys, keySku, record, inRecords,
        fields⟩ := parts.classifies inSide
      have identity : record.identity = (kind, observation.position) := by
        rw [RecordClassificationFields.identity, fields, ← place]
        rfl
      have sku : record.sku = normalized.record.sku :=
        (congrArg RecordClassificationFields.sku fields).trans matchSku
      refine .inr ⟨normalized, record, key, normalizes, ?_, ?_, sku,
        congrArg RecordClassificationFields.sourceRecordKey fields, ?_,
        congrArg RecordClassificationFields.classification fields⟩
      · rw [ReconciliationAnalysis.classifiedAt, ← identity]
        exact filter_key_eq_singleton
          (classifiedRecords_nodup analysis.classification) inRecords
      · rw [ReconciliationAnalysis.quarantinedAt, parts.quarantined]
        exact quarantined
      · rw [ReconciliationAnalysis.keysOf, sku, ← keySku]
        exact filter_key_eq_singleton
          (parts.keys_ordered.imp ne_of_lt) inKeys

/-! ## Counts and conflicts -/

omit [PythonRuntime] in
/-- Every classification is counted. -/
theorem classificationCounts_sum [PythonRuntime]
    (classification : ClassificationResult) :
    ((classificationCounts classification).map Prod.snd).sum =
      classification.keys.length := by
  have distinct : orderedClassifications.Nodup :=
    (sortedBy_perm _ _).nodup_iff.mpr (by decide)
  have covers : ∀ key ∈ classification.keys,
      key.outcome.classification ∈ orderedClassifications := by
    intro key _
    rw [orderedClassifications, mem_sortedBy]
    cases key.outcome.classification <;> decide
  have regrouped := (regroup_perm distinct covers).length_eq
  rw [List.length_flatMap] at regrouped
  rw [← regrouped, classificationCounts, List.map_map]
  rfl

theorem AnalysisParts.counts (parts : AnalysisParts sides analysis digest) :
    ∃ breakdown, analysis.summary.counts.toCountFields =
      countsOf analysis.classification (sides.side .source)
        (sides.side .target) breakdown := by
  obtain ⟨breakdown, _, counts, _⟩ :=
    buildReconciliationSummary_form parts.summary
  exact ⟨breakdown, counts⟩

theorem AnalysisParts.batches (parts : AnalysisParts sides analysis digest)
    (kind : RecordSide) :
    countedRecords analysis.summary.counts.toCountFields kind +
      countedQuarantined analysis.summary.counts.toCountFields kind =
        (request.observations kind).length := by
  obtain ⟨breakdown, counts⟩ := parts.counts
  obtain ⟨entries, batch⟩ := sides.batch kind
  have positions := batch.normalizes.positions.length_eq
  simp only [List.length_append, List.length_map] at positions
  rw [← positions, counts]
  cases kind <;> rfl

/-- The keys, looked up by the SKUs of the matches, are all keys in order. -/
theorem AnalysisParts.lookups (parts : AnalysisParts sides analysis digest) :
    analysis.matched.map (fun keyMatch =>
        analysis.classification.keys.find? fun key =>
          key.outcome.sku == keyMatch.sku) =
      analysis.classification.keys.map some := by
  obtain ⟨classified, mapped, keys, _⟩ :=
    classifyMatches_eq_ok parts.classification
  have kept : classified.map (fun part => some part.1) =
      analysis.matched.map (fun keyMatch =>
        analysis.classification.keys.find? fun key =>
          key.outcome.sku == keyMatch.sku) := by
    apply mapM_keeps _ mapped
    intro keyMatch member part one
    obtain ⟨same, inside, again⟩ := mapM_image mapped member
    cases one.symm.trans again
    have inKeys : part.1 ∈ analysis.classification.keys := by
      rw [keys]
      exact List.mem_map.mpr ⟨part, inside, rfl⟩
    exact (find?_key (parts.keys_ordered.imp ne_of_lt) inKeys
      (classifyMatch_classifies one).sku).symm
  rw [← kept, keys, List.map_map]
  rfl

/-- The conflicts are the keys that are no matches, in order. -/
theorem AnalysisParts.pairs (parts : AnalysisParts sides analysis digest) :
    (conflictPairs analysis.classification analysis.matched).map Prod.snd =
      analysis.conflictingKeys := by
  let conflicting (key : ClassifiedKey) : Option ClassifiedKey :=
    if key.outcome.classification = .match_ then none else some key
  calc
    (conflictPairs analysis.classification analysis.matched).map Prod.snd =
        analysis.matched.filterMap (fun keyMatch =>
          (analysis.classification.keys.find? fun key =>
            key.outcome.sku == keyMatch.sku).bind conflicting) := by
      rw [conflictPairs, List.map_filterMap]
      congr 1
      funext keyMatch
      cases analysis.classification.keys.find? fun key =>
          key.outcome.sku == keyMatch.sku with
      | none => rfl
      | some key =>
          simp only [Option.bind_some, conflicting]
          split <;> rfl
    _ = (analysis.classification.keys.map some).filterMap
        (fun found => found.bind conflicting) := by
      rw [← parts.lookups, List.filterMap_map]
      rfl
    _ = analysis.classification.keys.filterMap conflicting := by
      rw [List.filterMap_map]
      rfl
    _ = analysis.conflictingKeys := by
      rw [ReconciliationAnalysis.conflictingKeys, ← List.filterMap_eq_filter]
      congr 1
      funext key
      by_cases isMatch : key.outcome.classification = .match_ <;>
        simp [conflicting, isMatch, Option.guard]

theorem AnalysisParts.pair_origin
    (parts : AnalysisParts sides analysis digest)
    {pair : CanonicalKeyMatch × ClassifiedKey}
    (inside : pair ∈
      conflictPairs analysis.classification analysis.matched) :
    pair.1 ∈ analysis.matched ∧ pair.2.outcome.sku = pair.1.sku := by
  obtain ⟨keyMatch, member, selected⟩ := List.mem_filterMap.mp inside
  obtain ⟨key, _, records, classifies, finds⟩ :=
    parts.matches_.classified parts.classification member
  simp only [finds, Option.bind_some] at selected
  split at selected
  next => cases selected
  next =>
    cases selected
    exact ⟨member, classifies.sku⟩

/-- The rows, in terms of the conflicts. -/
theorem AnalysisParts.rows (parts : AnalysisParts sides analysis digest) :
    analysis.conflicts.map ReconciliationConflictRow.toConflictFields =
      (conflictPairs analysis.classification
        analysis.matched).zipIdx.map fun entry =>
          conflictFields entry.2 entry.1.1 entry.1.2 :=
  conflictRows_form parts.conflicts

theorem AnalysisParts.conflicts_keys
    (parts : AnalysisParts sides analysis digest) :
    analysis.conflicts.map (fun row => (row.sku, row.classification)) =
      analysis.conflictingKeys.map
        fun key => (key.outcome.sku, key.outcome.classification) := by
  let pairs := conflictPairs analysis.classification analysis.matched
  have rows := congrArg (List.map fun fields : ConflictFields =>
    (fields.sku, fields.classification)) parts.rows
  rw [List.map_map, List.map_map] at rows
  calc
    analysis.conflicts.map (fun row => (row.sku, row.classification)) =
        pairs.zipIdx.map (fun entry =>
          (entry.1.1.sku, entry.1.2.outcome.classification)) := rows
    _ = (pairs.zipIdx.map Prod.fst).map (fun pair =>
          (pair.1.sku, pair.2.outcome.classification)) := by
      rw [List.map_map]
      rfl
    _ = pairs.map (fun pair =>
          (pair.2.outcome.sku, pair.2.outcome.classification)) := by
      rw [List.zipIdx_map_fst]
      apply List.map_congr_left
      intro pair member
      rw [(parts.pair_origin member).2]
    _ = analysis.conflictingKeys.map (fun key =>
          (key.outcome.sku, key.outcome.classification)) := by
      rw [← parts.pairs, List.map_map]
      rfl

theorem AnalysisParts.indices
    (parts : AnalysisParts sides analysis digest) :
    analysis.conflicts.map (fun row => row.conflictIndex) =
      List.range analysis.conflicts.length := by
  let pairs := conflictPairs analysis.classification analysis.matched
  have rows := congrArg (List.map ConflictFields.conflictIndex) parts.rows
  rw [List.map_map, List.map_map] at rows
  have lengths := congrArg List.length parts.rows
  simp only [List.length_map, List.length_zipIdx] at lengths
  calc
    analysis.conflicts.map (fun row => row.conflictIndex) =
        pairs.zipIdx.map Prod.snd := rows
    _ = List.range pairs.length := by
      rw [List.zipIdx_map_snd, List.range_eq_range']
    _ = List.range analysis.conflicts.length := by rw [lengths]

theorem AnalysisParts.members (parts : AnalysisParts sides analysis digest)
    (kind : RecordSide) {row : ReconciliationConflictRow}
    (member : row ∈ analysis.conflicts) :
    row.toConflictFields.positions kind =
      (sides.recordsOf kind row.sku).map NormalizedRecord.position := by
  have image : row.toConflictFields ∈ analysis.conflicts.map
      ReconciliationConflictRow.toConflictFields :=
    List.mem_map.mpr ⟨row, member, rfl⟩
  rw [parts.rows, List.mem_map] at image
  obtain ⟨⟨pair, index⟩, inside, fields⟩ := image
  have origin := parts.pair_origin (List.fst_mem_of_mem_zipIdx inside)
  have records := parts.matches_.records origin.1 kind
  have sku : row.sku = pair.1.sku :=
    (congrArg ConflictFields.sku fields).symm
  rw [sku, ← records, ← orderedMembers_eq, ← fields]
  cases kind <;> rfl

/-! ## The pipeline conserves -/

theorem AnalysisParts.conserves
    (parts : AnalysisParts sides analysis digest) :
    Conserves sides analysis := by
  obtain ⟨breakdown, counts⟩ := parts.counts
  refine
    { ends := fun kind _ => parts.ends kind
      determined := ?_
      counted := ?_
      batches := parts.batches
      ordered := parts.keys_ordered
      conflicts := parts.conflicts_keys
      indices := parts.indices
      members := fun kind _ => parts.members kind }
  · intro key member
    obtain ⟨classified, mapped, keys, _⟩ :=
      classifyMatches_eq_ok parts.classification
    rw [keys] at member
    obtain ⟨part, inside, rfl⟩ := List.mem_map.mp member
    obtain ⟨keyMatch, from_, one⟩ := mapM_origin mapped inside
    have classifies := classifyMatch_classifies one
    rw [classifies.sku]
    exact parts.matches_.determined from_ classifies
  · rw [counts]
    exact classificationCounts_sum analysis.classification

/--
Where both batches normalize, no key has more than 1,024 records on one side
and at most 10,000 keys exist, the analysis returns and conserves every
observation exactly when the inputs can be summarized and no one-to-one key
with different contents differs at more than 64 paths.
-/
theorem analyzeReconciliation_conserves
    (request : ReconciliationAnalysisRequest)
    (sides : NormalizedSides request) (few : sides.Few)
    (fewKeys : sides.skus.length ≤ maxFingerprintItems) :
    (∃ analysis, analyzeReconciliation request = .ok analysis ∧
        Conserves sides analysis) ↔
      request.inputs.Printable ∧ sides.Narrow := by
  constructor
  · rintro ⟨analysis, returned, _⟩
    obtain ⟨others, _, _, printable, narrow⟩ :=
      (analyzeReconciliation_returns request).mp ⟨analysis, returned⟩
    rw [sides.unique others]
    exact ⟨printable, narrow⟩
  · rintro ⟨printable, narrow⟩
    obtain ⟨analysis, returned⟩ :=
      (analyzeReconciliation_returns request).mpr
        ⟨sides, few, fewKeys, printable, narrow⟩
    obtain ⟨others, digest, parts⟩ := analyzeReconciliation_parts returned
    rw [sides.unique others]
    exact ⟨analysis, returned, parts.conserves⟩

end Conservation

/-! ## Concrete requests -/

section Sample

attribute [local instance] asciiRuntime

/-- A widget with the attributes `<head>00`, …, `<head>31`. -/
def wideFields (name : String) (head : Char) : Payload :=
  widgetFields "SKU-1" "key-1" name "USD" "1.25"
    "2024-01-02T03:04:05.000006Z" ((List.range 32).map fun index =>
      (point head :: zeroPadded 2 index, .string (text "x")))

/-- The only observation of the source. -/
def wideSource : SourceObservation :=
  { sampleObservation with
    payload := .mapping (wideFields "Widget" 'a') (by decide +kernel) }

/-- The only observation of the target: another name, other attributes. -/
def wideTarget : SourceObservation :=
  { sampleObservation with
    payload := .mapping (wideFields "Gadget" 'b') (by decide +kernel) }

/-- Valid identities and the first query version. -/
def sampleInputs : AnalysisInputs where
  sourceInputIdentity := List.replicate 64 (point '0')
  targetInputIdentity := List.replicate 64 (point '1')
  analyticalQueryVersion := 1

/-- One widget on each side, at one SKU. -/
def wideRequest : ReconciliationAnalysisRequest where
  sourceObservations := [wideSource]
  targetObservations := [wideTarget]
  inputs := sampleInputs

/-- The only records of both sides of the wide request. -/
def wideRecords : Except PythonError (NormalizedRecord × NormalizedRecord) := do
  let source ← normalizeSourceObservations wideRequest.sourceObservations
  let target ← normalizeSourceObservations wideRequest.targetObservations
  match source.records, target.records with
  | [source], [target] => .ok (source, target)
  | _, _ => .error .keyError

/-- The records share their SKU and differ at more than 64 paths. -/
theorem wideRecords_differ :
    (wideRecords.toOption.any fun (source, target) =>
      decide (source.record.sku = target.record.sku) &&
        decide (source.record.content ≠ target.record.content) &&
        decide (maxConflictDifferences <
          (differingPaths source.document target.document).length)) =
      true := by
  decide +kernel

theorem recordsOf_only {normalized : NormalizedRecord} :
    recordsOf normalized.record.sku [normalized] = [normalized] := by
  simp [recordsOf]

/-- A doubled widget and a quarantined observation against the widget. -/
def sampleRequest : ReconciliationAnalysisRequest where
  sourceObservations := sampleBatch
  targetObservations := [sampleObservation]
  inputs := sampleInputs

theorem sampleInputs_printable : sampleInputs.Printable :=
  ⟨by decide, by decide⟩

/-- Sides with two records each are small. -/
theorem short_sides {request : ReconciliationAnalysisRequest}
    (sides : NormalizedSides request)
    (short : ∀ kind, (sides.side kind).records.length ≤ 2) :
    sides.Few ∧ sides.skus.length ≤ maxFingerprintItems := by
  constructor
  · intro kind sku
    have fewer := List.length_filter_le
      (fun normalized => decide (normalized.record.sku = sku))
      (sides.side kind).records
    exact (fewer.trans (short kind)).trans (by decide)
  · have fewer := (List.dedup_sublist
      (((sides.side .source).records ++ (sides.side .target).records).map
        fun normalized => normalized.record.sku)).length_le
    simp only [List.length_map, List.length_append] at fewer
    have sources := short .source
    have targets := short .target
    simp only [NormalizedSides.skus, maxFingerprintItems]
    omega

/-- The sides of a request whose batches normalize. -/
def sidesOf {request : ReconciliationAnalysisRequest}
    {source target : SourceNormalization}
    (sourceReturned : normalizeSourceObservations
      request.sourceObservations = .ok source)
    (targetReturned : normalizeSourceObservations
      request.targetObservations = .ok target) :
    NormalizedSides request where
  side
    | .source => source
    | .target => target
  returned
    | .source => sourceReturned
    | .target => targetReturned

/-- A key with 65 differences aborts its analysis. -/
theorem analyzeReconciliation_aborted_by_wide_key :
    ¬ ∀ (request : ReconciliationAnalysisRequest)
      (sides : NormalizedSides request), sides.Few →
      sides.skus.length ≤ maxFingerprintItems →
      request.inputs.Printable →
      ∃ analysis, analyzeReconciliation request = .ok analysis ∧
        Conserves sides analysis := by
  intro always
  have differ := wideRecords_differ
  obtain ⟨⟨source, target⟩, found⟩ : Returns wideRecords := by
    cases found : wideRecords with
    | ok pair => exact .ok pair
    | error raised =>
        rw [found] at differ
        cases differ
  rw [found] at differ
  simp only [Except.toOption, Option.any_some, Bool.and_eq_true,
    decide_eq_true_eq] at differ
  obtain ⟨⟨sku, contents⟩, wide⟩ := differ
  simp only [wideRecords, bind_eq_ok] at found
  obtain ⟨sources, sourceReturned, targets, targetReturned, only⟩ := found
  split at only
  next sourceOnly targetOnly sourceRecords targetRecords =>
    cases only
    let sides := sidesOf sourceReturned targetReturned
    have short : ∀ kind, (sides.side kind).records.length ≤ 2
      | .source => by simp [sides, sidesOf, sourceRecords]
      | .target => by simp [sides, sidesOf, targetRecords]
    obtain ⟨few, fewKeys⟩ := short_sides sides short
    obtain ⟨analysis, returned, _⟩ :=
      always wideRequest sides few fewKeys sampleInputs_printable
    obtain ⟨others, _, _, _, narrow⟩ :=
      (analyzeReconciliation_returns wideRequest).mp ⟨analysis, returned⟩
    rw [← sides.unique others] at narrow
    have sourceHas : sides.recordsOf .source source.record.sku =
        [source] := by
      rw [NormalizedSides.recordsOf,
        show (sides.side .source).records = [source] from sourceRecords]
      exact recordsOf_only
    have targetHas : sides.recordsOf .target source.record.sku =
        [target] := by
      rw [NormalizedSides.recordsOf, sku,
        show (sides.side .target).records = [target] from targetRecords]
      exact recordsOf_only
    exact absurd (narrow _ _ _ sourceHas targetHas contents)
      (not_le.mpr wide)
  next => cases only

/-- The records of the batch: two of one SKU. -/
theorem sampleBatch_records {normalization : SourceNormalization}
    (returned : normalizeSourceObservations sampleBatch = .ok normalization) :
    ∃ first second, normalization.records = [first, second] ∧
      first.record.sku = second.record.sku := by
  have skus : (normalizeSourceObservations sampleBatch).toOption.all
      (fun normalization => normalization.records.map (·.record.sku) =
        [text "SKU-1", text "SKU-1"]) = true := by
    decide
  rw [returned, Except.toOption, Option.all_some, decide_eq_true_eq] at skus
  obtain ⟨first, rest, records, sku, others⟩ := List.map_eq_cons_iff.mp skus
  obtain ⟨second, _, rfl, same, ends⟩ := List.map_eq_cons_iff.mp others
  obtain rfl := List.map_eq_nil_iff.mp ends
  exact ⟨first, second, records, sku.trans same.symm⟩

/-- A doubled and a quarantined observation are analysed and conserved. -/
theorem analyzeReconciliation_conserves_sample :
    ∃ (sides : NormalizedSides sampleRequest)
      (analysis : ReconciliationAnalysis),
      analyzeReconciliation sampleRequest = .ok analysis ∧
        Conserves sides analysis := by
  obtain ⟨source, sourceReturned⟩ :
      Returns (normalizeSourceObservations sampleBatch) :=
    returns_of_isSome (by decide)
  obtain ⟨target, targetReturned⟩ :
      Returns (normalizeSourceObservations [sampleObservation]) :=
    returns_of_isSome (by decide)
  obtain ⟨first, second, records, sku⟩ := sampleBatch_records sourceReturned
  let sides : NormalizedSides sampleRequest :=
    sidesOf sourceReturned targetReturned
  have single : (normalizeSourceObservations
      [sampleObservation]).toOption.all (·.records.length ≤ 2) = true := by
    decide
  rw [targetReturned] at single
  have short : ∀ kind, (sides.side kind).records.length ≤ 2
    | .source => by simp [sides, sidesOf, records]
    | .target => of_decide_eq_true single
  obtain ⟨few, fewKeys⟩ := short_sides sides short
  have narrow : sides.Narrow := by
    -- The source has both records of a SKU or none.
    intro key _ _ only
    simp only [NormalizedSides.recordsOf, recordsOf, sides, sidesOf, records,
      List.filter_cons, ← sku, List.filter_nil] at only
    split at only <;> cases only
  obtain ⟨analysis, analysed, conserves⟩ :=
    (analyzeReconciliation_conserves sampleRequest sides few fewKeys).mpr
      ⟨sampleInputs_printable, narrow⟩
  exact ⟨sides, analysis, analysed, conserves⟩

end Sample

end ParityGrid.Application
