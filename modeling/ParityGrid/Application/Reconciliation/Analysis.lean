import ParityGrid.Domain.Reconciliation.Documents
import ParityGrid.Domain.Reconciliation.Summaries
import ParityGrid.Domain.Canonical.Fingerprints

/-!
# Reconciliation analysis

The analysis composes normalization, matching, classification and the summary
of one request, and turns every key that is not a match into a conflict row.
-/

namespace ParityGrid.Application

open Foundation Domain

/-- `MAX_CONFLICT_CONFLICT_INDEX`. -/
def maxConflictIndex : Nat := 9223372036854775807

/-- `MAX_CONFLICT_MEMBER_KEYS`. -/
def maxConflictMemberKeys : Nat := 1024

/-- `MAX_CONFLICT_DIFFERENCES`. -/
def maxConflictDifferences : Nat := 64

/-- `MAX_CONFLICT_SECONDARY`. -/
def maxConflictSecondary : Nat := 8

/-! ## Conflict rows -/

/-- The arguments of the conflict row constructor. -/
structure ConflictFields where
  conflictIndex : Nat
  sku : Text
  classification : ReconciliationClassification
  suggestedResolution : SuggestedResolution
  sourcePositions : List Nat
  targetPositions : List Nat
  sourceRecordKeys : List Text
  targetRecordKeys : List Text
  differences : List FieldDifference
  secondary : List SecondaryEvidence
deriving DecidableEq

/-- The checks that a conflict row makes of the members of one side. -/
def validateProvenance (positions : List Nat) (keys : List Text) :
    Except PythonError Unit := do
  require (positions.length == keys.length)
    (.valueError (text "conflict provenance must be parallel tuples"))
  require (keys.length ≤ maxConflictMemberKeys)
    (.valueError (text "conflict provenance exceeds the member limit"))
  require (keys.all (· != []))
    (.valueError (text "conflict record keys must be nonempty text"))
  require (positions == sorted positions && decide positions.Nodup)
    (.valueError (text "conflict positions must be sorted and unique"))

/-- `ReconciliationConflictRow.__post_init__`. -/
def ConflictFields.validate (fields : ConflictFields) :
    Except PythonError Unit := do
  require (fields.conflictIndex ≤ maxConflictIndex)
    (.valueError (text "conflict index is outside the supported range"))
  require (fields.sku != [])
    (.typeError (text "conflict SKU must be nonempty text"))
  require (fields.classification != .match_)
    (.valueError (text
      "conflict rows cannot carry the match classification"))
  require (fields.suggestedResolution ==
      suggestedResolutionFor fields.classification)
    (.valueError (text
      "conflict resolution does not match its classification"))
  validateProvenance fields.sourcePositions fields.sourceRecordKeys
  validateProvenance fields.targetPositions fields.targetRecordKeys
  require (!(fields.sourceRecordKeys.isEmpty &&
      fields.targetRecordKeys.isEmpty))
    (.valueError (text
      "conflict rows must reference at least one member record"))
  require (fields.differences.length ≤ maxConflictDifferences)
    (.valueError (text "conflict differences exceed the limit"))
  require (fields.secondary.length ≤ maxConflictSecondary)
    (.valueError (text "conflict secondary evidence exceeds the limit"))

/-- One artifact-ready conflict for a key that is not a match. -/
structure ReconciliationConflictRow extends ConflictFields where
  valid : toConflictFields.validate = .ok ()
deriving DecidableEq

def ReconciliationConflictRow.create (fields : ConflictFields) :
    Except PythonError ReconciliationConflictRow :=
  (certify fields.validate fun _ accepted => accepted).map
    fun checked => ⟨fields, checked.2⟩

section Analysis

variable [PythonRuntime]

/-- `_ordered_members`. -/
def orderedMembers (keyMatch : CanonicalKeyMatch) (side : RecordSide) :
    List NormalizedRecord :=
  sortedBy NormalizedRecord.position (keyMatch.records side)

/-- The row of one key, with the provenance of `_member_provenance`. -/
def conflictFields (index : Nat) (keyMatch : CanonicalKeyMatch)
    (key : ClassifiedKey) : ConflictFields where
  conflictIndex := index
  sku := keyMatch.sku
  classification := key.outcome.classification
  suggestedResolution := key.suggestedResolution
  sourcePositions :=
    (orderedMembers keyMatch .source).map NormalizedRecord.position
  targetPositions :=
    (orderedMembers keyMatch .target).map NormalizedRecord.position
  sourceRecordKeys :=
    (orderedMembers keyMatch .source).map fun r => r.record.sourceRecordKey
  targetRecordKeys :=
    (orderedMembers keyMatch .target).map fun r => r.record.sourceRecordKey
  differences := key.differences
  secondary := key.secondary

/-- `_conflict_rows` after `index` rows. -/
def conflictRows (classification : ClassificationResult) :
    Nat → List CanonicalKeyMatch →
      Except PythonError (List ReconciliationConflictRow)
  | _, [] => .ok []
  | index, keyMatch :: rest =>
      match classification.keys.find? fun key =>
          key.outcome.sku == keyMatch.sku with
      | none => .error .keyError
      | some key =>
          if key.outcome.classification = .match_ then
            conflictRows classification index rest
          else do
            let row ← ReconciliationConflictRow.create
              (conflictFields index keyMatch key)
            let later ← conflictRows classification (index + 1) rest
            pure (row :: later)

/-! ## Analyses -/

/-- The exact observations and input identities for one analysis. -/
structure ReconciliationAnalysisRequest where
  sourceObservations : List SourceObservation
  targetObservations : List SourceObservation
  inputs : AnalysisInputs

/-- The complete deterministic result of one analysis. -/
structure ReconciliationAnalysis where
  summary : ReconciliationSummary
  classification : ClassificationResult
  conflicts : List ReconciliationConflictRow
  matched : List CanonicalKeyMatch
  collisions : List CanonicalKeyCollision
  duplicateGroups : List DuplicateRecordGroup
  sourceQuarantined : List QuarantinedObservation
  targetQuarantined : List QuarantinedObservation
deriving DecidableEq

/-- `analyze_reconciliation`. -/
def analyzeReconciliation (request : ReconciliationAnalysisRequest) :
    Except PythonError ReconciliationAnalysis := do
  let source ← normalizeSourceObservations request.sourceObservations
  let target ← normalizeSourceObservations request.targetObservations
  let matched ← matchByCanonicalKey source.records target.records
  let classification ← classifyMatches matched
  let outcomeStateDigest ← fingerprintState .reconciliationState
    (classification.keys.map ClassifiedKey.outcome) .v1
  let summary ← buildReconciliationSummary classification source target
    request.inputs outcomeStateDigest
  let conflicts ← conflictRows classification 0 matched
  let collisions ← detectCanonicalKeyCollisions matched
  let duplicateGroups ← detectDuplicateRecordGroups matched
  pure
    { summary
      classification
      conflicts
      matched
      collisions
      duplicateGroups
      sourceQuarantined := source.quarantined
      targetQuarantined := target.quarantined }

/-! ## What the rows hold -/

/-- Members are kept in position order already. -/
theorem orderedMembers_eq (keyMatch : CanonicalKeyMatch)
    (side : RecordSide) :
    orderedMembers keyMatch side = keyMatch.records side :=
  sortedBy_of_pairwise
    ((List.pairwise_map.mp (keyMatch.positions_strict side)).imp le_of_lt)

theorem validateProvenance_members (keyMatch : CanonicalKeyMatch)
    (side : RecordSide) :
    validateProvenance
      ((orderedMembers keyMatch side).map NormalizedRecord.position)
      ((orderedMembers keyMatch side).map fun r =>
        r.record.sourceRecordKey) = .ok () := by
  rw [orderedMembers_eq]
  have strict := keyMatch.positions_strict side
  have few : (keyMatch.records side).length ≤ maxConflictMemberKeys :=
    keyMatch.records_few side
  have sorts : sorted ((keyMatch.records side).map
      NormalizedRecord.position) =
        (keyMatch.records side).map NormalizedRecord.position :=
    sortedBy_of_pairwise (strict.imp le_of_lt)
  have distinct : ((keyMatch.records side).map
      NormalizedRecord.position).Nodup := strict.imp ne_of_lt
  have keyed : (((keyMatch.records side).map fun r =>
      r.record.sourceRecordKey).all (· != [])) = true := by
    simp only [List.all_eq_true, List.mem_map, bne_iff_ne]
    rintro key ⟨record, _, rfl⟩
    exact record.record.sourceRecordKey_ne_nil
  simp only [validateProvenance, List.length_map, beq_self_eq_true, few,
    decide_true, keyed, sorts, distinct, Bool.and_self, require_true,
    ok_bind]

/-- A key that is no match has a row unless its differences are too many. -/
theorem conflictRow_returns {index : Nat} {keyMatch : CanonicalKeyMatch}
    {key : ClassifiedKey} {records : List RecordClassification}
    (small : index ≤ maxConflictIndex)
    (some_ : keyMatch.sourceRecords ≠ [] ∨ keyMatch.targetRecords ≠ [])
    (classifies : ClassifiesMatch keyMatch key records)
    (conflict : key.outcome.classification ≠ .match_) :
    Returns (ReconciliationConflictRow.create
      (conflictFields index keyMatch key)) ↔
        key.differences.length ≤ maxConflictDifferences := by
  have named : (keyMatch.sku != []) = true := by
    simpa using keyMatch.sku_ne_nil
  have different : (key.outcome.classification != .match_) = true := by
    simpa using conflict
  have resolution : (key.suggestedResolution ==
      suggestedResolutionFor key.outcome.classification) = true := by
    simpa using key.agrees
  have members : (!(((orderedMembers keyMatch .source).map fun r =>
      r.record.sourceRecordKey).isEmpty &&
        ((orderedMembers keyMatch .target).map fun r =>
          r.record.sourceRecordKey).isEmpty)) = true := by
    rw [orderedMembers_eq, orderedMembers_eq]
    simpa [CanonicalKeyMatch.records, imp_iff_not_or] using some_
  have secondary : key.secondary.length ≤ maxConflictSecondary :=
    (keySecondary_length classifies.secondary).trans (by decide)
  have valid : (conflictFields index keyMatch key).validate = .ok () ↔
      key.differences.length ≤ maxConflictDifferences := by
    simp only [ConflictFields.validate, conflictFields, small, decide_true,
      named, different, resolution, validateProvenance_members, members,
      secondary, require_true, ok_bind, bind_eq_ok, require_eq_ok,
      exists_const, and_true]
    exact decide_eq_true_iff
  rw [← valid]
  constructor
  · rintro ⟨row, returned⟩
    obtain ⟨checked, accepted, _⟩ := map_eq_ok.mp returned
    exact certify_eq_ok.mp accepted
  · intro accepted
    exact returns_map.mpr ⟨_, certify_ok (fun _ h => h) accepted⟩

/-- The matches that are no matches, with their classified keys. -/
def conflictPairs (classification : ClassificationResult) :
    List CanonicalKeyMatch → List (CanonicalKeyMatch × ClassifiedKey) :=
  List.filterMap fun keyMatch =>
    (classification.keys.find? fun key =>
      key.outcome.sku == keyMatch.sku).bind fun key =>
        if key.outcome.classification = .match_ then none
        else some (keyMatch, key)

/-- The rows are those of the conflicting keys, indexed in order. -/
theorem conflictRows_form {classification : ClassificationResult}
    {index : Nat} {matched : List CanonicalKeyMatch}
    {rows : List ReconciliationConflictRow}
    (returned : conflictRows classification index matched = .ok rows) :
    rows.map ReconciliationConflictRow.toConflictFields =
      ((conflictPairs classification matched).zipIdx index).map
        fun entry => conflictFields entry.2 entry.1.1 entry.1.2 := by
  induction matched generalizing index rows with
  | nil =>
      cases returned
      rfl
  | cons keyMatch rest ih =>
      simp only [conflictRows] at returned
      split at returned
      next => cases returned
      next key found =>
        split at returned
        next isMatch =>
          rw [ih returned]
          simp only [conflictPairs, List.filterMap_cons, found,
            Option.bind_some, isMatch, if_true]
        next conflict =>
          simp only [bind_eq_ok] at returned
          obtain ⟨row, created, later, others, same⟩ := returned
          cases same
          obtain ⟨checked, _, rfl⟩ := map_eq_ok.mp created
          simp only [conflictPairs, List.filterMap_cons, found,
            Option.bind_some, conflict, if_false, List.zipIdx_cons,
            List.map_cons, ih others]

/-- Every match is classified, and its key is found by its SKU. -/
def Classified (classification : ClassificationResult)
    (keyMatch : CanonicalKeyMatch) : Prop :=
  ∃ key ∈ classification.keys, ∃ records,
    ClassifiesMatch keyMatch key records ∧
      (classification.keys.find? fun other =>
        other.outcome.sku == keyMatch.sku) = some key

theorem conflictRows_returns {classification : ClassificationResult}
    (index : Nat) {matched : List CanonicalKeyMatch}
    (room : index + matched.length ≤ maxConflictIndex)
    (classified : ∀ keyMatch ∈ matched, Classified classification keyMatch)
    (some_ : ∀ keyMatch ∈ matched,
      keyMatch.sourceRecords ≠ [] ∨ keyMatch.targetRecords ≠ []) :
    Returns (conflictRows classification index matched) ↔
      ∀ pair ∈ conflictPairs classification matched,
        pair.2.differences.length ≤ maxConflictDifferences := by
  induction matched generalizing index with
  | nil => simp [conflictRows, conflictPairs, Returns]
  | cons keyMatch rest ih =>
      rw [List.forall_mem_cons] at classified some_
      simp only [List.length_cons] at room
      obtain ⟨key, _, records, classifies, found⟩ := classified.1
      by_cases isMatch : key.outcome.classification = .match_
      · have skips : conflictPairs classification (keyMatch :: rest) =
            conflictPairs classification rest := by
          simp only [conflictPairs, List.filterMap_cons, found,
            Option.bind_some, isMatch, if_true]
        have room : index + rest.length ≤ maxConflictIndex := by omega
        rw [skips, ← ih _ room classified.2 some_.2]
        simp only [conflictRows, found, isMatch, if_true]
      · have keeps : conflictPairs classification (keyMatch :: rest) =
            (keyMatch, key) :: conflictPairs classification rest := by
          simp only [conflictPairs, List.filterMap_cons, found,
            Option.bind_some, isMatch, if_false]
        have small : index ≤ maxConflictIndex := by omega
        have room : (index + 1) + rest.length ≤ maxConflictIndex := by omega
        rw [keeps, List.forall_mem_cons, ← ih _ room classified.2 some_.2,
          ← conflictRow_returns small some_.1 classifies isMatch]
        simp only [conflictRows, found, isMatch, if_false]
        constructor
        · intro returned
          obtain ⟨first, created, returned⟩ := returns_bind.mp returned
          obtain ⟨later, others, _⟩ := returns_bind.mp returned
          exact ⟨⟨first, created⟩, ⟨later, others⟩⟩
        · rintro ⟨first, others⟩
          exact first.bind fun _ _ => others.bind fun _ _ => .ok _

/-! ## When an analysis is returned -/

/-- The observations of one side of a request. -/
def ReconciliationAnalysisRequest.observations
    (request : ReconciliationAnalysisRequest) :
    RecordSide → List SourceObservation
  | .source => request.sourceObservations
  | .target => request.targetObservations

/-- What both batches of a request normalize to. -/
structure NormalizedSides (request : ReconciliationAnalysisRequest) where
  side : RecordSide → SourceNormalization
  returned : ∀ kind,
    normalizeSourceObservations (request.observations kind) =
      .ok (side kind)

/-- The normalized records with one SKU on one side. -/
def NormalizedSides.recordsOf {request : ReconciliationAnalysisRequest}
    (sides : NormalizedSides request) (kind : RecordSide) (sku : Text) :
    List NormalizedRecord :=
  Domain.recordsOf sku (sides.side kind).records

/-- The SKUs of the normalized records of both sides. -/
def NormalizedSides.skus {request : ReconciliationAnalysisRequest}
    (sides : NormalizedSides request) : List Text :=
  (((sides.side .source).records ++ (sides.side .target).records).map
    fun normalized => normalized.record.sku).dedup

/-- No SKU has more records on one side than a key can hold. -/
def NormalizedSides.Few {request : ReconciliationAnalysisRequest}
    (sides : NormalizedSides request) : Prop :=
  ∀ kind sku, (sides.recordsOf kind sku).length ≤ maxRecordsPerSide

/--
Where one record of each side has the SKU and their contents differ, their
documents differ at no more paths than a conflict row holds.
-/
def NormalizedSides.Narrow {request : ReconciliationAnalysisRequest}
    (sides : NormalizedSides request) : Prop :=
  ∀ sku source target,
    sides.recordsOf .source sku = [source] →
    sides.recordsOf .target sku = [target] →
    source.record.content ≠ target.record.content →
    (differingPaths source.document target.document).length ≤
      maxConflictDifferences

theorem NormalizedSides.batch {request : ReconciliationAnalysisRequest}
    (sides : NormalizedSides request) (kind : RecordSide) :
    ∃ entries, BatchEntries (request.observations kind) (sides.side kind)
      entries :=
  normalizeSourceObservations_entries (sides.returned kind)

theorem NormalizedSides.ordered {request : ReconciliationAnalysisRequest}
    (sides : NormalizedSides request) (kind : RecordSide) :
    Ordered (sides.side kind).records := by
  obtain ⟨entries, batch⟩ := sides.batch kind
  exact batch.normalizes.recordsOrdered

/-- The only record with a SKU on one side has the document of its fields. -/
theorem NormalizedSides.only_documented
    {request : ReconciliationAnalysisRequest}
    (sides : NormalizedSides request) {kind : RecordSide} {sku : Text}
    {normalized : NormalizedRecord}
    (only : sides.recordsOf kind sku = [normalized]) :
    normalized.Documented := by
  obtain ⟨entries, batch⟩ := sides.batch kind
  have member : normalized ∈ sides.recordsOf kind sku := by simp [only]
  exact batch.documented (mem_recordsOf.mp member).1

/-- The matches of both sides of a request. -/
abbrev NormalizedSides.Matched {request : ReconciliationAnalysisRequest}
    (sides : NormalizedSides request) (matched : List CanonicalKeyMatch) :
    Prop :=
  Matches (sides.side .source).records (sides.side .target).records matched

variable {request : ReconciliationAnalysisRequest}
  {sides : NormalizedSides request} {matched : List CanonicalKeyMatch}

theorem NormalizedSides.Matched.records
    (matches_ : sides.Matched matched) {keyMatch : CanonicalKeyMatch}
    (member : keyMatch ∈ matched) (kind : RecordSide) :
    keyMatch.records kind = sides.recordsOf kind keyMatch.sku := by
  cases kind
  · exact matches_.source keyMatch member
  · exact matches_.target keyMatch member

/-- As many keys as there are SKUs. -/
theorem NormalizedSides.Matched.length
    (matches_ : sides.Matched matched) :
    matched.length = sides.skus.length := by
  have distinct : (matched.map CanonicalKeyMatch.sku).Nodup :=
    matches_.ordered.imp ne_of_lt
  have same : (matched.map CanonicalKeyMatch.sku).Perm sides.skus := by
    rw [NormalizedSides.skus,
      List.perm_ext_iff_of_nodup distinct (List.nodup_dedup _)]
    intro sku
    rw [matches_.covers, List.mem_dedup]
  rw [← same.length_eq, List.length_map]

/-- The documents of a key always compare. -/
theorem NormalizedSides.Matched.compares
    (matches_ : sides.Matched matched) {keyMatch : CanonicalKeyMatch}
    (member : keyMatch ∈ matched) : Returns (keyDifferences keyMatch) := by
  simp only [keyDifferences]
  split
  next source target sources targets =>
    have sourceOnly : sides.recordsOf .source keyMatch.sku = [source] :=
      (matches_.records member .source).symm.trans sources
    have targetOnly : sides.recordsOf .target keyMatch.sku = [target] :=
      (matches_.records member .target).symm.trans targets
    obtain ⟨found, returned, _⟩ :=
      (sides.only_documented sourceOnly).compares
        (sides.only_documented targetOnly)
    exact ⟨found, returned⟩
  next => exact .ok []

/-- Every match is found among the classified keys by its SKU. -/
theorem NormalizedSides.Matched.classified
    (matches_ : sides.Matched matched)
    {classification : ClassificationResult}
    (returned : classifyMatches matched = .ok classification)
    {keyMatch : CanonicalKeyMatch} (member : keyMatch ∈ matched) :
    Classified classification keyMatch := by
  obtain ⟨parts, classified, keys, _⟩ := classifyMatches_eq_ok returned
  obtain ⟨part, inside, one⟩ := mapM_image classified member
  have classifies := classifyMatch_classifies one
  have inKeys : part.1 ∈ classification.keys := by
    rw [keys]
    exact List.mem_map.mpr ⟨part, inside, rfl⟩
  have distinct : (classification.keys.map
      fun key => key.outcome.sku).Nodup := by
    rw [keys, classified_skus classified]
    exact matches_.ordered.imp ne_of_lt
  exact ⟨part.1, inKeys, part.2, classifies,
    find?_key distinct inKeys classifies.sku⟩

/-- The classification of a key is that of the records of its SKU. -/
theorem NormalizedSides.Matched.determined
    (matches_ : sides.Matched matched) {keyMatch : CanonicalKeyMatch}
    (member : keyMatch ∈ matched) {key : ClassifiedKey}
    {records : List RecordClassification}
    (classifies : ClassifiesMatch keyMatch key records) :
    key.outcome.classification = determinedClassification
      ((sides.recordsOf .source keyMatch.sku).map NormalizedRecord.record)
      ((sides.recordsOf .target keyMatch.sku).map
        NormalizedRecord.record) := by
  rw [key.outcome.determined.1, classifies.sources, classifies.targets,
    ← matches_.records member .source, ← matches_.records member .target]
  exact determinedClassification_perm (sortedBy_perm _ _)
    (sortedBy_perm _ _)

/-- The rows of the conflicts fit exactly when the sides are narrow. -/
theorem NormalizedSides.Matched.narrow
    (matches_ : sides.Matched matched)
    {classification : ClassificationResult}
    (returned : classifyMatches matched = .ok classification) :
    (∀ pair ∈ conflictPairs classification matched,
      pair.2.differences.length ≤ maxConflictDifferences) ↔
        sides.Narrow := by
  constructor
  · intro fit sku source target sources targets differ
    have inside : sku ∈ matched.map CanonicalKeyMatch.sku := by
      have member : source ∈ sides.recordsOf .source sku := by simp [sources]
      obtain ⟨inSource, same⟩ := mem_recordsOf.mp member
      exact (matches_.covers sku).mpr (List.mem_map.mpr
        ⟨source, List.mem_append_left _ inSource, same⟩)
    obtain ⟨keyMatch, member, rfl⟩ := List.mem_map.mp inside
    obtain ⟨key, _, records, classifies, found⟩ :=
      matches_.classified returned member
    have determined := matches_.determined member classifies
    have conflict : key.outcome.classification ≠ .match_ := by
      rw [determined, sources, targets]
      simp [determinedClassification, differ]
    have pair : (keyMatch, key) ∈ conflictPairs classification matched :=
      List.mem_filterMap.mpr ⟨keyMatch, member, by
        simp only [found, Option.bind_some, conflict, if_false]⟩
    obtain ⟨differences, again, paths⟩ :=
      (sides.only_documented sources).compares
        (sides.only_documented targets)
    have compared := classifies.differences
    rw [← matches_.records member .source] at sources
    rw [← matches_.records member .target] at targets
    simp only [CanonicalKeyMatch.records] at sources targets
    simp only [keyDifferences, sources, targets] at compared
    cases compared.symm.trans again
    rw [← paths, List.length_map]
    exact fit _ pair
  · intro narrow pair inside
    obtain ⟨keyMatch, member, selected⟩ := List.mem_filterMap.mp inside
    obtain ⟨key, _, records, classifies, found⟩ :=
      matches_.classified returned member
    simp only [found, Option.bind_some] at selected
    split at selected
    next => cases selected
    next conflict =>
      cases selected
      have compared := classifies.differences
      simp only [keyDifferences] at compared
      split at compared
      next source target sources targets =>
        have sourceRecords : sides.recordsOf .source keyMatch.sku =
            [source] := by
          rw [← matches_.records member]
          exact sources
        have targetRecords : sides.recordsOf .target keyMatch.sku =
            [target] := by
          rw [← matches_.records member]
          exact targets
        have differ : source.record.content ≠ target.record.content := by
          intro same
          apply conflict
          rw [matches_.determined member classifies, sourceRecords,
            targetRecords]
          simp [determinedClassification, same]
        obtain ⟨differences, again, paths⟩ :=
          (sides.only_documented sourceRecords).compares
            (sides.only_documented targetRecords)
        cases compared.symm.trans again
        have lengths := congrArg List.length paths
        rw [List.length_map] at lengths
        rw [lengths]
        exact narrow _ source target sourceRecords targetRecords differ
      next =>
        rw [← Except.ok.inj compared]
        exact Nat.zero_le _

/-- What an analysis is made of. -/
structure AnalysisParts {request : ReconciliationAnalysisRequest}
    (sides : NormalizedSides request) (analysis : ReconciliationAnalysis)
    (digest : StateFingerprint) : Prop where
  matched : matchByCanonicalKey (sides.side .source).records
    (sides.side .target).records = .ok analysis.matched
  classification : classifyMatches analysis.matched =
    .ok analysis.classification
  digested : fingerprintState .reconciliationState
    (analysis.classification.keys.map ClassifiedKey.outcome) .v1 = .ok digest
  summary : buildReconciliationSummary analysis.classification
    (sides.side .source) (sides.side .target) request.inputs digest =
      .ok analysis.summary
  conflicts : conflictRows analysis.classification 0 analysis.matched =
    .ok analysis.conflicts
  collisions : detectCanonicalKeyCollisions analysis.matched =
    .ok analysis.collisions
  duplicateGroups : detectDuplicateRecordGroups analysis.matched =
    .ok analysis.duplicateGroups
  sourceQuarantined :
    analysis.sourceQuarantined = (sides.side .source).quarantined
  targetQuarantined :
    analysis.targetQuarantined = (sides.side .target).quarantined

theorem analyzeReconciliation_parts
    {analysis : ReconciliationAnalysis}
    (returned : analyzeReconciliation request = .ok analysis) :
    ∃ sides : NormalizedSides request, ∃ digest,
      AnalysisParts sides analysis digest := by
  simp only [analyzeReconciliation, bind_eq_ok] at returned
  obtain ⟨source, sourceReturned, target, targetReturned, matched, matching,
    classification, classified, digest, digested, summary, summarized,
    conflicts, rows, collisions, collided, groups, grouped, same⟩ := returned
  cases same
  refine ⟨⟨fun kind => match kind with
      | .source => source
      | .target => target, fun kind => ?_⟩, digest, ?_⟩
  · cases kind
    · exact sourceReturned
    · exact targetReturned
  · exact ⟨matching, classified, digested, summarized, rows, collided,
      grouped, rfl, rfl⟩

/-- A request normalizes to one result for each side. -/
theorem NormalizedSides.unique {request : ReconciliationAnalysisRequest}
    (left right : NormalizedSides request) : left = right := by
  obtain ⟨leftSide, leftReturned⟩ := left
  obtain ⟨rightSide, rightReturned⟩ := right
  have same : leftSide = rightSide := funext fun kind =>
    Except.ok.inj ((leftReturned kind).symm.trans (rightReturned kind))
  subst same
  rfl

theorem NormalizedSides.matching {request : ReconciliationAnalysisRequest}
    (sides : NormalizedSides request) :
    Returns (matchByCanonicalKey (sides.side .source).records
      (sides.side .target).records) ↔ sides.Few := by
  have few (kind : RecordSide) :
      (sides.side kind).records.length ≤ maxSourceObservations := by
    have bound := (sides.side kind).few
    omega
  rw [matchByCanonicalKey_returns (sides.ordered .source)
    (sides.ordered .target) (few .source) (few .target)]
  constructor
  · intro few kind sku
    cases kind
    · exact (few sku).1
    · exact (few sku).2
  · exact fun few sku => ⟨few .source sku, few .target sku⟩

/-- As many classified keys as there are SKUs. -/
theorem NormalizedSides.Matched.keys_length
    (matches_ : sides.Matched matched)
    {classification : ClassificationResult}
    (returned : classifyMatches matched = .ok classification) :
    classification.keys.length = sides.skus.length := by
  obtain ⟨parts, classified, keys, _⟩ := classifyMatches_eq_ok returned
  have lengths := congrArg List.length (classified_skus classified)
  simp only [List.length_map] at lengths
  rw [keys, List.length_map, lengths, matches_.length]

/--
An analysis exists exactly when both batches normalize, no key has too many
records, the keys can be fingerprinted, the inputs can be summarized and no
conflict is too wide for its row.
-/
theorem analyzeReconciliation_returns
    (request : ReconciliationAnalysisRequest) :
    Returns (analyzeReconciliation request) ↔
      ∃ sides : NormalizedSides request, sides.Few ∧
        sides.skus.length ≤ maxFingerprintItems ∧
        request.inputs.Printable ∧ sides.Narrow := by
  constructor
  · rintro ⟨analysis, returned⟩
    obtain ⟨sides, digest, parts⟩ := analyzeReconciliation_parts returned
    have matches_ : sides.Matched analysis.matched :=
      matchByCanonicalKey_matches parts.matched
    have fewKeys : analysis.classification.keys.length ≤
        maxFingerprintItems :=
      (List.length_map _).symm.trans_le (fingerprintState_bound parts.digested)
    rw [matches_.keys_length parts.classification] at fewKeys
    simp only [maxFingerprintItems] at fewKeys
    have rows := (conflictRows_returns 0
      (by
        rw [matches_.length]
        simp only [maxConflictIndex]
        omega)
      (fun _ => matches_.classified parts.classification)
      (fun _ => Matches.inhabited matches_)).mp ⟨_, parts.conflicts⟩
    have printable := (buildReconciliationSummary_returns
      (sides.side .source) (sides.side .target) digest
      (by
        rw [matches_.keys_length parts.classification]
        omega)).mp ⟨_, parts.summary⟩
    exact ⟨sides, sides.matching.mp ⟨_, parts.matched⟩, fewKeys, printable,
      (matches_.narrow parts.classification).mp rows⟩
  · rintro ⟨sides, few, fewKeys, printable, narrow⟩
    simp only [maxFingerprintItems] at fewKeys
    simp only [analyzeReconciliation]
    rw [show normalizeSourceObservations request.sourceObservations =
      .ok (sides.side .source) from sides.returned .source,
      show normalizeSourceObservations request.targetObservations =
        .ok (sides.side .target) from sides.returned .target]
    refine (sides.matching.mpr few).bind fun matched matching => ?_
    have matches_ : sides.Matched matched :=
      matchByCanonicalKey_matches matching
    have classifies := (classifyMatches_returns matches_
      (sides.ordered .source) (sides.ordered .target)).mpr
        fun _ => matches_.compares
    refine classifies.bind fun classification classified => ?_
    have keyCount := matches_.keys_length classified
    have digests : Returns (fingerprintState .reconciliationState
        (classification.keys.map ClassifiedKey.outcome) .v1) :=
      fingerprintState_returns .v1 (by decide)
        ((List.length_map _).trans_le (keyCount.trans_le fewKeys))
    refine digests.bind fun digest _ => ?_
    refine ((buildReconciliationSummary_returns (sides.side .source)
      (sides.side .target) digest (by omega)).mpr printable).bind
        fun summary _ => ?_
    have rows := (conflictRows_returns 0
      (by
        rw [matches_.length]
        simp only [maxConflictIndex]
        omega)
      (fun _ => matches_.classified classified)
      (fun _ => Matches.inhabited matches_)).mpr
        ((matches_.narrow classified).mpr narrow)
    exact rows.bind fun _ _ =>
      (detectCanonicalKeyCollisions_returns matched).bind fun _ _ =>
        (detectDuplicateRecordGroups_returns matched).bind fun _ _ => .ok _

end Analysis

end ParityGrid.Application
