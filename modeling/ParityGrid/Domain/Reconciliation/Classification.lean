import ParityGrid.Domain.Reconciliation.Matching

/-!
# Exclusive classification

Every matched key has one primary classification, that of its outcome, and
every member record carries the classification of its key.  Differences and
secondary evidence ride alongside.  The result is checked as a whole before
it is returned: sorted unique keys, unique record identities, full coverage.
-/

namespace ParityGrid.Domain

open Foundation

/-- The closed review disposition suggested for one classified key. -/
inductive SuggestedResolution where
  | none_
  | createTarget
  | updateTarget
  | reviewTargetOnly
  | reviewDuplicates
deriving DecidableEq

/-- `suggested_resolution_for`. -/
def suggestedResolutionFor :
    ReconciliationClassification → SuggestedResolution
  | .missingFromTarget => .createTarget
  | .fieldMismatch => .updateTarget
  | .missingFromSource => .reviewTargetOnly
  | .match_ => .none_
  | .duplicateSource => .reviewDuplicates
  | .duplicateTarget => .reviewDuplicates
  | .duplicateBoth => .reviewDuplicates

/-- Secondary evidence kinds, which never replace a classification. -/
inductive SecondaryEvidenceKind where
  | mismatchFields
  | identicalDuplicateContent
  | distinctDuplicateContent
  | opponentContentMatchesMember
deriving DecidableEq

/-- `_MAX_SECONDARY_VALUE_CHARACTERS`. -/
def maxSecondaryValueCharacters : Nat := 256

/-- `SecondaryEvidence.__post_init__`. -/
def validateSecondary (value : Text) : Except PythonError Unit := do
  require (value != [])
    (.valueError (text "secondary evidence value must be nonempty text"))
  require (value.length ≤ maxSecondaryValueCharacters)
    (.valueError (text "secondary evidence value exceeds its size limit"))

/-- One bounded secondary fact attached to a classification. -/
structure SecondaryEvidence where
  kind : SecondaryEvidenceKind
  value : Text
  valid : validateSecondary value = .ok ()
deriving DecidableEq

def SecondaryEvidence.create (kind : SecondaryEvidenceKind) (value : Text) :
    Except PythonError SecondaryEvidence :=
  (certify (validateSecondary value) fun _ accepted => accepted).map
    fun checked => ⟨kind, value, checked.2⟩

/-! ## Classified records and keys -/

/-- The arguments of the record classification constructor. -/
structure RecordClassificationFields where
  side : RecordSide
  position : Nat
  sku : Text
  sourceRecordKey : Text
  classification : ReconciliationClassification
  secondary : List SecondaryEvidence
deriving DecidableEq

/-- `RecordClassification.__post_init__`. -/
def RecordClassificationFields.validate
    (fields : RecordClassificationFields) : Except PythonError Unit := do
  require (fields.sku != [])
    (.valueError (text "record classification requires a nonempty SKU"))
  require (fields.sourceRecordKey != [])
    (.valueError (text
      "record classification requires a source record key"))

/-- The single primary classification of one normalized record. -/
structure RecordClassification extends RecordClassificationFields where
  valid : toRecordClassificationFields.validate = .ok ()
deriving DecidableEq

def RecordClassification.create (fields : RecordClassificationFields) :
    Except PythonError RecordClassification :=
  (certify fields.validate fun _ accepted => accepted).map
    fun checked => ⟨fields, checked.2⟩

/-- Side and position of a classified record. -/
def RecordClassificationFields.identity
    (fields : RecordClassificationFields) : RecordSide × Nat :=
  (fields.side, fields.position)

/-- The sort key of classified records. -/
def identityOrderKey (identity : RecordSide × Nat) : Text ×ₗ Nat :=
  toLex (text identity.1.value, identity.2)

section Classification

variable [PythonRuntime]

/-- One key's domain outcome plus stable difference evidence. -/
structure ClassifiedKey where
  outcome : ReconciliationOutcome
  differences : List FieldDifference
  secondary : List SecondaryEvidence
  suggestedResolution : SuggestedResolution
  agrees : suggestedResolution = suggestedResolutionFor outcome.classification
deriving DecidableEq

def ClassifiedKey.create (outcome : ReconciliationOutcome)
    (differences : List FieldDifference)
    (secondary : List SecondaryEvidence)
    (resolution : SuggestedResolution) : Except PythonError ClassifiedKey :=
  if agrees : resolution = suggestedResolutionFor outcome.classification then
    .ok ⟨outcome, differences, secondary, resolution, agrees⟩
  else
    .error (.valueError (text
      "classified key resolution does not match its classification"))

/-! ## Secondary evidence -/

/-- Whether the duplicates of a side repeat one content, and how many. -/
def duplicateContentEvidence (records : List InventoryRecord) :
    Except PythonError (List SecondaryEvidence) :=
  if records.length < 2 then .ok []
  else
    let distinct := distinctContents records
    (SecondaryEvidence.create
      (if distinct = 1 then .identicalDuplicateContent
        else .distinctDuplicateContent)
      (decimal distinct)).map fun evidence => [evidence]

/-- The first member with the content of the single opponent. -/
def memberWithContent (single : InventoryRecord)
    (members : List InventoryRecord) : Text :=
  match members.find? fun member =>
      businessContent member = businessContent single with
  | some member => member.sourceRecordKey
  | none => text "none"

/-- `_opponent_content_member`. -/
def opponentContentMember (outcome : ReconciliationOutcome) : Text :=
  match outcome.classification, outcome.sourceRecords,
      outcome.targetRecords with
  | .duplicateSource, members, [single] => memberWithContent single members
  | .duplicateTarget, [single], members => memberWithContent single members
  | _, _, _ => text "none"

/-- `",".join(...)` over the mismatching fields. -/
def mismatchFieldNames (mismatches : List FieldMismatch) : Text :=
  (text ",").intercalate
    (mismatches.map fun mismatch => text mismatch.field.value)

/-- `_key_secondary`. -/
def keySecondary (outcome : ReconciliationOutcome) :
    Except PythonError (List SecondaryEvidence) :=
  let duplicates : Except PythonError (List SecondaryEvidence) := do
    let source ← duplicateContentEvidence outcome.sourceRecords
    let target ← duplicateContentEvidence outcome.targetRecords
    let opponent ← SecondaryEvidence.create .opponentContentMatchesMember
      (opponentContentMember outcome)
    pure (source ++ target ++ [opponent])
  match outcome.classification with
  | .fieldMismatch =>
      (SecondaryEvidence.create .mismatchFields
        (mismatchFieldNames outcome.mismatches)).map fun found => [found]
  | .duplicateSource => duplicates
  | .duplicateTarget => duplicates
  | .duplicateBoth => duplicates
  | .match_ => .ok []
  | .missingFromTarget => .ok []
  | .missingFromSource => .ok []

/-- `_key_differences`: path-level evidence for one-to-one keys. -/
def keyDifferences (keyMatch : CanonicalKeyMatch) :
    Except PythonError (List FieldDifference) :=
  match keyMatch.sourceRecords, keyMatch.targetRecords with
  | [source], [target] =>
      buildFieldDifferences source.document target.document
  | _, _ => .ok []

/-! ## Results -/

/-- The members of one side of an outcome. -/
def OutcomeFields.members (outcome : OutcomeFields) :
    RecordSide → List InventoryRecord
  | .source => outcome.sourceRecords
  | .target => outcome.targetRecords

/-- One record agrees with its key and comes from it. -/
def validateCoverage (keys : List ClassifiedKey)
    (record : RecordClassification) : Except PythonError Unit :=
  match keys.find? fun key => key.outcome.sku == record.sku with
  | none =>
      .error (.valueError (text
        "classification records must agree with their key"))
  | some key => do
      require (record.classification == key.outcome.classification)
        (.valueError (text
          "classification records must agree with their key"))
      require ((key.outcome.members record.side).any fun member =>
          member.sku == record.sku &&
            member.sourceRecordKey == record.sourceRecordKey)
        (.valueError (text
          "classification record provenance is not part of its key"))

/-- `ClassificationResult.__post_init__`. -/
def validateClassification (keys : List ClassifiedKey)
    (records : List RecordClassification) : Except PythonError Unit := do
  let skus := keys.map fun key => key.outcome.sku
  require (skus == sorted skus && decide skus.Nodup)
    (.valueError (text "classification keys must use sorted unique SKUs"))
  let identities := records.map fun record => record.identity
  require (identities == sortedBy identityOrderKey identities)
    (.valueError (text
      "classification records must be sorted by side and position"))
  require (decide identities.Nodup)
    (.valueError (text
      "classification records must have unique identities"))
  require ((keys.map fun key => key.outcome.sourceRecords.length +
      key.outcome.targetRecords.length).sum == records.length)
    (.valueError (text
      "classification must cover every in-scope record exactly once"))
  records.forM (validateCoverage keys)

/-- The complete, exclusive classification of every in-scope record. -/
structure ClassificationResult where
  keys : List ClassifiedKey
  records : List RecordClassification
  valid : validateClassification keys records = .ok ()
deriving DecidableEq

def ClassificationResult.create (keys : List ClassifiedKey)
    (records : List RecordClassification) :
    Except PythonError ClassificationResult :=
  (certify (validateClassification keys records)
    fun _ accepted => accepted).map fun checked =>
      ⟨keys, records, checked.2⟩

/-- `ClassificationResult.count`. -/
def ClassificationResult.count (result : ClassificationResult)
    (classification : ReconciliationClassification) : Nat :=
  (result.keys.filter fun key =>
    key.outcome.classification = classification).length

/-- What a member of a key is classified as. -/
def memberFields (keyMatch : CanonicalKeyMatch) (key : ClassifiedKey)
    (side : RecordSide) (member : NormalizedRecord) :
    RecordClassificationFields where
  side
  position := member.position
  sku := keyMatch.sku
  sourceRecordKey := member.record.sourceRecordKey
  classification := key.outcome.classification
  secondary := key.secondary

/-- The body of the loop of `classify_matches`. -/
def classifyMatch (keyMatch : CanonicalKeyMatch) :
    Except PythonError (ClassifiedKey × List RecordClassification) := do
  let outcome ← ReconciliationOutcome.create
    (keyMatch.sourceRecords.map NormalizedRecord.record)
    (keyMatch.targetRecords.map NormalizedRecord.record)
  let secondary ← keySecondary outcome
  let differences ← keyDifferences keyMatch
  let key ← ClassifiedKey.create outcome differences secondary
    (suggestedResolutionFor outcome.classification)
  let sources ← keyMatch.sourceRecords.mapM fun member =>
    RecordClassification.create (memberFields keyMatch key .source member)
  let targets ← keyMatch.targetRecords.mapM fun member =>
    RecordClassification.create (memberFields keyMatch key .target member)
  pure (key, sources ++ targets)

/-- `classify_matches`. -/
def classifyMatches (matched : List CanonicalKeyMatch) :
    Except PythonError ClassificationResult := do
  let classified ← matched.mapM classifyMatch
  ClassificationResult.create (classified.map Prod.fst)
    (sortedBy (fun record => identityOrderKey record.identity)
      (classified.flatMap Prod.snd))

/-! ## Evidence always exists -/

omit [PythonRuntime] in
theorem SecondaryEvidence.create_returns {kind : SecondaryEvidenceKind}
    {value : Text} (some_ : value ≠ [])
    (short : value.length ≤ maxSecondaryValueCharacters) :
    Returns (create kind value) := by
  have named : (value != []) = true := by simpa using some_
  have valid : validateSecondary value = .ok () := by
    simp only [validateSecondary, named, short, decide_true, require_true,
      ok_bind]
  exact returns_map.mpr ⟨_, certify_ok (fun _ h => h) valid⟩

theorem duplicateContentEvidence_returns {records : List InventoryRecord}
    (few : records.length ≤ maxRecordsPerSide) :
    Returns (duplicateContentEvidence records) := by
  simp only [duplicateContentEvidence]
  split
  · exact .ok _
  next several =>
    have some_ : records ≠ [] := by
      intro none_
      simp [none_] at several
    have most := (distinctContents_bounds some_).2
    simp only [maxRecordsPerSide] at few
    have digits : (decimal (distinctContents records)).length ≤ 4 :=
      (decimal_length_le (by decide)).mpr (by omega)
    exact returns_map.mpr (SecondaryEvidence.create_returns
      (decimal_ne_nil _) (digits.trans (by decide)))

theorem memberWithContent_bounds (single : InventoryRecord)
    (members : List InventoryRecord) :
    memberWithContent single members ≠ [] ∧
      (memberWithContent single members).length ≤
        maxSecondaryValueCharacters := by
  simp only [memberWithContent]
  split
  next member _ =>
    exact ⟨member.sourceRecordKey_ne_nil,
      member.lengths.2.2.trans (by decide)⟩
  next => decide

theorem opponentContentMember_bounds (outcome : ReconciliationOutcome) :
    opponentContentMember outcome ≠ [] ∧
      (opponentContentMember outcome).length ≤
        maxSecondaryValueCharacters := by
  simp only [opponentContentMember]
  split
  · exact memberWithContent_bounds _ _
  · exact memberWithContent_bounds _ _
  · decide

theorem mismatchFieldNames_bounds {mismatches : List FieldMismatch}
    (some_ : mismatches ≠ []) (few : mismatches.length ≤ 5) :
    mismatchFieldNames mismatches ≠ [] ∧
      (mismatchFieldNames mismatches).length ≤
        maxSecondaryValueCharacters := by
  constructor
  · obtain ⟨first, rest, rfl⟩ := List.exists_cons_of_ne_nil some_
    have named := first.field.value_ne_nil
    cases rest with
    | nil => simpa [mismatchFieldNames] using named
    | cons next others =>
        simp [mismatchFieldNames, List.intercalate_cons_cons, named]
  · have sized : ∀ part ∈ mismatches.map
        (fun mismatch => text mismatch.field.value), part.length ≤ 32 := by
      intro part member
      obtain ⟨mismatch, _, rfl⟩ := List.mem_map.mp member
      exact mismatch.field.value_length
    have joined := intercalate_length_le (text ",") sized
    have comma : (text ",").length = 1 := rfl
    rw [List.length_map, comma] at joined
    simp only [mismatchFieldNames, maxSecondaryValueCharacters]
    omega

/-- Secondary evidence never fails. -/
theorem keySecondary_returns (outcome : ReconciliationOutcome) :
    Returns (keySecondary outcome) := by
  obtain ⟨sources, targets⟩ := outcome.sides
  have opponent := opponentContentMember_bounds outcome
  have duplicates : Returns (do
      let source ← duplicateContentEvidence outcome.sourceRecords
      let target ← duplicateContentEvidence outcome.targetRecords
      let opponent ← SecondaryEvidence.create .opponentContentMatchesMember
        (opponentContentMember outcome)
      pure (source ++ target ++ [opponent])) :=
    (duplicateContentEvidence_returns sources).bind fun _ _ =>
      (duplicateContentEvidence_returns targets).bind fun _ _ =>
        (SecondaryEvidence.create_returns opponent.1 opponent.2).bind
          fun _ _ => .ok _
  simp only [keySecondary]
  cases classified : outcome.classification with
  | fieldMismatch =>
      obtain ⟨source, target, _, _, form, some_⟩ :=
        outcome.determined.2 classified
      have few : outcome.mismatches.length ≤ 5 := by
        rw [form]
        exact fieldMismatches_length source target
      have named := mismatchFieldNames_bounds some_ few
      exact returns_map.mpr
        (SecondaryEvidence.create_returns named.1 named.2)
  | duplicateSource => exact duplicates
  | duplicateTarget => exact duplicates
  | duplicateBoth => exact duplicates
  | match_ => exact .ok _
  | missingFromTarget => exact .ok _
  | missingFromSource => exact .ok _

theorem duplicateContentEvidence_length {records : List InventoryRecord}
    {found : List SecondaryEvidence}
    (returned : duplicateContentEvidence records = .ok found) :
    found.length ≤ 1 := by
  simp only [duplicateContentEvidence] at returned
  split at returned
  · cases returned
    exact Nat.zero_le _
  · obtain ⟨evidence, _, rfl⟩ := map_eq_ok.mp returned
    exact Nat.le_refl _

/-- A key has at most three pieces of secondary evidence. -/
theorem keySecondary_length {outcome : ReconciliationOutcome}
    {secondary : List SecondaryEvidence}
    (returned : keySecondary outcome = .ok secondary) :
    secondary.length ≤ 3 := by
  have duplicates (built : (do
      let source ← duplicateContentEvidence outcome.sourceRecords
      let target ← duplicateContentEvidence outcome.targetRecords
      let opponent ← SecondaryEvidence.create .opponentContentMatchesMember
        (opponentContentMember outcome)
      pure (source ++ target ++ [opponent])) = .ok secondary) :
      secondary.length ≤ 3 := by
    simp only [bind_eq_ok] at built
    obtain ⟨source, fromSource, target, fromTarget, opponent, _, same⟩ :=
      built
    cases same
    have few := duplicateContentEvidence_length fromSource
    have fewer := duplicateContentEvidence_length fromTarget
    simp only [List.length_append, List.length_singleton]
    omega
  simp only [keySecondary] at returned
  split at returned
  · obtain ⟨found, _, rfl⟩ := map_eq_ok.mp returned
    simp
  · exact duplicates returned
  · exact duplicates returned
  · exact duplicates returned
  all_goals
    cases returned
    exact Nat.zero_le _

/-! ## What one key is classified as -/

omit [PythonRuntime] in
theorem RecordClassification.create_eq_ok
    {fields : RecordClassificationFields} {record : RecordClassification} :
    create fields = .ok record ↔
      fields.validate = .ok () ∧
        record.toRecordClassificationFields = fields := by
  simp only [create, map_eq_ok]
  constructor
  · rintro ⟨checked, accepted, rfl⟩
    exact ⟨certify_eq_ok.mp accepted, rfl⟩
  · rintro ⟨accepted, rfl⟩
    exact ⟨⟨(), accepted⟩,
      certify_ok (P := fun u =>
        record.toRecordClassificationFields.validate = .ok u)
        (fun _ h => h) accepted, rfl⟩

/-- The records of a match are classified as its key. -/
structure ClassifiesMatch (keyMatch : CanonicalKeyMatch)
    (key : ClassifiedKey) (records : List RecordClassification) : Prop where
  sku : key.outcome.sku = keyMatch.sku
  sources : key.outcome.sourceRecords = sortedBy recordOrderKey
    (keyMatch.sourceRecords.map NormalizedRecord.record)
  targets : key.outcome.targetRecords = sortedBy recordOrderKey
    (keyMatch.targetRecords.map NormalizedRecord.record)
  secondary : keySecondary key.outcome = .ok key.secondary
  differences : keyDifferences keyMatch = .ok key.differences
  records :
    records.map RecordClassification.toRecordClassificationFields =
      keyMatch.sourceRecords.map (memberFields keyMatch key .source) ++
        keyMatch.targetRecords.map (memberFields keyMatch key .target)

theorem classifyMatch_classifies {keyMatch : CanonicalKeyMatch}
    {classified : ClassifiedKey × List RecordClassification}
    (returned : classifyMatch keyMatch = .ok classified) :
    ClassifiesMatch keyMatch classified.1 classified.2 := by
  simp only [classifyMatch, bind_eq_ok] at returned
  obtain ⟨outcome, created, secondary, evidence, differences, compared, key,
    built, sources, sourcesBuilt, targets, targetsBuilt, same⟩ := returned
  cases same
  have keyForm : key.outcome = outcome ∧ key.differences = differences ∧
      key.secondary = secondary := by
    simp only [ClassifiedKey.create, dite_true] at built
    cases built
    exact ⟨rfl, rfl, rfl⟩
  obtain ⟨rfl, rfl, rfl⟩ := keyForm
  have accepted := ReconciliationOutcome.create_eq_ok.mp created
  obtain ⟨sourceForm, targetForm, share, _⟩ := outcomeFields_form accepted
  have classifies {side : RecordSide} {members : List NormalizedRecord}
      {records : List RecordClassification}
      (created : members.mapM (fun member => RecordClassification.create
        (memberFields keyMatch key side member)) = .ok records) :
      records.map RecordClassification.toRecordClassificationFields =
        members.map (memberFields keyMatch key side) :=
    mapM_keeps (fun _ _ _ one =>
      (RecordClassification.create_eq_ok.mp one).2) created
  refine ⟨?_, sourceForm, targetForm, evidence, compared, ?_⟩
  · rcases outcomeFields_inhabited accepted with some_ | some_
    · obtain ⟨record, inside⟩ := List.exists_mem_of_ne_nil _ some_
      obtain ⟨member, from_, rfl⟩ := List.mem_map.mp inside
      rw [← share _ (List.mem_append_left _ inside)]
      exact keyMatch.records_share .source from_
    · obtain ⟨record, inside⟩ := List.exists_mem_of_ne_nil _ some_
      obtain ⟨member, from_, rfl⟩ := List.mem_map.mp inside
      rw [← share _ (List.mem_append_right _ inside)]
      exact keyMatch.records_share .target from_
  · rw [List.map_append, classifies sourcesBuilt, classifies targetsBuilt]

/-- A match with records is classified when its documents are compared. -/
theorem classifyMatch_returns {keyMatch : CanonicalKeyMatch}
    (some_ : keyMatch.sourceRecords ≠ [] ∨ keyMatch.targetRecords ≠ []) :
    Returns (classifyMatch keyMatch) ↔ Returns (keyDifferences keyMatch) := by
  constructor
  · rintro ⟨classified, returned⟩
    exact ⟨_, (classifyMatch_classifies returned).differences⟩
  · intro compares
    have shares (side : RecordSide) : ∀ record ∈
        (keyMatch.records side).map NormalizedRecord.record,
        record.sku = keyMatch.sku := by
      intro record inside
      obtain ⟨member, from_, rfl⟩ := List.mem_map.mp inside
      exact keyMatch.records_share side from_
    have few (side : RecordSide) :
        ((keyMatch.records side).map NormalizedRecord.record).length ≤
          maxRecordsPerSide := by
      rw [List.length_map]
      exact keyMatch.records_few side
    have inhabited : keyMatch.sourceRecords.map NormalizedRecord.record ≠ [] ∨
        keyMatch.targetRecords.map NormalizedRecord.record ≠ [] := by
      simpa using some_
    obtain ⟨fields, accepted⟩ := outcomeFields_returns inhabited
      (shares .source) (shares .target) (few .source) (few .target)
    have outcome : Returns (ReconciliationOutcome.create
        (keyMatch.sourceRecords.map NormalizedRecord.record)
        (keyMatch.targetRecords.map NormalizedRecord.record)) :=
      ⟨⟨fields, outcomeFields_valid accepted⟩,
        ReconciliationOutcome.create_eq_ok.mpr accepted⟩
    have classifies (key : ClassifiedKey) (side : RecordSide)
        (members : List NormalizedRecord) :
        Returns (members.mapM fun member => RecordClassification.create
          (memberFields keyMatch key side member)) := by
      apply returns_mapM.mpr
      intro member _
      have named : (keyMatch.sku != []) = true := by
        simpa using keyMatch.sku_ne_nil
      have keyed : (member.record.sourceRecordKey != []) = true := by
        simpa using member.record.sourceRecordKey_ne_nil
      have valid : (memberFields keyMatch key side member).validate =
          .ok () := by
        simp only [RecordClassificationFields.validate, memberFields, named,
          keyed, require_true, ok_bind]
      exact returns_map.mpr ⟨_, certify_ok (fun _ h => h) valid⟩
    refine outcome.bind fun outcome _ =>
      (keySecondary_returns outcome).bind fun secondary _ =>
        compares.bind fun differences _ => ?_
    simp only [ClassifiedKey.create, dite_true, ok_bind]
    exact (classifies _ .source _).bind fun _ _ =>
      (classifies _ .target _).bind fun _ _ => .ok _

/-! ## What all keys are classified as -/

/-- The sort key of classified records in `classify_matches`. -/
abbrev recordIdentityKey (record : RecordClassification) : Text ×ₗ Nat :=
  identityOrderKey record.identity

/-- The result is made of what every match is classified as. -/
theorem classifyMatches_eq_ok {matched : List CanonicalKeyMatch}
    {result : ClassificationResult}
    (returned : classifyMatches matched = .ok result) :
    ∃ parts, matched.mapM classifyMatch = .ok parts ∧
      result.keys = parts.map Prod.fst ∧
      result.records = sortedBy recordIdentityKey
        (parts.flatMap Prod.snd) := by
  simp only [classifyMatches, bind_eq_ok] at returned
  obtain ⟨parts, classified, created⟩ := returned
  simp only [ClassificationResult.create, map_eq_ok] at created
  obtain ⟨_, _, rfl⟩ := created
  exact ⟨parts, classified, rfl, rfl⟩

/-- The identities of the members of a match, sources first. -/
def memberIdentities (keyMatch : CanonicalKeyMatch) :
    List (RecordSide × Nat) :=
  keyMatch.sourceRecords.map (fun r => (.source, r.position)) ++
    keyMatch.targetRecords.map fun r => (.target, r.position)

theorem ClassifiesMatch.identities {keyMatch : CanonicalKeyMatch}
    {key : ClassifiedKey} {records : List RecordClassification}
    (classifies : ClassifiesMatch keyMatch key records) :
    records.map (fun record => record.identity) =
      memberIdentities keyMatch := by
  have fields := congrArg
    (List.map RecordClassificationFields.identity) classifies.records
  rw [List.map_map, List.map_append, List.map_map, List.map_map] at fields
  exact fields

/-- Every record of both sides has one place among the members. -/
theorem Matches.identities {source target : List NormalizedRecord}
    {matched : List CanonicalKeyMatch}
    (matches_ : Matches source target matched) :
    (matched.flatMap memberIdentities).Perm
      (source.map (fun r => (RecordSide.source, r.position)) ++
        target.map fun r => (RecordSide.target, r.position)) := by
  have split := List.flatMap_append_perm matched
    (fun m => m.sourceRecords.map fun r => (RecordSide.source, r.position))
    (fun m => m.targetRecords.map fun r => (RecordSide.target, r.position))
  have sources := matches_.perm.1.map fun r =>
    (RecordSide.source, r.position)
  have targets := matches_.perm.2.map fun r =>
    (RecordSide.target, r.position)
  rw [List.map_flatMap] at sources targets
  exact split.symm.trans (sources.append targets)

theorem identities_nodup {source target : List NormalizedRecord}
    (sourceOrdered : Ordered source) (targetOrdered : Ordered target) :
    (source.map (fun r => (RecordSide.source, r.position)) ++
      target.map fun r => (RecordSide.target, r.position)).Nodup := by
  have side (kind : RecordSide) {records : List NormalizedRecord}
      (ordered : Ordered records) :
      (records.map fun r => (kind, r.position)).Nodup := by
    have positions : (records.map NormalizedRecord.position).Nodup :=
      ordered.imp ne_of_lt
    have paired := positions.map (f := fun position => (kind, position))
      fun _ _ equal => (Prod.mk.inj equal).2
    rwa [List.map_map] at paired
  rw [List.nodup_append]
  refine ⟨side .source sourceOrdered, side .target targetOrdered, ?_⟩
  intro left inSource right inTarget same
  obtain ⟨_, _, rfl⟩ := List.mem_map.mp inSource
  obtain ⟨_, _, rfl⟩ := List.mem_map.mp inTarget
  cases same

theorem ClassifiesMatch.member {keyMatch : CanonicalKeyMatch}
    {key : ClassifiedKey} {records : List RecordClassification}
    (classifies : ClassifiesMatch keyMatch key records)
    {record : RecordClassification} (inside : record ∈ records) :
    ∃ side, ∃ member ∈ keyMatch.records side,
      record.toRecordClassificationFields =
        memberFields keyMatch key side member := by
  have image : record.toRecordClassificationFields ∈
      records.map RecordClassification.toRecordClassificationFields :=
    List.mem_map.mpr ⟨record, inside, rfl⟩
  rw [classifies.records, List.mem_append, List.mem_map, List.mem_map]
    at image
  rcases image with ⟨member, from_, same⟩ | ⟨member, from_, same⟩
  · exact ⟨.source, member, from_, same.symm⟩
  · exact ⟨.target, member, from_, same.symm⟩

theorem ClassifiesMatch.members {keyMatch : CanonicalKeyMatch}
    {key : ClassifiedKey} {records : List RecordClassification}
    (classifies : ClassifiesMatch keyMatch key records)
    (side : RecordSide) :
    key.outcome.members side = sortedBy recordOrderKey
      ((keyMatch.records side).map NormalizedRecord.record) := by
  cases side
  · exact classifies.sources
  · exact classifies.targets

/-- A key with distinct SKUs around it is found by its SKU. -/
theorem find?_key {keys : List ClassifiedKey}
    (distinct : (keys.map fun key => key.outcome.sku).Nodup)
    {key : ClassifiedKey} (member : key ∈ keys) {sku : Text}
    (named : key.outcome.sku = sku) :
    (keys.find? fun other => other.outcome.sku == sku) = some key := by
  have single := filter_key_eq_singleton distinct member
  rw [named] at single
  rw [← List.head?_filter]
  have same : (keys.filter fun other => other.outcome.sku == sku) =
      keys.filter fun other => decide (other.outcome.sku = sku) :=
    List.filter_congr fun _ _ => Bool.eq_iff_iff.mpr (by simp)
  rw [same, single]
  rfl

theorem validateCoverage_classified {keys : List ClassifiedKey}
    (distinct : (keys.map fun key => key.outcome.sku).Nodup)
    {keyMatch : CanonicalKeyMatch} {key : ClassifiedKey}
    {records : List RecordClassification} (inside : key ∈ keys)
    (classifies : ClassifiesMatch keyMatch key records)
    {record : RecordClassification} (member : record ∈ records) :
    validateCoverage keys record = .ok () := by
  obtain ⟨side, origin, from_, form⟩ := classifies.member member
  have sku : record.sku = keyMatch.sku :=
    congrArg RecordClassificationFields.sku form
  have recordSide : record.side = side :=
    congrArg RecordClassificationFields.side form
  have classified : record.classification = key.outcome.classification :=
    congrArg RecordClassificationFields.classification form
  have keyed : record.sourceRecordKey = origin.record.sourceRecordKey :=
    congrArg RecordClassificationFields.sourceRecordKey form
  have found := find?_key distinct inside (classifies.sku.trans sku.symm)
  have provenance : ((key.outcome.members record.side).any fun member =>
      member.sku == record.sku &&
        member.sourceRecordKey == record.sourceRecordKey) = true := by
    rw [recordSide, classifies.members, List.any_eq_true]
    refine ⟨origin.record, mem_sortedBy.mpr
      (List.mem_map.mpr ⟨origin, from_, rfl⟩), ?_⟩
    simp [sku, keyed, keyMatch.records_share side from_]
  simp only [validateCoverage, found, classified, beq_self_eq_true,
    require_true, ok_bind, provenance]

/-- Every record of both sides is classified once. -/
theorem classified_identities {source target : List NormalizedRecord}
    {matched : List CanonicalKeyMatch}
    (matches_ : Matches source target matched)
    {parts : List (ClassifiedKey × List RecordClassification)}
    (classified : matched.mapM classifyMatch = .ok parts) :
    ((parts.flatMap Prod.snd).map fun record => record.identity).Perm
      (source.map (fun r => (RecordSide.source, r.position)) ++
        target.map fun r => (RecordSide.target, r.position)) := by
  have parted : parts.map (fun part =>
      part.2.map fun record => record.identity) =
        matched.map memberIdentities :=
    mapM_keeps (fun _ _ _ one =>
      (classifyMatch_classifies one).identities) classified
  rw [List.map_flatMap, List.flatMap_def, parted, ← List.flatMap_def]
  exact matches_.identities

/-- The keys are those of the matches. -/
theorem classified_skus {matched : List CanonicalKeyMatch}
    {parts : List (ClassifiedKey × List RecordClassification)}
    (classified : matched.mapM classifyMatch = .ok parts) :
    (parts.map Prod.fst).map (fun key => key.outcome.sku) =
      matched.map CanonicalKeyMatch.sku := by
  rw [List.map_map]
  exact mapM_keeps (fun _ _ _ one =>
    (classifyMatch_classifies one).sku) classified

/-- Matches are classified exactly when the documents of each compare. -/
theorem classifyMatches_returns {source target : List NormalizedRecord}
    {matched : List CanonicalKeyMatch}
    (matches_ : Matches source target matched)
    (sourceOrdered : Ordered source) (targetOrdered : Ordered target) :
    Returns (classifyMatches matched) ↔
      ∀ keyMatch ∈ matched, Returns (keyDifferences keyMatch) := by
  have each : Returns (matched.mapM classifyMatch) ↔
      ∀ keyMatch ∈ matched, Returns (keyDifferences keyMatch) := by
    rw [returns_mapM]
    exact forall₂_congr fun keyMatch member =>
      classifyMatch_returns (matches_.inhabited member)
  rw [← each]
  constructor
  · rintro ⟨result, returned⟩
    obtain ⟨parts, classified, _⟩ := classifyMatches_eq_ok returned
    exact ⟨parts, classified⟩
  · rintro ⟨parts, classified⟩
    have skus := classified_skus classified
    have ordered : (matched.map CanonicalKeyMatch.sku).Pairwise (· < ·) :=
      matches_.ordered
    have distinct : ((parts.map Prod.fst).map
        fun key => key.outcome.sku).Nodup := by
      rw [skus]
      exact ordered.imp ne_of_lt
    have skusSorted : sorted (matched.map CanonicalKeyMatch.sku) =
        matched.map CanonicalKeyMatch.sku :=
      sortedBy_of_pairwise (ordered.imp le_of_lt)
    have identities := classified_identities matches_ classified
    have sortedIdentities : ((sortedBy recordIdentityKey
        (parts.flatMap Prod.snd)).map fun record => record.identity) =
          sortedBy identityOrderKey ((parts.flatMap Prod.snd).map
            fun record => record.identity) :=
      (sortedBy_map _ _ _).symm
    have identitiesDistinct : (sortedBy identityOrderKey
        ((parts.flatMap Prod.snd).map
          fun record => record.identity)).Nodup :=
      ((sortedBy_perm _ _).trans identities).nodup_iff.mpr
        (identities_nodup sourceOrdered targetOrdered)
    have counts : ((parts.map Prod.fst).map fun key =>
        key.outcome.sourceRecords.length +
          key.outcome.targetRecords.length).sum =
            (sortedBy recordIdentityKey
              (parts.flatMap Prod.snd)).length := by
      rw [sortedBy_length, List.length_flatMap, List.map_map]
      congr 1
      apply List.map_congr_left
      intro part member
      obtain ⟨keyMatch, _, one⟩ := mapM_origin classified member
      have classifies := classifyMatch_classifies one
      have lengths := congrArg List.length classifies.records
      simp only [List.length_map, List.length_append] at lengths
      simp only [Function.comp_apply, lengths, classifies.sources,
        classifies.targets, sortedBy_length, List.length_map]
    have covered : ∀ record ∈ sortedBy recordIdentityKey
        (parts.flatMap Prod.snd),
        validateCoverage (parts.map Prod.fst) record = .ok () := by
      intro record member
      obtain ⟨part, inside, inPart⟩ :=
        List.mem_flatMap.mp (mem_sortedBy.mp member)
      obtain ⟨keyMatch, _, one⟩ := mapM_origin classified inside
      exact validateCoverage_classified distinct
        (List.mem_map.mpr ⟨part, inside, rfl⟩)
        (classifyMatch_classifies one) inPart
    have valid : validateClassification (parts.map Prod.fst)
        (sortedBy recordIdentityKey (parts.flatMap Prod.snd)) =
          .ok () := by
      simp only [validateClassification, distinct, decide_true]
      rw [skus]
      simp only [skusSorted, beq_self_eq_true, Bool.and_self, require_true,
        ok_bind, sortedIdentities, sortedBy_idem, identitiesDistinct,
        decide_true, counts]
      exact forM_eq_ok.mpr covered
    simp only [classifyMatches, classified, ok_bind]
    exact returns_map.mpr ⟨_, certify_ok (fun _ h => h) valid⟩

end Classification

end ParityGrid.Domain
