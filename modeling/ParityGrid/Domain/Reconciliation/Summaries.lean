import ParityGrid.Domain.Reconciliation.Classification

/-!
# Reconciliation summaries

A summary holds every count of one analysis and the fingerprint of its
inputs, its classification state and those counts.  The fingerprint digests a
JSON header and the order-independent digest of the outcomes.
-/

namespace ParityGrid.Domain

open Foundation

/-- `RECONCILIATION_FINGERPRINT_KIND`. -/
def reconciliationFingerprintKind : Text := text "reconciliation"

/-- `RECONCILIATION_FINGERPRINT_VERSION`. -/
def reconciliationFingerprintVersion : Int := 1

/-- `RECONCILIATION_ANALYSIS_VERSION`. -/
def reconciliationAnalysisVersion : Int := 1

/-- `_FINGERPRINT_DOMAIN`. -/
def reconciliationFingerprintDomain : Bytes :=
  encodeAscii (text "paritygrid:reconciliation-fingerprint:v1") ++ [0]

/-! ## Counts -/

/-- How many observations one side quarantined for one closed reason. -/
structure QuarantineCount where
  side : RecordSide
  code : QuarantineCode
  count : Nat
  positive : 1 ≤ count

theorem QuarantineCount.ext_iff {left right : QuarantineCount} :
    left = right ↔
      left.side = right.side ∧ left.code = right.code ∧
        left.count = right.count := by
  cases left
  cases right
  simp

instance : DecidableEq QuarantineCount := fun _ _ =>
  decidable_of_iff _ QuarantineCount.ext_iff.symm

def QuarantineCount.create (side : RecordSide) (code : QuarantineCode)
    (count : Nat) : Except PythonError QuarantineCount :=
  if positive : 1 ≤ count then .ok ⟨side, code, count, positive⟩
  else
    .error (.valueError (text
      "quarantine count must be a positive integer"))

/-- The members of `ReconciliationClassification`, as declared. -/
def allClassifications : List ReconciliationClassification :=
  [.match_, .missingFromTarget, .missingFromSource, .fieldMismatch,
    .duplicateSource, .duplicateTarget, .duplicateBoth]

/-- `sorted(ReconciliationClassification, key=lambda item: item.value)`. -/
def orderedClassifications : List ReconciliationClassification :=
  sortedBy (fun classification => text classification.value)
    allClassifications

/-- The sort key of a quarantine count. -/
def breakdownKey (reason : RecordSide × QuarantineCode) : Text ×ₗ Text :=
  toLex (text reason.1.value, text reason.2.value)

/-- The arguments of the count summary constructor. -/
structure CountFields where
  byClassification : List (ReconciliationClassification × Nat)
  sourceRecordCount : Nat
  targetRecordCount : Nat
  canonicalKeyCount : Nat
  sourceQuarantinedCount : Nat
  targetQuarantinedCount : Nat
  quarantineBreakdown : List QuarantineCount
deriving DecidableEq

/-- `ReconciliationCountSummary.__post_init__`. -/
def CountFields.validate (fields : CountFields) :
    Except PythonError Unit := do
  require (fields.byClassification.map Prod.fst == orderedClassifications)
    (.valueError (text
      "classification counts must list every classification exactly once"))
  let order := fields.quarantineBreakdown.map fun item =>
    breakdownKey (item.side, item.code)
  require (order == sorted order && decide order.Nodup)
    (.valueError (text "quarantine breakdown must be sorted and unique"))
  require ((fields.quarantineBreakdown.map QuarantineCount.count).sum ==
      fields.sourceQuarantinedCount + fields.targetQuarantinedCount)
    (.valueError (text
      "quarantine breakdown must cover every quarantined observation"))

/-- Every closed count required to reproduce one snapshot. -/
structure ReconciliationCountSummary extends CountFields where
  valid : toCountFields.validate = .ok ()
deriving DecidableEq

def ReconciliationCountSummary.create (fields : CountFields) :
    Except PythonError ReconciliationCountSummary :=
  (certify fields.validate fun _ accepted => accepted).map
    fun checked => ⟨fields, checked.2⟩

/-- `_counts_header`. -/
def countsHeader (counts : CountFields) : JsonValue :=
  .object
    [(text "by_classification", .object
        (counts.byClassification.map fun item =>
          (text item.1.value, .int item.2))),
      (text "canonical_key_count", .int counts.canonicalKeyCount),
      (text "quarantine", .object
        (counts.quarantineBreakdown.map fun item =>
          (text item.side.value ++ point ':' :: text item.code.value,
            .int item.count))),
      (text "source_quarantined_count", .int counts.sourceQuarantinedCount),
      (text "source_record_count", .int counts.sourceRecordCount),
      (text "target_quarantined_count", .int counts.targetQuarantinedCount),
      (text "target_record_count", .int counts.targetRecordCount)]

/-! ## Fingerprints -/

/-- The versioned inputs of one analysis. -/
structure AnalysisInputs where
  sourceInputIdentity : Text
  targetInputIdentity : Text
  analyticalQueryVersion : Int
deriving DecidableEq

/-- The checks of the identities and of the query version. -/
def AnalysisInputs.validate (inputs : AnalysisInputs) :
    Except PythonError Unit := do
  require (isSha256Text inputs.sourceInputIdentity &&
      isSha256Text inputs.targetInputIdentity)
    (.valueError (text
      "reconciliation input identity must be lowercase SHA-256"))
  require (1 ≤ inputs.analyticalQueryVersion)
    (.valueError (text
      "reconciliation analytical query version is invalid"))

/-- The JSON document that the fingerprint digests. -/
def fingerprintHeader (inputs : AnalysisInputs) (counts : CountFields) :
    JsonValue :=
  .object
    [(text "analytical_query_version", .int inputs.analyticalQueryVersion),
      (text "counts", countsHeader counts),
      (text "fingerprint_kind", .string reconciliationFingerprintKind),
      (text "fingerprint_version", .int reconciliationFingerprintVersion),
      (text "source_input_identity", .string inputs.sourceInputIdentity),
      (text "target_input_identity", .string inputs.targetInputIdentity)]

section Summaries

variable [PythonRuntime]

/-- `compute_reconciliation_fingerprint`. -/
def computeReconciliationFingerprint (inputs : AnalysisInputs)
    (counts : CountFields) (outcomeStateDigest : StateFingerprint) :
    Except PythonError StateFingerprint := do
  inputs.validate
  let header ← jsonDumps (fingerprintHeader inputs counts)
  let framedHeader ← frame (encodeAscii header)
  let framedDigest ← frame (encodeAscii outcomeStateDigest.value)
  pure (StateFingerprint.ofDigest (sha256
    (reconciliationFingerprintDomain ++ framedHeader ++ framedDigest)))

/-! ## Summaries -/

/-- The arguments of the summary constructor. -/
structure SummaryFields where
  fingerprintKind : Text
  fingerprintVersion : Int
  analysisVersion : Int
  rulesVersion : Nat
  counts : ReconciliationCountSummary
  inputs : AnalysisInputs
  fingerprint : StateFingerprint
deriving DecidableEq

/-- `ReconciliationSummary.__post_init__`. -/
def SummaryFields.validate (fields : SummaryFields) :
    Except PythonError Unit := do
  require (fields.fingerprintKind == reconciliationFingerprintKind)
    (.valueError (text
      "reconciliation summary fingerprint kind is invalid"))
  require (fields.fingerprintVersion == reconciliationFingerprintVersion)
    (.valueError (text
      "reconciliation summary fingerprint version is unsupported"))
  require (fields.analysisVersion == reconciliationAnalysisVersion)
    (.valueError (text
      "reconciliation summary analysis version is unsupported"))
  require (fields.rulesVersion == normalizationRulesVersion)
    (.valueError (text
      "reconciliation summary rules version is unsupported"))
  fields.inputs.validate

/-- One complete analytical snapshot identity and its counts. -/
structure ReconciliationSummary extends SummaryFields where
  valid : toSummaryFields.validate = .ok ()
deriving DecidableEq

def ReconciliationSummary.create (fields : SummaryFields) :
    Except PythonError ReconciliationSummary :=
  (certify fields.validate fun _ accepted => accepted).map
    fun checked => ⟨fields, checked.2⟩

/-- `_classification_counts`. -/
def classificationCounts (classification : ClassificationResult) :
    List (ReconciliationClassification × Nat) :=
  orderedClassifications.map fun candidate =>
    (candidate, classification.count candidate)

/-- The side and code of every quarantined observation. -/
def quarantineReasons (source target : List QuarantinedObservation) :
    List (RecordSide × QuarantineCode) :=
  source.map (fun found => (.source, found.code)) ++
    target.map fun found => (.target, found.code)

/-- `_quarantine_breakdown`. -/
def quarantineBreakdown (source target : List QuarantinedObservation) :
    Except PythonError (List QuarantineCount) :=
  (sortedBy (fun item => breakdownKey item.1)
    (tally (quarantineReasons source target))).mapM fun item =>
      QuarantineCount.create item.1.1 item.1.2 item.2

/-- The counts of one analysis. -/
def countsOf (classification : ClassificationResult)
    (source target : SourceNormalization)
    (breakdown : List QuarantineCount) : CountFields where
  byClassification := classificationCounts classification
  sourceRecordCount := source.records.length
  targetRecordCount := target.records.length
  canonicalKeyCount := classification.keys.length
  sourceQuarantinedCount := source.quarantined.length
  targetQuarantinedCount := target.quarantined.length
  quarantineBreakdown := breakdown

/-- The fields of a summary at the current versions. -/
def currentSummary (counts : ReconciliationCountSummary)
    (inputs : AnalysisInputs) (fingerprint : StateFingerprint) :
    SummaryFields where
  fingerprintKind := reconciliationFingerprintKind
  fingerprintVersion := reconciliationFingerprintVersion
  analysisVersion := reconciliationAnalysisVersion
  rulesVersion := normalizationRulesVersion
  counts
  inputs
  fingerprint

/-- `build_reconciliation_summary`. -/
def buildReconciliationSummary (classification : ClassificationResult)
    (source target : SourceNormalization) (inputs : AnalysisInputs)
    (outcomeStateDigest : StateFingerprint) :
    Except PythonError ReconciliationSummary := do
  let breakdown ← quarantineBreakdown source.quarantined target.quarantined
  let counts ← ReconciliationCountSummary.create
    (countsOf classification source target breakdown)
  let fingerprint ← computeReconciliationFingerprint inputs
    counts.toCountFields outcomeStateDigest
  ReconciliationSummary.create (currentSummary counts inputs fingerprint)

/-! ## Counts always agree -/

omit [PythonRuntime] in
theorem breakdownKey_injective : Function.Injective breakdownKey := by
  rintro ⟨leftSide, leftCode⟩ ⟨rightSide, rightCode⟩ equal
  simp only [breakdownKey, EmbeddingLike.apply_eq_iff_eq,
    Prod.mk.injEq] at equal
  have sides : leftSide.value = rightSide.value := text_injective equal.1
  have codes : leftCode.value = rightCode.value := text_injective equal.2
  have sameSide : leftSide = rightSide := by
    cases leftSide <;> cases rightSide <;>
      first | rfl | exact absurd sides (by decide)
  have sameCode : leftCode = rightCode := by
    cases leftCode <;> cases rightCode <;>
      first | rfl | exact absurd codes (by decide)
  rw [sameSide, sameCode]

omit [PythonRuntime] in
/-- Side, code and number of a quarantine count. -/
def QuarantineCount.item (found : QuarantineCount) :
    (RecordSide × QuarantineCode) × Nat :=
  ((found.side, found.code), found.count)

omit [PythonRuntime] in
/-- The breakdown always exists and is the ordered tally of the reasons. -/
theorem quarantineBreakdown_returns
    (source target : List QuarantinedObservation) :
    ∃ breakdown, quarantineBreakdown source target = .ok breakdown ∧
      breakdown.map QuarantineCount.item =
        sortedBy (fun item => breakdownKey item.1)
          (tally (quarantineReasons source target)) := by
  have returns : Returns (quarantineBreakdown source target) := by
    apply returns_mapM.mpr
    rintro ⟨reason, count⟩ member
    have positive : 1 ≤ count :=
      (mem_tally.mp (mem_sortedBy.mp member)).2
    simp only [QuarantineCount.create, positive, dite_true]
    exact .ok _
  obtain ⟨breakdown, returned⟩ := returns
  refine ⟨breakdown, returned, ?_⟩
  rw [← List.map_id (sortedBy (fun item => breakdownKey item.1)
    (tally (quarantineReasons source target)))]
  apply mapM_keeps _ returned
  rintro ⟨reason, count⟩ _ found created
  simp only [QuarantineCount.create] at created
  split at created
  next =>
    cases created
    rfl
  next => cases created

omit [PythonRuntime] in
theorem breakdown_sum {source target : List QuarantinedObservation}
    {breakdown : List QuarantineCount}
    (form : breakdown.map QuarantineCount.item =
      sortedBy (fun item => breakdownKey item.1)
        (tally (quarantineReasons source target))) :
    (breakdown.map QuarantineCount.count).sum =
      source.length + target.length := by
  have counts := congrArg (List.map Prod.snd) form
  rw [List.map_map] at counts
  have same : breakdown.map QuarantineCount.count =
      (sortedBy (fun item => breakdownKey item.1)
        (tally (quarantineReasons source target))).map Prod.snd := counts
  rw [same, ((sortedBy_perm _ _).map Prod.snd).sum_nat, sum_tally]
  simp [quarantineReasons]

theorem countsOf_valid (classification : ClassificationResult)
    (source target : SourceNormalization) {breakdown : List QuarantineCount}
    (form : breakdown.map QuarantineCount.item =
      sortedBy (fun item => breakdownKey item.1)
        (tally (quarantineReasons source.quarantined target.quarantined))) :
    (countsOf classification source target breakdown).validate = .ok () := by
  have classifications :
      (classificationCounts classification).map Prod.fst =
        orderedClassifications := by
    simp [classificationCounts, Function.comp_def]
  have order : (breakdown.map fun item =>
      breakdownKey (item.side, item.code)) =
        (sortedBy (fun item => breakdownKey item.1)
          (tally (quarantineReasons source.quarantined
            target.quarantined))).map fun item => breakdownKey item.1 := by
    rw [← form, List.map_map]
    rfl
  have keys : ((tally (quarantineReasons source.quarantined
      target.quarantined)).map fun item => breakdownKey item.1).Nodup := by
    have distinct := (nodup_tally (quarantineReasons source.quarantined
      target.quarantined)).map breakdownKey_injective
    rwa [List.map_map] at distinct
  have strict := List.pairwise_map.mpr (sortedBy_strict keys)
  have sorts : sorted ((sortedBy (fun item => breakdownKey item.1)
      (tally (quarantineReasons source.quarantined
        target.quarantined))).map fun item => breakdownKey item.1) =
      (sortedBy (fun item => breakdownKey item.1)
        (tally (quarantineReasons source.quarantined
          target.quarantined))).map fun item => breakdownKey item.1 :=
    sortedBy_of_pairwise (strict.imp le_of_lt)
  have distinct := strict.imp fun {a b} => (ne_of_lt : a < b → a ≠ b)
  have total := breakdown_sum form
  simp only [CountFields.validate, countsOf, classifications, order, sorts,
    total, beq_self_eq_true, require_true, ok_bind]
  simp only [List.Nodup, distinct, decide_true, Bool.and_self, require_true,
    ok_bind]

/-! ## Fingerprints of counts -/

omit [PythonRuntime] in
theorem SourceNormalization.few [PythonRuntime]
    (normalization : SourceNormalization) :
    normalization.records.length + normalization.quarantined.length ≤
      maxSourceObservations := by
  have valid := normalization.valid
  simp only [validateNormalization, bind_eq_ok, require_eq_ok,
    decide_eq_true_eq] at valid
  obtain ⟨_, _, few⟩ := valid
  exact few

/-- Every count of an analysis is an integer of ordinary size. -/
structure CountFields.Ordinary (counts : CountFields) : Prop where
  byClassification : counts.byClassification.length ≤ 7
  classified : ∀ item ∈ counts.byClassification, item.2 < 10 ^ 18
  sourceRecords : counts.sourceRecordCount < 10 ^ 18
  targetRecords : counts.targetRecordCount < 10 ^ 18
  keys : counts.canonicalKeyCount < 10 ^ 18
  sourceQuarantined : counts.sourceQuarantinedCount < 10 ^ 18
  targetQuarantined : counts.targetQuarantinedCount < 10 ^ 18
  breakdown : counts.quarantineBreakdown.length ≤ 10 ^ 6
  quarantined : ∀ item ∈ counts.quarantineBreakdown, item.count < 10 ^ 18

theorem countsOf_ordinary {classification : ClassificationResult}
    {source target : SourceNormalization} {breakdown : List QuarantineCount}
    (fewKeys : classification.keys.length < 10 ^ 18)
    (form : breakdown.map QuarantineCount.item =
      sortedBy (fun item => breakdownKey item.1)
        (tally (quarantineReasons source.quarantined target.quarantined))) :
    (countsOf classification source target breakdown).Ordinary := by
  have sourceFew := source.few
  have targetFew := target.few
  simp only [maxSourceObservations] at sourceFew targetFew
  have reasons : (quarantineReasons source.quarantined
      target.quarantined).length ≤ 200000 := by
    simp only [quarantineReasons, List.length_append, List.length_map]
    omega
  refine
    { byClassification := ?_, classified := ?_, sourceRecords := ?_,
      targetRecords := ?_, keys := fewKeys, sourceQuarantined := ?_,
      targetQuarantined := ?_, breakdown := ?_, quarantined := ?_ }
  · simp [countsOf, classificationCounts, orderedClassifications,
      allClassifications]
  · intro item member
    obtain ⟨candidate, _, rfl⟩ := List.mem_map.mp member
    exact (List.length_filter_le _ _).trans_lt fewKeys
  · simp only [countsOf]
    omega
  · simp only [countsOf]
    omega
  · simp only [countsOf]
    omega
  · simp only [countsOf]
    omega
  · have lengths := congrArg List.length form
    have fewer := tally_length_le
      (quarantineReasons source.quarantined target.quarantined)
    simp only [List.length_map, sortedBy_length] at lengths
    simp only [countsOf]
    omega
  · intro item member
    have inside : item.item ∈ sortedBy (fun item => breakdownKey item.1)
        (tally (quarantineReasons source.quarantined
          target.quarantined)) := by
      rw [← form]
      exact List.mem_map.mpr ⟨item, member, rfl⟩
    have few : item.count ≤ (quarantineReasons source.quarantined
        target.quarantined).length := by
      rw [show item.count = _ from
        (mem_tally.mp (mem_sortedBy.mp inside)).1]
      exact List.count_le_length
    omega

omit [PythonRuntime] in
theorem CountFields.Ordinary.header_fits {counts : CountFields}
    (ordinary : counts.Ordinary) :
    (countsHeader counts).fits 99 := by
  have natural : ∀ n : Nat, n < 10 ^ 18 → intReprError (n : Int) = none :=
    fun n small => intReprError_ordinary (by simpa using small)
  have classified : JsonValue.fitsFields 97 (counts.byClassification.map
      fun item => (text item.1.value, .int item.2)) :=
    JsonValue.fitsFields_map fun item member => by
      simp [JsonValue.fits, natural _ (ordinary.classified item member)]
  have quarantined : JsonValue.fitsFields 97 (counts.quarantineBreakdown.map
      fun item => (text item.side.value ++ point ':' ::
        text item.code.value, .int item.count)) :=
    JsonValue.fitsFields_map fun item member => by
      simp [JsonValue.fits, natural _ (ordinary.quarantined item member)]
  simp [countsHeader, JsonValue.fits, JsonValue.fitsFields, classified,
    quarantined, natural _ ordinary.keys, natural _ ordinary.sourceRecords,
    natural _ ordinary.targetRecords, natural _ ordinary.sourceQuarantined,
    natural _ ordinary.targetQuarantined]

omit [PythonRuntime] in
theorem CountFields.Ordinary.header_extent {counts : CountFields}
    (ordinary : counts.Ordinary) :
    (countsHeader counts).extent ≤ 10 ^ 12 := by
  have sides : ∀ side : RecordSide, (text side.value).length ≤ 32 := by
    intro side
    cases side <;> decide
  have codes : ∀ code : QuarantineCode, (text code.value).length ≤ 32 := by
    intro code
    cases code <;> decide
  have classes : ∀ classification : ReconciliationClassification,
      (text classification.value).length ≤ 32 := by
    intro classification
    cases classification <;> decide
  have classified : JsonValue.extentFields (counts.byClassification.map
      fun item => (text item.1.value, .int item.2)) ≤
        counts.byClassification.length * 5000 :=
    JsonValue.extentFields_map fun item _ => by
      have short := classes item.1
      simp only [JsonValue.extent]
      omega
  have quarantined : JsonValue.extentFields
      (counts.quarantineBreakdown.map fun item =>
        (text item.side.value ++ point ':' :: text item.code.value,
          .int item.count)) ≤ counts.quarantineBreakdown.length * 6000 :=
    JsonValue.extentFields_map fun item _ => by
      have side := sides item.side
      have code := codes item.code
      simp only [JsonValue.extent, List.length_append, List.length_cons]
      omega
  have fewClasses := ordinary.byClassification
  have fewReasons := ordinary.breakdown
  have keys : (text "by_classification").length = 17 ∧
      (text "canonical_key_count").length = 19 ∧
      (text "quarantine").length = 10 ∧
      (text "source_quarantined_count").length = 24 ∧
      (text "source_record_count").length = 19 ∧
      (text "target_quarantined_count").length = 24 ∧
      (text "target_record_count").length = 19 := by decide
  simp only [countsHeader, JsonValue.extent, JsonValue.extentFields, keys]
  omega

/-- The header dumps exactly when the query version can be printed. -/
theorem fingerprintHeader_dumps {inputs : AnalysisInputs}
    {counts : CountFields} (ordinary : counts.Ordinary)
    (valid : inputs.validate = .ok ()) :
    (∃ header, jsonDumps (fingerprintHeader inputs counts) = .ok header ∧
        header.length < 256 ^ 8) ↔
      intReprError inputs.analyticalQueryVersion = none := by
  constructor
  · rintro ⟨header, dumped, _⟩
    exact jsonDumps_integer_field dumped List.mem_cons_self
  · intro printable
    simp only [AnalysisInputs.validate, bind_eq_ok, require_eq_ok,
      Bool.and_eq_true] at valid
    obtain ⟨_, ⟨source, target⟩, _⟩ := valid
    have inside : (fingerprintHeader inputs counts).fits 100 := by
      have version : intReprError reconciliationFingerprintVersion = none :=
        intReprError_ordinary (by decide)
      simp [fingerprintHeader, JsonValue.fits, JsonValue.fitsFields,
        printable, version, ordinary.header_fits]
    obtain ⟨header, dumped, short⟩ := jsonDumps_length inside
    refine ⟨header, dumped, ?_⟩
    have counted := ordinary.header_extent
    simp only [isSha256Text, Bool.and_eq_true, beq_iff_eq] at source target
    have keys : (text "analytical_query_version").length = 24 ∧
        (text "counts").length = 6 ∧
        (text "fingerprint_kind").length = 16 ∧
        (text "fingerprint_version").length = 19 ∧
        (text "source_input_identity").length = 21 ∧
        (text "target_input_identity").length = 21 ∧
        reconciliationFingerprintKind.length = 14 := by decide
    simp only [fingerprintHeader, JsonValue.extent, JsonValue.extentFields,
      keys, source.1, target.1] at short
    omega

/-- The inputs of an analysis that can be summarized. -/
def AnalysisInputs.Printable (inputs : AnalysisInputs) : Prop :=
  inputs.validate = .ok () ∧
    intReprError inputs.analyticalQueryVersion = none

theorem computeReconciliationFingerprint_returns {inputs : AnalysisInputs}
    {counts : CountFields} (ordinary : counts.Ordinary)
    (digest : StateFingerprint) :
    Returns (computeReconciliationFingerprint inputs counts digest) ↔
      inputs.Printable := by
  constructor
  · rintro ⟨fingerprint, returned⟩
    simp only [computeReconciliationFingerprint, bind_eq_ok] at returned
    obtain ⟨_, valid, header, dumped, _⟩ := returned
    exact ⟨valid, jsonDumps_integer_field dumped List.mem_cons_self⟩
  · rintro ⟨valid, printable⟩
    obtain ⟨header, dumped, short⟩ :=
      (fingerprintHeader_dumps ordinary valid).mpr printable
    have headerFits : (encodeAscii header).length < 256 ^ 8 := by
      simpa [encodeAscii] using short
    have hex := digest.isSha256Text
    simp only [isSha256Text, Bool.and_eq_true, beq_iff_eq] at hex
    have digestFits : (encodeAscii digest.value).length < 256 ^ 8 := by
      simp [encodeAscii, hex.1]
    simp only [computeReconciliationFingerprint, valid, dumped, frame,
      headerFits, digestFits, if_true, ok_bind]
    exact .ok _

/-- A summary exists exactly when the inputs can be summarized. -/
theorem buildReconciliationSummary_returns
    {classification : ClassificationResult}
    (source target : SourceNormalization) {inputs : AnalysisInputs}
    (digest : StateFingerprint)
    (fewKeys : classification.keys.length < 10 ^ 18) :
    Returns (buildReconciliationSummary classification source target inputs
      digest) ↔ inputs.Printable := by
  obtain ⟨breakdown, broken, form⟩ := quarantineBreakdown_returns
    source.quarantined target.quarantined
  have ordinary := countsOf_ordinary fewKeys form
  have created : ReconciliationCountSummary.create
      (countsOf classification source target breakdown) =
        .ok ⟨_, countsOf_valid classification source target form⟩ := by
    simp only [ReconciliationCountSummary.create,
      certify_ok (P := fun u => (countsOf classification source target
        breakdown).validate = .ok u) (fun _ h => h)
        (countsOf_valid classification source target form)]
    rfl
  have unfolds : buildReconciliationSummary classification source target
      inputs digest =
        (computeReconciliationFingerprint inputs
          (countsOf classification source target breakdown) digest >>=
          fun fingerprint => ReconciliationSummary.create (currentSummary
            ⟨_, countsOf_valid classification source target form⟩ inputs
            fingerprint)) := by
    simp only [buildReconciliationSummary, broken, created, ok_bind]
  rw [unfolds, ← computeReconciliationFingerprint_returns ordinary digest]
  constructor
  · rintro ⟨summary, returned⟩
    obtain ⟨fingerprint, computed, _⟩ := bind_eq_ok.mp returned
    exact ⟨fingerprint, computed⟩
  · rintro ⟨fingerprint, computed⟩
    have printable :=
      (computeReconciliationFingerprint_returns ordinary digest).mp
        ⟨fingerprint, computed⟩
    rw [computed, ok_bind]
    refine returns_map.mpr ⟨_, certify_ok (fun _ h => h) (a := ()) ?_⟩
    simp only [SummaryFields.validate, currentSummary, beq_self_eq_true,
      require_true, ok_bind, printable.1]

/-- What a summary counts and digests. -/
theorem buildReconciliationSummary_form
    {classification : ClassificationResult}
    {source target : SourceNormalization} {inputs : AnalysisInputs}
    {digest : StateFingerprint} {summary : ReconciliationSummary}
    (returned : buildReconciliationSummary classification source target
      inputs digest = .ok summary) :
    ∃ breakdown,
      breakdown.map QuarantineCount.item =
        sortedBy (fun item => breakdownKey item.1)
          (tally (quarantineReasons source.quarantined
            target.quarantined)) ∧
      summary.counts.toCountFields =
        countsOf classification source target breakdown ∧
      summary.inputs = inputs ∧
      computeReconciliationFingerprint inputs
        (countsOf classification source target breakdown) digest =
          .ok summary.fingerprint := by
  obtain ⟨breakdown, broken, form⟩ := quarantineBreakdown_returns
    source.quarantined target.quarantined
  simp only [buildReconciliationSummary, broken, ok_bind, bind_eq_ok]
    at returned
  obtain ⟨counts, counted, fingerprint, computed, created⟩ := returned
  simp only [ReconciliationCountSummary.create, map_eq_ok] at counted
  obtain ⟨_, _, rfl⟩ := counted
  simp only [ReconciliationSummary.create, map_eq_ok] at created
  obtain ⟨_, _, rfl⟩ := created
  exact ⟨breakdown, form, rfl, rfl, computed⟩

end Summaries

end ParityGrid.Domain
