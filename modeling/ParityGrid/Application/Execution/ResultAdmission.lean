import ParityGrid.Adapters.Persistence.Writer.Dispatch
import ParityGrid.Application.Execution.ResultCommitFactory
import ParityGrid.Application.Ports.FlatDocuments

/-!
# Which results reach the writer

An intent passes four validators that bound the same facts: its own, the
factory, the adapter and the writer.  The conditions below are the ones that
the last three decide; together they say which intents become commands that
the writer accepts, which are rejected, and which end otherwise.
-/

namespace ParityGrid.Application

open ParityGrid.Foundation
open ParityGrid.Adapters.Persistence
open ParityGrid.Domain (Identifier NodeId PartitionKey RunId WorkItemId
  validateIdentifier)

/-! ## What an intent has checked -/

theorem requireResultInt_eq_ok {value minimum maximum : Int}
    {subject : String} :
    requireResultInt value minimum maximum subject = .ok () ↔
      minimum ≤ value ∧ value ≤ maximum := by
  simp [requireResultInt, require_eq_ok]

theorem requireResultText_eq_ok {value : Text} {subject : String}
    {maximum : Nat} :
    requireResultText value subject maximum = .ok () ↔
      isPlainText maximum value = true := by
  simp [requireResultText, check_bind_eq_ok, require_eq_ok, isPlainText]

theorem isPlainText_iff {value : Text} {maximum : Nat} :
    isPlainText maximum value = true ↔
      (1 ≤ value.length ∧ value.length ≤ maximum) ∧
        value.all isPrintable = true := by
  simp [isPlainText]

theorem isAscii_of_isPrintable {c : CodePoint} (printable : isPrintable c) :
    isAscii c := by
  simp only [isPrintable, Bool.and_eq_true, decide_eq_true_eq] at printable
  simp only [isAscii, decide_eq_true_eq]
  omega

theorem ascii_of_isPlainText {value : Text} {maximum : Nat}
    (plain : isPlainText maximum value = true) : value.all isAscii = true := by
  have printable := (isPlainText_iff.mp plain).2
  rw [List.all_eq_true] at printable ⊢
  exact fun c member => isAscii_of_isPrintable (printable c member)

/-- The bounds of an intent that the later validators look at. -/
structure IntentFields.Bounded (fields : IntentFields) : Prop where
  nodeId : isPlainText maxCoordinatorTextLength fields.nodeId = true
  partitionKey : isPlainText maxCoordinatorTextLength fields.partitionKey = true
  runnerKind : isPlainText 32 fields.runnerKind = true
  attemptNumber : 1 ≤ fields.attemptNumber ∧
    fields.attemptNumber ≤ maxMetricValue
  observed : 0 ≤ fields.observedAtMicros
  started : 0 ≤ fields.startedAtMicros
  expires : 0 ≤ fields.leaseExpiresAtMicros
  retry : 0 ≤ fields.retryEligibleAtMicros ∧
    fields.retryEligibleAtMicros ≤ maxRetryEligibilityMicros
  artifacts : ∀ artifact ∈ fields.artifactIds,
    isPlainText maxContractStringLength artifact = true

theorem CommitIntent.bounded (intent : CommitIntent) :
    intent.toIntentFields.Bounded := by
  have valid := intent.valid
  simp only [validateIntent, requireReferenceTuple, check_bind_eq_ok,
    requireResultInt_eq_ok, requireResultText_eq_ok, forM_eq_ok] at valid
  rcases valid with ⟨_, _, node, partition, _, attempt, _, _, observed, expires,
    _, _, _, _, ⟨_, artifacts⟩, _, runner, _, started, retry⟩
  exact ⟨node, partition, runner, attempt, observed.1, started.1, expires.1,
    retry, artifacts⟩

/-! ## Conditions -/

/-- Exactly the failed results carry a classification. -/
def ClassificationFits (intent : CommitIntent) : Prop :=
  intent.outcome = .succeeded ↔ intent.failureClassification = none

/-- The three instants are timestamps. -/
def Datable (intent : CommitIntent) : Prop :=
  intent.observedAtMicros ≤ maxInstant ∧ intent.startedAtMicros ≤ maxInstant ∧
    intent.leaseExpiresAtMicros ≤ maxInstant

/-- The attempt started before, and a retry waits until after, the result. -/
def OrderFits (intent : CommitIntent) : Prop :=
  intent.startedAtMicros ≤ intent.observedAtMicros ∧
    (intent.outcome = .retryWait →
      intent.observedAtMicros ≤ intent.retryEligibleAtMicros)

/-- The lease had not ended before the observation. -/
def LeaseFits (intent : CommitIntent) : Prop :=
  intent.observedAtMicros ≤ intent.leaseExpiresAtMicros

/-- Every metric is recorded where a zero stands, in the order reported. -/
def MetricsFitFrom (table : List (Text × Int)) (metrics : List ContractMetric) :
    Prop :=
  (∀ metric ∈ metrics, table.lookup metric.name = some 0) ∧
    metrics.Pairwise fun earlier later =>
      earlier.name = later.name → earlier.value = 0

/-- The metrics are durable ones, and none is reported again. -/
def MetricsFit (result : WorkResultV1) : Prop :=
  (∀ metric ∈ result.metrics, metric.name ∈ metricNames) ∧
    result.metrics.Pairwise fun earlier later =>
      earlier.name = later.name → earlier.value = 0

/-- The work item, the run and the node have canonical identifiers. -/
def Named (intent : CommitIntent) : Prop :=
  validateIdentifier .workItem intent.workItemId = .ok () ∧
    validateIdentifier .run intent.runId = .ok () ∧
    validateIdentifier .node intent.nodeId = .ok ()

/-- The partition and the artifact of a checkpoint have canonical names. -/
def CheckpointNamed (intent : CommitIntent) : Prop :=
  Domain.validateStableText .partitionKey intent.partitionKey = .ok () ∧
    ∀ artifact, intent.artifactIds.head? = some artifact →
      validateIdentifier .artifact artifact = .ok ()

/-- A row version of the store. -/
def IsRevision (value : Int) : Prop :=
  1 ≤ value ∧ value ≤ 2147483647

/-- The three expected revisions are row versions of the store. -/
def Revised (intent : CommitIntent) : Prop :=
  IsRevision intent.expectedNodeRowVersion ∧
    IsRevision intent.expectedRunRowVersion ∧
    IsRevision intent.eventCounterRowVersion

/-- The checkpoint proposal suits the outcome, and the writer can follow it. -/
def Followed (intent : CommitIntent) : Prop :=
  if intent.outcome = .succeeded then
    intent.checkpointProposed = true → CheckpointNamed intent ∧ Revised intent
  else intent.checkpointProposed = false ∧ Revised intent

/-! ## The stages of the factory -/

section Stages

variable {intent : CommitIntent}

theorem requireClassification_of_fits (fits : ClassificationFits intent) :
    requireClassification intent = .ok intent.failureClassification := by
  unfold requireClassification
  split
  next succeeded =>
    rw [fits.mp succeeded]
    rfl
  next unsuccessful =>
    cases classified : intent.failureClassification with
    | none => exact (unsuccessful (fits.mpr classified)).elim
    | some classification => rfl

theorem requireClassification_rejects (unfit : ¬ClassificationFits intent) :
    ∃ message, requireClassification intent = .error (.rejection message) := by
  unfold requireClassification
  split
  next succeeded =>
    cases classified : intent.failureClassification with
    | none => exact (unfit (iff_of_true succeeded classified)).elim
    | some classification => exact ⟨_, rfl⟩
  next unsuccessful =>
    cases classified : intent.failureClassification with
    | none => exact ⟨_, rfl⟩
    | some classification =>
        exact (unfit (iff_of_false unsuccessful (by simp [classified]))).elim

theorem timestampFromMicros_eq_ok {value : Int} (subject : String)
    (nonnegative : 0 ≤ value) (datable : value ≤ maxInstant) :
    timestampFromMicros value subject = .ok value := by
  simp [timestampFromMicros, nonnegative, datable]

theorem timestampFromMicros_escapes {value : Int} (subject : String)
    (nonnegative : 0 ≤ value) (late : ¬value ≤ maxInstant) :
    timestampFromMicros value subject = .error (.escaped .overflowError) := by
  simp only [timestampFromMicros, nonnegative, late, decide_true, decide_false,
    require_true, require_false, ok_bind, error_bind]

theorem targetState_eq_retryWait {outcome : ContractOutcome} :
    outcome.targetState = .retryWait ↔ outcome = .retryWait := by
  cases outcome <;> simp [ContractOutcome.targetState]

theorem targetState_eq_succeeded {outcome : ContractOutcome} :
    outcome.targetState = .succeeded ↔ outcome = .succeeded := by
  cases outcome <;> simp [ContractOutcome.targetState]

/-- The retry time that a command carries. -/
def intentRetry (intent : CommitIntent) : Option Instant :=
  if intent.outcome = .retryWait then some intent.retryEligibleAtMicros
  else none

/-- The times of an intent whose times fit. -/
def fittingTimes (intent : CommitIntent) : IntentTimes where
  finishedAt := intent.observedAtMicros
  startedAt := intent.startedAtMicros
  expiresAt := intent.leaseExpiresAtMicros
  retryAvailableAt := intentRetry intent

theorem intentTimes_of_fits (datable : Datable intent)
    (order : OrderFits intent) (lease : LeaseFits intent) :
    intentTimes intent = .ok (fittingTimes intent) := by
  have bounded := intent.bounded
  have finished := timestampFromMicros_eq_ok "result observation time"
    bounded.observed datable.1
  have started := timestampFromMicros_eq_ok "attempt start time"
    bounded.started datable.2.1
  have expires := timestampFromMicros_eq_ok "lease expiry" bounded.expires
    datable.2.2
  have retry : retryTime intent intent.observedAtMicros =
      .ok (intentRetry intent) := by
    unfold retryTime intentRetry
    simp only [targetState_eq_retryWait]
    split
    next retried =>
      have early : maxRetryEligibilityMicros ≤ maxInstant := by decide
      rw [timestampFromMicros_eq_ok "retry eligibility" bounded.retry.1
        (bounded.retry.2.trans early), ok_bind]
      simp [not_lt.mpr (order.2 retried)]
    next => rfl
  have ordered : ¬intent.startedAtMicros > intent.observedAtMicros :=
    not_lt.mpr order.1
  have leased : ¬intent.observedAtMicros > intent.leaseExpiresAtMicros :=
    not_lt.mpr lease
  simp only [intentTimes, finished, started, expires, retry, ordered, leased,
    ok_bind, decide_false, Bool.not_false, require_true]
  rfl

theorem intentTimes_escapes (undatable : ¬Datable intent) :
    intentTimes intent = .error (.escaped .overflowError) := by
  have bounded := intent.bounded
  unfold intentTimes
  by_cases observed : intent.observedAtMicros ≤ maxInstant
  · rw [timestampFromMicros_eq_ok _ bounded.observed observed, ok_bind]
    by_cases started : intent.startedAtMicros ≤ maxInstant
    · rw [timestampFromMicros_eq_ok _ bounded.started started, ok_bind]
      have late : ¬intent.leaseExpiresAtMicros ≤ maxInstant :=
        fun expires => undatable ⟨observed, started, expires⟩
      rw [timestampFromMicros_escapes _ bounded.expires late, error_bind]
    · rw [timestampFromMicros_escapes _ bounded.started started, error_bind]
  · rw [timestampFromMicros_escapes _ bounded.observed observed, error_bind]

theorem intentTimes_rejects (datable : Datable intent)
    (unfit : ¬(OrderFits intent ∧ LeaseFits intent)) :
    ∃ message, intentTimes intent = .error (.rejection message) := by
  have bounded := intent.bounded
  unfold intentTimes
  rw [timestampFromMicros_eq_ok _ bounded.observed datable.1, ok_bind,
    timestampFromMicros_eq_ok _ bounded.started datable.2.1, ok_bind,
    timestampFromMicros_eq_ok _ bounded.expires datable.2.2, ok_bind]
  by_cases ordered : intent.startedAtMicros > intent.observedAtMicros
  · refine ⟨"attempt start follows its observation", ?_⟩
    simp only [ordered, decide_true, Bool.not_true, require_false, error_bind]
  by_cases leased : intent.observedAtMicros > intent.leaseExpiresAtMicros
  · refine ⟨"result observation follows lease expiry", ?_⟩
    simp only [ordered, leased, decide_true, decide_false, Bool.not_true,
      Bool.not_false, require_true, require_false, ok_bind, error_bind]
  have early : intent.outcome = .retryWait ∧
      intent.retryEligibleAtMicros < intent.observedAtMicros := by
    by_contra late
    refine unfit ⟨⟨not_lt.mp ordered, fun retried => ?_⟩, not_lt.mp leased⟩
    exact not_lt.mp fun early => late ⟨retried, early⟩
  have inRange : maxRetryEligibilityMicros ≤ maxInstant := by decide
  have retry : retryTime intent intent.observedAtMicros =
      .error (.rejection "retry eligibility precedes the result") := by
    rw [retryTime, if_pos (targetState_eq_retryWait.mpr early.1),
      timestampFromMicros_eq_ok _ bounded.retry.1
        (bounded.retry.2.trans inRange), ok_bind]
    simp only [early.2, decide_true, Bool.not_true, require_false, error_bind]
  refine ⟨"retry eligibility precedes the result", ?_⟩
  simp only [ordered, leased, retry, decide_false, Bool.not_false,
    require_true, ok_bind, error_bind]

end Stages

/-! ## Metrics -/

/-- What a result reports under one name. -/
def reported (metrics : List ContractMetric) (name : Text) : Int :=
  ((metrics.filter fun metric => metric.name == name).map
    ContractMetric.value).sum

theorem metricsFitFrom_cons {table : List (Text × Int)}
    {metric : ContractMetric} {rest : List ContractMetric} :
    MetricsFitFrom table (metric :: rest) ↔
      table.lookup metric.name = some 0 ∧
        MetricsFitFrom (alter metric.name (fun _ => metric.value) table)
          rest := by
  have recorded : ∀ later : ContractMetric,
      (alter metric.name (fun _ => metric.value) table).lookup later.name =
        if metric.name = later.name then some metric.value
        else table.lookup later.name := by
    intro later
    split
    next same => rw [← same, lookup_alter_self]
    next different => rw [lookup_alter_ne (Ne.symm different)]
  simp only [MetricsFitFrom, List.forall_mem_cons, List.pairwise_cons, recorded]
  constructor
  · rintro ⟨⟨first, zeros⟩, apart, pairwise⟩
    refine ⟨first, fun later member => ?_, pairwise⟩
    split
    next same => rw [apart later member same]
    next => exact zeros later member
  · rintro ⟨first, zeros, pairwise⟩
    refine ⟨⟨first, fun later member => ?_⟩, fun later member same => ?_,
      pairwise⟩
    · have zero := zeros later member
      split at zero
      next same => rw [← same, first]
      next => exact zero
    · have zero := zeros later member
      rw [if_pos same] at zero
      exact Option.some.inj zero

theorem recordMetric_eq_ok {table : List (Text × Int)} {metric : ContractMetric}
    (zero : table.lookup metric.name = some 0) :
    recordMetric table metric =
      .ok (alter metric.name (fun _ => metric.value) table) := by
  have valid := metric.valid
  simp only [validateContractMetric, validateContractInt, bind_eq_ok,
    require_eq_ok, Bool.and_eq_true, decide_eq_true_eq] at valid
  rcases valid with ⟨_, _, _, bounded⟩
  simp [recordMetric, zero, bounded]

theorem recordMetric_rejects {table : List (Text × Int)}
    {metric : ContractMetric} (occupied : table.lookup metric.name ≠ some 0) :
    ∃ message, recordMetric table metric = .error (.rejection message) := by
  unfold recordMetric
  cases found : table.lookup metric.name with
  | none => exact ⟨_, rfl⟩
  | some current =>
      have nonzero : (current == 0) = false := by
        apply beq_eq_false_iff_ne.mpr
        rintro rfl
        exact occupied found
      refine ⟨"result metric name is repeated", ?_⟩
      simp only [nonzero, require_false, error_bind]

theorem foldlM_recordMetric_of_fits {metrics : List ContractMetric}
    {table : List (Text × Int)} (fits : MetricsFitFrom table metrics) :
    ∃ recorded, metrics.foldlM recordMetric table = .ok recorded ∧
      ∀ name, recorded.lookup name =
        (table.lookup name).map fun value => value + reported metrics name := by
  induction metrics generalizing table with
  | nil => exact ⟨table, rfl, fun name => by simp [reported]⟩
  | cons metric rest ih =>
      rcases metricsFitFrom_cons.mp fits with ⟨zero, later⟩
      rcases ih later with ⟨recorded, folded, values⟩
      refine ⟨recorded, ?_, fun name => ?_⟩
      · rw [List.foldlM_cons, recordMetric_eq_ok zero, ok_bind, folded]
      · rw [values]
        by_cases same : metric.name = name
        · simp [← same, zero, reported]
        · rw [lookup_alter_ne (Ne.symm same)]
          simp [reported, same]

theorem foldlM_recordMetric_rejects {metrics : List ContractMetric}
    {table : List (Text × Int)} (unfit : ¬MetricsFitFrom table metrics) :
    ∃ message,
      metrics.foldlM recordMetric table = .error (.rejection message) := by
  induction metrics generalizing table with
  | nil => exact (unfit ⟨by simp, .nil⟩).elim
  | cons metric rest ih =>
      rw [List.foldlM_cons]
      by_cases zero : table.lookup metric.name = some 0
      · rw [recordMetric_eq_ok zero, ok_bind]
        exact ih fun later => unfit (metricsFitFrom_cons.mpr ⟨zero, later⟩)
      · rcases recordMetric_rejects zero with ⟨message, rejected⟩
        exact ⟨message, by rw [rejected, error_bind]⟩

theorem lookup_metricNames (name : Text) :
    (metricNames.map fun name => (name, (0 : Int))).lookup name =
      if name ∈ metricNames then some 0 else none := by
  split
  next known => exact lookup_map_self (fun _ => 0) known
  next unknown =>
    rw [lookup_eq_none_iff_notMem, List.map_map]
    exact fun member => unknown (by simpa using member)

theorem metricsFit_iff {result : WorkResultV1} :
    MetricsFit result ↔
      MetricsFitFrom (metricNames.map fun name => (name, 0)) result.metrics := by
  simp [MetricsFit, MetricsFitFrom, lookup_metricNames]

/-- Every durable metric is the one that the result reports. -/
theorem metricMap_of_fits {result : WorkResultV1} (fits : MetricsFit result) :
    ∃ metrics, metricMap result = .ok metrics ∧
      ∀ name, text name ∈ metricNames →
        metricValue metrics name = reported result.metrics (text name) := by
  rcases foldlM_recordMetric_of_fits (metricsFit_iff.mp fits) with
    ⟨metrics, folded, values⟩
  refine ⟨metrics, folded, fun name known => ?_⟩
  rw [metricValue, values, lookup_metricNames, if_pos known]
  simp

theorem metricMap_rejects {result : WorkResultV1} (unfit : ¬MetricsFit result) :
    ∃ message, metricMap result = .error (.rejection message) :=
  foldlM_recordMetric_rejects fun fits => unfit (metricsFit_iff.mpr fits)

/-! ## Event payloads -/

/-- The fields of every completion event. -/
def completionKeys : List Text :=
  ["attempt_number", "failure_classification", "node_id", "retry_available_at",
    "runner_kind", "target_state"].map text

/-- The fields that the event of a checkpoint adds. -/
def checkpointKeys : List Text :=
  ["artifact_id", "checkpoint_payload_schema_version", "partition_key"].map text

theorem instantText_ascii (instant : Instant) :
    (instantText instant).all isAscii = true := by
  simp only [instantText, List.all_append, List.all_cons, List.all_nil,
    zeroPadded_ascii]
  decide

theorem instantText_length (instant : Instant) :
    (instantText instant).length = 27 := by
  simp [instantText, zeroPadded_length]

section Payload

variable [CasefoldRuntime] {intent : CommitIntent}

theorem isSensitiveKey_payload :
    ∀ key ∈ completionKeys ++ checkpointKeys, isSensitiveKey key = false := by
  have keys : ∀ key ∈ completionKeys ++ checkpointKeys, isHarmlessKey key := by
    decide +kernel
  exact fun key member => isSensitiveKey_harmless (keys key member)

/-- A text field of a payload, whose key is one of the fixed ones. -/
theorem isFlatField_string {key value : Text}
    (known : key ∈ completionKeys ++ checkpointKeys)
    (ascii : value.all isAscii = true)
    (short : value.length ≤ maxDocumentStringLength) :
    isFlatField (key, .string value) = true := by
  have keys : ∀ key ∈ completionKeys ++ checkpointKeys,
      key.all isAscii = true ∧ key.length ≤ maxDocumentKeyLength := by
    decide
  exact isFlatField_ascii (keys key known).1 (keys key known).2 ascii short

theorem isFlatField_plain {key value : Text} {maximum : Nat}
    (known : key ∈ completionKeys ++ checkpointKeys)
    (plain : isPlainText maximum value = true)
    (short : maximum ≤ maxDocumentStringLength) :
    isFlatField (key, .string value) = true :=
  isFlatField_string known (ascii_of_isPlainText plain)
    ((isPlainText_iff.mp plain).1.2.trans short)

theorem isFlatField_scalar {key : Text} {value : JsonValue}
    (known : key ∈ completionKeys ++ checkpointKeys)
    (flat : value = .null ∨ ∃ number, value = .int number) :
    isFlatField (key, value) = true := by
  have named : isFlatField (key, .string []) = true :=
    isFlatField_string known rfl (by decide)
  rcases flat with rfl | ⟨number, rfl⟩
  · exact Bool.and_eq_true_iff.mpr ⟨(Bool.and_eq_true_iff.mp named).1, rfl⟩
  · exact Bool.and_eq_true_iff.mpr ⟨(Bool.and_eq_true_iff.mp named).1, rfl⟩

theorem completionPayload_flat {claim : WorkClaim}
    {target : Domain.WorkItemState}
    {classification : Option Domain.FailureClassification}
    {retryAvailableAt : Option Instant} {nodeId : Text} {maximum : Nat}
    (node : isPlainText maximum nodeId = true)
    (runner : isPlainText 32 claim.runnerKind = true)
    (short : maximum ≤ maxDocumentStringLength) :
    ∀ item ∈ completionPayload claim nodeId target classification
      retryAvailableAt, isFlatField item = true := by
  have known : ∀ key ∈ completionKeys, key ∈ completionKeys ++ checkpointKeys :=
    fun key member => List.mem_append_left _ member
  simp only [completionPayload, List.forall_mem_cons]
  refine ⟨?_, ?_, ?_, ?_, ?_, ?_, by simp⟩
  · exact isFlatField_scalar (known _ (by decide)) (.inr ⟨_, rfl⟩)
  · cases classification with
    | none => exact isFlatField_scalar (known _ (by decide)) (.inl rfl)
    | some failure =>
        refine isFlatField_string (known _ (by decide)) ?_ ?_
        · cases failure <;> decide
        · cases failure <;> decide
  · exact isFlatField_plain (known _ (by decide)) node short
  · cases retryAvailableAt with
    | none => exact isFlatField_scalar (known _ (by decide)) (.inl rfl)
    | some retryAt =>
        refine isFlatField_string (known _ (by decide))
          (instantText_ascii retryAt) ?_
        rw [instantText_length]
        decide
  · exact isFlatField_plain (known _ (by decide)) runner (by decide)
  · refine isFlatField_string (known _ (by decide)) ?_ ?_
    · cases target <;> decide
    · cases target <;> decide

theorem checkpointPayload_flat {artifactId : Option Text}
    {schemaVersion : Int} {partitionKey : Text} {maximum : Nat}
    (artifact : ∀ artifact, artifactId = some artifact →
      isPlainText maxContractStringLength artifact = true)
    (partition : isPlainText maximum partitionKey = true)
    (short : maximum ≤ maxDocumentStringLength) :
    ∀ item ∈ checkpointPayload artifactId schemaVersion partitionKey,
      isFlatField item = true := by
  have known : ∀ key ∈ checkpointKeys, key ∈ completionKeys ++ checkpointKeys :=
    fun key member => List.mem_append_right _ member
  simp only [checkpointPayload, List.forall_mem_cons]
  refine ⟨?_, ?_, ?_, by simp⟩
  · cases artifactId with
    | none => exact isFlatField_scalar (known _ (by decide)) (.inl rfl)
    | some value =>
        exact isFlatField_plain (known _ (by decide)) (artifact value rfl)
          (by decide)
  · exact isFlatField_scalar (known _ (by decide)) (.inr ⟨_, rfl⟩)
  · exact isFlatField_plain (known _ (by decide)) partition short

omit [CasefoldRuntime] in
theorem intentPayload_keys (intent : CommitIntent) (claim : WorkClaim)
    (classification : Option Domain.FailureClassification)
    (retryAvailableAt : Option Instant) :
    ∃ added, added <+: checkpointKeys ∧
      (intentPayload intent claim classification retryAvailableAt).map
        Prod.fst = completionKeys ++ added := by
  rw [intentPayload, List.map_append]
  split
  next => exact ⟨checkpointKeys, List.prefix_rfl, rfl⟩
  next => exact ⟨[], List.nil_prefix, rfl⟩

/-- The payload of an intent freezes into a redacted document. -/
theorem intentPayload_frozen {claim : WorkClaim}
    (runner : claim.runnerKind = intent.runnerKind)
    (classification : Option Domain.FailureClassification)
    (retryAvailableAt : Option Instant) :
    Returns (RedactedDocument.fromMapping
      (intentPayload intent claim classification retryAvailableAt)) := by
  have bounded := intent.bounded
  rcases intentPayload_keys intent claim classification
    retryAvailableAt with ⟨added, shorter, keys⟩
  have sub : completionKeys ++ added <+: completionKeys ++ checkpointKeys :=
    (List.prefix_append_right_inj _).mpr shorter
  have distinct : (completionKeys ++ checkpointKeys).Nodup := by decide
  apply RedactedDocument.fromMapping_flat
  · rw [keys]
    exact distinct.sublist sub.sublist
  · rw [intentPayload, List.forall_mem_append]
    refine ⟨completionPayload_flat bounded.nodeId ?_ (by decide), ?_⟩
    · rw [runner]
      exact bounded.runnerKind
    split
    next =>
      refine checkpointPayload_flat (fun artifact first => ?_)
        bounded.partitionKey (by decide)
      exact bounded.artifacts artifact (List.mem_of_head? first)
    next => simp
  · have length : ((intentPayload intent claim classification
        retryAvailableAt).map Prod.fst).length ≤
        (completionKeys ++ checkpointKeys).length := by
      rw [keys]
      exact sub.length_le
    rw [List.length_map] at length
    exact length.trans (by decide)
  · intro item member
    have key := List.mem_map_of_mem (f := Prod.fst) member
    rw [keys] at key
    exact isSensitiveKey_payload item.1 (sub.subset key)

end Payload

/-! ## The command of an intent -/

theorem identifierOf_eq_ok {kind : Domain.IdentifierKind} {value : Text}
    (valid : validateIdentifier kind value = .ok ()) :
    identifierOf kind value = .ok ⟨value, valid⟩ := by
  rw [identifierOf, Identifier.create]
  split
  next => rfl
  next error invalid =>
    rw [valid] at invalid
    cases invalid

theorem identifierOf_escapes {kind : Domain.IdentifierKind} {value : Text}
    (invalid : ¬validateIdentifier kind value = .ok ()) :
    ∃ error, identifierOf kind value = .error (.escaped error) := by
  rw [identifierOf, Identifier.create]
  split
  next valid => exact (invalid valid).elim
  next error _ => exact ⟨error, rfl⟩

theorem partitionKeyOf_eq_ok {value : Text}
    (valid : Domain.validateStableText .partitionKey value = .ok ()) :
    partitionKeyOf value = .ok ⟨value, valid⟩ := by
  rw [partitionKeyOf]
  split
  next => rfl
  next error invalid =>
    rw [valid] at invalid
    cases invalid

theorem partitionKeyOf_escapes {value : Text}
    (invalid : ¬Domain.validateStableText .partitionKey value = .ok ()) :
    ∃ error, partitionKeyOf value = .error (.escaped error) := by
  rw [partitionKeyOf]
  split
  next valid => exact (invalid valid).elim
  next error _ => exact ⟨error, rfl⟩

/-- The attempt number of an intent is one of the domain. -/
theorem CommitIntent.attemptValid (intent : CommitIntent) :
    Domain.validateSequenceNumber intent.attemptNumber = .ok () := by
  have bounded := intent.bounded.attemptNumber
  have same : Domain.maxSequenceNumber = maxMetricValue := rfl
  simpa [Domain.validateSequenceNumber, require_eq_ok, same] using bounded

theorem attemptNumberOf_eq_ok (intent : CommitIntent) :
    attemptNumberOf intent.attemptNumber =
      .ok ⟨⟨intent.attemptNumber, intent.attemptValid⟩⟩ := by
  rw [attemptNumberOf]
  split
  next => rfl
  next error invalid =>
    rw [intent.attemptValid] at invalid
    cases invalid

section Command

variable [CasefoldRuntime] {intent : CommitIntent}

/-- The claim of an intent that names a work item. -/
def namedClaim (intent : CommitIntent)
    (named : validateIdentifier .workItem intent.workItemId = .ok ()) :
    WorkClaim where
  workItemId := ⟨intent.workItemId, named⟩
  attemptNumber := ⟨⟨intent.attemptNumber, intent.attemptValid⟩⟩
  leaseOwner := intent.leaseOwner
  rowVersion := intent.leaseFence
  startedAt := intent.startedAtMicros
  leaseExpiresAt := intent.leaseExpiresAtMicros
  runnerKind := intent.runnerKind
  workerIdentity := intent.workerIdentity

/-- The event of an intent that names a work item. -/
def namedEvent (correlationId : Option Text) (intent : CommitIntent)
    (named : validateIdentifier .workItem intent.workItemId = .ok ())
    (payload : RedactedDocument) : EventAppendRequest where
  expectedNextSequence := intent.nextEventSequence
  expectedCounterRowVersion := intent.eventCounterRowVersion
  event := {
    eventKind :=
      if intent.proposesCheckpoint then text "checkpoint_committed"
      else text "work_" ++ text intent.outcome.targetState.value
    occurredAt := intent.observedAtMicros
    subject := .workItem ⟨intent.workItemId, named⟩
    correlationId
    payloadSchemaVersion := workResultEventPayloadSchemaVersion
    payload }

/-- The command of an intent that fits, without its checkpoint. -/
def fittingAttempt (correlationId : Option Text) (intent : CommitIntent)
    (named : Named intent) (metrics : List (Text × Int))
    (payload : RedactedDocument) : CommitWorkAttempt where
  runId := ⟨intent.runId, named.2.1⟩
  nodeId := ⟨intent.nodeId, named.2.2⟩
  claim := namedClaim intent named.1
  completion := intentCompletion intent (fittingTimes intent)
    intent.failureClassification metrics
  metrics := metricDelta metrics
  expectedNodeRowVersion := intent.expectedNodeRowVersion
  expectedRunRowVersion := intent.expectedRunRowVersion
  event := namedEvent correlationId intent named.1 payload

/-- What the payload of the event says of an intent that names a work item. -/
def namedPayload (intent : CommitIntent)
    (named : validateIdentifier .workItem intent.workItemId = .ok ()) :
    List (Text × JsonValue) :=
  intentPayload intent (namedClaim intent named) intent.failureClassification
    (intentRetry intent)

/-- The checkpoint of an intent whose partition and artifact have names. -/
def fittingCheckpoint (intent : CommitIntent)
    (named : Domain.validateStableText .partitionKey intent.partitionKey =
      .ok ())
    (artifactId : Option (Identifier .artifact)) : CheckpointWrite where
  expectedPartitionKey := ⟨intent.partitionKey, named⟩
  payloadSchemaVersion := checkpointPayloadSchemaVersion
  sourceCursor := none
  outputPosition := none
  artifactId
  committedAt := intent.observedAtMicros

omit [CasefoldRuntime] in
theorem intentArtifact_of_named
    (named : ∀ artifact, intent.artifactIds.head? = some artifact →
      validateIdentifier .artifact artifact = .ok ()) :
    ∃ artifactId, intentArtifact intent = .ok artifactId ∧
      artifactId.map Identifier.value = intent.artifactIds.head? := by
  unfold intentArtifact
  cases first : intent.artifactIds.head? with
  | none => exact ⟨none, rfl, rfl⟩
  | some artifact =>
      refine ⟨some ⟨artifact, named artifact first⟩, ?_, rfl⟩
      show identifierOf .artifact artifact >>= _ = _
      rw [identifierOf_eq_ok (named artifact first)]
      rfl

omit [CasefoldRuntime] in
theorem intentArtifact_escapes
    (unnamed : ¬∀ artifact, intent.artifactIds.head? = some artifact →
      validateIdentifier .artifact artifact = .ok ()) :
    ∃ error, intentArtifact intent = .error (.escaped error) := by
  push Not at unnamed
  rcases unnamed with ⟨artifact, first, invalid⟩
  rcases identifierOf_escapes invalid with ⟨error, escapes⟩
  refine ⟨error, ?_⟩
  rw [intentArtifact, first]
  show identifierOf .artifact artifact >>= _ = _
  rw [escapes, error_bind]

theorem intentCheckpoint_of_named (named : CheckpointNamed intent) :
    ∃ artifactId,
      intentCheckpoint intent (fittingTimes intent) =
        .ok (fittingCheckpoint intent named.1 artifactId) ∧
      artifactId.map Identifier.value = intent.artifactIds.head? := by
  rcases intentArtifact_of_named named.2 with ⟨artifactId, made, first⟩
  refine ⟨artifactId, ?_, first⟩
  rw [intentCheckpoint, partitionKeyOf_eq_ok named.1, ok_bind, made]
  rfl

theorem intentCheckpoint_escapes (times : IntentTimes)
    (unnamed : ¬CheckpointNamed intent) :
    ∃ error, intentCheckpoint intent times = .error (.escaped error) := by
  by_cases partition :
      Domain.validateStableText .partitionKey intent.partitionKey = .ok ()
  · have artifacts : ¬∀ artifact, intent.artifactIds.head? = some artifact →
        validateIdentifier .artifact artifact = .ok () :=
      fun artifacts => unnamed ⟨partition, artifacts⟩
    rcases intentArtifact_escapes artifacts with ⟨error, escapes⟩
    exact ⟨error, by rw [intentCheckpoint, partitionKeyOf_eq_ok partition,
      ok_bind, escapes, error_bind]⟩
  · rcases partitionKeyOf_escapes partition with ⟨error, escapes⟩
    exact ⟨error, by rw [intentCheckpoint, escapes, error_bind]⟩

omit [CasefoldRuntime] in
theorem intentClaim_of_named
    (named : validateIdentifier .workItem intent.workItemId = .ok ()) :
    intentClaim intent (fittingTimes intent) =
      .ok (namedClaim intent named) := by
  rw [intentClaim, identifierOf_eq_ok named, ok_bind, attemptNumberOf_eq_ok,
    ok_bind]
  rfl

theorem completionEvent_of_named (correlationId : Option Text)
    (named : validateIdentifier .workItem intent.workItemId = .ok ()) :
    ∃ payload,
      completionEvent correlationId intent (namedClaim intent named)
        intent.failureClassification (fittingTimes intent) =
          .ok (namedEvent correlationId intent named payload) ∧
      payload.toMapping =
        (JsonValue.object (namedPayload intent named)).sortKeys := by
  have frozen : Returns (RedactedDocument.fromMapping
      (namedPayload intent named)) :=
    intentPayload_frozen
      (show (namedClaim intent named).runnerKind = intent.runnerKind from rfl)
      _ _
  rcases frozen with ⟨payload, frozen⟩
  refine ⟨payload, ?_, RedactedDocument.fromMapping_toMapping frozen⟩
  have made : completionEvent correlationId intent (namedClaim intent named)
      intent.failureClassification (fittingTimes intent) =
        ((RedactedDocument.fromMapping (namedPayload intent named)).mapError
          FactoryError.redaction >>= fun payload =>
            .ok (namedEvent correlationId intent named payload)) := rfl
  rw [made, frozen]
  rfl

/-- The stages that come before the checkpoint, when all of them pass. -/
theorem build_eq_wrapCommand (correlationId : Option Text)
    (classified : ClassificationFits intent) (datable : Datable intent)
    (order : OrderFits intent) (lease : LeaseFits intent)
    (fits : MetricsFit intent.result) (named : Named intent) :
    ∃ metrics payload,
      buildCommitCommand correlationId intent =
        wrapCommand intent (fittingTimes intent)
          (fittingAttempt correlationId intent named metrics payload) ∧
      (∀ name, text name ∈ metricNames →
        metricValue metrics name =
          reported intent.result.metrics (text name)) ∧
      payload.toMapping =
        (JsonValue.object (namedPayload intent named.1)).sortKeys := by
  rcases metricMap_of_fits fits with ⟨metrics, mapped, values⟩
  rcases completionEvent_of_named correlationId named.1 with
    ⟨payload, event, mapping⟩
  refine ⟨metrics, payload, ?_, values, mapping⟩
  rw [buildCommitCommand, requireClassification_of_fits classified, ok_bind,
    intentTimes_of_fits datable order lease, ok_bind, mapped, ok_bind,
    intentClaim_of_named named.1, ok_bind, event, ok_bind,
    identifierOf_eq_ok named.2.1, ok_bind, identifierOf_eq_ok named.2.2,
    ok_bind]
  rfl

/-- An intent with a name that is not canonical raises a `ValueError`. -/
theorem build_escapes_of_unnamed (correlationId : Option Text)
    (classified : ClassificationFits intent) (datable : Datable intent)
    (order : OrderFits intent) (lease : LeaseFits intent)
    (fits : MetricsFit intent.result) (unnamed : ¬Named intent) :
    ∃ error,
      buildCommitCommand correlationId intent = .error (.escaped error) := by
  rcases metricMap_of_fits fits with ⟨metrics, mapped, _⟩
  rw [buildCommitCommand, requireClassification_of_fits classified, ok_bind,
    intentTimes_of_fits datable order lease, ok_bind, mapped, ok_bind]
  by_cases item : validateIdentifier .workItem intent.workItemId = .ok ()
  · rcases completionEvent_of_named correlationId item with ⟨payload, event, _⟩
    rw [intentClaim_of_named item, ok_bind, event, ok_bind]
    by_cases run : validateIdentifier .run intent.runId = .ok ()
    · have node : ¬validateIdentifier .node intent.nodeId = .ok () :=
        fun node => unnamed ⟨item, run, node⟩
      rcases identifierOf_escapes node with ⟨error, escapes⟩
      exact ⟨error, by rw [identifierOf_eq_ok run, ok_bind, escapes,
        error_bind]⟩
    · rcases identifierOf_escapes run with ⟨error, escapes⟩
      exact ⟨error, by rw [escapes, error_bind]⟩
  · rcases identifierOf_escapes item with ⟨error, escapes⟩
    exact ⟨error, by rw [intentClaim, escapes, error_bind, error_bind]⟩

/-! ## The writer's checks -/

omit [CasefoldRuntime] in
theorem requirePositive_eq_ok {value : Int} {subject : String} :
    requirePositive value subject = .ok () ↔ IsRevision value := by
  simp [requirePositive, require_eq_ok, IsRevision]

theorem validateWorkEvent_eq_ok {request : EventAppendRequest}
    {workItemId : WorkItemId} {eventKind : Text}
    {event : PendingExecutionEvent} :
    validateWorkEvent request workItemId eventKind = .ok event ↔
      IsRevision request.expectedCounterRowVersion ∧
        request.event.eventKind = eventKind ∧
        request.event.subject = .workItem workItemId ∧
        request.event = event := by
  simp [validateWorkEvent, check_bind_eq_ok, requirePositive_eq_ok,
    require_eq_ok]

theorem validateCompletionCommand_eq_ok {command : CommitCommand}
    {eventKind : Text} (kind : completionEventKind command = .ok eventKind) :
    validateCompletionCommand command = .ok () ↔
      IsRevision command.base.expectedNodeRowVersion ∧
      IsRevision command.base.expectedRunRowVersion ∧
      validateCompletionTarget command.base.completion = .ok () ∧
      requireOptionalText command.base.completion.redactedDetail
        "completion detail" = .ok () ∧
      IsRevision command.base.event.expectedCounterRowVersion ∧
      command.base.event.event.eventKind = eventKind ∧
      command.base.event.event.subject =
        .workItem command.base.claim.workItemId ∧
      command.base.event.event.occurredAt =
        command.base.completion.finishedAt ∧
      command.base.event.event.payloadSchemaVersion =
        workResultEventPayloadSchemaVersion ∧
      command.base.event.event.payload.toMapping =
        (JsonValue.object (expectedPayload command)).sortKeys := by
  simp only [validateCompletionCommand, kind, ok_bind, bind_eq_ok,
    validateWorkEvent_eq_ok, require_eq_ok, beq_iff_eq]
  constructor
  · rintro ⟨_, node, _, run, _, target, _, detail, event,
      ⟨counter, kind, subject, rfl⟩, _, instant, _, schema, payload⟩
    exact ⟨requirePositive_eq_ok.mp node, requirePositive_eq_ok.mp run, target,
      detail, counter, kind, subject, instant, schema, payload⟩
  · rintro ⟨node, run, target, detail, counter, kind, subject, instant, schema,
      payload⟩
    exact ⟨(), requirePositive_eq_ok.mpr node, (),
      requirePositive_eq_ok.mpr run, (), target, (), detail, _,
      ⟨counter, kind, subject, rfl⟩, (), instant, (), schema, payload⟩

omit [CasefoldRuntime] in
/-- The detail of a result is short enough for the writer. -/
theorem requireOptionalText_detail (result : WorkResultV1) (subject : String) :
    requireOptionalText result.failureDetail subject = .ok () := by
  have valid := result.valid
  simp only [validateWorkResult, check_bind_eq_ok] at valid
  rcases valid with ⟨_, _, _, _, _, _, _, _, _, _, _, _, detail⟩
  cases found : result.failureDetail with
  | none => rfl
  | some value =>
      rw [found] at detail
      simp only [validateFailureDetail, validateContractText, check_bind_eq_ok,
        require_eq_ok] at detail
      have same : maxFailureDetailLength = 512 := rfl
      simpa [requireOptionalText, require_eq_ok, same] using detail.1.1

theorem validateCompletionTarget_of_fits {times : IntentTimes}
    (classified : ClassificationFits intent)
    (retry : times.retryAvailableAt = intentRetry intent)
    (metrics : List (Text × Int)) :
    validateCompletionTarget (intentCompletion intent times
      intent.failureClassification metrics) = .ok () := by
  simp only [validateCompletionTarget, intentCompletion, retry, intentRetry,
    targetState_eq_succeeded, targetState_eq_retryWait]
  by_cases succeeded : intent.outcome = .succeeded
  · simp [succeeded, classified.mp succeeded]
  · have classification : intent.failureClassification.isSome = true := by
      rw [Option.isSome_iff_ne_none]
      exact fun none => succeeded (classified.mpr none)
    by_cases retried : intent.outcome = .retryWait
    · simp [retried, classification]
    · simp [succeeded, retried, classification]

/-- The writer asks no more of a fitting command than its revisions. -/
theorem validateCompletionCommand_iff {correlationId : Option Text}
    {named : Named intent} {metrics : List (Text × Int)}
    {payload : RedactedDocument} {command : CommitCommand}
    (classified : ClassificationFits intent)
    (base : command.base =
      fittingAttempt correlationId intent named metrics payload)
    (kind : completionEventKind command =
      .ok (namedEvent correlationId intent named.1 payload).event.eventKind)
    (mapping : payload.toMapping =
      (JsonValue.object (namedPayload intent named.1)).sortKeys)
    (same : expectedPayload command = namedPayload intent named.1) :
    validateCompletionCommand command = .ok () ↔ Revised intent := by
  have target : validateCompletionTarget command.base.completion = .ok () := by
    rw [base]
    exact validateCompletionTarget_of_fits classified rfl metrics
  have detail : requireOptionalText command.base.completion.redactedDetail
      "completion detail" = .ok () := by
    rw [base]
    exact requireOptionalText_detail intent.result _
  rw [validateCompletionCommand_eq_ok kind, same]
  constructor
  · rintro ⟨node, run, _, _, counter, _⟩
    rw [base] at node run counter
    exact ⟨node, run, counter⟩
  · rintro ⟨node, run, counter⟩
    rw [base] at target detail ⊢
    exact ⟨node, run, target, detail, counter, rfl, rfl, rfl, rfl, mapping⟩

/-! ## What an intent compiles to -/

/-- The command that an intent without a checkpoint compiles to. -/
def attemptCommand (correlationId : Option Text) (intent : CommitIntent)
    (named : Named intent) (metrics : List (Text × Int))
    (payload : RedactedDocument) : CommitCommand :=
  .attempt (fittingAttempt correlationId intent named metrics payload)

/-- The command that an intent with a checkpoint compiles to. -/
def checkpointCommand (correlationId : Option Text) (intent : CommitIntent)
    (named : Named intent) (metrics : List (Text × Int))
    (payload : RedactedDocument) (checkpoint : CheckpointWrite) :
    CommitCommand :=
  .withCheckpoint {
    fittingAttempt correlationId intent named metrics payload with checkpoint }

/-- What the command has to take over from the intent. -/
structure CommitCommand.Carries (command : CommitCommand)
    (intent : CommitIntent) : Prop where
  runId : command.base.runId.value = intent.runId
  nodeId : command.base.nodeId.value = intent.nodeId
  workItemId : command.base.claim.workItemId.value = intent.workItemId
  attemptNumber :
    command.base.claim.attemptNumber.number = intent.attemptNumber
  leaseFence : command.base.claim.rowVersion = intent.leaseFence
  leaseOwner : command.base.claim.leaseOwner = intent.leaseOwner
  runRevision :
    command.base.expectedRunRowVersion = intent.expectedRunRowVersion
  nodeRevision :
    command.base.expectedNodeRowVersion = intent.expectedNodeRowVersion
  sequence : command.base.event.expectedNextSequence = intent.nextEventSequence
  counterRevision : command.base.event.expectedCounterRowVersion =
    intent.eventCounterRowVersion
  outcome : command.base.completion.targetState = intent.outcome.targetState
  retry : command.base.completion.retryAvailableAt = intentRetry intent
  metrics : command.base.metrics = {
    recordsRead := reported intent.result.metrics (text "records_read")
    recordsWritten := reported intent.result.metrics (text "records_written")
    recordsQuarantined :=
      reported intent.result.metrics (text "records_quarantined")
    bytesRead := reported intent.result.metrics (text "bytes_read")
    bytesWritten := reported intent.result.metrics (text "bytes_written") }
  proposal : command.checkpoint?.isSome = intent.checkpointProposed
  checkpoint : ∀ checkpoint, command.checkpoint? = some checkpoint →
    checkpoint.expectedPartitionKey.value = intent.partitionKey ∧
      checkpoint.artifactId.map Identifier.value = intent.artifactIds.head?

theorem carries_of_base {correlationId : Option Text} {named : Named intent}
    {metrics : List (Text × Int)} {payload : RedactedDocument}
    {command : CommitCommand}
    (base : command.base =
      fittingAttempt correlationId intent named metrics payload)
    (values : ∀ name, text name ∈ metricNames →
      metricValue metrics name = reported intent.result.metrics (text name))
    (proposal : command.checkpoint?.isSome = intent.checkpointProposed)
    (checkpoint : ∀ checkpoint, command.checkpoint? = some checkpoint →
      checkpoint.expectedPartitionKey.value = intent.partitionKey ∧
        checkpoint.artifactId.map Identifier.value =
          intent.artifactIds.head?) :
    command.Carries intent := by
  have delta : metricDelta metrics = {
      recordsRead := reported intent.result.metrics (text "records_read")
      recordsWritten := reported intent.result.metrics (text "records_written")
      recordsQuarantined :=
        reported intent.result.metrics (text "records_quarantined")
      bytesRead := reported intent.result.metrics (text "bytes_read")
      bytesWritten := reported intent.result.metrics (text "bytes_written") } := by
    rw [metricDelta, values _ (by decide), values _ (by decide),
      values _ (by decide), values _ (by decide), values _ (by decide)]
  constructor
  case metrics => rw [base]; exact delta
  case proposal => exact proposal
  case checkpoint => exact checkpoint
  all_goals rw [base]; rfl

/-- The adapter accepts what carries the checkpoint proposal. -/
theorem validateAgainstIntent_of_carries {command : CommitCommand}
    {correlationId : Option Text} {named : Named intent}
    {metrics : List (Text × Int)} {payload : RedactedDocument}
    (base : command.base =
      fittingAttempt correlationId intent named metrics payload)
    (carries : command.Carries intent) :
    validateAgainstIntent command intent = .ok () := by
  have facts : command.matchesFacts intent = true := by
    have proposal := carries.proposal
    simp only [CommitCommand.matchesFacts, base, proposal]
    simp [fittingAttempt, namedClaim, namedEvent, intentCompletion,
      fittingTimes]
  rw [validateAgainstIntent, require_eq_ok, Bool.and_eq_true]
  refine ⟨facts, ?_⟩
  cases found : command.checkpoint? with
  | none => rfl
  | some checkpoint =>
      rcases carries.checkpoint checkpoint found with ⟨partition, artifact⟩
      simp only [CheckpointWrite.matchesIntent, partition, beq_self_eq_true,
        Bool.true_and]
      cases made : checkpoint.artifactId with
      | none => rfl
      | some artifactId =>
          rw [made] at artifact
          exact List.contains_iff_mem.mpr (List.mem_of_head? artifact.symm)

/-- The factory rejects the intent, or both checks accept its command. -/
def Settled (correlationId : Option Text) (intent : CommitIntent) : Prop :=
  (∃ message,
    buildCommitCommand correlationId intent = .error (.rejection message)) ∨
  ∃ command, buildCommitCommand correlationId intent = .ok command ∧
    validateAgainstIntent command intent = .ok () ∧
    validateCompletionCommand command = .ok () ∧
    command.Carries intent

theorem not_settled_of_escape {correlationId : Option Text}
    {error : PythonError}
    (escapes : buildCommitCommand correlationId intent =
      .error (.escaped error)) :
    ¬Settled correlationId intent := by
  rintro (⟨message, rejected⟩ | ⟨command, built, _⟩)
  · rw [escapes] at rejected
    cases rejected
  · rw [escapes] at built
    cases built

theorem settled_iff_of_built {correlationId : Option Text}
    {command : CommitCommand}
    (built : buildCommitCommand correlationId intent = .ok command) :
    Settled correlationId intent ↔
      validateAgainstIntent command intent = .ok () ∧
      validateCompletionCommand command = .ok () ∧
      command.Carries intent := by
  constructor
  · rintro (⟨message, rejected⟩ | ⟨other, same, settled⟩)
    · rw [built] at rejected
      cases rejected
    · rw [built] at same
      cases same
      exact settled
  · exact fun settled => .inr ⟨command, built, settled⟩

section Unsuccessful

variable {correlationId : Option Text} {named : Named intent}
  {metrics : List (Text × Int)} {payload : RedactedDocument}

omit [CasefoldRuntime] in
theorem not_proposesCheckpoint (unsuccessful : intent.outcome ≠ .succeeded) :
    intent.proposesCheckpoint = false := by
  have target : (intent.outcome.targetState == .succeeded) = false := by
    rw [beq_eq_false_iff_ne]
    exact fun same => unsuccessful (targetState_eq_succeeded.mp same)
  rw [CommitIntent.proposesCheckpoint, target, Bool.false_and]

theorem wrapCommand_attempt (unsuccessful : intent.outcome ≠ .succeeded) :
    wrapCommand intent (fittingTimes intent)
        (fittingAttempt correlationId intent named metrics payload) =
      .ok (attemptCommand correlationId intent named metrics payload) := by
  rw [wrapCommand, if_neg fun same =>
    unsuccessful (targetState_eq_succeeded.mp same)]
  rfl

theorem completionEventKind_attempt
    (unsuccessful : intent.outcome ≠ .succeeded) :
    completionEventKind
        (attemptCommand correlationId intent named metrics payload) =
      .ok (namedEvent correlationId intent named.1 payload).event.eventKind := by
  have target : (intent.outcome.targetState != .succeeded) = true := by
    rw [bne_iff_ne]
    exact fun same => unsuccessful (targetState_eq_succeeded.mp same)
  rw [namedEvent, not_proposesCheckpoint unsuccessful]
  show require (intent.outcome.targetState != .succeeded) _ >>= _ = _
  rw [target, require_true, ok_bind]
  rfl

theorem expectedPayload_attempt (unsuccessful : intent.outcome ≠ .succeeded) :
    expectedPayload (attemptCommand correlationId intent named metrics payload) =
      namedPayload intent named.1 := by
  rw [namedPayload, intentPayload, not_proposesCheckpoint unsuccessful]
  rfl

theorem attemptCommand_carries
    (values : ∀ name, text name ∈ metricNames →
      metricValue metrics name = reported intent.result.metrics (text name))
    (unproposed : intent.checkpointProposed = false) :
    (attemptCommand correlationId intent named metrics payload).Carries
      intent := by
  have base : (attemptCommand correlationId intent named metrics payload).base =
      fittingAttempt correlationId intent named metrics payload := rfl
  refine carries_of_base base values unproposed.symm ?_
  intro checkpoint impossible
  cases impossible

end Unsuccessful

section Successful

variable {correlationId : Option Text} {named : Named intent}
  {metrics : List (Text × Int)} {payload : RedactedDocument}
  {checkpoint : CheckpointWrite}

omit [CasefoldRuntime] in
theorem proposesCheckpoint_eq (succeeded : intent.outcome = .succeeded) :
    intent.proposesCheckpoint = intent.checkpointProposed := by
  rw [CommitIntent.proposesCheckpoint, succeeded]
  rfl

theorem wrapCommand_succeeded (succeeded : intent.outcome = .succeeded)
    (proposed : intent.checkpointProposed = true)
    (base : CommitWorkAttempt) :
    wrapCommand intent (fittingTimes intent) base =
      intentCheckpoint intent (fittingTimes intent) >>= fun checkpoint =>
        .ok (.withCheckpoint { base with checkpoint }) := by
  rw [wrapCommand, if_pos (targetState_eq_succeeded.mpr succeeded),
    proposesCheckpoint_eq succeeded, proposed, require_true, ok_bind]

theorem completionEventKind_checkpoint (succeeded : intent.outcome = .succeeded)
    (proposed : intent.checkpointProposed = true)
    (schema : checkpoint.payloadSchemaVersion =
      checkpointPayloadSchemaVersion) :
    completionEventKind (checkpointCommand correlationId intent named metrics
        payload checkpoint) =
      .ok (namedEvent correlationId intent named.1 payload).event.eventKind := by
  have positive : requirePositive checkpoint.payloadSchemaVersion
      "checkpoint schema version" = .ok () := by
    rw [schema]
    rfl
  rw [namedEvent, proposesCheckpoint_eq succeeded, proposed]
  show require (intent.outcome.targetState == .succeeded) _ >>= (fun _ =>
    requirePositive checkpoint.payloadSchemaVersion _ >>= _) = _
  rw [succeeded, positive]
  rfl

theorem expectedPayload_checkpoint (succeeded : intent.outcome = .succeeded)
    (proposed : intent.checkpointProposed = true)
    (schema : checkpoint.payloadSchemaVersion = checkpointPayloadSchemaVersion)
    (partition :
      checkpoint.expectedPartitionKey.value = intent.partitionKey)
    (artifact : checkpoint.artifactId.map Identifier.value =
      intent.artifactIds.head?) :
    expectedPayload (checkpointCommand correlationId intent named metrics
        payload checkpoint) =
      namedPayload intent named.1 := by
  rw [namedPayload, intentPayload, proposesCheckpoint_eq succeeded, proposed,
    ← artifact, ← partition, ← schema]
  rfl

theorem checkpointCommand_carries {artifactId : Option (Identifier .artifact)}
    (values : ∀ name, text name ∈ metricNames →
      metricValue metrics name = reported intent.result.metrics (text name))
    (proposed : intent.checkpointProposed = true)
    (canonical : Domain.validateStableText .partitionKey intent.partitionKey =
      .ok ())
    (first : artifactId.map Identifier.value = intent.artifactIds.head?) :
    (checkpointCommand correlationId intent named metrics payload
      (fittingCheckpoint intent canonical artifactId)).Carries intent := by
  have base : (checkpointCommand correlationId intent named metrics payload
      (fittingCheckpoint intent canonical artifactId)).base =
        fittingAttempt correlationId intent named metrics payload := rfl
  refine carries_of_base base values proposed.symm ?_
  intro checkpoint found
  cases found
  exact ⟨rfl, first⟩

end Successful

section Settling

variable {correlationId : Option Text} {named : Named intent}
  {metrics : List (Text × Int)} {payload : RedactedDocument}
  (classified : ClassificationFits intent)
  (built : buildCommitCommand correlationId intent =
    wrapCommand intent (fittingTimes intent)
      (fittingAttempt correlationId intent named metrics payload))
  (values : ∀ name, text name ∈ metricNames →
    metricValue metrics name = reported intent.result.metrics (text name))
  (mapping : payload.toMapping =
    (JsonValue.object (namedPayload intent named.1)).sortKeys)

include classified built values mapping

/-- Without success, nothing may be proposed. -/
theorem settled_iff_attempt
    (unsuccessful : intent.outcome ≠ .succeeded) :
    Settled correlationId intent ↔
      intent.checkpointProposed = false ∧ Revised intent := by
  rw [wrapCommand_attempt unsuccessful] at built
  have base : (attemptCommand correlationId intent named metrics payload).base =
      fittingAttempt correlationId intent named metrics payload := rfl
  have checked : validateCompletionCommand
      (attemptCommand correlationId intent named metrics payload) = .ok () ↔
        Revised intent :=
    validateCompletionCommand_iff classified base
      (completionEventKind_attempt unsuccessful) mapping
      (expectedPayload_attempt unsuccessful)
  rw [settled_iff_of_built built]
  constructor
  · rintro ⟨_, accepted, carries⟩
    exact ⟨carries.proposal.symm, checked.mp accepted⟩
  · rintro ⟨unproposed, revised⟩
    have carries : (attemptCommand correlationId intent named metrics
        payload).Carries intent := attemptCommand_carries values unproposed
    exact ⟨validateAgainstIntent_of_carries base carries,
      checked.mpr revised, carries⟩

/-- A success has to propose a checkpoint that can be named. -/
theorem settled_iff_checkpoint
    (succeeded : intent.outcome = .succeeded) :
    Settled correlationId intent ↔
      (intent.checkpointProposed = true →
        CheckpointNamed intent ∧ Revised intent) := by
  by_cases proposed : intent.checkpointProposed = true
  · rw [wrapCommand_succeeded succeeded proposed] at built
    by_cases canonical : CheckpointNamed intent
    · rcases intentCheckpoint_of_named canonical with ⟨artifactId, made, first⟩
      rw [made, ok_bind] at built
      have base : (checkpointCommand correlationId intent named metrics payload
          (fittingCheckpoint intent canonical.1 artifactId)).base =
            fittingAttempt correlationId intent named metrics payload := rfl
      have checked : validateCompletionCommand (checkpointCommand correlationId
          intent named metrics payload
          (fittingCheckpoint intent canonical.1 artifactId)) = .ok () ↔
            Revised intent :=
        validateCompletionCommand_iff classified base
          (completionEventKind_checkpoint succeeded proposed rfl) mapping
          (expectedPayload_checkpoint succeeded proposed rfl rfl first)
      have carries : (checkpointCommand correlationId intent named metrics
          payload (fittingCheckpoint intent canonical.1 artifactId)).Carries
            intent := checkpointCommand_carries values proposed canonical.1 first
      rw [settled_iff_of_built built]
      constructor
      · exact fun settled _ => ⟨canonical, checked.mp settled.2.1⟩
      · intro followed
        exact ⟨validateAgainstIntent_of_carries base carries,
          checked.mpr (followed proposed).2, carries⟩
    · rcases intentCheckpoint_escapes (fittingTimes intent) canonical
        with ⟨error, escapes⟩
      rw [escapes, error_bind] at built
      constructor
      · exact fun settled => (not_settled_of_escape built settled).elim
      · exact fun followed => (canonical (followed proposed).1).elim
  · have unproposed := Bool.eq_false_iff.mpr proposed
    have rejected : buildCommitCommand correlationId intent =
        .error (.rejection
          "successful results must propose a durable checkpoint") := by
      rw [built, wrapCommand, if_pos (targetState_eq_succeeded.mpr succeeded),
        proposesCheckpoint_eq succeeded, unproposed, require_false, error_bind]
    constructor
    · exact fun _ impossible => (proposed impossible).elim
    · exact fun _ => .inl ⟨_, rejected⟩

end Settling

/-- The stages before the checkpoint end in one of three ways. -/
theorem buildCommitCommand_cases (correlationId : Option Text)
    (intent : CommitIntent) :
    ((∃ message,
        buildCommitCommand correlationId intent =
          .error (.rejection message)) ∧
      (¬ClassificationFits intent ∨ Datable intent ∧
        (¬(OrderFits intent ∧ LeaseFits intent) ∨
          ¬MetricsFit intent.result))) ∨
    ((∃ error,
        buildCommitCommand correlationId intent = .error (.escaped error)) ∧
      ClassificationFits intent ∧
        (¬Datable intent ∨ (OrderFits intent ∧ LeaseFits intent) ∧
          MetricsFit intent.result ∧ ¬Named intent)) ∨
    ((ClassificationFits intent ∧ Datable intent ∧
        (OrderFits intent ∧ LeaseFits intent) ∧ MetricsFit intent.result) ∧
      ∃ named metrics payload,
        buildCommitCommand correlationId intent =
          wrapCommand intent (fittingTimes intent)
            (fittingAttempt correlationId intent named metrics payload) ∧
        (∀ name, text name ∈ metricNames →
          metricValue metrics name =
            reported intent.result.metrics (text name)) ∧
        payload.toMapping =
          (JsonValue.object (namedPayload intent named.1)).sortKeys) := by
  by_cases classified : ClassificationFits intent
  swap
  · rcases requireClassification_rejects classified with ⟨message, rejects⟩
    refine .inl ⟨⟨message, ?_⟩, .inl classified⟩
    rw [buildCommitCommand, rejects, error_bind]
  by_cases datable : Datable intent
  swap
  · refine .inr (.inl ⟨⟨.overflowError, ?_⟩, classified, .inl datable⟩)
    rw [buildCommitCommand, requireClassification_of_fits classified,
      ok_bind, intentTimes_escapes datable, error_bind]
  by_cases timely : OrderFits intent ∧ LeaseFits intent
  swap
  · rcases intentTimes_rejects datable timely with ⟨message, rejects⟩
    refine .inl ⟨⟨message, ?_⟩, .inr ⟨datable, .inl timely⟩⟩
    rw [buildCommitCommand, requireClassification_of_fits classified,
      ok_bind, rejects, error_bind]
  by_cases fits : MetricsFit intent.result
  swap
  · rcases metricMap_rejects fits with ⟨message, rejects⟩
    refine .inl ⟨⟨message, ?_⟩, .inr ⟨datable, .inr fits⟩⟩
    rw [buildCommitCommand, requireClassification_of_fits classified,
      ok_bind, intentTimes_of_fits datable timely.1 timely.2, ok_bind,
      rejects, error_bind]
  by_cases named : Named intent
  swap
  · have escapes := build_escapes_of_unnamed correlationId classified datable
      timely.1 timely.2 fits named
    exact .inr (.inl ⟨escapes, classified, .inr ⟨timely, fits, named⟩⟩)
  have wrapped := build_eq_wrapCommand correlationId classified datable
    timely.1 timely.2 fits named
  exact .inr (.inr ⟨⟨classified, datable, timely, fits⟩, named, wrapped⟩)

/-- What an intent has to satisfy to be rejected or carried out. -/
def Compiles (intent : CommitIntent) : Prop :=
  ¬ClassificationFits intent ∨
    (Datable intent ∧
      (¬(OrderFits intent ∧ LeaseFits intent) ∨ ¬MetricsFit intent.result ∨
        (Named intent ∧ Followed intent)))

/--
An intent that is misclassified, out of order or reports unknown metrics is
rejected; any other one needs canonical names, revisions of the store and a
checkpoint proposal that suits its outcome.
-/
theorem settled_iff_compiles (correlationId : Option Text)
    (intent : CommitIntent) :
    Settled correlationId intent ↔ Compiles intent := by
  unfold Compiles
  rcases buildCommitCommand_cases correlationId intent with
    ⟨⟨message, rejected⟩, unfit⟩ | ⟨⟨error, escapes⟩, classified, unfit⟩ |
      ⟨⟨classified, datable, timely, fits⟩, named, metrics, payload, built,
        values, mapping⟩
  · have settled : Settled correlationId intent := .inl ⟨message, rejected⟩
    refine iff_of_true settled ?_
    rcases unfit with unfit | ⟨datable, untimely | unfit⟩
    · exact .inl unfit
    · exact .inr ⟨datable, .inl untimely⟩
    · exact .inr ⟨datable, .inr (.inl unfit)⟩
  · refine iff_of_false (not_settled_of_escape escapes) ?_
    rintro (misclassified | ⟨datable, untimely | unknown | ⟨named, _⟩⟩)
    · exact misclassified classified
    · rcases unfit with late | ⟨timely, _, _⟩
      · exact late datable
      · exact untimely timely
    · rcases unfit with late | ⟨_, fits, _⟩
      · exact late datable
      · exact unknown fits
    · rcases unfit with late | ⟨_, _, unnamed⟩
      · exact late datable
      · exact unnamed named
  · have followed : Settled correlationId intent ↔ Followed intent := by
      unfold Followed
      split
      next succeeded =>
        exact settled_iff_checkpoint classified built values mapping succeeded
      next unsuccessful =>
        exact settled_iff_attempt classified built values mapping unsuccessful
    rw [followed]
    constructor
    · exact fun follows => .inr ⟨datable, .inr (.inr ⟨named, follows⟩)⟩
    · rintro (unfit | ⟨_, untimely | unfit | ⟨_, follows⟩⟩)
      · exact (unfit classified).elim
      · exact (untimely timely).elim
      · exact (unfit fits).elim
      · exact follows

theorem not_settled_of_refused {correlationId : Option Text}
    {command : CommitCommand}
    (built : buildCommitCommand correlationId intent = .ok command)
    (refused : validateAgainstIntent command intent ≠ .ok ()) :
    ¬Settled correlationId intent :=
  fun settled => refused ((settled_iff_of_built built).mp settled).1

end Command

/-! ## A run that was never written -/

section Samples

def sampleIdentity : WorkIdentity where
  runId := text "run_first"
  nodeId := text "nod_extract"
  partitionKey := text "page-1"
  valid := by decide

def sampleWorkResult : WorkResultV1 where
  protocol := workResultProtocol
  contractVersion := 1
  planFingerprint := List.replicate 64 (point 'a')
  runId := text "run_first"
  nodeId := text "nod_extract"
  partitionKey := text "page-1"
  workItemId := text "wrk_one"
  attemptNumber := 1
  leaseFence := 2
  leaseOwner := text "engine"
  controlGeneration := ⟨1, firstGeneration_bounds⟩
  outcome := .succeeded
  metrics := [⟨text "records_read", 3, by decide +kernel⟩]
  artifactReferences := [text "art_output"]
  checkpointProposal := true
  failureDetail := none
  cleanup := ⟨.completed, [], none, by decide +kernel⟩
  valid := by decide +kernel

def sampleRegistration : RegisteredAssignment where
  identity := sampleIdentity
  workItemId := text "wrk_one"
  attemptNumber := 1
  leaseFence := 2
  leaseOwner := text "engine"
  controlGeneration := 1
  deadlineMicros := 9000
  allowedArtifactIds := [text "art_output"]
  valid := by decide +kernel

/-- Evidence seen at the given time. -/
def evidenceAt (observedAtMicros : Int) : RebasedFields where
  runId := text "run_first"
  runRowVersion := 1
  nodeId := text "nod_extract"
  nodeRowVersion := 1
  workItemId := text "wrk_one"
  attemptNumber := 1
  leaseFence := 2
  leaseOwner := text "engine"
  nextEventSequence := 1
  eventCounterRowVersion := 1
  attemptState := .running
  observedAtMicros := observedAtMicros
  expiresAtMicros := 5000
  runnerKind := text "threaded"
  workerIdentity := text "worker-1"
  startedAtMicros := 1000

def sampleCoordinator : ResultCoordinator where
  runId := text "run_first"
  planFingerprint := List.replicate 64 (point 'a')

def sampleResultSubmission : ResultSubmission where
  result := sampleWorkResult
  retryEligibleAtMicros := 0
  failureClassification := none

/-- A failed result that proposes a checkpoint. -/
def failedSubmission : ResultSubmission where
  result := { sampleWorkResult with
    outcome := .failed
    valid := by decide +kernel }
  retryEligibleAtMicros := 0
  failureClassification := some .http4xx

def shownRun : RebasedFrontier where
  toRebasedFields := evidenceAt 2000
  valid := by decide +kernel

/--
The coordinator admits the result and builds an intent with its proposal, the
factory builds a command without a checkpoint, and the adapter refuses it.
-/
theorem failed_proposal_not_settled :
    letI : CasefoldRuntime := asciiCasefoldRuntime
    sampleCoordinator.preAdmissionChecks failedSubmission.result
        (some sampleRegistration) = .ok sampleRegistration ∧
      ∃ intent, sampleCoordinator.rebaseIntent sampleRegistration
          failedSubmission shownRun = .ok intent ∧
        ¬Settled none intent := by
  let : CasefoldRuntime := asciiCasefoldRuntime
  refine ⟨by decide +kernel, ?_⟩
  have rebased : Returns (sampleCoordinator.rebaseIntent sampleRegistration
      failedSubmission shownRun) :=
    returns_of_isSome (by decide +kernel)
  rcases rebased with ⟨intent, rebased⟩
  refine ⟨intent, rebased, ?_⟩
  have refused : ((sampleCoordinator.rebaseIntent sampleRegistration
      failedSubmission shownRun).toOption.bind fun intent =>
        (buildCommitCommand none intent).toOption.map fun command =>
          (validateAgainstIntent command intent).toOption) = some none := by
    decide +kernel
  rw [rebased] at refused
  cases built : buildCommitCommand none intent with
  | error error =>
      simp [Except.toOption, built] at refused
  | ok command =>
      simp only [Except.toOption, built, Option.bind_some, Option.map_some,
        Option.some.injEq] at refused
      refine not_settled_of_refused built fun accepted => ?_
      rw [accepted] at refused
      cases refused

end Samples

end ParityGrid.Application
