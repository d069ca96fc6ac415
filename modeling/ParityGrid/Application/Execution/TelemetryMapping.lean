import ParityGrid.Application.Execution.Telemetry

/-!
# Telemetry as plain mappings

The decoders check every key and every exact type again, and rebuild the
record through its own checks.
-/

namespace ParityGrid.Application

open ParityGrid.Foundation

/-! ## Encoding -/

def labelRow (label : Text × Text) : PlainValue :=
  .list [.text label.1, .text label.2]

/-- `TelemetryMetric.to_mapping`. -/
def TelemetryMetric.toMapping (metric : TelemetryMetric) :
    List (PlainKey × PlainValue) :=
  [(.text (text "name"), .text metric.name),
    (.text (text "kind"), .text metric.kind.value),
    (.text (text "value"), .int metric.value),
    (.text (text "labels"), .list (metric.labels.map labelRow))]

/-- `TelemetryRecord.to_mapping`. -/
def TelemetryRecord.toMapping (record : TelemetryRecord) :
    List (PlainKey × PlainValue) :=
  [(.text (text "schema_version"), .int record.schemaVersion),
    (.text (text "observed_at_micros"), .int record.observedAtMicros),
    (.text (text "run_id"), .text record.runId),
    (.text (text "metrics"),
      .list (record.metrics.map fun metric => .mapping metric.toMapping))]

/-- `_METRIC_MAPPING_KEYS`. -/
def metricMappingKeys : List Text :=
  ["name", "kind", "value", "labels"].map text

/-- `_RECORD_MAPPING_KEYS`. -/
def recordMappingKeys : List Text :=
  ["schema_version", "observed_at_micros", "run_id", "metrics"].map text

/-! ## Decoding -/

/-- As many keys as there are names, and every name among them. -/
def requireKeys (items : List (PlainKey × PlainValue)) (names : List Text)
    (message : String) : Except TelemetryFailure Unit :=
  require (items.length = names.length &&
    names.all fun name => .text name ∈ items.map Prod.fst)
    (.validation message)

namespace PlainValue

def telemetryText (value : PlainValue) (message : String) :
    Except TelemetryFailure Text :=
  match value with
  | .text contents => .ok contents
  | _ => .error (.validation message)

def telemetryInt (value : PlainValue) (message : String) :
    Except TelemetryFailure Int :=
  match value with
  | .int number => .ok number
  | _ => .error (.validation message)

def telemetryList (value : PlainValue) (message : String) :
    Except TelemetryFailure (List PlainValue) :=
  match value with
  | .list items => .ok items
  | _ => .error (.validation message)

def telemetryMapping (value : PlainValue) (message : String) :
    Except TelemetryFailure (List (PlainKey × PlainValue)) :=
  match value with
  | .mapping items => .ok items
  | _ => .error (.validation message)

/-- One pair of the labels. -/
def telemetryLabel (value : PlainValue) :
    Except TelemetryFailure (Text × Text) :=
  match value with
  | .list [.text key, .text contents] => .ok (key, contents)
  | .list [_, _] =>
      .error (.validation "telemetry metric label pairs must be text")
  | _ =>
      .error (.validation "telemetry metric labels must be key-value pairs")

end PlainValue

/-- The metric kind of a text, with the message of its caller. -/
def requireKind (value : Text) (message : String) :
    Except TelemetryFailure TelemetryMetricKind :=
  match TelemetryMetricKind.parse value with
  | some kind => .ok kind
  | none => .error (.validation message)

/-- `TelemetryMetric.from_mapping`. -/
def TelemetryMetric.fromMapping (data : PlainValue) :
    Except TelemetryFailure TelemetryMetric := do
  let fields ← data.telemetryMapping "telemetry metric entry must be a mapping"
  requireKeys fields metricMappingKeys
    "telemetry metric keys are missing or unknown"
  let name ← (mappingValue fields "name").telemetryText
    "telemetry metric name must be text"
  let rawKind ← (mappingValue fields "kind").telemetryText
    "telemetry metric kind must be text"
  let kind ← requireKind rawKind "telemetry metric kind is unknown"
  let value ← (mappingValue fields "value").telemetryInt
    "telemetry metric value must be an integer"
  let rawLabels ← (mappingValue fields "labels").telemetryList
    "telemetry metric labels must be a list"
  let labels ← rawLabels.mapM PlainValue.telemetryLabel
  TelemetryMetric.create name kind value labels

/-- `_validate_run_id`. -/
def validateRunId (value : PlainValue) : Except TelemetryFailure Text := do
  let runId ← value.telemetryText "telemetry run identity must be text"
  requireRunId runId
  return runId

/-- `TelemetryRecord.from_mapping`. -/
def TelemetryRecord.fromMapping (data : PlainValue) :
    Except TelemetryFailure TelemetryRecord := do
  let fields ← data.telemetryMapping
    "telemetry record payload must be a mapping"
  requireKeys fields recordMappingKeys
    "telemetry record keys are missing or unknown"
  let schemaVersion ← (mappingValue fields "schema_version").telemetryInt
    "telemetry schema version must be an integer"
  require (schemaVersion == telemetrySchemaVersion)
    (.schema "telemetry record uses an unknown schema version")
  let observedAtMicros ←
    (mappingValue fields "observed_at_micros").telemetryInt
      "telemetry observation time must be an integer"
  let rawMetrics ← (mappingValue fields "metrics").telemetryList
    "telemetry record metrics must be a list"
  let metrics ← rawMetrics.mapM TelemetryMetric.fromMapping
  let runId ← validateRunId (mappingValue fields "run_id")
  TelemetryRecord.create schemaVersion observedAtMicros runId metrics

/-! ## What the decoders accept -/

namespace PlainValue

variable {value : PlainValue} {message : String}

theorem telemetryText_eq_ok {contents : Text} :
    value.telemetryText message = .ok contents ↔ value = .text contents := by
  cases value <;> simp [telemetryText]

theorem telemetryInt_eq_ok {number : Int} :
    value.telemetryInt message = .ok number ↔ value = .int number := by
  cases value <;> simp [telemetryInt]

theorem telemetryList_eq_ok {items : List PlainValue} :
    value.telemetryList message = .ok items ↔ value = .list items := by
  cases value <;> simp [telemetryList]

theorem telemetryMapping_eq_ok {items : List (PlainKey × PlainValue)} :
    value.telemetryMapping message = .ok items ↔ value = .mapping items := by
  cases value <;> simp [telemetryMapping]

theorem telemetryLabel_eq_ok {label : Text × Text} :
    value.telemetryLabel = .ok label ↔ value = labelRow label := by
  unfold telemetryLabel
  split
  · constructor
    · rintro ⟨⟩
      rfl
    · intro same
      cases same
      rfl
  · rename_i apart
    refine ⟨fun accepted => (nomatch accepted), fun same => ?_⟩
    cases same
    exact (apart _ _ rfl rfl).elim
  · rename_i apart
    refine ⟨fun accepted => (nomatch accepted), fun same => ?_⟩
    cases same
    exact absurd rfl (apart _ _)

end PlainValue

theorem requireKind_eq_ok {value : Text} {message : String}
    {kind : TelemetryMetricKind} :
    requireKind value message = .ok kind ↔ value = kind.value := by
  rw [← TelemetryMetricKind.parse_eq_some, requireKind]
  cases TelemetryMetricKind.parse value <;> simp

theorem requireKeys_eq_ok {items : List (PlainKey × PlainValue)}
    {names : List Text} {message : String} {u : Unit} :
    requireKeys items names message = .ok u ↔
      items.length = names.length ∧
        ∀ name ∈ names, .text name ∈ items.map Prod.fst := by
  simp only [requireKeys, require_eq_ok, Bool.and_eq_true, decide_eq_true_eq,
    List.all_eq_true]

theorem labels_eq_ok {rows : List PlainValue} {labels : List (Text × Text)} :
    rows.mapM PlainValue.telemetryLabel = .ok labels ↔
      rows = labels.map labelRow :=
  mapM_eq_ok_iff_map fun _ _ _ => PlainValue.telemetryLabel_eq_ok

namespace TelemetryMetric

theorem toMapping_nodup (metric : TelemetryMetric) :
    (metric.toMapping.map Prod.fst).Nodup := by
  simp only [toMapping, List.map_cons, List.map_nil]
  decide

theorem toMapping_keys (metric : TelemetryMetric) :
    metric.toMapping.map Prod.fst = metricMappingKeys.map .text := rfl

theorem mem_keys {metric : TelemetryMetric}
    {items : List (PlainKey × PlainValue)}
    (keys : ∀ name ∈ metricMappingKeys, .text name ∈ items.map Prod.fst) :
    ∀ key ∈ metric.toMapping.map Prod.fst, key ∈ items.map Prod.fst := by
  rw [toMapping_keys, List.forall_mem_map]
  exact keys

/-- What the decoder of a metric accepts is its mapping, in any order. -/
theorem fromMapping_equal {data : PlainValue} {metric : TelemetryMetric}
    (accepted : fromMapping data = .ok metric) :
    data.Equal (.mapping metric.toMapping) := by
  simp only [fromMapping, bind_eq_ok, PlainValue.telemetryMapping_eq_ok,
    requireKeys_eq_ok, PlainValue.telemetryText_eq_ok, requireKind_eq_ok,
    PlainValue.telemetryInt_eq_ok, PlainValue.telemetryList_eq_ok,
    labels_eq_ok, create_eq_ok, mappingValue] at accepted
  obtain ⟨items, rfl, _, ⟨length, keys⟩, _, name, _, kind, _, rfl, _, value, _,
    labels, _, rfl, rfl, rfl, rfl, rfl⟩ := accepted
  refine equal_of_keys metric.toMapping_nodup length (mem_keys keys) ?_
  simp only [toMapping, List.forall_mem_cons, name, kind, value, labels]
  refine ⟨.text _, .text _, .int _, ?_, by simp⟩
  refine .list (List.forall₂_same.mpr fun row member => ?_)
  obtain ⟨label, _, rfl⟩ := List.mem_map.mp member
  exact .list (.cons (.text _) (.cons (.text _) .nil))

/-- The mapping of a metric is read back. -/
theorem fromMapping_toMapping (metric : TelemetryMetric) :
    fromMapping (.mapping metric.toMapping) = .ok metric := by
  simp only [fromMapping, bind_eq_ok, PlainValue.telemetryMapping_eq_ok,
    requireKeys_eq_ok, PlainValue.telemetryText_eq_ok, requireKind_eq_ok,
    PlainValue.telemetryInt_eq_ok, PlainValue.telemetryList_eq_ok,
    labels_eq_ok, create_eq_ok]
  have keys : ∀ name ∈ metricMappingKeys,
      .text name ∈ metric.toMapping.map Prod.fst := by
    intro name member
    rw [toMapping_keys]
    exact List.mem_map_of_mem member
  exact ⟨_, rfl, (), ⟨rfl, keys⟩, _, rfl, _, rfl, _, rfl, _, rfl, _, rfl, _,
    rfl, rfl, rfl, rfl, rfl⟩

end TelemetryMetric

theorem validateRunId_eq_ok {value : PlainValue} {runId : Text} :
    validateRunId value = .ok runId ↔
      value = .text runId ∧ IsTelemetryRunId runId := by
  simp only [validateRunId, bind_eq_ok, PlainValue.telemetryText_eq_ok,
    pure, Except.pure, Except.ok.injEq]
  constructor
  · rintro ⟨_, text_, ⟨⟩, passed, rfl⟩
    exact ⟨text_, requireRunId_eq_ok.mp passed⟩
  · rintro ⟨text_, valid⟩
    exact ⟨_, text_, (), requireRunId_eq_ok.mpr valid, rfl⟩

/-- The mappings of some metrics are read back in order. -/
theorem metrics_toMapping (metrics : List TelemetryMetric) :
    (metrics.map fun metric => PlainValue.mapping metric.toMapping).mapM
      TelemetryMetric.fromMapping = .ok metrics := by
  rw [mapM_eq_ok, List.map_map]
  exact List.map_congr_left fun metric _ => metric.fromMapping_toMapping

theorem metrics_equal {rows : List PlainValue}
    {metrics : List TelemetryMetric}
    (accepted : rows.mapM TelemetryMetric.fromMapping = .ok metrics) :
    List.Forall₂ PlainValue.Equal rows
      (metrics.map fun metric => .mapping metric.toMapping) := by
  rw [mapM_eq_ok] at accepted
  induction rows generalizing metrics with
  | nil =>
      have none_ : metrics = [] := by simpa using accepted.symm
      rw [none_]
      exact .nil
  | cons row rest ih =>
      cases metrics with
      | nil => cases accepted
      | cons metric others =>
          simp only [List.map_cons, List.cons.injEq] at accepted
          exact .cons (TelemetryMetric.fromMapping_equal accepted.1)
            (ih accepted.2)

namespace TelemetryRecord

theorem toMapping_nodup (record : TelemetryRecord) :
    (record.toMapping.map Prod.fst).Nodup := by
  simp only [toMapping, List.map_cons, List.map_nil]
  decide

theorem toMapping_keys (record : TelemetryRecord) :
    record.toMapping.map Prod.fst = recordMappingKeys.map .text := rfl

/-- What the decoder of a record accepts is its mapping, in any order. -/
theorem fromMapping_equal {data : PlainValue} {record : TelemetryRecord}
    (accepted : fromMapping data = .ok record) :
    data.Equal (.mapping record.toMapping) := by
  simp only [fromMapping, bind_eq_ok, PlainValue.telemetryMapping_eq_ok,
    requireKeys_eq_ok, PlainValue.telemetryInt_eq_ok,
    PlainValue.telemetryList_eq_ok, validateRunId_eq_ok, create_eq_ok,
    mappingValue] at accepted
  obtain ⟨items, rfl, _, ⟨length, keys⟩, _, version, _, _, _, observed, _,
    rows, _, metrics, _, ⟨run, _⟩, rfl, rfl, rfl, rfl⟩ := accepted
  have expected : ∀ key ∈ record.toMapping.map Prod.fst,
      key ∈ items.map Prod.fst := by
    rw [toMapping_keys, List.forall_mem_map]
    exact keys
  refine equal_of_keys record.toMapping_nodup length expected ?_
  simp only [toMapping, List.forall_mem_cons, version, observed, rows, run]
  exact ⟨.int _, .int _, .text _, .list (metrics_equal metrics), by simp⟩

/-- The mapping of a record is read back. -/
theorem fromMapping_toMapping (record : TelemetryRecord) :
    fromMapping (.mapping record.toMapping) = .ok record := by
  simp only [fromMapping, bind_eq_ok, PlainValue.telemetryMapping_eq_ok,
    requireKeys_eq_ok, PlainValue.telemetryInt_eq_ok, require_eq_ok,
    PlainValue.telemetryList_eq_ok, validateRunId_eq_ok, create_eq_ok]
  have keys : ∀ name ∈ recordMappingKeys,
      .text name ∈ record.toMapping.map Prod.fst := by
    intro name member
    rw [toMapping_keys]
    exact List.mem_map_of_mem member
  exact ⟨_, rfl, (), ⟨rfl, keys⟩, _, rfl, (), beq_iff_eq.mpr record.valid.version,
    _, rfl, _, rfl, _, metrics_toMapping record.metrics, _,
    ⟨rfl, record.valid.run⟩, rfl, rfl, rfl, rfl⟩

end TelemetryRecord

/-! ## What the decoders raise -/

/-- Only telemetry errors are raised. -/
abbrev RaisesTelemetryErrors {α : Type} (x : Except TelemetryFailure α) :
    Prop :=
  RaisesOnly (fun failure => failure.isTelemetryError = true) x

theorem RaisesTelemetryErrors.map {α β : Type} {x : Except TelemetryFailure α}
    {f : α → β} (raises : RaisesTelemetryErrors x) :
    RaisesTelemetryErrors (x.map f) := by
  cases x with
  | error failure =>
      rintro raised ⟨⟩
      exact raises _ rfl
  | ok value => exact .ok _

theorem rejectSecretAndPathMarkers_raises (value : Text) (subject : String) :
    RaisesTelemetryErrors (rejectSecretAndPathMarkers value subject) :=
  .bind (.require rfl) fun _ _ => .bind (.require rfl) fun _ _ =>
    .bind (.require rfl) fun _ _ => .require rfl

theorem requireRunId_raises (runId : Text) :
    RaisesTelemetryErrors (requireRunId runId) :=
  .bind (.require rfl) fun _ _ => .bind (.require rfl) fun _ _ =>
    rejectSecretAndPathMarkers_raises runId _

theorem requireLabelPair_raises (labelKey value : Text) :
    RaisesTelemetryErrors (requireLabelPair labelKey value) :=
  .bind (.require rfl) fun _ _ => .bind (.require rfl) fun _ _ =>
    .bind (.require rfl) fun _ _ => .bind (.require rfl) fun _ _ =>
      rejectSecretAndPathMarkers_raises value _

theorem checkMetric_raises (name : Text) (value : Int)
    (labels : List (Text × Text)) :
    RaisesTelemetryErrors (checkMetric name value labels) :=
  .bind (.require rfl) fun _ _ => .bind (.require rfl) fun _ _ =>
    .bind (.require rfl) fun _ _ => .bind (.require rfl) fun _ _ =>
      .bind (.forM fun label _ => requireLabelPair_raises label.1 label.2)
        fun _ _ => .bind (.require rfl) fun _ _ => .require rfl

theorem checkRecord_raises (schemaVersion observedAtMicros : Int)
    (runId : Text) (metrics : List TelemetryMetric) :
    RaisesTelemetryErrors
      (checkRecord schemaVersion observedAtMicros runId metrics) :=
  .bind (.require rfl) fun _ _ => .bind (.require rfl) fun _ _ =>
    .bind (requireRunId_raises runId) fun _ _ => .require rfl

theorem TelemetryMetric.create_raises (name : Text)
    (kind : TelemetryMetricKind) (value : Int) (labels : List (Text × Text)) :
    RaisesTelemetryErrors (create name kind value labels) :=
  .map fun failure raised =>
    checkMetric_raises name value labels failure (certify_eq_error.mp raised)

theorem TelemetryRecord.create_raises (schemaVersion observedAtMicros : Int)
    (runId : Text) (metrics : List TelemetryMetric) :
    RaisesTelemetryErrors
      (create schemaVersion observedAtMicros runId metrics) :=
  .map fun failure raised =>
    checkRecord_raises schemaVersion observedAtMicros runId metrics failure
      (certify_eq_error.mp raised)

namespace PlainValue

variable (value : PlainValue) (message : String)

theorem telemetryText_raises :
    RaisesTelemetryErrors (value.telemetryText message) := by
  cases value with
  | text contents => exact .ok _
  | _ => exact .error rfl

theorem telemetryInt_raises :
    RaisesTelemetryErrors (value.telemetryInt message) := by
  cases value with
  | int number => exact .ok _
  | _ => exact .error rfl

theorem telemetryList_raises :
    RaisesTelemetryErrors (value.telemetryList message) := by
  cases value with
  | list items => exact .ok _
  | _ => exact .error rfl

theorem telemetryMapping_raises :
    RaisesTelemetryErrors (value.telemetryMapping message) := by
  cases value with
  | mapping items => exact .ok _
  | _ => exact .error rfl

theorem telemetryLabel_raises :
    RaisesTelemetryErrors value.telemetryLabel := by
  unfold telemetryLabel
  split
  · exact .ok _
  · exact .error rfl
  · exact .error rfl

end PlainValue

theorem requireKind_raises (value : Text) (message : String) :
    RaisesTelemetryErrors (requireKind value message) := by
  rw [requireKind]
  cases TelemetryMetricKind.parse value with
  | none => exact .error rfl
  | some kind => exact .ok kind

theorem TelemetryMetric.fromMapping_raises (data : PlainValue) :
    RaisesTelemetryErrors (fromMapping data) :=
  .bind (data.telemetryMapping_raises _) fun _ _ =>
    .bind (.require rfl) fun _ _ =>
    .bind (PlainValue.telemetryText_raises _ _) fun _ _ =>
    .bind (PlainValue.telemetryText_raises _ _) fun _ _ =>
    .bind (requireKind_raises _ _) fun _ _ =>
    .bind (PlainValue.telemetryInt_raises _ _) fun _ _ =>
    .bind (PlainValue.telemetryList_raises _ _) fun _ _ =>
    .bind (.mapM fun row _ => row.telemetryLabel_raises) fun _ _ =>
    create_raises _ _ _ _

theorem validateRunId_raises (value : PlainValue) :
    RaisesTelemetryErrors (validateRunId value) :=
  .bind (value.telemetryText_raises _) fun _ _ =>
    .bind (requireRunId_raises _) fun _ _ => .ok _

theorem TelemetryRecord.fromMapping_raises (data : PlainValue) :
    RaisesTelemetryErrors (fromMapping data) :=
  .bind (data.telemetryMapping_raises _) fun _ _ =>
    .bind (.require rfl) fun _ _ =>
    .bind (PlainValue.telemetryInt_raises _ _) fun _ _ =>
    .bind (.require rfl) fun _ _ =>
    .bind (PlainValue.telemetryInt_raises _ _) fun _ _ =>
    .bind (PlainValue.telemetryList_raises _ _) fun _ _ =>
    .bind (.mapM fun row _ => TelemetryMetric.fromMapping_raises row)
      fun _ _ =>
    .bind (validateRunId_raises _) fun _ _ => create_raises _ _ _ _

end ParityGrid.Application
