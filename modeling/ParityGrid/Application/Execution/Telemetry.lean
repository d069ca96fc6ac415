import ParityGrid.Application.Execution.PlainValues
import ParityGrid.Foundation.Escaping
import ParityGrid.Foundation.Numerals
import ParityGrid.Foundation.Sorting

/-!
# Telemetry records

A record is a bounded observation: a run, a time, and series with sorted
labels.  It is written as a plain mapping, and as lines of text whose series
escape the reserved characters of their label values.
-/

namespace ParityGrid.Application

open ParityGrid.Foundation

def telemetrySchemaVersion : Int := 1

def maxMetricNameLength : Nat := 64

def maxLabelCount : Nat := 8

def maxLabelLength : Nat := 64

def maxTelemetryValue : Int := 2147483647

def maxSeriesPerRecord : Nat := 16

def maxTelemetryRecordBytes : Nat := 4096

def maxLabelKeyLength : Nat := 32

def maxTelemetryRunIdLength : Nat := 128

inductive TelemetryFailure where
  /-- `TelemetryValidationError`. -/
  | validation (message : String)
  /-- `TelemetrySchemaError`. -/
  | schema (message : String)
  /-- `TelemetryRedactionError`. -/
  | redaction (message : String)
  /-- A `ValueError` of the interpreter. -/
  | valueError
deriving DecidableEq

/-- The classes below `TelemetryError`. -/
def TelemetryFailure.isTelemetryError : TelemetryFailure → Bool
  | .validation _ => true
  | .schema _ => true
  | .redaction _ => true
  | .valueError => false

/-- `TelemetryMetricKind`. -/
inductive TelemetryMetricKind where
  | queueDepth
  | activeCapacity
  | capacityWait
  | serviceDuration
  | blockedWriter
  | droppedTelemetry
  | cleanupState
  | unresolvedResources
deriving DecidableEq

def TelemetryMetricKind.value : TelemetryMetricKind → Text
  | .queueDepth => text "queue_depth"
  | .activeCapacity => text "active_capacity"
  | .capacityWait => text "capacity_wait"
  | .serviceDuration => text "service_duration"
  | .blockedWriter => text "blocked_writer"
  | .droppedTelemetry => text "dropped_telemetry"
  | .cleanupState => text "cleanup_state"
  | .unresolvedResources => text "unresolved_resources"

def telemetryMetricKinds : List TelemetryMetricKind :=
  [.queueDepth, .activeCapacity, .capacityWait, .serviceDuration,
    .blockedWriter, .droppedTelemetry, .cleanupState, .unresolvedResources]

/-- `TelemetryMetricKind(value)`. -/
def TelemetryMetricKind.parse (value : Text) : Option TelemetryMetricKind :=
  telemetryMetricKinds.find? fun kind => kind.value == value

theorem TelemetryMetricKind.parse_eq_some {value : Text}
    {kind : TelemetryMetricKind} :
    parse value = some kind ↔ value = kind.value := by
  constructor
  · intro found
    rw [parse] at found
    have same := List.find?_some found
    exact (beq_iff_eq.mp same).symm
  · rintro rfl
    cases kind <;> decide

/-! ## Checks -/

/-- `[a-z][a-z0-9_]*`. -/
def telemetryNamePattern : SegmentPattern where
  first := isLower
  later := fun _ => false
  body := fun c => isLower c || isDigit c || c == point '_'
  separator := fun _ => false

/-- The characters from the blank to the tilde. -/
def isTelemetryCharacter (c : CodePoint) : Bool :=
  0x20 ≤ c.val && c.val ≤ 0x7E

/-- `_SECRET_MARKERS`. -/
def telemetrySecretMarkers : List Text :=
  ["password=", "token:", "bearer ", "secret/"].map text

/-- A text that starts like a drive; it is ASCII wherever this is asked. -/
def telemetryDrive : Text → Bool
  | letter :: second :: _ =>
      second == point ':' && (isUpper letter || isLower letter)
  | _ => false

/-- `_reject_secret_and_path_markers`. -/
def rejectSecretAndPathMarkers (value : Text) (subject : String) :
    Except TelemetryFailure Unit := do
  require (telemetrySecretMarkers.all fun marker =>
      !decide (marker <:+: lower value))
    (.redaction (subject ++ " must not contain secret material"))
  require (value.head? != some (point '/') && value.head? != some (point '\\'))
    (.redaction (subject ++ " must not be an absolute path"))
  require (!telemetryDrive value)
    (.redaction (subject ++ " must not be a filesystem path"))
  require (!decide (text ".." <:+: value))
    (.redaction (subject ++ " must not contain path traversal"))

/-- A text with none of the markers. -/
structure Unmarked (value : Text) : Prop where
  markers : ∀ marker ∈ telemetrySecretMarkers, ¬marker <:+: lower value
  root : value.head? ≠ some (point '/') ∧ value.head? ≠ some (point '\\')
  drive : telemetryDrive value = false
  traversal : ¬text ".." <:+: value

theorem rejectSecretAndPathMarkers_eq_ok {value : Text} {subject : String} :
    rejectSecretAndPathMarkers value subject = .ok () ↔ Unmarked value := by
  simp only [rejectSecretAndPathMarkers, check_bind_eq_ok, require_eq_ok,
    List.all_eq_true, Bool.not_eq_true', decide_eq_false_iff_not,
    Bool.and_eq_true, bne_iff_ne, ne_eq]
  constructor
  · rintro ⟨markers, root, drive, traversal⟩
    exact ⟨markers, root, drive, traversal⟩
  · intro unmarked
    exact ⟨unmarked.markers, unmarked.root, unmarked.drive,
      unmarked.traversal⟩

/-- `_validate_run_id`, of a text. -/
def requireRunId (runId : Text) : Except TelemetryFailure Unit := do
  require (1 ≤ runId.length && runId.length ≤ maxTelemetryRunIdLength)
    (.validation
      "telemetry run identity length is outside the supported range")
  require (runId.all isTelemetryCharacter)
    (.validation
      "telemetry run identity must use printable ASCII characters")
  rejectSecretAndPathMarkers runId "telemetry run identity"

/-- A run identity that passes. -/
structure IsTelemetryRunId (runId : Text) : Prop where
  length : 1 ≤ runId.length ∧ runId.length ≤ maxTelemetryRunIdLength
  printable : runId.all isTelemetryCharacter
  unmarked : Unmarked runId

theorem requireRunId_eq_ok {runId : Text} :
    requireRunId runId = .ok () ↔ IsTelemetryRunId runId := by
  simp only [requireRunId, check_bind_eq_ok, require_eq_ok,
    Bool.and_eq_true, decide_eq_true_eq, rejectSecretAndPathMarkers_eq_ok]
  constructor
  · rintro ⟨length, printable, unmarked⟩
    exact ⟨length, printable, unmarked⟩
  · intro valid
    exact ⟨valid.length, valid.printable, valid.unmarked⟩

/-- `_validate_label_pair`, of two texts. -/
def requireLabelPair (labelKey value : Text) :
    Except TelemetryFailure Unit := do
  require (1 ≤ labelKey.length && labelKey.length ≤ maxLabelKeyLength)
    (.validation "telemetry label key length is outside the supported range")
  require (telemetryNamePattern.fullmatch labelKey)
    (.validation "telemetry label key must use the bounded label alphabet")
  require (1 ≤ value.length && value.length ≤ maxLabelLength)
    (.validation "telemetry label value length is outside the supported range")
  require (value.all isTelemetryCharacter)
    (.validation "telemetry label value must use printable ASCII characters")
  rejectSecretAndPathMarkers value "telemetry label value"

/-- A label that passes. -/
structure IsLabel (label : Text × Text) : Prop where
  keyLength : 1 ≤ label.1.length ∧ label.1.length ≤ maxLabelKeyLength
  key : telemetryNamePattern.fullmatch label.1
  valueLength : 1 ≤ label.2.length ∧ label.2.length ≤ maxLabelLength
  printable : label.2.all isTelemetryCharacter
  unmarked : Unmarked label.2

theorem requireLabelPair_eq_ok {label : Text × Text} :
    requireLabelPair label.1 label.2 = .ok () ↔ IsLabel label := by
  simp only [requireLabelPair, check_bind_eq_ok, require_eq_ok,
    Bool.and_eq_true, decide_eq_true_eq, rejectSecretAndPathMarkers_eq_ok]
  constructor
  · rintro ⟨keyLength, key, valueLength, printable, unmarked⟩
    exact ⟨keyLength, key, valueLength, printable, unmarked⟩
  · intro valid
    exact ⟨valid.keyLength, valid.key, valid.valueLength, valid.printable,
      valid.unmarked⟩

/-! ## Records -/

/-- `TelemetryMetric.__post_init__`. -/
def checkMetric (name : Text) (value : Int) (labels : List (Text × Text)) :
    Except TelemetryFailure Unit := do
  require (1 ≤ name.length && name.length ≤ maxMetricNameLength)
    (.validation "telemetry metric name length is outside the supported range")
  require (telemetryNamePattern.fullmatch name)
    (.validation "telemetry metric name must use the bounded metric alphabet")
  require (0 ≤ value && value ≤ maxTelemetryValue)
    (.validation "telemetry metric value is outside the supported range")
  require (labels.length ≤ maxLabelCount)
    (.validation "telemetry metric label count exceeds the supported bound")
  labels.forM fun label => requireLabelPair label.1 label.2
  require (decide (labels.map Prod.fst).Nodup)
    (.validation "telemetry metric label keys must be unique")
  require (labels.map Prod.fst == sorted (labels.map Prod.fst))
    (.validation "telemetry metric label keys must be sorted")

/-- The fields of a metric that pass. -/
structure IsMetric (name : Text) (value : Int) (labels : List (Text × Text)) :
    Prop where
  nameLength : 1 ≤ name.length ∧ name.length ≤ maxMetricNameLength
  pattern : telemetryNamePattern.fullmatch name
  range : 0 ≤ value ∧ value ≤ maxTelemetryValue
  count : labels.length ≤ maxLabelCount
  each : ∀ label ∈ labels, IsLabel label
  distinct : (labels.map Prod.fst).Nodup
  sorts : labels.map Prod.fst = sorted (labels.map Prod.fst)

theorem checkMetric_eq_ok {name : Text} {value : Int}
    {labels : List (Text × Text)} :
    checkMetric name value labels = .ok () ↔ IsMetric name value labels := by
  simp only [checkMetric, check_bind_eq_ok, require_eq_ok, forM_eq_ok,
    Bool.and_eq_true, decide_eq_true_eq, requireLabelPair_eq_ok, beq_iff_eq]
  constructor
  · rintro ⟨nameLength, pattern, range, count, each, distinct, sorts⟩
    exact ⟨nameLength, pattern, range, count, each, distinct, sorts⟩
  · intro valid
    exact ⟨valid.nameLength, valid.pattern, valid.range, valid.count,
      valid.each, valid.distinct, valid.sorts⟩

/-- `TelemetryMetric`. -/
structure TelemetryMetric where
  name : Text
  kind : TelemetryMetricKind
  value : Int
  labels : List (Text × Text)
  valid : IsMetric name value labels

def TelemetryMetric.create (name : Text) (kind : TelemetryMetricKind)
    (value : Int) (labels : List (Text × Text)) :
    Except TelemetryFailure TelemetryMetric :=
  (certify (checkMetric name value labels) fun _ => checkMetric_eq_ok.mp).map
    fun passed => ⟨name, kind, value, labels, passed.2⟩

theorem TelemetryMetric.create_eq_ok {name : Text} {kind : TelemetryMetricKind}
    {value : Int} {labels : List (Text × Text)} {metric : TelemetryMetric} :
    create name kind value labels = .ok metric ↔
      metric.name = name ∧ metric.kind = kind ∧ metric.value = value ∧
        metric.labels = labels := by
  rw [create, map_eq_ok]
  constructor
  · rintro ⟨passed, _, rfl⟩
    exact ⟨rfl, rfl, rfl, rfl⟩
  · rintro ⟨rfl, rfl, rfl, rfl⟩
    exact ⟨⟨(), metric.valid⟩,
      certify_eq_ok.mpr (checkMetric_eq_ok.mpr metric.valid), rfl⟩

/-- `TelemetryRecord.__post_init__`. -/
def checkRecord (schemaVersion observedAtMicros : Int) (runId : Text)
    (metrics : List TelemetryMetric) : Except TelemetryFailure Unit := do
  require (schemaVersion == telemetrySchemaVersion)
    (.schema "telemetry record uses an unknown schema version")
  require (0 ≤ observedAtMicros)
    (.validation "telemetry observation time must not be negative")
  requireRunId runId
  require (1 ≤ metrics.length && metrics.length ≤ maxSeriesPerRecord)
    (.validation
      "telemetry record metric count is outside the supported range")

/-- The fields of a record that pass. -/
structure IsRecord (schemaVersion observedAtMicros : Int) (runId : Text)
    (metrics : List TelemetryMetric) : Prop where
  version : schemaVersion = telemetrySchemaVersion
  observed : 0 ≤ observedAtMicros
  run : IsTelemetryRunId runId
  count : 1 ≤ metrics.length ∧ metrics.length ≤ maxSeriesPerRecord

theorem checkRecord_eq_ok {schemaVersion observedAtMicros : Int} {runId : Text}
    {metrics : List TelemetryMetric} :
    checkRecord schemaVersion observedAtMicros runId metrics = .ok () ↔
      IsRecord schemaVersion observedAtMicros runId metrics := by
  simp only [checkRecord, check_bind_eq_ok, require_eq_ok, beq_iff_eq,
    Bool.and_eq_true, decide_eq_true_eq, requireRunId_eq_ok]
  constructor
  · rintro ⟨version, observed, run, count⟩
    exact ⟨version, observed, run, count⟩
  · intro valid
    exact ⟨valid.version, valid.observed, valid.run, valid.count⟩

/-- `TelemetryRecord`. -/
structure TelemetryRecord where
  schemaVersion : Int
  observedAtMicros : Int
  runId : Text
  metrics : List TelemetryMetric
  valid : IsRecord schemaVersion observedAtMicros runId metrics

def TelemetryRecord.create (schemaVersion observedAtMicros : Int)
    (runId : Text) (metrics : List TelemetryMetric) :
    Except TelemetryFailure TelemetryRecord :=
  (certify (checkRecord schemaVersion observedAtMicros runId metrics)
    fun _ => checkRecord_eq_ok.mp).map
    fun passed => ⟨schemaVersion, observedAtMicros, runId, metrics, passed.2⟩

theorem TelemetryRecord.create_eq_ok {schemaVersion observedAtMicros : Int}
    {runId : Text} {metrics : List TelemetryMetric}
    {record : TelemetryRecord} :
    create schemaVersion observedAtMicros runId metrics = .ok record ↔
      record.schemaVersion = schemaVersion ∧
        record.observedAtMicros = observedAtMicros ∧
        record.runId = runId ∧ record.metrics = metrics := by
  rw [create, map_eq_ok]
  constructor
  · rintro ⟨passed, _, rfl⟩
    exact ⟨rfl, rfl, rfl, rfl⟩
  · rintro ⟨rfl, rfl, rfl, rfl⟩
    exact ⟨⟨(), record.valid⟩,
      certify_eq_ok.mpr (checkRecord_eq_ok.mpr record.valid), rfl⟩

end ParityGrid.Application
