import ParityGrid.Domain.Identifiers

/-!
# Pipeline values and execution enumerations

Node kinds, port names and partition keys share one contract over different
patterns and bounds.  The run, work-item and failure enumerations are listed
with their stable texts.
-/

namespace ParityGrid.Domain

open Foundation

/-! ## Stable texts -/

/-- The subclasses of `_StableText`. -/
inductive StableTextKind where
  | nodeKind
  | portName
  | partitionKey
deriving DecidableEq

namespace StableTextKind

/-- `_subject`. -/
def subject : StableTextKind → String
  | .nodeKind => "node kind"
  | .portName => "port name"
  | .partitionKey => "partition key"

/-- `_pattern`. -/
def pattern : StableTextKind → SegmentPattern
  | .nodeKind =>
      { first := isLower
        later := isLower
        body := isLowerOrDigit
        separator := fun c => c == point '.' }
  | .portName =>
      { first := isLower
        later := isLowerOrDigit
        body := isLowerOrDigit
        separator := fun c => c == point '-' }
  | .partitionKey =>
      { first := isLowerOrDigit
        later := isLowerOrDigit
        body := isLowerOrDigit
        separator := fun c =>
          c == point '-' || c == point '_' || c == point '.' ||
            c == point ':' }

/-- `_minimum_length`. -/
def minimumLength : StableTextKind → Nat
  | .nodeKind => 3
  | .portName => 1
  | .partitionKey => 1

/-- `_maximum_length`. -/
def maximumLength : StableTextKind → Nat
  | .nodeKind => 96
  | .portName => 64
  | .partitionKey => 128

end StableTextKind

/-- `_validate_stable_text`. -/
def validateStableText (kind : StableTextKind) (value : Text) :
    Except PythonError Unit := do
  require (value.all isAscii)
    (.valueError (text kind.subject ++ text " must contain only ASCII"))
  require (kind.minimumLength ≤ value.length &&
      value.length ≤ kind.maximumLength)
    (.valueError (text kind.subject ++ text " must be between " ++
      decimal kind.minimumLength ++ text " and " ++
      decimal kind.maximumLength ++ text " characters"))
  require (kind.pattern.fullmatch value)
    (.valueError (text kind.subject ++
      text " must use its canonical lowercase form"))

structure StableText (kind : StableTextKind) where
  value : Text
  valid : validateStableText kind value = .ok ()
deriving DecidableEq

abbrev NodeKind := StableText .nodeKind
abbrev PortName := StableText .portName
abbrev PartitionKey := StableText .partitionKey

theorem StableText.ext {kind : StableTextKind} {left right : StableText kind}
    (equal : left.value = right.value) :
    left = right := by
  cases left
  cases right
  cases equal
  rfl

theorem StableText.value_unicode {kind : StableTextKind}
    (stable : StableText kind) :
    isUnicode stable.value := by
  have valid := stable.valid
  simp only [validateStableText, bind_eq_ok, require_eq_ok] at valid
  obtain ⟨_, ascii, _⟩ := valid
  exact isUnicode_of_ascii ascii

/-! ## Nodes and edges -/

/-- The order of `_StableText`, by value. -/
def portLe (left right : PortName) : Prop :=
  left.value ≤ right.value

instance : DecidableRel portLe := fun left right =>
  inferInstanceAs (Decidable (left.value ≤ right.value))

/-- A node's identity and its ports; both port tuples are kept in order. -/
structure PipelineNode where
  nodeId : NodeId
  kind : NodeKind
  inputPorts : List PortName
  outputPorts : List PortName
  inputsDistinct : inputPorts.Nodup
  outputsDistinct : outputPorts.Nodup
  inputsSorted : inputPorts.Pairwise portLe
  outputsSorted : outputPorts.Pairwise portLe
deriving DecidableEq

theorem PipelineNode.ext {left right : PipelineNode}
    (nodeId : left.nodeId = right.nodeId)
    (kind : left.kind = right.kind)
    (inputs : left.inputPorts = right.inputPorts)
    (outputs : left.outputPorts = right.outputPorts) :
    left = right := by
  cases left
  cases right
  cases nodeId
  cases kind
  cases inputs
  cases outputs
  rfl

/-- A directed connection between two named pipeline ports. -/
@[ext]
structure PipelineEdge where
  sourceNodeId : NodeId
  sourcePort : PortName
  targetNodeId : NodeId
  targetPort : PortName
deriving DecidableEq

/-! ## Lifecycle enumerations -/

inductive RunState where
  | queued
  | running
  | pausing
  | paused
  | resuming
  | succeeded
  | partiallySucceeded
  | failed
  | cancelling
  | cancelled
deriving DecidableEq

def RunState.value : RunState → String
  | .queued => "queued"
  | .running => "running"
  | .pausing => "pausing"
  | .paused => "paused"
  | .resuming => "resuming"
  | .succeeded => "succeeded"
  | .partiallySucceeded => "partially_succeeded"
  | .failed => "failed"
  | .cancelling => "cancelling"
  | .cancelled => "cancelled"

inductive WorkItemState where
  | pending
  | leased
  | running
  | succeeded
  | retryWait
  | quarantined
  | failed
  | cancelled
deriving DecidableEq

def WorkItemState.value : WorkItemState → String
  | .pending => "pending"
  | .leased => "leased"
  | .running => "running"
  | .succeeded => "succeeded"
  | .retryWait => "retry_wait"
  | .quarantined => "quarantined"
  | .failed => "failed"
  | .cancelled => "cancelled"

inductive FailureClassification where
  | connection
  | timeout
  | http429
  | http5xx
  | http4xx
  | validation
  | idempotencyConflict
  | sqliteContention
  | userCancellation
  | unknown
deriving DecidableEq

def FailureClassification.value : FailureClassification → String
  | .connection => "connection"
  | .timeout => "timeout"
  | .http429 => "http_429"
  | .http5xx => "http_5xx"
  | .http4xx => "http_4xx"
  | .validation => "validation"
  | .idempotencyConflict => "idempotency_conflict"
  | .sqliteContention => "sqlite_contention"
  | .userCancellation => "user_cancellation"
  | .unknown => "unknown"

inductive FailureDisposition where
  | retry
  | quarantine
  | conflict
  | cancel
  | permanent
deriving DecidableEq

def FailureDisposition.value : FailureDisposition → String
  | .retry => "retry"
  | .quarantine => "quarantine"
  | .conflict => "conflict"
  | .cancel => "cancel"
  | .permanent => "permanent"

end ParityGrid.Domain
