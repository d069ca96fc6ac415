import ParityGrid.Application.Execution.RunnerContract
import ParityGrid.Domain.Pipeline

/-!
# From a result to a commit intent

The coordinator checks a received result against its registration, rebases it
on the durable evidence of the moment and builds one commit intent from that
evidence.  A result that fails a check is rejected before any command.
-/

namespace ParityGrid.Application

open ParityGrid.Foundation
open ParityGrid.Domain (FailureClassification)

def maxCoordinatorTextLength : Nat := 128

def maxCoordinatorInt : Int := 9223372036854775807

/-- `_MAX_RETRY_ELIGIBILITY_MICROS`. -/
def maxRetryEligibilityMicros : Int := 9007199254740991

/-- `MAX_CONSISTENCY_SEQUENCE`, the bound of an event sequence. -/
def maxEventSequence : Int := 2147483647

/-- What the coordinator raises. -/
inductive ResultCoordinatorError where
  | validation (message : String)
  | stale (message : String)
  | forgedReference (message : String)
  | writerRetryable (message : String)
  | outcomeUnknown (message : String)
  | closed (message : String)
deriving DecidableEq

/-- `_require_text`. -/
def requireResultText (value : Text) (subject : String)
    (maximum : Nat := maxCoordinatorTextLength) :
    Except ResultCoordinatorError Unit := do
  require (1 ≤ value.length && value.length ≤ maximum)
    (.validation (subject ++ " length is outside the supported range"))
  require (value.all isPrintable)
    (.validation (subject ++ " must use printable ASCII characters"))

/-- `_require_int`. -/
def requireResultInt (value minimum maximum : Int) (subject : String) :
    Except ResultCoordinatorError Unit :=
  require (minimum ≤ value && value ≤ maximum)
    (.validation (subject ++ " is outside the supported range"))

/-- `_require_fingerprint`. -/
def requireResultFingerprint (value : Text) :
    Except ResultCoordinatorError Unit :=
  require (Domain.isSha256Text value)
    (.validation
      "coordinator plan fingerprint must use 64 lowercase hexadecimal characters")

/-- `_require_reference_tuple`. -/
def requireReferenceTuple (values : List Text) (subject : String) :
    Except ResultCoordinatorError Unit := do
  require (values.length ≤ maxContractListItems)
    (.validation (subject ++ " exceeds the supported item bound"))
  values.forM fun item =>
    requireResultText item (subject ++ " item") maxContractStringLength

/-! ## Registrations and durable evidence -/

/-- The facts that a registration captures. -/
structure AssignmentFields where
  identity : WorkIdentity
  workItemId : Text
  attemptNumber : Int
  leaseFence : Int
  leaseOwner : Text
  controlGeneration : Int
  deadlineMicros : Int
  allowedArtifactIds : List Text
deriving DecidableEq

/-- `RegisteredAssignment.__post_init__`. -/
def validateAssignment (fields : AssignmentFields) :
    Except ResultCoordinatorError Unit := do
  requireResultText fields.workItemId
    "registered assignment work item identity"
  requireResultInt fields.attemptNumber 1 maxMetricValue
    "registered assignment attempt"
  requireResultInt fields.leaseFence 1 maxMetricValue
    "registered assignment lease fence"
  requireResultText fields.leaseOwner "registered assignment lease owner"
  requireResultInt fields.controlGeneration 1 maxMetricValue
    "registered assignment control generation"
  requireResultInt fields.deadlineMicros 0 maxCoordinatorInt
    "registered assignment deadline"
  requireReferenceTuple fields.allowedArtifactIds
    "allowed artifact identifiers"
  require (decide fields.allowedArtifactIds.Nodup)
    (.validation "allowed artifact identifiers must be unique")
  require (fields.allowedArtifactIds == sorted fields.allowedArtifactIds)
    (.validation "allowed artifact identifiers must be sorted")

/-- Admission-time facts for one in-flight work item. -/
structure RegisteredAssignment extends AssignmentFields where
  valid : validateAssignment toAssignmentFields = .ok ()
deriving DecidableEq

/-- Whether the attempt still owns the work. -/
inductive RebaseAttemptState where
  | running
  | awaitingResult
  | expired
deriving DecidableEq

/-- `_OWNING_ATTEMPT_STATES`. -/
def RebaseAttemptState.owns : RebaseAttemptState → Bool
  | .expired => false
  | _ => true

/-- The evidence that a reader returns. -/
structure RebasedFields where
  runId : Text
  runRowVersion : Int
  nodeId : Text
  nodeRowVersion : Int
  workItemId : Text
  attemptNumber : Int
  leaseFence : Int
  leaseOwner : Text
  nextEventSequence : Int
  eventCounterRowVersion : Int
  attemptState : RebaseAttemptState
  observedAtMicros : Int
  expiresAtMicros : Int
  runnerKind : Text
  workerIdentity : Text
  startedAtMicros : Int
deriving DecidableEq

/-- `RebasedFrontier.__post_init__`. -/
def validateRebasedFrontier (fields : RebasedFields) :
    Except ResultCoordinatorError Unit := do
  requireResultText fields.runId "rebased frontier run identity"
  requireResultInt fields.runRowVersion 0 maxCoordinatorInt
    "rebased frontier run row version"
  requireResultText fields.nodeId "rebased frontier node identity"
  requireResultInt fields.nodeRowVersion 0 maxCoordinatorInt
    "rebased frontier node row version"
  requireResultText fields.workItemId "rebased frontier work item identity"
  requireResultInt fields.attemptNumber 1 maxMetricValue
    "rebased frontier attempt"
  requireResultInt fields.leaseFence 1 maxMetricValue
    "rebased frontier lease fence"
  requireResultText fields.leaseOwner "rebased frontier lease owner"
  requireResultInt fields.nextEventSequence 1 maxEventSequence
    "rebased frontier event sequence"
  requireResultInt fields.eventCounterRowVersion 0 maxCoordinatorInt
    "rebased frontier event counter row version"
  requireResultInt fields.observedAtMicros 0 maxCoordinatorInt
    "rebased frontier observation time"
  requireResultInt fields.expiresAtMicros 0 maxCoordinatorInt
    "rebased frontier lease expiry"
  requireResultText fields.runnerKind "rebased frontier runner kind" 32
  requireResultText fields.workerIdentity "rebased frontier worker identity"
  requireResultInt fields.startedAtMicros 0 maxCoordinatorInt
    "rebased frontier attempt start time"

/-- Current durable evidence re-read at serialized writer admission. -/
structure RebasedFrontier extends RebasedFields where
  valid : validateRebasedFrontier toRebasedFields = .ok ()
deriving DecidableEq

/-! ## Commit intents -/

/-- The facts of one commit. -/
structure IntentFields where
  runId : Text
  planFingerprint : Text
  nodeId : Text
  partitionKey : Text
  workItemId : Text
  attemptNumber : Int
  leaseFence : Int
  leaseOwner : Text
  observedAtMicros : Int
  leaseExpiresAtMicros : Int
  outcome : ContractOutcome
  expectedRunRowVersion : Int
  expectedNodeRowVersion : Int
  nextEventSequence : Int
  eventCounterRowVersion : Int
  checkpointProposed : Bool
  artifactIds : List Text
  result : WorkResultV1
  runnerKind : Text
  workerIdentity : Text
  startedAtMicros : Int
  retryEligibleAtMicros : Int
  failureClassification : Option FailureClassification
deriving DecidableEq

/-- The facts that an intent shares with its result: `result_facts`. -/
def IntentFields.agreesWithResult (fields : IntentFields) : Bool :=
  fields.result.runId == fields.runId &&
    fields.result.planFingerprint == fields.planFingerprint &&
    fields.result.nodeId == fields.nodeId &&
    fields.result.partitionKey == fields.partitionKey &&
    fields.result.workItemId == fields.workItemId &&
    fields.result.attemptNumber == fields.attemptNumber &&
    fields.result.leaseFence == fields.leaseFence &&
    fields.result.leaseOwner == fields.leaseOwner &&
    fields.result.outcome == fields.outcome &&
    fields.result.checkpointProposal == fields.checkpointProposed &&
    fields.result.artifactReferences == fields.artifactIds

/--
`CommitIntent.__post_init__`.  The enclosed envelope was validated when it was
made, so validating it again passes.
-/
def validateIntent (fields : IntentFields) :
    Except ResultCoordinatorError Unit := do
  requireResultText fields.runId "commit intent run identity"
  requireResultFingerprint fields.planFingerprint
  requireResultText fields.nodeId "commit intent node identity"
  requireResultText fields.partitionKey "commit intent partition key"
  requireResultText fields.workItemId "commit intent work item identity"
  requireResultInt fields.attemptNumber 1 maxMetricValue
    "commit intent attempt"
  requireResultInt fields.leaseFence 1 maxMetricValue
    "commit intent lease fence"
  requireResultText fields.leaseOwner "commit intent lease owner"
  requireResultInt fields.observedAtMicros 0 maxCoordinatorInt
    "commit intent observation time"
  requireResultInt fields.leaseExpiresAtMicros 0 maxCoordinatorInt
    "commit intent lease expiry"
  requireResultInt fields.expectedRunRowVersion 0 maxCoordinatorInt
    "commit intent run row version"
  requireResultInt fields.expectedNodeRowVersion 0 maxCoordinatorInt
    "commit intent node row version"
  requireResultInt fields.nextEventSequence 1 maxEventSequence
    "commit intent event sequence"
  requireResultInt fields.eventCounterRowVersion 0 maxCoordinatorInt
    "commit intent event counter row version"
  requireReferenceTuple fields.artifactIds "commit intent artifact identifiers"
  require fields.agreesWithResult
    (.validation
      "commit intent result does not match its validated commit facts")
  requireResultText fields.runnerKind "commit intent runner kind" 32
  requireResultText fields.workerIdentity "commit intent worker identity"
  requireResultInt fields.startedAtMicros 0 maxCoordinatorInt
    "commit intent attempt start time"
  requireResultInt fields.retryEligibleAtMicros 0 maxRetryEligibilityMicros
    "commit intent retry eligibility"

/-- One durable commit intent carrying only rebased versions. -/
structure CommitIntent extends IntentFields where
  valid : validateIntent toIntentFields = .ok ()
deriving DecidableEq

/-- The constructor of an intent. -/
def CommitIntent.create (fields : IntentFields) :
    Except ResultCoordinatorError CommitIntent :=
  match valid : validateIntent fields with
  | .error error => .error error
  | .ok () => .ok ⟨fields, valid⟩

/-! ## Admission -/

/-- What a coordinator is made for. -/
structure ResultCoordinator where
  runId : Text
  planFingerprint : Text
deriving DecidableEq

/-- One result with the arguments of its submission. -/
structure ResultSubmission where
  result : WorkResultV1
  retryEligibleAtMicros : Int
  failureClassification : Option FailureClassification
deriving DecidableEq

namespace ResultCoordinator

variable (coordinator : ResultCoordinator)

/-- `_pre_admission_checks`, with the registration of the result's identity. -/
def preAdmissionChecks (result : WorkResultV1)
    (registered : Option RegisteredAssignment) :
    Except ResultCoordinatorError RegisteredAssignment := do
  require (result.runId == coordinator.runId)
    (.stale "work result run does not match the coordinator run")
  require (result.planFingerprint == coordinator.planFingerprint)
    (.stale "work result plan fingerprint does not match the coordinator plan")
  match registered with
  | none => .error (.stale "work result identity is not a registered assignment")
  | some assignment => do
      require (result.workItemId == assignment.workItemId)
        (.stale
          "work result item identity does not match the registered assignment")
      require (result.attemptNumber == assignment.attemptNumber)
        (.stale "work result attempt does not match the registered assignment")
      require (result.leaseFence == assignment.leaseFence)
        (.stale
          "work result lease fence does not match the registered assignment")
      require (result.leaseOwner == assignment.leaseOwner)
        (.stale
          "work result lease owner does not match the registered assignment")
      require (result.controlGeneration.value == assignment.controlGeneration)
        (.stale
          "work result control generation does not match the registered assignment")
      require (result.artifactReferences.all fun reference =>
          assignment.allowedArtifactIds.contains reference)
        (.forgedReference "work result references an unregistered artifact")
      .ok assignment

/-- The facts of the intent that `_rebase_intent` builds. -/
def intentFields (assignment : RegisteredAssignment)
    (submission : ResultSubmission) (frontier : RebasedFrontier) :
    IntentFields where
  runId := coordinator.runId
  planFingerprint := coordinator.planFingerprint
  nodeId := assignment.identity.nodeId
  partitionKey := assignment.identity.partitionKey
  workItemId := assignment.workItemId
  attemptNumber := frontier.attemptNumber
  leaseFence := frontier.leaseFence
  leaseOwner := frontier.leaseOwner
  observedAtMicros := frontier.observedAtMicros
  leaseExpiresAtMicros := frontier.expiresAtMicros
  outcome := submission.result.outcome
  expectedRunRowVersion := frontier.runRowVersion
  expectedNodeRowVersion := frontier.nodeRowVersion
  nextEventSequence := frontier.nextEventSequence
  eventCounterRowVersion := frontier.eventCounterRowVersion
  checkpointProposed := submission.result.checkpointProposal
  artifactIds := submission.result.artifactReferences
  result := submission.result
  runnerKind := frontier.runnerKind
  workerIdentity := frontier.workerIdentity
  startedAtMicros := frontier.startedAtMicros
  retryEligibleAtMicros := submission.retryEligibleAtMicros
  failureClassification := submission.failureClassification

/-- What `_rebase_intent` asks of the evidence before it looks at the times. -/
def requireOwnEvidence (assignment : RegisteredAssignment)
    (frontier : RebasedFrontier) : Except ResultCoordinatorError Unit := do
  require (frontier.runId == coordinator.runId &&
      frontier.nodeId == assignment.identity.nodeId)
    (.stale "rebased evidence does not match the work identity")
  require (frontier.workItemId == assignment.workItemId)
    (.stale "rebased evidence does not match the registered work item")
  require (frontier.attemptNumber == assignment.attemptNumber)
    (.stale "rebased evidence does not match the registered attempt")
  require (frontier.leaseFence == assignment.leaseFence)
    (.stale "rebased evidence does not match the registered lease fence")
  require (frontier.leaseOwner == assignment.leaseOwner)
    (.stale "rebased evidence does not match the registered lease owner")
  require frontier.attemptState.owns
    (.stale "rebased evidence shows the attempt no longer owns the work")

/-- `_rebase_intent`, given the frontier that the reader returned. -/
def rebaseIntent (assignment : RegisteredAssignment)
    (submission : ResultSubmission) (frontier : RebasedFrontier) :
    Except ResultCoordinatorError CommitIntent := do
  coordinator.requireOwnEvidence assignment frontier
  require (!decide (frontier.observedAtMicros > frontier.expiresAtMicros))
    (.stale "rebased evidence shows the durable lease expired")
  require (!decide (frontier.observedAtMicros > assignment.deadlineMicros))
    (.stale "work result arrived after the assignment deadline")
  CommitIntent.create (coordinator.intentFields assignment submission frontier)

end ResultCoordinator

end ParityGrid.Application
