import ParityGrid.Application.Execution.Frontier
import ParityGrid.Domain.Identifiers

/-!
# The runner contract

Version 1 of the work results that the runners hand to their parent.  Every
text is printable ASCII that shows neither a secret nor a path.
-/

namespace ParityGrid.Application

open ParityGrid.Foundation
open ParityGrid.Domain (isSha256Text)

def runnerContractVersion : Int := 1

def workResultProtocol : Text := text "paritygrid.work-result.v1"

def maxContractStringLength : Nat := 256

def maxContractListItems : Nat := 64

def maxMetricValue : Int := 2147483647

def maxFailureDetailLength : Nat := 512

/-- The subclasses of `RunnerContractError` that contract values raise. -/
inductive RunnerContractError where
  | version (message : String)
  | encoding (message : String)
  | leak (message : String)
  | bound (message : String)
deriving DecidableEq

/-! ## Closed enumerations -/

/-- Terminal outcome of one work item attempt. -/
inductive ContractOutcome where
  | succeeded
  | retryWait
  | quarantined
  | failed
  | cancelled
deriving DecidableEq

inductive ContractCleanupStatus where
  | pending
  | completed
  | failed
deriving DecidableEq

/-! ## Texts and numbers -/

/-- `_validate_contract_text`. -/
def validateContractText (value : Text) (subject : String) (maximum : Nat) :
    Except RunnerContractError Unit := do
  require (1 ≤ value.length && value.length ≤ maximum)
    (.bound (subject ++ " length is outside the supported range"))
  require (value.all isPrintable)
    (.bound (subject ++ " must use printable ASCII characters"))

/-- `_PUBLIC_TEXT_SECRET_MARKERS`. -/
def publicTextSecretMarkers : List Text :=
  ["password=", "token:", "bearer "].map text

/-- A drive letter and a colon. -/
def startsWithDrive : Text → Bool
  | letter :: colon :: _ =>
      colon == point ':' && (isUpper letter || isLower letter)
  | _ => false

/-- `_reject_public_text_markers`. -/
def rejectPublicTextMarkers (value : Text) (subject : String) :
    Except RunnerContractError Unit := do
  require (!publicTextSecretMarkers.any fun marker =>
      decide (marker <:+: lower value))
    (.leak (subject ++ " must not contain secret material"))
  require (!(value.head? == some (point '/') ||
      value.head? == some (point '\\')))
    (.leak (subject ++ " must not be an absolute path"))
  require (!startsWithDrive value)
    (.leak (subject ++ " must not be a filesystem path"))
  require (!decide (text ".." <:+: value))
    (.leak (subject ++ " must not contain path traversal"))

/-- `validate_public_contract_text`. -/
def validatePublicContractText (value : Text) (subject : String) :
    Except RunnerContractError Unit := do
  validateContractText value subject maxContractStringLength
  rejectPublicTextMarkers value subject

/-- `_validate_contract_int`. -/
def validateContractInt (value minimum maximum : Int) (subject : String) :
    Except RunnerContractError Unit :=
  require (minimum ≤ value && value ≤ maximum)
    (.bound (subject ++ " is outside the supported range"))

/-- `_validate_contract_version`. -/
def validateContractVersion (value : Int) (subject : String) :
    Except RunnerContractError Unit :=
  require (value == runnerContractVersion)
    (.version (subject ++ " must equal 1"))

/-- `_validate_public_text_tuple`. -/
def validatePublicTextTuple (values : List Text) (subject : String) :
    Except RunnerContractError Unit := do
  require (values.length ≤ maxContractListItems)
    (.bound (subject ++ " exceeds the supported item bound"))
  values.forM fun item => validatePublicContractText item (subject ++ " item")

/-- `_validate_frontier_fingerprint`. -/
def validateFrontierFingerprint (value : Text) (subject : String) :
    Except RunnerContractError Unit :=
  require (isSha256Text value)
    (.bound (subject ++ " must use 64 lowercase hexadecimal characters"))

/-! ## Results and their evidence -/

/-- `ContractMetric.__post_init__`. -/
def validateContractMetric (name : Text) (value : Int) :
    Except RunnerContractError Unit := do
  validatePublicContractText name "contract metric name"
  validateContractInt value 0 maxMetricValue "contract metric value"

/-- One bounded integer metric attached to a work result. -/
structure ContractMetric where
  name : Text
  value : Int
  valid : validateContractMetric name value = .ok ()
deriving DecidableEq

/-- `ContractCleanupEvidence.__post_init__`. -/
def validateCleanupEvidence (actions : List Text)
    (idempotencyKey : Option Text) : Except RunnerContractError Unit := do
  validatePublicTextTuple actions "contract cleanup actions"
  require (actions == sorted actions)
    (.bound "contract cleanup actions must be sorted")
  require (decide actions.Nodup)
    (.bound "contract cleanup actions must be unique")
  match idempotencyKey with
  | none => .ok ()
  | some key =>
      validatePublicContractText key "contract cleanup idempotency key"

/-- Idempotent cleanup evidence for one work item attempt. -/
structure ContractCleanupEvidence where
  status : ContractCleanupStatus
  actions : List Text
  idempotencyKey : Option Text
  valid : validateCleanupEvidence actions idempotencyKey = .ok ()
deriving DecidableEq

/-- The fields of a work result. -/
structure WorkResultFields where
  protocol : Text
  contractVersion : Int
  planFingerprint : Text
  runId : Text
  nodeId : Text
  partitionKey : Text
  workItemId : Text
  attemptNumber : Int
  leaseFence : Int
  leaseOwner : Text
  controlGeneration : ControlGeneration
  outcome : ContractOutcome
  metrics : List ContractMetric
  artifactReferences : List Text
  checkpointProposal : Bool
  failureDetail : Option Text
  cleanup : ContractCleanupEvidence
deriving DecidableEq

/-- The detail of a failure may be longer than other texts. -/
def validateFailureDetail :
    Option Text → Except RunnerContractError Unit
  | none => .ok ()
  | some detail => do
      validateContractText detail "work result failure detail"
        maxFailureDetailLength
      rejectPublicTextMarkers detail "work result failure detail"

/-- `WorkResultV1.__post_init__`. -/
def validateWorkResult (fields : WorkResultFields) :
    Except RunnerContractError Unit := do
  require (fields.protocol == workResultProtocol)
    (.version "work result protocol is unknown")
  validateContractVersion fields.contractVersion "work result contract version"
  validateFrontierFingerprint fields.planFingerprint
    "work result plan fingerprint"
  validatePublicContractText fields.runId "work result run identity"
  validatePublicContractText fields.nodeId "work result node identity"
  validatePublicContractText fields.partitionKey "work result partition key"
  validatePublicContractText fields.workItemId "work result item identity"
  validateContractInt fields.attemptNumber 1 maxMetricValue
    "work result attempt"
  validateContractInt fields.leaseFence 1 maxMetricValue
    "work result lease fence"
  validatePublicContractText fields.leaseOwner "work result lease owner"
  require (fields.metrics.length ≤ maxContractListItems)
    (.bound "work result metrics exceeds the contract item bound")
  validatePublicTextTuple fields.artifactReferences
    "work result artifact references"
  validateFailureDetail fields.failureDetail

/-- Immutable runner-neutral work result for contract version 1. -/
structure WorkResultV1 extends WorkResultFields where
  valid : validateWorkResult toWorkResultFields = .ok ()
deriving DecidableEq

end ParityGrid.Application
