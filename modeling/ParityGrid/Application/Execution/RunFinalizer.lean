import ParityGrid.Application.Execution.Finalization

/-!
# The finalizer

`finalize` as a method on the finalizer's latch and on the world of its
collaborators.  A command is answered by what its submission, its ticket and
its receipt turn out to be; every answer is written down, so that a later
reader can tell what the writer may have done.
-/

namespace ParityGrid.Application

open ParityGrid.Foundation
open ParityGrid.Adapters.Persistence (isPortableIdentity)
open ParityGrid.Domain (NodeId RunId StateFingerprint)

section Finalizer

variable [CasefoldRuntime]

/-! ## What the collaborators answer -/

/-- `FinalizationStateReader.read`. -/
inductive ReadAnswer where
  | evidence (evidence : FinalizationEvidence)
  | corrupt
  | failed
  /-- A value that does not survive its snapshot. -/
  | invalid
  | interrupted

/-- `FinalizationClock.now`. -/
inductive ClockAnswer where
  | time (now : Instant)
  | failed
  | invalid
  | interrupted

/-- `FinalizationAnalytics.rebuild` and `get_summary`. -/
inductive AnalyticsAnswer where
  | summary (summary : RunStatisticsSummary)
  | failed
  | interrupted

inductive FinalizationCommand where
  | transition (command : TransitionRun)
  | emptyNode (command : FinalizeEmptyRunNode)

/-- The result of a receipt, of the two kinds that `finalize` accepts. -/
inductive ReceiptResult where
  | transition (run : RunRecord) (events : ExecutionEventBatch)
  | emptyNode (node : RunNodeRecord) (events : ExecutionEventBatch)
  | other
deriving DecidableEq

/-- `WriterCommandKind`, as far as `finalize` tells kinds apart. -/
inductive ReceiptKind where
  | transitionRun
  | finalizeEmptyRunNode
  | other
deriving DecidableEq

structure WriterReceipt where
  submissionId : Int
  commandKind : ReceiptKind
  runId : RunId
  contentionAttempts : Int
  mutated : Bool
  result : ReceiptResult
deriving DecidableEq

/-- What comes out of a ticket as its receipt. -/
inductive ReceiptAnswer where
  | receipt (receipt : WriterReceipt)
  /-- An object of another type. -/
  | foreign
  /-- A receipt whose inspection raises an `Exception`. -/
  | malformed
  /-- A receipt whose inspection raises a `BaseException`. -/
  | interrupting
deriving DecidableEq

/-- `FinalizationWriter.submit`. -/
inductive SubmitAnswer where
  | ticket
  | nothing
  | admissionTimeout
  | writerError
  | raised
  | interrupted
deriving DecidableEq

/-- `ticket.submission_id`. -/
inductive IdentityAnswer where
  | identity (number : Int)
  | invalid
  | interrupted
deriving DecidableEq

/-- `ticket.result`. -/
inductive ResultAnswer where
  | receipt (receipt : ReceiptAnswer)
  /-- One of `_DEFINITELY_NOT_EXECUTED`. -/
  | notExecuted
  | raised
  | interrupted
deriving DecidableEq

/-- What the writer and the ticket do with one command. -/
structure CommandAnswer where
  submit : SubmitAnswer
  identity : IdentityAnswer
  result : ResultAnswer
deriving DecidableEq

/-- The collaborators of a finalizer, on a state of their own. -/
structure FinalizationWorld (σ : Type) where
  read : σ → RunId → ReadAnswer × σ
  now : σ → ClockAnswer × σ
  analyse : σ → FinalizationEvidence → AnalyticsAnswer × σ
  execute : σ → FinalizationCommand → CommandAnswer × σ

/-- A finalizer: its latch, the answers to its commands and the world. -/
structure FinalizerState (σ : Type) where
  uncertain : Bool
  answers : List CommandAnswer
  world : σ

abbrev Finalizing (σ α : Type) := Method (FinalizerState σ) FinalizeError α

variable {σ : Type} (world : FinalizationWorld σ)

/-- `_mark_uncertain`. -/
def markUncertain : Finalizing σ PUnit :=
  modify fun state => { state with uncertain := true }

/-- Ask a collaborator. -/
def askWorld {α : Type} (ask : σ → α × σ) : Finalizing σ α := do
  let state ← get
  modify fun state => { state with world := (ask state.world).2 }
  return (ask state.world).1

/-! ## Receipts -/

def maxFinalizationContentionAttempts : Int := 9

/-- What the validation of a receipt raises. -/
inductive ReceiptError where
  | verification (message : String)
  | malformed
  | interrupted
deriving DecidableEq

/-- The facts of a receipt that do not depend on its result. -/
def WriterReceipt.matchesSubmission (receipt : WriterReceipt)
    (submissionId : Int) (kind : ReceiptKind) (runId : RunId) : Bool :=
  receipt.submissionId == submissionId && receipt.commandKind == kind &&
    receipt.runId == runId &&
    (0 ≤ receipt.contentionAttempts &&
      receipt.contentionAttempts ≤ maxFinalizationContentionAttempts) &&
    receipt.mutated

/-- `_expected_events` and `_require_expected_events`. -/
def expectedEvents (runId : RunId) (request : EventAppendRequest) :
    ExecutionEventBatch :=
  request.batch runId

/-- `_validate_receipt`. -/
def validateReceipt (answer : ReceiptAnswer) (submissionId : Int)
    (command : TransitionRun) (previous : RunRecord) :
    Except ReceiptError (RunRecord × ExecutionEventBatch) :=
  match answer with
  | .foreign => .error (.verification "finalization receipt type is invalid")
  | .malformed => .error .malformed
  | .interrupting => .error .interrupted
  | .receipt receipt =>
      match receipt.result with
      | .transition run events => do
          require
            (receipt.matchesSubmission submissionId .transitionRun command.runId)
            (.verification "finalization receipt does not match command")
          require
            (run == expectedFinalRun previous command &&
              events == expectedEvents command.runId command.event)
            (.verification
              "final verification could not prove the terminal evidence")
          .ok (run, events)
      | _ =>
          .error (.verification "finalization receipt does not match command")

/-- `_validate_empty_receipt`. -/
def validateEmptyReceipt (answer : ReceiptAnswer) (submissionId : Int)
    (command : FinalizeEmptyRunNode) :
    Except ReceiptError (RunNodeRecord × ExecutionEventBatch) :=
  match answer with
  | .foreign => .error (.verification "empty-node receipt type is invalid")
  | .malformed => .error .malformed
  | .interrupting => .error .interrupted
  | .receipt receipt =>
      match receipt.result with
      | .emptyNode node events => do
          require
            (receipt.matchesSubmission submissionId .finalizeEmptyRunNode
              command.runId)
            (.verification "empty-node receipt does not match command")
          require (events == expectedEvents command.runId command.event)
            (.verification "empty-node event evidence is inconsistent")
          require (node == expectedEmptyNode command)
            (.verification "empty-node evidence is inconsistent")
          .ok (node, events)
      | _ => .error (.verification "empty-node receipt does not match command")

/-! ## Commands -/

/-- `_submit`; the answer is written down. -/
def submitCommand (command : FinalizationCommand) :
    Finalizing σ CommandAnswer := do
  let answer ← askWorld fun state => world.execute state command
  modify fun state => { state with answers := state.answers ++ [answer] }
  match answer.submit with
  | .ticket => return answer
  | .admissionTimeout | .writerError =>
      throw (.admission "finalization writer admission failed")
  | .nothing | .raised => do
      markUncertain
      throw (.protocol "finalization admission outcome is unknown")
  | .interrupted => do
      markUncertain
      throw .interrupted

/-- `_ticket_identity`. -/
def ticketIdentity (answer : CommandAnswer) : Finalizing σ Int :=
  match answer.identity with
  | .identity number => return number
  | .invalid => throw (.protocol "finalization ticket identity is invalid")
  | .interrupted => throw .interrupted

/-- `_await_result`. -/
def awaitResult (answer : CommandAnswer) : Finalizing σ ReceiptAnswer :=
  match answer.result with
  | .receipt receipt => return receipt
  | .notExecuted => throw (.rejected "finalization command was not committed")
  | .raised => do
      markUncertain
      throw (.outcomeUnknown "finalization durable outcome is unknown")
  | .interrupted => do
      markUncertain
      throw .interrupted

/-- `_execute`. -/
def executeTransition (command : TransitionRun) (previous : RunRecord) :
    Finalizing σ (RunRecord × ExecutionEventBatch × Int) := do
  let answer ← submitCommand world (.transition command)
  let submissionId ← ticketIdentity answer
  let receipt ← awaitResult answer
  match validateReceipt receipt submissionId command previous with
  | .ok (run, events) => return (run, events, submissionId)
  | .error (.verification message) => do
      markUncertain
      throw (.verification message)
  | .error .malformed => do
      markUncertain
      throw (.protocol "finalization writer receipt is invalid")
  | .error .interrupted => throw .interrupted

/-- `_execute_empty`. -/
def executeEmpty (command : FinalizeEmptyRunNode) :
    Finalizing σ (RunNodeRecord × ExecutionEventBatch × Int) := do
  let answer ← submitCommand world (.emptyNode command)
  let submissionId ← ticketIdentity answer
  let receipt ← awaitResult answer
  match validateEmptyReceipt receipt submissionId command with
  | .ok (node, events) => return (node, events, submissionId)
  | .error .interrupted => throw .interrupted
  | .error _ => do
      markUncertain
      throw (.protocol "empty-node receipt is invalid")

/-- The loop of `_finalize_empty_nodes`, with the submission identities. -/
def finalizeEmptyNodes (correlation : Option Text) (transitionedAt : Instant) :
    List RunNodeRecord → Int → FinalizationEvidence → List Int →
      Finalizing σ (FinalizationEvidence × List Int)
  | [], _, evidence, submissionIds => return (evidence, submissionIds)
  | node :: rest, runRowVersion, evidence, submissionIds => do
      let command ← Method.check
        (emptyNodeCommand evidence node runRowVersion transitionedAt correlation)
      let (record, events, submissionId) ← executeEmpty world command
      let advanced ← Method.check
        ((evidence.advance (runRowVersion + 1) record events.nextSequence
          events.counterRowVersion).mapError .evidence)
      finalizeEmptyNodes correlation transitionedAt rest (runRowVersion + 1)
        advanced (submissionIds ++ [submissionId])

/-! ## Reports -/

structure FinalizationReport where
  action : FinalizationAction
  outcome : FinalizationOutcome
  run : RunRecord
  events : ExecutionEventBatch
  submissionIds : List Int
  fingerprint : Option StateFingerprint
  sourceSha256 : Text
deriving DecidableEq

/-- The report of a run that was terminal already. -/
def replayReport (evidence : FinalizationEvidence)
    (outcome : FinalizationOutcome) (fingerprint : Option StateFingerprint)
    (digest : Text) : FinalizationReport where
  action := .alreadyFinalized
  outcome := outcome
  run := evidence.run
  events := ⟨[], evidence.nextEventSequence, evidence.eventCounterRowVersion⟩
  submissionIds := []
  fingerprint := fingerprint
  sourceSha256 := digest

/-- `_analytics_projection`: the digest of the source and its summary. -/
def analyticsProjection (evidence : FinalizationEvidence) :
    Finalizing σ (Text × RunStatisticsSummary) := do
  Method.check ((requireAggregateConsistency evidence).mapError .evidence)
  let digest ← Method.check ((sourceSha256 evidence).mapError .escaped)
  let answer ← askWorld fun state => world.analyse state evidence
  match answer with
  | .summary summary => return (digest, summary)
  | .failed => throw (.analytics "finalization analytics boundary failed")
  | .interrupted => throw .interrupted

/-- `_replay_success`. -/
def replaySuccess (evidence : FinalizationEvidence)
    (planFingerprint : PlanFingerprint) (outcome : FinalizationOutcome) :
    Finalizing σ FinalizationReport := do
  match evidence.run.executionEvidenceFingerprint with
  | none =>
      throw (.evidence (.conflict "finalized run is missing its fingerprint"))
  | some stored => do
      Method.check ((requireWorkTerminal evidence).mapError .evidence)
      Method.check ((requireCheckpointFrontier evidence).mapError .evidence)
      Method.check ((requireNodesTerminal evidence).mapError .evidence)
      let (digest, summary) ← analyticsProjection world evidence
      let fingerprint ← Method.check
        ((finalFingerprint planFingerprint evidence summary).mapError .escaped)
      Method.check (require (fingerprint == stored)
        (.evidence (.conflict "replay evidence diverges from the stored run")))
      return replayReport evidence outcome (some stored) digest

/-- `_replay_failure`. -/
def replayFailure (evidence : FinalizationEvidence) :
    Except FinalizeError FinalizationReport := do
  (requireWorkTerminal evidence).mapError .evidence
  require (deriveOutcome evidence == .failed)
    (.evidence (.conflict "replay evidence diverges from the stored run"))
  require evidence.run.executionEvidenceFingerprint.isNone
    (.evidence (.conflict "failed run must not store a final fingerprint"))
  (requireCheckpointFrontier evidence).mapError .evidence
  (requireNodesTerminal evidence).mapError .evidence
  (requireAggregateConsistency evidence).mapError .evidence
  let digest ← (projectionDigest evidence).mapError .escaped
  .ok (replayReport evidence .failed none digest)

/-- `_replay_cancelled`. -/
def replayCancelled (evidence : FinalizationEvidence) :
    Except FinalizeError FinalizationReport := do
  (requireWorkTerminal evidence).mapError .evidence
  (requireCheckpointFrontier evidence).mapError .evidence
  (requireAggregateConsistency evidence).mapError .evidence
  require evidence.run.executionEvidenceFingerprint.isNone
    (.evidence (.conflict "cancelled run must not store a final fingerprint"))
  let digest ← (projectionDigest evidence).mapError .escaped
  .ok (replayReport evidence .cancelled none digest)

/-! ## Finalization -/

/-- `_now`. -/
def finalizationTime (run : RunRecord) : Finalizing σ Instant := do
  let answer ← askWorld world.now
  match answer with
  | .time now => do
      Method.check (require
        ((finalizationTimes run).all fun time => time ≤ now)
        (.evidence (.clock "finalization clock is behind durable run time")))
      return now
  | .failed => throw (.evidence (.clock "finalization clock failed"))
  | .invalid =>
      throw (.evidence (.clock "finalization clock returned an invalid time"))
  | .interrupted => throw .interrupted

/-- The fingerprint that a terminal transition stores. -/
def terminalFingerprint (planFingerprint : PlanFingerprint)
    (evidence : FinalizationEvidence) (summary : RunStatisticsSummary)
    (outcome : FinalizationOutcome) :
    Except FinalizeError (Option StateFingerprint) :=
  if outcome = .failed then .ok none
  else ((finalFingerprint planFingerprint evidence summary).map
    some).mapError .escaped

/-- What `_finalize_running` knows before it commits anything. -/
structure FinalizationPlan where
  transitionedAt : Instant
  projected : FinalizationEvidence
  outcome : FinalizationOutcome
  fingerprint : Option StateFingerprint
  sourceSha256 : Text

/-- The part of `_finalize_running` before its first command. -/
def planFinalization (evidence : FinalizationEvidence)
    (planFingerprint : PlanFingerprint) (correlation : Option Text) :
    Finalizing σ FinalizationPlan := do
  Method.check ((requireWorkTerminal evidence).mapError .evidence)
  Method.check ((requireCheckpointFrontier evidence).mapError .evidence)
  Method.check (requireHeadroom evidence (1 + evidence.emptyNodes.length))
  Method.check ((requireAggregateConsistency evidence).mapError .evidence)
  let transitionedAt ← finalizationTime world evidence.run
  let projected ← Method.check (projectEmptyNodes correlation transitionedAt
    evidence.emptyNodes evidence.run.rowVersion evidence)
  Method.check ((requireNodesTerminal projected).mapError .evidence)
  let (digest, summary) ← analyticsProjection world projected
  let outcome := deriveOutcome projected
  Method.check (requireDerivationAgreement projected summary)
  let fingerprint ← Method.check
    (terminalFingerprint planFingerprint projected summary outcome)
  return ⟨transitionedAt, projected, outcome, fingerprint, digest⟩

deriving instance DecidableEq for FinalizationEvidence

/-- The part of `_finalize_running` that commits. -/
def commitFinalization (evidence : FinalizationEvidence)
    (plan : FinalizationPlan) (correlation : Option Text) :
    Finalizing σ FinalizationReport := do
  let (advanced, submissionIds) ← finalizeEmptyNodes world correlation
    plan.transitionedAt evidence.emptyNodes evidence.run.rowVersion evidence []
  if advanced ≠ plan.projected then do
    markUncertain
    throw (.verification
      "empty-node commits diverged from their validated projection")
  else do
    let command ← Method.check (transitionCommand advanced
      plan.outcome.targetState plan.transitionedAt plan.fingerprint correlation)
    let (run, events, submissionId) ← executeTransition world command
      advanced.run
    return {
      action := .finalized
      outcome := plan.outcome
      run
      events
      submissionIds := submissionIds ++ [submissionId]
      fingerprint := plan.fingerprint
      sourceSha256 := plan.sourceSha256 }

/-- `_finalize_running`. -/
def finalizeRunning (evidence : FinalizationEvidence)
    (planFingerprint : PlanFingerprint) (correlation : Option Text) :
    Finalizing σ FinalizationReport := do
  let plan ← planFinalization world evidence planFingerprint correlation
  commitFinalization world evidence plan correlation

/-- `_read_evidence`. -/
def readFrontierEvidence (runId : RunId) : Finalizing σ FinalizationEvidence := do
  let answer ← askWorld fun state => world.read state runId
  match answer with
  | .evidence evidence => return evidence
  | .corrupt =>
      throw (.evidence (.conflict "durable finalization frontier is corrupt"))
  | .failed => throw (.stateRead "finalization frontier read failed")
  | .invalid => throw (.protocol "finalization frontier is invalid")
  | .interrupted => throw .interrupted

/-- The arguments of `finalize`. -/
structure FinalizeRequest where
  runId : RunId
  planNodes : List NodeId
  planFingerprint : PlanFingerprint
  correlationId : Option Text

def maxFinalizationCorrelationIdLength : Nat := 96

/-- `_validate_correlation_id` and `_validate_plan_nodes`. -/
def FinalizeRequest.validate (request : FinalizeRequest) :
    Except FinalizeError Unit := do
  require
    (request.correlationId.all fun correlation =>
      (1 ≤ correlation.length &&
        correlation.length ≤ maxFinalizationCorrelationIdLength) &&
        isPortableIdentity correlation)
    (.evidence (.invalidRequest
      "finalization correlation identifier is invalid"))
  require (!request.planNodes.isEmpty)
    (.evidence (.invalidRequest
      "finalization requires the captured plan nodes"))
  require
    (decide request.planNodes.Nodup &&
      request.planNodes.length ≤ maxFinalizationNodes)
    (.evidence (.invalidRequest
      "plan node identities must be unique and bounded"))

/-- What `finalize` does with the evidence, by the state of the run. -/
def finalizeEvidence (request : FinalizeRequest)
    (evidence : FinalizationEvidence) : Finalizing σ FinalizationReport :=
  match evidence.run.state with
  | .succeeded =>
      replaySuccess world evidence request.planFingerprint .succeeded
  | .partiallySucceeded =>
      replaySuccess world evidence request.planFingerprint .partiallySucceeded
  | .failed => Method.check (replayFailure evidence)
  | .cancelled => Method.check (replayCancelled evidence)
  | .cancelling =>
      throw (.evidence (.notReady
        "run cancellation must complete before finalization"))
  | .pausing | .paused | .resuming =>
      throw (.evidence (.invalidRequest
        "run must leave its pause lifecycle before finalization"))
  | .queued =>
      throw (.evidence (.invalidRequest "run has not started executing"))
  | .running =>
      finalizeRunning world evidence request.planFingerprint
        request.correlationId

/-- `RunFinalizer.finalize`; `overlaps` says that the lock was taken. -/
def finalize (request : FinalizeRequest) (overlaps : Bool) :
    Finalizing σ FinalizationReport := do
  Method.check request.validate
  Method.check (require (!overlaps)
    (.busy "finalizer already has an active operation"))
  let state ← get
  Method.check (require (!state.uncertain)
    (.outcomeUnknown "finalization requires durable recovery inspection"))
  let evidence ← readFrontierEvidence world request.runId
  Method.check (requirePlanNodes evidence request.planNodes)
  finalizeEvidence world request evidence

end Finalizer

end ParityGrid.Application
