import ParityGrid.Application.Execution.ResultAdmission

/-!
# The instant at which a lease expires

The coordinator and the factory let a result pass that was observed at the
very instant at which its lease expires; the durable claim check treats the
lease as expired from that instant on.  The two sides agree at every other
instant.
-/

namespace ParityGrid.Application

open ParityGrid.Foundation
open ParityGrid.Adapters.Persistence

/-! ## The wait for a commit -/

/-- What `ticket.result` does: return a receipt or raise. -/
inductive TicketAnswer where
  | receipt (acknowledges : Bool)
  | notExecuted
  | raised
deriving DecidableEq

/-- `_await_commit`. -/
def awaitCommit : TicketAnswer → Except ResultCoordinatorError Unit
  | .receipt true => .ok ()
  | .receipt false =>
      .error (.outcomeUnknown "writer durable commit outcome is unknown")
  | .notExecuted =>
      .error (.writerRetryable
        "writer proved the admitted command was not executed")
  | .raised =>
      .error (.outcomeUnknown "writer durable commit outcome is unknown")

/-- A dispatch that raises is rolled back, and its ticket raises the same. -/
def ticketAnswer {α : Type} : Except RepositoryError α → TicketAnswer
  | .ok _ => .receipt true
  | .error _ => .raised

/-! ## Rebasing -/

section Rebase

variable {coordinator : ResultCoordinator} {assignment : RegisteredAssignment}
  {submission : ResultSubmission} {frontier : RebasedFrontier}

/-- The evidence is that of the registered attempt, which still owns its work. -/
structure OwnEvidence (coordinator : ResultCoordinator)
    (assignment : RegisteredAssignment) (frontier : RebasedFrontier) :
    Prop where
  runId : frontier.runId = coordinator.runId
  nodeId : frontier.nodeId = assignment.identity.nodeId
  workItemId : frontier.workItemId = assignment.workItemId
  attemptNumber : frontier.attemptNumber = assignment.attemptNumber
  leaseFence : frontier.leaseFence = assignment.leaseFence
  leaseOwner : frontier.leaseOwner = assignment.leaseOwner
  owns : frontier.attemptState.owns = true

theorem requireOwnEvidence_eq_ok :
    coordinator.requireOwnEvidence assignment frontier = .ok () ↔
      OwnEvidence coordinator assignment frontier := by
  simp only [ResultCoordinator.requireOwnEvidence, check_bind_eq_ok,
    require_eq_ok, Bool.and_eq_true, beq_iff_eq]
  constructor
  · rintro ⟨⟨run, node⟩, item, attempt, fence, owner, owns⟩
    exact ⟨run, node, item, attempt, fence, owner, owns⟩
  · rintro ⟨run, node, item, attempt, fence, owner, owns⟩
    exact ⟨⟨run, node⟩, item, attempt, fence, owner, owns⟩

/-- `ResultStaleRejection`. -/
def ResultCoordinatorError.IsStale (error : ResultCoordinatorError) : Prop :=
  ∃ message, error = .stale message

/-- `ResultValidationRejection`. -/
def ResultCoordinatorError.IsValidation (error : ResultCoordinatorError) :
    Prop :=
  ∃ message, error = .validation message

theorem requireOwnEvidence_raises :
    RaisesOnly ResultCoordinatorError.IsStale
      (coordinator.requireOwnEvidence assignment frontier) := by
  have stale : ∀ message, (ResultCoordinatorError.stale message).IsStale :=
    fun message => ⟨message, rfl⟩
  unfold ResultCoordinator.requireOwnEvidence
  refine .bind (.require (stale _)) fun _ _ => ?_
  refine .bind (.require (stale _)) fun _ _ => ?_
  refine .bind (.require (stale _)) fun _ _ => ?_
  refine .bind (.require (stale _)) fun _ _ => ?_
  exact .bind (.require (stale _)) fun _ _ => .require (stale _)

/-- What is late, or not of the attempt, is stale. -/
theorem rebaseIntent_stale
    (late : ¬OwnEvidence coordinator assignment frontier ∨
      frontier.expiresAtMicros < frontier.observedAtMicros ∨
      assignment.deadlineMicros < frontier.observedAtMicros) :
    ∃ message, coordinator.rebaseIntent assignment submission frontier =
      .error (.stale message) := by
  unfold ResultCoordinator.rebaseIntent
  cases own : coordinator.requireOwnEvidence assignment frontier with
  | error error =>
      rcases requireOwnEvidence_raises error own with ⟨message, rfl⟩
      exact ⟨message, rfl⟩
  | ok _ =>
      rw [ok_bind]
      by_cases expired : frontier.observedAtMicros > frontier.expiresAtMicros
      · refine ⟨"rebased evidence shows the durable lease expired", ?_⟩
        simp only [expired, decide_true, Bool.not_true, require_false,
          error_bind]
      · have after : frontier.observedAtMicros > assignment.deadlineMicros := by
          rcases late with foreign | expires | after
          · exact (foreign (requireOwnEvidence_eq_ok.mp own)).elim
          · exact (expired expires).elim
          · exact after
        refine ⟨"work result arrived after the assignment deadline", ?_⟩
        simp only [expired, after, decide_true, decide_false, Bool.not_true,
          Bool.not_false, require_true, require_false, ok_bind, error_bind]

theorem rebaseIntent_eq_create
    (own : OwnEvidence coordinator assignment frontier)
    (leased : frontier.observedAtMicros ≤ frontier.expiresAtMicros)
    (timely : frontier.observedAtMicros ≤ assignment.deadlineMicros) :
    coordinator.rebaseIntent assignment submission frontier =
      CommitIntent.create
        (coordinator.intentFields assignment submission frontier) := by
  rw [ResultCoordinator.rebaseIntent, requireOwnEvidence_eq_ok.mpr own, ok_bind]
  simp only [not_lt.mpr leased, not_lt.mpr timely, decide_false, Bool.not_false,
    require_true, ok_bind]

theorem CommitIntent.create_eq_ok {fields : IntentFields}
    {intent : CommitIntent} :
    CommitIntent.create fields = .ok intent ↔ intent.toIntentFields = fields := by
  rw [CommitIntent.create]
  constructor
  · intro created
    split at created
    next => cases created
    next => cases created; rfl
  · rintro rfl
    split
    next error invalid =>
      rw [intent.valid] at invalid
      cases invalid
    next => rfl

theorem requireReferenceTuple_raises (values : List Text) (subject : String) :
    RaisesOnly ResultCoordinatorError.IsValidation
      (requireReferenceTuple values subject) := by
  refine .bind (.require ⟨_, rfl⟩) fun _ _ => .forM fun item _ => ?_
  exact .bind (.require ⟨_, rfl⟩) fun _ _ => .require ⟨_, rfl⟩

theorem requireResultText_raises (value : Text) (subject : String)
    (maximum : Nat) :
    RaisesOnly ResultCoordinatorError.IsValidation
      (requireResultText value subject maximum) :=
  .bind (.require ⟨_, rfl⟩) fun _ _ => .require ⟨_, rfl⟩

theorem validateIntent_raises (fields : IntentFields) :
    RaisesOnly ResultCoordinatorError.IsValidation (validateIntent fields) := by
  unfold validateIntent
  have texts := requireResultText_raises
  have ints : ∀ (value minimum maximum : Int) (subject : String),
      RaisesOnly ResultCoordinatorError.IsValidation
        (requireResultInt value minimum maximum subject) :=
    fun _ _ _ _ => .require ⟨_, rfl⟩
  refine .bind (texts _ _ _) fun _ _ => ?_
  refine .bind (.require ⟨_, rfl⟩) fun _ _ => ?_
  refine .bind (texts _ _ _) fun _ _ => .bind (texts _ _ _) fun _ _ => ?_
  refine .bind (texts _ _ _) fun _ _ => .bind (ints _ _ _ _) fun _ _ => ?_
  refine .bind (ints _ _ _ _) fun _ _ => .bind (texts _ _ _) fun _ _ => ?_
  refine .bind (ints _ _ _ _) fun _ _ => .bind (ints _ _ _ _) fun _ _ => ?_
  refine .bind (ints _ _ _ _) fun _ _ => .bind (ints _ _ _ _) fun _ _ => ?_
  refine .bind (ints _ _ _ _) fun _ _ => .bind (ints _ _ _ _) fun _ _ => ?_
  refine .bind (requireReferenceTuple_raises _ _) fun _ _ => ?_
  refine .bind (.require ⟨_, rfl⟩) fun _ _ => ?_
  refine .bind (texts _ _ _) fun _ _ => .bind (texts _ _ _) fun _ _ => ?_
  exact .bind (ints _ _ _ _) fun _ _ => ints _ _ _ _

theorem CommitIntent.create_not_stale {fields : IntentFields}
    {message : String} :
    CommitIntent.create fields ≠ .error (.stale message) := by
  rw [CommitIntent.create]
  split
  next error invalid =>
    rcases validateIntent_raises fields error invalid with ⟨text, rfl⟩
    intro same
    cases same
  next =>
    intro same
    cases same

end Rebase

/-! ## Building -/

section Build

variable [CasefoldRuntime]

/-- What the factory and the adapter ask of an intent, apart from its lease. -/
structure Compilable (intent : CommitIntent) : Prop where
  classified : ClassificationFits intent
  datable : Datable intent
  order : OrderFits intent
  metrics : MetricsFit intent.result
  named : Named intent
  checkpoint : if intent.outcome = .succeeded then
      intent.checkpointProposed = true ∧ CheckpointNamed intent
    else intent.checkpointProposed = false

/-- The factory and the adapter let the command of an intent pass. -/
def Builds (correlationId : Option Text) (intent : CommitIntent)
    (command : CommitCommand) : Prop :=
  buildCommitCommand correlationId intent = .ok command ∧
    validateAgainstIntent command intent = .ok ()

variable {correlationId : Option Text} {intent : CommitIntent}
  {command : CommitCommand}

theorem builds_of_compilable (compilable : Compilable intent)
    (lease : LeaseFits intent) :
    ∃ command, Builds correlationId intent command := by
  rcases build_eq_wrapCommand correlationId compilable.classified
    compilable.datable compilable.order lease compilable.metrics compilable.named
    with ⟨metrics, payload, built, values, _⟩
  have checkpoint := compilable.checkpoint
  split at checkpoint
  next succeeded =>
    rcases checkpoint with ⟨proposed, canonical⟩
    rcases intentCheckpoint_of_named canonical with ⟨artifactId, made, first⟩
    rw [wrapCommand_succeeded succeeded proposed, made, ok_bind] at built
    have base : (checkpointCommand correlationId intent compilable.named metrics
        payload (fittingCheckpoint intent canonical.1 artifactId)).base =
          fittingAttempt correlationId intent compilable.named metrics payload :=
      rfl
    exact ⟨_, built, validateAgainstIntent_of_carries base
      (checkpointCommand_carries values proposed canonical.1 first)⟩
  next unsuccessful =>
    rw [wrapCommand_attempt unsuccessful] at built
    have base : (attemptCommand correlationId intent compilable.named metrics
        payload).base =
          fittingAttempt correlationId intent compilable.named metrics payload :=
      rfl
    exact ⟨_, built, validateAgainstIntent_of_carries base
      (attemptCommand_carries values checkpoint)⟩

theorem wrapCommand_base {times : IntentTimes} {base : CommitWorkAttempt}
    (wrapped : wrapCommand intent times base = .ok command) :
    command.base = base := by
  unfold wrapCommand at wrapped
  split at wrapped
  next =>
    rcases bind_eq_ok.mp wrapped with ⟨_, _, wrapped⟩
    rcases bind_eq_ok.mp wrapped with ⟨_, _, wrapped⟩
    cases wrapped
    rfl
  next =>
    cases wrapped
    rfl

/-- Every command that the factory builds is the one of its intent. -/
theorem base_of_built
    (built : buildCommitCommand correlationId intent = .ok command) :
    ∃ named metrics payload, command.base =
      fittingAttempt correlationId intent named metrics payload := by
  rcases buildCommitCommand_cases correlationId intent with
    ⟨⟨message, rejected⟩, _⟩ | ⟨⟨error, escapes⟩, _⟩ |
      ⟨_, named, metrics, payload, wrapped, _⟩
  · rw [rejected] at built
    cases built
  · rw [escapes] at built
    cases built
  · rw [wrapped] at built
    exact ⟨named, metrics, payload, wrapCommand_base built⟩

end Build

/-! ## The durable lease -/

/-- The claim that the evidence of a frontier shows. -/
structure ClaimShown (claim : WorkClaim) (frontier : RebasedFrontier) :
    Prop where
  workItemId : claim.workItemId.value = frontier.workItemId
  attemptNumber : claim.attemptNumber.number = frontier.attemptNumber
  leaseOwner : claim.leaseOwner = frontier.leaseOwner
  rowVersion : claim.rowVersion = frontier.leaseFence
  startedAt : claim.startedAt = frontier.startedAtMicros
  leaseExpiresAt : claim.leaseExpiresAt = frontier.expiresAtMicros
  runnerKind : claim.runnerKind = frontier.runnerKind
  workerIdentity : claim.workerIdentity = frontier.workerIdentity

theorem attemptNumber_ext {left right : Domain.AttemptNumber}
    (equal : left.number = right.number) : left = right :=
  congrArg Domain.AttemptNumber.mk (Domain.PositiveSequence.ext equal)

/-- The evidence shows every field of the claim. -/
theorem ClaimShown.unique {left right : WorkClaim} {frontier : RebasedFrontier}
    (leftShown : ClaimShown left frontier)
    (rightShown : ClaimShown right frontier) : left = right := by
  have item : left.workItemId = right.workItemId :=
    Domain.Identifier.ext
      (leftShown.workItemId.trans rightShown.workItemId.symm)
  have number : left.attemptNumber = right.attemptNumber :=
    attemptNumber_ext
      (leftShown.attemptNumber.trans rightShown.attemptNumber.symm)
  cases left
  cases right
  cases item
  cases number
  cases leftShown.leaseOwner.trans rightShown.leaseOwner.symm
  cases leftShown.rowVersion.trans rightShown.rowVersion.symm
  cases leftShown.startedAt.trans rightShown.startedAt.symm
  cases leftShown.leaseExpiresAt.trans rightShown.leaseExpiresAt.symm
  cases leftShown.runnerKind.trans rightShown.runnerKind.symm
  cases leftShown.workerIdentity.trans rightShown.workerIdentity.symm
  rfl

section Durable

variable [CasefoldRuntime]

/-- The stored row behind the evidence: it runs under the claim that it shows. -/
structure DurableLease (frontier : RebasedFrontier) where
  tables : ExecutionTables
  claim : WorkClaim
  current : WorkItemRecord
  shown : ClaimShown claim frontier
  found : requireWork tables claim.workItemId claim.rowVersion = .ok current
  running : current.state = .running
  active : claimMatches current claim = true
  monotonic : current.updatedAt ≤ frontier.observedAtMicros

variable {frontier : RebasedFrontier} (lease : DurableLease frontier)

/-- The durable claim check passes at the time of the observation. -/
def DurableLease.Honoured : Prop :=
  Returns (requireClaim lease.tables lease.claim frontier.observedAtMicros)

theorem DurableLease.requireClaim_eq :
    requireClaim lease.tables lease.claim frontier.observedAtMicros =
      if frontier.observedAtMicros < frontier.expiresAtMicros then
        .ok lease.current
      else .error (.leaseLost "work claim has expired") := by
  have state : (lease.current.state == .running) = true :=
    beq_iff_eq.mpr lease.running
  rw [requireClaim, lease.found, ok_bind]
  simp only [state, lease.active, lease.monotonic, decide_true, require_true,
    ok_bind, lease.shown.leaseExpiresAt]
  split
  next honoured => simp only [honoured, decide_true, require_true, ok_bind]; rfl
  next expired => simp only [expired, decide_false, require_false, error_bind]

theorem DurableLease.honoured_iff :
    lease.Honoured ↔ frontier.observedAtMicros < frontier.expiresAtMicros := by
  rw [DurableLease.Honoured, lease.requireClaim_eq]
  split
  next honoured => exact iff_of_true ⟨_, rfl⟩ honoured
  next expired =>
    refine iff_of_false ?_ expired
    rintro ⟨_, impossible⟩
    cases impossible

end Durable

/-! ## Both sides -/

section Agreement

variable [CasefoldRuntime]

/-- The coordinator, the factory and the adapter let a result pass. -/
def ReachesWriter (correlationId : Option Text)
    (coordinator : ResultCoordinator) (assignment : RegisteredAssignment)
    (submission : ResultSubmission) (frontier : RebasedFrontier)
    (command : CommitCommand) : Prop :=
  ∃ intent,
    coordinator.rebaseIntent assignment submission frontier = .ok intent ∧
      Builds correlationId intent command

/-- Everything but the lease lets a result pass. -/
structure Ready (coordinator : ResultCoordinator)
    (assignment : RegisteredAssignment) (submission : ResultSubmission)
    (frontier : RebasedFrontier) : Prop where
  own : OwnEvidence coordinator assignment frontier
  timely : frontier.observedAtMicros ≤ assignment.deadlineMicros
  compilable : ∃ intent : CommitIntent,
    intent.toIntentFields =
        coordinator.intentFields assignment submission frontier ∧
      Compilable intent

/-- Both sides decide alike whether the lease of a result has expired. -/
structure LeaseAgrees (correlationId : Option Text)
    (coordinator : ResultCoordinator) (assignment : RegisteredAssignment)
    (submission : ResultSubmission) {frontier : RebasedFrontier}
    (lease : DurableLease frontier) : Prop where
  /-- The store honours the claim of every command that reaches the writer. -/
  honoured : ∀ command,
    ReachesWriter correlationId coordinator assignment submission frontier
      command →
    Returns (requireClaim lease.tables command.base.claim
      command.base.completion.finishedAt)
  /-- A ready result whose lease the store honours reaches the writer. -/
  reaches : Ready coordinator assignment submission frontier →
    lease.Honoured →
    ∃ command, ReachesWriter correlationId coordinator assignment submission
      frontier command
  /-- A result whose lease the store treats as expired is stale. -/
  stale : ¬lease.Honoured →
    ∃ message, coordinator.rebaseIntent assignment submission frontier =
      .error (.stale message)

variable {correlationId : Option Text} {coordinator : ResultCoordinator}
  {assignment : RegisteredAssignment} {submission : ResultSubmission}
  {frontier : RebasedFrontier}

omit [CasefoldRuntime] in
theorem rebaseIntent_eq_ok {intent : CommitIntent} :
    coordinator.rebaseIntent assignment submission frontier = .ok intent ↔
      OwnEvidence coordinator assignment frontier ∧
      frontier.observedAtMicros ≤ frontier.expiresAtMicros ∧
      frontier.observedAtMicros ≤ assignment.deadlineMicros ∧
      intent.toIntentFields =
        coordinator.intentFields assignment submission frontier := by
  simp only [ResultCoordinator.rebaseIntent, check_bind_eq_ok,
    requireOwnEvidence_eq_ok, require_eq_ok, Bool.not_eq_true',
    decide_eq_false_iff_not, not_lt, gt_iff_lt, CommitIntent.create_eq_ok]

omit [CasefoldRuntime] in
theorem namedClaim_shown {intent : CommitIntent}
    (rebased : coordinator.rebaseIntent assignment submission frontier =
      .ok intent)
    (named : Domain.validateIdentifier .workItem intent.workItemId = .ok ()) :
    ClaimShown (namedClaim intent named) frontier := by
  rcases rebaseIntent_eq_ok.mp rebased with ⟨own, _, _, fields⟩
  constructor
  case workItemId =>
    exact (congrArg IntentFields.workItemId fields).trans own.workItemId.symm
  case attemptNumber => exact congrArg IntentFields.attemptNumber fields
  case leaseOwner => exact congrArg IntentFields.leaseOwner fields
  case rowVersion => exact congrArg IntentFields.leaseFence fields
  case startedAt => exact congrArg IntentFields.startedAtMicros fields
  case leaseExpiresAt => exact congrArg IntentFields.leaseExpiresAtMicros fields
  case runnerKind => exact congrArg IntentFields.runnerKind fields
  case workerIdentity => exact congrArg IntentFields.workerIdentity fields

/-- The command that reaches the writer carries the claim of the evidence. -/
theorem reaches_claim (lease : DurableLease frontier) {command : CommitCommand}
    (reaches : ReachesWriter correlationId coordinator assignment submission
      frontier command) :
    command.base.claim = lease.claim ∧
      command.base.completion.finishedAt = frontier.observedAtMicros := by
  rcases reaches with ⟨intent, rebased, built, _⟩
  rcases base_of_built built with ⟨named, metrics, payload, base⟩
  rw [base]
  refine ⟨(namedClaim_shown rebased named.1).unique lease.shown, ?_⟩
  rcases rebaseIntent_eq_ok.mp rebased with ⟨_, _, _, fields⟩
  exact congrArg IntentFields.observedAtMicros fields

/--
The two sides agree, unless a result that is otherwise in time is observed at
the very instant at which its lease expires.
-/
theorem leaseAgrees_iff (correlationId : Option Text)
    (coordinator : ResultCoordinator) (assignment : RegisteredAssignment)
    (submission : ResultSubmission) {frontier : RebasedFrontier}
    (lease : DurableLease frontier) :
    LeaseAgrees correlationId coordinator assignment submission lease ↔
      frontier.observedAtMicros ≠ frontier.expiresAtMicros ∨
        ¬OwnEvidence coordinator assignment frontier ∨
        assignment.deadlineMicros < frontier.observedAtMicros := by
  constructor
  · intro agrees
    by_contra boundary
    push Not at boundary
    rcases boundary with ⟨same, own, timely⟩
    have dishonoured : ¬lease.Honoured := by
      rw [lease.honoured_iff, same]
      exact lt_irrefl _
    rcases agrees.stale dishonoured with ⟨message, rejected⟩
    rw [rebaseIntent_eq_create own same.le timely] at rejected
    exact CommitIntent.create_not_stale rejected
  · intro apart
    constructor
    case honoured =>
      intro command reaches
      rcases reaches_claim lease reaches with ⟨claim, finished⟩
      rw [claim, finished]
      show lease.Honoured
      rcases reaches with ⟨intent, rebased, _⟩
      rcases rebaseIntent_eq_ok.mp rebased with ⟨own, leased, timely, _⟩
      rw [lease.honoured_iff]
      rcases apart with different | foreign | after
      · exact lt_of_le_of_ne leased different
      · exact (foreign own).elim
      · exact (not_lt.mpr timely after).elim
    case reaches =>
      rintro ⟨own, timely, intent, fields, compilable⟩ honoured
      have before := lease.honoured_iff.mp honoured
      have rebased : coordinator.rebaseIntent assignment submission frontier =
          .ok intent :=
        rebaseIntent_eq_ok.mpr ⟨own, before.le, timely, fields⟩
      have leased : LeaseFits intent := by
        rw [LeaseFits, fields]
        exact before.le
      rcases builds_of_compilable compilable leased with ⟨command, builds⟩
      exact ⟨command, intent, rebased, builds⟩
    case stale =>
      intro dishonoured
      rw [lease.honoured_iff, not_lt] at dishonoured
      apply rebaseIntent_stale
      rcases apart with different | foreign | after
      · exact .inr (.inl (lt_of_le_of_ne dishonoured different.symm))
      · exact .inl foreign
      · exact .inr (.inr after)

end Agreement

/-! ## A result at the last instant -/

section Samples

/-- Evidence that was read at the instant at which the lease expires. -/
def boundaryEvidence : RebasedFrontier where
  toRebasedFields := evidenceAt 5000
  valid := by decide +kernel

attribute [local instance] asciiCasefoldRuntime

def boundaryWork : WorkItemRecord where
  workItemId := ⟨text "wrk_one", sampleWork_valid⟩
  runId := ⟨text "run_first", sampleRun_valid⟩
  nodeId := ⟨text "nod_extract", sampleNode_valid⟩
  partitionKey := ⟨text "page-1", samplePage_valid⟩
  state := .running
  rowVersion := 2
  completedAttemptCount := 0
  expectedCheckpointVersion := 1
  inputReference := none
  retryAvailableAt := none
  leaseOwner := some (text "engine")
  leaseExpiresAt := some 5000
  activeAttemptNumber := some ⟨⟨1, firstNumber_valid⟩⟩
  activeAttemptStartedAt := some 1000
  activeRunnerKind := some (text "threaded")
  activeWorkerIdentity := some (text "worker-1")
  createdAt := 0
  updatedAt := 1000

/-- The tables in which that work item runs. -/
def boundaryTables : ExecutionTables :=
  { runningTables with
    run := { runningTables.run with rowVersion := 1 }
    work := [boundaryWork]
    heads := [{
      nodeId := ⟨text "nod_extract", sampleNode_valid⟩
      partitionKey := ⟨text "page-1", samplePage_valid⟩
      currentVersion := 1
      rowVersion := 1
      updatedAt := 0 }] }

def boundaryLease : DurableLease boundaryEvidence where
  tables := boundaryTables
  claim := {
    workItemId := ⟨text "wrk_one", sampleWork_valid⟩
    attemptNumber := ⟨⟨1, firstNumber_valid⟩⟩
    leaseOwner := text "engine"
    rowVersion := 2
    startedAt := 1000
    leaseExpiresAt := 5000
    runnerKind := text "threaded"
    workerIdentity := text "worker-1" }
  current := boundaryWork
  shown := ⟨rfl, rfl, rfl, rfl, rfl, rfl, rfl, rfl⟩
  found := toOption_eq_some.mp (by decide +kernel)
  running := rfl
  active := by decide +kernel
  monotonic := by decide

/--
The result passes every check of the coordinator, the factory and the adapter;
the store then finds its lease expired, and its commit ends as unknown.
-/
theorem last_instant_disagrees :
    letI : CasefoldRuntime := asciiCasefoldRuntime
    ¬LeaseAgrees none sampleCoordinator sampleRegistration
        sampleResultSubmission boundaryLease ∧
      ∃ command,
        ReachesWriter none sampleCoordinator sampleRegistration
            sampleResultSubmission boundaryEvidence command ∧
          completeClaim boundaryTables command.base.claim
              command.base.completion =
            .error (.leaseLost "work claim has expired") ∧
          awaitCommit (ticketAnswer (completeClaim boundaryTables
              command.base.claim command.base.completion)) =
            .error (.outcomeUnknown
              "writer durable commit outcome is unknown") := by
  have rebased : Returns (sampleCoordinator.rebaseIntent sampleRegistration
      sampleResultSubmission boundaryEvidence) :=
    returns_of_isSome (by decide)
  rcases rebased with ⟨intent, rebased⟩
  refine ⟨fun agrees => ?_, ?_⟩
  · have dishonoured : ¬boundaryLease.Honoured := by
      rw [boundaryLease.honoured_iff]
      decide
    rcases agrees.stale dishonoured with ⟨message, rejected⟩
    rw [rebased] at rejected
    cases rejected
  · have passes : ((sampleCoordinator.rebaseIntent sampleRegistration
        sampleResultSubmission boundaryEvidence).toOption.bind fun intent =>
          (buildCommitCommand none intent).toOption.map fun command =>
            ((validateAgainstIntent command intent).toOption,
              decide (completeClaim boundaryTables command.base.claim
                command.base.completion =
                  .error (.leaseLost "work claim has expired")))) =
        some (some (), true) := by
      decide +kernel
    rw [rebased] at passes
    cases built : buildCommitCommand none intent with
    | error error => simp [Except.toOption, built] at passes
    | ok command =>
        simp only [toOption_eq_some.mpr rfl, Option.bind_some, built,
          Option.map_some, Option.some.injEq, Prod.mk.injEq] at passes
        have expired := of_decide_eq_true passes.2
        refine ⟨command, ⟨intent, rebased, built,
          toOption_eq_some.mp passes.1⟩, expired, ?_⟩
        rw [expired]
        rfl

end Samples

end ParityGrid.Application
