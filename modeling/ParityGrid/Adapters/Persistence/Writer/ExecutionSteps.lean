import ParityGrid.Adapters.Persistence.Writer.ExecutionCommands
import ParityGrid.Foundation.KeyedRows

/-!
# What a committed command does to the work items

A command that commits leaves the work items as they are, adds one, or moves
the one that it names; the event, the node and the run that it also writes are
other rows.
-/

namespace ParityGrid.Adapters.Persistence

open ParityGrid.Foundation ParityGrid.Application
open ParityGrid.Domain (AttemptNumber NodeId WorkItemId)

section Steps

variable [CasefoldRuntime]

/-! ## The rows of a work item -/

theorem ExecutionTables.findWork_id {tables : ExecutionTables}
    {workItemId : WorkItemId} {work : WorkItemRecord}
    (found : tables.findWork workItemId = some work) :
    work.workItemId = workItemId :=
  KeyedRows.find_key found

/-- A written row is found under its identity. -/
theorem ExecutionTables.findWork_setWork {tables : ExecutionTables}
    {workItemId : WorkItemId} {current work : WorkItemRecord}
    (found : tables.findWork workItemId = some current)
    (same : work.workItemId = current.workItemId) :
    (tables.setWork work).findWork workItemId = some work := by
  have named : work.workItemId = workItemId :=
    same.trans (findWork_id found)
  subst named
  exact KeyedRows.find_replace_self found

/-- Writing one row leaves the others. -/
theorem ExecutionTables.findWork_setWork_other {tables : ExecutionTables}
    {workItemId : WorkItemId} {work : WorkItemRecord}
    (apart : work.workItemId ≠ workItemId) :
    (tables.setWork work).findWork workItemId = tables.findWork workItemId :=
  KeyedRows.find_replace_other apart

/-- A claim is held: the row shows exactly this lease, which has not run out. -/
structure HoldsClaim (tables : ExecutionTables) (claim : WorkClaim)
    (observedAt : Instant) (current : WorkItemRecord) : Prop where
  found : tables.findWork claim.workItemId = some current
  coherent : validateWorkItemCoherence current = .ok ()
  verified : verifyWork tables current = .ok ()
  running : current.state = .running
  version : current.rowVersion = claim.rowVersion
  attempt : current.activeAttemptNumber = some claim.attemptNumber
  owner : current.leaseOwner = some claim.leaseOwner
  started : current.activeAttemptStartedAt = some claim.startedAt
  expires : current.leaseExpiresAt = some claim.leaseExpiresAt
  runner : current.activeRunnerKind = some claim.runnerKind
  worker : current.activeWorkerIdentity = some claim.workerIdentity
  monotonic : current.updatedAt ≤ observedAt
  leased : observedAt < claim.leaseExpiresAt

theorem requireClaim_holds {tables : ExecutionTables} {claim : WorkClaim}
    {observedAt : Instant} {current : WorkItemRecord}
    (required : requireClaim tables claim observedAt = .ok current) :
    HoldsClaim tables claim observedAt current := by
  simp only [requireClaim, bind_eq_ok, require_eq_ok, beq_iff_eq,
    decide_eq_true_eq, pure, Except.pure, Except.ok.injEq] at required
  obtain ⟨row, read, _, running, _, matching, _, monotonic, _, leased, rfl⟩ :=
    required
  obtain ⟨found, coherent, verified, version⟩ := requireWork_eq_ok.mp read
  simp only [claimMatches, Bool.and_eq_true, beq_iff_eq] at matching
  obtain ⟨⟨⟨⟨⟨⟨⟨_, attempt⟩, owner⟩, _⟩, started⟩, expires⟩, runner⟩, worker⟩ :=
    matching
  exact ⟨found, coherent, verified, running, version, attempt, owner, started,
    expires, runner, worker, monotonic, leased⟩

/-- The row that a renewal writes. -/
def renewedWork (current : WorkItemRecord)
    (renewedAt leaseExpiresAt : Instant) : WorkItemRecord :=
  { current with
    leaseExpiresAt := some leaseExpiresAt
    updatedAt := renewedAt
    rowVersion := current.rowVersion + 1 }

/-- The row of a work item behind its checkpoint. -/
def checkpointedWork (work : WorkItemRecord) (committedAt : Instant) :
    WorkItemRecord :=
  { work with
    expectedCheckpointVersion := work.expectedCheckpointVersion + 1
    rowVersion := work.rowVersion + 1
    updatedAt := committedAt }

/-- The row that a completion leaves, before any checkpoint. -/
def completedWork (current : WorkItemRecord) (completion : WorkCompletion) :
    WorkItemRecord :=
  releasedWork current completion.targetState completion.retryAvailableAt
    completion.finishedAt

/-- The row that a recovery leaves. -/
def recoveredWork (current : WorkItemRecord) (command : RecoverExpiredWork) :
    WorkItemRecord :=
  releasedWork current .retryWait (some command.retryAvailableAt)
    command.observedAt

/-! ## The history of one work item -/

/-- A state that no command leaves. -/
def Settled (state : Domain.WorkItemState) : Prop :=
  state = .succeeded ∨ state = .quarantined ∨ state = .failed ∨
    state = .cancelled

/-- A row is the same, or a later revision of the same attempt or a later one. -/
structure Succeeds (old new : WorkItemRecord) : Prop where
  workItemId : new.workItemId = old.workItemId
  version : old.rowVersion ≤ new.rowVersion
  completed : old.completedAttemptCount ≤ new.completedAttemptCount
  final : Settled old.state → new = old

theorem Succeeds.refl (work : WorkItemRecord) : Succeeds work work :=
  ⟨rfl, le_refl _, le_refl _, fun _ => rfl⟩

theorem Succeeds.trans {first second third : WorkItemRecord}
    (earlier : Succeeds first second) (later : Succeeds second third) :
    Succeeds first third := by
  refine ⟨later.workItemId.trans earlier.workItemId,
    earlier.version.trans later.version,
    earlier.completed.trans later.completed, ?_⟩
  intro settled
  have stays := earlier.final settled
  exact (later.final (stays ▸ settled)).trans stays

/-- A row that is one or more revisions ahead. -/
structure Overtakes (old new : WorkItemRecord) : Prop extends
    Succeeds old new where
  ahead : old.rowVersion < new.rowVersion

theorem Overtakes.of_ahead {old new : WorkItemRecord}
    (workItemId : new.workItemId = old.workItemId)
    (ahead : old.rowVersion < new.rowVersion)
    (completed : old.completedAttemptCount ≤ new.completedAttemptCount)
    (unsettled : ¬ Settled old.state) : Overtakes old new :=
  ⟨⟨workItemId, le_of_lt ahead, completed,
    fun settled => absurd settled unsettled⟩, ahead⟩

/-! ## Moves of one work item -/

/-- The life of a work item, one command at a time. -/
inductive WorkMove (tables : ExecutionTables) :
    ExecutionCommand → WorkItemRecord → WorkItemRecord → Prop
  | claim {command : ClaimWork} {current : WorkItemRecord}
      (waiting : current.state = .pending ∨ current.state = .retryWait)
      (later : current.updatedAt ≤ command.startedAt)
      (numbered : command.expectedAttemptNumber.number =
        current.completedAttemptCount + 1) :
      WorkMove tables (.claim command) current
        (claimedWork current (leaseOf command) command.expectedAttemptNumber)
  | renew {command : RenewWorkClaim} {current : WorkItemRecord}
      (held : HoldsClaim tables command.claim command.renewedAt current)
      (advances : current.updatedAt < command.renewedAt) :
      WorkMove tables (.renew command) current
        (renewedWork current command.renewedAt command.leaseExpiresAt)
  | commit {command : CommitCommand} {current : WorkItemRecord}
      {outcome : AttemptOutcome}
      (held : HoldsClaim tables command.base.claim
        command.base.completion.finishedAt current)
      (target : targetOutcome command.base.completion.targetState =
        some outcome)
      (plain : command.checkpoint? = none) :
      WorkMove tables (.commit command) current
        (completedWork current command.base.completion)
  | checkpoint {command : CommitCommand} {current : WorkItemRecord}
      {outcome : AttemptOutcome} {write : CheckpointWrite}
      (held : HoldsClaim tables command.base.claim
        command.base.completion.finishedAt current)
      (target : targetOutcome command.base.completion.targetState =
        some outcome)
      (checkpointed : command.checkpoint? = some write) :
      WorkMove tables (.commit command) current
        (checkpointedWork (completedWork current command.base.completion)
          write.committedAt)
  | recover {command : RecoverExpiredWork} {current : WorkItemRecord}
      {expires : Instant}
      (found : tables.findWork command.workItemId = some current)
      (coherent : validateWorkItemCoherence current = .ok ())
      (running : current.state = .running)
      (active : current.activeAttemptNumber =
        some command.expectedAttemptNumber)
      (leased : current.leaseExpiresAt = some expires)
      (expired : expires ≤ command.observedAt) :
      WorkMove tables (.recover command) current
        (recoveredWork current command)

/-- Only a row that waits or runs is moved. -/
theorem WorkMove.unsettled {tables : ExecutionTables}
    {command : ExecutionCommand} {current new : WorkItemRecord}
    (moves : WorkMove tables command current new) :
    ¬ Settled current.state := by
  cases moves with
  | claim waiting => rcases waiting with same | same <;> simp [same, Settled]
  | renew held => simp [held.running, Settled]
  | commit held => simp [held.running, Settled]
  | checkpoint held => simp [held.running, Settled]
  | recover _ _ running => simp [running, Settled]

theorem WorkMove.overtakes {tables : ExecutionTables}
    {command : ExecutionCommand} {current new : WorkItemRecord}
    (moves : WorkMove tables command current new) : Overtakes current new := by
  have unsettled := moves.unsettled
  have ends : current.completedAttemptCount ≤
      current.completedAttemptCount + 1 := Int.le_of_lt (Int.lt_succ _)
  cases moves with
  | claim => exact .of_ahead rfl (Int.lt_succ _) (le_refl _) unsettled
  | renew => exact .of_ahead rfl (Int.lt_succ _) (le_refl _) unsettled
  | commit => exact .of_ahead rfl (Int.lt_succ _) ends unsettled
  | checkpoint =>
      refine .of_ahead rfl ?_ ends unsettled
      change current.rowVersion < current.rowVersion + 1 + 1
      omega
  | recover => exact .of_ahead rfl (Int.lt_succ _) ends unsettled

/-- The work item that a command creates or moves. -/
def commandItem : ExecutionCommand → Option WorkItemId
  | .transition _ => none
  | .bootstrap command => some command.workItemId
  | .claim command => some command.workItemId
  | .renew command => some command.claim.workItemId
  | .commit command => some command.base.claim.workItemId
  | .recover command => some command.workItemId
  | .finalizeEmpty _ => none

/-- What a command does to the work items. -/
inductive WorkRows (tables : ExecutionTables) (command : ExecutionCommand) :
    List WorkItemRecord → Prop
  | kept (plain : (∃ arrow, command = .transition arrow) ∨
        ∃ empty, command = .finalizeEmpty empty) :
      WorkRows tables command tables.work
  | created {creation : BootstrapWork}
      {reference : Option ConfigurationDocument}
      (same : command = .bootstrap creation)
      (newItem : tables.findWork creation.workItemId = none)
      (newPartition :
        tables.findPartition creation.nodeId creation.partitionKey = none) :
      WorkRows tables command (tables.work ++ [newWork creation reference])
  | moved {current new : WorkItemRecord}
      (item : commandItem command = some current.workItemId)
      (found : tables.findWork current.workItemId = some current)
      (moves : WorkMove tables command current new) :
      WorkRows tables command (tables.setWork new).work

/-- Every work item has an identity of its own. -/
def Keyed (tables : ExecutionTables) : Prop :=
  (tables.work.map fun row => row.workItemId).Nodup

theorem Keyed.setWork {tables : ExecutionTables} (keyed : Keyed tables)
    (work : WorkItemRecord) : Keyed (tables.setWork work) := by
  have keys := @KeyedRows.keys_replace _ _ _ (fun row => row.workItemId)
    tables.work work
  rw [Keyed, ← keys] at keyed
  exact keyed

/-! ## Repositories -/

theorem createWork_rows {tables after : ExecutionTables}
    {command : BootstrapWork} {work : WorkItemRecord}
    (created : createWork tables command = .ok (after, work)) :
    WorkRows tables (.bootstrap command) after.work ∧
      after.run = tables.run := by
  simp only [createWork, bind_eq_ok] at created
  obtain ⟨reference, _, rest⟩ := created
  split at rest
  next => cases rest
  next node parent =>
    simp only [bind_eq_ok, require_eq_ok, mapError_eq_ok, Bool.and_eq_true,
      Option.isNone_iff_eq_none, Except.ok.injEq, Prod.mk.injEq] at rest
    obtain ⟨_, _, _, _, _, _, _, _, _, ⟨newItem, newPartition⟩, _, _, rfl, _⟩ :=
      rest
    exact ⟨.created rfl newItem newPartition, rfl⟩

theorem claimWork_rows {tables after : ExecutionTables}
    {command : ClaimWork} {claim : WorkClaim}
    (claimed : claimWork tables command.workItemId
      command.expectedWorkRowVersion (leaseOf command) = .ok (after, claim))
    (given : claim.attemptNumber = command.expectedAttemptNumber) :
    WorkRows tables (.claim command) after.work ∧
      after.run = tables.run := by
  simp only [claimWork, bind_eq_ok, require_eq_ok, Bool.or_eq_true, beq_iff_eq,
    decide_eq_true_eq, attemptNumber_eq_ok, Except.ok.injEq, Prod.mk.injEq]
    at claimed
  obtain ⟨_, _, _, _, _, _, current, read, _, waiting, _, _, _, _, _,
    later, _, _, _, _, _, _, attempt, numbered, _, _, record, shown, rfl,
    rfl⟩ := claimed
  obtain ⟨found, _⟩ := requireWork_eq_ok.mp read
  simp only [claimFromRecord, claimedWork, check_bind_eq_ok, require_eq_ok,
    pure, Except.pure, Except.ok.injEq] at shown
  have attempt_eq : attempt = command.expectedAttemptNumber := by
    rw [← given, ← shown.2]
  subst attempt_eq
  have named := ExecutionTables.findWork_id found
  exact ⟨.moved (congrArg some named.symm) (named ▸ found)
    (.claim waiting later numbered), rfl⟩

theorem renewClaim_rows {tables after : ExecutionTables}
    {command : RenewWorkClaim} {renewed : WorkClaim}
    (done : renewClaim tables command.claim command.renewedAt
      command.leaseExpiresAt = .ok (after, renewed)) :
    WorkRows tables (.renew command) after.work ∧
      after.run = tables.run := by
  simp only [renewClaim, bind_eq_ok, require_eq_ok, decide_eq_true_eq,
    Except.ok.injEq, Prod.mk.injEq] at done
  obtain ⟨current, required, _, advances, _, _, _, _, _, _, record, _, rfl,
    _⟩ := done
  have held := requireClaim_holds required
  have named := ExecutionTables.findWork_id held.found
  exact ⟨.moved (congrArg some named.symm) (named ▸ held.found)
    (.renew held advances), rfl⟩

theorem completeClaim_spec {tables after : ExecutionTables}
    {claim : WorkClaim} {completion : WorkCompletion}
    {completed : CompletedWork}
    (done : completeClaim tables claim completion = .ok (after, completed)) :
    ∃ current outcome,
      HoldsClaim tables claim completion.finishedAt current ∧
      targetOutcome completion.targetState = some outcome ∧
      completed.workItem = completedWork current completion ∧
      after.work = (tables.setWork (completedWork current completion)).work ∧
      after.run = tables.run := by
  simp only [completeClaim, bind_eq_ok] at done
  obtain ⟨current, required, rest⟩ := done
  have held := requireClaim_holds required
  split at rest
  next => cases rest
  next outcome target =>
    simp only [bind_eq_ok, Except.ok.injEq, Prod.mk.injEq] at rest
    obtain ⟨_, _, _, _, _, _, _, _, _, _, _, _, duration, _, _, _, _, _, rfl,
      rfl⟩ := rest
    exact ⟨current, outcome, held, target, rfl, rfl, rfl⟩

theorem recoverExpiredClaim_rows {tables after : ExecutionTables}
    {command : RecoverExpiredWork} {completed : CompletedWork}
    (done : recoverExpiredClaim tables command.workItemId
      command.expectedWorkRowVersion command.expectedAttemptNumber
      command.observedAt command.retryAvailableAt command.redactedDetail =
        .ok (after, completed)) :
    WorkRows tables (.recover command) after.work ∧
      after.run = tables.run := by
  simp only [recoverExpiredClaim, bind_eq_ok, require_eq_ok, beq_iff_eq,
    decide_eq_true_eq, Except.ok.injEq, Prod.mk.injEq] at done
  obtain ⟨_, _, current, read, _, running, claim, shown, _, same, _, expired, _,
    _, _, _, duration, _, _, _, rfl, _⟩ := done
  obtain ⟨found, coherent, _⟩ := requireWork_eq_ok.mp read
  have named := ExecutionTables.findWork_id found
  simp only [claimFromRecord] at shown
  split at shown
  next owner expires attempt started kind worker _ leased active _ _ _ =>
    simp only [check_bind_eq_ok, require_eq_ok, pure, Except.pure,
      Except.ok.injEq] at shown
    obtain ⟨_, rfl⟩ := shown
    exact ⟨.moved (congrArg some named.symm) (named ▸ found)
      (.recover found coherent running (active.trans (congrArg some same))
        leased expired), rfl⟩
  next => cases shown

/-- A checkpoint is installed on the row that the completion left. -/
theorem appendCommandCheckpoint_work {tables after : ExecutionTables}
    {work : WorkItemRecord} {checkpoint : Option CheckpointWrite}
    {commit : Option CheckpointCommit} (keyed : Keyed tables)
    (found : tables.findWork work.workItemId = some work)
    (appended : appendCommandCheckpoint tables work checkpoint =
      .ok (after, commit))
    (same : ∀ installed ∈ commit,
      installed.work.workItemId = work.workItemId) :
    after.run = tables.run ∧
      (checkpoint = none ∧ after.work = tables.work ∨
        ∃ write, checkpoint = some write ∧ after.work =
          (tables.setWork (checkpointedWork work write.committedAt)).work) := by
  cases checkpoint with
  | none =>
      simp only [appendCommandCheckpoint, Except.ok.injEq, Prod.mk.injEq]
        at appended
      obtain ⟨rfl, _⟩ := appended
      exact ⟨rfl, .inl ⟨rfl, rfl⟩⟩
  | some write =>
      simp only [appendCommandCheckpoint, bind_eq_ok, require_eq_ok,
        beq_iff_eq, pure, Except.pure, Except.ok.injEq, Prod.mk.injEq]
        at appended
      obtain ⟨_, _, ⟨middle, installed⟩, done, rfl, rfl⟩ := appended
      have named := same installed rfl
      have single : ∀ row, tables.findPartition work.nodeId
          work.partitionKey = some row →
            row.workItemId = work.workItemId → row = work := by
        intro row partition same
        have here := KeyedRows.find_of_mem keyed
          (List.mem_of_find?_eq_some partition)
        rw [same] at here
        exact Option.some.inj (here.symm.trans found)
      simp only [appendCheckpoint, bind_eq_ok] at done
      obtain ⟨_, _, _, _, _, _, source, _, output, _, rest⟩ := done
      split at rest
      next => cases rest
      next row head partition _ =>
        simp only [bind_eq_ok] at rest
        obtain ⟨_, _, _, _, _, _, _, _, _, _, _, _, rest⟩ := rest
        split at rest
        · simp only [Except.ok.injEq, Prod.mk.injEq] at rest
          obtain ⟨rfl, rfl⟩ := rest
          rw [single row partition named]
          exact ⟨rfl, .inr ⟨write, rfl, rfl⟩⟩
        · simp only [bind_eq_ok, Except.ok.injEq, Prod.mk.injEq] at rest
          obtain ⟨_, _, rfl, rfl⟩ := rest
          rw [single row partition named]
          exact ⟨rfl, .inr ⟨write, rfl, rfl⟩⟩
      next => cases rest

/-! ## The other rows -/

/-- A write beside the work items and the run. -/
structure Aside (before after : ExecutionTables) : Prop where
  work : after.work = before.work
  run : after.run = before.run

theorem Aside.trans {first second third : ExecutionTables}
    (earlier : Aside first second) (later : Aside second third) :
    Aside first third :=
  ⟨later.work.trans earlier.work, later.run.trans earlier.run⟩

/-- An append touches the log only. -/
theorem appendEvent_aside {tables after : ExecutionTables}
    {request : EventAppendRequest} {batch : ExecutionEventBatch}
    (appended : appendEvent tables request = .ok (after, batch)) :
    Aside tables after := by
  rcases appendEvent_eq_ok appended with ⟨_, _, _, rfl⟩ | ⟨_, rfl⟩
  · exact ⟨rfl, rfl⟩
  · exact ⟨rfl, rfl⟩

theorem updateNode_aside {tables after : ExecutionTables}
    {node updated : RunNodeRecord} {aggregate : NodeAggregate}
    {status : RunNodeStatus} {startedAt finishedAt : Option Instant}
    {delta : WorkMetricDelta}
    (done : updateNode tables node aggregate status startedAt finishedAt
      delta = .ok (after, updated)) : Aside tables after := by
  simp only [updateNode] at done
  split at done
  next => cases done
  next =>
    simp only [bind_eq_ok, Except.ok.injEq, Prod.mk.injEq] at done
    obtain ⟨_, _, rfl, _⟩ := done
    exact ⟨rfl, rfl⟩

theorem registerWork_aside {tables after : ExecutionTables}
    {installed : WorkItemRecord} {node : RunNodeRecord} {expected : Int}
    (done : registerWork tables installed expected = .ok (after, node)) :
    Aside tables after := by
  simp only [registerWork, bind_eq_ok] at done
  obtain ⟨_, _, read, _, rest⟩ := done
  split at rest
  next => cases rest
  next =>
    simp only [bind_eq_ok] at rest
    obtain ⟨_, _, _, _, _, _, _, _, _, _, _, _, written⟩ := rest
    exact updateNode_aside written

theorem applyClaim_aside {tables after : ExecutionTables}
    {claim : WorkClaim} {node : RunNodeRecord} {expected : Int}
    (done : applyClaim tables claim expected = .ok (after, node)) :
    Aside tables after := by
  simp only [applyClaim, bind_eq_ok] at done
  obtain ⟨read, _, rest⟩ := done
  split at rest
  next => cases rest
  next =>
    simp only [bind_eq_ok] at rest
    obtain ⟨_, _, _, _, _, _, _, _, _, _, _, _, written⟩ := rest
    exact updateNode_aside written

theorem applyCompletion_aside {tables after : ExecutionTables}
    {completed : CompletedWork} {checkpoint : Option CheckpointCommit}
    {node : RunNodeRecord} {expected : Int} {metrics : WorkMetricDelta}
    (done : applyCompletion tables completed checkpoint expected metrics =
      .ok (after, node)) :
    Aside tables after ∧ ∀ installed ∈ checkpoint,
      installed.work.workItemId = completed.workItem.workItemId := by
  simp only [applyCompletion, bind_eq_ok] at done
  obtain ⟨read, _, rest⟩ := done
  split at rest
  next => cases rest
  next durable =>
    simp only [bind_eq_ok] at rest
    obtain ⟨_, fits, _, _, _, _, _, _, _, _, rest⟩ := rest
    split at rest
    next =>
      simp only [bind_eq_ok] at rest
      obtain ⟨_, _, _, _, written⟩ := rest
      refine ⟨updateNode_aside written, ?_⟩
      rintro installed rfl
      simp only [validateCompletedWork, bind_eq_ok, require_eq_ok,
        Bool.and_eq_true, beq_iff_eq] at fits
      tauto
    next => cases rest

theorem applyRecovery_aside {tables after : ExecutionTables}
    {completed : CompletedWork} {node : RunNodeRecord} {expected : Int}
    (done : applyRecovery tables completed expected = .ok (after, node)) :
    Aside tables after := by
  simp only [applyRecovery, bind_eq_ok] at done
  obtain ⟨_, _, read, _, rest⟩ := done
  split at rest
  next => cases rest
  next =>
    simp only [bind_eq_ok] at rest
    obtain ⟨_, _, _, _, _, _, _, _, _, _, rest⟩ := rest
    split at rest
    next => exact updateNode_aside rest
    next => cases rest

theorem finalizeEmpty_aside {tables after : ExecutionTables}
    {nodeId : NodeId} {node : RunNodeRecord} {expected : Int}
    {finalizedAt : Instant}
    (done : finalizeEmpty tables nodeId expected finalizedAt =
      .ok (after, node)) : Aside tables after := by
  simp only [finalizeEmpty, bind_eq_ok] at done
  obtain ⟨_, _, _, _, _, _, _, _, _, _, _, _, written⟩ := done
  exact updateNode_aside written

/-! ## Handlers -/

/-- What a command leaves when it commits: the run is one revision further. -/
structure Commits (tables : ExecutionTables) (command : ExecutionCommand)
    (after : ExecutionTables) : Prop where
  rows : WorkRows tables command after.work
  named : command.expectedRun = tables.run.rowVersion
  next : after.run.rowVersion = tables.run.rowVersion + 1
  arrow : after.run.state = tables.run.state ∨
    canTransitionRun tables.run.state after.run.state

/-- Every command but a transition ends with the next revision of the run. -/
theorem Commits.of_advance {tables middle after : ExecutionTables}
    {command : ExecutionCommand}
    (rows : WorkRows tables command middle.work)
    (run : middle.run = tables.run)
    (advanced : advanceRun middle command.expectedRun = .ok after) :
    Commits tables command after := by
  obtain ⟨_, _, named, rfl⟩ := advanceRun_eq_ok.mp advanced
  rw [run] at named
  have state : middle.run.state = tables.run.state := by rw [run]
  refine ⟨rows, named.symm, ?_, .inl state⟩
  rw [named]

theorem transitionCommand_commits {tables after : ExecutionTables}
    {command : TransitionRun} {result : ExecutionResult}
    (done : transitionCommand tables command = .ok (after, result)) :
    Commits tables (.transition command) after := by
  simp only [transitionCommand, bind_eq_ok, pure, Except.pure, Except.ok.injEq,
    Prod.mk.injEq] at done
  obtain ⟨moved, transitioned, ⟨logged, _⟩, appended, rfl, _⟩ := done
  obtain ⟨_, named, arrow, _, _, _, _, _, rfl⟩ :=
    transitionRun_eq_ok.mp transitioned
  have aside := appendEvent_aside appended
  refine ⟨?_, named.symm, ?_, .inr ?_⟩
  · rw [aside.work]
    exact .kept (.inl ⟨_, rfl⟩)
  · rw [aside.run]
    rfl
  · rw [aside.run]
    exact arrow

theorem bootstrapWork_commits {tables after : ExecutionTables}
    {command : BootstrapWork} {result : ExecutionResult}
    (done : bootstrapWork tables command = .ok (after, result)) :
    Commits tables (.bootstrap command) after := by
  simp only [bootstrapWork, bind_eq_ok, mapError_eq_ok, pure, Except.pure,
    Except.ok.injEq, Prod.mk.injEq] at done
  obtain ⟨⟨created, work⟩, creates, _, _, ⟨logged, _⟩, appended,
    ⟨counted, _⟩, registered, _, advanced, rfl, _⟩ := done
  obtain ⟨rows, run⟩ := createWork_rows creates
  have aside :=
    (appendEvent_aside appended).trans (registerWork_aside registered)
  exact .of_advance (aside.work ▸ rows) (aside.run.trans run) advanced

theorem claimCommand_commits {tables after : ExecutionTables}
    {command : ClaimWork} {result : ExecutionResult}
    (done : claimCommand tables command = .ok (after, result)) :
    Commits tables (.claim command) after := by
  simp only [claimCommand, bind_eq_ok, require_eq_ok, beq_iff_eq, pure,
    Except.pure, Except.ok.injEq, Prod.mk.injEq] at done
  obtain ⟨⟨claimed, claim⟩, claims, _, expected, _, _, ⟨logged, _⟩,
    appended, ⟨counted, _⟩, applied, _, advanced, rfl, _⟩ := done
  obtain ⟨rows, run⟩ := claimWork_rows claims expected
  have aside := (appendEvent_aside appended).trans (applyClaim_aside applied)
  exact .of_advance (aside.work ▸ rows) (aside.run.trans run) advanced

theorem renewCommand_commits {tables after : ExecutionTables}
    {command : RenewWorkClaim} {result : ExecutionResult}
    (done : renewCommand tables command = .ok (after, result)) :
    Commits tables (.renew command) after := by
  simp only [renewCommand, bind_eq_ok, pure, Except.pure, Except.ok.injEq,
    Prod.mk.injEq] at done
  obtain ⟨⟨renewed, claim⟩, renews, _, _, ⟨logged, _⟩, appended, _,
    advanced, rfl, _⟩ := done
  obtain ⟨rows, run⟩ := renewClaim_rows renews
  have aside := appendEvent_aside appended
  exact .of_advance (aside.work ▸ rows) (aside.run.trans run) advanced

theorem commitCommand_commits {tables after : ExecutionTables}
    {command : CommitCommand} {result : ExecutionResult} (keyed : Keyed tables)
    (done : commitCommand tables command = .ok (after, result)) :
    Commits tables (.commit command) after := by
  simp only [commitCommand, bind_eq_ok, pure, Except.pure, Except.ok.injEq,
    Prod.mk.injEq] at done
  obtain ⟨⟨released, completed⟩, completes, _, _, ⟨installed, checkpoint⟩,
    installs, ⟨logged, _⟩, appended, ⟨counted, _⟩, applied, _, advanced, rfl,
    _⟩ := done
  obtain ⟨current, outcome, held, target, work_eq, rows, run⟩ :=
    completeClaim_spec completes
  obtain ⟨counts, same⟩ := applyCompletion_aside applied
  have aside := (appendEvent_aside appended).trans counts
  have named := ExecutionTables.findWork_id held.found
  have item : commandItem (.commit command) = some current.workItemId :=
    congrArg some named.symm
  have found := held.found
  rw [← named] at found
  have still : Keyed released := by
    rw [Keyed, rows]
    exact keyed.setWork _
  have stands : released.findWork completed.workItem.workItemId =
      some completed.workItem := by
    rw [ExecutionTables.findWork, rows, work_eq]
    exact ExecutionTables.findWork_setWork found rfl
  obtain ⟨run', installed_work⟩ :=
    appendCommandCheckpoint_work still stands installs same
  refine .of_advance ?_ ((aside.run.trans run').trans run) advanced
  rw [aside.work]
  rcases installed_work with ⟨plain, kept⟩ | ⟨write, some_, lifted⟩
  · rw [kept, rows]
    exact .moved item found (.commit held target plain)
  · have twice : installed.work = (tables.setWork (checkpointedWork
        (completedWork current command.base.completion)
        write.committedAt)).work := by
      rw [lifted, work_eq, ExecutionTables.setWork, rows]
      exact KeyedRows.replace_replace rfl
    rw [twice]
    exact .moved item found (.checkpoint held target some_)

theorem recoverCommand_commits {tables after : ExecutionTables}
    {command : RecoverExpiredWork} {result : ExecutionResult}
    (done : recoverCommand tables command = .ok (after, result)) :
    Commits tables (.recover command) after := by
  simp only [recoverCommand, bind_eq_ok, pure, Except.pure, Except.ok.injEq,
    Prod.mk.injEq] at done
  obtain ⟨⟨released, completed⟩, recovers, _, _, ⟨logged, _⟩, appended,
    ⟨counted, _⟩, applied, _, advanced, rfl, _⟩ := done
  obtain ⟨rows, run⟩ := recoverExpiredClaim_rows recovers
  have aside :=
    (appendEvent_aside appended).trans (applyRecovery_aside applied)
  exact .of_advance (aside.work ▸ rows) (aside.run.trans run) advanced

theorem finalizeEmptyCommand_commits {tables after : ExecutionTables}
    {command : FinalizeEmptyRunNode} {result : ExecutionResult}
    (done : finalizeEmptyCommand tables command = .ok (after, result)) :
    Commits tables (.finalizeEmpty command) after := by
  simp only [finalizeEmptyCommand, bind_eq_ok, pure, Except.pure,
    Except.ok.injEq, Prod.mk.injEq] at done
  obtain ⟨⟨logged, _⟩, appended, ⟨counted, _⟩, finalized, _, advanced, rfl,
    _⟩ := done
  have aside :=
    (appendEvent_aside appended).trans (finalizeEmpty_aside finalized)
  exact .of_advance (aside.work ▸ .kept (.inr ⟨_, rfl⟩)) aside.run advanced

/-- Whatever a command does when it commits. -/
theorem dispatchCommand_commits {tables after : ExecutionTables}
    {command : ExecutionCommand} {result : ExecutionResult}
    (keyed : Keyed tables)
    (done : dispatchCommand tables command = .ok (after, result)) :
    Commits tables command after := by
  simp only [dispatchCommand, bind_eq_ok, mapError_eq_ok] at done
  obtain ⟨_, _, rest⟩ := done
  cases command with
  | transition command => exact transitionCommand_commits (by simpa using rest)
  | bootstrap command => exact bootstrapWork_commits rest
  | claim command => exact claimCommand_commits (by simpa using rest)
  | renew command => exact renewCommand_commits (by simpa using rest)
  | commit command => exact commitCommand_commits keyed (by simpa using rest)
  | recover command => exact recoverCommand_commits (by simpa using rest)
  | finalizeEmpty command =>
      exact finalizeEmptyCommand_commits (by simpa using rest)

end Steps

end ParityGrid.Adapters.Persistence
