import ParityGrid.Adapters.Persistence.Writer.ExecutionSteps
import ParityGrid.Foundation.Transition

/-!
# Lease fencing

The tables of one run change by the commands that commit on them.  A claim is
a capability for one revision of its work item: every later mutation of the
item, by whichever owner or recovery and by whichever clock, makes it stale.
-/

namespace ParityGrid.Adapters.Persistence

open ParityGrid.Foundation ParityGrid.Application
open ParityGrid.Domain (AttemptNumber NodeId RunId WorkItemId)

/-- `RUN_TRANSITIONS` has no arrow out of a terminal state. -/
theorem terminal_leaves {state target : Domain.RunState}
    (ended : isTerminalRun state) : canTransitionRun state target = false := by
  cases state with
  | succeeded | partiallySucceeded | failed | cancelled =>
      cases target <;> rfl
  | _ => cases ended

section Runs

variable [CasefoldRuntime]

/-! ## Runs of commands -/

/-- What may happen to the tables of one run. -/
inductive ExecutionLabel where
  | command (command : ExecutionCommand)
  /-- The manifests are written by another repository. -/
  | artifacts (rows : List ArtifactKey)

/--
The commands on one run.  A command that raises is rolled back, and one on
another run touches none of these rows; neither is a step.
-/
def executionSystem : TransitionSystem ExecutionTables ExecutionLabel where
  Initial tables := ∃ parent command batch,
    createCapturedRun parent command = .ok (tables, batch)
  Step tables label after :=
    match label with
    | .command command =>
        command.runId = tables.run.runId ∧
          ∃ result, dispatchCommand tables command = .ok (after, result)
    | .artifacts rows => after = { tables with artifacts := rows }

theorem executionSystem_commits {tables after : ExecutionTables}
    {command : ExecutionCommand} (keyed : Keyed tables)
    (step : executionSystem.Step tables (.command command) after) :
    Commits tables command after := by
  obtain ⟨_, result, done⟩ := step
  exact dispatchCommand_commits keyed done

theorem createCapturedRun_work {parent : Option PipelineParent}
    {command : CreateCapturedRun} {tables : ExecutionTables}
    {batch : ExecutionEventBatch}
    (created : createCapturedRun parent command = .ok (tables, batch)) :
    tables.work = [] := by
  simp only [createCapturedRun, createRun, bind_eq_ok] at created
  obtain ⟨_, _, before, ⟨_, _, _, _, _, _, _, _, _, _, rest⟩, appended⟩ :=
    created
  rw [(appendEvent_aside appended).work]
  split at rest
  next => cases rest
  next =>
    simp only [bind_eq_ok, pure, Except.pure, Except.ok.injEq] at rest
    obtain ⟨_, _, _, _, _, _, rfl⟩ := rest
    rfl

theorem keyed_reachable {tables : ExecutionTables}
    (reached : executionSystem.Reachable tables) : Keyed tables := by
  apply reached.invariant
  · rintro state ⟨parent, command, batch, created⟩
    rw [Keyed, createCapturedRun_work created]
    exact List.nodup_nil
  · intro state label next _ keyed step
    cases label with
    | command command =>
        have rows := (executionSystem_commits keyed step).rows
        rw [Keyed]
        generalize next.work = after at rows ⊢
        cases rows with
        | kept => exact keyed
        | created _ newItem =>
            rw [List.map_append, List.map_singleton, List.nodup_append]
            refine ⟨keyed, List.nodup_singleton _, ?_⟩
            intro id member other single same
            rw [List.mem_singleton.mp single] at same
            obtain ⟨row, inside, named⟩ := List.mem_map.mp member
            exact KeyedRows.find_eq_none.mp newItem row inside
              (named.trans same)
        | moved => exact keyed.setWork _
    | artifacts rows => exact step ▸ keyed

/-! ## Every later revision -/

theorem succeeds_of_step {tables after : ExecutionTables}
    {command : ExecutionCommand} (keyed : Keyed tables)
    (step : executionSystem.Step tables (.command command) after)
    {workItemId : WorkItemId}
    {old : WorkItemRecord} (found : tables.findWork workItemId = some old) :
    ∃ new, after.findWork workItemId = some new ∧ Succeeds old new := by
  have rows := (executionSystem_commits keyed step).rows
  rw [ExecutionTables.findWork]
  generalize after.work = table at rows ⊢
  cases rows with
  | kept => exact ⟨old, found, .refl old⟩
  | created => exact ⟨old, KeyedRows.find_append_of_find found, .refl old⟩
  | @moved current new item stands moves =>
      have overtakes := moves.overtakes
      by_cases same : current.workItemId = workItemId
      · subst same
        have old_eq : current = old := Option.some.inj (stands.symm.trans found)
        subst old_eq
        exact ⟨new, ExecutionTables.findWork_setWork stands
          overtakes.workItemId, overtakes.toSucceeds⟩
      · have apart : new.workItemId ≠ workItemId :=
          overtakes.workItemId.symm ▸ same
        exact ⟨old, (ExecutionTables.findWork_setWork_other apart).trans found,
          .refl old⟩

/-- Wherever a run leads, a row is found again at a later revision. -/
theorem succeeds_of_leads {tables later : ExecutionTables}
    (reached : executionSystem.Reachable tables)
    (leads : executionSystem.Leads tables later) {workItemId : WorkItemId}
    {old : WorkItemRecord} (found : tables.findWork workItemId = some old) :
    executionSystem.Reachable later ∧
      ∃ new, later.findWork workItemId = some new ∧ Succeeds old new := by
  induction leads with
  | refl => exact ⟨reached, old, found, .refl old⟩
  | @step state next label _ step ih =>
      obtain ⟨here, middle, stands, earlier⟩ := ih
      refine ⟨here.step step, ?_⟩
      cases label with
      | command command =>
          obtain ⟨new, shown, later⟩ :=
            succeeds_of_step (keyed_reachable here) step stands
          exact ⟨new, shown, earlier.trans later⟩
      | artifacts rows =>
          cases step
          exact ⟨middle, stands, earlier⟩

/-! ## Fencing -/

/-- The claim that a command relies on, and the time it acts at. -/
def usedClaim : ExecutionCommand → Option (WorkClaim × Instant)
  | .renew command => some (command.claim, command.renewedAt)
  | .commit command =>
      some (command.base.claim, command.base.completion.finishedAt)
  | _ => none

/-- The running attempt is the one behind those that are complete. -/
theorem coherent_attempt {work : WorkItemRecord} {attempt : AttemptNumber}
    (coherent : validateWorkItemCoherence work = .ok ())
    (active : work.activeAttemptNumber = some attempt) :
    attempt.number = work.completedAttemptCount + 1 := by
  simp only [validateWorkItemCoherence, check_bind_eq_ok] at coherent
  obtain ⟨_, coherent⟩ := coherent
  split at coherent
  next _ _ _ _ _ _ _ _ numbered _ _ _ =>
    simp only [check_bind_eq_ok, require_eq_ok, beq_iff_eq] at coherent
    obtain ⟨_, counts, _⟩ := coherent
    rw [numbered] at active
    cases active
    exact counts
  next _ _ _ _ _ _ _ _ unnumbered _ _ _ =>
    rw [unnumbered] at active
    cases active
  next =>
    simp only [check_bind_eq_ok] at coherent
    cases coherent.1

/-- A claim that is used: it is held, and it leaves a later revision. -/
theorem claim_used {tables after : ExecutionTables}
    {command : ExecutionCommand} {claim : WorkClaim} {observedAt : Instant}
    (keyed : Keyed tables)
    (step : executionSystem.Step tables (.command command) after)
    (uses : usedClaim command = some (claim, observedAt)) :
    ∃ current new, HoldsClaim tables claim observedAt current ∧
      after.findWork claim.workItemId = some new ∧ Overtakes current new ∧
      ((∃ commit, command = .commit commit) →
        new.completedAttemptCount = current.completedAttemptCount + 1) := by
  have rows := (executionSystem_commits keyed step).rows
  rw [ExecutionTables.findWork]
  generalize after.work = table at rows ⊢
  cases rows with
  | kept plain =>
      rcases plain with ⟨_, rfl⟩ | ⟨_, rfl⟩ <;> cases uses
  | created same =>
      cases same
      cases uses
  | @moved current new item stands moves =>
      have overtakes := moves.overtakes
      have written := ExecutionTables.findWork_setWork stands
        overtakes.workItemId
      cases moves with
      | claim => cases uses
      | renew held =>
          cases uses
          rw [ExecutionTables.findWork_id held.found] at written
          refine ⟨current, _, held, written, overtakes, ?_⟩
          rintro ⟨commit, same⟩
          cases same
      | commit held =>
          cases uses
          rw [ExecutionTables.findWork_id held.found] at written
          exact ⟨current, _, held, written, overtakes, fun _ => rfl⟩
      | checkpoint held =>
          cases uses
          rw [ExecutionTables.findWork_id held.found] at written
          exact ⟨current, _, held, written, overtakes, fun _ => rfl⟩
      | recover => cases uses

/-- Any claim that is used from a row on is of a later revision and attempt. -/
theorem later_use {tables later final : ExecutionTables}
    {rival : ExecutionCommand} {claim : WorkClaim} {time : Instant}
    {row : WorkItemRecord}
    (reached : executionSystem.Reachable tables)
    (leads : executionSystem.Leads tables later)
    (found : tables.findWork claim.workItemId = some row)
    (step : executionSystem.Step later (.command rival) final)
    (uses : usedClaim rival = some (claim, time)) :
    row.rowVersion ≤ claim.rowVersion ∧
      row.completedAttemptCount < claim.attemptNumber.number := by
  obtain ⟨here, new, stands, succeeds⟩ :=
    succeeds_of_leads reached leads found
  obtain ⟨current, _, held, _⟩ :=
    claim_used (keyed_reachable here) step uses
  have same : current = new := Option.some.inj (held.found.symm.trans stands)
  subst same
  have numbered := coherent_attempt held.coherent held.attempt
  have version := succeeds.version
  have completed := succeeds.completed
  have shown := held.version
  omega

/--
A command that relies on a claim commits only while the row of its work item
shows exactly that lease, and strictly before the lease expires.  Whatever
happens afterwards, no claim of that revision or an earlier one is ever used
again, and once an attempt has been completed, none of its claims.
-/
theorem lease_fences {tables after : ExecutionTables}
    {command : ExecutionCommand} {claim : WorkClaim} {observedAt : Instant}
    (reached : executionSystem.Reachable tables)
    (step : executionSystem.Step tables (.command command) after)
    (uses : usedClaim command = some (claim, observedAt)) :
    (∃ current, HoldsClaim tables claim observedAt current) ∧
    ∀ later rival final other time,
      executionSystem.Leads after later →
      executionSystem.Step later (.command rival) final →
      usedClaim rival = some (other, time) →
      other.workItemId = claim.workItemId →
      claim.rowVersion < other.rowVersion ∧
        claim.attemptNumber.number ≤ other.attemptNumber.number ∧
        ((∃ commit, command = .commit commit) →
          claim.attemptNumber.number < other.attemptNumber.number) := by
  obtain ⟨current, new, held, written, overtakes, ends⟩ :=
    claim_used (keyed_reachable reached) step uses
  refine ⟨⟨current, held⟩, ?_⟩
  intro later rival final other time leads moves used same
  rw [← same] at written
  obtain ⟨version, attempt⟩ :=
    later_use (reached.step step) leads written moves used
  have numbered := coherent_attempt held.coherent held.attempt
  have shown := held.version
  have ahead := overtakes.ahead
  have completed := overtakes.completed
  refine ⟨by omega, by omega, ?_⟩
  intro committed
  have counts := ends committed
  omega

/--
A recovery takes an attempt back only once its lease has expired, and then no
claim of that attempt is ever used again.
-/
theorem recovery_revokes {tables after : ExecutionTables}
    {command : RecoverExpiredWork}
    (reached : executionSystem.Reachable tables)
    (step : executionSystem.Step tables (.command (.recover command)) after) :
    (∃ current expires,
      tables.findWork command.workItemId = some current ∧
      current.state = .running ∧
      current.activeAttemptNumber = some command.expectedAttemptNumber ∧
      current.leaseExpiresAt = some expires ∧ expires ≤ command.observedAt) ∧
    ∀ later rival final other time,
      executionSystem.Leads after later →
      executionSystem.Step later (.command rival) final →
      usedClaim rival = some (other, time) →
      other.workItemId = command.workItemId →
      command.expectedAttemptNumber.number < other.attemptNumber.number := by
  have keyed := keyed_reachable reached
  have rows := (executionSystem_commits keyed step).rows
  have found_eq : ∀ id, after.findWork id =
      KeyedRows.find (fun row => row.workItemId) after.work id := fun _ => rfl
  generalize after.work = table at rows found_eq
  cases rows with
  | kept plain => rcases plain with ⟨_, same⟩ | ⟨_, same⟩ <;> cases same
  | created same => cases same
  | @moved current new item stands moves =>
      cases moves with
      | @recover _ _ expires found coherent running active leased expired =>
          refine ⟨⟨current, expires, found, running, active, leased,
            expired⟩, ?_⟩
          intro later rival final other time leads moves used same
          have written := ExecutionTables.findWork_setWork found
            (rfl : (recoveredWork current command).workItemId =
              current.workItemId)
          rw [← same] at written
          have shown : after.findWork other.workItemId =
              some (recoveredWork current command) :=
            (found_eq _).trans written
          obtain ⟨_, attempt⟩ :=
            later_use (reached.step step) leads shown moves used
          have numbered := coherent_attempt coherent active
          change current.completedAttemptCount + 1 < _ at attempt
          omega

/-! ## Settled items and checkpoints -/

/--
A work item that has succeeded, failed, or been quarantined or cancelled is
never written again: whatever commands follow, its row stays as it is.
-/
theorem settled_items_are_final {tables later : ExecutionTables}
    {workItemId : WorkItemId} {work : WorkItemRecord}
    (reached : executionSystem.Reachable tables)
    (found : tables.findWork workItemId = some work)
    (settled : Settled work.state)
    (leads : executionSystem.Leads tables later) :
    later.findWork workItemId = some work := by
  obtain ⟨_, new, stands, succeeds⟩ := succeeds_of_leads reached leads found
  rw [succeeds.final settled] at stands
  exact stands

/-- An item has the version one of its checkpoint once it has succeeded. -/
def Checkpointed (row : WorkItemRecord) : Prop :=
  row.state ≠ .leased ∧
    row.expectedCheckpointVersion = if row.state = .succeeded then 1 else 0

/-- What a commit asks for is a checkpoint exactly when the item succeeds. -/
theorem validateCompletionCommand_target {command : CommitCommand}
    (valid : validateCompletionCommand command = .ok ()) :
    command.checkpoint?.isSome ↔
      command.base.completion.targetState = .succeeded := by
  simp only [validateCompletionCommand, bind_eq_ok] at valid
  obtain ⟨_, _, _, _, _, _, _, _, kind, named, _⟩ := valid
  cases command with
  | attempt attempt =>
      simp only [completionEventKind, bind_eq_ok, require_eq_ok, bne_iff_ne,
        ne_eq] at named
      obtain ⟨_, failed, _⟩ := named
      constructor
      · intro some_
        cases some_
      · intro same
        exact absurd same failed
  | withCheckpoint checkpointed =>
      simp only [completionEventKind, bind_eq_ok, require_eq_ok, beq_iff_eq]
        at named
      obtain ⟨_, succeeded, _⟩ := named
      exact ⟨fun _ => succeeded, fun _ => rfl⟩

theorem WorkMove.checkpointed {tables : ExecutionTables}
    {command : ExecutionCommand} {current new : WorkItemRecord}
    (valid : validateCommand command = .ok ())
    (moves : WorkMove tables command current new)
    (holds : Checkpointed current) : Checkpointed new := by
  have zero : current.expectedCheckpointVersion = 0 := by
    have other : current.state ≠ .succeeded :=
      fun same => moves.unsettled (.inl same)
    have shown := holds.2
    rw [if_neg other] at shown
    exact shown
  have durable : ∀ {state : Domain.WorkItemState} {outcome : AttemptOutcome},
      targetOutcome state = some outcome → state ≠ .leased := by
    rintro state outcome target rfl
    cases target
  cases moves with
  | claim => exact ⟨by simp [claimedWork], by simp [claimedWork, zero]⟩
  | renew held =>
      have running := held.running
      exact ⟨by simp [renewedWork, running],
        by simp [renewedWork, running, zero]⟩
  | @commit command _ outcome held target plain =>
      have failed : command.base.completion.targetState ≠ .succeeded := by
        rw [ne_eq, ← validateCompletionCommand_target valid, plain]
        simp
      refine ⟨durable target, ?_⟩
      change current.expectedCheckpointVersion =
        if command.base.completion.targetState = .succeeded then 1 else 0
      rw [if_neg failed]
      exact zero
  | @checkpoint command _ outcome write held target some_ =>
      have succeeded : command.base.completion.targetState = .succeeded := by
        rw [← validateCompletionCommand_target valid, some_]
        rfl
      refine ⟨durable target, ?_⟩
      change current.expectedCheckpointVersion + 1 =
        if command.base.completion.targetState = .succeeded then 1 else 0
      rw [if_pos succeeded, zero]
      rfl
  | recover =>
      exact ⟨by simp [recoveredWork, releasedWork],
        by simp [recoveredWork, releasedWork, zero]⟩

/--
In every reachable state each work item has the version one of its checkpoint
if it succeeded and none if it did not, and none is left as only leased.
-/
theorem checkpoint_iff_succeeded {tables : ExecutionTables}
    (reached : executionSystem.Reachable tables) :
    ∀ row ∈ tables.work, Checkpointed row := by
  apply reached.invariant
  · rintro state ⟨parent, command, batch, created⟩
    simp [createCapturedRun_work created]
  · intro state label next here holds step
    cases label with
    | command command =>
        have rows := (executionSystem_commits (keyed_reachable here) step).rows
        have valid : validateCommand command = .ok () := by
          obtain ⟨_, result, done⟩ := step
          simp only [dispatchCommand, bind_eq_ok, mapError_eq_ok] at done
          exact done.choose_spec.1
        generalize next.work = table at rows ⊢
        intro row inside
        cases rows with
        | kept => exact holds row inside
        | created =>
            rcases List.mem_append.mp inside with before | last
            · exact holds row before
            · rw [List.mem_singleton.mp last]
              exact ⟨by simp [newWork], by simp [newWork]⟩
        | moved item found moves =>
            rcases KeyedRows.mem_replace inside with rfl | ⟨before, _⟩
            · exact moves.checkpointed valid
                (holds _ (KeyedRows.find_mem found))
            · exact holds row before
    | artifacts rows =>
        cases step
        exact holds

/-! ## Revisions of the run -/

/-- Wherever a run leads, its revision grows, and once ended it stays so. -/
theorem run_of_leads {tables later : ExecutionTables}
    (reached : executionSystem.Reachable tables)
    (leads : executionSystem.Leads tables later) :
    executionSystem.Reachable later ∧
      tables.run.rowVersion ≤ later.run.rowVersion ∧
      (isTerminalRun tables.run.state →
        later.run.state = tables.run.state) := by
  induction leads with
  | refl => exact ⟨reached, le_refl _, fun _ => rfl⟩
  | @step state next label _ step ih =>
      obtain ⟨here, grows, stays⟩ := ih
      refine ⟨here.step step, ?_⟩
      cases label with
      | command command =>
          have commits :=
            executionSystem_commits (keyed_reachable here) step
          have further := commits.next
          refine ⟨by omega, ?_⟩
          intro ended
          have same := stays ended
          rcases commits.arrow with kept | arrow
          · exact kept.trans same
          · rw [same] at arrow
            rw [terminal_leaves ended] at arrow
            cases arrow
      | artifacts rows =>
          cases step
          exact ⟨grows, stays⟩

/--
Commands are serialised by the revision of their run: each commits on the
revision that it names and leaves the next one, and no later command ever
commits on that revision again.
-/
theorem commands_are_serial {tables after : ExecutionTables}
    {command : ExecutionCommand}
    (reached : executionSystem.Reachable tables)
    (step : executionSystem.Step tables (.command command) after) :
    tables.run.rowVersion = command.expectedRun ∧
      after.run.rowVersion = command.expectedRun + 1 ∧
      ∀ later rival final,
        executionSystem.Leads after later →
        executionSystem.Step later (.command rival) final →
        command.expectedRun < rival.expectedRun := by
  have commits := executionSystem_commits (keyed_reachable reached) step
  have named := commits.named
  have next := commits.next
  refine ⟨named.symm, by omega, ?_⟩
  intro later rival final leads moves
  obtain ⟨here, grows, _⟩ := run_of_leads (reached.step step) leads
  have rivals := executionSystem_commits (keyed_reachable here) moves
  have shown := rivals.named
  omega

/-- A run that has ended stays in the state that it ended in. -/
theorem ended_runs_stay_ended {tables later : ExecutionTables}
    (reached : executionSystem.Reachable tables)
    (ended : isTerminalRun tables.run.state)
    (leads : executionSystem.Leads tables later) :
    later.run.state = tables.run.state :=
  (run_of_leads reached leads).2.2 ended

/-! ## Runs that are computed -/

/-- Commands on the run of the tables, one after the other. -/
def commandRun (tables : ExecutionTables) :
    List ExecutionCommand → Option ExecutionTables
  | [] => some tables
  | command :: rest =>
      if command.runId = tables.run.runId then
        match dispatchCommand tables command with
        | .ok (after, _) => commandRun after rest
        | .error _ => none
      else none

/-- The commands behind the creation of a run. -/
def createdRun (parent : Option PipelineParent) (creation : CreateCapturedRun)
    (commands : List ExecutionCommand) : Option ExecutionTables :=
  (createCapturedRun parent creation).toOption.bind fun created =>
    commandRun created.1 commands

theorem commandRun_cons {tables after : ExecutionTables}
    {command : ExecutionCommand} {rest : List ExecutionCommand}
    (ran : commandRun tables (command :: rest) = some after) :
    ∃ next, executionSystem.Step tables (.command command) next ∧
      commandRun next rest = some after := by
  rw [commandRun] at ran
  split at ran
  next same =>
    split at ran
    next next result done => exact ⟨next, ⟨same, result, done⟩, ran⟩
    next => cases ran
  next => cases ran

theorem commandRun_leads {tables after : ExecutionTables}
    {commands : List ExecutionCommand}
    (ran : commandRun tables commands = some after) :
    executionSystem.Leads tables after := by
  induction commands generalizing tables with
  | nil =>
      cases ran
      exact .refl
  | cons command rest ih =>
      obtain ⟨next, step, ran⟩ := commandRun_cons ran
      exact (TransitionSystem.Leads.single step).trans (ih ran)

theorem commandRun_append {tables after : ExecutionTables}
    {commands rest : List ExecutionCommand}
    (ran : commandRun tables (commands ++ rest) = some after) :
    ∃ middle, commandRun tables commands = some middle ∧
      commandRun middle rest = some after := by
  induction commands generalizing tables with
  | nil => exact ⟨tables, rfl, ran⟩
  | cons command commands ih =>
      obtain ⟨next, ⟨same, result, done⟩, ran⟩ := commandRun_cons ran
      obtain ⟨middle, first, later⟩ := ih ran
      refine ⟨middle, ?_, later⟩
      rw [commandRun, if_pos same, done]
      exact first

theorem createdRun_reachable {parent : Option PipelineParent}
    {creation : CreateCapturedRun} {commands : List ExecutionCommand}
    {tables : ExecutionTables}
    (ran : createdRun parent creation commands = some tables) :
    executionSystem.Reachable tables := by
  obtain ⟨⟨start, batch⟩, created, ran⟩ := Option.bind_eq_some_iff.mp ran
  have reached : executionSystem.Reachable start :=
    .initial ⟨parent, creation, batch, toOption_eq_some.mp created⟩
  exact (commandRun_leads ran).invariant
    (fun _ _ _ here moves => here.step moves) reached

/-- The last command of a run is a step from a reachable state. -/
theorem createdRun_step {parent : Option PipelineParent}
    {creation : CreateCapturedRun} {commands : List ExecutionCommand}
    {command : ExecutionCommand}
    (ran : (createdRun parent creation (commands ++ [command])).isSome) :
    ∃ tables after, executionSystem.Reachable tables ∧
      executionSystem.Step tables (.command command) after := by
  obtain ⟨after, ran⟩ := Option.isSome_iff_exists.mp ran
  obtain ⟨start, created, ran⟩ := Option.bind_eq_some_iff.mp ran
  obtain ⟨middle, first, later⟩ := commandRun_append ran
  obtain ⟨last, step, _⟩ := commandRun_cons later
  have here : createdRun parent creation commands = some middle :=
    Option.bind_eq_some_iff.mpr ⟨start, created, first⟩
  exact ⟨middle, last, createdRun_reachable here, step⟩

end Runs

/-! ## A claim that is committed, and one that is taken back -/

section Sample

attribute [local instance] asciiCasefoldRuntime

def leasedRunId : RunId := ⟨text "run_first", sampleRun_valid⟩

def leasedNodeId : NodeId := ⟨text "nod_extract", sampleNode_valid⟩

def leasedItemId : WorkItemId := ⟨text "wrk_one", sampleWork_valid⟩

def leasedAttempt : AttemptNumber := ⟨⟨1, firstNumber_valid⟩⟩

def emptyPayload : RedactedDocument :=
  ⟨⟨[], emptyDocument_valid⟩, rfl⟩

def leasedEvent (sequence : Int) (kind : String) (occurredAt : Instant)
    (subject : EventSubject) (payload : RedactedDocument) :
    EventAppendRequest :=
  ⟨sequence, sequence,
    ⟨text kind, occurredAt, subject, none, 2, payload⟩⟩

/-- What the event of the claim carries. -/
def claimedPayload : RedactedDocument :=
  ⟨⟨[(text "attempt_number", .int 1),
      (text "lease_expires_at", .string (instantText 5000)),
      (text "node_id", .string (text "nod_extract")),
      (text "runner_kind", .string (text "threaded"))], by decide +kernel⟩,
    by decide +kernel⟩

def leasedCreation : CreateCapturedRun where
  runId := leasedRunId
  pipelineId := ⟨text "pip_inventory", samplePipeline_valid⟩
  pipelineVersion := ⟨⟨3, thirdNumber_valid⟩⟩
  runnerKind := text "threaded"
  runnerConfiguration := ⟨[], emptyDocument_valid⟩
  scenarioSeed := none
  nodeIds := [leasedNodeId]
  createdAt := 0
  event := leasedEvent 1 "run_created" 0 (.run leasedRunId) emptyPayload

def leasedBootstrap : BootstrapWork where
  runId := leasedRunId
  nodeId := leasedNodeId
  workItemId := leasedItemId
  partitionKey := ⟨text "page-1", samplePage_valid⟩
  inputReference := none
  createdAt := 0
  expectedNodeRowVersion := 1
  expectedRunRowVersion := 1
  event := leasedEvent 2 "work_created" 0 (.workItem leasedItemId) emptyPayload

def leasedStart : TransitionRun where
  runId := leasedRunId
  expectedRunRowVersion := 2
  targetState := .running
  transitionedAt := 10
  executionEvidenceFingerprint := none
  executionEvidenceFingerprintVersion := none
  event := leasedEvent 3 "run_started" 10 (.run leasedRunId) emptyPayload

def leasedClaim : ClaimWork where
  runId := leasedRunId
  nodeId := leasedNodeId
  workItemId := leasedItemId
  expectedAttemptNumber := leasedAttempt
  expectedWorkRowVersion := 1
  expectedNodeRowVersion := 2
  expectedRunRowVersion := 3
  leaseOwner := text "engine"
  startedAt := 1000
  leaseExpiresAt := 5000
  runnerKind := text "threaded"
  workerIdentity := text "worker-1"
  event := leasedEvent 4 "work_claimed" 1000 (.workItem leasedItemId)
    claimedPayload

def leasedWorkClaim : WorkClaim where
  workItemId := leasedItemId
  attemptNumber := leasedAttempt
  leaseOwner := text "engine"
  rowVersion := 2
  startedAt := 1000
  leaseExpiresAt := 5000
  runnerKind := text "threaded"
  workerIdentity := text "worker-1"

def leasedRecovery : RecoverExpiredWork where
  runId := leasedRunId
  nodeId := leasedNodeId
  workItemId := leasedItemId
  expectedWorkRowVersion := 2
  expectedAttemptNumber := leasedAttempt
  observedAt := 5000
  retryAvailableAt := 5000
  redactedDetail := none
  expectedNodeRowVersion := 3
  expectedRunRowVersion := 4
  event := leasedEvent 5 "work_lease_expired" 5000 (.workItem leasedItemId)
    emptyPayload

/-- What the event of the commit carries. -/
def committedPayload : RedactedDocument :=
  ⟨⟨[(text "artifact_id", .null), (text "attempt_number", .int 1),
      (text "checkpoint_payload_schema_version", .int 1),
      (text "failure_classification", .null),
      (text "node_id", .string (text "nod_extract")),
      (text "partition_key", .string (text "page-1")),
      (text "retry_available_at", .null),
      (text "runner_kind", .string (text "threaded")),
      (text "target_state", .string (text "succeeded"))], by decide +kernel⟩,
    by decide +kernel⟩

def leasedCommit : CommitCommand :=
  .withCheckpoint
    { runId := leasedRunId
      nodeId := leasedNodeId
      claim := leasedWorkClaim
      completion := {
        targetState := .succeeded
        finishedAt := 3000
        retryAvailableAt := none
        failureClassification := none
        redactedDetail := none
        resultReference := none
        recordsProcessed := 7
        bytesProcessed := 700 }
      metrics := ⟨7, 6, 1, 700, 600⟩
      expectedNodeRowVersion := 3
      expectedRunRowVersion := 4
      event := leasedEvent 5 "checkpoint_committed" 3000
        (.workItem leasedItemId) committedPayload
      checkpoint := {
        expectedPartitionKey := ⟨text "page-1", samplePage_valid⟩
        payloadSchemaVersion := 1
        sourceCursor := none
        outputPosition := none
        artifactId := none
        committedAt := 3000 } }

/-- The commands up to the claim. -/
def leasedCommands : List ExecutionCommand :=
  [.bootstrap leasedBootstrap, .transition leasedStart, .claim leasedClaim]

/-- What follows the creation of the sample run. -/
def leasedRun (commands : List ExecutionCommand) : Option ExecutionTables :=
  createdRun (some ⟨none, 0⟩) leasedCreation commands

theorem leasedCommit_commits :
    (leasedRun (leasedCommands ++ [.commit leasedCommit])).isSome := by
  decide +kernel

theorem leasedRecovery_commits :
    (leasedRun (leasedCommands ++ [.recover leasedRecovery])).isSome := by
  decide +kernel

theorem lease_fences_commit :
    letI : CasefoldRuntime := asciiCasefoldRuntime
    ∃ tables after,
      executionSystem.Step tables (.command (.commit leasedCommit)) after ∧
      (∃ current, HoldsClaim tables leasedWorkClaim 3000 current) ∧
      ∀ later rival final other time,
        executionSystem.Leads after later →
        executionSystem.Step later (.command rival) final →
        usedClaim rival = some (other, time) →
        other.workItemId = leasedItemId →
        2 < other.rowVersion ∧ 1 < other.attemptNumber.number := by
  obtain ⟨tables, after, reached, step⟩ :=
    createdRun_step leasedCommit_commits
  obtain ⟨held, fenced⟩ := lease_fences reached step rfl
  refine ⟨tables, after, step, held, ?_⟩
  intro later rival final other time leads moves used same
  obtain ⟨version, _, attempt⟩ :=
    fenced later rival final other time leads moves used same
  exact ⟨version, attempt ⟨_, rfl⟩⟩

theorem recovery_revokes_first :
    letI : CasefoldRuntime := asciiCasefoldRuntime
    ∃ tables after,
      executionSystem.Step tables (.command (.recover leasedRecovery)) after ∧
      ∀ later rival final other time,
        executionSystem.Leads after later →
        executionSystem.Step later (.command rival) final →
        usedClaim rival = some (other, time) →
        other.workItemId = leasedItemId → 1 < other.attemptNumber.number := by
  obtain ⟨tables, after, reached, step⟩ :=
    createdRun_step leasedRecovery_commits
  exact ⟨tables, after, step, (recovery_revokes reached step).2⟩

theorem leasedCommit_succeeds :
    (leasedRun (leasedCommands ++ [.commit leasedCommit])).any
      (fun tables => (tables.findWork leasedItemId).any
        fun work => work.state = .succeeded) := by
  decide +kernel

theorem settled_items_are_final_succeeded :
    letI : CasefoldRuntime := asciiCasefoldRuntime
    ∃ tables work, tables.findWork leasedItemId = some work ∧
      work.state = .succeeded ∧
      ∀ later, executionSystem.Leads tables later →
        later.findWork leasedItemId = some work := by
  obtain ⟨tables, ran, shown⟩ :=
    (Option.any_eq_true _ _).mp leasedCommit_succeeds
  obtain ⟨work, found, state⟩ := (Option.any_eq_true _ _).mp shown
  have succeeded : work.state = .succeeded := by simpa using state
  exact ⟨tables, work, found, succeeded, fun later leads =>
    settled_items_are_final (createdRun_reachable ran) found (.inl succeeded)
      leads⟩

theorem checkpoint_iff_succeeded_committed :
    letI : CasefoldRuntime := asciiCasefoldRuntime
    ∃ tables after,
      executionSystem.Step tables (.command (.commit leasedCommit)) after ∧
      ∀ row ∈ after.work, Checkpointed row := by
  obtain ⟨tables, after, reached, step⟩ :=
    createdRun_step leasedCommit_commits
  exact ⟨tables, after, step, checkpoint_iff_succeeded (reached.step step)⟩

theorem commands_are_serial_commit :
    letI : CasefoldRuntime := asciiCasefoldRuntime
    ∃ tables after,
      executionSystem.Step tables (.command (.commit leasedCommit)) after ∧
      after.run.rowVersion = 5 ∧
      ∀ later rival final,
        executionSystem.Leads after later →
        executionSystem.Step later (.command rival) final →
        4 < rival.expectedRun := by
  obtain ⟨tables, after, reached, step⟩ :=
    createdRun_step leasedCommit_commits
  exact ⟨tables, after, step, (commands_are_serial reached step).2⟩

def leasedCancel : TransitionRun where
  runId := leasedRunId
  expectedRunRowVersion := 1
  targetState := .cancelled
  transitionedAt := 10
  executionEvidenceFingerprint := none
  executionEvidenceFingerprintVersion := none
  event := leasedEvent 2 "run_cancelled" 10 (.run leasedRunId) emptyPayload

theorem leasedCancel_ends :
    (leasedRun [.transition leasedCancel]).any
      (fun tables => isTerminalRun tables.run.state) := by
  decide +kernel

theorem ended_runs_stay_ended_cancelled :
    letI : CasefoldRuntime := asciiCasefoldRuntime
    ∃ tables, isTerminalRun tables.run.state ∧
      ∀ later, executionSystem.Leads tables later →
        later.run.state = tables.run.state := by
  obtain ⟨tables, ran, ended⟩ := (Option.any_eq_true _ _).mp leasedCancel_ends
  exact ⟨tables, ended, fun later leads =>
    ended_runs_stay_ended (createdRun_reachable ran) ended leads⟩

end Sample

end ParityGrid.Adapters.Persistence
