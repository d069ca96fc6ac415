import ParityGrid.Adapters.Persistence.Repositories.Idempotency

/-!
# Runs of the registry

Transactions of any callers, one after another, on one table.  What one of
them can do is one of four moves; from the moves follows what every run keeps:
one accepted request, one owner at a time, and one terminal result.
-/

namespace ParityGrid.Adapters.Persistence

open ParityGrid.Foundation ParityGrid.Application

variable [CasefoldRuntime]

/-! ## Transactions -/

/-- The result that a call of `complete` or `fail` submits. -/
structure TerminalSubmission where
  status : IdempotencyStatus
  schemaVersion : Int
  response : RedactedDocument
  completedAt : Instant

inductive RegistryCommand where
  | begin_ (scope key : Text) (request : ConfigurationDocument)
      (startedAt : Instant)
  | reclaim (scope key : Text) (request : ConfigurationDocument)
      (leaseExpiresAfterSeconds : Binary64) (now : Instant)
  | complete (reservation : IdempotencyReservation)
      (request : ConfigurationDocument) (responseSchemaVersion : Int)
      (response : RedactedDocument) (completedAt : Instant)
  | fail (reservation : IdempotencyReservation)
      (request : ConfigurationDocument) (responseSchemaVersion : Int)
      (response : RedactedDocument) (completedAt : Instant)

inductive RegistryAnswer where
  | began (result : IdempotencyBeginResult)
  | terminal (record : IdempotencyRecord)

/-- The reservation that an answer hands to a new owner. -/
def RegistryAnswer.reservation :
    RegistryAnswer → Option IdempotencyReservation
  | .began result => result.reservation
  | .terminal _ => none

namespace RegistryCommand

def identity : RegistryCommand → IdempotencyIdentity
  | .begin_ scope key _ _ => { scope, key }
  | .reclaim scope key _ _ _ => { scope, key }
  | .complete reservation _ _ _ _ => reservation.identity
  | .fail reservation _ _ _ _ => reservation.identity

def request : RegistryCommand → ConfigurationDocument
  | .begin_ _ _ request _ => request
  | .reclaim _ _ request _ _ => request
  | .complete _ request _ _ _ => request
  | .fail _ request _ _ _ => request

/-- The reservation under which a result is submitted. -/
def reservation : RegistryCommand → Option IdempotencyReservation
  | .complete reservation _ _ _ _ => some reservation
  | .fail reservation _ _ _ _ => some reservation
  | _ => none

def submission : RegistryCommand → Option TerminalSubmission
  | .complete _ _ schemaVersion response completedAt =>
      some { status := .completed, schemaVersion, response, completedAt }
  | .fail _ _ schemaVersion response completedAt =>
      some { status := .failed, schemaVersion, response, completedAt }
  | _ => none

/-- The checks of the arguments alone, which come before anything is read. -/
def arguments : RegistryCommand → Except ConsistencyError Unit
  | .begin_ scope key _ _ => do
      let _ ← requireIdentity scope key
      return ()
  | .reclaim scope key _ seconds _ => do
      require (isLeaseWindow seconds)
        (.invalidRequest "idempotency lease window is invalid")
      let _ ← requireIdentity scope key
      return ()
  | .complete reservation _ schemaVersion response _
  | .fail reservation _ schemaVersion response _ => do
      let _ ← requireIdentity reservation.identity.scope
        reservation.identity.key
      let _ ← positiveInt schemaVersion "idempotency response schema version"
      let _ ← encodeRedactedDocument response "idempotency response"
      return ()

/-- One operation on the table. -/
def perform (table : IdempotencyTable) : RegistryCommand →
    Except ConsistencyError (RegistryAnswer × IdempotencyTable)
  | .begin_ scope key request startedAt =>
      (fun done => (.began done.1, done.2)) <$>
        Persistence.begin_ table scope key request startedAt
  | .reclaim scope key request seconds now =>
      (fun done => (.began done.1, done.2)) <$>
        Persistence.reclaim table scope key request seconds now
  | .complete reservation request schemaVersion response completedAt =>
      (fun done => (.terminal done.1, done.2)) <$>
        Persistence.complete table reservation request schemaVersion response
          completedAt
  | .fail reservation request schemaVersion response completedAt =>
      (fun done => (.terminal done.1, done.2)) <$>
        Persistence.fail table reservation request schemaVersion response
          completedAt

end RegistryCommand

/-- A call, and what it answered or raised. -/
structure RegistryEvent where
  command : RegistryCommand
  outcome : Except ConsistencyError RegistryAnswer

/-- The committed table, and the calls so far. -/
structure RegistryState where
  table : IdempotencyTable
  history : List RegistryEvent

namespace RegistryState

def empty : RegistryState where
  table := []
  history := []

/-- One transaction: it commits, or it raises and is rolled back. -/
def transaction (state : RegistryState) (command : RegistryCommand) :
    RegistryState :=
  match command.perform state.table with
  | .ok (answer, table) =>
      { table, history := state.history ++ [⟨command, .ok answer⟩] }
  | .error error =>
      { state with history := state.history ++ [⟨command, .error error⟩] }

/-- A whole run of transactions. -/
def after (state : RegistryState) (commands : List RegistryCommand) :
    RegistryState :=
  commands.foldl transaction state

def row (state : RegistryState) (identity : IdempotencyIdentity) :
    Option IdempotencyRow :=
  state.table.lookup identity

end RegistryState

/-- The reservation of one identity that an event handed out. -/
def RegistryEvent.admits (identity : IdempotencyIdentity)
    (event : RegistryEvent) : Option IdempotencyReservation :=
  match event.outcome with
  | .ok answer =>
      if event.command.identity = identity then answer.reservation else none
  | .error _ => none

/-- The owners of one identity, in the order in which they were admitted. -/
def RegistryState.owners (state : RegistryState)
    (identity : IdempotencyIdentity) : List IdempotencyReservation :=
  state.history.filterMap (RegistryEvent.admits identity)

/-! ## What one operation can do -/

/-- A stored record holds exactly the submitted result. -/
def SameResult (record : IdempotencyRecord)
    (submission : TerminalSubmission) : Prop :=
  record.status = submission.status ∧
  record.responseSchemaVersion = some submission.schemaVersion ∧
  record.completedAt = some submission.completedAt ∧
  ∃ response kept sent, record.response = some response ∧
    encodeRedactedDocument response "stored idempotency response" = .ok kept ∧
    encodeRedactedDocument submission.response "idempotency response" =
      .ok sent ∧
    kept.text = sent.text

/--
The moves of the registry: a first owner, an answer that changes nothing, a
next owner, and the result of an owner.
-/
inductive RegistryMove (table : IdempotencyTable) (command : RegistryCommand)
    (digest : Text) : RegistryAnswer → IdempotencyTable → Prop
  | started {answer : RegistryAnswer} {stored : StoredIdempotencyRecord}
      (at_ : Instant)
      (absent : table.lookup command.identity = none)
      (reads : storedIdempotencyFromRow command.identity
        (startedRow digest at_) = .ok stored)
      (admits : answer.reservation = some {
        identity := command.identity
        requestSha256 := digest
        createdAt := at_
        updatedAt := at_ }) :
      RegistryMove table command digest answer
        (alter command.identity (fun _ => startedRow digest at_) table)
  | replayed {answer : RegistryAnswer} {row : IdempotencyRow}
      {stored : StoredIdempotencyRecord}
      (present : table.lookup command.identity = some row)
      (request : row.requestSha256 = digest)
      (reads : storedIdempotencyFromRow command.identity row = .ok stored)
      (quiet : answer.reservation = none)
      (exact_ : ∀ record, answer = .terminal record →
        record = stored.record ∧ row.status ≠ .inProgress ∧
          ∃ submission, command.submission = some submission ∧
            SameResult record submission) :
      RegistryMove table command digest answer table
  | reclaimed {answer : RegistryAnswer} {row : IdempotencyRow}
      {stored : StoredIdempotencyRecord} (now : Instant)
      (present : table.lookup command.identity = some row)
      (request : row.requestSha256 = digest)
      (live : row.status = .inProgress)
      (later : row.updatedAt < now)
      (reads : storedIdempotencyFromRow command.identity
        { row with updatedAt := now } = .ok stored)
      (admits : answer.reservation = some {
        identity := command.identity
        requestSha256 := digest
        createdAt := row.createdAt
        updatedAt := now }) :
      RegistryMove table command digest answer
        (alter command.identity (fun _ => { row with updatedAt := now }) table)
  | terminated {answer : RegistryAnswer} {row written : IdempotencyRow}
      {stored : StoredIdempotencyRecord}
      (present : table.lookup command.identity = some row)
      (request : row.requestSha256 = digest)
      (live : row.status = .inProgress)
      (owner : command.reservation = some {
        identity := command.identity
        requestSha256 := digest
        createdAt := row.createdAt
        updatedAt := row.updatedAt })
      (same : written.requestSha256 = digest ∧
        written.createdAt = row.createdAt)
      (terminal : written.status ≠ .inProgress)
      (reads : storedIdempotencyFromRow command.identity written = .ok stored)
      (quiet : answer.reservation = none)
      (answers : answer = .terminal stored.record) :
      RegistryMove table command digest answer
        (alter command.identity (fun _ => written) table)

theorem admitted_eq_ok {disposition : IdempotencyBeginDisposition}
    {admits : disposition.admits = true} {stored : StoredIdempotencyRecord}
    {result : IdempotencyBeginResult}
    (admitted_ : admitted disposition admits stored = .ok result) :
    result.reservation = some {
      identity := stored.record.identity
      requestSha256 := stored.requestSha256
      createdAt := stored.record.createdAt
      updatedAt := stored.record.updatedAt } := by
  simp only [admitted, bind_eq_ok] at admitted_
  rcases admitted_ with ⟨reservation, reserved, same⟩
  cases same
  exact congrArg some (reservationOf_eq_ok reserved)

section Moves

variable {table next : IdempotencyTable} {command : RegistryCommand}
  {digest : Text} {result : IdempotencyBeginResult}

theorem replayExisting_moves
    (done : replayExisting table command.identity digest =
      .ok (result, next)) :
    RegistryMove table command digest (.began result) next := by
  simp only [replayExisting, bind_eq_ok, requireSameRequest,
    require_eq_ok, beq_iff_eq] at done
  rcases done with ⟨existing, got, _, same, ended⟩
  rcases requireStored_eq_ok got with ⟨row, present, reads⟩
  cases ended
  refine .replayed present ?_ reads rfl (fun record answer => by cases answer)
  rw [← (storedIdempotencyFromRow_eq_ok reads).1, same]

theorem startFresh_moves {startedAt : Instant}
    (absent : table.lookup command.identity = none)
    (done : startFresh table command.identity digest startedAt =
      .ok (result, next)) :
    RegistryMove table command digest (.began result) next := by
  simp only [startFresh, bind_eq_ok] at done
  rcases done with ⟨stored, reads, _, _, admittedResult, admits, ended⟩
  cases ended
  have read := storedIdempotencyFromRow_eq_ok reads
  refine .started startedAt absent reads ?_
  show result.reservation = _
  rw [admitted_eq_ok admits, read.1, read.2.1, read.2.2.2.1, read.2.2.2.2]
  rfl

theorem startOrReplay_moves {request : ConfigurationDocument}
    {startedAt : Instant}
    (done : startOrReplay table command.identity request startedAt =
      .ok (result, next)) :
    ∃ digest, requestDigest request = .ok digest ∧
      RegistryMove table command digest (.began result) next := by
  simp only [startOrReplay, bind_eq_ok] at done
  rcases done with ⟨digest, digested, ended⟩
  refine ⟨digest, digested, ?_⟩
  split at ended
  next absent =>
    exact startFresh_moves (Option.isNone_iff_eq_none.mp absent) ended
  next => exact replayExisting_moves ended

theorem claimGeneration_moves {observed now : Instant}
    (later : observed < now)
    (done : claimGeneration table command.identity digest observed now =
      .ok (result, next)) :
    RegistryMove table command digest (.began result) next := by
  unfold claimGeneration at done
  dsimp only at done
  split at done
  next written claimedTable claimed =>
    rcases updateWhere_eq_some claimed with
      ⟨row, present, selected, changed, updated⟩
    simp only [Bool.and_eq_true, beq_iff_eq] at selected
    rcases selected with ⟨⟨request, live⟩, generation⟩
    simp only [bind_eq_ok] at done
    rcases done with ⟨stored, reads, admittedResult, admits, ended⟩
    cases ended
    rw [changed] at reads
    have read := storedIdempotencyFromRow_eq_ok reads
    rw [updated]
    refine .reclaimed now present request live ?_ reads ?_
    · rw [generation]
      exact later
    · show result.reservation = _
      rw [admitted_eq_ok admits, read.1, read.2.1, read.2.2.2.1,
        read.2.2.2.2, request]
  next => exact replayExisting_moves done

theorem reclaimExisting_moves {request : ConfigurationDocument}
    {seconds : Binary64} {now : Instant} {existing : StoredIdempotencyRecord}
    (window : isLeaseWindow seconds = true)
    (got : getStored table command.identity = .ok (some existing))
    (done : reclaimExisting table command.identity existing request seconds
      now = .ok (result, next)) :
    ∃ digest, requestDigest request = .ok digest ∧
      RegistryMove table command digest (.began result) next := by
  rcases getStored_eq_some got with ⟨row, present, reads⟩
  simp only [reclaimExisting, bind_eq_ok, requireSameRequest,
    require_eq_ok, beq_iff_eq] at done
  rcases done with ⟨digest, digested, _, same, ended⟩
  refine ⟨digest, digested, ?_⟩
  have request_ : row.requestSha256 = digest := by
    rw [← (storedIdempotencyFromRow_eq_ok reads).1, same]
  have quiet {record : IdempotencyRecord} :
      RegistryAnswer.began (replayed existing.record) = .terminal record →
        record = existing.record ∧ row.status ≠ .inProgress ∧
          ∃ submission, command.submission = some submission ∧
            SameResult record submission := by
    intro impossible
    cases impossible
  split at ended
  · cases ended
    exact .replayed present request_ reads rfl fun record => quiet
  split at ended
  · cases ended
    exact .replayed present request_ reads rfl fun record => quiet
  next elapsed =>
    -- the lease window is positive, so an elapsed lease ends strictly later
    have positive : Binary64.lt (.finite 0) seconds = true :=
      (Bool.and_eq_true_iff.mp window).1
    have later : existing.record.updatedAt < now :=
      sub_pos.mp (Binary64.pos_of_not_lt positive
        (Bool.not_eq_true _ ▸ elapsed))
    exact claimGeneration_moves later ended

/--
What `_terminalize` submits under a reservation, once its own checks have
passed.
-/
structure Submits (command : RegistryCommand) (digest : Text)
    (createdAt expectedUpdatedAt : Instant)
    (submission : TerminalSubmission) : Prop where
  submitted : command.submission = some submission
  terminal : submission.status ≠ .inProgress
  owner : command.reservation = some {
    identity := command.identity
    requestSha256 := digest
    createdAt
    updatedAt := expectedUpdatedAt }

section Terminal

variable {record : IdempotencyRecord} {createdAt expected : Instant}
  {submission : TerminalSubmission} {sent : CanonicalStorageJson}
  {result : TerminalResult}
  (submits : Submits command digest createdAt expected submission)
  (encoded : encodeRedactedDocument submission.response
    "idempotency response" = .ok sent)
  (asked : result = {
    status := submission.status
    schemaVersion := submission.schemaVersion
    responseJson := sent.text
    completedAt := submission.completedAt })

include encoded asked

theorem replayTerminal_same {current : IdempotencyRecord}
    (done : replayTerminal table current result = .ok (record, next)) :
    record = current ∧ next = table ∧ SameResult record submission := by
  simp only [replayTerminal, bind_eq_ok, require_eq_ok] at done
  rcases done with ⟨_, same, _, rfl, ended⟩
  cases ended
  refine ⟨rfl, rfl, ?_⟩
  unfold terminalReplayMatches at same
  split at same
  next => cases same
  next response kept =>
    split at same
    next agree =>
      simp only [bind_eq_ok] at same
      rcases same with ⟨stored, encodedAgain, equal⟩
      have equal := Except.ok.inj equal
      simp only [Bool.and_eq_true, beq_iff_eq] at equal
      rw [asked] at agree equal
      exact ⟨agree.1, agree.2, equal.1.2, response, stored, sent, kept,
        encodedAgain, encoded, equal.1.1⟩
    next => cases same

include submits

theorem replayTerminal_moves {row : IdempotencyRow}
    {current : StoredIdempotencyRecord}
    (present : table.lookup command.identity = some row)
    (reads : storedIdempotencyFromRow command.identity row = .ok current)
    (request : current.requestSha256 = digest)
    (ended : current.record.status ≠ .inProgress)
    (done : replayTerminal table current.record result =
      .ok (record, next)) :
    RegistryMove table command digest (.terminal record) next := by
  rcases replayTerminal_same encoded asked done with ⟨rfl, rfl, same⟩
  have read := storedIdempotencyFromRow_eq_ok reads
  refine .replayed present (read.1 ▸ request) reads rfl ?_
  intro answered answer
  cases answer
  exact ⟨rfl, read.2.2.1 ▸ ended, submission, submits.submitted, same⟩

theorem writeTerminal_moves {current : StoredIdempotencyRecord}
    (got : requireStored table command.identity = .ok current)
    (created : current.record.createdAt = createdAt)
    (done : writeTerminal table command.identity digest expected result =
      .ok (record, next)) :
    RegistryMove table command digest (.terminal record) next := by
  rcases requireStored_eq_ok got with ⟨row, present, reads⟩
  have read := storedIdempotencyFromRow_eq_ok reads
  unfold writeTerminal at done
  dsimp only at done
  split at done
  next =>
    simp only [classifyTerminalCas, bind_eq_ok, requireSameRequest,
      require_eq_ok, beq_iff_eq, got] at done
    rcases done with ⟨existing, again, _, same, ended⟩
    cases again
    split at ended
    next terminal =>
      exact replayTerminal_moves submits encoded asked present reads same
        terminal ended
    next =>
      split at ended <;> cases ended
  next written changed updated =>
    rcases updateWhere_eq_some updated with
      ⟨row_, present_, selected, became, committed⟩
    cases present.symm.trans present_
    simp only [Bool.and_eq_true, beq_iff_eq] at selected
    rcases selected with ⟨⟨request, live⟩, generation⟩
    simp only [bind_eq_ok] at done
    rcases done with ⟨stored, rereads, _, _, ended⟩
    cases ended
    rw [committed]
    rw [became] at rereads
    subst asked
    refine .terminated present request live ?_ ⟨request, rfl⟩
      submits.terminal rereads rfl rfl
    rw [submits.owner, ← created, read.2.2.2.1, generation]

theorem terminalizeCurrent_moves {current : StoredIdempotencyRecord}
    (got : requireStored table command.identity = .ok current)
    (request : current.requestSha256 = digest)
    (created : current.record.createdAt = createdAt)
    (done : terminalizeCurrent table command.identity current digest expected
      result = .ok (record, next)) :
    RegistryMove table command digest (.terminal record) next := by
  unfold terminalizeCurrent at done
  split at done
  next ended =>
    rcases requireStored_eq_ok got with ⟨row, present, reads⟩
    exact replayTerminal_moves submits encoded asked present reads request
      ended done
  next =>
    exact writeTerminal_moves submits encoded asked got created
      (check_bind_eq_ok.mp done).2

end Terminal

theorem terminalize_moves {status : IdempotencyStatus}
    {reservation : IdempotencyReservation} {request : ConfigurationDocument}
    {schemaVersion : Int} {response : RedactedDocument}
    {completedAt : Instant} {record : IdempotencyRecord}
    (target : command.identity = reservation.identity)
    (held : command.reservation = some reservation)
    (submitted : command.submission =
      some { status, schemaVersion, response, completedAt })
    (terminal : status ≠ .inProgress)
    (done : terminalize table status reservation request schemaVersion
      response completedAt = .ok (record, next)) :
    ∃ digest, requestDigest request = .ok digest ∧
      RegistryMove table command digest (.terminal record) next := by
  simp only [terminalize, bind_eq_ok, requireSameRequest, require_eq_ok,
    beq_iff_eq] at done
  rcases done with ⟨identity, required, version, positive, sent, encoded,
    digest, digested, _, reserved, current, got, _, request_, _, created,
    ended⟩
  have same : identity = command.identity := by
    rw [requireIdentity_eq_ok required, target]
  have unchanged : version = schemaVersion := by
    simp only [positiveInt, check_bind_eq_ok] at positive
    exact (Except.ok.inj positive.2).symm
  subst same unchanged
  have submits :
      Submits command digest reservation.createdAt reservation.updatedAt
        ⟨status, version, response, completedAt⟩ :=
    ⟨submitted, terminal, by rw [held, target, ← reserved]⟩
  exact ⟨digest, digested,
    terminalizeCurrent_moves submits encoded rfl got request_ created ended⟩

/-- Every operation that returns makes one of the moves. -/
theorem RegistryCommand.perform_moves {answer : RegistryAnswer}
    (done : command.perform table = .ok (answer, next)) :
    ∃ digest, requestDigest command.request = .ok digest ∧
      RegistryMove table command digest answer next := by
  cases command with
  | begin_ scope key request startedAt =>
      rcases fmap_eq_ok.mp done with ⟨⟨result, committed⟩, returned, same⟩
      cases same
      simp only [Persistence.begin_, bind_eq_ok] at returned
      rcases returned with ⟨identity, required, started⟩
      cases requireIdentity_eq_ok required
      exact startOrReplay_moves started
  | reclaim scope key request seconds now =>
      rcases fmap_eq_ok.mp done with ⟨⟨result, committed⟩, returned, same⟩
      cases same
      simp only [Persistence.reclaim, bind_eq_ok, require_eq_ok] at returned
      rcases returned with ⟨_, window, identity, required, found, got, ended⟩
      cases requireIdentity_eq_ok required
      cases found with
      | none => exact startOrReplay_moves ended
      | some existing => exact reclaimExisting_moves window got ended
  | complete reservation request schemaVersion response completedAt =>
      rcases fmap_eq_ok.mp done with ⟨⟨record, committed⟩, returned, same⟩
      cases same
      exact terminalize_moves rfl rfl rfl (by decide) returned
  | fail reservation request schemaVersion response completedAt =>
      rcases fmap_eq_ok.mp done with ⟨⟨record, committed⟩, returned, same⟩
      cases same
      exact terminalize_moves rfl rfl rfl (by decide) returned

end Moves

/-! ## What every run keeps -/

/-- The call reached the record of this identity and returned. -/
def RegistryEvent.Accepted (event : RegistryEvent)
    (identity : IdempotencyIdentity) : Prop :=
  event.command.identity = identity ∧ Returns event.outcome

/--
One identity after a run: without a row nothing was accepted, and with one the
row reads back, every accepted call carried its request, and the owners are
the generations of its update time.
-/
structure RegistryInvariant (state : RegistryState)
    (identity : IdempotencyIdentity) : Prop where
  absent : state.row identity = none →
    state.owners identity = [] ∧
      ∀ event ∈ state.history, ¬ event.Accepted identity
  reads : ∀ row, state.row identity = some row →
    Returns (storedIdempotencyFromRow identity row)
  request : ∀ row, state.row identity = some row →
    ∀ event ∈ state.history, event.Accepted identity →
      requestDigest event.command.request = .ok row.requestSha256
  increasing : (state.owners identity).Pairwise
    fun earlier later => earlier.updatedAt < later.updatedAt
  latest : ∀ row, state.row identity = some row → row.status = .inProgress →
    (state.owners identity).getLast? = some {
      identity
      requestSha256 := row.requestSha256
      createdAt := row.createdAt
      updatedAt := row.updatedAt }

namespace RegistryState

variable {state : RegistryState} {command : RegistryCommand}
  {identity : IdempotencyIdentity}

theorem transaction_error {error : ConsistencyError}
    (raised : command.perform state.table = .error error) :
    state.transaction command =
      { state with history := state.history ++ [⟨command, .error error⟩] } := by
  simp only [transaction, raised]

theorem transaction_ok {answer : RegistryAnswer} {table : IdempotencyTable}
    (done : command.perform state.table = .ok (answer, table)) :
    state.transaction command =
      { table, history := state.history ++ [⟨command, .ok answer⟩] } := by
  simp only [transaction, done]

/-- A call on another identity, or one that raised, admits no owner here. -/
theorem owners_append (state : RegistryState) (table : IdempotencyTable)
    (event : RegistryEvent) (identity : IdempotencyIdentity) :
    owners { table, history := state.history ++ [event] } identity =
      state.owners identity ++ (event.admits identity).toList := by
  cases admits : event.admits identity <;>
    simp [owners, List.filterMap_append, admits]

end RegistryState

section Steps

variable {state : RegistryState} {command : RegistryCommand}
  {identity : IdempotencyIdentity} {table : IdempotencyTable}
  {answer : RegistryAnswer} {digest : Text}

/-- An operation touches the row of its own identity only. -/
theorem RegistryMove.frame
    (move : RegistryMove state.table command digest answer table)
    (other : identity ≠ command.identity) :
    table.lookup identity = state.table.lookup identity := by
  cases move with
  | started => exact lookup_alter_ne other _ _
  | replayed => rfl
  | reclaimed => exact lookup_alter_ne other _ _
  | terminated => exact lookup_alter_ne other _ _

/-- An owner is admitted to a row in progress, and leaves it so. -/
theorem RegistryMove.live_of_admits {reservation : IdempotencyReservation}
    (move : RegistryMove state.table command digest answer table)
    (admits : answer.reservation = some reservation) :
    reservation.identity = command.identity ∧
      (∀ row, state.table.lookup command.identity = some row →
        row.status = .inProgress) ∧
      ∃ row, table.lookup command.identity = some row ∧
        row.status = .inProgress := by
  cases move with
  | started at_ absent reads held =>
      cases admits.symm.trans held
      refine ⟨rfl, ?_, _, lookup_alter_self _ _ _, rfl⟩
      intro row present
      cases absent.symm.trans present
  | reclaimed now present request live later reads held =>
      cases admits.symm.trans held
      refine ⟨rfl, ?_, _, lookup_alter_self _ _ _, live⟩
      intro row again
      cases present.symm.trans again
      exact live
  | replayed present request reads quiet exact_ =>
      cases quiet.symm.trans admits
  | terminated present request live owner same terminal reads quiet answers =>
      cases quiet.symm.trans admits

/-- What does not concern an identity keeps its invariant. -/
theorem RegistryInvariant.unconcerned (holds : RegistryInvariant state identity)
    {event : RegistryEvent}
    (row : table.lookup identity = state.table.lookup identity)
    (refused : ¬ event.Accepted identity)
    (silent : event.admits identity = none) :
    RegistryInvariant { table, history := state.history ++ [event] }
      identity := by
  have owners : RegistryState.owners
      { table, history := state.history ++ [event] } identity =
        state.owners identity := by
    rw [RegistryState.owners_append, silent]
    exact List.append_nil _
  refine ⟨?_, ?_, ?_, ?_, ?_⟩
  · intro absent
    rcases holds.absent (row.symm.trans absent) with ⟨none_, before⟩
    refine ⟨owners.trans none_, ?_⟩
    intro earlier member accepted
    rcases List.mem_append.mp member with old | new
    · exact before earlier old accepted
    · rw [List.mem_singleton.mp new] at accepted
      exact refused accepted
  · intro found present
    exact holds.reads found (row.symm.trans present)
  · intro found present earlier member accepted
    rcases List.mem_append.mp member with old | new
    · exact holds.request found (row.symm.trans present) earlier old accepted
    · rw [List.mem_singleton.mp new] at accepted
      exact (refused accepted).elim
  · rw [owners]
    exact holds.increasing
  · intro found present live
    rw [owners]
    exact holds.latest found (row.symm.trans present) live

/-- The rows after a move, when the owners stay in order. -/
theorem RegistryInvariant.moved {row : IdempotencyRow}
    {stored : StoredIdempotencyRecord}
    (row_ : table.lookup command.identity = some row)
    (reads : storedIdempotencyFromRow command.identity row = .ok stored)
    (same : ∀ event ∈ state.history, event.Accepted command.identity →
      requestDigest event.command.request = .ok row.requestSha256)
    (request : requestDigest command.request = .ok row.requestSha256)
    (increasing : (state.owners command.identity ++
      answer.reservation.toList).Pairwise
        fun earlier later => earlier.updatedAt < later.updatedAt)
    (latest : row.status = .inProgress →
      (state.owners command.identity ++
        answer.reservation.toList).getLast? = some {
          identity := command.identity
          requestSha256 := row.requestSha256
          createdAt := row.createdAt
          updatedAt := row.updatedAt }) :
    RegistryInvariant
      { table, history := state.history ++ [⟨command, .ok answer⟩] }
      command.identity := by
  have owners : RegistryState.owners
      { table, history := state.history ++ [⟨command, .ok answer⟩] }
        command.identity =
      state.owners command.identity ++ answer.reservation.toList := by
    rw [RegistryState.owners_append]
    simp [RegistryEvent.admits]
  refine ⟨?_, ?_, ?_, owners ▸ increasing, ?_⟩
  · intro absent
    cases row_.symm.trans absent
  · intro found present
    cases row_.symm.trans present
    exact ⟨stored, reads⟩
  · intro found present event member accepted
    cases row_.symm.trans present
    rcases List.mem_append.mp member with old | new
    · exact same event old accepted
    · rw [List.mem_singleton.mp new]
      exact request
  · intro found present live
    cases row_.symm.trans present
    rw [owners]
    exact latest live

omit [CasefoldRuntime] in
/-- A chain grows at its end. -/
theorem pairwise_concat {α : Type} {R : α → α → Prop}
    (transitive : ∀ a b c, R a b → R b c → R a c) {values : List α}
    {last next : α} (ordered : values.Pairwise R)
    (ends : values.getLast? = some last) (later : R last next) :
    (values ++ [next]).Pairwise R := by
  rcases List.getLast?_eq_some_iff.mp ends with ⟨before, rfl⟩
  rw [List.pairwise_append]
  refine ⟨ordered, List.pairwise_singleton R next, ?_⟩
  intro earlier member new single
  rw [List.mem_singleton.mp single]
  rcases List.mem_append.mp member with old | same
  · exact transitive _ _ _
      ((List.pairwise_append.mp ordered).2.2 earlier old last (by simp)) later
  · rw [List.mem_singleton.mp same]
    exact later

theorem RegistryInvariant.move
    (holds : RegistryInvariant state command.identity)
    (digested : requestDigest command.request = .ok digest)
    (move : RegistryMove state.table command digest answer table) :
    RegistryInvariant
      { table, history := state.history ++ [⟨command, .ok answer⟩] }
      command.identity := by
  cases move with
  | started at_ absent reads admits =>
      rcases holds.absent absent with ⟨none_, before⟩
      refine .moved (lookup_alter_self _ _ _) reads ?_ digested ?_ ?_
      · intro event member accepted
        exact (before event member accepted).elim
      · rw [none_, admits]
        exact List.pairwise_singleton _ _
      · intro _
        rw [none_, admits]
        rfl
  | @replayed row stored present request reads quiet exact_ =>
      have nobody : answer.reservation.toList = [] := by rw [quiet]; rfl
      refine .moved present reads (holds.request row present)
        (request ▸ digested) ?_ ?_
      · rw [nobody, List.append_nil]
        exact holds.increasing
      · rw [nobody, List.append_nil]
        exact holds.latest row present
  | @reclaimed row stored now present request live later reads admits =>
      have last := holds.latest row present live
      refine .moved (lookup_alter_self _ _ _) reads
        (holds.request row present) (request ▸ digested) ?_ ?_
      · rw [admits]
        exact pairwise_concat
          (R := fun earlier later : IdempotencyReservation =>
            earlier.updatedAt < later.updatedAt)
          (fun _ _ _ => lt_trans) holds.increasing last later
      · intro _
        rw [admits, request]
        exact List.getLast?_concat
  | @terminated row written stored present request live owner same terminal
      reads quiet answers =>
      refine .moved (lookup_alter_self _ _ _) reads ?_
        (same.1 ▸ digested) ?_ ?_
      · rw [same.1, ← request]
        exact holds.request row present
      · rw [quiet]
        simpa using holds.increasing
      · intro live_
        exact (terminal live_).elim

/-- Every transaction keeps the invariant of every identity. -/
theorem RegistryInvariant.transaction
    (holds : RegistryInvariant state identity) (command : RegistryCommand) :
    RegistryInvariant (state.transaction command) identity := by
  cases done : command.perform state.table with
  | error error =>
      rw [RegistryState.transaction_error done]
      refine holds.unconcerned rfl ?_ rfl
      rintro ⟨_, _, impossible⟩
      cases impossible
  | ok result =>
      rcases result with ⟨answer, table⟩
      rw [RegistryState.transaction_ok done]
      rcases RegistryCommand.perform_moves done with ⟨digest, digested, move⟩
      by_cases target : command.identity = identity
      · subst target
        exact holds.move digested move
      · refine holds.unconcerned (move.frame (Ne.symm target)) ?_ ?_
        · intro accepted
          exact target accepted.1
        · simp [RegistryEvent.admits, target]

theorem RegistryInvariant.after (holds : RegistryInvariant state identity)
    (commands : List RegistryCommand) :
    RegistryInvariant (state.after commands) identity := by
  induction commands generalizing state with
  | nil => exact holds
  | cons command rest ih => exact ih (holds.transaction command)

theorem RegistryInvariant.empty (identity : IdempotencyIdentity) :
    RegistryInvariant RegistryState.empty identity := by
  refine ⟨fun _ => ⟨rfl, ?_⟩, ?_, ?_, List.Pairwise.nil, ?_⟩
  · intro event member
    cases member
  · intro row present
    cases present
  · intro row present
    cases present
  · intro row present
    cases present

end Steps

/-! ## Refusals and replays -/

section Present

variable {table : IdempotencyTable} {command : RegistryCommand}
  {row : IdempotencyRow} {stored : StoredIdempotencyRecord}

theorem getStored_present {identity : IdempotencyIdentity}
    (present : table.lookup identity = some row)
    (reads : storedIdempotencyFromRow identity row = .ok stored) :
    getStored table identity = .ok (some stored) := by
  simp only [getStored, present, reads]
  rfl

theorem requireStored_present {identity : IdempotencyIdentity}
    (present : table.lookup identity = some row)
    (reads : storedIdempotencyFromRow identity row = .ok stored) :
    requireStored table identity = .ok stored := by
  rw [requireStored, getStored_present present reads, ok_bind]
  rfl

/-- The call raises a conflict, or what its own arguments raise. -/
def RegistryCommand.Refused (command : RegistryCommand)
    (table : IdempotencyTable) : Prop :=
  ∃ error, command.perform table = .error error ∧
    ((∃ message, error = .idempotencyConflict message) ∨
      command.arguments = .error error)

/-- A call that begins or reclaims. -/
def RegistryCommand.begins : RegistryCommand → Bool
  | .begin_ _ _ _ _ => true
  | .reclaim _ _ _ _ _ => true
  | _ => false

theorem startOrReplay_other {identity : IdempotencyIdentity}
    {request : ConfigurationDocument} {startedAt : Instant} {other : Text}
    (present : table.lookup identity = some row)
    (reads : storedIdempotencyFromRow identity row = .ok stored)
    (digested : requestDigest request = .ok other)
    (different : other ≠ row.requestSha256) :
    startOrReplay table identity request startedAt =
      .error (.idempotencyConflict
        "idempotency identity has a different request") := by
  have unequal : (stored.requestSha256 == other) = false := by
    rw [(storedIdempotencyFromRow_eq_ok reads).1]
    simpa using Ne.symm different
  simp only [startOrReplay, digested, ok_bind, present, Option.isNone_some,
    Bool.false_eq_true, if_false, replayExisting,
    requireStored_present present reads, requireSameRequest, unequal,
    require_false, error_bind]

theorem reclaimExisting_other {identity : IdempotencyIdentity}
    {request : ConfigurationDocument} {seconds : Binary64} {now : Instant}
    {other : Text} (digested : requestDigest request = .ok other)
    (different : stored.requestSha256 ≠ other) :
    reclaimExisting table identity stored request seconds now =
      .error (.idempotencyConflict
        "idempotency identity has a different request") := by
  have unequal : (stored.requestSha256 == other) = false := by
    simpa using different
  simp only [reclaimExisting, digested, ok_bind, requireSameRequest, unequal,
    require_false, error_bind]

theorem terminalize_other (status : IdempotencyStatus)
    {reservation : IdempotencyReservation} {request : ConfigurationDocument}
    {schemaVersion : Int} {response : RedactedDocument}
    (completedAt : Instant) {other : Text}
    (present : table.lookup reservation.identity = some row)
    (reads : storedIdempotencyFromRow reservation.identity row = .ok stored)
    (digested : requestDigest request = .ok other)
    (different : stored.requestSha256 ≠ other)
    (command : RegistryCommand)
    (checks : command.arguments = (do
      let _ ← requireIdentity reservation.identity.scope
        reservation.identity.key
      let _ ← positiveInt schemaVersion "idempotency response schema version"
      let _ ← encodeRedactedDocument response "idempotency response"
      return ())) :
    ∃ error,
      terminalize table status reservation request schemaVersion response
        completedAt = .error error ∧
      ((∃ message, error = .idempotencyConflict message) ∨
        command.arguments = .error error) := by
  rw [checks]
  unfold terminalize
  cases required : requireIdentity reservation.identity.scope
      reservation.identity.key with
  | error error => exact ⟨error, rfl, .inr rfl⟩
  | ok identity =>
      cases positiveInt schemaVersion
          "idempotency response schema version" with
      | error error => exact ⟨error, rfl, .inr rfl⟩
      | ok version =>
          cases encodeRedactedDocument response "idempotency response" with
          | error error => exact ⟨error, rfl, .inr rfl⟩
          | ok sent =>
              cases requireIdentity_eq_ok required
              have unequal : (stored.requestSha256 == other) = false := by
                simpa using different
              simp only [ok_bind, digested]
              cases reservation.requestSha256 == other with
              | false => exact ⟨_, rfl, .inl ⟨_, rfl⟩⟩
              | true =>
                  simp only [require_true, ok_bind, requireSameRequest,
                    requireStored_present present reads, unequal,
                    require_false, error_bind]
                  exact ⟨_, rfl, .inl ⟨_, rfl⟩⟩

/-- A request other than the recorded one is refused by every operation. -/
theorem RegistryCommand.refused_of_other {other : Text}
    (present : table.lookup command.identity = some row)
    (reads : storedIdempotencyFromRow command.identity row = .ok stored)
    (digested : requestDigest command.request = .ok other)
    (different : other ≠ row.requestSha256) :
    command.Refused table := by
  have unequal : stored.requestSha256 ≠ other := by
    rw [(storedIdempotencyFromRow_eq_ok reads).1]
    exact Ne.symm different
  cases command with
  | begin_ scope key request startedAt =>
      change requestDigest request = .ok other at digested
      simp only [Refused, perform, arguments, Persistence.begin_]
      cases required : requireIdentity scope key with
      | error error => exact ⟨error, rfl, .inr rfl⟩
      | ok identity =>
          cases requireIdentity_eq_ok required
          have refused := @startOrReplay_other _ table row stored
            { scope, key } request startedAt other present reads digested
            different
          rw [ok_bind, refused]
          exact ⟨_, rfl, .inl ⟨_, rfl⟩⟩
  | reclaim scope key request seconds now =>
      change requestDigest request = .ok other at digested
      simp only [Refused, perform, arguments, Persistence.reclaim]
      cases isLeaseWindow seconds with
      | false => exact ⟨_, rfl, .inr rfl⟩
      | true =>
          cases required : requireIdentity scope key with
          | error error => exact ⟨error, rfl, .inr rfl⟩
          | ok identity =>
              cases requireIdentity_eq_ok required
              have found :
                  getStored table { scope, key } = .ok (some stored) :=
                getStored_present present reads
              have refused := @reclaimExisting_other _ table stored
                { scope, key } request seconds now other digested unequal
              rw [require_true, ok_bind, ok_bind, found, ok_bind]
              dsimp only
              rw [refused]
              exact ⟨_, rfl, .inl ⟨_, rfl⟩⟩
  | complete reservation request schemaVersion response completedAt =>
      change requestDigest request = .ok other at digested
      rcases terminalize_other .completed completedAt present reads digested
          unequal
          (.complete reservation request schemaVersion response completedAt)
          rfl with ⟨error, raised, kind⟩
      exact ⟨error, by rw [perform, Persistence.complete, raised]; rfl, kind⟩
  | fail reservation request schemaVersion response completedAt =>
      change requestDigest request = .ok other at digested
      rcases terminalize_other .failed completedAt present reads digested
          unequal
          (.fail reservation request schemaVersion response completedAt)
          rfl with ⟨error, raised, kind⟩
      exact ⟨error, by rw [perform, Persistence.fail, raised]; rfl, kind⟩

/-- What is stored answers every later begin or reclaim of its request. -/
theorem RegistryCommand.begins_replays
    (present : table.lookup command.identity = some row)
    (reads : storedIdempotencyFromRow command.identity row = .ok stored)
    (terminal : row.status ≠ .inProgress)
    (begins : command.begins = true) (valid : command.arguments = .ok ())
    (digested : requestDigest command.request = .ok row.requestSha256) :
    command.perform table = .ok (.began (replayed stored.record), table) := by
  have read := storedIdempotencyFromRow_eq_ok reads
  have ended : stored.record.status ≠ .inProgress := read.2.2.1 ▸ terminal
  have equal : (stored.requestSha256 == row.requestSha256) = true := by
    rw [read.1]
    exact beq_self_eq_true _
  cases command with
  | begin_ scope key request startedAt =>
      change requestDigest request = .ok row.requestSha256 at digested
      simp only [arguments, bind_eq_ok] at valid
      rcases valid with ⟨identity, required, _⟩
      cases requireIdentity_eq_ok required
      have here : table.lookup { scope, key } = some row := present
      have kept : requireStored table { scope, key } = .ok stored :=
        requireStored_present present reads
      simp only [perform, Persistence.begin_, required, ok_bind,
        startOrReplay, digested, here, Option.isNone_some,
        Bool.false_eq_true, if_false, replayExisting, kept,
        requireSameRequest, equal, require_true]
      rfl
  | reclaim scope key request seconds now =>
      change requestDigest request = .ok row.requestSha256 at digested
      simp only [arguments, bind_eq_ok, require_eq_ok] at valid
      rcases valid with ⟨_, window, identity, required, _⟩
      cases requireIdentity_eq_ok required
      have found : getStored table { scope, key } = .ok (some stored) :=
        getStored_present present reads
      simp only [perform, Persistence.reclaim, window, required, ok_bind,
        found, reclaimExisting, digested, requireSameRequest, equal,
        require_true, if_pos ended]
      rfl
  | complete => cases begins
  | fail => cases begins

end Present

/-! ## The registry -/

/--
The registry of one identity after any run.  Every accepted call carried the
request of the row and any other is refused; a terminal row stays and answers
every later begin or reclaim of its request; owners follow one another in
update time; only the latest one writes a terminal row, and a superseded one
changes nothing and gets at most the stored result that it submits.
-/
structure RegistryHolds (state : RegistryState)
    (identity : IdempotencyIdentity) : Prop where
  accepted : ∀ event ∈ state.history, event.Accepted identity →
    ∃ row, state.row identity = some row ∧
      requestDigest event.command.request = .ok row.requestSha256
  refused : ∀ (row : IdempotencyRow) (command : RegistryCommand) (other : Text),
     state.row identity = some row →
    command.identity = identity →
    requestDigest command.request = .ok other → other ≠ row.requestSha256 →
    command.Refused state.table
  terminal : ∀ row, state.row identity = some row →
    row.status ≠ .inProgress → ∃ stored,
      storedIdempotencyFromRow identity row = .ok stored ∧
      ∀ later : List RegistryCommand,
        (state.after later).row identity = some row ∧
        ∀ command : RegistryCommand, command.begins = true → command.identity = identity →
          command.arguments = .ok () →
          requestDigest command.request = .ok row.requestSha256 →
          command.perform (state.after later).table =
            .ok (.began (replayed stored.record), (state.after later).table)
  owners : (state.owners identity).Pairwise
    fun earlier later => earlier.updatedAt < later.updatedAt
  latest : ∀ (command : RegistryCommand) (row : IdempotencyRow),
    (state.transaction command).row identity = some row →
    row.status ≠ .inProgress → state.row identity ≠ some row →
    ∃ owner, (state.owners identity).getLast? = some owner ∧
      command.reservation = some owner
  superseded : ∀ (command : RegistryCommand) (owner : IdempotencyReservation),
    command.reservation = some owner →
    owner.identity = identity →
    (state.owners identity).getLast? ≠ some owner →
    (state.transaction command).table = state.table ∧
    ∀ record table, command.perform state.table =
      .ok (.terminal record, table) →
      ∃ row stored submission, state.row identity = some row ∧
        row.status ≠ .inProgress ∧
        storedIdempotencyFromRow identity row = .ok stored ∧
        record = stored.record ∧ command.submission = some submission ∧
        SameResult record submission

section Holds

variable {state : RegistryState} {identity : IdempotencyIdentity}

/-- A row changes by a move of its own identity. -/
theorem RegistryState.changed {command : RegistryCommand}
    (changes : (state.transaction command).row identity ≠
      state.row identity) :
    ∃ digest answer table,
      command.identity = identity ∧
      requestDigest command.request = .ok digest ∧
      (state.transaction command).table = table ∧
      RegistryMove state.table command digest answer table := by
  cases done : command.perform state.table with
  | error error =>
      rw [RegistryState.transaction_error done] at changes
      exact (changes rfl).elim
  | ok result =>
      rcases result with ⟨answer, table⟩
      rcases RegistryCommand.perform_moves done with ⟨digest, digested, move⟩
      rw [RegistryState.transaction_ok done] at changes ⊢
      refine ⟨digest, answer, table, ?_, digested, rfl, move⟩
      by_contra other
      exact changes (move.frame (Ne.symm other))

/-- No transaction touches a terminal row. -/
theorem RegistryState.terminal_transaction {row : IdempotencyRow}
    (present : state.row identity = some row)
    (terminal : row.status ≠ .inProgress) (command : RegistryCommand) :
    (state.transaction command).row identity = some row := by
  by_contra changes
  rw [← present] at changes
  rcases RegistryState.changed changes with
    ⟨digest, answer, table, rfl, _, same, move⟩
  have here : state.table.lookup command.identity = some row := present
  cases move with
  | started _ absent => cases here.symm.trans absent
  | replayed =>
      apply changes
      show (state.transaction command).table.lookup _ = _
      rw [same]
      rfl
  | reclaimed _ found _ live =>
      cases here.symm.trans found
      exact terminal live
  | terminated found _ live =>
      cases here.symm.trans found
      exact terminal live

theorem RegistryState.terminal_after {row : IdempotencyRow}
    (present : state.row identity = some row)
    (terminal : row.status ≠ .inProgress)
    (later : List RegistryCommand) :
    (state.after later).row identity = some row := by
  induction later generalizing state with
  | nil => exact present
  | cons command rest ih =>
      exact ih (RegistryState.terminal_transaction present terminal command)

/-- A terminal row is written under the reservation of the latest owner. -/
theorem RegistryInvariant.writes (holds : RegistryInvariant state identity)
    {command : RegistryCommand} {row : IdempotencyRow}
    (written : (state.transaction command).row identity = some row)
    (terminal : row.status ≠ .inProgress)
    (changes : state.row identity ≠ some row) :
    ∃ owner, (state.owners identity).getLast? = some owner ∧
      command.reservation = some owner := by
  have differ : (state.transaction command).row identity ≠
      state.row identity := by
    rw [written]
    exact Ne.symm changes
  rcases RegistryState.changed differ with
    ⟨digest, answer, table, rfl, _, same, move⟩
  have here : table.lookup command.identity = some row := same ▸ written
  cases move with
  | started at_ absent =>
      rw [lookup_alter_self] at here
      cases here
      exact (terminal rfl).elim
  | replayed => exact (changes here).elim
  | reclaimed now found _ live =>
      rw [lookup_alter_self] at here
      cases here
      exact (terminal live).elim
  | terminated found request live owner =>
      exact ⟨_, request ▸ holds.latest _ found live, owner⟩

/-- A superseded reservation writes nothing, and replays at most. -/
theorem RegistryInvariant.supersedes
    (holds : RegistryInvariant state identity) {command : RegistryCommand}
    {owner : IdempotencyReservation}
    (held : command.reservation = some owner)
    (target : command.identity = identity)
    (superseded : (state.owners identity).getLast? ≠ some owner)
    {answer : RegistryAnswer} {table : IdempotencyTable} {digest : Text}
    (move : RegistryMove state.table command digest answer table)
    (returns : ∃ record, answer = .terminal record) :
    table = state.table ∧ ∀ record, answer = .terminal record →
      ∃ row stored submission, state.row identity = some row ∧
        row.status ≠ .inProgress ∧
        storedIdempotencyFromRow identity row = .ok stored ∧
        record = stored.record ∧ command.submission = some submission ∧
        SameResult record submission := by
  subst target
  rcases returns with ⟨record, rfl⟩
  cases move with
  | started _ _ _ admits => cases admits
  | @replayed row stored present request reads quiet exact_ =>
      refine ⟨rfl, ?_⟩
      intro record_ answer
      rcases exact_ record_ answer with
        ⟨same, terminal, submission, submitted, result⟩
      exact ⟨row, stored, submission, present, terminal, reads, same,
        submitted, result⟩
  | reclaimed _ _ _ _ _ _ admits => cases admits
  | terminated found request live owner_ =>
      have last := holds.latest _ found live
      rw [request, ← owner_, held] at last
      exact (superseded last).elim

/-- What a call under a reservation returns is a record. -/
theorem RegistryCommand.answers_record {command : RegistryCommand}
    {owner : IdempotencyReservation} {answer : RegistryAnswer}
    {table next : IdempotencyTable}
    (held : command.reservation = some owner)
    (done : command.perform table = .ok (answer, next)) :
    ∃ record, answer = .terminal record := by
  cases command with
  | begin_ => cases held
  | reclaim => cases held
  | complete reservation request schemaVersion response completedAt =>
      rcases fmap_eq_ok.mp done with ⟨⟨record, committed⟩, _, same⟩
      cases same
      exact ⟨record, rfl⟩
  | fail reservation request schemaVersion response completedAt =>
      rcases fmap_eq_ok.mp done with ⟨⟨record, committed⟩, _, same⟩
      cases same
      exact ⟨record, rfl⟩

theorem RegistryInvariant.registry
    (holds : RegistryInvariant state identity) :
    RegistryHolds state identity := by
  refine ⟨?_, ?_, ?_, holds.increasing, ?_, ?_⟩
  · intro event member accepted
    cases present : state.row identity with
    | none => exact ((holds.absent present).2 event member accepted).elim
    | some row =>
        exact ⟨row, rfl, holds.request row present event member accepted⟩
  · rintro row command other present rfl digested different
    rcases holds.reads row present with ⟨stored, reads⟩
    exact RegistryCommand.refused_of_other present reads digested different
  · intro row present terminal
    rcases holds.reads row present with ⟨stored, reads⟩
    refine ⟨stored, reads, ?_⟩
    intro later
    have kept := RegistryState.terminal_after present terminal later
    refine ⟨kept, ?_⟩
    rintro command begins rfl valid digested
    exact RegistryCommand.begins_replays kept reads terminal begins valid
      digested
  · intro command row written terminal changes
    exact holds.writes written terminal changes
  · intro command owner held target superseded
    have here : command.identity = identity := by
      cases command with
      | begin_ => cases held
      | reclaim => cases held
      | complete =>
          cases held
          exact target
      | fail =>
          cases held
          exact target
    cases done : command.perform state.table with
    | error error =>
        rw [RegistryState.transaction_error done]
        refine ⟨rfl, ?_⟩
        intro record table impossible
        cases impossible
    | ok result =>
        rcases result with ⟨answer, table⟩
        rcases RegistryCommand.perform_moves done with ⟨digest, _, move⟩
        rcases holds.supersedes held here superseded move
          (RegistryCommand.answers_record held done) with ⟨same, replays⟩
        rw [RegistryState.transaction_ok done]
        refine ⟨same, ?_⟩
        intro record table_ answered
        cases answered
        exact replays record rfl

end Holds

/-- The registry holds of every identity after every run of transactions. -/
theorem registry_holds (commands : List RegistryCommand)
    (identity : IdempotencyIdentity) :
    RegistryHolds (RegistryState.empty.after commands) identity :=
  ((RegistryInvariant.empty identity).after commands).registry

end ParityGrid.Adapters.Persistence
