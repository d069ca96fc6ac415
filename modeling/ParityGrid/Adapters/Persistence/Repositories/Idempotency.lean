import ParityGrid.Adapters.Persistence.Repositories.ConsistencyCommon
import ParityGrid.Foundation.Binary64

/-!
# The repository of idempotent commands

A command is recorded under its scope and key.  The first transaction inserts
the record and owns it; once its lease has passed, another may reclaim it by
advancing the update time, and the owner writes the result.  An operation
returns its answer and the table that its transaction commits; one that raises
is rolled back.
-/

namespace ParityGrid.Adapters.Persistence

open ParityGrid.Foundation ParityGrid.Application

/-! ## Rows -/

structure IdempotencyRow where
  requestSha256 : Text
  status : IdempotencyStatus
  responseSchemaVersion : Option Int
  responseJson : Option Text
  createdAt : Instant
  updatedAt : Instant
  completedAt : Option Instant
deriving DecidableEq

/-- `idempotency_records`, by primary key. -/
abbrev IdempotencyTable := List (IdempotencyIdentity × IdempotencyRow)

/-- `_SHA256_PATTERN.fullmatch`. -/
def isSha256Digest (value : Text) : Bool :=
  value.length == 64 && value.all isHexLower

section Repository

variable [CasefoldRuntime]

structure StoredIdempotencyRecord where
  record : IdempotencyRecord
  requestSha256 : Text

/-- The response columns, as the status requires them. -/
def storedResponse (row : IdempotencyRow) :
    Except ConsistencyError (Option Int × Option RedactedDocument) :=
  match row.status with
  | .inProgress => do
      require (row.responseSchemaVersion.isNone && row.responseJson.isNone &&
          row.completedAt.isNone)
        (.corruption "in-progress idempotency record is corrupt")
      return (none, none)
  | _ => do
      let version ←
        match row.responseSchemaVersion with
        | none => .error (.corruption
            "idempotency response schema version is corrupt")
        | some value =>
            stored "idempotency response schema version"
              (positiveInt value "idempotency response schema version")
      let response ←
        decodeRedactedDocument row.responseJson "idempotency response"
      require
        (row.completedAt == some row.updatedAt && row.createdAt ≤ row.updatedAt)
        (.corruption "terminal idempotency chronology is corrupt")
      return (some version, some response)

/-- `stored_idempotency_from_row`. -/
def storedIdempotencyFromRow (identity : IdempotencyIdentity)
    (row : IdempotencyRow) :
    Except ConsistencyError StoredIdempotencyRecord := do
  require (isSha256Digest row.requestSha256)
    (.corruption "idempotency record is corrupt")
  require (row.createdAt ≤ row.updatedAt)
    (.corruption "idempotency chronology is corrupt")
  let response ← storedResponse row
  let scope ← stored "idempotency scope" (idempotencyScope identity.scope)
  let key ← stored "idempotency key"
    (portableIdentity identity.key "idempotency key" 128)
  return {
    record := {
      identity := { scope, key }
      status := row.status
      responseSchemaVersion := response.1
      response := response.2
      createdAt := row.createdAt
      updatedAt := row.updatedAt
      completedAt := row.completedAt }
    requestSha256 := row.requestSha256 }

/-- A record that is read back says what its row says. -/
theorem storedIdempotencyFromRow_eq_ok {identity : IdempotencyIdentity}
    {row : IdempotencyRow} {stored : StoredIdempotencyRecord}
    (reads : storedIdempotencyFromRow identity row = .ok stored) :
    stored.requestSha256 = row.requestSha256 ∧
      stored.record.identity = identity ∧
      stored.record.status = row.status ∧
      stored.record.createdAt = row.createdAt ∧
      stored.record.updatedAt = row.updatedAt := by
  simp only [storedIdempotencyFromRow, bind_eq_ok, stored_eq_ok] at reads
  rcases reads with
    ⟨_, _, _, _, response, _, scope, inScope, key, keyed, same⟩
  rw [← Except.ok.inj same, idempotencyScope_eq_ok inScope,
    portableIdentity_eq_ok keyed]
  exact ⟨rfl, rfl, rfl, rfl, rfl⟩

/-- `_reservation`. -/
def reservationOf (stored : StoredIdempotencyRecord) :
    Except ConsistencyError IdempotencyReservation := do
  require (stored.record.status == .inProgress)
    (.corruption "idempotency reservation result is not in progress")
  return {
    identity := stored.record.identity
    requestSha256 := stored.requestSha256
    createdAt := stored.record.createdAt
    updatedAt := stored.record.updatedAt }

theorem reservationOf_eq_ok {stored : StoredIdempotencyRecord}
    {reservation : IdempotencyReservation}
    (reserved : reservationOf stored = .ok reservation) :
    reservation = {
      identity := stored.record.identity
      requestSha256 := stored.requestSha256
      createdAt := stored.record.createdAt
      updatedAt := stored.record.updatedAt } := by
  simp only [reservationOf, check_bind_eq_ok] at reserved
  exact (Except.ok.inj reserved.2).symm

/-- `_require_identity`. -/
def requireIdentity (scope key : Text) :
    Except ConsistencyError IdempotencyIdentity := do
  let scope ← idempotencyScope scope
  let key ← portableIdentity key "idempotency key" 128
  return { scope, key }

theorem requireIdentity_eq_ok {scope key : Text}
    {identity : IdempotencyIdentity}
    (checked : requireIdentity scope key = .ok identity) :
    identity = { scope, key } := by
  simp only [requireIdentity, bind_eq_ok] at checked
  rcases checked with ⟨scope', inScope, key', keyed, same⟩
  rw [← Except.ok.inj same, idempotencyScope_eq_ok inScope,
    portableIdentity_eq_ok keyed]

/-- The answer to a request whose record exists and has no new owner. -/
def replayed (record : IdempotencyRecord) : IdempotencyBeginResult where
  disposition := record.status.replay
  record := record
  reservation := none
  coherent := record.status.replay_admits

/-- The answer that hands a reservation to a new owner. -/
def admitted (disposition : IdempotencyBeginDisposition)
    (admits : disposition.admits = true) (stored : StoredIdempotencyRecord) :
    Except ConsistencyError IdempotencyBeginResult := do
  let reservation ← reservationOf stored
  return {
    disposition
    record := stored.record
    reservation := some reservation
    coherent := admits }

/-! ## Statements -/

/-- `UPDATE ... WHERE ... RETURNING`: the row as it became, and the table. -/
def updateWhere (table : IdempotencyTable) (identity : IdempotencyIdentity)
    (selects : IdempotencyRow → Bool)
    (change : IdempotencyRow → IdempotencyRow) :
    Option (IdempotencyRow × IdempotencyTable) :=
  match table.lookup identity with
  | none => none
  | some row =>
      if selects row then
        some (change row, alter identity (fun _ => change row) table)
      else none

omit [CasefoldRuntime] in
theorem updateWhere_eq_some {table next : IdempotencyTable}
    {identity : IdempotencyIdentity} {selects : IdempotencyRow → Bool}
    {change : IdempotencyRow → IdempotencyRow} {changed : IdempotencyRow}
    (updated :
      updateWhere table identity selects change = some (changed, next)) :
    ∃ row, table.lookup identity = some row ∧ selects row = true ∧
      changed = change row ∧
      next = alter identity (fun _ => change row) table := by
  unfold updateWhere at updated
  cases found : table.lookup identity with
  | none =>
      rw [found] at updated
      cases updated
  | some row =>
      rw [found] at updated
      by_cases selected : selects row = true
      · simp only [selected, if_true, Option.some.injEq,
          Prod.mk.injEq] at updated
        exact ⟨row, rfl, selected, updated.1.symm, updated.2.symm⟩
      · simp [selected] at updated

/-- `_get_stored`. -/
def getStored (table : IdempotencyTable) (identity : IdempotencyIdentity) :
    Except ConsistencyError (Option StoredIdempotencyRecord) :=
  match table.lookup identity with
  | none => .ok none
  | some row => some <$> storedIdempotencyFromRow identity row

theorem getStored_eq_some {table : IdempotencyTable}
    {identity : IdempotencyIdentity} {stored : StoredIdempotencyRecord}
    (got : getStored table identity = .ok (some stored)) :
    ∃ row, table.lookup identity = some row ∧
      storedIdempotencyFromRow identity row = .ok stored := by
  unfold getStored at got
  cases found : table.lookup identity with
  | none =>
      rw [found] at got
      cases got
  | some row =>
      rw [found] at got
      rcases fmap_eq_ok.mp got with ⟨_, reads, same⟩
      cases same
      exact ⟨row, rfl, reads⟩

/-- `_require_stored`. -/
def requireStored (table : IdempotencyTable) (identity : IdempotencyIdentity) :
    Except ConsistencyError StoredIdempotencyRecord := do
  match ← getStored table identity with
  | none => throw (.idempotencyConflict
      "idempotency reservation does not exist")
  | some stored => return stored

theorem requireStored_eq_ok {table : IdempotencyTable}
    {identity : IdempotencyIdentity} {stored : StoredIdempotencyRecord}
    (got : requireStored table identity = .ok stored) :
    ∃ row, table.lookup identity = some row ∧
      storedIdempotencyFromRow identity row = .ok stored := by
  rcases bind_eq_ok.mp got with ⟨found, read, later⟩
  cases found with
  | none => cases later
  | some existing =>
      cases later
      exact getStored_eq_some read

/-! ## Beginning a command -/

/-- The row that the first transaction inserts. -/
def startedRow (digest : Text) (startedAt : Instant) : IdempotencyRow where
  requestSha256 := digest
  status := .inProgress
  responseSchemaVersion := none
  responseJson := none
  createdAt := startedAt
  updatedAt := startedAt
  completedAt := none

/-- A request other than the recorded one conflicts. -/
def requireSameRequest (stored : StoredIdempotencyRecord) (digest : Text) :
    Except ConsistencyError Unit :=
  require (stored.requestSha256 == digest)
    (.idempotencyConflict "idempotency identity has a different request")

/-- The branch of `_start_or_replay` in which the insert stored its row. -/
def startFresh (table : IdempotencyTable) (identity : IdempotencyIdentity)
    (digest : Text) (startedAt : Instant) :
    Except ConsistencyError (IdempotencyBeginResult × IdempotencyTable) := do
  let row := startedRow digest startedAt
  let stored ← storedIdempotencyFromRow identity row
  require (stored.requestSha256 == digest)
    (.corruption "idempotency insert result is corrupt")
  let result ← admitted .started rfl stored
  return (result, alter identity (fun _ => row) table)

/-- The branch of `_start_or_replay` in which the insert met a conflict. -/
def replayExisting (table : IdempotencyTable) (identity : IdempotencyIdentity)
    (digest : Text) :
    Except ConsistencyError (IdempotencyBeginResult × IdempotencyTable) := do
  let existing ← requireStored table identity
  requireSameRequest existing digest
  return (replayed existing.record, table)

/-- `_start_or_replay`. -/
def startOrReplay (table : IdempotencyTable) (identity : IdempotencyIdentity)
    (request : ConfigurationDocument) (startedAt : Instant) :
    Except ConsistencyError (IdempotencyBeginResult × IdempotencyTable) := do
  let digest ← requestDigest request
  if (table.lookup identity).isNone then
    startFresh table identity digest startedAt
  else
    replayExisting table identity digest

/-- `begin`. -/
def begin_ (table : IdempotencyTable) (scope key : Text)
    (request : ConfigurationDocument) (startedAt : Instant) :
    Except ConsistencyError (IdempotencyBeginResult × IdempotencyTable) := do
  let identity ← requireIdentity scope key
  startOrReplay table identity request startedAt

/-! ## Reclaiming a command -/

/-- A lease window is a positive number of seconds, of at most a day. -/
def isLeaseWindow (seconds : Binary64) : Bool :=
  Binary64.lt (.finite 0) seconds && !Binary64.lt (.finite 86400) seconds

/-- `(now - then).total_seconds()`. -/
def ageSeconds (now updatedAt : Instant) : Binary64 :=
  Binary64.trueDivision (now - updatedAt) 1000000

/--
Advance the lease generation.  The update names the generation that was read,
so of several transactions that read it one succeeds; the others answer with
what is stored by then.
-/
def claimGeneration (table : IdempotencyTable)
    (identity : IdempotencyIdentity) (digest : Text)
    (observed now : Instant) :
    Except ConsistencyError (IdempotencyBeginResult × IdempotencyTable) := do
  let claimed := updateWhere table identity
    (fun row => row.requestSha256 == digest && row.status == .inProgress &&
      row.updatedAt == observed)
    (fun row => { row with updatedAt := now })
  match claimed with
  | some (row, next) => do
      let stored ← storedIdempotencyFromRow identity row
      let result ← admitted .reclaimed rfl stored
      return (result, next)
  | none => replayExisting table identity digest

/-- The part of `reclaim` that follows an existing record. -/
def reclaimExisting (table : IdempotencyTable)
    (identity : IdempotencyIdentity) (existing : StoredIdempotencyRecord)
    (request : ConfigurationDocument) (leaseExpiresAfterSeconds : Binary64)
    (now : Instant) :
    Except ConsistencyError (IdempotencyBeginResult × IdempotencyTable) := do
  let digest ← requestDigest request
  requireSameRequest existing digest
  if existing.record.status ≠ .inProgress then
    return (replayed existing.record, table)
  else if Binary64.lt (ageSeconds now existing.record.updatedAt)
      leaseExpiresAfterSeconds then
    return (replayed existing.record, table)
  else
    claimGeneration table identity digest existing.record.updatedAt now

/-- `reclaim`. -/
def reclaim (table : IdempotencyTable) (scope key : Text)
    (request : ConfigurationDocument) (leaseExpiresAfterSeconds : Binary64)
    (now : Instant) :
    Except ConsistencyError (IdempotencyBeginResult × IdempotencyTable) := do
  require (isLeaseWindow leaseExpiresAfterSeconds)
    (.invalidRequest "idempotency lease window is invalid")
  let identity ← requireIdentity scope key
  match ← getStored table identity with
  | none => startOrReplay table identity request now
  | some existing =>
      reclaimExisting table identity existing request
        leaseExpiresAfterSeconds now

theorem admitted_reservation {disposition : IdempotencyBeginDisposition}
    {admits : disposition.admits = true} {stored : StoredIdempotencyRecord}
    {result : IdempotencyBeginResult}
    (made : admitted disposition admits stored = .ok result) :
    ∃ reservation, result.reservation = some reservation ∧
      reservation.updatedAt = stored.record.updatedAt ∧
      result.disposition = disposition := by
  simp only [admitted, bind_eq_ok] at made
  rcases made with ⟨reservation, reserved, same⟩
  cases same
  exact ⟨reservation, rfl, by rw [reservationOf_eq_ok reserved], rfl⟩

/-- The answer of a transaction that reads an existing record. -/
theorem replayExisting_answers {table next : IdempotencyTable}
    {identity : IdempotencyIdentity} {digest : Text}
    {result : IdempotencyBeginResult}
    (done : replayExisting table identity digest = .ok (result, next)) :
    next = table ∧ ∃ row stored,
      table.lookup identity = some row ∧
      storedIdempotencyFromRow identity row = .ok stored ∧
      result = replayed stored.record := by
  simp only [replayExisting, bind_eq_ok] at done
  rcases done with ⟨stored, got, _, _, same⟩
  cases same
  rcases requireStored_eq_ok got with ⟨row, present, reads⟩
  exact ⟨rfl, row, stored, present, reads, rfl⟩

/-- Whom `reclaim` admits: the first, or one who found the lease expired. -/
structure ReclaimAdmits (table : IdempotencyTable)
    (identity : IdempotencyIdentity) (seconds : Binary64) (now : Instant)
    (result : IdempotencyBeginResult) : Prop where
  reservation : ∃ reservation, result.reservation = some reservation ∧
    reservation.updatedAt = now
  admits : result.disposition.admits = true
  expired : ∀ row, table.lookup identity = some row →
    Binary64.lt (ageSeconds now row.updatedAt) seconds = false

theorem reclaim_cases {table next : IdempotencyTable} {scope key : Text}
    {request : ConfigurationDocument} {seconds : Binary64} {now : Instant}
    {result : IdempotencyBeginResult}
    (done : reclaim table scope key request seconds now =
      .ok (result, next)) :
    ReclaimAdmits table ⟨scope, key⟩ seconds now result ∨
      (next = table ∧ ∃ row stored,
        table.lookup ⟨scope, key⟩ = some row ∧
        storedIdempotencyFromRow ⟨scope, key⟩ row = .ok stored ∧
        result = replayed stored.record) := by
  simp only [reclaim, bind_eq_ok] at done
  rcases done with ⟨_, _, identity, required, found, got, ended⟩
  cases requireIdentity_eq_ok required
  cases found with
  | none =>
      have absent : table.lookup ⟨scope, key⟩ = none := by
        cases held : table.lookup (⟨scope, key⟩ : IdempotencyIdentity) with
        | none => rfl
        | some row =>
            simp only [getStored, held] at got
            rcases fmap_eq_ok.mp got with ⟨_, _, impossible⟩
            cases impossible
      simp only [startOrReplay, bind_eq_ok, absent, Option.isNone_none,
        if_true, startFresh] at ended
      rcases ended with ⟨digest, _, stored, reads, _, _, begun, made, same⟩
      cases same
      rcases admitted_reservation made with ⟨reservation, held, at_, started⟩
      refine .inl ⟨⟨reservation, held, ?_⟩, by rw [started]; rfl, ?_⟩
      · rw [at_, (storedIdempotencyFromRow_eq_ok reads).2.2.2.2]
        rfl
      · intro row present
        cases absent.symm.trans present
  | some existing =>
      rcases getStored_eq_some got with ⟨row, present, reads⟩
      have updated := (storedIdempotencyFromRow_eq_ok reads).2.2.2.2
      simp only [reclaimExisting, bind_eq_ok] at ended
      rcases ended with ⟨digest, _, _, _, ended⟩
      split at ended
      · cases ended
        exact .inr ⟨rfl, row, existing, present, reads, rfl⟩
      split at ended
      · cases ended
        exact .inr ⟨rfl, row, existing, present, reads, rfl⟩
      next expired =>
        simp only [claimGeneration] at ended
        split at ended
        next claimed changed claims =>
          rcases updateWhere_eq_some claims with ⟨before, found, _, rfl, rfl⟩
          simp only [bind_eq_ok] at ended
          rcases ended with ⟨stored, again, begun, made, same⟩
          cases same
          rcases admitted_reservation made with
            ⟨reservation, held, at_, reclaimed⟩
          refine .inl ⟨⟨reservation, held, ?_⟩, by rw [reclaimed]; rfl, ?_⟩
          · rw [at_, (storedIdempotencyFromRow_eq_ok again).2.2.2.2]
          · intro other same
            cases present.symm.trans same
            rw [← updated]
            simpa using expired
        next => exact .inr (replayExisting_answers ended)

/-! ## Writing the result -/

/-- The terminal result that an owner submits, after its own checks. -/
structure TerminalResult where
  status : IdempotencyStatus
  schemaVersion : Int
  responseJson : Text
  completedAt : Instant

/-- `_terminal_replay_matches`. -/
def terminalReplayMatches (record : IdempotencyRecord)
    (result : TerminalResult) : Except ConsistencyError Bool :=
  match record.response with
  | none => .ok false
  | some response =>
      if record.status = result.status ∧
          record.responseSchemaVersion = some result.schemaVersion then do
        let encoded ←
          encodeRedactedDocument response "stored idempotency response"
        return encoded.text == result.responseJson &&
          record.completedAt == some result.completedAt &&
          record.updatedAt == result.completedAt
      else .ok false

/-- A record that is terminal already answers an exact replay only. -/
def replayTerminal (table : IdempotencyTable) (record : IdempotencyRecord)
    (result : TerminalResult) :
    Except ConsistencyError (IdempotencyRecord × IdempotencyTable) := do
  let same ← terminalReplayMatches record result
  require same (.idempotencyConflict
    "idempotency terminal result conflicts with replay")
  return (record, table)

/-- `_classify_terminal_cas`. -/
def classifyTerminalCas (table : IdempotencyTable)
    (identity : IdempotencyIdentity) (digest : Text)
    (expectedUpdatedAt : Instant) (result : TerminalResult) :
    Except ConsistencyError (IdempotencyRecord × IdempotencyTable) := do
  let current ← requireStored table identity
  requireSameRequest current digest
  if current.record.status ≠ .inProgress then
    replayTerminal table current.record result
  else if current.record.updatedAt ≠ expectedUpdatedAt then
    throw (.staleRowVersion "idempotency update time is stale")
  else
    throw (.idempotencyConflict "idempotency terminal update was rejected")

/-- The compare-and-set of `_terminalize`, fenced by the reservation. -/
def writeTerminal (table : IdempotencyTable) (identity : IdempotencyIdentity)
    (digest : Text) (expectedUpdatedAt : Instant) (result : TerminalResult) :
    Except ConsistencyError (IdempotencyRecord × IdempotencyTable) :=
  let written := updateWhere table identity
    (fun row => row.requestSha256 == digest && row.status == .inProgress &&
      row.updatedAt == expectedUpdatedAt)
    (fun row => { row with
      status := result.status
      responseSchemaVersion := some result.schemaVersion
      responseJson := some result.responseJson
      updatedAt := result.completedAt
      completedAt := some result.completedAt })
  match written with
  | none => classifyTerminalCas table identity digest expectedUpdatedAt result
  | some (row, next) => do
      let stored ← storedIdempotencyFromRow identity row
      require (stored.requestSha256 == digest &&
          stored.record.status == result.status)
        (.corruption "idempotency terminal result is corrupt")
      return (stored.record, next)

/-- The part of `_terminalize` that follows a record of this reservation. -/
def terminalizeCurrent (table : IdempotencyTable)
    (identity : IdempotencyIdentity) (current : StoredIdempotencyRecord)
    (digest : Text) (expectedUpdatedAt : Instant) (result : TerminalResult) :
    Except ConsistencyError (IdempotencyRecord × IdempotencyTable) :=
  if current.record.status ≠ .inProgress then
    replayTerminal table current.record result
  else do
    require (current.record.updatedAt ≤ result.completedAt)
      (.invalidRequest "idempotency completion time is not monotonic")
    writeTerminal table identity digest expectedUpdatedAt result

/-- `_terminalize`. -/
def terminalize (table : IdempotencyTable) (status : IdempotencyStatus)
    (reservation : IdempotencyReservation) (request : ConfigurationDocument)
    (responseSchemaVersion : Int) (response : RedactedDocument)
    (completedAt : Instant) :
    Except ConsistencyError (IdempotencyRecord × IdempotencyTable) := do
  let identity ←
    requireIdentity reservation.identity.scope reservation.identity.key
  let schemaVersion ← positiveInt responseSchemaVersion
    "idempotency response schema version"
  let encoded ← encodeRedactedDocument response "idempotency response"
  let digest ← requestDigest request
  require (reservation.requestSha256 == digest) (.idempotencyConflict
    "idempotency reservation has a different request")
  let current ← requireStored table identity
  requireSameRequest current digest
  require (current.record.createdAt == reservation.createdAt)
    (.idempotencyConflict
      "idempotency reservation does not match durable state")
  terminalizeCurrent table identity current digest reservation.updatedAt
    { status, schemaVersion, responseJson := encoded.text, completedAt }

/-- `complete`. -/
def complete (table : IdempotencyTable)
    (reservation : IdempotencyReservation) (request : ConfigurationDocument)
    (responseSchemaVersion : Int) (response : RedactedDocument)
    (completedAt : Instant) :
    Except ConsistencyError (IdempotencyRecord × IdempotencyTable) :=
  terminalize table .completed reservation request responseSchemaVersion
    response completedAt

/-- `fail`. -/
def fail (table : IdempotencyTable)
    (reservation : IdempotencyReservation) (request : ConfigurationDocument)
    (responseSchemaVersion : Int) (response : RedactedDocument)
    (completedAt : Instant) :
    Except ConsistencyError (IdempotencyRecord × IdempotencyTable) :=
  terminalize table .failed reservation request responseSchemaVersion
    response completedAt

/-! ## What a result leaves in the table -/

/-- A terminal row that is read back holds a response of some version. -/
theorem storedIdempotencyFromRow_response {identity : IdempotencyIdentity}
    {row : IdempotencyRow} {stored : StoredIdempotencyRecord}
    (reads : storedIdempotencyFromRow identity row = .ok stored)
    (terminal : row.status ≠ .inProgress) :
    ∃ version text response,
      row.responseSchemaVersion = some version ∧
      row.responseJson = some text ∧
      stored.record.responseSchemaVersion = some version ∧
      stored.record.response = some response ∧
      jsonDumps response.toMapping = .ok text ∧
      response.toMapping.sortKeys = response.toMapping := by
  simp only [storedIdempotencyFromRow, bind_eq_ok] at reads
  rcases reads with ⟨_, _, _, _, ⟨version, response⟩, kept, _, _, _, _, same⟩
  cases same
  cases versioned : row.responseSchemaVersion with
  | none =>
      simp only [storedResponse, versioned] at kept
      cases kept
  | some value =>
      simp only [storedResponse, versioned, bind_eq_ok, stored_eq_ok,
        positiveInt, pure, Except.pure, Except.ok.injEq, Prod.mk.injEq]
        at kept
      rcases kept with ⟨_, ⟨_, _, rfl⟩, document, decoded, _, _, rfl, rfl⟩
      cases held : row.responseJson with
      | none =>
          rw [held] at decoded
          cases decoded
      | some text =>
          rw [held] at decoded
          exact ⟨value, text, document, rfl, rfl, rfl, rfl,
            decodeRedactedDocument_dumps decoded⟩

/-- A row in progress is read back without a response. -/
theorem storedIdempotencyFromRow_live {identity : IdempotencyIdentity}
    {row : IdempotencyRow} {stored : StoredIdempotencyRecord}
    (reads : storedIdempotencyFromRow identity row = .ok stored)
    (live : row.status = .inProgress) : stored.record.response = none := by
  simp only [storedIdempotencyFromRow, bind_eq_ok] at reads
  rcases reads with ⟨_, _, _, _, ⟨version, response⟩, kept, _, _, _, _, same⟩
  cases same
  simp only [storedResponse, live, check_bind_eq_ok, pure, Except.pure,
    Except.ok.injEq, Prod.mk.injEq] at kept
  exact kept.2.2.symm

/-- The row holds exactly this result. -/
def HoldsResult (row : IdempotencyRow) (result : TerminalResult) : Prop :=
  row.status = result.status ∧
  row.responseSchemaVersion = some result.schemaVersion ∧
  row.responseJson = some result.responseJson

theorem replayTerminal_holds {table next : IdempotencyTable}
    {identity : IdempotencyIdentity} {row : IdempotencyRow}
    {stored : StoredIdempotencyRecord} {record : IdempotencyRecord}
    {result : TerminalResult}
    (reads : storedIdempotencyFromRow identity row = .ok stored)
    (terminal : stored.record.status ≠ .inProgress)
    (done : replayTerminal table stored.record result = .ok (record, next)) :
    next = table ∧ HoldsResult row result := by
  have status := (storedIdempotencyFromRow_eq_ok reads).2.2.1
  rcases storedIdempotencyFromRow_response reads (status ▸ terminal) with
    ⟨version, text, response, versioned, held, read, responds, dumps, _⟩
  simp only [replayTerminal, bind_eq_ok, require_eq_ok] at done
  rcases done with ⟨same, matches_, _, equal, kept⟩
  cases kept
  refine ⟨rfl, ?_⟩
  simp only [terminalReplayMatches, responds] at matches_
  split at matches_
  next agrees =>
    simp only [bind_eq_ok, pure, Except.pure, Except.ok.injEq] at matches_
    rcases matches_ with ⟨encoded, encodes, texts⟩
    have dumped := encodeMapping_dumps encodes
    rw [dumps] at dumped
    rw [← texts, Bool.and_eq_true, Bool.and_eq_true, beq_iff_eq] at equal
    refine ⟨status ▸ agrees.1, ?_, ?_⟩
    · rw [versioned, ← read]
      exact agrees.2
    · rw [held, ← equal.1.1, Except.ok.inj dumped]
  next => cases matches_; cases equal

/-- A result that is accepted is what the row holds from then on. -/
theorem terminalize_holds {table next : IdempotencyTable}
    {status : IdempotencyStatus} {reservation : IdempotencyReservation}
    {request : ConfigurationDocument} {responseSchemaVersion : Int}
    {response : RedactedDocument} {completedAt : Instant}
    {record : IdempotencyRecord}
    (done : terminalize table status reservation request responseSchemaVersion
      response completedAt = .ok (record, next)) :
    ∃ encoded row,
      encodeRedactedDocument response "idempotency response" = .ok encoded ∧
      next.lookup reservation.identity = some row ∧
      HoldsResult row {
        status
        schemaVersion := responseSchemaVersion
        responseJson := encoded.text
        completedAt } := by
  simp only [terminalize, bind_eq_ok, require_eq_ok] at done
  rcases done with ⟨identity, required, version, numbered, encoded, encodes,
    digest, _, _, _, current, got, _, _, _, _, ended⟩
  cases requireIdentity_eq_ok required
  simp only [positiveInt, check_bind_eq_ok] at numbered
  cases numbered.2
  rcases requireStored_eq_ok got with ⟨row, present, reads⟩
  refine ⟨encoded, ?_⟩
  simp only [terminalizeCurrent] at ended
  split at ended
  next terminal =>
    rcases replayTerminal_holds reads terminal ended with ⟨rfl, holds⟩
    exact ⟨row, encodes, present, holds⟩
  next =>
    simp only [check_bind_eq_ok, writeTerminal] at ended
    split at ended
    next =>
      have classified := ended.2
      simp only [classifyTerminalCas, bind_eq_ok] at classified
      rcases classified with ⟨again, read, _, _, classified⟩
      rcases requireStored_eq_ok read with ⟨row', present', reads'⟩
      split at classified
      next terminal =>
        rcases replayTerminal_holds reads' terminal classified with
          ⟨rfl, holds⟩
        exact ⟨row', encodes, present', holds⟩
      next => split at classified <;> cases classified
    next written changed updated =>
      rcases updateWhere_eq_some updated with ⟨before, _, _, rfl, rfl⟩
      simp only [bind_eq_ok] at ended
      rcases ended.2 with ⟨_, _, _, _, same⟩
      cases same
      exact ⟨_, encodes, lookup_alter_self _ _ _, rfl, rfl, rfl⟩

end Repository

end ParityGrid.Adapters.Persistence
