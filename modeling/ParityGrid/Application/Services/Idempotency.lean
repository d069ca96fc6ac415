import ParityGrid.Adapters.Persistence.Repositories.IdempotencyRuns
import ParityGrid.Foundation.Transition

/-!
# The boundary of idempotent commands

A command reserves its key in one transaction, runs its handler, and stores
the response in another.  A call that finds the response stored replays it; one
that loses the race to store its own looks the winner up.  Calls of one key
interleave freely, and a process may be lost between any two steps.
-/

namespace ParityGrid.Application.Services

open ParityGrid.Foundation ParityGrid.Adapters.Persistence

/-- `IdempotencyLeasePolicy`. -/
structure IdempotencyLeasePolicy where
  leaseSeconds : Binary64
  supported : isLeaseWindow leaseSeconds = true

/-- One logical response of a mutating command. -/
structure CommandOutcome where
  statusCode : Int
  mediaType : Text
  body : List (Text × JsonValue)
  terminal : Bool

structure CommandExecution where
  outcome : CommandOutcome
  replayed : Bool

/-- What `execute` raises. -/
inductive CommandError where
  /-- `IdempotencyKeyConflictError`. -/
  | keyConflict (message : String)
  /-- `IdempotencyInProgressError`. -/
  | inProgress (message : String)
  /-- `IdempotencyReplayConflictError`. -/
  | replayConflict (message : String)
  | consistency (error : ConsistencyError)
  | request (error : PythonError)
  /-- What the handler raised. -/
  | handler
  /-- A transaction that could not run. -/
  | unavailable

/-- The mapping that `_terminalize` stores. -/
def responseMapping (outcome : CommandOutcome) : List (Text × JsonValue) :=
  [(text "status_code", .scalar (.int outcome.statusCode)),
    (text "media_type", .string outcome.mediaType),
    (text "body", .object outcome.body)]

/-- The status that a terminal outcome is stored under. -/
def CommandOutcome.status (outcome : CommandOutcome) : IdempotencyStatus :=
  if outcome.statusCode < 400 then .completed else .failed

section Service

variable [CasefoldRuntime]

/-- `_stored_outcome`. -/
def storedOutcome (record : IdempotencyRecord) : Option CommandOutcome :=
  match record.response with
  | none => none
  | some response =>
      if record.responseSchemaVersion ≠ some 1 then none
      else
        match response.toMapping.field (text "status_code"),
            response.toMapping.field (text "media_type"),
            response.toMapping.field (text "body") with
        | some (.scalar (.int statusCode)), some (.string mediaType),
            some (.object body) =>
            some { statusCode, mediaType, body, terminal := true }
        | _, _, _ => none

/-! ## Calls -/

/-- How far a call of `execute` is. -/
inductive CallPhase where
  | arrived
  /-- The selected handler runs under a reservation. -/
  | handling (document : ConfigurationDocument)
      (reservation : IdempotencyReservation) (reclaimed : Bool)
  | terminalizing (document : ConfigurationDocument)
      (reservation : IdempotencyReservation) (outcome : CommandOutcome)
  /-- Another owner stored its response first. -/
  | conflicted (terminal : IdempotencyStatus) (message : String)
  /-- The execution is known, and about to be returned. -/
  | finishing (execution : CommandExecution)
  | returned (execution : CommandExecution)
  | raised (error : CommandError)
  /-- The process was lost, perhaps with its execution. -/
  | lost (known : Option CommandExecution)

def CallPhase.isHandling : CallPhase → Bool
  | .handling _ _ _ => true
  | _ => false

structure CommandCall where
  request : List (Text × JsonValue)
  phase : CallPhase
  /-- Whether the handler of this call ever began. -/
  ran : Bool

/-- The registry and every call of one scope and key. -/
structure CommandRun where
  registry : RegistryState
  calls : List CommandCall
  /-- The call whose transaction stored the response. -/
  writer : Option Nat

structure IdempotentCommandService where
  scope : Text
  key : Text
  policy : IdempotencyLeasePolicy

namespace IdempotentCommandService

variable (service : IdempotentCommandService)

def identity : IdempotencyIdentity :=
  { scope := service.scope, key := service.key }

/-- `execute`, once the reserving transaction has answered. -/
def begun (document : ConfigurationDocument) :
    Except ConsistencyError (IdempotencyBeginResult × IdempotencyTable) →
      CallPhase
  | .error (.idempotencyConflict message) => .raised (.keyConflict message)
  | .error (.staleRowVersion message) => .raised (.keyConflict message)
  | .error error => .raised (.consistency error)
  | .ok (result, _) =>
      match result.disposition, result.reservation with
      | .inProgressReplay, _ =>
          .raised (.inProgress ("an in-progress command owns this " ++
            "idempotency key and its lease has not expired"))
      | .started, some reservation => .handling document reservation false
      | .reclaimed, some reservation => .handling document reservation true
      | .started, none | .reclaimed, none =>
          .raised (.replayConflict "reservation evidence is missing")
      | _, _ =>
          match storedOutcome result.record with
          | none =>
              .raised (.replayConflict
                "stored idempotent response does not match the replay schema")
          | some stored => .finishing ⟨stored, true⟩

/-- The command of the reserving transaction. -/
def reclaimCommand (document : ConfigurationDocument) (now : Instant) :
    RegistryCommand :=
  .reclaim service.scope service.key document service.policy.leaseSeconds now

/-- `execute`, up to the call of the handler. -/
def reserve (run : CommandRun) (index : Nat) (now : Instant) : CommandRun :=
  match run.calls[index]? with
  | some ⟨request, .arrived, ran⟩ =>
      match ConfigurationDocument.fromMapping request with
      | .error error =>
          { run with
            calls := run.calls.set index
              ⟨request, .raised (.request error), ran⟩ }
      | .ok document =>
          let phase : CallPhase := begun document (reclaim run.registry.table service.scope
            service.key document service.policy.leaseSeconds now)
          { run with
            registry :=
              run.registry.transaction (service.reclaimCommand document now)
            calls := run.calls.set index
              ⟨request, phase, ran || phase.isHandling⟩ }
  | _ => run

/-- The handler returned an outcome, or raised. -/
def handled (run : CommandRun) (index : Nat)
    (result : Option CommandOutcome) : CommandRun :=
  match run.calls[index]? with
  | some ⟨request, .handling document reservation _, ran⟩ =>
      let phase : CallPhase :=
        match result with
        | none => .raised .handler
        | some outcome =>
            if outcome.terminal then .terminalizing document reservation outcome
            else .finishing ⟨outcome, false⟩
      { run with calls := run.calls.set index ⟨request, phase, ran⟩ }
  | _ => run

/-- The command of `_complete`. -/
def terminalCommand (document : ConfigurationDocument)
    (reservation : IdempotencyReservation) (outcome : CommandOutcome)
    (response : RedactedDocument) (completedAt : Instant) : RegistryCommand :=
  if outcome.statusCode < 400 then
    .complete reservation document 1 response completedAt
  else .fail reservation document 1 response completedAt

/-- `_terminalize`, once its transaction has answered. -/
def ended (outcome : CommandOutcome) :
    Except ConsistencyError (RegistryAnswer × IdempotencyTable) → CallPhase
  | .ok _ => .finishing ⟨outcome, false⟩
  | .error (.idempotencyConflict message) =>
      .conflicted outcome.status message
  | .error error => .raised (.consistency error)

/-- `_terminalize`, up to the lookup of a winner. -/
def terminalize (run : CommandRun) (index : Nat) (now : Instant) :
    CommandRun :=
  match run.calls[index]? with
  | some ⟨request, .terminalizing document reservation outcome, ran⟩ =>
      match RedactedDocument.fromMapping (responseMapping outcome) with
      | .error error =>
          { run with
            calls := run.calls.set index
              ⟨request, .raised (.consistency error), ran⟩ }
      | .ok response =>
          let command :=
            terminalCommand document reservation outcome response now
          let registry := run.registry.transaction command
          { registry := registry
            calls := run.calls.set index
              ⟨request, ended outcome (command.perform run.registry.table), ran⟩
            writer :=
              if registry.row service.identity = run.registry.row
                service.identity then run.writer else some index }
  | _ => run

/-- `_terminalize`, when another owner has stored its response. -/
def winner (run : CommandRun) (terminal : IdempotencyStatus)
    (message : String) : CallPhase :=
  match getStored run.registry.table service.identity with
  | .error error => .raised (.consistency error)
  | .ok none => .raised (.replayConflict message)
  | .ok (some stored) =>
      if stored.record.status = terminal then
        match storedOutcome stored.record with
        | some replayed => .finishing ⟨replayed, true⟩
        | none => .raised (.replayConflict message)
      else .raised (.replayConflict message)

/-- The lookup of the winner. -/
def lookUp (run : CommandRun) (index : Nat) : CommandRun :=
  match run.calls[index]? with
  | some ⟨request, .conflicted terminal message, ran⟩ =>
      { run with
        calls := run.calls.set index
          ⟨request, service.winner run terminal message, ran⟩ }
  | _ => run

/-- The end of a call that has not committed its last transaction. -/
def interrupt (run : CommandRun) (index : Nat) (after : CallPhase) :
    CommandRun :=
  match run.calls[index]? with
  | some ⟨_, .finishing _, _⟩ | some ⟨_, .returned _, _⟩
  | some ⟨_, .raised _, _⟩ | some ⟨_, .lost _, _⟩ => run
  | some ⟨request, _, ran⟩ =>
      { run with calls := run.calls.set index ⟨request, after, ran⟩ }
  | none => run

/-- The end of a call whose execution is known. -/
def conclude (run : CommandRun) (index : Nat)
    (after : CommandExecution → CallPhase) : CommandRun :=
  match run.calls[index]? with
  | some ⟨request, .finishing execution, ran⟩ =>
      { run with
        calls := run.calls.set index ⟨request, after execution, ran⟩ }
  | _ => run

/-- The steps of all calls. -/
inductive CallStep where
  | arrive (request : List (Text × JsonValue))
  | reserve (call : Nat) (now : Instant)
  | handled (call : Nat) (result : Option CommandOutcome)
  | terminalize (call : Nat) (now : Instant)
  | lookUp (call : Nat)
  | finish (call : Nat)
  /-- A transaction cannot run, and nothing of it is committed. -/
  | fail (call : Nat)
  | lose (call : Nat)

def step (run : CommandRun) : CallStep → CommandRun
  | .arrive request =>
      { run with calls := run.calls ++ [⟨request, .arrived, false⟩] }
  | .reserve call now => service.reserve run call now
  | .handled call result => handled run call result
  | .terminalize call now => service.terminalize run call now
  | .lookUp call => service.lookUp run call
  | .finish call => conclude run call .returned
  | .fail call => interrupt run call (.raised .unavailable)
  | .lose call =>
      conclude (interrupt run call (.lost none)) call fun known =>
        .lost (some known)

/-- All interleavings of the calls of one scope and key. -/
def system : TransitionSystem CommandRun CallStep where
  Initial run :=
    run.calls = [] ∧ run.writer = none ∧ run.registry.history = [] ∧
      run.registry.row service.identity = none
  Step run label next := next = service.step run label

end IdempotentCommandService

end Service

end ParityGrid.Application.Services
