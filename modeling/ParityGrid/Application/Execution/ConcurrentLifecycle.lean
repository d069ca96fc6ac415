import ParityGrid.Adapters.Persistence.Repositories.Runs
import ParityGrid.Application.Execution.Frontier

/-!
# The lifecycle of concurrent runs

A pause is decided on a signal: of the acknowledgement and the abort of one
request, one wins.  An acknowledged pause writes two durable arrows, each from
a state of the run that is read again before it.
-/

namespace ParityGrid.Application

open ParityGrid.Foundation ParityGrid.Adapters.Persistence

/-! ## The signal -/

/-- `ConcurrentPauseSignal`: its state, with the generation it is keyed by. -/
inductive ConcurrentPauseSignal where
  | idle
  | requested (generation : ControlGeneration)
  | acknowledged (generation : ControlGeneration)
deriving DecidableEq

namespace ConcurrentPauseSignal

/-- `is_requested`. -/
def isRequested : ConcurrentPauseSignal → Bool
  | .requested _ => true
  | _ => false

/-- `requested_generation`. -/
def requestedGeneration : ConcurrentPauseSignal → Option ControlGeneration
  | .requested generation => some generation
  | _ => none

/-- `request`; `none` is `ConcurrentLifecycleBusyError`. -/
def request (signal : ConcurrentPauseSignal) (generation : ControlGeneration) :
    Option ConcurrentPauseSignal :=
  match signal with
  | .idle => some (.requested generation)
  | .requested _ => none
  | .acknowledged _ => none

/-- `try_acknowledge`. -/
def tryAcknowledge (signal : ConcurrentPauseSignal)
    (generation : ControlGeneration) : Option ConcurrentPauseSignal :=
  if signal = .requested generation then some (.acknowledged generation)
  else none

/-- `try_abort`. -/
def tryAbort (signal : ConcurrentPauseSignal)
    (generation : ControlGeneration) : Option ConcurrentPauseSignal :=
  if signal = .requested generation then some .idle else none

/-- `clear`. -/
def clear (signal : ConcurrentPauseSignal) (generation : ControlGeneration) :
    ConcurrentPauseSignal :=
  if signal = .acknowledged generation then .idle else signal

end ConcurrentPauseSignal

/-! ## Durable arrows -/

/-- What an arrow reads of a `PauseDurableState`. -/
structure LifecycleDurableState where
  state : Domain.RunState
  rowVersion : Int
deriving DecidableEq

/-- What the reader and the clock answer before one arrow. -/
inductive ArrowReading where
  /-- The state could not be read. -/
  | failed
  /-- `none` is a clock that raises. -/
  | read (durable : LifecycleDurableState) (now : Option Instant)

/-- The command of one arrow; its event is left out. -/
structure LifecycleArrow where
  expectedRunRowVersion : Int
  targetState : Domain.RunState
  transitionedAt : Instant

/-- What comes of the reading. -/
inductive ArrowDecision where
  | submit (arrow : LifecycleArrow)
  /-- `ConcurrentLifecycleRejectedError`. -/
  | rejected
  /-- `ConcurrentLifecycleStateReadError`. -/
  | unreadable
  /-- What the clock raised, which is no lifecycle error. -/
  | raised

/-- `_transition`, up to the submission of its command. -/
def decideArrow (target : Domain.RunState) : ArrowReading → ArrowDecision
  | .failed => .unreadable
  | .read durable now =>
      if canTransitionRun durable.state target then
        match now with
        | none => .raised
        | some at_ => .submit ⟨durable.rowVersion, target, at_⟩
      else .rejected

/-- How the writer answers a submission. -/
inductive ArrowAnswer where
  /-- A receipt, which only a command that was executed has. -/
  | receipt
  /-- Any exception; the command may have been executed all the same. -/
  | unknown (executed : Bool)

section Arrows

variable [CasefoldRuntime]

/-- The transition that the writer executes. -/
def LifecycleArrow.execute (arrow : LifecycleArrow) (tables : ExecutionTables) :
    Except RepositoryError ExecutionTables :=
  transitionRun tables arrow.expectedRunRowVersion arrow.targetState
    arrow.transitionedAt none none

theorem LifecycleArrow.execute_state {arrow : LifecycleArrow}
    {tables after : ExecutionTables} (done : arrow.execute tables = .ok after) :
    after.run.state = arrow.targetState := by
  rcases transitionRun_eq_ok.mp done with ⟨_, _, _, _, _, _, _, _, same⟩
  rw [same]
  rfl

end Arrows

/-- The failures of an arrow that are not rejections. -/
inductive LifecycleFailure where
  | stateRead
  | outcomeUnknown

/-- The reason with which the engine then requires recovery. -/
def LifecycleFailure.reason : LifecycleFailure → Text
  | .stateRead => text ("pause completion failed: " ++
      "durable lifecycle state could not be read")
  | .outcomeUnknown => text ("pause completion failed: " ++
      "lifecycle writer outcome is unknown")

theorem LifecycleFailure.reason_admitted (failure : LifecycleFailure) :
    requireReasonText failure.reason "scheduler recovery reason" = .ok () := by
  cases failure <;> rw [requireReasonText, requirePlainText_eq_ok] <;>
    decide

end ParityGrid.Application
