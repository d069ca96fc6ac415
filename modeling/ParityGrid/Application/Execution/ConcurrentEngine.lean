import ParityGrid.Application.Execution.ConcurrentLifecycle
import ParityGrid.Application.Execution.SchedulerRuns

/-!
# Pause and resume of the concurrent engine

One thread runs the engine's loop; requests, aborts and resumes come from any
thread.  The signal, the scheduler, the lease gate and the durable run are
changed one after another, so every access to one of them is a step of its
own.  Admission and results are whatever they do to the scheduler's work.
-/

namespace ParityGrid.Application

open ParityGrid.Foundation ParityGrid.Adapters.Persistence
open ParityGrid.Application.ConcurrentScheduler

/-! ## Requests -/

/-- How a request for a pause was decided. -/
inductive PauseWin where
  | acknowledgement
  | abort
deriving DecidableEq

/--
What became of one request that the signal accepted.  Its generation may be
requested again once an abort has won; that is another request.
-/
structure PauseRequest where
  generation : ControlGeneration
  wins : List PauseWin
  /-- The durable arrows that were submitted for it. -/
  arrows : List Domain.RunState
  /-- The states that the durable run reached by them. -/
  reached : List Domain.RunState
  /-- The engine went back from it to running admission. -/
  returned : Bool
deriving DecidableEq

/-! ## The engine's thread -/

/-- Where `run` is; a request is named by its number. -/
inductive EnginePhase where
  | outside
  /-- Results are drained and the frontier is about to be read. -/
  | draining
  /-- `_install_pause_if_requested`. -/
  | watching
  | noticed
  | reserving
  | requesting
  /-- The control state decides between quiescing and admission. -/
  | deciding
  | admitting
  /-- `_quiesce_step`. -/
  | quiescing
  | holding (generation : ControlGeneration) (request : Nat)
  /-- `complete_pause`. -/
  | completing (generation : ControlGeneration) (request : Nat)
  | reading (request : Nat) (target : Domain.RunState)
  | submitting (request : Nat) (arrow : LifecycleArrow)
  | pausing (request : Nat)
  | aborting (request : Nat)
  | releasing
  | recovering (failure : LifecycleFailure)

/-- What the engine's thread meets in one step. -/
inductive EngineChoice where
  /-- `run` is called, or goes on. -/
  | go
  /-- Work moves, or its failure requires recovery. -/
  | work (operation : SchedulerOperation)
  /-- Results are still in flight at the quiescing step. -/
  | drain (operation : SchedulerOperation)
  /-- The run is finished, or permanently blocked. -/
  | finish
  /-- Something that is called raises. -/
  | raise
  | read (reading : ArrowReading)
  | answer (answer : ArrowAnswer)

/-- The operations on work, and the requirement of recovery. -/
def SchedulerOperation.isWork : SchedulerOperation → Bool
  | .nextReady _ => true
  | .registerAdmission _ _ => true
  | .markResultReceived _ => true
  | .commitResult _ _ => true
  | .scheduleRetry _ _ _ => true
  | .retryEligible _ => true
  | .markRecoveryRequired _ => true
  | _ => false

/-- What one of them leaves of the scheduler. -/
def workOn (scheduler : ConcurrentScheduler) (operation : SchedulerOperation) :
    ConcurrentScheduler :=
  if SchedulerOperation.isWork operation then (scheduler.perform operation).2
  else scheduler

/-! ## Resumes -/

/-- Where one call of `resume` is. -/
inductive ResumePhase where
  | reading (target : Domain.RunState)
  | submitting (arrow : LifecycleArrow)
  | clearing
  | releasing
  | resuming
  | forgetting
  | returned
  | raised

/-- A call of `resume`, with the generation of its proof. -/
structure ResumeCall where
  generation : ControlGeneration
  reservation : Nat
  phase : ResumePhase

section Engine

variable [CasefoldRuntime]

/-- The engine with everything it shares with other threads. -/
structure EngineRun where
  signal : ConcurrentPauseSignal
  scheduler : ConcurrentScheduler
  /-- `_pause_reservation`. -/
  reservation : Option Nat
  /-- The reservation that closes the run's admission, if it is closed. -/
  gate : Option Nat
  /-- How many reservations the lease service has issued. -/
  issued : Nat
  tables : ExecutionTables
  phase : EnginePhase
  resumes : List ResumeCall
  requests : List PauseRequest
  /-- The request for which the scheduler was last marked paused. -/
  pausedFor : Option Nat
  /-- A resume has reopened the admission since then. -/
  reopened : Bool

namespace EngineRun

variable (run : EngineRun)

/-- Record something about one request. -/
def record (request : Nat) (change : PauseRequest → PauseRequest) : EngineRun :=
  { run with requests := run.requests.modify request change }

/-- The request that the signal accepted last. -/
def latest : Nat := run.requests.length - 1

/-- `reserve_pause`, on the way to another phase. -/
def reserve (next : EnginePhase) : EngineRun :=
  match run.reservation with
  | some _ => { run with phase := next }
  | none =>
      match run.gate with
      | some _ => { run with phase := .outside }
      | none =>
          { run with
            reservation := some run.issued
            gate := some run.issued
            issued := run.issued + 1
            phase := next }

/-- `_release_pause_reservation`. -/
def release (next : EnginePhase) : EngineRun :=
  match run.reservation with
  | none => { run with phase := next }
  | some reservation =>
      if run.gate = some reservation then
        { run with reservation := none, gate := none, phase := next }
      else { run with phase := .outside }

/-- `_shutdown_owned`, as far as the reservation is concerned. -/
def shutdown : EngineRun :=
  { run with
    reservation := none
    gate := if run.reservation.isSome ∧ run.gate = run.reservation then none
      else run.gate
    phase := .outside }

/-- `complete_pause`: the acknowledgement. -/
def acknowledge (generation : ControlGeneration) (request : Nat) : EngineRun :=
  match run.signal.tryAcknowledge generation with
  | some signal =>
      { run.record run.latest fun accepted =>
          { accepted with wins := accepted.wins ++ [.acknowledgement] } with
        signal := signal
        phase := .reading run.latest .pausing }
  | none => { run with phase := .aborting request }

/-- `complete_pause`: an arrow is read. -/
def readArrow (request : Nat) (target : Domain.RunState)
    (reading : ArrowReading) : EngineRun :=
  match decideArrow target reading with
  | .submit arrow =>
      { run.record request fun accepted =>
          { accepted with arrows := accepted.arrows ++ [target] } with
        phase := .submitting request arrow }
  | .rejected => { run with phase := .aborting request }
  | .unreadable => { run with phase := .recovering .stateRead }
  | .raised => { run with phase := .outside }

/-- The phase after an arrow of a pause. -/
def afterArrow (request : Nat) : Domain.RunState → EnginePhase
  | .pausing => .reading request .paused
  | _ => .pausing request

/-- `complete_pause`: the writer answers. -/
def answerArrow (request : Nat) (arrow : LifecycleArrow)
    (answer : ArrowAnswer) : EngineRun :=
  let failed : EngineRun := { run with phase := .recovering .outcomeUnknown }
  match answer, arrow.execute run.tables with
  | .receipt, .ok tables =>
      { run.record request fun accepted =>
          { accepted with reached := accepted.reached ++ [tables.run.state] } with
        tables := tables
        phase := afterArrow request arrow.targetState }
  | .unknown true, .ok tables => { failed with tables := tables }
  | _, _ => failed

/-- The answer to an acknowledgement that lost, or that was rejected. -/
def abortPause (request : Nat) : EngineRun :=
  match run.scheduler.abortPause with
  | (.ok _, scheduler) =>
      { run.record request fun accepted =>
          { accepted with returned := true } with
        scheduler := scheduler
        phase := .releasing }
  | (.error _, scheduler) =>
      { run with scheduler := scheduler, phase := .outside }

/-- The scheduler is marked paused and `run` returns its proof. -/
def markPaused (request : Nat) : EngineRun :=
  match run.scheduler.markPaused with
  | (.ok _, scheduler) =>
      { run with
        scheduler := scheduler
        phase := .outside
        pausedFor := some request
        reopened := false }
  | (.error _, scheduler) =>
      { run with scheduler := scheduler, phase := .outside }

/-- The scheduler requires recovery and `run` returns a report of it. -/
def requireRecovery (failure : LifecycleFailure) : EngineRun :=
  match run.scheduler.markRecoveryRequired failure.reason with
  | (.ok _, scheduler) => shutdown { run with scheduler := scheduler }
  | (.error _, scheduler) =>
      { run with scheduler := scheduler, phase := .outside }

/-- One step of the engine's thread. -/
def engine (choice : EngineChoice) : EngineRun :=
  match run.phase, choice with
  | .outside, .go => { run with phase := .draining }
  | .draining, .work operation =>
      { run with scheduler := workOn run.scheduler operation }
  | .draining, .go =>
      match run.scheduler.controlState with
      | .recoveryRequired => run.shutdown
      | .paused => { run with phase := .outside }
      | _ => { run with phase := .watching }
  | .watching, .go =>
      { run with
        phase := if run.signal.isRequested then .noticed else .deciding }
  | .noticed, .go =>
      { run with
        phase := if run.scheduler.controlState = .running then .reserving
          else .deciding }
  | .reserving, .go => run.reserve .requesting
  | .requesting, .go =>
      match run.scheduler.requestPause with
      | (.ok _, scheduler) =>
          { run with scheduler := scheduler, phase := .deciding }
      | (.error _, scheduler) =>
          { run with scheduler := scheduler, phase := .outside }
  | .deciding, .go =>
      { run with
        phase := if run.scheduler.controlState = .quiescing then .quiescing
          else .admitting }
  | .admitting, .work operation =>
      { run with scheduler := workOn run.scheduler operation }
  | .admitting, .go => { run with phase := .draining }
  | .admitting, .finish => run.shutdown
  | .quiescing, .drain operation =>
      { run with
        scheduler := workOn run.scheduler operation
        phase := .draining }
  | .quiescing, .go =>
      match run.signal.requestedGeneration with
      | none => { run with phase := .aborting run.latest }
      | some generation => { run with phase := .holding generation run.latest }
  | .holding generation request, .go =>
      run.reserve (.completing generation request)
  | .completing generation request, .go => run.acknowledge generation request
  | .reading request target, .read reading =>
      run.readArrow request target reading
  | .submitting request arrow, .answer answer =>
      run.answerArrow request arrow answer
  | .pausing request, .go => run.markPaused request
  | .aborting request, .go => run.abortPause request
  | .releasing, .go => run.release .draining
  | .recovering failure, .go => run.requireRecovery failure
  | .draining, .raise | .reserving, .raise | .admitting, .raise
  | .quiescing, .raise | .holding _ _, .raise =>
      { run with phase := .outside }
  | _, _ => run

/-! ## Other threads -/

/-- `request_pause`, with whatever generation the caller has read. -/
def requestPause (generation : ControlGeneration) : EngineRun :=
  match run.signal.request generation with
  | none => run
  | some signal =>
      { run with
        signal := signal
        requests := run.requests ++ [⟨generation, [], [], [], false⟩] }

/-- `abort_pause`, with whatever generation the caller has read. -/
def abort (generation : ControlGeneration) : EngineRun :=
  match run.signal.tryAbort generation with
  | none => run
  | some signal =>
      { run.record run.latest fun accepted =>
          { accepted with wins := accepted.wins ++ [.abort] } with
        signal := signal }

/-- `resume` is called; without a reservation it raises. -/
def beginResume (generation : ControlGeneration) : EngineRun :=
  match run.reservation with
  | none => run
  | some reservation =>
      { run with
        resumes := run.resumes ++ [⟨generation, reservation,
          .reading .resuming⟩] }

/-- A call of `resume` moves on. -/
def resumeTo (index : Nat) (call : ResumeCall) (phase : ResumePhase) :
    EngineRun :=
  { run with resumes := run.resumes.set index { call with phase := phase } }

/-- The phase after an arrow of a resume. -/
def afterResumeArrow : Domain.RunState → ResumePhase
  | .resuming => .reading .running
  | _ => .clearing

/-- One step of a call of `resume`. -/
def resume (index : Nat) (choice : EngineChoice) : EngineRun :=
  match run.resumes[index]? with
  | none => run
  | some call =>
      match call.phase, choice with
      | .reading target, .read reading =>
          match decideArrow target reading with
          | .submit arrow => run.resumeTo index call (.submitting arrow)
          | _ => run.resumeTo index call .raised
      | .submitting arrow, .answer answer =>
          match answer, arrow.execute run.tables with
          | .receipt, .ok tables =>
              { run.resumeTo index call (afterResumeArrow arrow.targetState) with
                tables := tables }
          | .unknown true, .ok tables =>
              { run.resumeTo index call .raised with tables := tables }
          | _, _ => run.resumeTo index call .raised
      | .clearing, .go =>
          { run.resumeTo index call .releasing with
            signal := run.signal.clear call.generation }
      | .releasing, .go =>
          if run.gate = some call.reservation then
            { run.resumeTo index call .resuming with
              gate := none
              reopened := true }
          else run.resumeTo index call .raised
      | .resuming, .go =>
          match run.scheduler.resume with
          | (.ok _, scheduler) =>
              { run.resumeTo index call .forgetting with
                scheduler := scheduler }
          | (.error _, scheduler) =>
              { run.resumeTo index call .raised with scheduler := scheduler }
      | .forgetting, .go =>
          { run.resumeTo index call .returned with reservation := none }
      | _, _ => run

end EngineRun

/-- The steps of all threads. -/
inductive EngineLabel where
  | engine (choice : EngineChoice)
  | requestPause (generation : ControlGeneration)
  | abortPause (generation : ControlGeneration)
  | beginResume (generation : ControlGeneration)
  | resume (call : Nat) (choice : EngineChoice)
  /-- Any other party changes the durable run. -/
  | others (tables : ExecutionTables)

def EngineRun.step (run : EngineRun) : EngineLabel → EngineRun
  | .engine choice => run.engine choice
  | .requestPause generation => run.requestPause generation
  | .abortPause generation => run.abort generation
  | .beginResume generation => run.beginResume generation
  | .resume call choice => run.resume call choice
  | .others tables => { run with tables := tables }

/-- An engine before the first call of `run`, with no pause under way. -/
structure EngineRun.Fresh (run : EngineRun) : Prop where
  signal : run.signal = .idle
  active : run.scheduler.controlState ≠ .quiescing
  awake : run.scheduler.controlState ≠ .paused
  reservation : run.reservation = none
  gate : run.gate = none
  phase : run.phase = .outside
  resumes : run.resumes = []
  requests : run.requests = []

end Engine

end ParityGrid.Application
