import ParityGrid.Application.Execution.Frontier
import ParityGrid.Foundation.Transition
import ParityGrid.Foundation.WaitSet

/-!
# Bounded channels

A channel is a bounded queue behind one condition.  Every method is a sequence
of sections that hold the lock of the condition: a blocking call parks between
two of them until it is notified or its time is over, and a cooperative call
leaves the event loop to others.  Each section is one step here; which caller
takes the next one is up to the schedule.
-/

namespace ParityGrid.Application

open ParityGrid.Foundation

def maxChannelCapacity : Nat := 65536

def maxUnknownOutcomeReasonLength : Nat := 256

/-- `_CHANNEL_KINDS`. -/
def channelKinds : List Text :=
  ["assignment", "result", "telemetry", "writer"].map text

inductive ChannelError where
  | validation (message : String)
  | closed (message : String) (acceptedRemaining : Nat)
  | timeout (message : String)
  | loop (message : String)
  /-- A subclass of the closed error. -/
  | unknownOutcome (message : String) (acceptedRemaining : Nat)
deriving DecidableEq

/-- A relative second count; an infinity or no number is not finite. -/
inductive ChannelTimeout where
  | seconds (value : Rat)
  | notFinite
deriving DecidableEq

/-! ## Arguments -/

/-- `_reject_running_loop`. -/
def rejectRunningLoop (inLoop : Bool) (subject : String) :
    Except ChannelError Unit :=
  require (!inLoop)
    (.loop (subject ++ " must not block while an event loop is active"))

/-- `_validate_message`: `none` is Python's `None`. -/
def validateMessage {α : Type} : Option α → Except ChannelError α
  | none => .error (.validation
      "channel message must be a concrete object, not None")
  | some message => .ok message

/-- `_validate_timeout`. -/
def validateTimeout (timeout : Option ChannelTimeout) (subject : String) :
    Except ChannelError Unit :=
  match timeout with
  | none => .ok ()
  | some (.seconds value) =>
      require (0 ≤ value) (.validation
        (subject ++ " must be a finite non-negative second count"))
  | some .notFinite =>
      .error (.validation
        (subject ++ " must be a finite non-negative second count"))

/-- `_validate_iterations`. -/
def validateIterations (iterations : Int) : Except ChannelError Nat := do
  require (1 ≤ iterations && iterations ≤ maxChannelCapacity) (.validation
    "cooperation iteration count is outside the supported range")
  .ok iterations.toNat

/-- `_validate_unknown_reason`. -/
def validateUnknownReason (reason : Text) : Except ChannelError Unit := do
  require (1 ≤ reason.length && reason.length ≤ maxUnknownOutcomeReasonLength)
    (.validation
      "unknown-outcome reason length is outside the supported range")
  require (reason.all isPrintable) (.validation
    "unknown-outcome reason must use printable ASCII characters")

/-! ## The channel -/

/-- What a parked or cooperative call is for. -/
inductive ChannelCall (α : Type) where
  | send (message : α)
  | recv
deriving DecidableEq

/-- A call in the wait set of the condition. -/
structure ChannelWaiter (α : Type) where
  caller : Nat
  call : ChannelCall α
  /-- A timeout was given. -/
  timed : Bool
  notified : Bool
deriving DecidableEq

/-- The channel, between two sections. -/
structure BoundedChannel (α : Type) where
  kind : Text
  capacity : Nat
  buffer : List α
  acceptedCount : Nat
  maxObservedQueued : Nat
  closed : Bool
  recoveryClosed : Bool
  waiting : List (ChannelWaiter α)
deriving DecidableEq

/-- How a section ends. -/
inductive ChannelResult (α : Type) where
  | accepted (message : α)
  /-- `try_send` answers `False`. -/
  | full
  | delivered (message : α)
  /-- `try_recv` answers `None`. -/
  | empty
  | drained (messages : List α)
  | returned
  /-- The call waits for the condition. -/
  | parked
  /-- The call goes on after a turn of the event loop. -/
  | yielded
  /-- The wait is ended from outside: an interrupt, a cancellation, or a
  timeout that the platform cannot wait for. -/
  | interrupted
  | raised (error : ChannelError)
deriving DecidableEq

namespace BoundedChannel

variable {α : Type}

/-- The constructor of a channel. -/
def create (kind : Text) (capacity : Int) :
    Except ChannelError (BoundedChannel α) := do
  require (channelKinds.contains kind)
    (.validation "channel kind must name a known channel kind")
  require (1 ≤ capacity && capacity ≤ maxChannelCapacity)
    (.validation "channel capacity is outside the supported range")
  .ok
    { kind
      capacity := capacity.toNat
      buffer := []
      acceptedCount := 0
      maxObservedQueued := 0
      closed := false
      recoveryClosed := false
      waiting := [] }

/-- `notify_all`. -/
def notifyAll (channel : BoundedChannel α) : BoundedChannel α :=
  { channel with
    waiting := channel.waiting.map fun waiter =>
      { waiter with notified := true } }

/-- Wait for the condition. -/
def park (channel : BoundedChannel α) (waiter : ChannelWaiter α) :
    BoundedChannel α :=
  { channel with waiting := rejoin ChannelWaiter.caller waiter channel.waiting }

/-- The call of a caller is over. -/
def leave (channel : BoundedChannel α) (caller : Nat) : BoundedChannel α :=
  { channel with
    waiting := without ChannelWaiter.caller caller channel.waiting }

/-- The message is queued, and everybody is told. -/
def accept (channel : BoundedChannel α) (message : α) : BoundedChannel α :=
  { channel with
    buffer := channel.buffer ++ [message]
    acceptedCount := channel.acceptedCount + 1
    maxObservedQueued :=
      max channel.maxObservedQueued (channel.buffer.length + 1) }.notifyAll

/-- `_try_send_locked`. -/
def trySendLocked (channel : BoundedChannel α) (message : α) :
    Except ChannelError (Bool × BoundedChannel α) :=
  if channel.closed then
    .error (.closed "channel is closed to sends" channel.buffer.length)
  else if channel.recoveryClosed then
    .error (.unknownOutcome
      "channel admission stopped after an unknown writer outcome"
      channel.buffer.length)
  else if channel.capacity ≤ channel.buffer.length then
    .ok (false, channel)
  else
    .ok (true, channel.accept message)

/-- `_try_recv_locked`. -/
def tryRecvLocked (channel : BoundedChannel α) :
    Except ChannelError (Option α × BoundedChannel α) :=
  match channel.buffer with
  | item :: rest => .ok (some item, { channel with buffer := rest }.notifyAll)
  | [] =>
      if channel.closed || channel.recoveryClosed then
        .error (.closed "channel is closed and fully drained" 0)
      else
        .ok (none, channel)

/-- One turn of the loop of `send`. -/
def sendTurn (channel : BoundedChannel α) (caller : Nat) (message : α)
    (timed expired : Bool) : ChannelResult α × BoundedChannel α :=
  match channel.trySendLocked message with
  | .error error => (.raised error, channel.leave caller)
  | .ok (true, next) => (.accepted message, next.leave caller)
  | .ok (false, _) =>
      if timed && expired then
        (.raised (.timeout
          "channel send timed out while the bounded buffer stayed full"),
          channel.leave caller)
      else
        (.parked, channel.park ⟨caller, .send message, timed, false⟩)

/-- One turn of the loop of `recv`. -/
def recvTurn (channel : BoundedChannel α) (caller : Nat)
    (timed expired : Bool) : ChannelResult α × BoundedChannel α :=
  match channel.tryRecvLocked with
  | .error error => (.raised error, channel.leave caller)
  | .ok (some item, next) => (.delivered item, next.leave caller)
  | .ok (none, _) =>
      if timed && expired then
        (.raised (.timeout
          "channel receive timed out while the channel stayed empty"),
          channel.leave caller)
      else
        (.parked, channel.park ⟨caller, .recv, timed, false⟩)

/-- The next turn of a blocking call. -/
def turn (channel : BoundedChannel α) (caller : Nat) (timed expired : Bool) :
    ChannelCall α → ChannelResult α × BoundedChannel α
  | .send message => channel.sendTurn caller message timed expired
  | .recv => channel.recvTurn caller timed expired

/-- `_attempt_send`. -/
def attemptSend (channel : BoundedChannel α) (message : α) :
    ChannelResult α × BoundedChannel α :=
  match channel.trySendLocked message with
  | .error error => (.raised error, channel)
  | .ok (true, next) => (.accepted message, next)
  | .ok (false, _) => (.full, channel)

/-- `_attempt_recv`. -/
def attemptRecv (channel : BoundedChannel α) :
    ChannelResult α × BoundedChannel α :=
  match channel.tryRecvLocked with
  | .error error => (.raised error, channel)
  | .ok (some item, next) => (.delivered item, next)
  | .ok (none, _) => (.empty, channel)

/-- One attempt of a cooperative call. -/
def attempt (channel : BoundedChannel α) :
    ChannelCall α → ChannelResult α × BoundedChannel α
  | .send message => channel.attemptSend message
  | .recv => channel.attemptRecv

/-- `close`. -/
def close (channel : BoundedChannel α) : BoundedChannel α :=
  if channel.closed then channel else { channel with closed := true }.notifyAll

/-- The section of `drain`. -/
def drain (channel : BoundedChannel α) : ChannelResult α × BoundedChannel α :=
  (.drained channel.buffer, { channel with buffer := [] }.notifyAll)

/-- The section of `mark_unknown_outcome`. -/
def markUnknownOutcome (channel : BoundedChannel α) : BoundedChannel α :=
  if channel.recoveryClosed then channel
  else { channel with recoveryClosed := true }.notifyAll

end BoundedChannel

end ParityGrid.Application
