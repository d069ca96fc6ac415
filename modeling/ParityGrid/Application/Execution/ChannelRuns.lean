import ParityGrid.Application.Execution.BoundedChannel

/-!
# Runs of a channel

Any number of callers use one channel, one section after the other in any
order.  What a channel accepted is what it gave back, in the order in which it
gave it back, followed by what it still holds; and whoever waits unnotified
could not go on.
-/

namespace ParityGrid.Application

open ParityGrid.Foundation

variable {α : Type}

/-! ## Sections -/

/-- The messages that a section reports as accepted. -/
def ChannelResult.admitted : ChannelResult α → List α
  | .accepted message => [message]
  | _ => []

/-- The messages that a section hands out. -/
def ChannelResult.removed : ChannelResult α → List α
  | .delivered message => [message]
  | .drained messages => messages
  | _ => []

/-- The closed error or its subclass. -/
def ChannelError.isClosed : ChannelError → Bool
  | .closed _ _ => true
  | .unknownOutcome _ _ => true
  | _ => false

namespace BoundedChannel

variable {channel next : BoundedChannel α}

/-- The call could not go on now: it would neither succeed nor raise. -/
def Blocked (channel : BoundedChannel α) : ChannelCall α → Prop
  | .send message => (channel.attemptSend message).1 = .full
  | .recv => channel.attemptRecv.1 = .empty

/-- Whoever has not been notified is blocked. -/
def Waits (channel : BoundedChannel α) : Prop :=
  ∀ waiter ∈ channel.waiting, waiter.notified = false →
    channel.Blocked waiter.call

theorem trySendLocked_cases (channel : BoundedChannel α) (message : α) :
    ((channel.closed ∨ channel.recoveryClosed) ∧ ∃ error : ChannelError,
      error.isClosed ∧ channel.trySendLocked message = .error error) ∨
    ((channel.closed = false ∧ channel.recoveryClosed = false ∧
        channel.capacity ≤ channel.buffer.length) ∧
      channel.trySendLocked message = .ok (false, channel)) ∨
    ((channel.closed = false ∧ channel.recoveryClosed = false ∧
        channel.buffer.length < channel.capacity) ∧
      channel.trySendLocked message = .ok (true, channel.accept message)) := by
  rw [trySendLocked]
  cases closed : channel.closed with
  | true => exact .inl ⟨.inl rfl, _, rfl, rfl⟩
  | false =>
      cases recovery : channel.recoveryClosed with
      | true => exact .inl ⟨.inr rfl, _, rfl, rfl⟩
      | false =>
          by_cases full : channel.capacity ≤ channel.buffer.length
          · refine .inr (.inl ⟨⟨rfl, rfl, full⟩, ?_⟩)
            simp [full]
          · refine .inr (.inr ⟨⟨rfl, rfl, not_le.mp full⟩, ?_⟩)
            simp [full]

theorem tryRecvLocked_cases (channel : BoundedChannel α) :
    (∃ item rest, channel.buffer = item :: rest ∧ channel.tryRecvLocked =
      .ok (some item, { channel with buffer := rest }.notifyAll)) ∨
    (channel.buffer = [] ∧ (channel.closed ∨ channel.recoveryClosed) ∧
      channel.tryRecvLocked =
        .error (.closed "channel is closed and fully drained" 0)) ∨
    ((channel.buffer = [] ∧ channel.closed = false ∧
        channel.recoveryClosed = false) ∧
      channel.tryRecvLocked = .ok (none, channel)) := by
  rw [tryRecvLocked]
  cases queued : channel.buffer with
  | cons item rest => exact .inl ⟨item, rest, rfl, rfl⟩
  | nil =>
      cases closed : channel.closed with
      | true => exact .inr (.inl ⟨rfl, .inl rfl, rfl⟩)
      | false =>
          cases recovery : channel.recoveryClosed with
          | true => exact .inr (.inl ⟨rfl, .inr rfl, rfl⟩)
          | false => exact .inr (.inr ⟨⟨rfl, rfl, rfl⟩, rfl⟩)

theorem blocked_send {message : α} :
    channel.Blocked (.send message) ↔ channel.closed = false ∧
      channel.recoveryClosed = false ∧
        channel.capacity ≤ channel.buffer.length := by
  rw [Blocked, attemptSend]
  rcases channel.trySendLocked_cases message with
    ⟨closed, error, _, form⟩ | ⟨blocked, form⟩ | ⟨open_, form⟩
  · rw [form]
    constructor
    · rintro ⟨⟩
    · rintro ⟨one, two, _⟩
      simp [one, two] at closed
  · rw [form]
    exact ⟨fun _ => blocked, fun _ => rfl⟩
  · rw [form]
    constructor
    · rintro ⟨⟩
    · rintro ⟨_, _, full⟩
      exact absurd full (not_le.mpr open_.2.2)

theorem blocked_recv :
    channel.Blocked .recv ↔ channel.buffer = [] ∧ channel.closed = false ∧
      channel.recoveryClosed = false := by
  rw [Blocked, attemptRecv]
  rcases channel.tryRecvLocked_cases with
    ⟨item, rest, queued, form⟩ | ⟨_, closed, form⟩ | ⟨blocked, form⟩
  · rw [form]
    constructor
    · rintro ⟨⟩
    · rintro ⟨none_, _⟩
      rw [queued] at none_
      cases none_
  · rw [form]
    constructor
    · rintro ⟨⟩
    · rintro ⟨_, one, two⟩
      simp [one, two] at closed
  · rw [form]
    exact ⟨fun _ => blocked, fun _ => rfl⟩

/-- The wait set alone does not decide who is blocked. -/
theorem blocked_congr {call : ChannelCall α}
    (capacity : next.capacity = channel.capacity)
    (buffer : next.buffer = channel.buffer)
    (closed : next.closed = channel.closed)
    (recoveryClosed : next.recoveryClosed = channel.recoveryClosed) :
    next.Blocked call ↔ channel.Blocked call := by
  cases call with
  | send message =>
      rw [blocked_send, blocked_send, capacity, buffer, closed, recoveryClosed]
  | recv => rw [blocked_recv, blocked_recv, buffer, closed, recoveryClosed]

theorem waits_notifyAll (channel : BoundedChannel α) :
    channel.notifyAll.Waits := by
  intro waiter member unnotified
  rcases List.mem_map.mp member with ⟨before, _, rfl⟩
  cases unnotified

theorem Waits.leave (waits : channel.Waits) (caller : Nat) :
    (channel.leave caller).Waits := by
  intro waiter member unnotified
  have same : (channel.leave caller).Blocked waiter.call ↔
      channel.Blocked waiter.call := blocked_congr rfl rfl rfl rfl
  exact same.mpr (waits waiter (mem_without.mp member).1 unnotified)

theorem Waits.park (waits : channel.Waits) {waiter : ChannelWaiter α}
    (blocked : channel.Blocked waiter.call) : (channel.park waiter).Waits := by
  intro other member unnotified
  have same : (channel.park waiter).Blocked other.call ↔
      channel.Blocked other.call := blocked_congr rfl rfl rfl rfl
  rw [same]
  rcases of_mem_rejoin member with rfl | ⟨before, _⟩
  · exact blocked
  · exact waits other before unnotified

/-! ## What one section does -/

/-- What a section keeps, and what it does to the messages. -/
structure Moves (channel : BoundedChannel α) (result : ChannelResult α)
    (next : BoundedChannel α) : Prop where
  capacity : next.capacity = channel.capacity
  messages : channel.buffer ++ result.admitted = result.removed ++ next.buffer
  counted : next.acceptedCount =
    channel.acceptedCount + result.admitted.length
  bounded : channel.buffer.length ≤ channel.capacity →
    next.buffer.length ≤ channel.capacity
  closed : channel.closed → next.closed
  recoveryClosed : channel.recoveryClosed → next.recoveryClosed
  admits : channel.closed ∨ channel.recoveryClosed → result.admitted = []
  waits : channel.Waits → next.Waits

/-- A section that only changes the wait set. -/
theorem Moves.quiet {result : ChannelResult α}
    (nothing : result.admitted = [] ∧ result.removed = [])
    {waiting : List (ChannelWaiter α)}
    (waits : channel.Waits → { channel with waiting }.Waits) :
    Moves channel result { channel with waiting } where
  capacity := rfl
  messages := by rw [nothing.1, nothing.2, List.append_nil, List.nil_append]
  counted := by rw [nothing.1]; rfl
  bounded := id
  closed := id
  recoveryClosed := id
  admits := fun _ => nothing.1
  waits := waits

theorem Moves.same {result : ChannelResult α}
    (nothing : result.admitted = [] ∧ result.removed = []) :
    Moves channel result channel :=
  .quiet nothing id

/-- The end of a call adds nothing to what its last section did. -/
theorem Moves.leave {result : ChannelResult α}
    (moves : Moves channel result next) (caller : Nat) :
    Moves channel result (next.leave caller) :=
  { moves with waits := fun waits => (moves.waits waits).leave caller }

theorem moves_accept {message : α} (opened : channel.closed = false ∧
    channel.recoveryClosed = false ∧
      channel.buffer.length < channel.capacity) :
    Moves channel (.accepted message) (channel.accept message) where
  capacity := rfl
  messages := rfl
  counted := rfl
  bounded := by
    intro _
    show (channel.buffer ++ [message]).length ≤ _
    rw [List.length_append]
    exact opened.2.2
  closed := id
  recoveryClosed := id
  admits := by
    rintro (closed | closed)
    · rw [opened.1] at closed
      cases closed
    · rw [opened.2.1] at closed
      cases closed
  waits := fun _ => waits_notifyAll _

theorem moves_deliver {item : α} {rest : List α}
    (queued : channel.buffer = item :: rest) :
    Moves channel (.delivered item) { channel with buffer := rest }.notifyAll where
  capacity := rfl
  messages := by rw [queued]; exact List.append_nil _
  counted := rfl
  bounded := by
    intro bounded
    rw [queued, List.length_cons] at bounded
    exact Nat.le_of_succ_le bounded
  closed := id
  recoveryClosed := id
  admits := fun _ => rfl
  waits := fun _ => waits_notifyAll _

theorem moves_drain (channel : BoundedChannel α) :
    Moves channel channel.drain.1 channel.drain.2 where
  capacity := rfl
  messages := rfl
  counted := rfl
  bounded := fun _ => Nat.zero_le _
  closed := id
  recoveryClosed := id
  admits := fun _ => rfl
  waits := fun _ => waits_notifyAll _

theorem moves_close (channel : BoundedChannel α) :
    Moves channel .returned channel.close := by
  rw [close]
  split
  · exact .same ⟨rfl, rfl⟩
  · exact ⟨rfl, List.append_nil _, rfl, id, fun _ => rfl, id, fun _ => rfl,
      fun _ => waits_notifyAll _⟩

theorem moves_markUnknownOutcome (channel : BoundedChannel α) :
    Moves channel .returned channel.markUnknownOutcome := by
  rw [markUnknownOutcome]
  split
  · exact .same ⟨rfl, rfl⟩
  · exact ⟨rfl, List.append_nil _, rfl, id, id, fun _ => rfl, fun _ => rfl,
      fun _ => waits_notifyAll _⟩

theorem moves_attempt (channel : BoundedChannel α) (call : ChannelCall α) :
    Moves channel (channel.attempt call).1 (channel.attempt call).2 := by
  cases call with
  | send message =>
      rw [attempt, attemptSend]
      rcases channel.trySendLocked_cases message with
        ⟨_, error, _, form⟩ | ⟨_, form⟩ | ⟨opened, form⟩
      · rw [form]
        exact .same ⟨rfl, rfl⟩
      · rw [form]
        exact .same ⟨rfl, rfl⟩
      · rw [form]
        exact moves_accept opened
  | recv =>
      rw [attempt, attemptRecv]
      rcases channel.tryRecvLocked_cases with
        ⟨item, rest, queued, form⟩ | ⟨_, _, form⟩ | ⟨_, form⟩
      · rw [form]
        exact moves_deliver queued
      · rw [form]
        exact .same ⟨rfl, rfl⟩
      · rw [form]
        exact .same ⟨rfl, rfl⟩

/-- A turn of a blocking call that cannot go on. -/
theorem moves_blocked {caller : Nat} {timed expired : Bool}
    {call : ChannelCall α} (blocked : channel.Blocked call)
    (message : String) :
    let turn : ChannelResult α × BoundedChannel α :=
      if timed && expired then
        (.raised (.timeout message), channel.leave caller)
      else
        (.parked, channel.park ⟨caller, call, timed, false⟩)
    Moves channel turn.1 turn.2 := by
  intro turn
  show Moves channel turn.1 turn.2
  cases isOver : timed && expired with
  | true =>
      have form : turn =
          (.raised (.timeout message), channel.leave caller) := if_pos isOver
      rw [form]
      exact (Moves.same ⟨rfl, rfl⟩).leave caller
  | false =>
      have form : turn =
          (.parked, channel.park ⟨caller, call, timed, false⟩) :=
        if_neg (by rw [isOver]; exact Bool.false_ne_true)
      rw [form]
      exact .quiet ⟨rfl, rfl⟩ fun waits => waits.park blocked

theorem moves_turn (channel : BoundedChannel α) (caller : Nat)
    (timed expired : Bool) (call : ChannelCall α) :
    Moves channel (channel.turn caller timed expired call).1
      (channel.turn caller timed expired call).2 := by
  cases call with
  | send message =>
      rw [turn, sendTurn]
      rcases channel.trySendLocked_cases message with
        ⟨_, error, _, form⟩ | ⟨blocked, form⟩ | ⟨opened, form⟩
      · rw [form]
        exact (Moves.same ⟨rfl, rfl⟩).leave caller
      · rw [form]
        exact moves_blocked (blocked_send.mpr blocked) _
      · rw [form]
        exact (moves_accept opened).leave caller
  | recv =>
      rw [turn, recvTurn]
      rcases channel.tryRecvLocked_cases with
        ⟨item, rest, queued, form⟩ | ⟨_, _, form⟩ | ⟨blocked, form⟩
      · rw [form]
        exact (moves_deliver queued).leave caller
      · rw [form]
        exact (Moves.same ⟨rfl, rfl⟩).leave caller
      · rw [form]
        exact moves_blocked (blocked_recv.mpr blocked) _

end BoundedChannel

/-! ## Callers -/

/-- A cooperative call that has left the event loop to others, with the
attempts it has left. -/
structure Cooperation (α : Type) where
  caller : Nat
  call : ChannelCall α
  left : Nat
deriving DecidableEq

/-- A channel with its cooperative callers, and the history of what it
accepted and what it gave back. -/
structure ChannelRun (α : Type) where
  channel : BoundedChannel α
  cooperating : List (Cooperation α)
  accepted : List α
  removed : List α
deriving DecidableEq

/-- One section of somebody's call; a caller is a thread or a task. -/
inductive ChannelStep (α : Type) where
  | send (caller : Nat) (inLoop : Bool) (message : Option α)
      (timeout : Option ChannelTimeout) (expired : Bool)
  | recv (caller : Nat) (inLoop : Bool) (timeout : Option ChannelTimeout)
      (expired : Bool)
  | trySend (inLoop : Bool) (message : Option α)
  | tryRecv (inLoop : Bool)
  | drain (inLoop : Bool)
  | close
  | markUnknownOutcome (reason : Text)
  | sendAsync (caller : Nat) (message : Option α) (iterations : Int)
  | recvAsync (caller : Nat) (iterations : Int)
  /-- A parked call is notified, or its time is over. -/
  | wake (caller : Nat) (expired : Bool)
  /-- The event loop comes back to a cooperative call. -/
  | cooperate (caller : Nat)
  /-- A waiting call is interrupted, or a cooperative one cancelled. -/
  | abandon (caller : Nat)
deriving DecidableEq

/-- What a call that ran out of attempts raises. -/
def ChannelCall.exhausted {α : Type} : ChannelCall α → ChannelError
  | .send _ => .timeout
      "channel send_async exhausted its cooperation budget while the buffer stayed full"
  | .recv => .timeout
      "channel recv_async exhausted its cooperation budget while the channel stayed empty"

namespace ChannelRun

/-- The caller is in the middle of no call. -/
def Idle (run : ChannelRun α) (caller : Nat) : Prop :=
  (∀ waiter ∈ run.channel.waiting, waiter.caller ≠ caller) ∧
    ∀ other ∈ run.cooperating, other.caller ≠ caller

instance (run : ChannelRun α) (caller : Nat) : Decidable (run.Idle caller) :=
  inferInstanceAs (Decidable (_ ∧ _))

/-- The section is over, and goes into the history. -/
def record (run : ChannelRun α) (left : ChannelResult α × BoundedChannel α) :
    ChannelResult α × ChannelRun α :=
  (left.1, { run with
    channel := left.2
    accepted := run.accepted ++ left.1.admitted
    removed := run.removed ++ left.1.removed })

/-- A call whose arguments are refused never takes the lock. -/
def checked {β : Type} (run : ChannelRun α) (arguments : Except ChannelError β)
    (go : β → ChannelResult α × ChannelRun α) :
    ChannelResult α × ChannelRun α :=
  match arguments with
  | .error error => (.raised error, run)
  | .ok value => go value

/-- The cooperative call is over. -/
def withdraw (run : ChannelRun α) (caller : Nat) : ChannelRun α :=
  { run with
    cooperating := without Cooperation.caller caller run.cooperating }

/-- One attempt of a cooperative call; a call that got nowhere leaves the
event loop to others and comes back. -/
def cooperateOnce (run : ChannelRun α) (caller : Nat) (call : ChannelCall α)
    (left : Nat) : ChannelResult α × ChannelRun α :=
  match (run.withdraw caller).record (run.channel.attempt call) with
  | (.full, next) =>
      (.yielded, { next with
        cooperating := next.cooperating ++ [⟨caller, call, left⟩] })
  | (.empty, next) =>
      (.yielded, { next with
        cooperating := next.cooperating ++ [⟨caller, call, left⟩] })
  | ended => ended

/-- One section: how it ends and what it leaves, when somebody may take it. -/
def perform (run : ChannelRun α) :
    ChannelStep α → Option (ChannelResult α × ChannelRun α)
  | .send caller inLoop message timeout expired =>
      if run.Idle caller then
        some (run.checked (do
            rejectRunningLoop inLoop "channel send"
            let message ← validateMessage message
            validateTimeout timeout "channel send timeout"
            .ok message)
          fun message => run.record
            (run.channel.turn caller timeout.isSome expired (.send message)))
      else none
  | .recv caller inLoop timeout expired =>
      if run.Idle caller then
        some (run.checked (do
            rejectRunningLoop inLoop "channel recv"
            validateTimeout timeout "channel recv timeout")
          fun _ => run.record
            (run.channel.turn caller timeout.isSome expired .recv))
      else none
  | .trySend inLoop message =>
      some (run.checked (do
          rejectRunningLoop inLoop "channel try_send"
          validateMessage message)
        fun message => run.record (run.channel.attempt (.send message)))
  | .tryRecv inLoop =>
      some (run.checked (rejectRunningLoop inLoop "channel try_recv")
        fun _ => run.record (run.channel.attempt .recv))
  | .drain inLoop =>
      some (run.checked (rejectRunningLoop inLoop "channel drain")
        fun _ => run.record run.channel.drain)
  | .close => some (run.record (.returned, run.channel.close))
  | .markUnknownOutcome reason =>
      some (run.checked (validateUnknownReason reason)
        fun _ => run.record (.returned, run.channel.markUnknownOutcome))
  | .sendAsync caller message iterations =>
      if run.Idle caller then
        some (run.checked (do
            let selected ← validateIterations iterations
            let message ← validateMessage message
            .ok (selected, message))
          fun (selected, message) =>
            run.cooperateOnce caller (.send message) (selected - 1))
      else none
  | .recvAsync caller iterations =>
      if run.Idle caller then
        some (run.checked (validateIterations iterations)
          fun selected => run.cooperateOnce caller .recv (selected - 1))
      else none
  | .wake caller expired =>
      match run.channel.waiting.find? fun waiter =>
          waiter.caller = caller && (waiter.notified || waiter.timed) with
      | none => none
      | some waiter =>
          some (run.record
            (run.channel.turn caller waiter.timed expired waiter.call))
  | .cooperate caller =>
      match run.cooperating.find? fun other => other.caller = caller with
      | none => none
      | some other =>
          match other.left with
          | 0 => some (.raised other.call.exhausted, run.withdraw caller)
          | left + 1 => some (run.cooperateOnce caller other.call left)
  | .abandon caller =>
      if run.Idle caller then none
      else
        some (.interrupted, { run.withdraw caller with
          channel := run.channel.leave caller })

end ChannelRun

/-- Every interleaving of the sections of one channel. -/
def channelSystem (channel : BoundedChannel α) :
    TransitionSystem (ChannelRun α) (ChannelStep α) where
  Initial run := run = ⟨channel, [], [], []⟩
  Step run step next := ∃ result, run.perform step = some (result, next)

namespace ChannelRun

open BoundedChannel

variable {run next : ChannelRun α} {result : ChannelResult α}
variable {step : ChannelStep α}

/-! ## What one step does -/

/-- The channel moves, and the history tells how. -/
structure Follows (run : ChannelRun α) (result : ChannelResult α)
    (next : ChannelRun α) : Prop where
  moves : Moves run.channel result next.channel
  accepted : next.accepted = run.accepted ++ result.admitted
  removed : next.removed = run.removed ++ result.removed

theorem follows_record {left : ChannelResult α × BoundedChannel α}
    (moves : Moves run.channel left.1 left.2) :
    Follows run (run.record left).1 (run.record left).2 :=
  ⟨moves, rfl, rfl⟩

/-- Nothing is accepted or given back. -/
theorem follows_quiet
    (nothing : result.admitted = [] ∧ result.removed = [])
    (moves : Moves run.channel result next.channel)
    (accepted : next.accepted = run.accepted)
    (removed : next.removed = run.removed) : Follows run result next := by
  refine ⟨moves, ?_, ?_⟩
  · rw [nothing.1, List.append_nil, accepted]
  · rw [nothing.2, List.append_nil, removed]

theorem follows_checked {β : Type} {arguments : Except ChannelError β}
    {go : β → ChannelResult α × ChannelRun α}
    (goes : ∀ value, arguments = .ok value →
      Follows run (go value).1 (go value).2) :
    Follows run (run.checked arguments go).1 (run.checked arguments go).2 := by
  cases arguments with
  | error error => exact follows_quiet ⟨rfl, rfl⟩ (.same ⟨rfl, rfl⟩) rfl rfl
  | ok value => exact goes value rfl

theorem follows_cooperateOnce (run : ChannelRun α) (caller : Nat)
    (call : ChannelCall α) (left : Nat) :
    Follows run (run.cooperateOnce caller call left).1
      (run.cooperateOnce caller call left).2 := by
  have moves := moves_attempt run.channel call
  have recorded : Follows run
      ((run.withdraw caller).record (run.channel.attempt call)).1
      ((run.withdraw caller).record (run.channel.attempt call)).2 :=
    ⟨moves, rfl, rfl⟩
  unfold cooperateOnce
  split
  · rename_i after ended
    rw [ended] at recorded
    exact ⟨{ recorded.moves with }, recorded.accepted, recorded.removed⟩
  · rename_i after ended
    rw [ended] at recorded
    exact ⟨{ recorded.moves with }, recorded.accepted, recorded.removed⟩
  · exact recorded

theorem Follows.of_some {left : ChannelResult α × ChannelRun α}
    (follows : Follows run left.1 left.2)
    (same : some left = some (result, next)) : Follows run result next := by
  cases Option.some.inj same
  exact follows

/-- Only an idle caller starts a call. -/
theorem Follows.of_idle {left : ChannelResult α × ChannelRun α} {caller : Nat}
    (follows : Follows run left.1 left.2)
    (same : (if run.Idle caller then some left else none) =
      some (result, next)) : Follows run result next := by
  split at same
  · exact follows.of_some same
  · cases same

/-- Every section does to the channel what its history says. -/
theorem follows_perform (performs : run.perform step = some (result, next)) :
    Follows run result next := by
  cases step with
  | send caller inLoop message timeout expired =>
      refine Follows.of_idle (follows_checked fun message _ => ?_) performs
      exact follows_record (moves_turn run.channel caller _ expired _)
  | recv caller inLoop timeout expired =>
      refine Follows.of_idle (follows_checked fun _ _ => ?_) performs
      exact follows_record (moves_turn run.channel caller _ expired _)
  | trySend inLoop message =>
      refine Follows.of_some (follows_checked fun message _ => ?_) performs
      exact follows_record (moves_attempt run.channel _)
  | tryRecv inLoop =>
      refine Follows.of_some (follows_checked fun _ _ => ?_) performs
      exact follows_record (moves_attempt run.channel _)
  | drain inLoop =>
      refine Follows.of_some (follows_checked fun _ _ => ?_) performs
      exact follows_record (moves_drain run.channel)
  | close =>
      exact Follows.of_some (follows_record (moves_close run.channel)) performs
  | markUnknownOutcome reason =>
      refine Follows.of_some (follows_checked fun _ _ => ?_) performs
      exact follows_record (moves_markUnknownOutcome run.channel)
  | sendAsync caller message iterations =>
      refine Follows.of_idle (follows_checked fun _ _ => ?_) performs
      exact follows_cooperateOnce run caller _ _
  | recvAsync caller iterations =>
      refine Follows.of_idle (follows_checked fun _ _ => ?_) performs
      exact follows_cooperateOnce run caller _ _
  | wake caller expired =>
      unfold perform at performs
      dsimp only at performs
      split at performs
      · cases performs
      · rename_i waiter _
        exact Follows.of_some (follows_record
          (moves_turn run.channel caller waiter.timed expired waiter.call))
          performs
  | cooperate caller =>
      unfold perform at performs
      dsimp only at performs
      split at performs
      · cases performs
      · rename_i other _
        split at performs
        · cases performs
          exact follows_quiet ⟨rfl, rfl⟩ (.same ⟨rfl, rfl⟩) rfl rfl
        · exact Follows.of_some (follows_cooperateOnce run caller _ _) performs
  | abandon caller =>
      unfold perform at performs
      dsimp only at performs
      split at performs
      · cases performs
      · cases performs
        exact follows_quiet ⟨rfl, rfl⟩
          ((Moves.same ⟨rfl, rfl⟩).leave caller) rfl rfl

/-! ## What a receive that raises closed has found -/

/-- The call that a section goes on with is a receive. -/
def Receives (run : ChannelRun α) : ChannelStep α → Prop
  | .recv .. => True
  | .tryRecv _ => True
  | .recvAsync .. => True
  | .wake caller _ =>
      ∃ waiter ∈ run.channel.waiting.find? fun waiter =>
        waiter.caller = caller && (waiter.notified || waiter.timed),
        waiter.call = .recv
  | .cooperate caller =>
      ∃ other ∈ run.cooperating.find? fun other => other.caller = caller,
        other.call = .recv
  | _ => False

theorem turn_recv_raises {channel : BoundedChannel α} {caller : Nat}
    {timed expired : Bool} {error : ChannelError}
    (raises : (channel.turn caller timed expired .recv).1 = .raised error) :
    channel.buffer = [] := by
  rw [turn, recvTurn] at raises
  rcases channel.tryRecvLocked_cases with
    ⟨item, rest, _, form⟩ | ⟨drained, _, _⟩ | ⟨blocked, _⟩
  · rw [form] at raises
    cases raises
  · exact drained
  · exact blocked.1

theorem attempt_recv_raises {channel : BoundedChannel α}
    {error : ChannelError}
    (raises : (channel.attempt .recv).1 = .raised error) :
    channel.buffer = [] := by
  rw [attempt, attemptRecv] at raises
  rcases channel.tryRecvLocked_cases with
    ⟨item, rest, _, form⟩ | ⟨drained, _, _⟩ | ⟨blocked, _⟩
  · rw [form] at raises
    cases raises
  · exact drained
  · exact blocked.1

/-- The arguments of a call are refused with other errors. -/
abbrev Refuses {β : Type} (arguments : Except ChannelError β) : Prop :=
  RaisesOnly (fun error : ChannelError => error.isClosed = false) arguments

theorem refuses_rejectRunningLoop (inLoop : Bool) (subject : String) :
    Refuses (rejectRunningLoop inLoop subject) :=
  RaisesOnly.require rfl

theorem refuses_validateTimeout (timeout : Option ChannelTimeout)
    (subject : String) : Refuses (validateTimeout timeout subject) := by
  rcases timeout with _ | ⟨value⟩ | _
  · exact RaisesOnly.ok ()
  · exact RaisesOnly.require rfl
  · exact RaisesOnly.error rfl

theorem refuses_validateIterations (iterations : Int) :
    Refuses (validateIterations iterations) := by
  refine RaisesOnly.bind ?_ fun _ _ => RaisesOnly.ok _
  exact RaisesOnly.require rfl

theorem checked_raises {β : Type} {arguments : Except ChannelError β}
    {go : β → ChannelResult α × ChannelRun α} {error : ChannelError}
    (refuses : Refuses arguments) (closed : error.isClosed)
    (raises : (run.checked arguments go).1 = .raised error) :
    ∃ value, (go value).1 = .raised error := by
  cases arguments with
  | ok value => exact ⟨value, raises⟩
  | error refused =>
      cases raises
      rw [refuses _ rfl] at closed
      cases closed

theorem cooperateOnce_raises {caller left : Nat} {call : ChannelCall α}
    {error : ChannelError}
    (raises : (run.cooperateOnce caller call left).1 = .raised error) :
    (run.channel.attempt call).1 = .raised error := by
  unfold cooperateOnce at raises
  split at raises
  · cases raises
  · cases raises
  · exact raises

/-- A receive raises closed only on an empty buffer. -/
theorem receives_closed (performs : run.perform step = some (result, next))
    (receives : run.Receives step) {error : ChannelError}
    (raises : result = .raised error) (closed : error.isClosed) :
    run.channel.buffer = [] := by
  subst raises
  have started : ∀ {left : ChannelResult α × ChannelRun α},
      some left = some (.raised error, next) → left.1 = .raised error := by
    intro left same
    rw [Option.some.inj same]
  have idle : ∀ {left : ChannelResult α × ChannelRun α} {caller : Nat},
      (if run.Idle caller then some left else none) =
        some (.raised error, next) → left.1 = .raised error := by
    intro left caller same
    split at same
    · exact started same
    · cases same
  cases step with
  | recv caller inLoop timeout expired =>
      obtain ⟨_, raises⟩ := checked_raises
        ((refuses_rejectRunningLoop inLoop _).bind fun _ _ =>
          refuses_validateTimeout timeout _) closed (idle performs)
      exact turn_recv_raises raises
  | tryRecv inLoop =>
      obtain ⟨_, raises⟩ := checked_raises
        (refuses_rejectRunningLoop inLoop _) closed (started performs)
      exact attempt_recv_raises raises
  | recvAsync caller iterations =>
      obtain ⟨_, raises⟩ := checked_raises
        (refuses_validateIterations iterations) closed (idle performs)
      exact attempt_recv_raises (cooperateOnce_raises raises)
  | wake caller expired =>
      obtain ⟨waiter, found, call⟩ := receives
      rw [Option.mem_def] at found
      simp only [perform, found] at performs
      have raises := started performs
      dsimp only [record] at raises
      rw [call] at raises
      exact turn_recv_raises raises
  | cooperate caller =>
      obtain ⟨other, found, call⟩ := receives
      rw [Option.mem_def] at found
      simp only [perform, found] at performs
      split at performs
      · have raises := started performs
        rw [call] at raises
        cases raises
        cases closed
      · have raises := cooperateOnce_raises (started performs)
        rw [call] at raises
        exact attempt_recv_raises raises
  | send _ _ _ _ _ => exact receives.elim
  | trySend _ _ => exact receives.elim
  | drain _ => exact receives.elim
  | close => exact receives.elim
  | markUnknownOutcome _ => exact receives.elim
  | sendAsync _ _ _ => exact receives.elim
  | abandon _ => exact receives.elim

/-! ## Runs -/

/-- What was accepted is what was given back, in that order, and then what is
queued; the queue is bounded, and nobody waits unnotified who could go on. -/
structure Conserves (run : ChannelRun α) : Prop where
  messages : run.accepted = run.removed ++ run.channel.buffer
  bounded : run.channel.buffer.length ≤ run.channel.capacity
  counted : run.channel.acceptedCount = run.accepted.length
  waits : run.channel.Waits

theorem Follows.conserves (follows : Follows run result next)
    (conserves : run.Conserves) : next.Conserves where
  messages := by
    rw [follows.accepted, conserves.messages, follows.removed,
      List.append_assoc, follows.moves.messages, List.append_assoc]
  bounded := by
    rw [follows.moves.capacity]
    exact follows.moves.bounded conserves.bounded
  counted := by
    rw [follows.moves.counted, conserves.counted, follows.accepted,
      List.length_append]
  waits := follows.moves.waits conserves.waits

/-- Admission has stopped for good. -/
def Stopped (run : ChannelRun α) : Prop :=
  run.channel.closed ∨ run.channel.recoveryClosed

theorem Follows.stopped (follows : Follows run result next)
    (stopped : run.Stopped) :
    next.Stopped ∧ next.accepted = run.accepted := by
  constructor
  · exact stopped.imp follows.moves.closed follows.moves.recoveryClosed
  · rw [follows.accepted, follows.moves.admits stopped, List.append_nil]

/-- The section closed the channel, or marked an unknown outcome. -/
def Stops : ChannelStep α → ChannelResult α → Prop
  | .close, .returned => True
  | .markUnknownOutcome _, .returned => True
  | _, _ => False

theorem stopped_of_stops (performs : run.perform step = some (result, next))
    (stops : Stops step result) : next.Stopped := by
  cases step with
  | close =>
      cases Option.some.inj performs
      left
      show run.channel.close.closed = true
      rw [close]
      split
      · assumption
      · rfl
  | markUnknownOutcome reason =>
      have marked : (run.checked (validateUnknownReason reason) fun _ =>
          run.record (.returned, run.channel.markUnknownOutcome)) =
            (result, next) := Option.some.inj performs
      cases valid : validateUnknownReason reason with
      | error error =>
          rw [valid] at marked
          cases marked
          exact stops.elim
      | ok _ =>
          rw [valid] at marked
          cases marked
          right
          show run.channel.markUnknownOutcome.recoveryClosed = true
          rw [markUnknownOutcome]
          split
          · assumption
          · rfl
  | send _ _ _ _ _ => exact stops.elim
  | recv _ _ _ _ => exact stops.elim
  | trySend _ _ => exact stops.elim
  | tryRecv _ => exact stops.elim
  | drain _ => exact stops.elim
  | sendAsync _ _ _ => exact stops.elim
  | recvAsync _ _ => exact stops.elim
  | wake _ _ => exact stops.elim
  | cooperate _ => exact stops.elim
  | abandon _ => exact stops.elim

/-- What one section of a run does. -/
structure StepHolds (channel : BoundedChannel α) (run : ChannelRun α)
    (step : ChannelStep α) (result : ChannelResult α) (next : ChannelRun α) :
    Prop where
  accepted : next.accepted = run.accepted ++ result.admitted
  removed : next.removed = run.removed ++ result.removed
  receives : run.Receives step → ∀ error, result = .raised error →
    error.isClosed → run.removed = run.accepted
  stops : Stops step result → ∀ later,
    (channelSystem channel).Leads next later → later.accepted = next.accepted

theorem stopped_leads {channel : BoundedChannel α} {later : ChannelRun α}
    (stopped : next.Stopped)
    (leads : (channelSystem channel).Leads next later) :
    later.accepted = next.accepted := by
  have holds : later.Stopped ∧ later.accepted = next.accepted := by
    refine @TransitionSystem.Leads.invariant _ _ _ (fun state =>
      state.Stopped ∧ state.accepted = next.accepted) ?_ _ _ leads
        ⟨stopped, rfl⟩
    rintro state label after ⟨stopped, same⟩ ⟨result, performs⟩
    obtain ⟨still, kept⟩ := (follows_perform performs).stopped stopped
    exact ⟨still, kept.trans same⟩
  exact holds.2

theorem Conserves.stepHolds {channel : BoundedChannel α}
    (conserves : run.Conserves)
    (performs : run.perform step = some (result, next)) :
    StepHolds channel run step result next where
  accepted := (follows_perform performs).accepted
  removed := (follows_perform performs).removed
  receives receives error raises closed := by
    have drained := receives_closed performs receives raises closed
    rw [conserves.messages, drained, List.append_nil]
  stops stops _ leads := stopped_leads (stopped_of_stops performs stops) leads

theorem create_eq_ok {kind : Text} {capacity : Int}
    {channel : BoundedChannel α} (created : create kind capacity = .ok channel) :
    channel.buffer = [] ∧ channel.acceptedCount = 0 ∧
      channel.waiting = [] := by
  rw [create, check_bind_eq_ok, check_bind_eq_ok] at created
  obtain ⟨_, _, created⟩ := created
  cases created
  exact ⟨rfl, rfl, rfl⟩

end ChannelRun

open ChannelRun in
/-- In every interleaving a channel conserves its messages in order, within
its capacity; nothing is accepted once admission has stopped, a receive raises
closed only when everything has been given back, and whoever waits without a
notification could neither go on nor has to fail. -/
theorem channel_conserves {kind : Text} {capacity : Int}
    {channel : BoundedChannel α}
    (created : BoundedChannel.create kind capacity = .ok channel)
    {run : ChannelRun α} (reached : (channelSystem channel).Reachable run) :
    run.Conserves ∧ ∀ step result next,
      run.perform step = some (result, next) →
        StepHolds channel run step result next := by
  have conserves : run.Conserves := by
    refine TransitionSystem.Reachable.invariant ?_ ?_ reached
    · rintro state rfl
      obtain ⟨buffer, count, waiting⟩ := create_eq_ok created
      refine ⟨buffer.symm, ?_, count, ?_⟩
      · show channel.buffer.length ≤ channel.capacity
        rw [buffer]
        exact Nat.zero_le _
      · intro waiter member
        change waiter ∈ channel.waiting at member
        rw [waiting] at member
        exact absurd member List.not_mem_nil
    · rintro state label next _ holds ⟨result, performs⟩
      exact (follows_perform performs).conserves holds
  exact ⟨conserves, fun _ _ _ => conserves.stepHolds⟩

section Sample

/-- A channel for one message. -/
def sampleChannel : BoundedChannel Nat where
  kind := text "writer"
  capacity := 1
  buffer := []
  acceptedCount := 0
  maxObservedQueued := 0
  closed := false
  recoveryClosed := false
  waiting := []

/-- One message is queued, and a second sender waits. -/
def sampleFull : ChannelRun Nat where
  channel :=
    { sampleChannel with
      buffer := [7]
      acceptedCount := 1
      maxObservedQueued := 1
      waiting := [⟨1, .send 8, false, false⟩] }
  cooperating := []
  accepted := [7]
  removed := []

theorem sampleFull_reachable :
    (channelSystem sampleChannel).Reachable sampleFull := by
  have queued : (channelSystem sampleChannel).Step
      ⟨sampleChannel, [], [], []⟩ (.trySend false (some 7))
      { sampleFull with
        channel := { sampleFull.channel with waiting := [] } } :=
    ⟨.accepted 7, by decide⟩
  have parked : (channelSystem sampleChannel).Step
      { sampleFull with
        channel := { sampleFull.channel with waiting := [] } }
      (.send 1 false (some 8) none false) sampleFull :=
    ⟨.parked, by decide⟩
  exact .step (.step (.initial rfl) queued) parked

theorem channel_conserves_sample :
    BoundedChannel.create (text "writer") 1 = .ok sampleChannel ∧
      sampleFull.Conserves ∧ ∀ step result next,
        sampleFull.perform step = some (result, next) →
          ChannelRun.StepHolds sampleChannel sampleFull step result next := by
  have created : BoundedChannel.create (text "writer") 1 =
      .ok sampleChannel := toOption_eq_some.mp (by decide)
  exact ⟨created, channel_conserves created sampleFull_reachable⟩

end Sample

end ParityGrid.Application
