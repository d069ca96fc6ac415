import ParityGrid.Application.Execution.ConcurrentEngine

/-!
# Who decides a pause

The signal decides each request once.  While the scheduler is quiescing, the
request that was accepted last is not acknowledged, except on the way through
the durable arrows; and the admission stays closed on that way.
-/

namespace ParityGrid.Application

open ParityGrid.Foundation ParityGrid.Adapters.Persistence
open ParityGrid.Application.ConcurrentScheduler

/-! ## Requests and the signal -/

section Requests

variable {signal next : ConcurrentPauseSignal}
  {requests : List PauseRequest}

/-- One request, and how it was decided. -/
def DecidedAs (requests : List PauseRequest) (wins : List PauseWin)
    (request : Nat) : Prop :=
  ∃ accepted, requests[request]? = some accepted ∧ accepted.wins = wins

def Unacknowledged (requests : List PauseRequest) (request : Nat) : Prop :=
  ∃ accepted, requests[request]? = some accepted ∧
    PauseWin.acknowledgement ∉ accepted.wins

/-- Every request is decided at most once, and only the last one may be open. -/
structure RequestsHold (signal : ConcurrentPauseSignal)
    (requests : List PauseRequest) : Prop where
  wins : ∀ (k : Nat) accepted, requests[k]? = some accepted →
    accepted.wins = [] ∨ accepted.wins = [.acknowledgement] ∨
      accepted.wins = [.abort]
  pending : ∀ (k : Nat) accepted, requests[k]? = some accepted →
    accepted.wins = [] →
    k + 1 = requests.length ∧ signal = .requested accepted.generation
  requested : ∀ generation, signal = .requested generation →
    DecidedAs requests [] (requests.length - 1)
  arrows : ∀ (k : Nat) accepted, requests[k]? = some accepted →
    accepted.arrows ≠ [] → accepted.wins = [.acknowledgement]
  returned : ∀ (k : Nat) accepted, requests[k]? = some accepted →
    accepted.returned = true → accepted.wins = [.abort]

/-- An unacknowledged request that is not open was aborted. -/
theorem RequestsHold.aborted (holds : RequestsHold signal requests)
    {request : Nat} (quiet : Unacknowledged requests request)
    (decided : ∀ accepted, requests[request]? = some accepted →
      accepted.wins ≠ []) : DecidedAs requests [.abort] request := by
  rcases quiet with ⟨accepted, present, silent⟩
  rcases holds.wins request accepted present with none_ | won | aborted
  · exact (decided accepted present none_).elim
  · rw [won] at silent
    exact (silent List.mem_cons_self).elim
  · exact ⟨accepted, present, aborted⟩

/-- A new request, when none is open or awaits its resume. -/
theorem RequestsHold.accept (holds : RequestsHold .idle requests)
    (generation : ControlGeneration) :
    RequestsHold (.requested generation)
      (requests ++ [⟨generation, [], [], [], false⟩]) := by
  have cases_ {k : Nat} {accepted : PauseRequest}
      (present : (requests ++ [⟨generation, [], [], [], false⟩])[k]? =
        some accepted) :
      requests[k]? = some accepted ∨ k = requests.length ∧
        accepted = ⟨generation, [], [], [], false⟩ := by
    rw [List.getElem?_append] at present
    split at present
    · exact .inl present
    · rw [List.getElem?_singleton] at present
      split at present
      · exact .inr ⟨by omega, (Option.some.inj present).symm⟩
      · cases present
  refine ⟨?_, ?_, ?_, ?_, ?_⟩
  · intro k accepted present
    rcases cases_ present with old | ⟨_, rfl⟩
    · exact holds.wins k accepted old
    · exact .inl rfl
  · intro k accepted present open_
    rcases cases_ present with old | ⟨rfl, rfl⟩
    · cases (holds.pending k accepted old open_).2
    · exact ⟨by simp, rfl⟩
  · intro _ _
    exact ⟨⟨generation, [], [], [], false⟩, by simp, rfl⟩
  · intro k accepted present some_
    rcases cases_ present with old | ⟨_, rfl⟩
    · exact holds.arrows k accepted old some_
    · cases some_ rfl
  · intro k accepted present back
    rcases cases_ present with old | ⟨_, rfl⟩
    · exact holds.returned k accepted old back
    · cases back

theorem getElem?_modify_cases {α : Type} {values : List α} {index k : Nat}
    {change : α → α} {value : α}
    (present : (values.modify index change)[k]? = some value) :
    (k ≠ index ∧ values[k]? = some value) ∨
      ∃ before, k = index ∧ values[k]? = some before ∧
        value = change before := by
  rw [List.getElem?_modify] at present
  rcases Option.map_eq_some_iff.mp present with ⟨before, found, same⟩
  by_cases here : index = k
  · rw [if_pos here] at same
    exact .inr ⟨before, here.symm, found, same.symm⟩
  · rw [if_neg here] at same
    exact .inl ⟨Ne.symm here, same ▸ found⟩

/-- The open request is decided. -/
theorem RequestsHold.decide_ (holds : RequestsHold signal requests)
    {generation : ControlGeneration} (open_ : signal = .requested generation)
    {win : PauseWin} (closed : next.isRequested = false) :
    RequestsHold next (requests.modify (requests.length - 1) fun accepted =>
      { accepted with wins := accepted.wins ++ [win] }) := by
  rcases holds.requested generation open_ with ⟨last, atLast, undecided⟩
  have silent : last.arrows = [] := by
    by_contra some_
    cases undecided.symm.trans (holds.arrows _ last atLast some_)
  have forward : last.returned = false := by
    by_contra back
    cases undecided.symm.trans (holds.returned _ last atLast
      (Bool.not_eq_false _ ▸ back))
  refine ⟨?_, ?_, ?_, ?_, ?_⟩
  · intro k accepted present
    rcases getElem?_modify_cases present with ⟨_, old⟩ |
      ⟨before, rfl, old, rfl⟩
    · exact holds.wins k accepted old
    · cases atLast.symm.trans old
      rw [undecided]
      cases win <;> simp
  · intro k accepted present none_
    rcases getElem?_modify_cases present with ⟨apart, old⟩ |
      ⟨before, rfl, old, rfl⟩
    · have last_ := (holds.pending k accepted old none_).1
      exact (apart (by omega)).elim
    · simp at none_
  · intro other again
    rw [again] at closed
    cases closed
  · intro k accepted present some_
    rcases getElem?_modify_cases present with ⟨_, old⟩ |
      ⟨before, rfl, old, rfl⟩
    · exact holds.arrows k accepted old some_
    · cases atLast.symm.trans old
      exact (some_ silent).elim
  · intro k accepted present back
    rcases getElem?_modify_cases present with ⟨_, old⟩ |
      ⟨before, rfl, old, rfl⟩
    · exact holds.returned k accepted old back
    · cases atLast.symm.trans old
      cases forward.symm.trans back

/-- Something is recorded of a request that is decided. -/
theorem RequestsHold.record (holds : RequestsHold signal requests)
    {request : Nat} {change : PauseRequest → PauseRequest}
    (same : ∀ accepted, (change accepted).wins = accepted.wins)
    (generation : ∀ accepted,
      (change accepted).generation = accepted.generation)
    (arrows : ∀ accepted, requests[request]? = some accepted →
      (change accepted).arrows ≠ [] → accepted.wins = [.acknowledgement])
    (returned : ∀ accepted, requests[request]? = some accepted →
      (change accepted).returned = true → accepted.wins = [.abort]) :
    RequestsHold signal (requests.modify request change) := by
  refine ⟨?_, ?_, ?_, ?_, ?_⟩
  · intro k accepted present
    rcases getElem?_modify_cases present with ⟨_, old⟩ |
      ⟨before, rfl, old, rfl⟩
    · exact holds.wins k accepted old
    · rw [same]
      exact holds.wins k before old
  · intro k accepted present none_
    rw [List.length_modify]
    rcases getElem?_modify_cases present with ⟨_, old⟩ |
      ⟨before, rfl, old, rfl⟩
    · exact holds.pending k accepted old none_
    · rw [generation]
      exact holds.pending k before old (same before ▸ none_)
  · intro other open_
    rw [List.length_modify]
    rcases holds.requested other open_ with ⟨last, atLast, undecided⟩
    refine ⟨if request = requests.length - 1 then change last else last,
      ?_, ?_⟩
    · rw [List.getElem?_modify, atLast]
      split <;> rfl
    · split
      · rw [same, undecided]
      · exact undecided
  · intro k accepted present some_
    rcases getElem?_modify_cases present with ⟨_, old⟩ |
      ⟨before, rfl, old, rfl⟩
    · exact holds.arrows k accepted old some_
    · rw [same]
      exact arrows before old some_
  · intro k accepted present back
    rcases getElem?_modify_cases present with ⟨_, old⟩ |
      ⟨before, rfl, old, rfl⟩
    · exact holds.returned k accepted old back
    · rw [same]
      exact returned before old back

theorem RequestsHold.clear (holds : RequestsHold signal requests)
    (generation : ControlGeneration) :
    RequestsHold (signal.clear generation) requests := by
  unfold ConcurrentPauseSignal.clear
  split
  next acknowledged =>
    refine { holds with pending := ?_, requested := ?_ }
    · intro k accepted present none_
      have open_ := (holds.pending k accepted present none_).2
      cases acknowledged.symm.trans open_
    · intro _ impossible
      cases impossible
  next => exact holds

/-- A request for which the durable run reached a state. -/
def Reached (requests : List PauseRequest) (state : Domain.RunState)
    (request : Nat) : Prop :=
  ∃ accepted, requests[request]? = some accepted ∧ state ∈ accepted.reached

/-- What the other threads, and every record, leave of the requests. -/
structure Later (before after : List PauseRequest) : Prop where
  generation : ∀ (k : Nat) accepted next, before[k]? = some accepted →
    after[k]? = some next → next.generation = accepted.generation
  latest : Unacknowledged before (before.length - 1) →
    Unacknowledged after (after.length - 1)
  unacknowledged : ∀ k, Unacknowledged before k → Unacknowledged after k
  decided : ∀ wins k, wins ≠ [] → DecidedAs before wins k →
    DecidedAs after wins k
  reached : ∀ state k, Reached before state k → Reached after state k
  acknowledged : ∀ k, DecidedAs after [.acknowledgement] k →
    DecidedAs before [.acknowledgement] k

theorem Later.append (before : List PauseRequest)
    (generation : ControlGeneration) :
    Later before (before ++ [⟨generation, [], [], [], false⟩]) := by
  have kept {k : Nat} {accepted : PauseRequest}
      (present : before[k]? = some accepted) :
      (before ++ [⟨generation, [], [], [], false⟩])[k]? = some accepted := by
    rw [List.getElem?_append_left (List.getElem?_eq_some_iff.mp present).1]
    exact present
  refine ⟨?_, ?_, ?_, ?_, ?_, ?_⟩
  · intro k accepted next present found
    cases (kept present).symm.trans found
    rfl
  · intro _
    exact ⟨⟨generation, [], [], [], false⟩, by simp, by simp⟩
  · rintro k ⟨accepted, present, silent⟩
    exact ⟨accepted, kept present, silent⟩
  · rintro wins k _ ⟨accepted, present, same⟩
    exact ⟨accepted, kept present, same⟩
  · rintro state k ⟨accepted, present, member⟩
    exact ⟨accepted, kept present, member⟩
  · rintro k ⟨accepted, present, won⟩
    rw [List.getElem?_append] at present
    split at present
    · exact ⟨accepted, present, won⟩
    · rw [List.getElem?_singleton] at present
      split at present
      · cases present
        cases won
      · cases present

/-- A change of one request that keeps what it was decided as. -/
theorem Later.modify (before : List PauseRequest) (request : Nat)
    {change : PauseRequest → PauseRequest}
    (wins : ∀ accepted, before[request]? = some accepted →
      (change accepted).wins = accepted.wins ∨
        accepted.wins = [] ∧ (change accepted).wins = [.abort])
    (generation : ∀ accepted,
      (change accepted).generation = accepted.generation)
    (reached : ∀ accepted, accepted.reached ⊆ (change accepted).reached) :
    Later before (before.modify request change) := by
  have kept {k : Nat} {accepted : PauseRequest}
      (present : before[k]? = some accepted) :
      ∃ after, (before.modify request change)[k]? = some after ∧
        (after.wins = accepted.wins ∨
          accepted.wins = [] ∧ after.wins = [.abort]) ∧
        accepted.reached ⊆ after.reached := by
    refine ⟨if request = k then change accepted else accepted, ?_, ?_, ?_⟩
    · rw [List.getElem?_modify, present]
      split <;> rfl
    · split
      next same => exact wins accepted (same ▸ present)
      next => exact .inl rfl
    · split
      · exact reached accepted
      · exact fun _ member => member
  have unacknowledged (k : Nat) (quiet : Unacknowledged before k) :
      Unacknowledged (before.modify request change) k := by
    rcases quiet with ⟨accepted, present, silent⟩
    rcases kept present with ⟨after, found, same | ⟨_, aborted⟩, _⟩
    · exact ⟨after, found, same ▸ silent⟩
    · refine ⟨after, found, ?_⟩
      rw [aborted]
      simp
  refine ⟨?_, ?_, unacknowledged, ?_, ?_, ?_⟩
  · intro k accepted next present found
    rcases getElem?_modify_cases found with ⟨_, old⟩ | ⟨old, rfl, old_, rfl⟩
    · cases present.symm.trans old
      rfl
    · cases present.symm.trans old_
      exact generation accepted
  · intro quiet
    rw [List.length_modify]
    exact unacknowledged _ quiet
  · rintro wins k some_ ⟨accepted, present, rfl⟩
    rcases kept present with ⟨after, found, same | ⟨none_, _⟩, _⟩
    · exact ⟨after, found, same⟩
    · exact (some_ none_).elim
  · rintro state k ⟨accepted, present, member⟩
    rcases kept present with ⟨after, found, _, more⟩
    exact ⟨after, found, more member⟩
  · rintro k ⟨accepted, present, won⟩
    rcases getElem?_modify_cases present with ⟨_, old⟩ |
      ⟨old, rfl, found, rfl⟩
    · exact ⟨accepted, old, won⟩
    · rcases wins old found with same | ⟨_, aborted⟩
      · exact ⟨old, found, same ▸ won⟩
      · cases aborted.symm.trans won

theorem Later.refl (requests : List PauseRequest) : Later requests requests :=
  ⟨fun _ _ _ present found => by cases present.symm.trans found; rfl, id,
    fun _ => id, fun _ _ _ => id, fun _ _ => id, fun _ => id⟩

end Requests

/-! ## The scheduler's control state -/

section Control

variable {scheduler : ConcurrentScheduler}

theorem releaseEach_control (nodes : List Text) :
    (scheduler.releaseEach nodes).2.controlState =
      scheduler.controlState := by
  induction nodes generalizing scheduler with
  | nil => rfl
  | cons node rest ih =>
      unfold releaseEach
      split
      next => rfl
      next released turned =>
        rw [ih]
        simp only [releaseSuccessor, bind_eq_ok] at turned
        rcases turned with ⟨permitted, _, same⟩
        split at same <;> cases same <;> rfl

/-- Work is moved under the same control, or recovery is required. -/
theorem workOn_control (scheduler : ConcurrentScheduler)
    (operation : SchedulerOperation) :
    (workOn scheduler operation).controlState = scheduler.controlState ∨
      (workOn scheduler operation).controlState = .recoveryRequired := by
  unfold workOn
  split
  next work =>
    cases operation with
    | nextReady limit => exact .inl rfl
    | registerAdmission identity fence =>
        left
        show (scheduler.registerAdmission identity fence).2.controlState = _
        unfold registerAdmission
        repeat' split
        all_goals rfl
    | markResultReceived identity =>
        left
        show (scheduler.markResultReceived identity).2.controlState = _
        unfold markResultReceived
        repeat' split
        all_goals rfl
    | commitResult identity outcome =>
        left
        show (scheduler.commitResult identity outcome).2.controlState = _
        unfold commitResult
        repeat' split
        all_goals first | rfl | exact releaseEach_control _
    | scheduleRetry identity eligible reason =>
        left
        show (scheduler.scheduleRetry identity eligible reason).2.controlState
          = _
        unfold scheduleRetry
        repeat' split
        all_goals rfl
    | retryEligible now =>
        left
        show (scheduler.retryEligible now).2.controlState = _
        unfold retryEligible
        split <;> rfl
    | markRecoveryRequired reason =>
        show (scheduler.markRecoveryRequired reason).2.controlState = _ ∨
          (scheduler.markRecoveryRequired reason).2.controlState = _
        unfold markRecoveryRequired
        repeat' split
        all_goals first | exact .inl rfl | exact .inr rfl
    | _ => cases work
  next => exact .inl rfl

theorem advance_error {expected target : ContractLifecycleState}
    {action : String} {error : SchedulerError} {next : ConcurrentScheduler}
    (answered : scheduler.advance expected target action =
      (.error error, next)) : next = scheduler := by
  unfold advance at answered
  split at answered <;> cases answered
  rfl

end Control

/-! ## The engine's phases -/

/-- On the way through the durable arrows of an acknowledged request. -/
def EnginePhase.writes : EnginePhase → Option Nat
  | .reading request _ => some request
  | .submitting request _ => some request
  | .pausing request => some request
  | _ => none

def EnginePhase.isRecovering : EnginePhase → Bool
  | .recovering _ => true
  | _ => false

/-- The states that the arrows of a pause lead to. -/
def IsPauseArrow (state : Domain.RunState) : Prop :=
  state = .pausing ∨ state = .paused

/-- What is known in each phase. -/
def EnginePhase.Holds (requests : List PauseRequest) (gate : Option Nat)
    (control : ContractLifecycleState) : EnginePhase → Prop
  | .outside => True
  | .draining => True
  | .watching | .deciding | .admitting | .releasing => control ≠ .paused
  | .noticed | .reserving | .requesting =>
      control ≠ .paused ∧ Unacknowledged requests (requests.length - 1)
  | .quiescing => control = .quiescing
  | .holding generation request =>
      control = .quiescing ∧ Unacknowledged requests request ∧
        ∀ accepted, requests[request]? = some accepted →
          accepted.generation = generation
  | .completing generation request =>
      control = .quiescing ∧ Unacknowledged requests request ∧
        (∀ accepted, requests[request]? = some accepted →
          accepted.generation = generation) ∧ gate ≠ none
  | .reading request target =>
      control = .quiescing ∧ DecidedAs requests [.acknowledgement] request ∧
        IsPauseArrow target ∧ gate ≠ none
  | .submitting request arrow =>
      control = .quiescing ∧ DecidedAs requests [.acknowledgement] request ∧
        IsPauseArrow arrow.targetState ∧ gate ≠ none
  | .pausing request =>
      control = .quiescing ∧ DecidedAs requests [.acknowledgement] request ∧
        Reached requests .paused request ∧ gate ≠ none
  | .aborting request =>
      control = .quiescing ∧ DecidedAs requests [.abort] request
  | .recovering _ => control = .quiescing

section Engine

variable [CasefoldRuntime] {run next : EngineRun}

/-- What every step keeps. -/
structure EngineInvariant (run : EngineRun) : Prop where
  requests : RequestsHold run.signal run.requests
  phase : run.phase.Holds run.requests run.gate run.scheduler.controlState
  quiet : run.scheduler.controlState = .quiescing →
    run.phase.writes = none → run.phase.isRecovering = false →
    Unacknowledged run.requests (run.requests.length - 1)
  paused : run.scheduler.controlState = .paused →
    (∃ request, run.pausedFor = some request ∧
      Reached run.requests .paused request) ∧
    (run.gate ≠ none ∨ run.reopened = true)
  followed : ∀ request, DecidedAs run.requests [.acknowledgement] request →
    Reached run.requests .paused request ∨ run.phase.writes = some request ∨
      run.phase.isRecovering = true ∨
      run.scheduler.controlState = .recoveryRequired

omit [CasefoldRuntime] in
theorem EnginePhase.Holds.later {before after : List PauseRequest}
    {gate : Option Nat} {control : ContractLifecycleState}
    {phase : EnginePhase} (holds : phase.Holds before gate control)
    (later : Later before after) : phase.Holds after gate control := by
  have same {generation : ControlGeneration} {request : Nat}
      (quiet : Unacknowledged before request)
      (known : ∀ accepted, before[request]? = some accepted →
        accepted.generation = generation) :
      ∀ accepted, after[request]? = some accepted →
        accepted.generation = generation := by
    intro accepted present
    rcases quiet with ⟨old, found, _⟩
    rw [later.generation request old accepted found present]
    exact known old found
  cases phase with
  | outside => trivial
  | draining => trivial
  | watching => exact holds
  | deciding => exact holds
  | admitting => exact holds
  | releasing => exact holds
  | quiescing => exact holds
  | recovering failure => exact holds
  | noticed => exact ⟨holds.1, later.latest holds.2⟩
  | reserving => exact ⟨holds.1, later.latest holds.2⟩
  | requesting => exact ⟨holds.1, later.latest holds.2⟩
  | holding generation request =>
      exact ⟨holds.1, later.unacknowledged request holds.2.1,
        same holds.2.1 holds.2.2⟩
  | completing generation request =>
      exact ⟨holds.1, later.unacknowledged request holds.2.1,
        same holds.2.1 holds.2.2.1, holds.2.2.2⟩
  | reading request target =>
      exact ⟨holds.1, later.decided _ request (by simp) holds.2.1, holds.2.2⟩
  | submitting request arrow =>
      exact ⟨holds.1, later.decided _ request (by simp) holds.2.1, holds.2.2⟩
  | pausing request =>
      exact ⟨holds.1, later.decided _ request (by simp) holds.2.1,
        later.reached _ request holds.2.2.1, holds.2.2.2⟩
  | aborting request =>
      exact ⟨holds.1, later.decided _ request (by simp) holds.2⟩

/-- What other threads do to the signal and the requests. -/
theorem EngineInvariant.later (holds : EngineInvariant run)
    {signal : ConcurrentPauseSignal} {requests : List PauseRequest}
    (decided : RequestsHold signal requests)
    (later : Later run.requests requests) :
    EngineInvariant { run with signal, requests } where
  requests := decided
  phase := holds.phase.later later
  quiet quiescing idle calm :=
    later.latest (holds.quiet quiescing idle calm)
  paused paused := by
    rcases holds.paused paused with ⟨⟨request, for_, reached⟩, closed⟩
    exact ⟨⟨request, for_, later.reached _ request reached⟩, closed⟩
  followed request won := by
    rcases holds.followed request (later.acknowledged request won) with
      reached | rest
    · exact .inl (later.reached _ request reached)
    · exact .inr rest

/-- A phase outside the durable arrows of a pause. -/
structure EnginePhase.Idle (phase : EnginePhase) : Prop where
  writes : phase.writes = none
  calm : phase.isRecovering = false

/-- The engine moves on from such a phase, with its scheduler and its gate. -/
theorem EngineInvariant.advance (holds : EngineInvariant run)
    (idle : run.phase.Idle) {scheduler : ConcurrentScheduler}
    {gate reservation : Option Nat} {issued : Nat} {phase : EnginePhase}
    (known : phase.Holds run.requests gate scheduler.controlState)
    (quiet : scheduler.controlState = .quiescing →
      run.scheduler.controlState = .quiescing ∨
        Unacknowledged run.requests (run.requests.length - 1))
    (paused : scheduler.controlState = .paused →
      run.scheduler.controlState = .paused ∧
        (gate ≠ none ∨ run.reopened = true))
    (recovery : run.scheduler.controlState = .recoveryRequired →
      scheduler.controlState = .recoveryRequired) :
    EngineInvariant
      { run with scheduler, gate, reservation, issued, phase } where
  requests := holds.requests
  phase := known
  quiet quiescing _ _ := by
    rcases quiet quiescing with before | known_
    · exact holds.quiet before idle.writes idle.calm
    · exact known_
  paused again := ⟨(holds.paused (paused again).1).1, (paused again).2⟩
  followed request won := by
    rcases holds.followed request won with reached | writes | calm | required
    · exact .inl reached
    · cases idle.writes.symm.trans writes
    · cases idle.calm.symm.trans calm
    · exact .inr (.inr (.inr (recovery required)))

/-- The engine moves on and changes nothing else. -/
theorem EngineInvariant.go (holds : EngineInvariant run)
    (idle : run.phase.Idle) {phase : EnginePhase}
    (known : phase.Holds run.requests run.gate run.scheduler.controlState) :
    EngineInvariant { run with phase } :=
  holds.advance idle known .inl
    (fun paused => ⟨paused, (holds.paused paused).2⟩) id

/-- The engine moves on through its durable arrows. -/
theorem EngineInvariant.write (holds : EngineInvariant run) {request : Nat}
    (writes : run.phase.writes = some request)
    (quiescing : run.scheduler.controlState = .quiescing)
    {requests : List PauseRequest} {tables : ExecutionTables}
    {phase : EnginePhase} (decided : RequestsHold run.signal requests)
    (later : Later run.requests requests)
    (known : phase.Holds requests run.gate run.scheduler.controlState)
    (onward : phase.writes = some request ∨ phase.isRecovering = true) :
    EngineInvariant { run with requests, tables, phase } where
  requests := decided
  phase := known
  quiet _ idle calm := by
    rcases onward with on | on
    · cases idle.symm.trans on
    · cases calm.symm.trans on
  paused impossible := by cases quiescing.symm.trans impossible
  followed other won := by
    rcases holds.followed other (later.acknowledged other won) with
      reached | same | calm | required
    · exact .inl (later.reached _ other reached)
    · cases writes.symm.trans same
      exact .inr (onward.imp id .inl)
    · cases at_ : run.phase with
      | recovering failure =>
          rw [at_] at writes
          cases writes
      | _ =>
          rw [at_] at calm
          cases calm
    · cases quiescing.symm.trans required

/-! ## Steps of the engine -/

theorem EngineInvariant.work (holds : EngineInvariant run)
    (idle : run.phase.Idle) (operation : SchedulerOperation)
    {phase : EnginePhase}
    (known : ∀ control, control = run.scheduler.controlState ∨
      control = .recoveryRequired →
      phase.Holds run.requests run.gate control) :
    EngineInvariant { run with
      scheduler := workOn run.scheduler operation
      phase := phase } := by
  have control := workOn_control run.scheduler operation
  refine holds.advance idle (known _ control) ?_ ?_ ?_
  · intro quiescing
    rcases control with same | required
    · exact .inl (same ▸ quiescing)
    · cases quiescing.symm.trans required
  · intro paused
    rcases control with same | required
    · exact ⟨same ▸ paused, (holds.paused (same ▸ paused)).2⟩
    · cases paused.symm.trans required
  · intro required
    rcases control with same | required_
    · exact same.trans required
    · exact required_

theorem EngineInvariant.reserve (holds : EngineInvariant run)
    (idle : run.phase.Idle) {phase : EnginePhase}
    (awake : run.scheduler.controlState ≠ .paused)
    (known : ∀ gate, gate ≠ none ∨ gate = run.gate →
      (run.reservation = none ∨ run.reservation = run.gate → gate ≠ none) →
      phase.Holds run.requests gate run.scheduler.controlState) :
    EngineInvariant (run.reserve phase) := by
  unfold EngineRun.reserve
  split
  next reservation held =>
    refine holds.go idle (known _ (.inr rfl) ?_)
    rintro (none_ | same)
    · cases held.symm.trans none_
    · rw [← same, held]
      simp
  next free =>
    split
    next => exact holds.go idle trivial
    next open_ =>
      exact holds.advance idle (known _ (.inl (by simp)) (by simp)) .inl
        (fun paused => (awake paused).elim) id

theorem EngineInvariant.release (holds : EngineInvariant run)
    (idle : run.phase.Idle) {phase : EnginePhase}
    (awake : run.scheduler.controlState ≠ .paused)
    (known : ∀ gate, phase.Holds run.requests gate
      run.scheduler.controlState) :
    EngineInvariant (run.release phase) := by
  unfold EngineRun.release
  split
  next => exact holds.go idle (known _)
  next =>
    split
    next =>
      exact holds.advance idle (known _) .inl
        (fun paused => (awake paused).elim) id
    next => exact holds.go idle trivial

theorem EngineInvariant.shutdown (holds : EngineInvariant run)
    (idle : run.phase.Idle)
    (awake : run.scheduler.controlState ≠ .paused) :
    EngineInvariant run.shutdown :=
  holds.advance idle trivial .inl (fun paused => (awake paused).elim) id

theorem EngineInvariant.acknowledge (holds : EngineInvariant run)
    {generation : ControlGeneration} {request : Nat}
    (at_ : run.phase = .completing generation request) :
    EngineInvariant (run.acknowledge generation request) := by
  have known := holds.phase
  rw [at_] at known
  rcases known with ⟨quiescing, quiet, same, closed⟩
  have idle : run.phase.Idle := by
    rw [at_]
    exact ⟨rfl, rfl⟩
  unfold EngineRun.acknowledge
  split
  next signal acknowledged =>
    simp only [ConcurrentPauseSignal.tryAcknowledge,
      Option.ite_none_right_eq_some] at acknowledged
    rcases acknowledged with ⟨open_, signalled⟩
    rcases holds.requests.requested generation open_ with
      ⟨last, atLast, undecided⟩
    have here : (run.requests.modify run.latest fun accepted =>
        { accepted with
          wins := accepted.wins ++ [.acknowledgement] })[run.latest]? =
        some { last with wins := last.wins ++ [.acknowledgement] } := by
      have atLatest : run.requests[run.latest]? = some last := atLast
      rw [List.getElem?_modify, atLatest]
      simp
    refine ⟨?_, ?_, ?_, ?_, ?_⟩
    · refine holds.requests.decide_ open_ ?_
      rw [← Option.some.inj signalled]
      rfl
    · refine ⟨quiescing, ⟨_, here, ?_⟩, .inl rfl, closed⟩
      simp [undecided]
    · intro _ impossible
      cases impossible
    · intro impossible
      cases quiescing.symm.trans impossible
    · rintro other ⟨accepted, present, won⟩
      rcases getElem?_modify_cases present with ⟨_, old⟩ |
        ⟨before, rfl, old, rfl⟩
      · rcases holds.followed other ⟨accepted, old, won⟩ with
          ⟨reached, found, member⟩ | writes | calm | required
        · cases old.symm.trans found
          exact .inl ⟨accepted, present, member⟩
        · cases idle.writes.symm.trans writes
        · cases idle.calm.symm.trans calm
        · cases quiescing.symm.trans required
      · exact .inr (.inl rfl)
  next refused =>
    simp only [ConcurrentPauseSignal.tryAcknowledge, ite_eq_right_iff]
      at refused
    refine holds.go idle ⟨quiescing, holds.requests.aborted quiet ?_⟩
    intro accepted present open_
    have signal := (holds.requests.pending request accepted present open_).2
    rw [same accepted present] at signal
    cases refused signal

theorem EngineInvariant.readArrow (holds : EngineInvariant run)
    {request : Nat} {target : Domain.RunState} {reading : ArrowReading}
    (at_ : run.phase = .reading request target)
    (admitted : ∀ durable now, reading = .read durable now →
      canTransitionRun durable.state target = true ∧ now.isSome = true) :
    EngineInvariant (run.readArrow request target reading) := by
  have known := holds.phase
  rw [at_] at known
  rcases known with ⟨quiescing, won, arrow, closed⟩
  have writes : run.phase.writes = some request := by
    rw [at_]
    rfl
  unfold EngineRun.readArrow
  cases reading with
  | failed =>
      exact holds.write writes quiescing holds.requests (.refl _) quiescing
        (.inr rfl)
  | read durable now =>
      rcases admitted durable now rfl with ⟨permitted, answered⟩
      rcases Option.isSome_iff_exists.mp answered with ⟨instant, rfl⟩
      simp only [decideArrow, permitted, if_true]
      have later : Later run.requests (run.requests.modify request
          fun accepted =>
            { accepted with arrows := accepted.arrows ++ [target] }) :=
        .modify _ _ (fun _ _ => .inl rfl) (fun _ => rfl)
          (fun _ => List.Subset.refl _)
      refine holds.write writes quiescing ?_ later
        ⟨quiescing, later.decided _ _ (by simp) won, arrow, closed⟩ (.inl rfl)
      refine holds.requests.record (fun _ => rfl) (fun _ => rfl) ?_ ?_
      · intro accepted present _
        rcases won with ⟨found, again, won⟩
        cases present.symm.trans again
        exact won
      · intro accepted present back
        exact holds.requests.returned _ accepted present back

theorem EngineInvariant.answerArrow (holds : EngineInvariant run)
    {request : Nat} {arrow : LifecycleArrow}
    (at_ : run.phase = .submitting request arrow) (answer : ArrowAnswer) :
    EngineInvariant (run.answerArrow request arrow answer) := by
  have known := holds.phase
  rw [at_] at known
  rcases known with ⟨quiescing, won, target, closed⟩
  have writes : run.phase.writes = some request := by
    rw [at_]
    rfl
  have failed (tables : ExecutionTables) : EngineInvariant { run with
      tables := tables, phase := .recovering .outcomeUnknown } :=
    holds.write writes quiescing holds.requests (.refl _) quiescing (.inr rfl)
  unfold EngineRun.answerArrow
  dsimp only
  split
  next tables executed =>
    have later : Later run.requests (run.requests.modify request
        fun accepted => { accepted with
          reached := accepted.reached ++ [tables.run.state] }) :=
      .modify _ _ (fun _ _ => .inl rfl) (fun _ => rfl)
        (fun _ => List.subset_append_left _ _)
    have decided := later.decided _ _ (by simp) won
    have recorded : RequestsHold run.signal (run.requests.modify request
        fun accepted => { accepted with
          reached := accepted.reached ++ [tables.run.state] }) :=
      holds.requests.record (fun _ => rfl) (fun _ => rfl)
        (fun accepted present some_ =>
          holds.requests.arrows _ accepted present some_)
        (fun accepted present back =>
          holds.requests.returned _ accepted present back)
    rcases target with first | second
    · rw [first]
      exact holds.write writes quiescing recorded later
        ⟨quiescing, decided, .inr rfl, closed⟩ (.inl rfl)
    · rw [second]
      refine holds.write writes quiescing recorded later
        ⟨quiescing, decided, ?_, closed⟩ (.inl rfl)
      rcases won with ⟨accepted, present, _⟩
      refine ⟨{ accepted with
        reached := accepted.reached ++ [tables.run.state] }, ?_, ?_⟩
      · show (run.requests.modify request _)[request]? = _
        rw [List.getElem?_modify, present]
        simp
      · have state := LifecycleArrow.execute_state executed
        simp [state, second]
  next => exact failed _
  next => exact failed _

theorem EngineInvariant.abortPause (holds : EngineInvariant run)
    {request : Nat} (at_ : run.phase = .aborting request) :
    EngineInvariant (run.abortPause request) := by
  have known := holds.phase
  rw [at_] at known
  rcases known with ⟨quiescing, aborted⟩
  have idle : run.phase.Idle := by
    rw [at_]
    exact ⟨rfl, rfl⟩
  unfold EngineRun.abortPause
  split
  next generation scheduler answered =>
    rcases advance_ok answered with ⟨_, _, rfl⟩
    have later : Later run.requests (run.requests.modify request
        fun accepted => { accepted with returned := true }) :=
      .modify _ _ (fun _ _ => .inl rfl) (fun _ => rfl)
        (fun _ => List.Subset.refl _)
    have recorded : EngineInvariant (run.record request fun accepted =>
        { accepted with returned := true }) := by
      refine holds.later (holds.requests.record (fun _ => rfl) (fun _ => rfl)
        ?_ ?_) later
      · intro accepted present some_
        exact holds.requests.arrows _ accepted present some_
      · intro accepted present _
        rcases aborted with ⟨found, again, aborted⟩
        cases present.symm.trans again
        exact aborted
    have idle_ : (run.record request fun accepted =>
        { accepted with returned := true }).phase.Idle := idle
    refine recorded.advance idle_ ?_ ?_ ?_ ?_
    · intro impossible
      cases impossible
    · intro impossible
      cases impossible
    · intro impossible
      cases impossible
    · intro required
      cases quiescing.symm.trans required
  next error scheduler answered =>
    cases advance_error answered
    exact holds.go idle trivial

theorem EngineInvariant.markPaused (holds : EngineInvariant run)
    {request : Nat} (at_ : run.phase = .pausing request) :
    EngineInvariant (run.markPaused request) := by
  have known := holds.phase
  rw [at_] at known
  rcases known with ⟨quiescing, won, reached, closed⟩
  have followed (other : Nat)
      (won_ : DecidedAs run.requests [.acknowledgement] other) :
      Reached run.requests .paused other := by
    rcases holds.followed other won_ with done | writes | calm | required
    · exact done
    · rw [at_] at writes
      cases writes
      exact reached
    · rw [at_] at calm
      cases calm
    · cases quiescing.symm.trans required
  have marked : run.scheduler.markPaused =
      (.ok (), { run.scheduler with controlState := .paused }) := by
    simp [ConcurrentScheduler.markPaused, switch, requireControl, quiescing]
  unfold EngineRun.markPaused
  rw [marked]
  refine ⟨holds.requests, trivial, ?_, ?_, ?_⟩
  · intro impossible
    cases impossible
  · intro _
    exact ⟨⟨request, rfl, reached⟩, .inl closed⟩
  · exact fun other won_ => .inl (followed other won_)

theorem EngineInvariant.requireRecovery (holds : EngineInvariant run)
    {failure : LifecycleFailure} (at_ : run.phase = .recovering failure) :
    EngineInvariant (run.requireRecovery failure) := by
  have quiescing := holds.phase
  rw [at_] at quiescing
  change run.scheduler.controlState = .quiescing at quiescing
  have marked : run.scheduler.markRecoveryRequired failure.reason =
      (.ok (), { run.scheduler with
        controlState := .recoveryRequired
        recoveryReason := some failure.reason }) := by
    simp [markRecoveryRequired, failure.reason_admitted, quiescing]
  unfold EngineRun.requireRecovery
  rw [marked]
  refine ⟨holds.requests, trivial, ?_, ?_, ?_⟩
  · intro impossible
    cases impossible
  · intro impossible
    cases impossible
  · exact fun _ _ => .inr (.inr (.inr rfl))

/--
What a step must not meet.  An acknowledged pause reads a durable state that
admits its arrow, from a clock that answers; the engine takes up a reservation
only while it still closes the admission; and a resume reopens the admission
of a paused scheduler only.
-/
def EngineRun.sound (run : EngineRun) (label : EngineLabel) : Bool :=
  match label, run.phase with
  | .engine (.read (.read durable now)), .reading _ target =>
      canTransitionRun durable.state target && now.isSome
  | .engine .go, .holding _ _ =>
      run.reservation = none ∨ run.reservation = run.gate
  | .resume index .go, _ =>
      match run.resumes[index]? with
      | some ⟨_, reservation, .releasing⟩ =>
          run.gate = some reservation → run.scheduler.controlState = .paused
      | _ => true
  | _, _ => true

theorem EngineInvariant.installPause (holds : EngineInvariant run)
    (at_ : run.phase = .requesting) :
    EngineInvariant (run.engine .go) := by
  have known := holds.phase
  rw [at_] at known
  have idle : run.phase.Idle := by
    rw [at_]
    exact ⟨rfl, rfl⟩
  simp only [EngineRun.engine, at_]
  split
  next generation scheduler answered =>
    rcases advance_ok answered with ⟨running, _, rfl⟩
    refine holds.advance idle ?_ ?_ ?_ ?_
    · intro impossible
      cases impossible
    · exact fun _ => .inr known.2
    · intro impossible
      cases impossible
    · intro required
      cases running.symm.trans required
  next error scheduler answered =>
    cases advance_error answered
    exact holds.go idle trivial

theorem EngineInvariant.engine (holds : EngineInvariant run)
    {choice : EngineChoice} (sound : run.sound (.engine choice) = true) :
    EngineInvariant (run.engine choice) := by
  have known := holds.phase
  have idle {phase : EnginePhase} (at_ : run.phase = phase)
      (idle : phase.Idle) : run.phase.Idle := at_ ▸ idle
  unfold EngineRun.engine
  split
  next at_ => exact holds.go (idle at_ ⟨rfl, rfl⟩) trivial
  next operation at_ =>
    refine holds.work (idle at_ ⟨rfl, rfl⟩) operation ?_
    intro _ _
    rw [at_]
    trivial
  next at_ =>
    have quiet := idle at_ ⟨rfl, rfl⟩
    split
    next control =>
      refine holds.shutdown quiet ?_
      rw [control]
      simp
    next => exact holds.go quiet trivial
    next awake => exact holds.go quiet awake
  next at_ =>
    rw [at_] at known
    refine holds.go (idle at_ ⟨rfl, rfl⟩) ?_
    cases signal : run.signal with
    | requested generation =>
        rcases holds.requests.requested generation signal with
          ⟨last, atLast, undecided⟩
        exact ⟨known, last, atLast, by simp [undecided]⟩
    | _ => exact known
  next at_ =>
    rw [at_] at known
    refine holds.go (idle at_ ⟨rfl, rfl⟩) ?_
    split
    · exact known
    · exact known.1
  next at_ =>
    rw [at_] at known
    exact holds.reserve (idle at_ ⟨rfl, rfl⟩) known.1 fun _ _ _ => known
  next at_ =>
    have installed := holds.installPause at_
    simp only [EngineRun.engine, at_] at installed
    exact installed
  next at_ =>
    rw [at_] at known
    refine holds.go (idle at_ ⟨rfl, rfl⟩) ?_
    split
    next quiescing => exact quiescing
    next => exact known
  next operation at_ =>
    rw [at_] at known
    refine holds.work (idle at_ ⟨rfl, rfl⟩) operation ?_
    rintro control (rfl | rfl)
    · rw [at_]
      exact known
    · rw [at_]
      intro impossible
      cases impossible
  next at_ => exact holds.go (idle at_ ⟨rfl, rfl⟩) trivial
  next at_ =>
    rw [at_] at known
    exact holds.shutdown (idle at_ ⟨rfl, rfl⟩) known
  next operation at_ =>
    exact holds.work (idle at_ ⟨rfl, rfl⟩) operation fun _ _ => trivial
  next at_ =>
    rw [at_] at known
    have quiet := idle at_ ⟨rfl, rfl⟩
    have silent := holds.quiet known quiet.writes quiet.calm
    split
    next none_ =>
      -- the request is not open any more, and nobody has acknowledged it
      refine holds.go quiet ⟨known, holds.requests.aborted silent ?_⟩
      intro accepted present open_
      have signal := (holds.requests.pending _ accepted present open_).2
      rw [signal] at none_
      cases none_
    next generation requested =>
      refine holds.go quiet ⟨known, silent, ?_⟩
      cases signal : run.signal with
      | requested found =>
          rw [signal] at requested
          cases requested
          rcases holds.requests.requested generation signal with
            ⟨last, atLast, undecided⟩
          intro accepted present
          cases atLast.symm.trans present
          have pending := (holds.requests.pending _ last atLast undecided).2
          cases signal.symm.trans pending
          rfl
      | _ =>
          rw [signal] at requested
          cases requested
  next generation request at_ =>
    rw [at_] at known
    refine holds.reserve (idle at_ ⟨rfl, rfl⟩) ?_ ?_
    · rw [known.1]
      simp
    · intro gate _ closed
      simp only [EngineRun.sound, at_, decide_eq_true_eq] at sound
      exact ⟨known.1, known.2.1, known.2.2, closed sound⟩
  next generation request at_ => exact holds.acknowledge at_
  next request target reading at_ =>
    refine holds.readArrow at_ ?_
    rintro durable now rfl
    simpa only [EngineRun.sound, at_, Bool.and_eq_true] using sound
  next request arrow answer at_ => exact holds.answerArrow at_ answer
  next request at_ => exact holds.markPaused at_
  next request at_ => exact holds.abortPause at_
  next at_ =>
    rw [at_] at known
    exact holds.release (idle at_ ⟨rfl, rfl⟩) known fun _ => trivial
  next failure at_ => exact holds.requireRecovery at_
  next at_ => exact holds.go (idle at_ ⟨rfl, rfl⟩) trivial
  next at_ => exact holds.go (idle at_ ⟨rfl, rfl⟩) trivial
  next at_ => exact holds.go (idle at_ ⟨rfl, rfl⟩) trivial
  next at_ => exact holds.go (idle at_ ⟨rfl, rfl⟩) trivial
  next generation request at_ => exact holds.go (idle at_ ⟨rfl, rfl⟩) trivial
  next => exact holds

/-! ## Steps of the other threads -/

theorem EngineInvariant.requestPause (holds : EngineInvariant run)
    (generation : ControlGeneration) :
    EngineInvariant (run.requestPause generation) := by
  unfold EngineRun.requestPause
  cases signal : run.signal with
  | idle =>
      have decided := holds.requests
      rw [signal] at decided
      exact holds.later (decided.accept generation) (.append _ _)
  | _ => exact holds

theorem EngineInvariant.abort (holds : EngineInvariant run)
    (generation : ControlGeneration) :
    EngineInvariant (run.abort generation) := by
  unfold EngineRun.abort
  split
  next => exact holds
  next signal aborted =>
    simp only [ConcurrentPauseSignal.tryAbort,
      Option.ite_none_right_eq_some, Option.some.injEq] at aborted
    rcases aborted with ⟨open_, rfl⟩
    rcases holds.requests.requested generation open_ with
      ⟨last, atLast, undecided⟩
    refine holds.later (holds.requests.decide_ open_ rfl)
      (.modify _ _ ?_ (fun _ => rfl) (fun _ => List.Subset.refl _))
    intro accepted present
    cases atLast.symm.trans present
    exact .inr ⟨undecided, by simp [undecided]⟩

/-- The durable tables, and the calls of resume, are not in the invariant. -/
theorem EngineInvariant.apart (holds : EngineInvariant run)
    (resumes : List ResumeCall) (tables : ExecutionTables) :
    EngineInvariant { run with resumes, tables } :=
  ⟨holds.requests, holds.phase, holds.quiet, holds.paused, holds.followed⟩

omit [CasefoldRuntime] in
/-- While the scheduler is paused, the engine does nothing that needs it. -/
theorem EnginePhase.Holds.of_paused {requests : List PauseRequest}
    {gate : Option Nat} {phase : EnginePhase}
    (holds : phase.Holds requests gate .paused) :
    (∀ other control, phase.Holds requests other control) ∧ phase.Idle := by
  cases phase with
  | outside => exact ⟨fun _ _ => trivial, rfl, rfl⟩
  | draining => exact ⟨fun _ _ => trivial, rfl, rfl⟩
  | watching => exact (holds rfl).elim
  | deciding => exact (holds rfl).elim
  | admitting => exact (holds rfl).elim
  | releasing => exact (holds rfl).elim
  | noticed => exact (holds.1 rfl).elim
  | reserving => exact (holds.1 rfl).elim
  | requesting => exact (holds.1 rfl).elim
  | quiescing => cases holds
  | recovering => cases holds
  | _ => cases holds.1

/-- A resume reopens the admission of a paused scheduler. -/
theorem EngineInvariant.reopen (holds : EngineInvariant run)
    (paused : run.scheduler.controlState = .paused) :
    EngineInvariant { run with gate := none, reopened := true } := by
  have known := holds.phase
  rw [paused] at known
  refine ⟨holds.requests, known.of_paused.1 _ _, holds.quiet, ?_,
    holds.followed⟩
  exact fun _ => ⟨(holds.paused paused).1, .inr rfl⟩

theorem EngineInvariant.resumeScheduler (holds : EngineInvariant run)
    {generation : ControlGeneration} {scheduler : ConcurrentScheduler}
    (answered : run.scheduler.resume = (.ok generation, scheduler)) :
    EngineInvariant { run with scheduler := scheduler } := by
  rcases advance_ok answered with ⟨paused, _, rfl⟩
  have known := holds.phase
  rw [paused] at known
  refine holds.advance known.of_paused.2 (known.of_paused.1 _ _) ?_ ?_ ?_
  · intro impossible
    cases impossible
  · intro impossible
    cases impossible
  · intro impossible
    cases paused.symm.trans impossible

theorem EngineInvariant.forget (holds : EngineInvariant run) :
    EngineInvariant { run with reservation := none } :=
  ⟨holds.requests, holds.phase, holds.quiet, holds.paused, holds.followed⟩

theorem EngineInvariant.resume (holds : EngineInvariant run) {index : Nat}
    {choice : EngineChoice}
    (sound : run.sound (.resume index choice) = true) :
    EngineInvariant (run.resume index choice) := by
  unfold EngineRun.resume
  split
  next => exact holds
  next call at_ =>
    split
    next =>
      split
      next => exact holds.apart _ _
      next => exact holds.apart _ _
    next =>
      split
      next => exact holds.apart _ _
      next => exact holds.apart _ _
      next => exact holds.apart _ _
    next =>
      have cleared : EngineInvariant
          { run with signal := run.signal.clear call.generation } :=
        holds.later (holds.requests.clear _) (.refl _)
      exact cleared.apart _ _
    next phase =>
      split
      next closed =>
        have paused : run.scheduler.controlState = .paused := by
          rcases call with ⟨generation, reservation, phase_⟩
          cases phase
          simp only [EngineRun.sound, at_, decide_eq_true_eq] at sound
          exact sound closed
        exact (holds.reopen paused).apart _ _
      next => exact holds.apart _ _
    next =>
      split
      next generation scheduler answered =>
        exact (holds.resumeScheduler answered).apart _ _
      next error scheduler answered =>
        cases advance_error answered
        exact holds.apart _ _
    next => exact holds.forget.apart _ _
    next => exact holds

theorem EngineInvariant.step (holds : EngineInvariant run)
    {label : EngineLabel} (sound : run.sound label = true) :
    EngineInvariant (run.step label) := by
  cases label with
  | engine choice => exact holds.engine sound
  | requestPause generation => exact holds.requestPause generation
  | abortPause generation => exact holds.abort generation
  | beginResume generation =>
      show EngineInvariant (run.beginResume generation)
      unfold EngineRun.beginResume
      split
      next => exact holds
      next => exact holds.apart _ _
  | resume call choice => exact holds.resume sound
  | others tables => exact holds.apart _ _

theorem EngineInvariant.fresh (fresh : run.Fresh) : EngineInvariant run := by
  have nothing {k : Nat} {accepted : PauseRequest}
      (present : run.requests[k]? = some accepted) : False := by
    rw [fresh.requests] at present
    cases present
  refine ⟨⟨?_, ?_, ?_, ?_, ?_⟩, ?_, ?_, ?_, ?_⟩
  · exact fun k accepted present => (nothing present).elim
  · exact fun k accepted present => (nothing present).elim
  · intro generation requested
    cases fresh.signal.symm.trans requested
  · exact fun k accepted present => (nothing present).elim
  · exact fun k accepted present => (nothing present).elim
  · rw [fresh.phase]
    trivial
  · exact fun quiescing => (fresh.active quiescing).elim
  · exact fun paused => (fresh.awake paused).elim
  · rintro request ⟨accepted, present, _⟩
    exact (nothing present).elim

/-! ## What governs the engine -/

end Engine

section Sample

attribute [local instance] asciiCasefoldRuntime

end Sample

end ParityGrid.Application
