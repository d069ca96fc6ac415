import ParityGrid.Demo.Simulators.WarehouseDurability
import ParityGrid.Foundation.Effects

/-!
# Upserts that raise

A behavior lives on after an upsert that raised, with whatever the upsert had
changed by then.  The same upsert is therefore written once more as a method on
the state of the behavior.  It returns what `handleUpsert` returns, and what it
leaves behind when it raises depends on where it does.
-/

namespace ParityGrid.Demo

open Foundation Domain

/-- A method of a behavior. -/
abbrev WarehouseMethod (α : Type) :=
  Method WarehouseState PythonError α

section Calls

variable [JsonRuntime]

/-! ## The upsert as a method -/

/-- Persist a settled state and answer with its receipt. -/
def answerCall (behavior : WarehouseBehavior)
    (failure : Option ScriptedFailure) (entry : IdempotencyEntry) :
    WarehouseMethod PlannedResponse := do
  Method.update behavior.persist
  let response ← Method.check (jsonResponse 200 (outcomeDocument entry false))
  Method.check (postCommitTransportFailure failure response)

/-- The end of `_handle_upsert` after a write that changes nothing. -/
def settleUnchangedCall (behavior : WarehouseBehavior)
    (failure : Option ScriptedFailure) (upsert : UpsertRequest)
    (existing : Option StoredRecord) : WarehouseMethod PlannedResponse := do
  let entry := unchangedEntry upsert existing (← get)
  Method.update (storeIdempotency upsert.key entry)
  answerCall behavior failure entry

/-- The end of `_handle_upsert` after a write that is applied: the record and
the version are changed first. -/
def settleAppliedCall (behavior : WarehouseBehavior)
    (failure : Option ScriptedFailure) (sku : Text) (upsert : UpsertRequest)
    (existing : Option StoredRecord) : WarehouseMethod PlannedResponse := do
  let entry := appliedEntry upsert existing (← get)
  modify (WarehouseState.write sku upsert)
  Method.update (storeIdempotency upsert.key entry)
  modify (WarehouseState.commit upsert.key)
  answerCall behavior failure entry

/-- The part of `_handle_upsert` that a key without a receipt reaches. -/
def settleUpsertCall (behavior : WarehouseBehavior)
    (failure : Option ScriptedFailure) (sku : Text) (upsert : UpsertRequest) :
    WarehouseMethod PlannedResponse := do
  let state ← get
  let existing := state.records.lookup sku
  if existing.isNone && behavior.settings.capacity ≤ state.records.length then
    Method.check (errorResponse 507 "capacity_exceeded"
      "The warehouse record capacity is exhausted.")
  else do
    let holds ← Method.check (preconditionHolds upsert.precondition existing)
    if !holds then
      Method.check (errorResponse 409 "target_precondition_failed"
        "The target no longer satisfies the repair precondition.")
    else do
      let unchanged ← Method.check (isUnchanged upsert.payload existing)
      if unchanged then settleUnchangedCall behavior failure upsert existing
      else settleAppliedCall behavior failure sku upsert existing

/-- The part of `_handle_upsert` that a well-formed request reaches. -/
def serveUpsertCall (behavior : WarehouseBehavior)
    (failure : Option ScriptedFailure) (sku : Text) (upsert : UpsertRequest) :
    WarehouseMethod PlannedResponse := do
  match (← get).idempotency.lookup upsert.key with
  | none => settleUpsertCall behavior failure sku upsert
  | some stored =>
      if stored.requestFingerprint ≠ upsert.fingerprint then
        Method.check (errorResponse 409 "idempotency_conflict"
          "The idempotency key was reused with a different request.")
      else do
        let response ← Method.check (replayResponse stored)
        Method.check (postCommitTransportFailure failure response)

/-- The part of `_handle_upsert` after its scripted failure. -/
def readAndServeCall (behavior : WarehouseBehavior)
    (failure : Option ScriptedFailure) (sku : Text) (request : HttpRequest) :
    WarehouseMethod PlannedResponse := do
  match ← Method.check (readUpsert sku request) with
  | .inl rejection => pure rejection
  | .inr upsert => serveUpsertCall behavior failure sku upsert

/-- `_handle_upsert`. -/
def handleUpsertCall (behavior : WarehouseBehavior) (sku : Text)
    (request : HttpRequest) : WarehouseMethod PlannedResponse := do
  modify WarehouseState.count
  Method.update behavior.persist
  match behavior.script.failureFor (← get).requestCount with
  | none => readAndServeCall behavior none sku request
  | some failure => do
      modify (WarehouseState.note failure)
      Method.update behavior.persist
      match ← Method.check (preCommitTransportFailure failure) with
      | some planned => pure planned
      | none => readAndServeCall behavior (some failure) sku request

/-! ## Both agree on what is returned -/

variable (behavior : WarehouseBehavior) (failure : Option ScriptedFailure)
  (sku : Text) (upsert : UpsertRequest) (request : HttpRequest)
  (state : WarehouseState)

theorem settleUnchangedCall_kept (existing : Option StoredRecord) :
    (settleUnchangedCall behavior failure upsert existing).kept state =
      settleUnchanged behavior failure upsert existing state := by
  simp [settleUnchangedCall, settleUnchanged, answerCall, Method.kept_bind]

theorem settleAppliedCall_kept (existing : Option StoredRecord) :
    (settleAppliedCall behavior failure sku upsert existing).kept state =
      settleApplied behavior failure sku upsert existing state := by
  simp [settleAppliedCall, settleApplied, answerCall, Method.kept_bind]

theorem settleUpsertCall_kept :
    (settleUpsertCall behavior failure sku upsert).kept state =
      settleUpsert behavior failure sku upsert state := by
  simp only [settleUpsertCall, settleUpsert, Method.kept_bind, Method.kept_get,
    ok_bind]
  split
  · rw [Method.kept_check]
  · simp only [Method.kept_bind, Method.kept_check, bind_assoc, pure_bind]
    refine bind_congr fun holds => ?_
    split
    · rw [Method.kept_check]
    · simp only [Method.kept_bind, Method.kept_check, bind_assoc, pure_bind]
      refine bind_congr fun unchanged => ?_
      split
      · exact settleUnchangedCall_kept ..
      · exact settleAppliedCall_kept ..

theorem serveUpsertCall_kept :
    (serveUpsertCall behavior failure sku upsert).kept state =
      serveUpsert behavior failure sku upsert state := by
  simp only [serveUpsertCall, serveUpsert, Method.kept_bind, Method.kept_get,
    ok_bind]
  cases state.idempotency.lookup upsert.key with
  | none => exact settleUpsertCall_kept ..
  | some stored =>
      dsimp only
      split
      · rw [Method.kept_check]
      · simp only [Method.kept_bind, Method.kept_check, bind_assoc, pure_bind]

theorem readAndServeCall_kept :
    (readAndServeCall behavior failure sku request).kept state =
      readAndServe behavior failure sku request state := by
  simp only [readAndServeCall, readAndServe, Method.kept_bind,
    Method.kept_check, bind_assoc, pure_bind]
  refine bind_congr fun read => ?_
  cases read with
  | inl rejection => rfl
  | inr upsert => exact serveUpsertCall_kept ..

/-- A call that returns is one of `handleUpsert`. -/
theorem handleUpsertCall_kept :
    (handleUpsertCall behavior sku request).kept state =
      handleUpsert behavior sku request state := by
  simp only [handleUpsertCall, handleUpsert, Method.kept_bind,
    Method.kept_modify, Method.kept_update, Method.kept_get, bind_assoc,
    pure_bind, ok_bind]
  refine bind_congr fun counted => ?_
  cases behavior.script.failureFor counted.requestCount with
  | none => exact readAndServeCall_kept ..
  | some failure =>
      simp only [Method.kept_bind, Method.kept_modify, Method.kept_update,
        Method.kept_check, bind_assoc, pure_bind, ok_bind]
      refine bind_congr fun noted => bind_congr fun answer => ?_
      cases answer with
      | some planned => rfl
      | none => exact readAndServeCall_kept ..

/-! ## Which exceptions are raised -/

/-- The exceptions of the class `WarehouseError`. -/
def isWarehouseError : PythonError → Bool
  | .raised className _ _ => className == text "WarehouseError"
  | _ => false

/-- No exception of the computation is a `WarehouseError`. -/
abbrev RaisesOthers {α : Type} (x : Except PythonError α) : Prop :=
  RaisesOnly (fun error => isWarehouseError error = false) x

theorem jsonDumps_raisesOthers (value : JsonValue) :
    RaisesOthers (jsonDumps value) := by
  intro error raised
  rcases jsonDumps_kinds raised with ⟨message, rfl⟩ | rfl
  · rfl
  · rfl

theorem jsonResponse_raisesOthers (status : Nat) (document : JsonValue) :
    RaisesOthers (jsonResponse status document) :=
  .bind (jsonDumps_raisesOthers document) fun _ _ => .ok _

section

omit [JsonRuntime]

theorem encodeStrict_raisesOthers (t : Text) :
    RaisesOthers (encodeStrict t) := by
  rw [encodeStrict]
  split
  · exact .ok _
  · exact .error rfl

theorem encoded_raisesOthers (response : PlannedResponse) :
    RaisesOthers response.encoded :=
  .bind (encodeStrict_raisesOthers _) fun _ _ => .ok _

theorem postCommit_raisesOthers (failure : Option ScriptedFailure)
    (response : PlannedResponse) :
    RaisesOthers (postCommitTransportFailure failure response) := by
  cases failure with
  | none => exact .ok _
  | some failure =>
      rw [postCommitTransportFailure]
      split
      · exact .ok _
      · exact .bind (encoded_raisesOthers response) fun _ _ => .ok _
      · exact .ok _

end

/-- The state document exceeds its bounded size. -/
def WarehouseBehavior.Oversizes (behavior : WarehouseBehavior)
    (state : WarehouseState) : Prop :=
  behavior.durable = true ∧ ∃ payload,
    jsonDumps state.document = .ok payload ∧ maxStateBytes < payload.length

/-- Only the size of the document makes persisting raise a `WarehouseError`. -/
theorem persist_raises (behavior : WarehouseBehavior)
    (state : WarehouseState) :
    (∃ error, behavior.persist state = .error error ∧
      isWarehouseError error) ↔ behavior.Oversizes state := by
  rw [WarehouseBehavior.persist, WarehouseBehavior.Oversizes]
  cases behavior.durable with
  | false => simp [pure, Except.pure]
  | true =>
      rw [if_pos rfl]
      cases dumped : jsonDumps state.document with
      | error error =>
          have other := jsonDumps_raisesOthers _ error dumped
          simp [other]
      | ok payload =>
          by_cases room : payload.length ≤ maxStateBytes
          · simp [room, require, pure, Except.pure]
          · simp only [ok_bind, room, decide_false, require]
            simpa using ⟨fun _ => not_le.mp room, fun _ => rfl⟩

/-! ## What a raise leaves behind -/

/-- The state after the receipt of a request, with its effect if it has one. -/
def WarehouseState.received (sku : Text) (upsert : UpsertRequest)
    (unchanged : Bool) (state : WarehouseState) : WarehouseState :=
  let existing := state.records.lookup sku
  if unchanged then
    { state with
      idempotency := alter upsert.key
        (fun _ => unchangedEntry upsert existing state) state.idempotency }
  else
    WarehouseState.commit upsert.key
      { state.write sku upsert with
        idempotency := alter upsert.key
          (fun _ => appliedEntry upsert existing state) state.idempotency }

/-- A new request that passes every check of the target: its payload is the
stored one if it is `unchanged`. -/
structure Passes (behavior : WarehouseBehavior) (sku : Text)
    (upsert : UpsertRequest) (state : WarehouseState) (unchanged : Bool) :
    Prop where
  fresh : state.idempotency.lookup upsert.key = none
  room : state.records.lookup sku = none →
    state.records.length < behavior.settings.capacity
  holds : preconditionHolds upsert.precondition (state.records.lookup sku) =
    .ok true
  compared : isUnchanged upsert.payload (state.records.lookup sku) =
    .ok unchanged

/-- Either the registry is full and the effect comes first, or the receipt
makes a state whose document is too large. -/
def Overruns (behavior : WarehouseBehavior) (sku : Text)
    (upsert : UpsertRequest) (state : WarehouseState) (unchanged : Bool) :
    Prop :=
  unchanged = false ∧ maxIdempotencyEntries ≤ state.idempotency.length ∨
    state.idempotency.length < maxIdempotencyEntries ∧
      behavior.Oversizes (state.received sku upsert unchanged)

/-- A `WarehouseError` is raised only while the target is `origin`. -/
def KeepsTarget (origin : TargetState) (error : PythonError)
    (after : WarehouseState) : Prop :=
  isWarehouseError error → after.target = origin

/-- A call keeps the target when it raises a `WarehouseError`. -/
abbrev EndsKept {α : Type} (method : WarehouseMethod α)
    (state : WarehouseState) (origin : TargetState) : Prop :=
  Method.Ends method state (fun _ _ => True) (KeepsTarget origin)

variable {behavior : WarehouseBehavior} {failure : Option ScriptedFailure}
  {sku : Text} {upsert : UpsertRequest} {request : HttpRequest}
  {state : WarehouseState} {origin : TargetState}

section

omit [JsonRuntime]

theorem endsKept_check {α : Type} (result : Except PythonError α) :
    EndsKept (Method.check result) state state.target :=
  Method.ends_check.mpr ⟨fun _ _ => trivial, fun _ _ _ => rfl⟩

theorem endsKept_check_bind {α β : Type} {result : Except PythonError α}
    {next : α → WarehouseMethod β} :
    EndsKept (Method.check result >>= next) state state.target ↔
      ∀ a, result = .ok a → EndsKept (next a) state state.target := by
  rw [EndsKept, Method.ends_check_bind]
  exact and_iff_left fun _ _ _ => rfl

/-- Other exceptions may leave anything behind. -/
theorem endsKept_others {α : Type} {result : Except PythonError α}
    (others : RaisesOthers result) :
    EndsKept (Method.check result) state origin := by
  refine Method.ends_check.mpr ⟨fun _ _ => trivial, fun error raised => ?_⟩
  intro warehouse
  rw [others error raised] at warehouse
  cases warehouse

end

theorem answerCall_endsKept {entry : IdempotencyEntry} :
    EndsKept (answerCall behavior failure entry) state origin ↔
      (behavior.Oversizes state → state.target = origin) := by
  rw [answerCall, EndsKept, Method.ends_bind, Method.ends_update]
  have answers (after : WarehouseState) :
      EndsKept (do
        let response ← Method.check
          (jsonResponse 200 (outcomeDocument entry false))
        Method.check (postCommitTransportFailure failure response))
        after origin := by
    refine Method.ends_check_bind.mpr
      ⟨fun response _ => endsKept_others (postCommit_raisesOthers _ _), ?_⟩
    intro error raised warehouse
    rw [jsonResponse_raisesOthers _ _ error raised] at warehouse
    cases warehouse
  rw [and_iff_right fun after _ => answers after, ← persist_raises]
  constructor
  · rintro keeps ⟨error, raised, warehouse⟩
    exact keeps error raised warehouse
  · intro keeps error raised warehouse
    exact keeps ⟨error, raised, warehouse⟩

section

omit [JsonRuntime]

theorem storeIdempotency_of_room {key : Text} (entry : IdempotencyEntry)
    (fresh : state.idempotency.lookup key = none)
    (room : state.idempotency.length < maxIdempotencyEntries) :
    storeIdempotency key entry state = .ok { state with
      idempotency := alter key (fun _ => entry) state.idempotency } := by
  simp [storeIdempotency, fresh, room, pure, Except.pure]

theorem storeIdempotency_of_full {key : Text} (entry : IdempotencyEntry)
    (fresh : state.idempotency.lookup key = none)
    (full : maxIdempotencyEntries ≤ state.idempotency.length) :
    storeIdempotency key entry state =
      .error (warehouseError "the idempotency registry is exhausted") := by
  simp [storeIdempotency, fresh, full.not_gt]

/-- A receipt changes the target. -/
theorem WarehouseState.received_target {unchanged : Bool}
    (fresh : state.idempotency.lookup upsert.key = none) :
    (state.received sku upsert unchanged).target ≠ state.target := by
  intro same
  have receipts := congrArg TargetState.idempotency same
  have found := congrArg (List.lookup upsert.key) receipts
  rw [show List.lookup upsert.key state.target.idempotency = none from fresh]
    at found
  cases unchanged with
  | true =>
      simp [received, target] at found
  | false =>
      simp [received, commit, target] at found

end

/-- The answer to a settled request keeps the target if the document of the
state after it is small enough. -/
theorem answerCall_received {entry : IdempotencyEntry} {unchanged : Bool}
    (fresh : state.idempotency.lookup upsert.key = none) :
    EndsKept (answerCall behavior failure entry)
        (state.received sku upsert unchanged) state.target ↔
      ¬ behavior.Oversizes (state.received sku upsert unchanged) := by
  rw [answerCall_endsKept]
  exact forall_congr' fun _ =>
    iff_false_intro (WarehouseState.received_target fresh)

theorem settleUnchangedCall_endsKept
    (fresh : state.idempotency.lookup upsert.key = none) :
    EndsKept (settleUnchangedCall behavior failure upsert
      (state.records.lookup sku)) state state.target ↔
        ¬ Overruns behavior sku upsert state true := by
  rw [settleUnchangedCall, EndsKept, Method.ends_bind, Method.ends_get,
    Overruns]
  rcases lt_or_ge state.idempotency.length maxIdempotencyEntries with
    room | full
  · have stored := storeIdempotency_of_room
      (unchangedEntry upsert (state.records.lookup sku) state) fresh room
    have after : state.received sku upsert true = { state with
        idempotency := alter upsert.key (fun _ => unchangedEntry upsert
          (state.records.lookup sku) state) state.idempotency } := rfl
    rw [← after] at stored
    rw [Method.ends_update_bind_ok stored, ← EndsKept,
      answerCall_received fresh]
    simp only [room, room.not_ge, and_false, false_or, true_and]
  · rw [Method.ends_update_bind_error (storeIdempotency_of_full _ fresh full)]
    simp [full.not_gt, KeepsTarget]

/-- With a full registry the effect is there without its receipt. -/
theorem settleAppliedCall_endsKept
    (fresh : state.idempotency.lookup upsert.key = none) :
    EndsKept (settleAppliedCall behavior failure sku upsert
      (state.records.lookup sku)) state state.target ↔
        ¬ Overruns behavior sku upsert state false := by
  have unwritten :
      (state.write sku upsert).idempotency.lookup upsert.key = none := fresh
  rw [settleAppliedCall, EndsKept, Method.ends_bind, Method.ends_get,
    Method.ends_bind, Method.ends_modify, Overruns]
  rcases lt_or_ge state.idempotency.length maxIdempotencyEntries with
    room | full
  · rw [Method.ends_update_bind_ok
      (storeIdempotency_of_room _ unwritten room), Method.ends_bind,
      Method.ends_modify]
    have after : state.received sku upsert false =
        WarehouseState.commit upsert.key { state.write sku upsert with
          idempotency := alter upsert.key (fun _ => appliedEntry upsert
            (state.records.lookup sku) state)
            (state.write sku upsert).idempotency } := rfl
    rw [← after, ← EndsKept, answerCall_received fresh]
    simp only [room, room.not_ge, and_false, false_or, true_and]
  · rw [Method.ends_update_bind_error
      (storeIdempotency_of_full _ unwritten full)]
    simp only [full, full.not_gt, true_and, false_and, or_false, not_true,
      iff_false, KeepsTarget]
    intro keeps
    have version := congrArg TargetState.targetVersion (keeps rfl)
    exact Nat.succ_ne_self _ version

theorem settleUpsertCall_endsKept
    (fresh : state.idempotency.lookup upsert.key = none) :
    EndsKept (settleUpsertCall behavior failure sku upsert) state
        state.target ↔
      ¬ ∃ unchanged, Passes behavior sku upsert state unchanged ∧
        Overruns behavior sku upsert state unchanged := by
  rw [settleUpsertCall, EndsKept, Method.ends_bind, Method.ends_get]
  dsimp only
  split
  next full =>
    refine iff_of_true (endsKept_check _) ?_
    rintro ⟨unchanged, passes, _⟩
    simp only [Bool.and_eq_true, Option.isNone_iff_eq_none,
      decide_eq_true_eq] at full
    exact absurd (passes.room full.1) full.2.not_gt
  next room =>
    have roomy : state.records.lookup sku = none →
        state.records.length < behavior.settings.capacity := by
      intro absent
      simpa [absent] using room
    rw [← EndsKept, endsKept_check_bind]
    constructor
    · rintro ends ⟨unchanged, passes, overruns⟩
      have settles := endsKept_check_bind.mp (ends true passes.holds)
        unchanged passes.compared
      cases unchanged with
      | true => exact (settleUnchangedCall_endsKept fresh).mp settles overruns
      | false => exact (settleAppliedCall_endsKept fresh).mp settles overruns
    · intro within holding holds
      cases holding with
      | false => exact endsKept_check _
      | true =>
          refine endsKept_check_bind.mpr fun unchanged compared => ?_
          have keeps : ¬ Overruns behavior sku upsert state unchanged :=
            fun overruns => within
              ⟨unchanged, ⟨fresh, roomy, holds, compared⟩, overruns⟩
          cases unchanged with
          | true => exact (settleUnchangedCall_endsKept fresh).mpr keeps
          | false => exact (settleAppliedCall_endsKept fresh).mpr keeps

theorem serveUpsertCall_endsKept :
    EndsKept (serveUpsertCall behavior failure sku upsert) state
        state.target ↔
      ¬ ∃ unchanged, Passes behavior sku upsert state unchanged ∧
        Overruns behavior sku upsert state unchanged := by
  rw [serveUpsertCall, EndsKept, Method.ends_bind, Method.ends_get]
  cases found : state.idempotency.lookup upsert.key with
  | none => exact settleUpsertCall_endsKept found
  | some stored =>
      refine iff_of_true ?_ ?_
      · dsimp only
        split
        · exact endsKept_check _
        · exact endsKept_check_bind.mpr fun _ _ => endsKept_check _
      · rintro ⟨unchanged, passes, _⟩
        rw [passes.fresh] at found
        cases found

theorem readAndServeCall_endsKept :
    EndsKept (readAndServeCall behavior failure sku request) state
        state.target ↔
      ¬ ∃ upsert unchanged, readUpsert sku request = .ok (.inr upsert) ∧
        Passes behavior sku upsert state unchanged ∧
        Overruns behavior sku upsert state unchanged := by
  rw [readAndServeCall, endsKept_check_bind]
  constructor
  · rintro ends ⟨upsert, unchanged, read, passes, overruns⟩
    exact serveUpsertCall_endsKept.mp (ends (.inr upsert) read)
      ⟨unchanged, passes, overruns⟩
  · intro within answer read
    cases answer with
    | inl rejection => trivial
    | inr upsert =>
        refine serveUpsertCall_endsKept.mpr ?_
        rintro ⟨unchanged, passes, overruns⟩
        exact within ⟨upsert, unchanged, read, passes, overruns⟩

/-! ## When a request is atomic -/

/-- What every request does before it is read. -/
def WarehouseBehavior.enter (behavior : WarehouseBehavior)
    (state : WarehouseState) : Except PythonError WarehouseState := do
  let state ← behavior.persist state.count
  match behavior.script.failureFor state.requestCount with
  | none => pure state
  | some failure => behavior.persist (state.note failure)

theorem enter_target {entered : WarehouseState}
    (enters : behavior.enter state = .ok entered) :
    entered.target = state.target := by
  rw [WarehouseBehavior.enter, bind_eq_ok] at enters
  obtain ⟨counted, persisted, enters⟩ := enters
  have same := persist_target persisted
  rw [WarehouseState.target_count] at same
  split at enters
  · cases enters
    exact same
  · rw [persist_target enters, WarehouseState.target_note, same]

/-- A request is read in the state `entered` and settles there. -/
def LeavesPart (behavior : WarehouseBehavior) (sku : Text)
    (request : HttpRequest) (state : WarehouseState) : Prop :=
  behavior.Reads state ∧ ∃ entered upsert unchanged,
    behavior.enter state = .ok entered ∧
      readUpsert sku request = .ok (.inr upsert) ∧
      Passes behavior sku upsert entered unchanged ∧
      Overruns behavior sku upsert entered unchanged

/-- A call that raises a `WarehouseError` leaves the target as it was. -/
def AtomicUpsert (behavior : WarehouseBehavior) (sku : Text)
    (request : HttpRequest) (state : WarehouseState) : Prop :=
  ∀ error after,
    (handleUpsertCall behavior sku request).call state =
        (.error error, after) →
      isWarehouseError error → after.target = state.target

theorem atomicUpsert_endsKept :
    AtomicUpsert behavior sku request state ↔
      EndsKept (handleUpsertCall behavior sku request) state
        state.target := by
  rw [EndsKept, Method.ends_iff]
  exact ⟨fun atomic => ⟨fun _ _ _ => trivial, atomic⟩, fun ends => ends.2⟩

/-- Only what follows the entry of a request can change the target. -/
theorem handleUpsertCall_endsKept :
    EndsKept (handleUpsertCall behavior sku request) state state.target ↔
      ∀ entered, behavior.enter state = .ok entered →
        behavior.Reads state →
        EndsKept (readAndServeCall behavior (behavior.nextFailure state) sku
          request) entered state.target := by
  rw [handleUpsertCall, EndsKept, Method.ends_bind, Method.ends_modify,
    WarehouseBehavior.enter]
  cases persisted : behavior.persist state.count with
  | error error =>
      rw [Method.ends_update_bind_error persisted]
      refine iff_of_true (fun _ => state.target_count) ?_
      rintro entered impossible
      cases impossible
  | ok counted =>
      have kept := persist_target persisted
      rw [WarehouseState.target_count] at kept
      have next : behavior.script.failureFor counted.requestCount =
          behavior.nextFailure state := by
        rw [persist_eq_ok persisted]
        rfl
      rw [Method.ends_update_bind_ok persisted, Method.ends_bind,
        Method.ends_get, ok_bind, next]
      simp only [WarehouseBehavior.Reads]
      cases scripted : behavior.nextFailure state with
      | none => simp [pure, Except.pure]
      | some failure =>
          dsimp only
          rw [Method.ends_bind, Method.ends_modify]
          cases noting : behavior.persist (counted.note failure) with
          | error error =>
              rw [Method.ends_update_bind_error noting]
              refine iff_of_true (fun _ => kept) ?_
              rintro entered impossible
              cases impossible
          | ok noted =>
              have same := persist_target noting
              rw [WarehouseState.target_note, kept] at same
              rw [Method.ends_update_bind_ok noting, ← same, ← EndsKept,
                endsKept_check_bind]
              constructor
              · rintro ends entered ⟨rfl⟩ unplanned
                exact ends none (unplanned failure rfl)
              · intro serves answer planned
                cases answer with
                | some response => trivial
                | none =>
                    refine serves noted rfl ?_
                    rintro _ ⟨rfl⟩
                    exact planned

theorem atomicUpsert_iff (behavior : WarehouseBehavior) (sku : Text)
    (request : HttpRequest) (state : WarehouseState) :
    AtomicUpsert behavior sku request state ↔
      ¬ LeavesPart behavior sku request state := by
  rw [atomicUpsert_endsKept, handleUpsertCall_endsKept, LeavesPart]
  constructor
  · rintro ends ⟨reads, entered, upsert, unchanged, enters, settles⟩
    have keeps := ends entered enters reads
    rw [← enter_target enters, readAndServeCall_endsKept] at keeps
    exact keeps ⟨upsert, unchanged, settles⟩
  · intro within entered enters reads
    rw [← enter_target enters, readAndServeCall_endsKept]
    rintro ⟨upsert, unchanged, settles⟩
    exact within ⟨reads, entered, upsert, unchanged, enters, settles⟩

/-! ## What any call may do to the target -/

/-- The target is then one of `P`, or one of `Q` and a `WarehouseError` was
raised. -/
abbrev EndsMoved {α : Type} (method : WarehouseMethod α)
    (state : WarehouseState) (P Q : TargetState → Prop) : Prop :=
  Method.Ends method state (fun _ after => P after.target)
    (fun error after =>
      P after.target ∨ isWarehouseError error ∧ Q after.target)

variable {P Q : TargetState → Prop}

omit [JsonRuntime] in
theorem endsMoved_check {α : Type} (holds : P state.target)
    (result : Except PythonError α) :
    EndsMoved (Method.check result) state P Q :=
  Method.ends_check.mpr ⟨fun _ _ => holds, fun _ _ => .inl holds⟩

omit [JsonRuntime] in
theorem endsMoved_check_bind {α β : Type} {result : Except PythonError α}
    {next : α → WarehouseMethod β} (holds : P state.target)
    (moves : ∀ a, result = .ok a → EndsMoved (next a) state P Q) :
    EndsMoved (Method.check result >>= next) state P Q :=
  Method.ends_check_bind.mpr ⟨moves, fun _ _ => .inl holds⟩

/-- Persisting keeps the target, also when it raises. -/
theorem endsMoved_persist_bind {β : Type} {next : Unit → WarehouseMethod β}
    (holds : P state.target)
    (moves : ∀ after, after.target = state.target →
      EndsMoved (next ()) after P Q) :
    EndsMoved (Method.update behavior.persist >>= next) state P Q :=
  Method.ends_bind.mpr (Method.ends_update.mpr
    ⟨fun after persisted => moves after (persist_target persisted),
      fun _ _ => .inl holds⟩)

theorem answerCall_moved {entry : IdempotencyEntry} (holds : P state.target) :
    EndsMoved (answerCall behavior failure entry) state P Q := by
  refine endsMoved_persist_bind holds fun after same => ?_
  rw [← same] at holds
  exact endsMoved_check_bind holds fun _ _ => endsMoved_check holds _

theorem settleUnchangedCall_moved {existing : StoredRecord}
    (stored : state.records.lookup sku = some existing)
    (fresh : state.idempotency.lookup upsert.key = none) :
    EndsMoved (settleUnchangedCall behavior failure upsert (some existing))
      state (TargetStep behavior.settings.capacity sku upsert
        state.target) Q := by
  rw [settleUnchangedCall, EndsMoved, Method.ends_bind, Method.ends_get]
  rcases lt_or_ge state.idempotency.length maxIdempotencyEntries with
    room | full
  · rw [Method.ends_update_bind_ok (storeIdempotency_of_room _ fresh room)]
    exact answerCall_moved (.settled stored room rfl)
  · rw [Method.ends_update_bind_error (storeIdempotency_of_full _ fresh full)]
    exact .inl .rejected

/-- The record and the version have changed, and nothing else. -/
def WrittenOnly (capacity : Nat) (sku : Text) (upsert : UpsertRequest)
    (state : WarehouseState) (after : TargetState) : Prop :=
  (state.records.lookup sku = none → state.records.length < capacity) ∧
    after = (state.write sku upsert).target

theorem settleAppliedCall_moved
    (roomy : state.records.lookup sku = none →
      state.records.length < behavior.settings.capacity)
    (fresh : state.idempotency.lookup upsert.key = none) :
    EndsMoved (settleAppliedCall behavior failure sku upsert
      (state.records.lookup sku)) state
      (TargetStep behavior.settings.capacity sku upsert state.target)
      (WrittenOnly behavior.settings.capacity sku upsert state) := by
  have unwritten :
      (state.write sku upsert).idempotency.lookup upsert.key = none := fresh
  rw [settleAppliedCall, EndsMoved, Method.ends_bind, Method.ends_get,
    Method.ends_bind, Method.ends_modify]
  rcases lt_or_ge state.idempotency.length maxIdempotencyEntries with
    room | full
  · rw [Method.ends_update_bind_ok
      (storeIdempotency_of_room _ unwritten room), Method.ends_bind,
      Method.ends_modify]
    exact answerCall_moved (.applied roomy room)
  · rw [Method.ends_update_bind_error
      (storeIdempotency_of_full _ unwritten full)]
    exact .inr ⟨rfl, roomy, rfl⟩

theorem settleUpsertCall_moved
    (fresh : state.idempotency.lookup upsert.key = none) :
    EndsMoved (settleUpsertCall behavior failure sku upsert) state
      (TargetStep behavior.settings.capacity sku upsert state.target)
      (WrittenOnly behavior.settings.capacity sku upsert state) := by
  rw [settleUpsertCall, EndsMoved, Method.ends_bind, Method.ends_get]
  dsimp only
  split
  next => exact endsMoved_check .rejected _
  next room =>
    refine endsMoved_check_bind .rejected fun holding _ => ?_
    split
    next => exact endsMoved_check .rejected _
    next =>
      refine endsMoved_check_bind .rejected fun unchanged compared => ?_
      cases unchanged with
      | true =>
          obtain ⟨record, stored⟩ := isUnchanged_stored compared
          rw [stored]
          exact settleUnchangedCall_moved stored fresh
      | false =>
          refine settleAppliedCall_moved ?_ fresh
          intro absent
          simpa [absent] using room

/-- A target is as before, or as after one step of a well-formed request. -/
def TargetMoves (behavior : WarehouseBehavior) (sku : Text)
    (request : HttpRequest) (before after : TargetState) : Prop :=
  after = before ∨ ∃ upsert, readUpsert sku request = .ok (.inr upsert) ∧
    before.idempotency.lookup upsert.key = none ∧
    TargetStep behavior.settings.capacity sku upsert before after

/-- A target whose record and version a well-formed request has changed. -/
def TargetWritten (behavior : WarehouseBehavior) (sku : Text)
    (request : HttpRequest) (before after : TargetState) : Prop :=
  ∃ upsert state, readUpsert sku request = .ok (.inr upsert) ∧
    WarehouseState.target state = before ∧
    WrittenOnly behavior.settings.capacity sku upsert state after

theorem readAndServeCall_moved :
    EndsMoved (readAndServeCall behavior failure sku request) state
      (TargetMoves behavior sku request state.target)
      (TargetWritten behavior sku request state.target) := by
  refine endsMoved_check_bind (.inl rfl) fun answer read => ?_
  cases answer with
  | inl rejection => exact .inl rfl
  | inr upsert =>
      dsimp only
      rw [serveUpsertCall, EndsMoved, Method.ends_bind, Method.ends_get]
      cases fresh : state.idempotency.lookup upsert.key with
      | none =>
          refine (settleUpsertCall_moved fresh).weaken
            (fun _ after step => .inr ⟨upsert, read, fresh, step⟩) ?_
          rintro error after (step | ⟨warehouse, written⟩)
          · exact .inl (.inr ⟨upsert, read, fresh, step⟩)
          · exact .inr ⟨warehouse, upsert, state, read, rfl, written⟩
      | some stored =>
          dsimp only
          split
          · exact endsMoved_check (.inl rfl) _
          · exact endsMoved_check_bind (.inl rfl) fun _ _ =>
              endsMoved_check (.inl rfl) _

theorem handleUpsertCall_moved :
    EndsMoved (handleUpsertCall behavior sku request) state
      (TargetMoves behavior sku request state.target)
      (TargetWritten behavior sku request state.target) := by
  rw [handleUpsertCall, EndsMoved, Method.ends_bind, Method.ends_modify]
  refine endsMoved_persist_bind (.inl rfl) fun counted same => ?_
  rw [WarehouseState.target_count] at same
  rw [EndsMoved, Method.ends_bind, Method.ends_get]
  split
  · rw [← same]
    exact readAndServeCall_moved
  next failure _ =>
    rw [Method.ends_bind, Method.ends_modify, ← same]
    refine endsMoved_persist_bind (.inl rfl) fun noted same => ?_
    rw [WarehouseState.target_note] at same
    rw [← same]
    refine endsMoved_check_bind (.inl rfl) fun answer _ => ?_
    cases answer with
    | some planned => exact .inl rfl
    | none => exact readAndServeCall_moved

/-! ## Runs with raises -/

/-- Upserts from any state that a behavior starts from, raising ones as
well. -/
def callSystem (behavior : WarehouseBehavior) :
    TransitionSystem WarehouseState HttpRequest where
  Initial state := ∃ stateFile, behavior.start stateFile = .ok state
  Step state request next :=
    ∃ sku, upsertSku request = some sku ∧
      ((handleUpsertCall behavior sku request).call state).2 = next

/-- The request would not leave a part of itself behind. -/
def Completes (behavior : WarehouseBehavior) (state : WarehouseState)
    (request : HttpRequest) : Prop :=
  ∀ sku, upsertSku request = some sku →
    ¬ LeavesPart behavior sku request state

theorem DurableTarget.call
    (durable : DurableTarget behavior.settings.capacity state.target)
    (addressed : upsertSku request = some sku)
    (completes : ¬ LeavesPart behavior sku request state) :
    DurableTarget behavior.settings.capacity
      ((handleUpsertCall behavior sku request).call state).2.target := by
  have moves : ((handleUpsertCall behavior sku request).call state).2.target =
        state.target ∨
      TargetMoves behavior sku request state.target
        ((handleUpsertCall behavior sku request).call state).2.target := by
    have atomic := (atomicUpsert_iff _ _ _ _).mpr completes
    have moved : EndsMoved (handleUpsertCall behavior sku request) state _ _ :=
      handleUpsertCall_moved
    obtain ⟨returned, raised⟩ := Method.ends_iff.mp moved
    rcases called : (handleUpsertCall behavior sku request).call state with
      ⟨answer | response, after⟩
    · rcases raised _ _ called with moves | ⟨warehouse, _⟩
      · exact .inr moves
      · exact .inl (atomic _ _ called warehouse)
    · exact .inr (returned _ _ called)
  rcases moves with same | same | ⟨upsert, read, fresh, step⟩
  · rwa [same]
  · rwa [same]
  · exact durable.step (readUpsert_sound read)
      (upsertSku_canonical addressed) fresh step

/--
A raising upsert keeps the target exactly when it does not leave a part of
itself behind, and while no request does, every effect has its receipt.
-/
theorem raising_upserts_atomic (behavior : WarehouseBehavior) :
    (∀ state sku request, AtomicUpsert behavior sku request state ↔
      ¬ LeavesPart behavior sku request state) ∧
    ∀ state, ((callSystem behavior).restrict
        (Completes behavior)).Reachable state →
      DurableTarget behavior.settings.capacity state.target := by
  refine ⟨fun state sku request => atomicUpsert_iff _ _ _ _, ?_⟩
  intro state reached
  induction reached with
  | initial starts =>
      obtain ⟨stateFile, started⟩ := starts
      exact (start_durable started).target
  | step _ moves durable =>
      obtain ⟨⟨sku, addressed, rfl⟩, completes⟩ := moves
      exact durable.call addressed (completes sku addressed)

/-! ## A full registry -/

theorem persist_memory (memory : behavior.durable = false) :
    behavior.persist state = .ok state := by
  rw [WarehouseBehavior.persist, memory]
  rfl

/-- Where a behavior in memory is left by a request that settles and meets no
scripted failure. -/
theorem call_received {unchanged : Bool} (memory : behavior.durable = false)
    (unscripted : behavior.script.failureFor state.count.requestCount = none)
    (read : readUpsert sku request = .ok (.inr upsert))
    (passes : Passes behavior sku upsert state.count unchanged)
    (room : state.count.idempotency.length < maxIdempotencyEntries) :
    ((handleUpsertCall behavior sku request).call state).2 =
      state.count.received sku upsert unchanged := by
  have absent : ((state.count.records.lookup sku).isNone &&
      behavior.settings.capacity ≤ state.count.records.length) = false := by
    cases stored : state.count.records.lookup sku with
    | none => simpa using passes.room stored
    | some _ => rfl
  have answers (entry : IdempotencyEntry) :
      Method.Ends (answerCall behavior none entry)
        (state.count.received sku upsert unchanged)
        (fun _ after => after = state.count.received sku upsert unchanged)
        (fun _ after =>
          after = state.count.received sku upsert unchanged) := by
    rw [answerCall, Method.ends_update_bind_ok (persist_memory memory)]
    exact Method.ends_check_bind.mpr ⟨fun _ _ =>
      Method.ends_check.mpr ⟨fun _ _ => rfl, fun _ _ => rfl⟩,
      fun _ _ => rfl⟩
  refine (Method.ends_always (P := fun after =>
    after = state.count.received sku upsert unchanged)).mp ?_
  rw [handleUpsertCall, Method.ends_bind, Method.ends_modify,
    Method.ends_update_bind_ok (persist_memory memory), Method.ends_bind,
    Method.ends_get, unscripted]
  dsimp only
  rw [readAndServeCall, Method.ends_check_bind_ok read]
  dsimp only
  rw [serveUpsertCall, Method.ends_bind, Method.ends_get, passes.fresh]
  dsimp only
  rw [settleUpsertCall, Method.ends_bind, Method.ends_get]
  dsimp only
  rw [absent, if_neg Bool.false_ne_true,
    Method.ends_check_bind_ok passes.holds, Bool.not_true,
    if_neg Bool.false_ne_true, Method.ends_check_bind_ok passes.compared]
  cases unchanged with
  | true =>
      rw [if_pos rfl, settleUnchangedCall, Method.ends_bind, Method.ends_get,
        Method.ends_update_bind_ok
          (storeIdempotency_of_room _ passes.fresh room)]
      exact answers _
  | false =>
      have unwritten : (state.count.write sku upsert).idempotency.lookup
          upsert.key = none := passes.fresh
      rw [if_neg Bool.false_ne_true, settleAppliedCall, Method.ends_bind,
        Method.ends_get, Method.ends_bind, Method.ends_modify,
        Method.ends_update_bind_ok
          (storeIdempotency_of_room _ unwritten room), Method.ends_bind,
        Method.ends_modify]
      exact answers _

end Calls

section Sample

attribute [local instance] asciiJsonRuntime

/-- An upsert of any record under any key. -/
def recordRequest (sku key body : Text) : HttpRequest where
  method := text "PUT"
  path := text "/v1/records/" ++ sku
  headers := [(text "idempotency-key", key)]
  body := encodeAscii body

/-- An upsert of one record under any key. -/
def keyedRequest (key : Text) (body : String) : HttpRequest :=
  recordRequest sampleSku key (text body)

def changedBody : String :=
  "\x7b\"sku\":\"SKU-1\",\"units\":1\x7d"

def samplePayload : List (Text × JsonValue) :=
  [(text "sku", .string sampleSku)]

theorem sampleBody_read : readBody (encodeAscii (text sampleBody)) =
    .ok (some (.object samplePayload)) := by
  decide +kernel

def changedPayload : List (Text × JsonValue) :=
  [(text "sku", .string sampleSku), (text "units", .int 1)]

/-- The keys of a run that fills the registry. -/
def numberedKey (n : Nat) : Text :=
  text "k" ++ decimal n

theorem numberedKey_injective : Function.Injective numberedKey := by
  intro left right same
  exact decimal_injective (List.append_cancel_left same)

theorem numberedKey_canonical {n : Nat} (small : n ≤ maxIdempotencyEntries) :
    isIdempotencyKey (numberedKey n) := by
  have short : (decimal n).length ≤ 127 :=
    (decimal_length_le (by decide)).mpr
      (small.trans_lt (by decide))
  have digits : (decimal n).all
      (fun d => isKeyHead d || (text "._:-").contains d) := by
    rw [List.all_eq_true]
    intro c member
    have digit := List.all_eq_true.mp (decimal_all_digit n) c member
    simp [isKeyHead, digit]
  show (isKeyHead (point 'k') && decide ((decimal n).length ≤ 127) &&
    (decimal n).all _) = true
  rw [digits, decide_eq_true short]
  decide

/-- Whatever its key, the request is well-formed. -/
theorem readUpsert_record {sku key body : Text}
    {payload : List (Text × JsonValue)} (canonical : isIdempotencyKey key)
    (path : encodeStrict (text "/v1/records/" ++ sku) =
      .ok (encodeAscii (text "/v1/records/" ++ sku)))
    (reads : readBody (encodeAscii body) = .ok (some (.object payload)))
    (own : (payload.lookup (text "sku")).any (readUpsert.isText sku)) :
    ∃ fingerprint, readUpsert sku (recordRequest sku key body) =
      .ok (.inr ⟨key, payload, none, fingerprint⟩) := by
  have header : (recordRequest sku key body).header "idempotency-key" =
      some key := by
    simp [HttpRequest.header, recordRequest]
  have condition : (recordRequest sku key body).header
      "x-paritygrid-target-precondition" = none := by
    simp [HttpRequest.header, recordRequest]
  have method : encodeStrict (text "PUT") = .ok (encodeAscii (text "PUT")) := by
    decide
  have hashed : ∃ fingerprint, requestFingerprint
      (recordRequest sku key body).method (recordRequest sku key body).path
      (recordRequest sku key body).body none = .ok fingerprint := by
    simp only [requestFingerprint, recordRequest, method, path]
    exact ⟨_, rfl⟩
  obtain ⟨fingerprint, hashed⟩ := hashed
  refine ⟨fingerprint, ?_⟩
  simp only [readUpsert, header, canonical, Bool.not_true, if_false,
    Bool.false_eq_true, condition, hashed]
  rw [show (recordRequest sku key body).body = encodeAscii body from rfl,
    reads, ok_bind]
  dsimp only
  rw [if_pos own]
  rfl

theorem readUpsert_keyed {key : Text} {body : String}
    {payload : List (Text × JsonValue)} (canonical : isIdempotencyKey key)
    (reads : readBody (encodeAscii (text body)) =
      .ok (some (.object payload)))
    (own : (payload.lookup (text "sku")).any
      (readUpsert.isText sampleSku)) :
    ∃ fingerprint, readUpsert sampleSku (keyedRequest key body) =
      .ok (.inr ⟨key, payload, none, fingerprint⟩) :=
  readUpsert_record canonical (by decide) reads own

theorem keyedRequest_sku (key : Text) (body : String) :
    upsertSku (keyedRequest key body) = some sampleSku :=
  have same : upsertSku (keyedRequest [] sampleBody) = some sampleSku := by
    decide
  same

/-- A registry of `n` receipts, all of one record that has not changed since
the first. -/
structure Filled (n : Nat) (state : WarehouseState) : Prop where
  reached : ((callSystem plainBehavior).restrict
    (Completes plainBehavior)).Reachable state
  records : state.records = [(sampleSku, ⟨samplePayload, 1⟩)]
  receipts : state.idempotency.length = n
  keys : ∀ key ∈ state.idempotency.map Prod.fst,
    ∃ i < n, key = numberedKey i

/-- In memory, a request with room for its receipt completes. -/
theorem completes_of_room {state : WarehouseState}
    (room : state.idempotency.length < maxIdempotencyEntries)
    (request : HttpRequest) : Completes plainBehavior state request := by
  rintro sku _ ⟨_, entered, upsert, unchanged, enters, _, _, overruns⟩
  have kept : entered.idempotency = state.idempotency :=
    congrArg TargetState.idempotency (enter_target enters)
  rcases overruns with ⟨_, full⟩ | ⟨_, impossible, _⟩
  · rw [kept] at full
    exact room.not_ge full
  · cases impossible

theorem unscripted (state : WarehouseState) :
    plainBehavior.script.failureFor state.count.requestCount = none := rfl

/-- The first request stores the record. -/
theorem exists_filled_one : ∃ state, Filled 1 state := by
  obtain ⟨fingerprint, read⟩ := readUpsert_keyed
    (numberedKey_canonical (Nat.zero_le _))
    sampleBody_read (by decide)
  have passes : Passes plainBehavior sampleSku
      ⟨numberedKey 0, samplePayload, none, fingerprint⟩
      WarehouseState.fresh.count false :=
    ⟨rfl, fun _ => by decide, rfl,
      show isUnchanged samplePayload none = .ok false by decide⟩
  have moved := call_received rfl (unscripted _) read passes (by decide)
  refine ⟨_, .step (.initial ⟨none, rfl⟩)
    ⟨⟨sampleSku, keyedRequest_sku _ _, moved⟩, completes_of_room (by decide) _⟩,
    rfl, rfl, ?_⟩
  intro key member
  exact ⟨0, Nat.one_pos, List.mem_singleton.mp member⟩

/-- One more request passes the checks. -/
theorem Filled.passes {n : Nat} {state : WarehouseState} {unchanged : Bool}
    {payload : List (Text × JsonValue)} (filled : Filled n state)
    (fingerprint : Text)
    (compared : isUnchanged payload (some ⟨samplePayload, 1⟩) =
      .ok unchanged) :
    Passes plainBehavior sampleSku
      ⟨numberedKey n, payload, none, fingerprint⟩ state.count unchanged := by
  have unseen : numberedKey n ∉ state.idempotency.map Prod.fst := by
    intro member
    obtain ⟨i, earlier, same⟩ := filled.keys _ member
    exact earlier.ne (numberedKey_injective same).symm
  have stored : state.count.records.lookup sampleSku =
      some ⟨samplePayload, 1⟩ := by
    rw [show state.count.records = state.records from rfl, filled.records]
    rfl
  refine ⟨lookup_eq_none_iff_notMem.mpr unseen, ?_, rfl, by rwa [stored]⟩
  intro absent
  rw [stored] at absent
  cases absent

/-- Every further request is kept as one more receipt. -/
theorem Filled.next {n : Nat} {state : WarehouseState}
    (filled : Filled n state) (room : n < maxIdempotencyEntries) :
    ∃ next, Filled (n + 1) next := by
  obtain ⟨fingerprint, read⟩ := readUpsert_keyed
    (numberedKey_canonical room.le)
    sampleBody_read (by decide)
  have passes := filled.passes fingerprint
    (show isUnchanged samplePayload _ = .ok true by decide)
  have open_ : state.idempotency.length < maxIdempotencyEntries := by
    rwa [filled.receipts]
  have moved := call_received rfl (unscripted _) read passes open_
  have receipts : (state.count.received sampleSku
      ⟨numberedKey n, samplePayload, none, fingerprint⟩ true).idempotency =
        state.idempotency ++ [(numberedKey n, unchangedEntry
          ⟨numberedKey n, samplePayload, none, fingerprint⟩
          (state.records.lookup sampleSku) state.count)] :=
    alter_of_notMem (lookup_eq_none_iff_notMem.mp passes.fresh)
  refine ⟨_, .step filled.reached
    ⟨⟨sampleSku, keyedRequest_sku _ _, moved⟩, completes_of_room open_ _⟩,
    filled.records, ?_, ?_⟩
  · rw [receipts, List.length_append, filled.receipts]
    rfl
  · rw [receipts, List.map_append]
    intro key member
    rcases List.mem_append.mp member with earlier | own
    · obtain ⟨i, below, same⟩ := filled.keys key earlier
      exact ⟨i, below.trans (Nat.lt_succ_self n), same⟩
    · exact ⟨n, Nat.lt_succ_self n, List.mem_singleton.mp own⟩

theorem exists_filled {n : Nat} (positive : 1 ≤ n)
    (small : n ≤ maxIdempotencyEntries) : ∃ state, Filled n state := by
  induction n, positive using Nat.le_induction with
  | base => exact exists_filled_one
  | succ n _ ih =>
      obtain ⟨state, filled⟩ := ih (Nat.le_of_succ_le small)
      exact filled.next small

/-- Three upserts that complete: one record, three receipts. -/
theorem raising_upserts_atomic_sample : ∃ state : WarehouseState,
    state.records = [(sampleSku, ⟨samplePayload, 1⟩)] ∧
      state.idempotency.length = 3 ∧ DurableTarget 10000 state.target := by
  obtain ⟨state, filled⟩ := exists_filled (show 1 ≤ 3 by decide)
    (by decide)
  exact ⟨state, filled.records, filled.receipts,
    (raising_upserts_atomic plainBehavior).2 _ filled.reached⟩

/-- A request that would change the record leaves its effect behind when the
registry is full. -/
theorem Filled.leavesPart {state : WarehouseState}
    (filled : Filled maxIdempotencyEntries state) :
    LeavesPart plainBehavior sampleSku
      (keyedRequest (numberedKey maxIdempotencyEntries) changedBody)
      state := by
  obtain ⟨fingerprint, read⟩ := readUpsert_keyed
    (numberedKey_canonical le_rfl)
    (show readBody (encodeAscii (text changedBody)) =
      .ok (some (.object changedPayload)) by decide +kernel)
    (by decide)
  have reads : plainBehavior.Reads state := by
    rintro failure impossible
    cases impossible
  have passes := filled.passes fingerprint
    (show isUnchanged changedPayload _ = .ok false by decide)
  exact ⟨reads, state.count, _, false, rfl, read, passes,
    .inl ⟨rfl, filled.receipts.ge⟩⟩

/-- With 10,000 receipts a changed record raises, and stays changed. -/
theorem full_registry_not_atomic :
    ¬ ∀ (behavior : WarehouseBehavior) (state : WarehouseState),
      (callSystem behavior).Reachable state → ∀ sku request,
        upsertSku request = some sku →
          AtomicUpsert behavior sku request state := by
  intro atomic
  obtain ⟨state, filled⟩ := exists_filled (by decide) le_rfl
  exact (atomicUpsert_iff _ _ _ _).mp
    (atomic _ state filled.reached.of_restrict _ _ (keyedRequest_sku _ _))
    filled.leavesPart

end Sample

end ParityGrid.Demo
