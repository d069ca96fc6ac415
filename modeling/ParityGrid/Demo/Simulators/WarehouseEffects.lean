import ParityGrid.Demo.Simulators.Warehouse
import ParityGrid.Foundation.Transition

/-!
# Exactly-once effects

What one upsert does to the target, and what therefore holds after any sequence
of upserts: versions, receipts and effect commits stay in step, and a key that
has a receipt never changes the target again.
-/

namespace ParityGrid.Demo

open Foundation Domain

/-- What a request may change at the target. -/
structure TargetState where
  records : List (Text × StoredRecord)
  targetVersion : Nat
  idempotency : List (Text × IdempotencyEntry)
  effectCommits : List (Text × Nat)

def WarehouseState.target (state : WarehouseState) : TargetState where
  records := state.records
  targetVersion := state.targetVersion
  idempotency := state.idempotency
  effectCommits := state.effectCommits

@[simp]
theorem WarehouseState.target_count (state : WarehouseState) :
    state.count.target = state.target := rfl

@[simp]
theorem WarehouseState.target_note (failure : ScriptedFailure)
    (state : WarehouseState) :
    (state.note failure).target = state.target := rfl

/-- The version of the record of a SKU, zero when there is none. -/
def TargetState.recordVersion (target : TargetState) (sku : Text) : Nat :=
  ((target.records.lookup sku).map StoredRecord.recordVersion).getD 0

/-- The target after a receipt that changed nothing. -/
def TargetState.settle (key : Text) (entry : IdempotencyEntry)
    (target : TargetState) : TargetState :=
  { target with
    idempotency := alter key (fun _ => entry) target.idempotency }

/-- The target after one effect and its receipt. -/
def TargetState.effect (sku : Text) (upsert : UpsertRequest)
    (target : TargetState) : TargetState where
  records := alter sku (fun existing => {
    payload := upsert.payload
    recordVersion := (existing.map StoredRecord.recordVersion).getD 0 + 1 })
    target.records
  targetVersion := target.targetVersion + 1
  idempotency := alter upsert.key (fun _ => {
    requestFingerprint := upsert.fingerprint
    outcome := .applied
    targetVersion := target.targetVersion + 1
    recordVersion := target.recordVersion sku + 1
    status := 200 }) target.idempotency
  effectCommits := countKey target.effectCommits upsert.key

section Effects

variable [JsonRuntime] {behavior : WarehouseBehavior}
  {state after : WarehouseState} {sku : Text} {request : HttpRequest}
  {response : PlannedResponse}

/-! ## What one request does -/

theorem persist_eq_ok (persisted : behavior.persist state = .ok after) :
    after = { state with stateFile := after.stateFile } := by
  simp only [WarehouseBehavior.persist] at persisted
  split at persisted
  · simp only [bind_eq_ok] at persisted
    obtain ⟨_, _, _, _, written⟩ := persisted
    cases written
    rfl
  · cases persisted
    rfl

/-- The file then holds the document of the state. -/
theorem persist_current (persisted : behavior.persist state = .ok after) :
    behavior.persist after = .ok after := by
  have document : after.document = state.document := by
    rw [persist_eq_ok persisted]
    rfl
  rw [WarehouseBehavior.persist] at persisted ⊢
  cases durable : behavior.durable with
  | false => rfl
  | true =>
      rw [durable, if_pos rfl, bind_eq_ok] at persisted
      obtain ⟨payload, dumped, written⟩ := persisted
      rw [bind_eq_ok] at written
      obtain ⟨u, room, written⟩ := written
      rw [if_pos rfl, document, dumped, ok_bind, room, ok_bind]
      cases written
      rfl

theorem persist_target (persisted : behavior.persist state = .ok after) :
    after.target = state.target := by
  rw [persist_eq_ok persisted]
  rfl

/-- A request is counted and its failure noted before anything else. -/
structure Entered (behavior : WarehouseBehavior)
    (state entered : WarehouseState) : Prop where
  target : entered.target = state.target
  requestCount : entered.requestCount = state.requestCount + 1
  applied : entered.applied = state.applied ∨
    ∃ failure : ScriptedFailure, entered.applied =
      state.applied ++ [⟨failure.sequence, failure.kind⟩]
  current : behavior.persist entered = .ok entered

/-- The failure that is scripted for the next request. -/
def WarehouseBehavior.nextFailure (behavior : WarehouseBehavior)
    (state : WarehouseState) : Option ScriptedFailure :=
  behavior.script.failureFor (state.requestCount + 1 : Nat)

/-- A scripted failure answers the next request before it is read. -/
def WarehouseBehavior.Preempts (behavior : WarehouseBehavior)
    (state : WarehouseState) (response : PlannedResponse) : Prop :=
  ∃ failure, behavior.nextFailure state = some failure ∧
    preCommitTransportFailure failure = .ok (some response)

/-- No scripted failure answers the next request before it is read. -/
def WarehouseBehavior.Reads (behavior : WarehouseBehavior)
    (state : WarehouseState) : Prop :=
  ∀ failure, behavior.nextFailure state = some failure →
    preCommitTransportFailure failure = .ok none

theorem handleUpsert_enters
    (handled : handleUpsert behavior sku request state =
      .ok (after, response)) :
    ∃ entered, Entered behavior state entered ∧
      (after = entered ∧ behavior.Preempts state response ∨
        behavior.Reads state ∧
          readAndServe behavior (behavior.nextFailure state) sku request
            entered = .ok (after, response)) := by
  simp only [handleUpsert, bind_eq_ok] at handled
  obtain ⟨counted, persisted, handled⟩ := handled
  have kept := persist_eq_ok persisted
  have count : counted.requestCount = state.requestCount + 1 := by
    rw [kept]
    rfl
  have applied : counted.applied = state.applied := by
    rw [kept]
    rfl
  have next : behavior.script.failureFor counted.requestCount =
      behavior.nextFailure state := by
    rw [count]
    rfl
  rw [next] at handled
  cases found : behavior.nextFailure state with
  | none =>
      rw [found] at handled
      have entered : Entered behavior state counted :=
        ⟨(persist_target persisted).trans state.target_count, count,
          .inl applied, persist_current persisted⟩
      refine ⟨counted, entered, .inr ⟨?_, handled⟩⟩
      intro failure impossible
      rw [found] at impossible
      cases impossible
  | some failure =>
      simp only [found, bind_eq_ok] at handled
      obtain ⟨noted, notedPersisted, answer, planned, handled⟩ := handled
      have entered : Entered behavior state noted := by
        constructor
        · rw [persist_target notedPersisted, WarehouseState.target_note,
            persist_target persisted, WarehouseState.target_count]
        · rw [persist_eq_ok notedPersisted]
          exact count
        · rw [persist_eq_ok notedPersisted]
          refine .inr ⟨failure, ?_⟩
          show counted.applied ++ _ = _
          rw [applied]
        · exact persist_current notedPersisted
      refine ⟨noted, entered, ?_⟩
      cases answer with
      | some response =>
          cases handled
          exact .inl ⟨rfl, failure, found, planned⟩
      | none =>
          refine .inr ⟨?_, handled⟩
          intro other same
          rw [found] at same
          cases same
          exact planned

/-- What a well-formed request without a receipt may do to the target. -/
inductive TargetStep (capacity : Nat) (sku : Text) (upsert : UpsertRequest)
    (before : TargetState) : TargetState → Prop
  | rejected : TargetStep capacity sku upsert before before
  | settled {existing : StoredRecord} {entry : IdempotencyEntry}
      (stored : before.records.lookup sku = some existing)
      (registry : before.idempotency.length < maxIdempotencyEntries)
      (form : entry = {
        requestFingerprint := upsert.fingerprint
        outcome := .unchanged
        targetVersion := before.targetVersion
        recordVersion := existing.recordVersion
        status := 200 }) :
      TargetStep capacity sku upsert before (before.settle upsert.key entry)
  | applied
      (room : before.records.lookup sku = none →
        before.records.length < capacity)
      (registry : before.idempotency.length < maxIdempotencyEntries) :
      TargetStep capacity sku upsert before (before.effect sku upsert)

omit [JsonRuntime] in
theorem storeIdempotency_eq_ok {key : Text} {entry : IdempotencyEntry}
    (fresh : state.idempotency.lookup key = none)
    (stored : storeIdempotency key entry state = .ok after) :
    state.idempotency.length < maxIdempotencyEntries ∧
      after = { state with
        idempotency := alter key (fun _ => entry) state.idempotency } := by
  simp only [storeIdempotency, bind_eq_ok, require_eq_ok, fresh,
    Option.isSome_none, Bool.false_or, decide_eq_true_eq] at stored
  obtain ⟨_, room, form⟩ := stored
  cases form
  exact ⟨room, rfl⟩

theorem isUnchanged_stored {payload : List (Text × JsonValue)}
    {existing : Option StoredRecord}
    (unchanged : isUnchanged payload existing = .ok true) :
    ∃ record, existing = some record := by
  cases existing with
  | some record => exact ⟨record, rfl⟩
  | none =>
      simp only [isUnchanged, bind_eq_ok] at unchanged
      obtain ⟨_, _, impossible⟩ := unchanged
      cases impossible

/-- What serving a request without a receipt does to the state. -/
structure StateStep (behavior : WarehouseBehavior) (sku : Text)
    (upsert : UpsertRequest) (state after : WarehouseState) : Prop where
  target : TargetStep behavior.settings.capacity sku upsert state.target
    after.target
  applied : after.applied = state.applied
  current : after = state ∨ behavior.persist after = .ok after

theorem StateStep.rejected {upsert : UpsertRequest} :
    StateStep behavior sku upsert state state :=
  ⟨.rejected, rfl, .inl rfl⟩

section Settling

variable {failure : Option ScriptedFailure} {upsert : UpsertRequest}

theorem settleUnchanged_step {existing : StoredRecord}
    (stored : state.records.lookup sku = some existing)
    (fresh : state.idempotency.lookup upsert.key = none)
    (settled : settleUnchanged behavior failure upsert (some existing) state =
      .ok (after, response)) :
    StateStep behavior sku upsert state after := by
  simp only [settleUnchanged, bind_eq_ok] at settled
  obtain ⟨receipted, receipt, written, persisted, _, _, _, _, form⟩ := settled
  cases form
  obtain ⟨registry, rfl⟩ := storeIdempotency_eq_ok fresh receipt
  constructor
  · rw [persist_target persisted]
    exact .settled stored registry rfl
  · rw [persist_eq_ok persisted]
  · exact .inr (persist_current persisted)

theorem settleApplied_step
    (room : state.records.lookup sku = none →
      state.records.length < behavior.settings.capacity)
    (fresh : state.idempotency.lookup upsert.key = none)
    (settled : settleApplied behavior failure sku upsert
      (state.records.lookup sku) state = .ok (after, response)) :
    StateStep behavior sku upsert state after := by
  simp only [settleApplied, bind_eq_ok] at settled
  obtain ⟨receipted, receipt, written, persisted, _, _, _, _, form⟩ := settled
  cases form
  have unstored :
      (state.write sku upsert).idempotency.lookup upsert.key = none := fresh
  obtain ⟨registry, rfl⟩ := storeIdempotency_eq_ok unstored receipt
  constructor
  · rw [persist_target persisted]
    exact .applied room registry
  · rw [persist_eq_ok persisted]
    rfl
  · exact .inr (persist_current persisted)

theorem settleUpsert_step
    (fresh : state.idempotency.lookup upsert.key = none)
    (settled : settleUpsert behavior failure sku upsert state =
      .ok (after, response)) :
    StateStep behavior sku upsert state after := by
  simp only [settleUpsert] at settled
  split at settled
  next =>
    simp only [bind_eq_ok] at settled
    obtain ⟨_, _, form⟩ := settled
    cases form
    exact .rejected
  next room =>
    simp only [bind_eq_ok] at settled
    obtain ⟨holds, _, settled⟩ := settled
    split at settled
    next =>
      simp only [bind_eq_ok] at settled
      obtain ⟨_, _, form⟩ := settled
      cases form
      exact .rejected
    next =>
      simp only [bind_eq_ok] at settled
      obtain ⟨unchanged, compared, settled⟩ := settled
      split at settled
      next same =>
        rw [same] at compared
        obtain ⟨record, stored⟩ := isUnchanged_stored compared
        rw [stored] at settled
        exact settleUnchanged_step stored fresh settled
      next =>
        refine settleApplied_step ?_ fresh settled
        intro absent
        simp only [absent, Option.isNone_none, Bool.true_and,
          decide_eq_true_eq, not_le] at room
        exact room

end Settling

/-- The requests that no receipt answers. -/
theorem readAndServe_cases {failure : Option ScriptedFailure}
    (served : readAndServe behavior failure sku request state =
      .ok (after, response)) :
    (readUpsert sku request = .ok (.inl response) ∧ after = state) ∨
      ∃ upsert, readUpsert sku request = .ok (.inr upsert) ∧
        serveUpsert behavior failure sku upsert state =
          .ok (after, response) := by
  simp only [readAndServe, bind_eq_ok] at served
  obtain ⟨read, returned, served⟩ := served
  cases read with
  | inl rejection =>
      cases served
      exact .inl ⟨returned, rfl⟩
  | inr upsert => exact .inr ⟨upsert, returned, served⟩

/-- The answer to a request whose key has a receipt. -/
theorem serveUpsert_stored {failure : Option ScriptedFailure}
    {upsert : UpsertRequest} {stored : IdempotencyEntry}
    (found : state.idempotency.lookup upsert.key = some stored)
    (served : serveUpsert behavior failure sku upsert state =
      .ok (after, response)) :
    after = state ∧
      (stored.requestFingerprint = upsert.fingerprint →
        ∃ replay, replayResponse stored = .ok replay ∧
          postCommitTransportFailure failure replay = .ok response) ∧
      (stored.requestFingerprint ≠ upsert.fingerprint →
        errorResponse 409 "idempotency_conflict"
          "The idempotency key was reused with a different request." =
            .ok response) := by
  simp only [serveUpsert, found] at served
  split at served
  next different =>
    simp only [bind_eq_ok] at served
    obtain ⟨conflict, answered, form⟩ := served
    cases form
    exact ⟨rfl, fun same => absurd same different, fun _ => answered⟩
  next same =>
    simp only [bind_eq_ok] at served
    obtain ⟨replay, replayed, delivered, answered, form⟩ := served
    cases form
    exact ⟨rfl, fun _ => ⟨replay, replayed, answered⟩,
      fun different => absurd different same⟩

/-- Every step is that of an entered request, or a well-formed one's. -/
theorem handleUpsert_step
    (handled : handleUpsert behavior sku request state =
      .ok (after, response)) :
    ∃ entered, Entered behavior state entered ∧
      (after = entered ∨
        ∃ upsert, readUpsert sku request = .ok (.inr upsert) ∧
          state.idempotency.lookup upsert.key = none ∧
          StateStep behavior sku upsert entered after) := by
  obtain ⟨entered, enters, ⟨rfl, _⟩ | ⟨_, served⟩⟩ :=
    handleUpsert_enters handled
  · exact ⟨after, enters, .inl rfl⟩
  refine ⟨entered, enters, ?_⟩
  rcases readAndServe_cases served with ⟨_, rfl⟩ | ⟨upsert, read, served⟩
  · exact .inl rfl
  have receipts : entered.idempotency = state.idempotency :=
    congrArg TargetState.idempotency enters.target
  cases found : state.idempotency.lookup upsert.key with
  | some stored =>
      rw [← receipts] at found
      exact .inl (serveUpsert_stored found served).1
  | none =>
      refine .inr ⟨upsert, read, found, ?_⟩
      rw [← receipts] at found
      simp only [serveUpsert, found] at served
      exact settleUpsert_step found served

/-- Every step of the target is a well-formed request's. -/
theorem handleUpsert_target
    (handled : handleUpsert behavior sku request state =
      .ok (after, response)) :
    after.target = state.target ∨
      ∃ upsert, readUpsert sku request = .ok (.inr upsert) ∧
        state.idempotency.lookup upsert.key = none ∧
        TargetStep behavior.settings.capacity sku upsert state.target
          after.target := by
  obtain ⟨entered, enters, rfl | ⟨upsert, read, fresh, step⟩⟩ :=
    handleUpsert_step handled
  · exact .inl enters.target
  · rw [← enters.target]
    exact .inr ⟨upsert, read, fresh, step.target⟩

/-- After a request the file holds the document of the state. -/
theorem handleUpsert_current
    (handled : handleUpsert behavior sku request state =
      .ok (after, response)) :
    behavior.persist after = .ok after := by
  obtain ⟨entered, enters, rfl | ⟨_, _, _, step⟩⟩ :=
    handleUpsert_step handled
  · exact enters.current
  · rcases step.current with rfl | current
    · exact enters.current
    · exact current

/-! ## Runs -/

/-- The receipt of the key that a request carries. -/
def TargetState.receipt (target : TargetState) (request : HttpRequest) :
    Option IdempotencyEntry :=
  (request.header "idempotency-key").bind fun key =>
    target.idempotency.lookup key

/--
A state, and the requests that stored its receipts, in the order in which they
were handled.
-/
structure WarehouseRun where
  state : WarehouseState
  receipted : List (Text × HttpRequest)

/-- The run after one more request. -/
def WarehouseRun.extend (run : WarehouseRun) (sku : Text)
    (request : HttpRequest) (after : WarehouseState) : WarehouseRun where
  state := after
  receipted :=
    if (run.state.target.receipt request).isNone &&
        (after.target.receipt request).isSome then
      run.receipted ++ [(sku, request)]
    else run.receipted

/-- Upserts that do not raise, from the state of a new behavior. -/
def effectSystem (behavior : WarehouseBehavior) :
    TransitionSystem WarehouseRun HttpRequest where
  Initial run := run = ⟨.fresh, []⟩
  Step run request next :=
    ∃ sku after response, upsertSku request = some sku ∧
      handleUpsert behavior sku request run.state = .ok (after, response) ∧
      next = run.extend sku request after

/-- The receipt of the request says that it was applied. -/
def TargetState.isApplied (target : TargetState) (request : HttpRequest) :
    Bool :=
  (target.receipt request).any fun entry => entry.outcome == .applied

/-- How many requests had an effect on the record of a SKU. -/
def WarehouseRun.effectsOn (run : WarehouseRun) (sku : Text) : Nat :=
  run.receipted.countP fun served =>
    served.1 == sku && run.state.target.isApplied served.2

/-- `external_effect_counts().get(key, 0)`. -/
def TargetState.commits (target : TargetState) (key : Text) : Nat :=
  (target.effectCommits.lookup key).getD 0

/-- The receipt of a key says that its request was applied. -/
def TargetState.AppliedKey (target : TargetState) (key : Text) : Prop :=
  ∃ entry, target.idempotency.lookup key = some entry ∧
    entry.outcome = .applied

instance (target : TargetState) (key : Text) :
    Decidable (target.AppliedKey key) :=
  decidable_of_iff ((target.idempotency.lookup key).any fun entry =>
      entry.outcome == .applied) (by
    simp [TargetState.AppliedKey, Option.any_eq_true])

/-- Versions, receipts and commits are in step. -/
structure EffectInvariant (run : WarehouseRun) : Prop where
  versions : run.state.target.targetVersion =
    (run.state.target.effectCommits.map Prod.snd).sum
  commits : ∀ key, run.state.target.commits key =
    if run.state.target.AppliedKey key then 1 else 0
  recorded : ∀ sku,
    run.state.target.recordVersion sku = run.effectsOn sku
  origins : ∀ key stored, run.state.target.idempotency.lookup key =
      some stored →
    ∃ served ∈ run.receipted,
      served.2.header "idempotency-key" = some key
  receipted : ∀ served ∈ run.receipted, ∃ upsert stored,
    readUpsert served.1 served.2 = .ok (.inr upsert) ∧
      run.state.target.idempotency.lookup upsert.key = some stored ∧
      stored.requestFingerprint = upsert.fingerprint

/-- An upsert carries what was read of its request. -/
theorem readUpsert_eq_ok {upsert : UpsertRequest}
    (read : readUpsert sku request = .ok (.inr upsert)) :
    request.header "idempotency-key" = some upsert.key ∧
      isIdempotencyKey upsert.key ∧
      readBody request.body = .ok (some (.object upsert.payload)) ∧
      requestFingerprint request.method request.path request.body
        upsert.precondition = .ok upsert.fingerprint := by
  simp only [readUpsert, readUpsert.rejectKey] at read
  split at read
  next =>
    obtain ⟨_, _, impossible⟩ := fmap_eq_ok.mp read
    cases impossible
  next key found =>
    split at read
    next =>
      obtain ⟨_, _, impossible⟩ := fmap_eq_ok.mp read
      cases impossible
    next canonical =>
      simp only [bind_eq_ok] at read
      obtain ⟨value, bodyRead, read⟩ := read
      split at read
      next =>
        split at read
        next =>
          simp only [bind_eq_ok] at read
          obtain ⟨_, hashed, form⟩ := read
          cases form
          exact ⟨found, by simpa using canonical, bodyRead, hashed⟩
        next =>
          obtain ⟨_, _, impossible⟩ := fmap_eq_ok.mp read
          cases impossible
      next =>
        obtain ⟨_, _, impossible⟩ := fmap_eq_ok.mp read
        cases impossible

theorem readUpsert_key {upsert : UpsertRequest}
    (read : readUpsert sku request = .ok (.inr upsert)) :
    request.header "idempotency-key" = some upsert.key :=
  (readUpsert_eq_ok read).1

theorem readUpsert_receipt {upsert : UpsertRequest} (target : TargetState)
    (read : readUpsert sku request = .ok (.inr upsert)) :
    target.receipt request = target.idempotency.lookup upsert.key := by
  simp only [TargetState.receipt, readUpsert_key read, Option.bind_some]

/-- A run in which a request changes nothing stays as it is. -/
theorem EffectInvariant.unchanged {run : WarehouseRun}
    (invariant : EffectInvariant run)
    (same : after.target = run.state.target) :
    EffectInvariant (run.extend sku request after) := by
  have requests : (run.extend sku request after).receipted =
      run.receipted := by
    simp only [WarehouseRun.extend, same]
    cases run.state.target.receipt request <;> rfl
  have target : (run.extend sku request after).state.target =
      run.state.target := same
  constructor
  · rw [target]
    exact invariant.versions
  · rw [target]
    exact invariant.commits
  · simp only [WarehouseRun.effectsOn, target, requests]
    exact invariant.recorded
  · rw [target, requests]
    exact invariant.origins
  · rw [target, requests]
    exact invariant.receipted

/-- The request stores the receipt of a key that had none. -/
structure Receipted (before : TargetState) (upsert : UpsertRequest)
    (entry : IdempotencyEntry) (target : TargetState) : Prop where
  fresh : before.idempotency.lookup upsert.key = none
  stored : target.idempotency =
    alter upsert.key (fun _ => entry) before.idempotency
  fingerprint : entry.requestFingerprint = upsert.fingerprint

section Receipted

variable {run : WarehouseRun} {upsert : UpsertRequest}
  {entry : IdempotencyEntry}

section

omit [JsonRuntime]

theorem Receipted.lookup_self {before target : TargetState}
    (receipted : Receipted before upsert entry target) :
    target.idempotency.lookup upsert.key = some entry := by
  rw [receipted.stored, lookup_alter_self]

theorem Receipted.lookup_ne {before target : TargetState} {key : Text}
    (receipted : Receipted before upsert entry target)
    (different : key ≠ upsert.key) :
    target.idempotency.lookup key = before.idempotency.lookup key := by
  rw [receipted.stored, lookup_alter_ne different]

theorem Receipted.appliedKey {before target : TargetState}
    (receipted : Receipted before upsert entry target) (key : Text) :
    target.AppliedKey key ↔
      if key = upsert.key then entry.outcome = .applied
      else before.AppliedKey key := by
  split
  next same =>
    rw [same, TargetState.AppliedKey, receipted.lookup_self]
    simp
  next different =>
    rw [TargetState.AppliedKey, receipted.lookup_ne different]
    rfl

theorem Receipted.not_appliedKey {before target : TargetState}
    (receipted : Receipted before upsert entry target) :
    ¬ before.AppliedKey upsert.key := by
  rintro ⟨stored, found, _⟩
  rw [receipted.fresh] at found
  cases found

end

section

variable (receipted : Receipted run.state.target upsert entry after.target)

include receipted

/-- The request joins those that stored a receipt. -/
theorem Receipted.extend
    (read : readUpsert sku request = .ok (.inr upsert)) :
    (run.extend sku request after).receipted =
      run.receipted ++ [(sku, request)] := by
  simp only [WarehouseRun.extend, readUpsert_receipt _ read,
    receipted.fresh, receipted.lookup_self, Option.isNone_none,
    Option.isSome_some, Bool.and_true, if_true]

/-- Receipts of earlier requests stay what they were. -/
theorem Receipted.receipt_earlier
    (invariant : EffectInvariant run) {served : Text × HttpRequest}
    (member : served ∈ run.receipted) :
    after.target.receipt served.2 = run.state.target.receipt served.2 := by
  obtain ⟨earlier, stored, read, found, _⟩ :=
    invariant.receipted served member
  rw [readUpsert_receipt _ read, readUpsert_receipt _ read]
  refine receipted.lookup_ne fun same => ?_
  rw [same, receipted.fresh] at found
  cases found

theorem Receipted.effectsOn
    (invariant : EffectInvariant run)
    (read : readUpsert sku request = .ok (.inr upsert)) (other : Text) :
    (run.extend sku request after).effectsOn other =
      run.effectsOn other +
        if sku = other ∧ entry.outcome = .applied then 1 else 0 := by
  have own : after.target.isApplied request =
      (entry.outcome == .applied) := by
    rw [TargetState.isApplied, readUpsert_receipt _ read,
      receipted.lookup_self]
    rfl
  have earlier : run.receipted.countP (fun served =>
      served.1 == other && after.target.isApplied served.2) =
      run.effectsOn other := by
    refine List.countP_congr fun served member => ?_
    simp only [TargetState.isApplied,
      receipted.receipt_earlier invariant member]
  rw [WarehouseRun.effectsOn, receipted.extend read, List.countP_append,
    List.countP_singleton]
  show run.receipted.countP (fun served =>
      served.1 == other && after.target.isApplied served.2) + _ = _
  rw [earlier]
  show _ + (if (sku == other && after.target.isApplied request) then 1
    else 0) = _
  rw [own]
  simp only [Bool.and_eq_true, beq_iff_eq]

/-- Every receipt is still that of a request. -/
theorem Receipted.origins_keep
    (invariant : EffectInvariant run)
    (read : readUpsert sku request = .ok (.inr upsert)) {key : Text}
    {stored : IdempotencyEntry}
    (found : after.target.idempotency.lookup key = some stored) :
    ∃ served ∈ (run.extend sku request after).receipted,
      served.2.header "idempotency-key" = some key := by
  rw [receipted.extend read]
  by_cases own : key = upsert.key
  · refine ⟨(sku, request), List.mem_append_right _ List.mem_cons_self, ?_⟩
    rw [own]
    exact readUpsert_key read
  · rw [receipted.lookup_ne own] at found
    obtain ⟨served, member, header⟩ := invariant.origins key stored found
    exact ⟨served, List.mem_append_left _ member, header⟩

/-- The requests that stored receipts are kept with their receipts. -/
theorem Receipted.receipted_keeps
    (invariant : EffectInvariant run)
    (read : readUpsert sku request = .ok (.inr upsert))
    {served : Text × HttpRequest}
    (member : served ∈ (run.extend sku request after).receipted) :
    ∃ upsert stored, readUpsert served.1 served.2 = .ok (.inr upsert) ∧
      after.target.idempotency.lookup upsert.key = some stored ∧
      stored.requestFingerprint = upsert.fingerprint := by
  rw [receipted.extend read] at member
  rcases List.mem_append.mp member with earlier | own
  · obtain ⟨before, stored, readBefore, found, same⟩ :=
      invariant.receipted served earlier
    refine ⟨before, stored, readBefore, ?_, same⟩
    rw [← readUpsert_receipt _ readBefore,
      receipted.receipt_earlier invariant earlier,
      readUpsert_receipt _ readBefore]
    exact found
  · rw [List.mem_singleton.mp own]
    exact ⟨upsert, entry, read, receipted.lookup_self,
      receipted.fingerprint⟩

end

/-- A receipt that says that nothing changed. -/
theorem EffectInvariant.settled (invariant : EffectInvariant run)
    (read : readUpsert sku request = .ok (.inr upsert))
    (fresh : run.state.target.idempotency.lookup upsert.key = none)
    (fingerprint : entry.requestFingerprint = upsert.fingerprint)
    (outcome : entry.outcome = .unchanged)
    (target : after.target = run.state.target.settle upsert.key entry) :
    EffectInvariant (run.extend sku request after) := by
  have receipted : Receipted run.state.target upsert entry after.target :=
    ⟨fresh, by rw [target]; rfl, fingerprint⟩
  have idle : ¬ entry.outcome = .applied := by
    rw [outcome]
    decide
  constructor
  · show after.target.targetVersion =
      (after.target.effectCommits.map Prod.snd).sum
    rw [target]
    exact invariant.versions
  · intro key
    have counts : after.target.commits key =
        run.state.target.commits key := by
      rw [target]
      rfl
    show after.target.commits key = _
    rw [counts, invariant.commits key]
    congr 1
    rw [eq_iff_iff, WarehouseRun.extend, receipted.appliedKey]
    split
    next same =>
      rw [same]
      exact iff_of_false receipted.not_appliedKey idle
    next => exact Iff.rfl
  · intro other
    rw [receipted.effectsOn invariant read other,
      if_neg fun both => idle both.2, Nat.add_zero,
      ← invariant.recorded other]
    show after.target.recordVersion other = _
    rw [target]
    rfl
  · exact fun key stored found =>
      receipted.origins_keep invariant read found
  · exact fun served member =>
      receipted.receipted_keeps invariant read member

/-- One effect, with the receipt that says so. -/
theorem EffectInvariant.applied (invariant : EffectInvariant run)
    (read : readUpsert sku request = .ok (.inr upsert))
    (fresh : run.state.target.idempotency.lookup upsert.key = none)
    (target : after.target = run.state.target.effect sku upsert) :
    EffectInvariant (run.extend sku request after) := by
  obtain ⟨entry, outcome, fingerprint, stored⟩ : ∃ entry : IdempotencyEntry,
      entry.outcome = .applied ∧
        entry.requestFingerprint = upsert.fingerprint ∧
        after.target.idempotency = alter upsert.key (fun _ => entry)
          run.state.target.idempotency := by
    rw [target]
    exact ⟨_, rfl, rfl, rfl⟩
  have receipted : Receipted run.state.target upsert entry after.target :=
    ⟨fresh, stored, fingerprint⟩
  constructor
  · show after.target.targetVersion =
      (after.target.effectCommits.map Prod.snd).sum
    rw [target]
    show run.state.target.targetVersion + 1 =
      ((countKey run.state.target.effectCommits upsert.key).map Prod.snd).sum
    rw [sum_countKey, invariant.versions]
  · intro key
    have before := invariant.commits key
    have counts : after.target.commits key =
        ((countKey run.state.target.effectCommits upsert.key).lookup
          key).getD 0 := by
      rw [target]
      rfl
    show after.target.commits key =
      if after.target.AppliedKey key then 1 else 0
    have appliedNow := receipted.appliedKey key
    rw [counts, countKey]
    by_cases same : key = upsert.key
    · rw [if_pos same] at appliedNow
      rw [same, if_neg receipted.not_appliedKey,
        TargetState.commits] at before
      rw [if_pos (appliedNow.mpr outcome), same, lookup_alter_self,
        Option.getD_some, before]
    · rw [if_neg same] at appliedNow
      rw [lookup_alter_ne same, if_congr appliedNow rfl rfl]
      exact before
  · intro other
    rw [receipted.effectsOn invariant read other, ← invariant.recorded other]
    show after.target.recordVersion other = _
    simp only [TargetState.recordVersion, target, TargetState.effect]
    by_cases same : sku = other
    · rw [if_pos ⟨same, outcome⟩, ← same, lookup_alter_self]
      rfl
    · rw [if_neg fun both => same both.1, lookup_alter_ne (Ne.symm same)]
      rfl
  · exact fun key stored found =>
      receipted.origins_keep invariant read found
  · exact fun served member =>
      receipted.receipted_keeps invariant read member

end Receipted

/-- Every request keeps versions, receipts and commits in step. -/
theorem EffectInvariant.step {run : WarehouseRun}
    (invariant : EffectInvariant run)
    (handled : handleUpsert behavior sku request run.state =
      .ok (after, response)) :
    EffectInvariant (run.extend sku request after) := by
  rcases handleUpsert_target handled with same | ⟨upsert, read, fresh, step⟩
  · exact invariant.unchanged same
  · generalize final : after.target = target at step
    cases step with
    | rejected => exact invariant.unchanged final
    | settled stored registry form =>
        exact invariant.settled read fresh (by rw [form]) (by rw [form]) final
    | applied room registry => exact invariant.applied read fresh final

theorem EffectInvariant.fresh : EffectInvariant ⟨.fresh, []⟩ := by
  have unstored (key : Text) :
      ¬ WarehouseState.fresh.target.AppliedKey key := by
    rintro ⟨_, impossible, _⟩
    cases impossible
  constructor
  · rfl
  · intro key
    rw [if_neg (unstored key)]
    rfl
  · intro sku
    rfl
  · intro key stored impossible
    cases impossible
  · intro served member
    cases member

theorem reachable_effects {run : WarehouseRun}
    (reached : (effectSystem behavior).Reachable run) :
    EffectInvariant run := by
  refine reached.invariant ?_ ?_
  · intro run starts
    rw [starts]
    exact .fresh
  · intro run request next _ invariant moves
    obtain ⟨sku, after, response, _, handled, rfl⟩ := moves
    exact invariant.step handled

/-! ## Exactly-once effects -/

/-- The response is the stored outcome, marked as replayed. -/
def WarehouseBehavior.Replays (behavior : WarehouseBehavior)
    (state : WarehouseState) (stored : IdempotencyEntry)
    (response : PlannedResponse) : Prop :=
  ∃ replay, replayResponse stored = .ok replay ∧
    postCommitTransportFailure (behavior.nextFailure state) replay =
      .ok response

/-- The response is the conflict of a reused key. -/
def IsConflict (response : PlannedResponse) : Prop :=
  errorResponse 409 "idempotency_conflict"
    "The idempotency key was reused with a different request." = .ok response

/-- What every run of upserts guarantees. -/
structure ExactlyOnce (behavior : WarehouseBehavior) (run : WarehouseRun) :
    Prop where
  versions : run.state.targetVersion =
    (run.state.effectCommits.map Prod.snd).sum
  once : ∀ key, run.state.target.commits key ≤ 1
  committed : ∀ key, run.state.target.commits key = 1 ↔
    run.state.target.AppliedKey key
  recorded : ∀ sku,
    run.state.target.recordVersion sku = run.effectsOn sku
  /-- Every receipt is that of a request of the run. -/
  origins : ∀ key stored, run.state.idempotency.lookup key = some stored →
    ∃ served ∈ run.receipted, served.2.header "idempotency-key" = some key
  /-- A request whose key has a receipt changes nothing. -/
  unmoved : ∀ sku request stored after response,
    run.state.target.receipt request = some stored →
    handleUpsert behavior sku request run.state = .ok (after, response) →
      after.target = run.state.target
  /-- The request that stored a receipt is answered by it when repeated. -/
  repeated : ∀ served ∈ run.receipted, ∀ after response,
    handleUpsert behavior served.1 served.2 run.state =
      .ok (after, response) →
    ∃ stored, run.state.target.receipt served.2 = some stored ∧
      (behavior.Preempts run.state response ∨
        behavior.Reads run.state ∧
          behavior.Replays run.state stored response)
  /-- A well-formed request with another fingerprint is a conflict. -/
  different : ∀ sku request upsert stored after response,
    readUpsert sku request = .ok (.inr upsert) →
    run.state.target.receipt request = some stored →
    stored.requestFingerprint ≠ upsert.fingerprint →
    handleUpsert behavior sku request run.state = .ok (after, response) →
      behavior.Preempts run.state response ∨
        behavior.Reads run.state ∧ IsConflict response

/-- The answer to a well-formed request whose key has a receipt. -/
theorem handleUpsert_stored {upsert : UpsertRequest}
    {stored : IdempotencyEntry}
    (read : readUpsert sku request = .ok (.inr upsert))
    (found : state.target.receipt request = some stored)
    (handled : handleUpsert behavior sku request state =
      .ok (after, response)) :
    behavior.Preempts state response ∨
      behavior.Reads state ∧
        (stored.requestFingerprint = upsert.fingerprint →
          behavior.Replays state stored response) ∧
        (stored.requestFingerprint ≠ upsert.fingerprint →
          IsConflict response) := by
  rw [readUpsert_receipt _ read] at found
  obtain ⟨entered, enters, ⟨_, preempts⟩ | ⟨reads, served⟩⟩ :=
    handleUpsert_enters handled
  · exact .inl preempts
  right
  have receipts : entered.idempotency = state.idempotency :=
    congrArg TargetState.idempotency enters.target
  have foundThere : entered.idempotency.lookup upsert.key = some stored := by
    rw [receipts]
    exact found
  rcases readAndServe_cases served with ⟨rejected, _⟩ | ⟨again, same, served⟩
  · rw [read] at rejected
    cases rejected
  · rw [read] at same
    cases same
    exact ⟨reads, (serveUpsert_stored foundThere served).2⟩

theorem handleUpsert_unmoved {stored : IdempotencyEntry}
    (found : state.target.receipt request = some stored)
    (handled : handleUpsert behavior sku request state =
      .ok (after, response)) :
    after.target = state.target := by
  rcases handleUpsert_target handled with same | ⟨upsert, read, fresh, _⟩
  · exact same
  · rw [readUpsert_receipt _ read] at found
    exact absurd (found.symm.trans fresh) (by simp)

/-- Upserts have exactly-once effects, whatever failures are scripted. -/
theorem effects_exactlyOnce {run : WarehouseRun}
    (reached : (effectSystem behavior).Reachable run) :
    ExactlyOnce behavior run := by
  have invariant := reachable_effects reached
  constructor
  · exact invariant.versions
  · intro key
    rw [invariant.commits key]
    split <;> omega
  · intro key
    rw [invariant.commits key]
    split
    next holds => exact iff_of_true rfl holds
    next fails => exact iff_of_false (by omega) fails
  · exact invariant.recorded
  · exact invariant.origins
  · exact fun sku request stored after response found handled =>
      handleUpsert_unmoved found handled
  · intro served member after response handled
    obtain ⟨upsert, stored, read, found, fingerprint⟩ :=
      invariant.receipted served member
    rw [← readUpsert_receipt _ read] at found
    refine ⟨stored, found, ?_⟩
    rcases handleUpsert_stored read found handled with
      preempts | ⟨reads, replays, _⟩
    · exact .inl preempts
    · exact .inr ⟨reads, replays fingerprint⟩
  · intro sku request upsert stored after response read found apart handled
    rcases handleUpsert_stored read found handled with
      preempts | ⟨reads, _, conflict⟩
    · exact .inl preempts
    · exact .inr ⟨reads, conflict apart⟩

end Effects

section Sample

attribute [local instance] asciiJsonRuntime

def sampleSku : Text := text "SKU-1"

/-- An upsert of a record, with a key and possibly a precondition. -/
def sampleRequest (body : String) (condition : Option String) :
    HttpRequest where
  method := text "PUT"
  path := text "/v1/records/SKU-1"
  headers := (text "idempotency-key", text "key-1") ::
    (condition.map fun value =>
      (text "x-paritygrid-target-precondition", text value)).toList
  body := encodeAscii (text body)

def sampleBody : String :=
  "\x7b\"sku\":\"SKU-1\"\x7d"

def rateLimitFailure : ScriptedFailure where
  sequence := 2
  kind := .rateLimit
  retryAfterSeconds := some 1
  delayMicroseconds := none
  partialBytes := none
  valid := by decide

/-- A warehouse in memory, with a rate limit for the second request. -/
def limitedBehavior : WarehouseBehavior where
  script := ⟨[rateLimitFailure], List.pairwise_singleton _ _, by decide⟩
  settings := ⟨10000, by decide⟩
  durable := false
  transport := by decide

/-- A warehouse in memory, without scripted failures. -/
def plainBehavior : WarehouseBehavior where
  script := .empty
  settings := ⟨10000, by decide⟩
  durable := false
  transport := rfl

/-- The status of the answer to one more request. -/
def answeredStatus (behavior : WarehouseBehavior) (request : HttpRequest)
    (state : WarehouseState) : Option Nat :=
  (handleUpsert behavior sampleSku request state).toOption.map
    fun answer => answer.2.status

/-- The run of one request that is computed to store a receipt. -/
theorem sample_reachable (behavior : WarehouseBehavior)
    (check : WarehouseState → Bool)
    (stores : (handleUpsert behavior sampleSku (sampleRequest sampleBody none)
      .fresh).toOption.any (fun answer => check answer.1 &&
        (answer.1.target.receipt (sampleRequest sampleBody none)).isSome)) :
    ∃ run, (effectSystem behavior).Reachable run ∧ check run.state ∧
      run.receipted = [(sampleSku, sampleRequest sampleBody none)] := by
  obtain ⟨⟨after, response⟩, answered, holds⟩ := 
    (Option.any_eq_true _ _).mp stores
  rw [Bool.and_eq_true] at holds
  have handled := toOption_eq_some.mp answered
  refine ⟨WarehouseRun.extend ⟨.fresh, []⟩ sampleSku
    (sampleRequest sampleBody none) after, ?_, holds.1, ?_⟩
  · exact .step (.initial rfl)
      ⟨sampleSku, after, response, by decide, handled, rfl⟩
  · simp only [WarehouseRun.extend, holds.2, Bool.and_true]
    rfl

theorem effects_exactlyOnce_sample :
    ∃ run, (effectSystem limitedBehavior).Reachable run ∧
      run.receipted = [(sampleSku, sampleRequest sampleBody none)] ∧
      ExactlyOnce limitedBehavior run := by
  obtain ⟨run, reached, _, receipted⟩ :=
    sample_reachable limitedBehavior (fun _ => true) (by decide +kernel)
  exact ⟨run, reached, receipted, effects_exactlyOnce reached⟩

theorem answeredStatus_eq_some {behavior : WarehouseBehavior}
    {request : HttpRequest} {state : WarehouseState} {status : Nat}
    (answered : answeredStatus behavior request state = some status) :
    ∃ after response,
      handleUpsert behavior sampleSku request state = .ok (after, response) ∧
        response.status = status := by
  obtain ⟨answer, handled, same⟩ := Option.map_eq_some_iff.mp answered
  exact ⟨answer.1, answer.2, toOption_eq_some.mp handled, same⟩

/--
A repeated request can meet a rate limit instead of its receipt, a malformed
request under a stored key is not a conflict, and neither is one that differs
by an empty precondition.
-/
theorem repeats_diverge :
    (¬ ∀ (behavior : WarehouseBehavior) (run : WarehouseRun),
      (effectSystem behavior).Reachable run →
      ∀ served ∈ run.receipted, ∀ stored after response,
        run.state.target.receipt served.2 = some stored →
        handleUpsert behavior served.1 served.2 run.state =
          .ok (after, response) →
        response.status = stored.status) ∧
    (¬ ∀ (behavior : WarehouseBehavior) (run : WarehouseRun),
      (effectSystem behavior).Reachable run →
      ∀ sku request after response, upsertSku request = some sku →
        (run.state.target.receipt request).isSome →
        (sku, request) ∉ run.receipted →
        handleUpsert behavior sku request run.state = .ok (after, response) →
        response.status = 409) ∧
    (¬ ∀ (behavior : WarehouseBehavior) (run : WarehouseRun),
      (effectSystem behavior).Reachable run →
      ∀ sku request upsert after response, upsertSku request = some sku →
        readUpsert sku request = .ok (.inr upsert) →
        (run.state.target.receipt request).isSome →
        (sku, request) ∉ run.receipted →
        handleUpsert behavior sku request run.state = .ok (after, response) →
        response.status = 409) := by
  refine ⟨fun always => ?_, fun always => ?_, fun always => ?_⟩
  · obtain ⟨run, reached, checked, receipted⟩ :=
      sample_reachable limitedBehavior (fun state =>
        (state.target.receipt (sampleRequest sampleBody none)).any
            (fun stored => stored.status == 200) &&
          answeredStatus limitedBehavior (sampleRequest sampleBody none)
            state == some 429) (by decide +kernel)
    rw [Bool.and_eq_true, beq_iff_eq, Option.any_eq_true] at checked
    obtain ⟨⟨stored, found, ok⟩, answered⟩ := checked
    obtain ⟨after, response, handled, status⟩ :=
      answeredStatus_eq_some answered
    have member : (sampleSku, sampleRequest sampleBody none) ∈
        run.receipted := by
      rw [receipted]
      exact List.mem_cons_self
    have same := always limitedBehavior run reached _ member stored after
      response found handled
    rw [status, beq_iff_eq.mp ok] at same
    exact absurd same (by decide)
  · obtain ⟨run, reached, checked, receipted⟩ :=
      sample_reachable plainBehavior (fun state =>
        (state.target.receipt (sampleRequest "" none)).isSome &&
          answeredStatus plainBehavior (sampleRequest "" none) state ==
            some 400) (by decide +kernel)
    rw [Bool.and_eq_true, beq_iff_eq] at checked
    obtain ⟨after, response, handled, status⟩ :=
      answeredStatus_eq_some checked.2
    have conflict := always plainBehavior run reached sampleSku
      (sampleRequest "" none) after response (by decide) checked.1
      (by rw [receipted]; decide) handled
    rw [status] at conflict
    exact absurd conflict (by decide)
  · obtain ⟨run, reached, checked, receipted⟩ :=
      sample_reachable plainBehavior (fun state =>
        (state.target.receipt (sampleRequest sampleBody (some ""))).isSome &&
          answeredStatus plainBehavior (sampleRequest sampleBody (some ""))
            state == some 200) (by decide +kernel)
    rw [Bool.and_eq_true, beq_iff_eq] at checked
    obtain ⟨after, response, handled, status⟩ :=
      answeredStatus_eq_some checked.2
    obtain ⟨upsert, read⟩ : ∃ upsert, readUpsert sampleSku
        (sampleRequest sampleBody (some "")) = .ok (.inr upsert) := by
      have reads : (readUpsert sampleSku
          (sampleRequest sampleBody (some ""))).toOption.any
            Sum.isRight := by decide +kernel
      obtain ⟨read, returned, right⟩ := (Option.any_eq_true _ _).mp reads
      obtain ⟨upsert, form⟩ := Sum.isRight_iff.mp right
      exact ⟨upsert, by rw [toOption_eq_some.mp returned, form]⟩
    have conflict := always plainBehavior run reached sampleSku
      (sampleRequest sampleBody (some "")) upsert after response (by decide)
      read checked.1 (by rw [receipted]; decide) handled
    rw [status] at conflict
    exact absurd conflict (by decide)

end Sample

end ParityGrid.Demo
