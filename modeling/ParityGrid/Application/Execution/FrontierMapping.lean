import ParityGrid.Application.Execution.SchedulerRuns
import ParityGrid.Application.Execution.PlainValues

/-!
# Frontiers as plain mappings

A frontier is saved as a dictionary of texts, integers and lists, and read back
by decoders that check every value again.  Each decoder accepts exactly what
the encoder writes for a value within its own bounds; together they accept
exactly the encodings of the frontiers whose waits they can represent.
-/

namespace ParityGrid.Application

open ParityGrid.Foundation

/-- `_FRONTIER_MAPPING_KEYS`. -/
def frontierMappingKeys : List Text :=
  ["control_generation", "control_state", "edges", "lease_fences",
    "node_order", "plan_fingerprint", "recovery_required_reason",
    "retry_waits", "run_id", "version", "work_states"].map text

/-! ## Encoding -/

/-- The texts of an identity, followed by what a row says of it. -/
def WorkIdentity.row (identity : WorkIdentity) (rest : List PlainValue) :
    PlainValue :=
  .list (.text identity.runId :: .text identity.nodeId ::
    .text identity.partitionKey :: rest)

def edgeRow (edge : Text × Text) : PlainValue :=
  .list [.text edge.1, .text edge.2]

def workStateRow (entry : WorkIdentity × FrontierWorkState) : PlainValue :=
  entry.1.row [.text (text entry.2.value)]

def leaseFenceRow (entry : WorkIdentity × Int) : PlainValue :=
  entry.1.row [.int entry.2]

def FrontierRetryWait.row (wait : FrontierRetryWait) : PlainValue :=
  wait.identity.row [.int wait.eligibleAtMicros, .text wait.reason]

def reasonValue : Option Text → PlainValue
  | some reason => .text reason
  | none => .null

/-- `SchedulerFrontierV2.to_mapping`. -/
def FrontierFields.toMapping (fields : FrontierFields) :
    List (PlainKey × PlainValue) :=
  [(.text (text "version"), .int fields.version),
    (.text (text "plan_fingerprint"), .text fields.planFingerprint),
    (.text (text "control_generation"), .int fields.controlGeneration.value),
    (.text (text "run_id"), .text fields.runId),
    (.text (text "node_order"), .list (fields.nodeOrder.map .text)),
    (.text (text "edges"), .list (fields.edges.map edgeRow)),
    (.text (text "work_states"), .list (fields.workStates.map workStateRow)),
    (.text (text "lease_fences"),
      .list (fields.leaseFences.map leaseFenceRow)),
    (.text (text "retry_waits"),
      .list (fields.retryWaits.map FrontierRetryWait.row)),
    (.text (text "control_state"), .text (text fields.controlState.value)),
    (.text (text "recovery_required_reason"),
      reasonValue fields.recoveryRequiredReason)]

/-! ## Decoding -/

namespace PlainValue

def corrupt {α : Type} (message : String) : Except SchedulerError α :=
  .error (.frontierCorrupt message)

/-- `_require_frontier_text`, on any value. -/
def frontierText (value : PlainValue) (subject : String)
    (maximum : Nat := maxFrontierIdentityLength) :
    Except SchedulerError Text :=
  match value with
  | .text contents => do
      requireFrontierText contents subject maximum
      return contents
  | _ => corrupt (subject ++ " must be text")

/-- The rows of a list, each decoded. -/
def rows {α : Type} (value : PlainValue) (subject : String)
    (row : PlainValue → Except SchedulerError α) :
    Except SchedulerError (List α) :=
  match value with
  | .list items => items.mapM row
  | _ => corrupt (subject ++ " must be a list")

/-- `_frontier_text_rows`. -/
def frontierTextRows (value : PlainValue) (subject : String) :
    Except SchedulerError (List Text) :=
  value.rows subject fun item => item.frontierText (subject ++ " entry")

/-- `_frontier_edge_rows`. -/
def frontierEdgeRows (value : PlainValue) (subject : String) :
    Except SchedulerError (List (Text × Text)) :=
  value.rows subject fun
    | .list [first, second] => do
        let source ← first.frontierText (subject ++ " source")
        let target ← second.frontierText (subject ++ " target")
        return (source, target)
    | _ => corrupt (subject ++ " entries must be source-target pairs")

/-- `_frontier_identity_from_row`. -/
def frontierIdentity (run node partition : PlainValue) (subject : String) :
    Except SchedulerError WorkIdentity := do
  let runId ← run.frontierText (subject ++ " run identity")
  let nodeId ← node.frontierText (subject ++ " node identity")
  let partitionKey ← partition.frontierText (subject ++ " partition key")
  WorkIdentity.create runId nodeId partitionKey

def frontierWorkState (value : PlainValue) (subject : String) :
    Except SchedulerError FrontierWorkState :=
  match value with
  | .text contents =>
      match FrontierWorkState.parse contents with
      | some state => .ok state
      | none => corrupt (subject ++ " work state is unknown")
  | _ => corrupt (subject ++ " work state must be text")

/-- `_frontier_work_state_rows`. -/
def frontierWorkStateRows (value : PlainValue) (subject : String) :
    Except SchedulerError (List (WorkIdentity × FrontierWorkState)) :=
  value.rows subject fun
    | .list [run, node, partition, rawState] => do
        let identity ← frontierIdentity run node partition subject
        let state ← rawState.frontierWorkState subject
        return (identity, state)
    | _ => corrupt (subject ++ " entries must be identity-state rows")

/-- An integer between two bounds. -/
def boundedInt (value : PlainValue) (minimum maximum : Int)
    (subject : String) : Except SchedulerError Int :=
  match value with
  | .int number => do
      require (minimum ≤ number && number ≤ maximum)
        (.frontierCorrupt (subject ++ " is outside the supported range"))
      return number
  | _ => corrupt (subject ++ " must be an integer")

/-- `_frontier_lease_fence_rows`. -/
def frontierLeaseFenceRows (value : PlainValue) (subject : String) :
    Except SchedulerError (List (WorkIdentity × Int)) :=
  value.rows subject fun
    | .list [run, node, partition, rawFence] => do
        let identity ← frontierIdentity run node partition subject
        let fence ← rawFence.boundedInt 1 maxFrontierLeaseFence
          (subject ++ " lease fence")
        return (identity, fence)
    | _ => corrupt (subject ++ " entries must be identity-fence rows")

/-- The reason of a retry wait, whose messages are its own. -/
def waitReason (value : PlainValue) (subject : String) :
    Except SchedulerError Text :=
  match value with
  | .text contents => do
      require (1 ≤ contents.length &&
          contents.length ≤ maxFrontierReasonLength)
        (.frontierCorrupt (subject ++ " reason length is unsupported"))
      require (contents.all isPrintable) (.frontierCorrupt
        (subject ++ " reason must use printable ASCII characters"))
      return contents
  | _ => corrupt (subject ++ " reason must be text")

/-- `_frontier_retry_wait_rows`; eligibility is held to the bound of fences. -/
def frontierRetryWaitRows (value : PlainValue) (subject : String) :
    Except SchedulerError (List FrontierRetryWait) :=
  value.rows subject fun
    | .list [run, node, partition, rawEligible, rawReason] => do
        let identity ← frontierIdentity run node partition subject
        let eligibleAt ← rawEligible.boundedInt 0 maxFrontierLeaseFence
          (subject ++ " eligibility")
        let reason ← rawReason.waitReason subject
        FrontierRetryWait.create identity eligibleAt reason
    | _ => corrupt (subject ++ " entries must be retry-wait rows")

end PlainValue

def contractLifecycleStates : List ContractLifecycleState :=
  [.new, .opened, .running, .quiescing, .paused, .cancelling, .closed,
    .recoveryRequired]

/-- `ContractLifecycleState(value)`. -/
def ContractLifecycleState.parse (value : Text) :
    Option ContractLifecycleState :=
  contractLifecycleStates.find? fun state => text state.value = value

namespace PlainValue

/-- `_frontier_control_state_value`. -/
def frontierControlState (value : PlainValue) (subject : String) :
    Except SchedulerError ContractLifecycleState :=
  match value with
  | .text contents =>
      match ContractLifecycleState.parse contents with
      | none => corrupt (subject ++ " is unknown")
      | some state => do
          require state.isDurable (.frontierCorrupt
            (subject ++ " is not a durable frontier state"))
          return state
  | _ => corrupt (subject ++ " must be text")

def frontierVersion (value : PlainValue) : Except SchedulerError Int :=
  match value with
  | .int version => do
      require (version = schedulerFrontierVersion)
        (.frontierVersion "frontier schema version is unsupported")
      return version
  | _ => corrupt "frontier payload version must be an integer"

def frontierFingerprint (value : PlainValue) : Except SchedulerError Text := do
  let fingerprint ← value.frontierText "frontier payload fingerprint"
  require (isFrontierFingerprint fingerprint) (.frontierCorrupt
    "frontier payload fingerprint must use 64 lowercase hexadecimal characters")
  return fingerprint

def frontierGeneration (value : PlainValue) :
    Except SchedulerError ControlGeneration :=
  match value with
  | .int raw =>
      if bounds : 1 ≤ raw ∧ raw ≤ 2147483647 then
        .ok ⟨raw, bounds⟩
      else
        corrupt "frontier payload control generation is invalid"
  | _ => corrupt "frontier payload control generation must be an integer"

def frontierNodeOrder (value : PlainValue) :
    Except SchedulerError (List Text) := do
  let nodeOrder ← value.frontierTextRows "frontier payload node order"
  require (nodeOrder ≠ [])
    (.frontierCorrupt "frontier payload node order must not be empty")
  require (decide nodeOrder.Nodup)
    (.frontierCorrupt "frontier payload node order must be unique")
  return nodeOrder

def frontierReason (value : PlainValue) :
    Except SchedulerError (Option Text) :=
  match value with
  | .null => .ok none
  | _ => do
      let reason ← value.frontierText "frontier payload recovery reason"
        maxFrontierReasonLength
      return some reason

end PlainValue

/-- The fields that a mapping describes. -/
def decodeFields (items : List (PlainKey × PlainValue)) :
    Except SchedulerError FrontierFields := do
  let version ← (mappingValue items "version").frontierVersion
  let planFingerprint ←
    (mappingValue items "plan_fingerprint").frontierFingerprint
  let controlGeneration ←
    (mappingValue items "control_generation").frontierGeneration
  let runId ← (mappingValue items "run_id").frontierText
    "frontier payload run identity"
  let nodeOrder ← (mappingValue items "node_order").frontierNodeOrder
  let edges ← (mappingValue items "edges").frontierEdgeRows
    "frontier payload edges"
  let workStates ← (mappingValue items "work_states").frontierWorkStateRows
    "frontier payload work states"
  let leaseFences ← (mappingValue items "lease_fences").frontierLeaseFenceRows
    "frontier payload lease fences"
  let retryWaits ← (mappingValue items "retry_waits").frontierRetryWaitRows
    "frontier payload retry waits"
  let controlState ← (mappingValue items "control_state").frontierControlState
    "frontier payload control state"
  let recoveryRequiredReason ←
    (mappingValue items "recovery_required_reason").frontierReason
  return {
    version
    planFingerprint
    controlGeneration
    runId
    nodeOrder
    edges
    workStates
    leaseFences
    retryWaits
    controlState
    recoveryRequiredReason }

/-- `SchedulerFrontierV2.from_mapping`. -/
def SchedulerFrontierV2.fromMapping (data : PlainValue) :
    Except SchedulerError SchedulerFrontierV2 :=
  match data with
  | .mapping items => do
      require (items.length = frontierMappingKeys.length &&
          frontierMappingKeys.all fun key => .text key ∈ items.map Prod.fst)
        (.frontierCorrupt "frontier payload keys are missing or unknown")
      let fields ← decodeFields items
      SchedulerFrontierV2.create fields
  | _ => .error (.frontierCorrupt "frontier payload must be a mapping")

/-! ## What the decoders accept -/

theorem FrontierWorkState.parse_eq_some {value : Text}
    {state : FrontierWorkState} :
    FrontierWorkState.parse value = some state ↔ value = text state.value := by
  constructor
  · intro found
    have same := List.find?_some found
    exact (of_decide_eq_true same).symm
  · rintro rfl
    cases state <;> decide

theorem ContractLifecycleState.parse_eq_some {value : Text}
    {state : ContractLifecycleState} :
    ContractLifecycleState.parse value = some state ↔
      value = text state.value := by
  constructor
  · intro found
    have same := List.find?_some found
    exact (of_decide_eq_true same).symm
  · rintro rfl
    cases state <;> decide

theorem isPlainText_of_fingerprint {value : Text}
    (fingerprint : isFrontierFingerprint value) :
    isPlainText maxFrontierIdentityLength value := by
  simp only [isFrontierFingerprint, Bool.and_eq_true, decide_eq_true_eq,
    List.all_eq_true] at fingerprint
  simp only [isPlainText, Bool.and_eq_true, decide_eq_true_eq,
    List.all_eq_true, maxFrontierIdentityLength]
  obtain ⟨length, hexadecimal⟩ := fingerprint
  refine ⟨by rw [length]; decide, ?_⟩
  intro c member
  have hex := hexadecimal c member
  simp only [isHexLower, isDigit, Bool.or_eq_true, Bool.and_eq_true,
    decide_eq_true_eq] at hex
  simp only [isPrintable, Bool.and_eq_true, decide_eq_true_eq]
  omega

namespace PlainValue

theorem frontierText_eq_ok {value : PlainValue} {subject : String}
    {maximum : Nat} {contents : Text} :
    value.frontierText subject maximum = .ok contents ↔
      value = .text contents ∧ isPlainText maximum contents := by
  cases value with
  | text read =>
      simp only [frontierText, check_bind_eq_ok, requireFrontierText,
        requirePlainText_eq_ok, pure, Except.pure, Except.ok.injEq,
        PlainValue.text.injEq]
      constructor
      · rintro ⟨plain, rfl⟩
        exact ⟨rfl, plain⟩
      · rintro ⟨rfl, plain⟩
        exact ⟨plain, rfl⟩
  | _ => simp [frontierText, corrupt]

/-- When a row decoder inverts an encoding, the list of rows does too. -/
theorem rows_eq_ok {α : Type} {row : PlainValue → Except SchedulerError α}
    {encode : α → PlainValue} {P : α → Prop}
    (each : ∀ value x, row value = .ok x ↔ value = encode x ∧ P x)
    {value : PlainValue} {subject : String} {results : List α} :
    value.rows subject row = .ok results ↔
      value = .list (results.map encode) ∧ ∀ x ∈ results, P x := by
  cases value with
  | list items =>
      simp only [rows, mapM_eq_ok, PlainValue.list.injEq]
      induction items generalizing results with
      | nil => cases results <;> simp
      | cons item rest ih =>
          cases results with
          | nil => simp
          | cons first others =>
              simp only [List.map_cons, List.cons.injEq, each, ih,
                List.forall_mem_cons]
              tauto
  | _ => simp [rows, corrupt]

theorem frontierTextRows_eq_ok {value : PlainValue} {subject : String}
    {texts : List Text} :
    value.frontierTextRows subject = .ok texts ↔
      value = .list (texts.map .text) ∧
        ∀ entry ∈ texts, isPlainText maxFrontierIdentityLength entry :=
  rows_eq_ok fun _ _ => frontierText_eq_ok

theorem frontierEdgeRows_eq_ok {value : PlainValue} {subject : String}
    {edges : List (Text × Text)} :
    value.frontierEdgeRows subject = .ok edges ↔
      value = .list (edges.map edgeRow) ∧ ∀ edge ∈ edges,
        isPlainText maxFrontierIdentityLength edge.1 ∧
          isPlainText maxFrontierIdentityLength edge.2 := by
  apply rows_eq_ok
  rintro row ⟨source, target⟩
  constructor
  · intro decoded
    split at decoded
    next first second =>
      obtain ⟨_, source, later⟩ := bind_eq_ok.mp decoded
      obtain ⟨_, target, same⟩ := bind_eq_ok.mp later
      obtain ⟨rfl, plainSource⟩ := frontierText_eq_ok.mp source
      obtain ⟨rfl, plainTarget⟩ := frontierText_eq_ok.mp target
      cases same
      exact ⟨rfl, plainSource, plainTarget⟩
    · cases decoded
  · rintro ⟨rfl, plainSource, plainTarget⟩
    dsimp only [edgeRow]
    rw [frontierText_eq_ok.mpr ⟨rfl, plainSource⟩,
      frontierText_eq_ok.mpr ⟨rfl, plainTarget⟩]
    rfl

theorem frontierIdentity_eq_ok {run node partition : PlainValue}
    {subject : String} {identity : WorkIdentity} :
    frontierIdentity run node partition subject = .ok identity ↔
      run = .text identity.runId ∧ node = .text identity.nodeId ∧
        partition = .text identity.partitionKey := by
  have valid := identity.valid
  simp only [Bool.and_eq_true] at valid
  simp only [frontierIdentity, bind_eq_ok, frontierText_eq_ok,
    WorkIdentity.create_eq_ok]
  constructor
  · rintro ⟨_, ⟨rfl, _⟩, _, ⟨rfl, _⟩, _, ⟨rfl, _⟩, rfl, rfl, rfl⟩
    exact ⟨rfl, rfl, rfl⟩
  · rintro ⟨rfl, rfl, rfl⟩
    exact ⟨_, ⟨rfl, valid.1.1⟩, _, ⟨rfl, valid.1.2⟩, _, ⟨rfl, valid.2⟩,
      rfl, rfl, rfl⟩

theorem frontierWorkState_eq_ok {value : PlainValue} {subject : String}
    {state : FrontierWorkState} :
    value.frontierWorkState subject = .ok state ↔
      value = .text (Foundation.text state.value) := by
  cases value with
  | text contents =>
      simp only [frontierWorkState, PlainValue.text.injEq,
        ← FrontierWorkState.parse_eq_some]
      cases FrontierWorkState.parse contents <;> simp [corrupt]
  | _ => simp [frontierWorkState, corrupt]

theorem boundedInt_eq_ok {value : PlainValue} {minimum maximum : Int}
    {subject : String} {number : Int} :
    value.boundedInt minimum maximum subject = .ok number ↔
      value = .int number ∧ minimum ≤ number ∧ number ≤ maximum := by
  cases value with
  | int read =>
      simp only [boundedInt, check_bind_eq_ok, require_eq_ok, pure,
        Except.pure, Except.ok.injEq, PlainValue.int.injEq,
        Bool.and_eq_true, decide_eq_true_eq]
      constructor
      · rintro ⟨bounds, rfl⟩
        exact ⟨rfl, bounds⟩
      · rintro ⟨rfl, bounds⟩
        exact ⟨bounds, rfl⟩
  | _ => simp [boundedInt, corrupt]

theorem waitReason_eq_ok {value : PlainValue} {subject : String}
    {reason : Text} :
    value.waitReason subject = .ok reason ↔
      value = .text reason ∧ isPlainText maxFrontierReasonLength reason := by
  cases value with
  | text read =>
      simp only [waitReason, check_bind_eq_ok, require_eq_ok, pure,
        Except.pure, Except.ok.injEq, PlainValue.text.injEq, isPlainText,
        Bool.and_eq_true]
      constructor
      · rintro ⟨bounds, printable, rfl⟩
        exact ⟨rfl, bounds, printable⟩
      · rintro ⟨rfl, bounds, printable⟩
        exact ⟨bounds, printable, rfl⟩
  | _ => simp [waitReason, corrupt]

theorem frontierWorkStateRows_eq_ok {value : PlainValue} {subject : String}
    {entries : List (WorkIdentity × FrontierWorkState)} :
    value.frontierWorkStateRows subject = .ok entries ↔
      value = .list (entries.map workStateRow) := by
  unfold frontierWorkStateRows
  rw [@rows_eq_ok _ _ workStateRow fun _ => True]
  · simp
  rintro row ⟨identity, state⟩
  constructor
  · intro decoded
    split at decoded
    next run node partition rawState =>
      obtain ⟨_, owner, later⟩ := bind_eq_ok.mp decoded
      obtain ⟨_, read, same⟩ := bind_eq_ok.mp later
      obtain ⟨rfl, rfl, rfl⟩ := frontierIdentity_eq_ok.mp owner
      rw [frontierWorkState_eq_ok] at read
      cases same
      exact ⟨by rw [read]; rfl, trivial⟩
    · cases decoded
  · rintro ⟨rfl, _⟩
    dsimp only [workStateRow, WorkIdentity.row]
    rw [frontierIdentity_eq_ok.mpr ⟨rfl, rfl, rfl⟩,
      frontierWorkState_eq_ok.mpr rfl]
    rfl

theorem frontierLeaseFenceRows_eq_ok {value : PlainValue} {subject : String}
    {entries : List (WorkIdentity × Int)} :
    value.frontierLeaseFenceRows subject = .ok entries ↔
      value = .list (entries.map leaseFenceRow) ∧
        ∀ entry ∈ entries, 1 ≤ entry.2 ∧ entry.2 ≤ maxFrontierLeaseFence := by
  apply rows_eq_ok
  rintro row ⟨identity, fence⟩
  constructor
  · intro decoded
    split at decoded
    next run node partition rawFence =>
      obtain ⟨_, owner, later⟩ := bind_eq_ok.mp decoded
      obtain ⟨_, read, same⟩ := bind_eq_ok.mp later
      obtain ⟨rfl, rfl, rfl⟩ := frontierIdentity_eq_ok.mp owner
      obtain ⟨rfl, bounds⟩ := boundedInt_eq_ok.mp read
      cases same
      exact ⟨rfl, bounds⟩
    · cases decoded
  · rintro ⟨rfl, bounds⟩
    dsimp only [leaseFenceRow, WorkIdentity.row]
    rw [frontierIdentity_eq_ok.mpr ⟨rfl, rfl, rfl⟩,
      boundedInt_eq_ok.mpr ⟨rfl, bounds⟩]
    rfl

theorem frontierRetryWaitRows_eq_ok {value : PlainValue} {subject : String}
    {waits : List FrontierRetryWait} :
    value.frontierRetryWaitRows subject = .ok waits ↔
      value = .list (waits.map FrontierRetryWait.row) ∧
        ∀ wait ∈ waits, wait.eligibleAtMicros ≤ maxFrontierLeaseFence := by
  apply rows_eq_ok
  intro row wait
  constructor
  · intro decoded
    split at decoded
    next run node partition rawEligible rawReason =>
      obtain ⟨_, owner, later⟩ := bind_eq_ok.mp decoded
      obtain ⟨_, eligible, later⟩ := bind_eq_ok.mp later
      obtain ⟨_, reason, created⟩ := bind_eq_ok.mp later
      obtain ⟨rfl, rfl, rfl⟩ := FrontierRetryWait.create_eq_ok.mp created
      obtain ⟨rfl, rfl, rfl⟩ := frontierIdentity_eq_ok.mp owner
      obtain ⟨rfl, _, bound⟩ := boundedInt_eq_ok.mp eligible
      obtain ⟨rfl, _⟩ := waitReason_eq_ok.mp reason
      exact ⟨rfl, bound⟩
    · cases decoded
  · rintro ⟨rfl, bound⟩
    dsimp only [FrontierRetryWait.row, WorkIdentity.row]
    rw [frontierIdentity_eq_ok.mpr ⟨rfl, rfl, rfl⟩,
      boundedInt_eq_ok.mpr ⟨rfl, wait.eligible.1, bound⟩,
      waitReason_eq_ok.mpr ⟨rfl, wait.described⟩]
    exact FrontierRetryWait.create_eq_ok.mpr ⟨rfl, rfl, rfl⟩

theorem frontierControlState_eq_ok {value : PlainValue} {subject : String}
    {state : ContractLifecycleState} :
    value.frontierControlState subject = .ok state ↔
      value = .text (Foundation.text state.value) ∧ state.isDurable := by
  cases value with
  | text contents =>
      simp only [frontierControlState, PlainValue.text.injEq,
        ← ContractLifecycleState.parse_eq_some]
      cases ContractLifecycleState.parse contents with
      | none => simp [corrupt]
      | some read =>
          simp only [check_bind_eq_ok, require_eq_ok, pure, Except.pure,
            Except.ok.injEq, Option.some.injEq]
          constructor
          · rintro ⟨durable, rfl⟩
            exact ⟨rfl, durable⟩
          · rintro ⟨rfl, durable⟩
            exact ⟨durable, rfl⟩
  | _ => simp [frontierControlState, corrupt]

theorem frontierVersion_eq_ok {value : PlainValue} {version : Int} :
    value.frontierVersion = .ok version ↔
      value = .int version ∧ version = schedulerFrontierVersion := by
  cases value with
  | int read =>
      simp only [frontierVersion, check_bind_eq_ok, require_eq_ok, pure,
        Except.pure, Except.ok.injEq, PlainValue.int.injEq,
        decide_eq_true_eq]
      constructor
      · rintro ⟨supported, rfl⟩
        exact ⟨rfl, supported⟩
      · rintro ⟨rfl, supported⟩
        exact ⟨supported, rfl⟩
  | _ => simp [frontierVersion, corrupt]

theorem frontierFingerprint_eq_ok {value : PlainValue} {fingerprint : Text} :
    value.frontierFingerprint = .ok fingerprint ↔
      value = .text fingerprint ∧ isFrontierFingerprint fingerprint := by
  simp only [frontierFingerprint, bind_eq_ok, frontierText_eq_ok,
    require_eq_ok, pure, Except.pure, Except.ok.injEq]
  constructor
  · rintro ⟨_, ⟨rfl, _⟩, _, hexadecimal, rfl⟩
    exact ⟨rfl, hexadecimal⟩
  · rintro ⟨rfl, hexadecimal⟩
    exact ⟨_, ⟨rfl, isPlainText_of_fingerprint hexadecimal⟩, (), hexadecimal,
      rfl⟩

theorem frontierGeneration_eq_ok {value : PlainValue}
    {generation : ControlGeneration} :
    value.frontierGeneration = .ok generation ↔
      value = .int generation.value := by
  cases value with
  | int raw =>
      simp only [frontierGeneration, PlainValue.int.injEq]
      constructor
      · intro decoded
        split at decoded
        · cases decoded
          rfl
        · cases decoded
      · rintro rfl
        rw [dif_pos generation.bounds]
  | _ => simp [frontierGeneration, corrupt]

theorem frontierNodeOrder_eq_ok {value : PlainValue} {nodes : List Text} :
    value.frontierNodeOrder = .ok nodes ↔
      value = .list (nodes.map .text) ∧
        (∀ node ∈ nodes, isPlainText maxFrontierIdentityLength node) ∧
          nodes ≠ [] ∧ nodes.Nodup := by
  simp only [frontierNodeOrder, bind_eq_ok, frontierTextRows_eq_ok,
    require_eq_ok, pure, Except.pure, Except.ok.injEq, decide_eq_true_eq]
  constructor
  · rintro ⟨_, ⟨rfl, plain⟩, _, nonempty, _, distinct, rfl⟩
    exact ⟨rfl, plain, nonempty, distinct⟩
  · rintro ⟨rfl, plain, nonempty, distinct⟩
    exact ⟨_, ⟨rfl, plain⟩, (), nonempty, (), distinct, rfl⟩

theorem frontierReason_eq_ok {value : PlainValue} {reason : Option Text} :
    value.frontierReason = .ok reason ↔
      value = reasonValue reason ∧
        ∀ contents ∈ reason, isPlainText maxFrontierReasonLength contents := by
  cases value with
  | null => cases reason <;> simp [frontierReason, reasonValue]
  | text read =>
      simp only [frontierReason, bind_eq_ok, frontierText_eq_ok, pure,
        Except.pure, Except.ok.injEq]
      cases reason with
      | none => simp [reasonValue]
      | some contents =>
          simp only [reasonValue, PlainValue.text.injEq, Option.some.injEq,
            Option.mem_some_iff, forall_eq']
          constructor
          · rintro ⟨_, ⟨rfl, plain⟩, rfl⟩
            exact ⟨rfl, plain⟩
          · rintro ⟨rfl, plain⟩
            exact ⟨_, ⟨rfl, plain⟩, rfl⟩
  | _ =>
      cases reason <;>
        simp [frontierReason, reasonValue, frontierText, corrupt]

end PlainValue

/-- Every wait is eligible within the bound of the row decoder. -/
def FrontierFields.WaitsStorable (fields : FrontierFields) : Prop :=
  ∀ wait ∈ fields.retryWaits, wait.eligibleAtMicros ≤ maxFrontierLeaseFence

/-- The value under every key of the encoding of some fields. -/
def Describes (items : List (PlainKey × PlainValue))
    (fields : FrontierFields) : Prop :=
  ∀ entry ∈ fields.toMapping, (items.lookup entry.1).getD .null = entry.2

theorem decodeFields_eq_ok {items : List (PlainKey × PlainValue)}
    {fields : FrontierFields} (coherent : fields.Coherent) :
    decodeFields items = .ok fields ↔
      Describes items fields ∧ fields.WaitsStorable := by
  open PlainValue in
  simp only [decodeFields, bind_eq_ok, frontierVersion_eq_ok,
    frontierFingerprint_eq_ok, frontierGeneration_eq_ok, frontierText_eq_ok,
    frontierNodeOrder_eq_ok, frontierEdgeRows_eq_ok,
    frontierWorkStateRows_eq_ok, frontierLeaseFenceRows_eq_ok,
    frontierRetryWaitRows_eq_ok, frontierControlState_eq_ok,
    frontierReason_eq_ok, pure, Except.pure, Except.ok.injEq, mappingValue]
  simp only [Describes, FrontierFields.toMapping, List.forall_mem_cons]
  constructor
  · rintro ⟨_, ⟨version, _⟩, _, ⟨fingerprint, _⟩, _, generation, _, ⟨run, _⟩,
      _, ⟨nodes, _⟩, _, ⟨edges, _⟩, _, states, _, ⟨fences, _⟩, _,
      ⟨waits, storable⟩, _, ⟨control, _⟩, _, ⟨reason, _⟩, rfl⟩
    exact ⟨⟨version, fingerprint, generation, run, nodes, edges, states,
      fences, waits, control, reason, by simp⟩, storable⟩
  · rintro ⟨⟨version, fingerprint, generation, run, nodes, edges, states,
      fences, waits, control, reason, _⟩, storable⟩
    have plan := coherent.plan
    exact ⟨_, ⟨version, plan.version⟩, _, ⟨fingerprint, plan.fingerprint⟩, _,
      generation, _, ⟨run, plan.run⟩, _,
      ⟨nodes, plan.plain, plan.nonempty, plan.nodes⟩, _,
      ⟨edges, plan.ends⟩, _, states, _, ⟨fences, coherent.entries.fences⟩, _,
      ⟨waits, storable⟩, _, ⟨control, coherent.control.durable⟩, _,
      ⟨reason, coherent.control.described⟩, rfl⟩

theorem mem_toMapping_keys {fields : FrontierFields} {key : PlainKey} :
    key ∈ fields.toMapping.map Prod.fst ↔
      ∃ name ∈ frontierMappingKeys, key = .text name := by
  have names : (frontierMappingKeys.map PlainKey.text).Perm
      (fields.toMapping.map Prod.fst) := by
    show List.Perm _ _
    simp only [FrontierFields.toMapping, List.map_cons, List.map_nil]
    decide
  rw [← names.mem_iff, List.mem_map]
  simp only [eq_comm]

theorem toMapping_nodup (fields : FrontierFields) :
    (fields.toMapping.map Prod.fst).Nodup := by
  simp only [FrontierFields.toMapping, List.map_cons, List.map_nil]
  decide

namespace SchedulerFrontierV2

/-- A frontier is read exactly from the dictionaries equal to its encoding,
and only when all its waits can be represented. -/
theorem fromMapping_eq_ok {items : List (PlainKey × PlainValue)}
    {frontier : SchedulerFrontierV2} :
    fromMapping (.mapping items) = .ok frontier ↔
      items.length = frontierMappingKeys.length ∧
        SameMapping items frontier.toMapping ∧ frontier.WaitsStorable := by
  have known : ∀ entry ∈ frontier.toMapping,
      frontier.toMapping.lookup entry.1 = some entry.2 := fun entry member =>
    (lookup_eq_some_iff_mem (toMapping_nodup _)).mpr member
  rw [fromMapping, check_bind_eq_ok, bind_eq_ok, require_eq_ok]
  simp only [create_eq_ok, Bool.and_eq_true, decide_eq_true_eq,
    List.all_eq_true]
  constructor
  · rintro ⟨⟨length, keys⟩, fields, decoded, created⟩
    rw [← created, decodeFields_eq_ok frontier.coherent] at decoded
    obtain ⟨described, storable⟩ := decoded
    refine ⟨length, ?_, storable⟩
    refine sameMapping_of_keys (toMapping_nodup _) length ?_ described
    intro key member
    obtain ⟨name, inside, rfl⟩ := mem_toMapping_keys.mp member
    exact keys name inside
  · rintro ⟨length, same, storable⟩
    refine ⟨⟨length, ?_⟩, frontier.toFrontierFields, ?_, rfl⟩
    · intro name inside
      rw [← lookup_isSome, same, lookup_isSome]
      exact mem_toMapping_keys.mpr ⟨name, inside, rfl⟩
    · refine (decodeFields_eq_ok frontier.coherent).mpr ⟨?_, storable⟩
      intro entry inside
      rw [same, known entry inside, Option.getD_some]

/-- The encoding of a frontier is read back exactly when its waits fit. -/
theorem fromMapping_toMapping (frontier : SchedulerFrontierV2) :
    fromMapping (.mapping frontier.toMapping) = .ok frontier ↔
      frontier.WaitsStorable := by
  rw [fromMapping_eq_ok]
  constructor
  · exact fun accepted => accepted.2.2
  · exact fun storable => ⟨rfl, fun _ => rfl, storable⟩

end SchedulerFrontierV2

/-! ## What the decoders raise -/

/-- Only frontier errors are raised. -/
abbrev RaisesFrontierErrors {α : Type} (x : Except SchedulerError α) : Prop :=
  RaisesOnly (fun failure => failure.isFrontierError = true) x

theorem requireFrontierText_raises (value : Text) (subject : String)
    (maximum : Nat) :
    RaisesFrontierErrors (requireFrontierText value subject maximum) :=
  .bind (.require rfl) fun _ _ => .require rfl

namespace PlainValue

theorem frontierText_raises (value : PlainValue) (subject : String)
    (maximum : Nat) :
    RaisesFrontierErrors (value.frontierText subject maximum) := by
  cases value with
  | text contents =>
      exact .bind (requireFrontierText_raises _ _ _) fun _ _ => .ok _
  | _ => exact .error rfl

theorem rows_raises {α : Type} {row : PlainValue → Except SchedulerError α}
    (each : ∀ value, RaisesFrontierErrors (row value)) (value : PlainValue)
    (subject : String) :
    RaisesFrontierErrors (value.rows subject row) := by
  cases value with
  | list items => exact .mapM fun item _ => each item
  | _ => exact .error rfl

theorem frontierTextRows_raises (value : PlainValue) (subject : String) :
    RaisesFrontierErrors (value.frontierTextRows subject) :=
  rows_raises (fun _ => frontierText_raises _ _ _) value subject

theorem frontierEdgeRows_raises (value : PlainValue) (subject : String) :
    RaisesFrontierErrors (value.frontierEdgeRows subject) := by
  apply rows_raises
  intro row
  split
  · exact .bind (frontierText_raises _ _ _) fun _ _ =>
      .bind (frontierText_raises _ _ _) fun _ _ => .ok _
  · exact .error rfl

/-- The constructor of identities checks nothing that the decoder has not. -/
theorem frontierIdentity_raises (run node partition : PlainValue)
    (subject : String) :
    RaisesFrontierErrors (frontierIdentity run node partition subject) := by
  refine .bind (frontierText_raises _ _ _) fun runId run => ?_
  refine .bind (frontierText_raises _ _ _) fun nodeId node => ?_
  refine .bind (frontierText_raises _ _ _) fun partitionKey partition => ?_
  apply RaisesOnly.returns
  have valid : isPlainText maxFrontierIdentityLength runId &&
      isPlainText maxFrontierIdentityLength nodeId &&
      isPlainText maxFrontierIdentityLength partitionKey := by
    simp only [(frontierText_eq_ok.mp run).2, (frontierText_eq_ok.mp node).2,
      (frontierText_eq_ok.mp partition).2, Bool.and_self]
  exact ⟨⟨runId, nodeId, partitionKey, valid⟩,
    WorkIdentity.create_eq_ok.mpr ⟨rfl, rfl, rfl⟩⟩

theorem frontierWorkState_raises (value : PlainValue) (subject : String) :
    RaisesFrontierErrors (value.frontierWorkState subject) := by
  cases value with
  | text contents =>
      unfold frontierWorkState
      dsimp only
      split
      · exact .ok _
      · exact .error rfl
  | _ => exact .error rfl

theorem frontierWorkStateRows_raises (value : PlainValue) (subject : String) :
    RaisesFrontierErrors (value.frontierWorkStateRows subject) := by
  apply rows_raises
  intro row
  split
  · exact .bind (frontierIdentity_raises _ _ _ _) fun _ _ =>
      .bind (frontierWorkState_raises _ _) fun _ _ => .ok _
  · exact .error rfl

theorem boundedInt_raises (value : PlainValue) (minimum maximum : Int)
    (subject : String) :
    RaisesFrontierErrors (value.boundedInt minimum maximum subject) := by
  cases value with
  | int number => exact .bind (.require rfl) fun _ _ => .ok _
  | _ => exact .error rfl

theorem frontierLeaseFenceRows_raises (value : PlainValue)
    (subject : String) :
    RaisesFrontierErrors (value.frontierLeaseFenceRows subject) := by
  apply rows_raises
  intro row
  split
  · exact .bind (frontierIdentity_raises _ _ _ _) fun _ _ =>
      .bind (boundedInt_raises _ _ _ _) fun _ _ => .ok _
  · exact .error rfl

theorem waitReason_raises (value : PlainValue) (subject : String) :
    RaisesFrontierErrors (value.waitReason subject) := by
  cases value with
  | text contents =>
      exact .bind (.require rfl) fun _ _ => .bind (.require rfl) fun _ _ =>
        .ok _
  | _ => exact .error rfl

/-- The constructor of waits checks nothing that the decoder has not. -/
theorem frontierRetryWaitRows_raises (value : PlainValue) (subject : String) :
    RaisesFrontierErrors (value.frontierRetryWaitRows subject) := by
  apply rows_raises
  intro row
  split
  · refine .bind (frontierIdentity_raises _ _ _ _) fun identity _ => ?_
    refine .bind (boundedInt_raises _ _ _ _) fun eligibleAt eligible => ?_
    refine .bind (waitReason_raises _ _) fun reason described => ?_
    apply RaisesOnly.returns
    have bounds := (boundedInt_eq_ok.mp eligible).2
    have storable : maxFrontierLeaseFence ≤
        maxFrontierRetryEligibilityMicros := by decide
    exact ⟨⟨identity, eligibleAt, reason,
      ⟨bounds.1, bounds.2.trans storable⟩,
      (waitReason_eq_ok.mp described).2⟩,
      FrontierRetryWait.create_eq_ok.mpr ⟨rfl, rfl, rfl⟩⟩
  · exact .error rfl

theorem frontierControlState_raises (value : PlainValue) (subject : String) :
    RaisesFrontierErrors (value.frontierControlState subject) := by
  cases value with
  | text contents =>
      unfold frontierControlState
      dsimp only
      split
      · exact .error rfl
      · exact .bind (.require rfl) fun _ _ => .ok _
  | _ => exact .error rfl

theorem frontierVersion_raises (value : PlainValue) :
    RaisesFrontierErrors value.frontierVersion := by
  cases value with
  | int version => exact .bind (.require rfl) fun _ _ => .ok _
  | _ => exact .error rfl

theorem frontierFingerprint_raises (value : PlainValue) :
    RaisesFrontierErrors value.frontierFingerprint :=
  .bind (frontierText_raises _ _ _) fun _ _ => .bind (.require rfl) fun _ _ =>
    .ok _

theorem frontierGeneration_raises (value : PlainValue) :
    RaisesFrontierErrors value.frontierGeneration := by
  cases value with
  | int raw =>
      unfold frontierGeneration
      dsimp only
      split
      · exact .ok _
      · exact .error rfl
  | _ => exact .error rfl

theorem frontierNodeOrder_raises (value : PlainValue) :
    RaisesFrontierErrors value.frontierNodeOrder :=
  .bind (frontierTextRows_raises _ _) fun _ _ =>
    .bind (.require rfl) fun _ _ => .bind (.require rfl) fun _ _ => .ok _

theorem frontierReason_raises (value : PlainValue) :
    RaisesFrontierErrors value.frontierReason := by
  cases value with
  | null => exact .ok _
  | _ => exact .bind (frontierText_raises _ _ _) fun _ _ => .ok _

end PlainValue

open PlainValue in
theorem decodeFields_raises (items : List (PlainKey × PlainValue)) :
    RaisesFrontierErrors (decodeFields items) :=
  .bind (frontierVersion_raises _) fun _ _ =>
  .bind (frontierFingerprint_raises _) fun _ _ =>
  .bind (frontierGeneration_raises _) fun _ _ =>
  .bind (frontierText_raises _ _ _) fun _ _ =>
  .bind (frontierNodeOrder_raises _) fun _ _ =>
  .bind (frontierEdgeRows_raises _ _) fun _ _ =>
  .bind (frontierWorkStateRows_raises _ _) fun _ _ =>
  .bind (frontierLeaseFenceRows_raises _ _) fun _ _ =>
  .bind (frontierRetryWaitRows_raises _ _) fun _ _ =>
  .bind (frontierControlState_raises _ _) fun _ _ =>
  .bind (frontierReason_raises _) fun _ _ => .ok _

namespace FrontierFields

theorem checkPlan_raises (fields : FrontierFields) :
    RaisesFrontierErrors fields.checkPlan :=
  .bind (.require rfl) fun _ _ =>
  .bind (.require rfl) fun _ _ =>
  .bind (requireFrontierText_raises _ _ _) fun _ _ =>
  .bind (.forM fun _ _ => requireFrontierText_raises _ _ _) fun _ _ =>
  .bind (.require rfl) fun _ _ =>
  .bind (.require rfl) fun _ _ =>
  .bind (.forM fun _ _ => .bind (requireFrontierText_raises _ _ _) fun _ _ =>
    requireFrontierText_raises _ _ _) fun _ _ =>
  .bind (.require rfl) fun _ _ =>
  .bind (.require rfl) fun _ _ =>
  .bind (.forM fun _ _ => .bind (.require rfl) fun _ _ => .require rfl)
    fun _ _ => .require rfl

theorem checkEntries_raises (fields : FrontierFields) :
    RaisesFrontierErrors fields.checkEntries :=
  .bind (.require rfl) fun _ _ =>
  .bind (.forM fun _ _ => .require rfl) fun _ _ =>
  .bind (.forM fun _ _ => .bind (.require rfl) fun _ _ => .require rfl)
    fun _ _ =>
  .bind (.require rfl) fun _ _ =>
  .bind (.require rfl) fun _ _ =>
  .bind (.require rfl) fun _ _ =>
  .bind (.forM fun _ _ => .require rfl) fun _ _ =>
  .bind (.require rfl) fun _ _ =>
  .bind (.require rfl) fun _ _ =>
  .bind (.require rfl) fun _ _ => .require rfl

theorem checkHoldings_raises (fields : FrontierFields) :
    RaisesFrontierErrors fields.checkHoldings := by
  refine .bind (.forM fun entry _ => ?_) fun _ _ => .require rfl
  split
  · exact .require rfl
  · exact .require rfl

/-- The aggregates of checked work raise nothing of their own. -/
theorem barriers_raises {fields : FrontierFields}
    (plan : fields.PlanCoherent) (entries : fields.EntriesCoherent) :
    RaisesFrontierErrors (validateFrontierDependencyBarriers
      fields.nodeOrder fields.edges fields.workStates) := by
  rw [validateFrontierDependencyBarriers,
    countAggregates_eq_ok plan.plain entries.bounded, ok_bind]
  refine .forM fun node _ => ?_
  dsimp only
  split
  · exact .ok _
  · exact .forM fun _ _ => .bind (.require rfl) fun _ _ => .require rfl

theorem checkControl_raises (fields : FrontierFields) :
    RaisesFrontierErrors fields.checkControl := by
  refine .bind (.require rfl) fun _ _ => ?_
  split
  · split
    · exact requireFrontierText_raises _ _ _
    · exact .error rfl
  · exact .require rfl

theorem check_raises (fields : FrontierFields) :
    RaisesFrontierErrors fields.check :=
  .bind fields.checkPlan_raises fun _ plan =>
  .bind fields.checkEntries_raises fun _ entries =>
  .bind fields.checkHoldings_raises fun _ _ =>
  .bind (barriers_raises (checkPlan_eq_ok.mp plan)
    (checkEntries_eq_ok.mp entries)) fun _ _ => fields.checkControl_raises

end FrontierFields

/-- Whatever is not a mapping of a frontier is rejected as one. -/
theorem SchedulerFrontierV2.fromMapping_raises (data : PlainValue) :
    RaisesFrontierErrors (fromMapping data) := by
  cases data with
  | mapping items =>
      refine .bind (.require rfl) fun _ _ =>
        .bind (decodeFields_raises items) fun fields _ => ?_
      unfold create
      split
      · exact .ok _
      next failure rejected =>
        exact .error (fields.check_raises failure rejected)
  | _ => exact .error rfl

/-! ## Restoring a frontier on a fresh scheduler -/

/-- A frontier of this plan. -/
structure SchedulerPlan.Fits (plan : SchedulerPlan)
    (frontier : SchedulerFrontierV2) : Prop where
  run : frontier.runId = plan.runId
  fingerprint : frontier.planFingerprint = plan.planFingerprint
  nodes : frontier.nodeOrder = plan.nodeOrder
  edges : frontier.edges = plan.edges
  work : frontier.identities = plan.ordered

namespace SchedulerFrontierV2

variable (frontier : SchedulerFrontierV2)

/-- The wait of an identity, as a restored scheduler looks it up. -/
def waitOf (identity : WorkIdentity) : Option FrontierRetryWait :=
  frontier.retryWaits.find? fun wait => wait.identity = identity

theorem waitOf_isSome {identity : WorkIdentity} :
    (frontier.waitOf identity).isSome ↔ identity ∈ frontier.waiting := by
  simp [waitOf, FrontierFields.waiting, List.find?_isSome]

theorem waitOf_member {wait : FrontierRetryWait}
    (member : wait ∈ frontier.retryWaits) :
    frontier.waitOf wait.identity = some wait := by
  have distinct : (frontier.retryWaits.map
      FrontierRetryWait.identity).Nodup := frontier.coherent.entries.waiting
  unfold waitOf
  generalize frontier.retryWaits = waits at distinct member
  induction waits with
  | nil => cases member
  | cons first rest ih =>
      rw [List.map_cons, List.nodup_cons] at distinct
      rw [List.find?_cons]
      rcases List.mem_cons.mp member with rfl | later
      · simp
      · have apart : first.identity ≠ wait.identity := fun same =>
          distinct.1 (same ▸ List.mem_map.mpr ⟨wait, later, rfl⟩)
        rw [decide_eq_false apart]
        exact ih distinct.2 later

/-- Work that is known is listed in the order of all work. -/
theorem ordered_filter_eq {keys ordered : List WorkIdentity}
    {p : WorkIdentity → Bool} (distinct : ordered.Nodup)
    (arranged : ordered = sortedBy WorkIdentity.sortKey ordered)
    (keysDistinct : keys.Nodup)
    (keysArranged : keys = sortedBy WorkIdentity.sortKey keys)
    (members : ∀ identity, identity ∈ keys ↔
      identity ∈ ordered ∧ p identity) :
    ordered.filter p = keys := by
  have perm : (ordered.filter p).Perm keys := by
    rw [List.perm_ext_iff_of_nodup (distinct.filter p) keysDistinct]
    intro identity
    rw [members, List.mem_filter]
  have pairwise := (sortedBy_pairwise WorkIdentity.sortKey ordered).filter p
  rw [← arranged] at pairwise
  rw [keysArranged, ← sortedBy_of_pairwise pairwise]
  exact sortedBy_eq_of_perm WorkIdentity.sortKey_injective.injOn perm

theorem workStates_items {frontier : SchedulerFrontierV2} :
    itemsOf (fun identity => frontier.workStates.lookup identity)
      frontier.identities = frontier.workStates :=
  itemsOf_lookup frontier.coherent.entries.work

theorem leaseFences_items {frontier : SchedulerFrontierV2} :
    itemsOf (fun identity => frontier.leaseFences.lookup identity)
      frontier.identities = frontier.leaseFences := by
  have entries := frontier.coherent.entries
  have fenced : frontier.identities.filter (fun identity =>
      (frontier.leaseFences.lookup identity).isSome) = frontier.fenced := by
    apply ordered_filter_eq entries.work entries.workOrdered entries.fenced
      entries.fencedOrdered
    intro identity
    rw [lookup_isSome]
    constructor
    · intro member
      exact ⟨entries.fencedKnown identity member, member⟩
    · exact And.right
  rw [← itemsOf_filter, fenced]
  exact itemsOf_lookup entries.fenced

theorem retryWaits_items {frontier : SchedulerFrontierV2} :
    frontier.identities.filterMap frontier.waitOf = frontier.retryWaits := by
  have entries := frontier.coherent.entries
  have waiting : frontier.identities.filter (fun identity =>
      (frontier.waitOf identity).isSome) = frontier.waiting := by
    apply ordered_filter_eq entries.work entries.workOrdered entries.waiting
      entries.waitingOrdered
    intro identity
    rw [waitOf_isSome]
    constructor
    · intro member
      have retried := (frontier.coherent.holdings.waits identity).mpr member
      exact ⟨List.mem_map.mpr ⟨_, retried, rfl⟩, member⟩
    · exact And.right
  have each : ∀ wait ∈ frontier.retryWaits,
      frontier.waitOf wait.identity = some wait := fun wait member =>
    frontier.waitOf_member member
  calc frontier.identities.filterMap frontier.waitOf
      = (frontier.identities.filter fun identity =>
          (frontier.waitOf identity).isSome).filterMap frontier.waitOf := by
        rw [List.filterMap_filter]
        apply List.filterMap_congr
        intro identity _
        cases frontier.waitOf identity <;> rfl
    _ = frontier.retryWaits.filterMap fun wait =>
          frontier.waitOf wait.identity := by
        rw [waiting, FrontierFields.waiting, List.filterMap_map]
        rfl
    _ = frontier.retryWaits.filterMap some :=
        List.filterMap_congr fun wait member => each wait member
    _ = frontier.retryWaits := List.filterMap_some

end SchedulerFrontierV2

/-- A scheduler of a plan in the state that a frontier describes. -/
def SchedulerPlan.restored (plan : SchedulerPlan)
    (frontier : SchedulerFrontierV2) : ConcurrentScheduler where
  plan
  controlGeneration := frontier.controlGeneration
  controlState := frontier.controlState
  recoveryReason := frontier.recoveryRequiredReason
  states identity := frontier.workStates.lookup identity
  fences identity := frontier.leaseFences.lookup identity
  retryWaits := frontier.waitOf

namespace SchedulerFrontierV2

variable {plan : SchedulerPlan} {frontier : SchedulerFrontierV2}

/-- A fresh scheduler takes over any frontier of its plan. -/
theorem restore_fits (coherent : plan.Coherent) (fits : plan.Fits frontier)
    (generation : ControlGeneration) :
    (plan.start generation).restore frontier =
      (.ok (), plan.restored frontier) := by
  have tracked :=
    (ConcurrentScheduler.SchedulerInvariant.start coherent
      generation).toTracked
  have own := frontier.coherent
  have checked :
      (plan.start generation).checkRestored frontier = .ok () := by
    have barriers := (@validateFrontierDependencyBarriers_eq_ok _ _ _ ()
      own.plan.plain own.entries.bounded own.plan.spans).mpr own.barriers
    simp only [ConcurrentScheduler.checkRestored, check_bind_eq_ok,
      require_eq_ok, decide_eq_true_eq, Bool.and_eq_true, List.all_eq_true]
    refine ⟨fits.run, fits.fingerprint, fits.nodes, fits.edges, ⟨?_, ?_⟩,
      barriers⟩
    · intro identity member
      rw [fits.work, SchedulerPlan.mem_ordered] at member
      exact (tracked.known identity).mpr member
    · intro identity member
      rw [fits.work]
      simp [show identity ∈ plan.identities from member]
  rw [ConcurrentScheduler.restore, checked]
  rfl

theorem restored_frontier (fits : plan.Fits frontier) :
    (plan.restored frontier).frontier = .ok frontier := by
  have own := frontier.coherent
  apply create_eq_ok.mpr
  have states := frontier.workStates_items
  have fences := frontier.leaseFences_items
  have waits := frontier.retryWaits_items
  rw [fits.work] at states fences waits
  symm
  show FrontierFields.mk schedulerFrontierVersion plan.planFingerprint
    frontier.controlGeneration plan.runId plan.nodeOrder plan.edges
    (itemsOf (fun identity => frontier.workStates.lookup identity)
      plan.ordered)
    (itemsOf (fun identity => frontier.leaseFences.lookup identity)
      plan.ordered)
    (plan.ordered.filterMap frontier.waitOf) frontier.controlState
    frontier.recoveryRequiredReason = frontier.toFrontierFields
  rw [states, fences, waits, ← own.plan.version, ← fits.run,
    ← fits.fingerprint, ← fits.nodes, ← fits.edges]

theorem restored_states {identity : WorkIdentity}
    {state : FrontierWorkState} :
    (plan.restored frontier).states identity = some state ↔
      (identity, state) ∈ frontier.workStates :=
  lookup_eq_some_iff_mem frontier.coherent.entries.work

theorem restored_succeeded (fits : plan.Fits frontier) {node : Text}
    (known : node ∈ plan.nodeOrder) :
    WorkSucceeded frontier.workStates node ↔
      (plan.restored frontier).AllSucceeded node := by
  have listed : ∀ identity, identity ∈ plan.identities ↔
      ∃ state, (identity, state) ∈ frontier.workStates := by
    intro identity
    rw [← SchedulerPlan.mem_ordered, ← fits.work, FrontierFields.identities,
      List.mem_map]
    simp
  constructor
  · rintro ⟨_, all⟩ identity inPlan here
    obtain ⟨state, found⟩ := (listed identity).mp inPlan
    rw [restored_states,
      ← all state (mem_nodeStates.mpr ⟨identity, found, here⟩)]
    exact found
  · intro all
    constructor
    · rw [← fits.nodes] at known
      obtain ⟨identity, member, here⟩ :=
        frontier.coherent.entries.covers node known
      obtain ⟨⟨_, state⟩, found, rfl⟩ := List.mem_map.mp member
      exact List.ne_nil_of_mem (mem_nodeStates.mpr ⟨_, found, here⟩)
    · intro state member
      obtain ⟨identity, found, here⟩ := mem_nodeStates.mp member
      have succeeded := all identity ((listed identity).mpr ⟨state, found⟩)
        here
      rw [restored_states.mpr found, Option.some.injEq] at succeeded
      exact succeeded

/-- The constructor does not look at the barriers of work without
predecessors; where that work is not blocked the invariant holds. -/
theorem restored_invariant (coherent : plan.Coherent)
    (fits : plan.Fits frontier)
    (roots : ∀ identity, predecessorsOf plan.edges identity.nodeId = [] →
      (identity, .blocked) ∉ frontier.workStates) :
    (plan.restored frontier).SchedulerInvariant := by
  have own := frontier.coherent
  constructor
  case toHoldings =>
    constructor
    case toTracked =>
      refine ⟨coherent, fun identity => ?_⟩
      show (frontier.workStates.lookup identity).isSome ↔ _
      rw [lookup_isSome]
      show identity ∈ frontier.identities ↔ _
      rw [fits.work, SchedulerPlan.mem_ordered]
      rfl
    case flight =>
      intro identity
      show (frontier.leaseFences.lookup identity).isSome ↔ _
      rw [lookup_isSome]
      constructor
      · intro fenced
        obtain ⟨⟨_, state⟩, found, rfl⟩ :=
          List.mem_map.mp (own.entries.fencedKnown identity fenced)
        exact ⟨state, restored_states.mpr found,
          (own.holdings.flight _ found).mpr fenced⟩
      · rintro ⟨state, found, inFlight⟩
        exact (own.holdings.flight _ (restored_states.mp found)).mp inFlight
    case fences =>
      intro identity fence found
      exact own.entries.fences _
        ((lookup_eq_some_iff_mem own.entries.fenced).mp found)
    case waits =>
      intro identity
      rw [restored_states, own.holdings.waits]
      exact frontier.waitOf_isSome
    case owned =>
      intro identity wait found
      have holds := List.find?_some (show frontier.retryWaits.find?
        (fun wait => wait.identity = identity) = some wait from found)
      exact of_decide_eq_true holds
    case control =>
      exact ⟨own.control.durable, own.control.reason, own.control.described⟩
  case barrier =>
    intro identity inPlan
    by_cases root : predecessorsOf plan.edges identity.nodeId = []
    · rw [restored_states]
      refine iff_of_false (roots identity root) (not_not.mpr ?_)
      intro source edge
      have member : source ∈ predecessorsOf plan.edges identity.nodeId :=
        mem_predecessorsOf.mpr edge
      rw [root] at member
      cases member
    · have member : identity ∈ frontier.identities := by
        rw [fits.work]
        exact SchedulerPlan.mem_ordered.mpr inPlan
      obtain ⟨⟨_, state⟩, found, rfl⟩ := List.mem_map.mp member
      have placed := own.entries.placed _ member
      have barrier := own.barriers _ placed.1
        (by rw [fits.edges]; exact root) state
        (mem_nodeStates.mpr ⟨_, found, rfl⟩)
      rw [restored_states.mpr found, Option.some.injEq, barrier,
        not_iff_not]
      simp only [mem_predecessorsOf, fits.edges]
      apply forall₂_congr
      intro source edge
      exact restored_succeeded fits (coherent.spans _ edge).1

end SchedulerFrontierV2

open ConcurrentScheduler in
/-- What saving and restoring a frontier is to achieve. -/
structure FrontierPersists (frontier : SchedulerFrontierV2) : Prop where
  roundTrip : SchedulerFrontierV2.fromMapping
    (.mapping frontier.toMapping) = .ok frontier
  reencodes : ∀ data decoded,
    SchedulerFrontierV2.fromMapping data = .ok decoded →
      ∃ items, data = .mapping items ∧ SameMapping items decoded.toMapping
  rejects : ∀ data failure,
    SchedulerFrontierV2.fromMapping data = .error failure →
      failure.isFrontierError
  restores : ∀ runId planFingerprint nodeOrder edges partitionsByNode plan,
    SchedulerPlan.create runId planFingerprint nodeOrder edges
        partitionsByNode = .ok plan →
      plan.Fits frontier → ∀ generation, ∃ restored,
        (plan.start generation).restore frontier = (.ok (), restored) ∧
          restored.frontier = .ok frontier
  answers : ∀ runId planFingerprint nodeOrder edges partitionsByNode plan,
    SchedulerPlan.create runId planFingerprint nodeOrder edges
        partitionsByNode = .ok plan →
      ∀ run, (schedulerSystem plan).Reachable run →
        run.scheduler.frontier = .ok frontier → ∀ generation, ∃ restored,
          (plan.start generation).restore frontier = (.ok (), restored) ∧
            restored.frontier = .ok frontier ∧
              ∀ operations, restored.answers operations =
                run.scheduler.answers operations

open ConcurrentScheduler in
/-- Frontiers persist exactly when their waits fit the row decoder. -/
theorem frontierPersists_iff (frontier : SchedulerFrontierV2) :
    FrontierPersists frontier ↔
      ∀ wait ∈ frontier.retryWaits,
        wait.eligibleAtMicros ≤ maxFrontierLeaseFence := by
  constructor
  · intro persists
    exact frontier.fromMapping_toMapping.mp persists.roundTrip
  · intro storable
    constructor
    case roundTrip => exact frontier.fromMapping_toMapping.mpr storable
    case reencodes =>
      intro data decoded read
      cases data with
      | mapping items =>
          exact ⟨items, rfl,
            (SchedulerFrontierV2.fromMapping_eq_ok.mp read).2.1⟩
      | _ => cases read
    case rejects =>
      intro data failure rejected
      exact SchedulerFrontierV2.fromMapping_raises data failure rejected
    case restores =>
      intro _ _ _ _ _ plan created fits generation
      exact ⟨_, SchedulerFrontierV2.restore_fits
        (SchedulerPlan.create_coherent created) fits generation,
        SchedulerFrontierV2.restored_frontier fits⟩
    case answers =>
      intro _ _ _ _ _ plan created run reached shown generation
      have coherent := SchedulerPlan.create_coherent created
      have holds := SchedulerRun.run_holds coherent reached
      have fresh := SchedulerInvariant.start coherent generation
      exact ⟨run.scheduler,
        restore_frontier holds.invariant fresh.toTracked holds.same.symm
          shown, shown, fun _ => rfl⟩

section Sample

/-- One work item waits for an instant past the bound of the row decoder. -/
def sampleWaiting : SchedulerFrontierV2 where
  version := 2
  planFingerprint := List.replicate 64 (point 'a')
  controlGeneration := ⟨1, firstGeneration_bounds⟩
  runId := text "run_one"
  nodeOrder := [text "nod_load"]
  edges := []
  workStates := [(sampleWork (text "nod_load") sampleLoad_plain, .retryWait)]
  leaseFences := []
  retryWaits := [⟨sampleWork (text "nod_load") sampleLoad_plain, 2147483648,
    text "timeout", by decide, by decide⟩]
  controlState := .running
  recoveryRequiredReason := none
  checked := toOption_eq_some.mp (by decide +kernel)

theorem sampleWaiting_lost : ¬ FrontierPersists sampleWaiting := by
  intro persists
  have storable :=
    sampleWaiting.fromMapping_toMapping.mp persists.roundTrip
  have bound := storable _ (List.mem_singleton.mpr rfl)
  revert bound
  decide

end Sample

end ParityGrid.Application
