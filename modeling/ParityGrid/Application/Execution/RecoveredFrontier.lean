import ParityGrid.Application.Execution.ConcurrentRecovery

/-!
# Recovered frontiers

A rebuilt frontier is the frontier of the scheduler that the durable evidence
describes.  That scheduler holds all pending work blocked, whatever its
predecessors did, so it agrees with the scheduler that wrote the evidence
exactly when no pending work has an open barrier.
-/

namespace ParityGrid.Application

open ParityGrid.Foundation
open Domain (RunState WorkItemState)

/-! ## The durable states of a run -/

/-- All durable work of a node succeeded. -/
def NodeSucceeded (evidence : ConcurrentRecoveryEvidence) (node : Text) :
    Prop :=
  ∀ item ∈ evidence.work, item.nodeId = node →
    item.state = text WorkItemState.succeeded.value

/-- All durable work of all predecessors of a node succeeded. -/
def Opens (plan : SchedulerPlan) (evidence : ConcurrentRecoveryEvidence)
    (node : Text) : Prop :=
  ∀ source, (source, node) ∈ plan.edges → NodeSucceeded evidence source

/-- What the durable evidence of an unfinished run of a plan satisfies: each
work item is recorded once, in a state that is committed, and work was claimed
only behind an open barrier. -/
structure DurableState (plan : SchedulerPlan)
    (evidence : ConcurrentRecoveryEvidence) : Prop where
  run : evidence.run.runId = plan.runId
  active : evidence.run.state.isRecoverable
  distinct : (evidence.work.map RecoveryWorkEvidence.key).Nodup
  covers : ∀ key, key ∈ evidence.work.map RecoveryWorkEvidence.key ↔
    key ∈ plan.identities.map WorkIdentity.key
  known : ∀ item ∈ evidence.work, ∃ state : WorkItemState,
    item.state = text state.value ∧ state ≠ .leased
  claimed : ∀ item ∈ evidence.work,
    item.state ≠ text WorkItemState.pending.value →
      Opens plan evidence item.nodeId
  nodes : ∀ node ∈ plan.nodeOrder, node ∈ evidence.nodes.map Prod.fst
  sequence : isCounter 1 evidence.nextEventSequence

/-- The arguments of a recovery of this plan. -/
structure RecoveryRequest.Valid (request : RecoveryRequest)
    (plan : SchedulerPlan) : Prop where
  created : SchedulerPlan.create request.runId request.planFingerprint
    request.nodeOrder request.edges request.partitionsByNode = .ok plan
  generation : isCounter 1 request.controlGeneration
  delay : 0 ≤ request.retryDelayMicros ∧
    request.retryDelayMicros ≤ maxRecoveryMicros

/-- Every durable retry fits the wait of a frontier. -/
def WaitsInRange (evidence : ConcurrentRecoveryEvidence) : Prop :=
  ∀ item ∈ evidence.work,
    item.state = text WorkItemState.retryWait.value →
      item.retryAvailableAtMicros.getD 0 ≤ maxFrontierRetryEligibilityMicros

theorem WorkItemState.parse_eq_some {value : Text} {state : WorkItemState} :
    WorkItemState.parse value = some state ↔ value = text state.value := by
  constructor
  · intro found
    have same := List.find?_some found
    exact (of_decide_eq_true same).symm
  · rintro rfl
    cases state <;> decide

theorem WorkItemState.value_injective {left right : WorkItemState}
    (same : text left.value = text right.value) : left = right := by
  have parsed := WorkItemState.parse_eq_some.mpr same
  rw [WorkItemState.parse_eq_some.mpr rfl] at parsed
  exact Option.some.inj parsed

theorem WorkItemState.frontierState_injective :
    Function.Injective WorkItemState.frontierState := by
  intro left right
  cases left <;> cases right <;> decide

namespace DurableState

variable {plan : SchedulerPlan} {evidence : ConcurrentRecoveryEvidence}

theorem keys_nodup (durable : DurableState plan evidence) :
    ((evidence.work.map fun item => (item.key, item)).map Prod.fst).Nodup := by
  rw [List.map_map]
  exact durable.distinct

theorem itemByKey_eq (durable : DurableState plan evidence) :
    itemByKey evidence = evidence.work.map fun item => (item.key, item) :=
  dictOf_of_nodup durable.keys_nodup

/-- The evidence of some work of the plan. -/
theorem item_of (durable : DurableState plan evidence)
    {identity : WorkIdentity} (inPlan : identity ∈ plan.identities) :
    ∃ item ∈ evidence.work, item.key = identity.key := by
  have listed := (durable.covers identity.key).mpr
    (List.mem_map.mpr ⟨identity, inPlan, rfl⟩)
  exact List.mem_map.mp listed

/-- The work that some evidence is about. -/
theorem identity_of (durable : DurableState plan evidence)
    {item : RecoveryWorkEvidence} (member : item ∈ evidence.work) :
    ∃ identity ∈ plan.identities, identity.key = item.key := by
  have listed := (durable.covers item.key).mp
    (List.mem_map.mpr ⟨item, member, rfl⟩)
  exact List.mem_map.mp listed

theorem lookup_key (durable : DurableState plan evidence)
    {item : RecoveryWorkEvidence} (member : item ∈ evidence.work) :
    (itemByKey evidence).lookup item.key = some item := by
  rw [durable.itemByKey_eq]
  exact (lookup_eq_some_iff_mem durable.keys_nodup).mpr
    (List.mem_map.mpr ⟨item, member, rfl⟩)

end DurableState

/-! ## The scheduler that evidence describes -/

/-- The frontier state of a durable item. -/
def RecoveryWorkEvidence.frontierState (item : RecoveryWorkEvidence) :
    Option FrontierWorkState :=
  (WorkItemState.parse item.state).bind WorkItemState.frontierState

/-- The wait of a durable item, when it is in range. -/
def RecoveryWorkEvidence.wait (item : RecoveryWorkEvidence)
    (identity : WorkIdentity) : Option FrontierRetryWait :=
  (FrontierRetryWait.create identity
    (item.retryAvailableAtMicros.getD 0)
    (text "recovery_retry_wait")).toOption

/-- The evidence of some work of the plan, if there is any. -/
def itemOf (plan : SchedulerPlan) (evidence : ConcurrentRecoveryEvidence)
    (identity : WorkIdentity) : Option RecoveryWorkEvidence :=
  if identity ∈ plan.identities then
    (itemByKey evidence).lookup identity.key
  else
    none

/-- A scheduler of the plan in the state that the evidence is mapped to. -/
def described (plan : SchedulerPlan) (generation : ControlGeneration)
    (evidence : ConcurrentRecoveryEvidence) : ConcurrentScheduler where
  plan
  controlGeneration := generation
  controlState := recoveredControl evidence.run.state none
  recoveryReason := none
  states identity := (itemOf plan evidence identity).bind fun item =>
    item.frontierState
  fences identity := (itemOf plan evidence identity).bind fun item =>
    if item.frontierState = some .admitted then some item.rowVersion else none
  retryWaits identity := (itemOf plan evidence identity).bind fun item =>
    if item.frontierState = some .retryWait then item.wait identity else none

namespace DurableState

variable {plan : SchedulerPlan} {generation : ControlGeneration}
  {evidence : ConcurrentRecoveryEvidence} {identity : WorkIdentity}
  {item : RecoveryWorkEvidence}

theorem itemOf_eq (durable : DurableState plan evidence)
    (inPlan : identity ∈ plan.identities) (member : item ∈ evidence.work)
    (same : item.key = identity.key) :
    itemOf plan evidence identity = some item := by
  rw [itemOf, if_pos inPlan, ← same, durable.lookup_key member]

/-- Every item is mapped to a state, and which one says whether it is pending,
running or waiting. -/
theorem frontierState_of (durable : DurableState plan evidence)
    (member : item ∈ evidence.work) :
    ∃ recorded : WorkItemState, ∃ state, item.state = text recorded.value ∧
      recorded.frontierState = some state ∧
      item.frontierState = some state := by
  obtain ⟨recorded, named, committed⟩ := durable.known item member
  have mapped : ∃ state, recorded.frontierState = some state := by
    cases recorded <;> simp_all [WorkItemState.frontierState]
  obtain ⟨state, same⟩ := mapped
  refine ⟨recorded, state, named, same, ?_⟩
  rw [RecoveryWorkEvidence.frontierState,
    WorkItemState.parse_eq_some.mpr named, Option.bind_some, same]

theorem mapped_iff (durable : DurableState plan evidence)
    (member : item ∈ evidence.work) {recorded : WorkItemState}
    {state : FrontierWorkState}
    (maps : recorded.frontierState = some state) :
    item.frontierState = some state ↔ item.state = text recorded.value := by
  obtain ⟨own, ownState, named, ownMaps, found⟩ :=
    durable.frontierState_of member
  rw [found, named, Option.some.injEq]
  constructor
  · rintro rfl
    rw [WorkItemState.frontierState_injective (ownMaps.trans maps.symm)]
  · intro same
    rw [WorkItemState.value_injective same, maps] at ownMaps
    exact (Option.some.inj ownMaps).symm

theorem described_tracked (durable : DurableState plan evidence)
    (coherent : plan.Coherent) : (described plan generation evidence).Tracked := by
  refine ⟨coherent, fun identity => ?_⟩
  show ((itemOf plan evidence identity).bind _).isSome ↔
    identity ∈ plan.identities
  by_cases inPlan : identity ∈ plan.identities
  · obtain ⟨item, member, same⟩ := durable.item_of inPlan
    obtain ⟨_, _, _, _, found⟩ := durable.frontierState_of member
    rw [durable.itemOf_eq inPlan member same]
    simp [found, inPlan]
  · simp [itemOf, inPlan]

theorem described_states (durable : DurableState plan evidence)
    (inPlan : identity ∈ plan.identities) (member : item ∈ evidence.work)
    (same : item.key = identity.key) :
    (described plan generation evidence).states identity =
      item.frontierState := by
  show (itemOf plan evidence identity).bind _ = _
  rw [durable.itemOf_eq inPlan member same]
  rfl

theorem wait_of_range (member : item ∈ evidence.work)
    (ranged : WaitsInRange evidence)
    (retried : item.state = text WorkItemState.retryWait.value)
    (identity : WorkIdentity) :
    ∃ wait, item.wait identity = some wait ∧ wait.identity = identity ∧
      FrontierRetryWait.create identity
        (item.retryAvailableAtMicros.getD 0)
        (text "recovery_retry_wait") = .ok wait := by
  have lower : 0 ≤ item.retryAvailableAtMicros.getD 0 := by
    have available := item.available
    cases same : item.retryAvailableAtMicros with
    | none => simp
    | some instant => simpa [same] using available
  have upper := ranged item member retried
  have created : FrontierRetryWait.create identity
      (item.retryAvailableAtMicros.getD 0) (text "recovery_retry_wait") =
        .ok ⟨identity, item.retryAvailableAtMicros.getD 0,
          text "recovery_retry_wait", ⟨lower, upper⟩, by decide⟩ :=
    FrontierRetryWait.create_eq_ok.mpr ⟨rfl, rfl, rfl⟩
  exact ⟨_, by rw [RecoveryWorkEvidence.wait, created]; rfl, rfl, created⟩

theorem recoveredControl_holds (state : RunState) :
    (recoveredControl state none).isDurable ∧
      recoveredControl state none ≠ .recoveryRequired := by
  cases state <;> decide

/-- The described scheduler holds fences and waits as any scheduler does. -/
theorem described_holdings (durable : DurableState plan evidence)
    (coherent : plan.Coherent) (ranged : WaitsInRange evidence) :
    (described plan generation evidence).Holdings := by
  have tracked := @described_tracked plan generation evidence durable coherent
  constructor
  case toTracked => exact tracked
  case flight =>
    intro identity
    show ((itemOf plan evidence identity).bind _).isSome ↔
      ∃ state, (itemOf plan evidence identity).bind _ = some state ∧ _
    by_cases inPlan : identity ∈ plan.identities
    · obtain ⟨item, member, same⟩ := durable.item_of inPlan
      obtain ⟨recorded, state, named, maps, found⟩ :=
        durable.frontierState_of member
      rw [durable.itemOf_eq inPlan member same]
      simp only [Option.bind_some, found, Option.some.injEq,
        exists_eq_left']
      cases recorded <;> cases maps <;>
        simp [FrontierWorkState.isInFlight]
    · simp [itemOf, inPlan]
  case fences =>
    intro identity fence
    show (itemOf plan evidence identity).bind _ = some fence → _
    intro held
    obtain ⟨item, _, held⟩ := Option.bind_eq_some_iff.mp held
    split at held
    · cases held
      have versioned := item.versioned
      simp only [isCounter, Bool.and_eq_true, decide_eq_true_eq] at versioned
      exact versioned
    · cases held
  case waits =>
    intro identity
    show ((itemOf plan evidence identity).bind _).isSome ↔
      (itemOf plan evidence identity).bind _ =
        some FrontierWorkState.retryWait
    by_cases inPlan : identity ∈ plan.identities
    · obtain ⟨item, member, same⟩ := durable.item_of inPlan
      rw [durable.itemOf_eq inPlan member same]
      simp only [Option.bind_some]
      by_cases retried : item.frontierState = some .retryWait
      · have named : item.state = text WorkItemState.retryWait.value :=
          (durable.mapped_iff member rfl).mp retried
        obtain ⟨wait, held, _⟩ := wait_of_range member ranged named identity
        simp [retried, held]
      · simp [retried]
    · simp [itemOf, inPlan]
  case owned =>
    intro identity wait
    show (itemOf plan evidence identity).bind _ = some wait → _
    intro held
    obtain ⟨item, _, held⟩ := Option.bind_eq_some_iff.mp held
    split at held
    · exact (FrontierRetryWait.create_eq_ok.mp
        (toOption_eq_some.mp held)).1
    · cases held
  case control =>
    obtain ⟨active, explained⟩ := recoveredControl_holds evidence.run.state
    exact ⟨active, by simp [described, explained], by simp [described]⟩

/-- All work of a node succeeded in the described scheduler when it did
durably. -/
theorem described_succeeded (durable : DurableState plan evidence)
    (node : Text) :
    (described plan generation evidence).AllSucceeded node ↔
      NodeSucceeded evidence node := by
  constructor
  · intro all item member here
    obtain ⟨identity, inPlan, same⟩ := durable.identity_of member
    have node : identity.nodeId = node :=
      (congrArg Prod.fst same).trans here
    have succeeded := all identity inPlan node
    rw [durable.described_states inPlan member same.symm] at succeeded
    exact (durable.mapped_iff member rfl).mp succeeded
  · intro all identity inPlan here
    obtain ⟨item, member, same⟩ := durable.item_of inPlan
    rw [durable.described_states inPlan member same]
    refine (durable.mapped_iff member rfl).mpr (all item member ?_)
    exact (congrArg Prod.fst same).trans here

theorem described_permits (durable : DurableState plan evidence)
    (node : Text) :
    (described plan generation evidence).Permits node ↔
      Opens plan evidence node := by
  apply forall₂_congr
  intro source _
  exact durable.described_succeeded source

end DurableState

/-! ## Rebuilding the described frontier -/

/-- What is rebuilt for some work, read off a scheduler. -/
def rebuiltRow (scheduler : ConcurrentScheduler) (identity : WorkIdentity) :
    RebuiltItem where
  identity
  state := (scheduler.states identity).getD .blocked
  fence := scheduler.fences identity
  wait := scheduler.retryWaits identity

section Rebuild

variable {plan : SchedulerPlan} {request : RecoveryRequest}
  {generation : ControlGeneration} {evidence : ConcurrentRecoveryEvidence}
  {identity : WorkIdentity}

theorem RecoveryRequest.Valid.keys (valid : request.Valid plan) :
    request.keys = plan.identities.map WorkIdentity.key :=
  (SchedulerPlan.create_arguments valid.created).2.2.2.2.symm

theorem RecoveryRequest.Valid.identity_eq_ok (valid : request.Valid plan)
    (inPlan : identity ∈ plan.identities) :
    WorkIdentity.create request.runId identity.key.1 identity.key.2 =
      .ok identity := by
  have coherent := SchedulerPlan.create_coherent valid.created
  refine WorkIdentity.create_eq_ok.mpr ⟨?_, rfl, rfl⟩
  rw [(coherent.known_node inPlan).2]
  exact (SchedulerPlan.create_arguments valid.created).1

/-- Of a known item, only the wait can be rejected. -/
theorem rebuildItem_eq (valid : request.Valid plan)
    (durable : DurableState plan evidence)
    (inPlan : identity ∈ plan.identities) {item : RecoveryWorkEvidence}
    (member : item ∈ evidence.work) (same : item.key = identity.key)
    {state : FrontierWorkState} (found : item.frontierState = some state) :
    rebuildItem request (itemByKey evidence) identity.key =
      (rebuildWait identity item state >>= fun wait => .ok {
        identity
        state
        fence := if state = .admitted then some item.rowVersion else none
        wait }) := by
  obtain ⟨recorded, mapped, named, maps, also⟩ :=
    durable.frontierState_of member
  rw [also, Option.some.injEq] at found
  subst found
  have kept : (if recorded = .pending &&
      !nodeAdmissionState request.edges (itemByKey evidence) identity.key.1
      then FrontierWorkState.blocked else mapped) = mapped := by
    split
    next held =>
      simp only [Bool.and_eq_true, decide_eq_true_eq] at held
      rw [held.1] at maps
      exact Option.some.inj maps
    · rfl
  have looked : subscript (itemByKey evidence) identity.key = .ok item := by
    rw [subscript, ← same, durable.lookup_key member]
  have identified : liftScheduler (WorkIdentity.create request.runId
      identity.key.1 identity.key.2) = .ok identity := by
    rw [valid.identity_eq_ok inPlan]
    rfl
  have parsed : stateValue item.state = .ok recorded := by
    rw [stateValue, WorkItemState.parse_eq_some.mpr named]
  have mapping : mappedState recorded = .ok mapped := by
    rw [mappedState, maps]
  rw [rebuildItem, looked, ok_bind, identified, ok_bind, parsed, ok_bind,
    mapping, ok_bind]
  simp only [kept]
  rfl

theorem rebuildItem_eq_ok (valid : request.Valid plan)
    (durable : DurableState plan evidence) (ranged : WaitsInRange evidence)
    (inPlan : identity ∈ plan.identities) :
    rebuildItem request (itemByKey evidence) identity.key =
      .ok (rebuiltRow (described plan generation evidence) identity) := by
  obtain ⟨item, member, same⟩ := durable.item_of inPlan
  obtain ⟨_, state, _, _, found⟩ := durable.frontierState_of member
  rw [rebuildItem_eq valid durable inPlan member same found]
  have row : rebuiltRow (described plan generation evidence) identity = {
      identity
      state
      fence := if state = .admitted then some item.rowVersion else none
      wait := if state = .retryWait then item.wait identity else none } := by
    simp only [rebuiltRow, described, durable.itemOf_eq inPlan member same,
      Option.bind_some, found, Option.getD_some, Option.some.injEq]
  have waits : rebuildWait identity item state = .ok
      (if state = .retryWait then item.wait identity else none) := by
    rw [rebuildWait]
    by_cases retried : state = .retryWait
    · have named : item.state = text WorkItemState.retryWait.value :=
        (durable.mapped_iff member rfl).mp (retried ▸ found)
      obtain ⟨wait, held, _, created⟩ :=
        DurableState.wait_of_range member ranged named identity
      rw [if_pos retried, if_pos retried, created, held]
      rfl
    · rw [if_neg retried, if_neg retried]
  rw [waits, row]
  rfl

/-- A wait outside the range of the frontier ends the rebuilding. -/
theorem rebuildFrontier_unranged (valid : request.Valid plan)
    (durable : DurableState plan evidence) (unranged : ¬ WaitsInRange evidence)
    (ambiguity : Option Text) {frontier : SchedulerFrontierV2} :
    rebuildFrontier request evidence ambiguity ≠ .ok frontier := by
  intro rebuilt
  apply unranged
  intro item member retried
  obtain ⟨identity, inPlan, same⟩ := durable.identity_of member
  obtain ⟨rows, returned, _⟩ := bind_eq_ok.mp rebuilt
  have listed : identity.key ∈ request.keys := by
    rw [valid.keys]
    exact List.mem_map.mpr ⟨identity, inPlan, rfl⟩
  obtain ⟨row, _, rebuiltItem⟩ := mapM_image returned listed
  have mapped : item.frontierState = some .retryWait :=
    (durable.mapped_iff member rfl).mpr retried
  rw [rebuildItem_eq valid durable inPlan member same.symm mapped]
    at rebuiltItem
  obtain ⟨_, waits, _⟩ := bind_eq_ok.mp rebuiltItem
  rw [rebuildWait, if_pos rfl] at waits
  obtain ⟨_, created, _⟩ := map_eq_ok.mp waits
  cases made : FrontierRetryWait.create identity
      (item.retryAvailableAtMicros.getD 0) (text "recovery_retry_wait") with
  | error failure =>
      rw [made] at created
      cases created
  | ok wait =>
      rw [← (FrontierRetryWait.create_eq_ok.mp made).2.1]
      exact wait.eligible.2

theorem itemsOf_sorted {β : Type} (f : WorkIdentity → Option β)
    (plan : SchedulerPlan) :
    sortedBy (fun entry => entry.1.sortKey) (itemsOf f plan.identities) =
      itemsOf f plan.ordered := by
  apply sortedBy_filterMap
  · intro identity entry found
    obtain ⟨_, _, rfl⟩ := Option.map_eq_some_iff.mp found
    rfl
  · intro left _ right _ same
    exact WorkIdentity.sortKey_injective same

theorem dictOf_itemsOf {β : Type} (f : WorkIdentity → Option β)
    (coherent : plan.Coherent) :
    dictOf (itemsOf f plan.identities) = itemsOf f plan.identities := by
  apply dictOf_of_nodup
  rw [keys_itemsOf]
  exact coherent.distinct.filter _

/-- Within range, the rebuilt frontier is that of the described scheduler. -/
theorem rebuildFrontier_eq (valid : request.Valid plan)
    (durable : DurableState plan evidence) (ranged : WaitsInRange evidence)
    (same : generation.value = request.controlGeneration) :
    rebuildFrontier request evidence none =
      liftScheduler (described plan generation evidence).frontier := by
  have coherent := SchedulerPlan.create_coherent valid.created
  have holds := @DurableState.described_holdings plan generation evidence
    durable coherent ranged
  obtain ⟨run, fingerprint, nodes, edges, _⟩ :=
    SchedulerPlan.create_arguments valid.created
  have rebuilt : request.keys.mapM (rebuildItem request (itemByKey evidence)) =
      .ok (plan.identities.map
        (rebuiltRow (described plan generation evidence))) := by
    rw [mapM_eq_ok, valid.keys, List.map_map, List.map_map]
    apply List.map_congr_left
    intro identity inPlan
    exact rebuildItem_eq_ok valid durable ranged inPlan
  have numbered : recoveredGeneration request.controlGeneration =
      .ok generation := by
    rw [recoveredGeneration, ← same, dif_pos generation.bounds]
  have states : (plan.identities.map
      (rebuiltRow (described plan generation evidence))).map
        (fun row => (row.identity, row.state)) =
      itemsOf (described plan generation evidence).states
        plan.identities := by
    rw [List.map_map, itemsOf, ← List.filterMap_eq_map]
    apply List.filterMap_congr
    intro identity inPlan
    obtain ⟨state, found⟩ :=
      Option.isSome_iff_exists.mp ((holds.known identity).mpr inPlan)
    simp [rebuiltRow, found]
  have fences : (plan.identities.map
      (rebuiltRow (described plan generation evidence))).filterMap
        (fun row => row.fence.map fun fence => (row.identity, fence)) =
      itemsOf (described plan generation evidence).fences
        plan.identities := by
    rw [List.filterMap_map, itemsOf]
    rfl
  have waits : (plan.identities.map
      (rebuiltRow (described plan generation evidence))).filterMap
        RebuiltItem.wait =
      plan.identities.filterMap
        (described plan generation evidence).retryWaits := by
    rw [List.filterMap_map]
    rfl
  have waitsSorted : sortedBy (fun wait => wait.identity.sortKey)
      (plan.identities.filterMap
        (described plan generation evidence).retryWaits) =
      plan.ordered.filterMap
        (described plan generation evidence).retryWaits := by
    apply sortedBy_filterMap
    · intro identity wait found
      rw [holds.owned identity wait found]
    · intro left _ right _ equal
      exact WorkIdentity.sortKey_injective equal
  rw [rebuildFrontier, rebuilt, ok_bind, numbered, ok_bind, states, fences,
    waits, waitsSorted, dictOf_itemsOf _ coherent, dictOf_itemsOf _ coherent,
    itemsOf_sorted, itemsOf_sorted, ← run, ← fingerprint, ← nodes, ← edges]
  rfl

end Rebuild

/-! ## Pending work behind an open barrier -/

/-- Pending work whose predecessor nodes, if any, have all succeeded. -/
structure OpenPending (plan : SchedulerPlan)
    (evidence : ConcurrentRecoveryEvidence) (item : RecoveryWorkEvidence) :
    Prop where
  member : item ∈ evidence.work
  pending : item.state = text WorkItemState.pending.value
  opened : Opens plan evidence item.nodeId

/-- The constructor accepts the frontier: it checks the barriers of work behind
predecessors only. -/
structure Buildable (plan : SchedulerPlan)
    (evidence : ConcurrentRecoveryEvidence) : Prop where
  ranged : WaitsInRange evidence
  rooted : ∀ item, OpenPending plan evidence item →
    ∀ source, (source, item.nodeId) ∉ plan.edges

/-- The evidence in which no pending work could start, of a run that is not
pausing. -/
structure Steady (plan : SchedulerPlan)
    (evidence : ConcurrentRecoveryEvidence) : Prop where
  ranged : WaitsInRange evidence
  closed : ∀ item, ¬ OpenPending plan evidence item
  pausing : evidence.run.state ≠ .pausing

theorem Steady.buildable {plan : SchedulerPlan}
    {evidence : ConcurrentRecoveryEvidence} (steady : Steady plan evidence) :
    Buildable plan evidence :=
  ⟨steady.ranged, fun item opened => absurd opened (steady.closed item)⟩

section Barriers

variable {plan : SchedulerPlan} {request : RecoveryRequest}
  {generation : ControlGeneration} {evidence : ConcurrentRecoveryEvidence}
  {identity : WorkIdentity} {frontier : SchedulerFrontierV2}

/-- Work is held blocked when it is pending. -/
theorem DurableState.described_blocked (durable : DurableState plan evidence)
    (inPlan : identity ∈ plan.identities) {item : RecoveryWorkEvidence}
    (member : item ∈ evidence.work) (same : item.key = identity.key) :
    (described plan generation evidence).states identity = some .blocked ↔
      item.state = text WorkItemState.pending.value := by
  rw [durable.described_states inPlan member same]
  exact durable.mapped_iff member rfl

/-- Only pending work behind an open barrier contradicts its barrier. -/
theorem DurableState.described_barrier (durable : DurableState plan evidence)
    (inPlan : identity ∈ plan.identities) {item : RecoveryWorkEvidence}
    (member : item ∈ evidence.work) (same : item.key = identity.key) :
    ((described plan generation evidence).states identity = some .blocked ↔
      ¬ (described plan generation evidence).Permits identity.nodeId) ↔
        ¬ OpenPending plan evidence item := by
  have node : item.nodeId = identity.nodeId := congrArg Prod.fst same
  rw [durable.described_blocked inPlan member same,
    durable.described_permits, ← node]
  constructor
  · intro agrees opened
    exact agrees.mp opened.pending opened.opened
  · intro closed
    constructor
    · intro pending opens
      exact closed ⟨member, pending, opens⟩
    · intro shut
      by_contra other
      exact shut (durable.claimed item member other)

theorem DurableState.described_coherent (durable : DurableState plan evidence)
    (coherent : plan.Coherent) (ranged : WaitsInRange evidence) :
    (described plan generation evidence).fields.Coherent ↔
      Buildable plan evidence := by
  have holds := @DurableState.described_holdings plan generation evidence
    durable coherent ranged
  rw [holds.fields_coherent]
  constructor
  · intro barriers
    refine ⟨ranged, fun item opened source edge => ?_⟩
    obtain ⟨identity, inPlan, same⟩ := durable.identity_of opened.member
    have node : identity.nodeId = item.nodeId := congrArg Prod.fst same
    have behind : predecessorsOf plan.edges item.nodeId ≠ [] :=
      List.ne_nil_of_mem (mem_predecessorsOf.mpr edge)
    have barrier := holds.barrierHolds_iff.mp
      (barriers item.nodeId (coherent.spans _ edge).2) behind identity
      inPlan node
    rw [← node] at barrier
    exact (durable.described_barrier inPlan opened.member same.symm).mp
      barrier opened
  · intro buildable node _
    rw [holds.barrierHolds_iff]
    rintro behind identity inPlan rfl
    obtain ⟨item, member, same⟩ := durable.item_of inPlan
    refine (durable.described_barrier inPlan member same).mpr fun opened => ?_
    obtain ⟨source, listed⟩ := List.exists_mem_of_ne_nil _ behind
    have here : item.nodeId = identity.nodeId := congrArg Prod.fst same
    exact buildable.rooted item opened source
      (here ▸ mem_predecessorsOf.mp listed)

/-- What is rebuilt, when anything is. -/
theorem rebuildFrontier_eq_ok (valid : request.Valid plan)
    (durable : DurableState plan evidence)
    (same : generation.value = request.controlGeneration) :
    rebuildFrontier request evidence none = .ok frontier ↔
      Buildable plan evidence ∧ frontier.toFrontierFields =
        (described plan generation evidence).fields := by
  have coherent := SchedulerPlan.create_coherent valid.created
  by_cases ranged : WaitsInRange evidence
  · rw [rebuildFrontier_eq valid durable ranged same,
      ConcurrentScheduler.frontier, liftScheduler, ←
      @DurableState.described_coherent plan generation evidence durable
        coherent ranged]
    cases created : SchedulerFrontierV2.create
        (described plan generation evidence).fields with
    | ok built =>
        have fields := SchedulerFrontierV2.create_eq_ok.mp created
        simp only [Except.mapError, Except.ok.injEq]
        constructor
        · rintro rfl
          exact ⟨fields ▸ built.coherent, fields⟩
        · rintro ⟨_, equal⟩
          exact SchedulerFrontierV2.ext (fields.trans equal.symm)
    | error failure =>
        simp only [Except.mapError, reduceCtorEq, false_iff, not_and]
        rintro - equal
        rw [SchedulerFrontierV2.create_eq_ok.mpr equal] at created
        cases created
  · constructor
    · intro rebuilt
      exact absurd rebuilt
        (rebuildFrontier_unranged valid durable ranged none)
    · rintro ⟨buildable, _⟩
      exact absurd buildable.ranged ranged

theorem rebuildFrontier_returns (valid : request.Valid plan)
    (durable : DurableState plan evidence) :
    (∃ frontier, rebuildFrontier request evidence none = .ok frontier) ↔
      Buildable plan evidence := by
  have bounds := valid.generation
  simp only [isCounter, Bool.and_eq_true, decide_eq_true_eq] at bounds
  have coherent := SchedulerPlan.create_coherent valid.created
  constructor
  · rintro ⟨frontier, rebuilt⟩
    exact ((@rebuildFrontier_eq_ok plan request ⟨_, bounds⟩ evidence frontier
      valid durable rfl).mp rebuilt).1
  · intro buildable
    have accepted := (@DurableState.described_coherent plan ⟨_, bounds⟩
      evidence durable coherent buildable.ranged).mpr buildable
    exact ⟨⟨_, FrontierFields.check_eq_ok.mpr accepted⟩,
      (@rebuildFrontier_eq_ok plan request ⟨_, bounds⟩ evidence _ valid
        durable rfl).mpr ⟨buildable, rfl⟩⟩

end Barriers

/-! ## What a recovered frontier is to achieve -/

/-- The state that a scheduler itself would hold for a durable item. -/
structure HeldAs (plan : SchedulerPlan)
    (evidence : ConcurrentRecoveryEvidence) (item : RecoveryWorkEvidence)
    (state : FrontierWorkState) : Prop where
  ready : item.state = text WorkItemState.pending.value →
    Opens plan evidence item.nodeId → state = .ready
  blocked : item.state = text WorkItemState.pending.value →
    ¬ Opens plan evidence item.nodeId → state = .blocked
  claimed : ∀ recorded : WorkItemState, recorded ≠ .pending →
    item.state = text recorded.value → recorded.frontierState = some state

/-- A scheduler's state of some work, where the durable item is recorded. -/
def WorkItemState.Agrees : WorkItemState → FrontierWorkState → Prop
  | .pending, state => state = .blocked ∨ state = .ready
  | .leased, _ => False
  | .running, state => state.isInFlight
  | .retryWait, state => state = .retryWait ∨ state = .ready
  | .succeeded, state => state = .succeeded
  | .quarantined, state => state = .quarantined
  | .failed, state => state = .failed
  | .cancelled, state => state = .cancelled

/-- The control states of a scheduler whose run is recorded in a state. -/
def RunState.controls : RunState → List ContractLifecycleState
  | .running => [.running, .recoveryRequired]
  | .pausing => [.quiescing, .recoveryRequired]
  | .paused => [.paused, .recoveryRequired]
  | .resuming => [.paused, .running, .recoveryRequired]
  | .cancelling => [.cancelling, .recoveryRequired]
  | _ => []

/-- An uninterrupted scheduler whose durable evidence this is. -/
structure Uninterrupted (plan : SchedulerPlan) (generation : Int)
    (evidence : ConcurrentRecoveryEvidence) (scheduler : ConcurrentScheduler) :
    Prop where
  work : ∀ identity ∈ plan.identities, ∀ item ∈ evidence.work,
    item.key = identity.key → ∀ recorded : WorkItemState,
      item.state = text recorded.value → ∃ state,
        scheduler.states identity = some state ∧
          WorkItemState.Agrees recorded state
  control : scheduler.controlState ∈ RunState.controls evidence.run.state
  generation : scheduler.controlGeneration.value = generation

/-- The frontier is the scheduler's own, keeps a run that is not to admit from
admitting, and lets a fresh scheduler complete what could be completed. -/
structure FrontierFaithful (plan : SchedulerPlan) (generation : Int)
    (evidence : ConcurrentRecoveryEvidence)
    (frontier : SchedulerFrontierV2) : Prop where
  mapped : ∀ identity ∈ plan.identities, ∀ item ∈ evidence.work,
    item.key = identity.key → ∃ state,
      (identity, state) ∈ frontier.workStates ∧
        HeldAs plan evidence item state
  quiet : evidence.run.state ∈ [RunState.pausing, .paused, .cancelling] →
    frontier.controlState ≠ .running
  completes : ∀ fresh, ∃ restored,
    (plan.start fresh).restore frontier = (.ok (), restored) ∧
      ∀ run, (schedulerSystem plan).Reachable run →
        Uninterrupted plan generation evidence run.scheduler →
          ∀ identity, run.scheduler.Completes identity →
            restored.Completes identity

section Faithful

variable {plan : SchedulerPlan} {generation : ControlGeneration}
  {evidence : ConcurrentRecoveryEvidence} {frontier : SchedulerFrontierV2}

theorem DurableState.fits (durable : DurableState plan evidence)
    (coherent : plan.Coherent) (ranged : WaitsInRange evidence)
    (fields : frontier.toFrontierFields =
      (described plan generation evidence).fields) : plan.Fits frontier := by
  have holds := @DurableState.described_holdings plan generation evidence
    durable coherent ranged
  constructor
  case run => rw [fields]; rfl
  case fingerprint => rw [fields]; rfl
  case nodes => rw [fields]; rfl
  case edges => rw [fields]; rfl
  case work =>
    rw [fields]
    exact holds.identities_fields

/-- A restored scheduler holds the states that were described. -/
theorem DurableState.restored_states (durable : DurableState plan evidence)
    (coherent : plan.Coherent) (ranged : WaitsInRange evidence)
    (fields : frontier.toFrontierFields =
      (described plan generation evidence).fields)
    {identity : WorkIdentity} {state : FrontierWorkState} :
    (plan.restored frontier).states identity = some state ↔
      (described plan generation evidence).states identity = some state := by
  have holds := @DurableState.described_holdings plan generation evidence
    durable coherent ranged
  rw [SchedulerFrontierV2.restored_states, fields, holds.mem_workStates]

/-- In steady evidence, pending work is blocked in every scheduler of the
plan. -/
theorem Uninterrupted.phases (steady : Steady plan evidence)
    (durable : DurableState plan evidence)
    {scheduler : ConcurrentScheduler} (holds : scheduler.SchedulerInvariant)
    (samePlan : scheduler.plan = plan) {number : Int}
    (matched : Uninterrupted plan number evidence scheduler)
    (identity : WorkIdentity) :
    (described plan generation evidence).phaseOf identity =
      scheduler.phaseOf identity := by
  by_cases inPlan : identity ∈ plan.identities
  · obtain ⟨item, member, same⟩ := durable.item_of inPlan
    obtain ⟨recorded, state, named, maps, found⟩ :=
      durable.frontierState_of member
    obtain ⟨own, there, agrees⟩ :=
      matched.work identity inPlan item member same recorded named
    rw [ConcurrentScheduler.phaseOf, ConcurrentScheduler.phaseOf, there,
      durable.described_states inPlan member same, found, Option.map_some,
      Option.map_some, Option.some.injEq]
    cases recorded with
    | pending =>
        cases maps
        rcases agrees with rfl | rfl
        · rfl
        · -- A ready item would be pending behind an open barrier.
          exfalso
          have open_ : Opens plan evidence item.nodeId := by
            intro source edge other otherMember here
            have permitted : scheduler.Permits identity.nodeId := by
              by_contra closed
              have blocked := (holds.barrier identity
                (samePlan ▸ inPlan)).mpr closed
              rw [there] at blocked
              cases blocked
            obtain ⟨someone, known, key⟩ := durable.identity_of otherMember
            have node : item.nodeId = identity.nodeId :=
              congrArg Prod.fst same
            have succeeded := permitted source
              (by rw [samePlan, ← node]; exact edge) someone
              (samePlan ▸ known) ((congrArg Prod.fst key).trans here)
            obtain ⟨theirs, _, theirName, _, _⟩ :=
              durable.frontierState_of otherMember
            obtain ⟨_, found, theirAgrees⟩ := matched.work someone known
              other otherMember key.symm theirs theirName
            rw [succeeded, Option.some.injEq] at found
            rw [theirName]
            subst found
            cases theirs <;>
              simp_all [WorkItemState.Agrees,
                FrontierWorkState.isInFlight]
          exact steady.closed item ⟨member, named, open_⟩
    | leased => cases maps
    | running =>
        cases maps
        exact (FrontierWorkState.phase_inFlight.mpr agrees).symm
    | retryWait =>
        cases maps
        rcases agrees with rfl | rfl
        · rfl
        · rfl
    | succeeded => cases maps; cases agrees; rfl
    | quarantined => cases maps; cases agrees; rfl
    | failed => cases maps; cases agrees; rfl
    | cancelled => cases maps; cases agrees; rfl
  · have unknown : scheduler.states identity = none := by
      rw [← Option.not_isSome_iff_eq_none, holds.known, samePlan]
      exact inPlan
    rw [ConcurrentScheduler.phaseOf, ConcurrentScheduler.phaseOf, unknown]
    simp [described, itemOf, inPlan]

/-- A run that is not pausing is recovered to a control state that follows. -/
theorem Uninterrupted.control_follows (steady : Steady plan evidence)
    (active : evidence.run.state.isRecoverable)
    (fields : frontier.toFrontierFields =
      (described plan generation evidence).fields)
    {scheduler : ConcurrentScheduler}
    (matched : Uninterrupted plan generation.value evidence scheduler) :
    ConcurrentScheduler.ControlFollows scheduler
      (plan.restored frontier) := by
  have restored : (plan.restored frontier).controlState =
      recoveredControl evidence.run.state none := by
    show frontier.controlState = _
    rw [fields]
    rfl
  have sameGeneration : (plan.restored frontier).controlGeneration =
      scheduler.controlGeneration := by
    show frontier.controlGeneration = _
    rw [fields]
    exact ControlGeneration.ext matched.generation.symm
  have control := matched.control
  have pausing := steady.pausing
  rw [ConcurrentScheduler.ControlFollows, restored]
  cases state : evidence.run.state with
  | running => exact .inl rfl
  | resuming => exact .inl rfl
  | pausing => exact absurd state pausing
  | paused =>
      rw [state] at control
      rcases List.mem_cons.mp control with paused | other
      · exact .inr (.inr ⟨paused, rfl, sameGeneration⟩)
      · exact .inr (.inl (List.mem_cons_of_mem _ other))
  | cancelling =>
      rw [state] at control
      exact .inr (.inl control)
  | queued => simp [state, RunState.isRecoverable] at active
  | succeeded => simp [state, RunState.isRecoverable] at active
  | partiallySucceeded => simp [state, RunState.isRecoverable] at active
  | failed => simp [state, RunState.isRecoverable] at active
  | cancelled => simp [state, RunState.isRecoverable] at active

/-- A scheduler restored from steady evidence follows an uninterrupted one. -/
theorem Uninterrupted.follows (steady : Steady plan evidence)
    (durable : DurableState plan evidence) (coherent : plan.Coherent)
    (fields : frontier.toFrontierFields =
      (described plan generation evidence).fields)
    {scheduler : ConcurrentScheduler} (holds : scheduler.SchedulerInvariant)
    (samePlan : scheduler.plan = plan)
    (matched : Uninterrupted plan generation.value evidence scheduler) :
    ConcurrentScheduler.Follows scheduler (plan.restored frontier) := by
  have fits := durable.fits coherent steady.ranged fields
  have states := fun identity state =>
    @DurableState.restored_states plan generation evidence frontier durable
      coherent steady.ranged fields identity state
  refine ⟨holds, SchedulerFrontierV2.restored_invariant coherent fits ?_,
    samePlan.symm, fun identity => ?_,
    matched.control_follows steady durable.active fields⟩
  · intro identity root blocked
    have held := (states identity .blocked).mp
      (SchedulerFrontierV2.restored_states.mpr blocked)
    have inPlan := (durable.described_tracked coherent).known identity |>.mp
      (by rw [held]; rfl)
    obtain ⟨item, member, same⟩ := durable.item_of inPlan
    refine steady.closed item ⟨member,
      (durable.described_blocked inPlan member same).mp held, ?_⟩
    intro source edge
    have node : item.nodeId = identity.nodeId := congrArg Prod.fst same
    have listed := mem_predecessorsOf.mpr edge
    rw [node, root] at listed
    cases listed
  · rw [← Uninterrupted.phases steady durable holds samePlan matched identity]
    have same : (plan.restored frontier).states identity =
        (described plan generation evidence).states identity :=
      Option.ext fun state => states identity state
    rw [ConcurrentScheduler.phaseOf, ConcurrentScheduler.phaseOf, same]

/-- A rebuilt frontier is faithful exactly when the evidence is steady. -/
theorem frontierFaithful_iff (durable : DurableState plan evidence)
    (coherent : plan.Coherent) (buildable : Buildable plan evidence)
    (fields : frontier.toFrontierFields =
      (described plan generation evidence).fields) :
    FrontierFaithful plan generation.value evidence frontier ↔
      Steady plan evidence := by
  have holds := @DurableState.described_holdings plan generation evidence
    durable coherent buildable.ranged
  have fits := durable.fits coherent buildable.ranged fields
  have states : ∀ identity state, (identity, state) ∈ frontier.workStates ↔
      (described plan generation evidence).states identity = some state := by
    intro identity state
    rw [fields, holds.mem_workStates]
  constructor
  · intro faithful
    refine ⟨buildable.ranged, fun item opened => ?_, fun pausing => ?_⟩
    · obtain ⟨identity, inPlan, same⟩ := durable.identity_of opened.member
      obtain ⟨state, mapped, own⟩ := faithful.mapped identity inPlan item
        opened.member same.symm
      rw [states, own.ready opened.pending opened.opened] at mapped
      have blocked := (@DurableState.described_blocked plan generation
        evidence identity durable inPlan item opened.member same.symm).mpr
          opened.pending
      rw [mapped] at blocked
      cases blocked
    · apply faithful.quiet (by simp [pausing])
      rw [fields]
      show recoveredControl evidence.run.state none = .running
      rw [pausing]
      rfl
  · intro steady
    constructor
    case mapped =>
      intro identity inPlan item member same
      obtain ⟨recorded, state, named, maps, found⟩ :=
        durable.frontierState_of member
      refine ⟨state, (states identity state).mpr ?_, ?_⟩
      · rw [durable.described_states inPlan member same, found]
      · constructor
        · intro pending opened
          exact absurd ⟨member, pending, opened⟩ (steady.closed item)
        · intro pending _
          rw [named] at pending
          rw [WorkItemState.value_injective pending] at maps
          exact (Option.some.inj maps).symm
        · intro other _ also
          rw [named] at also
          rw [← WorkItemState.value_injective also]
          exact maps
    case quiet =>
      intro resting
      rw [fields]
      show recoveredControl evidence.run.state none ≠ .running
      have pausing := steady.pausing
      revert resting pausing
      cases evidence.run.state <;> decide
    case completes =>
      intro fresh
      refine ⟨_, SchedulerFrontierV2.restore_fits coherent fits fresh, ?_⟩
      intro run reached matched identity
      have runs := SchedulerRun.run_holds coherent reached
      exact (Uninterrupted.follows steady durable coherent fields
        runs.invariant runs.same matched).completes

end Faithful

/-! ## Recovering -/

/-- Running work without complete lease evidence. -/
def RecoveryWorkEvidence.Incomplete (item : RecoveryWorkEvidence) : Prop :=
  item.state = text WorkItemState.running.value ∧
    (item.leaseOwner = none ∨ item.leaseExpiresAtMicros = none ∨
      item.activeAttemptNumber = none)

/-- Running work whose complete lease has not expired. -/
def RecoveryWorkEvidence.Live (item : RecoveryWorkEvidence)
    (nowMicros : Int) : Prop :=
  item.state = text WorkItemState.running.value ∧
    item.leaseOwner ≠ none ∧ item.activeAttemptNumber ≠ none ∧
      ∃ expiresAt ∈ item.leaseExpiresAtMicros, nowMicros < expiresAt

/-- Evidence that recovery does not act upon. -/
def Ambiguous (evidence : ConcurrentRecoveryEvidence) : Prop :=
  0 < evidence.integrityIssueCount ∨ 0 < evidence.inProgressIdempotency ∨
    ∃ item ∈ evidence.work, item.Incomplete

/-- Some lease is live. -/
def LeaseLive (evidence : ConcurrentRecoveryEvidence) (nowMicros : Int) :
    Prop :=
  ∃ item ∈ evidence.work, item.Live nowMicros

/-- What the loop of `_classify_leases` has found among some items. -/
structure LeasesClassified (nowMicros : Int) (before after : LeaseClasses)
    (items : List RecoveryWorkEvidence) : Prop where
  ambiguity : after.ambiguity.isSome ↔ before.ambiguity.isSome ∨
    ∃ item ∈ items, item.Incomplete
  nonExpired : after.nonExpired = [] ↔ before.nonExpired = [] ∧
    ∀ item ∈ items, ¬ item.Live nowMicros
  expired : ∀ leased ∈ after.expired, leased ∈ before.expired ∨
    ∃ item ∈ items, leased.identity.nodeId = item.nodeId

theorem classifyItem_classified {runId : Text} {nowMicros : Int}
    {classes : LeaseClasses} {item : RecoveryWorkEvidence}
    {identity : WorkIdentity}
    (known : WorkIdentity.create runId item.nodeId item.partitionKey =
      .ok identity) :
    ∃ next, classifyItem runId nowMicros classes item = .ok next ∧
      LeasesClassified nowMicros classes next [item] := by
  have node : identity.nodeId = item.nodeId :=
    (WorkIdentity.create_eq_ok.mp known).2.1
  unfold classifyItem
  by_cases running : item.state = text WorkItemState.running.value
  · rw [if_neg (not_not.mpr running)]
    split
    next owner expiresAt attempt held expires attempted =>
      have complete : ¬ item.Incomplete := by
        rintro ⟨_, missing⟩
        simp [held, expires, attempted] at missing
      rw [known]
      simp only [liftScheduler, Except.mapError, ok_bind]
      split
      next elapsed =>
        have settled : ¬ item.Live nowMicros := by
          rintro ⟨_, _, _, instant, same, later⟩
          rw [expires] at same
          cases same
          omega
        refine ⟨_, rfl, by simp [complete], by simp [settled], ?_⟩
        intro leased member
        rcases List.mem_append.mp member with earlier | now
        · exact .inl earlier
        · rw [List.mem_singleton.mp now]
          exact .inr ⟨item, by simp, node⟩
      next live =>
        have lives : item.Live nowMicros :=
          ⟨running, by simp [held], by simp [attempted], expiresAt, expires,
            by omega⟩
        exact ⟨_, rfl, by simp [complete], by simp [lives],
          fun leased member => .inl member⟩
    next partial_ =>
      have incomplete : item.Incomplete := by
        refine ⟨running, ?_⟩
        by_contra complete
        simp only [not_or] at complete
        obtain ⟨owner, held⟩ := Option.ne_none_iff_exists'.mp complete.1
        obtain ⟨expiresAt, expires⟩ :=
          Option.ne_none_iff_exists'.mp complete.2.1
        obtain ⟨attempt, attempted⟩ :=
          Option.ne_none_iff_exists'.mp complete.2.2
        exact partial_ owner expiresAt attempt held expires attempted
      have settled : ¬ item.Live nowMicros := by
        rintro ⟨_, owned, attempted, instant, expires, _⟩
        rcases incomplete.2 with missing | missing | missing
        · exact owned missing
        · rw [missing] at expires
          cases expires
        · exact attempted missing
      refine ⟨_, rfl, ?_, by simp [settled], fun _ member => .inl member⟩
      cases classes.ambiguity <;> simp [incomplete]
  · rw [if_pos running]
    have settled : ¬ item.Live nowMicros := fun live => running live.1
    have complete : ¬ item.Incomplete := fun bad => running bad.1
    exact ⟨classes, rfl, by simp [complete], by simp [settled],
      fun _ member => .inl member⟩

theorem classifyItems_classified {runId : Text} {nowMicros : Int}
    {items : List RecoveryWorkEvidence}
    (known : ∀ item ∈ items, ∃ identity,
      WorkIdentity.create runId item.nodeId item.partitionKey = .ok identity)
    (classes : LeaseClasses) :
    ∃ next, items.foldlM (classifyItem runId nowMicros) classes = .ok next ∧
      LeasesClassified nowMicros classes next items := by
  induction items generalizing classes with
  | nil =>
      exact ⟨classes, rfl, by simp, by simp, fun _ member => .inl member⟩
  | cons item rest ih =>
      rw [List.forall_mem_cons] at known
      obtain ⟨identity, created⟩ := known.1
      obtain ⟨middle, classified, first⟩ :=
        @classifyItem_classified runId nowMicros classes item identity created
      obtain ⟨last, looped, later⟩ := ih known.2 middle
      refine ⟨last, ?_, ?_, ?_, ?_⟩
      · rw [List.foldlM_cons, classified, ok_bind, looped]
      · rw [later.ambiguity, first.ambiguity]
        simp [or_assoc]
      · rw [later.nonExpired, first.nonExpired]
        simp [and_assoc]
      · intro leased member
        rcases later.expired leased member with earlier | found
        · rcases first.expired leased earlier with before | now
          · exact .inl before
          · obtain ⟨other, single, same⟩ := now
            rw [List.mem_singleton.mp single] at same
            exact .inr ⟨item, List.mem_cons_self, same⟩
        · obtain ⟨other, listed, same⟩ := found
          exact .inr ⟨other, List.mem_cons_of_mem _ listed, same⟩

/-- The ports answer: the clock within range, the reader with two durable
states in turn, and the writer with a result to every command. -/
structure RecoveryPorts.Answer (ports : RecoveryPorts)
    (request : RecoveryRequest) (nowMicros : Int)
    (first final : ConcurrentRecoveryEvidence) : Prop where
  now : ports.clock 0 = .ok nowMicros
  clock : ∀ reading, ∃ instant, ports.clock reading = .ok instant ∧
    minInstant ≤ instant ∧ instant + request.retryDelayMicros ≤ maxInstant
  first : ports.read 0 = .ok first
  final : ports.read 1 = .ok final
  writer : ∀ command, ∃ receipt result,
    ports.submit command = .ok receipt ∧ receipt.result = some result

section Recover

variable {plan : SchedulerPlan} {request : RecoveryRequest}
  {ports : RecoveryPorts} {nowMicros : Int}
  {first final evidence : ConcurrentRecoveryEvidence}

/-- A resolution replaces the version of one node. -/
theorem resolveExpired_ok {leased : LeasedWorkClassification} {reading : Nat}
    {expected : ExpectedVersions} {resolved : ExpectedVersions × Text}
    (settled : resolveExpired ports request leased reading expected =
      .ok resolved) :
    (∃ version, resolved.1.nodes = alter leased.identity.nodeId
      (fun _ => version) expected.nodes) ∧
        isCounter 1 resolved.1.sequence := by
  simp only [resolveExpired, bind_eq_ok] at settled
  obtain ⟨_, _, _, _, _, _, _, _, receipt, _, settled⟩ := settled
  split at settled
  · cases settled
  next result _ =>
    cases settled
    exact ⟨⟨_, rfl⟩, result.positive⟩

/-- Every expired lease of a known node is resolved. -/
theorem resolveAll_returns (valid : request.Valid plan)
    (answer : ports.Answer request nowMicros first final)
    {leases : List LeasedWorkClassification} (reading : Nat)
    {expected : ExpectedVersions}
    (nodes : ∀ leased ∈ leases,
      leased.identity.nodeId ∈ expected.nodes.map Prod.fst)
    (sequence : isCounter 1 expected.sequence) :
    Returns (resolveAll ports request leases reading expected) := by
  induction leases generalizing reading expected with
  | nil => exact .ok []
  | cons leased rest ih =>
      rw [List.forall_mem_cons] at nodes
      obtain ⟨instant, observed, lower, upper⟩ := answer.clock reading
      have later : fromMicros (instant + request.retryDelayMicros) =
          .ok (instant + request.retryDelayMicros) := by
        have delay := valid.delay.1
        rw [fromMicros,
          if_pos ⟨lower.trans (Int.le_add_of_nonneg_right delay), upper⟩]
      obtain ⟨version, found⟩ :=
        Option.isSome_iff_exists.mp (lookup_isSome.mpr nodes.1)
      have subscripted : subscript expected.nodes leased.identity.nodeId =
          .ok version := by
        rw [subscript, found]
      rw [resolveAll]
      refine .bind ?_ fun resolved settled => .bind (ih _ ?_ ?_) fun _ _ => .ok _
      · rw [resolveExpired, observed, ok_bind, later, ok_bind, subscripted,
          ok_bind, sequence, require_true, ok_bind]
        obtain ⟨receipt, result, submitted, kind⟩ := answer.writer {
          runId := leased.identity.runId
          nodeId := leased.identity.nodeId
          workItemId := leased.workItemId
          expectedWorkRowVersion := leased.rowVersion
          expectedAttemptNumber := leased.attemptNumber
          observedAt := instant
          retryAvailableAt := instant + request.retryDelayMicros
          expectedNodeRowVersion := version
          expectedRunRowVersion := expected.run
          expectedNextSequence := expected.sequence
          expectedCounterRowVersion := expected.counter }
        rw [submitted, passRecoveryErrors, Except.mapError, ok_bind, kind]
        exact .ok _
      · intro other member
        obtain ⟨⟨version, nodesEq⟩, _⟩ := resolveExpired_ok settled
        rw [nodesEq, mem_keys_alter]
        exact .inl (nodes.2 other member)
      · exact (resolveExpired_ok settled).2

theorem requireTopology_ok (valid : request.Valid plan) :
    requireTopology request = .ok () := by
  have coherent := SchedulerPlan.create_coherent valid.created
  obtain ⟨_, _, nodes, _, keys⟩ :=
    SchedulerPlan.create_arguments valid.created
  simp only [requireTopology, check_bind_eq_ok, require_eq_ok, forM_eq_ok,
    decide_eq_true_eq]
  refine ⟨nodes ▸ coherent.nonempty, nodes ▸ coherent.nodes, ?_⟩
  intro node known empty
  obtain ⟨identity, inPlan, here⟩ := coherent.node_work (nodes ▸ known)
  have listed : identity.key ∈ request.keys := by
    rw [valid.keys]
    exact List.mem_map.mpr ⟨identity, inPlan, rfl⟩
  obtain ⟨other, _, inNode⟩ := List.mem_flatMap.mp listed
  obtain ⟨partition, member, same⟩ := List.mem_map.mp inNode
  have named : other = node := (congrArg Prod.fst same).trans here
  rw [named, empty] at member
  cases member

theorem requireEvidenceCoversPlan_ok (valid : request.Valid plan)
    (durable : DurableState plan evidence) :
    requireEvidenceCoversPlan request evidence = .ok () := by
  have run := (SchedulerPlan.create_arguments valid.created).1
  simp only [requireEvidenceCoversPlan, check_bind_eq_ok, require_eq_ok,
    decide_eq_true_eq, Bool.and_eq_true, List.all_eq_true, valid.keys]
  refine ⟨durable.run.trans run, fun item member => ?_, fun key listed => ?_⟩
  · exact (durable.covers item.key).mp
      (List.mem_map.mpr ⟨item, member, rfl⟩)
  · exact (durable.covers key).mpr listed

theorem readEvidence_eq (valid : request.Valid plan) {turn : Nat}
    (answered : ports.read turn = .ok evidence) :
    readEvidence ports request turn = .ok evidence := by
  have coherent := SchedulerPlan.create_coherent valid.created
  have run := (SchedulerPlan.create_arguments valid.created).1
  have named : request.runId ≠ [] := by
    intro empty
    have plain := coherent.run
    rw [run, empty] at plain
    cases plain
  rw [readEvidence, answered]
  simp [named, passRecoveryErrors, Except.mapError]

/-- The leases of a durable state are classified. -/
theorem classifyLeases_ok (valid : request.Valid plan)
    (durable : DurableState plan evidence) (nowMicros : Int) :
    ∃ classes, classifyLeases evidence nowMicros = .ok classes ∧
      (classes.ambiguity.isSome ↔ Ambiguous evidence) ∧
      (classes.nonExpired = [] ↔ ¬ LeaseLive evidence nowMicros) ∧
      ∀ leased ∈ classes.expired, leased.identity.nodeId ∈
        evidence.nodes.map Prod.fst := by
  have coherent := SchedulerPlan.create_coherent valid.created
  have run := (SchedulerPlan.create_arguments valid.created).1
  have known : ∀ item ∈ evidence.work, ∃ identity,
      WorkIdentity.create evidence.run.runId item.nodeId item.partitionKey =
        .ok identity := by
    intro item member
    obtain ⟨identity, inPlan, same⟩ := durable.identity_of member
    have created := valid.identity_eq_ok inPlan
    rw [same, ← run, ← durable.run] at created
    exact ⟨identity, created⟩
  obtain ⟨classes, looped, classified⟩ := @classifyItems_classified
    evidence.run.runId nowMicros evidence.work known
      ⟨[], [], initialAmbiguity evidence⟩
  refine ⟨_, by rw [classifyLeases, looped]; rfl, ?_, ?_, ?_⟩
  · rw [classified.ambiguity, Ambiguous, ← or_assoc]
    apply or_congr ?_ Iff.rfl
    unfold initialAmbiguity
    split
    next found => simp [found]
    next clean =>
      split
      next found => simp [found]
      next quiet => simp [clean, quiet]
  · have sorted_ : ∀ leases : List LeasedWorkClassification,
        sortedBy (fun leased => leased.identity.sortKey) leases = [] ↔
          leases = [] := by
      intro leases
      rw [← List.length_eq_zero_iff, sortedBy_length,
        List.length_eq_zero_iff]
    rw [sorted_, classified.nonExpired, LeaseLive]
    simp
  · intro leased member
    rcases classified.expired leased (mem_sortedBy.mp member) with
      none_ | ⟨item, listed, same⟩
    · cases none_
    · obtain ⟨identity, inPlan, key⟩ := durable.identity_of listed
      rw [same]
      apply durable.nodes
      rw [show item.nodeId = identity.nodeId from
        (congrArg Prod.fst key).symm]
      exact (coherent.known_node inPlan).1

/-- Recovery gets as far as classifying the leases that it read first. -/
theorem recover_eq (valid : request.Valid plan)
    (answer : ports.Answer request nowMicros first final)
    {classes : LeaseClasses}
    (classified : classifyLeases first nowMicros = .ok classes)
    {owner : Nat} {report : ConcurrentRecoveryReport} :
    recover ports request owner = .ok report →
      classes.ambiguity = none ∧
        (classes.nonExpired = [] ∨
          request.nonExpiredPolicy ≠ .remainRecoveryRequired) ∧
        rebuildFrontier request final none = .ok report.frontier := by
  intro returned
  rw [recover] at returned
  simp only [check_bind_eq_ok] at returned
  obtain ⟨_, _, _, returned⟩ := returned
  rw [readEvidence_eq valid answer.first, ok_bind] at returned
  simp only [check_bind_eq_ok] at returned
  obtain ⟨_, _, returned⟩ := returned
  rw [answer.now, ok_bind, classified, ok_bind] at returned
  split at returned
  · cases returned
  next clean =>
    obtain ⟨allowed, returned⟩ := check_bind_eq_ok.mp returned
    obtain ⟨_, _, returned⟩ := bind_eq_ok.mp returned
    rw [readEvidence_eq valid answer.final, ok_bind] at returned
    obtain ⟨_, returned⟩ := check_bind_eq_ok.mp returned
    obtain ⟨frontier, rebuilt, same⟩ := bind_eq_ok.mp returned
    cases same
    rw [require_eq_ok, Bool.or_eq_true, List.isEmpty_iff,
      decide_eq_true_eq] at allowed
    exact ⟨clean, allowed, rebuilt⟩

/-- Recovery returns what it rebuilds. -/
theorem recover_returns (valid : request.Valid plan)
    (answer : ports.Answer request nowMicros first final)
    (before : DurableState plan first) (after : DurableState plan final)
    {classes : LeaseClasses}
    (classified : classifyLeases first nowMicros = .ok classes)
    (nodes : ∀ leased ∈ classes.expired, leased.identity.nodeId ∈
      first.nodes.map Prod.fst)
    (clean : classes.ambiguity = none)
    (allowed : classes.nonExpired = [] ∨
      request.nonExpiredPolicy ≠ .remainRecoveryRequired)
    {frontier : SchedulerFrontierV2}
    (rebuilt : rebuildFrontier request final none = .ok frontier)
    (owner : Nat) :
    ∃ report, recover ports request owner = .ok report ∧
      report.frontier = frontier := by
  have delay : (decide (0 ≤ request.retryDelayMicros) &&
      decide (request.retryDelayMicros ≤ maxRecoveryMicros)) = true := by
    simpa using valid.delay
  have permitted : (classes.nonExpired.isEmpty ||
      decide (request.nonExpiredPolicy ≠ .remainRecoveryRequired)) = true := by
    rw [Bool.or_eq_true, List.isEmpty_iff, decide_eq_true_eq]
    exact allowed
  obtain ⟨submissions, resolved⟩ := @resolveAll_returns plan request ports
    nowMicros first final valid answer classes.expired 1 {
      nodes := first.nodes
      run := first.run.rowVersion
      sequence := first.nextEventSequence
      counter := first.eventCounterRowVersion } nodes before.sequence
  rw [recover, valid.generation, require_true, ok_bind, delay, require_true,
    ok_bind, requireTopology_ok valid, ok_bind,
    readEvidence_eq valid answer.first, ok_bind,
    requireEvidenceCoversPlan_ok valid before, ok_bind, before.active,
    require_true, ok_bind, answer.now, ok_bind, classified, ok_bind]
  simp only [clean]
  rw [permitted, require_true, ok_bind, resolved, ok_bind,
    readEvidence_eq valid answer.final, ok_bind,
    requireEvidenceCoversPlan_ok valid after, ok_bind, rebuilt, ok_bind]
  exact ⟨_, rfl, rfl⟩

/-- What one recovery is to achieve. -/
structure RecoveryHolds (plan : SchedulerPlan) (request : RecoveryRequest)
    (ports : RecoveryPorts) (nowMicros : Int)
    (first final : ConcurrentRecoveryEvidence) (owner : Nat) : Prop where
  reports : ∀ report, recover ports request owner = .ok report →
    FrontierFaithful plan request.controlGeneration final report.frontier
  returns : ¬ Ambiguous first → ¬ LeaseLive first nowMicros →
    ∃ report, recover ports request owner = .ok report

/-- Recovery stops before it rebuilds, or rebuilds from steady evidence. -/
def Recoverable (plan : SchedulerPlan) (request : RecoveryRequest)
    (nowMicros : Int) (first final : ConcurrentRecoveryEvidence) : Prop :=
  Ambiguous first ∨
    (LeaseLive first nowMicros ∧
      (request.nonExpiredPolicy = .remainRecoveryRequired ∨
        ¬ Buildable plan final)) ∨
    Steady plan final

/-- Recovery returns the scheduler's own frontier exactly when no pending work
has an open barrier and the run is not pausing, unless it stops first. -/
theorem recovery_holds_iff (valid : request.Valid plan)
    (answer : ports.Answer request nowMicros first final)
    (before : DurableState plan first) (after : DurableState plan final)
    (owner : Nat) :
    RecoveryHolds plan request ports nowMicros first final owner ↔
      Recoverable plan request nowMicros first final := by
  have coherent := SchedulerPlan.create_coherent valid.created
  have bounds := valid.generation
  simp only [isCounter, Bool.and_eq_true, decide_eq_true_eq] at bounds
  obtain ⟨classes, classified, ambiguity, nonExpired, nodes⟩ :=
    classifyLeases_ok valid before nowMicros
  have rebuilds := fun frontier => @rebuildFrontier_eq_ok plan request
    ⟨_, bounds⟩ final frontier valid after rfl
  have faithful := fun frontier => @frontierFaithful_iff plan ⟨_, bounds⟩
    final frontier after coherent
  have clean : classes.ambiguity = none ↔ ¬ Ambiguous first := by
    rw [← ambiguity, Option.not_isSome_iff_eq_none]
  constructor
  · intro holds
    by_contra bad
    simp only [Recoverable, not_or, not_and, not_not] at bad
    obtain ⟨unambiguous, live, unsteady⟩ := bad
    have allowed : classes.nonExpired = [] ∨
        request.nonExpiredPolicy ≠ .remainRecoveryRequired := by
      by_cases someLive : LeaseLive first nowMicros
      · exact .inr (live someLive).1
      · exact .inl (nonExpired.mpr someLive)
    have buildable : Buildable plan final := by
      by_cases someLive : LeaseLive first nowMicros
      · exact (live someLive).2
      · obtain ⟨report, returned⟩ := holds.returns unambiguous someLive
        obtain ⟨_, _, rebuilt⟩ := recover_eq valid answer classified returned
        exact ((rebuilds _).mp rebuilt).1
    obtain ⟨frontier, rebuilt⟩ :=
      (rebuildFrontier_returns valid after).mpr buildable
    obtain ⟨report, returned, same⟩ := recover_returns valid answer before
      after classified nodes (clean.mpr unambiguous) allowed rebuilt owner
    have own := holds.reports report returned
    rw [same] at own
    exact unsteady ((faithful frontier buildable
      ((rebuilds frontier).mp rebuilt).2).mp own)
  · intro recoverable
    constructor
    case reports =>
      intro report returned
      obtain ⟨unambiguous, allowed, rebuilt⟩ :=
        recover_eq valid answer classified returned
      obtain ⟨buildable, fields⟩ := (rebuilds _).mp rebuilt
      rcases recoverable with ambiguous | ⟨live, stops⟩ | steady
      · exact absurd ambiguous (clean.mp unambiguous)
      · rcases stops with remains | broken
        · rcases allowed with none_ | waits
          · exact absurd live (nonExpired.mp none_)
          · exact absurd remains waits
        · exact absurd buildable broken
      · exact (faithful _ buildable fields).mpr steady
    case returns =>
      intro unambiguous quiet
      rcases recoverable with ambiguous | ⟨live, _⟩ | steady
      · exact absurd ambiguous unambiguous
      · exact absurd live quiet
      · obtain ⟨frontier, rebuilt⟩ :=
          (rebuildFrontier_returns valid after).mpr steady.buildable
        obtain ⟨report, returned, _⟩ := recover_returns valid answer before
          after classified nodes (clean.mpr unambiguous)
          (.inl (nonExpired.mpr quiet)) rebuilt owner
        exact ⟨report, returned⟩

end Recover

section Sample

def sampleItem (node : String) (state : WorkItemState) (rowVersion : Int)
    (named : [text node, text "p-1", text "wrk_one"].all fun name =>
      1 ≤ name.length && name.length ≤ 128)
    (versioned : isCounter 1 rowVersion) : RecoveryWorkEvidence where
  nodeId := text node
  partitionKey := text "p-1"
  workItemId := text "wrk_one"
  state := text state.value
  rowVersion
  completedAttemptCount := 0
  leaseOwner := none
  leaseExpiresAtMicros := none
  retryAvailableAtMicros := none
  activeAttemptNumber := none
  named
  versioned
  counted := by decide
  expires := rfl
  available := rfl
  attempted := rfl

/-- The first work has succeeded, and the second was not claimed yet. -/
def sampleEvidence : ConcurrentRecoveryEvidence where
  run := ⟨text "run_one", .running, 5⟩
  nodes := [(text "nod_load", 3), (text "nod_sum", 1)]
  work := [sampleItem "nod_load" .succeeded 3 (by decide) (by decide),
    sampleItem "nod_sum" .pending 1 (by decide) (by decide)]
  nextEventSequence := 7
  eventCounterRowVersion := 7
  inProgressIdempotency := 0
  integrityIssueCount := 0
  bounded := by decide

def sampleRecovery : RecoveryRequest where
  runId := text "run_one"
  planFingerprint := List.replicate 64 (point 'a')
  nodeOrder := [text "nod_load", text "nod_sum"]
  edges := [(text "nod_load", text "nod_sum")]
  partitionsByNode :=
    [(text "nod_load", [text "p-1"]), (text "nod_sum", [text "p-1"])]
  controlGeneration := 2
  nonExpiredPolicy := .remainRecoveryRequired
  retryDelayMicros := 0

/-- The reader reads the same evidence twice. -/
def samplePorts : RecoveryPorts where
  clock := fun _ => .ok 1000
  read := fun _ => .ok sampleEvidence
  submit := fun _ => .ok ⟨text "submission", some ⟨2, 6, 8, 8, by decide⟩⟩

theorem sampleRecovery_valid : sampleRecovery.Valid sampleSchedulerPlan :=
  ⟨sampleSchedulerPlan_created, by decide, by decide⟩

theorem samplePorts_answer :
    samplePorts.Answer sampleRecovery 1000 sampleEvidence sampleEvidence where
  now := rfl
  clock _ := ⟨1000, rfl, by decide⟩
  first := rfl
  final := rfl
  writer _ := ⟨_, _, rfl, rfl⟩

theorem sampleEvidence_durable :
    DurableState sampleSchedulerPlan sampleEvidence where
  run := rfl
  active := rfl
  distinct := by decide
  covers key := by
    rw [show sampleEvidence.work.map RecoveryWorkEvidence.key =
      sampleSchedulerPlan.identities.map WorkIdentity.key from by
        decide]
  known := by
    simp only [sampleEvidence, List.forall_mem_cons, List.not_mem_nil,
      false_implies, implies_true, and_true]
    exact ⟨⟨.succeeded, rfl, by decide⟩, ⟨.pending, rfl, by decide⟩⟩
  claimed := by
    simp only [sampleEvidence, List.forall_mem_cons, List.not_mem_nil,
      false_implies, implies_true, and_true]
    refine ⟨fun _ source edge => ?_, fun claimed => absurd rfl claimed⟩
    have listed : (source, text "nod_load") ∈
        [(text "nod_load", text "nod_sum")] := edge
    rw [List.mem_singleton, Prod.mk.injEq] at listed
    exact absurd listed.2 (by decide)
  nodes := by
    intro node known
    have named : node ∈ [text "nod_load", text "nod_sum"] := known
    exact named
  sequence := by decide

/-- Recovery of unambiguous evidence raises. -/
theorem sampleRecovery_raises :
    ¬ RecoveryHolds sampleSchedulerPlan sampleRecovery samplePorts 1000
      sampleEvidence sampleEvidence 0 := by
  intro holds
  have idle : ∀ item ∈ sampleEvidence.work,
      item.state ≠ text WorkItemState.running.value := by decide
  have unambiguous : ¬ Ambiguous sampleEvidence := by
    rintro (found | found | ⟨item, member, running, _⟩)
    · cases found
    · cases found
    · exact idle item member running
  have quiet : ¬ LeaseLive sampleEvidence 1000 := by
    rintro ⟨item, member, running, _⟩
    exact idle item member running
  obtain ⟨report, returned⟩ := holds.returns unambiguous quiet
  have raised : (recover samplePorts sampleRecovery 0).toOption.isNone := by
    decide
  rw [returned] at raised
  cases raised

theorem recovery_holds_iff_sample :
    sampleRecovery.Valid sampleSchedulerPlan ∧
      DurableState sampleSchedulerPlan sampleEvidence ∧
      (RecoveryHolds sampleSchedulerPlan sampleRecovery samplePorts 1000
          sampleEvidence sampleEvidence 0 ↔
        Recoverable sampleSchedulerPlan sampleRecovery 1000 sampleEvidence
          sampleEvidence) :=
  ⟨sampleRecovery_valid, sampleEvidence_durable,
    recovery_holds_iff sampleRecovery_valid samplePorts_answer
      sampleEvidence_durable sampleEvidence_durable 0⟩

end Sample

end ParityGrid.Application
