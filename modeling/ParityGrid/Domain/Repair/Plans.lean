import ParityGrid.Domain.Reconciliation.Outcomes

/-!
# Repair actions and plans

An action is one create or update guarded by the exact prior target state.  A
plan is a set of actions bound to one reconciliation state, kept in an order
that does not depend on how it was assembled.
-/

namespace ParityGrid.Domain

open Foundation

section Plans

variable [PythonRuntime]

/-! ## Bindings -/

/-- `RepairPlan.MAX_ACTIONS`. -/
def maxPlanActions : Nat := 10000

/-- Source, target and policy identity of one repair plan. -/
structure BindingFields where
  runId : RunId
  reconciliationFingerprint : StateFingerprint
  sourceInputIdentity : Text
  targetInputIdentity : Text
  policyVersion : Int
  generationVersion : Int
  rulesVersion : Int
  analysisVersion : Int
  analyticalQueryVersion : Int
  actionCount : Int
deriving DecidableEq

/-- `RepairPlanBinding.__post_init__`. -/
def BindingFields.validate (fields : BindingFields) :
    Except PythonError Unit := do
  require (isSha256Text fields.sourceInputIdentity &&
      isSha256Text fields.targetInputIdentity)
    (.valueError (text "repair-plan binding input identity is invalid"))
  require (1 ≤ fields.policyVersion && 1 ≤ fields.generationVersion &&
      1 ≤ fields.rulesVersion && 1 ≤ fields.analysisVersion &&
      1 ≤ fields.analyticalQueryVersion)
    (.valueError (text "repair-plan binding version is invalid"))
  require (0 ≤ fields.actionCount && fields.actionCount ≤ maxPlanActions)
    (.valueError (text "repair-plan binding action count is invalid"))

structure RepairPlanBinding extends BindingFields where
  valid : toBindingFields.validate = .ok ()
deriving DecidableEq

/-- The constructor of a binding. -/
def RepairPlanBinding.create (fields : BindingFields) :
    Except PythonError RepairPlanBinding :=
  (certify (P := fun _ => fields.validate = .ok ()) fields.validate
    (fun _ accepted => accepted)).map fun certified => ⟨fields, certified.2⟩

/-! ## Actions -/

/-- Closed set of supported non-destructive target effects. -/
inductive RepairActionKind where
  | createTarget
  | updateTarget
deriving DecidableEq

def RepairActionKind.value : RepairActionKind → String
  | .createTarget => "create_target"
  | .updateTarget => "update_target"

/-- The arguments of the action constructor. -/
structure ActionFields where
  actionId : RepairActionId
  conflictId : ConflictId
  stateFingerprint : StateFingerprint
  kind : RepairActionKind
  proposedRecord : InventoryRecord
  expectedTargetRecord : Option InventoryRecord
deriving DecidableEq

/-- `RepairAction.__post_init__`: the mismatches of the action. -/
def ActionFields.deriveMismatches (fields : ActionFields) :
    Except PythonError (List FieldMismatch) :=
  match fields.kind, fields.expectedTargetRecord with
  | .createTarget, none => .ok []
  | .createTarget, some _ =>
      .error (.valueError (text
        "create action requires the target record to be absent"))
  | .updateTarget, none =>
      .error (.typeError (text
        "update action requires an expected target InventoryRecord"))
  | .updateTarget, some expected => do
      let mismatches ← differencesBetween fields.proposedRecord expected
      require (!mismatches.isEmpty)
        (.valueError (text
          "update action requires at least one field mismatch"))
      pure mismatches

/-- One idempotent create or update guarded by exact prior state. -/
structure RepairAction extends ActionFields where
  mismatches : List FieldMismatch
  valid : toActionFields.deriveMismatches = .ok mismatches
deriving DecidableEq

theorem RepairAction.ext {left right : RepairAction}
    (fields : left.toActionFields = right.toActionFields) :
    left = right := by
  obtain ⟨leftFields, leftMismatches, leftValid⟩ := left
  obtain ⟨rightFields, rightMismatches, rightValid⟩ := right
  simp only at fields
  subst fields
  rw [leftValid] at rightValid
  cases rightValid
  rfl

/-- The constructor of an action. -/
def RepairAction.create (fields : ActionFields) :
    Except PythonError RepairAction :=
  (certify fields.deriveMismatches (fun _ accepted => accepted)).map
    fun certified => ⟨fields, certified.1, certified.2⟩

theorem RepairAction.create_eq_ok {fields : ActionFields}
    {action : RepairAction} :
    create fields = .ok action ↔
      action.toActionFields = fields ∧
        fields.deriveMismatches = .ok action.mismatches := by
  constructor
  · intro built
    simp only [create, Except.map] at built
    split at built
    next => cases built
    next certified accepted =>
      cases built
      exact ⟨rfl, certified.2⟩
  · rintro ⟨rfl, accepted⟩
    have certified := certify_ok (fun _ derived => derived) accepted
    simp only [create, certified, Except.map]

/-- `RepairAction.sku`. -/
def ActionFields.sku (fields : ActionFields) : Text :=
  fields.proposedRecord.sku

/-- `RepairAction.from_outcome`. -/
def RepairAction.fromOutcome (actionId : RepairActionId)
    (conflictId : ConflictId) (stateFingerprint : StateFingerprint)
    (outcome : ReconciliationOutcome) : Except PythonError RepairAction :=
  match outcome.classification, outcome.sourceRecords,
      outcome.targetRecords with
  | .missingFromTarget, source :: _, _ =>
      RepairAction.create
        { actionId
          conflictId
          stateFingerprint
          kind := .createTarget
          proposedRecord := source
          expectedTargetRecord := none }
  | .fieldMismatch, source :: _, target :: _ =>
      RepairAction.create
        { actionId
          conflictId
          stateFingerprint
          kind := .updateTarget
          proposedRecord := source
          expectedTargetRecord := some target }
  | classification, _, _ =>
      .error (.valueError (text classification.value ++
        text " outcome is not safely repairable"))

/-! ## Plans -/

/-- `_action_order_key`. -/
def actionOrderKey (action : RepairAction) : Text ×ₗ Text ×ₗ Text :=
  toLex (action.sku, toLex (text action.kind.value, action.actionId.value))

/-- The fields of a plan after its actions were put in order. -/
structure PlanFields where
  planId : RepairPlanId
  stateFingerprint : StateFingerprint
  actions : List RepairAction
  binding : Option RepairPlanBinding
deriving DecidableEq

/-- `_require_unique`. -/
def requireUnique {α : Type} [DecidableEq α] (values : List α)
    (subject : String) : Except PythonError Unit :=
  require (decide values.Nodup)
    (.valueError (text "repair plan " ++ text subject ++
      text " must be unique"))

/-- The binding, when there is one, describes these contents. -/
def PlanFields.requireBinding (fields : PlanFields) :
    Except PythonError Unit :=
  match fields.binding with
  | none => .ok ()
  | some binding =>
      require (binding.reconciliationFingerprint == fields.stateFingerprint &&
          binding.actionCount == fields.actions.length)
        (.valueError (text
          "repair-plan binding does not match plan contents"))

/-- `RepairPlan.__post_init__`. -/
def PlanFields.normalize (fields : PlanFields) :
    Except PythonError PlanFields := do
  require (fields.actions.length ≤ maxPlanActions)
    (.valueError (text "repair plan must contain at most 10000 actions"))
  require (!fields.actions.isEmpty)
    (.valueError (text "repair plan requires at least one action"))
  require (fields.actions.all fun action =>
      action.stateFingerprint == fields.stateFingerprint)
    (.valueError (text
      "every repair action must reference the plan state fingerprint"))
  requireUnique (fields.actions.map fun action => action.actionId)
    "action identities"
  requireUnique (fields.actions.map fun action => action.conflictId)
    "conflict identities"
  requireUnique (fields.actions.map fun action => action.sku)
    "inventory keys"
  fields.requireBinding
  pure { fields with actions := sortedBy actionOrderKey fields.actions }

/-- An immutable set of safe actions for one exact reconciliation state. -/
structure RepairPlan extends PlanFields where
  valid : toPlanFields.normalize = .ok toPlanFields
deriving DecidableEq

/-- What the constructor of a plan accepts and returns. -/
theorem PlanFields.normalize_eq_ok {fields normalized : PlanFields} :
    fields.normalize = .ok normalized ↔
      (fields.actions.length ≤ maxPlanActions ∧
        fields.actions ≠ [] ∧
        (∀ action ∈ fields.actions,
          action.stateFingerprint = fields.stateFingerprint) ∧
        (fields.actions.map fun action => action.actionId).Nodup ∧
        (fields.actions.map fun action => action.conflictId).Nodup ∧
        (fields.actions.map fun action => action.sku).Nodup ∧
        (∀ binding, fields.binding = some binding →
          binding.reconciliationFingerprint = fields.stateFingerprint ∧
            binding.actionCount = fields.actions.length)) ∧
      normalized =
        { fields with
          actions := sortedBy actionOrderKey fields.actions } := by
  simp only [normalize, requireUnique, bind_eq_ok, require_eq_ok,
    decide_eq_true_eq, List.all_eq_true, beq_iff_eq, Bool.not_eq_true',
    List.isEmpty_eq_false_iff]
  constructor
  · rintro ⟨_, few, _, some_, _, current, _, actionIds, _, conflictIds, _,
      skus, _, bound, same⟩
    cases same
    refine ⟨⟨few, some_, current, actionIds, conflictIds, skus, ?_⟩, rfl⟩
    intro binding present
    simpa [requireBinding, present, require_eq_ok] using bound
  · rintro ⟨⟨few, some_, current, actionIds, conflictIds, skus, bound⟩, rfl⟩
    refine ⟨(), few, (), some_, (), current, (), actionIds, (), conflictIds,
      (), skus, (), ?_, rfl⟩
    simp only [requireBinding]
    split
    next => rfl
    next binding present => simpa [require_eq_ok] using bound binding present

/-- A constructed plan is kept as it is. -/
theorem PlanFields.normalize_idem {fields normalized : PlanFields}
    (accepted : fields.normalize = .ok normalized) :
    normalized.normalize = .ok normalized := by
  obtain ⟨⟨few, some_, current, actionIds, conflictIds, skus, bound⟩, rfl⟩ :=
    normalize_eq_ok.mp accepted
  have perm := sortedBy_perm actionOrderKey fields.actions
  apply normalize_eq_ok.mpr
  refine ⟨⟨by simpa using few, ?_, ?_, ?_, ?_, ?_, ?_⟩, ?_⟩
  · intro empty
    have none_ : fields.actions = [] := by
      rw [show sortedBy actionOrderKey fields.actions = [] from empty] at perm
      exact perm.symm.eq_nil
    exact some_ none_
  · intro action member
    exact current action (mem_sortedBy.mp member)
  · exact (perm.map _).nodup_iff.mpr actionIds
  · exact (perm.map _).nodup_iff.mpr conflictIds
  · exact (perm.map _).nodup_iff.mpr skus
  · intro binding present
    simpa using bound binding present
  · simp only [sortedBy_idem]

/-- The constructor of a plan. -/
def RepairPlan.create (fields : PlanFields) :
    Except PythonError RepairPlan :=
  (certify fields.normalize
    (fun _ => PlanFields.normalize_idem)).map fun normalized =>
      ⟨normalized.1, normalized.2⟩

theorem RepairPlan.create_eq_ok {fields : PlanFields} {plan : RepairPlan} :
    create fields = .ok plan ↔ fields.normalize = .ok plan.toPlanFields := by
  constructor
  · intro built
    simp only [create, Except.map] at built
    split at built
    next => cases built
    next normalized accepted =>
      cases built
      exact certify_eq_ok.mp accepted
  · intro accepted
    have certified := certify_ok (fun _ => PlanFields.normalize_idem) accepted
    simp only [create, certified, Except.map]

theorem RepairPlan.ext {left right : RepairPlan}
    (fields : left.toPlanFields = right.toPlanFields) :
    left = right := by
  cases left
  cases right
  cases fields
  rfl

end Plans

end ParityGrid.Domain
