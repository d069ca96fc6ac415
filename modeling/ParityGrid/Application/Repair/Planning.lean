import ParityGrid.Application.Ports.TargetConnector
import ParityGrid.Application.Reconciliation.Analysis
import ParityGrid.Application.Repair.Identities

/-!
# Generating a repair plan

One analysis gives one plan: an action for every key that is missing from the
target or differs there, and no action for any other key.  The plan exists
unless one of its identities cannot be derived or two of them coincide.
-/

namespace ParityGrid.Application

open Foundation Domain

/-! ## Policy -/

/-- `REPAIR_GENERATION_POLICY_VERSION`. -/
def repairGenerationPolicyVersion : Int := 1

/-- `REPAIR_GENERATION_VERSION`. -/
def repairGenerationVersion : Int := 1

/-- Membership in `REPAIRABLE_CLASSIFICATIONS`. -/
def isRepairable : ReconciliationClassification → Bool
  | .missingFromTarget => true
  | .fieldMismatch => true
  | _ => false

/-! ## Key maps -/

/-- `RepairActionKeyMap.__post_init__`. -/
def normalizeActionKeys (items : List (RepairActionId × Text)) :
    Except PythonError (List (RepairActionId × Text)) := do
  require (decide (items.map Prod.fst).Nodup)
    (.valueError (text "repair action identities must be unique"))
  require (decide (items.map Prod.snd).Nodup)
    (.valueError (text "external repair keys must be unique"))
  pure (sortedBy (fun item => item.1.value) items)

/-- A complete immutable mapping from actions to external effect keys. -/
structure RepairActionKeyMap where
  items : List (RepairActionId × Text)
  valid : normalizeActionKeys items = .ok items

theorem normalizeActionKeys_eq_ok
    {items normalized : List (RepairActionId × Text)} :
    normalizeActionKeys items = .ok normalized ↔
      (items.map Prod.fst).Nodup ∧ (items.map Prod.snd).Nodup ∧
        normalized = sortedBy (fun item => item.1.value) items := by
  simp only [normalizeActionKeys, bind_eq_ok, require_eq_ok, decide_eq_true_eq]
  constructor
  · rintro ⟨_, actions, _, keys, same⟩
    cases same
    exact ⟨actions, keys, rfl⟩
  · rintro ⟨actions, keys, rfl⟩
    exact ⟨(), actions, (), keys, rfl⟩

theorem normalizeActionKeys_idem
    {items normalized : List (RepairActionId × Text)}
    (accepted : normalizeActionKeys items = .ok normalized) :
    normalizeActionKeys normalized = .ok normalized := by
  obtain ⟨actions, keys, rfl⟩ := normalizeActionKeys_eq_ok.mp accepted
  have perm := sortedBy_perm (fun item => item.1.value) items
  exact normalizeActionKeys_eq_ok.mpr
    ⟨(perm.map _).nodup_iff.mpr actions, (perm.map _).nodup_iff.mpr keys,
      (sortedBy_idem _ _).symm⟩

/-- `RepairActionKeyMap.from_mapping`. -/
def RepairActionKeyMap.fromMapping (items : List (RepairActionId × Text)) :
    Except PythonError RepairActionKeyMap :=
  (certify (normalizeActionKeys items)
    fun _ => normalizeActionKeys_idem).map fun normalized =>
      ⟨normalized.1, normalized.2⟩

section Planning

variable [PythonRuntime]

/-! ## Plans -/

/-- The arguments of the result constructor. -/
structure GeneratedFields where
  plan : Option RepairPlan
  contentFingerprint : Option StateFingerprint
  actionKeys : Option RepairActionKeyMap
  binding : RepairPlanBinding
  repairableKeys : List Text
  reviewOnlyKeys : List Text

/-- `GeneratedRepairPlan.__post_init__`. -/
def GeneratedFields.validate (fields : GeneratedFields) :
    Except PythonError Unit := do
  require (fields.plan.isNone == fields.contentFingerprint.isNone &&
      fields.plan.isNone == fields.actionKeys.isNone)
    (.valueError (text "generated plan parts must be present together"))
  require (fields.binding.actionCount == fields.repairableKeys.length)
    (.valueError (text
      "generated plan binding must cover every repairable key"))

/-- The generation result for one reconciliation snapshot. -/
structure GeneratedRepairPlan extends GeneratedFields where
  valid : toGeneratedFields.validate = .ok ()

def GeneratedRepairPlan.create (fields : GeneratedFields) :
    Except PythonError GeneratedRepairPlan :=
  (certify fields.validate fun _ accepted => accepted).map
    fun checked => ⟨fields, checked.2⟩

/-- The binding of a plan with a number of actions. -/
def planBinding (runId : RunId) (summary : ReconciliationSummary)
    (count : Int) : BindingFields where
  runId
  reconciliationFingerprint := summary.fingerprint
  sourceInputIdentity := summary.inputs.sourceInputIdentity
  targetInputIdentity := summary.inputs.targetInputIdentity
  policyVersion := repairGenerationPolicyVersion
  generationVersion := repairGenerationVersion
  rulesVersion := summary.rulesVersion
  analysisVersion := summary.analysisVersion
  analyticalQueryVersion := summary.inputs.analyticalQueryVersion
  actionCount := count

/-- `replace_count`. -/
def replaceCount (binding : RepairPlanBinding) (count : Int) :
    Except PythonError RepairPlanBinding :=
  RepairPlanBinding.create { binding.toBindingFields with actionCount := count }

/-- The action of one repairable outcome. -/
def planAction (runId : RunId) (snapshot : StateFingerprint)
    (bound : RepairPlanBinding) (outcome : ReconciliationOutcome) :
    Except PythonError RepairAction := do
  let actionId ← deriveActionId runId snapshot outcome.sku (some bound)
  let conflictId ← deriveConflictId runId outcome.sku
  RepairAction.fromOutcome actionId conflictId snapshot outcome

/-- The plan of the repairable outcomes. -/
def assemblePlan (runId : RunId) (snapshot : StateFingerprint)
    (bound : RepairPlanBinding) (outcomes : List ReconciliationOutcome) :
    Except PythonError RepairPlan := do
  let actions ← outcomes.mapM (planAction runId snapshot bound)
  let planId ← derivePlanId runId snapshot (some bound)
  RepairPlan.create
    { planId, stateFingerprint := snapshot, actions, binding := some bound }

/-- The key of every action, under its identity. -/
def actionKeys (runId : RunId) (content : StateFingerprint)
    (actions : List RepairAction) :
    Except PythonError (List (RepairActionId × Text)) := do
  let items ← actions.mapM fun action => do
    let key ← deriveActionIdempotencyKey runId content action.sku
    pure (action.actionId, key)
  pure (dictOf items)

/-- The outcomes of an analysis that a plan repairs. -/
def ReconciliationAnalysis.repairableOutcomes
    (analysis : ReconciliationAnalysis) : List ReconciliationOutcome :=
  (analysis.classification.keys.map ClassifiedKey.outcome).filter
    fun outcome => isRepairable outcome.classification

def ReconciliationAnalysis.reviewOnlyOutcomes
    (analysis : ReconciliationAnalysis) : List ReconciliationOutcome :=
  (analysis.classification.keys.map ClassifiedKey.outcome).filter
    fun outcome => !isRepairable outcome.classification

/-- `generate_repair_plan`. -/
def generateRepairPlan (runId : RunId) (analysis : ReconciliationAnalysis) :
    Except PythonError GeneratedRepairPlan := do
  let binding ← RepairPlanBinding.create
    (planBinding runId analysis.summary 0)
  let outcomes := analysis.repairableOutcomes
  let repairableKeys := outcomes.map fun outcome => outcome.sku
  let reviewOnly := analysis.reviewOnlyOutcomes.map fun outcome => outcome.sku
  if outcomes.isEmpty then
    let empty ← replaceCount binding 0
    GeneratedRepairPlan.create
      { plan := none
        contentFingerprint := none
        actionKeys := none
        binding := empty
        repairableKeys := []
        reviewOnlyKeys := sorted reviewOnly }
  else
    let bound ← replaceCount binding outcomes.length
    let plan ← assemblePlan runId analysis.summary.fingerprint bound outcomes
    let content ← fingerprintState .repairPlanContent [plan] .v1
    let keys ← actionKeys runId content plan.actions
    let keyMap ← RepairActionKeyMap.fromMapping keys
    GeneratedRepairPlan.create
      { plan := some plan
        contentFingerprint := some content
        actionKeys := some keyMap
        binding := bound
        repairableKeys := sorted repairableKeys
        reviewOnlyKeys := sorted reviewOnly }

/-! ## What a plan must hold -/

/-- An action proposes the single source record of an outcome. -/
def Proposes (action : RepairAction) (outcome : ReconciliationOutcome) :
    Prop :=
  action.sku = outcome.sku ∧
    outcome.sourceRecords = [action.proposedRecord] ∧
    ((outcome.classification = .missingFromTarget ∧
        action.kind = .createTarget ∧
        action.expectedTargetRecord = none) ∨
      (outcome.classification = .fieldMismatch ∧
        action.kind = .updateTarget ∧
        ∃ target, outcome.targetRecords = [target] ∧
          action.expectedTargetRecord = some target))

/-- The plan, its actions and their keys cover the repairable outcomes. -/
structure PlansExactly (analysis : ReconciliationAnalysis)
    (generated : GeneratedRepairPlan) (plan : RepairPlan)
    (keyMap : RepairActionKeyMap) : Prop where
  planned : generated.plan = some plan
  keyed : generated.actionKeys = some keyMap
  actions : List.Forall₂ Proposes plan.actions analysis.repairableOutcomes
  skus : (plan.actions.map fun action => action.sku).Nodup
  actionIds : (plan.actions.map fun action => action.actionId).Nodup
  conflictIds : (plan.actions.map fun action => action.conflictId).Nodup
  covered : (keyMap.items.map Prod.fst).Perm
    (plan.actions.map fun action => action.actionId)
  distinct : (keyMap.items.map Prod.snd).Nodup
  accepted : ∀ item ∈ keyMap.items, isExternalKey item.2

/-- Generation returns a plan that covers the analysis exactly. -/
def GeneratesPlan (runId : RunId) (analysis : ReconciliationAnalysis) : Prop :=
  ∃ generated plan keyMap, generateRepairPlan runId analysis = .ok generated ∧
    PlansExactly analysis generated plan keyMap

/--
The identities can be derived and told apart: the policy does not end the name
of the plan within the bound, its versions can be printed, and no conflict
spells the cut name of another.
-/
def Plannable (runId : RunId) (analysis : ReconciliationAnalysis) : Prop :=
  (3 < (runSlug runId).length ∨
      10 ≤ analysis.summary.inputs.analyticalQueryVersion) ∧
    intReprError analysis.summary.inputs.analyticalQueryVersion = none ∧
    ∀ first ∈ analysis.repairableOutcomes,
      ∀ second ∈ analysis.repairableOutcomes,
        ¬slugRule.Spells (conflictName runId first.sku)
          (conflictName runId second.sku)

/-- No two digests of one plan share the digits that are kept of them. -/
structure PlanDigestsDiffer (runId : RunId)
    (analysis : ReconciliationAnalysis) : Prop where
  conflicts : ∀ first ∈ analysis.repairableOutcomes,
    ∀ second ∈ analysis.repairableOutcomes,
      64 < (conflictName runId first.sku).length →
      64 < (conflictName runId second.sku).length →
      nameStamp 16 (conflictName runId first.sku) =
        nameStamp 16 (conflictName runId second.sku) →
      conflictName runId first.sku = conflictName runId second.sku
  actions : ∀ bound : RepairPlanBinding,
    bound.toBindingFields = planBinding runId analysis.summary
      analysis.repairableOutcomes.length →
    ∀ first ∈ analysis.repairableOutcomes,
    ∀ second ∈ analysis.repairableOutcomes,
      nameStamp 16 (boundActionName runId analysis.summary.fingerprint
          first.sku bound) =
        nameStamp 16 (boundActionName runId analysis.summary.fingerprint
          second.sku bound) →
      boundActionName runId analysis.summary.fingerprint first.sku bound =
        boundActionName runId analysis.summary.fingerprint second.sku bound
  keys : ∀ (bound : RepairPlanBinding) (plan : RepairPlan)
      (content : StateFingerprint),
    bound.toBindingFields = planBinding runId analysis.summary
      analysis.repairableOutcomes.length →
    assemblePlan runId analysis.summary.fingerprint bound
      analysis.repairableOutcomes = .ok plan →
    fingerprintState .repairPlanContent [plan] .v1 = .ok content →
    ∀ first ∈ analysis.repairableOutcomes,
    ∀ second ∈ analysis.repairableOutcomes,
      128 < (idempotencyName runId content first.sku).length →
      128 < (idempotencyName runId content second.sku).length →
      nameStamp 32 (idempotencyName runId content first.sku) =
        nameStamp 32 (idempotencyName runId content second.sku) →
      idempotencyName runId content first.sku =
        idempotencyName runId content second.sku

/-! ## Bindings -/

omit [PythonRuntime] in
theorem RepairPlanBinding.create_eq_ok {fields : BindingFields}
    {binding : RepairPlanBinding} :
    RepairPlanBinding.create fields = .ok binding ↔
      fields.validate = .ok () ∧ binding.toBindingFields = fields := by
  constructor
  · intro built
    obtain ⟨checked, accepted, rfl⟩ := map_eq_ok.mp built
    exact ⟨checked.2, rfl⟩
  · rintro ⟨valid, rfl⟩
    rw [RepairPlanBinding.create,
      certify_ok (P := fun _ => binding.toBindingFields.validate = .ok ())
        (fun _ accepted => accepted) valid]
    rfl

omit [PythonRuntime] in
theorem planBinding_valid (runId : RunId) (summary : ReconciliationSummary)
    {count : Int} (atLeast : 0 ≤ count) (atMost : count ≤ maxPlanActions) :
    (planBinding runId summary count).validate = .ok () := by
  have valid := summary.valid
  simp only [SummaryFields.validate, AnalysisInputs.validate, bind_eq_ok,
    require_eq_ok, Bool.and_eq_true, decide_eq_true_eq, beq_iff_eq] at valid
  obtain ⟨_, _, _, _, _, analysis, _, rules, _, ⟨source, target⟩, query⟩ :=
    valid
  have current : (1 : Int) ≤ summary.rulesVersion ∧
      1 ≤ summary.analysisVersion := by
    rw [rules, analysis]
    decide
  simp only [BindingFields.validate, planBinding, source, target,
    repairGenerationPolicyVersion, repairGenerationVersion, current, query,
    atLeast, atMost, le_refl, decide_true, Bool.and_self, require_true,
    ok_bind]

omit [PythonRuntime] in
/-- Every version but the last one is a single digit. -/
theorem planBinding_policy {runId : RunId} {summary : ReconciliationSummary}
    {count : Int} {bound : RepairPlanBinding}
    (bound_ : bound.toBindingFields = planBinding runId summary count) :
    (policyText bound).length =
        8 + (decimalInt summary.inputs.analyticalQueryVersion).length ∧
      (bound.Printable ↔
        intReprError summary.inputs.analyticalQueryVersion = none) := by
  have valid := summary.valid
  simp only [SummaryFields.validate, bind_eq_ok, require_eq_ok, beq_iff_eq]
    at valid
  obtain ⟨_, _, _, _, _, analysis, _, rules, _⟩ := valid
  have versions : bound.policyVersion = 1 ∧ bound.generationVersion = 1 ∧
      bound.rulesVersion = 1 ∧ bound.analysisVersion = 1 ∧
      bound.analyticalQueryVersion =
        summary.inputs.analyticalQueryVersion := by
    rw [bound_]
    refine ⟨rfl, rfl, ?_, ?_, rfl⟩
    · show (summary.rulesVersion : Int) = 1
      rw [rules]
      rfl
    · show summary.analysisVersion = 1
      rw [analysis]
      rfl
  obtain ⟨policy, generation, rules, analysis, query⟩ := versions
  have digit : (decimalInt 1).length = 1 ∧ intReprError 1 = none := by
    decide +kernel
  constructor
  · rw [policyText_form, policy, generation, rules, analysis, query]
    simp only [List.length_append, List.length_cons, digit]
    omega
  · rw [RepairPlanBinding.Printable, policy, generation, rules, analysis,
      query]
    simp [digit]

omit [PythonRuntime] in
/-- When the plan of an analysis has an identity. -/
theorem planId_returns_iff {runId : RunId} {summary : ReconciliationSummary}
    {count : Int} {bound : RepairPlanBinding}
    (bound_ : bound.toBindingFields = planBinding runId summary count) :
    Returns (derivePlanId runId summary.fingerprint (some bound)) ↔
      (3 < (runSlug runId).length ∨
          10 ≤ summary.inputs.analyticalQueryVersion) ∧
        intReprError summary.inputs.analyticalQueryVersion = none := by
  obtain ⟨policy, printable⟩ := planBinding_policy bound_
  obtain ⟨front, form, _, size⟩ :=
    planName_front runId summary.fingerprint bound
  obtain ⟨_, _, atLeast, _⟩ := runSlug_form runId
  have run : bound.runId = runId ∧
      bound.reconciliationFingerprint = summary.fingerprint := by
    rw [bound_]
    exact ⟨rfl, rfl⟩
  have query : 1 ≤ summary.inputs.analyticalQueryVersion := by
    have valid := summary.valid
    simp only [SummaryFields.validate, AnalysisInputs.validate, bind_eq_ok,
      require_eq_ok, decide_eq_true_eq] at valid
    obtain ⟨_, _, _, _, _, _, _, _, _, _, query⟩ := valid
    exact query
  have digits : 1 < (decimalInt
      summary.inputs.analyticalQueryVersion).length ↔
        10 ≤ summary.inputs.analyticalQueryVersion := by
    rw [decimalInt, if_neg (by omega), ← Nat.not_le,
      decimal_length_le (by decide)]
    omega
  have positive : 0 < (decimalInt
      summary.inputs.analyticalQueryVersion).length :=
    List.length_pos_of_ne_nil (decimalInt_digits query).2
  have long : 64 < (planName runId summary.fingerprint bound).length ↔
      3 < (runSlug runId).length ∨
        10 ≤ summary.inputs.analyticalQueryVersion := by
    rw [form, List.length_append, List.length_cons, size, policy, ← digits]
    omega
  constructor
  · rintro ⟨planId, built⟩
    obtain ⟨_, _, printed, beyond, _⟩ := derivePlanId_eq_ok.mp built
    exact ⟨long.mp beyond, printable.mp printed⟩
  · rintro ⟨beyond, printed⟩
    obtain ⟨matched, atLeast, atMost⟩ :=
      stamped_planName runId summary.fingerprint bound
    obtain ⟨planId, built⟩ := Identifier.create_payload .repairPlan matched
      (by omega) atMost
    exact ⟨planId, derivePlanId_eq_ok.mpr ⟨run.1, run.2, printable.mpr printed,
      long.mpr beyond, Identifier.create_value built⟩⟩

/-! ## Actions -/

/-- A repairable outcome has one source record, and one target to update. -/
theorem repairable_records {outcome : ReconciliationOutcome}
    (repairable : isRepairable outcome.classification) :
    ∃ source, outcome.sourceRecords = [source] ∧ source.sku = outcome.sku ∧
      ((outcome.classification = .missingFromTarget ∧
          outcome.targetRecords = []) ∨
        (outcome.classification = .fieldMismatch ∧
          ∃ target mismatches, outcome.targetRecords = [target] ∧
            differencesBetween source target = .ok mismatches ∧
            mismatches.isEmpty = false)) := by
  obtain ⟨share, classified⟩ := outcome.classified
  generalize kinds : outcome.classification = classification
    at repairable classified
  generalize outcome.mismatches = mismatches at classified
  cases sources : outcome.sourceRecords with
  | nil =>
      rw [sources] at classified
      match outcome.targetRecords, classified with
      | [], classified => cases classified; cases repairable
      | [_], classified => cases classified; cases repairable
      | _ :: _ :: _, classified => cases classified; cases repairable
  | cons source moreSources =>
      have sku : source.sku = outcome.sku :=
        share source (by rw [sources]; simp)
      rw [sources] at classified
      cases targets : outcome.targetRecords with
      | nil =>
          rw [targets] at classified
          cases moreSources with
          | nil =>
              cases classified
              exact ⟨source, rfl, sku, .inl ⟨rfl, rfl⟩⟩
          | cons other rest =>
              cases classified
              cases repairable
      | cons target moreTargets =>
          rw [targets] at classified
          cases moreSources with
          | cons other rest =>
              cases moreTargets <;> cases classified <;> cases repairable
          | nil =>
              cases moreTargets with
              | cons other rest =>
                  cases classified
                  cases repairable
              | nil =>
                  simp only [classifyRecords, bind_eq_ok] at classified
                  obtain ⟨found, compared, same⟩ := classified
                  have kind := (Prod.mk.inj (Except.ok.inj same)).1
                  have differs : found.isEmpty = false := by
                    by_contra empty
                    rw [Bool.not_eq_false] at empty
                    rw [if_pos empty] at kind
                    rw [← kind] at repairable
                    cases repairable
                  rw [differs, if_neg (by decide)] at kind
                  exact ⟨source, rfl, sku, .inr ⟨kind.symm, target, found, rfl,
                    compared, differs⟩⟩

theorem repairable_sku {outcome : ReconciliationOutcome}
    (repairable : isRepairable outcome.classification) :
    validateSku outcome.sku = .ok () := by
  obtain ⟨source, _, sku, _⟩ := repairable_records repairable
  rw [← sku]
  exact source.valid.sku

/-- A repairable outcome gives an action that proposes its source record. -/
theorem fromOutcome_returns (actionId : RepairActionId)
    (conflictId : ConflictId) (snapshot : StateFingerprint)
    {outcome : ReconciliationOutcome}
    (repairable : isRepairable outcome.classification) :
    ∃ action, RepairAction.fromOutcome actionId conflictId snapshot outcome =
        .ok action ∧
      Proposes action outcome ∧ action.actionId = actionId ∧
      action.conflictId = conflictId ∧
      action.stateFingerprint = snapshot := by
  obtain ⟨source, sources, sku, absent | present⟩ :=
    repairable_records repairable
  · obtain ⟨missing, targets⟩ := absent
    refine ⟨⟨⟨actionId, conflictId, snapshot, .createTarget, source, none⟩,
      [], rfl⟩, ?_, ⟨sku, sources, .inl ⟨missing, rfl, rfl⟩⟩, rfl, rfl, rfl⟩
    simp only [RepairAction.fromOutcome, missing, sources]
    exact RepairAction.create_eq_ok.mpr ⟨rfl, rfl⟩
  · obtain ⟨mismatch, target, mismatches, targets, compared, differs⟩ :=
      present
    have derived : (ActionFields.mk actionId conflictId snapshot .updateTarget
        source (some target)).deriveMismatches = .ok mismatches := by
      simp only [ActionFields.deriveMismatches, compared, ok_bind, differs,
        Bool.not_false, require_true]
      rfl
    refine ⟨⟨⟨actionId, conflictId, snapshot, .updateTarget, source,
      some target⟩, mismatches, derived⟩, ?_,
      ⟨sku, sources, .inr ⟨mismatch, rfl, target, targets, rfl⟩⟩, rfl, rfl,
      rfl⟩
    simp only [RepairAction.fromOutcome, mismatch, sources, targets]
    exact RepairAction.create_eq_ok.mpr ⟨rfl, derived⟩

/-- What a planned action says, with the names of its identities. -/
structure Planned (runId : RunId) (snapshot : StateFingerprint)
    (bound : RepairPlanBinding) (action : RepairAction)
    (outcome : ReconciliationOutcome) : Prop where
  proposes : Proposes action outcome
  current : action.stateFingerprint = snapshot
  actionId : action.actionId.value = text "rac_" ++
    slugRule.stamped (boundActionName runId snapshot outcome.sku bound)
  conflictId : action.conflictId.value = text "cnf_" ++
    slugRule.shorten (conflictName runId outcome.sku)

theorem planAction_returns {runId : RunId} {snapshot : StateFingerprint}
    {bound : RepairPlanBinding} {outcome : ReconciliationOutcome}
    (plan : Returns (derivePlanId runId snapshot (some bound)))
    (repairable : isRepairable outcome.classification) :
    ∃ action, planAction runId snapshot bound outcome = .ok action ∧
      Planned runId snapshot bound action outcome := by
  have valid := repairable_sku repairable
  obtain ⟨conflictId, conflict, conflictValue⟩ :=
    deriveConflictId_returns runId valid
  obtain ⟨matched, _, size⟩ := actionName_form runId snapshot valid
  obtain ⟨stamped, long, _⟩ := stamped_planName runId snapshot bound
  have whole : payloadPattern.fullmatch
      (boundActionName runId snapshot outcome.sku bound) := by
    rw [boundActionName, payloadPattern_plain.fullmatch_cut hyphen_separates,
      matched, stamped]
    rfl
  have beyond : 47 ≤
      (boundActionName runId snapshot outcome.sku bound).length := by
    rw [boundActionName, List.length_append, List.length_cons]
    omega
  obtain ⟨kept, atLeast, atMost⟩ :=
    stamped_form whole (List.prefix_refl _) beyond
  obtain ⟨actionId, built⟩ :=
    Identifier.create_payload .repairAction kept (by omega) atMost
  have actionValue := Identifier.create_value built
  obtain ⟨action, returned, proposes, actionSame, conflictSame, current⟩ :=
    fromOutcome_returns actionId conflictId snapshot repairable
  refine ⟨action, ?_, proposes, current, ?_, ?_⟩
  · rw [planAction, (deriveActionId_bound valid).mpr ⟨plan, actionValue⟩,
      conflict, ok_bind, ok_bind, returned]
  · rw [actionSame]
    exact actionValue
  · rw [conflictSame, conflictValue]

/-! ## Identities of a plan -/

omit [PythonRuntime] in
/-- A finer reading of distinct values keeps them distinct. -/
theorem nodup_map_of_nodup_map {α β γ : Type} {fine : α → β} {coarse : α → γ}
    {values : List α} (nodup : (values.map coarse).Nodup)
    (finer : ∀ a ∈ values, ∀ b ∈ values, fine a = fine b →
      coarse a = coarse b) :
    (values.map fine).Nodup :=
  nodup.of_map.map_on fun a mine b yours same =>
    List.inj_on_of_nodup_map nodup mine yours (finer a mine b yours same)

theorem planActions_returns {runId : RunId} {snapshot : StateFingerprint}
    {bound : RepairPlanBinding} {outcomes : List ReconciliationOutcome}
    (plan : Returns (derivePlanId runId snapshot (some bound)))
    (repairable : ∀ outcome ∈ outcomes,
      isRepairable outcome.classification) :
    ∃ actions,
      outcomes.mapM (planAction runId snapshot bound) = .ok actions ∧
      List.Forall₂ (Planned runId snapshot bound) actions outcomes := by
  induction outcomes with
  | nil => exact ⟨[], rfl, .nil⟩
  | cons outcome rest ih =>
      rw [List.forall_mem_cons] at repairable
      obtain ⟨action, returned, planned⟩ :=
        planAction_returns plan repairable.1
      obtain ⟨actions, others, plannedRest⟩ := ih repairable.2
      refine ⟨action :: actions, ?_, .cons planned plannedRest⟩
      rw [List.mapM_cons, returned, ok_bind, others]
      rfl

theorem Planned.origin {runId : RunId} {snapshot : StateFingerprint}
    {bound : RepairPlanBinding} {actions : List RepairAction}
    {outcomes : List ReconciliationOutcome}
    (planned : List.Forall₂ (Planned runId snapshot bound) actions outcomes)
    {action : RepairAction} (member : action ∈ actions) :
    ∃ outcome ∈ outcomes, Planned runId snapshot bound action outcome := by
  induction planned with
  | nil => cases member
  | cons one _ ih =>
      rcases List.mem_cons.mp member with rfl | later
      · exact ⟨_, List.mem_cons_self, one⟩
      · obtain ⟨outcome, found, other⟩ := ih later
        exact ⟨outcome, .tail _ found, other⟩

theorem Planned.image {runId : RunId} {snapshot : StateFingerprint}
    {bound : RepairPlanBinding} {actions : List RepairAction}
    {outcomes : List ReconciliationOutcome}
    (planned : List.Forall₂ (Planned runId snapshot bound) actions outcomes)
    {outcome : ReconciliationOutcome} (member : outcome ∈ outcomes) :
    ∃ action ∈ actions, Planned runId snapshot bound action outcome := by
  induction planned with
  | nil => cases member
  | cons one _ ih =>
      rcases List.mem_cons.mp member with rfl | later
      · exact ⟨_, List.mem_cons_self, one⟩
      · obtain ⟨action, found, other⟩ := ih later
        exact ⟨action, .tail _ found, other⟩

theorem Planned.skus {runId : RunId} {snapshot : StateFingerprint}
    {bound : RepairPlanBinding} {actions : List RepairAction}
    {outcomes : List ReconciliationOutcome}
    (planned : List.Forall₂ (Planned runId snapshot bound) actions outcomes) :
    (actions.map fun action => action.sku) =
      outcomes.map fun outcome => outcome.sku := by
  induction planned with
  | nil => rfl
  | cons one _ ih => rw [List.map_cons, List.map_cons, one.proposes.1, ih]

/-- The keys of an analysis are sorted and distinct. -/
theorem repairable_sorted (analysis : ReconciliationAnalysis) :
    (analysis.repairableOutcomes.map fun outcome => outcome.sku).Pairwise
      (· < ·) := by
  have valid := analysis.classification.valid
  simp only [validateClassification, bind_eq_ok, require_eq_ok,
    Bool.and_eq_true, beq_iff_eq, decide_eq_true_eq] at valid
  obtain ⟨_, ⟨ordered, distinct⟩, _⟩ := valid
  have strict : (analysis.classification.keys.map fun key =>
      key.outcome.sku).Pairwise (· < ·) := by
    have identity : ((analysis.classification.keys.map fun key =>
        key.outcome.sku).map id).Nodup := by
      rwa [List.map_id]
    rw [ordered]
    exact sortedBy_strict identity
  rw [ReconciliationAnalysis.repairableOutcomes, List.pairwise_map]
  apply List.Pairwise.filter
  rw [List.pairwise_map]
  exact List.pairwise_map.mp strict

theorem repairable_member {analysis : ReconciliationAnalysis}
    {outcome : ReconciliationOutcome}
    (member : outcome ∈ analysis.repairableOutcomes) :
    isRepairable outcome.classification :=
  (List.mem_filter.mp member).2

section Planned

variable {runId : RunId} {snapshot : StateFingerprint}
  {bound : RepairPlanBinding} {first second : RepairAction}
  {outcome other : ReconciliationOutcome}
  (planned : Planned runId snapshot bound first outcome)
  (planned' : Planned runId snapshot bound second other)
  (repairable : isRepairable outcome.classification)
  (repairable' : isRepairable other.classification)

include planned planned' repairable repairable'

/-- Actions of different keys have different identities. -/
theorem Planned.actionId_inj
    (distinct : nameStamp 16
        (boundActionName runId snapshot outcome.sku bound) =
      nameStamp 16 (boundActionName runId snapshot other.sku bound) →
      boundActionName runId snapshot outcome.sku bound =
        boundActionName runId snapshot other.sku bound)
    (same : first.actionId = second.actionId) :
    first.sku = second.sku := by
  have values := congrArg Identifier.value same
  rw [planned.actionId, planned'.actionId] at values
  simp only [← slugRule_stamp] at distinct
  have names : boundActionName runId snapshot outcome.sku bound =
      boundActionName runId snapshot other.sku bound :=
    Shortening.stamped_inj distinct (List.append_cancel_left values)
  have plain := (cut_width_inj rfl names).1
  have rests := (List.cons.inj (List.append_cancel_left plain)).2
  have lowers := (List.cons.inj (List.append_cancel_left rests)).2
  rw [planned.proposes.1, planned'.proposes.1]
  exact lowered_key_inj (repairable_sku repairable)
    (repairable_sku repairable') lowers

/-- Conflicts of different keys differ unless one spells the other. -/
theorem Planned.conflictId_eq_iff
    (distinct : 64 < (conflictName runId outcome.sku).length →
      64 < (conflictName runId other.sku).length →
      nameStamp 16 (conflictName runId outcome.sku) =
        nameStamp 16 (conflictName runId other.sku) →
      conflictName runId outcome.sku = conflictName runId other.sku) :
    first.conflictId = second.conflictId ↔
      first.sku = second.sku ∨
        slugRule.Spells (conflictName runId outcome.sku)
          (conflictName runId other.sku) ∨
        slugRule.Spells (conflictName runId other.sku)
          (conflictName runId outcome.sku) := by
  have names : conflictName runId outcome.sku =
      conflictName runId other.sku ↔ first.sku = second.sku := by
    rw [planned.proposes.1, planned'.proposes.1]
    constructor
    · intro same
      have lowers := (List.cons.inj (List.append_cancel_left same)).2
      exact lowered_key_inj (repairable_sku repairable)
        (repairable_sku repairable') lowers
    · intro same
      rw [same]
  rw [← names, ← slug_shorten_eq_iff distinct]
  constructor
  · intro same
    have values := congrArg Identifier.value same
    rw [planned.conflictId, planned'.conflictId] at values
    exact List.append_cancel_left values
  · intro same
    apply Identifier.ext
    rw [planned.conflictId, planned'.conflictId, same]

end Planned

/-! ## When a plan is generated -/

/-- The plan of an analysis whose conflicts are told apart. -/
theorem assemblePlan_returns {runId : RunId}
    {analysis : ReconciliationAnalysis} {bound : RepairPlanBinding}
    (bound_ : bound.toBindingFields = planBinding runId analysis.summary
      analysis.repairableOutcomes.length)
    (some_ : analysis.repairableOutcomes ≠ [])
    (few : analysis.repairableOutcomes.length ≤ maxPlanActions)
    (differ : PlanDigestsDiffer runId analysis)
    (plannable : Plannable runId analysis) :
    ∃ plan, assemblePlan runId analysis.summary.fingerprint bound
        analysis.repairableOutcomes = .ok plan ∧
      plan.binding = some bound ∧
      List.Forall₂ (Planned runId analysis.summary.fingerprint bound)
        plan.actions analysis.repairableOutcomes := by
  obtain ⟨beyond, printed, apart⟩ := plannable
  have derived := (planId_returns_iff bound_).mpr ⟨beyond, printed⟩
  obtain ⟨actions, returned, planned⟩ := planActions_returns derived
    fun _ => repairable_member
  obtain ⟨planId, named⟩ := derived
  have skus := Planned.skus planned
  have strict := repairable_sorted analysis
  have distinct : (actions.map fun action => action.sku).Nodup := by
    rw [skus]
    exact strict.imp ne_of_lt
  have ordered : sortedBy actionOrderKey actions = actions := by
    apply sortedBy_of_pairwise
    rw [← skus, List.pairwise_map] at strict
    exact strict.imp fun less => Prod.Lex.toLex_le_toLex.mpr (.inl less)
  have actionIds : (actions.map fun action => action.actionId).Nodup := by
    apply nodup_map_of_nodup_map distinct
    intro first mine second yours same
    obtain ⟨outcome, found, plannedFirst⟩ := Planned.origin planned mine
    obtain ⟨other, found', plannedSecond⟩ := Planned.origin planned yours
    exact plannedFirst.actionId_inj plannedSecond (repairable_member found)
      (repairable_member found')
      (differ.actions bound bound_ outcome found other found') same
  have conflictIds : (actions.map fun action => action.conflictId).Nodup := by
    apply nodup_map_of_nodup_map distinct
    intro first mine second yours same
    obtain ⟨outcome, found, plannedFirst⟩ := Planned.origin planned mine
    obtain ⟨other, found', plannedSecond⟩ := Planned.origin planned yours
    rcases (plannedFirst.conflictId_eq_iff plannedSecond
      (repairable_member found) (repairable_member found')
      (differ.conflicts outcome found other found')).mp same with
      sku | spells | spells
    · exact sku
    · exact absurd spells (apart outcome found other found')
    · exact absurd spells (apart other found' outcome found)
  have size : actions.length = analysis.repairableOutcomes.length :=
    planned.length_eq
  have normalized : (PlanFields.mk planId analysis.summary.fingerprint actions
      (some bound)).normalize = .ok ⟨planId, analysis.summary.fingerprint,
        actions, some bound⟩ := by
    apply PlanFields.normalize_eq_ok.mpr
    refine ⟨⟨size.trans_le few, ?_, ?_, actionIds, conflictIds, distinct, ?_⟩,
      by simp only [ordered]⟩
    · intro empty
      apply some_
      rw [← List.length_eq_zero_iff, ← size]
      exact List.length_eq_zero_iff.mpr empty
    · intro action member
      obtain ⟨_, _, one⟩ := Planned.origin planned member
      exact one.current
    · intro binding present
      cases present
      rw [bound_]
      exact ⟨rfl, by simp [planBinding, size]⟩
  refine ⟨⟨_, normalized⟩, ?_, rfl, planned⟩
  rw [assemblePlan, returned, ok_bind, named, ok_bind]
  exact RepairPlan.create_eq_ok.mpr normalized

/-- A plan with printable versions has a content fingerprint. -/
theorem planContent_fingerprinted {plan : RepairPlan}
    (printable : plan.Printable) :
    Returns (fingerprintState .repairPlanContent [plan] .v1) := by
  obtain ⟨bytes, encoded, length⟩ := encodeRepairPlanContent_sized .v1 printable
  obtain ⟨framed, frames⟩ : ∃ framed, frame (encodeAscii (text
      FingerprintScope.repairPlanContent.value)) = .ok framed :=
    returns_of_isSome (by decide)
  have leaves : fingerprintLeaves .v1 .repairPlanContent 0 [plan] =
      .ok [sha256 (leafDomain ++ (bigEndian 8 bytes.length ++ bytes))] := by
    simp only [fingerprintLeaves, fingerprintLeaf, encodeStateValue, encoded,
      leafPreimage, frame, length, if_true, ok_bind]
    rfl
  exact ⟨_, fingerprintState_eq_ok.mpr ⟨_, _, leaves,
    by simp only [rootPreimage, frames, ok_bind]; rfl, rfl⟩⟩

omit [PythonRuntime] in
/-- Derived keys are accepted by the target. -/
theorem idempotencyKey_accepted (runId : RunId) (content : StateFingerprint)
    {key : Text} (valid : validateSku key = .ok ()) :
    isExternalKey (idempotencyKey runId content key) := by
  obtain ⟨_, run, _, short⟩ := runSlug_form runId
  have lowerOrDigit : ∀ c, isLowerOrDigit c → isCursorPoint c := by
    intro c char
    simp only [isLowerOrDigit, Bool.or_eq_true] at char
    simp only [isCursorPoint, Bool.or_eq_true]
    rcases char with lower | digit
    · exact .inl (.inl (.inr lower))
    · exact .inl (.inr digit)
  have hyphen : isCursorPoint (point '-') ∧ isCursorPoint (point '.') := by
    decide
  have runs : (runSlug runId).all isCursorPoint := by
    rw [List.all_eq_true]
    intro c member
    rcases payloadPattern_chars run member with char | rfl
    · exact lowerOrDigit c char
    · exact hyphen.1
  have keys : key.all isCursorPoint := by
    rw [List.all_eq_true]
    intro c member
    rcases skuPattern_chars (validateSku_eq_ok.mp valid).2 member with
      char | rfl
    · simp only [isUpperOrDigit, Bool.or_eq_true] at char
      simp only [isCursorPoint, Bool.or_eq_true]
      rcases char with upper | digit
      · exact .inl (.inl (.inl upper))
      · exact .inl (.inr digit)
    · exact hyphen.1
  have hexes : ∀ {t : Text}, t.all isHexLower → t.all isCursorPoint := by
    intro t hex
    rw [List.all_eq_true] at hex ⊢
    exact fun c member =>
      lowerOrDigit c (isLowerOrDigit_of_isHexLower (hex c member))
  have head : ∀ rest : Text, rest.all isCursorPoint →
      (text "repair." ++ rest).length ≤ 128 →
        isExternalKey (text "repair." ++ rest) := by
    intro rest all within
    have start : text "repair." = point 'r' :: text "epair." := by decide
    have points : (text "epair.").all isCursorPoint ∧
        (isUpper (point 'r') || isLower (point 'r') ||
          isDigit (point 'r')) = true := by
      decide
    rw [start, List.cons_append] at within ⊢
    rw [List.length_cons] at within
    have few : (text "epair." ++ rest).length ≤ 127 := by omega
    simp only [isExternalKey, points, List.all_append, all, few, decide_true,
      Bool.and_self]
  rw [idempotencyKey]
  split
  next within =>
    rw [idempotencyName_form, List.append_assoc] at within ⊢
    apply head _ _ within
    simp only [List.all_append, List.all_cons, runs, keys, hyphen,
      hexes (reconciliation_piece content 24 (by decide) (by decide)).2.2,
      Bool.and_self]
  next =>
    rw [List.append_assoc]
    apply head
    · simp only [List.all_append, List.all_cons, runs, hyphen,
        hexes (nameStamp_hex 32 _), Bool.and_self]
    · have start : (text "repair.").length = 7 := by decide
      have stamp := nameStamp_length (show 32 ≤ 64 by decide)
      simp only [List.length_append, List.length_cons, start, stamp]
      omega

/-- Every action has its own key, under its identity. -/
theorem actionKeys_returns {runId : RunId} {content : StateFingerprint}
    {actions : List RepairAction}
    (valid : ∀ action ∈ actions, validateSku action.sku = .ok ())
    (actionIds : (actions.map fun action => action.actionId).Nodup) :
    actionKeys runId content actions =
      .ok (actions.map fun action =>
        (action.actionId, idempotencyKey runId content action.sku)) := by
  have items : actions.mapM (fun action => do
      let key ← deriveActionIdempotencyKey runId content action.sku
      pure (action.actionId, key)) =
        .ok (actions.map fun action =>
          (action.actionId, idempotencyKey runId content action.sku)) := by
    apply mapM_eq_ok.mpr
    rw [List.map_map]
    apply List.map_congr_left
    intro action member
    rw [deriveActionIdempotencyKey_returns runId content (valid action member)]
    rfl
  rw [actionKeys, items, ok_bind, dictOf_of_nodup]
  · rfl
  · rw [List.map_map]
    exact actionIds

omit [PythonRuntime] in
theorem fromMapping_returns {items : List (RepairActionId × Text)}
    (actionIds : (items.map Prod.fst).Nodup)
    (keys : (items.map Prod.snd).Nodup) :
    ∃ keyMap, RepairActionKeyMap.fromMapping items = .ok keyMap ∧
      keyMap.items.Perm items := by
  have normalized := normalizeActionKeys_eq_ok.mpr ⟨actionIds, keys, rfl⟩
  refine ⟨⟨_, normalizeActionKeys_idem normalized⟩, ?_, sortedBy_perm _ _⟩
  rw [RepairActionKeyMap.fromMapping,
    certify_ok (fun _ => normalizeActionKeys_idem) normalized]
  rfl

/-- The two bindings that generation makes. -/
theorem bindings_return (runId : RunId) (analysis : ReconciliationAnalysis)
    (few : analysis.repairableOutcomes.length ≤ maxPlanActions) :
    ∃ binding bound : RepairPlanBinding,
      RepairPlanBinding.create (planBinding runId analysis.summary 0) =
        .ok binding ∧
      replaceCount binding analysis.repairableOutcomes.length = .ok bound ∧
      bound.toBindingFields = planBinding runId analysis.summary
        analysis.repairableOutcomes.length := by
  have first : (planBinding runId analysis.summary 0).validate = .ok () :=
    planBinding_valid runId analysis.summary (by decide) (by decide)
  have second : (planBinding runId analysis.summary
      analysis.repairableOutcomes.length).validate = .ok () :=
    planBinding_valid runId analysis.summary (by omega) (by omega)
  exact ⟨⟨_, first⟩, ⟨_, second⟩,
    RepairPlanBinding.create_eq_ok.mpr ⟨first, rfl⟩,
    RepairPlanBinding.create_eq_ok.mpr ⟨second, rfl⟩, rfl⟩

/-- A plannable analysis gets its plan. -/
theorem generateRepairPlan_returns {runId : RunId}
    {analysis : ReconciliationAnalysis}
    (some_ : 1 ≤ analysis.repairableOutcomes.length)
    (few : analysis.repairableOutcomes.length ≤ maxPlanActions)
    (differ : PlanDigestsDiffer runId analysis)
    (plannable : Plannable runId analysis) :
    GeneratesPlan runId analysis := by
  have inhabited : analysis.repairableOutcomes ≠ [] :=
    List.ne_nil_of_length_pos some_
  obtain ⟨binding, bound, created, counted, bound_⟩ :=
    bindings_return runId analysis few
  obtain ⟨plan, assembled, planBound, planned⟩ :=
    assemblePlan_returns bound_ inhabited few differ plannable
  have printable : plan.Printable := by
    intro other present
    rw [planBound] at present
    cases present
    exact (planBinding_policy bound_).2.mpr plannable.2.1
  obtain ⟨content, fingerprinted⟩ := planContent_fingerprinted printable
  obtain ⟨⟨_, _, _, actionIds, conflictIds, skus, _⟩, _⟩ :=
    PlanFields.normalize_eq_ok.mp plan.valid
  have valid : ∀ action ∈ plan.actions, validateSku action.sku = .ok () := by
    intro action member
    exact action.proposedRecord.valid.sku
  have keyed : actionKeys runId content plan.actions =
      .ok (plan.actions.map fun action =>
        (action.actionId, idempotencyKey runId content action.sku)) :=
    actionKeys_returns valid actionIds
  have keys : ((plan.actions.map fun action =>
      (action.actionId, idempotencyKey runId content action.sku)).map
        Prod.snd).Nodup := by
    rw [List.map_map]
    apply nodup_map_of_nodup_map skus
    intro first mine second yours same
    obtain ⟨outcome, found, one⟩ := Planned.origin planned mine
    obtain ⟨other, found', another⟩ := Planned.origin planned yours
    have distinct := differ.keys bound plan content bound_ assembled
      fingerprinted outcome found other found'
    rw [← one.proposes.1, ← another.proposes.1] at distinct
    exact (idempotencyKey_inj distinct same).2.2
  obtain ⟨keyMap, mapped, items⟩ := fromMapping_returns
    (by rw [List.map_map]; exact actionIds) keys
  have complete : (GeneratedFields.mk (some plan) (some content)
      (some keyMap) bound (sorted (analysis.repairableOutcomes.map
        fun outcome => outcome.sku)) (sorted (analysis.reviewOnlyOutcomes.map
        fun outcome => outcome.sku))).validate = .ok () := by
    simp [GeneratedFields.validate, bound_, planBinding]
  refine ⟨⟨_, complete⟩, plan, keyMap, ?_, ?_⟩
  · have unempty : analysis.repairableOutcomes.isEmpty = false := by
      rw [List.isEmpty_eq_false_iff]
      exact inhabited
    simp only [generateRepairPlan, created, ok_bind, unempty,
      Bool.false_eq_true, if_false, counted, assembled, fingerprinted, keyed,
      mapped, GeneratedRepairPlan.create]
    rw [certify_ok (fun _ accepted => accepted) complete]
    rfl
  · refine ⟨rfl, rfl, planned.imp fun _ _ one => one.proposes, skus, actionIds,
      conflictIds, ?_, ?_, ?_⟩
    · have perm := items.map Prod.fst
      rwa [List.map_map] at perm
    · exact (items.map Prod.snd).nodup_iff.mpr keys
    · intro item member
      obtain ⟨action, found, rfl⟩ := List.mem_map.mp (items.mem_iff.mp member)
      exact idempotencyKey_accepted runId content (valid action found)

/-- What is generated was plannable. -/
theorem plannable_of_generated {runId : RunId}
    {analysis : ReconciliationAnalysis} {generated : GeneratedRepairPlan}
    (some_ : 1 ≤ analysis.repairableOutcomes.length)
    (few : analysis.repairableOutcomes.length ≤ maxPlanActions)
    (differ : PlanDigestsDiffer runId analysis)
    (returned : generateRepairPlan runId analysis = .ok generated) :
    Plannable runId analysis := by
  have unempty : analysis.repairableOutcomes.isEmpty = false := by
    rw [List.isEmpty_eq_false_iff]
    exact List.ne_nil_of_length_pos some_
  obtain ⟨binding, bound, created, counted, bound_⟩ :=
    bindings_return runId analysis few
  simp only [generateRepairPlan, created, ok_bind, unempty,
    Bool.false_eq_true, if_false, counted, bind_eq_ok] at returned
  obtain ⟨plan, assembled, _⟩ := returned
  simp only [assemblePlan, bind_eq_ok] at assembled
  obtain ⟨actions, mapped, planId, named, built⟩ := assembled
  have derived : Returns (derivePlanId runId analysis.summary.fingerprint
    (some bound)) := ⟨planId, named⟩
  obtain ⟨beyond, printed⟩ := (planId_returns_iff bound_).mp derived
  obtain ⟨others, mapped', planned⟩ := planActions_returns derived
    fun _ => repairable_member
  rw [mapped] at mapped'
  cases mapped'
  obtain ⟨⟨_, _, _, _, conflictIds, _⟩, _⟩ :=
    PlanFields.normalize_eq_ok.mp (RepairPlan.create_eq_ok.mp built)
  refine ⟨beyond, printed, ?_⟩
  intro outcome found other found' spells
  obtain ⟨first, mine, one⟩ := Planned.image planned found
  obtain ⟨second, yours, another⟩ := Planned.image planned found'
  have same := (one.conflictId_eq_iff another (repairable_member found)
    (repairable_member found')
    (differ.conflicts outcome found other found')).mpr (.inr (.inl spells))
  have actions_same : first = second :=
    List.inj_on_of_nodup_map conflictIds mine yours same
  have skus : outcome.sku = other.sku := by
    rw [← one.proposes.1, ← another.proposes.1, actions_same]
  obtain ⟨short, long, _⟩ := spells
  rw [skus] at short
  omega

/--
Generation covers an analysis of some, but not too many, repairable keys
exactly when the identities of its plan can be derived and told apart.
-/
theorem generatesPlan_iff (runId : RunId) (analysis : ReconciliationAnalysis)
    (some_ : 1 ≤ analysis.repairableOutcomes.length)
    (few : analysis.repairableOutcomes.length ≤ maxPlanActions)
    (differ : PlanDigestsDiffer runId analysis) :
    GeneratesPlan runId analysis ↔ Plannable runId analysis := by
  constructor
  · rintro ⟨generated, _, _, returned, _⟩
    exact plannable_of_generated some_ few differ returned
  · exact generateRepairPlan_returns some_ few differ

/-! ## One widget that the target misses -/

/-- The digests of a plan of one action differ. -/
theorem planDigestsDiffer_of_single (runId : RunId)
    {analysis : ReconciliationAnalysis}
    (single : analysis.repairableOutcomes.length = 1) :
    PlanDigestsDiffer runId analysis := by
  have same : ∀ first ∈ analysis.repairableOutcomes,
      ∀ second ∈ analysis.repairableOutcomes, first = second := by
    intro first found second found'
    obtain ⟨only, list⟩ := List.length_eq_one_iff.mp single
    rw [list, List.mem_singleton] at found found'
    rw [found, found']
  constructor
  · intro first found second found' _ _ _
    rw [same first found second found']
  · intro _ _ first found second found' _
    rw [same first found second found']
  · intro _ _ _ _ _ _ first found second found' _ _ _
    rw [same first found second found']

/-- No name of a plan of one action spells another. -/
theorem plannable_of_single {runId : RunId} {analysis : ReconciliationAnalysis}
    (single : analysis.repairableOutcomes.length = 1)
    (beyond : 3 < (runSlug runId).length ∨
      10 ≤ analysis.summary.inputs.analyticalQueryVersion)
    (printed : intReprError
      analysis.summary.inputs.analyticalQueryVersion = none) :
    Plannable runId analysis := by
  refine ⟨beyond, printed, ?_⟩
  obtain ⟨only, list⟩ := List.length_eq_one_iff.mp single
  rintro first found second found' ⟨short, long, _⟩
  rw [list, List.mem_singleton] at found found'
  rw [found] at short
  rw [found'] at long
  omega

end Planning

section Sample

attribute [local instance] asciiRuntime

/-- One widget in the source, and nothing in the target. -/
def missingRequest : ReconciliationAnalysisRequest where
  sourceObservations := [sampleObservation]
  targetObservations := []
  inputs :=
    { sourceInputIdentity := List.replicate 64 (point '0')
      targetInputIdentity := List.replicate 64 (point '1')
      analyticalQueryVersion := 1 }

theorem missingRequest_analyzed :
    ∃ analysis, analyzeReconciliation missingRequest = .ok analysis ∧
      analysis.repairableOutcomes.length = 1 ∧
      analysis.summary.inputs.analyticalQueryVersion = 1 := by
  have found : ((analyzeReconciliation missingRequest).toOption.any
      fun analysis => analysis.repairableOutcomes.length == 1 &&
        analysis.summary.inputs.analyticalQueryVersion == 1) = true := by
    decide +kernel
  cases returned : analyzeReconciliation missingRequest with
  | error raised =>
      rw [returned] at found
      cases found
  | ok analysis =>
      rw [returned] at found
      simp only [Except.toOption, Option.any_some, Bool.and_eq_true,
        beq_iff_eq] at found
      exact ⟨analysis, rfl, found⟩

/-- A run with a payload of four characters gets its plan. -/
theorem generatesPlan_sample :
    ∃ analysis, analyzeReconciliation missingRequest = .ok analysis ∧
      1 ≤ analysis.repairableOutcomes.length ∧
      analysis.repairableOutcomes.length ≤ maxPlanActions ∧
      PlanDigestsDiffer ⟨text "run_abcd", by decide +kernel⟩ analysis ∧
      GeneratesPlan ⟨text "run_abcd", by decide +kernel⟩ analysis := by
  obtain ⟨analysis, analyzed, single, query⟩ := missingRequest_analyzed
  have few : analysis.repairableOutcomes.length ≤ maxPlanActions := by
    rw [single]
    decide
  have differ := planDigestsDiffer_of_single
    ⟨text "run_abcd", by decide +kernel⟩ single
  refine ⟨analysis, analyzed, single.ge, few, differ, ?_⟩
  apply (generatesPlan_iff _ analysis single.ge few differ).mpr
  apply plannable_of_single single
  · exact .inl (by decide)
  · rw [query]
    decide +kernel

/-- A run with a payload of three characters gets none. -/
theorem generateRepairPlan_short_run :
    ¬∀ (runId : RunId) (analysis : ReconciliationAnalysis),
      1 ≤ analysis.repairableOutcomes.length →
      analysis.repairableOutcomes.length ≤ maxPlanActions →
      PlanDigestsDiffer runId analysis → GeneratesPlan runId analysis := by
  intro always
  obtain ⟨analysis, _, single, query⟩ := missingRequest_analyzed
  have few : analysis.repairableOutcomes.length ≤ maxPlanActions := by
    rw [single]
    decide
  have differ := planDigestsDiffer_of_single
    ⟨text "run_abc", by decide +kernel⟩ single
  obtain ⟨generated, _, _, returned, _⟩ :=
    always _ analysis single.ge few differ
  obtain ⟨beyond, _⟩ := plannable_of_generated single.ge few differ returned
  rw [query] at beyond
  rcases beyond with beyond | beyond
  · exact absurd beyond (by decide)
  · omega

end Sample

end ParityGrid.Application
