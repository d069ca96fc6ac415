import ParityGrid.Domain.Canonical.Sizes

/-!
# What the content of a plan covers

The content of a plan is its state, its binding and the logical effect of
every action.  Identities and provenance are left out, and the order of the
actions is the order of their SKUs, so the bytes of two plans are equal exactly
when the plans do the same.
-/

namespace ParityGrid.Domain

open Foundation

section PlanContent

variable [PythonRuntime]

/-! ## Logical effects -/

/-- What an action does to its key, and what it expects there. -/
structure LogicalEffect where
  kind : RepairActionKind
  proposed : BusinessContent
  expected : Option BusinessContent
deriving DecidableEq

def ActionFields.effect (fields : ActionFields) : LogicalEffect where
  kind := fields.kind
  proposed := fields.proposedRecord.content
  expected := fields.expectedTargetRecord.map InventoryRecord.content

/-- The effects of a plan, with their SKUs. -/
def PlanFields.effects (fields : PlanFields) : List (Text × LogicalEffect) :=
  fields.actions.map fun action => (action.sku, action.effect)

/-- Two plans do the same: one state, one binding, one effect for each SKU. -/
def SameContent (left right : RepairPlan) : Prop :=
  left.stateFingerprint = right.stateFingerprint ∧
    left.binding = right.binding ∧
    ∀ sku, left.effects.lookup sku = right.effects.lookup sku

theorem RepairPlan.effects_nodup (plan : RepairPlan) :
    (plan.effects.map Prod.fst).Nodup := by
  obtain ⟨⟨_, _, _, _, _, skus, _⟩, _⟩ :=
    PlanFields.normalize_eq_ok.mp plan.valid
  rw [PlanFields.effects, List.map_map]
  exact skus

/-- Distinct SKUs alone put the actions of a plan in order. -/
theorem RepairPlan.effects_sorted (plan : RepairPlan) :
    sortedBy (fun item => id item.1) plan.effects = plan.effects := by
  obtain ⟨_, same⟩ := PlanFields.normalize_eq_ok.mp plan.valid
  have ordered : plan.actions = sortedBy actionOrderKey plan.actions :=
    congrArg PlanFields.actions same
  have pairwise := sortedBy_pairwise actionOrderKey plan.actions
  rw [← ordered] at pairwise
  apply sortedBy_of_pairwise
  rw [PlanFields.effects, List.pairwise_map]
  exact pairwise.imp fun le => Prod.Lex.monotone_fst _ _ le

/-- Effects are compared SKU by SKU. -/
theorem effects_eq_iff {left right : RepairPlan} :
    left.effects = right.effects ↔
      ∀ sku, left.effects.lookup sku = right.effects.lookup sku := by
  have lookups := sortedBy_fst_eq_iff Function.injective_id
    left.effects_nodup right.effects_nodup
  rwa [left.effects_sorted, right.effects_sorted] at lookups

/-! ## Actions -/

/-- Mismatches compare business content only. -/
theorem fieldMismatches_congr {source target source' target' : InventoryRecord}
    (first : source.content = source'.content)
    (second : target.content = target'.content) :
    fieldMismatches source target = fieldMismatches source' target' := by
  simp only [InventoryRecord.content, BusinessContent.mk.injEq]
    at first second
  obtain ⟨_, name, quantity, price, updated, attributes⟩ := first
  obtain ⟨_, name', quantity', price', updated', attributes'⟩ := second
  simp only [fieldMismatches, name, quantity, price, updated, attributes,
    name', quantity', price', updated', attributes']

theorem deriveMismatches_congr {left right : ActionFields}
    (same : left.effect = right.effect) :
    left.deriveMismatches = right.deriveMismatches := by
  simp only [ActionFields.effect, LogicalEffect.mk.injEq] at same
  obtain ⟨kind, proposed, expected⟩ := same
  have sku : left.proposedRecord.sku = right.proposedRecord.sku :=
    congrArg BusinessContent.sku proposed
  simp only [ActionFields.deriveMismatches, kind]
  cases leftRecord : left.expectedTargetRecord with
  | none =>
      cases rightRecord : right.expectedTargetRecord with
      | none => cases right.kind <;> rfl
      | some other =>
          rw [leftRecord, rightRecord] at expected
          cases expected
  | some record =>
      cases rightRecord : right.expectedTargetRecord with
      | none =>
          rw [leftRecord, rightRecord] at expected
          cases expected
      | some other =>
          rw [leftRecord, rightRecord] at expected
          have contents : record.content = other.content :=
            Option.some.inj expected
          have skus : record.sku = other.sku :=
            congrArg BusinessContent.sku contents
          cases right.kind with
          | createTarget => rfl
          | updateTarget =>
              simp only [differencesBetween, sku, skus,
                fieldMismatches_congr proposed contents]

theorem optionalEffectValue_congr {left right : Option InventoryRecord}
    (same : left.map InventoryRecord.content =
      right.map InventoryRecord.content) :
    optionalRecordValue inventoryEffectValue left =
      optionalRecordValue inventoryEffectValue right := by
  cases left with
  | none =>
      cases right with
      | none => rfl
      | some record => cases same
  | some record =>
      cases right with
      | none => cases same
      | some other =>
          exact inventoryEffectValue_congr (Option.some.inj same)

theorem optionalEffectValue_content {left right : Option InventoryRecord}
    (equal : (optionalRecordValue inventoryEffectValue left).sortKeys =
      (optionalRecordValue inventoryEffectValue right).sortKeys) :
    left.map InventoryRecord.content =
      right.map InventoryRecord.content := by
  cases left with
  | none =>
      cases right with
      | none => rfl
      | some record => cases equal
  | some record =>
      cases right with
      | none => cases equal
      | some other =>
          exact congrArg some (inventoryEffectValue_content equal)

/-- The value of an action inside a content is its effect, written out. -/
theorem actionContent_congr {left right : RepairAction}
    (same : left.effect = right.effect) :
    repairActionValue false false false left =
      repairActionValue false false false right := by
  have derived : (Except.ok left.mismatches : Except PythonError _) =
      .ok right.mismatches := by
    rw [← left.valid, ← right.valid, deriveMismatches_congr same]
  simp only [ActionFields.effect, LogicalEffect.mk.injEq] at same
  obtain ⟨kind, proposed, expected⟩ := same
  simp only [repairActionValue, kind, Except.ok.inj derived,
    Bool.false_eq_true, if_false, inventoryEffectValue_congr proposed,
    optionalEffectValue_congr expected]

theorem actionContent_effect {left right : RepairAction}
    (equal : (repairActionValue false false false left).sortKeys =
      (repairActionValue false false false right).sortKeys) :
    left.effect = right.effect := by
  have expected := JsonValue.field_congr equal (text "expected_target_record")
  have kind := JsonValue.field_congr equal (text "kind")
  have proposed := JsonValue.field_congr equal (text "proposed_record")
  simp [repairActionValue, JsonValue.field, List.lookup]
    at expected kind proposed
  simp only [ActionFields.effect, LogicalEffect.mk.injEq]
  exact ⟨RepairActionKind.value_injective (text_injective kind),
    inventoryEffectValue_content proposed,
    optionalEffectValue_content expected⟩

omit [PythonRuntime] in
/-- Lists that agree under one reading agree under a coarser one. -/
theorem map_eq_of_map_eq {α β γ : Type} {fine : α → β} {coarse : α → γ}
    (coarser : ∀ a b, fine a = fine b → coarse a = coarse b)
    {left right : List α} (same : left.map fine = right.map fine) :
    left.map coarse = right.map coarse := by
  induction left generalizing right with
  | nil =>
      cases right with
      | nil => rfl
      | cons b rest => cases same
  | cons a left ih =>
      cases right with
      | nil => cases same
      | cons b right =>
          simp only [List.map_cons, List.cons.injEq] at same
          rw [List.map_cons, List.map_cons, coarser a b same.1, ih same.2]

/-! ## Contents -/

omit [PythonRuntime] in
theorem bindingValue_distinguishes : Distinguishes bindingValue := by
  intro left right equal
  have run := JsonValue.field_congr equal (text "run_id")
  have snapshot :=
    JsonValue.field_congr equal (text "reconciliation_fingerprint")
  have source := JsonValue.field_congr equal (text "source_input_identity")
  have target := JsonValue.field_congr equal (text "target_input_identity")
  have policy := JsonValue.field_congr equal (text "policy_version")
  have generation := JsonValue.field_congr equal (text "generation_version")
  have rules := JsonValue.field_congr equal (text "rules_version")
  have analysis := JsonValue.field_congr equal (text "analysis_version")
  have query := JsonValue.field_congr equal (text "analytical_query_version")
  have count := JsonValue.field_congr equal (text "action_count")
  simp [bindingValue, JsonValue.field, List.lookup]
    at run snapshot source target policy generation rules analysis query count
  obtain ⟨leftFields, leftValid⟩ := left
  obtain ⟨rightFields, rightValid⟩ := right
  cases leftFields
  cases rightFields
  simp only [RepairPlanBinding.mk.injEq, BindingFields.mk.injEq]
  exact ⟨Identifier.ext run, StateFingerprint.ext snapshot, source, target,
    policy, generation, rules, analysis, query, count⟩

theorem planContent_binding {left right : RepairPlan}
    (equal : (repairPlanContentPrimitive left).sortKeys =
      (repairPlanContentPrimitive right).sortKeys) :
    left.binding = right.binding := by
  have binding := JsonValue.field_congr equal (text "binding")
  cases leftBound : left.binding with
  | none =>
      cases rightBound : right.binding with
      | none => rfl
      | some other =>
          simp [repairPlanContentPrimitive, leftBound, rightBound,
            JsonValue.field, List.lookup] at binding
  | some bound =>
      cases rightBound : right.binding with
      | none =>
          simp [repairPlanContentPrimitive, leftBound, rightBound,
            JsonValue.field, List.lookup] at binding
      | some other =>
          simp [repairPlanContentPrimitive, leftBound, rightBound,
            JsonValue.field, List.lookup] at binding
          rw [bindingValue_distinguishes bound other binding]

/-- Contents that are written alike are of plans that do the same. -/
theorem planContent_sound {left right : RepairPlan}
    (equal : (repairPlanContentPrimitive left).sortKeys =
      (repairPlanContentPrimitive right).sortKeys) :
    SameContent left right := by
  have actions := JsonValue.field_congr equal (text "actions")
  have fingerprint := JsonValue.field_congr equal (text "state_fingerprint")
  simp [repairPlanContentPrimitive, JsonValue.field, List.lookup,
    -List.map_map] at actions fingerprint
  rw [List.map_map, List.map_map] at actions
  rw [SameContent, ← effects_eq_iff]
  refine ⟨StateFingerprint.ext fingerprint, planContent_binding equal,
    map_eq_of_map_eq ?_ actions⟩
  intro first second written
  have effect := actionContent_effect written
  have sku : first.sku = second.sku :=
    congrArg (fun effect => effect.proposed.sku) effect
  rw [sku, effect]

/-- Plans that do the same are written alike. -/
theorem planContent_congr {left right : RepairPlan}
    (same : SameContent left right) :
    repairPlanContentPrimitive left = repairPlanContentPrimitive right := by
  obtain ⟨fingerprint, binding, effects⟩ := same
  have actions : left.actions.map (repairActionValue false false false) =
      right.actions.map (repairActionValue false false false) := by
    apply map_eq_of_map_eq _ (effects_eq_iff.mpr effects)
    intro first second effect
    exact actionContent_congr (Prod.mk.inj effect).2
  rw [repairPlanContentPrimitive, repairPlanContentPrimitive, fingerprint,
    binding, actions]

/-! ## When a content is encoded -/

/-- The version numbers of a binding have a decimal text. -/
def RepairPlanBinding.Printable (binding : RepairPlanBinding) : Prop :=
  ∀ number ∈ [binding.policyVersion, binding.generationVersion,
    binding.rulesVersion, binding.analysisVersion,
    binding.analyticalQueryVersion], intReprError number = none

/-- The versions of the binding, when there is one, have a decimal text. -/
def RepairPlan.Printable (plan : RepairPlan) : Prop :=
  ∀ binding, plan.binding = some binding → binding.Printable

omit [PythonRuntime] in
theorem bindingValue_unicode (binding : RepairPlanBinding) :
    (bindingValue binding).unicode := by
  have valid := binding.valid
  simp only [BindingFields.validate, bind_eq_ok, require_eq_ok,
    Bool.and_eq_true] at valid
  obtain ⟨_, ⟨source, target⟩, _⟩ := valid
  simp [bindingValue, JsonValue.unicode, JsonValue.unicodeFields,
    binding.runId.value_unicode,
    binding.reconciliationFingerprint.value_unicode,
    isUnicode_of_ascii (isSha256Text_ascii source),
    isUnicode_of_ascii (isSha256Text_ascii target)]

theorem planContent_unicode (plan : RepairPlan) :
    (repairPlanContentPrimitive plan).unicode := by
  have actions : JsonValue.unicodeItems
      (plan.actions.map (repairActionValue false false false)) :=
    JsonValue.unicodeItems_map fun action _ =>
      repairActionValue_unicode false false false action
  have fingerprint := plan.stateFingerprint.value_unicode
  rw [repairPlanContentPrimitive]
  cases plan.binding with
  | none =>
      simp [JsonValue.unicode, JsonValue.unicodeFields, actions, fingerprint]
  | some binding =>
      simp [JsonValue.unicode, JsonValue.unicodeFields, actions, fingerprint,
        bindingValue_unicode]

omit [PythonRuntime] in
theorem bindingValue_sized {binding : RepairPlanBinding}
    (printable : binding.Printable) :
    (bindingValue binding).fits 98 ∧
      (bindingValue binding).extent ≤ 10 ^ 5 := by
  have valid := binding.valid
  simp only [BindingFields.validate, bind_eq_ok, require_eq_ok,
    Bool.and_eq_true, decide_eq_true_eq, isSha256Text, beq_iff_eq,
    maxPlanActions] at valid
  obtain ⟨_, ⟨⟨source, _⟩, target, _⟩, _, _, positive, few⟩ := valid
  have count : intReprError binding.actionCount = none := by
    have few := of_decide_eq_true few
    exact intReprError_ordinary (by omega)
  simp only [RepairPlanBinding.Printable, List.forall_mem_cons] at printable
  obtain ⟨policy, generation, rules, analysis, query, _⟩ := printable
  have run := binding.runId.value_length
  have snapshot := binding.reconciliationFingerprint.isSha256Text
  simp only [isSha256Text, Bool.and_eq_true, beq_iff_eq] at snapshot
  have keys : (text "run_id").length = 6 ∧
      (text "reconciliation_fingerprint").length = 26 ∧
      (text "source_input_identity").length = 21 ∧
      (text "target_input_identity").length = 21 ∧
      (text "policy_version").length = 14 ∧
      (text "generation_version").length = 18 ∧
      (text "rules_version").length = 13 ∧
      (text "analysis_version").length = 16 ∧
      (text "analytical_query_version").length = 24 ∧
      (text "action_count").length = 12 := by
    decide
  constructor
  · simp [bindingValue, JsonValue.fits, JsonValue.fitsFields, policy,
      generation, rules, analysis, query, count]
  · simp only [bindingValue, JsonValue.extent, JsonValue.extentFields, keys,
      source, target, snapshot]
    omega

theorem actionContent_sized (action : RepairAction) :
    (repairActionValue false false false action).fits 97 ∧
      (repairActionValue false false false action).extent ≤ 10 ^ 7 := by
  obtain ⟨mismatches, extent⟩ :=
    mismatchValues_sized action.mismatches_comeFromRecords 92
  have expected : (optionalRecordValue inventoryEffectValue
        action.expectedTargetRecord).fits 96 ∧
      (optionalRecordValue inventoryEffectValue
        action.expectedTargetRecord).extent ≤ 300000 := by
    cases action.expectedTargetRecord with
    | none => exact ⟨rfl, by simp [optionalRecordValue, JsonValue.extent]⟩
    | some record =>
        exact ⟨inventoryEffectValue_fits record 93,
          inventoryEffectValue_extent record⟩
  have proposed := inventoryEffectValue_fits action.proposedRecord 93
  have proposedExtent := inventoryEffectValue_extent action.proposedRecord
  have kind : (text action.kind.value).length ≤ 32 := by
    cases action.kind <;> decide
  have keys : (text "expected_target_record").length = 22 ∧
      (text "kind").length = 4 ∧ (text "mismatches").length = 10 ∧
      (text "proposed_record").length = 15 := by
    decide
  constructor
  · simp [repairActionValue, JsonValue.fits, JsonValue.fitsFields,
      expected.1, mismatches, proposed]
  · simp only [repairActionValue, Bool.false_eq_true, if_false,
      List.append_nil, JsonValue.extent, JsonValue.extentFields, keys]
    omega

theorem planContent_sized {plan : RepairPlan} (printable : plan.Printable) :
    (repairPlanContentPrimitive plan).fits 99 ∧
      (repairPlanContentPrimitive plan).extent ≤ 10 ^ 12 := by
  obtain ⟨⟨few, _⟩, _⟩ := PlanFields.normalize_eq_ok.mp plan.valid
  have actions : JsonValue.fitsItems 97
      (plan.actions.map (repairActionValue false false false)) :=
    JsonValue.fitsItems_map fun action _ => (actionContent_sized action).1
  have extent : JsonValue.extentItems
      (plan.actions.map (repairActionValue false false false)) ≤
        plan.actions.length * (1 + 10 ^ 7) :=
    JsonValue.extentItems_map fun action _ => (actionContent_sized action).2
  have total : plan.actions.length * (1 + 10 ^ 7) ≤ 10000 * (1 + 10 ^ 7) :=
    Nat.mul_le_mul_right _ few
  have snapshot := plan.stateFingerprint.isSha256Text
  simp only [isSha256Text, Bool.and_eq_true, beq_iff_eq] at snapshot
  have keys : (text "actions").length = 7 ∧
      (text "state_fingerprint").length = 17 ∧
      (text "binding").length = 7 := by
    decide
  rw [repairPlanContentPrimitive]
  cases bound : plan.binding with
  | none =>
      constructor
      · simp [JsonValue.fits, JsonValue.fitsFields, actions]
      · simp only [List.append_nil, JsonValue.extent, JsonValue.extentFields,
          keys, snapshot]
        omega
  | some binding =>
      obtain ⟨inside, size⟩ := bindingValue_sized (printable binding bound)
      constructor
      · simp [JsonValue.fits, JsonValue.fitsFields, actions, inside]
      · simp only [List.cons_append, List.nil_append, JsonValue.extent,
          JsonValue.extentFields, keys, snapshot]
        omega

/-- A content encodes to few enough bytes for a frame. -/
theorem encodeRepairPlanContent_sized {plan : RepairPlan}
    (version : CanonicalVersion) (printable : plan.Printable) :
    ∃ bytes, encodeRepairPlanContent plan version = .ok bytes ∧
      bytes.length < 256 ^ 8 := by
  obtain ⟨inside, extent⟩ := planContent_sized printable
  exact encodeEnvelope_sized version inside extent (by decide)

theorem encodeRepairPlanContent_congr {left right : RepairPlan}
    (version : CanonicalVersion) (same : SameContent left right) :
    encodeRepairPlanContent left version =
      encodeRepairPlanContent right version := by
  rw [encodeRepairPlanContent, encodeRepairPlanContent,
    planContent_congr same]

/--
The bytes of a content are those of what the plan does: a plan is encoded when
its versions can be printed, plans that do the same are encoded alike, and
plans that are encoded alike do the same.
-/
theorem encodeRepairPlanContent_covers (version : CanonicalVersion) :
    (∀ plan : RepairPlan, plan.Printable →
        ∃ bytes, encodeRepairPlanContent plan version = .ok bytes) ∧
      (∀ left right : RepairPlan, SameContent left right →
        encodeRepairPlanContent left version =
          encodeRepairPlanContent right version) ∧
      ∀ (left right : RepairPlan) (leftBytes rightBytes : Bytes),
        encodeRepairPlanContent left version = .ok leftBytes →
        encodeRepairPlanContent right version = .ok rightBytes →
          (leftBytes = rightBytes ↔ SameContent left right) := by
  refine ⟨?_, fun left right => encodeRepairPlanContent_congr version, ?_⟩
  · intro plan printable
    obtain ⟨bytes, encoded, _⟩ :=
      encodeRepairPlanContent_sized version printable
    exact ⟨bytes, encoded⟩
  · intro left right leftBytes rightBytes leftEncodes rightEncodes
    constructor
    · rintro rfl
      exact planContent_sound (encodeEnvelope_inj
        (planContent_unicode left) (planContent_unicode right) leftEncodes
        rightEncodes).2
    · intro same
      rw [encodeRepairPlanContent_congr version same, rightEncodes]
        at leftEncodes
      exact (Except.ok.inj leftEncodes).symm

/-- A plan under another identity. -/
def RepairPlan.renamed (plan : RepairPlan) (planId : RepairPlanId) :
    RepairPlan where
  toPlanFields := { plan.toPlanFields with planId }
  valid := by
    obtain ⟨checked, same⟩ := PlanFields.normalize_eq_ok.mp plan.valid
    have ordered := congrArg PlanFields.actions same
    dsimp only at ordered
    apply PlanFields.normalize_eq_ok.mpr
    refine ⟨checked, ?_⟩
    dsimp only
    rw [← ordered]

/-- The identity of a plan is not part of its content. -/
theorem sameContent_renamed (plan : RepairPlan) (planId : RepairPlanId) :
    SameContent plan (plan.renamed planId) :=
  ⟨rfl, rfl, fun _ => rfl⟩

end PlanContent

section Sample

attribute [local instance] asciiRuntime

/-- The sample plan and a renamed one share their bytes. -/
theorem encodeRepairPlanContent_sample :
    ∃ bytes, encodeRepairPlanContent samplePlan .v1 = .ok bytes ∧
      encodeRepairPlanContent
        (samplePlan.renamed ⟨text "rpl_two", by decide⟩) .v1 =
          .ok bytes := by
  obtain ⟨returns, congr, _⟩ := encodeRepairPlanContent_covers .v1
  have unbound : samplePlan.binding = none := rfl
  obtain ⟨bytes, encoded⟩ := returns samplePlan fun _ bound => by
    rw [unbound] at bound
    cases bound
  exact ⟨bytes, encoded,
    by rw [← congr _ _ (sameContent_renamed samplePlan _), encoded]⟩

end Sample

end ParityGrid.Domain
