import ParityGrid.Application.Repair.Identities

/-!
# Which identities coincide

The pieces of an identity are joined by hyphens, and runs and keys have
hyphens of their own.  Verifications and idempotency keys are told apart by
parts of fixed width.  A conflict is not, and an action only with a binding.
-/

namespace ParityGrid.Application

open Foundation Domain

/-! ## Arguments -/

/-- What the identities of one repairable key are derived from. -/
structure RepairFacts where
  runId : RunId
  reconciliation : StateFingerprint
  canonicalKey : Text
  keyValid : validateSku canonicalKey = .ok ()
  binding : Option RepairPlanBinding
  observed : StateFingerprint
  contentFingerprint : StateFingerprint

namespace RepairFacts

variable (facts left right : RepairFacts)

def conflictId : Except PythonError ConflictId :=
  deriveConflictId facts.runId facts.canonicalKey

def planId (binding : RepairPlanBinding) : Except PythonError RepairPlanId :=
  derivePlanId facts.runId facts.reconciliation (some binding)

def actionId : Except PythonError RepairActionId :=
  deriveActionId facts.runId facts.reconciliation facts.canonicalKey
    facts.binding

def verificationId : Except PythonError TargetVerificationId :=
  deriveVerificationId facts.runId facts.reconciliation facts.observed

def idempotencyKey : Except PythonError Text :=
  deriveActionIdempotencyKey facts.runId facts.contentFingerprint
    facts.canonicalKey

def plainActionName : Text :=
  actionName facts.runId facts.reconciliation facts.canonicalKey

def boundName (binding : RepairPlanBinding) : Text :=
  boundActionName facts.runId facts.reconciliation facts.canonicalKey binding

/-- The joined names of the identities. -/
def names : List Text :=
  [conflictName facts.runId facts.canonicalKey,
    verificationName facts.runId facts.reconciliation facts.observed] ++
  match facts.binding with
  | none => [facts.plainActionName]
  | some binding =>
      [planName facts.runId facts.reconciliation binding,
        facts.boundName binding]

def idempotencyName : Text :=
  Application.idempotencyName facts.runId facts.contentFingerprint
    facts.canonicalKey

/-- No two digests that are used share the digits that are kept of them. -/
def DigestsDiffer : Prop :=
  (∀ name ∈ left.names ++ right.names, ∀ other ∈ left.names ++ right.names,
    64 < name.length → 64 < other.length →
      nameStamp 16 name = nameStamp 16 other → name = other) ∧
  (128 < left.idempotencyName.length → 128 < right.idempotencyName.length →
    nameStamp 32 left.idempotencyName = nameStamp 32 right.idempotencyName →
      left.idempotencyName = right.idempotencyName)

/-! ## Agreement -/

def ConflictsAgree : Prop :=
  left.runId = right.runId ∧ left.canonicalKey = right.canonicalKey

/-- What the identity of a plan says about two bindings. -/
def PlansAgree (binding other : RepairPlanBinding) : Prop :=
  binding.reconciliationFingerprint.value.take 24 =
      other.reconciliationFingerprint.value.take 24 ∧
    binding.sourceInputIdentity.take 12 =
      other.sourceInputIdentity.take 12 ∧
    binding.targetInputIdentity.take 12 =
      other.targetInputIdentity.take 12 ∧
    binding.policyVersion = other.policyVersion ∧
    binding.generationVersion = other.generationVersion ∧
    binding.rulesVersion = other.rulesVersion ∧
    binding.analysisVersion = other.analysisVersion ∧
    binding.analyticalQueryVersion = other.analyticalQueryVersion

/-- Equal bindings, up to the parts of fingerprints that are embedded. -/
def BindingsAgree :
    Option RepairPlanBinding → Option RepairPlanBinding → Prop
  | none, none => True
  | some binding, some other =>
      PlansAgree binding other ∧ binding.actionCount = other.actionCount
  | _, _ => False

def ActionsAgree : Prop :=
  left.runId = right.runId ∧
    left.reconciliation.value.take 16 = right.reconciliation.value.take 16 ∧
    left.canonicalKey = right.canonicalKey ∧
    BindingsAgree left.binding right.binding

def VerificationsAgree : Prop :=
  left.runId = right.runId ∧
    left.reconciliation.value.take 16 = right.reconciliation.value.take 16 ∧
    left.observed.value.take 24 = right.observed.value.take 24

def EffectsAgree : Prop :=
  left.runId = right.runId ∧
    left.contentFingerprint.value.take 24 =
      right.contentFingerprint.value.take 24 ∧
    left.canonicalKey = right.canonicalKey

/-- Equal identities come from equal arguments. -/
def IdentitiesAgree : Prop :=
  ((∃ id, left.conflictId = .ok id ∧ right.conflictId = .ok id) →
      ConflictsAgree left right) ∧
    ((∃ id, left.actionId = .ok id ∧ right.actionId = .ok id) →
      ActionsAgree left right) ∧
    ((∃ id, left.verificationId = .ok id ∧ right.verificationId = .ok id) →
      VerificationsAgree left right) ∧
    ((∃ key, left.idempotencyKey = .ok key ∧ right.idempotencyKey = .ok key) →
      EffectsAgree left right)

/-! ## Names that meet -/

/-- The run of `left` continues that of `right` into the key of `right`. -/
def ConflictsOverlap : Prop :=
  ∃ more,
    runSlug left.runId = runSlug right.runId ++ point '-' :: more ∧
      lowered right.canonicalKey =
        more ++ point '-' :: lowered left.canonicalKey

/-- The same across the digits of the snapshot. -/
def ActionsOverlap : Prop :=
  (runSlug left.runId = runSlug right.runId ++ point '-' ::
        right.reconciliation.value.take 16 ∧
      lowered right.canonicalKey = left.reconciliation.value.take 16 ++
        point '-' :: lowered left.canonicalKey) ∨
    ∃ more,
      runSlug left.runId = runSlug right.runId ++ point '-' ::
          (right.reconciliation.value.take 16 ++ point '-' :: more) ∧
        lowered right.canonicalKey = more ++ point '-' ::
          (left.reconciliation.value.take 16 ++ point '-' ::
            lowered left.canonicalKey)

/-- A name within the bound spells the cut form of the other. -/
def OneSpells (name other : Text) : Prop :=
  slugRule.Spells name other ∨ slugRule.Spells other name

def ConflictsMeet : Prop :=
  ConflictsOverlap left right ∨ ConflictsOverlap right left ∨
    OneSpells (conflictName left.runId left.canonicalKey)
      (conflictName right.runId right.canonicalKey)

/-- An action without a binding meets one that has one. -/
def PlainMeets (binding : RepairPlanBinding) : Prop :=
  (∃ planId, right.planId binding = .ok planId) ∧
    (left.plainActionName = right.boundName binding ∨
      slugRule.Spells left.plainActionName (right.boundName binding))

/-- Nothing tells two bindings apart but their numbers of actions. -/
def CountsDiffer (binding other : RepairPlanBinding) : Prop :=
  (∃ planId, left.planId binding = .ok planId) ∧
    (∃ planId, right.planId other = .ok planId) ∧
    left.runId = right.runId ∧ left.canonicalKey = right.canonicalKey ∧
    PlansAgree binding other ∧ binding.actionCount ≠ other.actionCount

def ActionsMeet : Prop :=
  match left.binding, right.binding with
  | none, none =>
      ActionsOverlap left right ∨ ActionsOverlap right left ∨
        OneSpells left.plainActionName right.plainActionName
  | none, some binding => PlainMeets left right binding
  | some binding, none => PlainMeets right left binding
  | some binding, some other => CountsDiffer left right binding other

/-! ## Coincidences -/

/-- What a shared identity says, when it says less than its arguments. -/
theorem agrees_iff {shared agree meet : Prop} (sound : shared → agree ∨ meet)
    (real : meet → shared) (apart : meet → ¬agree) :
    (shared → agree) ↔ ¬meet :=
  ⟨fun agrees meets => apart meets (agrees (real meets)),
    fun never is_shared => (sound is_shared).resolve_right never⟩

variable {left right : RepairFacts}

theorem spells_apart {name other : Text} (spells : OneSpells name other) :
    name ≠ other := by
  rintro rfl
  rcases spells with ⟨short, long, _⟩ | ⟨short, long, _⟩ <;> omega

/-- Two identities of one kind, by their shortened names. -/
theorem shared_iff {kind : IdentifierKind}
    {first second : Except PythonError (Identifier kind)} {marker : Text}
    {name other : Text}
    (returned : ∃ id, first = .ok id ∧
      id.value = marker ++ slugRule.shorten name)
    (returned' : ∃ id, second = .ok id ∧
      id.value = marker ++ slugRule.shorten other)
    (distinct : 64 < name.length → 64 < other.length →
      nameStamp 16 name = nameStamp 16 other → name = other) :
    (∃ id, first = .ok id ∧ second = .ok id) ↔
      name = other ∨ OneSpells name other := by
  obtain ⟨id, rfl, value⟩ := returned
  obtain ⟨id', rfl, value'⟩ := returned'
  rw [OneSpells, ← slug_shorten_eq_iff distinct]
  constructor
  · rintro ⟨same, first, second⟩
    cases first
    cases second
    exact List.append_cancel_left (value.symm.trans value')
  · intro same
    have equal : id = id' := Identifier.ext (by rw [value, value', same])
    exact ⟨id, rfl, by rw [equal]⟩

theorem mem_names_conflict (facts : RepairFacts) :
    conflictName facts.runId facts.canonicalKey ∈ facts.names := by
  simp [names]

theorem mem_names_verification (facts : RepairFacts) :
    verificationName facts.runId facts.reconciliation facts.observed ∈
      facts.names := by
  simp [names]

theorem mem_names_plain {facts : RepairFacts} (free : facts.binding = none) :
    facts.plainActionName ∈ facts.names := by
  simp [names, free]

theorem mem_names_bound {facts : RepairFacts} {binding : RepairPlanBinding}
    (bound : facts.binding = some binding) :
    planName facts.runId facts.reconciliation binding ∈ facts.names ∧
      facts.boundName binding ∈ facts.names := by
  simp [names, bound]

theorem DigestsDiffer.apart (differ : DigestsDiffer left right)
    {name other : Text} (mine : name ∈ left.names)
    (yours : other ∈ right.names) :
    64 < name.length → 64 < other.length →
      nameStamp 16 name = nameStamp 16 other → name = other :=
  differ.1 name (List.mem_append_left _ mine) other
    (List.mem_append_right _ yours)

theorem DigestsDiffer.symm (differ : DigestsDiffer left right) :
    DigestsDiffer right left := by
  refine ⟨?_, ?_⟩
  · intro name mine other yours
    exact differ.1 name (by simpa [or_comm] using mine) other
      (by simpa [or_comm] using yours)
  · intro long long' same
    exact (differ.2 long' long same.symm).symm

/-! ## Conflicts -/

theorem conflictName_eq_iff :
    conflictName left.runId left.canonicalKey =
        conflictName right.runId right.canonicalKey ↔
      ConflictsAgree left right ∨ ConflictsOverlap left right ∨
        ConflictsOverlap right left := by
  rw [conflictName, conflictName, cut_eq_iff]
  constructor
  · rintro (⟨run, key⟩ | overlap | overlap)
    · exact .inl ⟨runSlug_inj run,
        lowered_key_inj left.keyValid right.keyValid key⟩
    · exact .inr (.inl overlap)
    · exact .inr (.inr overlap)
  · rintro (⟨run, key⟩ | overlap | overlap)
    · exact .inl ⟨by rw [run], by rw [key]⟩
    · exact .inr (.inl overlap)
    · exact .inr (.inr overlap)

theorem runs_apart {facts other : RepairFacts} {more : Text}
    (longer : runSlug facts.runId = runSlug other.runId ++ point '-' :: more) :
    facts.runId ≠ other.runId := by
  intro same
  rw [same] at longer
  have lengths := congrArg List.length longer
  rw [List.length_append, List.length_cons] at lengths
  omega

theorem conflictIds_agree_iff (differ : DigestsDiffer left right) :
    ((∃ id, left.conflictId = .ok id ∧ right.conflictId = .ok id) →
        ConflictsAgree left right) ↔
      ¬ConflictsMeet left right := by
  have shared := shared_iff
    (deriveConflictId_returns left.runId left.keyValid)
    (deriveConflictId_returns right.runId right.keyValid)
    (differ.apart (mem_names_conflict left) (mem_names_conflict right))
  apply agrees_iff
  · intro is_shared
    rcases shared.mp is_shared with same | spells
    · rcases conflictName_eq_iff.mp same with agree | overlap | overlap
      · exact .inl agree
      · exact .inr (.inl overlap)
      · exact .inr (.inr (.inl overlap))
    · exact .inr (.inr (.inr spells))
  · rintro (overlap | overlap | spells)
    · exact shared.mpr (.inl (conflictName_eq_iff.mpr (.inr (.inl overlap))))
    · exact shared.mpr (.inl (conflictName_eq_iff.mpr (.inr (.inr overlap))))
    · exact shared.mpr (.inr spells)
  · rintro (⟨more, longer, _⟩ | ⟨more, longer, _⟩ | spells) agree
    · exact runs_apart longer agree.1
    · exact runs_apart longer agree.1.symm
    · exact spells_apart spells (conflictName_eq_iff.mpr (.inl agree))

/-! ## Verifications -/

theorem verificationName_inj
    (same : verificationName left.runId left.reconciliation left.observed =
      verificationName right.runId right.reconciliation right.observed) :
    VerificationsAgree left right := by
  have size : ∀ fingerprint : StateFingerprint,
      (fingerprint.value.take 16).length = 16 ∧
        (fingerprint.value.take 24).length = 24 := fun fingerprint =>
    ⟨(reconciliation_piece fingerprint 16 (by decide) (by decide)).2.1,
      (reconciliation_piece fingerprint 24 (by decide) (by decide)).2.1⟩
  obtain ⟨run, pieces⟩ := cut_width_inj
    (by simp only [List.length_append, List.length_cons, size]) same
  obtain ⟨snapshot, state⟩ := cut_width_inj (by simp only [size]) pieces
  exact ⟨runSlug_inj run, snapshot, state⟩

/-- The last part of the name of a verification is wider than a digest. -/
theorem verification_not_spells (facts : RepairFacts) (other : Text) :
    ¬slugRule.Spells
      (verificationName facts.runId facts.reconciliation facts.observed)
      other := by
  obtain ⟨_, size, hex⟩ :=
    reconciliation_piece facts.observed 24 (by decide) (by decide)
  have form : verificationName facts.runId facts.reconciliation
      facts.observed = (runSlug facts.runId ++ point '-' ::
        (facts.reconciliation.value.take 16 ++ [point '-'])) ++
          facts.observed.value.take 24 := by
    simp [verificationName]
  rw [form]
  apply Shortening.not_spells (hyphen_notMem_hex hex)
  rw [size]
  decide

theorem verificationIds_agree (differ : DigestsDiffer left right)
    (is_shared : ∃ id, left.verificationId = .ok id ∧
      right.verificationId = .ok id) :
    VerificationsAgree left right := by
  rcases (shared_iff
    (deriveVerificationId_returns left.runId left.reconciliation left.observed)
    (deriveVerificationId_returns right.runId right.reconciliation
      right.observed)
    (differ.apart (mem_names_verification left)
      (mem_names_verification right))).mp is_shared with same | spells | spells
  · exact verificationName_inj same
  · exact absurd spells (verification_not_spells left _)
  · exact absurd spells (verification_not_spells right _)

/-! ## Idempotency keys -/

theorem idempotencyKeys_agree (differ : DigestsDiffer left right)
    (is_shared : ∃ key, left.idempotencyKey = .ok key ∧
      right.idempotencyKey = .ok key) :
    EffectsAgree left right := by
  obtain ⟨key, mine, yours⟩ := is_shared
  rw [idempotencyKey, deriveActionIdempotencyKey_returns _ _ left.keyValid]
    at mine
  rw [idempotencyKey, deriveActionIdempotencyKey_returns _ _ right.keyValid]
    at yours
  exact idempotencyKey_inj differ.2
    ((Except.ok.inj mine).trans (Except.ok.inj yours).symm)

/-! ## Actions -/

theorem snapshot_hex (facts : RepairFacts) :
    point '-' ∉ facts.reconciliation.value.take 16 :=
  hyphen_notMem_hex (reconciliation_piece facts.reconciliation 16 (by decide)
    (by decide)).2.2

theorem actionRest_inj
    (same : left.reconciliation.value.take 16 ++ point '-' ::
        lowered left.canonicalKey =
      right.reconciliation.value.take 16 ++ point '-' ::
        lowered right.canonicalKey) :
    left.reconciliation.value.take 16 = right.reconciliation.value.take 16 ∧
      left.canonicalKey = right.canonicalKey := by
  obtain ⟨snapshot, key⟩ :=
    cut_first_inj (snapshot_hex left) (snapshot_hex right) same
  exact ⟨snapshot, lowered_key_inj left.keyValid right.keyValid key⟩

/-- A longer run takes the snapshot digits of the other into itself. -/
theorem actionsOverlap_iff :
    ActionsOverlap left right ↔
      ∃ more, runSlug left.runId = runSlug right.runId ++ point '-' :: more ∧
        right.reconciliation.value.take 16 ++ point '-' ::
            lowered right.canonicalKey =
          more ++ point '-' :: (left.reconciliation.value.take 16 ++
            point '-' :: lowered left.canonicalKey) := by
  constructor
  · rintro (⟨run, key⟩ | ⟨more, run, key⟩)
    · exact ⟨_, run, by rw [key]⟩
    · exact ⟨_, run, by rw [key]; simp⟩
  · rintro ⟨more, run, rest⟩
    rcases cut_eq_iff.mp rest with ⟨front, key⟩ | ⟨inner, front, _⟩ |
      ⟨inner, front, key⟩
    · rw [← front] at run
      exact .inl ⟨run, key⟩
    · exact absurd (by rw [front]; simp) (snapshot_hex right)
    · rw [front] at run
      exact .inr ⟨inner, run, key⟩

theorem plainActionName_eq_iff :
    left.plainActionName = right.plainActionName ↔
      (left.runId = right.runId ∧
        left.reconciliation.value.take 16 =
          right.reconciliation.value.take 16 ∧
        left.canonicalKey = right.canonicalKey) ∨
      ActionsOverlap left right ∨ ActionsOverlap right left := by
  rw [plainActionName, plainActionName, actionName, actionName, cut_eq_iff,
    actionsOverlap_iff, actionsOverlap_iff]
  constructor
  · rintro (⟨run, rest⟩ | overlap | overlap)
    · exact .inl ⟨runSlug_inj run, actionRest_inj rest⟩
    · exact .inr (.inl overlap)
    · exact .inr (.inr overlap)
  · rintro (⟨run, snapshot, key⟩ | overlap | overlap)
    · exact .inl ⟨by rw [run], by rw [snapshot, key]⟩
    · exact .inr (.inl overlap)
    · exact .inr (.inr overlap)

/-- Actions without bindings. -/
theorem plainActions_agree_iff (differ : DigestsDiffer left right)
    (free : left.binding = none) (free' : right.binding = none) :
    ((∃ id, left.actionId = .ok id ∧ right.actionId = .ok id) →
        ActionsAgree left right) ↔
      ¬(ActionsOverlap left right ∨ ActionsOverlap right left ∨
        OneSpells left.plainActionName right.plainActionName) := by
  have agree_iff : ActionsAgree left right ↔ left.runId = right.runId ∧
      left.reconciliation.value.take 16 =
        right.reconciliation.value.take 16 ∧
      left.canonicalKey = right.canonicalKey := by
    simp [ActionsAgree, BindingsAgree, free, free']
  have shared := shared_iff
    (deriveActionId_returns left.runId left.reconciliation left.keyValid)
    (deriveActionId_returns right.runId right.reconciliation right.keyValid)
    (differ.apart (mem_names_plain free) (mem_names_plain free'))
  rw [agree_iff, actionId, actionId, free, free']
  apply agrees_iff
  · intro is_shared
    rcases shared.mp is_shared with same | spells
    · rcases plainActionName_eq_iff.mp same with agree | overlap | overlap
      · exact .inl agree
      · exact .inr (.inl overlap)
      · exact .inr (.inr (.inl overlap))
    · exact .inr (.inr (.inr spells))
  · rintro (overlap | overlap | spells)
    · exact shared.mpr
        (.inl (plainActionName_eq_iff.mpr (.inr (.inl overlap))))
    · exact shared.mpr
        (.inl (plainActionName_eq_iff.mpr (.inr (.inr overlap))))
    · exact shared.mpr (.inr spells)
  · rintro (overlap | overlap | spells) agree
    · obtain ⟨more, longer, _⟩ := actionsOverlap_iff.mp overlap
      exact runs_apart longer agree.1
    · obtain ⟨more, longer, _⟩ := actionsOverlap_iff.mp overlap
      exact runs_apart longer agree.1.symm
    · exact spells_apart spells (plainActionName_eq_iff.mpr (.inl agree))

theorem boundName_long (facts : RepairFacts) (binding : RepairPlanBinding) :
    64 < (facts.boundName binding).length := by
  obtain ⟨_, _, size⟩ :=
    actionName_form facts.runId facts.reconciliation facts.keyValid
  have plan :=
    (stamped_planName facts.runId facts.reconciliation binding).2.1
  rw [boundName, boundActionName, List.length_append, List.length_cons]
  omega

theorem payloadPattern_bound (facts : RepairFacts)
    (binding : RepairPlanBinding) :
    payloadPattern.fullmatch (facts.boundName binding) := by
  obtain ⟨matched, _, _⟩ :=
    actionName_form facts.runId facts.reconciliation facts.keyValid
  obtain ⟨plan, _, _⟩ :=
    stamped_planName facts.runId facts.reconciliation binding
  rw [boundName, boundActionName,
    payloadPattern_plain.fullmatch_cut hyphen_separates, matched, plan]
  rfl

theorem actionId_bound {facts : RepairFacts} {binding : RepairPlanBinding}
    (bound : facts.binding = some binding) {id : RepairActionId} :
    facts.actionId = .ok id ↔
      (∃ planId, facts.planId binding = .ok planId) ∧
        id.value = text "rac_" ++
          slugRule.shorten (facts.boundName binding) := by
  rw [actionId, bound, deriveActionId_bound facts.keyValid,
    shorten_over (boundName_long facts binding)]
  rfl

/-- An action without a binding and one that has one. -/
theorem mixedActions_agree_iff (differ : DigestsDiffer left right)
    {binding : RepairPlanBinding} (free : left.binding = none)
    (bound : right.binding = some binding) :
    ((∃ id, left.actionId = .ok id ∧ right.actionId = .ok id) →
        ActionsAgree left right) ↔
      ¬PlainMeets left right binding := by
  have long := boundName_long right binding
  have returned : ∃ id, left.actionId = .ok id ∧ id.value = text "rac_" ++
      slugRule.shorten left.plainActionName := by
    rw [actionId, free]
    exact deriveActionId_returns left.runId left.reconciliation left.keyValid
  obtain ⟨id, built, value⟩ := returned
  have distinct := differ.apart (mem_names_plain free)
    (mem_names_bound bound).2
  apply agrees_iff
  · rintro ⟨id', mine, yours⟩
    rw [built] at mine
    cases mine
    obtain ⟨plan, value'⟩ := (actionId_bound bound).mp yours
    have same : slugRule.shorten left.plainActionName =
        slugRule.shorten (right.boundName binding) :=
      List.append_cancel_left (value.symm.trans value')
    rcases (slug_shorten_eq_iff distinct).mp same with
      names | spells | ⟨short, _⟩
    · exact .inr ⟨plan, .inl names⟩
    · exact .inr ⟨plan, .inr spells⟩
    · exact absurd short (Nat.not_le.mpr long)
  · rintro ⟨plan, meets⟩
    have same : slugRule.shorten left.plainActionName =
        slugRule.shorten (right.boundName binding) := by
      apply (slug_shorten_eq_iff distinct).mpr
      rcases meets with names | spells
      · exact .inl names
      · exact .inr (.inl spells)
    exact ⟨id, built,
      (actionId_bound bound).mpr ⟨plan, by rw [value, same]⟩⟩
  · rintro _ ⟨_, _, _, agree⟩
    rw [free, bound] at agree
    exact agree

/-- The name of a plan says what is embedded of its binding. -/
theorem planName_inj {binding other : RepairPlanBinding}
    (same : planName left.runId left.reconciliation binding =
      planName right.runId right.reconciliation other) :
    left.runId = right.runId ∧
      left.reconciliation.value.take 24 =
        right.reconciliation.value.take 24 ∧
      binding.sourceInputIdentity.take 12 =
        other.sourceInputIdentity.take 12 ∧
      binding.targetInputIdentity.take 12 =
        other.targetInputIdentity.take 12 ∧
      policyText binding = policyText other := by
  have form : ∀ (facts : RepairFacts) (binding : RepairPlanBinding),
      planName facts.runId facts.reconciliation binding =
        (runSlug facts.runId ++ point '-' ::
          (facts.reconciliation.value.take 24 ++ point '-' ::
            (binding.sourceInputIdentity.take 12 ++ point '-' ::
              binding.targetInputIdentity.take 12))) ++
          point '-' :: policyText binding := by
    intro facts binding
    simp [planName]
  have first : ∀ facts : RepairFacts,
      (facts.reconciliation.value.take 24).length = 24 := fun facts =>
    (reconciliation_piece facts.reconciliation 24 (by decide)
      (by decide)).2.1
  have rest : ∀ binding : RepairPlanBinding,
      (binding.sourceInputIdentity.take 12).length = 12 ∧
        (binding.targetInputIdentity.take 12).length = 12 := by
    intro binding
    obtain ⟨source, target, _⟩ := RepairPlanBinding.checked binding
    exact ⟨(fingerprint_piece _ source 12 (by decide) (by decide)).2.1,
      (fingerprint_piece _ target 12 (by decide) (by decide)).2.1⟩
  rw [form, form] at same
  obtain ⟨fronts, policy⟩ := cut_last_inj (policyText_chars binding).1
    (policyText_chars other).1 same
  obtain ⟨run, pieces⟩ := cut_width_inj
    (by simp only [List.length_append, List.length_cons, first, rest]) fronts
  obtain ⟨snapshot, pieces⟩ := cut_width_inj
    (by simp only [List.length_append, List.length_cons, rest]) pieces
  obtain ⟨source, target⟩ := cut_width_inj (by simp only [rest]) pieces
  exact ⟨runSlug_inj run, snapshot, source, target, policy⟩

/-- The last digits of an action with a binding are those of its plan. -/
theorem boundName_inj (differ : DigestsDiffer left right)
    {binding other : RepairPlanBinding} (bound : left.binding = some binding)
    (bound' : right.binding = some other)
    (long : 64 < (planName left.runId left.reconciliation binding).length)
    (long' : 64 < (planName right.runId right.reconciliation other).length)
    (same : left.boundName binding = right.boundName other) :
    planName left.runId left.reconciliation binding =
        planName right.runId right.reconciliation other ∧
      left.plainActionName = right.plainActionName := by
  have form : ∀ (facts : RepairFacts) (binding : RepairPlanBinding),
      facts.boundName binding =
        (facts.plainActionName ++ point '-' :: slugRule.kept
          (planName facts.runId facts.reconciliation binding)) ++
          point '-' :: nameStamp 16
            (planName facts.runId facts.reconciliation binding) := by
    intro facts binding
    rw [List.append_assoc, ← slugRule_stamp]
    rfl
  have stamps := same
  rw [form, form] at stamps
  have width := nameStamp_length (show 16 ≤ 64 by decide)
  obtain ⟨_, stamp⟩ :=
    cut_width_inj (by rw [width, width]) stamps
  have plans := differ.apart (mem_names_bound bound).1
    (mem_names_bound bound').1 long long' stamp
  refine ⟨plans, ?_⟩
  rw [boundName, boundName, boundActionName, boundActionName, plans] at same
  exact (cut_width_inj rfl same).1

theorem boundActionName_eq_iff (differ : DigestsDiffer left right)
    {binding other : RepairPlanBinding} (bound : left.binding = some binding)
    (bound' : right.binding = some other)
    (plan : ∃ planId, left.planId binding = .ok planId)
    (plan' : ∃ planId, right.planId other = .ok planId) :
    left.boundName binding = right.boundName other ↔
      left.runId = right.runId ∧ left.canonicalKey = right.canonicalKey ∧
        PlansAgree binding other := by
  obtain ⟨planId, built⟩ := plan
  obtain ⟨planId', built'⟩ := plan'
  obtain ⟨_, snapshot, _, long, _⟩ := derivePlanId_eq_ok.mp built
  obtain ⟨_, snapshot', _, long', _⟩ := derivePlanId_eq_ok.mp built'
  rw [PlansAgree, snapshot, snapshot']
  constructor
  · intro same
    obtain ⟨plans, names⟩ := boundName_inj differ bound bound' long long' same
    obtain ⟨run, reconciliation, source, target, policy⟩ := planName_inj plans
    refine ⟨run, ?_, reconciliation, source, target, policyText_inj policy⟩
    rw [plainActionName, plainActionName, actionName, actionName, run] at names
    exact (actionRest_inj (List.cons.inj
      (List.append_cancel_left names)).2).2
  · rintro ⟨run, key, reconciliation, source, target, policy, generation,
      rules, analysis, query⟩
    have policies : policyText binding = policyText other := by
      rw [policyText, policyText, policy, generation, rules, analysis, query]
    have shorter : left.reconciliation.value.take 16 =
        right.reconciliation.value.take 16 := by
      have cut := congrArg (List.take 16) reconciliation
      simpa [List.take_take] using cut
    simp only [boundName, boundActionName, actionName, planName, run, key,
      reconciliation, source, target, policies, shorter]

/-- Actions with bindings. -/
theorem boundActions_agree_iff (differ : DigestsDiffer left right)
    {binding other : RepairPlanBinding} (bound : left.binding = some binding)
    (bound' : right.binding = some other) :
    ((∃ id, left.actionId = .ok id ∧ right.actionId = .ok id) →
        ActionsAgree left right) ↔
      ¬CountsDiffer left right binding other := by
  have long := boundName_long left binding
  have long' := boundName_long right other
  have distinct := differ.apart (mem_names_bound bound).2
    (mem_names_bound bound').2
  apply agrees_iff
  · rintro ⟨id, mine, yours⟩
    obtain ⟨plan, value⟩ := (actionId_bound bound).mp mine
    obtain ⟨plan', value'⟩ := (actionId_bound bound').mp yours
    have names : left.boundName binding = right.boundName other := by
      rcases (slug_shorten_eq_iff distinct).mp
        (List.append_cancel_left (value.symm.trans value')) with
        names | ⟨short, _⟩ | ⟨short, _⟩
      · exact names
      · exact absurd short (Nat.not_le.mpr long)
      · exact absurd short (Nat.not_le.mpr long')
    obtain ⟨run, key, plans⟩ :=
      (boundActionName_eq_iff differ bound bound' plan plan').mp names
    by_cases count : binding.actionCount = other.actionCount
    · left
      obtain ⟨planId, built⟩ := plan
      obtain ⟨planId', built'⟩ := plan'
      have cut := congrArg (List.take 16) plans.1
      rw [(derivePlanId_eq_ok.mp built).2.1, (derivePlanId_eq_ok.mp built').2.1]
        at cut
      refine ⟨run, by simpa [List.take_take] using cut, key, ?_⟩
      rw [bound, bound']
      exact ⟨plans, count⟩
    · exact .inr ⟨plan, plan', run, key, plans, count⟩
  · rintro ⟨plan, plan', run, key, plans, _⟩
    have names := (boundActionName_eq_iff differ bound bound' plan plan').mpr
      ⟨run, key, plans⟩
    obtain ⟨whole, atLeast, atMost⟩ := shorten_form
      (payloadPattern_bound left binding) (by omega)
    obtain ⟨id, built⟩ :=
      Identifier.create_payload .repairAction whole atLeast atMost
    have value : id.value = text "rac_" ++
        slugRule.shorten (left.boundName binding) :=
      Identifier.create_value built
    refine ⟨id, (actionId_bound bound).mpr ⟨plan, value⟩,
      (actionId_bound bound').mpr ⟨plan', ?_⟩⟩
    rw [value, names]
  · rintro ⟨_, _, _, _, _, count⟩ ⟨_, _, _, agree⟩
    rw [bound, bound'] at agree
    exact count agree.2

theorem actionIds_agree_iff (differ : DigestsDiffer left right) :
    ((∃ id, left.actionId = .ok id ∧ right.actionId = .ok id) →
        ActionsAgree left right) ↔
      ¬ActionsMeet left right := by
  rw [ActionsMeet]
  split
  next free free' => exact plainActions_agree_iff differ free free'
  next binding free bound => exact mixedActions_agree_iff differ free bound
  next binding bound free =>
    rw [← mixedActions_agree_iff differ.symm free bound]
    constructor
    · rintro agrees ⟨id, mine, yours⟩
      have agree := (agrees ⟨id, yours, mine⟩).2.2.2
      rw [bound, free] at agree
      exact agree.elim
    · rintro agrees ⟨id, mine, yours⟩
      have agree := (agrees ⟨id, yours, mine⟩).2.2.2
      rw [bound, free] at agree
      exact agree.elim
  next binding other bound bound' =>
    exact boundActions_agree_iff differ bound bound'

/-! ## Injectivity -/

/-- When the identities of two arguments tell the arguments apart. -/
theorem identities_agree_iff (left right : RepairFacts)
    (differ : DigestsDiffer left right) :
    IdentitiesAgree left right ↔
      ¬ConflictsMeet left right ∧ ¬ActionsMeet left right := by
  rw [IdentitiesAgree, conflictIds_agree_iff differ,
    actionIds_agree_iff differ]
  constructor
  · rintro ⟨conflicts, actions, _⟩
    exact ⟨conflicts, actions⟩
  · rintro ⟨conflicts, actions⟩
    exact ⟨conflicts, actions, verificationIds_agree differ,
      idempotencyKeys_agree differ⟩

/-! ## Sample keys -/

/-- Facts of a key in a run, without a binding. -/
def sample (runId : RunId) (canonicalKey : Text)
    (keyValid : validateSku canonicalKey = .ok ()) : RepairFacts where
  runId
  reconciliation := ⟨List.replicate 64 (point '0'), by decide +kernel⟩
  canonicalKey
  keyValid
  binding := none
  observed := ⟨List.replicate 64 (point '0'), by decide +kernel⟩
  contentFingerprint := ⟨List.replicate 64 (point '0'), by decide +kernel⟩

/-- A key of a run, both as long as they can be. -/
def longest (letter : Char)
    (keyValid : validateSku (List.replicate 64 (point letter)) = .ok ()) :
    RepairFacts :=
  sample ⟨text "run_" ++ List.replicate 64 (point 'a'), by decide +kernel⟩
    (List.replicate 64 (point letter)) keyValid

def longestA : RepairFacts := longest 'A' (by decide +kernel)

def longestB : RepairFacts := longest 'B' (by decide +kernel)

theorem longest_differ : DigestsDiffer longestA longestB :=
  ⟨by decide +kernel, by decide +kernel⟩

/-- All their names are cut, and none of them meet. -/
theorem identities_agree_sample :
    64 < (conflictName longestA.runId longestA.canonicalKey).length ∧
      IdentitiesAgree longestA longestB := by
  have apart : ∀ more, runSlug longestA.runId ≠
      runSlug longestA.runId ++ point '-' :: more := by
    intro more same
    simpa using congrArg List.length same
  refine ⟨by decide +kernel, (identities_agree_iff longestA longestB
    longest_differ).mpr ⟨?_, ?_⟩⟩
  · rintro (⟨more, run, _⟩ | ⟨more, run, _⟩ | ⟨short, _⟩ | ⟨short, _⟩)
    · exact apart _ run
    · exact apart _ run
    · exact absurd short (by decide +kernel)
    · exact absurd short (by decide +kernel)
  · rintro ((⟨run, _⟩ | ⟨more, run, _⟩) | (⟨run, _⟩ | ⟨more, run, _⟩) |
      ⟨short, _⟩ | ⟨short, _⟩)
    · exact apart _ run
    · exact apart _ run
    · exact apart _ run
    · exact apart _ run
    · exact absurd short (by decide +kernel)
    · exact absurd short (by decide +kernel)

/-- The key `X` of the run `abc-def`. -/
def longerRun : RepairFacts :=
  sample ⟨text "run_abc-def", by decide +kernel⟩ (text "X") (by decide +kernel)

/-- The key `DEF-X` of the run `abc`. -/
def longerKey : RepairFacts :=
  sample ⟨text "run_abc", by decide +kernel⟩ (text "DEF-X")
    (by decide +kernel)

theorem samples_differ : DigestsDiffer longerRun longerKey := by
  have short : ∀ name ∈ longerRun.names ++ longerKey.names,
      name.length ≤ 64 := by decide
  refine ⟨?_, ?_⟩
  · intro name member _ _ long
    exact absurd (short name member) (Nat.not_le.mpr long)
  · intro long
    exact absurd long (by decide)

/-- Both have the conflict `cnf_abc-def-x`. -/
theorem conflict_shared :
    ¬∀ left right : RepairFacts, DigestsDiffer left right →
      IdentitiesAgree left right := by
  intro agree
  have value : longerRun.conflictId = longerKey.conflictId ∧
      longerRun.conflictId.isOk := by
    decide
  cases derived : longerRun.conflictId with
  | error error =>
      rw [derived] at value
      cases value.2
  | ok id =>
      have both := (agree longerRun longerKey samples_differ).1
        ⟨id, derived, by rw [← value.1, derived]⟩
      have runs : longerRun.runId ≠ longerKey.runId := by decide
      exact runs both.1

end RepairFacts

end ParityGrid.Application
