import ParityGrid.Domain.Canonical.Sizes

/-!
# Order-independent state fingerprints

A fingerprint digests the sorted leaf digests of a bounded multiset under the
name of its scope.  Digests are assumed distinct only on the preimages that
the compared fingerprints use.
-/

namespace ParityGrid.Domain

open Foundation

/-- Closed logical states with separate digest domains. -/
inductive FingerprintScope where
  | inventoryState
  | reconciliationState
  | repairPlanContent
  | targetObservationState
deriving DecidableEq

def FingerprintScope.value : FingerprintScope → String
  | .inventoryState => "inventory_state"
  | .reconciliationState => "reconciliation_state"
  | .repairPlanContent => "repair_plan_content"
  | .targetObservationState => "target_observation_state"

theorem FingerprintScope.value_injective :
    Function.Injective FingerprintScope.value := by
  intro left right equal
  cases left <;> cases right <;> first | rfl | exact absurd equal (by decide)

/-- `MAX_FINGERPRINT_ITEMS`. -/
def maxFingerprintItems : Nat := 10000

/-- `_LEAF_DOMAIN`. -/
def leafDomain : Bytes :=
  encodeAscii (text "paritygrid:canonical-leaf:v1") ++ [0]

/-- `_ROOT_DOMAIN`. -/
def rootDomain : Bytes :=
  encodeAscii (text "paritygrid:canonical-state:v1") ++ [0]

/-- `leaf_preimage` of one encoded value. -/
def leafPreimage (canonical : Bytes) : Except PythonError Bytes := do
  let framed ← frame canonical
  pure (leafDomain ++ framed)

/-- `root_preimage` of the leaves under a scope. -/
def rootPreimage (scope : FingerprintScope) (leaves : List Digest) :
    Except PythonError Bytes := do
  let framedScope ← frame (encodeAscii (text scope.value))
  pure (rootDomain ++ (framedScope ++ (bigEndian 8 leaves.length ++
    (sortedBy Digest.bytes leaves).flatMap Digest.bytes)))

/-! ## Preimages determine what they are made of -/

theorem leafPreimage_inj {left right preimage : Bytes}
    (leftForm : leafPreimage left = .ok preimage)
    (rightForm : leafPreimage right = .ok preimage) :
    left = right := by
  simp only [leafPreimage, bind_eq_ok] at leftForm rightForm
  obtain ⟨leftFramed, leftFrame, leftSame⟩ := leftForm
  obtain ⟨rightFramed, rightFrame, rightSame⟩ := rightForm
  have framed : leftFramed = rightFramed :=
    List.append_cancel_left
      ((Except.ok.inj leftSame).trans (Except.ok.inj rightSame).symm)
  subst framed
  exact frame_inj leftFrame rightFrame

theorem digestBytes_selfDelimiting : SelfDelimiting Digest.bytes :=
  SelfDelimiting.ofFixedLength (fun _ _ equal => Digest.ext equal)
    Digest.size

/-- A root preimage determines its scope and its multiset of leaves. -/
theorem rootPreimage_inj {leftScope rightScope : FingerprintScope}
    {left right : List Digest} {preimage : Bytes}
    (leftFits : left.length ≤ maxFingerprintItems)
    (rightFits : right.length ≤ maxFingerprintItems)
    (leftForm : rootPreimage leftScope left = .ok preimage)
    (rightForm : rootPreimage rightScope right = .ok preimage) :
    leftScope = rightScope ∧ left.Perm right := by
  simp only [rootPreimage, bind_eq_ok] at leftForm rightForm
  obtain ⟨leftFramed, leftFrame, leftSame⟩ := leftForm
  obtain ⟨rightFramed, rightFrame, rightSame⟩ := rightForm
  have tails := List.append_cancel_left
    ((Except.ok.inj rightSame).trans (Except.ok.inj leftSame).symm)
  obtain ⟨scopes, counted⟩ := frame_append rightFrame leftFrame tails
  have scopeTexts :=
    encodeAscii_injOn (by cases rightScope <;> decide)
      (by cases leftScope <;> decide) scopes
  obtain ⟨counts, digests⟩ := List.append_inj counted (by simp)
  have small : maxFingerprintItems < 256 ^ 8 := by decide
  have lengths : right.length = left.length :=
    bigEndian_inj (by omega) (by omega) counts
  have sortedLengths : (sortedBy Digest.bytes right).length =
      (sortedBy Digest.bytes left).length := by
    simpa using lengths
  have appended : (sortedBy Digest.bytes right).flatMap Digest.bytes ++ [] =
      (sortedBy Digest.bytes left).flatMap Digest.bytes ++ [] := by
    rw [digests]
  have sortedEqual :=
    (digestBytes_selfDelimiting.flatMap_append sortedLengths appended).1
  constructor
  · exact (FingerprintScope.value_injective (text_injective scopeTexts)).symm
  · have through : left.Perm (sortedBy Digest.bytes right) := by
      rw [sortedEqual]
      exact (sortedBy_perm Digest.bytes left).symm
    exact through.trans (sortedBy_perm Digest.bytes right)

theorem rootPreimage_perm {scope : FingerprintScope}
    {left right : List Digest} (perm : left.Perm right) :
    rootPreimage scope left = rootPreimage scope right := by
  have ordered : sortedBy Digest.bytes left = sortedBy Digest.bytes right :=
    sortedBy_eq_of_perm (fun _ _ _ _ equal => Digest.ext equal) perm
  simp only [rootPreimage, ordered, perm.length_eq]

section Fingerprints

variable [PythonRuntime]

/-- The type that a scope expects. -/
def FingerprintScope.Member : FingerprintScope → Type
  | .inventoryState => InventoryRecord
  | .reconciliationState => ReconciliationOutcome
  | .repairPlanContent => RepairPlan
  | .targetObservationState => InventoryRecord

/-- `_encode_state_value`. -/
def encodeStateValue (version : CanonicalVersion) :
    (scope : FingerprintScope) → scope.Member → Except PythonError Bytes
  | .inventoryState, record => version.encode ⟨.inventoryRecord, record⟩
  | .reconciliationState, outcome =>
      version.encode ⟨.reconciliationOutcome, outcome⟩
  | .repairPlanContent, plan => encodeRepairPlanContent plan version
  | .targetObservationState, record =>
      encodeInventoryObservation record version

/-- The digest of one value of the scope. -/
def fingerprintLeaf (version : CanonicalVersion) (scope : FingerprintScope)
    (value : scope.Member) : Except PythonError Digest := do
  let canonical ← encodeStateValue version scope value
  let preimage ← leafPreimage canonical
  pure (sha256 preimage)

/-- The loop of `fingerprint_state`; `count` leaves were taken before. -/
def fingerprintLeaves (version : CanonicalVersion)
    (scope : FingerprintScope) :
    Nat → List scope.Member → Except PythonError (List Digest)
  | _, [] => .ok []
  | count, value :: rest => do
      require (count != maxFingerprintItems)
        (canonicalEncodingError .invalidCanonicalValue
          (text "fingerprint.item-count"))
      let leaf ← fingerprintLeaf version scope value
      let leaves ← fingerprintLeaves version scope (count + 1) rest
      pure (leaf :: leaves)

/-- `fingerprint_state`. -/
def fingerprintState (scope : FingerprintScope) (values : List scope.Member)
    (version : CanonicalVersion) : Except PythonError StateFingerprint := do
  let leaves ← fingerprintLeaves version scope 0 values
  let preimage ← rootPreimage scope leaves
  pure (StateFingerprint.ofDigest (sha256 preimage))

/-- The leaf preimages of a sequence, as far as they exist. -/
def leafPreimages (version : CanonicalVersion) (scope : FingerprintScope)
    (values : List scope.Member) : List Bytes :=
  values.filterMap fun value =>
    (encodeStateValue version scope value >>= leafPreimage).toOption

/-- Every preimage that fingerprinting a sequence digests. -/
def fingerprintPreimages (scope : FingerprintScope)
    (values : List scope.Member) (version : CanonicalVersion) : List Bytes :=
  leafPreimages version scope values ++
    (fingerprintLeaves version scope 0 values >>=
      rootPreimage scope).toOption.toList

/-! ## Leaves -/

variable {version : CanonicalVersion}

theorem fingerprintLeaves_map {scope : FingerprintScope} {count : Nat}
    {values : List scope.Member} {leaves : List Digest}
    (digested : fingerprintLeaves version scope count values = .ok leaves) :
    values.map (fingerprintLeaf version scope) = leaves.map .ok := by
  induction values generalizing count leaves with
  | nil =>
      cases digested
      rfl
  | cons value rest ih =>
      simp only [fingerprintLeaves, bind_eq_ok] at digested
      obtain ⟨_, _, leaf, leafDigested, restLeaves, restDigested, same⟩ :=
        digested
      cases same
      simp only [List.map_cons, leafDigested, ih restDigested]

theorem fingerprintLeaves_bound {scope : FingerprintScope} {count : Nat}
    {values : List scope.Member} {leaves : List Digest}
    (room : count ≤ maxFingerprintItems)
    (digested : fingerprintLeaves version scope count values = .ok leaves) :
    count + leaves.length ≤ maxFingerprintItems := by
  induction values generalizing count leaves with
  | nil =>
      cases digested
      simpa using room
  | cons value rest ih =>
      simp only [fingerprintLeaves, bind_eq_ok, require_eq_ok,
        bne_iff_ne] at digested
      obtain ⟨_, notFull, leaf, _, restLeaves, restDigested, same⟩ := digested
      cases same
      have deeper : count + 1 ≤ maxFingerprintItems := by omega
      have bound := ih deeper restDigested
      simp only [List.length_cons]
      omega

/-- Leaves of a sequence come from its encodings, one by one. -/
theorem fingerprintLeaves_encodings {scope : FingerprintScope}
    {values : List scope.Member} {leaves : List Digest}
    (digested : values.map (fingerprintLeaf version scope) =
      leaves.map .ok) :
    ∃ canonicals : List (Bytes × Bytes),
      values.map (encodeStateValue version scope) =
        canonicals.map (fun pair => .ok pair.1) ∧
      leaves = canonicals.map (fun pair => sha256 pair.2) ∧
      ∀ pair ∈ canonicals, leafPreimage pair.1 = .ok pair.2 ∧
        ∃ value ∈ values,
          encodeStateValue version scope value = .ok pair.1 := by
  induction values generalizing leaves with
  | nil =>
      have empty : leaves = [] := by simpa using digested.symm
      subst empty
      exact ⟨[], rfl, rfl, by simp⟩
  | cons value rest ih =>
      cases leaves with
      | nil => cases digested
      | cons leaf restLeaves =>
          simp only [List.map_cons, List.cons.injEq] at digested
          obtain ⟨headDigested, tailDigested⟩ := digested
          obtain ⟨canonicals, encodings, leavesForm, origins⟩ :=
            ih tailDigested
          simp only [fingerprintLeaf, bind_eq_ok] at headDigested
          obtain ⟨canonical, encoded, preimage, framed, same⟩ := headDigested
          cases same
          refine ⟨(canonical, preimage) :: canonicals, ?_, ?_, ?_⟩
          · simp only [List.map_cons, encoded, encodings]
          · simp only [List.map_cons, leavesForm]
          · intro pair member
            rcases List.mem_cons.mp member with rfl | later
            · exact ⟨framed, value, List.mem_cons_self, encoded⟩
            · obtain ⟨form, origin, inside, encodes⟩ := origins pair later
              exact ⟨form, origin, List.mem_cons_of_mem _ inside, encodes⟩

/-! ## Fingerprints -/

theorem fingerprintState_eq_ok {scope : FingerprintScope}
    {values : List scope.Member} {fingerprint : StateFingerprint} :
    fingerprintState scope values version = .ok fingerprint ↔
      ∃ leaves preimage,
        fingerprintLeaves version scope 0 values = .ok leaves ∧
        rootPreimage scope leaves = .ok preimage ∧
        fingerprint = StateFingerprint.ofDigest (sha256 preimage) := by
  simp only [fingerprintState, bind_eq_ok]
  constructor
  · rintro ⟨leaves, digested, preimage, rooted, same⟩
    cases same
    exact ⟨leaves, preimage, digested, rooted, rfl⟩
  · rintro ⟨leaves, preimage, digested, rooted, rfl⟩
    exact ⟨leaves, digested, preimage, rooted, rfl⟩

/-- Equal multisets of encodings give one fingerprint. -/
theorem fingerprintState_of_perm {scope : FingerprintScope}
    {left right : List scope.Member}
    {leftPrint rightPrint : StateFingerprint}
    (leftReturns : fingerprintState scope left version = .ok leftPrint)
    (rightReturns : fingerprintState scope right version = .ok rightPrint)
    (perm : (left.map (encodeStateValue version scope)).Perm
      (right.map (encodeStateValue version scope))) :
    leftPrint = rightPrint := by
  obtain ⟨leftLeaves, leftRoot, leftDigested, leftRooted, rfl⟩ :=
    fingerprintState_eq_ok.mp leftReturns
  obtain ⟨rightLeaves, rightRoot, rightDigested, rightRooted, rfl⟩ :=
    fingerprintState_eq_ok.mp rightReturns
  let digest (encoded : Except PythonError Bytes) :
      Except PythonError Digest := do
    let canonical ← encoded
    let preimage ← leafPreimage canonical
    pure (sha256 preimage)
  have mapped := perm.map digest
  rw [List.map_map, List.map_map] at mapped
  have leaves : (leftLeaves.map (Except.ok (ε := PythonError))).Perm
      (rightLeaves.map .ok) := by
    rw [← fingerprintLeaves_map leftDigested,
      ← fingerprintLeaves_map rightDigested]
    exact mapped
  have perm := perm_of_map_perm (fun _ _ _ _ => Except.ok.inj) leaves
  rw [rootPreimage_perm perm, rightRooted] at leftRooted
  cases leftRooted
  rfl

theorem leafPreimage_used {scope : FingerprintScope}
    {values : List scope.Member} {value : scope.Member}
    {canonical preimage : Bytes} (member : value ∈ values)
    (encodes : encodeStateValue version scope value = .ok canonical)
    (framed : leafPreimage canonical = .ok preimage) :
    preimage ∈ fingerprintPreimages scope values version := by
  apply List.mem_append_left
  apply List.mem_filterMap.mpr
  exact ⟨value, member, by simp only [encodes, ok_bind, framed]; rfl⟩

/-- The root of a returned fingerprint is among its preimages. -/
theorem fingerprintState_root {scope : FingerprintScope}
    {values : List scope.Member} {fingerprint : StateFingerprint}
    (returns : fingerprintState scope values version = .ok fingerprint) :
    ∃ leaves preimage,
      fingerprintLeaves version scope 0 values = .ok leaves ∧
      leaves.length ≤ maxFingerprintItems ∧
      rootPreimage scope leaves = .ok preimage ∧
      preimage ∈ fingerprintPreimages scope values version ∧
      fingerprint = StateFingerprint.ofDigest (sha256 preimage) := by
  obtain ⟨leaves, preimage, digested, rooted, form⟩ :=
    fingerprintState_eq_ok.mp returns
  have bound := fingerprintLeaves_bound (Nat.zero_le _) digested
  have used : preimage ∈ fingerprintPreimages scope values version := by
    apply List.mem_append_right
    simp only [digested, ok_bind, rooted]
    exact List.mem_singleton.mpr rfl
  exact ⟨leaves, preimage, digested, by omega, rooted, used, form⟩

/-- Equal fingerprints of one scope come from equal multisets. -/
theorem fingerprintState_perm {scope : FingerprintScope}
    {left right : List scope.Member} {fingerprint : StateFingerprint}
    (leftReturns : fingerprintState scope left version = .ok fingerprint)
    (rightReturns : fingerprintState scope right version = .ok fingerprint)
    (distinct : DistinctDigests
      (fingerprintPreimages scope left version ++
        fingerprintPreimages scope right version)) :
    (left.map (encodeStateValue version scope)).Perm
      (right.map (encodeStateValue version scope)) := by
  obtain ⟨leftLeaves, leftRoot, leftDigested, leftBound, leftRooted,
    leftUsed, leftForm⟩ := fingerprintState_root leftReturns
  obtain ⟨rightLeaves, rightRoot, rightDigested, rightBound, rightRooted,
    rightUsed, rightForm⟩ := fingerprintState_root rightReturns
  have roots : leftRoot = rightRoot :=
    distinct _ (List.mem_append_left _ leftUsed)
      _ (List.mem_append_right _ rightUsed)
      (StateFingerprint.ofDigest_injective (leftForm.symm.trans rightForm))
  subst roots
  have leaves :=
    (rootPreimage_inj leftBound rightBound leftRooted rightRooted).2
  obtain ⟨leftPairs, leftEncodings, leftLeavesForm, leftOrigins⟩ :=
    fingerprintLeaves_encodings (fingerprintLeaves_map leftDigested)
  obtain ⟨rightPairs, rightEncodings, rightLeavesForm, rightOrigins⟩ :=
    fingerprintLeaves_encodings (fingerprintLeaves_map rightDigested)
  rw [leftLeavesForm, rightLeavesForm] at leaves
  -- Every leaf preimage is used, so its digest determines the encoding.
  have used : ∀ pair ∈ leftPairs ++ rightPairs,
      leafPreimage pair.1 = .ok pair.2 ∧
        pair.2 ∈ fingerprintPreimages scope left version ++
          fingerprintPreimages scope right version := by
    intro pair member
    rcases List.mem_append.mp member with inLeft | inRight
    · obtain ⟨form, value, inside, encodes⟩ := leftOrigins pair inLeft
      exact ⟨form, List.mem_append_left _
        (leafPreimage_used inside encodes form)⟩
    · obtain ⟨form, value, inside, encodes⟩ := rightOrigins pair inRight
      exact ⟨form, List.mem_append_right _
        (leafPreimage_used inside encodes form)⟩
  have pairs : leftPairs.Perm rightPairs := by
    apply perm_of_map_perm _ leaves
    intro first firstMember second secondMember equal
    obtain ⟨firstForm, firstUsed⟩ := used first firstMember
    obtain ⟨secondForm, secondUsed⟩ := used second secondMember
    have preimages := distinct _ firstUsed _ secondUsed equal
    rw [← preimages] at secondForm
    exact Prod.ext (leafPreimage_inj firstForm secondForm) preimages
  rw [leftEncodings, rightEncodings]
  exact pairs.map _

/-- Fingerprints of different scopes have different roots. -/
theorem fingerprintState_scope {leftScope rightScope : FingerprintScope}
    {left : List leftScope.Member} {right : List rightScope.Member}
    {fingerprint : StateFingerprint}
    (leftReturns : fingerprintState leftScope left version = .ok fingerprint)
    (rightReturns :
      fingerprintState rightScope right version = .ok fingerprint)
    (distinct : DistinctDigests
      (fingerprintPreimages leftScope left version ++
        fingerprintPreimages rightScope right version)) :
    leftScope = rightScope := by
  obtain ⟨leftLeaves, leftRoot, _, leftBound, leftRooted, leftUsed,
    leftForm⟩ := fingerprintState_root leftReturns
  obtain ⟨rightLeaves, rightRoot, _, rightBound, rightRooted, rightUsed,
    rightForm⟩ := fingerprintState_root rightReturns
  have roots : leftRoot = rightRoot :=
    distinct _ (List.mem_append_left _ leftUsed)
      _ (List.mem_append_right _ rightUsed)
      (StateFingerprint.ofDigest_injective (leftForm.symm.trans rightForm))
  subst roots
  exact (rootPreimage_inj leftBound rightBound leftRooted rightRooted).1

/-! ## Bounded sequences have a fingerprint -/

theorem CanonicalVersion.encode_sized (version : CanonicalVersion)
    (value : CanonicalValue)
    (inside : ((adapter value.type).toPrimitive value.value).fits 99)
    (extent : ((adapter value.type).toPrimitive value.value).extent ≤ 10 ^ 12)
    (short : (text (adapter value.type).typeTag).length ≤ 64) :
    ∃ canonical, version.encode value = .ok canonical ∧
      canonical.length < 256 ^ 8 := by
  obtain ⟨bytes, encodes, length⟩ :=
    encodeEnvelope_sized version inside extent short
  exact ⟨bytes, by simp only [CanonicalVersion.encode, encodes], length⟩

/-- Records and outcomes always encode within a frame. -/
theorem encodeStateValue_sized (version : CanonicalVersion)
    {scope : FingerprintScope} (sized : scope ≠ .repairPlanContent)
    (value : scope.Member) :
    ∃ canonical, encodeStateValue version scope value = .ok canonical ∧
      canonical.length < 256 ^ 8 := by
  cases scope with
  | inventoryState =>
      apply CanonicalVersion.encode_sized version ⟨.inventoryRecord, value⟩
      · exact inventoryRecordValue_fits value 96
      · exact (inventoryRecordValue_extent value).trans (by decide)
      · show (text "inventory-record").length ≤ 64
        decide
  | reconciliationState =>
      obtain ⟨inside, extent⟩ := reconciliationOutcomePrimitive_sized value
      apply CanonicalVersion.encode_sized version
        ⟨.reconciliationOutcome, value⟩ inside extent
      show (text "reconciliation-outcome").length ≤ 64
      decide
  | repairPlanContent => exact absurd rfl sized
  | targetObservationState =>
      apply encodeEnvelope_sized version
      · exact inventoryEffectValue_fits value 96
      · exact (inventoryEffectValue_extent value).trans (by decide)
      · decide

theorem fingerprintLeaves_returns (version : CanonicalVersion)
    {scope : FingerprintScope} (sized : scope ≠ .repairPlanContent)
    {count : Nat} {values : List scope.Member}
    (few : count + values.length ≤ maxFingerprintItems) :
    ∃ leaves, fingerprintLeaves version scope count values = .ok leaves := by
  induction values generalizing count with
  | nil => exact ⟨[], rfl⟩
  | cons value rest ih =>
      simp only [List.length_cons] at few
      obtain ⟨canonical, encodes, length⟩ :=
        encodeStateValue_sized version sized value
      have deeper : (count + 1) + rest.length ≤ maxFingerprintItems := by
        omega
      obtain ⟨leaves, digested⟩ := ih deeper
      have room : (count != maxFingerprintItems) = true := by
        simp only [bne_iff_ne]
        omega
      refine ⟨sha256 (leafDomain ++
        (bigEndian 8 canonical.length ++ canonical)) :: leaves, ?_⟩
      simp only [fingerprintLeaves, fingerprintLeaf, leafPreimage, frame,
        room, require_true, encodes, length, if_true, digested, ok_bind]
      rfl

/-- At most 10,000 records or outcomes always have a fingerprint. -/
theorem fingerprintState_returns (version : CanonicalVersion)
    {scope : FingerprintScope} (sized : scope ≠ .repairPlanContent)
    {values : List scope.Member}
    (few : values.length ≤ maxFingerprintItems) :
    ∃ fingerprint,
      fingerprintState scope values version = .ok fingerprint := by
  have counted : 0 + values.length ≤ maxFingerprintItems := by omega
  obtain ⟨leaves, digested⟩ :=
    fingerprintLeaves_returns version sized counted
  obtain ⟨framed, frames⟩ :
      ∃ framed, frame (encodeAscii (text scope.value)) = .ok framed :=
    returns_of_isSome (by cases scope <;> decide)
  exact ⟨_, fingerprintState_eq_ok.mpr ⟨leaves, _, digested,
    by simp only [rootPreimage, frames, ok_bind]; rfl, rfl⟩⟩

/-- A fingerprinted sequence is within the bound. -/
theorem fingerprintState_bound {version : CanonicalVersion}
    {scope : FingerprintScope} {values : List scope.Member}
    {fingerprint : StateFingerprint}
    (returned : fingerprintState scope values version = .ok fingerprint) :
    values.length ≤ maxFingerprintItems := by
  obtain ⟨leaves, _, digested, _⟩ := fingerprintState_eq_ok.mp returned
  have bound := fingerprintLeaves_bound (Nat.zero_le _) digested
  have lengths := congrArg List.length (fingerprintLeaves_map digested)
  simp only [List.length_map] at lengths
  omega

/-! ## What a fingerprint identifies -/

/--
Where SHA-256 is injective on the preimages used, a fingerprint identifies its
scope and the multiset of scope encodings.  At most 10,000 values have a
fingerprint, and so many records or outcomes always have one.
-/
theorem fingerprintState_identifies (version : CanonicalVersion) :
    (∀ (scope : FingerprintScope) (left right : List scope.Member)
      (leftPrint rightPrint : StateFingerprint),
      fingerprintState scope left version = .ok leftPrint →
      fingerprintState scope right version = .ok rightPrint →
      DistinctDigests
        (fingerprintPreimages scope left version ++
          fingerprintPreimages scope right version) →
      (leftPrint = rightPrint ↔
        (left.map (encodeStateValue version scope)).Perm
          (right.map (encodeStateValue version scope)))) ∧
    (∀ (leftScope rightScope : FingerprintScope)
      (left : List leftScope.Member) (right : List rightScope.Member)
      (leftPrint rightPrint : StateFingerprint),
      leftScope ≠ rightScope →
      fingerprintState leftScope left version = .ok leftPrint →
      fingerprintState rightScope right version = .ok rightPrint →
      DistinctDigests
        (fingerprintPreimages leftScope left version ++
          fingerprintPreimages rightScope right version) →
      leftPrint ≠ rightPrint) ∧
    (∀ (scope : FingerprintScope) (values : List scope.Member) fingerprint,
      fingerprintState scope values version = .ok fingerprint →
      values.length ≤ maxFingerprintItems) ∧
    (∀ (scope : FingerprintScope) (values : List scope.Member),
      scope ≠ .repairPlanContent → values.length ≤ maxFingerprintItems →
      ∃ fingerprint,
        fingerprintState scope values version = .ok fingerprint) := by
  refine ⟨?_, ?_, fun _ _ _ => fingerprintState_bound, fun _ _ sized few =>
    fingerprintState_returns version sized few⟩
  · intro scope left right leftPrint rightPrint leftReturns rightReturns
      distinct
    constructor
    · rintro rfl
      exact fingerprintState_perm leftReturns rightReturns distinct
    · exact fingerprintState_of_perm leftReturns rightReturns
  · rintro leftScope rightScope left right leftPrint rightPrint apart
      leftReturns rightReturns distinct rfl
    exact apart (fingerprintState_scope leftReturns rightReturns distinct)

end Fingerprints

section Sample

attribute [local instance] asciiRuntime

/-- The widget under another key of the source. -/
def otherRecord : InventoryRecord :=
  { sampleRecord with
    sourceRecordKey := text "key-2"
    valid := by constructor <;> decide +kernel }

/-- Preimages whose different ones have different digests. -/
theorem distinctDigests_of_nodup {preimages : List Bytes}
    (nodup : (preimages.dedup.map sha256).Nodup) :
    DistinctDigests preimages := fun _ left _ right same =>
  List.inj_on_of_nodup_map nodup (List.mem_dedup.mpr left)
    (List.mem_dedup.mpr right) same

/-- A repeated record in two orders, and no records under two scopes. -/
theorem fingerprintState_identifies_repeated :
    (∃ left right,
      fingerprintState .targetObservationState
        [sampleRecord, otherRecord, sampleRecord] .v1 = .ok left ∧
      fingerprintState .targetObservationState
        [otherRecord, sampleRecord, sampleRecord] .v1 = .ok right ∧
      left = right) ∧
    (∃ observed stored,
      fingerprintState .targetObservationState [] .v1 = .ok observed ∧
      fingerprintState .inventoryState [] .v1 = .ok stored ∧
      observed ≠ stored) := by
  obtain ⟨bounded, returns⟩ := (fingerprintState_identifies .v1).2.2
  obtain ⟨left, leftReturns⟩ := returns .targetObservationState
    [sampleRecord, otherRecord, sampleRecord] (by decide) (by decide)
  obtain ⟨right, rightReturns⟩ := returns .targetObservationState
    [otherRecord, sampleRecord, sampleRecord] (by decide) (by decide)
  obtain ⟨observed, observedReturns⟩ :=
    returns .targetObservationState [] (by decide) (by decide)
  obtain ⟨stored, storedReturns⟩ :=
    returns .inventoryState [] (by decide) (by decide)
  constructor
  · have identified := (fingerprintState_identifies .v1).1
      .targetObservationState [sampleRecord, otherRecord, sampleRecord]
      [otherRecord, sampleRecord, sampleRecord] left right leftReturns
      rightReturns (distinctDigests_of_nodup (by decide +kernel))
    exact ⟨left, right, leftReturns, rightReturns,
      identified.mpr ((List.Perm.swap _ _ _).map _)⟩
  · exact ⟨observed, stored, observedReturns, storedReturns,
      (fingerprintState_identifies .v1).2.1 .targetObservationState
        .inventoryState [] [] observed stored (by decide) observedReturns
        storedReturns (by decide +kernel)⟩

end Sample

end ParityGrid.Domain
