import ParityGrid.Application.Ports.ConnectorRedaction
import ParityGrid.Domain.Canonical.PlanContent
import ParityGrid.Foundation.Shortening

/-!
# Identities of repair facts

Every identity of the repair workflow is a text of joined pieces: the run, a
part of a fingerprint, a key.  A joined text over the bound of identifiers is
cut, and a digest of the whole text is appended.
-/

namespace ParityGrid.Application

open Foundation Domain

/-! ## Derivations -/

/-- `_ID_PAYLOAD_MAXIMUM`. -/
def idPayloadMaximum : Nat := 64

/-- `_IDEMPOTENCY_KEY_MAXIMUM`. -/
def idempotencyKeyMaximum : Nat := 128

/-- `"-".join(part for part in parts if part)`. -/
def hyphenJoined (parts : List Text) : Text :=
  [point '-'].intercalate (parts.filter fun part => part != [])

/-- `_slug`. -/
def slug (parts : List Text) : Except PythonError Text := do
  let joined := hyphenJoined parts
  if joined.length ≤ idPayloadMaximum then
    pure joined
  else
    let encoded ← encodeUtf8 joined
    let digest := (sha256 encoded).hex.take 16
    let truncated := joined.take (idPayloadMaximum - 17)
    pure (truncated.rdropWhile (· == point '-') ++ point '-' :: digest)

/-- `value.removeprefix(marker)`. -/
def removeMarker (marker value : Text) : Text :=
  if marker.isPrefixOf value then value.drop marker.length else value

/-- `_run_slug`. -/
def runSlug (runId : RunId) : Text :=
  lowered (removeMarker (text "run_") runId.value)

/-- `derive_conflict_id`. -/
def deriveConflictId (runId : RunId) (canonicalKey : Text) :
    Except PythonError ConflictId := do
  let name ← slug [runSlug runId, lowered canonicalKey]
  Identifier.create .conflict (text "cnf_" ++ name)

/-- `derive_verification_id`. -/
def deriveVerificationId (runId : RunId)
    (reconciliation observed : StateFingerprint) :
    Except PythonError TargetVerificationId := do
  let name ← slug [runSlug runId, reconciliation.value.take 16,
    observed.value.take 24]
  Identifier.create .targetVerification (text "tgv_" ++ name)

/-- `derive_action_idempotency_key`. -/
def deriveActionIdempotencyKey (runId : RunId)
    (contentFingerprint : StateFingerprint) (canonicalKey : Text) :
    Except PythonError Text :=
  let head := text "repair." ++ runSlug runId ++ [point '.']
  let key := head ++ contentFingerprint.value.take 24 ++ [point '.'] ++
    canonicalKey
  if key.length > idempotencyKeyMaximum then do
    let encoded ← encodeUtf8 key
    let digest := (sha256 encoded).hex.take 32
    pure (head ++ digest)
  else
    .ok key

/-- `str(value)` of an integer. -/
def integerText (value : Int) : Except PythonError Text :=
  match intReprError value with
  | some error => .error error
  | none => .ok (decimalInt value)

/-- `policy`, which fails on a version without a decimal text. -/
def renderPolicy (binding : RepairPlanBinding) : Except PythonError Text := do
  let versions ← [binding.policyVersion, binding.generationVersion,
    binding.rulesVersion, binding.analysisVersion,
    binding.analyticalQueryVersion].mapM integerText
  pure ([point '.'].intercalate versions)

/-- The pieces of a plan identity. -/
def planPieces (runId : RunId) (reconciliation : StateFingerprint) :
    Option RepairPlanBinding → Except PythonError (List Text)
  | none => .ok [runSlug runId, reconciliation.value.take 24]
  | some binding => do
      require (binding.runId == runId &&
          binding.reconciliationFingerprint == reconciliation)
        (.valueError (text
          "repair plan binding does not match plan identity"))
      let policy ← renderPolicy binding
      pure [runSlug runId, reconciliation.value.take 24,
        binding.sourceInputIdentity.take 12,
        binding.targetInputIdentity.take 12, policy]

/-- `derive_plan_id`. -/
def derivePlanId (runId : RunId) (reconciliation : StateFingerprint)
    (binding : Option RepairPlanBinding) :
    Except PythonError RepairPlanId := do
  let pieces ← planPieces runId reconciliation binding
  let name ← slug pieces
  Identifier.create .repairPlan (text "rpl_" ++ name)

/-- The pieces of an action identity. -/
def actionPieces (runId : RunId) (reconciliation : StateFingerprint)
    (canonicalKey : Text) :
    Option RepairPlanBinding → Except PythonError (List Text)
  | none =>
      .ok [runSlug runId, reconciliation.value.take 16, lowered canonicalKey]
  | some binding => do
      let planId ← derivePlanId runId reconciliation (some binding)
      pure [runSlug runId, reconciliation.value.take 16, lowered canonicalKey,
        planId.value.drop 4]

/-- `derive_action_id`. -/
def deriveActionId (runId : RunId) (reconciliation : StateFingerprint)
    (canonicalKey : Text) (binding : Option RepairPlanBinding) :
    Except PythonError RepairActionId := do
  let pieces ← actionPieces runId reconciliation canonicalKey binding
  let name ← slug pieces
  Identifier.create .repairAction (text "rac_" ++ name)

/-! ## Pieces -/

theorem payloadPattern_plain : payloadPattern.Plain := by
  refine ⟨rfl, rfl, ?_⟩
  intro c hyphen
  simp only [payloadPattern, beq_iff_eq] at hyphen
  rw [hyphen]
  decide

theorem skuPattern_plain : skuPattern.Plain := by
  refine ⟨rfl, rfl, ?_⟩
  intro c hyphen
  simp only [skuPattern, beq_iff_eq] at hyphen
  rw [hyphen]
  decide

theorem hyphen_separates : payloadPattern.separator (point '-') := by decide

theorem payloadPattern_ascii : payloadPattern.Within isAscii := by
  refine ⟨fun c => isAscii_of_isLowerOrDigit,
    fun c => isAscii_of_isLowerOrDigit, fun c => isAscii_of_isLowerOrDigit, ?_⟩
  intro c hyphen
  simp only [payloadPattern, beq_iff_eq] at hyphen
  rw [hyphen]
  decide

/-- What an identifier accepts after its marker. -/
theorem validateIdentifier_marker (kind : IdentifierKind) (payload : Text) :
    validateIdentifier kind (kind.marker ++ payload) = .ok () ↔
      payloadPattern.fullmatch payload ∧ 3 ≤ payload.length ∧
        payload.length ≤ 64 := by
  have front : kind.marker.isPrefixOf (kind.marker ++ payload) := by simp
  have some_ : kind.marker ++ payload != [] := by
    cases kind <;> rfl
  have plain : kind.marker.all isAscii := by
    cases kind <;> decide
  simp only [validateIdentifier, bind_eq_ok, require_eq_ok, front, some_,
    List.drop_left, List.all_append, plain, Bool.true_and, Bool.and_eq_true,
    decide_eq_true_eq, minPayloadLength, maxPayloadLength, true_and,
    exists_const]
  constructor
  · rintro ⟨_, sized, matched⟩
    exact ⟨matched, sized⟩
  · rintro ⟨matched, sized⟩
    exact ⟨payloadPattern_ascii.fullmatch_all matched, sized, matched⟩

/-- The payload of an identifier. -/
theorem Identifier.value_form {kind : IdentifierKind}
    (identifier : Identifier kind) :
    ∃ payload, identifier.value = kind.marker ++ payload ∧
      payloadPattern.fullmatch payload ∧ 3 ≤ payload.length ∧
        payload.length ≤ 64 := by
  have valid := identifier.valid
  have start : kind.marker.isPrefixOf identifier.value := by
    simp only [validateIdentifier, bind_eq_ok, require_eq_ok] at valid
    obtain ⟨_, _, _, _, _, start, _⟩ := valid
    exact start
  obtain ⟨payload, form⟩ := List.isPrefixOf_iff_prefix.mp start
  rw [← form, validateIdentifier_marker] at valid
  exact ⟨payload, form.symm, valid⟩

theorem Identifier.create_marker {kind : IdentifierKind} {payload : Text}
    {identifier : Identifier kind} :
    Identifier.create kind (kind.marker ++ payload) = .ok identifier ↔
      identifier.value = kind.marker ++ payload := by
  constructor
  · exact Identifier.create_value
  · intro same
    rw [← same, Identifier.create_self]

theorem Identifier.create_payload (kind : IdentifierKind) {payload : Text}
    (matched : payloadPattern.fullmatch payload)
    (long : 3 ≤ payload.length) (short : payload.length ≤ 64) :
    ∃ identifier, Identifier.create kind (kind.marker ++ payload) =
      .ok identifier := by
  have valid := (validateIdentifier_marker kind payload).mpr
    ⟨matched, long, short⟩
  exact ⟨⟨_, valid⟩, Identifier.create_self ⟨_, valid⟩⟩

theorem loweredPoint_ascii {c : CodePoint} (ascii : isAscii c) :
    loweredPoint c = [lowerPoint c] := by
  simp only [isAscii, decide_eq_true_eq] at ascii
  rw [loweredPoint, if_neg (by omega), if_neg (by omega)]

theorem lowered_ascii {t : Text} (ascii : t.all isAscii) :
    lowered t = lower t := by
  induction t with
  | nil => rfl
  | cons c rest ih =>
      rw [List.all_cons, Bool.and_eq_true] at ascii
      show loweredPoint c ++ lowered rest = lowerPoint c :: lower rest
      rw [loweredPoint_ascii ascii.1, ih ascii.2]
      rfl

theorem lowerPoint_payload {c : CodePoint}
    (member : isLowerOrDigit c ∨ c = point '-') :
    lowerPoint c = c := by
  rcases member with char | rfl
  · simp only [isLowerOrDigit, Bool.or_eq_true, isLower, isDigit,
      Bool.and_eq_true, decide_eq_true_eq] at char
    rw [lowerPoint, if_neg]
    simp only [isUpper, Bool.and_eq_true, decide_eq_true_eq]
    omega
  · decide

/-- Segments of one kind of character are joined by hyphens. -/
theorem hyphenated_chars {good : CodePoint → Bool} {t : Text}
    (matched : (SegmentPattern.mk good good good
      (· == point '-')).fullmatch t) {c : CodePoint} (member : c ∈ t) :
    good c ∨ c = point '-' := by
  have within : (SegmentPattern.mk good good good (· == point '-')).Within
      (fun c => good c || c == point '-') := by
    refine ⟨?_, ?_, ?_, ?_⟩ <;> intro c char
    · exact Bool.or_eq_true_iff.mpr (.inl char)
    · exact Bool.or_eq_true_iff.mpr (.inl char)
    · exact Bool.or_eq_true_iff.mpr (.inl char)
    · exact Bool.or_eq_true_iff.mpr (.inr char)
  have all := List.all_eq_true.mp (within.fullmatch_all matched) c member
  simpa using all

theorem payloadPattern_chars {t : Text}
    (matched : payloadPattern.fullmatch t) {c : CodePoint} (member : c ∈ t) :
    isLowerOrDigit c ∨ c = point '-' :=
  hyphenated_chars matched member

/-- The run of a slug: the payload of its identity. -/
theorem runSlug_form (runId : RunId) :
    runId.value = text "run_" ++ runSlug runId ∧
      payloadPattern.fullmatch (runSlug runId) ∧
        3 ≤ (runSlug runId).length ∧ (runSlug runId).length ≤ 64 := by
  obtain ⟨payload, form, matched, sized⟩ := Identifier.value_form runId
  have marker : IdentifierKind.run.marker = text "run_" := by decide
  rw [marker] at form
  have same : runSlug runId = payload := by
    rw [runSlug, removeMarker, form, if_pos (by simp), List.drop_left,
      lowered_ascii (payloadPattern_ascii.fullmatch_all matched)]
    conv => rhs; rw [← List.map_id payload]
    exact List.map_congr_left fun c member =>
      lowerPoint_payload (payloadPattern_chars matched member)
  rw [same]
  exact ⟨form, matched, sized⟩

theorem runSlug_inj {left right : RunId} (same : runSlug left = runSlug right) :
    left = right := by
  apply Identifier.ext
  rw [(runSlug_form left).1, (runSlug_form right).1, same]

theorem lowerPoint_sku {c : CodePoint} (char : isUpperOrDigit c) :
    isLowerOrDigit (lowerPoint c) := by
  simp only [isUpperOrDigit, Bool.or_eq_true] at char
  simp only [lowerPoint, isLowerOrDigit, Bool.or_eq_true]
  split
  next upper =>
    left
    simp only [isUpper, Bool.and_eq_true, decide_eq_true_eq] at upper
    simp only [isLower, Bool.and_eq_true, decide_eq_true_eq, Fin.val_ofNat]
    omega
  next upper =>
    exact .inr (char.resolve_left upper)

theorem lowerPoint_sku_inj {c d : CodePoint}
    (left : isUpperOrDigit c ∨ c = point '-')
    (right : isUpperOrDigit d ∨ d = point '-')
    (same : lowerPoint c = lowerPoint d) :
    c = d := by
  have hyphen : (point '-').val = 0x2D := rfl
  have values := congrArg Fin.val same
  simp only [isUpperOrDigit, isUpper, isDigit, Bool.or_eq_true,
    Bool.and_eq_true, decide_eq_true_eq, Fin.ext_iff, hyphen] at left right
  apply Fin.ext
  simp only [lowerPoint, isUpper, Bool.and_eq_true, decide_eq_true_eq,
    apply_ite Fin.val, Fin.val_ofNat] at values
  split at values <;> split at values <;> omega

theorem skuPattern_chars {t : Text} (matched : skuPattern.fullmatch t)
    {c : CodePoint} (member : c ∈ t) :
    isUpperOrDigit c ∨ c = point '-' :=
  hyphenated_chars matched member

theorem validateSku_eq_ok {key : Text} :
    validateSku key = .ok () ↔
      (1 ≤ key.length ∧ key.length ≤ 64) ∧ skuPattern.fullmatch key := by
  simp [validateSku, bind_eq_ok, require_eq_ok]

/-- A canonical key in lower case reads like the payload of an identifier. -/
theorem lowered_key {key : Text} (valid : validateSku key = .ok ()) :
    payloadPattern.fullmatch (lowered key) ∧ 1 ≤ (lowered key).length ∧
      (lowered key).length ≤ 64 := by
  obtain ⟨sized, matched⟩ := validateSku_eq_ok.mp valid
  rw [lowered_ascii (skuPattern_ascii.fullmatch_all matched)]
  refine ⟨?_, ?_⟩
  · apply skuPattern_plain.fullmatch_map payloadPattern_plain
      (fun c => lowerPoint_sku)
    · intro c hyphen
      simp only [skuPattern, beq_iff_eq] at hyphen
      rw [hyphen]
      decide
    · exact matched
  · rw [lower, List.length_map]
    exact sized

theorem lowered_key_inj {left right : Text}
    (leftValid : validateSku left = .ok ())
    (rightValid : validateSku right = .ok ())
    (same : lowered left = lowered right) :
    left = right := by
  obtain ⟨-, leftMatched⟩ := validateSku_eq_ok.mp leftValid
  obtain ⟨-, rightMatched⟩ := validateSku_eq_ok.mp rightValid
  rw [lowered_ascii (skuPattern_ascii.fullmatch_all leftMatched),
    lowered_ascii (skuPattern_ascii.fullmatch_all rightMatched)] at same
  have leftChars := fun c => skuPattern_chars leftMatched (c := c)
  have rightChars := fun c => skuPattern_chars rightMatched (c := c)
  clear leftValid rightValid leftMatched rightMatched
  induction left generalizing right with
  | nil =>
      exact (List.map_eq_nil_iff.mp same.symm).symm
  | cons c rest ih =>
      cases right with
      | nil => cases same
      | cons d others =>
          simp only [lower, List.map_cons, List.cons.injEq] at same
          rw [lowerPoint_sku_inj (leftChars c List.mem_cons_self)
            (rightChars d List.mem_cons_self) same.1]
          rw [ih same.2 (fun c member => leftChars c (.tail _ member))
            (fun c member => rightChars c (.tail _ member))]

theorem isLowerOrDigit_of_isHexLower {c : CodePoint} (hex : isHexLower c) :
    isLowerOrDigit c := by
  simp only [isHexLower, isLowerOrDigit, isLower, isDigit, Bool.or_eq_true,
    Bool.and_eq_true, decide_eq_true_eq] at hex ⊢
  omega

/-- A part of a fingerprint is one segment. -/
theorem fingerprint_piece (fingerprint : Text)
    (digest : isSha256Text fingerprint) (width : Nat) (some_ : 0 < width)
    (short : width ≤ 64) :
    payloadPattern.fullmatch (fingerprint.take width) ∧
      (fingerprint.take width).length = width ∧
        (fingerprint.take width).all isHexLower := by
  simp only [isSha256Text, Bool.and_eq_true, beq_iff_eq] at digest
  have size : (fingerprint.take width).length = width := by
    rw [List.length_take, digest.1]
    omega
  have hex : (fingerprint.take width).all isHexLower := by
    rw [List.all_eq_true] at digest ⊢
    exact fun c member => digest.2 c (List.mem_of_mem_take member)
  refine ⟨?_, size, hex⟩
  apply payloadPattern_plain.fullmatch_segment
    (List.ne_nil_of_length_pos (by omega))
  rw [List.all_eq_true] at hex ⊢
  exact fun c member => isLowerOrDigit_of_isHexLower (hex c member)

/-! ## Joined names -/

theorem hyphenJoined_singleton {part : Text} (some_ : part ≠ []) :
    hyphenJoined [part] = part := by
  simp [hyphenJoined, some_]

theorem hyphenJoined_cons_cons {part next : Text} (rest : List Text)
    (some_ : part ≠ []) (more : next ≠ []) :
    hyphenJoined (part :: next :: rest) =
      part ++ point '-' :: hyphenJoined (next :: rest) := by
  simp [hyphenJoined, some_, more, List.intercalate_cons_cons]

/-- The first digits of the digest of a name. -/
def nameStamp (width : Nat) (name : Text) : Text :=
  (sha256 (name.flatMap utf8Bytes)).hex.take width

theorem nameStamp_length {width : Nat} (short : width ≤ 64) (name : Text) :
    (nameStamp width name).length = width := by
  rw [nameStamp, List.length_take, Digest.hex_length]
  omega

theorem nameStamp_hex (width : Nat) (name : Text) :
    (nameStamp width name).all isHexLower := by
  have hex := (sha256 (name.flatMap utf8Bytes)).hex_all_isHexLower
  rw [List.all_eq_true] at hex ⊢
  exact fun c member => hex c (List.mem_of_mem_take member)

/-- How `_slug` shortens a joined name. -/
def slugRule : Shortening CodePoint where
  limit := idPayloadMaximum
  width := 16
  separator := point '-'
  stamp := nameStamp 16
  sized := nameStamp_length (by decide)

theorem slugRule_stamp (name : Text) :
    slugRule.stamp name = nameStamp 16 name := by
  rw [slugRule]

/-- When two shortened names are the same. -/
theorem slug_shorten_eq_iff {name other : Text}
    (distinct : 64 < name.length → 64 < other.length →
      nameStamp 16 name = nameStamp 16 other → name = other) :
    slugRule.shorten name = slugRule.shorten other ↔
      name = other ∨ slugRule.Spells name other ∨
        slugRule.Spells other name := by
  refine Shortening.shorten_eq_iff ?_
  rw [slugRule_stamp, slugRule_stamp]
  exact distinct

theorem shorten_within {name : Text} (within : name.length ≤ 64) :
    slugRule.shorten name = name :=
  if_pos within

theorem shorten_over {name : Text} (beyond : 64 < name.length) :
    slugRule.shorten name = slugRule.stamped name :=
  if_neg (Nat.not_le.mpr beyond)

theorem slug_ascii {parts : List Text}
    (ascii : (hyphenJoined parts).all isAscii) :
    slug parts = .ok (slugRule.shorten (hyphenJoined parts)) := by
  simp only [slug, Shortening.shorten,
    encodeUtf8_ok (isUnicode_of_ascii ascii)]
  by_cases short : (hyphenJoined parts).length ≤ idPayloadMaximum
  · have within : (hyphenJoined parts).length ≤ slugRule.limit := short
    rw [if_pos short, if_pos within]
    rfl
  · have beyond : ¬(hyphenJoined parts).length ≤ slugRule.limit := short
    rw [if_neg short, if_neg beyond, Shortening.stamped, slugRule_stamp]
    rfl

/-- What is kept of a name that starts like the payload of an identifier. -/
theorem kept_form {name front : Text} (matched : payloadPattern.fullmatch front)
    (starts : front <+: name) (long : 47 ≤ front.length) :
    payloadPattern.fullmatch (slugRule.kept name) ∧
      46 ≤ (slugRule.kept name).length ∧
        (slugRule.kept name).length ≤ 47 := by
  obtain ⟨rest, rfl⟩ := starts
  have cut : (front ++ rest).take 47 = front.take 47 :=
    List.take_append_of_le_length long
  have size : (front.take 47).length = 47 := by
    rw [List.length_take]
    omega
  have form : slugRule.kept (front ++ rest) =
      (front.take 47).rdropWhile (· == point '-') := by
    show ((front ++ rest).take 47).rdropWhile _ = _
    rw [cut]
    rfl
  have ends : ∀ t : Text, payloadPattern.fullmatch t →
      t.rdropWhile (· == point '-') = t := by
    intro t whole
    apply List.rdropWhile_eq_self_iff.mpr
    intro some_ hyphen
    rw [← List.dropLast_concat_getLast some_] at whole
    have last : (t.getLast some_ == point '-') = false :=
      payloadPattern_plain.fullmatch_last whole
    rw [last] at hyphen
    cases hyphen
  rw [form]
  rw [← List.take_append_drop 47 front] at matched
  rcases payloadPattern_plain.fullmatch_start matched
    (List.ne_nil_of_length_pos (by omega)) with
    whole | ⟨shorter, c, parts, hyphen, whole⟩
  · rw [ends _ whole, size]
    exact ⟨whole, by decide, by decide⟩
  · have hyphen' : (c == point '-') = true := hyphen
    rw [parts, List.length_append, List.length_singleton] at size
    rw [parts, List.rdropWhile_concat, if_pos hyphen', ends _ whole]
    exact ⟨whole, by omega, by omega⟩

theorem stamped_form {name front : Text}
    (matched : payloadPattern.fullmatch front) (starts : front <+: name)
    (long : 47 ≤ front.length) :
    payloadPattern.fullmatch (slugRule.stamped name) ∧
      63 ≤ (slugRule.stamped name).length ∧
        (slugRule.stamped name).length ≤ 64 := by
  obtain ⟨kept, atLeast, atMost⟩ := kept_form matched starts long
  have stamp : (slugRule.stamp name).length = 16 := slugRule.sized name
  refine ⟨?_, ?_⟩
  · have separates : payloadPattern.separator slugRule.separator :=
      hyphen_separates
    rw [Shortening.stamped,
      payloadPattern_plain.fullmatch_cut separates, kept,
      payloadPattern_plain.fullmatch_segment
        (List.ne_nil_of_length_pos (by omega))]
    · rfl
    · have hex := nameStamp_hex 16 name
      rw [← slugRule_stamp, List.all_eq_true] at hex
      rw [List.all_eq_true]
      exact fun c member => isLowerOrDigit_of_isHexLower (hex c member)
  · rw [Shortening.stamped, List.length_append, List.length_cons, stamp]
    omega

/-- A shortened name is the payload of an identifier when the name is one. -/
theorem shorten_form {name : Text} (matched : payloadPattern.fullmatch name)
    (long : 3 ≤ name.length) :
    payloadPattern.fullmatch (slugRule.shorten name) ∧
      3 ≤ (slugRule.shorten name).length ∧
        (slugRule.shorten name).length ≤ 64 := by
  rw [Shortening.shorten]
  split
  next short => exact ⟨matched, long, short⟩
  next beyond =>
    have limit : slugRule.limit = 64 := rfl
    obtain ⟨whole, atLeast, atMost⟩ := stamped_form matched
      (List.prefix_refl name) (by omega)
    exact ⟨whole, by omega, atMost⟩

/-- The identity that a joined name gives. -/
theorem create_slug (kind : IdentifierKind) {parts : List Text}
    (matched : payloadPattern.fullmatch (hyphenJoined parts))
    (long : 3 ≤ (hyphenJoined parts).length) :
    ∃ identifier : Identifier kind,
      (slug parts >>= fun name =>
        Identifier.create kind (kind.marker ++ name)) = .ok identifier ∧
      identifier.value =
        kind.marker ++ slugRule.shorten (hyphenJoined parts) := by
  obtain ⟨whole, atLeast, atMost⟩ := shorten_form matched long
  obtain ⟨identifier, built⟩ :=
    Identifier.create_payload kind whole atLeast atMost
  refine ⟨identifier, ?_, Identifier.create_value built⟩
  rw [slug_ascii (payloadPattern_ascii.fullmatch_all matched), ok_bind, built]

/-! ## What is derived -/

/-- The joined name of a conflict. -/
def conflictName (runId : RunId) (canonicalKey : Text) : Text :=
  runSlug runId ++ point '-' :: lowered canonicalKey

/-- The joined name of a verification. -/
def verificationName (runId : RunId)
    (reconciliation observed : StateFingerprint) : Text :=
  runSlug runId ++ point '-' ::
    (reconciliation.value.take 16 ++ point '-' :: observed.value.take 24)

theorem runSlug_ne_nil (runId : RunId) : runSlug runId ≠ [] :=
  SegmentPattern.fullmatch_ne_nil (runSlug_form runId).2.1

theorem lowered_key_ne_nil {key : Text} (valid : validateSku key = .ok ()) :
    lowered key ≠ [] :=
  SegmentPattern.fullmatch_ne_nil (lowered_key valid).1

theorem reconciliation_piece (fingerprint : StateFingerprint) (width : Nat)
    (some_ : 0 < width) (short : width ≤ 64) :
    payloadPattern.fullmatch (fingerprint.value.take width) ∧
      (fingerprint.value.take width).length = width ∧
        (fingerprint.value.take width).all isHexLower :=
  fingerprint_piece fingerprint.value fingerprint.isSha256Text width some_
    short

theorem hyphen_notMem_hex {t : Text} (hex : t.all isHexLower) :
    point '-' ∉ t := by
  intro member
  have digit := List.all_eq_true.mp hex _ member
  revert digit
  decide

theorem deriveConflictId_returns (runId : RunId) {canonicalKey : Text}
    (valid : validateSku canonicalKey = .ok ()) :
    ∃ conflictId, deriveConflictId runId canonicalKey = .ok conflictId ∧
      conflictId.value =
        text "cnf_" ++ slugRule.shorten (conflictName runId canonicalKey) := by
  obtain ⟨_, run, long, _⟩ := runSlug_form runId
  obtain ⟨key, _⟩ := lowered_key valid
  have joined : hyphenJoined [runSlug runId, lowered canonicalKey] =
      conflictName runId canonicalKey := by
    rw [hyphenJoined_cons_cons _ (runSlug_ne_nil runId)
      (lowered_key_ne_nil valid),
      hyphenJoined_singleton (lowered_key_ne_nil valid)]
    rfl
  have marker : text "cnf_" = IdentifierKind.conflict.marker := by decide
  rw [deriveConflictId, marker, ← joined]
  apply create_slug
  · rw [joined, conflictName,
      payloadPattern_plain.fullmatch_cut hyphen_separates, run, key]
    rfl
  · rw [joined, conflictName, List.length_append]
    omega

theorem deriveVerificationId_returns (runId : RunId)
    (reconciliation observed : StateFingerprint) :
    ∃ verificationId,
      deriveVerificationId runId reconciliation observed =
        .ok verificationId ∧
      verificationId.value = text "tgv_" ++ slugRule.shorten
        (verificationName runId reconciliation observed) := by
  obtain ⟨_, run, long, _⟩ := runSlug_form runId
  obtain ⟨snapshot, _, _⟩ :=
    reconciliation_piece reconciliation 16 (by decide) (by decide)
  obtain ⟨state, _, _⟩ :=
    reconciliation_piece observed 24 (by decide) (by decide)
  have joined : hyphenJoined [runSlug runId, reconciliation.value.take 16,
      observed.value.take 24] =
        verificationName runId reconciliation observed := by
    rw [hyphenJoined_cons_cons _ (runSlug_ne_nil runId)
        (SegmentPattern.fullmatch_ne_nil snapshot),
      hyphenJoined_cons_cons _ (SegmentPattern.fullmatch_ne_nil snapshot)
        (SegmentPattern.fullmatch_ne_nil state),
      hyphenJoined_singleton (SegmentPattern.fullmatch_ne_nil state)]
    rfl
  have marker : text "tgv_" = IdentifierKind.targetVerification.marker := by
    decide
  rw [deriveVerificationId, marker, ← joined]
  apply create_slug
  · rw [joined, verificationName,
      payloadPattern_plain.fullmatch_cut hyphen_separates,
      payloadPattern_plain.fullmatch_cut hyphen_separates, run, snapshot,
      state]
    rfl
  · rw [joined, verificationName, List.length_append]
    omega

/-- The text before and after the digest of an idempotency key. -/
def idempotencyName (runId : RunId) (contentFingerprint : StateFingerprint)
    (canonicalKey : Text) : Text :=
  text "repair." ++ runSlug runId ++ [point '.'] ++
    contentFingerprint.value.take 24 ++ [point '.'] ++ canonicalKey

theorem idempotencyName_ascii (runId : RunId)
    (contentFingerprint : StateFingerprint) {canonicalKey : Text}
    (valid : validateSku canonicalKey = .ok ()) :
    (idempotencyName runId contentFingerprint canonicalKey).all isAscii := by
  obtain ⟨_, run, _, _⟩ := runSlug_form runId
  obtain ⟨piece, _, _⟩ :=
    reconciliation_piece contentFingerprint 24 (by decide)
      (by decide)
  obtain ⟨_, matched⟩ := validateSku_eq_ok.mp valid
  have start : (text "repair.").all isAscii ∧ [point '.'].all isAscii := by
    decide
  simp only [idempotencyName, List.all_append, start.1, start.2,
    payloadPattern_ascii.fullmatch_all run,
    payloadPattern_ascii.fullmatch_all piece,
    skuPattern_ascii.fullmatch_all matched, Bool.and_self]

/-- The idempotency key of an effect: its name, or a digest of the name. -/
def idempotencyKey (runId : RunId) (contentFingerprint : StateFingerprint)
    (canonicalKey : Text) : Text :=
  if (idempotencyName runId contentFingerprint canonicalKey).length ≤ 128 then
    idempotencyName runId contentFingerprint canonicalKey
  else
    text "repair." ++ runSlug runId ++ point '.' ::
      nameStamp 32 (idempotencyName runId contentFingerprint canonicalKey)

theorem deriveActionIdempotencyKey_returns (runId : RunId)
    (contentFingerprint : StateFingerprint) {canonicalKey : Text}
    (valid : validateSku canonicalKey = .ok ()) :
    deriveActionIdempotencyKey runId contentFingerprint canonicalKey =
      .ok (idempotencyKey runId contentFingerprint canonicalKey) := by
  have ascii := idempotencyName_ascii runId contentFingerprint valid
  rw [deriveActionIdempotencyKey, idempotencyKey]
  show (if idempotencyKeyMaximum <
      (idempotencyName runId contentFingerprint canonicalKey).length then _
    else _) = _
  rw [show idempotencyKeyMaximum = 128 from rfl]
  by_cases short :
    (idempotencyName runId contentFingerprint canonicalKey).length ≤ 128
  · rw [if_neg (Nat.not_lt.mpr short), if_pos short]
    rfl
  · rw [if_pos (Nat.lt_of_not_le short), if_neg short]
    show (encodeUtf8 (idempotencyName runId contentFingerprint canonicalKey)
      >>= _) = _
    rw [encodeUtf8_ok (isUnicode_of_ascii ascii), ok_bind]
    show Except.ok (text "repair." ++ runSlug runId ++ [point '.'] ++
      nameStamp 32 (idempotencyName runId contentFingerprint canonicalKey)) = _
    rw [List.append_assoc _ [point '.'], List.singleton_append]

theorem point_notMem_run (runId : RunId) : point '.' ∉ runSlug runId := by
  intro member
  have char := payloadPattern_chars (runSlug_form runId).2.1 member
  revert char
  decide

theorem point_notMem_hex {t : Text} (hex : t.all isHexLower) :
    point '.' ∉ t := by
  intro member
  have digit := List.all_eq_true.mp hex _ member
  revert digit
  decide

/-- The run of an idempotency key ends at its second point. -/
theorem idempotency_cut {runId other : RunId} {rest rest' : Text}
    (same : text "repair." ++ runSlug runId ++ point '.' :: rest =
      text "repair." ++ runSlug other ++ point '.' :: rest') :
    runId = other ∧ rest = rest' := by
  rw [List.append_assoc, List.append_assoc] at same
  obtain ⟨run, tail⟩ := cut_first_inj (point_notMem_run runId)
    (point_notMem_run other) (List.append_cancel_left same)
  exact ⟨runSlug_inj run, tail⟩

theorem idempotencyName_form (runId : RunId)
    (contentFingerprint : StateFingerprint) (canonicalKey : Text) :
    idempotencyName runId contentFingerprint canonicalKey =
      text "repair." ++ runSlug runId ++ point '.' ::
        (contentFingerprint.value.take 24 ++ point '.' :: canonicalKey) := by
  simp [idempotencyName]

/-- A whole name has a point where a digest has none. -/
theorem idempotency_not_stamped {runId other : RunId}
    {contentFingerprint : StateFingerprint} {canonicalKey name : Text} :
    idempotencyName runId contentFingerprint canonicalKey ≠
      text "repair." ++ runSlug other ++ point '.' :: nameStamp 32 name := by
  intro same
  rw [idempotencyName_form] at same
  obtain ⟨_, tail⟩ := idempotency_cut same
  apply point_notMem_hex (nameStamp_hex 32 name)
  rw [← tail]
  simp

section Effects

variable {runId other : RunId} {content content' : StateFingerprint}
  {key key' : Text}

theorem idempotencyName_inj
    (same : idempotencyName runId content key =
      idempotencyName other content' key') :
    runId = other ∧ content.value.take 24 = content'.value.take 24 ∧
      key = key' := by
  have hex := fun fingerprint : StateFingerprint =>
    point_notMem_hex (reconciliation_piece fingerprint 24 (by decide)
      (by decide)).2.2
  rw [idempotencyName_form, idempotencyName_form] at same
  obtain ⟨run, tail⟩ := idempotency_cut same
  exact ⟨run, cut_first_inj (hex content) (hex content') tail⟩

/-- Idempotency keys tell effects apart. -/
theorem idempotencyKey_inj
    (distinct : 128 < (idempotencyName runId content key).length →
      128 < (idempotencyName other content' key').length →
      nameStamp 32 (idempotencyName runId content key) =
        nameStamp 32 (idempotencyName other content' key') →
      idempotencyName runId content key =
        idempotencyName other content' key')
    (same : idempotencyKey runId content key =
      idempotencyKey other content' key') :
    runId = other ∧ content.value.take 24 = content'.value.take 24 ∧
      key = key' := by
  rw [idempotencyKey, idempotencyKey] at same
  split at same
  next =>
    split at same
    next => exact idempotencyName_inj same
    next => exact absurd same idempotency_not_stamped
  next long =>
    split at same
    next => exact absurd same.symm idempotency_not_stamped
    next long' =>
      exact idempotencyName_inj (distinct (Nat.lt_of_not_le long)
        (Nat.lt_of_not_le long') (idempotency_cut same).2)

end Effects

/-! ## Plans and actions -/

/-- The versions of a binding, joined by points. -/
def policyText (binding : RepairPlanBinding) : Text :=
  [point '.'].intercalate ([binding.policyVersion, binding.generationVersion,
    binding.rulesVersion, binding.analysisVersion,
    binding.analyticalQueryVersion].map decimalInt)

theorem integerText_eq_ok {value : Int} {written : Text} :
    integerText value = .ok written ↔
      intReprError value = none ∧ written = decimalInt value := by
  rw [integerText]
  cases intReprError value with
  | some error => simp
  | none => simp [eq_comm]

theorem renderPolicy_eq_ok {binding : RepairPlanBinding} {policy : Text} :
    renderPolicy binding = .ok policy ↔
      binding.Printable ∧ policy = policyText binding := by
  simp only [renderPolicy, List.mapM_cons, List.mapM_nil, bind_eq_ok,
    integerText_eq_ok, RepairPlanBinding.Printable, List.forall_mem_cons]
  constructor
  · rintro ⟨_, ⟨_, ⟨first, rfl⟩, _, ⟨_, ⟨second, rfl⟩, _, ⟨_, ⟨third, rfl⟩, _,
      ⟨_, ⟨fourth, rfl⟩, _, ⟨_, ⟨fifth, rfl⟩, _, ⟨⟩, ⟨⟩⟩, ⟨⟩⟩, ⟨⟩⟩, ⟨⟩⟩, ⟨⟩⟩,
      ⟨⟩⟩
    exact ⟨⟨first, second, third, fourth, fifth, nofun⟩, rfl⟩
  · rintro ⟨⟨first, second, third, fourth, fifth, _⟩, rfl⟩
    exact ⟨_, ⟨_, ⟨first, rfl⟩, _, ⟨_, ⟨second, rfl⟩, _, ⟨_, ⟨third, rfl⟩, _,
      ⟨_, ⟨fourth, rfl⟩, _, ⟨_, ⟨fifth, rfl⟩, _, rfl, rfl⟩, rfl⟩, rfl⟩, rfl⟩,
      rfl⟩, rfl⟩

/-- The joined name of a plan that has a binding. -/
def planName (runId : RunId) (reconciliation : StateFingerprint)
    (binding : RepairPlanBinding) : Text :=
  runSlug runId ++ point '-' :: (reconciliation.value.take 24 ++ point '-' ::
    (binding.sourceInputIdentity.take 12 ++ point '-' ::
      (binding.targetInputIdentity.take 12 ++ point '-' ::
        policyText binding)))

theorem RepairPlanBinding.checked (binding : RepairPlanBinding) :
    isSha256Text binding.sourceInputIdentity ∧
      isSha256Text binding.targetInputIdentity ∧
      1 ≤ binding.policyVersion ∧ 1 ≤ binding.generationVersion ∧
      1 ≤ binding.rulesVersion ∧ 1 ≤ binding.analysisVersion ∧
      1 ≤ binding.analyticalQueryVersion := by
  have valid := binding.valid
  simp only [BindingFields.validate, bind_eq_ok, require_eq_ok,
    Bool.and_eq_true, decide_eq_true_eq] at valid
  obtain ⟨_, ⟨source, target⟩, _, ⟨⟨⟨⟨policy, generation⟩, rules⟩, analysis⟩,
    query⟩, _⟩ := valid
  exact ⟨source, target, policy, generation, rules, analysis, query⟩

theorem decimalInt_digits {number : Int} (positive : 1 ≤ number) :
    (decimalInt number).all isDigit ∧ decimalInt number ≠ [] := by
  rw [decimalInt, if_neg (by omega)]
  exact ⟨decimal_all_digit _, decimal_ne_nil _⟩

theorem notMem_digits {t : Text} (digits : t.all isDigit) {c : CodePoint}
    (other : isDigit c = false) : c ∉ t := by
  intro member
  rw [List.all_eq_true.mp digits c member] at other
  cases other

/-- The versions of a binding, written out. -/
theorem policyText_form (binding : RepairPlanBinding) :
    policyText binding =
      decimalInt binding.policyVersion ++ point '.' ::
        (decimalInt binding.generationVersion ++ point '.' ::
          (decimalInt binding.rulesVersion ++ point '.' ::
            (decimalInt binding.analysisVersion ++ point '.' ::
              decimalInt binding.analyticalQueryVersion))) := by
  simp [policyText, List.intercalate_cons_cons]

theorem policyText_chars (binding : RepairPlanBinding) :
    point '-' ∉ policyText binding ∧ (policyText binding).all isAscii ∧
      point '.' ∈ policyText binding := by
  obtain ⟨_, _, policy, generation, rules, analysis, query⟩ :=
    RepairPlanBinding.checked binding
  have ascii : ∀ {number : Int}, 1 ≤ number →
      (decimalInt number).all isAscii := by
    intro number positive
    have digits := (decimalInt_digits positive).1
    rw [List.all_eq_true] at digits ⊢
    exact fun c member => isAscii_of_isDigit (digits c member)
  have free : ∀ {number : Int}, 1 ≤ number →
      point '-' ∉ decimalInt number := fun positive =>
    notMem_digits (decimalInt_digits positive).1 (by decide)
  have dot : isAscii (point '.') ∧ point '-' ≠ point '.' := by decide
  rw [policyText_form]
  refine ⟨?_, ?_, ?_⟩
  · simp only [List.mem_append, List.mem_cons, free policy, free generation,
      free rules, free analysis, free query, dot.2, or_self, not_false_eq_true]
  · simp only [List.all_append, List.all_cons, ascii policy,
      ascii generation, ascii rules, ascii analysis, ascii query, dot.1,
      Bool.and_self]
  · simp

theorem policyText_inj {left right : RepairPlanBinding}
    (same : policyText left = policyText right) :
    left.policyVersion = right.policyVersion ∧
      left.generationVersion = right.generationVersion ∧
      left.rulesVersion = right.rulesVersion ∧
      left.analysisVersion = right.analysisVersion ∧
      left.analyticalQueryVersion = right.analyticalQueryVersion := by
  have free : ∀ {number : Int}, 1 ≤ number →
      point '.' ∉ decimalInt number := fun positive =>
    notMem_digits (decimalInt_digits positive).1 (by decide)
  obtain ⟨_, _, policy, generation, rules, analysis, _⟩ :=
    RepairPlanBinding.checked left
  obtain ⟨_, _, policy', generation', rules', analysis', _⟩ :=
    RepairPlanBinding.checked right
  rw [policyText_form, policyText_form] at same
  obtain ⟨first, same⟩ := cut_first_inj (free policy) (free policy') same
  obtain ⟨second, same⟩ :=
    cut_first_inj (free generation) (free generation') same
  obtain ⟨third, same⟩ := cut_first_inj (free rules) (free rules') same
  obtain ⟨fourth, last⟩ := cut_first_inj (free analysis) (free analysis') same
  exact ⟨decimalInt_injective first, decimalInt_injective second,
    decimalInt_injective third, decimalInt_injective fourth,
    decimalInt_injective last⟩

/-- The part of the name of a plan before its versions. -/
theorem planName_front (runId : RunId) (reconciliation : StateFingerprint)
    (binding : RepairPlanBinding) :
    ∃ front, planName runId reconciliation binding =
        front ++ point '-' :: policyText binding ∧
      payloadPattern.fullmatch front ∧
      front.length = (runSlug runId).length + 51 := by
  obtain ⟨_, run, long, _⟩ := runSlug_form runId
  obtain ⟨source, target, _⟩ := RepairPlanBinding.checked binding
  obtain ⟨first, firstSize, _⟩ :=
    reconciliation_piece reconciliation 24 (by decide) (by decide)
  obtain ⟨second, secondSize, _⟩ :=
    fingerprint_piece _ source 12 (by decide) (by decide)
  obtain ⟨third, thirdSize, _⟩ :=
    fingerprint_piece _ target 12 (by decide) (by decide)
  refine ⟨runSlug runId ++ point '-' ::
    (reconciliation.value.take 24 ++ point '-' ::
      (binding.sourceInputIdentity.take 12 ++ point '-' ::
        binding.targetInputIdentity.take 12)), ?_, ?_, ?_⟩
  · simp [planName]
  · simp only [payloadPattern_plain.fullmatch_cut hyphen_separates, run,
      first, second, third, Bool.and_self]
  · simp only [List.length_append, List.length_cons, firstSize, secondSize,
      thirdSize]

theorem planName_ascii (runId : RunId) (reconciliation : StateFingerprint)
    (binding : RepairPlanBinding) :
    (planName runId reconciliation binding).all isAscii := by
  obtain ⟨front, form, matched, _⟩ :=
    planName_front runId reconciliation binding
  have hyphen : isAscii (point '-') := by decide
  rw [form, List.all_append, List.all_cons,
    payloadPattern_ascii.fullmatch_all matched, hyphen,
    (policyText_chars binding).2.1]
  rfl

/--
The identity of a plan with a binding.  A name within the bound keeps the
points between the versions, which no identifier accepts.
-/
theorem derivePlanId_eq_ok {runId : RunId}
    {reconciliation : StateFingerprint} {binding : RepairPlanBinding}
    {planId : RepairPlanId} :
    derivePlanId runId reconciliation (some binding) = .ok planId ↔
      binding.runId = runId ∧
        binding.reconciliationFingerprint = reconciliation ∧
        binding.Printable ∧
        64 < (planName runId reconciliation binding).length ∧
        planId.value = text "rpl_" ++
          slugRule.stamped (planName runId reconciliation binding) := by
  obtain ⟨front, form, matched, size⟩ :=
    planName_front runId reconciliation binding
  obtain ⟨_, _, long, _⟩ := runSlug_form runId
  have joined : hyphenJoined [runSlug runId, reconciliation.value.take 24,
      binding.sourceInputIdentity.take 12,
      binding.targetInputIdentity.take 12, policyText binding] =
        planName runId reconciliation binding := by
    obtain ⟨source, target, _⟩ := RepairPlanBinding.checked binding
    have first := SegmentPattern.fullmatch_ne_nil (reconciliation_piece
      reconciliation 24 (by decide) (by decide)).1
    have second := SegmentPattern.fullmatch_ne_nil
      (fingerprint_piece _ source 12 (by decide) (by decide)).1
    have third := SegmentPattern.fullmatch_ne_nil
      (fingerprint_piece _ target 12 (by decide) (by decide)).1
    have fourth : policyText binding ≠ [] :=
      List.ne_nil_of_mem (policyText_chars binding).2.2
    rw [hyphenJoined_cons_cons _ (runSlug_ne_nil runId) first,
      hyphenJoined_cons_cons _ first second,
      hyphenJoined_cons_cons _ second third,
      hyphenJoined_cons_cons _ third fourth, hyphenJoined_singleton fourth]
    rfl
  have slugged := slug_ascii (by rw [joined]; exact planName_ascii _ _ _)
  have marker : text "rpl_" = IdentifierKind.repairPlan.marker := by decide
  simp only [derivePlanId, planPieces, bind_eq_ok, require_eq_ok,
    Bool.and_eq_true, beq_iff_eq, renderPolicy_eq_ok]
  constructor
  · rintro ⟨_, ⟨_, ⟨run, snapshot⟩, _, ⟨printable, rfl⟩, ⟨⟩⟩, name, named,
      created⟩
    rw [slugged, joined] at named
    cases named
    have value := Identifier.create_value created
    rw [marker] at value
    have beyond : 64 < (planName runId reconciliation binding).length := by
      by_contra within
      obtain ⟨payload, value', accepted, _⟩ := Identifier.value_form planId
      rw [value, shorten_within (Nat.le_of_not_lt within)] at value'
      have same := List.append_cancel_left value'
      have dot : point '.' ∈ payload := by
        rw [← same, form]
        exact List.mem_append_right _
          (.tail _ (policyText_chars binding).2.2)
      have char := payloadPattern_chars accepted dot
      revert char
      decide
    rw [shorten_over beyond, ← marker] at value
    exact ⟨run, snapshot, printable, beyond, value⟩
  · rintro ⟨run, snapshot, printable, beyond, value⟩
    refine ⟨_, ⟨(), ⟨run, snapshot⟩, _, ⟨printable, rfl⟩, rfl⟩, _, slugged, ?_⟩
    rw [joined, shorten_over beyond, marker, Identifier.create_marker, value,
      marker]

/-- The stamped form of the name of a plan is the payload of its identity. -/
theorem stamped_planName (runId : RunId) (reconciliation : StateFingerprint)
    (binding : RepairPlanBinding) :
    payloadPattern.fullmatch
        (slugRule.stamped (planName runId reconciliation binding)) ∧
      63 ≤ (slugRule.stamped
        (planName runId reconciliation binding)).length ∧
      (slugRule.stamped
        (planName runId reconciliation binding)).length ≤ 64 := by
  obtain ⟨front, form, matched, size⟩ :=
    planName_front runId reconciliation binding
  apply stamped_form matched _ (by omega)
  rw [form]
  exact List.prefix_append _ _

/-- The joined name of an action without a binding. -/
def actionName (runId : RunId) (reconciliation : StateFingerprint)
    (canonicalKey : Text) : Text :=
  runSlug runId ++ point '-' ::
    (reconciliation.value.take 16 ++ point '-' :: lowered canonicalKey)

/-- The joined name of an action with a binding. -/
def boundActionName (runId : RunId) (reconciliation : StateFingerprint)
    (canonicalKey : Text) (binding : RepairPlanBinding) : Text :=
  actionName runId reconciliation canonicalKey ++ point '-' ::
    slugRule.stamped (planName runId reconciliation binding)

theorem actionName_form (runId : RunId) (reconciliation : StateFingerprint)
    {canonicalKey : Text} (valid : validateSku canonicalKey = .ok ()) :
    payloadPattern.fullmatch (actionName runId reconciliation canonicalKey) ∧
      3 ≤ (actionName runId reconciliation canonicalKey).length ∧
      (actionName runId reconciliation canonicalKey).length =
        (runSlug runId).length + 18 + (lowered canonicalKey).length := by
  obtain ⟨_, run, long, _⟩ := runSlug_form runId
  obtain ⟨key, _⟩ := lowered_key valid
  obtain ⟨snapshot, size, _⟩ :=
    reconciliation_piece reconciliation 16 (by decide) (by decide)
  have total : (actionName runId reconciliation canonicalKey).length =
      (runSlug runId).length + 18 + (lowered canonicalKey).length := by
    simp only [actionName, List.length_append, List.length_cons, size]
    omega
  refine ⟨?_, by omega, total⟩
  simp only [actionName, payloadPattern_plain.fullmatch_cut hyphen_separates,
    run, snapshot, key, Bool.and_self]

/-- An action without a binding always has an identity. -/
theorem deriveActionId_returns (runId : RunId)
    (reconciliation : StateFingerprint) {canonicalKey : Text}
    (valid : validateSku canonicalKey = .ok ()) :
    ∃ actionId,
      deriveActionId runId reconciliation canonicalKey none = .ok actionId ∧
      actionId.value = text "rac_" ++ slugRule.shorten
        (actionName runId reconciliation canonicalKey) := by
  obtain ⟨matched, long, _⟩ := actionName_form runId reconciliation valid
  have snapshot := SegmentPattern.fullmatch_ne_nil (reconciliation_piece
    reconciliation 16 (by decide) (by decide)).1
  have key := lowered_key_ne_nil valid
  have joined : hyphenJoined [runSlug runId, reconciliation.value.take 16,
      lowered canonicalKey] =
        actionName runId reconciliation canonicalKey := by
    rw [hyphenJoined_cons_cons _ (runSlug_ne_nil runId) snapshot,
      hyphenJoined_cons_cons _ snapshot key, hyphenJoined_singleton key]
    rfl
  have marker : text "rac_" = IdentifierKind.repairAction.marker := by decide
  simp only [deriveActionId, actionPieces, ok_bind, marker, ← joined]
  exact create_slug _ (joined ▸ matched) (joined ▸ long)

/-- An action with a binding has an identity exactly when its plan has. -/
theorem deriveActionId_bound {runId : RunId}
    {reconciliation : StateFingerprint} {canonicalKey : Text}
    {binding : RepairPlanBinding}
    (valid : validateSku canonicalKey = .ok ()) {actionId : RepairActionId} :
    deriveActionId runId reconciliation canonicalKey (some binding) =
        .ok actionId ↔
      (∃ planId,
        derivePlanId runId reconciliation (some binding) = .ok planId) ∧
      actionId.value = text "rac_" ++ slugRule.stamped
        (boundActionName runId reconciliation canonicalKey binding) := by
  obtain ⟨matched, _, size⟩ := actionName_form runId reconciliation valid
  obtain ⟨plan, atLeast, _⟩ := stamped_planName runId reconciliation binding
  have snapshot := SegmentPattern.fullmatch_ne_nil (reconciliation_piece
    reconciliation 16 (by decide) (by decide)).1
  have key := lowered_key_ne_nil valid
  have bound := SegmentPattern.fullmatch_ne_nil plan
  have joined : hyphenJoined [runSlug runId, reconciliation.value.take 16,
      lowered canonicalKey,
      slugRule.stamped (planName runId reconciliation binding)] =
        boundActionName runId reconciliation canonicalKey binding := by
    rw [hyphenJoined_cons_cons _ (runSlug_ne_nil runId) snapshot,
      hyphenJoined_cons_cons _ snapshot key,
      hyphenJoined_cons_cons _ key bound, hyphenJoined_singleton bound]
    simp [boundActionName, actionName]
  have whole : payloadPattern.fullmatch
      (boundActionName runId reconciliation canonicalKey binding) := by
    rw [boundActionName, payloadPattern_plain.fullmatch_cut hyphen_separates,
      matched, plan]
    rfl
  have beyond : 64 <
      (boundActionName runId reconciliation canonicalKey binding).length := by
    rw [boundActionName, List.length_append, List.length_cons]
    omega
  have marker : text "rac_" = IdentifierKind.repairAction.marker := by decide
  have named : ∀ planId,
      derivePlanId runId reconciliation (some binding) = .ok planId →
        (deriveActionId runId reconciliation canonicalKey (some binding) =
          .ok actionId ↔ actionId.value = text "rac_" ++ slugRule.stamped
            (boundActionName runId reconciliation canonicalKey binding)) := by
    intro planId derived
    obtain ⟨_, _, _, _, value⟩ := derivePlanId_eq_ok.mp derived
    have payload : planId.value.drop 4 =
        slugRule.stamped (planName runId reconciliation binding) := by
      rw [value]
      rfl
    have slugged := slug_ascii
      (by rw [joined]; exact payloadPattern_ascii.fullmatch_all whole)
    simp only [deriveActionId, actionPieces, derived, ok_bind, pure_bind,
      payload, slugged, joined, marker, Identifier.create_marker,
      shorten_over beyond]
  constructor
  · intro returned
    cases derived : derivePlanId runId reconciliation (some binding) with
    | error error =>
        simp only [deriveActionId, actionPieces, derived] at returned
        cases returned
    | ok planId => exact ⟨⟨planId, rfl⟩, (named planId derived).mp returned⟩
  · rintro ⟨⟨planId, derived⟩, value⟩
    exact (named planId derived).mpr value

end ParityGrid.Application
