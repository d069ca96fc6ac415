import ParityGrid.Adapters.Runners.SubordinateCodec
import ParityGrid.Foundation.JsonPairs

/-!
# What the subordinate codec restores

A validated payload always dumps, and is shallow enough to be read again.  It
comes back unchanged unless one of its texts holds a pair of surrogates, which
JSON reads as one character.
-/

namespace ParityGrid.Adapters.Runners

open ParityGrid.Foundation

/-! ## Operations -/

theorem requireOperation_eq_ok {operationId : Text}
    {operation : SubordinateOperation} :
    requireOperation operationId = .ok operation ↔
      operationId = operation.id := by
  rw [← SubordinateOperation.parse_eq_some]
  constructor
  · intro accepted
    simp only [requireOperation, check_bind_eq_ok] at accepted
    obtain ⟨_, _, accepted⟩ := accepted
    split at accepted
    · cases accepted
    · rename_i found same
      cases accepted
      exact same
  · intro found
    rw [SubordinateOperation.parse_eq_some.mp found]
    cases operation <;> decide

/-- Only codec errors are raised. -/
abbrev RaisesCodecErrors {α : Type} (x : Except SubordinateFailure α) : Prop :=
  RaisesOnly (fun failure => failure.isCodecError = true) x

theorem requireOperation_raises (operationId : Text) :
    RaisesCodecErrors (requireOperation operationId) := by
  refine .bind (.require rfl) fun _ _ => .bind (.require rfl) fun _ _ => ?_
  cases SubordinateOperation.parse operationId with
  | none => exact .error rfl
  | some operation => exact .ok operation

theorem validateOperation_raises (value : Option JsonValue) :
    RaisesCodecErrors (validateOperation value) := by
  unfold validateOperation
  split
  · exact requireOperation_raises _
  · exact .error rfl

theorem requireMapping_eq_ok {value : Option JsonValue} {subject : String}
    {payload : JsonValue} :
    requireMapping value subject = .ok payload ↔
      value = some payload ∧ ∃ fields, payload = .object fields := by
  unfold requireMapping
  split
  · constructor
    · rintro ⟨⟩
      exact ⟨rfl, _, rfl⟩
    · rintro ⟨same, _⟩
      cases same
      rfl
  · rename_i apart
    refine ⟨fun accepted => (nomatch accepted), ?_⟩
    rintro ⟨rfl, fields, rfl⟩
    exact (apart fields rfl).elim

theorem requireMapping_raises (value : Option JsonValue) (subject : String) :
    RaisesCodecErrors (requireMapping value subject) := by
  unfold requireMapping
  split
  · exact .ok _
  · exact .error rfl

theorem requireVersion_eq_ok {operation : SubordinateOperation}
    {value : Option JsonValue} {version : Int} :
    requireVersion operation value = .ok version ↔
      value = some (.int version) ∧ version = operation.version := by
  unfold requireVersion
  split
  · rename_i found
    simp only [check_bind_eq_ok, require_eq_ok, beq_iff_eq, pure, Except.pure,
      Except.ok.injEq]
    constructor
    · rintro ⟨same, rfl⟩
      exact ⟨rfl, same⟩
    · rintro ⟨same, registered⟩
      cases same
      exact ⟨registered, rfl⟩
  · rename_i apart
    constructor
    · intro accepted
      cases accepted
    · rintro ⟨rfl, _⟩
      exact (apart version rfl).elim

theorem requireVersion_raises (operation : SubordinateOperation)
    (value : Option JsonValue) :
    RaisesCodecErrors (requireVersion operation value) := by
  unfold requireVersion
  split
  · exact .bind (.require rfl) fun _ _ => .ok _
  · exact .error rfl

/-! ## The texts of an envelope -/

/-- The keys of an envelope are in order, each given once. -/
theorem envelopeKeys :
    ([text "codec_version", text "operation", text "operation_version",
      text "payload"] : List Text).Pairwise (· < ·) ∧
    ([text "codec_version", text "operation",
      text "result"] : List Text).Pairwise (· < ·) := by
  decide

/-- Neither a key of an envelope nor an operation holds a surrogate pair. -/
theorem envelopeTexts_paired :
    (∀ key ∈ [text "codec_version", text "operation",
      text "operation_version", text "payload", text "result"],
      paired key) ∧
    ∀ operation, paired (SubordinateOperation.id operation) := by
  refine ⟨by decide, fun operation => ?_⟩
  cases operation <;> decide

/-- The versions of an envelope are printed. -/
theorem envelopeVersions (operation : SubordinateOperation) :
    intReprError subordinateCodecVersion = none ∧
      intReprError operation.version = none := by
  refine ⟨intReprError_ordinary (by decide), intReprError_ordinary ?_⟩
  cases operation <;> decide

section Values

variable [JsonRuntime] {depth : Nat} {subject : String}

/-! ## Validated payloads -/

theorem validateItems_eq_ok {items : List JsonValue} :
    validateItems depth subject items = .ok () ↔
      ∀ item ∈ items, validateValue depth subject item = .ok () := by
  induction items with
  | nil => simp [validateItems]
  | cons item rest ih =>
      rw [validateItems, check_bind_eq_ok, ih, List.forall_mem_cons]

theorem validateFields_eq_ok {fields : List (Text × JsonValue)} :
    validateFields depth subject fields = .ok () ↔
      ∀ entry ∈ fields, validateText entry.1 depth subject = .ok () ∧
        validateValue depth subject entry.2 = .ok () := by
  induction fields with
  | nil => simp [validateFields]
  | cons entry rest ih =>
      rw [validateFields, check_bind_eq_ok, check_bind_eq_ok, ih,
        List.forall_mem_cons, and_assoc]

theorem validateValue_array {items : List JsonValue} :
    validateValue depth subject (.array items) = .ok () ↔
      depth ≤ maxPayloadDepth ∧ items.length ≤ maxListItems ∧
        ∀ item ∈ items, validateValue (depth + 1) subject item = .ok () := by
  simp only [validateValue, check_bind_eq_ok, require_eq_ok,
    decide_eq_true_eq, validateItems_eq_ok]

theorem validateValue_object {fields : List (Text × JsonValue)} :
    validateValue depth subject (.object fields) = .ok () ↔
      depth ≤ maxPayloadDepth ∧ fields.length ≤ maxMapEntries ∧
        ∀ entry ∈ fields, validateText entry.1 (depth + 1) subject = .ok () ∧
          validateValue (depth + 1) subject entry.2 = .ok () := by
  simp only [validateValue, check_bind_eq_ok, require_eq_ok,
    decide_eq_true_eq, validateFields_eq_ok]

theorem validateValue_int {number : Int} :
    validateValue depth subject (.int number) = .ok () ↔
      depth ≤ maxPayloadDepth ∧
        -9007199254740992 ≤ number ∧ number ≤ 9007199254740992 := by
  simp only [validateValue, check_bind_eq_ok, require_eq_ok,
    decide_eq_true_eq, Bool.and_eq_true]

theorem validateValue_float {value : FloatText} :
    validateValue depth subject (.float value) ≠ .ok () := by
  simp [validateValue, check_bind_eq_ok]

mutual

/-- A validated value stays valid when its keys are sorted. -/
theorem validateValue_sortKeys : (value : JsonValue) → {depth : Nat} →
    validateValue depth subject value = .ok () →
    validateValue depth subject value.sortKeys = .ok ()
  | .scalar _, _, valid => valid
  | .string _, _, valid => valid
  | .array items, depth, valid => by
      obtain ⟨shallow, few, each⟩ := validateValue_array.mp valid
      rw [JsonValue.sortKeys, validateValue_array, JsonValue.sortItems_eq_map,
        List.length_map]
      refine ⟨shallow, few, List.forall_mem_map.mpr ?_⟩
      exact validateItems_sortKeys items each
  | .object fields, depth, valid => by
      obtain ⟨shallow, few, each⟩ := validateValue_object.mp valid
      rw [JsonValue.sortKeys, validateValue_object]
      simp only [List.mem_insertionSort, List.length_insertionSort]
      refine ⟨shallow, ?_, ?_⟩
      · have keys := congrArg List.length (JsonValue.sortFields_keys fields)
        rw [List.length_map, List.length_map] at keys
        rwa [keys]
      · rw [JsonValue.forall_mem_sortFields (P := fun key value =>
          validateText key (depth + 1) subject = .ok () ∧
            validateValue (depth + 1) subject value = .ok ())]
        exact validateFields_sortKeys fields each

theorem validateItems_sortKeys : (items : List JsonValue) → {depth : Nat} →
    (∀ item ∈ items, validateValue depth subject item = .ok ()) →
    ∀ item ∈ items, validateValue depth subject item.sortKeys = .ok ()
  | [], _, _ => by simp
  | item :: rest, _, each => by
      rw [List.forall_mem_cons] at each ⊢
      exact ⟨validateValue_sortKeys item each.1,
        validateItems_sortKeys rest each.2⟩

theorem validateFields_sortKeys : (fields : List (Text × JsonValue)) →
    {depth : Nat} →
    (∀ entry ∈ fields, validateText entry.1 depth subject = .ok () ∧
      validateValue depth subject entry.2 = .ok ()) →
    ∀ entry ∈ fields, validateText entry.1 depth subject = .ok () ∧
      validateValue depth subject entry.2.sortKeys = .ok ()
  | [], _, _ => by simp
  | (_, value) :: rest, _, each => by
      rw [List.forall_mem_cons] at each ⊢
      exact ⟨⟨each.1.1, validateValue_sortKeys value each.1.2⟩,
        validateFields_sortKeys rest each.2⟩

end

mutual

/-- A validated value nests no deeper than the bound. -/
theorem validateValue_fits : (value : JsonValue) → {depth : Nat} →
    validateValue depth subject value = .ok () →
    value.fits (maxPayloadDepth + 1 - depth)
  | .scalar .null, _, _ => by simp only [JsonValue.fits]
  | .scalar (.bool _), _, _ => by simp only [JsonValue.fits]
  | .scalar (.int number), _, valid => by
      obtain ⟨_, lower, upper⟩ := validateValue_int.mp valid
      have ordinary : intReprError number = none :=
        intReprError_ordinary (by omega)
      simp only [JsonValue.fits, ordinary, Option.isNone_none]
  | .scalar (.float _), _, valid => absurd valid validateValue_float
  | .string _, _, _ => by simp only [JsonValue.fits]
  | .array items, depth, valid => by
      obtain ⟨shallow, _, each⟩ := validateValue_array.mp valid
      have room : maxPayloadDepth + 1 - depth =
          (maxPayloadDepth + 1 - (depth + 1)) + 1 := by
        omega
      rw [room, JsonValue.fits]
      exact validateItems_fits items each
  | .object fields, depth, valid => by
      obtain ⟨shallow, _, each⟩ := validateValue_object.mp valid
      have room : maxPayloadDepth + 1 - depth =
          (maxPayloadDepth + 1 - (depth + 1)) + 1 := by
        omega
      rw [room, JsonValue.fits]
      exact validateFields_fits fields fun entry member =>
        (each entry member).2

theorem validateItems_fits : (items : List JsonValue) → {depth : Nat} →
    (∀ item ∈ items, validateValue depth subject item = .ok ()) →
    JsonValue.fitsItems (maxPayloadDepth + 1 - depth) items
  | [], _, _ => by simp only [JsonValue.fitsItems]
  | item :: rest, _, each => by
      rw [List.forall_mem_cons] at each
      rw [JsonValue.fitsItems, Bool.and_eq_true]
      exact ⟨validateValue_fits item each.1, validateItems_fits rest each.2⟩

theorem validateFields_fits : (fields : List (Text × JsonValue)) →
    {depth : Nat} →
    (∀ entry ∈ fields, validateValue depth subject entry.2 = .ok ()) →
    JsonValue.fitsFields (maxPayloadDepth + 1 - depth) fields
  | [], _, _ => by simp only [JsonValue.fitsFields]
  | (_, value) :: rest, _, each => by
      rw [List.forall_mem_cons] at each
      rw [JsonValue.fitsFields, Bool.and_eq_true]
      exact ⟨validateValue_fits value each.1, validateFields_fits rest each.2⟩

end

theorem validateText_raises (t : Text) :
    RaisesCodecErrors (validateText t depth subject) :=
  .bind (.require rfl) fun _ _ => .bind (.require rfl) fun _ _ =>
    .bind (.require rfl) fun _ _ => .require rfl

mutual

theorem validateValue_raises : (value : JsonValue) → (depth : Nat) →
    RaisesCodecErrors (validateValue depth subject value)
  | .scalar .null, _ => .bind (.require rfl) fun _ _ => .ok ()
  | .scalar (.bool _), _ => .bind (.require rfl) fun _ _ => .ok ()
  | .scalar (.int _), _ => .bind (.require rfl) fun _ _ => .require rfl
  | .scalar (.float _), _ => .bind (.require rfl) fun _ _ => .error rfl
  | .string t, _ => validateText_raises t
  | .array items, depth =>
      .bind (.require rfl) fun _ _ => .bind (.require rfl) fun _ _ =>
        validateItems_raises items (depth + 1)
  | .object fields, depth =>
      .bind (.require rfl) fun _ _ => .bind (.require rfl) fun _ _ =>
        validateFields_raises fields (depth + 1)

theorem validateItems_raises : (items : List JsonValue) → (depth : Nat) →
    RaisesCodecErrors (validateItems depth subject items)
  | [], _ => .ok ()
  | item :: rest, depth =>
      .bind (validateValue_raises item depth) fun _ _ =>
        validateItems_raises rest depth

theorem validateFields_raises : (fields : List (Text × JsonValue)) →
    (depth : Nat) → RaisesCodecErrors (validateFields depth subject fields)
  | [], _ => .ok ()
  | (key, value) :: rest, depth =>
      .bind (validateText_raises key) fun _ _ =>
        .bind (validateValue_raises value depth) fun _ _ =>
          validateFields_raises rest depth

end

/-! ## Envelopes -/

/-- The nesting of an envelope around a validated payload. -/
def envelopeDepth : Nat := maxPayloadDepth + 2

theorem encodeDocument_eq_ok {document : JsonValue} {data : Bytes}
    (fits : document.fits envelopeDepth) :
    encodeDocument document subject = .ok data ↔
      encodeAscii document.sortKeys.render = data ∧
        data.length ≤ maxPayloadBytes := by
  rw [encodeDocument, jsonDumps_of_fits fits (by decide)]
  simp only [check_bind_eq_ok, require_eq_ok, decide_eq_true_eq, pure,
    Except.pure, Except.ok.injEq]
  constructor
  · rintro ⟨short, rfl⟩
    exact ⟨rfl, short⟩
  · rintro ⟨rfl, short⟩
    exact ⟨short, rfl⟩

theorem encodeDocument_raises {document : JsonValue}
    (fits : document.fits envelopeDepth) :
    RaisesCodecErrors (encodeDocument document subject) := by
  rw [encodeDocument, jsonDumps_of_fits fits (by decide)]
  exact .bind (.require rfl) fun _ _ => .ok _

/-- The bytes of a document that JSON gives back are loaded as its fields. -/
theorem loadDocument_encoded {document : JsonValue} {data : Bytes}
    {fields : List (Text × JsonValue)}
    (encoded : encodeAscii document.sortKeys.render = data)
    (short : data.length ≤ maxPayloadBytes)
    (fits : document.fits envelopeDepth) (read : document.WellRead)
    (sorts : document.sortKeys = .object fields) :
    loadDocument data subject = .ok fields := by
  have room : envelopeDepth ≤ jsonReadingLimit :=
    le_trans (by decide) JsonRuntime.jsonReadingLimit_large
  have nests : document.sortKeys.nests envelopeDepth :=
    (document.nests_sortKeys envelopeDepth).trans (document.nests_of_fits fits)
  have loads := jsonLoads_render (document.wellRead_sortKeys read) nests room
  have decoded := decodeAscii_eq_some.mpr
    ⟨document.sortKeys.render_ascii, encoded⟩
  rw [loadDocument, check_bind_eq_ok, require_eq_ok, decide_eq_true_eq]
  refine ⟨short, ?_⟩
  rw [decoded]
  dsimp only
  rw [loads, sorts]

/-- The bytes hold a document that is nested too deep for `json.loads`. -/
def TooDeep (data : Bytes) : Prop :=
  data.length ≤ maxPayloadBytes ∧
    ∃ t, decodeAscii data = some t ∧ jsonLoads t = .error .nesting

/-- Loading raises codec errors only, unless the document is too deep. -/
theorem loadDocument_raises (data : Bytes) :
    (TooDeep data ∧
      loadDocument data subject = .error .recursionError) ∨
    (¬TooDeep data ∧ RaisesCodecErrors (loadDocument data subject)) := by
  rw [loadDocument]
  by_cases short : data.length ≤ maxPayloadBytes
  · rw [decide_eq_true short, require_true, ok_bind]
    cases decoded : decodeAscii data with
    | none =>
        refine .inr ⟨?_, .error rfl⟩
        rintro ⟨_, t, found, _⟩
        rw [decoded] at found
        cases found
    | some t =>
        dsimp only
        cases loads : jsonLoads t with
        | error failure =>
            cases failure with
            | nesting => exact .inl ⟨⟨short, t, decoded, loads⟩, rfl⟩
            | _ =>
                refine .inr ⟨?_, .error rfl⟩
                rintro ⟨_, other, found, deep⟩
                rw [decoded] at found
                cases found
                rw [loads] at deep
                cases deep
        | ok document =>
            right
            constructor
            · rintro ⟨_, other, found, deep⟩
              rw [decoded] at found
              cases found
              rw [loads] at deep
              cases deep
            · cases document with
              | object fields => exact .ok _
              | _ => exact .error rfl
  · rw [decide_eq_false short, require_false, error_bind]
    exact .inr ⟨fun deep => short deep.1, .error rfl⟩

/-- What is loaded is a document that JSON gives. -/
theorem loadDocument_wellRead {data : Bytes}
    {document : List (Text × JsonValue)}
    (loaded : loadDocument data subject = .ok document) :
    (JsonValue.object document).WellRead := by
  rw [loadDocument, check_bind_eq_ok] at loaded
  obtain ⟨_, loaded⟩ := loaded
  split at loaded
  · cases loaded
  · rename_i t decoded
    have ascii := (decodeAscii_eq_some.mp decoded).1
    split at loaded
    · cases loaded
    · cases loaded
    · rename_i fields loads
      cases loaded
      exact jsonLoads_wellRead (isUnicode_of_ascii ascii) loads
    · cases loaded

/-! ## Requests -/

variable {operation : SubordinateOperation} {payload : JsonValue}

theorem requestDocument_fits
    (valid : validateValue 0 subject payload = .ok ()) :
    (requestDocument operation operation.version payload).fits
      envelopeDepth := by
  have inside : payload.fits (maxPayloadDepth + 1) :=
    validateValue_fits payload valid
  show (JsonValue.object _).fits (maxPayloadDepth + 1 + 1) = true
  simp only [JsonValue.fits, JsonValue.fitsFields,
    envelopeVersions operation, Option.isNone_none, inside, Bool.and_self]

omit [JsonRuntime] in
theorem requestDocument_sortKeys (version : Int) :
    (requestDocument operation version payload).sortKeys =
      .object [(text "codec_version", .int subordinateCodecVersion),
        (text "operation", .string operation.id),
        (text "operation_version", .int version),
        (text "payload", payload.sortKeys)] := by
  have keys := envelopeKeys.1.imp le_of_lt
  exact JsonValue.sortKeys_ordered (List.pairwise_map.mp keys)

theorem requestDocument_wellRead
    (valid : validateValue 0 subject payload = .ok ())
    (pairs : payload.allPaired) (distinct : payload.keysDistinct) :
    (requestDocument operation operation.version payload).WellRead := by
  refine JsonValue.wellRead_of_fits _ (requestDocument_fits valid) ?_ ?_
  · obtain ⟨keys, operations⟩ := envelopeTexts_paired
    simp only [List.forall_mem_cons] at keys
    simp only [requestDocument, JsonValue.allPaired,
      JsonValue.allPairedFields, operations, keys, pairs, Bool.and_self]
  · rw [requestDocument, JsonValue.keysDistinct, Bool.and_eq_true,
      decide_eq_true_eq]
    refine ⟨envelopeKeys.1.imp ne_of_lt, ?_⟩
    simp only [JsonValue.keysDistinctFields, JsonValue.keysDistinct, distinct,
      Bool.and_self]

/-- What `encode_request` accepts, and the bytes it gives. -/
theorem encodeRequest_eq_ok {operationId : Text} {version : Int}
    {data : Bytes} :
    encodeRequest operationId version payload = .ok data ↔
      ∃ operation, operationId = SubordinateOperation.id operation ∧
        version = operation.version ∧ (∃ fields, payload = .object fields) ∧
        validateValue 0 "payload" payload = .ok () ∧
        encodeAscii (requestDocument operation version
          payload).sortKeys.render = data ∧
        data.length ≤ maxPayloadBytes := by
  simp only [encodeRequest, bind_eq_ok, requireOperation_eq_ok,
    requireMapping_eq_ok, require_eq_ok, Option.some.injEq, beq_iff_eq]
  constructor
  · rintro ⟨operation, rfl, _, _, _, rfl, _, ⟨rfl, mapping⟩, _, valid,
      encoded⟩
    rw [encodeDocument_eq_ok (requestDocument_fits valid)] at encoded
    exact ⟨operation, rfl, rfl, mapping, valid, encoded⟩
  · rintro ⟨operation, rfl, rfl, mapping, valid, encoded⟩
    have range : (decide (1 ≤ operation.version) &&
        decide (operation.version ≤ 2147483647)) = true := by
      cases operation <;> rfl
    exact ⟨operation, rfl, (), range, (), rfl, _, ⟨rfl, mapping⟩, (), valid,
      (encodeDocument_eq_ok (requestDocument_fits valid)).mpr encoded⟩

theorem encodeRequest_raises (operationId : Text) (version : Int) :
    RaisesCodecErrors (encodeRequest operationId version payload) := by
  refine .bind (requireOperation_raises _) fun operation _ =>
    .bind (.require rfl) fun _ _ => .bind (.require rfl) fun _ same =>
    .bind (requireMapping_raises _ _) fun _ _ =>
    .bind (validateValue_raises _ _) fun _ valid => ?_
  rw [require_eq_ok, beq_iff_eq] at same
  rw [same]
  exact encodeDocument_raises (requestDocument_fits valid)

/-- Decoding checks that encoding gives the bytes back. -/
theorem decodeRequest_encodes {operationId : Text} {version : Int}
    {data : Bytes}
    (decoded : decodeRequest data = .ok (operationId, version, payload)) :
    encodeRequest operationId version payload = .ok data := by
  simp only [decodeRequest, bind_eq_ok, require_eq_ok, beq_iff_eq, pure,
    Except.pure, Except.ok.injEq, Prod.mk.injEq] at decoded
  obtain ⟨_, _, _, _, _, _, _, _, _, _, _, _, canonical, encoded, _, rfl, rfl,
    rfl, rfl⟩ := decoded
  exact encoded

theorem decodeRequest_allPaired {operationId : Text} {version : Int}
    {data : Bytes}
    (decoded : decodeRequest data = .ok (operationId, version, payload)) :
    payload.allPaired := by
  simp only [decodeRequest, bind_eq_ok, requireMapping_eq_ok, pure,
    Except.pure, Except.ok.injEq, Prod.mk.injEq] at decoded
  obtain ⟨document, loaded, _, _, _, _, _, _, _, ⟨found, _⟩, _, _, _, _, _, _,
    _, _, rfl⟩ := decoded
  have read := (loadDocument_wellRead loaded).2
  exact JsonValue.WellRead.allPaired _
    (JsonValue.wellReadFields_iff.mp read _ (mem_of_lookup found)).2

omit [JsonRuntime] in
theorem sortKeys_mapping (mapping : ∃ fields, payload = .object fields) :
    ∃ fields, payload.sortKeys = .object fields := by
  obtain ⟨fields, rfl⟩ := mapping
  exact ⟨_, rfl⟩

/-- An accepted request is restored exactly when no text holds a pair. -/
theorem decodeRequest_encoded {operationId : Text} {version : Int}
    {data : Bytes} (distinct : payload.keysDistinct)
    (encoded : encodeRequest operationId version payload = .ok data) :
    decodeRequest data = .ok (operationId, version, payload.sortKeys) ↔
      payload.allPaired := by
  constructor
  · intro decoded
    rw [← payload.allPaired_sortKeys]
    exact decodeRequest_allPaired decoded
  · intro pairs
    obtain ⟨operation, rfl, rfl, mapping, valid, bytes, short⟩ :=
      encodeRequest_eq_ok.mp encoded
    have loaded : loadDocument data "request" = _ :=
      loadDocument_encoded bytes short (requestDocument_fits valid)
        (requestDocument_wellRead valid pairs distinct)
        (requestDocument_sortKeys _)
    have sorts := validateValue_sortKeys payload valid
    have mapping_ := sortKeys_mapping mapping
    have again : encodeRequest operation.id operation.version
        payload.sortKeys = .ok data := by
      refine encodeRequest_eq_ok.mpr
        ⟨operation, rfl, rfl, mapping_, sorts, ?_, short⟩
      rw [requestDocument_sortKeys, JsonValue.sortKeys_sortKeys,
        ← requestDocument_sortKeys]
      exact bytes
    simp only [decodeRequest, bind_eq_ok, requireMapping_eq_ok,
      requireVersion_eq_ok, require_eq_ok, beq_iff_eq]
    exact ⟨_, loaded, (), rfl, operation, requireOperation_eq_ok.mpr rfl, _,
      ⟨by simp [List.lookup_cons], rfl⟩, _,
      ⟨by simp [List.lookup_cons], mapping_⟩, (), sorts, _, again, (), rfl,
      rfl⟩

/-- A decoder raises codec errors only, unless the document is too deep. -/
theorem decodeRequest_raises (data : Bytes) :
    RaisesCodecErrors (decodeRequest data) ↔ ¬TooDeep data := by
  rcases @loadDocument_raises _ "request" data with
    ⟨deep, raised⟩ | ⟨shallow, raises⟩
  · refine ⟨fun only => ?_, fun shallow => absurd deep shallow⟩
    have escapes : decodeRequest data = .error .recursionError := by
      rw [decodeRequest, raised]
      rfl
    exact absurd (only _ escapes) (by decide)
  · refine ⟨fun _ => shallow, fun _ => ?_⟩
    exact .bind raises fun _ _ => .bind (.require rfl) fun _ _ =>
      .bind (validateOperation_raises _) fun _ _ =>
      .bind (requireVersion_raises _ _) fun _ _ =>
      .bind (requireMapping_raises _ _) fun _ _ =>
      .bind (validateValue_raises _ _) fun _ _ =>
      .bind (encodeRequest_raises _ _) fun _ _ =>
      .bind (.require rfl) fun _ _ => .ok _

/-! ## Responses -/

theorem responseDocument_fits
    (valid : validateValue 0 subject payload = .ok ()) :
    (responseDocument operation payload).fits envelopeDepth := by
  have inside : payload.fits (maxPayloadDepth + 1) :=
    validateValue_fits payload valid
  show (JsonValue.object _).fits (maxPayloadDepth + 1 + 1) = true
  simp only [JsonValue.fits, JsonValue.fitsFields,
    envelopeVersions operation, Option.isNone_none, inside, Bool.and_self]

omit [JsonRuntime] in
theorem responseDocument_sortKeys :
    (responseDocument operation payload).sortKeys =
      .object [(text "codec_version", .int subordinateCodecVersion),
        (text "operation", .string operation.id),
        (text "result", payload.sortKeys)] := by
  have keys := envelopeKeys.2.imp le_of_lt
  exact JsonValue.sortKeys_ordered (List.pairwise_map.mp keys)

theorem responseDocument_wellRead
    (valid : validateValue 0 subject payload = .ok ())
    (pairs : payload.allPaired) (distinct : payload.keysDistinct) :
    (responseDocument operation payload).WellRead := by
  refine JsonValue.wellRead_of_fits _ (responseDocument_fits valid) ?_ ?_
  · obtain ⟨keys, operations⟩ := envelopeTexts_paired
    simp only [List.forall_mem_cons] at keys
    simp only [responseDocument, JsonValue.allPaired,
      JsonValue.allPairedFields, operations, keys, pairs, Bool.and_self]
  · rw [responseDocument, JsonValue.keysDistinct, Bool.and_eq_true,
      decide_eq_true_eq]
    refine ⟨envelopeKeys.2.imp ne_of_lt, ?_⟩
    simp only [JsonValue.keysDistinctFields, JsonValue.keysDistinct, distinct,
      Bool.and_self]

/-- What `encode_response` accepts, and the bytes it gives. -/
theorem encodeResponse_eq_ok {operationId : Text} {data : Bytes} :
    encodeResponse operationId payload = .ok data ↔
      ∃ operation, operationId = SubordinateOperation.id operation ∧
        (∃ fields, payload = .object fields) ∧
        validateValue 0 "result" payload = .ok () ∧
        encodeAscii (responseDocument operation payload).sortKeys.render =
          data ∧
        data.length ≤ maxPayloadBytes := by
  simp only [encodeResponse, bind_eq_ok, requireOperation_eq_ok,
    requireMapping_eq_ok, Option.some.injEq]
  constructor
  · rintro ⟨operation, rfl, _, ⟨rfl, mapping⟩, _, valid, encoded⟩
    rw [encodeDocument_eq_ok (responseDocument_fits valid)] at encoded
    exact ⟨operation, rfl, mapping, valid, encoded⟩
  · rintro ⟨operation, rfl, mapping, valid, encoded⟩
    exact ⟨operation, rfl, _, ⟨rfl, mapping⟩, (), valid,
      (encodeDocument_eq_ok (responseDocument_fits valid)).mpr encoded⟩

theorem encodeResponse_raises (operationId : Text) :
    RaisesCodecErrors (encodeResponse operationId payload) :=
  .bind (requireOperation_raises _) fun _ _ =>
    .bind (requireMapping_raises _ _) fun _ _ =>
    .bind (validateValue_raises _ _) fun _ valid =>
    encodeDocument_raises (responseDocument_fits valid)

theorem decodeResponse_encodes {operationId : Text} {data : Bytes}
    (decoded : decodeResponse data = .ok (operationId, payload)) :
    encodeResponse operationId payload = .ok data := by
  simp only [decodeResponse, bind_eq_ok, require_eq_ok, beq_iff_eq, pure,
    Except.pure, Except.ok.injEq, Prod.mk.injEq] at decoded
  obtain ⟨_, _, _, _, _, _, _, _, _, _, canonical, encoded, _, rfl, rfl,
    rfl⟩ := decoded
  exact encoded

/-- An accepted result without surrogate pairs is restored. -/
theorem decodeResponse_encoded {operationId : Text} {data : Bytes}
    (pairs : payload.allPaired) (distinct : payload.keysDistinct)
    (encoded : encodeResponse operationId payload = .ok data) :
    decodeResponse data = .ok (operationId, payload.sortKeys) := by
  obtain ⟨operation, rfl, mapping, valid, bytes, short⟩ :=
    encodeResponse_eq_ok.mp encoded
  have loaded : loadDocument data "response" = _ :=
    loadDocument_encoded bytes short (responseDocument_fits valid)
      (responseDocument_wellRead valid pairs distinct)
      responseDocument_sortKeys
  have sorts := validateValue_sortKeys payload valid
  have mapping_ := sortKeys_mapping mapping
  have again : encodeResponse operation.id payload.sortKeys = .ok data := by
    refine encodeResponse_eq_ok.mpr
      ⟨operation, rfl, mapping_, sorts, ?_, short⟩
    rw [responseDocument_sortKeys, JsonValue.sortKeys_sortKeys,
      ← responseDocument_sortKeys]
    exact bytes
  simp only [decodeResponse, bind_eq_ok, requireMapping_eq_ok, require_eq_ok,
    beq_iff_eq]
  exact ⟨_, loaded, (), rfl, operation, requireOperation_eq_ok.mpr rfl, _,
    ⟨by simp [List.lookup_cons], mapping_⟩, (), sorts, _, again, (), rfl, rfl⟩

theorem decodeResponse_raises (data : Bytes) :
    RaisesCodecErrors (decodeResponse data) ↔ ¬TooDeep data := by
  rcases @loadDocument_raises _ "response" data with
    ⟨deep, raised⟩ | ⟨shallow, raises⟩
  · refine ⟨fun only => ?_, fun shallow => absurd deep shallow⟩
    have escapes : decodeResponse data = .error .recursionError := by
      rw [decodeResponse, raised]
      rfl
    exact absurd (only _ escapes) (by decide)
  · refine ⟨fun _ => shallow, fun _ => ?_⟩
    exact .bind raises fun _ _ => .bind (.require rfl) fun _ _ =>
      .bind (validateOperation_raises _) fun _ _ =>
      .bind (requireMapping_raises _ _) fun _ _ =>
      .bind (validateValue_raises _ _) fun _ _ =>
      .bind (encodeResponse_raises _) fun _ _ =>
      .bind (.require rfl) fun _ _ => .ok _

end Values

end ParityGrid.Adapters.Runners
