import ParityGrid.Adapters.Runners.SubordinateRoundTrip

/-!
# Registered operations

Whatever a registered operation returns for an accepted request is a result
that the response codec accepts and restores.
-/

namespace ParityGrid.Adapters.Runners

open ParityGrid.Foundation
open ParityGrid.Application (lowered loweredPoint)

variable {operation : SubordinateOperation} {payload : JsonValue}
  {depth : Nat} {subject : String}

/-! ## Texts of results -/

/-- Lowercase letters and digits. -/
def isResultCharacter (c : CodePoint) : Bool :=
  isLower c || isDigit c

theorem isResultCharacter_range {c : CodePoint}
    (plain : isResultCharacter c) :
    (0x30 ≤ c.val ∧ c.val ≤ 0x39) ∨ (0x61 ≤ c.val ∧ c.val ≤ 0x7A) := by
  simp only [isResultCharacter, isLower, isDigit, Bool.or_eq_true,
    Bool.and_eq_true, decide_eq_true_eq] at plain
  exact plain.symm

theorem lowered_plain {t : Text} (plain : t.all isResultCharacter) :
    lowered t = t := by
  induction t with
  | nil => rfl
  | cons c rest ih =>
      rw [List.all_cons, Bool.and_eq_true] at plain
      have range := isResultCharacter_range plain.1
      have kept : loweredPoint c = [c] := by
        have notUpper : isUpper c = false := by
          simp only [isUpper, Bool.and_eq_false_iff, decide_eq_false_iff_not]
          omega
        rw [loweredPoint, if_neg (by omega), if_neg (by omega), lowerPoint,
          notUpper]
        rfl
      show loweredPoint c ++ lowered rest = _
      rw [kept, ih plain.2]
      rfl

section Values

variable [JsonRuntime]

theorem strip_plain {t : Text} (plain : t.all isResultCharacter) :
    strip t = t := by
  have solid : ∀ c ∈ t, isSpace c = false := by
    intro c member
    have range := isResultCharacter_range (List.all_eq_true.mp plain c member)
    have ascii : isAscii c := by
      simp only [isAscii, decide_eq_true_eq]
      omega
    rw [Bool.eq_false_iff, ne_eq, PythonRuntime.isSpace_ascii c ascii]
    omega
  have front : t.dropWhile isSpace = t := by
    cases t with
    | nil => rfl
    | cons c rest =>
        rw [List.dropWhile_cons, solid c List.mem_cons_self]
        rfl
  have back : t.reverse.dropWhile isSpace = t.reverse := by
    cases form : t.reverse with
    | nil => rfl
    | cons c rest =>
        have member : c ∈ t := by
          rw [← List.mem_reverse, form]
          exact List.mem_cons_self
        rw [List.dropWhile_cons, solid c member]
        rfl
  rw [strip, front, back, List.reverse_reverse]

/-- A short plain text without the markers is accepted. -/
theorem validateText_plain {t : Text} (shallow : depth ≤ maxPayloadDepth)
    (short : t.length ≤ maxTextLength) (plain : t.all isResultCharacter)
    (clear : ∀ part ∈ forbiddenKeyParts, ¬part <:+: t) :
    validateText t depth subject = .ok () := by
  simp only [validateText, check_bind_eq_ok, require_eq_ok,
    decide_eq_true_eq, strip_plain plain, lowered_plain plain,
    List.all_eq_true, Bool.not_eq_true', decide_eq_false_iff_not]
  refine ⟨shallow, short, clear, ?_⟩
  intro shape member
  -- No shape is made of letters and digits alone.
  have apart : ∀ shape ∈ pathShapes,
      shape.any fun c => !isResultCharacter c := by
    decide
  rw [Bool.eq_false_iff, ne_eq, List.isPrefixOf_iff_prefix]
  rintro ⟨rest, form⟩
  obtain ⟨c, inside, strange⟩ := List.any_eq_true.mp (apart shape member)
  have known := List.all_eq_true.mp plain c
    (form ▸ List.mem_append_left rest inside)
  rw [known] at strange
  cases strange

/-- No marker is made of hexadecimal digits. -/
theorem validateText_hex {t : Text} (shallow : depth ≤ maxPayloadDepth)
    (short : t.length ≤ maxTextLength) (digits : t.all isHexLower) :
    validateText t depth subject = .ok () := by
  have plain : t.all isResultCharacter := by
    rw [List.all_eq_true] at digits ⊢
    intro c member
    have digit := digits c member
    simp only [isHexLower, isResultCharacter, isDigit, isLower,
      Bool.or_eq_true, Bool.and_eq_true, decide_eq_true_eq] at digit ⊢
    omega
  refine validateText_plain shallow short plain fun part member infix_ => ?_
  have apart : ∀ part ∈ forbiddenKeyParts,
      part.any fun c => !isHexLower c := by
    decide
  obtain ⟨c, inside, strange⟩ := List.any_eq_true.mp (apart part member)
  have known := List.all_eq_true.mp digits c (infix_.subset inside)
  rw [known] at strange
  cases strange

end Values

/-! ## Sizes -/

theorem responseDocument_length :
    (responseDocument operation payload).sortKeys.render.length ≤
      600 + payload.sortKeys.render.length := by
  rw [responseDocument_sortKeys]
  have id : (renderString operation.id).length ≤ 100 := by
    cases operation <;> decide
  have keys : (renderString (text "codec_version")).length ≤ 100 ∧
      (renderString (text "operation")).length ≤ 100 ∧
      (renderString (text "result")).length ≤ 100 ∧
      (decimalInt subordinateCodecVersion).length ≤ 100 := by
    decide
  simp only [JsonValue.render, JsonValue.renderFields, JsonScalar.render,
    List.length_append, List.length_cons, List.length_nil]
  omega

theorem renderItems_length {numbers : List Int}
    (small : ∀ number ∈ numbers, -9007199254740992 ≤ number ∧
      number ≤ 9007199254740992) :
    (JsonValue.renderItems (numbers.map .int)).length ≤
      18 * numbers.length := by
  induction numbers with
  | nil => simp [JsonValue.renderItems]
  | cons number rest ih =>
      rw [List.forall_mem_cons] at small
      have later := ih small.2
      have digits : (decimal number.natAbs).length ≤ 16 :=
        (decimal_length_le (by decide)).mpr (by omega)
      have text_ : (decimalInt number).length ≤ 17 := by
        rw [decimalInt]
        split
        · rw [List.length_cons]
          omega
        · omega
      simp only [List.map_cons, JsonValue.renderItems, JsonValue.render,
        JsonScalar.render, List.length_append, List.length_cons]
      omega

/-! ## Results -/

section Values

variable [JsonRuntime]

/-- The response codec accepts a result and gives it back. -/
def Restored (operationId : Text) (result : JsonValue) : Prop :=
  ∃ response, encodeResponse operationId result = .ok response ∧
    decodeResponse response = .ok (operationId, result)

/-- A result with one field, whose value is valid and small, is restored. -/
theorem restored_field (operation : SubordinateOperation) {key : Text}
    {value : JsonValue}
    (keyValid : validateText key 1 "result" = .ok ())
    (valid : validateValue 1 "result" value = .ok ())
    (sorts : value.sortKeys = value) (keyPaired : paired key)
    (pairs : value.allPaired) (distinct : value.keysDistinct)
    (keySmall : key.length ≤ 10) (small : value.render.length ≤ 10000) :
    Restored operation.id (.object [(key, value)]) := by
  have same : (JsonValue.object [(key, value)]).sortKeys =
      .object [(key, value)] := by
    rw [JsonValue.sortKeys_ordered (List.pairwise_singleton _ _),
      JsonValue.sortFields, sorts]
    rfl
  have whole : validateValue 0 "result" (.object [(key, value)]) = .ok () := by
    rw [validateValue_object]
    refine ⟨by decide, Nat.le_of_ble_eq_true rfl, ?_⟩
    intro entry member
    rw [List.mem_singleton.mp member]
    exact ⟨keyValid, valid⟩
  have length : (JsonValue.object [(key, value)]).render.length ≤ 20000 := by
    have name := renderString_length key
    simp only [JsonValue.render, JsonValue.renderFields, List.length_append,
      List.length_cons, List.length_nil]
    omega
  have bound := @responseDocument_length operation (.object [(key, value)])
  rw [same] at bound
  have encoded := encodeResponse_eq_ok.mpr ⟨operation, rfl, ⟨_, rfl⟩, whole,
    rfl, by
      rw [encodeAscii, List.length_map]
      exact (bound.trans (Nat.add_le_add_left length 600)).trans (by decide)⟩
  refine ⟨_, encoded, ?_⟩
  have decoded := decodeResponse_encoded ?_ ?_ encoded
  · rwa [same] at decoded
  · rw [JsonValue.allPaired, JsonValue.allPairedFields, keyPaired, pairs]
    rfl
  · rw [JsonValue.keysDistinct, JsonValue.keysDistinctFields, distinct]
    rfl

theorem executeSha256Digest_restored {result : JsonValue}
    (returned : executeSha256Digest payload = .ok result) :
    Restored SubordinateOperation.sha256Digest.id result := by
  unfold executeSha256Digest at returned
  split at returned
  · rw [check_bind_eq_ok] at returned
    obtain ⟨_, returned⟩ := returned
    split at returned
    · cases returned
    · rename_i data _
      cases returned
      have size := (sha256 data).hex_length
      have digits := (sha256 data).hex_all_isHexLower
      have ascii : (sha256 data).hex.all isAscii := by
        rw [List.all_eq_true] at digits ⊢
        exact fun c member => isAscii_of_isHexLower (digits c member)
      have rendered := renderString_length (sha256 data).hex
      refine restored_field _ ?_ ?_ rfl (by decide) ?_ rfl
        (by decide) ?_
      · exact validateText_plain (by decide) (by decide) (by decide)
          (by decide)
      · exact validateText_hex (by decide) (size.le.trans (by decide)) digits
      · exact paired_of_isUnicode (isUnicode_of_ascii ascii)
      · show (renderString _).length ≤ 10000
        omega
  · cases returned

omit [JsonRuntime] in
theorem requireInteger_eq_ok {item : JsonValue} {number : Int} :
    requireInteger item = .ok number ↔ item = .int number := by
  unfold requireInteger
  split
  · simp
  · rename_i apart
    refine ⟨fun accepted => (nomatch accepted), ?_⟩
    rintro rfl
    exact (apart number rfl).elim

theorem executeSortIntegers_restored {result : JsonValue}
    (valid : validateValue 0 "payload" payload = .ok ())
    (returned : executeSortIntegers payload = .ok result) :
    Restored SubordinateOperation.sortIntegers.id result := by
  unfold executeSortIntegers at returned
  split at returned
  · rename_i items found
    obtain ⟨numbers, reads, same⟩ := bind_eq_ok.mp returned
    cases same
    have form : items = numbers.map .int :=
      (mapM_eq_ok_iff_map fun _ _ _ => requireInteger_eq_ok).mp reads
    -- The list is a field of the validated payload.
    obtain ⟨few, small⟩ : numbers.length ≤ maxListItems ∧
        ∀ number ∈ numbers, -9007199254740992 ≤ number ∧
          number ≤ 9007199254740992 := by
      cases payload with
      | object fields =>
          have member := mem_of_lookup found
          obtain ⟨_, _, each⟩ := validateValue_object.mp valid
          obtain ⟨_, few, inside⟩ :=
            validateValue_array.mp (each _ member).2
          rw [form, List.forall_mem_map] at inside
          rw [form, List.length_map] at few
          exact ⟨few, fun number inside_ =>
            (validateValue_int.mp (inside number inside_)).2⟩
      | _ => cases found
    have sortedSmall : ∀ number ∈ sorted numbers,
        -9007199254740992 ≤ number ∧ number ≤ 9007199254740992 :=
      fun number member => small number (mem_sorted.mp member)
    have scalars : ∀ values : List Int,
        JsonValue.sortItems (values.map .int) = values.map .int ∧
          JsonValue.allPairedItems (values.map .int) ∧
          JsonValue.keysDistinctItems (values.map .int) := by
      intro values
      induction values with
      | nil => exact ⟨rfl, rfl, rfl⟩
      | cons value rest ih =>
          simp only [List.map_cons, JsonValue.sortItems,
            JsonValue.allPairedItems, JsonValue.keysDistinctItems, ih,
            JsonValue.sortKeys, JsonValue.allPaired, JsonValue.keysDistinct,
            Bool.and_self, and_self]
    refine restored_field _ ?_ ?_ ?_ (by decide) ?_ ?_ (by decide) ?_
    · exact validateText_plain (by decide) (by decide) (by decide)
        (by decide)
    · rw [validateValue_array, List.length_map, sorted_length,
        List.forall_mem_map]
      exact ⟨by decide, few, fun number member =>
        validateValue_int.mpr ⟨by decide, sortedSmall number member⟩⟩
    · rw [JsonValue.sortKeys, (scalars _).1]
    · exact (scalars _).2.1
    · exact (scalars _).2.2
    · have items_ := renderItems_length sortedSmall
      rw [sorted_length] at items_
      have count : numbers.length ≤ 256 := few
      cases form : sorted numbers with
      | nil =>
          rw [List.map_nil]
          decide
      | cons number rest =>
          rw [form] at items_
          simp only [List.map_cons, JsonValue.renderItems, JsonValue.render,
            List.length_append, List.length_cons, List.length_nil] at items_ ⊢
          omega
  · cases returned

omit [JsonRuntime] in
theorem executeSha256Digest_raises :
    RaisesCodecErrors (executeSha256Digest payload) := by
  unfold executeSha256Digest
  split
  · refine .bind (.require rfl) fun _ _ => ?_
    split
    · exact .error rfl
    · exact .ok _
  · exact .error rfl

omit [JsonRuntime] in
theorem executeSortIntegers_raises :
    RaisesCodecErrors (executeSortIntegers payload) := by
  unfold executeSortIntegers
  split
  · refine .bind (.mapM fun item _ => ?_) fun _ _ => .ok _
    unfold requireInteger
    split
    · exact .ok _
    · exact .error rfl
  · exact .error rfl

/-- An operation fails as a codec error or returns what is restored. -/
theorem dispatch_restored {operationId : Text} {version : Int} {data : Bytes}
    (accepted : encodeRequest operationId version payload = .ok data) :
    RaisesCodecErrors (dispatchRegisteredOperation operationId payload) ∧
      ∀ result, dispatchRegisteredOperation operationId payload = .ok result →
        Restored operationId result := by
  obtain ⟨operation, rfl, _, _, valid, _⟩ := encodeRequest_eq_ok.mp accepted
  have known := (@requireOperation_eq_ok operation.id operation).mpr rfl
  rw [dispatchRegisteredOperation, known, ok_bind]
  cases operation with
  | sha256Digest =>
      exact ⟨executeSha256Digest_raises, fun _ returned =>
        executeSha256Digest_restored returned⟩
  | sortIntegers =>
      exact ⟨executeSortIntegers_raises, fun _ returned =>
        executeSortIntegers_restored valid returned⟩

/-! ## The codec -/

/-- Decoding gives the request back, whatever the order of its keys. -/
def RequestRestored (operationId : Text) (version : Int)
    (payload : JsonValue) (data : Bytes) : Prop :=
  ∃ restored, decodeRequest data = .ok (operationId, version, restored) ∧
    restored.sortKeys = payload.sortKeys

theorem requestRestored_iff {operationId : Text} {version : Int}
    {data : Bytes} (distinct : payload.keysDistinct)
    (encoded : encodeRequest operationId version payload = .ok data) :
    RequestRestored operationId version payload data ↔ payload.allPaired := by
  constructor
  · rintro ⟨restored, decoded, same⟩
    rw [← payload.allPaired_sortKeys, ← same, restored.allPaired_sortKeys]
    exact decodeRequest_allPaired decoded
  · intro pairs
    exact ⟨payload.sortKeys,
      (decodeRequest_encoded distinct encoded).mpr pairs,
      payload.sortKeys_sortKeys⟩

/-- What the decoders accept is the encoding of what they return. -/
theorem subordinate_codec :
    (∀ operationId version payload data, JsonValue.keysDistinct payload →
      encodeRequest operationId version payload = .ok data →
      (RequestRestored operationId version payload data ↔
        payload.allPaired)) ∧
    (∀ data operationId version payload,
      decodeRequest data = .ok (operationId, version, payload) →
      encodeRequest operationId version payload = .ok data) ∧
    (∀ data operationId result,
      decodeResponse data = .ok (operationId, result) →
      encodeResponse operationId result = .ok data) ∧
    (∀ data, (RaisesCodecErrors (decodeRequest data) ↔ ¬TooDeep data) ∧
      (RaisesCodecErrors (decodeResponse data) ↔ ¬TooDeep data)) ∧
    ∀ operationId version payload data,
      encodeRequest operationId version payload = .ok data →
      RaisesCodecErrors (dispatchRegisteredOperation operationId payload) ∧
        ∀ result,
          dispatchRegisteredOperation operationId payload = .ok result →
          Restored operationId result := by
  refine ⟨?_, ?_, ?_, ?_, ?_⟩
  · intro operationId version payload data distinct encoded
    exact requestRestored_iff distinct encoded
  · intro data operationId version payload decoded
    exact decodeRequest_encodes decoded
  · intro data operationId result decoded
    exact decodeResponse_encodes decoded
  · intro data
    exact ⟨decodeRequest_raises data, decodeResponse_raises data⟩
  · intro operationId version payload data accepted
    exact dispatch_restored accepted

/-- Brackets are opened until the limit is met, whatever may follow. -/
theorem readValue_brackets {count depth fuel : Nat}
    (deep : jsonReadingLimit < depth + count) (fueled : 2 * count ≤ fuel)
    (start : depth ≤ jsonReadingLimit) :
    readValue depth fuel (List.replicate count (point '[')) =
      .error .nesting := by
  induction count generalizing depth fuel with
  | zero => omega
  | succ count ih =>
      obtain ⟨fuel, rfl⟩ : ∃ left, fuel = left + 2 := ⟨fuel - 2, by omega⟩
      rw [List.replicate_succ, readValue, if_neg (by decide),
        if_neg (by decide), if_pos rfl]
      by_cases full : jsonReadingLimit ≤ depth
      · rw [if_pos full]
      · rw [if_neg full]
        cases count with
        | zero => omega
        | succ count =>
            have first : skipSpace (List.replicate (count + 1) (point '[')) =
                List.replicate (count + 1) (point '[') := rfl
            rw [first, List.replicate_succ]
            dsimp only
            rw [if_neg (by decide), readItems, ← List.replicate_succ,
              ih (by omega) (by omega) (by omega)]
            rfl

/-- As many brackets as the limit and one more are nested too deep. -/
theorem tooDeep_brackets {count : Nat} (deep : jsonReadingLimit < count)
    (short : count ≤ maxPayloadBytes) :
    TooDeep (encodeAscii (List.replicate count (point '['))) := by
  have ascii : (List.replicate count (point '[')).all isAscii := by
    rw [List.all_eq_true]
    intro c member
    rw [List.eq_of_mem_replicate member]
    rfl
  refine ⟨?_, _, decodeAscii_eq_some.mpr ⟨ascii, rfl⟩, ?_⟩
  · rwa [encodeAscii, List.length_map, List.length_replicate]
  · obtain ⟨rest, rfl⟩ : ∃ rest, count = rest + 1 := ⟨count - 1, by omega⟩
    have first : skipSpace (List.replicate (rest + 1) (point '[')) =
        List.replicate (rest + 1) (point '[') := rfl
    have start : (List.replicate (rest + 1) (point '[')).head? ≠
        some 0xFEFF := by
      rw [List.replicate_succ, List.head?_cons]
      decide
    rw [jsonLoads, if_neg start, first, readValue_brackets]
    · rfl
    · rwa [Nat.zero_add]
    · rw [List.length_replicate]
      omega
    · exact Nat.zero_le _

end Values

section Sample

attribute [local instance] asciiJsonRuntime

/-- A request is not restored, and a document makes both decoders escape. -/
theorem subordinate_codec_escapes :
    (∃ payload data, JsonValue.keysDistinct payload ∧
      encodeRequest (text "sort_integers") 1 payload = .ok data ∧
      ¬RequestRestored (text "sort_integers") 1 payload data) ∧
    ∃ data, ¬RaisesCodecErrors (decodeRequest data) ∧
      ¬RaisesCodecErrors (decodeResponse data) := by
  constructor
  · have encoded := encodeRequest_eq_ok.mpr
      ⟨.sortIntegers, rfl, rfl, ⟨[(text "a", .string [0xD83D, 0xDE00])], rfl⟩,
        by decide, rfl, by decide⟩
    refine ⟨_, _, by decide, encoded, fun restored => ?_⟩
    have pairs := (requestRestored_iff (by decide) encoded).mp restored
    revert pairs
    decide
  · have deep : TooDeep (encodeAscii (List.replicate 1001 (point '['))) :=
      tooDeep_brackets (Nat.lt_succ_self 1000) (by decide)
    exact ⟨_, fun only => (decodeRequest_raises _).mp only deep,
      fun only => (decodeResponse_raises _).mp only deep⟩

end Sample

end ParityGrid.Adapters.Runners
