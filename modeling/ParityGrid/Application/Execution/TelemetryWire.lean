import ParityGrid.Application.Execution.TelemetryMapping
import ParityGrid.Foundation.Ascii
import ParityGrid.Foundation.Splitting

/-!
# Telemetry on the wire

Three header lines and one line a series: the fields of a series stand between
bars, its labels between semicolons, and label values escape what is reserved.
The decoder accepts a payload only when encoding the record gives it back.
-/

namespace ParityGrid.Application

open ParityGrid.Foundation

def newline : CodePoint := point '\n'

def bar : CodePoint := point '|'

def backslash : CodePoint := point '\\'

def semicolon : CodePoint := point ';'

def equalsSign : CodePoint := point '='

/-- `_WIRE_RESERVED_CHARACTERS`. -/
def isWireReserved (c : CodePoint) : Bool :=
  c == backslash || c == bar || c == semicolon || c == equalsSign

/-! ## Encoding -/

/-- `_escape_wire_label_value`. -/
def escapeWireLabelValue (value : Text) : Text :=
  value.flatMap fun c => if isWireReserved c then [backslash, c] else [c]

def wireLabel (label : Text × Text) : Text :=
  label.1 ++ equalsSign :: escapeWireLabelValue label.2

/-- The labels of a series line. -/
def wireLabels (labels : List (Text × Text)) : Text :=
  [semicolon].intercalate (labels.map wireLabel)

/-- The line of a series. -/
def TelemetryMetric.wireLine (metric : TelemetryMetric) : Text :=
  [bar].intercalate [metric.name, metric.kind.value, decimalInt metric.value,
    wireLabels metric.labels]

/-- `str(number)`, which refuses more than 4300 digits. -/
def formatInt (number : Int) : Except TelemetryFailure Text := do
  require ((decimal number.natAbs).length ≤ 4300) .valueError
  return decimalInt number

/-- The lines of a record, given the texts of its two numbers. -/
def TelemetryRecord.linesWith (record : TelemetryRecord)
    (schemaVersion observedAtMicros : Text) : List Text :=
  (text "schema_version=" ++ schemaVersion) ::
    (text "observed_at_micros=" ++ observedAtMicros) ::
    (text "run_id=" ++ record.runId) ::
    record.metrics.map TelemetryMetric.wireLine

/-- `wire_bytes`. -/
def TelemetryRecord.wireBytes (record : TelemetryRecord) :
    Except TelemetryFailure Bytes := do
  let schemaVersion ← formatInt record.schemaVersion
  let observedAtMicros ← formatInt record.observedAtMicros
  let payload ← (encodeUtf8 ([newline].intercalate
    (record.linesWith schemaVersion observedAtMicros))).mapError
      fun _ => .valueError
  require (payload.length ≤ maxTelemetryRecordBytes)
    (.validation "telemetry record exceeds the wire byte bound")
  return payload

/-! ## Decoding -/

/-- `int(digits)`, which refuses more than 4300 digits. -/
def parseInt (digits : Text) : Except TelemetryFailure Int := do
  require (digits.length ≤ 4300) .valueError
  return (numeral digits : Int)

/-- `_read_wire_header_text`. -/
def readWireHeaderText (line : Text) (key : String) :
    Except TelemetryFailure Text :=
  if (text (key ++ "=")).isPrefixOf line then
    .ok (line.drop (text (key ++ "=")).length)
  else
    .error (.validation "telemetry wire field key or order is invalid")

/-- The two checks on the digits of a number, with the subject they name. -/
def requireNumeral (digits : Text) (subject : String) :
    Except TelemetryFailure Unit := do
  require (digits != [] && digits.all isDigit)
    (.validation (subject ++ " is not an integer"))
  require (digits.length ≤ 1 || digits.head? != some (point '0'))
    (.validation (subject ++ " has a leading zero"))

/-- `_read_wire_header_int`. -/
def readWireHeaderInt (line : Text) (key : String) :
    Except TelemetryFailure Int := do
  let digits ← readWireHeaderText line key
  requireNumeral digits ("telemetry wire field '" ++ key ++ "'")
  parseInt digits

/-- `_split_wire_metric_fields`. -/
def splitWireMetricFields (line : Text) : List Text :=
  splitUnescaped backslash bar [] line

/-- The value of a label, and the rest of the field from its separator on. -/
def readLabelValue : Text → Except TelemetryFailure (Text × Text)
  | [] => .ok ([], [])
  | c :: rest =>
      if c = backslash then
        match rest with
        | [] =>
            .error (.validation
              "telemetry wire label value has an invalid escape")
        | next :: later =>
            if isWireReserved next then
              (readLabelValue later).map fun read => (next :: read.1, read.2)
            else
              .error (.validation
                "telemetry wire label value has an invalid escape")
      else if c = semicolon then .ok ([], c :: rest)
      else if isWireReserved c then
        .error (.validation
          "telemetry wire label value must escape reserved characters")
      else (readLabelValue rest).map fun read => (c :: read.1, read.2)

/-- The characters that end the key of a label. -/
def endsLabelKey (c : CodePoint) : Bool :=
  c == equalsSign || c == semicolon

/-- One label, and the rest of the field from its separator on. -/
def readLabel (field : Text) :
    Except TelemetryFailure ((Text × Text) × Text) :=
  let key := field.takeWhile fun c => !endsLabelKey c
  match field.dropWhile fun c => !endsLabelKey c with
  | [] => .error (.validation "telemetry wire label key is malformed")
  | c :: rest =>
      if c ≠ equalsSign ∨ key = [] then
        .error (.validation "telemetry wire label key is malformed")
      else (readLabelValue rest).map fun read => ((key, read.1), read.2)

theorem readLabelValue_length {field value rest : Text}
    (read : readLabelValue field = .ok (value, rest)) :
    rest.length ≤ field.length := by
  fun_induction readLabelValue field generalizing value with
  | case1 =>
      cases read
      exact Nat.le_refl _
  | case2 => cases read
  | case3 next later reserved ih =>
      obtain ⟨inner, passed, same⟩ := map_eq_ok.mp read
      cases same
      exact (ih passed).trans (Nat.le_add_right _ 2)
  | case4 => cases read
  | case5 =>
      cases read
      exact Nat.le_refl _
  | case6 => cases read
  | case7 c later apart separates plain ih =>
      obtain ⟨inner, passed, same⟩ := map_eq_ok.mp read
      cases same
      exact (ih passed).trans (Nat.le_add_right _ 1)

theorem readLabel_length {field rest : Text} {label : Text × Text}
    (read : readLabel field = .ok (label, rest)) :
    rest.length < field.length := by
  rw [readLabel] at read
  split at read
  · cases read
  · rename_i c later found
    split at read
    · cases read
    · obtain ⟨inner, passed, same⟩ := map_eq_ok.mp read
      cases same
      have shorter := readLabelValue_length passed
      have whole := (List.dropWhile_suffix
        (fun c => !endsLabelKey c) (l := field)).length_le
      rw [found, List.length_cons] at whole
      omega

/-- The loop of `_parse_wire_labels`. -/
def readLabels (field : Text) :
    Except TelemetryFailure (List (Text × Text)) :=
  match _read : readLabel field with
  | .error failure => .error failure
  | .ok (label, []) => .ok [label]
  | .ok (_, [_]) =>
      .error (.validation "telemetry wire labels end with a separator")
  | .ok (label, _ :: next :: rest) =>
      (readLabels (next :: rest)).map (label :: ·)
termination_by field.length
decreasing_by
  have shorter := readLabel_length _read
  simp only [List.length_cons] at *
  omega

/-- `_parse_wire_labels`. -/
def parseWireLabels (field : Text) :
    Except TelemetryFailure (List (Text × Text)) :=
  if field = [] then .ok [] else readLabels field

/-- `_parse_wire_metric_line`. -/
def parseWireMetricLine (line : Text) :
    Except TelemetryFailure TelemetryMetric :=
  match splitWireMetricFields line with
  | [name, rawKind, digits, field] => do
      let kind ← requireKind rawKind "telemetry wire series kind is unknown"
      requireNumeral digits "telemetry wire series value"
      let labels ← parseWireLabels field
      let value ← parseInt digits
      TelemetryMetric.create name kind value labels
  | _ => .error (.validation
      "telemetry wire series line must carry four fields")

/-- The decoder, once the payload is a text. -/
def readWireText (t : Text) : Except TelemetryFailure TelemetryRecord := do
  require (t != [])
    (.validation "telemetry wire payload must not be empty")
  require (t.getLast? != some newline)
    (.validation "telemetry wire payload must not end with a newline")
  let lines := t.splitOn newline
  require (4 ≤ lines.length)
    (.validation "telemetry wire payload is truncated")
  require (lines.length ≤ 3 + maxSeriesPerRecord)
    (.validation "telemetry wire payload carries too many series")
  let schemaVersion ← readWireHeaderInt (lines.getD 0 []) "schema_version"
  require (schemaVersion == telemetrySchemaVersion)
    (.schema "telemetry wire payload uses an unknown schema version")
  let observedAtMicros ←
    readWireHeaderInt (lines.getD 1 []) "observed_at_micros"
  let runId ← readWireHeaderText (lines.getD 2 []) "run_id"
  let metrics ← (lines.drop 3).mapM parseWireMetricLine
  TelemetryRecord.create schemaVersion observedAtMicros runId metrics

/-- `from_wire_bytes`. -/
def TelemetryRecord.fromWireBytes (payload : Bytes) :
    Except TelemetryFailure TelemetryRecord := do
  require (payload.length ≤ maxTelemetryRecordBytes)
    (.validation "telemetry wire payload exceeds the byte bound")
  match decodeAscii payload with
  | none => .error (.validation "telemetry wire payload must use ASCII")
  | some t => readWireText t

/-! ## Numbers -/

theorem requireNumeral_eq_ok {digits : Text} {subject : String} {u : Unit} :
    requireNumeral digits subject = .ok u ↔ IsNumeral digits := by
  simp only [requireNumeral, check_bind_eq_ok, require_eq_ok,
    Bool.and_eq_true, bne_iff_ne, ne_eq, Bool.or_eq_true, decide_eq_true_eq]
  constructor
  · rintro ⟨⟨nonempty, all⟩, short | head⟩
    · exact ⟨nonempty, all, fun long => absurd long (Nat.not_lt.mpr short)⟩
    · exact ⟨nonempty, all, fun _ => head⟩
  · rintro ⟨nonempty, all, canonical⟩
    exact ⟨⟨nonempty, all⟩, (Nat.lt_or_ge 1 digits.length).symm.imp_right
      canonical⟩

theorem parseInt_eq_ok {digits : Text} {number : Int}
    (short : digits.length ≤ 4300) :
    parseInt digits = .ok number ↔ (numeral digits : Int) = number := by
  simp only [parseInt, check_bind_eq_ok, require_eq_ok, decide_eq_true_eq,
    short, true_and, pure, Except.pure, Except.ok.injEq]

theorem decimalInt_of_nonneg {number : Int} (nonneg : 0 ≤ number) :
    decimalInt number = decimal number.natAbs :=
  if_neg (Int.not_lt.mpr nonneg)

/-- The digits of a number are the canonical numerals that are read as it. -/
theorem numeral_iff {digits : Text} {number : Int} :
    (IsNumeral digits ∧ (numeral digits : Int) = number) ↔
      0 ≤ number ∧ digits = decimalInt number := by
  constructor
  · rintro ⟨numeral_, rfl⟩
    refine ⟨Int.natCast_nonneg _, ?_⟩
    rw [decimalInt_of_nonneg (Int.natCast_nonneg _), Int.natAbs_natCast,
      decimal_numeral numeral_]
  · rintro ⟨nonneg, rfl⟩
    rw [decimalInt_of_nonneg nonneg, numeral_decimal]
    exact ⟨isNumeral_decimal _, Int.natAbs_of_nonneg nonneg⟩

theorem readWireHeaderText_eq_ok {line contents : Text} {key : String} :
    readWireHeaderText line key = .ok contents ↔
      line = text (key ++ "=") ++ contents := by
  rw [readWireHeaderText]
  constructor
  · intro read
    split at read
    · rename_i starts
      obtain ⟨rest, rfl⟩ := List.isPrefixOf_iff_prefix.mp starts
      rw [List.drop_left] at read
      cases read
      rfl
    · cases read
  · rintro rfl
    rw [if_pos (List.isPrefixOf_iff_prefix.mpr (List.prefix_append _ _)),
      List.drop_left]

theorem readWireHeaderInt_eq_ok {line : Text} {key : String} {number : Int}
    (short : line.length ≤ 4300) :
    readWireHeaderInt line key = .ok number ↔
      0 ≤ number ∧ line = text (key ++ "=") ++ decimalInt number := by
  simp only [readWireHeaderInt, bind_eq_ok, readWireHeaderText_eq_ok,
    requireNumeral_eq_ok]
  constructor
  · rintro ⟨digits, rfl, _, numeral_, parsed⟩
    rw [List.length_append] at short
    rw [parseInt_eq_ok (by omega)] at parsed
    obtain ⟨nonneg, same⟩ := numeral_iff.mp ⟨numeral_, parsed⟩
    exact ⟨nonneg, same ▸ rfl⟩
  · rintro ⟨nonneg, rfl⟩
    obtain ⟨numeral_, value⟩ := numeral_iff.mpr ⟨nonneg, rfl⟩
    rw [List.length_append] at short
    exact ⟨_, rfl, (), numeral_, (parseInt_eq_ok (by omega)).mpr value⟩

/-! ## Labels -/

/-- What a label value leaves: nothing, or a separator and more. -/
def AtSeparator (rest : Text) : Prop :=
  rest = [] ∨ ∃ more, rest = semicolon :: more

theorem escapeWireLabelValue_cons (c : CodePoint) (value : Text) :
    escapeWireLabelValue (c :: value) =
      (if isWireReserved c then [backslash, c] else [c]) ++
        escapeWireLabelValue value := rfl

/-- A value is read from its escaped form only. -/
theorem readLabelValue_sound {field value rest : Text}
    (read : readLabelValue field = .ok (value, rest)) :
    field = escapeWireLabelValue value ++ rest ∧ AtSeparator rest := by
  fun_induction readLabelValue field generalizing value with
  | case1 =>
      cases read
      exact ⟨rfl, .inl rfl⟩
  | case2 => cases read
  | case3 next later reserved ih =>
      obtain ⟨inner, passed, same⟩ := map_eq_ok.mp read
      cases same
      obtain ⟨form, ends⟩ := ih passed
      rw [escapeWireLabelValue_cons, if_pos reserved, form]
      exact ⟨rfl, ends⟩
  | case4 => cases read
  | case5 later apart =>
      cases read
      exact ⟨rfl, .inr ⟨later, rfl⟩⟩
  | case6 => cases read
  | case7 c later apart separates plain ih =>
      obtain ⟨inner, passed, same⟩ := map_eq_ok.mp read
      cases same
      obtain ⟨form, ends⟩ := ih passed
      rw [escapeWireLabelValue_cons, if_neg plain, form]
      exact ⟨rfl, ends⟩

theorem readLabelValue_complete (value : Text) {rest : Text}
    (ends : AtSeparator rest) :
    readLabelValue (escapeWireLabelValue value ++ rest) =
      .ok (value, rest) := by
  induction value with
  | nil =>
      rcases ends with rfl | ⟨more, rfl⟩
      · rfl
      · show readLabelValue (semicolon :: more) = _
        rw [readLabelValue.eq_def]
        dsimp only
        rw [if_neg (by decide), if_pos rfl]
  | cons c value ih =>
      rw [escapeWireLabelValue_cons]
      by_cases reserved : isWireReserved c
      · rw [if_pos reserved]
        show readLabelValue (backslash :: c ::
          (escapeWireLabelValue value ++ rest)) = _
        rw [readLabelValue, if_pos rfl, if_pos reserved, ih]
        rfl
      · have apart : c ≠ backslash ∧ c ≠ semicolon := by
          constructor
          · rintro rfl
            exact reserved (by decide)
          · rintro rfl
            exact reserved (by decide)
        rw [if_neg reserved]
        show readLabelValue (c :: (escapeWireLabelValue value ++ rest)) = _
        rw [readLabelValue.eq_def]
        dsimp only
        rw [if_neg apart.1, if_neg apart.2, if_neg reserved, ih]
        rfl

/-- A key that the decoder can find the end of. -/
def IsWireKey (key : Text) : Prop :=
  key ≠ [] ∧ ∀ c ∈ key, endsLabelKey c = false

theorem readLabel_sound {field rest : Text} {label : Text × Text}
    (read : readLabel field = .ok (label, rest)) :
    field = wireLabel label ++ rest ∧ AtSeparator rest := by
  rw [readLabel] at read
  split at read
  · cases read
  · rename_i c later found
    split at read
    · cases read
    · rename_i separated
      rw [not_or, not_not] at separated
      obtain ⟨inner, passed, same⟩ := map_eq_ok.mp read
      cases same
      obtain ⟨form, ends⟩ := readLabelValue_sound passed
      refine ⟨?_, ends⟩
      rw [wireLabel, List.append_assoc, List.cons_append, ← form,
        ← separated.1, ← found]
      exact List.takeWhile_append_dropWhile.symm

theorem readLabel_complete {label : Text × Text} (key : IsWireKey label.1)
    {rest : Text} (ends : AtSeparator rest) :
    readLabel (wireLabel label ++ rest) = .ok (label, rest) := by
  have form : wireLabel label ++ rest = label.1 ++ equalsSign ::
      (escapeWireLabelValue label.2 ++ rest) := by
    rw [wireLabel, List.append_assoc, List.cons_append]
  have keys : ∀ c ∈ label.1, (!endsLabelKey c) = true := by
    intro c member
    rw [key.2 c member]
    rfl
  have taken : (label.1 ++ equalsSign ::
      (escapeWireLabelValue label.2 ++ rest)).takeWhile
      (fun c => !endsLabelKey c) = label.1 := by
    rw [List.takeWhile_append_of_pos keys, List.takeWhile_cons_of_neg
      (by decide), List.append_nil]
  have dropped : (label.1 ++ equalsSign ::
      (escapeWireLabelValue label.2 ++ rest)).dropWhile
      (fun c => !endsLabelKey c) =
        equalsSign :: (escapeWireLabelValue label.2 ++ rest) := by
    rw [List.dropWhile_append_of_pos keys, List.dropWhile_cons_of_neg
      (by decide)]
  rw [form, readLabel, taken, dropped]
  dsimp only
  rw [if_neg (by simp [key.1]), readLabelValue_complete label.2 ends]
  rfl

theorem readLabels_sound {field : Text} {labels : List (Text × Text)}
    (read : readLabels field = .ok labels) :
    field = wireLabels labels ∧ labels ≠ [] := by
  fun_induction readLabels field generalizing labels with
  | case1 => cases read
  | case2 field label first =>
      cases read
      obtain ⟨form, _⟩ := readLabel_sound first
      rw [form, List.append_nil]
      exact ⟨(List.intercalate_singleton).symm, List.cons_ne_nil _ _⟩
  | case3 => cases read
  | case4 field label c next rest first ih =>
      obtain ⟨others, passed, rfl⟩ := map_eq_ok.mp read
      obtain ⟨form, ends⟩ := readLabel_sound first
      obtain ⟨later, some_⟩ := ih passed
      refine ⟨?_, List.cons_ne_nil _ _⟩
      rcases ends with none_ | ⟨more, same⟩
      · cases none_
      · cases same
        rw [form, later, wireLabels, wireLabels, List.map_cons,
          List.intercalate_cons_of_ne_nil (by simpa using some_),
          List.append_assoc]
        rfl

theorem wireLabels_ne_nil {labels : List (Text × Text)}
    (some_ : labels ≠ []) : wireLabels labels ≠ [] := by
  cases labels with
  | nil => exact absurd rfl some_
  | cons label others =>
      cases others with
      | nil => simp [wireLabels, wireLabel]
      | cons second others => simp [wireLabels, wireLabel]

theorem readLabels_complete {labels : List (Text × Text)}
    (some_ : labels ≠ []) (keys : ∀ label ∈ labels, IsWireKey label.1) :
    readLabels (wireLabels labels) = .ok labels := by
  induction labels with
  | nil => exact absurd rfl some_
  | cons label others ih =>
      rw [List.forall_mem_cons] at keys
      cases others with
      | nil =>
          have form : wireLabels [label] = wireLabel label ++ [] := by
            rw [wireLabels, List.map_singleton, List.intercalate_singleton,
              List.append_nil]
          rw [form, readLabels.eq_def, readLabel_complete keys.1 (.inl rfl)]
      | cons second others =>
          have later := ih (List.cons_ne_nil _ _) keys.2
          have form : wireLabels (label :: second :: others) =
              wireLabel label ++
                semicolon :: wireLabels (second :: others) := by
            rw [wireLabels, List.map_cons,
              List.intercalate_cons_of_ne_nil (by simp), List.append_assoc]
            rfl
          obtain ⟨next, rest, starts⟩ := List.exists_cons_of_ne_nil
            (wireLabels_ne_nil (List.cons_ne_nil second others))
          rw [form, starts, readLabels.eq_def,
            readLabel_complete keys.1 (.inr ⟨_, rfl⟩)]
          dsimp only
          rw [← starts, later]
          rfl

/-- Labels are read from the field that they are written as. -/
theorem parseWireLabels_eq_ok {field : Text} {labels : List (Text × Text)}
    (keys : ∀ label ∈ labels, IsWireKey label.1) :
    parseWireLabels field = .ok labels ↔ field = wireLabels labels := by
  rw [parseWireLabels]
  by_cases empty : field = []
  · rw [if_pos empty, empty]
    constructor
    · rintro ⟨⟩
      rfl
    · intro same
      by_cases none_ : labels = []
      · rw [none_]
      · exact absurd same.symm (wireLabels_ne_nil none_)
  · rw [if_neg empty]
    refine ⟨fun read => (readLabels_sound read).1, ?_⟩
    rintro rfl
    refine readLabels_complete (fun none_ => empty ?_) keys
    rw [none_]
    rfl

example : wireLabels [(text "a", text "x|y"), (text "b", text ";=")] =
    text "a=x\\|y;b=\\;\\=" := by
  decide +kernel

/-! ## Series -/

/-- The characters of names, keys and kinds. -/
def isNameCharacter (c : CodePoint) : Bool :=
  isLower c || isDigit c || c == point '_'

theorem telemetryNamePattern_within :
    telemetryNamePattern.Within isNameCharacter where
  first := by
    intro c lower
    simp only [telemetryNamePattern] at lower
    simp [isNameCharacter, lower]
  later := by
    intro c absurd_
    cases absurd_
  body := fun _ body => body
  separator := by
    intro c absurd_
    cases absurd_

theorem isNameCharacter_range {c : CodePoint} (name : isNameCharacter c) :
    (0x30 ≤ c.val ∧ c.val ≤ 0x39) ∨ c.val = 0x5F ∨
      (0x61 ≤ c.val ∧ c.val ≤ 0x7A) := by
  simp only [isNameCharacter, isLower, isDigit, Bool.or_eq_true,
    Bool.and_eq_true, decide_eq_true_eq, beq_iff_eq] at name
  rcases name with (lower | digit) | rfl
  · exact .inr (.inr lower)
  · exact .inl digit
  · exact .inr (.inl rfl)

/-- A character outside the names is not one of a name. -/
theorem ne_of_isNameCharacter {c d : CodePoint} (name : isNameCharacter c)
    (apart : isNameCharacter d = false) : c ≠ d := by
  rintro rfl
  rw [name] at apart
  cases apart

theorem isWireKey_of_label {label : Text × Text} (valid : IsLabel label) :
    IsWireKey label.1 := by
  refine ⟨List.length_pos_iff.mp valid.keyLength.1, fun c member => ?_⟩
  have name := List.all_eq_true.mp
    (telemetryNamePattern_within.fullmatch_all valid.key) c member
  simp only [endsLabelKey, Bool.or_eq_false_iff, beq_eq_false_iff_ne]
  exact ⟨ne_of_isNameCharacter name (by decide),
    ne_of_isNameCharacter name (by decide)⟩

abbrev IsWireField (field : Text) : Prop :=
  IsField backslash bar field

theorem isWireField_of_names {field : Text} (names : field.all isNameCharacter) :
    IsWireField field := by
  refine .of_plain fun c member => ?_
  have name := List.all_eq_true.mp names c member
  exact ⟨ne_of_isNameCharacter name (by decide),
    ne_of_isNameCharacter name (by decide)⟩

theorem isNameCharacter_of_digits {digits : Text} (all : digits.all isDigit) :
    digits.all isNameCharacter := by
  rw [List.all_eq_true] at *
  intro c member
  simp [isNameCharacter, all c member]

theorem kind_isName (kind : TelemetryMetricKind) :
    kind.value.all isNameCharacter := by
  cases kind <;> decide

theorem isWireField_escape (value : Text) :
    IsWireField (escapeWireLabelValue value) := by
  induction value with
  | nil => exact .nil
  | cons c value ih =>
      rw [escapeWireLabelValue_cons]
      by_cases reserved : isWireReserved c
      · rw [if_pos reserved]
        exact .escaped ih
      · rw [if_neg reserved]
        refine .plain ?_ ?_ ih
        · rintro rfl
          exact reserved (by decide)
        · rintro rfl
          exact reserved (by decide)

theorem isWireField_wireLabel {label : Text × Text} (valid : IsLabel label) :
    IsWireField (wireLabel label) :=
  (isWireField_of_names
    (telemetryNamePattern_within.fullmatch_all valid.key)).append
    (.plain (by decide) (by decide) (isWireField_escape label.2))

theorem isWireField_wireLabels {labels : List (Text × Text)}
    (valid : ∀ label ∈ labels, IsLabel label) :
    IsWireField (wireLabels labels) := by
  induction labels with
  | nil => exact .nil
  | cons label others ih =>
      rw [List.forall_mem_cons] at valid
      cases others with
      | nil =>
          rw [wireLabels, List.map_singleton, List.intercalate_singleton]
          exact isWireField_wireLabel valid.1
      | cons second others =>
          rw [wireLabels, List.map_cons,
            List.intercalate_cons_of_ne_nil (by simp), List.append_assoc]
          exact (isWireField_wireLabel valid.1).append
            (.plain (by decide) (by decide) (ih valid.2))

/-- The line of a series splits into the four fields that it is made of. -/
theorem splitWireMetricFields_wireLine (metric : TelemetryMetric) :
    splitWireMetricFields metric.wireLine =
      [metric.name, metric.kind.value, decimalInt metric.value,
        wireLabels metric.labels] := by
  have name : IsWireField metric.name := isWireField_of_names
    (telemetryNamePattern_within.fullmatch_all metric.valid.pattern)
  have kind : IsWireField metric.kind.value :=
    isWireField_of_names (kind_isName metric.kind)
  have value : IsWireField (decimalInt metric.value) := by
    rw [decimalInt_of_nonneg metric.valid.range.1]
    exact isWireField_of_names
      (isNameCharacter_of_digits (decimal_all_digit _))
  have labels := isWireField_wireLabels metric.valid.each
  have apart : bar ≠ backslash := by decide
  simp only [splitWireMetricFields, TelemetryMetric.wireLine,
    List.intercalate_cons_cons, List.intercalate_singleton, List.append_assoc,
    List.singleton_append, splitUnescaped_cut apart name,
    splitUnescaped_cut apart kind, splitUnescaped_cut apart value,
    splitUnescaped_field labels, List.nil_append]

/-- The digits of a series are no longer than its line. -/
theorem digits_length_le (name kind digits field : Text) :
    digits.length ≤ ([bar].intercalate [name, kind, digits, field]).length := by
  simp only [List.intercalate_cons_cons, List.intercalate_singleton,
    List.length_append]
  omega

/-- A series is read from the line that it is written as. -/
theorem parseWireMetricLine_eq_ok {line : Text} {metric : TelemetryMetric}
    (short : line.length ≤ 4300) :
    parseWireMetricLine line = .ok metric ↔ line = metric.wireLine := by
  have keys : ∀ label ∈ metric.labels, IsWireKey label.1 :=
    fun label member => isWireKey_of_label (metric.valid.each label member)
  constructor
  · intro read
    rw [parseWireMetricLine] at read
    split at read
    · rename_i name rawKind digits field split_
      simp only [bind_eq_ok, requireKind_eq_ok, requireNumeral_eq_ok,
        TelemetryMetric.create_eq_ok] at read
      obtain ⟨kind, rfl, _, numeral_, labels, parsed, value, number, rfl, rfl,
        rfl, rfl⟩ := read
      have whole : [bar].intercalate (splitWireMetricFields line) = line :=
        intercalate_splitUnescaped [] line
      rw [split_] at whole
      have bound := digits_length_le metric.name metric.kind.value digits field
      rw [whole] at bound
      rw [parseInt_eq_ok (bound.trans short)] at number
      rw [parseWireLabels_eq_ok keys] at parsed
      rw [← whole, parsed, (numeral_iff.mp ⟨numeral_, number⟩).2]
      rfl
    · cases read
  · rintro rfl
    have bound : (decimalInt metric.value).length ≤ metric.wireLine.length :=
      digits_length_le _ _ _ _
    obtain ⟨numeral_, number⟩ :=
      numeral_iff.mpr ⟨metric.valid.range.1, rfl⟩
    rw [parseWireMetricLine, splitWireMetricFields_wireLine]
    simp only [bind_eq_ok, requireKind_eq_ok, requireNumeral_eq_ok]
    exact ⟨metric.kind, rfl, (), numeral_, metric.labels,
      (parseWireLabels_eq_ok keys).mpr rfl, metric.value,
      (parseInt_eq_ok (bound.trans short)).mpr number,
      TelemetryMetric.create_eq_ok.mpr ⟨rfl, rfl, rfl, rfl⟩⟩

/-! ## Records -/

/-- The text of a record. -/
def TelemetryRecord.wireText (record : TelemetryRecord) : Text :=
  [newline].intercalate (record.linesWith (decimalInt record.schemaVersion)
    (decimalInt record.observedAtMicros))

theorem isTelemetryCharacter_of_name {c : CodePoint}
    (name : isNameCharacter c) : isTelemetryCharacter c := by
  have range := isNameCharacter_range name
  simp only [isTelemetryCharacter, Bool.and_eq_true, decide_eq_true_eq]
  omega

theorem printable_of_names {t : Text} (names : t.all isNameCharacter) :
    t.all isTelemetryCharacter := by
  rw [List.all_eq_true] at *
  exact fun c member => isTelemetryCharacter_of_name (names c member)

theorem printable_escape {value : Text}
    (printable : value.all isTelemetryCharacter) :
    (escapeWireLabelValue value).all isTelemetryCharacter := by
  rw [List.all_eq_true] at *
  intro d member
  obtain ⟨c, inside, escaped⟩ := List.mem_flatMap.mp member
  split at escaped
  · rcases List.mem_cons.mp escaped with rfl | last
    · decide
    · exact List.mem_singleton.mp last ▸ printable c inside
  · exact List.mem_singleton.mp escaped ▸ printable c inside

/-- Joining printable texts by a printable separator. -/
theorem printable_intercalate {separator : CodePoint} {parts : List Text}
    (separates : isTelemetryCharacter separator)
    (printable : ∀ part ∈ parts, part.all isTelemetryCharacter) :
    ([separator].intercalate parts).all isTelemetryCharacter := by
  induction parts with
  | nil => rfl
  | cons part rest ih =>
      rw [List.forall_mem_cons] at printable
      cases rest with
      | nil =>
          rw [List.intercalate_singleton]
          exact printable.1
      | cons second others =>
          rw [List.intercalate_cons_of_ne_nil (List.cons_ne_nil _ _)]
          simp [printable.1, separates, ih printable.2]

theorem printable_wireLine (metric : TelemetryMetric) :
    metric.wireLine.all isTelemetryCharacter := by
  have labels : ∀ label ∈ metric.labels,
      (wireLabel label).all isTelemetryCharacter := by
    intro label member
    have valid := metric.valid.each label member
    have key := printable_of_names
      (telemetryNamePattern_within.fullmatch_all valid.key)
    have value := printable_escape valid.printable
    have between : isTelemetryCharacter equalsSign := by decide
    rw [wireLabel, List.all_append, List.all_cons, key, between, value]
    rfl
  have fields : ∀ field ∈ [metric.name, metric.kind.value,
      decimalInt metric.value, wireLabels metric.labels],
      field.all isTelemetryCharacter := by
    simp only [List.forall_mem_cons]
    refine ⟨printable_of_names
        (telemetryNamePattern_within.fullmatch_all metric.valid.pattern),
      printable_of_names (kind_isName metric.kind), ?_,
      printable_intercalate (by decide) (List.forall_mem_map.mpr labels),
      by simp⟩
    rw [decimalInt_of_nonneg metric.valid.range.1]
    exact printable_of_names (isNameCharacter_of_digits (decimal_all_digit _))
  exact printable_intercalate (by decide) fields

/-- Every line of a record is printable. -/
theorem printable_lines (record : TelemetryRecord) :
    ∀ line ∈ record.linesWith (decimalInt record.schemaVersion)
      (decimalInt record.observedAtMicros), line.all isTelemetryCharacter := by
  have digits {number : Int} (nonneg : 0 ≤ number) :
      (decimalInt number).all isTelemetryCharacter := by
    rw [decimalInt_of_nonneg nonneg]
    exact printable_of_names (isNameCharacter_of_digits (decimal_all_digit _))
  have version : 0 ≤ record.schemaVersion :=
    record.valid.version.symm ▸ by decide
  have keys : (text "schema_version=").all isTelemetryCharacter ∧
      (text "observed_at_micros=").all isTelemetryCharacter ∧
      (text "run_id=").all isTelemetryCharacter := by
    decide
  rw [TelemetryRecord.linesWith]
  simp only [List.forall_mem_cons, List.all_append, Bool.and_eq_true]
  exact ⟨⟨keys.1, digits version⟩,
    ⟨keys.2.1, digits record.valid.observed⟩,
    ⟨keys.2.2, record.valid.run.printable⟩,
    List.forall_mem_map.mpr fun metric _ => printable_wireLine metric⟩

theorem newline_notMem {line : Text}
    (printable : line.all isTelemetryCharacter) : newline ∉ line := by
  intro member
  have range := List.all_eq_true.mp printable newline member
  exact absurd range (by decide)

/-- The text of a record splits into its lines. -/
theorem splitOn_wireText (record : TelemetryRecord) :
    record.wireText.splitOn newline =
      record.linesWith (decimalInt record.schemaVersion)
        (decimalInt record.observedAtMicros) :=
  List.splitOn_intercalate newline
    (fun line member => newline_notMem (printable_lines record line member))
    (List.cons_ne_nil _ _)

/-- Every series is read from its line. -/
theorem series_eq_ok {rows : List Text} {metrics : List TelemetryMetric}
    (short : ∀ row ∈ rows, row.length ≤ 4300) :
    rows.mapM parseWireMetricLine = .ok metrics ↔
      rows = metrics.map TelemetryMetric.wireLine :=
  mapM_eq_ok_iff_map fun row member _ =>
    parseWireMetricLine_eq_ok (short row member)

/-- A record is read from the text that it is written as. -/
theorem readWireText_sound {t : Text} {record : TelemetryRecord}
    (short : t.length ≤ maxTelemetryRecordBytes)
    (read : readWireText t = .ok record) : t = record.wireText := by
  have lines : ∀ line ∈ t.splitOn newline, line.length ≤ 4300 :=
    fun line member => (length_le_of_mem_splitOn member).trans
      (short.trans (by decide))
  have whole : [newline].intercalate (t.splitOn newline) = t :=
    List.intercalate_splitOn newline
  simp only [readWireText, check_bind_eq_ok, require_eq_ok,
    decide_eq_true_eq] at read
  obtain ⟨_, _, enough, _, read⟩ := read
  obtain ⟨first, second, third, rows, form⟩ : ∃ first second third rows,
      t.splitOn newline = first :: second :: third :: rows := by
    rcases found : t.splitOn newline with
      _ | ⟨first, _ | ⟨second, _ | ⟨third, rows⟩⟩⟩
    · simp [found] at enough
    · simp [found] at enough
    · simp [found] at enough
    · exact ⟨first, second, third, rows, rfl⟩
  rw [form] at lines whole read
  simp only [List.getD_cons_zero, List.getD_cons_succ, List.drop_succ_cons,
    List.drop_zero] at read
  simp only [List.forall_mem_cons] at lines
  obtain ⟨shortFirst, shortSecond, _, shortRows⟩ := lines
  simp only [bind_eq_ok, readWireHeaderInt_eq_ok shortFirst,
    readWireHeaderInt_eq_ok shortSecond, readWireHeaderText_eq_ok,
    series_eq_ok shortRows, TelemetryRecord.create_eq_ok] at read
  obtain ⟨_, ⟨_, rfl⟩, _, _, _, ⟨_, rfl⟩, _, rfl, _, rfl, rfl, rfl, rfl,
    rfl⟩ := read
  exact whole.symm

theorem wireLine_ne_nil (metric : TelemetryMetric) : metric.wireLine ≠ [] := by
  simp [TelemetryMetric.wireLine, List.intercalate_cons_cons]

/-- The text of a record does not end with a newline. -/
theorem getLast_wireText (record : TelemetryRecord) :
    record.wireText.getLast? ≠ some newline := by
  intro ends
  obtain ⟨before, form⟩ := List.getLast?_eq_some_iff.mp ends
  have split_ := splitOn_wireText record
  rw [form, List.splitOn_append_cons_self, List.splitOn_nil] at split_
  -- The last line would be empty, but it is the line of a series.
  obtain ⟨others, last, metrics⟩ : ∃ others last,
      record.metrics = others ++ [last] := by
    have some_ : record.metrics ≠ [] :=
      List.length_pos_iff.mp record.valid.count.1
    exact ⟨_, _, (List.dropLast_append_getLast some_).symm⟩
  rw [TelemetryRecord.linesWith, metrics, List.map_append, List.map_singleton,
    ← List.cons_append, ← List.cons_append, ← List.cons_append] at split_
  have final := (List.append_inj' split_ rfl).2
  rw [List.cons.injEq] at final
  exact wireLine_ne_nil last final.1.symm

theorem readWireText_complete (record : TelemetryRecord)
    (short : record.wireText.length ≤ maxTelemetryRecordBytes) :
    readWireText record.wireText = .ok record := by
  have lines : ∀ line ∈ record.wireText.splitOn newline,
      line.length ≤ 4300 :=
    fun line member => (length_le_of_mem_splitOn member).trans
      (short.trans (by decide))
  have count : (record.wireText.splitOn newline).length =
      record.metrics.length + 3 := by
    rw [splitOn_wireText, TelemetryRecord.linesWith, List.length_cons,
      List.length_cons, List.length_cons, List.length_map]
  have few := record.valid.count
  simp only [readWireText, check_bind_eq_ok, require_eq_ok,
    decide_eq_true_eq]
  refine ⟨?_, bne_iff_ne.mpr (getLast_wireText record), by omega, ?_, ?_⟩
  · rw [bne_iff_ne]
    intro empty
    rw [empty, List.splitOn_nil, List.length_singleton] at count
    omega
  · have bound := few.2
    omega
  · rw [splitOn_wireText, TelemetryRecord.linesWith] at lines ⊢
    simp only [List.getD_cons_zero, List.getD_cons_succ, List.drop_succ_cons,
      List.drop_zero]
    simp only [List.forall_mem_cons] at lines
    obtain ⟨shortFirst, shortSecond, _, shortRows⟩ := lines
    have version : 0 ≤ record.schemaVersion :=
      record.valid.version.symm ▸ by decide
    simp only [bind_eq_ok]
    exact ⟨_, (readWireHeaderInt_eq_ok shortFirst).mpr ⟨version, rfl⟩, (),
      require_eq_ok.mpr (beq_iff_eq.mpr record.valid.version), _,
      (readWireHeaderInt_eq_ok shortSecond).mpr ⟨record.valid.observed, rfl⟩,
      _, readWireHeaderText_eq_ok.mpr rfl, _, (series_eq_ok shortRows).mpr rfl,
      TelemetryRecord.create_eq_ok.mpr ⟨rfl, rfl, rfl, rfl⟩⟩

/-! ## Bytes -/

theorem wireText_ascii (record : TelemetryRecord) :
    record.wireText.all isAscii := by
  have printable : ∀ c : CodePoint, isTelemetryCharacter c → isAscii c := by
    intro c range
    simp only [isTelemetryCharacter, Bool.and_eq_true, decide_eq_true_eq]
      at range
    simp only [isAscii, decide_eq_true_eq]
    omega
  have lines := printable_lines record
  rw [TelemetryRecord.wireText]
  generalize record.linesWith _ _ = parts at lines
  induction parts with
  | nil => rfl
  | cons part rest ih =>
      rw [List.forall_mem_cons, List.all_eq_true] at lines
      have first : part.all isAscii := List.all_eq_true.mpr
        fun c member => printable c (lines.1 c member)
      cases rest with
      | nil => rwa [List.intercalate_singleton]
      | cons second others =>
          have later := ih lines.2
          have between : isAscii newline := by decide
          rw [List.intercalate_cons_of_ne_nil (List.cons_ne_nil _ _)]
          simp only [List.all_append, List.all_cons, List.all_nil, first,
            between, later, Bool.and_true]

theorem formatInt_eq_ok {number : Int} {digits : Text} :
    formatInt number = .ok digits ↔
      (decimal number.natAbs).length ≤ 4300 ∧ digits = decimalInt number := by
  simp only [formatInt, check_bind_eq_ok, require_eq_ok, decide_eq_true_eq,
    pure, Except.pure, Except.ok.injEq]
  exact and_congr_right fun _ => eq_comm

namespace TelemetryRecord

/-- A short text holds no number that cannot be formatted. -/
theorem numbers_formatted {record : TelemetryRecord}
    (short : record.wireText.length ≤ maxTelemetryRecordBytes) :
    formatInt record.schemaVersion = .ok (decimalInt record.schemaVersion) ∧
      formatInt record.observedAtMicros =
        .ok (decimalInt record.observedAtMicros) := by
  constructor
  · rw [record.valid.version]
    rfl
  · have member : text "observed_at_micros=" ++
        decimalInt record.observedAtMicros ∈
          record.wireText.splitOn newline := by
      rw [splitOn_wireText]
      exact List.mem_cons_of_mem _ List.mem_cons_self
    have bound := (length_le_of_mem_splitOn member).trans short
    rw [List.length_append, decimalInt_of_nonneg record.valid.observed]
      at bound
    have few : maxTelemetryRecordBytes ≤ 4300 := by decide
    exact formatInt_eq_ok.mpr ⟨by omega, rfl⟩

theorem wireBytes_eq_ok {record : TelemetryRecord} {payload : Bytes} :
    record.wireBytes = .ok payload ↔
      encodeAscii record.wireText = payload ∧
        payload.length ≤ maxTelemetryRecordBytes := by
  have encoded : encodeUtf8 record.wireText =
      .ok (encodeAscii record.wireText) := utf8_of_ascii (wireText_ascii record)
  simp only [wireBytes, bind_eq_ok, formatInt_eq_ok, mapError_eq_ok,
    require_eq_ok, decide_eq_true_eq, pure, Except.pure, Except.ok.injEq]
  constructor
  · rintro ⟨_, ⟨_, rfl⟩, _, ⟨_, rfl⟩, _, same, _, short, rfl⟩
    rw [← wireText, encoded] at same
    cases same
    exact ⟨rfl, short⟩
  · rintro ⟨rfl, short⟩
    have length : record.wireText.length ≤ maxTelemetryRecordBytes := by
      rwa [encodeAscii, List.length_map] at short
    obtain ⟨version, observed⟩ := numbers_formatted length
    exact ⟨_, formatInt_eq_ok.mp version, _, formatInt_eq_ok.mp observed, _,
      encoded, (), short, rfl⟩

/-- A record is decoded from the payload that it is encoded to. -/
theorem fromWireBytes_eq_ok {record : TelemetryRecord} {payload : Bytes} :
    fromWireBytes payload = .ok record ↔ record.wireBytes = .ok payload := by
  rw [wireBytes_eq_ok, fromWireBytes, check_bind_eq_ok, require_eq_ok,
    decide_eq_true_eq]
  constructor
  · rintro ⟨short, read⟩
    cases decoded : decodeAscii payload with
    | none =>
        rw [decoded] at read
        cases read
    | some t =>
        rw [decoded] at read
        obtain ⟨_, rfl⟩ := decodeAscii_eq_some.mp decoded
        have length : t.length ≤ maxTelemetryRecordBytes := by
          rwa [encodeAscii, List.length_map] at short
        rw [← readWireText_sound length read]
        exact ⟨rfl, short⟩
  · rintro ⟨rfl, short⟩
    have decoded := decodeAscii_eq_some.mpr ⟨wireText_ascii record, rfl⟩
    have length : record.wireText.length ≤ maxTelemetryRecordBytes := by
      rwa [encodeAscii, List.length_map] at short
    refine ⟨short, ?_⟩
    rw [decoded]
    exact readWireText_complete record length

end TelemetryRecord

/-! ## What the decoder raises -/

theorem readWireHeaderText_raises (line : Text) (key : String) :
    RaisesTelemetryErrors (readWireHeaderText line key) := by
  rw [readWireHeaderText]
  split
  · exact .ok _
  · exact .error rfl

theorem requireNumeral_raises (digits : Text) (subject : String) :
    RaisesTelemetryErrors (requireNumeral digits subject) :=
  .bind (.require rfl) fun _ _ => .require rfl

theorem parseInt_raises {digits : Text} (short : digits.length ≤ 4300) :
    RaisesTelemetryErrors (parseInt digits) :=
  .returns ⟨_, (parseInt_eq_ok short).mpr rfl⟩

theorem readWireHeaderInt_raises {line : Text} (key : String)
    (short : line.length ≤ 4300) :
    RaisesTelemetryErrors (readWireHeaderInt line key) := by
  refine .bind (readWireHeaderText_raises line key) fun digits read => ?_
  have form := readWireHeaderText_eq_ok.mp read
  rw [form, List.length_append] at short
  exact .bind (requireNumeral_raises _ _) fun _ _ =>
    parseInt_raises (by omega)

theorem readLabelValue_raises (field : Text) :
    RaisesTelemetryErrors (readLabelValue field) := by
  fun_induction readLabelValue field with
  | case1 => exact .ok _
  | case2 => exact .error rfl
  | case3 next later reserved ih => exact .map ih
  | case4 => exact .error rfl
  | case5 => exact .ok _
  | case6 => exact .error rfl
  | case7 c later apart separates plain ih => exact .map ih

theorem readLabel_raises (field : Text) :
    RaisesTelemetryErrors (readLabel field) := by
  rw [readLabel]
  split
  · exact .error rfl
  · split
    · exact .error rfl
    · exact .map (readLabelValue_raises _)

theorem readLabels_raises (field : Text) :
    RaisesTelemetryErrors (readLabels field) := by
  fun_induction readLabels field with
  | case1 field failure first =>
      exact .error (readLabel_raises field failure first)
  | case2 => exact .ok _
  | case3 => exact .error rfl
  | case4 field label c next rest first ih => exact .map ih

theorem parseWireMetricLine_raises {line : Text}
    (short : line.length ≤ 4300) :
    RaisesTelemetryErrors (parseWireMetricLine line) := by
  rw [parseWireMetricLine]
  split
  · rename_i name rawKind digits field split_
    have whole : [bar].intercalate (splitWireMetricFields line) = line :=
      intercalate_splitUnescaped [] line
    have bound := digits_length_le name rawKind digits field
    rw [← split_, whole] at bound
    refine .bind (requireKind_raises _ _) fun _ _ =>
      .bind (requireNumeral_raises _ _) fun _ _ => .bind ?_ fun _ _ =>
      .bind (parseInt_raises (bound.trans short)) fun _ _ =>
      TelemetryMetric.create_raises _ _ _ _
    rw [parseWireLabels]
    split
    · exact .ok _
    · exact readLabels_raises field
  · exact .error rfl

theorem readWireText_raises {t : Text}
    (short : t.length ≤ maxTelemetryRecordBytes) :
    RaisesTelemetryErrors (readWireText t) := by
  have lines : ∀ line ∈ t.splitOn newline, line.length ≤ 4300 :=
    fun line member => (length_le_of_mem_splitOn member).trans
      (short.trans (by decide))
  have nth (index : Nat) :
      ((t.splitOn newline).getD index []).length ≤ 4300 := by
    rw [List.getD_eq_getElem?_getD]
    cases found : (t.splitOn newline)[index]? with
    | none => exact Nat.zero_le _
    | some line => exact lines line (List.mem_of_getElem? found)
  exact .bind (.require rfl) fun _ _ => .bind (.require rfl) fun _ _ =>
    .bind (.require rfl) fun _ _ => .bind (.require rfl) fun _ _ =>
    .bind (readWireHeaderInt_raises _ (nth 0)) fun _ _ =>
    .bind (.require rfl) fun _ _ =>
    .bind (readWireHeaderInt_raises _ (nth 1)) fun _ _ =>
    .bind (readWireHeaderText_raises _ _) fun _ _ =>
    .bind (.mapM fun row member => parseWireMetricLine_raises
      (lines row (List.mem_of_mem_drop member))) fun _ _ =>
    TelemetryRecord.create_raises _ _ _ _

namespace TelemetryRecord

/-- Every other payload raises a telemetry error. -/
theorem fromWireBytes_raises (payload : Bytes) :
    RaisesTelemetryErrors (fromWireBytes payload) := by
  intro failure raised
  rw [fromWireBytes] at raised
  rcases bind_eq_error.mp raised with long | ⟨_, short, later⟩
  · exact (show RaisesTelemetryErrors _ from .require rfl) failure long
  · cases decoded : decodeAscii payload with
    | none =>
        rw [decoded] at later
        cases later
        rfl
    | some t =>
        rw [decoded] at later
        obtain ⟨_, rfl⟩ := decodeAscii_eq_some.mp decoded
        rw [require_eq_ok, decide_eq_true_eq, encodeAscii, List.length_map]
          at short
        exact readWireText_raises short failure later

/--
Both codecs of a record are exact inverses: what is encoded is decoded to the
record, what is decoded is the encoding of its record, and everything else
raises a telemetry error.
-/
theorem codecs_invert :
    (∀ (record : TelemetryRecord) (payload : Bytes),
      record.wireBytes = .ok payload → fromWireBytes payload = .ok record) ∧
    (∀ (payload : Bytes) (record : TelemetryRecord),
      fromWireBytes payload = .ok record → record.wireBytes = .ok payload) ∧
    (∀ (payload : Bytes) (failure : TelemetryFailure),
      fromWireBytes payload = .error failure → failure.isTelemetryError) ∧
    (∀ record : TelemetryRecord,
      fromMapping (.mapping record.toMapping) = .ok record) ∧
    (∀ (data : PlainValue) (record : TelemetryRecord),
      fromMapping data = .ok record →
        data.Equal (.mapping record.toMapping)) ∧
    ∀ (data : PlainValue) (failure : TelemetryFailure),
      fromMapping data = .error failure → failure.isTelemetryError :=
  ⟨fun _ _ => fromWireBytes_eq_ok.mpr, fun _ _ => fromWireBytes_eq_ok.mp,
    fun payload => fromWireBytes_raises payload, fromMapping_toMapping,
    fun _ _ => fromMapping_equal, fun data => fromMapping_raises data⟩

end TelemetryRecord

end ParityGrid.Application
