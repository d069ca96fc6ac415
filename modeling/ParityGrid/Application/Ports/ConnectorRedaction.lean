import ParityGrid.Foundation.JsonReading
import ParityGrid.Foundation.Sorting
import ParityGrid.Foundation.Substitution
import ParityGrid.Foundation.Validation

/-!
# Connector redaction

Every text that leaves a connector passes through `redactText`: registered
values are replaced first, then credential URLs, bearer tokens and
assignments, and last whatever follows a secret marker.  Payload fragments are
cut and cleaned before that, and `buildPublicDetail` joins the parts.
-/

namespace ParityGrid.Application

open ParityGrid.Foundation

/--
What the host runtime supplies to patterns and to `repr`: `str.isalnum` or an
underscore, `str.isprintable` and the value of a decimal digit, each on one
character.  The laws fix the ASCII range.
-/
class PatternRuntime extends JsonRuntime where
  isWord : CodePoint → Bool
  isPrintable : CodePoint → Bool
  digitValue : CodePoint → Option Nat
  isWord_ascii : ∀ c : CodePoint, isAscii c →
    isWord c = (isDigit c || isUpper c || isLower c || c == point '_')
  isPrintable_ascii : ∀ c : CodePoint, isAscii c →
    isPrintable c = (0x20 ≤ c.val && c.val ≤ 0x7E)
  digitValue_ascii : ∀ c : CodePoint, isAscii c →
    digitValue c = if isDigit c then some (c.val - 0x30) else none
  digitValue_digit : ∀ c n, digitValue c = some n → n ≤ 9

export PatternRuntime (isWord digitValue)

theorem asciiDigit_le {c : CodePoint} {n : Nat}
    (found : (if isDigit c then some (c.val - 0x30) else none) = some n) :
    n ≤ 9 := by
  split at found
  next digit =>
    cases found
    simp only [isDigit, Bool.and_eq_true, decide_eq_true_eq] at digit
    omega
  next => cases found

/-- A runtime that is exact on ASCII. -/
@[reducible]
def asciiPatternRuntime : PatternRuntime where
  toJsonRuntime := asciiJsonRuntime
  isWord c := isDigit c || isUpper c || isLower c || c == point '_'
  isPrintable c := 0x20 ≤ c.val && c.val ≤ 0x7E
  digitValue c := if isDigit c then some (c.val - 0x30) else none
  isWord_ascii _ _ := rfl
  isPrintable_ascii _ _ := rfl
  digitValue_ascii _ _ := rfl
  digitValue_digit _ _ found := asciiDigit_le found

/-- `REDACTION_PLACEHOLDER`. -/
def redactionPlaceholder : Text := text "<redacted>"

def maxPublicDetailLength : Nat := 512

def maxRedactedTextLength : Nat := 512

def maxFragmentBytes : Nat := 128

/-- `_SECRET_MARKERS`. -/
def secretMarkers : List Text :=
  [text "password=", text "token:", text "bearer ", text "secret/"]

/-- `SENSITIVE_HEADER_NAMES`. -/
def sensitiveHeaderNames : List Text :=
  [text "authorization", text "proxy-authorization", text "cookie",
    text "set-cookie", text "x-api-key", text "api-key", text "x-auth-token",
    text "x-session-token", text "proxy-secret"]

/-- `SENSITIVE_KEY_NAMES`. -/
def sensitiveKeyNames : List Text :=
  sensitiveHeaderNames ++
    [text "password", text "passwd", text "secret", text "token",
      text "access_token", text "refresh_token", text "api_key", text "apikey",
      text "private_key", text "client_secret", text "credentials"]

/-! ## Registered secrets -/

/-- `RedactionError`. -/
def redactionError (message : String) : PythonError :=
  .raised (text "RedactionError") true (text message)

/-- `SecretMaterial`. -/
structure SecretMaterial where
  values : List Text
  nonempty : ∀ value ∈ values, value ≠ []
  bounded : ∀ value ∈ values, value.length ≤ 256
  distinct : values.Nodup

/-- `SecretMaterial.empty()`. -/
def SecretMaterial.empty : SecretMaterial where
  values := []
  nonempty _ member := absurd member List.not_mem_nil
  bounded _ member := absurd member List.not_mem_nil
  distinct := List.nodup_nil

/-- The longest value first; values of one length keep their order. -/
def SecretMaterial.longestFirst (secrets : SecretMaterial) : List Text :=
  sortedBy (fun value => OrderDual.toDual value.length) secrets.values

/-- The first pass of `redact_text`: every registered value. -/
def maskValues (secrets : SecretMaterial) (t : Text) : Text :=
  secrets.longestFirst.foldl
    (fun redacted value => replaceAll value redactionPlaceholder redacted) t

/-! ## Patterns -/

section Patterns

variable [PatternRuntime]

/-- What a character stands for under `(?i)` in an ASCII pattern. -/
def foldPoint (c : CodePoint) : CodePoint :=
  if c.val = 0x130 ∨ c.val = 0x131 then point 'i'
  else if c.val = 0x17F then point 's'
  else if c.val = 0x212A then point 'k'
  else lowerPoint c

/-- The part of a text that an ASCII keyword matches under `(?i)`. -/
def matchKeyword (keyword ahead : Text) : Option Text :=
  if (ahead.take keyword.length).map foldPoint = keyword then
    some (ahead.take keyword.length)
  else none

def takeSpace (ahead : Text) : Text :=
  ahead.takeWhile isSpace

/-- `_CREDENTIAL_URL_PATTERN`, with its replacement. -/
def credentialUrl : Matcher CodePoint := fun _ ahead => do
  let scheme ← [text "https://", text "http://"].find? (·.isPrefixOf ahead)
  let after := ahead.drop scheme.length
  let credentials := after.takeWhile fun c =>
    c ≠ point '/' && c ≠ point '@' && !isSpace c
  guard !credentials.isEmpty
  guard ((after.drop credentials.length).head? = some (point '@'))
  let rest := (after.drop (credentials.length + 1)).takeWhile (!isSpace ·)
  guard !rest.isEmpty
  some (scheme ++ redactionPlaceholder ++ point '@' :: rest,
    scheme.length + credentials.length + 1 + rest.length)

/-- `[A-Za-z0-9._~+/=-]` under `(?i)`. -/
def isTokenChar (c : CodePoint) : Bool :=
  isLower (foldPoint c) || isDigit c || (text "._~+/=-").contains c

/-- `_BEARER_PATTERN`, with its replacement. -/
def bearerToken : Matcher CodePoint := fun _ ahead => do
  let keyword ← matchKeyword (text "bearer") ahead
  let space := takeSpace (ahead.drop keyword.length)
  guard !space.isEmpty
  let opening := keyword ++ space
  let token := (ahead.drop opening.length).takeWhile isTokenChar
  guard !token.isEmpty
  some (opening ++ redactionPlaceholder, opening.length + token.length)

/-- The keywords of `_ASSIGNMENT_PATTERN`; `[_-]?` is written out. -/
def assignmentKeywords : List Text :=
  [text "password", text "passwd", text "secret", text "token",
    text "api_key", text "api-key", text "apikey",
    text "access_key", text "access-key", text "accesskey"]

/-- `[^\s,;&'\"]`. -/
def isAssignedChar (c : CodePoint) : Bool :=
  !isSpace c && !(text ",;&'\"").contains c

/-- `_ASSIGNMENT_PATTERN`, with its replacement. -/
def assignment : Matcher CodePoint := fun before ahead => do
  guard (before.any isWord != ahead.head?.any isWord)
  let keyword ← assignmentKeywords.findSome? (matchKeyword · ahead)
  let after := ahead.drop keyword.length
  let gap := takeSpace after
  let sign ← (after.drop gap.length).head?
  guard (sign = point '=' || sign = point ':')
  let tail := after.drop (gap.length + 1)
  let space := takeSpace tail
  let value := (tail.drop space.length).takeWhile isAssignedChar
  guard !value.isEmpty
  some (keyword ++ point '=' :: redactionPlaceholder,
    keyword.length + gap.length + 1 + space.length + value.length)

/-- The pattern passes of `redact_text`, after the registered values. -/
def maskPatterns (t : Text) : Text :=
  substitute assignment (substitute bearerToken (substitute credentialUrl t))

end Patterns

/-! ## Markers -/

/--
`str.lower` of one character.  A dotted capital I becomes two characters and
the Kelvin sign an ASCII letter.  Every other character outside ASCII becomes
one outside ASCII, which no marker contains, and is kept.
-/
def loweredPoint (c : CodePoint) : Text :=
  if c.val = 0x130 then [point 'i', 0x307]
  else if c.val = 0x212A then [point 'k']
  else [lowerPoint c]

/-- `redacted.lower()`. -/
def lowered (t : Text) : Text :=
  t.flatMap loweredPoint

/-- The characters that end a marked value. -/
def isValueEnd (c : CodePoint) : Bool :=
  (text " \t\r\n,;&)'\"").contains c

/-- The value at the start of a text. -/
def markedValue (t : Text) : Text :=
  t.takeWhile (!isValueEnd ·)

/--
One turn of the marker loop from a position of the lowered copy: the text and
the position of the next turn, or `none` when no marker is left.
-/
def maskTurn (marker t : Text) (start : Nat) : Option (Text × Nat) :=
  (findFrom marker (lowered t) start).map fun position =>
    let begin_ := position + marker.length
    let value := markedValue (t.drop begin_)
    (if value = [] then t
      else t.take begin_ ++ redactionPlaceholder ++
        t.drop (begin_ + value.length),
      begin_ + redactionPlaceholder.length)

/-- The marker loop; `none` when the fuel runs out first. -/
def maskTurns (marker : Text) : Nat → Text → Nat → Option Text
  | 0, _, _ => none
  | fuel + 1, t, start =>
      match maskTurn marker t start with
      | none => some t
      | some (t, start) => maskTurns marker fuel t start

/-- The fuel that the marker loop of a text needs. -/
def maskFuel (t : Text) : Nat :=
  (lowered t).length + 1

/-- Everything that follows one marker. -/
def maskMarker (t marker : Text) : Text :=
  (maskTurns marker (maskFuel t) t 0).getD t

/-- The last pass of `redact_text`: every marker in turn. -/
def maskMarkers (t : Text) : Text :=
  secretMarkers.foldl maskMarker t

/-! ## Decoding with replacements -/

/-- The second byte's range of a lead byte, after the bytes that follow it. -/
def leadRange (b : Byte) : Option (Nat × Nat × Nat) :=
  if 0xC2 ≤ b.val && b.val ≤ 0xDF then some (1, 0x80, 0xBF)
  else if b.val = 0xE0 then some (2, 0xA0, 0xBF)
  else if b.val = 0xED then some (2, 0x80, 0x9F)
  else if 0xE1 ≤ b.val && b.val ≤ 0xEF then some (2, 0x80, 0xBF)
  else if b.val = 0xF0 then some (3, 0x90, 0xBF)
  else if b.val = 0xF4 then some (3, 0x80, 0x8F)
  else if 0xF1 ≤ b.val && b.val ≤ 0xF3 then some (3, 0x80, 0xBF)
  else none

/-- The continuation bytes that a decoder accepts behind a lead byte. -/
def takeContinuation : Nat → Nat → Nat → Bytes → Bytes
  | 0, _, _, _ => []
  | _ + 1, _, _, [] => []
  | missing + 1, low, high, b :: rest =>
      if low ≤ b.val && b.val ≤ high then
        b :: takeContinuation missing 0x80 0xBF rest
      else []

/-- The character at the start of some bytes, and how many bytes it takes; a
malformed sequence is one U+FFFD. -/
def decodePoint (b : Byte) (rest : Bytes) : CodePoint × Nat :=
  if b.val < 0x80 then (Fin.ofNat _ b.val, 1)
  else
    match leadRange b with
    | none => (0xFFFD, 1)
    | some (missing, low, high) =>
        let tail := takeContinuation missing low high rest
        if tail.length < missing then (0xFFFD, 1 + tail.length)
        else
          (Fin.ofNat _ (tail.foldl (fun n b => 0x40 * n + b.val % 0x40)
            (b.val % 2 ^ (6 - missing))), 1 + missing)

/-- `raw.decode("utf-8", errors="replace")`; `skip` bytes are decoded. -/
def decodeReplacing : Nat → Bytes → Text
  | _, [] => []
  | skip + 1, _ :: rest => decodeReplacing skip rest
  | 0, b :: rest =>
      (decodePoint b rest).1 :: decodeReplacing ((decodePoint b rest).2 - 1) rest

/-! ## Redaction -/

/-- `value[: limit - 3] + "..."` of a longer text. -/
def cutText (limit : Nat) (t : Text) : Text :=
  if limit < t.length then t.take (limit - 3) ++ text "..." else t

section Redaction

variable [PatternRuntime]

/-- `redact_text`, before the marker loop. -/
def maskShapes (secrets : SecretMaterial) (t : Text) : Text :=
  maskPatterns (maskValues secrets t)

/-- `redact_text`; no registry is an empty one. -/
def redactText (t : Text) (secrets : SecretMaterial) : Text :=
  cutText maxRedactedTextLength (maskMarkers (maskShapes secrets t))

/-- A payload fragment as a caller has it. -/
inductive Fragment where
  | text (value : Text)
  | bytes (raw : Bytes)

/-- The text that `redact_payload_fragment` cuts. -/
def Fragment.decoded : Fragment → Text
  | .text value => value
  | .bytes raw =>
      (decodeUtf8 raw).getD (decodeReplacing 0 (raw.take maxFragmentBytes))

/-- A fragment keeps its first characters; the ellipsis comes on top. -/
def cutFragment (t : Text) : Text :=
  if maxFragmentBytes < t.length then
    t.take maxFragmentBytes ++ text "..."
  else t

/-- `_CONTROL_CHARACTER_PATTERN.sub("?", text)`. -/
def sanitizePoint (c : CodePoint) : CodePoint :=
  if (0x20 ≤ c.val && c.val ≤ 0x7E) || c == point '\t' then c else point '?'

/-- `redact_payload_fragment`. -/
def redactPayloadFragment (fragment : Fragment) (secrets : SecretMaterial) :
    Text :=
  redactText ((cutFragment fragment.decoded).map sanitizePoint) secrets

/-! ## Structured values -/

/--
A structured value over its texts: keys are given as `str(key)`, and every
other object as its `repr`.
-/
inductive Detail (τ : Type) where
  | none
  | bool (value : Bool)
  | int (value : Int)
  | text (value : τ)
  | mapping (entries : List (τ × Detail τ))
  | sequence (items : List (Detail τ))
  | other (repr : τ)

/-- `key_text.strip().lower() in SENSITIVE_KEY_NAMES`. -/
def isSecretName (key : Text) : Bool :=
  sensitiveKeyNames.contains (lowered (strip key))

mutual

/-- `redact_value`. -/
def redactValue (secrets : SecretMaterial) : Detail Text → Detail Text
  | .none => .none
  | .bool value => .bool value
  | .int value => .int value
  | .text value => .text (redactText value secrets)
  | .mapping entries => .mapping (dictOf (redactEntries secrets entries))
  | .sequence items => .sequence (redactItems secrets items)
  | .other repr => .text (redactText repr secrets)

/-- The entries of a mapping; sensitive keys lose their values. -/
def redactEntries (secrets : SecretMaterial) :
    List (Text × Detail Text) → List (Text × Detail Text)
  | [] => []
  | (key, value) :: rest =>
      (redactText key secrets,
        if isSecretName key then .text redactionPlaceholder
        else redactValue secrets value) :: redactEntries secrets rest

/-- The items of a sequence. -/
def redactItems (secrets : SecretMaterial) :
    List (Detail Text) → List (Detail Text)
  | [] => []
  | item :: rest => redactValue secrets item :: redactItems secrets rest

end

/-! ## `repr` -/

/-- The last hexadecimal digits of a number. -/
def hexDigits (n width : Nat) : Text :=
  (List.range width).reverse.map fun place =>
    hexDigit (Fin.ofNat _ (n / 16 ^ place))

/-- One character of `repr` of a text. -/
def reprPoint (quote c : CodePoint) : Text :=
  if c = quote || c = point '\\' then [point '\\', c]
  else if c = point '\t' then text "\\t"
  else if c = point '\n' then text "\\n"
  else if c = point '\r' then text "\\r"
  else if PatternRuntime.isPrintable c then [c]
  else if c.val < 0x100 then text "\\x" ++ hexDigits c.val 2
  else if c.val < 0x10000 then text "\\u" ++ hexDigits c.val 4
  else text "\\U" ++ hexDigits c.val 8

/-- `repr` of a text, in double quotes when it holds single ones only. -/
def reprText (t : Text) : Text :=
  let quote :=
    if t.contains (point '\'') && !t.contains (point '"') then point '"'
    else point '\''
  quote :: t.flatMap (reprPoint quote) ++ [quote]

/-- `repr` of an integer, which refuses more than 4300 digits. -/
def reprInt (value : Int) : Except PythonError Text :=
  match intReprError value with
  | some error => .error error
  | none => .ok (decimalInt value)

mutual

/-- `repr` of a redacted value. -/
def Detail.repr : Detail Text → Except PythonError Text
  | .none => .ok (ParityGrid.Foundation.text "None")
  | .bool value =>
      .ok (ParityGrid.Foundation.text (if value then "True" else "False"))
  | .int value => reprInt value
  | .text value => .ok (reprText value)
  | .mapping entries => do
      let parts ← reprEntries entries
      .ok (point '\x7b' ::
        (ParityGrid.Foundation.text ", ").intercalate parts ++ [point '\x7d'])
  | .sequence items => do
      let parts ← reprItems items
      .ok (point '[' ::
        (ParityGrid.Foundation.text ", ").intercalate parts ++ [point ']'])
  | .other repr => .ok repr

def reprEntries :
    List (Text × Detail Text) → Except PythonError (List Text)
  | [] => .ok []
  | (key, value) :: rest => do
      let shown ← value.repr
      let others ← reprEntries rest
      .ok ((reprText key ++ ParityGrid.Foundation.text ": " ++ shown) :: others)

def reprItems : List (Detail Text) → Except PythonError (List Text)
  | [] => .ok []
  | item :: rest => do
      let shown ← item.repr
      let others ← reprItems rest
      .ok (shown :: others)

end

/-! ## Public details -/

/-- One `key=value` segment; texts are redacted once more. -/
def renderDetail (secrets : SecretMaterial) (entry : Text × Detail Text) :
    Except PythonError Text :=
  match entry.2 with
  | .text value =>
      .ok (entry.1 ++ point '=' :: redactText value secrets)
  | value => do
      let shown ← value.repr
      .ok (entry.1 ++ point '=' :: shown)

/-- The segments of the details, in key order. -/
def renderDetails (secrets : SecretMaterial)
    (details : List (Text × Detail Text)) : Except PythonError (List Text) :=
  (sortedBy Prod.fst (dictOf (redactEntries secrets details))).mapM
    (renderDetail secrets)

/-- `build_public_detail`. -/
def buildPublicDetail (summary : Text) (fragment : Option Fragment)
    (details : Option (List (Text × Detail Text)))
    (secrets : SecretMaterial) : Except PythonError Text := do
  require (!summary.isEmpty)
    (redactionError "public detail requires a non-empty summary")
  let quoted := fragment.toList.map fun fragment =>
    text "fragment=" ++ redactPayloadFragment fragment secrets
  let rendered ← match details with
    | none => .ok []
    | some details => renderDetails secrets details
  .ok (cutText maxPublicDetailLength ((text "; ").intercalate
    (redactText summary secrets :: quoted ++ rendered)))

/-- `assert_public_text_is_safe`. -/
def assertPublicTextIsSafe (t : Text) (secrets : SecretMaterial) :
    Except PythonError Text := do
  secrets.values.forM fun value =>
    require (findFrom value t 0).isNone
      (redactionError "public text carries registered secret material")
  .ok t

end Redaction

end ParityGrid.Application
