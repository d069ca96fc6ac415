import ParityGrid.Foundation.Json
import ParityGrid.Foundation.Dict

/-!
# Reading JSON

`jsonLoads` is `json.loads` of a text: the scanner of the standard library,
with whitespace, escapes, surrogate pairs, constants and repeated keys as it
treats them.  What `jsonDumps` wrote is read back as the document in key order.
-/

namespace ParityGrid.Foundation

/-- The exceptions of `json.loads`. -/
inductive JsonFailure where
  /-- `json.JSONDecodeError`. -/
  | malformed
  /-- The `ValueError` of an integer with more than 4300 digits. -/
  | digits
  /-- `RecursionError`. -/
  | nesting
deriving DecidableEq

/-! ## Numbers -/

/-- The fraction of a number, when one follows. -/
def takeFraction : Text → Text × Text
  | [] => ([], [])
  | c :: rest =>
      if c = point '.' && rest.head?.any isDigit then
        (c :: rest.takeWhile isDigit, rest.dropWhile isDigit)
      else ([], c :: rest)

/-- An optional sign. -/
def takeSign : Text → Text × Text
  | [] => ([], [])
  | c :: rest =>
      if c = point '+' || c = point '-' then ([c], rest) else ([], c :: rest)

/-- The exponent of a number, when one follows. -/
def takeExponent : Text → Text × Text
  | [] => ([], [])
  | c :: rest =>
      let (sign, digits) := takeSign rest
      if (c = point 'e' || c = point 'E') && digits.head?.any isDigit then
        (c :: sign ++ digits.takeWhile isDigit, digits.dropWhile isDigit)
      else ([], c :: rest)

/-- `0`, or a run of digits that does not begin with it. -/
def takeWhole : Text → Option (Text × Text)
  | [] => none
  | c :: rest =>
      if c = point '0' then some ([c], rest)
      else if isDigit c then
        some (c :: rest.takeWhile isDigit, rest.dropWhile isDigit)
      else none

/-- The three parts that the pattern of a number matches, and what follows. -/
structure NumberMatch where
  negative : Bool
  whole : Text
  fraction : Text
  exponent : Text
  rest : Text

/-- The pattern of a number, at the start of a text. -/
def matchNumber (t : Text) : Option NumberMatch := do
  let negative := decide (t.head? = some (point '-'))
  let (whole, rest) ← takeWhole (if negative then t.tail else t)
  let (fraction, rest) := takeFraction rest
  let (exponent, rest) := takeExponent rest
  pure { negative, whole, fraction, exponent, rest }

/-- The text of a number. -/
def NumberMatch.literal (number : NumberMatch) : Text :=
  (if number.negative then [point '-'] else []) ++ number.whole ++
    number.fraction ++ number.exponent

/-- The number is read by `float`. -/
def NumberMatch.isFloat (number : NumberMatch) : Bool :=
  !(number.fraction.isEmpty && number.exponent.isEmpty)

/-- A text that the pattern matches whole, with a fraction or an exponent. -/
def isFloatLiteral (t : Text) : Bool :=
  (matchNumber t).any fun number => number.isFloat && number.rest.isEmpty

/--
What the host runtime supplies to `json.loads`: `float.__repr__` of the float
that a literal denotes, as `json.dumps` writes it, and how many nested
containers it enters before `RecursionError`.

The laws are the documented ones: a literal beyond the largest float is an
infinity, and every other `repr` is a literal that denotes the same float.
A text that is no literal stands for an infinity.
-/
class JsonRuntime extends PythonRuntime where
  floatRepr : Text → FloatText
  jsonReadingLimit : Nat
  floatRepr_repr : ∀ literal,
    (floatRepr literal).value = text "Infinity" ∨
      (floatRepr literal).value = text "-Infinity" ∨
      (isFloatLiteral (floatRepr literal).value ∧
        floatRepr (floatRepr literal).value = floatRepr literal)
  jsonReadingLimit_large : 100 ≤ jsonReadingLimit

export JsonRuntime (floatRepr jsonReadingLimit)

/-- A runtime that is exact on ASCII texts and on documents without floats. -/
@[reducible]
def asciiJsonRuntime : JsonRuntime where
  toPythonRuntime := asciiRuntime
  floatRepr _ := ⟨text "Infinity", by decide, by decide⟩
  jsonReadingLimit := 1000
  floatRepr_repr _ := .inl rfl
  jsonReadingLimit_large := asciiRuntime.jsonNestingLimit_large

/-! ## Strings -/

def hexValue (c : CodePoint) : Option Nat :=
  if isDigit c then some (c.val - 0x30)
  else if 0x61 ≤ c.val && c.val ≤ 0x66 then some (c.val - 0x57)
  else if 0x41 ≤ c.val && c.val ≤ 0x46 then some (c.val - 0x37)
  else none

/-- The code unit of a four-digit escape. -/
def hexUnit (third second first zeroth : CodePoint) : Option CodeUnit := do
  let third ← hexValue third
  let second ← hexValue second
  let first ← hexValue first
  let zeroth ← hexValue zeroth
  pure (Fin.ofNat _ (0x1000 * third + 0x100 * second + 0x10 * first + zeroth))

/-- What a backslash and a letter other than `u` stand for. -/
def unescape (letter : CodePoint) : Option CodePoint :=
  if letter = point '"' || letter = point '\\' || letter = point '/' then
    some letter
  else if letter = point 'b' then some 0x08
  else if letter = point 'f' then some 0x0C
  else if letter = point 'n' then some 0x0A
  else if letter = point 'r' then some 0x0D
  else if letter = point 't' then some 0x09
  else none

/-- One piece of a string: a character, or a four-digit escape. -/
inductive StringPiece where
  | raw (c : CodePoint)
  | escape (u : CodeUnit)
deriving DecidableEq

/-- The pieces of a string up to its closing quote, and what follows. -/
def readPieces : Text → Except JsonFailure (List StringPiece × Text)
  | [] => .error .malformed
  | c :: rest =>
      if c = point '"' then .ok ([], rest)
      else if c = point '\\' then
        match rest with
        | [] => .error .malformed
        | letter :: rest =>
            if letter = point 'u' then
              match rest with
              | third :: second :: first :: zeroth :: rest =>
                  match hexUnit third second first zeroth with
                  | none => .error .malformed
                  | some u =>
                      (readPieces rest).map fun (pieces, after) =>
                        (.escape u :: pieces, after)
              | _ => .error .malformed
            else
              match unescape letter with
              | none => .error .malformed
              | some plain =>
                  (readPieces rest).map fun (pieces, after) =>
                    (.raw plain :: pieces, after)
      else if c.val < 0x20 then .error .malformed
      else
        (readPieces rest).map fun (pieces, after) => (.raw c :: pieces, after)

def isHighUnit (u : CodeUnit) : Bool :=
  0xD800 ≤ u.val && u.val ≤ 0xDBFF

def isLowUnit (u : CodeUnit) : Bool :=
  0xDC00 ≤ u.val && u.val ≤ 0xDFFF

/-- A code unit by itself. -/
def unitPoint (u : CodeUnit) : CodePoint :=
  Fin.ofNat _ u.val

/-- The character of a surrogate pair. -/
def pairPoint (high low : CodeUnit) : CodePoint :=
  Fin.ofNat _ (0x10000 + 0x400 * (high.val - 0xD800) + (low.val - 0xDC00))

/-- Join the pieces, after a high surrogate that an escape stands for. -/
def joinPieces : Option CodeUnit → List StringPiece → Text
  | none, [] => []
  | none, .raw c :: rest => c :: joinPieces none rest
  | none, .escape u :: rest =>
      if isHighUnit u then joinPieces (some u) rest
      else unitPoint u :: joinPieces none rest
  | some high, [] => [unitPoint high]
  | some high, .raw c :: rest => unitPoint high :: c :: joinPieces none rest
  | some high, .escape u :: rest =>
      if isLowUnit u then pairPoint high u :: joinPieces none rest
      else if isHighUnit u then unitPoint high :: joinPieces (some u) rest
      else unitPoint high :: unitPoint u :: joinPieces none rest

/-- A string, after its opening quote. -/
def readString (t : Text) : Except JsonFailure (Text × Text) :=
  (readPieces t).map fun (pieces, after) => (joinPieces none pieces, after)

/-! ## Values -/

def isJsonSpace (c : CodePoint) : Bool :=
  c = point ' ' || c.val = 0x09 || c.val = 0x0A || c.val = 0x0D

def skipSpace (t : Text) : Text :=
  t.dropWhile isJsonSpace

def nanText : FloatText := ⟨text "NaN", by decide, by decide⟩

def infinityText : FloatText := ⟨text "Infinity", by decide, by decide⟩

def negativeInfinityText : FloatText :=
  ⟨text "-Infinity", by decide, by decide⟩

/-- The names of constants. -/
def jsonConstants : List (Text × JsonScalar) :=
  [(text "null", .null), (text "true", .bool true), (text "false", .bool false),
    (text "NaN", .float nanText), (text "Infinity", .float infinityText),
    (text "-Infinity", .float negativeInfinityText)]

/-- The constant at the start of a text, and what follows. -/
def readConstant (t : Text) : Option (JsonScalar × Text) :=
  jsonConstants.findSome? fun (name, value) =>
    if name.isPrefixOf t then some (value, t.drop name.length) else none

section Reading

variable [JsonRuntime]

/-- The number at the start of a text, and what follows. -/
def readNumber (t : Text) : Except JsonFailure (JsonScalar × Text) :=
  match matchNumber t with
  | none => .error .malformed
  | some number =>
      if number.isFloat then
        .ok (.float (floatRepr number.literal), number.rest)
      else if 4300 < number.whole.length then .error .digits
      else if number.negative then
        .ok (.int (-(numeral number.whole : Int)), number.rest)
      else .ok (.int (numeral number.whole), number.rest)

/-- A constant or a number. -/
def readScalar (t : Text) : Except JsonFailure (JsonScalar × Text) :=
  match readConstant t with
  | some found => .ok found
  | none => readNumber t

mutual

/--
The value at the start of a text, and what follows.  The fuel bounds the calls;
each container that is entered below `depth` open ones counts towards the limit.
-/
def readValue (depth : Nat) : Nat → Text → Except JsonFailure (JsonValue × Text)
  | 0, _ => .error .malformed
  | _ + 1, [] => .error .malformed
  | fuel + 1, c :: rest =>
      if c = point '"' then
        (readString rest).map fun (value, after) => (.string value, after)
      else if c = point '\x7b' then
        if jsonReadingLimit ≤ depth then .error .nesting
        else
          match skipSpace rest with
          | [] => .error .malformed
          | d :: after =>
              if d = point '\x7d' then .ok (.object [], after)
              else
                (readFields (depth + 1) fuel [] (d :: after)).map
                  fun (fields, after) => (.object fields, after)
      else if c = point '[' then
        if jsonReadingLimit ≤ depth then .error .nesting
        else
          match skipSpace rest with
          | [] => .error .malformed
          | d :: after =>
              if d = point ']' then .ok (.array [], after)
              else
                (readItems (depth + 1) fuel (d :: after)).map
                  fun (items, after) => (.array items, after)
      else
        (readScalar (c :: rest)).map fun (value, after) =>
          (.scalar value, after)

/-- The items of an array, up to its end. -/
def readItems (depth : Nat) :
    Nat → Text → Except JsonFailure (List JsonValue × Text)
  | 0, _ => .error .malformed
  | fuel + 1, t => do
      let (item, after) ← readValue depth fuel t
      match skipSpace after with
      | [] => .error .malformed
      | d :: after =>
          if d = point ']' then .ok ([item], after)
          else if d = point ',' then
            (readItems depth fuel (skipSpace after)).map
              fun (items, after) => (item :: items, after)
          else .error .malformed

/-- The fields of an object, up to its end; the last value of a key counts. -/
def readFields (depth : Nat) :
    Nat → List (Text × JsonValue) → Text →
      Except JsonFailure (List (Text × JsonValue) × Text)
  | 0, _, _ => .error .malformed
  | _ + 1, _, [] => .error .malformed
  | fuel + 1, fields, c :: rest =>
      if c = point '"' then do
        let (key, after) ← readString rest
        match skipSpace after with
        | [] => .error .malformed
        | d :: after =>
            if d = point ':' then do
              let (value, after) ← readValue depth fuel (skipSpace after)
              let fields := alter key (fun _ => value) fields
              match skipSpace after with
              | [] => .error .malformed
              | d :: after =>
                  if d = point '\x7d' then .ok (fields, after)
                  else if d = point ',' then
                    readFields depth fuel fields (skipSpace after)
                  else .error .malformed
            else .error .malformed
      else .error .malformed

end

/-- `json.loads(value)`. -/
def jsonLoads (t : Text) : Except JsonFailure JsonValue :=
  if t.head? = some 0xFEFF then .error .malformed
  else do
    let (value, after) ← readValue 0 (2 * t.length + 2) (skipSpace t)
    if (skipSpace after).isEmpty then .ok value else .error .malformed

end Reading

/-! ## `bytes.decode` -/

/-- A character of which some continuation bytes are missing. -/
structure PartialPoint where
  missing : Nat
  least : Nat
  value : Nat

/-- Decode, after the first bytes of a character. -/
def decodeFrom : Option PartialPoint → Bytes → Option Text
  | none, [] => some []
  | some _, [] => none
  | none, b :: rest =>
      if b.val < 0x80 then
        (decodeFrom none rest).map fun t => Fin.ofNat _ b.val :: t
      else if 0xC2 ≤ b.val && b.val ≤ 0xDF then
        decodeFrom (some ⟨1, 0x80, b.val - 0xC0⟩) rest
      else if 0xE0 ≤ b.val && b.val ≤ 0xEF then
        decodeFrom (some ⟨2, 0x800, b.val - 0xE0⟩) rest
      else if 0xF0 ≤ b.val && b.val ≤ 0xF4 then
        decodeFrom (some ⟨3, 0x10000, b.val - 0xF0⟩) rest
      else none
  | some point, b :: rest =>
      let value := 0x40 * point.value + (b.val - 0x80)
      let c : CodePoint := Fin.ofNat _ value
      if !(0x80 ≤ b.val && b.val ≤ 0xBF) then none
      else if 1 < point.missing then
        decodeFrom (some ⟨point.missing - 1, point.least, value⟩) rest
      else if value < point.least || 0x110000 ≤ value || isSurrogate c then none
      else (decodeFrom none rest).map fun t => c :: t

/-- `raw.decode("utf-8")`, or `UnicodeDecodeError`. -/
def decodeUtf8 (raw : Bytes) : Option Text :=
  decodeFrom none raw

theorem decodeFrom_unicode {point : Option PartialPoint} {raw : Bytes}
    {t : Text} (decoded : decodeFrom point raw = some t) : isUnicode t := by
  induction raw generalizing point t with
  | nil =>
      cases point with
      | none =>
          cases decoded
          rfl
      | some point => cases decoded
  | cons b rest ih =>
      cases point with
      | none =>
          simp only [decodeFrom] at decoded
          split at decoded
          next ascii =>
            obtain ⟨others, later, rfl⟩ := Option.map_eq_some_iff.mp decoded
            have whole : isSurrogate (Fin.ofNat _ b.val) = false := by
              apply not_surrogate_of_ascii
              simp only [isAscii, Fin.val_ofNat, decide_eq_true_eq]
              omega
            simp only [isUnicode, List.all_cons, whole, Bool.not_false,
              Bool.true_and]
            exact ih later
          repeat' split at decoded
          all_goals first
            | exact ih decoded
            | cases decoded
      | some point =>
          simp only [decodeFrom] at decoded
          split at decoded
          · cases decoded
          split at decoded
          · exact ih decoded
          split at decoded
          · cases decoded
          next fits =>
            obtain ⟨others, later, rfl⟩ := Option.map_eq_some_iff.mp decoded
            simp only [Bool.or_eq_true, not_or, Bool.not_eq_true] at fits
            simp only [isUnicode, List.all_cons, fits.2, Bool.not_false,
              Bool.true_and]
            exact ih later

/-- Decoded texts are valid Unicode. -/
theorem decodeUtf8_unicode {raw : Bytes} {t : Text}
    (decoded : decodeUtf8 raw = some t) : isUnicode t :=
  decodeFrom_unicode decoded

/-- ASCII texts are decoded as they were encoded. -/
theorem decodeUtf8_encodeAscii {t : Text} (ascii : t.all isAscii) :
    decodeUtf8 (encodeAscii t) = some t := by
  induction t with
  | nil => rfl
  | cons c rest ih =>
      simp only [List.all_cons, Bool.and_eq_true, isAscii, decide_eq_true_eq]
        at ascii
      have value : (Fin.ofNat 256 c.val).val = c.val := by
        simp only [Fin.val_ofNat]
        omega
      have same : (Fin.ofNat 0x110000 c.val : CodePoint) = c :=
        Fin.ext (by simp only [Fin.val_ofNat]; omega)
      have later := ih ascii.2
      simp only [decodeUtf8, encodeAscii] at later
      simp only [decodeUtf8, encodeAscii, List.map_cons, decodeFrom, value,
        ascii.1, if_true, later, Option.map_some, same]

end ParityGrid.Foundation
