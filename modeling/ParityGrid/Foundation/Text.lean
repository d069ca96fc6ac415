import Mathlib

/-!
# Text, bytes and exceptions of the host language

A text is a sequence of Unicode code points in which surrogates may stand
alone, exactly as a Python `str` allows.  This module fixes texts, bytes, the
UTF-8 and ASCII codecs, decimal rendering of integers and the exceptions that
a modelled function can raise.

The Unicode character database is not part of any program that uses it.  The
class `PythonRuntime` therefore carries the three database functions that
programs call, together with the documented laws they rely on, and the nesting
depth at which the JSON encoder gives up.
-/

namespace ParityGrid.Foundation

/-! ## Code points and texts -/

/-- One Unicode code point, lone surrogates included. -/
abbrev CodePoint := Fin 0x110000

/-- A Python text: any sequence of code points. -/
abbrev Text := List CodePoint

abbrev Byte := Fin 256

abbrev Bytes := List Byte

-- Named instances, so that definitions refer to them and prove nothing anew.
instance codePoint_neZero : NeZero 0x110000 := ⟨by decide⟩

instance byte_neZero : NeZero 256 := ⟨by decide⟩

instance text_lawfulBEq : LawfulBEq Text := inferInstance

/-- The code point of a character literal. -/
def point (character : Char) : CodePoint :=
  Fin.ofNat _ character.toNat

/-- The text of a string literal. -/
def text (literal : String) : Text :=
  literal.toList.map point

theorem point_val (character : Char) :
    (point character).val = character.toNat := by
  have bound : character.toNat < 0x110000 := by
    have valid := character.valid
    simp only [UInt32.isValidChar, Nat.isValidChar] at valid
    simp only [Char.toNat]
    omega
  simp [point, Fin.ofNat, Nat.mod_eq_of_lt bound]

theorem point_injective : Function.Injective point := by
  intro left right equal
  have values : left.toNat = right.toNat := by
    rw [← point_val left, ← point_val right, equal]
  exact Char.toNat_inj.mp values

theorem text_injective : Function.Injective text := by
  intro left right equal
  exact String.toList_injective
    (List.map_injective_iff.mpr point_injective equal)

/-- Literal keys are compared as the strings they are written as. -/
@[simp]
theorem text_beq (left right : String) :
    (text left == text right) = (left == right) := by
  rw [Bool.eq_iff_iff, beq_iff_eq, beq_iff_eq]
  exact text_injective.eq_iff

def isAscii (c : CodePoint) : Bool :=
  c.val < 0x80

/-- Surrogate code points never denote a character of their own. -/
def isSurrogate (c : CodePoint) : Bool :=
  0xD800 ≤ c.val && c.val ≤ 0xDFFF

def isDigit (c : CodePoint) : Bool :=
  0x30 ≤ c.val && c.val ≤ 0x39

def isUpper (c : CodePoint) : Bool :=
  0x41 ≤ c.val && c.val ≤ 0x5A

def isLower (c : CodePoint) : Bool :=
  0x61 ≤ c.val && c.val ≤ 0x7A

def isHexLower (c : CodePoint) : Bool :=
  isDigit c || (0x61 ≤ c.val && c.val ≤ 0x66)

theorem not_surrogate_of_ascii {c : CodePoint} (ascii : isAscii c) :
    isSurrogate c = false := by
  simp only [isAscii, isSurrogate, decide_eq_true_eq] at *
  simp only [Bool.and_eq_false_iff, decide_eq_false_iff_not]
  omega

/-- Valid Unicode text: no surrogate stands alone. -/
def isUnicode (t : Text) : Bool :=
  t.all fun c => !isSurrogate c

theorem isUnicode_of_ascii {t : Text} (ascii : t.all isAscii) :
    isUnicode t := by
  simp only [isUnicode, List.all_eq_true] at *
  intro c member
  simp [not_surrogate_of_ascii (ascii c member)]

/-- A character is never a surrogate. -/
theorem point_not_surrogate (character : Char) :
    isSurrogate (point character) = false := by
  have valid := character.valid
  simp only [UInt32.isValidChar, Nat.isValidChar] at valid
  simp only [isSurrogate, point_val, Bool.and_eq_false_iff,
    decide_eq_false_iff_not, Char.toNat]
  omega

@[simp]
theorem isUnicode_text (literal : String) : isUnicode (text literal) := by
  simp only [isUnicode, text, List.all_map, List.all_eq_true]
  intro character _
  simp [point_not_surrogate]

/-- `str.lower` on the ASCII range; other code points are kept. -/
def lowerPoint (c : CodePoint) : CodePoint :=
  if isUpper c then Fin.ofNat _ (c.val + 0x20) else c

def lower (t : Text) : Text :=
  t.map lowerPoint

/-! ## Codecs -/

/-- The UTF-8 form of one code point. -/
def utf8Bytes (c : CodePoint) : Bytes :=
  let n := c.val
  if n < 0x80 then
    [Fin.ofNat _ n]
  else if n < 0x800 then
    [Fin.ofNat _ (0xC0 + n / 0x40), Fin.ofNat _ (0x80 + n % 0x40)]
  else if n < 0x10000 then
    [Fin.ofNat _ (0xE0 + n / 0x1000), Fin.ofNat _ (0x80 + n / 0x40 % 0x40),
      Fin.ofNat _ (0x80 + n % 0x40)]
  else
    [Fin.ofNat _ (0xF0 + n / 0x40000), Fin.ofNat _ (0x80 + n / 0x1000 % 0x40),
      Fin.ofNat _ (0x80 + n / 0x40 % 0x40), Fin.ofNat _ (0x80 + n % 0x40)]

/-- `len(value.encode("utf-8"))` of an encodable text. -/
def utf8Length (t : Text) : Nat :=
  (t.flatMap utf8Bytes).length

theorem utf8Bytes_ascii {c : CodePoint} (ascii : isAscii c) :
    utf8Bytes c = [Fin.ofNat _ c.val] := by
  simp only [isAscii, decide_eq_true_eq] at ascii
  simp [utf8Bytes, ascii]

theorem utf8Length_ascii {t : Text} (ascii : t.all isAscii) :
    utf8Length t = t.length := by
  induction t with
  | nil => rfl
  | cons c rest ih =>
      simp only [List.all_cons, Bool.and_eq_true] at ascii
      have tail := ih ascii.2
      simp only [utf8Length] at tail
      simp only [utf8Length, List.flatMap_cons, List.length_append,
        utf8Bytes_ascii ascii.1, List.length_cons, List.length_nil, tail]
      omega

/-- `value.encode("ascii")` of an ASCII text. -/
def encodeAscii (t : Text) : Bytes :=
  t.map fun c => Fin.ofNat _ c.val

theorem encodeAscii_injOn {left right : Text}
    (leftAscii : left.all isAscii) (rightAscii : right.all isAscii)
    (equal : encodeAscii left = encodeAscii right) :
    left = right := by
  induction left generalizing right with
  | nil =>
      cases right with
      | nil => rfl
      | cons c rest => simp [encodeAscii] at equal
  | cons c rest ih =>
      cases right with
      | nil => simp [encodeAscii] at equal
      | cons d tail =>
          simp only [List.all_cons, Bool.and_eq_true] at leftAscii rightAscii
          simp only [encodeAscii, List.map_cons, List.cons.injEq] at equal
          have headEqual : c = d := by
            have values := congrArg Fin.val equal.1
            have cBound := leftAscii.1
            have dBound := rightAscii.1
            simp only [isAscii, decide_eq_true_eq] at cBound dBound
            simp only [Fin.val_ofNat] at values
            exact Fin.ext (by omega)
          rw [headEqual, ih leftAscii.2 rightAscii.2 equal.2]

/-! ## Decimal text -/

/-- `str(n)` of a natural number. -/
def decimal (n : Nat) : Text :=
  (Nat.toDigits 10 n).map point

/-- `str(i)` of an integer. -/
def decimalInt (i : Int) : Text :=
  if i < 0 then point '-' :: decimal i.natAbs else decimal i.natAbs

/-- `int(digits)` of a run of decimal digits. -/
def numeral (digits : Text) : Nat :=
  digits.foldl (fun n c => 10 * n + (c.val - 0x30)) 0

theorem decimal_injective : Function.Injective decimal := by
  intro left right equal
  have digits := List.map_injective_iff.mpr point_injective equal
  rw [← Nat.ofDigitChars_ten_toDigits (n := left), digits,
    Nat.ofDigitChars_ten_toDigits]

theorem point_isDigit {character : Char} (digit : character.isDigit) :
    isDigit (point character) := by
  have bounds : 48 ≤ character.toNat ∧ character.toNat ≤ 57 :=
    Char.isDigit_iff_toNat.mp digit
  simp only [isDigit, point_val, Bool.and_eq_true, decide_eq_true_eq]
  omega

theorem decimal_all_digit (n : Nat) : (decimal n).all isDigit := by
  simp only [decimal, List.all_eq_true, List.mem_map]
  rintro c ⟨character, member, rfl⟩
  exact point_isDigit
    (Nat.isDigit_of_mem_toDigits (by decide) (by decide) member)

theorem decimal_ne_nil (n : Nat) : decimal n ≠ [] := by
  simp [decimal, Nat.toDigits_ne_nil]

theorem decimal_length_le {n k : Nat} (positive : 0 < k) :
    (decimal n).length ≤ k ↔ n < 10 ^ k := by
  simp only [decimal, List.length_map]
  exact Nat.length_toDigits_le_iff (by decide) positive

theorem isAscii_of_isDigit {c : CodePoint} (digit : isDigit c) : isAscii c := by
  simp only [isDigit, Bool.and_eq_true, decide_eq_true_eq] at digit
  simp only [isAscii, decide_eq_true_eq]
  omega

theorem decimal_head_digit (n : Nat) :
    ∃ c rest, decimal n = c :: rest ∧ isDigit c := by
  have digits := decimal_all_digit n
  cases form : decimal n with
  | nil => exact absurd form (decimal_ne_nil n)
  | cons c rest =>
      rw [form] at digits
      simp only [List.all_cons, Bool.and_eq_true] at digits
      exact ⟨c, rest, rfl, digits.1⟩

theorem decimalInt_injective : Function.Injective decimalInt := by
  have signDiffers : ∀ n m : Nat, point '-' :: decimal n ≠ decimal m := by
    intro n m equal
    obtain ⟨c, rest, form, digit⟩ := decimal_head_digit m
    rw [form] at equal
    rw [← (List.cons.inj equal).1] at digit
    revert digit
    decide
  intro left right equal
  simp only [decimalInt] at equal
  split at equal <;> split at equal
  · have magnitude := decimal_injective (List.cons.inj equal).2
    omega
  · exact absurd equal (signDiffers _ _)
  · exact absurd equal.symm (signDiffers _ _)
  · have magnitude := decimal_injective equal
    omega

/-! ## Joined texts -/

/-- `separator.join(parts)` is no longer than its parts and separators. -/
theorem intercalate_length_le (separator : Text) {parts : List Text}
    {bound : Nat} (short : ∀ part ∈ parts, part.length ≤ bound) :
    (separator.intercalate parts).length ≤
      parts.length * (bound + separator.length) := by
  induction parts with
  | nil => simp
  | cons part rest ih =>
      rw [List.forall_mem_cons] at short
      have later := ih short.2
      cases rest with
      | nil =>
          simp only [List.intercalate_singleton, List.length_singleton]
          omega
      | cons next others =>
          simp only [List.intercalate_cons_cons, List.length_append,
            List.length_cons, Nat.add_mul] at later ⊢
          omega

/-! ## Exceptions -/

/-- The exceptions a modelled function can raise. -/
inductive PythonError where
  | typeError (message : Text)
  | valueError (message : Text)
  /-- A lone surrogate met a strict UTF-8 encoder; a `ValueError`. -/
  | unicodeEncodeError
  | keyError
  | overflowError
  | recursionError
  /-- An exception class of the program itself. -/
  | raised (className : Text) (isValueError : Bool) (message : Text)
deriving DecidableEq

/-- What `except (TypeError, ValueError)` catches. -/
def PythonError.isTypeOrValueError : PythonError → Bool
  | .typeError _ => true
  | .valueError _ => true
  | .unicodeEncodeError => true
  | .keyError => false
  | .overflowError => false
  | .recursionError => false
  | .raised _ isValueError _ => isValueError

/-- `str(error)`. -/
def PythonError.message : PythonError → Text
  | .typeError message => message
  | .valueError message => message
  | .unicodeEncodeError => text "surrogates not allowed"
  | .keyError => text "key error"
  | .overflowError => text "int too big to convert"
  | .recursionError => text "maximum recursion depth exceeded"
  | .raised _ _ message => message

/-- `value.encode("utf-8")`, which refuses lone surrogates. -/
def encodeUtf8 (t : Text) : Except PythonError Bytes :=
  if isUnicode t then
    .ok (t.flatMap utf8Bytes)
  else
    .error .unicodeEncodeError

theorem encodeUtf8_ok {t : Text} (unicode : isUnicode t) :
    encodeUtf8 t = .ok (t.flatMap utf8Bytes) := by
  simp [encodeUtf8, unicode]

/-! ## The runtime -/

/--
What the host runtime supplies: `unicodedata.normalize("NFC", ·)`, whether
`unicodedata.category` starts with `C`, `str.isspace` on one character, and
how many nested containers `json.dumps` enters before `RecursionError`.

The laws are the documented ones: normalization is idempotent, keeps ASCII
texts and neither removes nor creates surrogates; surrogates have category
`Cs`; the ASCII range has its fixed classification.
-/
class PythonRuntime where
  nfc : Text → Text
  categoryOther : CodePoint → Bool
  isSpace : CodePoint → Bool
  jsonNestingLimit : Nat
  nfc_nfc : ∀ t, nfc (nfc t) = nfc t
  nfc_ascii : ∀ t : Text, t.all isAscii → nfc t = t
  nfc_isUnicode : ∀ t, isUnicode (nfc t) = isUnicode t
  categoryOther_surrogate : ∀ c, isSurrogate c → categoryOther c
  categoryOther_ascii : ∀ c : CodePoint, isAscii c →
    (categoryOther c ↔ c.val < 0x20 ∨ c.val = 0x7F)
  isSpace_ascii : ∀ c : CodePoint, isAscii c →
    (isSpace c ↔ (9 ≤ c.val ∧ c.val ≤ 13) ∨ (28 ≤ c.val ∧ c.val ≤ 32))
  jsonNestingLimit_large : 100 ≤ jsonNestingLimit

export PythonRuntime (nfc categoryOther isSpace jsonNestingLimit)

/--
A runtime that is exact on ASCII: normalization changes nothing there, and the
classifications are the documented ones.
-/
@[reducible]
def asciiRuntime : PythonRuntime where
  nfc t := t
  categoryOther c := c.val < 0x20 || c.val == 0x7F || isSurrogate c
  isSpace c :=
    (9 ≤ c.val && c.val ≤ 13) || (28 ≤ c.val && c.val ≤ 32)
  jsonNestingLimit := 1000
  nfc_nfc _ := rfl
  nfc_ascii _ _ := rfl
  nfc_isUnicode _ := rfl
  categoryOther_surrogate c surrogate := by simp [surrogate]
  categoryOther_ascii c ascii := by
    simp [not_surrogate_of_ascii ascii]
  isSpace_ascii c _ := by simp
  jsonNestingLimit_large := by decide

/-- `value.strip()`. -/
def strip [PythonRuntime] (t : Text) : Text :=
  ((t.dropWhile isSpace).reverse.dropWhile isSpace).reverse

end ParityGrid.Foundation
