import ParityGrid.Foundation.Json

/-!
# Values of the browser

A JavaScript string is a sequence of UTF-16 code units, and its length counts
them.  A schema reads an untrusted value as a typed one or rejects it whole;
the schemas here are the ones that the validation library composes.
-/

namespace ParityGrid.Foundation

abbrev JsString := List CodeUnit

/-- The string of a text. -/
def jsString (t : Text) : JsString :=
  t.flatMap utf16

/-- The string of a literal. -/
def js (literal : String) : JsString :=
  jsString (text literal)

theorem js_injective : Function.Injective js := by
  intro left right equal
  exact text_injective
    (utf16_injOn (isUnicode_text left) (isUnicode_text right) equal)

/-- Literal keys are compared as the strings they are written as. -/
@[simp]
theorem js_beq (left right : String) :
    (js left == js right) = (left == right) := by
  rw [Bool.eq_iff_iff, beq_iff_eq, beq_iff_eq]
  exact js_injective.eq_iff

/-- `String(n)` of a nonnegative integer. -/
def jsDecimal (n : Nat) : JsString :=
  jsString (decimal n)

/-- What `JSON.parse` makes of a number: a double, or an overflow. -/
inductive JsNumber where
  | finite (value : ℚ)
  | infinite (negative : Bool)
deriving DecidableEq

/-- What `JSON.parse` returns; an object holds every key once. -/
inductive JsValue where
  | null
  | bool (value : Bool)
  | number (value : JsNumber)
  | string (value : JsString)
  | array (items : List JsValue)
  | object (fields : List (JsString × JsValue))

/-- `Number.isSafeInteger`. -/
def JsNumber.safeInteger : JsNumber → Option Int
  | .finite value =>
      if value.den = 1 ∧ value.num.natAbs ≤ 9007199254740991 then
        some value.num
      else none
  | .infinite _ => none

@[simp]
theorem JsNumber.safeInteger_natCast {n : Nat} (small : n ≤ 9007199254740991) :
    (JsNumber.finite (n : ℚ)).safeInteger = some (n : Int) := by
  simp [JsNumber.safeInteger, small]

/-! ## Schemas -/

/-- A parser of untrusted values. -/
abbrev Schema (α : Type) := JsValue → Option α

namespace Schema

variable {α : Type}

/-- `z.string().min(lower).max(upper)`. -/
def string (lower upper : Nat) : Schema JsString
  | .string value =>
      if lower ≤ value.length ∧ value.length ≤ upper then some value else none
  | _ => none

/-- `z.number().int()`. -/
def int : Schema Int
  | .number value => value.safeInteger
  | _ => none

/-- `z.number().int().min(lower)`, with `.max(upper)` where one is given. -/
def natural (lower : Nat) (upper : Option Nat) : Schema Nat := fun value =>
  (int value).bind fun number =>
    if (lower : Int) ≤ number ∧ upper.all fun bound => number ≤ (bound : Int)
    then some number.toNat else none

/-- `z.literal(number)`. -/
def literalNumber (number : Nat) : Schema Unit
  | .number value => if value = .finite number then some () else none
  | _ => none

/-- `z.literal(text)`. -/
def literalString (literal : JsString) : Schema Unit
  | .string value => if value = literal then some () else none
  | _ => none

/-- `schema.nullable()`. -/
def nullable (schema : Schema α) : Schema (Option α)
  | .null => some none
  | value => (schema value).map some

/-- `z.record(z.string(), z.unknown())`. -/
def record : Schema (List (JsString × JsValue))
  | .object fields => some fields
  | _ => none

/-- `z.object({..}).strict()`: no key beside the ones that are named. -/
def strictObject (keys : List JsString) : Schema (List (JsString × JsValue))
  | .object fields =>
      if fields.all fun field => keys.contains field.1 then some fields else none
  | _ => none

end Schema

/-- `object[key]`, where `none` is `undefined`. -/
def member (fields : List (JsString × JsValue)) (key : String) :
    Option JsValue :=
  fields.lookup (js key)

/-- A required property. -/
def requiredField {α : Type} (fields : List (JsString × JsValue)) (key : String)
    (schema : Schema α) : Option α :=
  (member fields key).bind schema

/-- `schema.optional()`: the property may be missing. -/
def optionalField {α : Type} (fields : List (JsString × JsValue)) (key : String)
    (schema : Schema α) : Option (Option α) :=
  match member fields key with
  | none => some none
  | some value => (schema value).map some

/-- `schema.nullish()`: the property may be missing or null. -/
def nullishField {α : Type} (fields : List (JsString × JsValue)) (key : String)
    (schema : Schema α) : Option (Option α) :=
  (optionalField fields key (Schema.nullable schema)).map Option.join

end ParityGrid.Foundation
