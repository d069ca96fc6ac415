import ParityGrid.Foundation.Json

/-!
# JSON with its characters as they are

`jsonEncode` is `json.dumps` with sorted keys, no whitespace and
`ensure_ascii=False`, encoded as UTF-8.  Only the quote, the backslash and the
control characters are escaped.
-/

namespace ParityGrid.Foundation

/-- One character of a quoted text under `ensure_ascii=False`. -/
def escapeUnicode (c : CodePoint) : Text :=
  if c.val < 0x20 || c.val == 0x22 || c.val == 0x5C then
    escapeUnit (Fin.ofNat _ c.val)
  else
    [c]

def renderUnicodeString (t : Text) : Text :=
  point '"' :: t.flatMap escapeUnicode ++ [point '"']

mutual

/-- Compact text of a document, in the key order it has. -/
def JsonValue.renderUnicode : JsonValue → Text
  | .scalar value => value.render
  | .string value => renderUnicodeString value
  | .array [] => text "[]"
  | .array (item :: rest) =>
      point '[' :: item.renderUnicode ++ renderUnicodeItems rest ++ [point ']']
  | .object [] => text "\x7b\x7d"
  | .object ((key, value) :: rest) =>
      point '\x7b' :: renderUnicodeString key ++ point ':' ::
        value.renderUnicode ++ renderUnicodeFields rest ++ [point '\x7d']

def JsonValue.renderUnicodeItems : List JsonValue → Text
  | [] => []
  | item :: rest =>
      point ',' :: item.renderUnicode ++ JsonValue.renderUnicodeItems rest

def JsonValue.renderUnicodeFields : List (Text × JsonValue) → Text
  | [] => []
  | (key, value) :: rest =>
      point ',' :: renderUnicodeString key ++ point ':' ::
        value.renderUnicode ++ JsonValue.renderUnicodeFields rest

end

section Encode

variable [PythonRuntime]

/--
`json.dumps(value, sort_keys=True, separators=(",", ":"), ensure_ascii=False,
allow_nan=False).encode("utf-8")` of a document without numbers that are not
finite.
-/
def jsonEncode (value : JsonValue) : Except PythonError Bytes :=
  match value.sortKeys.dumpsError 0 with
  | some error => .error error
  | none => encodeUtf8 value.sortKeys.renderUnicode

/-- Encoding looks at a document up to the order of its keys. -/
theorem jsonEncode_congr {left right : JsonValue}
    (equal : left.sortKeys = right.sortKeys) :
    jsonEncode left = jsonEncode right := by
  simp only [jsonEncode, equal]

/-- The encoder is injective, up to key order, on the listed documents. -/
def DistinctEncodings (documents : List JsonValue) : Prop :=
  ∀ left ∈ documents, ∀ right ∈ documents, ∀ encoded,
    jsonEncode left = .ok encoded → jsonEncode right = .ok encoded →
    left.sortKeys = right.sortKeys

end Encode

end ParityGrid.Foundation
