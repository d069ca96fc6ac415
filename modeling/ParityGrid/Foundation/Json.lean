import ParityGrid.Foundation.Sha256

/-!
# JSON documents and their compact rendering

`jsonDumps` is `json.dumps` with sorted keys, no whitespace and ASCII escapes.
Objects are association lists in the order the program writes them;
`JsonValue.sortKeys` puts every object in key order, and rendering is injective
on documents in that order.  `JsonValue.field` reads one key of an object, so a
program that writes fixed keys can be inverted field by field.
-/

namespace ParityGrid.Foundation

/-! ## Documents -/

def isFloatChar (c : CodePoint) : Bool :=
  (text "0123456789+-.einftyINa").contains c

def isIntChar (c : CodePoint) : Bool :=
  isDigit c || c == point '-'

/--
What `float.__repr__` writes, or `NaN` and the infinities.  Such a text always
holds a character that no integer has.
-/
structure FloatText where
  value : Text
  chars : value.all isFloatChar
  marked : value.any fun c => !isIntChar c
deriving DecidableEq

theorem FloatText.ext {left right : FloatText}
    (equal : left.value = right.value) :
    left = right := by
  cases left
  cases right
  cases equal
  rfl

inductive JsonScalar where
  | null
  | bool (value : Bool)
  | int (value : Int)
  | float (value : FloatText)
deriving DecidableEq

/-- One JSON value, as `json.loads` builds it and `json.dumps` accepts it. -/
inductive JsonValue where
  | scalar (value : JsonScalar)
  | string (value : Text)
  | array (items : List JsonValue)
  | object (fields : List (Text × JsonValue))

mutual

/-- Equality of documents, decided piece by piece. -/
def JsonValue.decEq : (left right : JsonValue) → Decidable (left = right)
  | .scalar a, .scalar b =>
      decidable_of_iff (a = b) (by rw [JsonValue.scalar.injEq])
  | .string a, .string b =>
      decidable_of_iff (a = b) (by rw [JsonValue.string.injEq])
  | .array a, .array b =>
      have := JsonValue.decEqItems a b
      decidable_of_iff (a = b) (by rw [JsonValue.array.injEq])
  | .object a, .object b =>
      have := JsonValue.decEqFields a b
      decidable_of_iff (a = b) (by rw [JsonValue.object.injEq])
  | .scalar _, .string _ | .scalar _, .array _ | .scalar _, .object _
  | .string _, .scalar _ | .string _, .array _ | .string _, .object _
  | .array _, .scalar _ | .array _, .string _ | .array _, .object _
  | .object _, .scalar _ | .object _, .string _ | .object _, .array _ =>
      isFalse nofun

def JsonValue.decEqItems :
    (left right : List JsonValue) → Decidable (left = right)
  | [], [] => isTrue rfl
  | [], _ :: _ | _ :: _, [] => isFalse nofun
  | a :: left, b :: right =>
      have := JsonValue.decEq a b
      have := JsonValue.decEqItems left right
      decidable_of_iff (a = b ∧ left = right) (by rw [List.cons.injEq])

def JsonValue.decEqFields :
    (left right : List (Text × JsonValue)) → Decidable (left = right)
  | [], [] => isTrue rfl
  | [], _ :: _ | _ :: _, [] => isFalse nofun
  | (key, a) :: left, (name, b) :: right =>
      have := JsonValue.decEq a b
      have := JsonValue.decEqFields left right
      decidable_of_iff ((key = name ∧ a = b) ∧ left = right)
        (by rw [List.cons.injEq, Prod.mk.injEq])

end

instance : DecidableEq JsonValue := JsonValue.decEq

@[match_pattern]
abbrev JsonValue.null : JsonValue := .scalar .null

@[match_pattern]
abbrev JsonValue.bool (value : Bool) : JsonValue := .scalar (.bool value)

@[match_pattern]
abbrev JsonValue.int (value : Int) : JsonValue := .scalar (.int value)

@[match_pattern]
abbrev JsonValue.float (value : FloatText) : JsonValue :=
  .scalar (.float value)

mutual

/-- Every object of the document is a mapping: no key occurs twice. -/
def JsonValue.keysDistinct : JsonValue → Bool
  | .scalar _ => true
  | .string _ => true
  | .array items => keysDistinctItems items
  | .object fields =>
      decide (fields.map Prod.fst).Nodup && keysDistinctFields fields

def JsonValue.keysDistinctItems : List JsonValue → Bool
  | [] => true
  | item :: rest => item.keysDistinct && keysDistinctItems rest

def JsonValue.keysDistinctFields : List (Text × JsonValue) → Bool
  | [] => true
  | (_, value) :: rest => value.keysDistinct && keysDistinctFields rest

end

theorem JsonValue.keysDistinctFields_iff
    {fields : List (Text × JsonValue)} :
    keysDistinctFields fields ↔
      ∀ entry ∈ fields, entry.2.keysDistinct := by
  induction fields with
  | nil => simp [keysDistinctFields]
  | cons entry rest ih => simp [keysDistinctFields, ih]

/-! ## Key order -/

/-- The comparison used by `sort_keys`. -/
def fieldLe (left right : Text × JsonValue) : Prop :=
  left.1 ≤ right.1

instance : DecidableRel fieldLe := fun left right =>
  inferInstanceAs (Decidable (left.1 ≤ right.1))

mutual

/-- Put every object in key order. -/
def JsonValue.sortKeys : JsonValue → JsonValue
  | .scalar value => .scalar value
  | .string value => .string value
  | .array items => .array (sortItems items)
  | .object fields => .object ((sortFields fields).insertionSort fieldLe)

def JsonValue.sortItems : List JsonValue → List JsonValue
  | [] => []
  | item :: rest => item.sortKeys :: JsonValue.sortItems rest

def JsonValue.sortFields : List (Text × JsonValue) → List (Text × JsonValue)
  | [] => []
  | (key, value) :: rest => (key, value.sortKeys) :: JsonValue.sortFields rest

end

theorem JsonValue.sortItems_eq_map (items : List JsonValue) :
    sortItems items = items.map sortKeys := by
  induction items with
  | nil => rfl
  | cons item rest ih => simp [sortItems, ih]

theorem JsonValue.sortFields_lookup (key : Text)
    (fields : List (Text × JsonValue)) :
    (sortFields fields).lookup key = (fields.lookup key).map sortKeys := by
  induction fields with
  | nil => rfl
  | cons entry rest ih =>
      obtain ⟨name, value⟩ := entry
      simp only [sortFields, List.lookup_cons]
      split
      · rfl
      · exact ih

theorem mem_of_lookup {α : Type} {key : Text} {value : α}
    {entries : List (Text × α)} (found : entries.lookup key = some value) :
    (key, value) ∈ entries := by
  obtain ⟨before, after, form, _⟩ := List.lookup_eq_some_iff.mp found
  simp [form]

theorem lookup_orderedInsert (key name : Text) (value : JsonValue)
    (fields : List (Text × JsonValue)) :
    (fields.orderedInsert fieldLe (name, value)).lookup key =
      ((name, value) :: fields).lookup key := by
  induction fields with
  | nil => rfl
  | cons first rest ih =>
      obtain ⟨firstName, firstValue⟩ := first
      simp only [List.orderedInsert_cons]
      split
      next => rfl
      next later =>
        -- `firstName` comes strictly before `name`, so the keys differ.
        have differs : firstName ≠ name := by
          intro same
          exact later (le_of_eq same.symm)
        simp only [List.lookup_cons] at ih ⊢
        by_cases atName : key = name
        · have notFirst : (key == firstName) = false :=
            beq_false_of_ne (fun same => differs (same.symm.trans atName))
          simp only [ih, notFirst]
        · have notName : (key == name) = false := beq_false_of_ne atName
          simp only [ih, notName]

theorem lookup_insertionSort (key : Text)
    (fields : List (Text × JsonValue)) :
    (fields.insertionSort fieldLe).lookup key = fields.lookup key := by
  induction fields with
  | nil => rfl
  | cons entry rest ih =>
      obtain ⟨name, value⟩ := entry
      simp only [List.insertionSort_cons, lookup_orderedInsert,
        List.lookup_cons, ih]

/-- The value at one key of an object. -/
def JsonValue.field (key : Text) : JsonValue → Option JsonValue
  | .object fields => fields.lookup key
  | _ => none

/-- Sorting keys moves no field to another key. -/
theorem JsonValue.field_sortKeys (key : Text) (value : JsonValue) :
    value.sortKeys.field key = (value.field key).map sortKeys := by
  cases value with
  | object fields =>
      simp only [sortKeys, field, lookup_insertionSort, sortFields_lookup]
  | _ => rfl

/-- Objects that agree up to key order agree at every key. -/
theorem JsonValue.field_congr {left right : JsonValue}
    (equal : left.sortKeys = right.sortKeys) (key : Text) :
    (left.field key).map sortKeys = (right.field key).map sortKeys := by
  rw [← field_sortKeys, ← field_sortKeys, equal]

theorem JsonValue.sortKeys_object_congr
    {left right : List (Text × JsonValue)}
    (equal : sortFields left = sortFields right) :
    (JsonValue.object left).sortKeys = (JsonValue.object right).sortKeys := by
  simp only [sortKeys, equal]

instance : Std.Total fieldLe :=
  ⟨fun left right => le_total left.1 right.1⟩

instance : IsTrans (Text × JsonValue) fieldLe :=
  ⟨fun _ _ _ former latter => le_trans (α := Text) former latter⟩

theorem JsonValue.sortFields_eq_self {fields : List (Text × JsonValue)}
    (sorted : ∀ field ∈ fields, field.2.sortKeys = field.2) :
    sortFields fields = fields := by
  induction fields with
  | nil => rfl
  | cons field rest ih =>
      obtain ⟨key, value⟩ := field
      have head : value.sortKeys = value := sorted _ List.mem_cons_self
      rw [sortFields, head,
        ih fun other member => sorted other (List.mem_cons_of_mem _ member)]

mutual

/-- Sorting keys once is enough. -/
theorem JsonValue.sortKeys_sortKeys : (value : JsonValue) →
    value.sortKeys.sortKeys = value.sortKeys
  | .scalar _ => rfl
  | .string _ => rfl
  | .array items => by
      simp only [sortKeys, JsonValue.sortItems_sortItems items]
  | .object fields => by
      have values : sortFields ((sortFields fields).insertionSort fieldLe) =
          (sortFields fields).insertionSort fieldLe := by
        apply sortFields_eq_self
        intro field member
        exact JsonValue.sortKeys_of_mem_sortFields fields
          ((List.mem_insertionSort fieldLe).mp member)
      have ordered := (List.pairwise_insertionSort fieldLe
        (sortFields fields)).insertionSort_eq
      simp only [sortKeys, values, ordered]

theorem JsonValue.sortItems_sortItems : (items : List JsonValue) →
    sortItems (sortItems items) = sortItems items
  | [] => rfl
  | item :: rest => by
      simp only [sortItems, JsonValue.sortKeys_sortKeys item,
        JsonValue.sortItems_sortItems rest]

theorem JsonValue.sortKeys_of_mem_sortFields :
    (fields : List (Text × JsonValue)) → {field : Text × JsonValue} →
    field ∈ sortFields fields → field.2.sortKeys = field.2
  | [], _, member => nomatch member
  | (key, value) :: rest, field, member => by
      rw [sortFields, List.mem_cons] at member
      rcases member with rfl | later
      · exact JsonValue.sortKeys_sortKeys value
      · exact JsonValue.sortKeys_of_mem_sortFields rest later

end

@[simp]
theorem JsonValue.sortKeys_scalar (value : JsonScalar) :
    (JsonValue.scalar value).sortKeys = .scalar value := rfl

@[simp]
theorem JsonValue.sortKeys_string (value : Text) :
    (JsonValue.string value).sortKeys = .string value := rfl

@[simp]
theorem JsonValue.sortKeys_array (items : List JsonValue) :
    (JsonValue.array items).sortKeys = .array (items.map sortKeys) := by
  simp only [sortKeys, sortItems_eq_map]

/-- What a program writes for a value determines the value. -/
def Distinguishes {α : Type} (write : α → JsonValue) : Prop :=
  ∀ a b, (write a).sortKeys = (write b).sortKeys → a = b

theorem Distinguishes.items {α : Type} {write : α → JsonValue}
    (distinguishes : Distinguishes write) {left right : List α}
    (equal : (left.map write).map JsonValue.sortKeys =
      (right.map write).map JsonValue.sortKeys) :
    left = right := by
  rw [List.map_map, List.map_map] at equal
  exact List.map_injective_iff.mpr (fun a b => distinguishes a b) equal

/-! ## Rendering -/

/-- A UTF-16 code unit. -/
abbrev CodeUnit := Fin 0x10000

instance codeUnit_neZero : NeZero 0x10000 := ⟨by decide⟩

/-- The UTF-16 form of one code point; lone surrogates stand for themselves. -/
def utf16 (c : CodePoint) : List CodeUnit :=
  if c.val < 0x10000 then
    [Fin.ofNat _ c.val]
  else
    [Fin.ofNat _ (0xD800 + (c.val - 0x10000) / 0x400),
      Fin.ofNat _ (0xDC00 + (c.val - 0x10000) % 0x400)]

instance nibble_neZero : NeZero 16 := ⟨by decide⟩

def unitNibble (u : CodeUnit) (place : Nat) : Fin 16 :=
  Fin.ofNat _ (u.val / 16 ^ place)

/-- The letter of a two-character escape. -/
def shortEscape (u : CodeUnit) : Option CodePoint :=
  if u.val = 0x22 then some (point '"')
  else if u.val = 0x5C then some (point '\\')
  else if u.val = 0x08 then some (point 'b')
  else if u.val = 0x0C then some (point 'f')
  else if u.val = 0x0A then some (point 'n')
  else if u.val = 0x0D then some (point 'r')
  else if u.val = 0x09 then some (point 't')
  else none

/-- Printable ASCII other than the quote and the backslash. -/
def isPlainUnit (u : CodeUnit) : Bool :=
  0x20 ≤ u.val && u.val ≤ 0x7E && u.val != 0x22 && u.val != 0x5C

def escapeUnit (u : CodeUnit) : Text :=
  if isPlainUnit u then
    [Fin.ofNat _ u.val]
  else
    match shortEscape u with
    | some letter => [point '\\', letter]
    | none =>
        [point '\\', point 'u', hexDigit (unitNibble u 3),
          hexDigit (unitNibble u 2), hexDigit (unitNibble u 1),
          hexDigit (unitNibble u 0)]

/-- A quoted text with every character outside printable ASCII escaped. -/
def renderString (t : Text) : Text :=
  point '"' :: (t.flatMap utf16).flatMap escapeUnit ++ [point '"']

def JsonScalar.render : JsonScalar → Text
  | .null => text "null"
  | .bool true => text "true"
  | .bool false => text "false"
  | .int value => decimalInt value
  | .float value => value.value

mutual

/-- Compact text of a document, in the key order it has. -/
def JsonValue.render : JsonValue → Text
  | .scalar value => value.render
  | .string value => renderString value
  | .array [] => text "[]"
  | .array (item :: rest) =>
      point '[' :: item.render ++ renderItems rest ++ [point ']']
  | .object [] => text "\x7b\x7d"
  | .object ((key, value) :: rest) =>
      point '\x7b' :: renderString key ++ point ':' :: value.render ++
        renderFields rest ++ [point '\x7d']

def JsonValue.renderItems : List JsonValue → Text
  | [] => []
  | item :: rest => point ',' :: item.render ++ JsonValue.renderItems rest

def JsonValue.renderFields : List (Text × JsonValue) → Text
  | [] => []
  | (key, value) :: rest =>
      point ',' :: renderString key ++ point ':' :: value.render ++
        JsonValue.renderFields rest

end

/-! ## Reading strings back -/

/-- The code unit that a two-character escape stands for. -/
def shortUnescape (letter : CodePoint) : Nat :=
  if letter = point '"' then 0x22
  else if letter = point '\\' then 0x5C
  else if letter = point 'b' then 0x08
  else if letter = point 'f' then 0x0C
  else if letter = point 'n' then 0x0A
  else if letter = point 'r' then 0x0D
  else 0x09

theorem shortEscape_unescape {u : CodeUnit} {letter : CodePoint}
    (short : shortEscape u = some letter) :
    u.val = shortUnescape letter ∧ letter ≠ point 'u' := by
  simp only [shortEscape] at short
  split_ifs at short with value value value value value value value
  all_goals
    cases short
    exact ⟨value, by decide⟩

theorem unitNibbles_injective {u v : CodeUnit}
    (equal : ∀ place < 4, unitNibble u place = unitNibble v place) :
    u = v := by
  have value : ∀ place < 4, u.val / 16 ^ place % 16 = v.val / 16 ^ place % 16 := by
    intro place bound
    have nibbles := congrArg Fin.val (equal place bound)
    simpa only [unitNibble, Fin.val_ofNat] using nibbles
  have place0 := value 0 (by omega)
  have place1 := value 1 (by omega)
  have place2 := value 2 (by omega)
  have place3 := value 3 (by omega)
  simp only [Nat.reducePow, Nat.div_one] at place0 place1 place2 place3
  exact Fin.ext (by omega)

/-- The first character tells a plain unit from an escaped one. -/
theorem escapeUnit_plain {u : CodeUnit} (plain : isPlainUnit u) :
    escapeUnit u = [Fin.ofNat _ u.val] ∧
      (Fin.ofNat _ u.val : CodePoint) ≠ point '\\' ∧
      (Fin.ofNat _ u.val : CodePoint) ≠ point '"' := by
  refine ⟨by simp [escapeUnit, plain], ?_, ?_⟩
  all_goals
    intro same
    have values := congrArg Fin.val same
    simp only [isPlainUnit, Bool.and_eq_true, decide_eq_true_eq, bne_iff_ne,
      ne_eq] at plain
    simp only [Fin.val_ofNat, point_val] at values
    simp only [Char.reduceToNat] at values
    omega

theorem escapeUnit_escaped {u : CodeUnit} (escaped : isPlainUnit u = false) :
    ∃ rest, escapeUnit u = point '\\' :: rest := by
  simp only [escapeUnit, escaped, Bool.false_eq_true, if_false]
  split
  · exact ⟨_, rfl⟩
  · exact ⟨_, rfl⟩

theorem escapeUnit_begins (u : CodeUnit) :
    ∃ c rest, escapeUnit u = c :: rest ∧ c ≠ point '"' := by
  cases plain : isPlainUnit u with
  | true =>
      obtain ⟨form, _, notQuote⟩ := escapeUnit_plain plain
      exact ⟨_, [], form, notQuote⟩
  | false =>
      obtain ⟨rest, form⟩ := escapeUnit_escaped plain
      exact ⟨_, rest, form, by decide⟩

theorem escapeUnit_selfDelimiting : SelfDelimiting escapeUnit := by
  intro u v r s equal
  cases leftPlain : isPlainUnit u with
  | true =>
      obtain ⟨leftForm, leftNotEscape, _⟩ := escapeUnit_plain leftPlain
      cases rightPlain : isPlainUnit v with
      | true =>
          obtain ⟨rightForm, _, _⟩ := escapeUnit_plain rightPlain
          rw [leftForm, rightForm] at equal
          obtain ⟨headEqual, tailEqual⟩ := List.cons.inj equal
          have values := congrArg Fin.val headEqual
          simp only [Fin.val_ofNat] at values
          exact ⟨Fin.ext (by omega), tailEqual⟩
      | false =>
          obtain ⟨rest, rightForm⟩ := escapeUnit_escaped rightPlain
          rw [leftForm, rightForm] at equal
          exact absurd (List.cons.inj equal).1 leftNotEscape
  | false =>
      cases rightPlain : isPlainUnit v with
      | true =>
          obtain ⟨rightForm, rightNotEscape, _⟩ := escapeUnit_plain rightPlain
          obtain ⟨rest, leftForm⟩ := escapeUnit_escaped leftPlain
          rw [leftForm, rightForm] at equal
          exact absurd (List.cons.inj equal).1.symm rightNotEscape
      | false =>
          -- Both are escapes; the letter `u` marks the four-digit form.
          simp only [escapeUnit, leftPlain, rightPlain, Bool.false_eq_true,
            if_false] at equal
          split at equal
          next leftLetter leftShort =>
            obtain ⟨leftValue, leftNotU⟩ := shortEscape_unescape leftShort
            split at equal
            next rightLetter rightShort =>
              obtain ⟨rightValue, _⟩ := shortEscape_unescape rightShort
              simp only [List.cons_append, List.nil_append,
                List.cons.injEq, true_and] at equal
              refine ⟨Fin.ext ?_, equal.2⟩
              rw [leftValue, rightValue, equal.1]
            next =>
              simp only [List.cons_append, List.cons.injEq, true_and] at equal
              exact absurd equal.1 leftNotU
          next =>
            split at equal
            next rightLetter rightShort =>
              obtain ⟨_, rightNotU⟩ := shortEscape_unescape rightShort
              simp only [List.cons_append, List.cons.injEq, true_and] at equal
              exact absurd equal.1.symm rightNotU
            next =>
              simp only [List.cons_append, List.nil_append,
                List.cons.injEq, true_and] at equal
              obtain ⟨third, second, first, zeroth, rest⟩ := equal
              refine ⟨unitNibbles_injective ?_, rest⟩
              intro place bound
              have cases : place = 0 ∨ place = 1 ∨ place = 2 ∨ place = 3 := by
                omega
              rcases cases with rfl | rfl | rfl | rfl
              · exact hexDigit_injective zeroth
              · exact hexDigit_injective first
              · exact hexDigit_injective second
              · exact hexDigit_injective third

/-- Characters that are not surrogates are read off a UTF-16 sequence. -/
theorem utf16_append {c d : CodePoint} {r s : List CodeUnit}
    (leftPlain : isSurrogate c = false) (rightPlain : isSurrogate d = false)
    (equal : utf16 c ++ r = utf16 d ++ s) :
    c = d ∧ r = s := by
  simp only [isSurrogate, Bool.and_eq_false_iff, decide_eq_false_iff_not]
    at leftPlain rightPlain
  have cBound := c.isLt
  have dBound := d.isLt
  simp only [utf16] at equal
  split at equal <;> split at equal <;>
    simp only [List.cons_append, List.nil_append, List.cons.injEq,
      Fin.ext_iff, Fin.val_ofNat] at equal
  · exact ⟨Fin.ext (by omega), equal.2⟩
  · omega
  · omega
  · exact ⟨Fin.ext (by omega), equal.2.2⟩

theorem utf16_injOn {left right : Text}
    (leftUnicode : isUnicode left) (rightUnicode : isUnicode right)
    (equal : left.flatMap utf16 = right.flatMap utf16) :
    left = right := by
  have begins : ∀ c, utf16 c ≠ [] := by
    intro c
    simp only [utf16]
    split <;> simp
  induction left generalizing right with
  | nil =>
      cases right with
      | nil => rfl
      | cons d tail =>
          simp only [List.flatMap_nil, List.flatMap_cons] at equal
          exact absurd (List.append_eq_nil_iff.mp equal.symm).1 (begins d)
  | cons c rest ih =>
      cases right with
      | nil =>
          simp only [List.flatMap_nil, List.flatMap_cons] at equal
          exact absurd (List.append_eq_nil_iff.mp equal).1 (begins c)
      | cons d tail =>
          simp only [isUnicode, List.all_cons, Bool.and_eq_true,
            Bool.not_eq_true'] at leftUnicode rightUnicode
          simp only [List.flatMap_cons] at equal
          obtain ⟨headEqual, tailEqual⟩ :=
            utf16_append leftUnicode.1 rightUnicode.1 equal
          rw [headEqual, ih leftUnicode.2 rightUnicode.2 tailEqual]

/-- A quoted text is read off up to its UTF-16 form. -/
theorem renderString_append {a b r s : Text}
    (equal : renderString a ++ r = renderString b ++ s) :
    a.flatMap utf16 = b.flatMap utf16 ∧ r = s := by
  simp only [renderString, List.cons_append, List.append_assoc,
    List.nil_append, List.cons.injEq, true_and] at equal
  exact escapeUnit_selfDelimiting.flatMap_stop escapeUnit_begins equal

/-! ## Reading documents back -/

/-- The symbols that can follow a complete value. -/
def isDelimiter (c : CodePoint) : Bool :=
  c == point ',' || c == point ']' || c == point '\x7d'

theorem not_delimiter_of_isFloatChar {c : CodePoint} (char : isFloatChar c) :
    (!isDelimiter c) = true := by
  simp only [isFloatChar, List.contains_iff_mem] at char
  have listed :
      (text "0123456789+-.einftyINa").all fun d => !isDelimiter d := by
    decide
  exact List.all_eq_true.mp listed c char

theorem isFloatChar_of_isIntChar {c : CodePoint} (char : isIntChar c) :
    isFloatChar c := by
  have listed : ∀ n : Fin 10,
      isFloatChar (Fin.ofNat _ (0x30 + n.val)) = true := by
    decide
  simp only [isIntChar, isDigit, Bool.or_eq_true, Bool.and_eq_true,
    decide_eq_true_eq, beq_iff_eq] at char
  rcases char with ⟨low, high⟩ | rfl
  · have digit := listed ⟨c.val - 0x30, by omega⟩
    have value : (Fin.ofNat _ (0x30 + (c.val - 0x30)) : CodePoint) = c :=
      Fin.ext (by simp only [Fin.val_ofNat]; omega)
    rw [← value]
    exact digit
  · decide

theorem decimalInt_chars (value : Int) :
    (decimalInt value).all isIntChar := by
  have digits : (decimal value.natAbs).all isIntChar := by
    have all := decimal_all_digit value.natAbs
    simp only [List.all_eq_true] at all ⊢
    intro c member
    simp [isIntChar, all c member]
  simp only [decimalInt]
  split
  · rw [List.all_cons, digits]
    decide
  · exact digits

/-- Which family of scalars a token belongs to. -/
inductive ScalarFamily where
  | literal
  | int
  | float
deriving DecidableEq

def JsonScalar.family : JsonScalar → ScalarFamily
  | .null => .literal
  | .bool _ => .literal
  | .int _ => .int
  | .float _ => .float

def tokenFamily (token : Text) : ScalarFamily :=
  if token.all isIntChar then .int
  else if token.all isFloatChar then .float
  else .literal

theorem tokenFamily_render (scalar : JsonScalar) :
    tokenFamily scalar.render = scalar.family := by
  cases scalar with
  | null => rfl
  | bool value => cases value <;> rfl
  | int value =>
      simp [tokenFamily, JsonScalar.render, JsonScalar.family,
        decimalInt_chars]
  | float value =>
      have notInt : value.value.all isIntChar = false := by
        have marked := value.marked
        simp only [List.any_eq_true, Bool.not_eq_true'] at marked
        obtain ⟨c, member, notChar⟩ := marked
        exact List.all_eq_false.mpr ⟨c, member, by simp [notChar]⟩
      simp [tokenFamily, JsonScalar.render, JsonScalar.family, notInt,
        value.chars]

theorem JsonScalar.render_injective :
    Function.Injective JsonScalar.render := by
  intro left right equal
  have families : left.family = right.family := by
    rw [← tokenFamily_render, ← tokenFamily_render, equal]
  cases left with
  | int value =>
      cases right with
      | int other => rw [decimalInt_injective equal]
      | _ => cases families
  | float value =>
      cases right with
      | float other => rw [FloatText.ext equal]
      | _ => cases families
  | null =>
      cases right with
      | null => rfl
      | bool other => cases other <;> exact absurd equal (by decide)
      | _ => cases families
  | bool value =>
      cases right with
      | null => cases value <;> exact absurd equal (by decide)
      | bool other =>
          cases value <;> cases other <;>
            first
            | rfl
            | exact absurd equal (by decide)
      | _ => cases families

theorem JsonScalar.render_token (scalar : JsonScalar) :
    scalar.render.all fun c => !isDelimiter c := by
  cases scalar with
  | null => decide
  | bool value => cases value <;> decide
  | int value =>
      have chars := decimalInt_chars value
      simp only [List.all_eq_true] at chars
      simp only [JsonScalar.render, List.all_eq_true]
      intro c member
      exact not_delimiter_of_isFloatChar
        (isFloatChar_of_isIntChar (chars c member))
  | float value =>
      have chars := value.chars
      simp only [List.all_eq_true] at chars
      simp only [JsonScalar.render, List.all_eq_true]
      intro c member
      exact not_delimiter_of_isFloatChar (chars c member)

/-- The four shapes of a document, told apart by the first character. -/
inductive JsonShape where
  | scalar
  | string
  | array
  | object
deriving DecidableEq

def JsonValue.shape : JsonValue → JsonShape
  | .scalar _ => .scalar
  | .string _ => .string
  | .array _ => .array
  | .object _ => .object

def shapeOf (c : CodePoint) : Option JsonShape :=
  if c = point '"' then some .string
  else if c = point '[' then some .array
  else if c = point '\x7b' then some .object
  else if isFloatChar c then some .scalar
  else none

theorem shapeOf_isFloatChar {c : CodePoint} (char : isFloatChar c) :
    shapeOf c = some .scalar := by
  simp only [isFloatChar, List.contains_iff_mem] at char
  have listed :
      (text "0123456789+-.einftyINa").all fun d =>
        shapeOf d == some .scalar := by
    decide
  exact eq_of_beq (List.all_eq_true.mp listed c char)

theorem JsonScalar.render_begins (scalar : JsonScalar) :
    ∃ c rest, scalar.render = c :: rest ∧ shapeOf c = some .scalar := by
  cases scalar with
  | null => exact ⟨_, _, rfl, by decide⟩
  | bool value => cases value <;> exact ⟨_, _, rfl, by decide⟩
  | int value =>
      have chars := decimalInt_chars value
      simp only [JsonScalar.render]
      cases form : decimalInt value with
      | nil =>
          simp only [decimalInt] at form
          split at form
          · cases form
          · exact absurd form (decimal_ne_nil _)
      | cons c rest =>
          rw [form, List.all_cons, Bool.and_eq_true] at chars
          exact ⟨c, rest, rfl,
            shapeOf_isFloatChar (isFloatChar_of_isIntChar chars.1)⟩
  | float value =>
      have chars := value.chars
      have marked := value.marked
      simp only [JsonScalar.render]
      cases form : value.value with
      | nil => simp [form] at marked
      | cons c rest =>
          rw [form, List.all_cons, Bool.and_eq_true] at chars
          exact ⟨c, rest, rfl, shapeOf_isFloatChar chars.1⟩

theorem JsonValue.render_begins (value : JsonValue) :
    ∃ c rest, value.render = c :: rest ∧ shapeOf c = some value.shape := by
  cases value with
  | scalar scalar =>
      simp only [JsonValue.render]
      exact scalar.render_begins
  | string t => exact ⟨_, _, rfl, rfl⟩
  | array items =>
      cases items with
      | nil => exact ⟨_, _, rfl, rfl⟩
      | cons item rest => exact ⟨_, _, rfl, rfl⟩
  | object fields =>
      cases fields with
      | nil => exact ⟨_, _, rfl, rfl⟩
      | cons entry rest => exact ⟨_, _, rfl, rfl⟩

theorem JsonValue.shape_eq {left right : JsonValue} {r s : Text}
    (equal : left.render ++ r = right.render ++ s) :
    left.shape = right.shape := by
  obtain ⟨c, leftRest, leftForm, leftShape⟩ := left.render_begins
  obtain ⟨d, rightRest, rightForm, rightShape⟩ := right.render_begins
  rw [leftForm, rightForm, List.cons_append, List.cons_append] at equal
  rw [(List.cons.inj equal).1, rightShape] at leftShape
  exact (Option.some.inj leftShape).symm

mutual

/-- Every text of the document, keys included, is valid Unicode. -/
def JsonValue.unicode : JsonValue → Bool
  | .scalar _ => true
  | .string value => isUnicode value
  | .array items => JsonValue.unicodeItems items
  | .object fields => JsonValue.unicodeFields fields

def JsonValue.unicodeItems : List JsonValue → Bool
  | [] => true
  | item :: rest => item.unicode && JsonValue.unicodeItems rest

def JsonValue.unicodeFields : List (Text × JsonValue) → Bool
  | [] => true
  | (key, value) :: rest =>
      isUnicode key && value.unicode && JsonValue.unicodeFields rest

end

theorem JsonValue.unicodeItems_map {α : Type} {f : α → JsonValue}
    {values : List α} (valid : ∀ value ∈ values, (f value).unicode) :
    unicodeItems (values.map f) := by
  induction values with
  | nil => rfl
  | cons value rest ih =>
      simp only [List.map_cons, unicodeItems, Bool.and_eq_true]
      exact ⟨valid value List.mem_cons_self,
        ih fun other member => valid other (List.mem_cons_of_mem _ member)⟩

theorem endsAt_renderItems {close : CodePoint} (stop : isDelimiter close)
    (items : List JsonValue) (r : Text) :
    EndsAt isDelimiter (JsonValue.renderItems items ++ close :: r) := by
  cases items with
  | nil => exact endsAt_cons r stop
  | cons item rest =>
      simp only [JsonValue.renderItems, List.cons_append]
      exact endsAt_cons _ (by decide)

theorem endsAt_renderFields {close : CodePoint} (stop : isDelimiter close)
    (fields : List (Text × JsonValue)) (r : Text) :
    EndsAt isDelimiter (JsonValue.renderFields fields ++ close :: r) := by
  cases fields with
  | nil => exact endsAt_cons r stop
  | cons entry rest =>
      obtain ⟨key, value⟩ := entry
      simp only [JsonValue.renderFields, List.cons_append]
      exact endsAt_cons _ (by decide)

/-! ## Documents up to surrogate pairs -/

/--
The UTF-16 form of a text, one code point a unit.  Two texts have the same one
when a document that holds them is rendered alike.
-/
def unitText (t : Text) : Text :=
  (t.flatMap utf16).map (Fin.castLE (by decide))

/-- Only an ASCII text has the UTF-16 form of one. -/
theorem utf16_ascii : {t k : Text} → t.all isAscii →
    k.flatMap utf16 = t.flatMap utf16 → k = t
  | [], [], _, _ => rfl
  | [], d :: ks, _, equal => by
      simp only [List.flatMap_nil, List.flatMap_cons,
        List.append_eq_nil_iff, utf16] at equal
      split at equal <;> cases equal.1
  | c :: rest, k, plain, equal => by
      simp only [List.all_cons, Bool.and_eq_true, isAscii, decide_eq_true_eq]
        at plain
      have small : c.val < 0x10000 := by omega
      have single : utf16 c = [Fin.ofNat _ c.val] := if_pos small
      rw [List.flatMap_cons, single] at equal
      cases k with
      | nil => cases equal
      | cons d ks =>
          have bound := d.isLt
          rw [List.flatMap_cons, utf16] at equal
          split at equal <;>
            simp only [List.cons_append, List.nil_append, List.cons.injEq,
              Fin.ext_iff, Fin.val_ofNat] at equal
          · have same : d = c := Fin.ext (by omega)
            rw [same, utf16_ascii plain.2 equal.2]
          · omega

theorem unitText_inj {a b : Text} :
    unitText a = unitText b ↔ a.flatMap utf16 = b.flatMap utf16 :=
  (List.map_injective_iff.mpr (Fin.castLE_injective _)).eq_iff

mutual

/-- A document with every text, keys included, in its UTF-16 form. -/
def JsonValue.units : JsonValue → JsonValue
  | .scalar value => .scalar value
  | .string value => .string (unitText value)
  | .array items => .array (JsonValue.unitsItems items)
  | .object fields => .object (JsonValue.unitsFields fields)

def JsonValue.unitsItems : List JsonValue → List JsonValue
  | [] => []
  | item :: rest => item.units :: JsonValue.unitsItems rest

def JsonValue.unitsFields :
    List (Text × JsonValue) → List (Text × JsonValue)
  | [] => []
  | (key, value) :: rest =>
      (unitText key, value.units) :: JsonValue.unitsFields rest

end

mutual

/-- Valid Unicode is told apart by its UTF-16 form. -/
theorem JsonValue.units_inj : (v w : JsonValue) → v.unicode → w.unicode →
    v.units = w.units → v = w
  | .scalar _, .scalar _, _, _, equal => by
      simpa only [JsonValue.units] using equal
  | .string _, .string _, leftUnicode, rightUnicode, equal => by
      simp only [JsonValue.units, JsonValue.string.injEq, unitText_inj]
        at equal
      rw [utf16_injOn leftUnicode rightUnicode equal]
  | .array xs, .array ys, leftUnicode, rightUnicode, equal => by
      simp only [JsonValue.units, JsonValue.array.injEq] at equal
      rw [JsonValue.unitsItems_inj xs ys leftUnicode rightUnicode equal]
  | .object xs, .object ys, leftUnicode, rightUnicode, equal => by
      simp only [JsonValue.units, JsonValue.object.injEq] at equal
      rw [JsonValue.unitsFields_inj xs ys leftUnicode rightUnicode equal]
  | .scalar _, .string _, _, _, equal => nomatch equal
  | .scalar _, .array _, _, _, equal => nomatch equal
  | .scalar _, .object _, _, _, equal => nomatch equal
  | .string _, .scalar _, _, _, equal => nomatch equal
  | .string _, .array _, _, _, equal => nomatch equal
  | .string _, .object _, _, _, equal => nomatch equal
  | .array _, .scalar _, _, _, equal => nomatch equal
  | .array _, .string _, _, _, equal => nomatch equal
  | .array _, .object _, _, _, equal => nomatch equal
  | .object _, .scalar _, _, _, equal => nomatch equal
  | .object _, .string _, _, _, equal => nomatch equal
  | .object _, .array _, _, _, equal => nomatch equal

theorem JsonValue.unitsItems_inj : (xs ys : List JsonValue) →
    unicodeItems xs → unicodeItems ys →
    unitsItems xs = unitsItems ys → xs = ys
  | [], [], _, _, _ => rfl
  | [], _ :: _, _, _, equal => nomatch equal
  | _ :: _, [], _, _, equal => nomatch equal
  | left :: leftRest, right :: rightRest, leftUnicode, rightUnicode,
      equal => by
      simp only [unicodeItems, Bool.and_eq_true] at leftUnicode rightUnicode
      simp only [unitsItems, List.cons.injEq] at equal
      rw [JsonValue.units_inj left right leftUnicode.1 rightUnicode.1 equal.1,
        JsonValue.unitsItems_inj leftRest rightRest leftUnicode.2
          rightUnicode.2 equal.2]

theorem JsonValue.unitsFields_inj : (xs ys : List (Text × JsonValue)) →
    unicodeFields xs → unicodeFields ys →
    unitsFields xs = unitsFields ys → xs = ys
  | [], [], _, _, _ => rfl
  | [], _ :: _, _, _, equal => nomatch equal
  | _ :: _, [], _, _, equal => nomatch equal
  | (key, left) :: leftRest, (otherKey, right) :: rightRest, leftUnicode,
      rightUnicode, equal => by
      simp only [unicodeFields, Bool.and_eq_true] at leftUnicode rightUnicode
      simp only [unitsFields, List.cons.injEq, Prod.mk.injEq, unitText_inj]
        at equal
      rw [utf16_injOn leftUnicode.1.1 rightUnicode.1.1 equal.1.1,
        JsonValue.units_inj left right leftUnicode.1.2 rightUnicode.1.2
          equal.1.2,
        JsonValue.unitsFields_inj leftRest rightRest leftUnicode.2
          rightUnicode.2 equal.2]

end

mutual

/-- A rendered document is read off the front of anything that may follow. -/
theorem JsonValue.render_append : (v w : JsonValue) → {r s : Text} →
    EndsAt isDelimiter r → EndsAt isDelimiter s →
    v.render ++ r = w.render ++ s → v.units = w.units ∧ r = s
  | .scalar left, w, r, s, leftEnds, rightEnds, equal => by
      have shapes := JsonValue.shape_eq equal
      cases w with
      | scalar right =>
          simp only [JsonValue.render] at equal
          obtain ⟨tokens, rest⟩ :=
            token_append left.render_token right.render_token leftEnds
              rightEnds equal
          exact ⟨by rw [JsonScalar.render_injective tokens], rest⟩
      | _ => cases shapes
  | .string left, w, r, s, _, _, equal => by
      have shapes := JsonValue.shape_eq equal
      cases w with
      | string right =>
          simp only [JsonValue.render] at equal
          obtain ⟨texts, rest⟩ := renderString_append equal
          exact ⟨by simp only [JsonValue.units, unitText, texts], rest⟩
      | _ => cases shapes
  | .array [], w, r, s, _, _, equal => by
      have shapes := JsonValue.shape_eq equal
      cases w with
      | array right =>
          cases right with
          | nil =>
              simp only [JsonValue.render] at equal
              exact ⟨rfl, List.append_cancel_left equal⟩
          | cons item rest =>
              obtain ⟨c, tail, form, shape⟩ := item.render_begins
              simp only [JsonValue.render, form] at equal
              have closes : point ']' = c := (List.cons.inj
                (List.cons.inj equal).2).1
              subst closes
              exact absurd shape (by cases item.shape <;> decide)
      | _ => cases shapes
  | .array (left :: leftRest), w, r, s, _, _, equal => by
      have shapes := JsonValue.shape_eq equal
      cases w with
      | array right =>
          cases right with
          | nil =>
              obtain ⟨c, tail, form, shape⟩ := left.render_begins
              simp only [JsonValue.render, form] at equal
              have closes : c = point ']' := (List.cons.inj
                (List.cons.inj equal).2).1
              subst closes
              exact absurd shape (by cases left.shape <;> decide)
          | cons right rightRest =>
              simp only [JsonValue.render, List.cons_append,
                List.append_assoc, List.nil_append, List.cons.injEq,
                true_and] at equal
              obtain ⟨heads, tails⟩ :=
                JsonValue.render_append left right
                  (endsAt_renderItems (by decide) leftRest r)
                  (endsAt_renderItems (by decide) rightRest s) equal
              obtain ⟨rests, after⟩ :=
                JsonValue.renderItems_append leftRest rightRest tails
              exact ⟨by simp only [JsonValue.units, JsonValue.unitsItems,
                heads, rests], after⟩
      | _ => cases shapes
  | .object [], w, r, s, _, _, equal => by
      have shapes := JsonValue.shape_eq equal
      cases w with
      | object right =>
          cases right with
          | nil =>
              simp only [JsonValue.render] at equal
              exact ⟨rfl, List.append_cancel_left equal⟩
          | cons entry rest =>
              obtain ⟨key, value⟩ := entry
              simp only [JsonValue.render, renderString] at equal
              have closes : point '\x7d' = point '"' := (List.cons.inj
                (List.cons.inj equal).2).1
              exact absurd closes (by decide)
      | _ => cases shapes
  | .object ((key, left) :: leftRest), w, r, s, _, _, equal => by
      have shapes := JsonValue.shape_eq equal
      cases w with
      | object right =>
          cases right with
          | nil =>
              simp only [JsonValue.render, renderString] at equal
              have closes : point '"' = point '\x7d' := (List.cons.inj
                (List.cons.inj equal).2).1
              exact absurd closes (by decide)
          | cons entry rightRest =>
              obtain ⟨otherKey, right⟩ := entry
              simp only [JsonValue.render, List.cons_append,
                List.append_assoc, List.nil_append, List.cons.injEq,
                true_and] at equal
              obtain ⟨keys, values⟩ := renderString_append equal
              obtain ⟨heads, tails⟩ :=
                JsonValue.render_append left right
                  (endsAt_renderFields (by decide) leftRest r)
                  (endsAt_renderFields (by decide) rightRest s)
                  (List.cons.inj values).2
              obtain ⟨rests, after⟩ :=
                JsonValue.renderFields_append leftRest rightRest tails
              exact ⟨by simp only [JsonValue.units, JsonValue.unitsFields,
                unitText, keys, heads, rests], after⟩
      | _ => cases shapes

theorem JsonValue.renderItems_append : (xs ys : List JsonValue) →
    {r s : Text} →
    renderItems xs ++ point ']' :: r = renderItems ys ++ point ']' :: s →
    unitsItems xs = unitsItems ys ∧ r = s
  | [], [], _, _, equal =>
      ⟨rfl, (List.cons.inj equal).2⟩
  | [], right :: rightRest, _, _, equal => by
      simp only [renderItems] at equal
      exact absurd (List.cons.inj equal).1 (by decide)
  | left :: leftRest, [], _, _, equal => by
      simp only [renderItems] at equal
      exact absurd (List.cons.inj equal).1 (by decide)
  | left :: leftRest, right :: rightRest, r, s, equal => by
      simp only [renderItems, List.cons_append, List.append_assoc,
        List.cons.injEq, true_and] at equal
      obtain ⟨heads, tails⟩ :=
        JsonValue.render_append left right
          (endsAt_renderItems (by decide) leftRest r)
          (endsAt_renderItems (by decide) rightRest s) equal
      obtain ⟨rests, after⟩ :=
        JsonValue.renderItems_append leftRest rightRest tails
      exact ⟨by simp only [unitsItems, heads, rests], after⟩

theorem JsonValue.renderFields_append :
    (xs ys : List (Text × JsonValue)) → {r s : Text} →
    renderFields xs ++ point '\x7d' :: r =
      renderFields ys ++ point '\x7d' :: s →
    unitsFields xs = unitsFields ys ∧ r = s
  | [], [], _, _, equal =>
      ⟨rfl, (List.cons.inj equal).2⟩
  | [], (key, right) :: rightRest, _, _, equal => by
      simp only [renderFields] at equal
      exact absurd (List.cons.inj equal).1 (by decide)
  | (key, left) :: leftRest, [], _, _, equal => by
      simp only [renderFields] at equal
      exact absurd (List.cons.inj equal).1 (by decide)
  | (key, left) :: leftRest, (otherKey, right) :: rightRest, r, s, equal => by
      simp only [renderFields, List.cons_append, List.append_assoc,
        List.cons.injEq, true_and] at equal
      obtain ⟨keys, values⟩ := renderString_append equal
      obtain ⟨heads, tails⟩ :=
        JsonValue.render_append left right
          (endsAt_renderFields (by decide) leftRest r)
          (endsAt_renderFields (by decide) rightRest s)
          (List.cons.inj values).2
      obtain ⟨rests, after⟩ :=
        JsonValue.renderFields_append leftRest rightRest tails
      exact ⟨by simp only [unitsFields, unitText, keys, heads, rests],
        after⟩

end

/-- Rendering loses nothing of a document but how its texts are encoded. -/
theorem JsonValue.render_units {v w : JsonValue}
    (equal : v.render = w.render) :
    v.units = w.units := by
  have appended : v.render ++ [] = w.render ++ [] := by rw [equal]
  exact (JsonValue.render_append v w (endsAt_nil isDelimiter)
    (endsAt_nil isDelimiter) appended).1

/-! ## Renderings are ASCII -/

theorem isAscii_of_isFloatChar {c : CodePoint} (char : isFloatChar c) :
    isAscii c := by
  simp only [isFloatChar, List.contains_iff_mem] at char
  have listed : (text "0123456789+-.einftyINa").all isAscii := by decide
  exact List.all_eq_true.mp listed c char

theorem JsonScalar.render_ascii (scalar : JsonScalar) :
    scalar.render.all isAscii := by
  cases scalar with
  | null => decide
  | bool value => cases value <;> decide
  | int value =>
      have chars := decimalInt_chars value
      simp only [List.all_eq_true] at chars
      simp only [JsonScalar.render, List.all_eq_true]
      intro c member
      exact isAscii_of_isFloatChar (isFloatChar_of_isIntChar (chars c member))
  | float value =>
      have chars := value.chars
      simp only [List.all_eq_true] at chars
      simp only [JsonScalar.render, List.all_eq_true]
      intro c member
      exact isAscii_of_isFloatChar (chars c member)

theorem hexDigit_ascii (n : Fin 16) : isAscii (hexDigit n) := by
  revert n
  decide

theorem shortEscape_ascii {u : CodeUnit} {letter : CodePoint}
    (short : shortEscape u = some letter) :
    isAscii letter := by
  simp only [shortEscape] at short
  repeat
    split at short
    next => cases short; decide
  cases short

theorem escapeUnit_ascii (u : CodeUnit) : (escapeUnit u).all isAscii := by
  simp only [escapeUnit]
  split
  next plain =>
    simp only [isPlainUnit, Bool.and_eq_true, decide_eq_true_eq] at plain
    simp only [List.all_cons, List.all_nil, Bool.and_true, isAscii,
      Fin.val_ofNat, decide_eq_true_eq]
    omega
  next =>
    have backslash : isAscii (point '\\') := by decide
    split
    next letter short =>
      simp [backslash, shortEscape_ascii short]
    next =>
      have marker : isAscii (point 'u') := by decide
      simp [backslash, marker, hexDigit_ascii]

theorem renderString_ascii (t : Text) : (renderString t).all isAscii := by
  have quote : isAscii (point '"') := by decide
  have body : ((t.flatMap utf16).flatMap escapeUnit).all isAscii := by
    rw [List.all_flatMap, List.all_eq_true]
    intro u _
    exact escapeUnit_ascii u
  simp only [renderString, List.all_append, List.all_cons, List.all_nil,
    quote, body, Bool.and_self]

mutual

theorem JsonValue.render_ascii : (value : JsonValue) →
    value.render.all isAscii
  | .scalar value => by
      simp only [JsonValue.render]
      exact value.render_ascii
  | .string t => by
      simp only [JsonValue.render]
      exact renderString_ascii t
  | .array [] => by
      simp only [JsonValue.render]
      decide
  | .array (item :: rest) => by
      have opens : isAscii (point '[') := by decide
      have closes : isAscii (point ']') := by decide
      simp [JsonValue.render, -List.all_eq_true, List.all_append, opens,
        closes, item.render_ascii, JsonValue.renderItems_ascii rest]
  | .object [] => by
      simp only [JsonValue.render]
      decide
  | .object ((key, value) :: rest) => by
      have opens : isAscii (point '\x7b') := by decide
      have colon : isAscii (point ':') := by decide
      have closes : isAscii (point '\x7d') := by decide
      simp [JsonValue.render, -List.all_eq_true, List.all_append, opens,
        colon, closes, renderString_ascii key, value.render_ascii,
        JsonValue.renderFields_ascii rest]

theorem JsonValue.renderItems_ascii : (items : List JsonValue) →
    (renderItems items).all isAscii
  | [] => rfl
  | item :: rest => by
      have comma : isAscii (point ',') := by decide
      simp [renderItems, -List.all_eq_true, List.all_append, comma,
        item.render_ascii, JsonValue.renderItems_ascii rest]

theorem JsonValue.renderFields_ascii :
    (fields : List (Text × JsonValue)) →
    (renderFields fields).all isAscii
  | [] => rfl
  | (key, value) :: rest => by
      have comma : isAscii (point ',') := by decide
      have colon : isAscii (point ':') := by decide
      simp [renderFields, -List.all_eq_true, List.all_append, comma, colon,
        renderString_ascii key, value.render_ascii,
        JsonValue.renderFields_ascii rest]

end

/-! ## `json.dumps` -/

/-- `int.__repr__` refuses more than 4300 digits. -/
def intReprError (value : Int) : Option PythonError :=
  if 4300 < (decimal value.natAbs).length then
    some (.valueError (text
      "Exceeds the limit (4300 digits) for integer string conversion; use sys.set_int_max_str_digits() to increase the limit"))
  else
    none

section Dumps

variable [PythonRuntime]

mutual

/--
The first exception of the encoder, in the order it visits the document.
Every container entered below `depth` open ones counts towards the nesting
limit.
-/
def JsonValue.dumpsError (depth : Nat) : JsonValue → Option PythonError
  | .scalar (.int value) => intReprError value
  | .scalar _ => none
  | .string _ => none
  | .array items =>
      if jsonNestingLimit ≤ depth then some .recursionError
      else JsonValue.dumpsItemsError (depth + 1) items
  | .object fields =>
      if jsonNestingLimit ≤ depth then some .recursionError
      else JsonValue.dumpsFieldsError (depth + 1) fields

def JsonValue.dumpsItemsError (depth : Nat) :
    List JsonValue → Option PythonError
  | [] => none
  | item :: rest =>
      (item.dumpsError depth).or (JsonValue.dumpsItemsError depth rest)

def JsonValue.dumpsFieldsError (depth : Nat) :
    List (Text × JsonValue) → Option PythonError
  | [] => none
  | (_, value) :: rest =>
      (value.dumpsError depth).or (JsonValue.dumpsFieldsError depth rest)

end

/--
`json.dumps(value, ensure_ascii=True, separators=(",", ":"), sort_keys=True)`.
-/
def jsonDumps (value : JsonValue) : Except PythonError Text :=
  match value.sortKeys.dumpsError 0 with
  | some error => .error error
  | none => .ok value.sortKeys.render

theorem jsonDumps_ascii {value : JsonValue} {t : Text}
    (dumped : jsonDumps value = .ok t) :
    t.all isAscii := by
  simp only [jsonDumps] at dumped
  split at dumped
  next => cases dumped
  next =>
    cases dumped
    exact JsonValue.render_ascii _

mutual

/-- The encoder fails on integers it cannot print and on depth only. -/
theorem JsonValue.dumpsError_kinds : (value : JsonValue) →
    {depth : Nat} → {error : PythonError} →
    value.dumpsError depth = some error →
    (∃ message, error = .valueError message) ∨ error = .recursionError
  | .scalar (.int value), _, error, raised => by
      simp only [dumpsError, intReprError] at raised
      split at raised
      · cases raised
        exact .inl ⟨_, rfl⟩
      · cases raised
  | .scalar .null, _, _, raised => by cases raised
  | .scalar (.bool _), _, _, raised => by cases raised
  | .scalar (.float _), _, _, raised => by cases raised
  | .string _, _, _, raised => by cases raised
  | .array items, _, _, raised => by
      simp only [dumpsError] at raised
      split at raised
      · cases raised
        exact .inr rfl
      · exact JsonValue.dumpsItemsError_kinds items raised
  | .object fields, _, _, raised => by
      simp only [dumpsError] at raised
      split at raised
      · cases raised
        exact .inr rfl
      · exact JsonValue.dumpsFieldsError_kinds fields raised

theorem JsonValue.dumpsItemsError_kinds : (items : List JsonValue) →
    {depth : Nat} → {error : PythonError} →
    dumpsItemsError depth items = some error →
    (∃ message, error = .valueError message) ∨ error = .recursionError
  | [], _, _, raised => by cases raised
  | item :: rest, _, _, raised => by
      simp only [dumpsItemsError, Option.or_eq_some_iff] at raised
      rcases raised with first | ⟨_, later⟩
      · exact item.dumpsError_kinds first
      · exact JsonValue.dumpsItemsError_kinds rest later

theorem JsonValue.dumpsFieldsError_kinds :
    (fields : List (Text × JsonValue)) →
    {depth : Nat} → {error : PythonError} →
    dumpsFieldsError depth fields = some error →
    (∃ message, error = .valueError message) ∨ error = .recursionError
  | [], _, _, raised => by cases raised
  | (_, value) :: rest, _, _, raised => by
      simp only [dumpsFieldsError, Option.or_eq_some_iff] at raised
      rcases raised with first | ⟨_, later⟩
      · exact value.dumpsError_kinds first
      · exact JsonValue.dumpsFieldsError_kinds rest later

end

theorem jsonDumps_kinds {value : JsonValue} {error : PythonError}
    (raised : jsonDumps value = .error error) :
    (∃ message, error = .valueError message) ∨ error = .recursionError := by
  simp only [jsonDumps] at raised
  split at raised
  next e found =>
    cases raised
    exact JsonValue.dumpsError_kinds _ found
  next => cases raised

theorem jsonDumps_raises {value : JsonValue} {error : PythonError}
    (raised : jsonDumps value = .error error) :
    error.isTypeOrValueError ∨ error = .recursionError := by
  rcases jsonDumps_kinds raised with ⟨message, rfl⟩ | deep
  · exact .inl rfl
  · exact .inr deep

theorem jsonDumps_ne_nil {value : JsonValue} {t : Text}
    (dumped : jsonDumps value = .ok t) :
    t ≠ [] := by
  simp only [jsonDumps] at dumped
  split at dumped
  next => cases dumped
  next =>
    cases dumped
    obtain ⟨c, rest, form, _⟩ := value.sortKeys.render_begins
    rw [form]
    exact List.cons_ne_nil c rest

/-- Dumping depends on the document only up to the order of its keys. -/
theorem jsonDumps_congr {v w : JsonValue} (equal : v.sortKeys = w.sortKeys) :
    jsonDumps v = jsonDumps w := by
  simp only [jsonDumps, equal]

end Dumps

mutual

theorem JsonValue.unicode_sortKeys : (value : JsonValue) →
    value.sortKeys.unicode = value.unicode
  | .scalar _ => rfl
  | .string _ => rfl
  | .array items => by
      simp only [sortKeys, unicode]
      exact JsonValue.unicodeItems_sortItems items
  | .object fields => by
      simp only [sortKeys, unicode]
      rw [← JsonValue.unicodeFields_sortFields fields]
      exact JsonValue.unicodeFields_perm
        (List.perm_insertionSort _ (sortFields fields))

theorem JsonValue.unicodeItems_sortItems : (items : List JsonValue) →
    unicodeItems (sortItems items) = unicodeItems items
  | [] => rfl
  | item :: rest => by
      simp only [sortItems, unicodeItems, item.unicode_sortKeys,
        JsonValue.unicodeItems_sortItems rest]

theorem JsonValue.unicodeFields_sortFields :
    (fields : List (Text × JsonValue)) →
    unicodeFields (sortFields fields) = unicodeFields fields
  | [] => rfl
  | (key, value) :: rest => by
      simp only [sortFields, unicodeFields, value.unicode_sortKeys,
        JsonValue.unicodeFields_sortFields rest]

theorem JsonValue.unicodeFields_perm {left right : List (Text × JsonValue)}
    (perm : left.Perm right) :
    unicodeFields left = unicodeFields right := by
  induction perm with
  | nil => rfl
  | cons entry _ ih =>
      obtain ⟨key, value⟩ := entry
      simp only [unicodeFields, ih]
  | swap first second rest =>
      obtain ⟨firstKey, firstValue⟩ := first
      obtain ⟨secondKey, secondValue⟩ := second
      simp only [unicodeFields, Bool.and_left_comm]
  | trans _ _ first second => rw [first, second]

end

theorem jsonDumps_render [PythonRuntime] {v : JsonValue} {t : Text}
    (dumped : jsonDumps v = .ok t) : v.sortKeys.render = t := by
  simp only [jsonDumps] at dumped
  split at dumped
  next => cases dumped
  next => exact Except.ok.inj dumped

/-- The same JSON: alike up to key order and surrogate pairs. -/
def JsonValue.Same (v w : JsonValue) : Prop :=
  v.sortKeys.units = w.sortKeys.units

/-- Equal texts come from documents that are the same JSON. -/
theorem jsonDumps_same [PythonRuntime] {v w : JsonValue} {t : Text}
    (left : jsonDumps v = .ok t) (right : jsonDumps w = .ok t) :
    v.Same w :=
  JsonValue.render_units
    ((jsonDumps_render left).trans (jsonDumps_render right).symm)

/-- Equal texts come from documents that agree up to key order. -/
theorem jsonDumps_inj [PythonRuntime] {v w : JsonValue} {t : Text}
    (leftUnicode : v.unicode) (rightUnicode : w.unicode)
    (left : jsonDumps v = .ok t) (right : jsonDumps w = .ok t) :
    v.sortKeys = w.sortKeys := by
  apply JsonValue.units_inj _ _ _ _ (jsonDumps_same left right)
  · rw [JsonValue.unicode_sortKeys]
    exact leftUnicode
  · rw [JsonValue.unicode_sortKeys]
    exact rightUnicode

/-! ## Documents that always dump -/

mutual

/-- No floating-point number occurs. -/
def JsonValue.closed : JsonValue → Bool
  | .scalar (.float _) => false
  | .scalar _ => true
  | .string _ => true
  | .array items => JsonValue.closedItems items
  | .object fields => JsonValue.closedFields fields

def JsonValue.closedItems : List JsonValue → Bool
  | [] => true
  | item :: rest => item.closed && JsonValue.closedItems rest

def JsonValue.closedFields : List (Text × JsonValue) → Bool
  | [] => true
  | (_, value) :: rest => value.closed && JsonValue.closedFields rest

end

mutual

/--
Containers nest at most `budget` deep, every integer has at most 4300 digits
and no floating-point number occurs.
-/
def JsonValue.fits : Nat → JsonValue → Bool
  | _, .scalar (.int value) => (intReprError value).isNone
  | _, .scalar (.float _) => false
  | _, .scalar _ => true
  | _, .string _ => true
  | 0, .array _ => false
  | budget + 1, .array items => JsonValue.fitsItems budget items
  | 0, .object _ => false
  | budget + 1, .object fields => JsonValue.fitsFields budget fields

def JsonValue.fitsItems : Nat → List JsonValue → Bool
  | _, [] => true
  | budget, item :: rest =>
      item.fits budget && JsonValue.fitsItems budget rest

def JsonValue.fitsFields : Nat → List (Text × JsonValue) → Bool
  | _, [] => true
  | budget, (_, value) :: rest =>
      value.fits budget && JsonValue.fitsFields budget rest

end

mutual

theorem JsonValue.closed_of_fits : (value : JsonValue) → {budget : Nat} →
    value.fits budget → value.closed
  | .scalar .null, _, _ => rfl
  | .scalar (.bool _), _, _ => rfl
  | .scalar (.int _), _, _ => rfl
  | .scalar (.float _), _, inside => by simp [fits] at inside
  | .string _, _, _ => rfl
  | .array _, 0, inside => by simp [fits] at inside
  | .array items, _ + 1, inside => by
      simp only [fits] at inside
      exact JsonValue.closedItems_of_fits items inside
  | .object _, 0, inside => by simp [fits] at inside
  | .object fields, _ + 1, inside => by
      simp only [fits] at inside
      exact JsonValue.closedFields_of_fits fields inside

theorem JsonValue.closedItems_of_fits : (items : List JsonValue) →
    {budget : Nat} → fitsItems budget items → closedItems items
  | [], _, _ => rfl
  | item :: rest, budget, inside => by
      simp only [fitsItems, Bool.and_eq_true] at inside
      simp only [closedItems, item.closed_of_fits inside.1,
        JsonValue.closedItems_of_fits rest inside.2, Bool.and_self]

theorem JsonValue.closedFields_of_fits :
    (fields : List (Text × JsonValue)) → {budget : Nat} →
    fitsFields budget fields → closedFields fields
  | [], _, _ => rfl
  | (_, value) :: rest, budget, inside => by
      simp only [fitsFields, Bool.and_eq_true] at inside
      simp only [closedFields, value.closed_of_fits inside.1,
        JsonValue.closedFields_of_fits rest inside.2, Bool.and_self]

end

theorem JsonValue.fitsItems_map {α : Type} {f : α → JsonValue}
    {budget : Nat} {values : List α}
    (inside : ∀ value ∈ values, (f value).fits budget) :
    fitsItems budget (values.map f) := by
  induction values with
  | nil => rfl
  | cons value rest ih =>
      simp only [List.map_cons, fitsItems, Bool.and_eq_true]
      exact ⟨inside value List.mem_cons_self,
        ih fun other member => inside other (List.mem_cons_of_mem _ member)⟩

theorem JsonValue.fitsFields_map {α : Type} {f : α → Text × JsonValue}
    {budget : Nat} {values : List α}
    (inside : ∀ value ∈ values, (f value).2.fits budget) :
    fitsFields budget (values.map f) := by
  induction values with
  | nil => rfl
  | cons value rest ih =>
      simp only [List.map_cons, fitsFields, Bool.and_eq_true]
      exact ⟨inside value List.mem_cons_self,
        ih fun other member => inside other (List.mem_cons_of_mem _ member)⟩

theorem intReprError_ordinary {value : Int}
    (ordinary : value.natAbs < 10 ^ 18) :
    intReprError value = none := by
  have digits : (decimal value.natAbs).length ≤ 18 :=
    (decimal_length_le (by decide)).mpr ordinary
  have few : ¬ 4300 < (decimal value.natAbs).length := by omega
  simp only [intReprError, few, if_false]

section Dumps

variable [PythonRuntime]

theorem dumpsFieldsError_eq_none {depth : Nat}
    {fields : List (Text × JsonValue)} :
    JsonValue.dumpsFieldsError depth fields = none ↔
      ∀ entry ∈ fields, entry.2.dumpsError depth = none := by
  induction fields with
  | nil => simp [JsonValue.dumpsFieldsError]
  | cons entry rest ih =>
      simp [JsonValue.dumpsFieldsError, Option.or_eq_none_iff, ih]

omit [PythonRuntime] in
theorem JsonValue.mem_sortFields {key : Text} {value : JsonValue}
    {fields : List (Text × JsonValue)} (member : (key, value) ∈ fields) :
    (key, value.sortKeys) ∈ sortFields fields := by
  induction fields with
  | nil => cases member
  | cons entry rest ih =>
      obtain ⟨name, other⟩ := entry
      rcases List.mem_cons.mp member with same | later
      · cases same
        exact List.mem_cons_self
      · exact List.mem_cons_of_mem _ (ih later)

/-- An object that dumps has printable integers among its fields. -/
theorem jsonDumps_integer_field {fields : List (Text × JsonValue)}
    {rendered : Text} (dumped : jsonDumps (.object fields) = .ok rendered)
    {key : Text} {value : Int} (member : (key, .int value) ∈ fields) :
    intReprError value = none := by
  have silent : (JsonValue.object fields).sortKeys.dumpsError 0 = none := by
    simp only [jsonDumps] at dumped
    split at dumped
    next => cases dumped
    next silent => exact silent
  simp only [JsonValue.sortKeys, JsonValue.dumpsError] at silent
  split at silent
  next => cases silent
  next =>
    exact dumpsFieldsError_eq_none.mp silent (key, .int value)
      ((List.mem_insertionSort _).mpr (JsonValue.mem_sortFields member))

mutual

theorem JsonValue.dumpsError_fits : (value : JsonValue) →
    {budget depth : Nat} → value.fits budget →
    depth + budget ≤ jsonNestingLimit →
    value.sortKeys.dumpsError depth = none
  | .scalar .null, _, _, _, _ => rfl
  | .scalar (.bool _), _, _, _, _ => rfl
  | .scalar (.float _), _, _, inside, _ => by simp [fits] at inside
  | .scalar (.int value), _, _, small, _ => by
      simp only [fits, Option.isNone_iff_eq_none] at small
      simp only [sortKeys, dumpsError, small]
  | .string _, _, _, _, _ => rfl
  | .array _, 0, _, inside, _ => by simp [fits] at inside
  | .array items, budget + 1, depth, inside, room => by
      have open_ : ¬ jsonNestingLimit ≤ depth := by omega
      simp only [fits] at inside
      simp only [sortKeys, dumpsError, open_, if_false]
      exact JsonValue.dumpsItemsError_fits items inside (by omega)
  | .object _, 0, _, inside, _ => by simp [fits] at inside
  | .object fields, budget + 1, depth, inside, room => by
      have open_ : ¬ jsonNestingLimit ≤ depth := by omega
      simp only [fits] at inside
      simp only [sortKeys, dumpsError, open_, if_false]
      have deeper : depth + 1 + budget ≤ jsonNestingLimit := by omega
      have unsorted := JsonValue.dumpsFieldsError_fits fields inside deeper
      rw [dumpsFieldsError_eq_none] at unsorted ⊢
      intro entry member
      exact unsorted entry ((List.mem_insertionSort _).mp member)

theorem JsonValue.dumpsItemsError_fits : (items : List JsonValue) →
    {budget depth : Nat} → fitsItems budget items →
    depth + budget ≤ jsonNestingLimit →
    dumpsItemsError depth (sortItems items) = none
  | [], _, _, _, _ => rfl
  | item :: rest, budget, depth, inside, room => by
      simp only [fitsItems, Bool.and_eq_true] at inside
      simp only [sortItems, dumpsItemsError,
        item.dumpsError_fits inside.1 room,
        JsonValue.dumpsItemsError_fits rest inside.2 room, Option.or_none]

theorem JsonValue.dumpsFieldsError_fits :
    (fields : List (Text × JsonValue)) →
    {budget depth : Nat} → fitsFields budget fields →
    depth + budget ≤ jsonNestingLimit →
    dumpsFieldsError depth (sortFields fields) = none
  | [], _, _, _, _ => rfl
  | (_, value) :: rest, budget, depth, inside, room => by
      simp only [fitsFields, Bool.and_eq_true] at inside
      simp only [sortFields, dumpsFieldsError,
        value.dumpsError_fits inside.1 room,
        JsonValue.dumpsFieldsError_fits rest inside.2 room, Option.or_none]

end

/-- Shallow documents with integers of ordinary size always dump. -/
theorem jsonDumps_ok {value : JsonValue} (inside : value.fits 100) :
    jsonDumps value = .ok value.sortKeys.render := by
  have room : 0 + 100 ≤ jsonNestingLimit := by
    simpa using PythonRuntime.jsonNestingLimit_large
  have silent := value.dumpsError_fits inside room
  simp only [jsonDumps, silent]

end Dumps

/-! ## Size of a rendering -/

mutual

/-- An upper bound on the characters of the rendering. -/
def JsonValue.extent : JsonValue → Nat
  | .scalar _ => 4301
  | .string value => 12 * value.length + 2
  | .array items => 2 + JsonValue.extentItems items
  | .object fields => 2 + JsonValue.extentFields fields

def JsonValue.extentItems : List JsonValue → Nat
  | [] => 0
  | item :: rest => 1 + item.extent + JsonValue.extentItems rest

def JsonValue.extentFields : List (Text × JsonValue) → Nat
  | [] => 0
  | (key, value) :: rest =>
      12 * key.length + 4 + value.extent + JsonValue.extentFields rest

end

theorem escapeUnit_length (u : CodeUnit) : (escapeUnit u).length ≤ 6 := by
  simp only [escapeUnit]
  split
  · simp
  · split <;> simp

theorem utf16_length (c : CodePoint) : (utf16 c).length ≤ 2 := by
  simp only [utf16]
  split <;> simp

theorem flatMap_length_le {α β : Type} {f : α → List β} {bound : Nat}
    (each : ∀ a, (f a).length ≤ bound) (values : List α) :
    (values.flatMap f).length ≤ bound * values.length := by
  induction values with
  | nil => simp
  | cons a rest ih =>
      have head := each a
      simp only [List.flatMap_cons, List.length_append, List.length_cons,
        Nat.mul_add]
      omega

theorem renderString_length (t : Text) :
    (renderString t).length ≤ 12 * t.length + 2 := by
  have units := flatMap_length_le utf16_length t
  have escapes := flatMap_length_le escapeUnit_length (t.flatMap utf16)
  simp only [renderString, List.length_append, List.length_cons,
    List.length_nil]
  omega

theorem JsonScalar.render_length {value : JsonScalar} {budget : Nat}
    (inside : (JsonValue.scalar value).fits budget) :
    value.render.length ≤ 4301 := by
  cases value with
  | null => decide
  | bool value => cases value <;> decide
  | int value =>
      simp only [JsonValue.fits, intReprError, Option.isNone_iff_eq_none,
        ite_eq_right_iff, reduceCtorEq, imp_false, Nat.not_lt] at inside
      simp only [JsonScalar.render, decimalInt]
      split
      · simp only [List.length_cons]
        omega
      · omega
  | float value => simp [JsonValue.fits] at inside

theorem JsonValue.renderFields_perm {left right : List (Text × JsonValue)}
    (perm : left.Perm right) :
    (renderFields left).length = (renderFields right).length := by
  induction perm with
  | nil => rfl
  | cons entry _ ih =>
      obtain ⟨key, value⟩ := entry
      simp only [renderFields, List.length_append, List.length_cons, ih]
  | swap first second rest =>
      obtain ⟨firstKey, firstValue⟩ := first
      obtain ⟨secondKey, secondValue⟩ := second
      simp only [renderFields, List.length_append, List.length_cons]
      omega
  | trans _ _ first second => rw [first, second]

mutual

theorem JsonValue.render_length : (value : JsonValue) → {budget : Nat} →
    value.fits budget → value.sortKeys.render.length ≤ value.extent
  | .scalar _, _, inside => by
      simp only [sortKeys, render, extent]
      exact JsonScalar.render_length inside
  | .string t, _, _ => renderString_length t
  | .array _, 0, inside => by simp [fits] at inside
  | .array [], _ + 1, _ => by decide
  | .array (item :: rest), _ + 1, inside => by
      simp only [fits] at inside
      have items := JsonValue.renderItems_length (item :: rest) inside
      simp only [sortItems, renderItems, List.length_append,
        List.length_cons] at items
      simp only [sortKeys, sortItems, render, extent, List.length_append,
        List.length_cons, List.length_nil]
      omega
  | .object _, 0, inside => by simp [fits] at inside
  | .object fields, _ + 1, inside => by
      simp only [fits] at inside
      have unsorted := JsonValue.renderFields_length fields inside
      have perm := JsonValue.renderFields_perm
        (List.perm_insertionSort fieldLe (sortFields fields))
      simp only [sortKeys, extent]
      cases form : (sortFields fields).insertionSort fieldLe with
      | nil =>
          have braces : (text "\x7b\x7d").length = 2 := by decide
          simp only [render]
          omega
      | cons entry rest =>
          obtain ⟨key, value⟩ := entry
          rw [form] at perm
          simp only [renderFields, List.length_append, List.length_cons]
            at perm
          simp only [render, List.length_append, List.length_cons,
            List.length_nil]
          omega

theorem JsonValue.renderItems_length : (items : List JsonValue) →
    {budget : Nat} → fitsItems budget items →
    (renderItems (sortItems items)).length ≤ extentItems items
  | [], _, _ => by simp [sortItems, renderItems]
  | item :: rest, budget, inside => by
      simp only [fitsItems, Bool.and_eq_true] at inside
      have head := item.render_length inside.1
      have tail := JsonValue.renderItems_length rest inside.2
      simp only [sortItems, renderItems, extentItems, List.length_append,
        List.length_cons]
      omega

theorem JsonValue.renderFields_length :
    (fields : List (Text × JsonValue)) → {budget : Nat} →
    fitsFields budget fields →
    (renderFields (sortFields fields)).length ≤ extentFields fields
  | [], _, _ => by simp [sortFields, renderFields]
  | (key, value) :: rest, budget, inside => by
      simp only [fitsFields, Bool.and_eq_true] at inside
      have keyLength := renderString_length key
      have head := value.render_length inside.1
      have tail := JsonValue.renderFields_length rest inside.2
      simp only [sortFields, renderFields, extentFields, List.length_append,
        List.length_cons]
      omega

end

theorem JsonValue.extentItems_map {α : Type} {f : α → JsonValue}
    {bound : Nat} {values : List α}
    (each : ∀ value ∈ values, (f value).extent ≤ bound) :
    extentItems (values.map f) ≤ values.length * (1 + bound) := by
  induction values with
  | nil => simp [extentItems]
  | cons value rest ih =>
      have head := each value List.mem_cons_self
      have tail := ih fun other member =>
        each other (List.mem_cons_of_mem _ member)
      simp only [List.map_cons, extentItems, List.length_cons, Nat.add_mul,
        Nat.one_mul]
      omega

theorem JsonValue.extentFields_map {α : Type} {f : α → Text × JsonValue}
    {bound : Nat} {values : List α}
    (each : ∀ value ∈ values,
      12 * (f value).1.length + 4 + (f value).2.extent ≤ bound) :
    extentFields (values.map f) ≤ values.length * bound := by
  induction values with
  | nil => simp [extentFields]
  | cons value rest ih =>
      have head := each value List.mem_cons_self
      have tail := ih fun other member =>
        each other (List.mem_cons_of_mem _ member)
      simp only [List.map_cons, extentFields, List.length_cons, Nat.add_mul,
        Nat.one_mul]
      omega

/-- A shallow document dumps to a text within its extent. -/
theorem jsonDumps_length [PythonRuntime] {value : JsonValue}
    (inside : value.fits 100) :
    ∃ rendered, jsonDumps value = .ok rendered ∧
      rendered.length ≤ value.extent :=
  ⟨_, jsonDumps_ok inside, value.render_length inside⟩

end ParityGrid.Foundation
