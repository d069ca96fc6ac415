import ParityGrid.Foundation.JsonReading
import ParityGrid.Foundation.Validation

/-!
# Reading back what was written

`jsonLoads` of a rendering is the rendered document, for every document that
`jsonLoads` can give: surrogates paired as it pairs them, floats as `repr`
writes them, no key twice.
-/

namespace ParityGrid.Foundation

/-! ## Runs of characters -/

/-- A run ends where a text is continued by something else. -/
theorem takeWhile_stop {α : Type} {p : α → Bool} {tail : List α}
    (stop : ∀ c ∈ tail.head?, p c = false) (t : List α) :
    (t ++ tail).takeWhile p = t.takeWhile p ∧
      (t ++ tail).dropWhile p = t.dropWhile p ++ tail := by
  induction t with
  | nil =>
      cases tail with
      | nil => simp
      | cons c rest =>
          have no : p c = false := stop c rfl
          simp [no]
  | cons c rest ih =>
      by_cases inside : p c
      · simp [inside, ih]
      · simp [inside]

theorem takeWhile_eq_self {α : Type} {p : α → Bool} {t : List α}
    (all : t.all p) : t.takeWhile p = t ∧ t.dropWhile p = [] := by
  rw [List.all_eq_true] at all
  exact ⟨List.takeWhile_eq_self_iff.mpr all, List.dropWhile_eq_nil_iff.mpr all⟩

/-! ## Decimal numerals -/

theorem decimal_step {n : Nat} (large : 10 ≤ n) :
    decimal n = decimal (n / 10) ++ [point (Nat.digitChar (n % 10))] := by
  simp [decimal, Nat.toDigits_of_base_le (by omega : 1 < 10) large]

theorem decimal_small {n : Nat} (small : n < 10) :
    decimal n = [point (Nat.digitChar n)] := by
  simp [decimal, Nat.toDigits_of_lt_base small]

theorem digitChar_val {n : Nat} (small : n < 10) :
    (point (Nat.digitChar n)).val = 0x30 + n := by
  have listed : ∀ d : Fin 10,
      (point (Nat.digitChar d.val)).val = 0x30 + d.val := by
    decide
  exact listed ⟨n, small⟩

theorem numeral_append (digits : Text) (c : CodePoint) :
    numeral (digits ++ [c]) = 10 * numeral digits + (c.val - 0x30) := by
  simp [numeral, List.foldl_append]

/-- `int(str(n))`. -/
theorem numeral_decimal (n : Nat) : numeral (decimal n) = n := by
  induction n using Nat.strong_induction_on with
  | _ n ih =>
      by_cases small : n < 10
      · rw [decimal_small small]
        simp [numeral, digitChar_val small]
      · rw [decimal_step (by omega), numeral_append, ih (n / 10) (by omega),
          digitChar_val (by omega)]
        omega

/-- Only zero begins with the digit zero. -/
theorem decimal_head {n : Nat} (positive : 0 < n) :
    ∃ c rest, decimal n = c :: rest ∧ c ≠ point '0' := by
  induction n using Nat.strong_induction_on with
  | _ n ih =>
      by_cases small : n < 10
      · refine ⟨_, [], decimal_small small, fun same => ?_⟩
        have values := congrArg Fin.val same
        rw [digitChar_val small, point_val] at values
        simp only [Char.reduceToNat] at values
        omega
      · obtain ⟨c, rest, form, nonzero⟩ := ih (n / 10) (by omega) (by omega)
        exact ⟨c, rest ++ [_], by rw [decimal_step (by omega), form]; rfl,
          nonzero⟩

theorem numeral_lt {digits : Text} (all : digits.all isDigit) :
    numeral digits < 10 ^ digits.length := by
  induction digits using List.reverseRecOn with
  | nil => simp [numeral]
  | append_singleton digits c ih =>
      simp only [List.all_append, List.all_cons, List.all_nil, Bool.and_true,
        Bool.and_eq_true, isDigit, decide_eq_true_eq] at all
      have below := ih all.1
      rw [numeral_append, List.length_append, List.length_singleton,
        Nat.pow_succ]
      omega

/-! ## Numbers are read to their end -/

/-- What can follow a value: nothing, or a delimiter. -/
abbrev Stops (tail : Text) : Prop :=
  EndsAt isDelimiter tail

/-- A delimiter continues no number. -/
theorem Stops.cases {tail : Text} (stops : Stops tail) :
    tail = [] ∨ ∃ c rest, tail = c :: rest ∧ isDigit c = false ∧
      c ≠ point '.' ∧ c ≠ point 'e' ∧ c ≠ point 'E' ∧ c ≠ point '+' ∧
      c ≠ point '-' := by
  cases tail with
  | nil => exact .inl rfl
  | cons c rest =>
      have stop := stops c rest rfl
      simp only [isDelimiter, Bool.or_eq_true, beq_iff_eq] at stop
      refine .inr ⟨c, rest, rfl, ?_⟩
      rcases stop with (rfl | rfl) | rfl <;> decide

theorem Stops.not_digit {tail : Text} (stops : Stops tail) :
    ∀ c ∈ tail.head?, isDigit c = false := by
  rcases stops.cases with rfl | ⟨c, rest, rfl, digit, _⟩
  · simp
  · simpa using digit

theorem head_digit_append {tail : Text} (stops : Stops tail) (t : Text) :
    (t ++ tail).head?.any isDigit = t.head?.any isDigit := by
  cases t with
  | nil =>
      rcases stops.cases with rfl | ⟨c, rest, rfl, digit, _⟩
      · rfl
      · simpa using digit
  | cons c rest => rfl

theorem takeWhole_append {t whole rest tail : Text} (stops : Stops tail)
    (found : takeWhole t = some (whole, rest)) :
    takeWhole (t ++ tail) = some (whole, rest ++ tail) := by
  cases t with
  | nil => cases found
  | cons c others =>
      obtain ⟨taken, dropped⟩ := takeWhile_stop stops.not_digit others
      simp only [takeWhole] at found
      simp only [List.cons_append, takeWhole]
      split at found
      next zero =>
        cases found
        rw [if_pos zero]
      next nonzero =>
        rw [if_neg nonzero]
        split at found
        next digit =>
          cases found
          rw [if_pos digit, taken, dropped]
        next => cases found

theorem takeFraction_append {tail : Text} (stops : Stops tail) (t : Text) :
    takeFraction (t ++ tail) =
      ((takeFraction t).1, (takeFraction t).2 ++ tail) := by
  cases t with
  | nil =>
      rcases stops.cases with rfl | ⟨c, rest, rfl, _, dot, _⟩
      · rfl
      · simp [takeFraction, dot]
  | cons c others =>
      obtain ⟨taken, dropped⟩ := takeWhile_stop stops.not_digit others
      simp only [List.cons_append, takeFraction, head_digit_append stops]
      split
      · rw [taken, dropped]
      · rfl

theorem takeSign_append {tail : Text} (stops : Stops tail) (t : Text) :
    takeSign (t ++ tail) = ((takeSign t).1, (takeSign t).2 ++ tail) := by
  cases t with
  | nil =>
      rcases stops.cases with rfl | ⟨c, rest, rfl, _, _, _, _, plus, minus⟩
      · rfl
      · simp [takeSign, plus, minus]
  | cons c others =>
      simp only [List.cons_append, takeSign]
      split <;> rfl

theorem takeExponent_append {tail : Text} (stops : Stops tail) (t : Text) :
    takeExponent (t ++ tail) =
      ((takeExponent t).1, (takeExponent t).2 ++ tail) := by
  cases t with
  | nil =>
      rcases stops.cases with rfl | ⟨c, rest, rfl, _, _, lower, upper, _⟩
      · rfl
      · simp [takeExponent, lower, upper]
  | cons c others =>
      obtain ⟨taken, dropped⟩ :=
        takeWhile_stop stops.not_digit (takeSign others).2
      simp only [List.cons_append, takeExponent, takeSign_append stops,
        head_digit_append stops]
      split
      · rw [taken, dropped]
      · rfl

/-- A number does not depend on what a delimiter sets apart from it. -/
theorem matchNumber_append {t tail : Text} {number : NumberMatch}
    (stops : Stops tail) (found : matchNumber t = some number) :
    matchNumber (t ++ tail) =
      some { number with rest := number.rest ++ tail } := by
  simp only [matchNumber, Option.bind_eq_bind, Option.bind_eq_some_iff]
    at found
  obtain ⟨⟨whole, rest⟩, wholes, found⟩ := found
  cases found
  have inhabited : t ≠ [] := by
    rintro rfl
    cases wholes
  have heads : (t ++ tail).head? = t.head? := by
    cases t with
    | nil => exact absurd rfl inhabited
    | cons c others => rfl
  have longer : takeWhole (if decide ((t ++ tail).head? = some (point '-'))
      then (t ++ tail).tail else t ++ tail) = some (whole, rest ++ tail) := by
    rw [heads, ← takeWhole_append stops wholes]
    split
    · rw [List.tail_append_of_ne_nil inhabited]
    · rfl
  rw [heads] at longer
  simp only [matchNumber, longer, Option.bind_eq_bind, Option.bind_some,
    takeFraction_append stops, takeExponent_append stops, heads]
  rfl

theorem takeWhole_sound {t whole rest : Text}
    (found : takeWhole t = some (whole, rest)) :
    t = whole ++ rest ∧ whole.all isDigit ∧ whole ≠ [] := by
  cases t with
  | nil => cases found
  | cons c others =>
      simp only [takeWhole] at found
      split at found
      next zero =>
        cases found
        subst zero
        exact ⟨rfl, by decide, by simp⟩
      next =>
        split at found
        next digit =>
          cases found
          refine ⟨?_, ?_, by simp⟩
          · rw [List.cons_append, List.takeWhile_append_dropWhile]
          · rw [List.all_cons, digit, Bool.true_and, List.all_eq_true]
            exact fun d inside => List.mem_takeWhile_imp inside
        next => cases found

theorem takeFraction_sound (t : Text) :
    (takeFraction t).1 ++ (takeFraction t).2 = t := by
  cases t with
  | nil => rfl
  | cons c others =>
      simp only [takeFraction]
      split
      · rw [List.cons_append, List.takeWhile_append_dropWhile]
      · rfl

theorem takeSign_sound (t : Text) :
    (takeSign t).1 ++ (takeSign t).2 = t := by
  cases t with
  | nil => rfl
  | cons c others =>
      simp only [takeSign]
      split <;> rfl

theorem takeExponent_sound (t : Text) :
    (takeExponent t).1 ++ (takeExponent t).2 = t := by
  cases t with
  | nil => rfl
  | cons c others =>
      simp only [takeExponent]
      split
      · simp only [List.cons_append, List.append_assoc,
          List.takeWhile_append_dropWhile, takeSign_sound]
      · rfl

/-- What a number matches is its literal, which begins with a digit. -/
theorem matchNumber_sound {t : Text} {number : NumberMatch}
    (found : matchNumber t = some number) :
    t = number.literal ++ number.rest ∧ number.whole.all isDigit ∧
      number.whole ≠ [] := by
  simp only [matchNumber, Option.bind_eq_bind, Option.bind_eq_some_iff]
    at found
  obtain ⟨⟨whole, rest⟩, wholes, found⟩ := found
  cases found
  obtain ⟨form, digits, some_⟩ := takeWhole_sound wholes
  refine ⟨?_, digits, some_⟩
  simp only [NumberMatch.literal, List.append_assoc, takeExponent_sound,
    takeFraction_sound, ← form]
  cases t with
  | nil => simp
  | cons c others => by_cases minus : c = point '-' <;> simp [minus]

/-- A digit comes first, or second after a minus sign. -/
def startsNumber : Text → Bool
  | [] => false
  | [c] => isDigit c
  | c :: d :: _ => isDigit c || c = point '-' && isDigit d

theorem constants_start : jsonConstants.all fun entry =>
    2 ≤ entry.1.length && !startsNumber entry.1 := by
  decide

theorem startsNumber_append {t : Text} (long : 2 ≤ t.length) (tail : Text) :
    startsNumber (t ++ tail) = startsNumber t := by
  match t, long with
  | c :: d :: rest, _ => rfl

theorem readConstant_none {t : Text} (starts : startsNumber t) :
    readConstant t = none := by
  rw [readConstant, List.findSome?_eq_none_iff]
  rintro ⟨name, value⟩ member
  have differs := List.all_eq_true.mp constants_start _ member
  simp only [Bool.and_eq_true, decide_eq_true_eq, Bool.not_eq_true'] at differs
  show (if name.isPrefixOf t then _ else none) = none
  split
  next begins =>
    obtain ⟨tail, rfl⟩ := List.isPrefixOf_iff_prefix.mp begins
    rw [startsNumber_append differs.1, differs.2] at starts
    cases starts
  · rfl

/-- No constant begins as a number does. -/
theorem matchNumber_starts {t : Text} {number : NumberMatch}
    (found : matchNumber t = some number) : startsNumber t := by
  obtain ⟨form, digits, some_⟩ := matchNumber_sound found
  obtain ⟨d, rest, whole⟩ := List.exists_cons_of_ne_nil some_
  rw [whole, List.all_cons, Bool.and_eq_true] at digits
  rw [form, NumberMatch.literal, whole]
  cases number.negative with
  | true => simp [startsNumber, digits.1]
  | false =>
      simp only [Bool.false_eq_true, if_false, List.nil_append,
        List.cons_append]
      cases rest ++ number.fraction ++ number.exponent ++ number.rest with
      | nil => exact digits.1
      | cons e others => simp [startsNumber, digits.1]

/-! ## Strings -/

theorem hexValue_hexDigit (n : Fin 16) :
    hexValue (hexDigit n) = some n.val := by
  revert n
  decide

/-- The digits of an escape denote its code unit. -/
theorem hexUnit_nibbles (u : CodeUnit) :
    hexUnit (hexDigit (unitNibble u 3)) (hexDigit (unitNibble u 2))
      (hexDigit (unitNibble u 1)) (hexDigit (unitNibble u 0)) = some u := by
  simp only [hexUnit, hexValue_hexDigit, Option.bind_eq_bind, Option.bind_some,
    Option.pure_def, Option.some.injEq]
  apply Fin.ext
  simp only [unitNibble, Fin.val_ofNat, Nat.reducePow, Nat.div_one]
  omega

/-- How the rendering of a code unit is read. -/
def pieceOf (u : CodeUnit) : StringPiece :=
  if isPlainUnit u || (shortEscape u).isSome then .raw (unitPoint u)
  else .escape u

theorem unescape_shortEscape {u : CodeUnit} {letter : CodePoint}
    (short : shortEscape u = some letter) :
    letter ≠ point 'u' ∧ unescape letter = some (unitPoint u) := by
  simp only [shortEscape] at short
  repeat' split at short
  all_goals cases short
  all_goals
    refine ⟨by decide, ?_⟩
    rw [unitPoint, ‹u.val = _›]
    decide

theorem readPieces_unit (u : CodeUnit) (rest : Text) :
    readPieces (escapeUnit u ++ rest) =
      (readPieces rest).map fun (pieces, after) =>
        (pieceOf u :: pieces, after) := by
  cases plain : isPlainUnit u with
  | true =>
      obtain ⟨form, notEscape, notQuote⟩ := escapeUnit_plain plain
      have printable : ¬ (Fin.ofNat _ u.val : CodePoint).val < 0x20 := by
        simp only [isPlainUnit, Bool.and_eq_true, decide_eq_true_eq] at plain
        simp only [Fin.val_ofNat]
        omega
      rw [form, List.singleton_append, readPieces.eq_def]
      simp only [notQuote, notEscape, printable, if_false, pieceOf, plain,
        Bool.true_or, if_true]
      rfl
  | false =>
      cases short : shortEscape u with
      | some letter =>
          obtain ⟨notU, denotes⟩ := unescape_shortEscape short
          simp only [escapeUnit, plain, Bool.false_eq_true, if_false, short,
            List.cons_append, List.nil_append]
          rw [readPieces.eq_def]
          simp only [show point '\\' ≠ point '"' by decide, if_false, if_true,
            notU, denotes, pieceOf, plain, short,
            Option.isSome_some, Bool.or_true]
      | none =>
          simp only [escapeUnit, plain, Bool.false_eq_true, if_false, short,
            List.cons_append, List.nil_append]
          rw [readPieces.eq_def]
          simp only [show point '\\' ≠ point '"' by decide, if_false, if_true,
            hexUnit_nibbles, pieceOf, plain, short,
            Option.isSome_none, Bool.or_false, Bool.false_eq_true]

theorem readPieces_units (units : List CodeUnit) (rest : Text) :
    readPieces (units.flatMap escapeUnit ++ point '"' :: rest) =
      .ok (units.map pieceOf, rest) := by
  induction units with
  | nil =>
      rw [List.flatMap_nil, List.nil_append, readPieces.eq_def]
      simp
  | cons u others ih =>
      rw [List.flatMap_cons, List.append_assoc, readPieces_unit, ih]
      rfl

def isHighPoint (c : CodePoint) : Bool :=
  0xD800 ≤ c.val && c.val ≤ 0xDBFF

def isLowPoint (c : CodePoint) : Bool :=
  0xDC00 ≤ c.val && c.val ≤ 0xDFFF

/-- No high surrogate comes right before a low one. -/
def paired : Text → Bool
  | c :: d :: rest => !(isHighPoint c && isLowPoint d) && paired (d :: rest)
  | _ => true

theorem paired_tail {c : CodePoint} {rest : Text} (pairs : paired (c :: rest)) :
    paired rest := by
  cases rest with
  | nil => rfl
  | cons d others =>
      simp only [paired, Bool.and_eq_true] at pairs
      exact pairs.2

theorem paired_cons {c : CodePoint} {rest : Text} (pairs : paired rest)
    (apart : isHighPoint c = false ∨ ∀ d ∈ rest.head?, isLowPoint d = false) :
    paired (c :: rest) := by
  cases rest with
  | nil => rfl
  | cons d others =>
      simp only [paired, pairs, Bool.and_true, Bool.not_eq_true',
        Bool.and_eq_false_iff]
      exact apart.imp_right fun low => low d rfl

theorem paired_of_isUnicode {t : Text} (unicode : isUnicode t) : paired t := by
  induction t with
  | nil => rfl
  | cons c rest ih =>
      simp only [isUnicode, List.all_cons, Bool.and_eq_true, Bool.not_eq_true',
        isSurrogate, Bool.and_eq_false_iff, decide_eq_false_iff_not]
        at unicode
      refine paired_cons (ih unicode.2) (.inl ?_)
      simp only [isHighPoint, Bool.and_eq_false_iff, decide_eq_false_iff_not]
      omega

/-- Surrogates are written as four-digit escapes. -/
theorem pieceOf_surrogate {u : CodeUnit}
    (surrogate : 0xD800 ≤ u.val ∧ u.val ≤ 0xDFFF) :
    pieceOf u = .escape u := by
  have notPlain : isPlainUnit u = false := by
    simp only [isPlainUnit, Bool.and_eq_false_iff, decide_eq_false_iff_not]
    omega
  have notShort : shortEscape u = none := by
    simp only [shortEscape]
    repeat' split
    all_goals first
      | rfl
      | omega
  simp [pieceOf, notPlain, notShort]

theorem pieceOf_cases (u : CodeUnit) :
    (pieceOf u = .raw (unitPoint u) ∧ isHighUnit u = false) ∨
      pieceOf u = .escape u := by
  by_cases surrogate : 0xD800 ≤ u.val ∧ u.val ≤ 0xDFFF
  · exact .inr (pieceOf_surrogate surrogate)
  · by_cases short : (isPlainUnit u || (shortEscape u).isSome) = true
    · refine .inl ⟨by rw [pieceOf, if_pos short], ?_⟩
      simp only [isHighUnit, Bool.and_eq_false_iff, decide_eq_false_iff_not]
      omega
    · exact .inr (by rw [pieceOf, if_neg short])

theorem unitPoint_val (u : CodeUnit) : (unitPoint u).val = u.val := by
  simp only [unitPoint, Fin.val_ofNat]
  omega

theorem utf16_small {c : CodePoint} (small : c.val < 0x10000) :
    ∃ u : CodeUnit, utf16 c = [u] ∧ unitPoint u = c ∧ u.val = c.val := by
  refine ⟨Fin.ofNat _ c.val, by rw [utf16, if_pos small], Fin.ext ?_, ?_⟩
  all_goals
    simp only [unitPoint, Fin.val_ofNat]
    omega

theorem utf16_large {c : CodePoint} (large : ¬ c.val < 0x10000) :
    ∃ high low : CodeUnit, utf16 c = [high, low] ∧ isHighUnit high ∧
      isLowUnit high = false ∧ isLowUnit low ∧ pairPoint high low = c := by
  have bound := c.isLt
  refine ⟨_, _, by rw [utf16, if_neg large], ?_, ?_, ?_, Fin.ext ?_⟩
  · simp only [isHighUnit, Fin.val_ofNat, Bool.and_eq_true, decide_eq_true_eq]
    omega
  · simp only [isLowUnit, Fin.val_ofNat, Bool.and_eq_false_iff,
      decide_eq_false_iff_not]
    omega
  · simp only [isLowUnit, Fin.val_ofNat, Bool.and_eq_true, decide_eq_true_eq]
    omega
  · simp only [pairPoint, Fin.val_ofNat]
    omega

/-- Joining the pieces of a text gives the text. -/
theorem joinPieces_units (t : Text) :
    (paired t → joinPieces none ((t.flatMap utf16).map pieceOf) = t) ∧
      ∀ high : CodeUnit, isHighUnit high →
        paired (unitPoint high :: t) →
          joinPieces (some high) ((t.flatMap utf16).map pieceOf) =
            unitPoint high :: t := by
  induction t with
  | nil => exact ⟨fun _ => rfl, fun _ _ _ => rfl⟩
  | cons c rest ih =>
      by_cases small : c.val < 0x10000
      · obtain ⟨u, form, rfl, value⟩ := utf16_small small
        simp only [List.flatMap_cons, form, List.map_cons,
          List.singleton_append]
        rcases pieceOf_cases u with ⟨raw, _⟩ | escape
        · simp only [raw, joinPieces, List.cons.injEq, true_and]
          exact ⟨fun pairs => ih.1 (paired_tail pairs), fun _ _ pairs =>
            ih.1 (paired_tail (paired_tail pairs))⟩
        · simp only [escape, joinPieces]
          constructor
          · intro pairs
            split
            next high => exact ih.2 u high pairs
            next => rw [ih.1 (paired_tail pairs)]
          · intro high isHigh pairs
            have notLow : isLowUnit u = false := by
              simp only [paired, Bool.and_eq_true, Bool.not_eq_true']
                at pairs
              have apart := pairs.1
              simp only [isHighPoint, isLowPoint, unitPoint_val] at apart
              simp only [isHighUnit] at isHigh
              rwa [isHigh, Bool.true_and] at apart
            simp only [notLow, Bool.false_eq_true, if_false]
            split
            next next => rw [ih.2 u next (paired_tail pairs)]
            next => rw [ih.1 (paired_tail (paired_tail pairs))]
      · obtain ⟨high, low, form, isHigh, notLow, isLow, rfl⟩ :=
          utf16_large small
        have highPiece : pieceOf high = .escape high := by
          apply pieceOf_surrogate
          simp only [isHighUnit, Bool.and_eq_true, decide_eq_true_eq] at isHigh
          omega
        have lowPiece : pieceOf low = .escape low := by
          apply pieceOf_surrogate
          simp only [isLowUnit, Bool.and_eq_true, decide_eq_true_eq] at isLow
          omega
        simp only [List.flatMap_cons, form, List.map_cons, List.cons_append,
          List.nil_append, highPiece, lowPiece,
          joinPieces, isHigh, isLow, notLow, if_true, Bool.false_eq_true,
          if_false, List.cons.injEq, true_and]
        exact ⟨fun pairs => ih.1 (paired_tail pairs), fun _ _ pairs =>
          ih.1 (paired_tail (paired_tail pairs))⟩

/-- A rendered string is read back, with what follows it. -/
theorem readString_render {t : Text} (pairs : paired t) (rest : Text) :
    ∃ quoted, renderString t ++ rest = point '"' :: quoted ∧
      readString quoted = .ok (t, rest) := by
  refine ⟨(t.flatMap utf16).flatMap escapeUnit ++ point '"' :: rest, ?_, ?_⟩
  · simp [renderString]
  · rw [readString, readPieces_units]
    exact congrArg (fun joined => Except.ok (joined, rest))
      ((joinPieces_units t).1 pairs)

/-! ## Scalars -/

/-- The number that the text of an integer matches. -/
def decimalMatch (value : Int) : NumberMatch where
  negative := decide (value < 0)
  whole := decimal value.natAbs
  fraction := []
  exponent := []
  rest := []

theorem takeWhole_decimal (n : Nat) :
    takeWhole (decimal n) = some (decimal n, []) := by
  by_cases zero : n = 0
  · subst zero
    decide
  · obtain ⟨c, rest, form, nonzero⟩ := decimal_head (by omega : 0 < n)
    have digits := decimal_all_digit n
    rw [form, List.all_cons, Bool.and_eq_true] at digits
    obtain ⟨taken, dropped⟩ := takeWhile_eq_self digits.2
    rw [form, takeWhole, if_neg nonzero, if_pos digits.1, taken, dropped]

theorem matchNumber_decimalInt (value : Int) :
    matchNumber (decimalInt value) = some (decimalMatch value) := by
  have first : (decimal value.natAbs).head? ≠ some (point '-') := by
    have digits := decimal_all_digit value.natAbs
    cases form : decimal value.natAbs with
    | nil => simp
    | cons c rest =>
        rw [form, List.all_cons, Bool.and_eq_true] at digits
        rintro same
        cases same
        exact absurd digits.1 (by decide)
  by_cases negative : value < 0
  · simp [matchNumber, decimalInt, decimalMatch, negative, takeWhole_decimal,
      takeFraction, takeExponent]
  · simp [matchNumber, decimalInt, decimalMatch, negative, takeWhole_decimal,
      takeFraction, takeExponent, first]

section Values

variable [JsonRuntime]

/-- A scalar that `json.loads` can give. -/
def JsonScalar.WellRead : JsonScalar → Prop
  | .int value => (decimal value.natAbs).length ≤ 4300
  | .float value =>
      value = nanText ∨ value = infinityText ∨ value = negativeInfinityText ∨
        (isFloatLiteral value.value ∧ floatRepr value.value = value)
  | _ => True

omit [JsonRuntime] in
theorem readConstant_append {entry : Text × JsonScalar}
    (member : entry ∈ jsonConstants) (tail : Text) :
    readConstant (entry.1 ++ tail) = some (entry.2, tail) := by
  simp only [jsonConstants, List.mem_cons, List.not_mem_nil, or_false]
    at member
  rcases member with rfl | rfl | rfl | rfl | rfl | rfl <;> rfl

/-- A scalar is read back. -/
theorem readScalar_render {value : JsonScalar} (read : value.WellRead)
    {tail : Text} (stops : Stops tail) :
    readScalar (value.render ++ tail) = .ok (value, tail) := by
  have constant (member : (value.render, value) ∈ jsonConstants) :
      readScalar (value.render ++ tail) = .ok (value, tail) := by
    rw [readScalar, readConstant_append member tail]
  have number {t : Text} {number : NumberMatch}
      (found : matchNumber t = some number) : readScalar (t ++ tail) =
        readNumber (t ++ tail) := by
    rw [readScalar,
      readConstant_none (matchNumber_starts (matchNumber_append stops found))]
  cases value with
  | null => exact constant (.head _)
  | bool value =>
      cases value with
      | true => exact constant (.tail _ (.head _))
      | false => exact constant (.tail _ (.tail _ (.head _)))
  | int value =>
      have found := matchNumber_decimalInt value
      have small : ¬ 4300 < (decimal value.natAbs).length := by
        simp only [JsonScalar.WellRead] at read
        omega
      simp only [JsonScalar.render, number found, readNumber,
        matchNumber_append stops found, NumberMatch.isFloat, decimalMatch,
        List.isEmpty_nil, Bool.and_self, Bool.not_true, Bool.false_eq_true,
        if_false, small, numeral_decimal, List.nil_append, decide_eq_true_eq]
      split
      · rw [show (-(value.natAbs : Int)) = value by omega]
      · rw [show (value.natAbs : Int) = value by omega]
  | float value =>
      rcases read with rfl | rfl | rfl | ⟨literal, same⟩
      · exact constant (.tail _ (.tail _ (.tail _ (.head _))))
      · exact constant (.tail _ (.tail _ (.tail _ (.tail _ (.head _)))))
      · exact constant
          (.tail _ (.tail _ (.tail _ (.tail _ (.tail _ (.head _))))))
      · obtain ⟨found, matched, complete⟩ := Option.any_eq_true _ _ |>.mp literal
        simp only [Bool.and_eq_true, List.isEmpty_iff] at complete
        obtain ⟨form, _, _⟩ := matchNumber_sound matched
        rw [complete.2, List.append_nil] at form
        have isFloat : ({ found with rest := found.rest ++ tail } :
            NumberMatch).isFloat = true := complete.1
        have denotes : ({ found with rest := found.rest ++ tail } :
            NumberMatch).literal = value.value := form.symm
        rw [JsonScalar.render, number matched, readNumber,
          matchNumber_append stops matched]
        show (if NumberMatch.isFloat _ then _ else _) = _
        rw [if_pos isFloat, denotes, same, complete.2]
        rfl

/-! ## Documents -/

mutual

/-- A document that `json.loads` can give. -/
def JsonValue.WellRead : JsonValue → Prop
  | .scalar value => value.WellRead
  | .string t => paired t
  | .array items => WellReadItems items
  | .object fields =>
      (fields.map Prod.fst).Nodup ∧ WellReadFields fields

def JsonValue.WellReadItems : List JsonValue → Prop
  | [] => True
  | item :: rest => item.WellRead ∧ WellReadItems rest

def JsonValue.WellReadFields : List (Text × JsonValue) → Prop
  | [] => True
  | (key, value) :: rest =>
      paired key ∧ value.WellRead ∧ WellReadFields rest

end

end Values

mutual

/-- No more than `budget` containers of the document are nested. -/
def JsonValue.nests : Nat → JsonValue → Bool
  | _, .scalar _ => true
  | _, .string _ => true
  | 0, .array _ => false
  | 0, .object _ => false
  | budget + 1, .array items => nestsItems budget items
  | budget + 1, .object fields => nestsFields budget fields

def JsonValue.nestsItems : Nat → List JsonValue → Bool
  | _, [] => true
  | budget, item :: rest => item.nests budget && nestsItems budget rest

def JsonValue.nestsFields : Nat → List (Text × JsonValue) → Bool
  | _, [] => true
  | budget, (_, value) :: rest =>
      value.nests budget && nestsFields budget rest

end

theorem skipSpace_cons {c : CodePoint} (rest : Text)
    (visible : isJsonSpace c = false) : skipSpace (c :: rest) = c :: rest := by
  simp [skipSpace, visible]

/-- A rendering begins with no space and no end of an array. -/
theorem JsonValue.render_visible (value : JsonValue) (tail : Text) :
    ∃ c rest, value.render ++ tail = c :: rest ∧
      skipSpace (value.render ++ tail) = c :: rest ∧ c ≠ point ']' ∧
      shapeOf c = some value.shape := by
  obtain ⟨c, rest, form, shape⟩ := value.render_begins
  have visible : isJsonSpace c = false := by
    by_contra space
    simp only [isJsonSpace, Bool.not_eq_false, Bool.or_eq_true,
      decide_eq_true_eq] at space
    have none_ : shapeOf c = none := by
      rcases space with ((rfl | tab) | line) | carriage
      · decide
      · rw [show c = 0x09 from Fin.ext tab]
        decide
      · rw [show c = 0x0A from Fin.ext line]
        decide
      · rw [show c = 0x0D from Fin.ext carriage]
        decide
    rw [none_] at shape
    cases shape
  refine ⟨c, rest ++ tail, by rw [form]; rfl, ?_, ?_, shape⟩
  · rw [form]
    exact skipSpace_cons _ visible
  · rintro rfl
    exact absurd shape (by cases value.shape <;> decide)

theorem stops_close (close : CodePoint) (delimiter : isDelimiter close)
    (tail : Text) : Stops (close :: tail) :=
  endsAt_cons tail delimiter

theorem stops_items (items : List JsonValue) (tail : Text) :
    Stops (JsonValue.renderItems items ++ point ']' :: tail) := by
  cases items with
  | nil => exact stops_close _ (by decide) tail
  | cons item rest =>
      simp only [JsonValue.renderItems, List.cons_append]
      exact stops_close _ (by decide) _

theorem stops_fields (fields : List (Text × JsonValue)) (tail : Text) :
    Stops (JsonValue.renderFields fields ++ point '\x7d' :: tail) := by
  cases fields with
  | nil => exact stops_close _ (by decide) tail
  | cons field rest =>
      simp only [JsonValue.renderFields, List.cons_append]
      exact stops_close _ (by decide) _

section Values

variable [JsonRuntime]

mutual

/-- A rendered value is read back, with what follows it. -/
theorem readValue_render : (value : JsonValue) → value.WellRead →
    {depth budget fuel : Nat} → value.nests budget →
    depth + budget ≤ jsonReadingLimit → 2 * value.render.length ≤ fuel →
    {tail : Text} → Stops tail →
    readValue depth fuel (value.render ++ tail) = .ok (value, tail)
  | .scalar value, read, depth, budget, fuel, nests, room, enough, tail,
      stops => by
    obtain ⟨c, rest, form, _, _, shape⟩ :=
      (JsonValue.scalar value).render_visible tail
    replace shape : shapeOf c = some .scalar := shape
    have begins := @readScalar_render _ value read _ stops
    simp only [JsonValue.render] at form enough ⊢
    have some_ : value.render ≠ [] := by
      obtain ⟨c, rest, form, _⟩ := value.render_begins
      simp [form]
    have positive := List.length_pos_iff.mpr some_
    obtain ⟨fuel, rfl⟩ : ∃ less, fuel = less + 1 := ⟨fuel - 1, by omega⟩
    rw [form] at begins ⊢
    have notString : c ≠ point '"' := by
      rintro rfl
      exact absurd shape (by decide)
    have notObject : c ≠ point '\x7b' := by
      rintro rfl
      exact absurd shape (by decide)
    have notArray : c ≠ point '[' := by
      rintro rfl
      exact absurd shape (by decide)
    rw [readValue, if_neg notString, if_neg notObject, if_neg notArray, begins]
    rfl
  | .string t, read, depth, budget, fuel, nests, room, enough, tail,
      stops => by
    obtain ⟨quoted, form, reads⟩ := readString_render read tail
    simp only [JsonValue.render] at enough ⊢
    have positive : 0 < (renderString t).length := by simp [renderString]
    obtain ⟨fuel, rfl⟩ : ∃ less, fuel = less + 1 := ⟨fuel - 1, by omega⟩
    rw [form, readValue, if_pos rfl, reads]
    rfl
  | .array [], read, depth, budget, fuel, nests, room, enough, tail,
      stops => by
    have open_ : ¬ jsonReadingLimit ≤ depth := by
      cases budget with
      | zero => cases nests
      | succ budget => omega
    have positive : (JsonValue.array []).render.length = 2 := rfl
    obtain ⟨fuel, rfl⟩ : ∃ less, fuel = less + 1 := ⟨fuel - 1, by omega⟩
    show readValue depth (fuel + 1) (point '[' :: point ']' :: tail) = _
    rw [readValue, if_neg (by decide), if_neg (by decide), if_pos rfl,
      if_neg open_, skipSpace_cons tail (by decide)]
    rfl
  | .array (item :: rest), read, depth, budget, fuel, nests, room, enough,
      tail, stops => by
    obtain ⟨budget, rfl⟩ : ∃ less, budget = less + 1 := by
      cases budget with
      | zero => cases nests
      | succ budget => exact ⟨budget, rfl⟩
    simp only [JsonValue.nests, JsonValue.nestsItems, Bool.and_eq_true]
      at nests
    simp only [JsonValue.WellRead, JsonValue.WellReadItems] at read
    simp only [JsonValue.render, List.length_append, List.length_cons,
      List.length_nil] at enough
    obtain ⟨fuel, rfl⟩ : ∃ less, fuel = less + 1 := ⟨fuel - 1, by omega⟩
    have open_ : ¬ jsonReadingLimit ≤ depth := by omega
    have items := readItems_render item rest read.1 read.2 nests.1 nests.2
      (by omega : (depth + 1) + budget ≤ jsonReadingLimit)
      (by omega : _ ≤ fuel) tail
    obtain ⟨c, after, form, skips, inside, _⟩ := item.render_visible
      (JsonValue.renderItems rest ++ point ']' :: tail)
    have whole : (JsonValue.array (item :: rest)).render ++ tail =
        point '[' :: (item.render ++
          (JsonValue.renderItems rest ++ point ']' :: tail)) := by
      simp [JsonValue.render]
    rw [List.append_assoc, form] at items
    rw [whole, readValue, if_neg (by decide), if_neg (by decide), if_pos rfl,
      if_neg open_, skips]
    show (if c = point ']' then _ else _) = _
    rw [if_neg inside, items]
    rfl
  | .object [], read, depth, budget, fuel, nests, room, enough, tail,
      stops => by
    have open_ : ¬ jsonReadingLimit ≤ depth := by
      cases budget with
      | zero => cases nests
      | succ budget => omega
    have positive : (JsonValue.object []).render.length = 2 := rfl
    obtain ⟨fuel, rfl⟩ : ∃ less, fuel = less + 1 := ⟨fuel - 1, by omega⟩
    show readValue depth (fuel + 1) (point '\x7b' :: point '\x7d' :: tail) = _
    rw [readValue, if_neg (by decide), if_pos rfl, if_neg open_,
      skipSpace_cons tail (by decide)]
    rfl
  | .object ((key, value) :: rest), read, depth, budget, fuel, nests, room,
      enough, tail, stops => by
    obtain ⟨budget, rfl⟩ : ∃ less, budget = less + 1 := by
      cases budget with
      | zero => cases nests
      | succ budget => exact ⟨budget, rfl⟩
    simp only [JsonValue.nests, JsonValue.nestsFields, Bool.and_eq_true]
      at nests
    simp only [JsonValue.WellRead, JsonValue.WellReadFields] at read
    simp only [JsonValue.render, List.length_append, List.length_cons,
      List.length_nil] at enough
    obtain ⟨fuel, rfl⟩ : ∃ less, fuel = less + 1 := ⟨fuel - 1, by omega⟩
    have open_ : ¬ jsonReadingLimit ≤ depth := by omega
    have fields := readFields_render [] key value rest read.2.1 read.2.2.1
      read.2.2.2 read.1 nests.1 nests.2
      (by omega : (depth + 1) + budget ≤ jsonReadingLimit)
      (by omega : _ ≤ fuel) tail
    have whole : (JsonValue.object ((key, value) :: rest)).render ++ tail =
        point '\x7b' :: (renderString key ++ (point ':' :: (value.render ++
          (JsonValue.renderFields rest ++ point '\x7d' :: tail)))) := by
      simp [JsonValue.render]
    obtain ⟨quoted, form, _⟩ := readString_render read.2.1
      (point ':' :: (value.render ++
          (JsonValue.renderFields rest ++ point '\x7d' :: tail)))
    rw [form] at fields whole
    rw [whole, readValue, if_neg (by decide), if_pos rfl, if_neg open_,
      skipSpace_cons quoted (by decide)]
    show (if point '"' = point '\x7d' then _ else _) = _
    rw [if_neg (by decide), fields]
    rfl
termination_by value => sizeOf value

theorem readItems_render : (item : JsonValue) → (rest : List JsonValue) →
    item.WellRead → JsonValue.WellReadItems rest →
    {depth budget fuel : Nat} → item.nests budget →
    JsonValue.nestsItems budget rest → depth + budget ≤ jsonReadingLimit →
    2 * (item.render.length + (JsonValue.renderItems rest).length) + 1 ≤ fuel →
    (tail : Text) →
    readItems depth fuel
        (item.render ++ JsonValue.renderItems rest ++ point ']' :: tail) =
      .ok (item :: rest, tail)
  | item, rest, read, readRest, depth, budget, fuel, nests, nestsRest, room,
      enough, tail => by
    obtain ⟨fuel, rfl⟩ : ∃ less, fuel = less + 1 := ⟨fuel - 1, by omega⟩
    have first := readValue_render item read nests room
      (by omega : _ ≤ fuel) (stops_items rest tail)
    rw [List.append_assoc, readItems, first, ok_bind]
    dsimp only
    cases rest with
    | nil =>
        rw [show skipSpace (JsonValue.renderItems [] ++ point ']' :: tail) =
          point ']' :: tail from skipSpace_cons tail (by decide)]
        rfl
    | cons next others =>
        simp only [JsonValue.nestsItems, Bool.and_eq_true] at nestsRest
        simp only [JsonValue.WellReadItems] at readRest
        simp only [JsonValue.renderItems, List.length_cons,
          List.length_append] at enough
        have later := readItems_render next others readRest.1 readRest.2
          nestsRest.1 nestsRest.2 room (by omega : _ ≤ fuel) tail
        obtain ⟨c, after, form, skips, _, _⟩ := next.render_visible
          (JsonValue.renderItems others ++ point ']' :: tail)
        rw [List.append_assoc] at later
        have whole : JsonValue.renderItems (next :: others) ++
            point ']' :: tail = point ',' :: (next.render ++
              (JsonValue.renderItems others ++ point ']' :: tail)) := by
          simp [JsonValue.renderItems]
        rw [whole, skipSpace_cons _ (by decide)]
        show (if point ',' = point ']' then _ else if point ',' = point ','
          then _ else _) = _
        rw [if_neg (by decide), if_pos rfl, skips.trans form.symm, later]
        rfl
termination_by item rest => sizeOf item + sizeOf rest + 1

theorem readFields_render : (fields : List (Text × JsonValue)) →
    (key : Text) → (value : JsonValue) → (rest : List (Text × JsonValue)) →
    paired key → value.WellRead → JsonValue.WellReadFields rest →
    ((fields ++ (key, value) :: rest).map Prod.fst).Nodup →
    {depth budget fuel : Nat} → value.nests budget →
    JsonValue.nestsFields budget rest → depth + budget ≤ jsonReadingLimit →
    2 * ((renderString key).length + 1 + value.render.length +
      (JsonValue.renderFields rest).length) + 1 ≤ fuel →
    (tail : Text) →
    readFields depth fuel fields
        (renderString key ++ (point ':' :: (value.render ++
          (JsonValue.renderFields rest ++ point '\x7d' :: tail)))) =
      .ok (fields ++ (key, value) :: rest, tail)
  | fields, key, value, rest, pairs, read, readRest, distinct, depth, budget,
      fuel, nests, nestsRest, room, enough, tail => by
    obtain ⟨fuel, rfl⟩ : ∃ less, fuel = less + 1 := ⟨fuel - 1, by omega⟩
    have first := readValue_render value read nests room
      (by omega : _ ≤ fuel) (stops_fields rest tail)
    obtain ⟨quoted, form, reads⟩ := readString_render pairs
      (point ':' :: (value.render ++
          (JsonValue.renderFields rest ++ point '\x7d' :: tail)))
    obtain ⟨c, after, valueForm, skips, _, _⟩ := value.render_visible
      (JsonValue.renderFields rest ++ point '\x7d' :: tail)
    have fresh : key ∉ fields.map Prod.fst := by
      rw [List.map_append, List.map_cons, List.nodup_append] at distinct
      intro inside
      exact distinct.2.2 key inside key List.mem_cons_self rfl
    rw [form, readFields, if_pos rfl, reads, ok_bind]
    dsimp only
    rw [skipSpace_cons _ (by decide)]
    show (if point ':' = point ':' then _ else _) = _
    rw [if_pos rfl, skips.trans valueForm.symm, first, ok_bind]
    dsimp only
    rw [alter_of_notMem fresh]
    cases shape : rest with
    | nil =>
        rw [show skipSpace (JsonValue.renderFields [] ++ point '\x7d' :: tail) =
          point '\x7d' :: tail from skipSpace_cons tail (by decide)]
        rfl
    | cons next others =>
        obtain ⟨nextKey, nextValue⟩ := next
        have smaller : sizeOf nextValue + sizeOf others < sizeOf rest := by
          rw [shape]
          simp only [List.cons.sizeOf_spec, Prod.mk.sizeOf_spec]
          omega
        rw [shape] at nestsRest readRest distinct enough
        simp only [JsonValue.nestsFields, Bool.and_eq_true] at nestsRest
        simp only [JsonValue.WellReadFields] at readRest
        simp only [JsonValue.renderFields, List.length_cons,
          List.length_append] at enough
        have later := readFields_render (fields ++ [(key, value)]) nextKey
          nextValue others readRest.1 readRest.2.1 readRest.2.2
          (by simpa using distinct) nestsRest.1 nestsRest.2 room
          (by omega : _ ≤ fuel) tail
        have whole : JsonValue.renderFields ((nextKey, nextValue) :: others) ++
            point '\x7d' :: tail = point ',' :: (renderString nextKey ++
              (point ':' :: (nextValue.render ++
                (JsonValue.renderFields others ++
                  point '\x7d' :: tail)))) := by
          simp [JsonValue.renderFields]
        obtain ⟨nextQuoted, nextForm, _⟩ := readString_render readRest.1
          (point ':' :: (nextValue.render ++
              (JsonValue.renderFields others ++ point '\x7d' :: tail)))
        rw [whole, skipSpace_cons _ (by decide)]
        show (if point ',' = point '\x7d' then _ else if point ',' = point ','
          then _ else _) = _
        rw [nextForm] at later ⊢
        rw [if_neg (by decide), if_pos rfl, skipSpace_cons _ (by decide),
          later, List.append_assoc]
        rfl
termination_by _ _ value rest => sizeOf value + sizeOf rest + 1

end

/-- A rendered document is read back. -/
theorem jsonLoads_render {value : JsonValue} (read : value.WellRead)
    {budget : Nat} (nests : value.nests budget)
    (room : budget ≤ jsonReadingLimit) :
    jsonLoads value.render = .ok value := by
  obtain ⟨c, rest, form, skips, _, shape⟩ := value.render_visible []
  have reads := readValue_render value read nests
    (by omega : 0 + budget ≤ jsonReadingLimit)
    (by omega : _ ≤ 2 * value.render.length + 2) (endsAt_nil isDelimiter)
  rw [List.append_nil] at form skips reads
  have noMark : value.render.head? ≠ some 0xFEFF := by
    rw [form, List.head?_cons]
    rintro same
    cases same
    exact absurd shape (by cases value.shape <;> decide)
  rw [jsonLoads, if_neg noMark, skips.trans form.symm, reads, ok_bind]
  rfl

/-! ## Key order -/

omit [JsonRuntime] in
theorem JsonValue.sortFields_keys (fields : List (Text × JsonValue)) :
    (sortFields fields).map Prod.fst = fields.map Prod.fst := by
  induction fields with
  | nil => rfl
  | cons entry rest ih => simp [sortFields, ih]

theorem JsonValue.wellReadFields_iff {fields : List (Text × JsonValue)} :
    WellReadFields fields ↔
      ∀ entry ∈ fields, paired entry.1 ∧ entry.2.WellRead := by
  induction fields with
  | nil => simp [WellReadFields]
  | cons entry rest ih =>
      rw [List.forall_mem_cons, ← ih, and_assoc]
      rfl

theorem JsonValue.wellReadItems_iff {items : List JsonValue} :
    WellReadItems items ↔ ∀ item ∈ items, item.WellRead := by
  induction items with
  | nil => simp [WellReadItems]
  | cons item rest ih =>
      rw [List.forall_mem_cons, ← ih]
      rfl

omit [JsonRuntime] in
theorem JsonValue.nestsFields_iff {budget : Nat}
    {fields : List (Text × JsonValue)} :
    nestsFields budget fields ↔
      ∀ entry ∈ fields, entry.2.nests budget := by
  induction fields with
  | nil => simp [nestsFields]
  | cons entry rest ih => simp [nestsFields, ih]

omit [JsonRuntime] in
theorem JsonValue.nestsItems_iff {budget : Nat} {items : List JsonValue} :
    nestsItems budget items ↔ ∀ item ∈ items, item.nests budget := by
  induction items with
  | nil => simp [nestsItems]
  | cons item rest ih => simp [nestsItems, ih]

mutual

theorem JsonValue.wellRead_sortKeys : (value : JsonValue) →
    value.WellRead → value.sortKeys.WellRead
  | .scalar _, read => read
  | .string _, read => read
  | .array items, read => wellRead_sortItems items read
  | .object fields, read => by
      have perm := List.perm_insertionSort fieldLe (sortFields fields)
      refine ⟨?_, wellReadFields_iff.mpr fun entry member =>
        wellReadFields_iff.mp (wellRead_sortFields fields read.2) entry
          (perm.mem_iff.mp member)⟩
      rw [(perm.map Prod.fst).nodup_iff, sortFields_keys]
      exact read.1

theorem JsonValue.wellRead_sortItems : (items : List JsonValue) →
    WellReadItems items → WellReadItems (sortItems items)
  | [], _ => trivial
  | item :: rest, read =>
      ⟨item.wellRead_sortKeys read.1, wellRead_sortItems rest read.2⟩

theorem JsonValue.wellRead_sortFields :
    (fields : List (Text × JsonValue)) →
    WellReadFields fields → WellReadFields (sortFields fields)
  | [], _ => trivial
  | (_, value) :: rest, read =>
      ⟨read.1, value.wellRead_sortKeys read.2.1,
        wellRead_sortFields rest read.2.2⟩

end

end Values

mutual

theorem JsonValue.nests_sortKeys : (value : JsonValue) → (budget : Nat) →
    value.sortKeys.nests budget = value.nests budget
  | .scalar _, _ => rfl
  | .string _, _ => rfl
  | .array _, 0 => rfl
  | .array items, budget + 1 => nests_sortItems items budget
  | .object _, 0 => rfl
  | .object fields, budget + 1 => by
      have perm := List.perm_insertionSort fieldLe (sortFields fields)
      show nestsFields budget _ = nestsFields budget fields
      rw [← nests_sortFields fields budget, Bool.eq_iff_iff, nestsFields_iff,
        nestsFields_iff]
      exact forall_congr' fun entry => imp_congr_left perm.mem_iff

theorem JsonValue.nests_sortItems : (items : List JsonValue) →
    (budget : Nat) →
    nestsItems budget (sortItems items) = nestsItems budget items
  | [], _ => rfl
  | item :: rest, budget => by
      simp only [sortItems, nestsItems, item.nests_sortKeys budget,
        nests_sortItems rest budget]

theorem JsonValue.nests_sortFields : (fields : List (Text × JsonValue)) →
    (budget : Nat) →
    nestsFields budget (sortFields fields) = nestsFields budget fields
  | [], _ => rfl
  | (_, value) :: rest, budget => by
      simp only [sortFields, nestsFields, value.nests_sortKeys budget,
        nests_sortFields rest budget]

end

/-- What `json.dumps` wrote is read back as the document in key order. -/
theorem jsonLoads_jsonDumps [JsonRuntime] {value : JsonValue} {t : Text}
    (read : value.WellRead) {budget : Nat} (nests : value.nests budget)
    (room : budget ≤ jsonReadingLimit) (dumped : jsonDumps value = .ok t) :
    jsonLoads t = .ok value.sortKeys := by
  simp only [jsonDumps] at dumped
  split at dumped
  · cases dumped
  · cases dumped
    exact jsonLoads_render (value.wellRead_sortKeys read)
      ((value.nests_sortKeys budget).trans nests) room

/-! ## What can be read -/

theorem isUnicode_suffix {after t : Text} (unicode : isUnicode t)
    (suffix : after.IsSuffix t) : isUnicode after := by
  simp only [isUnicode, List.all_eq_true] at unicode ⊢
  exact fun c member => unicode c (suffix.mem member)

theorem skipSpace_suffix (t : Text) : (skipSpace t).IsSuffix t :=
  List.dropWhile_suffix _

/-- No piece is an unescaped surrogate. -/
def PlainPieces (pieces : List StringPiece) : Prop :=
  ∀ c, .raw c ∈ pieces → isSurrogate c = false

theorem PlainPieces.escape {u : CodeUnit} {pieces : List StringPiece}
    (plain : PlainPieces pieces) : PlainPieces (.escape u :: pieces) := by
  intro c member
  rcases List.mem_cons.mp member with same | inside
  · cases same
  · exact plain c inside

theorem PlainPieces.raw {c : CodePoint} {pieces : List StringPiece}
    (plain : PlainPieces pieces) (notSurrogate : isSurrogate c = false) :
    PlainPieces (.raw c :: pieces) := by
  intro d member
  rcases List.mem_cons.mp member with same | inside
  · cases same
    exact notSurrogate
  · exact plain d inside

theorem unescape_plain {letter c : CodePoint}
    (found : unescape letter = some c) : isSurrogate c = false := by
  simp only [unescape, Bool.or_eq_true, decide_eq_true_eq] at found
  repeat' split at found
  all_goals cases found
  · rename_i quoted
    rcases quoted with (rfl | rfl) | rfl <;> decide
  all_goals decide

theorem readPieces_sound {t after : Text} {pieces : List StringPiece}
    (unicode : isUnicode t) (found : readPieces t = .ok (pieces, after)) :
    PlainPieces pieces ∧ after.IsSuffix t := by
  have within (skipped : Text) {rest : Text}
      (unicode : isUnicode (skipped ++ rest)) : isUnicode rest :=
    isUnicode_suffix unicode (List.suffix_append _ _)
  have further (skipped : Text) {rest : Text} (suffix : after.IsSuffix rest) :
      after.IsSuffix (skipped ++ rest) :=
    suffix.trans (List.suffix_append _ _)
  induction t using readPieces.induct generalizing pieces with
  | case1 =>
      rw [readPieces.eq_def] at found
      cases found
  | case2 rest =>
      rw [readPieces.eq_def] at found
      simp only [if_true, Except.ok.injEq, Prod.mk.injEq] at found
      obtain ⟨rfl, rfl⟩ := found
      exact ⟨fun c member => absurd member List.not_mem_nil,
        List.suffix_cons _ _⟩
  | case3 apart =>
      rw [readPieces.eq_def] at found
      simp [apart] at found
  | case4 third second first zeroth rest bad apart =>
      rw [readPieces.eq_def] at found
      simp [apart, bad] at found
  | case5 third second first zeroth rest u good apart ih =>
      rw [readPieces.eq_def] at found
      simp only [apart, if_false, if_true, good, map_eq_ok] at found
      obtain ⟨⟨others, tail⟩, reads, same⟩ := found
      cases same
      obtain ⟨plain, suffix⟩ := ih (within [_, _, _, _, _, _] unicode) reads
      exact ⟨plain.escape, further [_, _, _, _, _, _] suffix⟩
  | case6 rest short apart =>
      rw [readPieces.eq_def] at found
      simp [apart] at found
  | case7 letter rest notU bad apart =>
      rw [readPieces.eq_def] at found
      simp [apart, notU, bad] at found
  | case8 letter rest notU c good apart ih =>
      rw [readPieces.eq_def] at found
      simp only [apart, if_false, if_true, notU, good, map_eq_ok] at found
      obtain ⟨⟨others, tail⟩, reads, same⟩ := found
      cases same
      obtain ⟨plain, suffix⟩ := ih (within [_, _] unicode) reads
      exact ⟨plain.raw (unescape_plain good), further [_, _] suffix⟩
  | case9 c rest notQuote notEscape control =>
      rw [readPieces.eq_def] at found
      simp [notQuote, notEscape, control] at found
  | case10 c rest notQuote notEscape printable ih =>
      rw [readPieces.eq_def] at found
      simp only [notQuote, notEscape, printable, if_false, map_eq_ok] at found
      obtain ⟨⟨others, tail⟩, reads, same⟩ := found
      cases same
      obtain ⟨plain, suffix⟩ := ih (within [_] unicode) reads
      simp only [isUnicode, List.all_cons, Bool.and_eq_true, Bool.not_eq_true']
        at unicode
      exact ⟨plain.raw unicode.1, further [_] suffix⟩

/-- A pair is no surrogate. -/
theorem pairPoint_large {high low : CodeUnit} (isHigh : isHighUnit high)
    (isLow : isLowUnit low) : 0x10000 ≤ (pairPoint high low).val := by
  simp only [isHighUnit, isLowUnit, Bool.and_eq_true, decide_eq_true_eq]
    at isHigh isLow
  simp only [pairPoint, Fin.val_ofNat]
  omega

/-- The text that follows a pending high surrogate does not complete it. -/
theorem joinPieces_pending (high : CodeUnit) (pieces : List StringPiece)
    (isHigh : isHighUnit high) :
    ∀ c ∈ (joinPieces (some high) pieces).head?, isLowPoint c = false := by
  have notLow : isLowPoint (unitPoint high) = false := by
    simp only [isHighUnit, Bool.and_eq_true, decide_eq_true_eq] at isHigh
    simp only [isLowPoint, unitPoint_val, Bool.and_eq_false_iff,
      decide_eq_false_iff_not]
    omega
  have pair {low : CodeUnit} (isLow : isLowUnit low) :
      isLowPoint (pairPoint high low) = false := by
    have large := pairPoint_large isHigh isLow
    simp only [isLowPoint, Bool.and_eq_false_iff, decide_eq_false_iff_not]
    omega
  intro c member
  cases pieces with
  | nil =>
      cases member
      exact notLow
  | cons piece rest =>
      cases piece with
      | raw d =>
          cases member
          exact notLow
      | escape u =>
          simp only [joinPieces] at member
          split at member
          next isLow =>
            cases Option.some.inj member
            exact pair isLow
          · split at member <;>
              · cases member
                exact notLow

/-- Strings that are read have their surrogates paired. -/
theorem joinPieces_paired {pieces : List StringPiece}
    (plain : PlainPieces pieces) :
    paired (joinPieces none pieces) ∧
      ∀ high, isHighUnit high → paired (joinPieces (some high) pieces) := by
  induction pieces with
  | nil => exact ⟨rfl, fun _ _ => rfl⟩
  | cons piece rest ih =>
      have plainRest : PlainPieces rest := fun c member =>
        plain c (List.mem_cons_of_mem _ member)
      obtain ⟨pairs, pending⟩ := ih plainRest
      cases piece with
      | raw c =>
          have whole := plain c List.mem_cons_self
          simp only [isSurrogate, Bool.and_eq_false_iff,
            decide_eq_false_iff_not] at whole
          have notHigh : isHighPoint c = false := by
            simp only [isHighPoint, Bool.and_eq_false_iff,
              decide_eq_false_iff_not]
            omega
          have notLow : isLowPoint c = false := by
            simp only [isLowPoint, Bool.and_eq_false_iff,
              decide_eq_false_iff_not]
            omega
          have behind := paired_cons pairs (.inl notHigh)
          exact ⟨behind, fun high _ => paired_cons behind
            (.inr fun d member => by cases member; exact notLow)⟩
      | escape u =>
          have apart (notHigh : ¬ isHighUnit u = true) :
              isHighPoint (unitPoint u) = false := by
            simpa only [isHighPoint, isHighUnit, unitPoint_val,
              Bool.not_eq_true] using notHigh
          constructor
          · simp only [joinPieces]
            split
            next isHigh => exact pending u isHigh
            next notHigh => exact paired_cons pairs (.inl (apart notHigh))
          · intro high isHigh
            simp only [joinPieces]
            split
            next isLow =>
              refine paired_cons pairs (.inl ?_)
              have large := pairPoint_large isHigh isLow
              simp only [isHighPoint, Bool.and_eq_false_iff,
                decide_eq_false_iff_not]
              omega
            next notLow =>
              split
              next next =>
                exact paired_cons (pending u next)
                  (.inr (joinPieces_pending u rest next))
              next notHigh =>
                refine paired_cons (paired_cons pairs (.inl (apart notHigh)))
                  (.inr fun d member => ?_)
                cases member
                simpa only [isLowPoint, isLowUnit, unitPoint_val,
                  Bool.not_eq_true] using notLow

theorem readString_sound {t value after : Text} (unicode : isUnicode t)
    (found : readString t = .ok (value, after)) :
    paired value ∧ after.IsSuffix t := by
  obtain ⟨⟨pieces, rest⟩, reads, same⟩ := map_eq_ok.mp found
  cases same
  obtain ⟨plain, suffix⟩ := readPieces_sound unicode reads
  exact ⟨(joinPieces_paired plain).1, suffix⟩

theorem decimal_length_of_numeral {digits : Text} (all : digits.all isDigit)
    (some_ : digits ≠ []) (short : digits.length ≤ 4300) :
    (decimal (numeral digits)).length ≤ 4300 := by
  have positive := List.length_pos_iff.mpr some_
  have bound := (decimal_length_le positive).mpr (numeral_lt all)
  omega

theorem constants_sound [JsonRuntime] {entry : Text × JsonScalar}
    (member : entry ∈ jsonConstants) : entry.2.WellRead := by
  simp only [jsonConstants, List.mem_cons, List.not_mem_nil, or_false]
    at member
  rcases member with rfl | rfl | rfl | rfl | rfl | rfl
  · trivial
  · trivial
  · trivial
  · exact .inl rfl
  · exact .inr (.inl rfl)
  · exact .inr (.inr (.inl rfl))

section Values

variable [JsonRuntime]

theorem floatRepr_wellRead (literal : Text) :
    (JsonScalar.float (floatRepr literal)).WellRead := by
  rcases JsonRuntime.floatRepr_repr literal with infinite | infinite | finite
  · exact .inr (.inl (FloatText.ext infinite))
  · exact .inr (.inr (.inl (FloatText.ext infinite)))
  · exact .inr (.inr (.inr finite))

theorem readScalar_sound {t after : Text} {value : JsonScalar}
    (found : readScalar t = .ok (value, after)) :
    value.WellRead ∧ after.IsSuffix t := by
  simp only [readScalar] at found
  split at found
  next known =>
    cases found
    obtain ⟨⟨name, scalar⟩, member, known⟩ :=
      List.exists_of_findSome?_eq_some known
    simp only [Option.ite_none_right_eq_some, Option.some.injEq,
      Prod.mk.injEq] at known
    obtain ⟨_, rfl, rfl⟩ := known
    exact ⟨constants_sound member, List.drop_suffix _ _⟩
  next =>
    simp only [readNumber] at found
    split at found
    · cases found
    next number matched =>
      obtain ⟨form, digits, some_⟩ := matchNumber_sound matched
      have suffix : number.rest.IsSuffix t :=
        form ▸ List.suffix_append number.literal number.rest
      split at found
      · cases found
        exact ⟨floatRepr_wellRead number.literal, suffix⟩
      · split at found
        · cases found
        next short =>
          have bound := decimal_length_of_numeral digits some_ (by omega)
          split at found <;>
            · cases found
              refine ⟨?_, suffix⟩
              simpa only [JsonScalar.WellRead, Int.natAbs_neg,
                Int.natAbs_natCast] using bound

/-- With this fuel, the values read of valid texts can be written and read
again. -/
def ReadsValues (fuel : Nat) : Prop :=
  ∀ (depth : Nat) (t after : Text) (value : JsonValue), isUnicode t →
    readValue depth fuel t = .ok (value, after) →
      value.WellRead ∧ after.IsSuffix t

def ReadsItems (fuel : Nat) : Prop :=
  ∀ (depth : Nat) (t after : Text) (items : List JsonValue), isUnicode t →
    readItems depth fuel t = .ok (items, after) →
      JsonValue.WellReadItems items ∧ after.IsSuffix t

def ReadsFields (fuel : Nat) : Prop :=
  ∀ (depth : Nat) (t after : Text) (before fields : List (Text × JsonValue)),
    isUnicode t → (JsonValue.object before).WellRead →
    readFields depth fuel before t = .ok (fields, after) →
      (JsonValue.object fields).WellRead ∧ after.IsSuffix t

theorem wellRead_alter {key : Text} {value : JsonValue}
    {fields : List (Text × JsonValue)} (pairs : paired key)
    (read : value.WellRead) (before : (JsonValue.object fields).WellRead) :
    (JsonValue.object (alter key (fun _ => value) fields)).WellRead := by
  refine ⟨nodup_alter before.1, JsonValue.wellReadFields_iff.mpr ?_⟩
  intro entry member
  rcases of_mem_alter member with old | ⟨_, rfl⟩
  · exact JsonValue.wellReadFields_iff.mp before.2 entry old
  · exact ⟨pairs, read⟩

theorem ReadsValues.succ {fuel : Nat} (items : ReadsItems fuel)
    (fields : ReadsFields fuel) : ReadsValues (fuel + 1) := by
  intro depth t after value unicode found
  cases t with
  | nil => cases found
  | cons c rest =>
      have unicodeRest := isUnicode_suffix unicode (List.suffix_cons c rest)
      have skips := skipSpace_suffix rest
      have within {suffix : Text} (inside : suffix.IsSuffix (skipSpace rest)) :
          suffix.IsSuffix (c :: rest) :=
        (inside.trans skips).trans (List.suffix_cons c rest)
      have unicodeSkip := isUnicode_suffix unicodeRest skips
      simp only [readValue] at found
      split at found
      · obtain ⟨⟨string, tail⟩, reads, same⟩ := map_eq_ok.mp found
        cases same
        obtain ⟨pairs, suffix⟩ := readString_sound unicodeRest reads
        exact ⟨pairs, suffix.trans (List.suffix_cons c rest)⟩
      split at found
      · split at found
        · cases found
        split at found
        · cases found
        next d tail skipped =>
          rw [skipped] at within unicodeSkip
          split at found
          · cases found
            exact ⟨⟨List.nodup_nil, trivial⟩, within (List.suffix_cons d _)⟩
          · obtain ⟨⟨entries, ending⟩, reads, same⟩ := map_eq_ok.mp found
            cases same
            obtain ⟨read, suffix⟩ := fields _ _ _ [] _ unicodeSkip
              ⟨List.nodup_nil, trivial⟩ reads
            exact ⟨read, within suffix⟩
      split at found
      · split at found
        · cases found
        split at found
        · cases found
        next d tail skipped =>
          rw [skipped] at within unicodeSkip
          split at found
          · cases found
            exact ⟨trivial, within (List.suffix_cons d _)⟩
          · obtain ⟨⟨entries, ending⟩, reads, same⟩ := map_eq_ok.mp found
            cases same
            obtain ⟨read, suffix⟩ := items _ _ _ _ unicodeSkip reads
            exact ⟨read, within suffix⟩
      · obtain ⟨⟨scalar, tail⟩, reads, same⟩ := map_eq_ok.mp found
        cases same
        exact readScalar_sound reads

theorem ReadsItems.succ {fuel : Nat} (values : ReadsValues fuel)
    (items : ReadsItems fuel) : ReadsItems (fuel + 1) := by
  intro depth t after found unicode reads
  rw [readItems] at reads
  obtain ⟨⟨item, tail⟩, first, reads⟩ := bind_eq_ok.mp reads
  obtain ⟨read, suffix⟩ := values _ _ _ _ unicode first
  have skips := (skipSpace_suffix tail).trans suffix
  dsimp only at reads
  split at reads
  · cases reads
  next d ending skipped =>
    rw [skipped] at skips
    have inside := (List.suffix_cons d ending).trans skips
    split at reads
    · cases reads
      exact ⟨⟨read, trivial⟩, inside⟩
    split at reads
    · obtain ⟨⟨others, last⟩, later, same⟩ := map_eq_ok.mp reads
      cases same
      have next := (skipSpace_suffix ending).trans inside
      obtain ⟨readRest, suffix⟩ := items _ _ _ _
        (isUnicode_suffix unicode next) later
      exact ⟨⟨read, readRest⟩, suffix.trans next⟩
    · cases reads

theorem ReadsFields.succ {fuel : Nat} (values : ReadsValues fuel)
    (fields : ReadsFields fuel) : ReadsFields (fuel + 1) := by
  intro depth t after before found unicode old reads
  cases t with
  | nil => cases reads
  | cons c rest =>
      have unicodeRest := isUnicode_suffix unicode (List.suffix_cons c rest)
      rw [readFields] at reads
      split at reads
      · obtain ⟨⟨key, tail⟩, quoted, reads⟩ := bind_eq_ok.mp reads
        obtain ⟨pairs, suffix⟩ := readString_sound unicodeRest quoted
        have skips := ((skipSpace_suffix tail).trans suffix).trans
          (List.suffix_cons c rest)
        dsimp only at reads
        split at reads
        · cases reads
        next d ending skipped =>
          rw [skipped] at skips
          have inside := (List.suffix_cons d ending).trans skips
          split at reads
          · have atValue := (skipSpace_suffix ending).trans inside
            obtain ⟨⟨value, tail⟩, first, reads⟩ := bind_eq_ok.mp reads
            obtain ⟨read, suffix⟩ := values _ _ _ _
              (isUnicode_suffix unicode atValue) first
            have stored := wellRead_alter pairs read old
            have skips := (skipSpace_suffix tail).trans (suffix.trans atValue)
            dsimp only at reads
            split at reads
            · cases reads
            next d ending skipped =>
              rw [skipped] at skips
              have inside := (List.suffix_cons d ending).trans skips
              split at reads
              · cases reads
                exact ⟨stored, inside⟩
              split at reads
              · have next := (skipSpace_suffix ending).trans inside
                obtain ⟨read, suffix⟩ := fields _ _ _ _ _
                  (isUnicode_suffix unicode next) stored reads
                exact ⟨read, suffix.trans next⟩
              · cases reads
          · cases reads
      · cases reads

theorem reads_all (fuel : Nat) :
    ReadsValues fuel ∧ ReadsItems fuel ∧ ReadsFields fuel := by
  induction fuel with
  | zero =>
      refine ⟨?_, ?_, ?_⟩
      · intro depth t after value _ found
        cases found
      · intro depth t after items _ found
        cases found
      · intro depth t after before fields _ _ found
        cases found
  | succ fuel ih =>
      obtain ⟨values, items, fields⟩ := ih
      exact ⟨.succ items fields, .succ values items, .succ values fields⟩

/-- What `json.loads` gives for a valid text can be written and read again. -/
theorem jsonLoads_wellRead {t : Text} {value : JsonValue}
    (unicode : isUnicode t) (loaded : jsonLoads t = .ok value) :
    value.WellRead := by
  simp only [jsonLoads] at loaded
  split at loaded
  · cases loaded
  · obtain ⟨⟨found, after⟩, reads, loaded⟩ := bind_eq_ok.mp loaded
    have sound := (reads_all _).1 _ _ _ _
      (isUnicode_suffix unicode (skipSpace_suffix t)) reads
    dsimp only at loaded
    split at loaded
    · cases loaded
      exact sound.1
    · cases loaded

end Values

/-! ## Sizes of what is read -/

theorem decodeFrom_length {point : Option PartialPoint} {raw : Bytes}
    {t : Text} (decoded : decodeFrom point raw = some t) :
    t.length ≤ raw.length := by
  induction raw generalizing point t with
  | nil =>
      cases point with
      | none =>
          cases decoded
          exact Nat.le_refl 0
      | some point => cases decoded
  | cons b rest ih =>
      have later : ∀ {point : Option PartialPoint} {t : Text},
          decodeFrom point rest = some t → t.length ≤ rest.length + 1 :=
        fun decoded => Nat.le_succ_of_le (ih decoded)
      rw [List.length_cons]
      cases point with
      | none =>
          simp only [decodeFrom] at decoded
          split at decoded
          · obtain ⟨others, tail, rfl⟩ := Option.map_eq_some_iff.mp decoded
            exact Nat.succ_le_succ (ih tail)
          repeat' split at decoded
          all_goals first
            | exact later decoded
            | cases decoded
      | some point =>
          simp only [decodeFrom] at decoded
          split at decoded
          · cases decoded
          split at decoded
          · exact later decoded
          split at decoded
          · cases decoded
          · obtain ⟨others, tail, rfl⟩ := Option.map_eq_some_iff.mp decoded
            exact Nat.succ_le_succ (ih tail)

/-- A decoded text has at most one character a byte. -/
theorem decodeUtf8_length {raw : Bytes} {t : Text}
    (decoded : decodeUtf8 raw = some t) : t.length ≤ raw.length :=
  decodeFrom_length decoded

section Lengths

variable [JsonRuntime]

theorem readItems_length {depth fuel : Nat} {t after : Text}
    {items : List JsonValue}
    (reads : readItems depth fuel t = .ok (items, after)) :
    items.length ≤ fuel := by
  induction fuel generalizing t after items with
  | zero => cases reads
  | succ fuel ih =>
      rw [readItems] at reads
      obtain ⟨⟨item, tail⟩, _, reads⟩ := bind_eq_ok.mp reads
      dsimp only at reads
      split at reads
      · cases reads
      split at reads
      · cases reads
        exact Nat.succ_le_succ (Nat.zero_le fuel)
      split at reads
      · obtain ⟨⟨others, last⟩, later, same⟩ := map_eq_ok.mp reads
        cases same
        exact Nat.succ_le_succ (ih later)
      · cases reads

/-- An array has at most as many items as there is fuel. -/
def FewItems (bound : Nat) (value : JsonValue) : Prop :=
  ∀ items, value = .array items → items.length ≤ bound

theorem readValue_items {depth fuel : Nat} {t after : Text}
    {value : JsonValue} (reads : readValue depth fuel t = .ok (value, after)) :
    FewItems fuel value := by
  rintro items rfl
  cases fuel with
  | zero => cases reads
  | succ fuel =>
      cases t with
      | nil => cases reads
      | cons c rest =>
          simp only [readValue] at reads
          split at reads
          · obtain ⟨_, _, same⟩ := map_eq_ok.mp reads
            cases same
          split at reads
          · repeat' split at reads
            all_goals first
              | cases reads
              | (obtain ⟨_, _, same⟩ := map_eq_ok.mp reads
                 cases same)
          split at reads
          · split at reads
            · cases reads
            split at reads
            · cases reads
            split at reads
            · cases reads
              exact Nat.zero_le _
            · obtain ⟨⟨others, last⟩, found, same⟩ := map_eq_ok.mp reads
              cases same
              exact Nat.le_succ_of_le (readItems_length found)
          · obtain ⟨_, _, same⟩ := map_eq_ok.mp reads
            cases same

theorem readFields_items {depth fuel bound : Nat} (enough : fuel ≤ bound)
    {t after : Text} {before fields : List (Text × JsonValue)}
    (few : ∀ entry ∈ before, FewItems bound entry.2)
    (reads : readFields depth fuel before t = .ok (fields, after)) :
    ∀ entry ∈ fields, FewItems bound entry.2 := by
  induction fuel generalizing t before with
  | zero => cases reads
  | succ fuel ih =>
      cases t with
      | nil => cases reads
      | cons c rest =>
          rw [readFields] at reads
          split at reads
          · obtain ⟨⟨key, tail⟩, _, reads⟩ := bind_eq_ok.mp reads
            dsimp only at reads
            split at reads
            · cases reads
            split at reads
            · obtain ⟨⟨value, tail⟩, first, reads⟩ := bind_eq_ok.mp reads
              have stored : ∀ entry ∈ alter key (fun _ => value) before,
                  FewItems bound entry.2 := by
                intro entry member
                rcases of_mem_alter member with old | ⟨_, rfl⟩
                · exact few entry old
                · exact fun items same => Nat.le_trans
                    (readValue_items first items same) (by omega)
              dsimp only at reads
              split at reads
              · cases reads
              split at reads
              · cases reads
                exact stored
              split at reads
              · exact ih (by omega) stored reads
              · cases reads
            · cases reads
          · cases reads

/-- An array under a key of a document is not longer than its text. -/
theorem jsonLoads_items {t : Text} {fields : List (Text × JsonValue)}
    (loaded : jsonLoads t = .ok (.object fields)) :
    ∀ entry ∈ fields, FewItems (2 * t.length + 2) entry.2 := by
  simp only [jsonLoads] at loaded
  split at loaded
  · cases loaded
  · obtain ⟨⟨found, after⟩, reads, loaded⟩ := bind_eq_ok.mp loaded
    dsimp only at loaded
    split at loaded
    · cases loaded
      cases tail : skipSpace t with
      | nil =>
          rw [tail] at reads
          cases reads
      | cons c rest =>
          rw [tail] at reads
          simp only [readValue] at reads
          split at reads
          · obtain ⟨_, _, same⟩ := map_eq_ok.mp reads
            cases same
          split at reads
          · split at reads
            · cases reads
            split at reads
            · cases reads
            split at reads
            · cases reads
              exact fun entry member => absurd member List.not_mem_nil
            · obtain ⟨⟨entries, last⟩, found, same⟩ := map_eq_ok.mp reads
              cases same
              exact readFields_items (Nat.le_succ _)
                (fun entry member => absurd member List.not_mem_nil) found
          split at reads
          · repeat' split at reads
            all_goals first
              | cases reads
              | (obtain ⟨_, _, same⟩ := map_eq_ok.mp reads
                 cases same)
          · obtain ⟨_, _, same⟩ := map_eq_ok.mp reads
            cases same
    · cases loaded

end Lengths

end ParityGrid.Foundation
