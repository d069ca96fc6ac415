import ParityGrid.Foundation.Framing
import ParityGrid.Foundation.Validation

/-!
# Exact monetary values

A `Money` carries its currency, its minor-unit exponent and the exact number
of minor units; the decimal amount of the program is that number scaled by the
exponent.  The canonical text determines all three.
-/

namespace ParityGrid.Domain

open Foundation

/-- `_validate_currency`: three uppercase ASCII letters. -/
def validateCurrency (value : Text) : Except PythonError Unit :=
  require (value.length == 3 && value.all isUpper)
    (.valueError (text
      "currency code must contain exactly three uppercase ASCII letters"))

structure CurrencyCode where
  value : Text
  valid : validateCurrency value = .ok ()
deriving DecidableEq

theorem CurrencyCode.ext {left right : CurrencyCode}
    (equal : left.value = right.value) :
    left = right := by
  cases left
  cases right
  cases equal
  rfl

theorem CurrencyCode.shape (currency : CurrencyCode) :
    currency.value.length = 3 ∧ currency.value.all isUpper := by
  have valid := currency.valid
  simpa [validateCurrency, require_eq_ok, -List.all_eq_true] using valid

theorem CurrencyCode.value_ascii (currency : CurrencyCode) :
    currency.value.all isAscii := by
  have upper := currency.shape.2
  simp only [List.all_eq_true] at upper ⊢
  intro c member
  exact isAscii_of_isUpper (upper c member)

/-- `Money.MAX_MINOR_UNIT_EXPONENT`. -/
def maxMinorUnitExponent : Nat := 6

/-- `Money.MAX_ABSOLUTE_MINOR_UNITS`. -/
def maxAbsoluteMinorUnits : Nat := 999999999999999

structure Money where
  currency : CurrencyCode
  minorUnitExponent : Nat
  minorUnits : Int
  exponentValid : minorUnitExponent ≤ maxMinorUnitExponent
  magnitudeValid : minorUnits.natAbs ≤ maxAbsoluteMinorUnits
deriving DecidableEq

theorem cents_valid : 2 ≤ maxMinorUnitExponent := by decide

theorem Money.ext {left right : Money}
    (currency : left.currency = right.currency)
    (exponent : left.minorUnitExponent = right.minorUnitExponent)
    (units : left.minorUnits = right.minorUnits) :
    left = right := by
  cases left
  cases right
  cases currency
  cases exponent
  cases units
  rfl

/-! ## Canonical text -/

/-- The digits after the decimal point, with the point. -/
def fractionText (exponent units : Nat) : Text :=
  if exponent = 0 then [] else point '.' :: zeroPadded exponent units

/-- `f"{amount:.{exponent}f}"`. -/
def amountText (exponent : Nat) (minorUnits : Int) : Text :=
  let magnitude := minorUnits.natAbs
  (if minorUnits < 0 then [point '-'] else []) ++
    (decimal (magnitude / 10 ^ exponent) ++
      fractionText exponent (magnitude % 10 ^ exponent))

/-- `str(money)`. -/
def Money.toText (money : Money) : Text :=
  money.currency.value ++
    point ' ' :: amountText money.minorUnitExponent money.minorUnits

theorem not_space_of_isDigit {c : CodePoint} (digit : isDigit c) :
    c ≠ point ' ' := by
  rintro rfl
  revert digit
  decide

theorem amountText_noSpace (exponent : Nat) (minorUnits : Int) :
    point ' ' ∉ amountText exponent minorUnits := by
  have digits {t : Text} (all : t.all isDigit) : point ' ' ∉ t := by
    intro member
    exact not_space_of_isDigit (List.all_eq_true.mp all _ member) rfl
  simp only [amountText, fractionText, List.mem_append, not_or]
  refine ⟨?_, digits (decimal_all_digit _), ?_⟩
  · split <;> decide
  · split
    · exact List.not_mem_nil
    · intro member
      rcases List.mem_cons.mp member with same | later
      · exact absurd same (by decide)
      · exact digits (zeroPadded_digits _ _) later

theorem CurrencyCode.noSpace (currency : CurrencyCode) :
    point ' ' ∉ currency.value := by
  intro member
  have upper := List.all_eq_true.mp currency.shape.2 _ member
  revert upper
  decide

theorem fractionText_ends (exponent units : Nat) :
    EndsAt (fun c => !isDigit c) (fractionText exponent units) := by
  simp only [fractionText]
  split
  · exact endsAt_nil _
  · exact endsAt_cons _ (by decide)

theorem fractionText_inj {leftExponent rightExponent left right : Nat}
    (leftFits : left < 10 ^ leftExponent)
    (rightFits : right < 10 ^ rightExponent)
    (equal : fractionText leftExponent left =
      fractionText rightExponent right) :
    leftExponent = rightExponent ∧ left = right := by
  have lengths := congrArg List.length equal
  have exponents : leftExponent = rightExponent := by
    simp only [fractionText] at lengths
    split at lengths <;> split at lengths <;>
      simp only [List.length_nil, List.length_cons, zeroPadded_length]
        at lengths <;> omega
  subst exponents
  refine ⟨rfl, ?_⟩
  simp only [fractionText] at equal
  split at equal
  next zero =>
    rw [zero, Nat.pow_zero] at leftFits rightFits
    omega
  next =>
    exact zeroPadded_inj leftFits rightFits (List.cons.inj equal).2

theorem magnitudeText_inj {leftExponent rightExponent left right : Nat}
    (equal : decimal (left / 10 ^ leftExponent) ++
        fractionText leftExponent (left % 10 ^ leftExponent) =
      decimal (right / 10 ^ rightExponent) ++
        fractionText rightExponent (right % 10 ^ rightExponent)) :
    leftExponent = rightExponent ∧ left = right := by
  have digits : ∀ n : Nat, (decimal n).all fun c => !!isDigit c := by
    intro n
    simpa using decimal_all_digit n
  obtain ⟨wholes, fractions⟩ :=
    token_append (digits _) (digits _) (fractionText_ends _ _)
      (fractionText_ends _ _) equal
  obtain ⟨exponents, remainders⟩ :=
    fractionText_inj (Nat.mod_lt _ (Nat.pow_pos (by decide)))
      (Nat.mod_lt _ (Nat.pow_pos (by decide))) fractions
  have quotients := decimal_injective wholes
  subst exponents
  refine ⟨rfl, ?_⟩
  rw [← Nat.div_add_mod left (10 ^ leftExponent),
    ← Nat.div_add_mod right (10 ^ leftExponent), quotients, remainders]

theorem amountText_inj {leftExponent rightExponent : Nat} {left right : Int}
    (equal : amountText leftExponent left = amountText rightExponent right) :
    leftExponent = rightExponent ∧ left = right := by
  have signDiffers : ∀ n m : Nat, ∀ r s : Text,
      [point '-'] ++ (decimal n ++ r) ≠ [] ++ (decimal m ++ s) := by
    intro n m r s same
    obtain ⟨c, rest, form, digit⟩ := decimal_head_digit m
    rw [form] at same
    simp only [List.cons_append, List.nil_append, List.cons.injEq] at same
    rw [← same.1] at digit
    revert digit
    decide
  simp only [amountText] at equal
  split at equal <;> split at equal
  · obtain ⟨exponents, magnitudes⟩ :=
      magnitudeText_inj (List.append_cancel_left equal)
    exact ⟨exponents, by omega⟩
  · exact absurd equal (signDiffers _ _ _ _)
  · exact absurd equal.symm (signDiffers _ _ _ _)
  · obtain ⟨exponents, magnitudes⟩ :=
      magnitudeText_inj (List.append_cancel_left equal)
    exact ⟨exponents, by omega⟩

theorem Money.toText_injective : Function.Injective Money.toText := by
  intro left right equal
  have lengths : left.currency.value.length = right.currency.value.length := by
    rw [left.currency.shape.1, right.currency.shape.1]
  obtain ⟨currencies, amounts⟩ := List.append_inj equal lengths
  obtain ⟨exponents, units⟩ := amountText_inj (List.cons.inj amounts).2
  exact Money.ext (CurrencyCode.ext currencies) exponents units

/-! ## Parsing -/

/-- The three groups of `_MONEY_PATTERN`, the amount split at its point. -/
structure MoneyMatch where
  currency : Text
  negative : Bool
  whole : Text
  fraction : Option Text

/-- `0|[1-9][0-9]*`. -/
def isWholeNumber (digits : Text) : Bool :=
  match digits with
  | [] => false
  | c :: rest => rest.isEmpty || c != point '0'

/-- `_MONEY_PATTERN.fullmatch`. -/
def matchMoney (t : Text) : Option MoneyMatch :=
  let currency := t.take 3
  if currency.length = 3 ∧ currency.all isUpper then
    match t.drop 3 with
    | [] => none
    | space :: amount =>
        if space = point ' ' then
          let negative := amount.head? == some (point '-')
          let unsigned := if negative then amount.drop 1 else amount
          let whole := unsigned.takeWhile isDigit
          let rest := unsigned.dropWhile isDigit
          if isWholeNumber whole then
            match rest with
            | [] => some { currency, negative, whole, fraction := none }
            | c :: digits =>
                if c = point '.' ∧ digits ≠ [] ∧ digits.all isDigit then
                  some { currency, negative, whole, fraction := some digits }
                else none
          else none
        else none
  else none

/-- The exact minor units of a matched amount. -/
def MoneyMatch.minorUnits (matched : MoneyMatch) : Int :=
  let magnitude := numeral (matched.whole ++ matched.fraction.getD [])
  if matched.negative then -(magnitude : Int) else magnitude

/-- The `Money` constructor on a currency, an exponent and exact units. -/
def Money.create (currency : Text) (exponent : Nat) (minorUnits : Int) :
    Except PythonError Money :=
  match currencyValid : validateCurrency currency with
  | .error error => .error error
  | .ok () =>
      if exponentValid : exponent ≤ maxMinorUnitExponent then
        if magnitudeValid : minorUnits.natAbs ≤ maxAbsoluteMinorUnits then
          .ok
            { currency := ⟨currency, currencyValid⟩
              minorUnitExponent := exponent
              minorUnits
              exponentValid
              magnitudeValid }
        else
          .error (.valueError (text
            "money amount exceeds the supported magnitude"))
      else
        .error (.valueError (text
          "minor-unit exponent must be between zero and six"))

/-- `Money.parse`. -/
def Money.parse (value : Text) : Except PythonError Money := do
  require (value.length ≤ 21)
    (.valueError (text "money representation exceeds the supported size"))
  match matchMoney value with
  | none =>
      .error (.valueError (text
        "money must use canonical `<currency> <amount>` form"))
  | some matched =>
      let money ← Money.create matched.currency
        (matched.fraction.getD []).length matched.minorUnits
      require (money.toText == value)
        (.valueError (text "money representation is not canonical"))
      pure money

/-- A parsed text is the canonical text of its value. -/
theorem Money.parse_toText {value : Text} {money : Money}
    (parsed : Money.parse value = .ok money) :
    money.toText = value := by
  simp only [Money.parse, bind_eq_ok] at parsed
  obtain ⟨_, _, parsed⟩ := parsed
  split at parsed
  next => cases parsed
  next matched _ =>
    simp only [bind_eq_ok] at parsed
    obtain ⟨built, _, _, canonical, same⟩ := parsed
    cases same
    exact eq_of_beq (require_eq_ok.mp canonical)

/-- The first half of a parsed text is the currency of its value. -/
theorem Money.parse_currency {currency amount : Text} {money : Money}
    (parsed : Money.parse (currency ++ point ' ' :: amount) = .ok money) :
    money.currency.value = currency := by
  have canonical := Money.parse_toText parsed
  have spaces := congrArg (List.count (point ' ')) canonical
  have none_ := List.count_eq_zero_of_not_mem money.currency.noSpace
  have alone := List.count_eq_zero_of_not_mem
    (amountText_noSpace money.minorUnitExponent money.minorUnits)
  simp only [toText, List.count_append, List.count_cons_self, none_, alone]
    at spaces
  have outside : point ' ' ∉ currency := by
    rw [← List.count_eq_zero]
    omega
  have ends (r : Text) : EndsAt (· == point ' ') (point ' ' :: r) :=
    endsAt_cons _ (by decide)
  have plain {t : Text} (absent : point ' ' ∉ t) :
      t.all fun c => !(c == point ' ') := by
    simp only [List.all_eq_true, Bool.not_eq_true', beq_eq_false_iff_ne]
    rintro c member rfl
    exact absent member
  exact (token_append (plain money.currency.noSpace) (plain outside)
    (ends _) (ends _) canonical).1

theorem Money.parse_raises (value : Text) :
    RaisesOnlyValueErrors (Money.parse value) := by
  apply RaisesOnlyValueErrors.bind (RaisesOnlyValueErrors.require rfl)
  intro _ _
  split
  next =>
    intro e raised
    cases raised
    rfl
  next matched _ =>
    apply RaisesOnlyValueErrors.bind
    · intro e raised
      simp only [Money.create, validateCurrency, require] at raised
      split at raised
      next invalid =>
        split at invalid
        · cases invalid
        · cases invalid
          cases raised
          rfl
      next =>
        split at raised
        · split at raised
          · cases raised
          · cases raised
            rfl
        · cases raised
          rfl
    · intro money _
      apply RaisesOnlyValueErrors.bind (RaisesOnlyValueErrors.require rfl)
      intro _ _
      exact RaisesOnlyValueErrors.ok money

/-- A negative zero is matched by the pattern but is not canonical. -/
example : (Money.parse (text "USD -0.00")).toOption = none ∧
    (Money.parse (text "USD -12.05")).toOption.map Money.minorUnits =
      some (-1205) := by
  decide +kernel

end ParityGrid.Domain
