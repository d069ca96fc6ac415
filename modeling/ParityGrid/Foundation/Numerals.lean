import ParityGrid.Foundation.JsonRoundTrip

/-!
# Canonical numerals

The decimal text of a natural number is a run of digits that starts with zero
only when it is that one digit, and every such run is the text of its value.
-/

namespace ParityGrid.Foundation

/-- A run of digits without a leading zero. -/
structure IsNumeral (digits : Text) : Prop where
  nonempty : digits ≠ []
  all : digits.all isDigit
  canonical : 1 < digits.length → digits.head? ≠ some (point '0')

theorem isNumeral_decimal (n : Nat) : IsNumeral (decimal n) := by
  refine ⟨decimal_ne_nil n, decimal_all_digit n, fun long zero => ?_⟩
  by_cases positive : 0 < n
  · obtain ⟨c, rest, form, apart⟩ := decimal_head positive
    rw [form] at zero
    exact apart (Option.some.inj zero)
  · have none_ : n = 0 := Nat.eq_zero_of_not_pos positive
    rw [none_] at long
    exact absurd long (by decide)

theorem digit_eq {c : CodePoint} (digit : isDigit c) :
    decimal (c.val - 0x30) = [c] := by
  simp only [isDigit, Bool.and_eq_true, decide_eq_true_eq] at digit
  rw [decimal_small (by omega)]
  refine congrArg (fun d => [d]) (Fin.ext ?_)
  rw [digitChar_val (by omega)]
  omega

/-- `str(int(digits))` of a canonical numeral. -/
theorem decimal_numeral {digits : Text} (numeral_ : IsNumeral digits) :
    decimal (numeral digits) = digits := by
  induction digits using List.reverseRecOn with
  | nil => exact absurd rfl numeral_.nonempty
  | append_singleton init c ih =>
      have all := numeral_.all
      rw [List.all_append, Bool.and_eq_true] at all
      have digit : isDigit c := by simpa using all.2
      rw [numeral_append]
      by_cases none_ : init = []
      · subst none_
        simpa [numeral] using digit_eq digit
      · have starts : init.head? ≠ some (point '0') := by
          have head := numeral_.canonical (by
            have positive := List.length_pos_iff.mpr none_
            rw [List.length_append, List.length_singleton]
            omega)
          rwa [List.head?_append_of_ne_nil _ none_] at head
        have value := ih ⟨none_, all.1, fun _ => starts⟩
        have positive : 0 < numeral init := by
          refine Nat.pos_of_ne_zero fun zero => starts ?_
          rw [← value, zero]
          rfl
        have bounds := digit
        simp only [isDigit, Bool.and_eq_true, decide_eq_true_eq] at bounds
        rw [decimal_step (by omega)]
        have quotient : (10 * numeral init + (c.val - 0x30)) / 10 =
            numeral init := by
          omega
        have remainder : (10 * numeral init + (c.val - 0x30)) % 10 =
            c.val - 0x30 := by
          omega
        have last := digit_eq digit
        rw [decimal_small (by omega)] at last
        rw [quotient, remainder, value, last]

/-- A run of digits is the padded text of its value. -/
theorem zeroPadded_numeral {digits : Text} (all : digits.all isDigit) :
    zeroPadded digits.length (numeral digits) = digits := by
  induction digits using List.reverseRecOn with
  | nil => rfl
  | append_singleton digits c ih =>
      rw [List.all_append, Bool.and_eq_true] at all
      have digit : isDigit c := by simpa using all.2
      simp only [isDigit, Bool.and_eq_true, decide_eq_true_eq] at digit
      have last : digitPoint (numeral (digits ++ [c]) % 10) = c := by
        rw [numeral_append, digitPoint]
        apply Fin.ext
        rw [Fin.val_ofNat]
        omega
      have front : numeral (digits ++ [c]) / 10 = numeral digits := by
        rw [numeral_append]
        omega
      have width : (digits ++ [c]).length = digits.length + 1 := by
        rw [List.length_append, List.length_singleton]
      rw [zeroPadded, width, fixedWidth, last, front, ← zeroPadded, ih all.1]

end ParityGrid.Foundation
