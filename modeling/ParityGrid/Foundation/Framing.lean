import ParityGrid.Foundation.Text

/-!
# Unique decoding

Digest preimages and JSON documents are concatenations.  This module collects
what makes a concatenation readable from the left: self-delimiting codes,
tokens ended by a stop symbol, numbers of one fixed width and length frames.
-/

namespace ParityGrid.Foundation

/-! ## Self-delimiting codes -/

section Codes

variable {α β : Type} {code : α → List β}

/-- A code whose words can be read off the front of any continuation. -/
def SelfDelimiting (code : α → List β) : Prop :=
  ∀ a b r s, code a ++ r = code b ++ s → a = b ∧ r = s

/-- Injective words of one length delimit themselves. -/
theorem SelfDelimiting.ofFixedLength {n : Nat}
    (injective : Function.Injective code)
    (fixed : ∀ a, (code a).length = n) :
    SelfDelimiting code := by
  intro a b r s equal
  have lengths : (code a).length = (code b).length := by
    rw [fixed, fixed]
  have parts := List.append_inj equal lengths
  exact ⟨injective parts.1, parts.2⟩

/-- Sequences of one length are read word by word. -/
theorem SelfDelimiting.flatMap_append (self : SelfDelimiting code)
    {xs ys : List α} {r s : List β}
    (lengths : xs.length = ys.length)
    (equal : xs.flatMap code ++ r = ys.flatMap code ++ s) :
    xs = ys ∧ r = s := by
  induction xs generalizing ys with
  | nil =>
      have empty : ys = [] := List.length_eq_zero_iff.mp lengths.symm
      subst empty
      exact ⟨rfl, by simpa using equal⟩
  | cons x xs ih =>
      cases ys with
      | nil => simp at lengths
      | cons y ys =>
          simp only [List.flatMap_cons, List.append_assoc] at equal
          obtain ⟨headEqual, tailEqual⟩ := self _ _ _ _ equal
          obtain ⟨restEqual, after⟩ :=
            ih (by simpa using lengths) tailEqual
          exact ⟨by rw [headEqual, restEqual], after⟩

/-- A stop symbol that begins no word ends a sequence of any length. -/
theorem SelfDelimiting.flatMap_stop (self : SelfDelimiting code)
    {stop : β}
    (begins : ∀ a, ∃ c rest, code a = c :: rest ∧ c ≠ stop)
    {xs ys : List α} {r s : List β}
    (equal : xs.flatMap code ++ stop :: r = ys.flatMap code ++ stop :: s) :
    xs = ys ∧ r = s := by
  induction xs generalizing ys with
  | nil =>
      cases ys with
      | nil => exact ⟨rfl, by simpa using equal⟩
      | cons y ys =>
          obtain ⟨c, rest, form, differs⟩ := begins y
          simp only [List.flatMap_nil, List.nil_append, List.flatMap_cons,
            form, List.cons_append, List.cons.injEq] at equal
          exact absurd equal.1.symm differs
  | cons x xs ih =>
      cases ys with
      | nil =>
          obtain ⟨c, rest, form, differs⟩ := begins x
          simp only [List.flatMap_nil, List.nil_append, List.flatMap_cons,
            form, List.cons_append, List.cons.injEq] at equal
          exact absurd equal.1 differs
      | cons y ys =>
          simp only [List.flatMap_cons, List.append_assoc] at equal
          obtain ⟨headEqual, tailEqual⟩ := self _ _ _ _ equal
          obtain ⟨restEqual, after⟩ := ih tailEqual
          exact ⟨by rw [headEqual, restEqual], after⟩

end Codes

/-! ## Tokens -/

/-- Nothing follows, or a stop symbol follows. -/
def EndsAt {β : Type} (stops : β → Bool) (r : List β) : Prop :=
  ∀ c rest, r = c :: rest → stops c = true

theorem endsAt_nil {β : Type} (stops : β → Bool) : EndsAt stops [] := by
  intro c rest equal
  cases equal

theorem endsAt_cons {β : Type} {stops : β → Bool} {c : β} (rest : List β)
    (stop : stops c) : EndsAt stops (c :: rest) := by
  intro d tail equal
  rw [← (List.cons.inj equal).1]
  exact stop

/-- Two tokens without stop symbols that both end at one are equal. -/
theorem token_append {β : Type} {stops : β → Bool} {a b r s : List β}
    (leftToken : a.all fun c => !stops c)
    (rightToken : b.all fun c => !stops c)
    (leftEnds : EndsAt stops r) (rightEnds : EndsAt stops s)
    (equal : a ++ r = b ++ s) :
    a = b ∧ r = s := by
  induction a generalizing b with
  | nil =>
      cases b with
      | nil => exact ⟨rfl, by simpa using equal⟩
      | cons c rest =>
          have stop := leftEnds c (rest ++ s) (by simpa using equal)
          simp [stop] at rightToken
  | cons c rest ih =>
      cases b with
      | nil =>
          have stop := rightEnds c (rest ++ r) (by simpa using equal.symm)
          simp [stop] at leftToken
      | cons d tail =>
          simp only [List.cons_append, List.cons.injEq] at equal
          simp only [List.all_cons, Bool.and_eq_true] at leftToken rightToken
          obtain ⟨restEqual, after⟩ :=
            ih leftToken.2 rightToken.2 equal.2
          exact ⟨by rw [equal.1, restEqual], after⟩

/-! ## Numbers of fixed width -/

section FixedWidth

variable {β : Type}

/-- The `width` lowest positional digits of `n`, most significant first. -/
def fixedWidth (base : Nat) (symbol : Nat → β) : Nat → Nat → List β
  | 0, _ => []
  | width + 1, n =>
      fixedWidth base symbol width (n / base) ++ [symbol (n % base)]

@[simp]
theorem fixedWidth_length (base : Nat) (symbol : Nat → β) (width n : Nat) :
    (fixedWidth base symbol width n).length = width := by
  induction width generalizing n with
  | zero => rfl
  | succ width ih => simp [fixedWidth, ih]

theorem fixedWidth_all {base : Nat} {symbol : Nat → β} {good : β → Bool}
    (positive : 0 < base) (symbols : ∀ d, d < base → good (symbol d))
    (width n : Nat) :
    (fixedWidth base symbol width n).all good := by
  induction width generalizing n with
  | zero => rfl
  | succ width ih =>
      rw [fixedWidth, List.all_append, ih]
      simp [symbols _ (Nat.mod_lt n positive)]

theorem fixedWidth_inj {base : Nat} {symbol : Nat → β}
    (positive : 0 < base)
    (symbols : ∀ d e, d < base → e < base → symbol d = symbol e → d = e)
    {width m n : Nat}
    (leftFits : m < base ^ width) (rightFits : n < base ^ width)
    (equal : fixedWidth base symbol width m =
      fixedWidth base symbol width n) :
    m = n := by
  induction width generalizing m n with
  | zero =>
      rw [Nat.pow_zero] at leftFits rightFits
      omega
  | succ width ih =>
      rw [Nat.pow_succ'] at leftFits rightFits
      obtain ⟨high, low⟩ := List.append_inj' equal rfl
      have quotients : m / base = n / base :=
        ih (Nat.div_lt_of_lt_mul leftFits) (Nat.div_lt_of_lt_mul rightFits)
          high
      have remainders : m % base = n % base :=
        symbols _ _ (Nat.mod_lt m positive) (Nat.mod_lt n positive)
          (List.cons.inj low).1
      rw [← Nat.div_add_mod m base, ← Nat.div_add_mod n base, quotients,
        remainders]

end FixedWidth

/-- `n.to_bytes(width, "big")` of a number that fits. -/
def bigEndian (width n : Nat) : Bytes :=
  fixedWidth 256 (Fin.ofNat _) width n

@[simp]
theorem bigEndian_length (width n : Nat) :
    (bigEndian width n).length = width :=
  fixedWidth_length 256 _ width n

theorem bigEndian_inj {width m n : Nat}
    (leftFits : m < 256 ^ width) (rightFits : n < 256 ^ width)
    (equal : bigEndian width m = bigEndian width n) :
    m = n := by
  apply fixedWidth_inj (by decide) _ leftFits rightFits equal
  intro d e dBound eBound same
  have values := congrArg Fin.val same
  simp only [Fin.val_ofNat] at values
  omega

def digitPoint (d : Nat) : CodePoint :=
  Fin.ofNat _ (0x30 + d)

/-- `f"{n:0{width}d}"` of a number with at most `width` digits. -/
def zeroPadded (width n : Nat) : Text :=
  fixedWidth 10 digitPoint width n

@[simp]
theorem zeroPadded_length (width n : Nat) :
    (zeroPadded width n).length = width :=
  fixedWidth_length 10 digitPoint width n

theorem zeroPadded_digits (width n : Nat) :
    (zeroPadded width n).all isDigit := by
  apply fixedWidth_all (by decide)
  intro d bound
  simp only [isDigit, Bool.and_eq_true, decide_eq_true_eq]
  simp only [digitPoint, Fin.val_ofNat]
  omega

theorem zeroPadded_inj {width m n : Nat}
    (leftFits : m < 10 ^ width) (rightFits : n < 10 ^ width)
    (equal : zeroPadded width m = zeroPadded width n) :
    m = n := by
  apply fixedWidth_inj (by decide) _ leftFits rightFits equal
  intro d e dBound eBound same
  have values := congrArg Fin.val same
  simp only [digitPoint, Fin.val_ofNat] at values
  omega

theorem zeroPadded_append {width m n : Nat} {c : CodePoint} {r s : Text}
    (leftFits : m < 10 ^ width) (rightFits : n < 10 ^ width)
    (equal : zeroPadded width m ++ c :: r = zeroPadded width n ++ c :: s) :
    m = n ∧ r = s := by
  obtain ⟨digits, rest⟩ := List.append_inj equal (by simp)
  exact ⟨zeroPadded_inj leftFits rightFits digits, (List.cons.inj rest).2⟩

theorem zeroPadded_ascii (width n : Nat) :
    (zeroPadded width n).all isAscii := by
  have digits := zeroPadded_digits width n
  simp only [List.all_eq_true] at digits ⊢
  intro c member
  exact isAscii_of_isDigit (digits c member)

/-! ## Length frames -/

/--
`len(value).to_bytes(8, byteorder="big") + value`.  A length that does not fit
in eight bytes raises.
-/
def frame (value : Bytes) : Except PythonError Bytes :=
  if value.length < 256 ^ 8 then
    .ok (bigEndian 8 value.length ++ value)
  else
    .error .overflowError

/-- Frames delimit themselves. -/
theorem frame_append {a b framedA framedB r s : Bytes}
    (leftFrame : frame a = .ok framedA) (rightFrame : frame b = .ok framedB)
    (equal : framedA ++ r = framedB ++ s) :
    a = b ∧ r = s := by
  simp only [frame] at leftFrame rightFrame
  split at leftFrame
  next leftFits =>
    split at rightFrame
    next rightFits =>
      cases leftFrame
      cases rightFrame
      simp only [List.append_assoc] at equal
      obtain ⟨header, body⟩ := List.append_inj equal (by simp)
      exact List.append_inj body (bigEndian_inj leftFits rightFits header)
    next => cases rightFrame
  next => cases leftFrame

theorem frame_inj {a b framed : Bytes}
    (leftFrame : frame a = .ok framed) (rightFrame : frame b = .ok framed) :
    a = b := by
  exact (frame_append (r := []) (s := []) leftFrame rightFrame rfl).1

end ParityGrid.Foundation
