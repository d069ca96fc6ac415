import ParityGrid.Foundation.Text

/-!
# URL-safe base64

Three bytes make four characters, and a shorter last group is filled up with
padding.  The decoder reads one character at a time: it passes over characters
outside the alphabet, and takes padding as the end of the input as soon as it
completes a group.
-/

namespace ParityGrid.Foundation

/-! ## The alphabet -/

/-- The character of a sextet. -/
def base64Point (sextet : Nat) : CodePoint :=
  if sextet < 26 then Fin.ofNat _ (0x41 + sextet)
  else if sextet < 52 then Fin.ofNat _ (0x61 + (sextet - 26))
  else if sextet < 62 then Fin.ofNat _ (0x30 + (sextet - 52))
  else if sextet = 62 then point '-' else point '_'

/-- The sextet of a character; the two of the other alphabet are read as
well. -/
def base64Sextet (c : CodePoint) : Option Nat :=
  if isUpper c then some (c.val - 0x41)
  else if isLower c then some (c.val - 0x61 + 26)
  else if isDigit c then some (c.val - 0x30 + 52)
  else if c = point '-' || c = point '+' then some 62
  else if c = point '_' || c = point '/' then some 63
  else none

/-- The characters that the encoder uses, padding apart. -/
def isBase64Point (c : CodePoint) : Bool :=
  isUpper c || isLower c || isDigit c || c = point '-' || c = point '_'

def base64Pad : CodePoint := point '='

theorem base64Sextet_point {sextet : Nat} (small : sextet < 64) :
    base64Sextet (base64Point sextet) = some sextet :=
  (show ∀ s : Fin 64, base64Sextet (base64Point s) = some s.val by
    decide) ⟨sextet, small⟩

theorem isBase64Point_point {sextet : Nat} (small : sextet < 64) :
    isBase64Point (base64Point sextet) :=
  (show ∀ s : Fin 64, isBase64Point (base64Point s) = true by
    decide) ⟨sextet, small⟩

theorem base64Pad_not_point : isBase64Point base64Pad = false := by
  decide

theorem base64Point_ne_pad {sextet : Nat} (small : sextet < 64) :
    base64Point sextet ≠ base64Pad := by
  intro same
  have inside := isBase64Point_point small
  rw [same, base64Pad_not_point] at inside
  cases inside

/-! ## Encoding -/

/-- `base64.urlsafe_b64encode`. -/
def urlsafeEncode : Bytes → Text
  | [] => []
  | [a] =>
      [base64Point (a.val / 4), base64Point (a.val % 4 * 16), base64Pad,
        base64Pad]
  | [a, b] =>
      [base64Point (a.val / 4), base64Point (a.val % 4 * 16 + b.val / 16),
        base64Point (b.val % 16 * 4), base64Pad]
  | a :: b :: c :: rest =>
      base64Point (a.val / 4) :: base64Point (a.val % 4 * 16 + b.val / 16) ::
        base64Point (b.val % 16 * 4 + c.val / 64) ::
        base64Point (c.val % 64) :: urlsafeEncode rest

/-! ## Decoding -/

def byteOf (n : Nat) : Byte := Fin.ofNat _ n

theorem byteOf_eq {n : Nat} {byte : Byte} (same : n = byte.val) :
    byteOf n = byte := by
  subst same
  exact Fin.ofNat_val_eq_self byte

/-- `binascii.a2b_base64`, from a position in a group: `left` is what the
characters before left over, and `pads` counts the padding. -/
def a2bBase64 : Nat → Nat → Nat → Text → Option Bytes
  | 0, _, _, [] => some []
  | _ + 1, _, _, [] => none
  | quad, left, pads, c :: rest =>
      if c = base64Pad then
        if 2 ≤ quad then
          if 4 ≤ quad + (pads + 1) then some []
          else a2bBase64 quad left (pads + 1) rest
        else a2bBase64 quad left pads rest
      else
        match base64Sextet c with
        | none => a2bBase64 quad left pads rest
        | some v =>
            match quad with
            | 0 => a2bBase64 1 v 0 rest
            | 1 => (a2bBase64 2 (v % 16) 0 rest).map
                (byteOf (left * 4 + v / 16) :: ·)
            | 2 => (a2bBase64 3 (v % 4) 0 rest).map
                (byteOf (left * 16 + v / 4) :: ·)
            | _ => (a2bBase64 0 0 0 rest).map (byteOf (left * 64 + v) :: ·)

/-- `base64.urlsafe_b64decode`. -/
def urlsafeDecode (t : Text) : Option Bytes :=
  a2bBase64 0 0 0 t

section Group

variable {left pads v : Nat} {rest : Text}

theorem a2bBase64_first (small : v < 64) :
    a2bBase64 0 left pads (base64Point v :: rest) =
      a2bBase64 1 v 0 rest := by
  rw [a2bBase64, if_neg (base64Point_ne_pad small), base64Sextet_point small]
  rfl

theorem a2bBase64_second (small : v < 64) :
    a2bBase64 1 left pads (base64Point v :: rest) =
      (a2bBase64 2 (v % 16) 0 rest).map
        (byteOf (left * 4 + v / 16) :: ·) := by
  rw [a2bBase64, if_neg (base64Point_ne_pad small), base64Sextet_point small]
  rfl

theorem a2bBase64_third (small : v < 64) :
    a2bBase64 2 left pads (base64Point v :: rest) =
      (a2bBase64 3 (v % 4) 0 rest).map
        (byteOf (left * 16 + v / 4) :: ·) := by
  rw [a2bBase64, if_neg (base64Point_ne_pad small), base64Sextet_point small]
  rfl

theorem a2bBase64_fourth (small : v < 64) :
    a2bBase64 3 left pads (base64Point v :: rest) =
      (a2bBase64 0 0 0 rest).map (byteOf (left * 64 + v) :: ·) := by
  rw [a2bBase64, if_neg (base64Point_ne_pad small), base64Sextet_point small]
  rfl

end Group

/-- What is decoded is what was encoded. -/
theorem urlsafeDecode_encode (bytes : Bytes) :
    urlsafeDecode (urlsafeEncode bytes) = some bytes := by
  rw [urlsafeDecode]
  induction bytes using urlsafeEncode.induct with
  | case1 => rfl
  | case2 a =>
      have padded (left : Nat) :
          a2bBase64 2 left 0 [base64Pad, base64Pad] = some [] := rfl
      have first : byteOf (a.val / 4 * 4 + a.val % 4 * 16 / 16) = a :=
        byteOf_eq (by omega)
      rw [urlsafeEncode, a2bBase64_first (by omega),
        a2bBase64_second (by omega), padded, first]
      rfl
  | case3 a b =>
      have padded (left : Nat) :
          a2bBase64 3 left 0 [base64Pad] = some [] := rfl
      have first : byteOf (a.val / 4 * 4 +
          (a.val % 4 * 16 + b.val / 16) / 16) = a := byteOf_eq (by omega)
      have second : byteOf ((a.val % 4 * 16 + b.val / 16) % 16 * 16 +
          b.val % 16 * 4 / 4) = b := byteOf_eq (by omega)
      rw [urlsafeEncode, a2bBase64_first (by omega),
        a2bBase64_second (by omega), a2bBase64_third (by omega), padded,
        first, second]
      rfl
  | case4 a b c rest ih =>
      have first : byteOf (a.val / 4 * 4 +
          (a.val % 4 * 16 + b.val / 16) / 16) = a := byteOf_eq (by omega)
      have second : byteOf ((a.val % 4 * 16 + b.val / 16) % 16 * 16 +
          (b.val % 16 * 4 + c.val / 64) / 4) = b := byteOf_eq (by omega)
      have third : byteOf ((b.val % 16 * 4 + c.val / 64) % 4 * 64 +
          c.val % 64) = c := byteOf_eq (by omega)
      rw [urlsafeEncode, a2bBase64_first (by omega),
        a2bBase64_second (by omega), a2bBase64_third (by omega),
        a2bBase64_fourth (by omega), ih, first, second, third]
      rfl

/-! ## Without padding -/

/-- `value.rstrip("=")`. -/
def stripPadding (t : Text) : Text :=
  t.rdropWhile (· == base64Pad)

/-- `value + "=" * (-len(value) % 4)`. -/
def restorePadding (t : Text) : Text :=
  t ++ List.replicate ((4 - t.length % 4) % 4) base64Pad

/-- An encoding is a run of the alphabet and the padding that fills the last
group. -/
theorem urlsafeEncode_form (bytes : Bytes) :
    ∃ body pads, urlsafeEncode bytes = body ++ List.replicate pads base64Pad ∧
      body.all isBase64Point ∧ pads < 4 ∧ (body.length + pads) % 4 = 0 ∧
      3 * (body.length + pads) = 4 * (bytes.length + pads) := by
  induction bytes using urlsafeEncode.induct with
  | case1 => exact ⟨[], 0, rfl, rfl, by decide, rfl, rfl⟩
  | case2 a =>
      refine ⟨[_, _], 2, rfl, ?_, by decide, by simp, by simp⟩
      simp only [List.all_cons, List.all_nil, Bool.and_true, Bool.and_eq_true]
      exact ⟨isBase64Point_point (by omega), isBase64Point_point (by omega)⟩
  | case3 a b =>
      refine ⟨[_, _, _], 1, rfl, ?_, by decide, by simp, by simp⟩
      simp only [List.all_cons, List.all_nil, Bool.and_true, Bool.and_eq_true]
      exact ⟨isBase64Point_point (by omega), isBase64Point_point (by omega),
        isBase64Point_point (by omega)⟩
  | case4 a b c rest ih =>
      obtain ⟨body, pads, form, alphabet, few, groups, length⟩ := ih
      refine ⟨_ :: _ :: _ :: _ :: body, pads, by rw [urlsafeEncode, form]; rfl,
        ?_, few, ?_, ?_⟩
      · simp only [List.all_cons, Bool.and_eq_true]
        exact ⟨isBase64Point_point (by omega), isBase64Point_point (by omega),
          isBase64Point_point (by omega), isBase64Point_point (by omega),
          alphabet⟩
      · simp only [List.length_cons]
        omega
      · simp only [List.length_cons]
        omega

theorem stripPadding_append {body : Text} (alphabet : body.all isBase64Point)
    (pads : Nat) :
    stripPadding (body ++ List.replicate pads base64Pad) = body := by
  induction pads with
  | zero =>
      rw [List.replicate_zero, List.append_nil, stripPadding,
        List.rdropWhile_eq_self_iff]
      intro nonempty same
      have inside := List.all_eq_true.mp alphabet _
        (List.getLast_mem nonempty)
      rw [beq_iff_eq.mp same, base64Pad_not_point] at inside
      cases inside
  | succ pads ih =>
      rw [List.replicate_succ', ← List.append_assoc, stripPadding,
        List.rdropWhile_concat_pos _ _ _ (by simp)]
      exact ih

/-- The unpadded encoding is decoded when its padding is restored. -/
theorem restorePadding_strip (bytes : Bytes) :
    restorePadding (stripPadding (urlsafeEncode bytes)) =
      urlsafeEncode bytes := by
  obtain ⟨body, pads, form, alphabet, few, groups, _⟩ :=
    urlsafeEncode_form bytes
  rw [form, stripPadding_append alphabet, restorePadding,
    show (4 - body.length % 4) % 4 = pads by omega]

end ParityGrid.Foundation
