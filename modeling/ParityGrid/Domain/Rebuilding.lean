import ParityGrid.Domain.Inventory
import ParityGrid.Foundation.JsonRoundTrip

/-!
# Rebuilding values

The constructors of the domain accept the parts of a value that they have built
and build it again; the canonical text of an instant is parsed back to it.
-/

namespace ParityGrid.Domain

open Foundation

/-! ## Instants -/

/-- A number of fixed width is read back. -/
theorem numeral_zeroPadded {width n : Nat} (fits : n < 10 ^ width) :
    numeral (zeroPadded width n) = n := by
  induction width generalizing n with
  | zero =>
      have zero : n = 0 := by simpa using fits
      rw [zero]
      rfl
  | succ width ih =>
      have high : n / 10 < 10 ^ width := by
        rw [Nat.div_lt_iff_lt_mul (by decide), ← Nat.pow_succ]
        exact fits
      have digit : (digitPoint (n % 10)).val = n % 10 + 0x30 := by
        simp only [digitPoint, Fin.val_ofNat]
        omega
      show numeral (zeroPadded width (n / 10) ++ [digitPoint (n % 10)]) = n
      rw [numeral_append, ih high, digit]
      omega

theorem readDigits_zeroPadded {width n : Nat} (fits : n < 10 ^ width)
    (rest : Text) :
    readDigits width (zeroPadded width n ++ rest) = some (n, rest) := by
  have length := zeroPadded_length width n
  have digits := zeroPadded_digits width n
  simp only [readDigits, List.take_left' length, List.drop_left' length,
    length, digits, numeral_zeroPadded fits, decide_true, Bool.and_self,
    if_true]

/-- A number is read up to the mark behind it. -/
theorem bind_number {α : Type} {width n : Nat} {mark : CodePoint}
    {rest : Text} {f : Nat × Text → Option α} {next : Text → Option α}
    {value : α} (fits : n < 10 ^ width)
    (marked : f (n, mark :: rest) =
      (readPoint mark (mark :: rest)).bind next)
    (ends : next rest = some value) :
    (readDigits width (zeroPadded width n ++ mark :: rest)).bind f =
      some value := by
  rw [readDigits_zeroPadded fits, Option.bind_some, marked, readPoint,
    if_pos rfl]
  exact ends

/-- Six digits of a fraction are its microseconds. -/
theorem readFraction_zeroPadded {n : Nat} (fits : n < 10 ^ 6) :
    readFraction (point '.' :: zeroPadded 6 n ++ [point 'Z']) =
      some (n, [point 'Z']) := by
  have digits := zeroPadded_digits 6 n
  have taken : (zeroPadded 6 n ++ [point 'Z']).takeWhile isDigit =
      zeroPadded 6 n := by
    rw [List.takeWhile_append_of_pos (List.all_eq_true.mp digits)]
    show zeroPadded 6 n ++ [] = _
    rw [List.append_nil]
  have length := zeroPadded_length 6 n
  simp only [readFraction, List.cons_append, if_true, taken, length,
    List.drop_left' length, numeral_zeroPadded fits]
  rw [if_pos (by decide), Nat.sub_self, Nat.pow_zero, Nat.mul_one]

theorem UtcTimestamp.parse_toText (timestamp : UtcTimestamp) :
    UtcTimestamp.parse timestamp.toText = .ok timestamp := by
  have ranges := Civil.isValid_iff.mp timestamp.valid
  have days := Civil.daysInMonth_le timestamp.civil.year timestamp.civil.month
  have micros : timestamp.civil.microsecond < 10 ^ 6 := by omega
  have fraction := readFraction_zeroPadded micros
  have matched : matchTimestamp timestamp.toText =
      some (timestamp.civil, .utc) := by
    simp only [toText, List.append_assoc, List.cons_append] at fraction ⊢
    refine bind_number (by omega) rfl ?_
    refine bind_number (by omega) rfl ?_
    refine bind_number (by omega) rfl ?_
    refine bind_number (by omega) rfl ?_
    refine bind_number (by omega) rfl ?_
    refine Option.bind_eq_some_iff.mpr
      ⟨_, readDigits_zeroPadded (by omega) _, ?_⟩
    exact Option.bind_eq_some_iff.mpr ⟨_, fraction, rfl⟩
  have moved : timestamp.civil.minusOffset 0 = some timestamp.civil := by
    have total : ((timestamp.civil.hour : Int) * 60 +
        timestamp.civil.minute - 0).toNat =
          timestamp.civil.hour * 60 + timestamp.civil.minute := by omega
    have hour : (timestamp.civil.hour * 60 + timestamp.civil.minute) / 60 =
        timestamp.civil.hour := by omega
    have minute : (timestamp.civil.hour * 60 + timestamp.civil.minute) % 60 =
        timestamp.civil.minute := by omega
    simp only [Civil.minusOffset]
    rw [if_neg (by omega), if_neg (by omega), total, hour, minute]
    rfl
  simp only [parse, matched]
  split
  next unknown => cases unknown
  next minutes known =>
    cases known
    rw [dif_pos timestamp.valid]
    split
    next lost =>
      rw [moved] at lost
      cases lost
    next utc found =>
      rw [moved] at found
      cases found
      rfl

/-! ## Money -/

theorem Money.create_self (money : Money) :
    Money.create money.currency.value money.minorUnitExponent
      money.minorUnits = .ok money := by
  simp only [create]
  split
  next error invalid =>
    rw [money.currency.valid] at invalid
    cases invalid
  next =>
    rw [dif_pos money.exponentValid, dif_pos money.magnitudeValid]

section Records

variable [PythonRuntime]

/-! ## Attributes -/

/-- Valid items with keys that were not seen are kept. -/
theorem canonicalItems_self {seen : List Text} {items : List (Text × Text)}
    (keys : ∀ item ∈ items,
      attributeKeyPattern.fullmatch item.1 ∧ item.1.length ≤ 64)
    (values : ∀ item ∈ items, normalizeAttributeValue item.2 = .ok item.2)
    (distinct : (items.map Prod.fst).Nodup)
    (fresh : ∀ key ∈ items.map Prod.fst, key ∉ seen) :
    canonicalItems seen items = .ok items := by
  induction items generalizing seen with
  | nil => rfl
  | cons item rest ih =>
      rcases item with ⟨key, value⟩
      rw [List.forall_mem_cons] at keys values
      rw [List.map_cons, List.nodup_cons] at distinct
      rw [List.map_cons, List.forall_mem_cons] at fresh
      have later : canonicalItems (key :: seen) rest = .ok rest := by
        refine ih keys.2 values.2 distinct.2 fun other member => ?_
        rw [List.mem_cons, not_or]
        exact ⟨fun same => distinct.1 (same ▸ member), fresh.2 other member⟩
      have unseen : seen.contains key = false := by
        simpa using fresh.1
      simp only [canonicalItems, keys.1.1, keys.1.2, decide_true, unseen,
        Bool.not_false, require_true, ok_bind, values.1, later]
      rfl

theorem canonicalAttributes_self {items : List (Text × Text)}
    (valid : AttributesValid items) :
    canonicalAttributes items = .ok items := by
  have kept := canonicalItems_self valid.keys valid.values
    (valid.sorted.imp ne_of_lt) fun _ _ => List.not_mem_nil
  have ordered : items.Pairwise attributeLe :=
    (List.pairwise_map.mp valid.sorted).imp le_of_lt
  simp only [canonicalAttributes, valid.count, decide_true, require_true,
    ok_bind, kept, valid.total, ordered.insertionSort_eq]
  rfl

theorem InventoryAttributes.create_self (attributes : InventoryAttributes) :
    InventoryAttributes.create attributes.items = .ok attributes := by
  have certified := certify_ok (fun _ => canonicalAttributes_valid)
    (canonicalAttributes_self attributes.valid)
  simp only [create, certified, Except.map]

/-! ## Records -/

theorem InventoryRecord.construct_self (record : InventoryRecord) :
    InventoryRecord.construct record.toInventoryFields = .ok record := by
  rw [construct_eq_ok]
  simp only [InventoryFields.normalize, record.valid.sku, record.valid.name,
    record.valid.quantity, record.valid.unitPrice,
    record.valid.sourceRecordKey, ok_bind]
  rfl

end Records

end ParityGrid.Domain
