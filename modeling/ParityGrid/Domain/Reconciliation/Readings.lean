import ParityGrid.Domain.Reconciliation.Documents
import ParityGrid.Foundation.Numerals

/-!
# What a record is read from

A payload that normalizes to a record holds each field of the record, spelled
in some way: texts up to normalization, instants up to their offset and the
digits of their fraction, attributes in any order or not at all.
-/

namespace ParityGrid.Domain

open Foundation

/-! ## Spellings of an instant -/

theorem readDigits_eq_some {width value : Nat} {t rest : Text}
    (read : readDigits width t = some (value, rest)) :
    t = zeroPadded width value ++ rest := by
  simp only [readDigits] at read
  split at read
  · rename_i digits
    rw [Bool.and_eq_true, decide_eq_true_eq] at digits
    cases read
    have padded := zeroPadded_numeral digits.2
    rw [digits.1] at padded
    rw [padded, List.take_append_drop]
  · cases read

theorem readPoint_eq_some {c : CodePoint} {t rest : Text}
    (read : readPoint c t = some rest) : t = c :: rest := by
  cases t with
  | nil => cases read
  | cons d others =>
      simp only [readPoint] at read
      split at read
      · rename_i same
        cases read
        rw [same]
      · cases read

/-- What is read up to a mark is a number before the mark. -/
theorem number_of_bind {α : Type} {width : Nat} {mark : CodePoint} {t : Text}
    {f : Nat × Text → Option α} {next : Nat → Text → Option α} {value : α}
    (read : (readDigits width t).bind f = some value)
    (marked : ∀ n rest, f (n, rest) = (readPoint mark rest).bind (next n)) :
    ∃ n rest, t = zeroPadded width n ++ mark :: rest ∧
      next n rest = some value := by
  obtain ⟨⟨n, _⟩, digits, ends⟩ := Option.bind_eq_some_iff.mp read
  rw [marked] at ends
  obtain ⟨rest, point, ends⟩ := Option.bind_eq_some_iff.mp ends
  rw [readDigits_eq_some digits, readPoint_eq_some point]
  exact ⟨n, rest, rfl, ends⟩

/-- The fraction of a second, read with all its digits or some. -/
theorem readFraction_eq_some {value : Nat} {t rest : Text}
    (read : readFraction t = some (value, rest)) :
    ∃ digits, digits.length ≤ 7 ∧ t = digits ++ rest ∧
      (digits.length = 7 → digits = point '.' :: zeroPadded 6 value) := by
  cases t with
  | nil =>
      cases read
      exact ⟨[], by decide, rfl, fun long => absurd long (by decide)⟩
  | cons c others =>
      simp only [readFraction] at read
      split at read
      · rename_i dot
        split at read
        · rename_i count
          simp only [Bool.and_eq_true, decide_eq_true_eq] at count
          cases read
          refine ⟨c :: others.takeWhile isDigit, ?_, ?_, ?_⟩
          · rw [List.length_cons]
            omega
          · rw [List.cons_append]
            refine congrArg _ ?_
            have dropped : others.drop (others.takeWhile isDigit).length =
                others.dropWhile isDigit := by
              have rest : (others.takeWhile isDigit ++
                  others.dropWhile isDigit).drop
                    (others.takeWhile isDigit).length =
                  others.dropWhile isDigit := List.drop_left
              rwa [List.takeWhile_append_dropWhile] at rest
            rw [dropped, List.takeWhile_append_dropWhile]
          · intro long
            have six : (others.takeWhile isDigit).length = 6 := by
              rw [List.length_cons] at long
              omega
            have padded := zeroPadded_numeral
              (List.all_takeWhile (l := others) (p := isDigit))
            rw [six] at padded
            rw [six, Nat.sub_self, Nat.pow_zero, Nat.mul_one, padded, dot]
        · cases read
      · cases read
        exact ⟨[], by decide, rfl, fun long => absurd long (by decide)⟩

/-- The offset `Z` is the one whose text ends so. -/
theorem readOffset_eq_some {t : Text} {offset : OffsetText}
    (read : readOffset t = some offset) :
    (t = [point 'Z'] ∧ offset = .utc) ∨
      t ≠ [] ∧ t.getLast? ≠ some (point 'Z') := by
  cases t with
  | nil => cases read
  | cons c rest =>
      simp only [readOffset] at read
      split at read
      · rename_i zone
        split at read
        · rename_i empty
          cases read
          exact .inl ⟨by rw [zone, empty], rfl⟩
        · cases read
      · split at read
        · simp only [Option.bind_eq_bind, Option.bind_eq_some_iff] at read
          obtain ⟨⟨hours, first⟩, hoursRead, second, colonRead,
            ⟨minutes, third⟩, minutesRead, read⟩ := read
          split at read
          · rename_i empty
            dsimp only at empty colonRead minutesRead
            rw [readDigits_eq_some hoursRead, readPoint_eq_some colonRead,
              readDigits_eq_some minutesRead, empty]
            refine .inr ⟨List.cons_ne_nil _ _, ?_⟩
            have digit : digitPoint (minutes % 10) ≠ point 'Z' := by
              intro same
              have values := congrArg Fin.val same
              rw [digitPoint, Fin.val_ofNat] at values
              have zone : (point 'Z').val = 90 := rfl
              omega
            simpa [zeroPadded, fixedWidth] using digit
          · cases read
        · cases read

theorem Civil.minusOffset_zero {civil : Civil} (valid : civil.isValid) :
    civil.minusOffset 0 = some civil := by
  have ranges := Civil.isValid_iff.mp valid
  have total : (((civil.hour : Int) * 60 + civil.minute - 0).toNat) =
      civil.hour * 60 + civil.minute := by
    omega
  simp only [minusOffset]
  rw [if_neg (by omega), if_neg (by omega), Option.map_some, total]
  have hour : (civil.hour * 60 + civil.minute) / 60 = civil.hour := by omega
  have minute : (civil.hour * 60 + civil.minute) % 60 = civil.minute := by
    omega
  rw [hour, minute]

/-- The length and the end of a text that spells an instant canonically. -/
def isUtcSpelling (t : Text) : Bool :=
  t.length == 27 && t.getLast? == some (point 'Z')

theorem UtcTimestamp.toText_isUtcSpelling (timestamp : UtcTimestamp) :
    isUtcSpelling timestamp.toText := by
  rw [isUtcSpelling, Bool.and_eq_true, beq_iff_eq, beq_iff_eq]
  constructor
  · simp [toText]
  · exact List.getLast?_concat

/-- A timestamp is printed as it was spelled when it was spelled so. -/
theorem UtcTimestamp.parse_isUtcSpelling {value : Text}
    {timestamp : UtcTimestamp}
    (parsed : UtcTimestamp.parse value = .ok timestamp)
    (spelled : isUtcSpelling value) : timestamp.toText = value := by
  rw [isUtcSpelling, Bool.and_eq_true, beq_iff_eq, beq_iff_eq] at spelled
  simp only [parse] at parsed
  split at parsed
  · cases parsed
  · rename_i civil offset matched
    obtain ⟨year, _, value_, months⟩ := number_of_bind matched fun _ _ => rfl
    obtain ⟨month, _, rfl, days⟩ := number_of_bind months fun _ _ => rfl
    obtain ⟨day, _, rfl, hours⟩ := number_of_bind days fun _ _ => rfl
    obtain ⟨hour, _, rfl, minutes⟩ := number_of_bind hours fun _ _ => rfl
    obtain ⟨minute, _, rfl, seconds⟩ := number_of_bind minutes fun _ _ => rfl
    obtain ⟨⟨second, _⟩, secondRead, fraction⟩ :=
      Option.bind_eq_some_iff.mp seconds
    obtain ⟨⟨microsecond, rest⟩, fractionRead, zones⟩ :=
      Option.bind_eq_some_iff.mp fraction
    obtain ⟨zone, zoneRead, ends⟩ := Option.bind_eq_some_iff.mp zones
    cases ends
    obtain ⟨digits, few, form, whole⟩ := readFraction_eq_some fractionRead
    rw [readDigits_eq_some secondRead, form] at value_
    rcases readOffset_eq_some zoneRead with ⟨rfl, rfl⟩ | ⟨nonempty, apart⟩
    · have seven : digits.length = 7 := by
        have total := spelled.1
        rw [value_] at total
        simp only [List.length_append, List.length_cons, zeroPadded_length,
          List.length_nil] at total
        omega
      rw [whole seven] at value_
      split at parsed
      · cases parsed
      · rename_i minutes known
        cases known
        split at parsed
        · rename_i valid
          split at parsed
          · cases parsed
          · rename_i moved
            cases parsed
            rw [Civil.minusOffset_zero valid, Option.some.injEq] at moved
            subst moved
            rw [value_, toText]
            simp only [List.append_assoc, List.cons_append]
        · cases parsed
    · have last := spelled.2
      rw [value_] at last
      simp only [← List.cons_append, ← List.append_assoc] at last
      rw [List.getLast?_append_of_ne_nil _ nonempty] at last
      exact absurd last apart

/-! ## Spellings of a record -/

section Readings

variable [PythonRuntime]

/-- A text without lone surrogates whose normal form is the given one. -/
def Spells (raw value : Text) : Prop :=
  isUnicode raw ∧ nfc raw = value

/-- What a payload says of each field of its record. -/
structure ReadsRecord (payload : Payload) (record : InventoryRecord) :
    Prop where
  sku : payload.lookup (text "sku") = some (.string record.sku)
  sourceRecordKey : ∃ raw,
    payload.lookup (text "source_record_key") = some (.string raw)
  name : ∃ raw, payload.lookup (text "name") = some (.string raw) ∧
    Spells raw record.name
  quantity : payload.lookup (text "quantity") = some (.int record.quantity)
  updatedAt : ∃ raw value,
    payload.lookup (text "updated_at") = some (.string raw) ∧
      Spells raw value ∧ UtcTimestamp.parse value = .ok record.updatedAt
  unitPrice : ∃ price currency amount,
    payload.lookup (text "unit_price") = some (.object price) ∧
      price.lookup (text "currency") = some (.string currency) ∧
      price.lookup (text "amount") = some (.string amount) ∧
      Spells currency record.unitPrice.currency.value ∧
      Spells amount (amountText record.unitPrice.minorUnitExponent
        record.unitPrice.minorUnits)
  attributes :
    (payload.lookup (text "attributes") = none ∧
      record.attributes.items = []) ∨
    ∃ (items : Payload) (raws : List (Text × Text)),
      payload.lookup (text "attributes") = some (.object items) ∧
      sortedBy Prod.fst items =
        raws.map (fun item => (item.1, JsonValue.string item.2)) ∧
      (∀ item ∈ raws, isUnicode item.2) ∧
      raws.map (fun item => (item.1, nfc item.2)) = record.attributes.items

theorem normalizedLeafText_spells {raw value : Text}
    (accepted : normalizedLeafText raw = .ok value) : Spells raw value := by
  simp only [normalizedLeafText, bind_eq_ok] at accepted
  obtain ⟨bytes, encodes, _, _, same⟩ := accepted
  cases same
  refine ⟨?_, rfl⟩
  rw [← PythonRuntime.nfc_isUnicode]
  simp only [encodeUtf8] at encodes
  split at encodes
  · assumption
  · cases encodes

theorem FixedPart.path_mem {paths : List Text} {part : Projection}
    {path : Text} {leaf : ComparisonValue} (fixed : FixedPart paths part)
    (member : (path, leaf) ∈ part) : path ∈ paths :=
  fixed.paths.subset (List.mem_map_of_mem member)

/-- A text leaf was projected from a text that spells it. -/
theorem mem_textField {path : String} {value : Option JsonValue}
    {part : Projection} {entry : Text} {leaf : Text}
    (projected : projectField (projectText ComparisonValue.textValue) path
      value = .ok part)
    (member : (entry, ComparisonValue.text leaf) ∈ part) :
    ∃ raw, value = some (.string raw) ∧ Spells raw leaf := by
  rcases projectField_parts projected with
    rfl | ⟨present, made, rfl, projects, rfl⟩
  · cases member
  · rw [List.mem_singleton, Prod.mk.injEq] at member
    obtain ⟨_, rfl⟩ := member
    rcases projectText_form projects with marks | ⟨raw, rfl, accepted⟩
    · exact absurd marks (by simp [ComparisonValue.isMarker,
        ComparisonValue.kind])
    · simp only [ComparisonValue.textValue, map_eq_ok] at accepted
      obtain ⟨value, accepts, same⟩ := accepted
      cases same
      exact ⟨raw, rfl, normalizedLeafText_spells accepts⟩

theorem mem_quantityField {value : Option JsonValue} {part : Projection}
    {entry : Text} {number : Int} {inRange : isInt64 number}
    (projected : projectField projectQuantity "quantity" value = .ok part)
    (member : (entry, ComparisonValue.integer number inRange) ∈ part) :
    value = some (.int number) := by
  rcases projectField_parts projected with
    rfl | ⟨present, made, rfl, projects, rfl⟩
  · cases member
  · rw [List.mem_singleton, Prod.mk.injEq] at member
    obtain ⟨_, rfl⟩ := member
    unfold projectQuantity at projects
    split at projects
    · cases projects
    · simp only [ComparisonValue.integerValue] at projects
      split at projects <;> cases projects
      rfl
    · obtain ⟨_, _, impossible, _⟩ :=
        ComparisonValue.wrongTypeOf_form projects
      cases impossible

/-- Both halves of a price were projected from texts of one mapping. -/
theorem mem_unitPrice {payload : Payload} {part : Projection}
    {currency amount : Text}
    (projected : projectUnitPrice payload = .ok part)
    (currencyLeaf :
      (text "unit_price/currency", ComparisonValue.text currency) ∈ part)
    (amountLeaf :
      (text "unit_price/amount", ComparisonValue.text amount) ∈ part) :
    ∃ price rawCurrency rawAmount,
      payload.lookup (text "unit_price") = some (.object price) ∧
        price.lookup (text "currency") = some (.string rawCurrency) ∧
        price.lookup (text "amount") = some (.string rawAmount) ∧
        Spells rawCurrency currency ∧ Spells rawAmount amount := by
  simp only [projectUnitPrice] at projected
  split at projected
  · cases projected
    cases currencyLeaf
  · cases projected
    simp at currencyLeaf
  · rename_i price found
    simp only [bind_eq_ok] at projected
    obtain ⟨first, firstPart, second, secondPart, same⟩ := projected
    cases same
    have apart : text "unit_price/currency" ≠ text "unit_price/amount" := by
      decide
    have inFirst := (List.mem_append.mp currencyLeaf).resolve_right
      fun inSecond => apart (List.mem_singleton.mp
        ((textField_part (by decide) secondPart).paths.subset
          (List.mem_map_of_mem inSecond)))
    have inSecond := (List.mem_append.mp amountLeaf).resolve_left
      fun inFirst => apart (List.mem_singleton.mp
        ((textField_part (by decide) firstPart).paths.subset
          (List.mem_map_of_mem inFirst))).symm
    obtain ⟨rawCurrency, currencyFound, currencySpells⟩ :=
      mem_textField firstPart inFirst
    obtain ⟨rawAmount, amountFound, amountSpells⟩ :=
      mem_textField secondPart inSecond
    exact ⟨price, rawCurrency, rawAmount, found, currencyFound, amountFound,
      currencySpells, amountSpells⟩
  · simp only [bind_eq_ok] at projected
    obtain ⟨leaf, made, same⟩ := projected
    cases same
    rw [List.mem_singleton, Prod.mk.injEq] at currencyLeaf
    exact absurd currencyLeaf.1 (by decide)

/-- Unmarked leaves of items were projected from their texts. -/
theorem attributeLeaves_raws {items : List (Text × JsonValue)}
    {part : Projection}
    (leaves : part.map (fun entry => (entry.1, Except.ok entry.2)) =
      items.map fun item => (attributePath item.1,
        projectText ComparisonValue.attributeTextValue item.2))
    (unmarked : ∀ entry ∈ part, entry.2.isMarker = false) :
    ∃ raws : List (Text × Text),
      items = raws.map (fun item => (item.1, JsonValue.string item.2)) ∧
      (∀ item ∈ raws, isUnicode item.2) ∧
      part = raws.map fun item => attributeLeaf (item.1, nfc item.2) := by
  induction items generalizing part with
  | nil =>
      rw [List.map_nil, List.map_eq_nil_iff] at leaves
      exact ⟨[], rfl, by simp, leaves⟩
  | cons item rest ih =>
      cases part with
      | nil => cases leaves
      | cons entry others =>
          rw [List.map_cons, List.map_cons, List.cons.injEq, Prod.mk.injEq]
            at leaves
          obtain ⟨⟨path, leaf⟩, later⟩ := leaves
          rw [List.forall_mem_cons] at unmarked
          obtain ⟨raws, rfl, unicode, rfl⟩ := ih later unmarked.2
          obtain ⟨key, value⟩ := item
          rcases projectText_form leaf.symm with marks | ⟨raw, same, accepted⟩
          · rw [unmarked.1] at marks
            cases marks
          · simp only [ComparisonValue.attributeTextValue, map_eq_ok]
              at accepted
            obtain ⟨value', accepts, made⟩ := accepted
            have spells := normalizedLeafText_spells accepts
            refine ⟨(key, raw) :: raws, ?_, ?_, ?_⟩
            · dsimp only at same
              rw [List.map_cons, same]
            · exact List.forall_mem_cons.mpr ⟨spells.1, unicode⟩
            · rw [List.map_cons]
              refine congrArg (· :: _) (Prod.ext path ?_)
              rw [← made, ← spells.2]
              rfl

omit [PythonRuntime] in
theorem attributeLeaf_injective : Function.Injective attributeLeaf := by
  intro left right leaves
  simp only [attributeLeaf, Prod.mk.injEq,
    ComparisonValue.attributeText.injEq] at leaves
  exact Prod.ext (attributePath_injective leaves.1) leaves.2

/-- Sorted items with normal values are the items of their record. -/
theorem canonicalAttributes_sorted {items : List (Text × Text)}
    {attributes : InventoryAttributes}
    (sorts : items.Pairwise fun left right => left.1 ≤ right.1)
    (normal : ∀ item ∈ items, nfc item.2 = item.2)
    (accepted : canonicalAttributes items = .ok attributes.items) :
    items = attributes.items := by
  have perm := canonicalAttributes_normal normal accepted
  have strict := List.pairwise_map.mp attributes.valid.sorted
  refine perm.symm.eq_of_pairwise ?_ sorts (strict.imp le_of_lt)
  intro left right inItems inAttributes first second
  have keys := attributes.valid.sorted.imp ne_of_lt
  exact List.inj_on_of_nodup_map keys (perm.mem_iff.mpr inItems) inAttributes
    (le_antisymm first second)

/-- The record is created from what the parsed leaves hold. -/
theorem createRecord_reads {observation : SourceObservation}
    {payload : Payload} {name : Text} {quantity : Int}
    {inRange : isInt64 quantity} {updated : UtcTimestamp} {price : Money}
    {currency : Text} {attributes : Projection}
    {normalized : NormalizedRecord}
    (returned : createRecord observation payload
      (parsedFields name quantity inRange updated currency price ++
        attributes) = .ok (.record normalized)) :
    payload.lookup (text "sku") = some (.string normalized.record.sku) ∧
      (∃ raw, payload.lookup (text "source_record_key") =
        some (.string raw)) ∧
      normalized.record.name = nfc name ∧
      normalized.record.quantity = quantity ∧
      normalized.record.unitPrice = price ∧
      normalized.record.updatedAt = updated ∧
      canonicalAttributes (attributeItems attributes) =
        .ok normalized.record.attributes.items := by
  simp only [createRecord, bind_eq_ok] at returned
  obtain ⟨arguments, reads, returned⟩ := returned
  split at returned
  · rename_i record created
    simp only [bind_eq_ok] at returned
    obtain ⟨document, _, same⟩ := returned
    cases same
    obtain ⟨nameLeaf, quantityLeaf, amountLeaf, updatedLeaf⟩ :=
      parsedFields_lookup name quantity inRange updated currency price
        attributes
    simp only [recordArguments, nameLeaf, quantityLeaf, amountLeaf,
      updatedLeaf] at reads
    obtain ⟨sku, named, counted, costs, stamped, _, _, listed⟩ :=
      InventoryRecord.create_eq_ok created
    split at reads
    · rename_i skuFound nameRead quantityRead amountRead updatedRead keyFound
      cases reads
      cases nameRead
      cases quantityRead
      cases amountRead
      cases updatedRead
      refine ⟨?_, ⟨_, keyFound⟩, normalizeBusinessText_eq named, counted,
        costs, stamped, listed⟩
      rw [skuFound]
      exact congrArg (fun t => some (JsonValue.string t)) sku.symm
    · cases reads
  · split at returned
    · simp only [bind_eq_ok] at returned
      obtain ⟨field, _, quarantines⟩ := returned
      obtain ⟨found, _, impossible⟩ := fmap_eq_ok.mp quarantines
      cases impossible
    · cases returned

/-- The attributes of a record are those of its payload, or none. -/
theorem attributes_read {payload : Payload} {part : Projection}
    {attributes : InventoryAttributes}
    (projects : projectAttributes payload = .ok (part, none))
    (unmarked : ∀ entry ∈ part, entry.2.isMarker = false)
    (listed : canonicalAttributes (attributeItems part) =
      .ok attributes.items) :
    (payload.lookup (text "attributes") = none ∧ attributes.items = []) ∨
    ∃ (items : Payload) (raws : List (Text × Text)),
      payload.lookup (text "attributes") = some (.object items) ∧
      sortedBy Prod.fst items =
        raws.map (fun item => (item.1, JsonValue.string item.2)) ∧
      (∀ item ∈ raws, isUnicode item.2) ∧
      raws.map (fun item => (item.1, nfc item.2)) = attributes.items := by
  have kind := projectAttributes_part projects
  have leaves := attributeLeaves_of_part kind unmarked
  cases kind with
  | absent absent empty =>
      have none_ : canonicalAttributes (attributeItems []) = .ok [] := rfl
      rw [empty, none_, Except.ok.injEq] at listed
      exact .inl ⟨absent, listed.symm⟩
  | marker _ leaf marks single =>
      have plain := unmarked _ (single ▸ List.mem_singleton_self _)
      rw [marks] at plain
      cases plain
  | items items found _ projected =>
      obtain ⟨raws, form, unicode, rfl⟩ :=
        attributeLeaves_raws projected unmarked
      refine .inr ⟨items, raws, found, form, unicode, ?_⟩
      obtain ⟨same, _⟩ := attributeItems_form leaves
      rw [← Function.comp_def attributeLeaf, ← List.map_map] at same listed
      have read := List.map_injective_iff.mpr attributeLeaf_injective same
      rw [read] at listed
      refine canonicalAttributes_sorted ?_ ?_ listed
      · have sorts := sortedBy_pairwise Prod.fst items
        rw [form, List.pairwise_map] at sorts
        exact List.pairwise_map.mpr sorts
      · rw [List.forall_mem_map]
        exact fun item _ => PythonRuntime.nfc_nfc item.2

/-- Every field of a normalized record was read from its payload. -/
theorem normalizePayload_reads {observation : SourceObservation}
    {payload : Payload} {normalized : NormalizedRecord}
    (returned : normalizePayload observation payload =
      .ok (.record normalized)) :
    ReadsRecord payload normalized.record := by
  obtain ⟨name, quantity, inRange, updated, currency, amount, attributes,
    normal, projected, projects, unmarked, leaves, projection⟩ :=
      normalizePayload_projects returned
  obtain ⟨money, timestamp, parses, stamped, created⟩ :=
    normalizeProjection_parses leaves projection
  obtain ⟨sku, key, named, counted, rfl, rfl, listed⟩ :=
    createRecord_reads created
  simp only [projectPayload, bind_eq_ok] at projected
  obtain ⟨namePart, nameProjects, quantityPart, quantityProjects, updatedPart,
    updatedProjects, pricePart, priceProjects, ⟨other, invalid⟩,
    otherProjects, same⟩ := projected
  rw [projects, Except.ok.injEq, Prod.mk.injEq] at otherProjects
  obtain ⟨rfl, rfl⟩ := otherProjects
  simp only [pure, Except.pure, Except.ok.injEq, Prod.mk.injEq, and_true,
    List.append_cancel_right_eq] at same
  simp only [projectLeaf, if_true] at quantityProjects
  have plainName : "name" ≠ "quantity" := by decide
  have plainUpdated : "updated_at" ≠ "quantity" := by decide
  simp only [projectLeaf, plainName, if_false] at nameProjects
  simp only [projectLeaf, plainUpdated, if_false] at updatedProjects
  have nameFixed := textField_part (by decide) nameProjects
  have quantityFixed := quantityField_part quantityProjects
  have updatedFixed := textField_part (by decide) updatedProjects
  have priceFixed := projectUnitPrice_part priceProjects
  have inParts {entry : Text × ComparisonValue}
      (member : entry ∈ rawLeaves name quantity inRange updated currency
        amount) :
      ((entry ∈ namePart ∨ entry ∈ quantityPart) ∨ entry ∈ updatedPart) ∨
        entry ∈ pricePart := by
    rw [← same] at member
    simpa only [List.mem_append] using member
  have nameLeaf : (text "name", .text name) ∈ namePart := by
    rcases inParts List.mem_cons_self with
      ((member | member) | member) | member
    · exact member
    · exact absurd (quantityFixed.path_mem member) (by decide)
    · exact absurd (updatedFixed.path_mem member) (by decide)
    · exact absurd (priceFixed.path_mem member) (by decide)
  have quantityLeaf : (text "quantity", .integer quantity inRange) ∈
      quantityPart := by
    rcases inParts (List.mem_cons_of_mem _ List.mem_cons_self) with
      ((member | member) | member) | member
    · exact absurd (nameFixed.path_mem member) (by decide)
    · exact member
    · exact absurd (updatedFixed.path_mem member) (by decide)
    · exact absurd (priceFixed.path_mem member) (by decide)
  have updatedLeaf : (text "updated_at", .text updated) ∈ updatedPart := by
    rcases inParts (List.mem_cons_of_mem _
        (List.mem_cons_of_mem _ List.mem_cons_self)) with
      ((member | member) | member) | member
    · exact absurd (nameFixed.path_mem member) (by decide)
    · exact absurd (quantityFixed.path_mem member) (by decide)
    · exact member
    · exact absurd (priceFixed.path_mem member) (by decide)
  have inPrice {path : Text} {leaf : ComparisonValue}
      (member : (path, leaf) ∈ rawLeaves name quantity inRange updated
        currency amount)
      (outside : path ∉ [text "name", text "quantity", text "updated_at"]) :
      (path, leaf) ∈ pricePart := by
    rcases inParts member with ((member | member) | member) | member
    · exact absurd (List.mem_singleton.mp (nameFixed.path_mem member))
        fun same => outside (by rw [same]; decide)
    · exact absurd (List.mem_singleton.mp (quantityFixed.path_mem member))
        fun same => outside (by rw [same]; decide)
    · exact absurd (List.mem_singleton.mp (updatedFixed.path_mem member))
        fun same => outside (by rw [same]; decide)
    · exact member
  obtain ⟨rawName, nameFound, nameSpells⟩ :=
    mem_textField nameProjects nameLeaf
  obtain ⟨rawUpdated, updatedFound, updatedSpells⟩ :=
    mem_textField updatedProjects updatedLeaf
  have currencyLeaf : (text "unit_price/currency", .text currency) ∈
      pricePart :=
    inPrice (by simp [rawLeaves]) (by decide)
  have amountLeaf : (text "unit_price/amount", .text amount) ∈ pricePart :=
    inPrice (by simp [rawLeaves]) (by decide)
  obtain ⟨price, rawCurrency, rawAmount, priceFound, currencyFound,
    amountFound, currencySpells, amountSpells⟩ :=
      mem_unitPrice priceProjects currencyLeaf amountLeaf
  have currencyValue := Money.parse_currency parses
  have amountValue : amountText normalized.record.unitPrice.minorUnitExponent
      normalized.record.unitPrice.minorUnits = amount := by
    have whole := Money.parse_toText parses
    rw [Money.toText, currencyValue, List.append_cancel_left_eq,
      List.cons.injEq] at whole
    exact whole.2
  exact
    { sku
      sourceRecordKey := key
      name := ⟨rawName, nameFound, nameSpells.1, by
        rw [nameSpells.2, named, normal]⟩
      quantity := by
        rw [counted]
        exact mem_quantityField quantityProjects quantityLeaf
      updatedAt := ⟨rawUpdated, updated, updatedFound, updatedSpells, stamped⟩
      unitPrice := ⟨price, rawCurrency, rawAmount, priceFound, currencyFound,
        amountFound, currencyValue ▸ currencySpells,
        amountValue ▸ amountSpells⟩
      attributes := attributes_read projects unmarked listed }

theorem normalizeObservation_reads {observation : SourceObservation}
    {payload : Payload} {distinct : (JsonValue.object payload).keysDistinct}
    {normalized : NormalizedRecord}
    (observed : observation.payload = .mapping payload distinct)
    (returned : normalizeObservation observation =
      .ok (.record normalized)) :
    ReadsRecord payload normalized.record := by
  simp only [normalizeObservation, observed] at returned
  split at returned
  · obtain ⟨found, _, impossible⟩ := fmap_eq_ok.mp returned
    cases impossible
  · exact normalizePayload_reads returned

end Readings

end ParityGrid.Domain
