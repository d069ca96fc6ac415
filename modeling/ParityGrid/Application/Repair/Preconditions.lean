import ParityGrid.Application.Repair.Payloads
import ParityGrid.Domain.Reconciliation.FieldAgreement
import ParityGrid.Domain.Reconciliation.Readings
import ParityGrid.Foundation.JsonPairs
import ParityGrid.Foundation.JsonSame

/-!
# When a precondition holds on the observed payload

The expectation of a repair is rendered from a normalized record, while the
target takes the digest of the payload as it was spelled.  The digests agree
on the payloads that were spelled as they are rendered.
-/

namespace ParityGrid.Application

open Foundation Domain
open Demo (canonicalTargetPayloadSha256 preconditionHolds validateRecordValue
  validateRecordFields validateRecordItems)

/-! ## Bounded payloads -/

theorem validateRecordFields_eq_ok {depth : Nat}
    {fields : List (Text × JsonValue)} :
    validateRecordFields depth fields = .ok () ↔
      ∀ entry ∈ fields, validateRecordValue depth entry.2 = .ok () := by
  induction fields with
  | nil => simp [validateRecordFields, pure, Except.pure]
  | cons entry rest ih =>
      obtain ⟨key, value⟩ := entry
      simp only [validateRecordFields, check_bind_eq_ok, ih,
        List.forall_mem_cons]

theorem validateRecordItems_eq_ok {depth : Nat} {items : List JsonValue} :
    validateRecordItems depth items = .ok () ↔
      ∀ item ∈ items, validateRecordValue depth item = .ok () := by
  induction items with
  | nil => simp [validateRecordItems, pure, Except.pure]
  | cons item rest ih =>
      simp only [validateRecordItems, check_bind_eq_ok, ih,
        List.forall_mem_cons]

theorem validateRecordValue_string {depth : Nat} {value : Text} :
    validateRecordValue depth (.string value) = .ok () ↔
      value.length ≤ 1024 := by
  rw [validateRecordValue, require_eq_ok, decide_eq_true_eq]

theorem validateRecordValue_int {depth : Nat} {value : Int} :
    validateRecordValue depth (.int value) = .ok () ↔
      -(2 ^ 53) ≤ value ∧ value ≤ 2 ^ 53 := by
  rw [validateRecordValue, require_eq_ok, Bool.and_eq_true, decide_eq_true_eq,
    decide_eq_true_eq]

theorem validateRecordValue_object {depth : Nat}
    {fields : List (Text × JsonValue)} :
    validateRecordValue depth (.object fields) = .ok () ↔
      depth < 4 ∧ fields.length ≤ 32 ∧
        ∀ entry ∈ fields, validateRecordValue (depth + 1) entry.2 = .ok () := by
  simp only [validateRecordValue, check_bind_eq_ok, require_eq_ok,
    decide_eq_true_eq, validateRecordFields_eq_ok]

theorem validateRecordValue_array {depth : Nat} {items : List JsonValue} :
    validateRecordValue depth (.array items) = .ok () ↔
      depth < 4 ∧ items.length ≤ 64 ∧
        ∀ item ∈ items, validateRecordValue (depth + 1) item = .ok () := by
  simp only [validateRecordValue, check_bind_eq_ok, require_eq_ok,
    decide_eq_true_eq, validateRecordItems_eq_ok]

theorem validateRecordValue_float {depth : Nat} {value : FloatText} :
    validateRecordValue depth (.scalar (.float value)) ≠ .ok () := by
  simp [validateRecordValue, bind_eq_ok]

mutual

/-- A bounded value nests no deeper than the bound. -/
theorem validateRecordValue_fits : (value : JsonValue) → {depth : Nat} →
    validateRecordValue depth value = .ok () → value.fits (4 - depth)
  | .scalar .null, _, _ => by simp only [JsonValue.fits]
  | .scalar (.bool _), _, _ => by simp only [JsonValue.fits]
  | .scalar (.int number), _, valid => by
      have bounds := validateRecordValue_int.mp valid
      have ordinary : intReprError number = none :=
        intReprError_ordinary (by omega)
      simp only [JsonValue.fits, ordinary, Option.isNone_none]
  | .scalar (.float _), _, valid => absurd valid validateRecordValue_float
  | .string _, _, _ => by simp only [JsonValue.fits]
  | .array items, depth, valid => by
      obtain ⟨shallow, _, each⟩ := validateRecordValue_array.mp valid
      have room : 4 - depth = (4 - (depth + 1)) + 1 := by omega
      rw [room, JsonValue.fits]
      exact validateRecordItems_fits items each
  | .object fields, depth, valid => by
      obtain ⟨shallow, _, each⟩ := validateRecordValue_object.mp valid
      have room : 4 - depth = (4 - (depth + 1)) + 1 := by omega
      rw [room, JsonValue.fits]
      exact validateRecordFields_fits fields each

theorem validateRecordItems_fits : (items : List JsonValue) →
    {depth : Nat} →
    (∀ item ∈ items, validateRecordValue depth item = .ok ()) →
    JsonValue.fitsItems (4 - depth) items
  | [], _, _ => by simp only [JsonValue.fitsItems]
  | item :: rest, _, each => by
      rw [List.forall_mem_cons] at each
      rw [JsonValue.fitsItems, Bool.and_eq_true]
      exact ⟨validateRecordValue_fits item each.1,
        validateRecordItems_fits rest each.2⟩

theorem validateRecordFields_fits : (fields : List (Text × JsonValue)) →
    {depth : Nat} →
    (∀ entry ∈ fields, validateRecordValue depth entry.2 = .ok ()) →
    JsonValue.fitsFields (4 - depth) fields
  | [], _, _ => by simp only [JsonValue.fitsFields]
  | (_, value) :: rest, _, each => by
      rw [List.forall_mem_cons] at each
      rw [JsonValue.fitsFields, Bool.and_eq_true]
      exact ⟨validateRecordValue_fits value each.1,
        validateRecordFields_fits rest each.2⟩

end

/-! ## Digests -/

section Digests

variable [JsonRuntime]

/-- The fields that a precondition describes. -/
def businessFields (payload : List (Text × JsonValue)) :
    List (Text × JsonValue) :=
  payload.filter fun field => field.1 ≠ text "source_record_key"

/-- What is hashed for a payload. -/
def targetPreimage (payload : List (Text × JsonValue)) : Bytes :=
  encodeAscii (text "paritygrid:target-precondition:v1") ++
    0 :: encodeAscii (JsonValue.object (businessFields payload)).sortKeys.render

/-- A digest is taken of every payload within the bounds. -/
theorem canonicalTargetPayloadSha256_eq_ok
    {payload : List (Text × JsonValue)} {digest : Text} :
    canonicalTargetPayloadSha256 payload = .ok digest ↔
      Demo.validateSourceRecordPayload payload = .ok () ∧
        digest = (sha256 (targetPreimage payload)).hex := by
  rw [canonicalTargetPayloadSha256, check_bind_eq_ok]
  refine and_congr_right fun valid => ?_
  have dumped : jsonDumps (.object (businessFields payload)) =
      .ok (JsonValue.object (businessFields payload)).sortKeys.render := by
    simp only [Demo.validateSourceRecordPayload, check_bind_eq_ok,
      validateRecordFields_eq_ok] at valid
    have fits : (JsonValue.object (businessFields payload)).fits 4 := by
      rw [JsonValue.fits]
      exact validateRecordFields_fits _ fun entry member =>
        valid.2 entry (List.mem_of_mem_filter member)
    exact jsonDumps_of_fits fits (by decide)
  rw [← businessFields]
  dsimp only
  rw [dumped, ok_bind]
  simp only [pure, Except.pure, Except.ok.injEq, targetPreimage]
  exact eq_comm

omit [JsonRuntime] in
/-- Equal preimages come from business fields that are the same JSON. -/
theorem targetPreimage_same {left right : List (Text × JsonValue)}
    (equal : targetPreimage left = targetPreimage right) :
    (JsonValue.object (businessFields left)).Same
      (.object (businessFields right)) := by
  rw [targetPreimage, targetPreimage, List.append_cancel_left_eq,
    List.cons.injEq] at equal
  exact JsonValue.render_units (encodeAscii_injOn (JsonValue.render_ascii _)
    (JsonValue.render_ascii _) equal.2)

end Digests

/-! ## Canonical spellings -/

/-- The text of a price parts at its only blank. -/
theorem toText_partition (money : Money) :
    money.toText.takeWhile (· != point ' ') = money.currency.value ∧
      (money.toText.dropWhile (· != point ' ')).drop 1 =
        amountText money.minorUnitExponent money.minorUnits := by
  have solid : ∀ c ∈ money.currency.value, (c != point ' ') = true := by
    intro c member
    rw [bne_iff_ne]
    rintro rfl
    exact money.currency.noSpace member
  rw [Money.toText, List.takeWhile_append_of_pos solid,
    List.dropWhile_append_of_pos solid]
  exact ⟨List.append_nil _, rfl⟩

theorem businessFields_lookup {payload : List (Text × JsonValue)} {key : Text}
    (other : key ≠ text "source_record_key") :
    (businessFields payload).lookup key = payload.lookup key := by
  induction payload with
  | nil => rfl
  | cons field rest ih =>
      obtain ⟨name, value⟩ := field
      rw [businessFields, List.filter_cons, List.lookup_cons]
      by_cases provenance : name = text "source_record_key"
      · have apart : (key == name) = false :=
          beq_false_of_ne fun same => other (same.trans provenance)
        rw [if_neg (by simp [provenance]), apart]
        exact ih
      · rw [if_pos (by simp [provenance]), List.lookup_cons]
        split
        · rfl
        · exact ih

theorem unitText_unicode {left right : Text} (leftUnicode : isUnicode left)
    (rightUnicode : isUnicode right)
    (same : unitText left = unitText right) : left = right :=
  utf16_injOn leftUnicode rightUnicode (unitText_inj.mp same)

/-- Items with texts for values sort as they are listed by key. -/
theorem sortKeys_texts {items : List (Text × JsonValue)}
    {texts : List (Text × Text)}
    (form : sortedBy Prod.fst items =
      texts.map fun item => (item.1, JsonValue.string item.2)) :
    (JsonValue.object items).sortKeys = .object (texts.map
      fun item => (item.1, JsonValue.string item.2)) := by
  have plain : JsonValue.sortFields items = items := by
    refine JsonValue.sortFields_eq_self fun field member => ?_
    have inSorted : _ ∈ sortedBy Prod.fst items := mem_sortedBy.mpr member
    rw [form] at inSorted
    obtain ⟨item, _, rfl⟩ := List.mem_map.mp inSorted
    exact JsonValue.sortKeys_string _
  rw [← form, JsonValue.sortKeys, plain]
  rfl

theorem amountText_length (money : Money) :
    (amountText money.minorUnitExponent money.minorUnits).length ≤ 27 := by
  have whole := money.toText_length
  rw [Money.toText, List.length_append, List.length_cons] at whole
  omega

theorem lowered_length (t : Text) : (lowered t).length ≤ 2 * t.length := by
  refine flatMap_length_le (fun c => ?_) t
  rw [loweredPoint]
  split
  · exact le_rfl
  · split <;> exact Nat.le_succ 1

section Spellings

variable [JsonRuntime]

/-- A text in normal form; the bounds of other values are checked elsewhere. -/
def isNormalText : JsonValue → Bool
  | .string t => nfc t == t
  | _ => true

/-- A text that spells an instant as it is printed. -/
def isInstantText : JsonValue → Bool
  | .string t => nfc t == t && isUtcSpelling t
  | _ => true

/-- A price without further members, both halves in normal form. -/
def isPriceObject : JsonValue → Bool
  | .object price => price.all fun half =>
      [text "currency", text "amount"].contains half.1 && isNormalText half.2
  | _ => false

/-- A mapping of texts in normal form. -/
def isAttributeObject : JsonValue → Bool
  | .object items => items.all fun item => isNormalText item.2
  | _ => false

/-- A provenance key within the bound of a record text. -/
def isBoundedText : JsonValue → Bool
  | .string t => t.length ≤ 1024
  | _ => true

/-- How each field of a payload is spelled by a repair; `none` elsewhere. -/
def fieldSpelling : List (Text × (JsonValue → Bool)) :=
  [(text "attributes", isAttributeObject), (text "name", isNormalText),
    (text "quantity", fun _ => true), (text "sku", fun _ => true),
    (text "source_record_key", isBoundedText),
    (text "unit_price", isPriceObject), (text "updated_at", isInstantText)]

/-- The payload has the fields of a repair and spells them as it does. -/
def canonicallySpelled (payload : List (Text × JsonValue)) : Bool :=
  (payload.lookup (text "attributes")).isSome &&
    payload.all fun field =>
      (fieldSpelling.lookup field.1).any fun spelled => spelled field.2

theorem canonicallySpelled_iff {payload : List (Text × JsonValue)} :
    canonicallySpelled payload ↔
      (payload.lookup (text "attributes")).isSome ∧
        ∀ field ∈ payload, ∃ spelled,
          fieldSpelling.lookup field.1 = some spelled ∧ spelled field.2 := by
  simp only [canonicallySpelled, Bool.and_eq_true, List.all_eq_true,
    Option.any_eq_true]

/-! ## The rendered effect -/

/-- The fields that are rendered for a record, provenance apart. -/
def renderedFields (content : BusinessContent) : List (Text × JsonValue) :=
  [(text "attributes", .object (content.attributes.items.map
      fun item => (item.1, .string item.2))),
    (text "name", .string content.name),
    (text "quantity", .int content.quantity),
    (text "sku", .string content.sku),
    (text "unit_price", .object
      [(text "amount", .string (amountText
          content.unitPrice.minorUnitExponent content.unitPrice.minorUnits)),
        (text "currency", .string content.unitPrice.currency.value)]),
    (text "updated_at", .string content.updatedAt.toText)]

theorem businessFields_render (effect : InventoryEffect) :
    businessFields (renderEffectPayload effect) =
      renderedFields effect.content := by
  obtain ⟨currency, amount⟩ := toText_partition effect.content.unitPrice
  rw [renderEffectPayload, currency, amount]
  rfl

/-- A field that is the same JSON as a text in normal form is that text. -/
theorem spells_same {raw value : Text} (spells : Spells raw value)
    (same : unitText raw = unitText value) : raw = value := by
  refine unitText_unicode spells.1 ?_ same
  rw [← spells.2, PythonRuntime.nfc_isUnicode]
  exact spells.1

theorem isNormalText_of_same {raw value : Text} (spells : Spells raw value)
    (same : (JsonValue.string raw).sortKeys.units =
      (JsonValue.string value).sortKeys.units) :
    isNormalText (.string raw) := by
  simp only [JsonValue.sortKeys_string, JsonValue.units,
    JsonValue.string.injEq] at same
  have equal := spells_same spells same
  rw [isNormalText, beq_iff_eq, spells.2, equal]

theorem spells_normal {raw value : Text} (spells : Spells raw value)
    (normal : isNormalText (.string raw)) : raw = value := by
  rw [isNormalText, beq_iff_eq] at normal
  rw [← spells.2, normal]

section Price

variable {price : List (Text × JsonValue)}
  {currency amount rawCurrency rawAmount : Text}
  (distinct : (price.map Prod.fst).Nodup)
  (currencyFound : price.lookup (text "currency") =
    some (.string rawCurrency))
  (amountFound : price.lookup (text "amount") = some (.string rawAmount))
  (currencySpells : Spells rawCurrency currency)
  (amountSpells : Spells rawAmount amount)

include distinct currencyFound amountFound currencySpells amountSpells

theorem isPriceObject_of_same
    (same : (JsonValue.object price).Same
      (.object [(text "amount", .string amount),
        (text "currency", .string currency)])) :
    isPriceObject (.object price) := by
  have ascii : ∀ name ∈ [text "amount", text "currency"],
      name.all isAscii := by
    decide
  have lookups := same.lookup ascii
  rw [isPriceObject, List.all_eq_true]
  rintro ⟨key, value⟩ member
  have found := (lookup_eq_some_iff_mem distinct).mpr member
  have known := lookups key
  rw [found, Option.map_some] at known
  by_cases isAmount : key = text "amount"
  · subst isAmount
    rw [amountFound, Option.some.injEq] at found
    subst found
    have known_ : [text "currency", text "amount"].contains
        (text "amount") := by
      decide
    exact Bool.and_eq_true_iff.mpr ⟨known_,
      isNormalText_of_same amountSpells (Option.some.inj known)⟩
  · by_cases isCurrency : key = text "currency"
    · subst isCurrency
      rw [currencyFound, Option.some.injEq] at found
      subst found
      have known_ : [text "currency", text "amount"].contains
          (text "currency") := by
        decide
      exact Bool.and_eq_true_iff.mpr ⟨known_,
        isNormalText_of_same currencySpells (Option.some.inj known)⟩
    · rw [List.lookup_cons, beq_false_of_ne isAmount, List.lookup_cons,
        beq_false_of_ne isCurrency] at known
      cases known

/-- A price with both halves in normal form is the rendered one. -/
theorem sortKeys_price
    (spelled : isPriceObject (.object price)) :
    (JsonValue.object price).sortKeys =
      (JsonValue.object [(text "amount", .string amount),
        (text "currency", .string currency)]).sortKeys := by
  rw [isPriceObject, List.all_eq_true] at spelled
  have halves {key : Text} {value : JsonValue}
      (found : price.lookup key = some value) :=
    Bool.and_eq_true_iff.mp (spelled _ (mem_of_lookup found))
  have names : ([text "amount", text "currency"] : List Text).Nodup := by
    decide
  refine (JsonValue.sortKeys_object_eq_iff distinct (by exact names)).mpr ?_
  intro key
  by_cases isAmount : key = text "amount"
  · subst isAmount
    rw [amountFound, spells_normal amountSpells (halves amountFound).2]
    rfl
  · by_cases isCurrency : key = text "currency"
    · subst isCurrency
      rw [currencyFound,
        spells_normal currencySpells (halves currencyFound).2]
      rfl
    · rw [List.lookup_cons, beq_false_of_ne isAmount, List.lookup_cons,
        beq_false_of_ne isCurrency]
      cases found : price.lookup key with
      | none => rfl
      | some value =>
          have known := (halves found).1
          rw [List.contains_iff_mem, List.mem_cons, List.mem_singleton]
            at known
          exact absurd known (not_or.mpr ⟨isCurrency, isAmount⟩)

/-- A price with both halves in normal form is within the bounds. -/
theorem validateRecordValue_price
    (currencyShort : currency.length ≤ 1024)
    (amountShort : amount.length ≤ 1024)
    (spelled : isPriceObject (.object price)) :
    validateRecordValue 1 (.object price) = .ok () := by
  rw [isPriceObject, List.all_eq_true] at spelled
  have named {half : Text × JsonValue} (member : half ∈ price) :
      half.1 ∈ [text "currency", text "amount"] :=
    List.contains_iff_mem.mp
      (Bool.and_eq_true_iff.mp (spelled half member)).1
  have halves {key : Text} {value : JsonValue}
      (found : price.lookup key = some value) :=
    (Bool.and_eq_true_iff.mp (spelled _ (mem_of_lookup found))).2
  rw [validateRecordValue_object]
  refine ⟨by decide, ?_, ?_⟩
  · have few := (List.subperm_of_subset distinct (by
      rintro key member
      obtain ⟨half, inside, rfl⟩ := List.mem_map.mp member
      exact named inside)).length_le
    rw [List.length_map] at few
    exact few.trans (by decide)
  · rintro ⟨key, value⟩ member
    have found := (lookup_eq_some_iff_mem distinct).mpr member
    have cases_ := named member
    simp only [List.mem_cons, List.not_mem_nil, or_false] at cases_
    dsimp only
    rcases cases_ with rfl | rfl
    · rw [currencyFound, Option.some.injEq] at found
      subst found
      rw [spells_normal currencySpells (halves currencyFound)]
      exact validateRecordValue_string.mpr currencyShort
    · rw [amountFound, Option.some.injEq] at found
      subst found
      rw [spells_normal amountSpells (halves amountFound)]
      exact validateRecordValue_string.mpr amountShort

end Price

theorem isAttributeObject_of_same {items : List (Text × JsonValue)}
    {raws : List (Text × Text)} {attributes : InventoryAttributes}
    (distinct : (items.map Prod.fst).Nodup)
    (form : sortedBy Prod.fst items =
      raws.map fun item => (item.1, JsonValue.string item.2))
    (unicode : ∀ item ∈ raws, isUnicode item.2)
    (normals : raws.map (fun item => (item.1, nfc item.2)) =
      attributes.items)
    (same : (JsonValue.object items).Same (.object (attributes.items.map
      fun item => (item.1, .string item.2)))) :
    isAttributeObject (.object items) := by
  have ascii : ∀ name ∈ (attributes.items.map
      fun item => (item.1, JsonValue.string item.2)).map Prod.fst,
      name.all isAscii := by
    rw [List.map_map, List.forall_mem_map]
    exact fun item member => attributeKeyPattern_ascii.fullmatch_all
      (attributes.valid.keys item member).1
  have keys : ((attributes.items.map
      fun item => (item.1, JsonValue.string item.2)).map
        Prod.fst).Nodup := by
    rw [List.map_map]
    exact attributes.valid.sorted.imp ne_of_lt
  rw [isAttributeObject, List.all_eq_true]
  rintro ⟨key, value⟩ member
  have inSorted : _ ∈ sortedBy Prod.fst items := mem_sortedBy.mpr member
  rw [form] at inSorted
  obtain ⟨⟨name, raw⟩, inRaws, spelled⟩ := List.mem_map.mp inSorted
  cases spelled
  have stored : (name, JsonValue.string (nfc raw)) ∈ attributes.items.map
      fun item => (item.1, JsonValue.string item.2) := by
    rw [← normals, List.map_map]
    exact List.mem_map.mpr ⟨_, inRaws, rfl⟩
  have known := same.lookup ascii name
  rw [(lookup_eq_some_iff_mem distinct).mpr member,
    (lookup_eq_some_iff_mem keys).mpr stored] at known
  exact isNormalText_of_same ⟨unicode _ inRaws, rfl⟩ (Option.some.inj known)

omit [JsonRuntime] in
theorem keysDistinct_object {fields : List (Text × JsonValue)} :
    (JsonValue.object fields).keysDistinct ↔
      (fields.map Prod.fst).Nodup ∧
        ∀ entry ∈ fields, entry.2.keysDistinct := by
  rw [JsonValue.keysDistinct, Bool.and_eq_true, decide_eq_true_eq,
    JsonValue.keysDistinctFields_iff]

/-- Fields that are the same JSON as the rendered ones are spelled so. -/
theorem canonicallySpelled_of_same {payload : List (Text × JsonValue)}
    {record : InventoryRecord}
    (distinct : (JsonValue.object payload).keysDistinct)
    (reads : ReadsRecord payload record)
    (bounded : Demo.validateSourceRecordPayload payload = .ok ())
    (same : (JsonValue.object (businessFields payload)).Same
      (.object (renderedFields record.content))) :
    canonicallySpelled payload := by
  obtain ⟨keys, nested⟩ := keysDistinct_object.mp distinct
  have lookups (key : Text) (other : key ≠ text "source_record_key") :
      (payload.lookup key).map (fun value => value.sortKeys.units) =
        ((renderedFields record.content).lookup key).map
          fun value => value.sortKeys.units := by
    rw [← businessFields_lookup other]
    have ascii : ∀ name ∈ [text "attributes", text "name", text "quantity",
        text "sku", text "unit_price", text "updated_at"],
        name.all isAscii := by
      decide
    exact same.lookup ascii key
  rw [canonicallySpelled_iff]
  constructor
  · have known := lookups (text "attributes") (by decide)
    cases found : payload.lookup (text "attributes") with
    | some value => rfl
    | none =>
        rw [found] at known
        cases known
  · rintro ⟨key, value⟩ member
    have found := (lookup_eq_some_iff_mem keys).mpr member
    dsimp only
    by_cases provenance : key = text "source_record_key"
    · subst provenance
      refine ⟨_, rfl, ?_⟩
      simp only [Demo.validateSourceRecordPayload, check_bind_eq_ok,
        validateRecordFields_eq_ok] at bounded
      have small := bounded.2 _ member
      cases value with
      | string t => exact decide_eq_true (validateRecordValue_string.mp small)
      | _ => rfl
    · have known := lookups key provenance
      rw [found] at known
      by_cases isAttributes : key = text "attributes"
      · subst isAttributes
        refine ⟨_, rfl, ?_⟩
        rcases reads.attributes with
          ⟨absent, _⟩ | ⟨items, raws, present, form, unicode, normals⟩
        · rw [absent] at found
          cases found
        · rw [present, Option.some.injEq] at found
          subst found
          have inner := (keysDistinct_object.mp (nested _ member)).1
          exact isAttributeObject_of_same inner form unicode normals
            (Option.some.inj known)
      by_cases isName : key = text "name"
      · subst isName
        obtain ⟨raw, present, spells⟩ := reads.name
        rw [present, Option.some.injEq] at found
        subst found
        exact ⟨_, rfl, isNormalText_of_same spells (Option.some.inj known)⟩
      by_cases isQuantity : key = text "quantity"
      · subst isQuantity
        exact ⟨_, rfl, rfl⟩
      by_cases isSku : key = text "sku"
      · subst isSku
        exact ⟨_, rfl, rfl⟩
      by_cases isPrice : key = text "unit_price"
      · subst isPrice
        obtain ⟨price, currency, amount, present, currencyFound, amountFound,
          currencySpells, amountSpells⟩ := reads.unitPrice
        rw [present, Option.some.injEq] at found
        subst found
        have inner := (keysDistinct_object.mp (nested _ member)).1
        exact ⟨_, rfl, isPriceObject_of_same inner currencyFound
          amountFound currencySpells amountSpells (Option.some.inj known)⟩
      by_cases isUpdated : key = text "updated_at"
      · subst isUpdated
        obtain ⟨raw, value, present, spells, parsed⟩ := reads.updatedAt
        rw [present, Option.some.injEq] at found
        subst found
        refine ⟨_, rfl, ?_⟩
        have units := Option.some.inj known
        simp only [JsonValue.sortKeys_string, JsonValue.units,
          JsonValue.string.injEq] at units
        have ascii := record.updatedAt.toText_ascii
        have equal : raw = record.updatedAt.toText := unitText_unicode
          spells.1 (isUnicode_of_ascii ascii) units
        rw [equal]
        exact Bool.and_eq_true_iff.mpr
          ⟨beq_iff_eq.mpr (PythonRuntime.nfc_ascii _ ascii),
            record.updatedAt.toText_isUtcSpelling⟩
      · -- no other key is rendered
        have unknown : (renderedFields record.content).lookup key = none := by
          simp only [renderedFields, List.lookup_cons,
            beq_false_of_ne isAttributes, beq_false_of_ne isName,
            beq_false_of_ne isQuantity, beq_false_of_ne isSku,
            beq_false_of_ne isPrice, beq_false_of_ne isUpdated,
            List.lookup_nil]
        rw [unknown] at known
        cases known

/-! ## Canonical payloads -/

theorem sortKeys_attributes (attributes : InventoryAttributes) :
    (JsonValue.object (attributes.items.map
      fun item => (item.1, JsonValue.string item.2))).sortKeys =
        .object (attributes.items.map
          fun item => (item.1, JsonValue.string item.2)) := by
  refine sortKeys_texts (sortedBy_of_pairwise ?_)
  rw [List.pairwise_map]
  exact (List.pairwise_map.mp attributes.valid.sorted).imp le_of_lt

/-- What a canonical payload says at a key is spelled in its way. -/
theorem spelled_at {payload : List (Text × JsonValue)} {key : Text}
    {value : JsonValue} {spelled : JsonValue → Bool}
    (canonical : canonicallySpelled payload)
    (found : payload.lookup key = some value)
    (known : fieldSpelling.lookup key = some spelled) : spelled value := by
  obtain ⟨other, named, holds⟩ :=
    (canonicallySpelled_iff.mp canonical).2 _ (mem_of_lookup found)
  rw [known, Option.some.injEq] at named
  exact named ▸ holds

/-- The attributes of a canonical payload are those that are rendered. -/
theorem attributes_canonical {payload : List (Text × JsonValue)}
    {record : InventoryRecord} (reads : ReadsRecord payload record)
    (canonical : canonicallySpelled payload) :
    ∃ items, payload.lookup (text "attributes") = some (.object items) ∧
      sortedBy Prod.fst items = record.attributes.items.map
        fun item => (item.1, JsonValue.string item.2) := by
  rcases reads.attributes with
    ⟨absent, _⟩ | ⟨items, raws, present, form, _, normals⟩
  · have present := (canonicallySpelled_iff.mp canonical).1
    rw [absent] at present
    cases present
  · refine ⟨items, present, ?_⟩
    have spelled : isAttributeObject (.object items) :=
      spelled_at canonical present rfl
    rw [isAttributeObject, List.all_eq_true] at spelled
    have same : raws.map (fun item => (item.1, nfc item.2)) = raws := by
      refine (List.map_congr_left fun item member => ?_).trans
        (List.map_id _)
      have inSorted := List.mem_map_of_mem
        (f := fun item : Text × Text => (item.1, JsonValue.string item.2))
        member
      rw [← form, mem_sortedBy] at inSorted
      have normal := spelled _ inSorted
      rw [isNormalText, beq_iff_eq] at normal
      rw [normal]
      rfl
    rw [form, ← normals, same]

/-- A canonical payload says of its business what is rendered. -/
theorem sortKeys_canonical {payload : List (Text × JsonValue)}
    {record : InventoryRecord}
    (distinct : (JsonValue.object payload).keysDistinct)
    (reads : ReadsRecord payload record)
    (canonical : canonicallySpelled payload) :
    (JsonValue.object (businessFields payload)).sortKeys =
      (JsonValue.object (renderedFields record.content)).sortKeys := by
  obtain ⟨keys, nested⟩ := keysDistinct_object.mp distinct
  have left : ((businessFields payload).map Prod.fst).Nodup :=
    (List.filter_sublist.map Prod.fst).nodup keys
  have right : [text "attributes", text "name", text "quantity", text "sku",
      text "unit_price", text "updated_at"].Nodup := by
    decide
  refine (JsonValue.sortKeys_object_eq_iff left (by exact right)).mpr ?_
  intro key
  have halves {name : Text} {value : JsonValue}
      (found : payload.lookup name = some value) : value.keysDistinct :=
    nested _ (mem_of_lookup found)
  by_cases provenance : key = text "source_record_key"
  · subst provenance
    have absent : (businessFields payload).lookup
        (text "source_record_key") = none := by
      rw [lookup_eq_none_iff_notMem]
      intro member
      obtain ⟨field, inside, name⟩ := List.mem_map.mp member
      have other := (List.mem_filter.mp inside).2
      rw [decide_eq_true_eq] at other
      exact other name
    rw [absent]
    rfl
  · rw [businessFields_lookup provenance]
    by_cases isAttributes : key = text "attributes"
    · subst isAttributes
      obtain ⟨items, present, form⟩ := attributes_canonical reads canonical
      rw [present, Option.map_some, sortKeys_texts form]
      exact congrArg some (sortKeys_attributes record.attributes).symm
    by_cases isName : key = text "name"
    · subst isName
      obtain ⟨raw, present, spells⟩ := reads.name
      rw [present, spells_normal spells (spelled_at canonical present rfl)]
      rfl
    by_cases isQuantity : key = text "quantity"
    · subst isQuantity
      rw [reads.quantity]
      rfl
    by_cases isSku : key = text "sku"
    · subst isSku
      rw [reads.sku]
      rfl
    by_cases isPrice : key = text "unit_price"
    · subst isPrice
      obtain ⟨price, currency, amount, present, currencyFound, amountFound,
        currencySpells, amountSpells⟩ := reads.unitPrice
      have inner := (keysDistinct_object.mp (halves present)).1
      rw [present, Option.map_some, sortKeys_price inner currencyFound
        amountFound currencySpells amountSpells
        (spelled_at canonical present rfl)]
      rfl
    by_cases isUpdated : key = text "updated_at"
    · subst isUpdated
      obtain ⟨raw, value, present, spells, parsed⟩ := reads.updatedAt
      have spelled : isInstantText (.string raw) :=
        spelled_at canonical present rfl
      obtain ⟨normal, shape⟩ := Bool.and_eq_true_iff.mp spelled
      obtain rfl := spells_normal spells normal
      rw [present, ← UtcTimestamp.parse_isUtcSpelling parsed shape]
      rfl
    · -- no other key is spelled
      cases found : payload.lookup key with
      | none =>
          simp only [renderedFields, List.lookup_cons,
            beq_false_of_ne isAttributes, beq_false_of_ne isName,
            beq_false_of_ne isQuantity, beq_false_of_ne isSku,
            beq_false_of_ne isPrice, beq_false_of_ne isUpdated,
            List.lookup_nil]
      | some value =>
          obtain ⟨spelled, named, _⟩ :=
            (canonicallySpelled_iff.mp canonical).2 _ (mem_of_lookup found)
          simp only [fieldSpelling, List.lookup_cons,
            beq_false_of_ne isAttributes, beq_false_of_ne isName,
            beq_false_of_ne isQuantity, beq_false_of_ne isSku,
            beq_false_of_ne isPrice, beq_false_of_ne isUpdated,
            beq_false_of_ne provenance, List.lookup_nil] at named
          cases named

/-! ## Bounds of canonical payloads -/

/-- The attributes of a record are within the bounds of a payload. -/
theorem validateRecordValue_attributes (attributes : InventoryAttributes)
    {items : List (Text × JsonValue)}
    (form : sortedBy Prod.fst items =
      attributes.items.map fun item => (item.1, JsonValue.string item.2)) :
    validateRecordValue 1 (.object items) = .ok () := by
  rw [validateRecordValue_object]
  refine ⟨by decide, ?_, fun entry member => ?_⟩
  · rw [← sortedBy_length Prod.fst, form, List.length_map]
    exact attributes.valid.count
  · have inSorted : _ ∈ sortedBy Prod.fst items := mem_sortedBy.mpr member
    rw [form] at inSorted
    obtain ⟨item, inside, rfl⟩ := List.mem_map.mp inSorted
    have short := normalizeBusinessText_length
      (attributes.valid.values item inside)
    exact validateRecordValue_string.mpr (short.trans (by decide))

theorem fieldSpelling_key {key : Text} {spelled : JsonValue → Bool}
    (known : fieldSpelling.lookup key = some spelled) :
    key ∈ [text "attributes", text "name", text "quantity", text "sku",
      text "source_record_key", text "unit_price", text "updated_at"] :=
  List.mem_map_of_mem (f := Prod.fst) (mem_of_lookup known)

/-- A canonical payload is within the bounds. -/
theorem validateSourceRecordPayload_canonical
    {payload : List (Text × JsonValue)} {record : InventoryRecord}
    (distinct : (JsonValue.object payload).keysDistinct)
    (reads : ReadsRecord payload record)
    (canonical : canonicallySpelled payload) :
    Demo.validateSourceRecordPayload payload = .ok () := by
  obtain ⟨keys, nested⟩ := keysDistinct_object.mp distinct
  have named {field : Text × JsonValue} (member : field ∈ payload) :=
    fieldSpelling_key
      ((canonicallySpelled_iff.mp canonical).2 field member).choose_spec.1
  rw [Demo.validateSourceRecordPayload, check_bind_eq_ok, require_eq_ok,
    decide_eq_true_eq, validateRecordFields_eq_ok]
  constructor
  · have few := (List.subperm_of_subset keys (by
      rintro key member
      obtain ⟨field, inside, rfl⟩ := List.mem_map.mp member
      exact named inside)).length_le
    rw [List.length_map] at few
    exact few.trans (by decide)
  · rintro ⟨key, value⟩ member
    have found := (lookup_eq_some_iff_mem keys).mpr member
    have spelled {holds : JsonValue → Bool}
        (known : fieldSpelling.lookup key = some holds) : holds value :=
      spelled_at canonical found known
    have cases_ := named member
    simp only [List.mem_cons, List.not_mem_nil, or_false] at cases_
    dsimp only
    rcases cases_ with rfl | rfl | rfl | rfl | rfl | rfl | rfl
    · obtain ⟨items, present, form⟩ := attributes_canonical reads canonical
      rw [present, Option.some.injEq] at found
      exact found ▸ validateRecordValue_attributes record.attributes form
    · obtain ⟨raw, present, spells⟩ := reads.name
      rw [present, Option.some.injEq] at found
      subst found
      rw [spells_normal spells (spelled rfl)]
      exact validateRecordValue_string.mpr
        (record.lengths.2.1.trans (by decide))
    · rw [reads.quantity, Option.some.injEq] at found
      have bounds := record.quantity_bounds
      exact found ▸ validateRecordValue_int.mpr (by omega)
    · rw [reads.sku, Option.some.injEq] at found
      exact found ▸ validateRecordValue_string.mpr
        (record.lengths.1.trans (by decide))
    · obtain ⟨raw, present⟩ := reads.sourceRecordKey
      rw [present, Option.some.injEq] at found
      subst found
      exact validateRecordValue_string.mpr (of_decide_eq_true (spelled rfl))
    · obtain ⟨price, currency, amount, present, currencyFound, amountFound,
        currencySpells, amountSpells⟩ := reads.unitPrice
      rw [present, Option.some.injEq] at found
      subst found
      have inner := (keysDistinct_object.mp (nested _ member)).1
      have size := record.unitPrice.currency.shape.1
      exact validateRecordValue_price inner currencyFound amountFound
        currencySpells amountSpells (size.le.trans (by decide))
        ((amountText_length record.unitPrice).trans (by decide))
        (spelled rfl)
    · obtain ⟨raw, value, present, spells, parsed⟩ := reads.updatedAt
      rw [present, Option.some.injEq] at found
      subst found
      obtain ⟨_, shape⟩ := Bool.and_eq_true_iff.mp (spelled rfl)
      rw [isUtcSpelling, Bool.and_eq_true, beq_iff_eq] at shape
      exact validateRecordValue_string.mpr (shape.1.le.trans (by decide))

/-- A rendered effect is within the bounds. -/
theorem validateSourceRecordPayload_render (record : InventoryRecord)
    {effect : InventoryEffect} (content : effect.content = record.content) :
    Demo.validateSourceRecordPayload (renderEffectPayload effect) =
      .ok () := by
  obtain ⟨currency, amount⟩ := toText_partition effect.content.unitPrice
  have key := lowered_length record.sku
  have bounds := record.quantity_bounds
  obtain ⟨sku, name, _⟩ := record.lengths
  have size := record.unitPrice.currency.shape.1
  have price := amountText_length record.unitPrice
  have updated : record.updatedAt.toText.length = 27 := by
    simp [UtcTimestamp.toText]
  rw [renderEffectPayload, currency, amount, content,
    Demo.validateSourceRecordPayload, check_bind_eq_ok, require_eq_ok,
    decide_eq_true_eq, validateRecordFields_eq_ok]
  refine ⟨by simp, ?_⟩
  simp only [InventoryRecord.content, List.forall_mem_cons,
    List.not_mem_nil, false_imp_iff, implies_true, and_true,
    validateRecordValue_string, validateRecordValue_int,
    validateRecordValue_object, List.length_append, List.length_cons,
    List.length_nil]
  have items : sortedBy Prod.fst (record.attributes.items.map
      fun item => (item.1, JsonValue.string item.2)) =
        record.attributes.items.map
          fun item => (item.1, JsonValue.string item.2) := by
    refine sortedBy_of_pairwise (List.pairwise_map.mpr ?_)
    exact (List.pairwise_map.mp record.attributes.valid.sorted).imp le_of_lt
  have prefix_ : (text "repair:").length = 7 := rfl
  refine ⟨validateRecordValue_object.mp
    (validateRecordValue_attributes record.attributes items), by omega,
    by omega, by omega, by omega, ⟨by decide, by decide, by omega, by omega⟩,
    by omega⟩

/-! ## The precondition -/

/--
A target that holds the payload accepts a write that expects the effect of the
record.
-/
def PreconditionHolds (record : InventoryRecord)
    (payload : List (Text × JsonValue)) : Prop :=
  ∃ effect precondition,
    InventoryEffect.fromRecord record = .ok effect ∧
    effectPrecondition (some effect) = .ok precondition ∧
    ∀ recordVersion,
      preconditionHolds (some precondition.headerValue)
        (some ⟨payload, recordVersion⟩) = .ok true

theorem preconditionHolds_expected {digest : Text}
    (valid : isSha256Text digest) {record : Demo.StoredRecord} :
    preconditionHolds (some (text "sha256:" ++ digest)) (some record) =
        .ok true ↔
      canonicalTargetPayloadSha256 record.payload = .ok digest := by
  have apart : text "sha256:" ++ digest ≠ text "absent" := by
    intro same
    have heads : some (point 's') = some (point 'a') :=
      congrArg List.head? same
    exact absurd heads (by decide)
  have starts : (text "sha256:").isPrefixOf (text "sha256:" ++ digest) :=
    List.isPrefixOf_iff_prefix.mpr (List.prefix_append _ _)
  rw [preconditionHolds, if_neg apart, if_pos starts]
  dsimp only
  rw [List.drop_left, if_pos valid]
  cases hashed : canonicalTargetPayloadSha256 record.payload with
  | error error => simp [Bind.bind, Except.bind]
  | ok other => simp [pure, Except.pure]

/-- The precondition of a record is met by the digest of its rendering. -/
theorem preconditionHolds_iff {record : InventoryRecord}
    {payload : List (Text × JsonValue)} :
    PreconditionHolds record payload ↔
      Demo.validateSourceRecordPayload payload = .ok () ∧
        sha256 (targetPreimage payload) = sha256 (targetPreimage
          (renderEffectPayload ⟨record.content,
            validateEffect_content record⟩)) := by
  have hashed := canonicalTargetPayloadSha256_eq_ok.mpr
    ⟨validateSourceRecordPayload_render record
      (rfl : (⟨record.content, validateEffect_content record⟩ :
        InventoryEffect).content = record.content), rfl⟩
  have valid := Domain.Digest.isSha256Text (sha256 (targetPreimage
    (renderEffectPayload ⟨record.content, validateEffect_content record⟩)))
  have expected : effectPrecondition
      (some ⟨record.content, validateEffect_content record⟩) =
        .ok (.expectedPayloadSha256 _ valid) := by
    rw [effectPrecondition, TargetWritePrecondition.expectedPayload, hashed,
      ok_bind, dif_pos valid]
  rw [PreconditionHolds]
  constructor
  · rintro ⟨effect, precondition, made, expects, holds⟩
    rw [InventoryEffect.fromRecord_returns, Except.ok.injEq] at made
    subst made
    rw [expected, Except.ok.injEq] at expects
    subst expects
    have digest := (preconditionHolds_expected valid).mp (holds 0)
    obtain ⟨bounded, same⟩ := canonicalTargetPayloadSha256_eq_ok.mp digest
    exact ⟨bounded, (Digest.hex_injective same).symm⟩
  · rintro ⟨bounded, same⟩
    refine ⟨_, _, InventoryEffect.fromRecord_returns record, expected,
      fun recordVersion => (preconditionHolds_expected valid).mpr ?_⟩
    exact canonicalTargetPayloadSha256_eq_ok.mpr ⟨bounded, by rw [same]⟩

/--
For a payload that normalizes to a record, the precondition of the record holds
exactly when the payload is spelled as repairs spell it.
-/
theorem precondition_iff_canonicallySpelled
    {observation : SourceObservation} {payload : List (Text × JsonValue)}
    {distinct : (JsonValue.object payload).keysDistinct}
    {normalized : NormalizedRecord}
    (observed : observation.payload = .mapping payload distinct)
    (returned : normalizeObservation observation =
      .ok (.record normalized)) :
    (canonicallySpelled payload →
      PreconditionHolds normalized.record payload) ∧
    (DistinctDigests [targetPreimage payload,
        targetPreimage (renderEffectPayload ⟨normalized.record.content,
          validateEffect_content normalized.record⟩)] →
      PreconditionHolds normalized.record payload →
      canonicallySpelled payload) := by
  have reads := normalizeObservation_reads observed returned
  rw [preconditionHolds_iff]
  constructor
  · intro canonical
    refine ⟨validateSourceRecordPayload_canonical distinct reads canonical,
      congrArg sha256 ?_⟩
    rw [targetPreimage, targetPreimage, businessFields_render,
      sortKeys_canonical distinct reads canonical]
  · rintro digests ⟨bounded, same⟩
    have equal := digests _ List.mem_cons_self _
      (List.mem_cons_of_mem _ List.mem_cons_self) same
    have alike := targetPreimage_same equal
    rw [businessFields_render] at alike
    exact canonicallySpelled_of_same distinct reads bounded alike

end Spellings

/-! ## Concrete payloads -/

section Sample

attribute [local instance] asciiJsonRuntime

/-- The fields of an observation. -/
def observedFields (observation : SourceObservation) :
    List (Text × JsonValue) :=
  match observation.payload with
  | .mapping payload _ => payload
  | .malformed .. => []

/-- The widget of the source is spelled as a repair spells it. -/
theorem precondition_holds_sample :
    ∃ normalized,
      normalizeObservation sampleObservation = .ok (.record normalized) ∧
      PreconditionHolds normalized.record
        (observedFields sampleObservation) := by
  have returns : (normalizedRecord sampleObservation).isSome := by
    decide
  obtain ⟨normalized, found⟩ := Option.isSome_iff_exists.mp returns
  have returned := normalizeObservation_of_record found
  exact ⟨normalized, returned,
    (precondition_iff_canonicallySpelled rfl returned).1 (by decide)⟩

/-- The widget without attributes, at an instant without a fraction. -/
def shortObservation : SourceObservation where
  position := 0
  connectorId := ⟨text "con_target", targetConnector_valid⟩
  payload := .mapping
    (widgetFields "SKU-1" "key-1" "Widget" "USD" "1.25"
      "2024-01-02T03:04:05Z" [])
    (by decide +kernel)

/-- The payload is hashed to the digest that the record expects. -/
def digestsAgree (record : InventoryRecord)
    (payload : List (Text × JsonValue)) : Bool :=
  decide (sha256 (targetPreimage payload) = sha256 (targetPreimage
    (renderEffectPayload ⟨record.content, validateEffect_content record⟩)))

/-- It normalizes, and its own precondition rejects it. -/
theorem precondition_rejects_short :
    ∃ normalized,
      normalizeObservation shortObservation = .ok (.record normalized) ∧
      ¬PreconditionHolds normalized.record
        (observedFields shortObservation) := by
  have returns : (normalizedRecord shortObservation).isSome := by
    decide
  have apart : (normalizedRecord shortObservation).all fun normalized =>
      !digestsAgree normalized.record (observedFields shortObservation) := by
    decide +kernel
  obtain ⟨normalized, found⟩ := Option.isSome_iff_exists.mp returns
  refine ⟨normalized, normalizeObservation_of_record found, fun holds => ?_⟩
  have agree : digestsAgree normalized.record
      (observedFields shortObservation) :=
    decide_eq_true (preconditionHolds_iff.mp holds).2
  rw [found, Option.all_some, agree] at apart
  cases apart

end Sample

end ParityGrid.Application
