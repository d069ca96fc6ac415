import ParityGrid.Demo.Simulators.WarehouseEffects
import ParityGrid.Demo.Simulators.WarehouseFile
import ParityGrid.Foundation.JsonRoundTrip

/-!
# Durability of the warehouse

Every state that requests can reach satisfies the checks of the loader on
records, receipts and effect counts.  The bounds that it sets on counters, on
payloads and on the number of applied failures are not implied, and they decide
whether a state that was written can be read back.
-/

namespace ParityGrid.Demo

open Foundation Domain

/-! ## Payloads within the bounds of the loader -/

mutual

/-- What `_state_json_value` accepts at a nesting depth. -/
def boundedPayload (depth : Nat) : JsonValue → Bool
  | .scalar (.float value) => depth ≤ maxStateDepth && !isNonFinite value
  | .scalar _ => depth ≤ maxStateDepth
  | .string value =>
      depth ≤ maxStateDepth && value.length ≤ maxStateStringLength
  | .array items =>
      depth ≤ maxStateDepth && items.length ≤ maxStateItems &&
        boundedItems (depth + 1) items
  | .object fields =>
      depth ≤ maxStateDepth && fields.length ≤ maxStateItems &&
        boundedFields (depth + 1) fields

def boundedItems (depth : Nat) : List JsonValue → Bool
  | [] => true
  | item :: rest => boundedPayload depth item && boundedItems depth rest

def boundedFields (depth : Nat) : List (Text × JsonValue) → Bool
  | [] => true
  | (key, value) :: rest =>
      key.length ≤ maxStateStringLength && boundedPayload depth value &&
        boundedFields depth rest

end

theorem boundedFields_iff {depth : Nat} {fields : List (Text × JsonValue)} :
    boundedFields depth fields ↔ ∀ entry ∈ fields,
      entry.1.length ≤ maxStateStringLength ∧
        boundedPayload depth entry.2 := by
  induction fields with
  | nil => simp [boundedFields]
  | cons entry rest ih => simp [boundedFields, ih, and_assoc]

mutual

/-- The loader returns exactly the payloads within its bounds, as they are. -/
theorem stateJsonValue_eq_ok : (value : JsonValue) → {depth : Nat} →
    {result : JsonValue} →
    (stateJsonValue depth value = .ok result ↔
      boundedPayload depth value ∧ result = value)
  | .scalar value, depth, result => by
      cases value with
      | float value =>
          simp only [stateJsonValue, requireDepth, bind_eq_ok, require_eq_ok,
            boundedPayload, Bool.and_eq_true]
          constructor
          · rintro ⟨_, shallow, _, finite, same⟩
            cases same
            exact ⟨⟨shallow, finite⟩, rfl⟩
          · rintro ⟨⟨shallow, finite⟩, rfl⟩
            exact ⟨(), shallow, (), finite, rfl⟩
      | _ =>
          simp only [stateJsonValue, requireDepth, bind_eq_ok, require_eq_ok,
            boundedPayload]
          constructor
          · rintro ⟨_, shallow, same⟩
            cases same
            exact ⟨shallow, rfl⟩
          · rintro ⟨shallow, rfl⟩
            exact ⟨(), shallow, rfl⟩
  | .string value, depth, result => by
      simp only [stateJsonValue, requireDepth, bind_eq_ok, require_eq_ok,
        boundedPayload, Bool.and_eq_true]
      constructor
      · rintro ⟨_, shallow, _, short, same⟩
        cases same
        exact ⟨⟨shallow, short⟩, rfl⟩
      · rintro ⟨⟨shallow, short⟩, rfl⟩
        exact ⟨(), shallow, (), short, rfl⟩
  | .array items, depth, result => by
      simp only [stateJsonValue, requireDepth, bind_eq_ok, require_eq_ok,
        boundedPayload, Bool.and_eq_true, stateJsonItems_eq_ok items]
      constructor
      · rintro ⟨_, shallow, _, few, _, ⟨inside, rfl⟩, same⟩
        cases same
        exact ⟨⟨⟨shallow, few⟩, inside⟩, rfl⟩
      · rintro ⟨⟨⟨shallow, few⟩, inside⟩, rfl⟩
        exact ⟨(), shallow, (), few, items, ⟨inside, rfl⟩, rfl⟩
  | .object fields, depth, result => by
      simp only [stateJsonValue, requireDepth, bind_eq_ok, require_eq_ok,
        boundedPayload, Bool.and_eq_true, stateJsonFields_eq_ok fields]
      constructor
      · rintro ⟨_, shallow, _, few, _, ⟨inside, rfl⟩, same⟩
        cases same
        exact ⟨⟨⟨shallow, few⟩, inside⟩, rfl⟩
      · rintro ⟨⟨⟨shallow, few⟩, inside⟩, rfl⟩
        exact ⟨(), shallow, (), few, fields, ⟨inside, rfl⟩, rfl⟩

theorem stateJsonItems_eq_ok : (items : List JsonValue) → {depth : Nat} →
    {results : List JsonValue} →
    (stateJsonItems depth items = .ok results ↔
      boundedItems depth items ∧ results = items)
  | [], depth, results => by
      simp only [stateJsonItems, boundedItems, true_and]
      constructor
      · intro same
        cases same
        rfl
      · rintro rfl
        rfl
  | item :: rest, depth, results => by
      simp only [stateJsonItems, bind_eq_ok, boundedItems, Bool.and_eq_true,
        stateJsonValue_eq_ok item, stateJsonItems_eq_ok rest]
      constructor
      · rintro ⟨_, ⟨first, rfl⟩, _, ⟨later, rfl⟩, same⟩
        cases same
        exact ⟨⟨first, later⟩, rfl⟩
      · rintro ⟨⟨first, later⟩, rfl⟩
        exact ⟨item, ⟨first, rfl⟩, rest, ⟨later, rfl⟩, rfl⟩

theorem stateJsonFields_eq_ok : (fields : List (Text × JsonValue)) →
    {depth : Nat} → {results : List (Text × JsonValue)} →
    (stateJsonFields depth fields = .ok results ↔
      boundedFields depth fields ∧ results = fields)
  | [], depth, results => by
      simp only [stateJsonFields, boundedFields, true_and]
      constructor
      · intro same
        cases same
        rfl
      · rintro rfl
        rfl
  | (key, value) :: rest, depth, results => by
      simp only [stateJsonFields, bind_eq_ok, require_eq_ok, boundedFields,
        Bool.and_eq_true, stateJsonValue_eq_ok value,
        stateJsonFields_eq_ok rest]
      constructor
      · rintro ⟨_, short, _, ⟨first, rfl⟩, _, ⟨later, rfl⟩, same⟩
        cases same
        exact ⟨⟨⟨short, first⟩, later⟩, rfl⟩
      · rintro ⟨⟨⟨short, first⟩, later⟩, rfl⟩
        exact ⟨(), short, value, ⟨first, rfl⟩, rest, ⟨later, rfl⟩, rfl⟩

end

mutual

/-- The bounds do not depend on the order of keys. -/
theorem boundedPayload_sortKeys : (value : JsonValue) → (depth : Nat) →
    boundedPayload depth value.sortKeys = boundedPayload depth value
  | .scalar _, _ => rfl
  | .string _, _ => rfl
  | .array items, depth => by
      have inside := boundedItems_sortItems items (depth + 1)
      have same : (JsonValue.sortItems items).length = items.length := by
        rw [JsonValue.sortItems_eq_map, List.length_map]
      simp only [JsonValue.sortKeys, boundedPayload, inside, same]
  | .object fields, depth => by
      have perm := List.perm_insertionSort fieldLe
        (JsonValue.sortFields fields)
      have keys := congrArg List.length (JsonValue.sortFields_keys fields)
      have inside : boundedFields (depth + 1)
          ((JsonValue.sortFields fields).insertionSort fieldLe) =
            boundedFields (depth + 1) fields := by
        rw [← boundedFields_sortFields fields (depth + 1), Bool.eq_iff_iff,
          boundedFields_iff, boundedFields_iff]
        exact forall_congr' fun entry => imp_congr_left perm.mem_iff
      simp only [List.length_map] at keys
      simp only [JsonValue.sortKeys, boundedPayload, inside, perm.length_eq,
        keys]

theorem boundedItems_sortItems : (items : List JsonValue) →
    (depth : Nat) → boundedItems depth (JsonValue.sortItems items) =
      boundedItems depth items
  | [], _ => rfl
  | item :: rest, depth => by
      simp only [JsonValue.sortItems, boundedItems,
        boundedPayload_sortKeys item depth, boundedItems_sortItems rest depth]

theorem boundedFields_sortFields : (fields : List (Text × JsonValue)) →
    (depth : Nat) → boundedFields depth (JsonValue.sortFields fields) =
      boundedFields depth fields
  | [], _ => rfl
  | (key, value) :: rest, depth => by
      simp only [JsonValue.sortFields, boundedFields,
        boundedPayload_sortKeys value depth,
        boundedFields_sortFields rest depth]

end

mutual

/-- A bounded payload nests no deeper than the bound. -/
theorem nests_of_bounded : (value : JsonValue) → {depth : Nat} →
    boundedPayload depth value →
    value.nests (maxStateDepth + 1 - depth)
  | .scalar _, depth, _ => by simp [JsonValue.nests]
  | .string _, depth, _ => by simp [JsonValue.nests]
  | .array items, depth, bounded => by
      simp only [boundedPayload, Bool.and_eq_true, decide_eq_true_eq]
        at bounded
      rw [show maxStateDepth + 1 - depth = maxStateDepth - depth + 1 by
        omega]
      show JsonValue.nestsItems (maxStateDepth - depth) items
      have inside := nestsItems_of_bounded items bounded.2
      rwa [Nat.add_sub_add_right] at inside
  | .object fields, depth, bounded => by
      simp only [boundedPayload, Bool.and_eq_true, decide_eq_true_eq]
        at bounded
      rw [show maxStateDepth + 1 - depth = maxStateDepth - depth + 1 by
        omega]
      show JsonValue.nestsFields (maxStateDepth - depth) fields
      have inside := nestsFields_of_bounded fields bounded.2
      rwa [Nat.add_sub_add_right] at inside

theorem nestsItems_of_bounded : (items : List JsonValue) →
    {depth : Nat} → boundedItems depth items →
    JsonValue.nestsItems (maxStateDepth + 1 - depth) items
  | [], _, _ => rfl
  | item :: rest, depth, bounded => by
      simp only [boundedItems, Bool.and_eq_true] at bounded
      simp only [JsonValue.nestsItems, Bool.and_eq_true]
      exact ⟨nests_of_bounded item bounded.1,
        nestsItems_of_bounded rest bounded.2⟩

theorem nestsFields_of_bounded : (fields : List (Text × JsonValue)) →
    {depth : Nat} → boundedFields depth fields →
    JsonValue.nestsFields (maxStateDepth + 1 - depth) fields
  | [], _, _ => rfl
  | (_, value) :: rest, depth, bounded => by
      simp only [boundedFields, Bool.and_eq_true] at bounded
      simp only [JsonValue.nestsFields, Bool.and_eq_true]
      exact ⟨nests_of_bounded value bounded.1.2,
        nestsFields_of_bounded rest bounded.2⟩

end

/-! ## Keys, counters and dictionaries -/

theorem paired_text (literal : String) : paired (text literal) :=
  paired_of_isUnicode (isUnicode_text literal)

theorem paired_of_ascii {t : Text} (ascii : t.all isAscii) : paired t :=
  paired_of_isUnicode (isUnicode_of_ascii ascii)

theorem isIdempotencyKey_ascii {key : Text} (canonical : isIdempotencyKey key) :
    key.all isAscii := by
  have head (c : CodePoint) (char : isKeyHead c) : isAscii c := by
    simp only [isKeyHead, Bool.or_eq_true] at char
    rcases char with (upper | lower) | digit
    · exact isAscii_of_isUpper upper
    · exact isAscii_of_isLower lower
    · exact isAscii_of_isDigit digit
  cases key with
  | nil => rfl
  | cons c rest =>
      simp only [isIdempotencyKey, Bool.and_eq_true] at canonical
      rw [List.all_cons, Bool.and_eq_true, List.all_eq_true]
      refine ⟨head c canonical.1.1, fun d member => ?_⟩
      have char := List.all_eq_true.mp canonical.2 d member
      rw [Bool.or_eq_true] at char
      rcases char with letter | mark
      · exact head d letter
      · have inside : (text "._:-").all isAscii := by decide
        exact List.all_eq_true.mp inside d (List.contains_iff_mem.mp mark)

theorem isSha256Text_ascii {t : Text} (digest : isSha256Text t) :
    t.all isAscii := by
  simp only [isSha256Text, Bool.and_eq_true] at digest
  refine List.all_eq_true.mpr fun c member => ?_
  exact isAscii_of_isHexLower (List.all_eq_true.mp digest.2 c member)

theorem UpsertOutcome.ofValue_value (outcome : UpsertOutcome) :
    ofValue (.string outcome.value) = some outcome := by
  cases outcome <;> rfl

/-- A counter that the loader reads lies within its bounds. -/
theorem stateCounter_eq_ok {field : String} {minimum : Int}
    {value : JsonValue} {counter : Nat}
    (counted : stateCounter field minimum value = .ok counter)
    (nonnegative : 0 ≤ minimum) :
    value = .int counter ∧ minimum ≤ counter ∧ counter ≤ maxCounter := by
  unfold stateCounter at counted
  split at counted
  next n =>
    simp only [bind_eq_ok, require_eq_ok, Bool.and_eq_true,
      decide_eq_true_eq] at counted
    obtain ⟨_, bounds, same⟩ := counted
    cases same
    have whole : (n.toNat : Int) = n := by omega
    refine ⟨by rw [whole], by omega, by omega⟩
  · cases counted

theorem stateCounter_ok {field : String} {minimum : Int} {counter : Nat}
    (large : minimum ≤ counter) (small : counter ≤ maxCounter) :
    stateCounter field minimum (.int counter) = .ok counter := by
  simp only [stateCounter, bind_eq_ok, require_eq_ok, Bool.and_eq_true,
    decide_eq_true_eq]
  exact ⟨(), ⟨large, by omega⟩, rfl⟩

/-- A field of a document whose keys were put in order. -/
theorem item_sortKeys (key : String) (document : JsonValue) :
    item key document.sortKeys = (item key document).sortKeys := by
  rw [item, item, JsonValue.field_sortKeys]
  cases document.field (text key) <;> rfl

/-- Sorting keeps the keys of a document. -/
theorem hasKeys_sortKeys (expected : List Text) (document : JsonValue) :
    hasKeys expected document.sortKeys = hasKeys expected document := by
  cases document with
  | object fields =>
      have keys : (((JsonValue.sortFields fields).insertionSort
          fieldLe).map Prod.fst).Perm (fields.map Prod.fst) := by
        rw [← JsonValue.sortFields_keys fields]
        exact (List.perm_insertionSort _ _).map _
      simp only [JsonValue.sortKeys, hasKeys]
      rw [keys.all_eq]
      congr 2
      funext key
      rw [Bool.eq_iff_iff, List.contains_iff_mem, List.contains_iff_mem,
        keys.mem_iff]
  | _ => rfl

/-- An object whose keys were written in the expected order has them. -/
theorem hasKeys_written {expected : List Text}
    {fields : List (Text × JsonValue)}
    (written : fields.map Prod.fst = expected) :
    hasKeys expected (JsonValue.object fields).sortKeys := by
  rw [hasKeys_sortKeys, hasKeys, written]
  simp

/-- Sorting a dictionary moves no value to another key. -/
theorem lookup_sortedBy {α : Type} {d : List (Text × α)}
    (distinct : (d.map Prod.fst).Nodup) (key : Text) :
    (sortedBy Prod.fst d).lookup key = d.lookup key := by
  have sortedDistinct : ((sortedBy Prod.fst d).map Prod.fst).Nodup :=
    ((sortedBy_perm Prod.fst d).map Prod.fst).nodup_iff.mpr distinct
  ext value
  rw [lookup_eq_some_iff_mem sortedDistinct, lookup_eq_some_iff_mem distinct,
    mem_sortedBy]

/-- A dictionary is written in the order of its keys. -/
theorem sortedDocument_sortKeys {α : Type} (write : α → JsonValue)
    (d : List (Text × α)) :
    (sortedDocument write d).sortKeys =
      .object ((sortedBy Prod.fst d).map fun item =>
        (item.1, (write item.2).sortKeys)) := by
  have fields (items : List (Text × α)) :
      JsonValue.sortFields (items.map fun item => (item.1, write item.2)) =
        items.map fun item => (item.1, (write item.2).sortKeys) := by
    induction items with
    | nil => rfl
    | cons first rest ih =>
        simp only [List.map_cons, JsonValue.sortFields, ih]
  rw [sortedDocument, JsonValue.sortKeys, fields]
  have ordered : ((sortedBy Prod.fst d).map fun item =>
      (item.1, (write item.2).sortKeys)).Pairwise fieldLe :=
    List.pairwise_map.mpr (sortedBy_pairwise Prod.fst d)
  rw [ordered.insertionSort_eq]

/-- A dictionary nests one level above its values. -/
theorem nests_sortedDocument {α : Type} {write : α → JsonValue}
    {d : List (Text × α)} {budget : Nat}
    (values : ∀ item ∈ d, (write item.2).nests budget) :
    (sortedDocument write d).nests (budget + 1) := by
  show JsonValue.nestsFields budget _
  refine JsonValue.nestsFields_iff.mpr fun entry member => ?_
  obtain ⟨item, source, rfl⟩ := List.mem_map.mp member
  exact values item (mem_sortedBy.mp source)

/-! ## What every reachable state satisfies -/

section Durability

variable [JsonRuntime]

/-- A record that the loader accepts, its payload's bounds apart. -/
structure DurableRecord (targetVersion : Nat) (sku : Text)
    (record : StoredRecord) : Prop where
  sku : skuPattern.fullmatch sku
  positive : 1 ≤ record.recordVersion
  version : record.recordVersion ≤ targetVersion
  payload : (JsonValue.object record.payload).WellRead

omit [JsonRuntime] in
/-- A receipt that the loader accepts. -/
structure DurableEntry (targetVersion : Nat) (key : Text)
    (entry : IdempotencyEntry) : Prop where
  key : isIdempotencyKey key
  fingerprint : isSha256Text entry.requestFingerprint
  targetBound : entry.targetVersion ≤ targetVersion
  positive : 1 ≤ entry.recordVersion
  recordBound : entry.recordVersion ≤ targetVersion
  status : entry.status = 200

/-- What the loader relies on, for a warehouse of some capacity. -/
structure DurableTarget (capacity : Nat) (target : TargetState) : Prop where
  recordKeys : (target.records.map Prod.fst).Nodup
  recordRoom : target.records.length ≤ capacity
  records : ∀ item ∈ target.records,
    DurableRecord target.targetVersion item.1 item.2
  receiptKeys : (target.idempotency.map Prod.fst).Nodup
  receiptRoom : target.idempotency.length ≤ maxIdempotencyEntries
  receipts : ∀ item ∈ target.idempotency,
    DurableEntry target.targetVersion item.1 item.2
  effectKeys : (target.effectCommits.map Prod.fst).Nodup
  effects : ∀ item ∈ target.effectCommits,
    1 ≤ item.2 ∧ target.AppliedKey item.1
  total : (target.effectCommits.map Prod.snd).sum = target.targetVersion

/-- The whole state of a behavior, with the failures it has applied. -/
structure Durable (settings : WarehouseSettings) (state : WarehouseState) :
    Prop where
  target : DurableTarget settings.capacity state.target
  applied : ∀ failure ∈ state.applied,
    1 ≤ failure.sequence ∧ failure.sequence ≤ maxCounter

/-- A record outlives a growing target version. -/
theorem DurableRecord.mono {earlier later : Nat} {sku : Text}
    {record : StoredRecord} (durable : DurableRecord earlier sku record)
    (grows : earlier ≤ later) : DurableRecord later sku record :=
  { durable with version := durable.version.trans grows }

omit [JsonRuntime] in
theorem DurableEntry.mono {earlier later : Nat} {key : Text}
    {entry : IdempotencyEntry} (durable : DurableEntry earlier key entry)
    (grows : earlier ≤ later) : DurableEntry later key entry :=
  { durable with
    targetBound := durable.targetBound.trans grows
    recordBound := durable.recordBound.trans grows }

/-- What a well-formed request brings to the target. -/
structure SoundUpsert (upsert : UpsertRequest) : Prop where
  key : isIdempotencyKey upsert.key
  fingerprint : isSha256Text upsert.fingerprint
  payload : (JsonValue.object upsert.payload).WellRead

/-- A body that was read can be written and read again. -/
theorem readBody_wellRead {body : Bytes} {value : JsonValue}
    (read : readBody body = .ok (some value)) : value.WellRead := by
  simp only [readBody] at read
  split at read
  · cases read
  next decoded =>
    split at read
    next loaded =>
      cases read
      exact jsonLoads_wellRead (decodeUtf8_unicode decoded) loaded
    all_goals cases read

omit [JsonRuntime] in
/-- A request is fingerprinted by a digest. -/
theorem requestFingerprint_isSha256Text {method path : Text} {body : Bytes}
    {precondition : Option Text} {fingerprint : Text}
    (hashed : requestFingerprint method path body precondition =
      .ok fingerprint) : isSha256Text fingerprint := by
  simp only [requestFingerprint, bind_eq_ok] at hashed
  obtain ⟨_, _, _, _, _, _, same⟩ := hashed
  rw [← Except.ok.inj same]
  exact Domain.Digest.isSha256Text _

/-- The handler reads sound upserts only. -/
theorem readUpsert_sound {sku : Text} {request : HttpRequest}
    {upsert : UpsertRequest}
    (read : readUpsert sku request = .ok (.inr upsert)) :
    SoundUpsert upsert := by
  obtain ⟨_, canonical, bodyRead, hashed⟩ := readUpsert_eq_ok read
  exact ⟨canonical, requestFingerprint_isSha256Text hashed,
    readBody_wellRead bodyRead⟩

section Steps

variable {capacity : Nat} {sku : Text} {upsert : UpsertRequest}
  {before after : TargetState}

omit [JsonRuntime] in
theorem DurableTarget.appliedKey_mono
    {entry : IdempotencyEntry}
    (receipted : Receipted before upsert entry after) {key : Text}
    (applied : before.AppliedKey key) : after.AppliedKey key := by
  rw [receipted.appliedKey, if_neg]
  · exact applied
  · rintro rfl
    exact receipted.not_appliedKey applied

/-- An unchanged upsert leaves a receipt and nothing else. -/
theorem DurableTarget.settled (durable : DurableTarget capacity before)
    (sound : SoundUpsert upsert)
    (fresh : before.idempotency.lookup upsert.key = none)
    {existing : StoredRecord} {entry : IdempotencyEntry}
    (stored : before.records.lookup sku = some existing)
    (registry : before.idempotency.length < maxIdempotencyEntries)
    (form : entry = {
      requestFingerprint := upsert.fingerprint
      outcome := .unchanged
      targetVersion := before.targetVersion
      recordVersion := existing.recordVersion
      status := 200 }) :
    DurableTarget capacity (before.settle upsert.key entry) := by
  have record := durable.records (sku, existing)
    ((lookup_eq_some_iff_mem durable.recordKeys).mp stored)
  have receipted : Receipted before upsert entry
      (before.settle upsert.key entry) := ⟨fresh, rfl, by rw [form]⟩
  refine { durable with
    receiptKeys := nodup_alter durable.receiptKeys
    receiptRoom := (alter_length_le _ _ _).trans registry
    receipts := ?_
    effects := ?_ }
  · intro item member
    rw [TargetState.settle, mem_alter durable.receiptKeys] at member
    split at member
    next own =>
      rw [own, member, form]
      exact ⟨sound.key, sound.fingerprint, le_refl _, record.positive,
        record.version, rfl⟩
    next => exact durable.receipts item member
  · intro item member
    have effect := durable.effects item member
    exact ⟨effect.1, appliedKey_mono receipted effect.2⟩

/-- An applied upsert leaves a receipt, a record and an effect. -/
theorem DurableTarget.applied (durable : DurableTarget capacity before)
    (sound : SoundUpsert upsert) (canonical : skuPattern.fullmatch sku)
    (fresh : before.idempotency.lookup upsert.key = none)
    (room : before.records.lookup sku = none →
      before.records.length < capacity)
    (registry : before.idempotency.length < maxIdempotencyEntries) :
    DurableTarget capacity (before.effect sku upsert) := by
  have receipted : Receipted before upsert {
      requestFingerprint := upsert.fingerprint
      outcome := .applied
      targetVersion := before.targetVersion + 1
      recordVersion := before.recordVersion sku + 1
      status := 200 } (before.effect sku upsert) := ⟨fresh, rfl, rfl⟩
  have version : before.recordVersion sku ≤ before.targetVersion := by
    rw [TargetState.recordVersion]
    cases found : before.records.lookup sku with
    | none => exact Nat.zero_le _
    | some record =>
        exact (durable.records (sku, record)
          ((lookup_eq_some_iff_mem durable.recordKeys).mp found)).version
  refine {
    recordKeys := nodup_alter durable.recordKeys
    recordRoom := ?_
    records := ?_
    receiptKeys := nodup_alter durable.receiptKeys
    receiptRoom := (alter_length_le _ _ _).trans registry
    receipts := ?_
    effectKeys := nodup_alter durable.effectKeys
    effects := ?_
    total := ?_ }
  · have keys := congrArg List.length (keys_alter sku (fun existing => {
      payload := upsert.payload
      recordVersion :=
        (existing.map StoredRecord.recordVersion).getD 0 + 1 })
      before.records)
    rw [List.length_map] at keys
    refine (le_of_eq keys).trans ?_
    split
    next =>
      rw [List.length_map]
      exact durable.recordRoom
    next absent =>
      have space := room (lookup_eq_none_iff_notMem.mpr absent)
      simp only [List.length_append, List.length_map, List.length_singleton]
      omega
  · intro item member
    rw [TargetState.effect, mem_alter durable.recordKeys] at member
    split at member
    next own =>
      rw [own, member]
      exact ⟨canonical, Nat.le_add_left 1 _, Nat.succ_le_succ version,
        sound.payload⟩
    next => exact (durable.records item member).mono (Nat.le_succ _)
  · intro item member
    rw [TargetState.effect, mem_alter durable.receiptKeys] at member
    split at member
    next own =>
      rw [own, member]
      exact ⟨sound.key, sound.fingerprint, le_refl _, Nat.le_add_left 1 _,
        Nat.succ_le_succ version, rfl⟩
    next => exact (durable.receipts item member).mono (Nat.le_succ _)
  · intro item member
    rw [TargetState.effect, countKey, mem_alter durable.effectKeys] at member
    split at member
    next own =>
      rw [own, member]
      refine ⟨Nat.le_add_left 1 _, ?_⟩
      rw [receipted.appliedKey, if_pos rfl]
    next =>
      have effect := durable.effects item member
      exact ⟨effect.1, appliedKey_mono receipted effect.2⟩
  · rw [TargetState.effect, sum_countKey, durable.total]

/-- Whatever an upsert does, the target stays durable. -/
theorem DurableTarget.step (durable : DurableTarget capacity before)
    (sound : SoundUpsert upsert) (canonical : skuPattern.fullmatch sku)
    (fresh : before.idempotency.lookup upsert.key = none)
    (step : TargetStep capacity sku upsert before after) :
    DurableTarget capacity after := by
  cases step with
  | rejected => exact durable
  | settled stored registry form =>
      exact durable.settled sound fresh stored registry form
  | applied room registry =>
      exact durable.applied sound canonical fresh room registry

end Steps

variable {behavior : WarehouseBehavior} {state after : WarehouseState}

/-- Every request keeps what the loader relies on. -/
theorem Durable.step (durable : Durable behavior.settings state)
    {sku : Text} {request : HttpRequest} {response : PlannedResponse}
    (canonical : skuPattern.fullmatch sku)
    (handled : handleUpsert behavior sku request state =
      .ok (after, response)) : Durable behavior.settings after := by
  obtain ⟨entered, enters, moved⟩ := handleUpsert_step handled
  have applied : ∀ failure ∈ entered.applied,
      1 ≤ failure.sequence ∧ failure.sequence ≤ maxCounter := by
    rcases enters.applied with same | ⟨scripted, same⟩
    · rw [same]
      exact durable.applied
    · rw [same]
      intro failure member
      rcases List.mem_append.mp member with earlier | own
      · exact durable.applied failure earlier
      · rw [List.mem_singleton.mp own]
        exact scripted.sequence_bounds
  have target : DurableTarget behavior.settings.capacity entered.target := by
    rw [enters.target]
    exact durable.target
  rcases moved with rfl | ⟨upsert, read, fresh, step⟩
  · exact ⟨target, applied⟩
  · have receipts : entered.target.idempotency = state.idempotency :=
      congrArg TargetState.idempotency enters.target
    constructor
    · rw [← receipts] at fresh
      exact target.step (readUpsert_sound read) canonical fresh step.target
    · rw [step.applied]
      exact applied

/-! ## What the loader accepts -/

/-- The bounds that only the loader sets. -/
structure Loadable (state : WarehouseState) : Prop where
  positive : 1 ≤ state.targetVersion
  targetVersion : state.targetVersion ≤ maxCounter
  requestCount : state.requestCount ≤ maxCounter
  applied : state.applied.length ≤ maxStateItems
  payloads : ∀ item ∈ state.records,
    boundedPayload 0 (.object item.2.payload)

theorem wellRead_item {document : JsonValue} (read : document.WellRead)
    (key : String) : (item key document).WellRead := by
  rw [item]
  cases found : document.field (text key) with
  | none => trivial
  | some value =>
      cases document with
      | object fields =>
          exact (JsonValue.wellReadFields_iff.mp read.2 _
            (mem_of_lookup found)).2
      | _ => cases found

/-- A loaded record is durable. -/
theorem stateRecord_sound {targetVersion : Nat} {entry : Text × JsonValue}
    {result : Text × StoredRecord} (read : entry.2.WellRead)
    (loaded : stateRecord targetVersion entry = .ok result) :
    result.1 = entry.1 ∧ DurableRecord targetVersion result.1 result.2 ∧
      boundedPayload 0 (.object result.2.payload) := by
  obtain ⟨sku, document⟩ := entry
  simp only [stateRecord, bind_eq_ok, require_eq_ok, Bool.and_eq_true]
    at loaded
  obtain ⟨_, ⟨canonical, _⟩, payload, checked, loaded⟩ := loaded
  obtain ⟨bounded, same⟩ := (stateJsonValue_eq_ok _).mp checked
  cases payload with
  | object fields =>
      simp only [bind_eq_ok, require_eq_ok, decide_eq_true_eq] at loaded
      obtain ⟨version, counted, _, below, form⟩ := loaded
      cases form
      obtain ⟨_, positive, _⟩ := stateCounter_eq_ok counted (by decide)
      have atLeast : 1 ≤ version := by exact_mod_cast positive
      have payloadRead := wellRead_item read "payload"
      rw [← same] at bounded payloadRead
      exact ⟨rfl, ⟨canonical, atLeast, below, payloadRead⟩, bounded⟩
  | _ => cases loaded

theorem stateRecords_sound {targetVersion : Nat}
    {settings : WarehouseSettings} {document : JsonValue}
    {records : List (Text × StoredRecord)} (read : document.WellRead)
    (loaded : stateRecords targetVersion settings document = .ok records) :
    (records.map Prod.fst).Nodup ∧ records.length ≤ settings.capacity ∧
      ∀ item ∈ records, DurableRecord targetVersion item.1 item.2 ∧
        boundedPayload 0 (.object item.2.payload) := by
  cases document with
  | object entries =>
      simp only [stateRecords, bind_eq_ok, require_eq_ok,
        decide_eq_true_eq] at loaded
      obtain ⟨_, room, _, returned, _, _, form⟩ := loaded
      cases form
      have inside := JsonValue.wellReadFields_iff.mp read.2
      have keys : records.map Prod.fst = entries.map Prod.fst :=
        mapM_keeps (fun entry member result loaded =>
          (stateRecord_sound (inside entry member).2 loaded).1) returned
      refine ⟨keys ▸ read.1, ?_, ?_⟩
      · have lengths := congrArg List.length keys
        simp only [List.length_map] at lengths
        omega
      · intro record member
        obtain ⟨entry, source, loaded⟩ := mapM_origin returned member
        exact (stateRecord_sound (inside entry source).2 loaded).2
  | _ => cases loaded

omit [JsonRuntime] in
/-- A loaded receipt is durable. -/
theorem stateEntry_sound {targetVersion : Nat} {entry : Text × JsonValue}
    {result : Text × IdempotencyEntry}
    (loaded : stateEntry targetVersion entry = .ok result) :
    result.1 = entry.1 ∧ DurableEntry targetVersion result.1 result.2 := by
  obtain ⟨key, document⟩ := entry
  simp only [stateEntry, bind_eq_ok, require_eq_ok, Bool.and_eq_true]
    at loaded
  obtain ⟨_, ⟨canonical, _⟩, loaded⟩ := loaded
  split at loaded
  next => cases loaded
  next fingerprint outcome identity =>
    simp only [bind_eq_ok, require_eq_ok, Bool.and_eq_true,
      decide_eq_true_eq] at loaded
    obtain ⟨_, _, version, counted, _, below, form⟩ := loaded
    cases form
    obtain ⟨_, positive, _⟩ := stateCounter_eq_ok counted (by decide)
    have hashed : isSha256Text fingerprint := by
      simp only [receiptIdentity] at identity
      split at identity
      next =>
        split at identity
        next valid =>
          cases identity
          exact (Bool.and_eq_true _ _ ▸ valid).1
        next => cases identity
      next => cases identity
    have atLeast : 1 ≤ version := by exact_mod_cast positive
    exact ⟨rfl, canonical, hashed, below.1, atLeast, below.2, rfl⟩

theorem stateIdempotency_sound {targetVersion : Nat} {document : JsonValue}
    {receipts : List (Text × IdempotencyEntry)} (read : document.WellRead)
    (loaded : stateIdempotency targetVersion document = .ok receipts) :
    (receipts.map Prod.fst).Nodup ∧
      receipts.length ≤ maxIdempotencyEntries ∧
      ∀ item ∈ receipts, DurableEntry targetVersion item.1 item.2 := by
  cases document with
  | object entries =>
      simp only [stateIdempotency, bind_eq_ok, require_eq_ok,
        decide_eq_true_eq] at loaded
      obtain ⟨_, room, returned⟩ := loaded
      have keys : receipts.map Prod.fst = entries.map Prod.fst :=
        mapM_keeps (fun entry member result loaded =>
          (stateEntry_sound loaded).1) returned
      refine ⟨keys ▸ read.1, ?_, ?_⟩
      · have lengths := congrArg List.length keys
        simp only [List.length_map] at lengths
        omega
      · intro receipt member
        obtain ⟨entry, source, loaded⟩ := mapM_origin returned member
        exact (stateEntry_sound loaded).2
  | _ => cases loaded

omit [JsonRuntime] in
/-- A loaded effect has a receipt that applied. -/
theorem stateEffect_sound {receipts : List (Text × IdempotencyEntry)}
    {entry : Text × JsonValue} {result : Text × Nat}
    (loaded : stateEffect receipts entry = .ok result) :
    result.1 = entry.1 ∧ 1 ≤ result.2 ∧
      ∃ stored, receipts.lookup result.1 = some stored ∧
        stored.outcome = .applied := by
  simp only [stateEffect, bind_eq_ok, require_eq_ok] at loaded
  obtain ⟨_, applied, count, counted, form⟩ := loaded
  cases form
  obtain ⟨_, positive, _⟩ := stateCounter_eq_ok counted (by decide)
  obtain ⟨stored, found, outcome⟩ := (Option.any_eq_true _ _).mp applied
  exact ⟨rfl, by omega, stored, found, beq_iff_eq.mp outcome⟩

theorem stateEffectCommits_sound {targetVersion : Nat}
    {receipts : List (Text × IdempotencyEntry)} {document : JsonValue}
    {effects : List (Text × Nat)} (read : document.WellRead)
    (loaded : stateEffectCommits receipts targetVersion document =
      .ok effects) :
    (effects.map Prod.fst).Nodup ∧
      (effects.map Prod.snd).sum = targetVersion ∧
      ∀ item ∈ effects, 1 ≤ item.2 ∧
        ∃ stored, receipts.lookup item.1 = some stored ∧
          stored.outcome = .applied := by
  cases document with
  | object entries =>
      simp only [stateEffectCommits, bind_eq_ok, require_eq_ok,
        beq_iff_eq] at loaded
      obtain ⟨_, _, _, returned, _, total, form⟩ := loaded
      cases form
      have keys : effects.map Prod.fst = entries.map Prod.fst :=
        mapM_keeps (fun entry member result loaded =>
          (stateEffect_sound loaded).1) returned
      refine ⟨keys ▸ read.1, total, ?_⟩
      intro effect member
      obtain ⟨entry, source, loaded⟩ := mapM_origin returned member
      exact (stateEffect_sound loaded).2
  | _ => cases loaded

omit [JsonRuntime] in
theorem stateAppliedFailures_sound {document : JsonValue}
    {applied : List AppliedFailure}
    (loaded : stateAppliedFailures document = .ok applied) :
    applied.length ≤ maxStateItems ∧ ∀ failure ∈ applied,
      1 ≤ failure.sequence ∧ failure.sequence ≤ maxCounter := by
  cases document with
  | array entries =>
      simp only [stateAppliedFailures, bind_eq_ok, require_eq_ok,
        decide_eq_true_eq] at loaded
      obtain ⟨_, room, returned⟩ := loaded
      have lengths := congrArg List.length (mapM_eq_ok.mp returned)
      simp only [List.length_map] at lengths
      refine ⟨by omega, ?_⟩
      intro failure member
      obtain ⟨entry, _, loaded⟩ := mapM_origin returned member
      simp only [stateAppliedFailure, bind_eq_ok, require_eq_ok] at loaded
      obtain ⟨_, _, sequence, counted, loaded⟩ := loaded
      obtain ⟨_, positive, small⟩ := stateCounter_eq_ok counted (by decide)
      split at loaded
      next =>
        split at loaded
        next =>
          cases loaded
          have bound : (sequence : Int) ≤ maxCounter := by
            exact_mod_cast small
          exact ⟨positive, bound⟩
        next => cases loaded
      next => cases loaded
  | _ => cases loaded

/-- The loader establishes all that it relies on, and its own bounds. -/
theorem stateOfDocument_sound {settings : WarehouseSettings} {raw : Bytes}
    {document : JsonValue} {state : WarehouseState}
    (read : document.WellRead)
    (loaded : stateOfDocument settings raw document = .ok state) :
    Durable settings state ∧ Loadable state := by
  simp only [stateOfDocument, bind_eq_ok] at loaded
  obtain ⟨_, _, _, _, targetVersion, versionRead, requestCount, countRead,
    records, recordsRead, receipts, receiptsRead, effects, effectsRead,
    applied, appliedRead, form⟩ := loaded
  cases form
  obtain ⟨_, positive, versionSmall⟩ :=
    stateCounter_eq_ok versionRead (by decide)
  obtain ⟨_, _, countSmall⟩ := stateCounter_eq_ok countRead (by decide)
  obtain ⟨recordKeys, recordRoom, recordsSound⟩ :=
    stateRecords_sound (wellRead_item read "records") recordsRead
  obtain ⟨receiptKeys, receiptRoom, receiptsSound⟩ :=
    stateIdempotency_sound (wellRead_item read "idempotency") receiptsRead
  obtain ⟨effectKeys, total, effectsSound⟩ :=
    stateEffectCommits_sound (wellRead_item read "effect_commits")
      effectsRead
  obtain ⟨appliedRoom, appliedSound⟩ :=
    stateAppliedFailures_sound appliedRead
  exact ⟨{
    target := {
      recordKeys
      recordRoom
      records := fun item member => (recordsSound item member).1
      receiptKeys
      receiptRoom
      receipts := receiptsSound
      effectKeys
      effects := effectsSound
      total }
    applied := appliedSound }, {
    positive := by exact_mod_cast positive
    targetVersion := versionSmall
    requestCount := countSmall
    applied := appliedRoom
    payloads := fun item member => (recordsSound item member).2 }⟩

/-- What is loaded from a state file is durable. -/
theorem loadPersistedState_sound {settings : WarehouseSettings}
    {raw : Bytes} {state : WarehouseState}
    (loaded : loadPersistedState settings raw = .ok state) :
    Durable settings state ∧ Loadable state := by
  simp only [loadPersistedState, bind_eq_ok] at loaded
  obtain ⟨_, _, document, bodyRead, loaded⟩ := loaded
  split at loaded
  · cases loaded
  · exact stateOfDocument_sound (readBody_wellRead bodyRead) loaded
  · cases loaded

/-! ## Reading back what was written -/

/-- The record with the keys of its payload in order. -/
def StoredRecord.keySorted (record : StoredRecord) : StoredRecord :=
  { record with
    payload := (JsonValue.sortFields record.payload).insertionSort fieldLe }

/-- The same state, with every dictionary in key order. -/
def WarehouseState.keySorted (state : WarehouseState) : WarehouseState :=
  { state with
    records := (sortedBy Prod.fst state.records).map fun item =>
      (item.1, item.2.keySorted)
    idempotency := sortedBy Prod.fst state.idempotency
    effectCommits := sortedBy Prod.fst state.effectCommits }

/-- A written record is read back. -/
theorem stateRecord_written {targetVersion : Nat}
    (small : targetVersion ≤ maxCounter) {sku : Text} {record : StoredRecord}
    (durable : DurableRecord targetVersion sku record)
    (bounded : boundedPayload 0 (.object record.payload)) :
    stateRecord targetVersion (sku, (recordDocument record).sortKeys) =
      .ok (sku, record.keySorted) := by
  have payload : item "payload" (recordDocument record).sortKeys =
      .object record.keySorted.payload := by
    rw [item_sortKeys]
    rfl
  have version : item "record_version" (recordDocument record).sortKeys =
      .int record.recordVersion := by
    rw [item_sortKeys]
    simp [item, recordDocument, JsonValue.field, List.lookup]
  have keys : hasKeys [text "payload", text "record_version"]
      (recordDocument record).sortKeys := hasKeys_written rfl
  have inside : boundedPayload 0 (.object record.keySorted.payload) := by
    have sorted := boundedPayload_sortKeys (.object record.payload) 0
    rw [JsonValue.sortKeys] at sorted
    exact sorted.trans bounded
  simp only [stateRecord, durable.sku, keys, Bool.and_self, require_true,
    ok_bind, payload]
  rw [(stateJsonValue_eq_ok _).mpr ⟨inside, rfl⟩, ok_bind]
  dsimp only
  rw [version, stateCounter_ok (by exact_mod_cast durable.positive)
    (durable.version.trans small), ok_bind]
  simp only [durable.version, decide_true, require_true, ok_bind]
  rfl

theorem stateRecords_written {settings : WarehouseSettings}
    {state : WarehouseState} (durable : Durable settings state)
    (loadable : Loadable state) :
    stateRecords state.targetVersion settings
        (sortedDocument recordDocument state.records).sortKeys =
      .ok state.keySorted.records := by
  have room : ((sortedBy Prod.fst state.records).map fun item =>
      (item.1, (recordDocument item.2).sortKeys)).length ≤
        settings.capacity := by
    rw [List.length_map, sortedBy_length]
    exact durable.target.recordRoom
  have positive : (state.targetVersion != 0) = true := by
    have := loadable.positive
    simp only [bne_iff_ne]
    omega
  have returned : ((sortedBy Prod.fst state.records).map fun item =>
      (item.1, (recordDocument item.2).sortKeys)).mapM
        (stateRecord state.targetVersion) = .ok state.keySorted.records := by
    rw [mapM_eq_ok, WarehouseState.keySorted, List.map_map, List.map_map]
    refine List.map_congr_left fun record member => ?_
    have inside := mem_sortedBy.mp member
    exact stateRecord_written loadable.targetVersion
      (durable.target.records record inside) (loadable.payloads record inside)
  rw [sortedDocument_sortKeys]
  simp only [stateRecords, room, decide_true, require_true, ok_bind,
    returned, positive, Bool.true_or]
  rfl

omit [JsonRuntime] in
/-- A written receipt is read back. -/
theorem stateEntry_written {targetVersion : Nat}
    (small : targetVersion ≤ maxCounter) {key : Text}
    {entry : IdempotencyEntry}
    (durable : DurableEntry targetVersion key entry) :
    stateEntry targetVersion (key, (entryDocument entry).sortKeys) =
      .ok (key, entry) := by
  have value (name : String) : item name (entryDocument entry).sortKeys =
      (item name (entryDocument entry)).sortKeys := item_sortKeys name _
  have keys : hasKeys entryKeys (entryDocument entry).sortKeys :=
    hasKeys_written rfl
  have identity : receiptIdentity (entryDocument entry).sortKeys =
      some (entry.requestFingerprint, entry.outcome) := by
    have fingerprint : item "request_fingerprint"
        (entryDocument entry).sortKeys = .string entry.requestFingerprint := by
      rw [value]
      simp [item, entryDocument, JsonValue.field, List.lookup]
    have outcome : item "outcome" (entryDocument entry).sortKeys =
        .string entry.outcome.value := by
      rw [value]
      simp [item, entryDocument, JsonValue.field, List.lookup]
    have status : equalsNumber 200 (item "status"
        (entryDocument entry).sortKeys) := by
      rw [value]
      simp [item, entryDocument, JsonValue.field, List.lookup, equalsNumber,
        durable.status]
    simp only [receiptIdentity, fingerprint, outcome, status,
      UpsertOutcome.ofValue_value, durable.fingerprint, Bool.and_self,
      if_true]
  have target : item "target_version" (entryDocument entry).sortKeys =
      .int entry.targetVersion := by
    rw [value]
    simp [item, entryDocument, JsonValue.field, List.lookup]
  have version : item "record_version" (entryDocument entry).sortKeys =
      .int entry.recordVersion := by
    rw [value]
    simp [item, entryDocument, JsonValue.field, List.lookup]
  simp only [stateEntry, durable.key, keys, Bool.and_self, require_true,
    ok_bind, identity, target, version]
  rw [stateCounter_ok (by omega) (durable.targetBound.trans small), ok_bind,
    stateCounter_ok (by exact_mod_cast durable.positive)
      (durable.recordBound.trans small), ok_bind]
  simp only [durable.targetBound, durable.recordBound, decide_true,
    Bool.and_self, require_true, ok_bind]
  rw [← durable.status]
  rfl

theorem stateIdempotency_written {settings : WarehouseSettings}
    {state : WarehouseState} (durable : Durable settings state)
    (loadable : Loadable state) :
    stateIdempotency state.targetVersion
        (sortedDocument entryDocument state.idempotency).sortKeys =
      .ok state.keySorted.idempotency := by
  have room : ((sortedBy Prod.fst state.idempotency).map fun item =>
      (item.1, (entryDocument item.2).sortKeys)).length ≤
        maxIdempotencyEntries := by
    rw [List.length_map, sortedBy_length]
    exact durable.target.receiptRoom
  rw [sortedDocument_sortKeys]
  simp only [stateIdempotency, room, decide_true, require_true, ok_bind]
  rw [mapM_eq_ok, List.map_map]
  refine List.map_congr_left fun entry member => ?_
  exact stateEntry_written loadable.targetVersion
    (durable.target.receipts entry (mem_sortedBy.mp member))

/-- Every effect has a receipt, so there are no more effects than receipts. -/
theorem DurableTarget.effectRoom {capacity : Nat} {target : TargetState}
    (durable : DurableTarget capacity target) :
    target.effectCommits.length ≤ maxIdempotencyEntries := by
  have inside : (target.effectCommits.map Prod.fst).Subperm
      (target.idempotency.map Prod.fst) := by
    refine List.subperm_of_subset durable.effectKeys fun key member => ?_
    obtain ⟨effect, source, rfl⟩ := List.mem_map.mp member
    obtain ⟨_, stored, found, _⟩ := durable.effects effect source
    exact List.mem_map.mpr ⟨_, mem_of_lookup found, rfl⟩
  have fewer := inside.length_le
  rw [List.length_map, List.length_map] at fewer
  exact fewer.trans durable.receiptRoom

/-- No effect count exceeds the target version. -/
theorem Durable.effectBound {settings : WarehouseSettings}
    {state : WarehouseState} (durable : Durable settings state)
    (loadable : Loadable state) {effect : Text × Nat}
    (member : effect ∈ state.effectCommits) : effect.2 ≤ maxCounter := by
  have counts : effect.2 ∈ state.effectCommits.map Prod.snd :=
    List.mem_map.mpr ⟨effect, member, rfl⟩
  have apart := (List.perm_cons_erase counts).sum_nat
  have total : (state.effectCommits.map Prod.snd).sum =
      state.targetVersion := durable.target.total
  have whole := loadable.targetVersion
  rw [total, List.sum_cons] at apart
  omega

/-- The written effects are read back. -/
theorem stateEffectCommits_written {settings : WarehouseSettings}
    {state : WarehouseState} (durable : Durable settings state)
    (loadable : Loadable state) :
    stateEffectCommits state.keySorted.idempotency state.targetVersion
        (sortedDocument (fun count : Nat => .int count)
          state.effectCommits).sortKeys =
      .ok state.keySorted.effectCommits := by
  have total : ((sortedBy Prod.fst state.effectCommits).map Prod.snd).sum =
      state.targetVersion := by
    rw [((sortedBy_perm Prod.fst state.effectCommits).map Prod.snd).sum_nat]
    exact durable.target.total
  have room : ((sortedBy Prod.fst state.effectCommits).map fun item =>
      (item.1, (JsonValue.int (item.2 : Nat)).sortKeys)).length ≤
        maxIdempotencyEntries := by
    rw [List.length_map, sortedBy_length]
    exact durable.target.effectRoom
  have returned : ((sortedBy Prod.fst state.effectCommits).map fun item =>
      (item.1, (JsonValue.int (item.2 : Nat)).sortKeys)).mapM
        (stateEffect state.keySorted.idempotency) =
          .ok state.keySorted.effectCommits := by
    rw [mapM_eq_ok, List.map_map]
    refine List.map_congr_left fun effect member => ?_
    have source : effect ∈ state.target.effectCommits :=
      mem_sortedBy.mp member
    obtain ⟨positive, stored, found, outcome⟩ :=
      durable.target.effects effect source
    have sorted : state.keySorted.idempotency.lookup effect.1 =
        some stored :=
      (lookup_sortedBy durable.target.receiptKeys effect.1).trans found
    have small := durable.effectBound loadable source
    simp only [Function.comp_apply, stateEffect, sorted, Option.any_some,
      outcome, beq_self_eq_true, require_true, ok_bind,
      JsonValue.sortKeys_scalar]
    rw [stateCounter_ok (by exact_mod_cast positive) small]
    rfl
  rw [sortedDocument_sortKeys]
  simp only [stateEffectCommits, room, decide_true, require_true, ok_bind,
    returned]
  simp only [WarehouseState.keySorted, total, beq_self_eq_true, require_true,
    ok_bind]
  rfl

omit [JsonRuntime] in
theorem stateAppliedFailure_written {failure : AppliedFailure}
    (positive : 1 ≤ failure.sequence)
    (small : failure.sequence ≤ maxCounter) :
    stateAppliedFailure (appliedDocument failure).sortKeys = .ok failure := by
  have value (name : String) :
      item name (appliedDocument failure).sortKeys =
        (item name (appliedDocument failure)).sortKeys := item_sortKeys name _
  have keys : hasKeys [text "kind", text "sequence"]
      (appliedDocument failure).sortKeys := hasKeys_written rfl
  have sequence : item "sequence" (appliedDocument failure).sortKeys =
      .int failure.sequence.toNat := by
    rw [value, show (failure.sequence.toNat : Int) = failure.sequence by
      omega]
    simp [item, appliedDocument, JsonValue.field, List.lookup]
  have kind : item "kind" (appliedDocument failure).sortKeys =
      .string failure.kind.value := by
    rw [value]
    simp [item, appliedDocument, JsonValue.field, List.lookup]
  simp only [stateAppliedFailure, keys, require_true, ok_bind, sequence, kind]
  rw [stateCounter_ok (by omega) (by omega), ok_bind]
  simp only [ScriptedFailureKind.ofValue_value]
  rw [show (failure.sequence.toNat : Int) = failure.sequence by omega]
  rfl

omit [JsonRuntime] in
theorem stateAppliedFailures_written {applied : List AppliedFailure}
    (room : applied.length ≤ maxStateItems)
    (valid : ∀ failure ∈ applied,
      1 ≤ failure.sequence ∧ failure.sequence ≤ maxCounter) :
    stateAppliedFailures
        (JsonValue.array (applied.map appliedDocument)).sortKeys =
      .ok applied := by
  have items : (applied.map appliedDocument).map JsonValue.sortKeys =
      applied.map fun failure => (appliedDocument failure).sortKeys := by
    rw [List.map_map]
    rfl
  rw [JsonValue.sortKeys_array, items]
  simp only [stateAppliedFailures, List.length_map, room, decide_true,
    require_true, ok_bind]
  rw [mapM_eq_ok, List.map_map]
  refine List.map_congr_left fun failure member => ?_
  exact stateAppliedFailure_written (valid failure member).1
    (valid failure member).2

/-- A written state is read back, with its keys sorted. -/
theorem stateOfDocument_written {settings : WarehouseSettings}
    {state : WarehouseState} (durable : Durable settings state)
    (loadable : Loadable state) (raw : Bytes) :
    stateOfDocument settings raw state.document.sortKeys =
      .ok { state.keySorted with stateFile := some raw } := by
  have value (name : String) : item name state.document.sortKeys =
      (item name state.document).sortKeys := item_sortKeys name _
  have keys : hasKeys documentKeys state.document.sortKeys :=
    hasKeys_written rfl
  have format : isStateFormat (item "format" state.document.sortKeys) := by
    rw [value]
    simp [item, WarehouseState.document, JsonValue.field, List.lookup,
      isStateFormat]
  have version : equalsNumber 1 (item "version" state.document.sortKeys) := by
    rw [value]
    simp [item, WarehouseState.document, JsonValue.field, List.lookup,
      equalsNumber]
  have targetVersion : item "target_version" state.document.sortKeys =
      .int state.targetVersion := by
    rw [value]
    simp [item, WarehouseState.document, JsonValue.field, List.lookup]
  have requestCount : item "request_count" state.document.sortKeys =
      .int state.requestCount := by
    rw [value]
    simp [item, WarehouseState.document, JsonValue.field, List.lookup]
  have records : item "records" state.document.sortKeys =
      (sortedDocument recordDocument state.records).sortKeys := by
    rw [value]
    simp [item, WarehouseState.document, JsonValue.field, List.lookup]
  have receipts : item "idempotency" state.document.sortKeys =
      (sortedDocument entryDocument state.idempotency).sortKeys := by
    rw [value]
    simp [item, WarehouseState.document, JsonValue.field, List.lookup]
  have effects : item "effect_commits" state.document.sortKeys =
      (sortedDocument (fun count : Nat => .int count)
        state.effectCommits).sortKeys := by
    rw [value]
    simp [item, WarehouseState.document, JsonValue.field, List.lookup]
  have applied : item "applied_failures" state.document.sortKeys =
      (JsonValue.array (state.applied.map appliedDocument)).sortKeys := by
    rw [value]
    simp [item, WarehouseState.document, JsonValue.field, List.lookup]
  simp only [stateOfDocument, keys, format, version, Bool.and_self,
    require_true, ok_bind, targetVersion, requestCount, records, receipts,
    effects, applied]
  rw [stateCounter_ok (by exact_mod_cast loadable.positive)
      loadable.targetVersion, ok_bind,
    stateCounter_ok (by omega) loadable.requestCount, ok_bind,
    stateRecords_written durable loadable, ok_bind,
    stateIdempotency_written durable loadable, ok_bind,
    stateEffectCommits_written durable loadable, ok_bind,
    stateAppliedFailures_written loadable.applied durable.applied, ok_bind]
  rfl

/-! ## The written document can be read -/

theorem wellRead_number {value : Int} (small : value.natAbs ≤ maxCounter) :
    (JsonValue.int value).WellRead := by
  show (decimal value.natAbs).length ≤ 4300
  have short : (decimal value.natAbs).length ≤ 10 :=
    (decimal_length_le (by decide)).mpr
      (small.trans_lt (by decide : maxCounter < 10 ^ 10))
  omega

theorem wellRead_counter {counter : Nat} (small : counter ≤ maxCounter) :
    (JsonValue.int counter).WellRead :=
  wellRead_number (by rwa [Int.natAbs_natCast])

theorem wellRead_sortedDocument {α : Type} {write : α → JsonValue}
    {d : List (Text × α)} (distinct : (d.map Prod.fst).Nodup)
    (keys : ∀ item ∈ d, paired item.1)
    (values : ∀ item ∈ d, (write item.2).WellRead) :
    (sortedDocument write d).WellRead := by
  refine ⟨?_, JsonValue.wellReadFields_iff.mpr fun entry member => ?_⟩
  · rw [List.map_map]
    exact ((sortedBy_perm Prod.fst d).map Prod.fst).nodup_iff.mpr distinct
  · obtain ⟨item, source, rfl⟩ := List.mem_map.mp member
    have inside := mem_sortedBy.mp source
    exact ⟨keys item inside, values item inside⟩

theorem recordDocument_wellRead {targetVersion : Nat}
    (small : targetVersion ≤ maxCounter) {sku : Text} {record : StoredRecord}
    (durable : DurableRecord targetVersion sku record) :
    (recordDocument record).WellRead :=
  ⟨(by decide : [text "payload", text "record_version"].Nodup),
    paired_text _, durable.payload, paired_text _,
    wellRead_counter (durable.version.trans small), trivial⟩

theorem entryDocument_wellRead {targetVersion : Nat}
    (small : targetVersion ≤ maxCounter) {key : Text}
    {entry : IdempotencyEntry}
    (durable : DurableEntry targetVersion key entry) :
    (entryDocument entry).WellRead := by
  have outcome : paired entry.outcome.value := by
    cases entry.outcome <;> exact paired_text _
  have status : (JsonValue.int entry.status).WellRead := by
    rw [durable.status]
    exact wellRead_counter (by decide)
  exact ⟨(by decide : entryKeys.Nodup), paired_text _, outcome, paired_text _,
    wellRead_counter (durable.recordBound.trans small), paired_text _,
    paired_of_ascii (isSha256Text_ascii durable.fingerprint), paired_text _,
    status, paired_text _,
    wellRead_counter (durable.targetBound.trans small), trivial⟩

theorem appliedDocument_wellRead {failure : AppliedFailure}
    (positive : 1 ≤ failure.sequence)
    (small : failure.sequence ≤ maxCounter) :
    (appliedDocument failure).WellRead := by
  have kind : paired failure.kind.value := by
    cases failure.kind <;> exact paired_text _
  exact ⟨(by decide : [text "kind", text "sequence"].Nodup),
    paired_text _, kind, paired_text _,
    wellRead_number (by omega), trivial⟩

/-- The document of a state survives writing and reading. -/
theorem document_wellRead {settings : WarehouseSettings}
    {state : WarehouseState} (durable : Durable settings state)
    (loadable : Loadable state) : state.document.WellRead := by
  have small := loadable.targetVersion
  have applied : (JsonValue.array
      (state.applied.map appliedDocument)).WellRead := by
    refine JsonValue.wellReadItems_iff.mpr fun document member => ?_
    obtain ⟨failure, source, rfl⟩ := List.mem_map.mp member
    exact appliedDocument_wellRead (durable.applied failure source).1
      (durable.applied failure source).2
  have records : (sortedDocument recordDocument state.records).WellRead :=
    wellRead_sortedDocument durable.target.recordKeys
      (fun item member => paired_of_ascii
        (skuPattern_ascii.fullmatch_all (durable.target.records item member).sku))
      fun item member => recordDocument_wellRead small
        (durable.target.records item member)
  have receiptKey (item : Text × IdempotencyEntry)
      (member : item ∈ state.idempotency) : paired item.1 :=
    paired_of_ascii
      (isIdempotencyKey_ascii (durable.target.receipts item member).key)
  have receipts :
      (sortedDocument entryDocument state.idempotency).WellRead :=
    wellRead_sortedDocument durable.target.receiptKeys receiptKey
      fun item member => entryDocument_wellRead small
        (durable.target.receipts item member)
  have effects : (sortedDocument (fun count : Nat => .int count)
      state.effectCommits).WellRead := by
    refine wellRead_sortedDocument durable.target.effectKeys ?_ ?_
    · intro effect member
      obtain ⟨_, stored, found, _⟩ := durable.target.effects effect member
      exact receiptKey (effect.1, stored) (mem_of_lookup found)
    · intro effect member
      exact wellRead_counter (durable.effectBound loadable member)
  exact ⟨(by decide : documentKeys.Nodup), paired_text _, applied, paired_text _, effects,
    paired_text _, paired_text _, paired_text _, receipts, paired_text _,
    records, paired_text _, wellRead_counter loadable.requestCount,
    paired_text _, wellRead_counter small, paired_text _,
    wellRead_counter (by decide), trivial⟩

omit [JsonRuntime] in
/-- It nests no deeper than a payload and four levels. -/
theorem document_nests {state : WarehouseState} (loadable : Loadable state) :
    state.document.nests (maxStateDepth + 4) := by
  have applied : (JsonValue.array (state.applied.map appliedDocument)).nests
      (maxStateDepth + 3) := by
    refine JsonValue.nestsItems_iff.mpr fun document member => ?_
    obtain ⟨failure, _, rfl⟩ := List.mem_map.mp member
    rfl
  have records : (sortedDocument recordDocument state.records).nests
      (maxStateDepth + 3) := by
    refine nests_sortedDocument fun item member => ?_
    have payload := nests_of_bounded _ (loadable.payloads item member)
    show JsonValue.nestsFields (maxStateDepth + 1) _
    simp only [JsonValue.nestsFields, Bool.and_eq_true]
    exact ⟨payload, by simp [JsonValue.nests], trivial⟩
  have receipts : (sortedDocument entryDocument state.idempotency).nests
      (maxStateDepth + 3) :=
    nests_sortedDocument fun _ _ => rfl
  have effects : (sortedDocument (fun count : Nat => .int count)
      state.effectCommits).nests (maxStateDepth + 3) :=
    nests_sortedDocument fun _ _ => rfl
  show JsonValue.nestsFields (maxStateDepth + 3) _
  simp only [JsonValue.nestsFields, applied, records, receipts, effects,
    Bool.true_and]
  rfl

/-! ## Durability -/

/-- Upserts that do not raise, from any state that a behavior starts from. -/
def durableSystem (behavior : WarehouseBehavior) :
    TransitionSystem WarehouseState HttpRequest where
  Initial state := ∃ stateFile, behavior.start stateFile = .ok state
  Step state request next :=
    ∃ sku response, upsertSku request = some sku ∧
      handleUpsert behavior sku request state = .ok (next, response)

theorem Durable.fresh (settings : WarehouseSettings) :
    Durable settings .fresh := by
  refine ⟨{
    recordKeys := List.nodup_nil
    recordRoom := Nat.zero_le _
    records := ?_
    receiptKeys := List.nodup_nil
    receiptRoom := Nat.zero_le _
    receipts := ?_
    effectKeys := List.nodup_nil
    effects := ?_
    total := rfl }, ?_⟩
  all_goals
    intro item impossible
    cases impossible

/-- A server starts in a durable state. -/
theorem start_durable {stateFile : Option Bytes}
    (started : behavior.start stateFile = .ok state) :
    Durable behavior.settings state := by
  simp only [WarehouseBehavior.start] at started
  split at started
  · exact (loadPersistedState_sound started).1
  · cases started
    exact .fresh _

omit [JsonRuntime] in
/-- Only a canonical SKU is addressed. -/
theorem upsertSku_canonical {request : HttpRequest} {sku : Text}
    (addressed : upsertSku request = some sku) :
    skuPattern.fullmatch sku := by
  simp only [upsertSku] at addressed
  split at addressed
  next route =>
    cases addressed
    simp only [Bool.and_eq_true] at route
    exact route.1.2
  next => cases addressed

/-- Every reachable state is one that the loader could rely on. -/
theorem reachable_durable
    (reached : (durableSystem behavior).Reachable state) :
    Durable behavior.settings state := by
  refine reached.invariant ?_ ?_
  · rintro state ⟨stateFile, started⟩
    exact start_durable started
  · rintro state request next _ durable ⟨sku, response, addressed, handled⟩
    exact durable.step (upsertSku_canonical addressed) handled

/-- The document of a state within the bounds is read back as the state. -/
theorem loadPersistedState_written (durable : Durable behavior.settings state)
    (loadable : Loadable state) {payload : Text}
    (dumped : jsonDumps state.document = .ok payload)
    (room : payload.length ≤ maxStateBytes) :
    loadPersistedState behavior.settings (encodeAscii payload) =
      .ok { state.keySorted with stateFile := some (encodeAscii payload) } := by
  have short : (encodeAscii payload).length ≤ maxStateBytes := by
    rw [encodeAscii, List.length_map]
    exact room
  have loads := jsonLoads_jsonDumps (document_wellRead durable loadable)
    (document_nests loadable)
    ((by decide : maxStateDepth + 4 ≤ 100).trans
      JsonRuntime.jsonReadingLimit_large) dumped
  have body : readBody (encodeAscii payload) =
      .ok (some state.document.sortKeys) := by
    rw [readBody, decodeUtf8_encodeAscii (jsonDumps_ascii dumped)]
    simp only [loads]
  have returned := stateOfDocument_written durable loadable
    (encodeAscii payload)
  obtain ⟨fields, form⟩ :
      ∃ fields, state.document.sortKeys = .object fields := ⟨_, rfl⟩
  rw [form] at body returned
  simp only [loadPersistedState, short, decide_true, require_true, ok_bind,
    body, returned]

omit [JsonRuntime] in
theorem loadable_of_keySorted (loadable : Loadable state.keySorted) :
    Loadable state where
  positive := loadable.positive
  targetVersion := loadable.targetVersion
  requestCount := loadable.requestCount
  applied := loadable.applied
  payloads item member := by
    have sorted := loadable.payloads (item.1, item.2.keySorted)
      (List.mem_map.mpr ⟨item, mem_sortedBy.mpr member, rfl⟩)
    have same := boundedPayload_sortKeys (.object item.2.payload) 0
    rw [JsonValue.sortKeys] at same
    exact same.symm.trans sorted

/-- The written file is read back if and only if the loader's bounds hold. -/
theorem start_written (durable : Durable behavior.settings state)
    (persistent : behavior.durable = true)
    (written : behavior.persist state = .ok after) :
    behavior.start after.stateFile = .ok after.keySorted ↔
      Loadable state := by
  simp only [WarehouseBehavior.persist, persistent, if_true, bind_eq_ok,
    require_eq_ok, decide_eq_true_eq] at written
  obtain ⟨payload, dumped, _, room, form⟩ := written
  cases form
  simp only [WarehouseBehavior.start, persistent]
  constructor
  · intro started
    have bounds := (loadPersistedState_sound started).2
    exact { loadable_of_keySorted bounds with }
  · intro loadable
    exact loadPersistedState_written durable loadable dumped room

/--
In every reachable state of a behavior with a state root, the document that is
written for the state is read back as the state, dictionaries in key order, if
and only if the state is within the bounds that the loader sets.  After every
request the file holds that document.
-/
theorem written_state_loads (persistent : behavior.durable = true)
    (reached : (durableSystem behavior).Reachable state) :
    (∀ written, behavior.persist state = .ok written →
      (behavior.start written.stateFile = .ok written.keySorted ↔
        Loadable state)) ∧
    ∀ request next, (durableSystem behavior).Step state request next →
      behavior.persist next = .ok next := by
  constructor
  · intro written persisted
    exact start_written (reachable_durable reached) persistent persisted
  · rintro request next ⟨_, _, _, handled⟩
    exact handleUpsert_current handled

end Durability

section Sample

attribute [local instance] asciiJsonRuntime

/-- A warehouse with a state root, without scripted failures. -/
def persistentBehavior : WarehouseBehavior :=
  { plainBehavior with durable := true }

theorem durable_sample_reachable (request : HttpRequest)
    (check : WarehouseState → Bool)
    (handles : upsertSku request = some sampleSku ∧
      (handleUpsert persistentBehavior sampleSku request
        .fresh).toOption.any (fun answer => check answer.1)) :
    ∃ state, (durableSystem persistentBehavior).Reachable state ∧
      persistentBehavior.persist state = .ok state ∧ check state := by
  obtain ⟨⟨state, response⟩, answered, holds⟩ :=
    (Option.any_eq_true _ _).mp handles.2
  have handled := toOption_eq_some.mp answered
  exact ⟨state, .step (.initial ⟨none, rfl⟩)
    ⟨sampleSku, response, handles.1, handled⟩,
    handleUpsert_current handled, holds⟩

/-- All bounds of the loader, computed. -/
def withinBounds (state : WarehouseState) : Bool :=
  1 ≤ state.targetVersion && state.targetVersion ≤ maxCounter &&
    state.requestCount ≤ maxCounter &&
    state.applied.length ≤ maxStateItems &&
    state.records.all fun item =>
      boundedPayload 0 (.object item.2.payload)

theorem loadable_of_withinBounds {state : WarehouseState}
    (within : withinBounds state) : Loadable state := by
  simp only [withinBounds, Bool.and_eq_true, decide_eq_true_eq] at within
  obtain ⟨⟨⟨⟨positive, version⟩, count⟩, applied⟩, payloads⟩ := within
  exact ⟨positive, version, count, applied, List.all_eq_true.mp payloads⟩

theorem written_state_loads_sample :
    ∃ state, (durableSystem persistentBehavior).Reachable state ∧
      persistentBehavior.start state.stateFile = .ok state.keySorted := by
  obtain ⟨state, reached, current, within⟩ :=
    durable_sample_reachable (sampleRequest sampleBody none) withinBounds
      (by decide +kernel)
  have loads := (written_state_loads (by rfl) reached).1 state current
  exact ⟨state, reached, loads.mpr (loadable_of_withinBounds within)⟩

/--
A request that is rejected before any effect leaves a file that no new behavior
can load.
-/
theorem rejected_state_lost :
    ∃ state, (durableSystem persistentBehavior).Reachable state ∧
      persistentBehavior.persist state = .ok state ∧
      ∀ loaded, persistentBehavior.start state.stateFile ≠ .ok loaded := by
  obtain ⟨state, reached, current, raises⟩ :=
    durable_sample_reachable (sampleRequest "" none)
      (fun state => (persistentBehavior.start
        state.stateFile).toOption.isNone) (by decide +kernel)
  refine ⟨state, reached, current, fun loaded started => ?_⟩
  rw [started] at raises
  cases raises

end Sample

end ParityGrid.Demo
