import ParityGrid.Domain.Reconciliation.Normalization
import ParityGrid.Domain.Reconciliation.Outcomes

/-!
# Canonical-key matching

Records are grouped by SKU in buckets that only ever grow, one list for each
side, and the buckets are emitted in SKU order.  Collisions and duplicate
groups are reports on the buckets that hold several records of one side.
-/

namespace ParityGrid.Domain

open Foundation

/-- `MAX_MATCHED_KEYS`. -/
def maxMatchedKeys : Nat := 2 * maxSourceObservations

/-- `MatchingError`, a `ValueError`. -/
def matchingError (reason : String) : PythonError :=
  .raised (text "MatchingError") true (text reason)

/-- Which reconciliation side one record belongs to. -/
inductive RecordSide where
  | source
  | target
deriving DecidableEq

def RecordSide.value : RecordSide → String
  | .source => "source"
  | .target => "target"

section Matching

variable [PythonRuntime]

/-! ## Buckets -/

/-- The records of one key while they are being grouped. -/
structure KeyBucket where
  sourceRecords : List NormalizedRecord
  targetRecords : List NormalizedRecord

def KeyBucket.empty : KeyBucket := ⟨[], []⟩

def KeyBucket.records (bucket : KeyBucket) :
    RecordSide → List NormalizedRecord
  | .source => bucket.sourceRecords
  | .target => bucket.targetRecords

def KeyBucket.append (bucket : KeyBucket) (side : RecordSide)
    (record : NormalizedRecord) : KeyBucket :=
  match side with
  | .source =>
      { bucket with sourceRecords := bucket.sourceRecords ++ [record] }
  | .target =>
      { bucket with targetRecords := bucket.targetRecords ++ [record] }

abbrev Groups := List (Text × KeyBucket)

/-- The bucket of a key; a key without records has an empty one. -/
def bucketOf (groups : Groups) (sku : Text) : KeyBucket :=
  (groups.lookup sku).getD .empty

/-- Append a record to the bucket of its key. -/
def appendRecord (side : RecordSide) (groups : Groups)
    (record : NormalizedRecord) : Groups :=
  alter record.record.sku
    (fun bucket => (bucket.getD .empty).append side record) groups

/-- The loop of `match_by_canonical_key` over one side. -/
def groupRecords (side : RecordSide) :
    List NormalizedRecord → Groups → Except PythonError Groups
  | [], groups => .ok groups
  | record :: rest, groups => do
      require ((groups.lookup record.record.sku).isSome ||
          groups.length != maxMatchedKeys)
        (matchingError "matching exceeds the canonical key limit")
      require (((bucketOf groups record.record.sku).records side).length !=
          maxRecordsPerSide)
        (matchingError
          "matching exceeds the per-side duplicate record limit")
      groupRecords side rest (appendRecord side groups record)

/-! ## Matches -/

/-- The checks that `CanonicalKeyMatch` makes of one side. -/
def validateMembers (sku : Text) (records : List NormalizedRecord) :
    Except PythonError Unit := do
  require (records.length ≤ maxRecordsPerSide)
    (matchingError "canonical key match exceeds the per-side record limit")
  let positions := records.map NormalizedRecord.position
  require (positions == sorted positions && decide positions.Nodup)
    (matchingError
      "canonical key match members must use ordered unique positions")
  require (records.all fun record => record.record.sku == sku)
    (matchingError "canonical key match members must share one SKU")

/-- `CanonicalKeyMatch.__post_init__`. -/
def validateMatch (sku : Text)
    (sourceRecords targetRecords : List NormalizedRecord) :
    Except PythonError Unit := do
  require (sku != [])
    (matchingError "canonical key match requires a nonempty SKU")
  validateMembers sku sourceRecords
  validateMembers sku targetRecords

/-- Every normalized record sharing one canonical key on both sides. -/
structure CanonicalKeyMatch where
  sku : Text
  sourceRecords : List NormalizedRecord
  targetRecords : List NormalizedRecord
  valid : validateMatch sku sourceRecords targetRecords = .ok ()
deriving DecidableEq

def CanonicalKeyMatch.records (keyMatch : CanonicalKeyMatch) :
    RecordSide → List NormalizedRecord
  | .source => keyMatch.sourceRecords
  | .target => keyMatch.targetRecords

/-- The constructor. -/
def CanonicalKeyMatch.create (sku : Text)
    (sourceRecords targetRecords : List NormalizedRecord) :
    Except PythonError CanonicalKeyMatch :=
  (certify (validateMatch sku sourceRecords targetRecords)
    fun _ accepted => accepted).map fun checked =>
      ⟨sku, sourceRecords, targetRecords, checked.2⟩

/-- `match_by_canonical_key`. -/
def matchByCanonicalKey (source target : List NormalizedRecord) :
    Except PythonError (List CanonicalKeyMatch) := do
  let sourceGroups ← groupRecords .source source []
  let groups ← groupRecords .target target sourceGroups
  (sortedBy Prod.fst groups).mapM fun group =>
    CanonicalKeyMatch.create group.1 group.2.sourceRecords
      group.2.targetRecords

/-! ## What grouping collects -/

/-- The records with one canonical key, in order. -/
def recordsOf (sku : Text) (records : List NormalizedRecord) :
    List NormalizedRecord :=
  records.filter fun record => record.record.sku = sku

theorem recordsOf_cons (sku : Text) (record : NormalizedRecord)
    (rest : List NormalizedRecord) :
    recordsOf sku (record :: rest) =
      (if record.record.sku = sku then [record] else []) ++
        recordsOf sku rest := by
  simp only [recordsOf, List.filter_cons, decide_eq_true_eq]
  split <;> rfl

theorem mem_recordsOf {sku : Text} {record : NormalizedRecord}
    {records : List NormalizedRecord} :
    record ∈ recordsOf sku records ↔
      record ∈ records ∧ record.record.sku = sku := by
  simp [recordsOf]

theorem bucketOf_appendRecord (side other : RecordSide) (groups : Groups)
    (record : NormalizedRecord) (sku : Text) :
    (bucketOf (appendRecord side groups record) sku).records other =
      (bucketOf groups sku).records other ++
        if other = side ∧ record.record.sku = sku then [record]
        else [] := by
  by_cases same : record.record.sku = sku
  · subst same
    simp only [bucketOf, appendRecord, lookup_alter_self, Option.getD_some]
    cases side <;> cases other <;>
      simp [KeyBucket.append, KeyBucket.records]
  · have apart : sku ≠ record.record.sku := fun equal => same equal.symm
    simp only [bucketOf, appendRecord, lookup_alter_ne apart, same, and_false,
      if_false, List.append_nil]

/-- A run of appends adds to every bucket the records of its key. -/
theorem bucketOf_foldl (side other : RecordSide)
    (records : List NormalizedRecord) (groups : Groups) (sku : Text) :
    (bucketOf (records.foldl (appendRecord side) groups) sku).records other =
      (bucketOf groups sku).records other ++
        if other = side then recordsOf sku records else [] := by
  induction records generalizing groups with
  | nil => simp [recordsOf]
  | cons record rest ih =>
      rw [List.foldl_cons, ih, bucketOf_appendRecord, List.append_assoc]
      congr 1
      by_cases mine : other = side
      · simp [mine, recordsOf_cons]
      · simp [mine]

theorem nodup_foldl_appendRecord (side : RecordSide)
    (records : List NormalizedRecord) {groups : Groups}
    (distinct : (groups.map Prod.fst).Nodup) :
    ((records.foldl (appendRecord side) groups).map Prod.fst).Nodup := by
  induction records generalizing groups with
  | nil => exact distinct
  | cons record rest ih => exact ih (nodup_alter distinct)

theorem mem_foldl_appendRecord (side : RecordSide)
    (records : List NormalizedRecord) (groups : Groups) (sku : Text) :
    sku ∈ (records.foldl (appendRecord side) groups).map Prod.fst ↔
      sku ∈ groups.map Prod.fst ∨
        sku ∈ records.map fun record => record.record.sku := by
  induction records generalizing groups with
  | nil => simp
  | cons record rest ih =>
      rw [List.foldl_cons, ih, appendRecord, mem_keys_alter, or_assoc,
        List.map_cons, List.mem_cons]

theorem length_foldl_appendRecord (side : RecordSide)
    (records : List NormalizedRecord) (groups : Groups) :
    (records.foldl (appendRecord side) groups).length ≤
      groups.length + records.length := by
  induction records generalizing groups with
  | nil => exact Nat.le_refl _
  | cons record rest ih =>
      have step := alter_length_le record.record.sku
        (fun bucket => (bucket.getD .empty).append side record) groups
      have later := ih (appendRecord side groups record)
      simp only [List.foldl_cons, List.length_cons, appendRecord]
        at later ⊢
      omega

theorem groupRecords_eq_ok {side : RecordSide}
    {records : List NormalizedRecord} {groups result : Groups}
    (returned : groupRecords side records groups = .ok result) :
    result = records.foldl (appendRecord side) groups := by
  induction records generalizing groups with
  | nil =>
      cases returned
      rfl
  | cons record rest ih =>
      simp only [groupRecords, bind_eq_ok] at returned
      obtain ⟨_, _, _, _, later⟩ := returned
      exact ih later

/-- A side is grouped exactly when no key collects too many of its records. -/
theorem groupRecords_returns {side : RecordSide}
    {records : List NormalizedRecord} {groups : Groups}
    (room : groups.length + records.length ≤ maxMatchedKeys)
    (bounded : ∀ sku, ((bucketOf groups sku).records side).length ≤
      maxRecordsPerSide) :
    Returns (groupRecords side records groups) ↔
      ∀ sku, ((bucketOf groups sku).records side).length +
        (recordsOf sku records).length ≤ maxRecordsPerSide := by
  induction records generalizing groups with
  | nil => simpa [groupRecords, recordsOf, Returns] using bounded
  | cons record rest ih =>
      simp only [List.length_cons] at room
      have longer := alter_length_le record.record.sku
        (fun bucket => (bucket.getD .empty).append side record) groups
      have notFull : ((groups.lookup record.record.sku).isSome ||
          groups.length != maxMatchedKeys) = true := by
        have different : groups.length ≠ maxMatchedKeys := by omega
        simp [different]
      have counts (sku : Text) :
          ((bucketOf (appendRecord side groups record) sku).records
              side).length + (recordsOf sku rest).length =
            ((bucketOf groups sku).records side).length +
              (recordsOf sku (record :: rest)).length := by
        simp only [bucketOf_appendRecord, recordsOf_cons, true_and,
          List.length_append]
        omega
      simp only [groupRecords, notFull, require_true, ok_bind]
      by_cases full : ((bucketOf groups record.record.sku).records
          side).length = maxRecordsPerSide
      · have raises : ¬ Returns (Foundation.require (ε := PythonError)
            (((bucketOf groups record.record.sku).records side).length !=
              maxRecordsPerSide)
            (matchingError
              "matching exceeds the per-side duplicate record limit") >>=
            fun _ => groupRecords side rest
              (appendRecord side groups record)) := by
          simp [full, Returns]
        constructor
        · intro returned
          exact absurd returned raises
        · intro fits
          have exceeds := fits record.record.sku
          simp only [recordsOf_cons, if_true, List.length_append,
            List.length_singleton] at exceeds
          omega
      · have free : (((bucketOf groups record.record.sku).records
            side).length != maxRecordsPerSide) = true := by
          simpa using full
        have stillBounded (sku : Text) :
            ((bucketOf (appendRecord side groups record) sku).records
              side).length ≤ maxRecordsPerSide := by
          have before := bounded sku
          simp only [bucketOf_appendRecord, true_and, List.length_append]
          split
          next same =>
            subst same
            simp only [List.length_singleton]
            omega
          next => simpa using before
        rw [free, require_true, ok_bind, ih (by
          simp only [appendRecord]
          omega) stillBounded]
        exact forall_congr' fun sku => by rw [counts]

/-! ## What matching returns -/

/--
The matches of two sides: every SKU once, in order, with exactly the records
of that SKU.
-/
structure Matches (source target : List NormalizedRecord)
    (matched : List CanonicalKeyMatch) : Prop where
  ordered : (matched.map CanonicalKeyMatch.sku).Pairwise (· < ·)
  covers : ∀ sku, sku ∈ matched.map CanonicalKeyMatch.sku ↔
    sku ∈ (source ++ target).map fun record => record.record.sku
  source : ∀ keyMatch ∈ matched,
    keyMatch.sourceRecords = recordsOf keyMatch.sku source
  target : ∀ keyMatch ∈ matched,
    keyMatch.targetRecords = recordsOf keyMatch.sku target

/-- The matches hold every record of a side once. -/
theorem Matches.perm {source target : List NormalizedRecord}
    {matched : List CanonicalKeyMatch}
    (matches_ : Matches source target matched) :
    (matched.flatMap CanonicalKeyMatch.sourceRecords).Perm source ∧
      (matched.flatMap CanonicalKeyMatch.targetRecords).Perm target := by
  have distinct : (matched.map CanonicalKeyMatch.sku).Nodup :=
    matches_.ordered.imp ne_of_lt
  have sources : matched.flatMap CanonicalKeyMatch.sourceRecords =
      (matched.map CanonicalKeyMatch.sku).flatMap fun sku =>
        recordsOf sku source := by
    rw [List.flatMap_map]
    exact List.flatMap_congr matches_.source
  have targets : matched.flatMap CanonicalKeyMatch.targetRecords =
      (matched.map CanonicalKeyMatch.sku).flatMap fun sku =>
        recordsOf sku target := by
    rw [List.flatMap_map]
    exact List.flatMap_congr matches_.target
  rw [sources, targets]
  constructor
  · apply regroup_perm distinct
    intro record member
    exact (matches_.covers record.record.sku).mpr
      (List.mem_map.mpr ⟨record, List.mem_append_left _ member, rfl⟩)
  · apply regroup_perm distinct
    intro record member
    exact (matches_.covers record.record.sku).mpr
      (List.mem_map.mpr ⟨record, List.mem_append_right _ member, rfl⟩)

/-- No match is without records. -/
theorem Matches.inhabited {source target : List NormalizedRecord}
    {matched : List CanonicalKeyMatch}
    (matches_ : Matches source target matched)
    {keyMatch : CanonicalKeyMatch} (member : keyMatch ∈ matched) :
    keyMatch.sourceRecords ≠ [] ∨ keyMatch.targetRecords ≠ [] := by
  obtain ⟨record, inside, same⟩ := List.mem_map.mp
    ((matches_.covers keyMatch.sku).mp
      (List.mem_map.mpr ⟨keyMatch, member, rfl⟩))
  rw [matches_.source keyMatch member, matches_.target keyMatch member]
  rcases List.mem_append.mp inside with inSource | inTarget
  · exact .inl (List.ne_nil_of_mem (mem_recordsOf.mpr ⟨inSource, same⟩))
  · exact .inr (List.ne_nil_of_mem (mem_recordsOf.mpr ⟨inTarget, same⟩))

theorem CanonicalKeyMatch.create_eq_ok {sku : Text}
    {sourceRecords targetRecords : List NormalizedRecord}
    {keyMatch : CanonicalKeyMatch}
    (created : create sku sourceRecords targetRecords = .ok keyMatch) :
    keyMatch.sku = sku ∧ keyMatch.sourceRecords = sourceRecords ∧
      keyMatch.targetRecords = targetRecords := by
  simp only [create, map_eq_ok] at created
  obtain ⟨checked, _, rfl⟩ := created
  exact ⟨rfl, rfl, rfl⟩

/-- The groups of both sides. -/
def groupsOf (source target : List NormalizedRecord) : Groups :=
  target.foldl (appendRecord .target)
    (source.foldl (appendRecord .source) [])

theorem groupsOf_nodup (source target : List NormalizedRecord) :
    ((groupsOf source target).map Prod.fst).Nodup :=
  nodup_foldl_appendRecord .target target
    (nodup_foldl_appendRecord .source source List.nodup_nil)

theorem mem_groupsOf {source target : List NormalizedRecord} {sku : Text} :
    sku ∈ (groupsOf source target).map Prod.fst ↔
      sku ∈ (source ++ target).map fun record => record.record.sku := by
  rw [groupsOf, mem_foldl_appendRecord, mem_foldl_appendRecord,
    List.map_append, List.mem_append]
  simp

/-- The item of a key holds the records of both sides with that key. -/
theorem groupsOf_bucket {source target : List NormalizedRecord}
    {group : Text × KeyBucket} (member : group ∈ groupsOf source target) :
    group.2.sourceRecords = recordsOf group.1 source ∧
      group.2.targetRecords = recordsOf group.1 target := by
  have found : bucketOf (groupsOf source target) group.1 = group.2 := by
    rw [bucketOf, (lookup_eq_some_iff_mem (groupsOf_nodup source target)).mpr
      member, Option.getD_some]
  have sides (side : RecordSide) : group.2.records side =
      (if side = .source then recordsOf group.1 source else []) ++
        if side = .target then recordsOf group.1 target else [] := by
    rw [← found, groupsOf, bucketOf_foldl, bucketOf_foldl]
    cases side <;> rfl
  exact ⟨by simpa [KeyBucket.records] using sides .source,
    by simpa [KeyBucket.records] using sides .target⟩

theorem groupRecords_both {source target : List NormalizedRecord}
    {sourceGroups groups : Groups}
    (first : groupRecords .source source [] = .ok sourceGroups)
    (second : groupRecords .target target sourceGroups = .ok groups) :
    groups = groupsOf source target := by
  rw [groupRecords_eq_ok second, groupRecords_eq_ok first, groupsOf]

theorem matchByCanonicalKey_matches {source target : List NormalizedRecord}
    {matched : List CanonicalKeyMatch}
    (returned : matchByCanonicalKey source target = .ok matched) :
    Matches source target matched := by
  simp only [matchByCanonicalKey, bind_eq_ok] at returned
  obtain ⟨sourceGroups, first, groups, second, built⟩ := returned
  obtain rfl := groupRecords_both first second
  have keys : matched.map CanonicalKeyMatch.sku =
      (sortedBy Prod.fst (groupsOf source target)).map Prod.fst :=
    mapM_keeps (fun _ _ _ created =>
      (CanonicalKeyMatch.create_eq_ok created).1) built
  have bucket : ∀ keyMatch ∈ matched,
      keyMatch.sourceRecords = recordsOf keyMatch.sku source ∧
        keyMatch.targetRecords = recordsOf keyMatch.sku target := by
    intro keyMatch member
    obtain ⟨group, inside, created⟩ := mapM_origin built member
    obtain ⟨sku, sources, targets⟩ := CanonicalKeyMatch.create_eq_ok created
    rw [sku, sources, targets]
    exact groupsOf_bucket (mem_sortedBy.mp inside)
  refine ⟨?_, ?_, fun keyMatch member => (bucket keyMatch member).1,
    fun keyMatch member => (bucket keyMatch member).2⟩
  · rw [keys]
    exact List.pairwise_map.mpr
      (sortedBy_strict (groupsOf_nodup source target))
  · intro sku
    rw [keys, ← mem_groupsOf]
    exact ((sortedBy_perm Prod.fst _).map Prod.fst).mem_iff

/-- Some records, in strictly ascending order of their positions. -/
def Ordered (records : List NormalizedRecord) : Prop :=
  (records.map NormalizedRecord.position).Pairwise (· < ·)

theorem validateMembers_recordsOf {sku : Text}
    {records : List NormalizedRecord} (ordered : Ordered records)
    (few : (recordsOf sku records).length ≤ maxRecordsPerSide) :
    validateMembers sku (recordsOf sku records) = .ok () := by
  have strict : ((recordsOf sku records).map
      NormalizedRecord.position).Pairwise (· < ·) :=
    List.Pairwise.sublist (List.filter_sublist.map _) ordered
  have sorts : sorted ((recordsOf sku records).map
      NormalizedRecord.position) =
        (recordsOf sku records).map NormalizedRecord.position :=
    sortedBy_of_pairwise (strict.imp le_of_lt)
  have distinct : ((recordsOf sku records).map
      NormalizedRecord.position).Nodup := strict.imp ne_of_lt
  have share : ((recordsOf sku records).all fun record =>
      record.record.sku == sku) = true := by
    simp only [List.all_eq_true, beq_iff_eq]
    exact fun record member => (mem_recordsOf.mp member).2
  simp only [validateMembers, few, sorts, distinct, share, decide_true,
    beq_self_eq_true, Bool.and_self, require_true, ok_bind]

theorem CanonicalKeyMatch.create_returns {sku : Text}
    {source target : List NormalizedRecord} (nonempty : sku ≠ [])
    (sourceOrdered : Ordered source) (targetOrdered : Ordered target)
    (sourceFew : (recordsOf sku source).length ≤ maxRecordsPerSide)
    (targetFew : (recordsOf sku target).length ≤ maxRecordsPerSide) :
    Returns (create sku (recordsOf sku source) (recordsOf sku target)) := by
  have named : (sku != []) = true := by simpa using nonempty
  have valid : validateMatch sku (recordsOf sku source)
      (recordsOf sku target) = .ok () := by
    simp only [validateMatch, named, require_true, ok_bind,
      validateMembers_recordsOf sourceOrdered sourceFew,
      validateMembers_recordsOf targetOrdered targetFew]
  exact returns_map.mpr ⟨_, certify_ok (fun _ h => h) valid⟩

/-- Two ordered sides are matched exactly when no key has too many records. -/
theorem matchByCanonicalKey_returns {source target : List NormalizedRecord}
    (sourceOrdered : Ordered source) (targetOrdered : Ordered target)
    (sourceFew : source.length ≤ maxSourceObservations)
    (targetFew : target.length ≤ maxSourceObservations) :
    Returns (matchByCanonicalKey source target) ↔
      ∀ sku, (recordsOf sku source).length ≤ maxRecordsPerSide ∧
        (recordsOf sku target).length ≤ maxRecordsPerSide := by
  have sourceReturns : Returns (groupRecords .source source []) ↔
      ∀ sku, (recordsOf sku source).length ≤ maxRecordsPerSide := by
    have empty (sku : Text) :
        ((bucketOf [] sku).records .source).length = 0 := rfl
    rw [groupRecords_returns (by
      simp only [List.length_nil, maxMatchedKeys]
      omega) (fun sku => by simp [empty])]
    simp only [empty, Nat.zero_add]
  have targetReturns {sourceGroups : Groups}
      (grouped : groupRecords .source source [] = .ok sourceGroups) :
      Returns (groupRecords .target target sourceGroups) ↔
        ∀ sku, (recordsOf sku target).length ≤ maxRecordsPerSide := by
    obtain rfl := groupRecords_eq_ok grouped
    have none_ (sku : Text) : ((bucketOf (source.foldl
        (appendRecord .source) []) sku).records .target).length = 0 := by
      rw [bucketOf_foldl]
      rfl
    have room := length_foldl_appendRecord .source source []
    rw [List.length_nil, Nat.zero_add] at room
    rw [groupRecords_returns (by
      simp only [maxMatchedKeys]
      omega) (fun sku => by simp [none_])]
    simp only [none_, Nat.zero_add]
  constructor
  · rintro ⟨matched, returned⟩
    simp only [matchByCanonicalKey, bind_eq_ok] at returned
    obtain ⟨sourceGroups, first, groups, second, _⟩ := returned
    have sourceFits := sourceReturns.mp ⟨_, first⟩
    have targetFits := (targetReturns first).mp ⟨_, second⟩
    exact fun sku => ⟨sourceFits sku, targetFits sku⟩
  · intro fits
    obtain ⟨sourceGroups, first⟩ :=
      sourceReturns.mpr fun sku => (fits sku).1
    obtain ⟨groups, second⟩ :=
      (targetReturns first).mpr fun sku => (fits sku).2
    obtain rfl := groupRecords_both first second
    simp only [matchByCanonicalKey, first, second, ok_bind]
    rw [returns_mapM]
    intro group member
    have inside := mem_sortedBy.mp member
    obtain ⟨sources, targets⟩ := groupsOf_bucket inside
    have named : group.1 ≠ [] := by
      have key := mem_groupsOf.mp (List.mem_map.mpr ⟨group, inside, rfl⟩)
      obtain ⟨record, _, same⟩ := List.mem_map.mp key
      rw [← same]
      exact record.record.sku_ne_nil
    rw [sources, targets]
    exact CanonicalKeyMatch.create_returns named sourceOrdered targetOrdered
      (fits group.1).1 (fits group.1).2

/-! ## Collisions -/

/-- The checks of `CanonicalKeyCollision.__post_init__`. -/
def validateCollision (sku : Text) (recordCount : Nat)
    (memberKeys : List Text) : Except PythonError Unit := do
  require (sku != [])
    (matchingError "canonical key collision requires a nonempty SKU")
  require (2 ≤ recordCount)
    (matchingError "canonical key collision requires at least two records")
  require (recordCount ≤ maxRecordsPerSide)
    (matchingError "canonical key collision exceeds the member limit")
  require (memberKeys.length == recordCount)
    (matchingError
      "canonical key collision member keys must match the record count")
  require (memberKeys.all (· != []))
    (matchingError
      "canonical key collision member keys must be nonempty text")
  require (memberKeys == sorted memberKeys)
    (matchingError "canonical key collision member keys must be sorted")

/-- Deliberate evidence that one canonical key holds several records. -/
structure CanonicalKeyCollision where
  side : RecordSide
  sku : Text
  recordCount : Nat
  memberKeys : List Text
  valid : validateCollision sku recordCount memberKeys = .ok ()
deriving DecidableEq

/-- The collision of one side of a match, when it holds several records. -/
def collisionAt (keyMatch : CanonicalKeyMatch) (side : RecordSide) :
    Except PythonError (List CanonicalKeyCollision) :=
  let members := keyMatch.records side
  if members.length < 2 then .ok []
  else
    let memberKeys := sorted (members.map fun r => r.record.sourceRecordKey)
    (certify (validateCollision keyMatch.sku members.length memberKeys)
      fun _ accepted => accepted).map fun checked =>
        [⟨side, keyMatch.sku, members.length, memberKeys, checked.2⟩]

theorem CanonicalKeyMatch.members_valid (keyMatch : CanonicalKeyMatch)
    (side : RecordSide) :
    validateMembers keyMatch.sku (keyMatch.records side) = .ok () := by
  have valid := keyMatch.valid
  simp only [validateMatch, bind_eq_ok] at valid
  obtain ⟨_, _, _, source, target⟩ := valid
  cases side
  · exact source
  · exact target

theorem CanonicalKeyMatch.sku_ne_nil (keyMatch : CanonicalKeyMatch) :
    keyMatch.sku ≠ [] := by
  have valid := keyMatch.valid
  simp only [validateMatch, bind_eq_ok, require_eq_ok, bne_iff_ne] at valid
  obtain ⟨_, named, _⟩ := valid
  exact named

theorem CanonicalKeyMatch.records_few (keyMatch : CanonicalKeyMatch)
    (side : RecordSide) :
    (keyMatch.records side).length ≤ maxRecordsPerSide := by
  have valid := keyMatch.members_valid side
  simp only [validateMembers, bind_eq_ok, require_eq_ok,
    decide_eq_true_eq] at valid
  obtain ⟨_, few, _⟩ := valid
  exact few

theorem CanonicalKeyMatch.positions_strict (keyMatch : CanonicalKeyMatch)
    (side : RecordSide) : Ordered (keyMatch.records side) := by
  have valid := keyMatch.members_valid side
  simp only [validateMembers, bind_eq_ok, require_eq_ok, Bool.and_eq_true,
    beq_iff_eq, decide_eq_true_eq] at valid
  obtain ⟨_, _, _, ⟨sorts, distinct⟩, _⟩ := valid
  have ordered : ((keyMatch.records side).map
      NormalizedRecord.position).Pairwise (· ≤ ·) := by
    rw [sorts]
    exact sortedBy_pairwise id _
  exact (ordered.and distinct).imp fun both =>
    lt_of_le_of_ne both.1 both.2

theorem CanonicalKeyMatch.records_share (keyMatch : CanonicalKeyMatch)
    (side : RecordSide) {record : NormalizedRecord}
    (member : record ∈ keyMatch.records side) :
    record.record.sku = keyMatch.sku := by
  have valid := keyMatch.members_valid side
  simp only [validateMembers, bind_eq_ok, require_eq_ok, List.all_eq_true,
    beq_iff_eq] at valid
  obtain ⟨_, _, _, _, share⟩ := valid
  exact share record member

/-- Run a report on both sides of every match, in order. -/
def reportSides {α : Type}
    (report : CanonicalKeyMatch → RecordSide → Except PythonError (List α)) :
    List CanonicalKeyMatch → Except PythonError (List α)
  | [] => .ok []
  | keyMatch :: rest => do
      let source ← report keyMatch .source
      let target ← report keyMatch .target
      let later ← reportSides report rest
      pure (source ++ target ++ later)

/-- `detect_canonical_key_collisions`. -/
def detectCanonicalKeyCollisions :
    List CanonicalKeyMatch →
      Except PythonError (List CanonicalKeyCollision) :=
  reportSides collisionAt

theorem reportSides_returns {α : Type}
    {report : CanonicalKeyMatch → RecordSide → Except PythonError (List α)}
    (reports : ∀ keyMatch side, Returns (report keyMatch side))
    (matched : List CanonicalKeyMatch) :
    Returns (reportSides report matched) := by
  induction matched with
  | nil => exact .ok _
  | cons keyMatch rest ih =>
      exact (reports keyMatch .source).bind fun _ _ =>
        (reports keyMatch .target).bind fun _ _ => ih.bind fun _ _ => .ok _

theorem collisionAt_returns (keyMatch : CanonicalKeyMatch)
    (side : RecordSide) :
    Returns (collisionAt keyMatch side) := by
  simp only [collisionAt]
  split
  · exact .ok _
  next several =>
    have many : 2 ≤ (keyMatch.records side).length := by omega
    have named : (keyMatch.sku != []) = true := by
      simpa using keyMatch.sku_ne_nil
    have keyed : ((sorted ((keyMatch.records side).map fun r =>
        r.record.sourceRecordKey)).all (· != [])) = true := by
      simp only [List.all_eq_true, mem_sorted, List.mem_map, bne_iff_ne]
      rintro key ⟨record, _, rfl⟩
      exact record.record.sourceRecordKey_ne_nil
    have sorts : (sorted ((keyMatch.records side).map fun r =>
        r.record.sourceRecordKey) == sorted (sorted
          ((keyMatch.records side).map fun r =>
            r.record.sourceRecordKey))) = true := by
      simp [sorted, sortedBy_idem]
    have valid : validateCollision keyMatch.sku
        (keyMatch.records side).length
        (sorted ((keyMatch.records side).map fun r =>
          r.record.sourceRecordKey)) = .ok () := by
      simp only [validateCollision, named, many, keyMatch.records_few side,
        sorted_length, List.length_map, beq_self_eq_true, decide_true,
        keyed, sorts, require_true, ok_bind]
    exact returns_map.mpr ⟨_, certify_ok (fun _ h => h) valid⟩

/-- Collisions are reported for every match. -/
theorem detectCanonicalKeyCollisions_returns
    (matched : List CanonicalKeyMatch) :
    Returns (detectCanonicalKeyCollisions matched) :=
  reportSides_returns collisionAt_returns matched

/-! ## Duplicate groups -/

/-- `_business_content`: what determines duplicate identity. -/
def businessContent (record : InventoryRecord) :
    Text × Int × Money × UtcTimestamp × InventoryAttributes :=
  (record.name, record.quantity, record.unitPrice, record.updatedAt,
    record.attributes)

/-- How many different business contents some records have. -/
def distinctContents (records : List InventoryRecord) : Nat :=
  (records.map businessContent).dedup.length

/-- The checks of `DuplicateRecordGroup.__post_init__`. -/
def validateDuplicateGroup (sku : Text) (members : List NormalizedRecord)
    (distinct : Nat) (identical : Bool) : Except PythonError Unit := do
  require (sku != [])
    (matchingError "duplicate record group requires a nonempty SKU")
  require (2 ≤ members.length)
    (matchingError "duplicate record group requires at least two members")
  require (members.length ≤ maxRecordsPerSide)
    (matchingError
      "duplicate record group exceeds the per-side record limit")
  require (members.all fun member => member.record.sku == sku)
    (matchingError "duplicate record group members must share one SKU")
  require (1 ≤ distinct && distinct ≤ members.length)
    (matchingError "duplicate record group content count is invalid")
  require (identical == (distinct == 1))
    (matchingError
      "duplicate record group identity flag disagrees with content count")

/-- One side's duplicate members with content analysis. -/
structure DuplicateRecordGroup where
  side : RecordSide
  sku : Text
  members : List NormalizedRecord
  distinctContents : Nat
  identicalMembers : Bool
  valid : validateDuplicateGroup sku members distinctContents
    identicalMembers = .ok ()
deriving DecidableEq

/-- The duplicate group of one side, when it holds several records. -/
def duplicateGroupAt (keyMatch : CanonicalKeyMatch) (side : RecordSide) :
    Except PythonError (List DuplicateRecordGroup) :=
  let members := keyMatch.records side
  if members.length < 2 then .ok []
  else
    let distinct := distinctContents (members.map NormalizedRecord.record)
    (certify (validateDuplicateGroup keyMatch.sku members distinct
        (distinct == 1)) fun _ accepted => accepted).map fun checked =>
      [⟨side, keyMatch.sku, members, distinct, distinct == 1, checked.2⟩]

/-- `detect_duplicate_record_groups`. -/
def detectDuplicateRecordGroups :
    List CanonicalKeyMatch →
      Except PythonError (List DuplicateRecordGroup) :=
  reportSides duplicateGroupAt

theorem distinctContents_bounds {records : List InventoryRecord}
    (some_ : records ≠ []) :
    1 ≤ distinctContents records ∧
      distinctContents records ≤ records.length := by
  constructor
  · obtain ⟨first, rest, rfl⟩ := List.exists_cons_of_ne_nil some_
    apply List.length_pos_of_mem (a := businessContent first)
    exact List.mem_dedup.mpr List.mem_cons_self
  · simpa [distinctContents] using List.Sublist.length_le
      (List.dedup_sublist (records.map businessContent))

theorem duplicateGroupAt_returns (keyMatch : CanonicalKeyMatch)
    (side : RecordSide) :
    Returns (duplicateGroupAt keyMatch side) := by
  simp only [duplicateGroupAt]
  split
  · exact .ok _
  next several =>
    have many : 2 ≤ (keyMatch.records side).length := by omega
    have named : (keyMatch.sku != []) = true := by
      simpa using keyMatch.sku_ne_nil
    have share : ((keyMatch.records side).all fun member =>
        member.record.sku == keyMatch.sku) = true := by
      simp only [List.all_eq_true, beq_iff_eq]
      exact fun record member => keyMatch.records_share side member
    have some_ : (keyMatch.records side).map NormalizedRecord.record ≠ [] := by
      apply List.ne_nil_of_length_pos
      simp only [List.length_map]
      omega
    obtain ⟨least, most⟩ := distinctContents_bounds some_
    rw [List.length_map] at most
    have valid : validateDuplicateGroup keyMatch.sku (keyMatch.records side)
        (distinctContents
          ((keyMatch.records side).map NormalizedRecord.record))
        (distinctContents
          ((keyMatch.records side).map NormalizedRecord.record) == 1) =
        .ok () := by
      simp only [validateDuplicateGroup, named, many,
        keyMatch.records_few side, share, least, most, decide_true,
        Bool.and_self, beq_self_eq_true, require_true, ok_bind]
    exact returns_map.mpr ⟨_, certify_ok (fun _ h => h) valid⟩

/-- Duplicate groups are reported for every match. -/
theorem detectDuplicateRecordGroups_returns
    (matched : List CanonicalKeyMatch) :
    Returns (detectDuplicateRecordGroups matched) :=
  reportSides_returns duplicateGroupAt_returns matched

end Matching

end ParityGrid.Domain
