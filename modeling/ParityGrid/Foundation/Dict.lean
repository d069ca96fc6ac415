import Mathlib

/-!
# Insertion-ordered dictionaries

A dictionary is the list of its items, each key once, in the order in which
the keys were first stored.  `alter` is the update that every use needs: look
a key up and store a value computed from what was there.
-/

namespace ParityGrid.Foundation

section Dict

variable {κ β : Type} [DecidableEq κ]

/-- `d[key] = f(d.get(key))`. -/
def alter (key : κ) (f : Option β → β) : List (κ × β) → List (κ × β)
  | [] => [(key, f none)]
  | (k, value) :: rest =>
      if k = key then (k, f (some value)) :: rest
      else (k, value) :: alter key f rest

@[simp]
theorem lookup_alter_self [BEq κ] [LawfulBEq κ] (key : κ)
    (f : Option β → β) (d : List (κ × β)) :
    (alter key f d).lookup key = some (f (d.lookup key)) := by
  induction d with
  | nil => simp [alter]
  | cons item rest ih =>
      obtain ⟨k, value⟩ := item
      by_cases same : k = key
      · simp [alter, same]
      · have other : (key == k) = false := by simpa using Ne.symm same
        simp only [alter, same, if_false, List.lookup, other, ih]

theorem lookup_alter_ne [BEq κ] [LawfulBEq κ] {key other : κ}
    (different : other ≠ key) (f : Option β → β) (d : List (κ × β)) :
    (alter key f d).lookup other = d.lookup other := by
  induction d with
  | nil =>
      have apart : (other == key) = false := by simpa using different
      simp [alter, List.lookup, apart]
  | cons item rest ih =>
      obtain ⟨k, value⟩ := item
      by_cases same : k = key
      · subst same
        have apart : (other == k) = false := by simpa using different
        simp only [alter, if_true, List.lookup, apart]
      · simp only [alter, same, if_false, List.lookup, ih]

theorem keys_alter (key : κ) (f : Option β → β) (d : List (κ × β)) :
    (alter key f d).map Prod.fst =
      if key ∈ d.map Prod.fst then d.map Prod.fst
      else d.map Prod.fst ++ [key] := by
  induction d with
  | nil => simp [alter]
  | cons item rest ih =>
      obtain ⟨k, value⟩ := item
      by_cases same : k = key
      · simp [alter, same]
      · have other : key ≠ k := fun equal => same equal.symm
        simp only [alter, same, if_false, List.map_cons, ih, List.mem_cons,
          other, false_or]
        split <;> simp

theorem alter_length_le (key : κ) (f : Option β → β) (d : List (κ × β)) :
    (alter key f d).length ≤ d.length + 1 := by
  have keys := congrArg List.length (keys_alter key f d)
  simp only [List.length_map] at keys
  rw [keys]
  split <;> simp

theorem of_mem_alter {key : κ} {f : Option β → β} {entries : List (κ × β)}
    {entry : κ × β} (member : entry ∈ alter key f entries) :
    entry ∈ entries ∨ ∃ before, entry = (key, f before) := by
  induction entries with
  | nil => exact .inr ⟨none, List.mem_singleton.mp member⟩
  | cons first rest ih =>
      obtain ⟨k, value⟩ := first
      simp only [alter] at member
      split at member
      next same =>
        rcases List.mem_cons.mp member with rfl | inside
        · exact .inr ⟨some value, by rw [same]⟩
        · exact .inl (List.mem_cons_of_mem _ inside)
      next =>
        rcases List.mem_cons.mp member with rfl | inside
        · exact .inl List.mem_cons_self
        · exact (ih inside).imp_left (List.mem_cons_of_mem _)

theorem nodup_alter {key : κ} {f : Option β → β} {d : List (κ × β)}
    (distinct : (d.map Prod.fst).Nodup) :
    ((alter key f d).map Prod.fst).Nodup := by
  rw [keys_alter]
  split
  · exact distinct
  next absent =>
    rw [List.nodup_append]
    refine ⟨distinct, List.nodup_singleton key, ?_⟩
    intro a inside b single same
    rw [List.mem_singleton.mp single] at same
    exact absent (same ▸ inside)

theorem mem_keys_alter {key other : κ} {f : Option β → β}
    {d : List (κ × β)} :
    other ∈ (alter key f d).map Prod.fst ↔
      other ∈ d.map Prod.fst ∨ other = key := by
  rw [keys_alter]
  split
  next present =>
    constructor
    · exact .inl
    · rintro (inside | rfl)
      · exact inside
      · exact present
  · simp

theorem lookup_isSome [BEq κ] [LawfulBEq κ] {key : κ} {d : List (κ × β)} :
    (d.lookup key).isSome ↔ key ∈ d.map Prod.fst := by
  induction d with
  | nil => simp
  | cons item rest ih =>
      obtain ⟨k, value⟩ := item
      by_cases same : key = k
      · simp [same]
      · have other : (key == k) = false := by simpa using same
        simp only [List.lookup, other, ih, List.map_cons, List.mem_cons, same,
          false_or]

/-- A dictionary of computed values. -/
theorem lookup_map_self [BEq κ] [LawfulBEq κ] (f : κ → β) {keys : List κ}
    {key : κ} (known : key ∈ keys) :
    (keys.map fun other => (other, f other)).lookup key = some (f key) := by
  induction keys with
  | nil => cases known
  | cons first rest ih =>
      rw [List.map_cons, List.lookup_cons]
      by_cases same : key = first
      · simp [same]
      · simp only [beq_eq_false_iff_ne.mpr same]
        exact ih ((List.mem_cons.mp known).resolve_left same)

/-- With every key once, looking up finds exactly the items. -/
theorem lookup_eq_some_iff_mem [BEq κ] [LawfulBEq κ] {key : κ}
    {value : β} {d : List (κ × β)}
    (distinct : (d.map Prod.fst).Nodup) :
    d.lookup key = some value ↔ (key, value) ∈ d := by
  induction d with
  | nil => simp
  | cons item rest ih =>
      obtain ⟨k, other⟩ := item
      simp only [List.map_cons, List.nodup_cons] at distinct
      by_cases same : key = k
      · subst same
        have fresh : (key, value) ∉ rest := fun member =>
          distinct.1 (List.mem_map.mpr ⟨_, member, rfl⟩)
        simp [fresh, eq_comm]
      · have apart : (key == k) = false := by simpa using same
        simp only [List.lookup, apart, ih distinct.2, List.mem_cons,
          Prod.mk.injEq, same, false_and, false_or]

/-- With every key once, an update changes the value of its key alone. -/
theorem mem_alter [BEq κ] [LawfulBEq κ] {key : κ} {f : Option β → β}
    {d : List (κ × β)} (distinct : (d.map Prod.fst).Nodup) {item : κ × β} :
    item ∈ alter key f d ↔
      if item.1 = key then item.2 = f (d.lookup key) else item ∈ d := by
  obtain ⟨k, value⟩ := item
  rw [← lookup_eq_some_iff_mem (nodup_alter distinct)]
  split
  next same =>
    dsimp only at same
    rw [same, lookup_alter_self, Option.some.injEq]
    exact eq_comm
  next different =>
    rw [lookup_alter_ne different, lookup_eq_some_iff_mem distinct]

theorem lookup_eq_none_iff_notMem [BEq κ] [LawfulBEq κ] {key : κ}
    {d : List (κ × β)} :
    d.lookup key = none ↔ key ∉ d.map Prod.fst := by
  rw [← lookup_isSome, Option.not_isSome_iff_eq_none]

theorem alter_of_notMem {key : κ} {f : Option β → β} {d : List (κ × β)}
    (absent : key ∉ d.map Prod.fst) : alter key f d = d ++ [(key, f none)] := by
  induction d with
  | nil => rfl
  | cons item rest ih =>
      obtain ⟨k, value⟩ := item
      simp only [List.map_cons, List.mem_cons, not_or] at absent
      simp only [alter, Ne.symm absent.1, if_false, ih absent.2,
        List.cons_append]

/-- `del d[key]`, or nothing when the key is absent. -/
def discard (key : κ) (d : List (κ × β)) : List (κ × β) :=
  d.filter fun item => item.1 ≠ key

theorem mem_keys_discard {key other : κ} {d : List (κ × β)} :
    other ∈ (discard key d).map Prod.fst ↔
      other ≠ key ∧ other ∈ d.map Prod.fst := by
  simp only [discard, List.mem_map, List.mem_filter, decide_eq_true_eq]
  constructor
  · rintro ⟨item, ⟨inside, apart⟩, rfl⟩
    exact ⟨apart, item, inside, rfl⟩
  · rintro ⟨apart, item, inside, rfl⟩
    exact ⟨item, ⟨inside, apart⟩, rfl⟩

/-- Discarding a new key undoes its assignment. -/
theorem discard_alter_of_notMem {key : κ} {f : Option β → β}
    {d : List (κ × β)} (absent : key ∉ d.map Prod.fst) :
    discard key (alter key f d) = d := by
  have others : ∀ item ∈ d, decide (item.1 ≠ key) = true := by
    rintro item inside
    rw [decide_eq_true_eq]
    rintro rfl
    exact absent (List.mem_map_of_mem inside)
  rw [alter_of_notMem absent, discard, List.filter_append,
    List.filter_eq_self.mpr others]
  simp

theorem nodup_discard {key : κ} {d : List (κ × β)}
    (distinct : (d.map Prod.fst).Nodup) :
    ((discard key d).map Prod.fst).Nodup :=
  distinct.sublist (List.filter_sublist.map _)

/-- With every key once, discarding one removes its only item. -/
theorem perm_cons_discard {key : κ} {value : β} {d : List (κ × β)}
    (distinct : (d.map Prod.fst).Nodup) (inside : (key, value) ∈ d) :
    d.Perm ((key, value) :: discard key d) := by
  induction d with
  | nil => cases inside
  | cons item rest ih =>
      simp only [List.map_cons, List.nodup_cons] at distinct
      rcases List.mem_cons.mp inside with rfl | later
      · have same : discard key ((key, value) :: rest) = rest := by
          simp only [discard, List.filter_cons, ne_eq, not_true_eq_false,
            decide_false, Bool.false_eq_true, if_false]
          refine List.filter_eq_self.mpr fun other member => ?_
          have apart : other.1 ≠ key := fun equal =>
            distinct.1 (List.mem_map.mpr ⟨other, member, equal⟩)
          simpa using apart
        rw [same]
      · have apart : item.1 ≠ key := fun equal =>
          distinct.1 (List.mem_map.mpr ⟨_, later, equal.symm⟩)
        have keeps : discard key (item :: rest) =
            item :: discard key rest := by
          simp [discard, apart]
        rw [keeps]
        exact ((ih distinct.2 later).cons item).trans (.swap _ _ _)

/-! ## Dictionaries as functions -/

/-- The items of a function on some keys. -/
def itemsOf (f : κ → Option β) (keys : List κ) : List (κ × β) :=
  keys.filterMap fun key => (f key).map fun value => (key, value)

omit [DecidableEq κ] in
theorem mem_itemsOf {f : κ → Option β} {keys : List κ} {key : κ} {value : β} :
    (key, value) ∈ itemsOf f keys ↔ key ∈ keys ∧ f key = some value := by
  simp only [itemsOf, List.mem_filterMap, Option.map_eq_some_iff,
    Prod.mk.injEq]
  constructor
  · rintro ⟨_, member, _, found, rfl, rfl⟩
    exact ⟨member, found⟩
  · rintro ⟨member, found⟩
    exact ⟨key, member, value, found, rfl, rfl⟩

omit [DecidableEq κ] in
theorem keys_itemsOf (f : κ → Option β) (keys : List κ) :
    (itemsOf f keys).map Prod.fst = keys.filter fun key => (f key).isSome := by
  induction keys with
  | nil => rfl
  | cons key rest ih =>
      simp only [itemsOf] at ih ⊢
      cases found : f key <;> simp [found, ih]

/-- Looking up an item evaluates the function. -/
theorem lookup_itemsOf [BEq κ] [LawfulBEq κ] {f : κ → Option β}
    {keys : List κ} {key : κ} (known : (f key).isSome → key ∈ keys) :
    (itemsOf f keys).lookup key = f key := by
  induction keys with
  | nil =>
      cases found : f key with
      | none => rfl
      | some value => simp [found] at known
  | cons first rest ih =>
      simp only [itemsOf] at ih ⊢
      by_cases same : key = first
      · subst same
        cases found : f key with
        | some value => simp [found]
        | none =>
            rw [List.filterMap_cons_none (by simp [found])]
            rw [ih (by simp [found]), found]
      · have later : (f key).isSome → key ∈ rest := fun present =>
          (List.mem_cons.mp (known present)).resolve_left same
        cases found : f first with
        | none =>
            rw [List.filterMap_cons_none (by simp [found])]
            exact ih later
        | some value =>
            simp only [List.filterMap_cons, found, Option.map_some,
              List.lookup_cons, beq_eq_false_iff_ne.mpr same]
            exact ih later

omit [DecidableEq κ] in
/-- Only the keys with a value have items. -/
theorem itemsOf_filter (f : κ → Option β) (keys : List κ) :
    itemsOf f (keys.filter fun key => (f key).isSome) = itemsOf f keys := by
  induction keys with
  | nil => rfl
  | cons key rest ih =>
      simp only [itemsOf] at ih ⊢
      cases found : f key <;> simp [found, ih]

/-- Looking up its own keys reads a dictionary back. -/
theorem itemsOf_lookup [BEq κ] [LawfulBEq κ] {d : List (κ × β)}
    (distinct : (d.map Prod.fst).Nodup) :
    itemsOf (fun key => d.lookup key) (d.map Prod.fst) = d := by
  have each : ∀ entry ∈ d, (d.lookup entry.1).map (fun value =>
      (entry.1, value)) = some entry := by
    intro entry member
    rw [(lookup_eq_some_iff_mem distinct).mpr member]
    rfl
  rw [itemsOf, List.filterMap_map]
  calc d.filterMap _ = d.filterMap some :=
        List.filterMap_congr fun entry member => each entry member
    _ = d := List.filterMap_some

/-! ## Dictionaries from items -/

/-- `{key: value for ...}`: a later item replaces an earlier one. -/
def dictOf (items : List (κ × β)) : List (κ × β) :=
  items.foldl (fun d item => alter item.1 (fun _ => item.2) d) []

/-- Every item of a dictionary is one that was stored. -/
theorem of_mem_dictOf {items : List (κ × β)} {entry : κ × β}
    (member : entry ∈ dictOf items) : entry ∈ items := by
  have stored : ∀ d : List (κ × β),
      entry ∈ items.foldl (fun d item => alter item.1 (fun _ => item.2) d) d →
        entry ∈ d ∨ entry ∈ items := by
    clear member
    induction items with
    | nil => exact fun d member => .inl member
    | cons item rest ih =>
        intro d member
        rcases ih _ member with before | later
        · rcases of_mem_alter before with old | ⟨_, rfl⟩
          · exact .inl old
          · exact .inr List.mem_cons_self
        · exact .inr (List.mem_cons_of_mem _ later)
  exact (stored [] member).resolve_left List.not_mem_nil

/-- Distinct keys are stored as they come. -/
theorem dictOf_of_nodup {items : List (κ × β)}
    (distinct : (items.map Prod.fst).Nodup) : dictOf items = items := by
  have stored : ∀ d : List (κ × β), ((d ++ items).map Prod.fst).Nodup →
      items.foldl (fun d item => alter item.1 (fun _ => item.2) d) d =
        d ++ items := by
    clear distinct
    induction items with
    | nil => simp
    | cons item rest ih =>
        intro d apart
        have fresh : item.1 ∉ d.map Prod.fst := by
          rw [List.map_append, List.nodup_append] at apart
          exact fun member => apart.2.2 _ member _ (by simp) rfl
        rw [List.foldl_cons, alter_of_notMem fresh, ih _ (by simpa using apart)]
        simp
  simpa [dictOf] using stored [] distinct

/-! ## Counting -/

/-- `d[key] = d.get(key, 0) + 1`. -/
def countKey (counts : List (κ × Nat)) (key : κ) : List (κ × Nat) :=
  alter key (fun seen => seen.getD 0 + 1) counts

/-- How often each key occurs, in the order of first occurrences. -/
def tally (keys : List κ) : List (κ × Nat) :=
  keys.foldl countKey []

theorem sum_countKey (counts : List (κ × Nat)) (key : κ) :
    ((countKey counts key).map Prod.snd).sum =
      (counts.map Prod.snd).sum + 1 := by
  induction counts with
  | nil => simp [countKey, alter]
  | cons item rest ih =>
      obtain ⟨k, seen⟩ := item
      simp only [countKey] at ih
      by_cases same : k = key
      · simp only [countKey, alter, same, if_true, List.map_cons,
          List.sum_cons, Option.getD_some]
        omega
      · simp only [countKey, alter, same, if_false, List.map_cons,
          List.sum_cons, ih]
        omega

theorem sum_foldl_countKey (keys : List κ) (counts : List (κ × Nat)) :
    ((keys.foldl countKey counts).map Prod.snd).sum =
      (counts.map Prod.snd).sum + keys.length := by
  induction keys generalizing counts with
  | nil => simp
  | cons key rest ih =>
      rw [List.foldl_cons, ih, sum_countKey, List.length_cons]
      omega

/-- The counts of a tally add up to the number of keys. -/
theorem sum_tally (keys : List κ) :
    ((tally keys).map Prod.snd).sum = keys.length := by
  rw [tally, sum_foldl_countKey]
  simp

theorem nodup_foldl_countKey (keys : List κ) {counts : List (κ × Nat)}
    (distinct : (counts.map Prod.fst).Nodup) :
    ((keys.foldl countKey counts).map Prod.fst).Nodup := by
  induction keys generalizing counts with
  | nil => exact distinct
  | cons key rest ih => exact ih (nodup_alter distinct)

theorem nodup_tally (keys : List κ) :
    ((tally keys).map Prod.fst).Nodup :=
  nodup_foldl_countKey keys List.nodup_nil

theorem lookup_foldl_countKey [BEq κ] [LawfulBEq κ] (keys : List κ)
    (counts : List (κ × Nat)) (key : κ) :
    ((keys.foldl countKey counts).lookup key).getD 0 =
      (counts.lookup key).getD 0 + keys.count key := by
  induction keys generalizing counts with
  | nil => simp
  | cons first rest ih =>
      rw [List.foldl_cons, ih, List.count_cons]
      by_cases same : first = key
      · subst same
        simp only [countKey, lookup_alter_self, Option.getD_some,
          beq_self_eq_true, if_true]
        omega
      · have apart : (first == key) = false := by simpa using same
        rw [countKey, lookup_alter_ne (Ne.symm same), apart]
        simp

theorem mem_keys_tally (keys : List κ) (key : κ) :
    key ∈ (tally keys).map Prod.fst ↔ key ∈ keys := by
  have general (counts : List (κ × Nat)) :
      key ∈ (keys.foldl countKey counts).map Prod.fst ↔
        key ∈ counts.map Prod.fst ∨ key ∈ keys := by
    induction keys generalizing counts with
    | nil => simp
    | cons first rest ih =>
        rw [List.foldl_cons, ih, countKey, mem_keys_alter, or_assoc,
          List.mem_cons]
  simpa [tally] using general []

/-- A tally holds each key that occurs, with its number of occurrences. -/
theorem mem_tally [BEq κ] [LawfulBEq κ] {keys : List κ} {key : κ}
    {count : Nat} :
    (key, count) ∈ tally keys ↔ count = keys.count key ∧ 0 < count := by
  have counted := lookup_foldl_countKey keys [] key
  rw [← lookup_eq_some_iff_mem (nodup_tally keys)]
  cases found : (tally keys).lookup key with
  | none =>
      have absent : key ∉ keys := by
        rw [← mem_keys_tally, ← lookup_isSome, found]
        simp
      constructor
      · intro impossible
        cases impossible
      · rintro ⟨rfl, positive⟩
        exact absurd (List.count_pos_iff.mp positive) absent
  | some seen =>
      have present : key ∈ keys := by
        rw [← mem_keys_tally, ← lookup_isSome, found]
        rfl
      rw [tally] at found
      rw [found] at counted
      simp only [Option.getD_some, List.lookup_nil, Option.getD_none,
        Nat.zero_add] at counted
      rw [Option.some.injEq, counted]
      constructor
      · rintro rfl
        exact ⟨rfl, List.count_pos_iff.mpr present⟩
      · exact fun holds => holds.1.symm

theorem tally_length_le (keys : List κ) :
    (tally keys).length ≤ keys.length := by
  have inside : ((tally keys).map Prod.fst).Subperm keys :=
    List.subperm_of_subset (nodup_tally keys) fun key member =>
      (mem_keys_tally keys key).mp member
  simpa using inside.length_le

end Dict

end ParityGrid.Foundation
