import ParityGrid.Foundation.Sorting

/-!
# Relational queries

Tables are sequences of rows whose order means nothing.  Grouping, ordered
aggregates, comparison with nulls and the full outer join have their standard
meaning; a query that ends in a total order has one answer.
-/

namespace ParityGrid.Foundation

section Relational

variable {α β γ κ : Type} [DecidableEq κ]

/-- `left IS DISTINCT FROM right`: a null is distinct from every value only. -/
def distinctFrom [DecidableEq α] (left right : Option α) : Bool :=
  decide (left ≠ right)

@[simp]
theorem distinctFrom_some [DecidableEq α] (left right : α) :
    distinctFrom (some left) (some right) = decide (left ≠ right) := by
  simp [distinctFrom]

/-- `first(column ORDER BY order)`. -/
def firstBy {ω : Type} [LinearOrder ω] (order : α → ω) (column : α → β)
    (rows : List α) : Option β :=
  (sortedBy order rows).head?.map column

/-! ## Groups -/

/-- `SELECT aggregate FROM rows GROUP BY key`. -/
def groupBy (key : α → κ) (aggregate : κ → List α → γ) (rows : List α) :
    List γ :=
  (rows.map key).dedup.map fun k =>
    aggregate k (rows.filter fun row => key row = k)

section Groups

variable {key : α → κ} {aggregate : κ → List α → γ} {image : γ → κ}

theorem groupBy_keys (keeps : ∀ k group, image (aggregate k group) = k)
    (rows : List α) :
    (groupBy key aggregate rows).map image = (rows.map key).dedup := by
  rw [groupBy, List.map_map]
  refine (List.map_congr_left ?_).trans (List.map_id _)
  exact fun k _ => keeps k _

/-- A key has the one group of its rows, if it has rows. -/
theorem find?_groupBy (keeps : ∀ k group, image (aggregate k group) = k)
    (rows : List α) (k : κ) :
    (groupBy key aggregate rows).find? (fun row => image row = k) =
      if k ∈ rows.map key then
        some (aggregate k (rows.filter fun row => key row = k))
      else none := by
  rw [groupBy, List.find?_map]
  have same : ((fun row => decide (image row = k)) ∘ fun k =>
      aggregate k (rows.filter fun row => key row = k)) =
        fun other => decide (other = k) := by
    funext other
    simp only [Function.comp_apply, keeps]
  rw [same]
  split
  next present =>
    have found : (rows.map key).dedup.find? (fun other => other = k) =
        some k := by
      have some_ : ((rows.map key).dedup.find?
          fun other => decide (other = k)).isSome := by
        rw [List.find?_isSome]
        exact ⟨k, List.mem_dedup.mpr present, by simp⟩
      rcases Option.isSome_iff_exists.mp some_ with ⟨other, found⟩
      have equal := List.find?_some found
      simp only [decide_eq_true_eq] at equal
      rw [found, equal]
    rw [found]
    rfl
  next absent =>
    have none_ : (rows.map key).dedup.find? (fun other => other = k) =
        none := by
      rw [List.find?_eq_none]
      rintro other member equal
      simp only [decide_eq_true_eq] at equal
      exact absent (equal ▸ List.mem_dedup.mp member)
    rw [none_]
    rfl

end Groups

/-- The groups of a table hold all of its rows. -/
theorem sum_groups (key : α → κ) (rows : List α) :
    ((rows.map key).dedup.map fun k =>
      (rows.filter fun row => key row = k).length).sum = rows.length := by
  have perm : ((rows.map key).dedup.flatMap fun k =>
      rows.filter fun row => key row = k).Perm rows :=
    regroup_perm (List.nodup_dedup _) fun value member =>
      List.mem_dedup.mpr (List.mem_map_of_mem member)
  rw [← perm.length_eq, List.length_flatMap]

/-! ## Joins -/

/-- One row of a full outer join; an absent side has nulls in its columns. -/
inductive OuterRow (α β : Type) where
  | both (left : α) (right : β)
  | leftOnly (left : α)
  | rightOnly (right : β)

def OuterRow.left? : OuterRow α β → Option α
  | .both left _ => some left
  | .leftOnly left => some left
  | .rightOnly _ => none

def OuterRow.right? : OuterRow α β → Option β
  | .both _ right => some right
  | .leftOnly _ => none
  | .rightOnly right => some right

/-- `coalesce(left.column, right.column)` of columns that are never null. -/
def OuterRow.coalesce (leftColumn : α → γ) (rightColumn : β → γ) :
    OuterRow α β → γ
  | .both left _ => leftColumn left
  | .leftOnly left => leftColumn left
  | .rightOnly right => rightColumn right

/-- The rows of a key on both sides, when each side has at most one. -/
def OuterRow.of : Option α → Option β → Option (OuterRow α β)
  | some left, some right => some (.both left right)
  | some left, none => some (.leftOnly left)
  | none, some right => some (.rightOnly right)
  | none, none => none

theorem OuterRow.of_eq_none {left : Option α} {right : Option β} :
    OuterRow.of left right = none ↔ left = none ∧ right = none := by
  cases left <;> cases right <;> simp [OuterRow.of]

/-- `left FULL OUTER JOIN right USING (key)`. -/
def fullOuterJoin (leftKey : α → κ) (rightKey : β → κ) (left : List α)
    (right : List β) : List (OuterRow α β) :=
  left.flatMap (fun row =>
    match right.filter fun other => rightKey other = leftKey row with
    | [] => [.leftOnly row]
    | matching => matching.map fun other => .both row other) ++
  (right.filter fun other => rightKey other ∉ left.map leftKey).map .rightOnly

section Joins

variable {leftKey : α → κ} {rightKey : β → κ}

/-- With distinct keys, a row is found by its key. -/
theorem find?_key_eq_some {rows : List α}
    (distinct : (rows.map leftKey).Nodup) {row : α} (member : row ∈ rows) :
    rows.find? (fun other => leftKey other = leftKey row) = some row := by
  rw [← List.head?_filter, filter_key_eq_singleton distinct member]
  rfl

theorem find?_key_eq_none {rows : List α} {k : κ}
    (absent : k ∉ rows.map leftKey) :
    rows.find? (fun other => leftKey other = k) = none := by
  rw [List.find?_eq_none]
  rintro other member equal
  simp only [decide_eq_true_eq] at equal
  exact absent (List.mem_map.mpr ⟨other, member, equal⟩)

/-- The one match of a row, when the other side has distinct keys. -/
theorem join_row {right : List β} (distinct : (right.map rightKey).Nodup)
    (row : α) (k : κ) :
    (match right.filter fun other => rightKey other = k with
      | [] => [OuterRow.leftOnly row]
      | matching => matching.map fun other => OuterRow.both row other) =
      (OuterRow.of (some row)
        (right.find? fun other => rightKey other = k)).toList := by
  by_cases present : k ∈ right.map rightKey
  · rcases List.mem_map.mp present with ⟨other, member, rfl⟩
    rw [filter_key_eq_singleton distinct member,
      find?_key_eq_some distinct member]
    rfl
  · have none_ : right.filter (fun other => rightKey other = k) = [] := by
      rw [List.filter_eq_nil_iff]
      rintro other member equal
      simp only [decide_eq_true_eq] at equal
      exact present (List.mem_map.mpr ⟨other, member, equal⟩)
    rw [none_, find?_key_eq_none present]
    rfl

/-- When each side has distinct keys, the join has one row for every key. -/
theorem fullOuterJoin_perm {left : List α} {right : List β} {keys : List κ}
    (leftDistinct : (left.map leftKey).Nodup)
    (rightDistinct : (right.map rightKey).Nodup) (keysDistinct : keys.Nodup)
    (covers : ∀ k, k ∈ keys ↔
      k ∈ left.map leftKey ∨ k ∈ right.map rightKey) :
    (fullOuterJoin leftKey rightKey left right).Perm
      (keys.filterMap fun k => OuterRow.of
        (left.find? fun row => leftKey row = k)
        (right.find? fun row => rightKey row = k)) := by
  have split : keys.Perm (left.map leftKey ++
      (right.filter fun other => rightKey other ∉ left.map leftKey).map
        rightKey) := by
    rw [List.perm_ext_iff_of_nodup keysDistinct]
    · intro k
      rw [covers, List.mem_append, List.mem_map (l := right.filter _)]
      constructor
      · rintro (inLeft | inRight)
        · exact .inl inLeft
        · by_cases inLeft : k ∈ left.map leftKey
          · exact .inl inLeft
          · rcases List.mem_map.mp inRight with ⟨other, member, rfl⟩
            exact .inr ⟨other, List.mem_filter.mpr
              ⟨member, decide_eq_true inLeft⟩, rfl⟩
      · rintro (inLeft | ⟨other, member, rfl⟩)
        · exact .inl inLeft
        · exact .inr (List.mem_map_of_mem (List.mem_filter.mp member).1)
    · rw [List.nodup_append]
      refine ⟨leftDistinct, ?_, ?_⟩
      · exact rightDistinct.sublist (List.filter_sublist.map _)
      · rintro k inLeft other inRight rfl
        rcases List.mem_map.mp inRight with ⟨row, member, rfl⟩
        exact of_decide_eq_true (List.mem_filter.mp member).2 inLeft
  refine .trans (.of_eq ?_) (split.filterMap _).symm
  rw [List.filterMap_append, fullOuterJoin]
  congr 1
  · rw [List.filterMap_map, List.filterMap_eq_flatMap_toList]
    refine List.flatMap_congr fun row member => ?_
    rw [join_row rightDistinct, Function.comp_apply,
      find?_key_eq_some leftDistinct member]
  · rw [List.filterMap_map, ← List.filterMap_eq_map]
    refine List.filterMap_congr fun row member => ?_
    rcases List.mem_filter.mp member with ⟨inRight, outside⟩
    rw [Function.comp_apply, Function.comp_apply,
      find?_key_eq_none (of_decide_eq_true outside),
      find?_key_eq_some rightDistinct inRight]
    rfl

end Joins

end Relational

/-! ## Keyset pages -/

section Keyset

variable {α κ : Type} [LinearOrder κ] {key : α → κ}

/-- Filtering and ordering commute when the keys are distinct. -/
theorem sortedBy_filter {rows : List α} (distinct : (rows.map key).Nodup)
    (p : α → Bool) :
    sortedBy key (rows.filter p) = (sortedBy key rows).filter p := by
  have ordered : ((sortedBy key rows).filter p).Pairwise
      fun a b => key a ≤ key b :=
    (sortedBy_pairwise key rows).sublist List.filter_sublist
  rw [← sortedBy_of_pairwise ordered]
  apply sortedBy_eq_of_perm
  · intro a inRows b alsoIn same
    exact List.inj_on_of_nodup_map distinct (List.mem_filter.mp inRows).1
      (List.mem_filter.mp alsoIn).1 same
  · exact ((sortedBy_perm key rows).filter p).symm

/-- What is left after a page is what comes after its last row. -/
theorem filter_after_take {rows : List α}
    (strict : rows.Pairwise fun a b => key a < key b) {size : Nat} {last : α}
    (isLast : (rows.take size).getLast? = some last) :
    rows.filter (fun row => key last < key row) = rows.drop size := by
  have split := List.take_append_drop size rows
  rw [← split, List.pairwise_append] at strict
  have inPage : last ∈ rows.take size := List.mem_of_getLast? isLast
  have before : (rows.take size).filter
      (fun row => decide (key last < key row)) = [] := by
    rw [List.filter_eq_nil_iff]
    intro row member after
    rcases List.getLast?_eq_some_iff.mp isLast with ⟨initial, form⟩
    rw [form, List.pairwise_append] at strict
    rw [form] at member
    have later : key last < key row := of_decide_eq_true after
    rcases List.mem_append.mp member with inInitial | isRow
    · exact lt_asymm later
        (strict.1.2.2 row inInitial last List.mem_cons_self)
    · rw [List.mem_singleton.mp isRow] at later
      exact lt_irrefl _ later
  have after : (rows.drop size).filter
      (fun row => decide (key last < key row)) = rows.drop size := by
    rw [List.filter_eq_self]
    intro row member
    exact decide_eq_true (strict.2.2 last inPage row member)
  conv_lhs => rw [← split]
  rw [List.filter_append, before, after, List.nil_append]

end Keyset

end ParityGrid.Foundation
