import ParityGrid.Foundation.Dict
import ParityGrid.Foundation.Text

/-!
# Sorted sequences

`sortedBy key` is `sorted(values, key=...)`: stable, and in ascending order of
the keys.  Sorting erases the order of arrival exactly when equal keys mean
equal values, so two sorted sequences agree when one is a permutation of the
other.
-/

namespace ParityGrid.Foundation

section SortedBy

variable {α β κ : Type} [LinearOrder κ]

/-- `sorted(values, key=key)`. -/
def sortedBy (key : α → κ) (values : List α) : List α :=
  values.insertionSort fun a b => key a ≤ key b

theorem sortedBy_perm (key : α → κ) (values : List α) :
    (sortedBy key values).Perm values :=
  List.perm_insertionSort _ values

@[simp]
theorem sortedBy_length (key : α → κ) (values : List α) :
    (sortedBy key values).length = values.length :=
  (sortedBy_perm key values).length_eq

@[simp]
theorem mem_sortedBy {key : α → κ} {value : α} {values : List α} :
    value ∈ sortedBy key values ↔ value ∈ values :=
  (sortedBy_perm key values).mem_iff

@[simp]
theorem sortedBy_nil (key : α → κ) : sortedBy key [] = [] := rfl

@[simp]
theorem sortedBy_singleton (key : α → κ) (value : α) :
    sortedBy key [value] = [value] := rfl

theorem sortedBy_pairwise (key : α → κ) (values : List α) :
    (sortedBy key values).Pairwise fun a b => key a ≤ key b := by
  have total : Std.Total fun a b : α => key a ≤ key b :=
    ⟨fun a b => le_total (key a) (key b)⟩
  have transitive : IsTrans α fun a b => key a ≤ key b :=
    ⟨fun _ _ _ first second => le_trans first second⟩
  exact List.pairwise_insertionSort _ values

theorem sortedBy_of_pairwise {key : α → κ} {values : List α}
    (ordered : values.Pairwise fun a b => key a ≤ key b) :
    sortedBy key values = values :=
  ordered.insertionSort_eq

theorem sortedBy_idem (key : α → κ) (values : List α) :
    sortedBy key (sortedBy key values) = sortedBy key values :=
  sortedBy_of_pairwise (sortedBy_pairwise key values)

/-- Sorting erases the order of arrival when equal keys mean equal values. -/
theorem sortedBy_eq_of_perm {key : α → κ} {left right : List α}
    (distinct : ∀ a ∈ left, ∀ b ∈ left, key a = key b → a = b)
    (perm : left.Perm right) :
    sortedBy key left = sortedBy key right := by
  have through : (sortedBy key left).Perm (sortedBy key right) :=
    ((sortedBy_perm key left).trans perm).trans (sortedBy_perm key right).symm
  apply through.eq_of_pairwise _ (sortedBy_pairwise key left)
    (sortedBy_pairwise key right)
  intro a b leftMember rightMember below above
  have inLeft : b ∈ left :=
    perm.mem_iff.mpr (mem_sortedBy.mp rightMember)
  exact distinct a (mem_sortedBy.mp leftMember) b inLeft
    (le_antisymm below above)

theorem sortedBy_map (f : α → β) (key : β → κ) (values : List α) :
    sortedBy key (values.map f) = (sortedBy (fun a => key (f a)) values).map f :=
  (List.map_insertionSort _ _ f values (fun _ _ _ _ => Iff.rfl)).symm

/-- Selecting from a sorted sequence keeps it sorted. -/
theorem sortedBy_filterMap {β : Type} {f : α → Option β} {key : α → κ}
    {image : β → κ} {values : List α}
    (keeps : ∀ a b, f a = some b → image b = key a)
    (distinct : ∀ a ∈ values, ∀ b ∈ values, key a = key b → a = b) :
    sortedBy image (values.filterMap f) = (sortedBy key values).filterMap f := by
  have pairwise : ((sortedBy key values).filterMap f).Pairwise
      fun a b => image a ≤ image b := by
    rw [List.pairwise_filterMap]
    refine (sortedBy_pairwise key values).imp ?_
    intro a b below c first d second
    rw [keeps a c first, keeps b d second]
    exact below
  rw [← sortedBy_of_pairwise pairwise]
  apply sortedBy_eq_of_perm
  · intro c left d right same
    obtain ⟨a, inValues, first⟩ := List.mem_filterMap.mp left
    obtain ⟨b, alsoIn, second⟩ := List.mem_filterMap.mp right
    rw [keeps a c first, keeps b d second] at same
    rw [distinct a inValues b alsoIn same, second] at first
    exact (Option.some.inj first).symm
  · exact ((sortedBy_perm key values).filterMap f).symm

/--
Two dictionaries sorted by their keys are equal exactly when they hold the same
items, however the keys are ordered.
-/
theorem sortedBy_fst_eq_iff {ι : Type} [DecidableEq ι] [BEq ι] [LawfulBEq ι]
    {order : ι → κ}
    (injective : Function.Injective order) {left right : List (ι × β)}
    (leftDistinct : (left.map Prod.fst).Nodup)
    (rightDistinct : (right.map Prod.fst).Nodup) :
    sortedBy (fun item => order item.1) left =
        sortedBy (fun item => order item.1) right ↔
      ∀ key, left.lookup key = right.lookup key := by
  constructor
  · intro equal key
    have perm : left.Perm right := by
      have through := (sortedBy_perm (fun item => order item.1) left).symm
      rw [equal] at through
      exact through.trans (sortedBy_perm _ right)
    apply Option.ext
    intro value
    rw [lookup_eq_some_iff_mem leftDistinct,
      lookup_eq_some_iff_mem rightDistinct]
    exact perm.mem_iff
  · intro lookups
    apply sortedBy_eq_of_perm
    · intro first firstMember second secondMember keys
      exact List.inj_on_of_nodup_map leftDistinct firstMember secondMember
        (injective keys)
    · rw [List.perm_ext_iff_of_nodup leftDistinct.of_map rightDistinct.of_map]
      rintro ⟨key, value⟩
      rw [← lookup_eq_some_iff_mem leftDistinct,
        ← lookup_eq_some_iff_mem rightDistinct, lookups key]

/-- Keys of a sorted sequence increase strictly when they are distinct. -/
theorem sortedBy_strict {key : α → κ} {values : List α}
    (distinct : (values.map key).Nodup) :
    (sortedBy key values).Pairwise fun a b => key a < key b := by
  have nodup : ((sortedBy key values).map key).Nodup :=
    ((sortedBy_perm key values).map key).nodup_iff.mpr distinct
  have apart : (sortedBy key values).Pairwise fun a b => key a ≠ key b :=
    List.pairwise_map.mp nodup
  exact ((sortedBy_pairwise key values).and apart).imp
    fun both => lt_of_le_of_ne both.1 both.2

/-- The first match of a sorted sequence has the least key of all matches. -/
theorem find?_sortedBy {key : α → κ} {p : α → Bool} {values : List α}
    {found : α} (first : (sortedBy key values).find? p = some found) :
    found ∈ values ∧ p found ∧
      ∀ other ∈ values, p other → key found ≤ key other := by
  obtain ⟨holds, before, after, form, earlier⟩ :=
    List.find?_eq_some_iff_append.mp first
  have member : found ∈ sortedBy key values := by simp [form]
  refine ⟨mem_sortedBy.mp member, holds, ?_⟩
  intro other otherMember otherHolds
  have inSorted : other ∈ before ++ found :: after := by
    rw [← form]
    exact mem_sortedBy.mpr otherMember
  have ordered := sortedBy_pairwise key values
  rw [form, List.pairwise_append, List.pairwise_cons] at ordered
  rcases List.mem_append.mp inSorted with inBefore | inRest
  · have rejected := earlier other inBefore
    simp [otherHolds] at rejected
  · rcases List.mem_cons.mp inRest with rfl | inAfter
    · exact le_refl _
    · exact ordered.2.1.1 other inAfter

omit [LinearOrder κ] in
/-- With distinct keys, one key selects one value. -/
theorem filter_key_eq_singleton [DecidableEq κ] {key : α → κ}
    {values : List α} (distinct : (values.map key).Nodup) {value : α}
    (member : value ∈ values) :
    values.filter (fun other => key other = key value) = [value] := by
  induction values with
  | nil => cases member
  | cons first rest ih =>
      simp only [List.map_cons, List.nodup_cons] at distinct
      rcases List.mem_cons.mp member with rfl | later
      · have others : rest.filter (fun other => key other = key value) =
            [] := by
          simp only [List.filter_eq_nil_iff, decide_eq_true_eq]
          intro other inRest same
          exact distinct.1 (List.mem_map.mpr ⟨other, inRest, same⟩)
        simp [others]
      · have different : key first ≠ key value := by
          intro same
          exact distinct.1 (List.mem_map.mpr ⟨value, later, same.symm⟩)
        simp [different, ih distinct.2 later]

omit [LinearOrder κ] in
/-- Values regrouped by their keys are the values in some order. -/
theorem regroup_perm [DecidableEq κ] {key : α → κ} {keys : List κ}
    {values : List α} (distinct : keys.Nodup)
    (covers : ∀ value ∈ values, key value ∈ keys) :
    (keys.flatMap fun k =>
      values.filter fun value => key value = k).Perm values := by
  induction keys generalizing values with
  | nil =>
      have empty : values = [] :=
        List.eq_nil_iff_forall_not_mem.mpr fun value member =>
          List.not_mem_nil (covers value member)
      rw [empty]
      exact List.Perm.refl _
  | cons k others ih =>
      rw [List.nodup_cons] at distinct
      have later : (others.flatMap fun other =>
          values.filter fun value => key value = other) =
            others.flatMap fun other =>
              (values.filter fun value => !decide (key value = k)).filter
                fun value => key value = other := by
        apply List.flatMap_congr
        intro other member
        rw [List.filter_filter]
        apply List.filter_congr
        intro value _
        have apart : other ≠ k := fun same => distinct.1 (same ▸ member)
        by_cases here : key value = other
        · simp [here, apart]
        · simp [here]
      rw [List.flatMap_cons, later]
      refine ((ih distinct.2 ?_).append_left _).trans
        (List.filter_append_perm _ values)
      intro value member
      simp only [List.mem_filter, Bool.not_eq_true', decide_eq_false_iff_not]
        at member
      exact (List.mem_cons.mp (covers value member.1)).resolve_left member.2

end SortedBy

section Sorted

variable {α : Type} [LinearOrder α]

/-- `sorted(values)` of totally ordered values. -/
def sorted (values : List α) : List α :=
  sortedBy id values

theorem sorted_perm (values : List α) : (sorted values).Perm values :=
  sortedBy_perm id values

@[simp]
theorem sorted_length (values : List α) :
    (sorted values).length = values.length :=
  sortedBy_length id values

@[simp]
theorem mem_sorted {value : α} {values : List α} :
    value ∈ sorted values ↔ value ∈ values :=
  mem_sortedBy

end Sorted

/-- Lists of at most one value have no other order. -/
theorem perm_eq_of_length_le_one {α : Type} {left right : List α}
    (perm : left.Perm right) (short : left.length ≤ 1) : left = right := by
  cases left with
  | nil => exact perm.symm.eq_nil.symm
  | cons value rest =>
      cases rest with
      | nil => exact (List.perm_singleton.mp perm.symm).symm
      | cons next others => simp at short

/-- A map that is injective on both sequences reflects permutations. -/
theorem perm_of_map_perm {α β : Type} {f : α → β} {left right : List α}
    (injective : ∀ a ∈ left ++ right, ∀ b ∈ left ++ right, f a = f b → a = b)
    (perm : (left.map f).Perm (right.map f)) :
    left.Perm right := by
  classical
  by_cases nonempty : Nonempty α
  · let inverse := Function.invFunOn f { a | a ∈ left ++ right }
    have recovers : ∀ a ∈ left ++ right, inverse (f a) = a := by
      intro a member
      have found : ∃ b ∈ { a | a ∈ left ++ right }, f b = f a :=
        ⟨a, member, rfl⟩
      exact injective _ (Function.invFunOn_mem found) a member
        (Function.invFunOn_eq found)
    have leftBack : (left.map f).map inverse = left := by
      rw [List.map_map]
      exact List.map_congr_left (fun a member =>
        recovers a (List.mem_append_left right member)) |>.trans
          (List.map_id left)
    have rightBack : (right.map f).map inverse = right := by
      rw [List.map_map]
      exact List.map_congr_left (fun a member =>
        recovers a (List.mem_append_right left member)) |>.trans
          (List.map_id right)
    rw [← leftBack, ← rightBack]
    exact perm.map inverse
  · have empty : ∀ values : List α, values = [] := by
      intro values
      cases values with
      | nil => rfl
      | cons a rest => exact absurd ⟨a⟩ nonempty
    rw [empty left, empty right]

end ParityGrid.Foundation
