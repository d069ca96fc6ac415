import ParityGrid.Foundation.Validation

/-!
# Shortened names

A name within a limit stands for itself.  A longer one is cut and closed by a
stamp of fixed width after a separator.  The two kinds share one space, so a
short name can spell the shortened form of a long one.
-/

namespace ParityGrid.Foundation

/-! ## Cuts -/

section Cuts

variable {α : Type} {separator : α} {front rest front' rest' : List α}

/-- Two texts cut at a separator agree, or one front continues the other. -/
theorem cut_eq_iff :
    front ++ separator :: rest = front' ++ separator :: rest' ↔
      (front = front' ∧ rest = rest') ∨
        (∃ more, front = front' ++ separator :: more ∧
          rest' = more ++ separator :: rest) ∨
        ∃ more, front' = front ++ separator :: more ∧
          rest = more ++ separator :: rest' := by
  constructor
  · intro equal
    rcases List.append_eq_append_iff.mp equal with
      ⟨more, longer, tail⟩ | ⟨more, longer, tail⟩
    · cases more with
      | nil =>
          simp only [List.nil_append, List.cons.injEq, true_and] at tail
          exact .inl ⟨by simpa using longer.symm, tail⟩
      | cons c more =>
          simp only [List.cons_append, List.cons.injEq] at tail
          obtain ⟨rfl, rest_⟩ := tail
          exact .inr (.inr ⟨more, longer, rest_⟩)
    · cases more with
      | nil =>
          simp only [List.nil_append, List.cons.injEq, true_and] at tail
          exact .inl ⟨by simpa using longer, tail.symm⟩
      | cons c more =>
          simp only [List.cons_append, List.cons.injEq] at tail
          obtain ⟨rfl, rest_⟩ := tail
          exact .inr (.inl ⟨more, longer, rest_⟩)
  · rintro (⟨rfl, rfl⟩ | ⟨more, rfl, rfl⟩ | ⟨more, rfl, rfl⟩)
    · rfl
    · simp
    · simp

/-- A cut before a rest without the separator is the last one. -/
theorem cut_last_inj (free : separator ∉ rest) (free' : separator ∉ rest')
    (equal : front ++ separator :: rest = front' ++ separator :: rest') :
    front = front' ∧ rest = rest' := by
  rcases cut_eq_iff.mp equal with both | ⟨more, _, tail⟩ | ⟨more, _, tail⟩
  · exact both
  · exact absurd (by rw [tail]; simp) free'
  · exact absurd (by rw [tail]; simp) free

/-- A cut after a front without the separator is the first one. -/
theorem cut_first_inj (free : separator ∉ front) (free' : separator ∉ front')
    (equal : front ++ separator :: rest = front' ++ separator :: rest') :
    front = front' ∧ rest = rest' := by
  rcases cut_eq_iff.mp equal with both | ⟨more, head, _⟩ | ⟨more, head, _⟩
  · exact both
  · exact absurd (by rw [head]; simp) free
  · exact absurd (by rw [head]; simp) free'

/-- Rests of one width are cut at one place. -/
theorem cut_width_inj (width : rest.length = rest'.length)
    (equal : front ++ separator :: rest = front' ++ separator :: rest') :
    front = front' ∧ rest = rest' := by
  have parts := List.append_inj' equal (by simp [width])
  exact ⟨parts.1, (List.cons.inj parts.2).2⟩

end Cuts

/-! ## Segments -/

namespace SegmentPattern

/-- One class of characters for every segment, and separators outside it. -/
structure Plain (p : SegmentPattern) : Prop where
  later : p.later = p.first
  body : p.body = p.first
  separator : ∀ c, p.separator c → p.first c = false

variable {p : SegmentPattern}

theorem Plain.matchRest_false (plain : p.Plain) (t : Text) :
    p.matchRest false t = p.fullmatch t := by
  cases t with
  | nil => rfl
  | cons c rest => rw [matchRest, fullmatch, plain.later]

theorem Plain.matchRest_cut (plain : p.Plain) {c : CodePoint}
    (cut : p.separator c) (inside : Bool) (front rest : Text) :
    p.matchRest inside (front ++ c :: rest) =
      (p.matchRest inside front && p.fullmatch rest) := by
  have outside := plain.separator c cut
  induction front generalizing inside with
  | nil =>
      cases inside with
      | false => simp [matchRest, plain.later, outside]
      | true => simp [matchRest, plain.body, outside, cut, plain.matchRest_false]
  | cons d front ih =>
      cases inside with
      | false => simp only [List.cons_append, matchRest, ih, Bool.and_assoc]
      | true =>
          simp only [List.cons_append, matchRest, ih]
          split
          · rfl
          · rw [Bool.and_assoc]

/-- A separator joins two matching texts, and parts a matching text. -/
theorem Plain.fullmatch_cut (plain : p.Plain) {c : CodePoint}
    (cut : p.separator c) (front rest : Text) :
    p.fullmatch (front ++ c :: rest) =
      (p.fullmatch front && p.fullmatch rest) := by
  rw [← plain.matchRest_false, plain.matchRest_cut cut, plain.matchRest_false]

theorem matchRest_start {inside : Bool} {front rest : Text}
    (matched : p.matchRest inside (front ++ rest)) :
    front = [] ∨ p.matchRest inside front ∨
      ∃ shorter c, front = shorter ++ [c] ∧ p.separator c ∧
        p.matchRest inside shorter := by
  induction front generalizing inside with
  | nil => exact .inl rfl
  | cons d front ih =>
      right
      have step : ∀ inside', p.matchRest inside' (front ++ rest) →
          (∀ t, p.matchRest inside' t → p.matchRest inside (d :: t)) →
          (front = [] → p.matchRest inside (d :: front) ∨
            p.separator d ∧ p.matchRest inside []) →
          p.matchRest inside (d :: front) ∨
            ∃ shorter c, d :: front = shorter ++ [c] ∧ p.separator c ∧
              p.matchRest inside shorter := by
        intro inside' later grows alone
        rcases ih later with none_ | whole | ⟨shorter, c, form, ends, inner⟩
        · rcases alone none_ with whole | ⟨ends, empty⟩
          · exact .inl whole
          · exact .inr ⟨[], d, by rw [none_]; rfl, ends, empty⟩
        · exact .inl (grows front whole)
        · exact .inr ⟨d :: shorter, c, by rw [form]; rfl, ends,
            grows shorter inner⟩
      cases inside with
      | false =>
          simp only [List.cons_append, matchRest, Bool.and_eq_true] at matched
          apply step true matched.2
          · intro t inner
            rw [matchRest, matched.1, inner]
            rfl
          · rintro rfl
            left
            simp [matchRest, matched.1]
      | true =>
          simp only [List.cons_append, matchRest] at matched
          split at matched
          next body =>
            apply step true matched
            · intro t inner
              rw [matchRest, if_pos body, inner]
            · rintro rfl
              left
              simp [matchRest, body]
          next other =>
            rw [Bool.and_eq_true] at matched
            apply step false matched.2
            · intro t inner
              rw [matchRest, if_neg other, matched.1, inner]
              rfl
            · intro _
              exact .inr ⟨matched.1, rfl⟩

/-- What a matching text starts with matches, or ends in a separator. -/
theorem Plain.fullmatch_start (plain : p.Plain) {front rest : Text}
    (matched : p.fullmatch (front ++ rest)) (some_ : front ≠ []) :
    p.fullmatch front ∨
      ∃ shorter c, front = shorter ++ [c] ∧ p.separator c ∧
        p.fullmatch shorter := by
  rw [← plain.matchRest_false] at matched
  rcases matchRest_start matched with
    none_ | whole | ⟨shorter, c, form, ends, inner⟩
  · exact absurd none_ some_
  · left
    rwa [← plain.matchRest_false]
  · right
    refine ⟨shorter, c, form, ends, ?_⟩
    rwa [← plain.matchRest_false]

theorem fullmatch_ne_nil {t : Text} (matched : p.fullmatch t) : t ≠ [] := by
  rintro rfl
  cases matched

/-- A matching text does not end in a separator. -/
theorem Plain.fullmatch_last (plain : p.Plain) {front : Text} {c : CodePoint}
    (matched : p.fullmatch (front ++ [c])) :
    p.separator c = false := by
  by_contra ends
  rw [Bool.not_eq_false] at ends
  rw [plain.fullmatch_cut ends, Bool.and_eq_true] at matched
  cases matched.2

theorem Plain.matchRest_all (plain : p.Plain) {t : Text}
    (all : t.all p.first) :
    p.matchRest true t := by
  induction t with
  | nil => rfl
  | cons c rest ih =>
      rw [List.all_cons, Bool.and_eq_true] at all
      rw [matchRest, plain.body, if_pos all.1]
      exact ih all.2

/-- One segment is a matching text. -/
theorem Plain.fullmatch_segment (plain : p.Plain) {t : Text} (some_ : t ≠ [])
    (all : t.all p.first) :
    p.fullmatch t := by
  cases t with
  | nil => exact absurd rfl some_
  | cons c rest =>
      rw [List.all_cons, Bool.and_eq_true] at all
      rw [fullmatch, all.1, plain.matchRest_all all.2]
      rfl

theorem Plain.matchRest_map (plain : p.Plain) {q : SegmentPattern}
    (other : q.Plain) {change : CodePoint → CodePoint}
    (inner : ∀ c, p.first c → q.first (change c))
    (outer : ∀ c, p.separator c → q.separator (change c)) {inside : Bool}
    {t : Text} (matched : p.matchRest inside t) :
    q.matchRest inside (t.map change) := by
  induction t generalizing inside with
  | nil => exact matched
  | cons c rest ih =>
      cases inside with
      | false =>
          simp only [matchRest, plain.later, Bool.and_eq_true] at matched
          simp only [List.map_cons, matchRest, other.later, inner c matched.1,
            ih matched.2, Bool.and_self]
      | true =>
          simp only [matchRest, plain.body] at matched
          simp only [List.map_cons, matchRest, other.body]
          split at matched
          next body => rw [if_pos (inner c body), ih matched]
          next =>
            rw [Bool.and_eq_true] at matched
            have outside := other.separator _ (outer c matched.1)
            rw [outside, if_neg (by decide), outer c matched.1, ih matched.2]
            rfl

/-- A change of characters within the classes keeps a match. -/
theorem Plain.fullmatch_map (plain : p.Plain) {q : SegmentPattern}
    (other : q.Plain) {change : CodePoint → CodePoint}
    (inner : ∀ c, p.first c → q.first (change c))
    (outer : ∀ c, p.separator c → q.separator (change c)) {t : Text}
    (matched : p.fullmatch t) :
    q.fullmatch (t.map change) := by
  rw [← plain.matchRest_false] at matched
  rw [← other.matchRest_false]
  exact plain.matchRest_map other inner outer matched

end SegmentPattern

/-! ## Shortening -/

/-- How names over a limit are cut and stamped. -/
structure Shortening (α : Type) where
  limit : Nat
  width : Nat
  separator : α
  stamp : List α → List α
  sized : ∀ name, (stamp name).length = width

namespace Shortening

variable {α : Type} [DecidableEq α] (rule : Shortening α)

/-- What is kept of a name that is cut. -/
def kept (name : List α) : List α :=
  (name.take (rule.limit - (rule.width + 1))).rdropWhile
    (· == rule.separator)

/-- The form of a name over the limit. -/
def stamped (name : List α) : List α :=
  rule.kept name ++ rule.separator :: rule.stamp name

def shorten (name : List α) : List α :=
  if name.length ≤ rule.limit then name else rule.stamped name

/-- A name within the limit reads like the stamped form of a longer one. -/
def Spells (short long : List α) : Prop :=
  short.length ≤ rule.limit ∧ rule.limit < long.length ∧
    short = rule.stamped long

instance (short long : List α) : Decidable (rule.Spells short long) :=
  inferInstanceAs (Decidable (_ ∧ _ ∧ _))

variable {rule} {left right : List α}

theorem stamped_inj
    (distinct : rule.stamp left = rule.stamp right → left = right)
    (equal : rule.stamped left = rule.stamped right) :
    left = right :=
  distinct (cut_width_inj (by rw [rule.sized, rule.sized]) equal).2

/-- When two shortened names are the same. -/
theorem shorten_eq_iff
    (distinct : rule.limit < left.length → rule.limit < right.length →
      rule.stamp left = rule.stamp right → left = right) :
    rule.shorten left = rule.shorten right ↔
      left = right ∨ rule.Spells left right ∨ rule.Spells right left := by
  simp only [shorten, Spells]
  constructor
  · intro equal
    split at equal
    next short =>
      split at equal
      next => exact .inl equal
      next long => exact .inr (.inl ⟨short, by omega, equal⟩)
    next long =>
      split at equal
      next short => exact .inr (.inr ⟨short, by omega, equal.symm⟩)
      next long' =>
        exact .inl (stamped_inj (distinct (by omega) (by omega)) equal)
  · rintro (rfl | ⟨short, long, equal⟩ | ⟨short, long, equal⟩)
    · rfl
    · rw [if_pos short, if_neg (by omega), equal]
    · rw [if_neg (by omega), if_pos short, equal]

/-- No name whose end of the stamp's width lacks its separator spells one. -/
theorem not_spells {front : List α} {last : List α}
    (free : rule.separator ∉ last) (wide : rule.width < last.length) :
    ¬ rule.Spells (front ++ last) right := by
  rintro ⟨_, _, equal⟩
  have tail : rule.separator :: rule.stamp right <:+ front ++ last := by
    rw [equal, stamped]
    exact List.suffix_append _ _
  have within : rule.separator :: rule.stamp right <:+ last := by
    apply List.suffix_of_suffix_length_le tail (List.suffix_append _ _)
    rw [List.length_cons, rule.sized]
    omega
  exact free (within.subset List.mem_cons_self)

end Shortening

end ParityGrid.Foundation
