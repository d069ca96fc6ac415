import ParityGrid.Application.Ports.ConnectorRedaction
import ParityGrid.Foundation.Transition

/-!
# What the marker loop settles

The marker loop of `redactText` always ends.  It searches a lower-cased copy
and continues ten characters behind the marker it found, whether or not it
wrote the placeholder there.  As long as no dotted capital I precedes the
marker that a turn finds, and a turn that finds no value jumps over no exposed
marker, every marker of the result is settled: nothing follows it, or the end
of a value, or the placeholder.
-/

namespace ParityGrid.Application

open ParityGrid.Foundation
open ParityGrid.Foundation.TransitionSystem

/-- A text begins with a marker, in any case. -/
def Begins (marker t : Text) : Prop :=
  lowered (t.take marker.length) = marker

instance (marker t : Text) : Decidable (Begins marker t) :=
  inferInstanceAs (Decidable (_ = _))

/-- What may follow a marker. -/
def Covered (rest : Text) : Prop :=
  rest = [] ∨ rest.head?.any isValueEnd ∨ redactionPlaceholder <+: rest

instance (rest : Text) : Decidable (Covered rest) :=
  inferInstanceAs (Decidable (_ ∨ _ ∨ _))

/-- Every occurrence of a marker is settled. -/
def Masked (marker t : Text) : Prop :=
  ∀ p, Begins marker (t.drop p) → Covered (t.drop (p + marker.length))

/-- What the proofs need of a marker. -/
structure MarkerShape (marker : Text) : Prop where
  plain : point 'i' ∉ marker
  unclosed : point '>' ∉ marker
  ends : ∃ body last, marker = body ++ [last] ∧ last ∉ body ∧
    last ∉ redactionPlaceholder

theorem MarkerShape.ne_nil {marker : Text} (shape : MarkerShape marker) :
    marker ≠ [] := by
  obtain ⟨body, last, rfl, _⟩ := shape.ends
  exact List.append_ne_nil_of_right_ne_nil _ (List.cons_ne_nil _ _)

/-! ## The lower-cased copy -/

@[simp]
theorem lowered_append (left right : Text) :
    lowered (left ++ right) = lowered left ++ lowered right :=
  List.flatMap_append

theorem loweredPoint_cases (c : CodePoint) :
    (c.val = 0x130 ∧ loweredPoint c = [point 'i', 0x307]) ∨
      (c.val ≠ 0x130 ∧ ∃ d, loweredPoint c = [d]) := by
  by_cases dotted : c.val = 0x130
  · exact .inl ⟨dotted, by rw [loweredPoint, if_pos dotted]⟩
  · refine .inr ⟨dotted, ?_⟩
    rw [loweredPoint, if_neg dotted]
    split
    · exact ⟨_, rfl⟩
    · exact ⟨_, rfl⟩

theorem length_le_lowered (t : Text) : t.length ≤ (lowered t).length := by
  induction t with
  | nil => exact Nat.le_refl 0
  | cons c rest ih =>
      have one : 1 ≤ (loweredPoint c).length := by
        rcases loweredPoint_cases c with ⟨_, form⟩ | ⟨_, d, form⟩
        · rw [form]
          exact Nat.le_succ 1
        · rw [form]
          exact Nat.le_refl 1
      rw [lowered, List.flatMap_cons, List.length_append, List.length_cons]
      rw [lowered] at ih
      omega

/-- Without a dotted capital I the copy has the length of the text. -/
theorem length_lowered {t : Text} (plain : (0x130 : CodePoint) ∉ t) :
    (lowered t).length = t.length := by
  induction t with
  | nil => rfl
  | cons c rest ih =>
      rw [List.mem_cons, not_or] at plain
      rcases loweredPoint_cases c with ⟨dotted, _⟩ | ⟨_, d, form⟩
      · exact absurd (Fin.ext dotted.symm) plain.1
      · have tail := ih plain.2
        rw [lowered] at tail
        rw [lowered, List.flatMap_cons, form, List.length_append, tail,
          List.length_singleton, List.length_cons, Nat.add_comm]

theorem lowered_drop {t : Text} {p : Nat}
    (plain : (0x130 : CodePoint) ∉ t.take p) (inside : p ≤ t.length) :
    (lowered t).drop p = lowered (t.drop p) := by
  have same : (lowered (t.take p)).length = p := by
    rw [length_lowered plain, List.length_take, Nat.min_eq_left inside]
  calc (lowered t).drop p
      = (lowered (t.take p) ++ lowered (t.drop p)).drop p := by
        rw [← lowered_append, List.take_append_drop]
    _ = lowered (t.drop p) := List.drop_left' same

/-! ## Occurrences -/

variable {marker t : Text}

theorem begins_nil (t : Text) : Begins [] t := rfl

theorem begins_cons {d : CodePoint} (plain : point 'i' ∉ d :: marker) :
    Begins (d :: marker) t ↔
      ∃ c rest, t = c :: rest ∧ loweredPoint c = [d] ∧ Begins marker rest := by
  cases t with
  | nil =>
      constructor
      · intro begins
        cases begins
      · rintro ⟨c, rest, form, _⟩
        cases form
  | cons c rest =>
      have unfolded : Begins (d :: marker) (c :: rest) ↔
          loweredPoint c ++ lowered (rest.take marker.length) =
            d :: marker := Iff.rfl
      rw [unfolded]
      constructor
      · intro same
        rcases loweredPoint_cases c with ⟨_, form⟩ | ⟨_, e, form⟩
        · rw [form] at same
          exact absurd ((List.cons.inj same).1 ▸ List.mem_cons_self) plain
        · rw [form] at same
          rcases List.cons.inj same with ⟨rfl, tail⟩
          exact ⟨c, rest, rfl, form, tail⟩
      · rintro ⟨_, _, form, lowers, begins⟩
        rcases List.cons.inj form with ⟨rfl, rfl⟩
        rw [lowers]
        exact congrArg (d :: ·) begins

/-- An occurrence is one in the lower-cased copy. -/
theorem begins_iff (plain : point 'i' ∉ marker) :
    Begins marker t ↔ marker <+: lowered t := by
  induction marker generalizing t with
  | nil => exact ⟨fun _ => List.nil_prefix, fun _ => begins_nil t⟩
  | cons d marker ih =>
      have tail : point 'i' ∉ marker := fun member =>
        plain (List.mem_cons_of_mem d member)
      rw [begins_cons plain]
      constructor
      · rintro ⟨c, rest, rfl, lowers, begins⟩
        rw [lowered, List.flatMap_cons, lowers]
        exact List.cons_prefix_cons.mpr ⟨rfl, (ih tail).mp begins⟩
      · intro found
        cases t with
        | nil => exact absurd (List.prefix_nil.mp found) (List.cons_ne_nil _ _)
        | cons c rest =>
            rw [lowered, List.flatMap_cons] at found
            rcases loweredPoint_cases c with ⟨_, form⟩ | ⟨_, e, form⟩
            · rw [form, List.cons_append, List.cons_prefix_cons] at found
              exact absurd (found.1 ▸ List.mem_cons_self) plain
            · rw [form, List.singleton_append, List.cons_prefix_cons] at found
              rcases found with ⟨rfl, found⟩
              exact ⟨c, rest, rfl, form, (ih tail).mpr found⟩

/-- The characters of an occurrence, one by one. -/
theorem Begins.reads (begins : Begins marker t) (plain : point 'i' ∉ marker)
    {k : Nat} {d : CodePoint} (at_ : marker[k]? = some d) :
    ∃ c, t[k]? = some c ∧ loweredPoint c = [d] := by
  induction marker generalizing t k with
  | nil => cases at_
  | cons e marker ih =>
      obtain ⟨c, rest, rfl, lowers, later⟩ := (begins_cons plain).mp begins
      cases k with
      | zero =>
          rw [List.getElem?_cons_zero] at at_ ⊢
          exact ⟨c, rfl, Option.some.inj at_ ▸ lowers⟩
      | succ k =>
          rw [List.getElem?_cons_succ] at at_ ⊢
          exact ih later (fun member =>
            plain (List.mem_cons_of_mem e member)) at_

theorem begins_congr {other : Text}
    (same : t.take marker.length = other.take marker.length) :
    Begins marker t ↔ Begins marker other := by
  rw [Begins, Begins, same]

/-- The copy has an occurrence no earlier than the text. -/
theorem Begins.copied {p : Nat} (begins : Begins marker (t.drop p))
    (plain : point 'i' ∉ marker) :
    marker <+: (lowered t).drop (lowered (t.take p)).length := by
  have split : lowered t = lowered (t.take p) ++ lowered (t.drop p) := by
    rw [← lowered_append, List.take_append_drop]
  rw [split, List.drop_left]
  exact (begins_iff plain).mp begins

/-! ## Writing the placeholder -/

section Writing

variable {front value rest : Text} {last : CodePoint} {p : Nat}

theorem loweredPoint_placeholder {c : CodePoint}
    (member : c ∈ redactionPlaceholder) : loweredPoint c = [c] := by
  have each : (redactionPlaceholder.all fun c => loweredPoint c == [c]) := by
    decide
  exact eq_of_beq (List.all_eq_true.mp each c member)

theorem length_placeholder : redactionPlaceholder.length = 10 := by
  decide

/-- An occurrence lies before the placeholder or behind it. -/
theorem begins_apart (shape : MarkerShape marker)
    (begins : Begins marker
      ((front ++ redactionPlaceholder ++ rest).drop p)) :
    p + marker.length ≤ front.length ∨
      front.length + redactionPlaceholder.length ≤ p := by
  rcases Nat.lt_or_ge front.length (p + marker.length) with reaches | before
  · refine .inr (Nat.le_of_not_lt fun early => ?_)
    obtain ⟨body, last, form, _, foreign⟩ := shape.ends
    have length : marker.length = body.length + 1 := by
      rw [form, List.length_append, List.length_singleton]
    rcases Nat.lt_or_ge (p + body.length)
        (front.length + redactionPlaceholder.length) with inside | behind
    · -- The last character would stand inside the placeholder.
      have final : marker[body.length]? = some last := by
        rw [form, List.getElem?_concat_length]
      obtain ⟨c, found, lowers⟩ := begins.reads shape.plain final
      rw [List.getElem?_drop, List.getElem?_append_left
        (by rw [List.length_append]; omega),
        List.getElem?_append_right (by omega)] at found
      have member := List.mem_of_getElem? found
      rw [loweredPoint_placeholder member] at lowers
      exact foreign ((List.cons.inj lowers).1 ▸ member)
    · -- The closing bracket would stand inside the marker.
      rw [length_placeholder] at early behind
      obtain ⟨k, reach⟩ : ∃ k, p + k = front.length + 9 :=
        ⟨front.length + 9 - p, by omega⟩
      obtain ⟨d, at_⟩ : ∃ d, marker[k]? = some d :=
        ⟨_, List.getElem?_eq_getElem (by omega)⟩
      obtain ⟨c, found, lowers⟩ := begins.reads shape.plain at_
      rw [List.getElem?_drop, reach, List.getElem?_append_left
        (by rw [List.length_append, length_placeholder]; omega),
        List.getElem?_append_right (by omega), Nat.add_sub_cancel_left]
        at found
      have closing : redactionPlaceholder[9]? = some (point '>') := by
        decide
      rw [closing] at found
      rw [← Option.some.inj found] at lowers
      have kept : loweredPoint (point '>') = [point '>'] := by
        decide
      rw [kept] at lowers
      exact shape.unclosed
        ((List.cons.inj lowers).1 ▸ List.mem_of_getElem? at_)
  · exact .inl before

/-- Before the placeholder the occurrences are those of the text. -/
theorem begins_before (before : p + marker.length ≤ front.length) :
    Begins marker ((front ++ redactionPlaceholder ++ rest).drop p) ↔
      Begins marker ((front ++ value ++ rest).drop p) := by
  apply begins_congr
  have short : marker.length ≤ (front.drop p).length := by
    rw [List.length_drop]
    omega
  rw [List.append_assoc, List.append_assoc,
    List.drop_append_of_le_length (by omega),
    List.drop_append_of_le_length (by omega),
    List.take_append_of_le_length short, List.take_append_of_le_length short]

/-- What is settled before the placeholder stays settled. -/
theorem settled_before (ends : front.getLast? = some last)
    (foreign : last ∉ redactionPlaceholder) (before : p ≤ front.length)
    (settled : Covered ((front ++ value ++ rest).drop p)) :
    Covered ((front ++ redactionPlaceholder ++ rest).drop p) := by
  rw [List.append_assoc, List.drop_append_of_le_length before] at settled ⊢
  cases form : front.drop p with
  | nil => exact .inr (.inr ((List.prefix_append _ rest)))
  | cons c tail =>
      rw [form] at settled
      rcases settled with settled | settled | settled
      · cases settled
      · exact .inr (.inl settled)
      · -- A placeholder here ends before the last character of the front.
        refine .inr (.inr ?_)
        rcases Nat.le_total redactionPlaceholder.length (c :: tail).length
          with fits | short
        · exact (List.prefix_of_prefix_length_le settled
            (List.prefix_append _ _) fits).trans (List.prefix_append _ _)
        · have inside : c :: tail <+: redactionPlaceholder :=
            List.prefix_of_prefix_length_le (List.prefix_append _ _) settled
              short
          have final : last ∈ c :: tail := by
            rw [← form]
            apply List.mem_of_getLast?
            rw [List.getLast?_drop, ends, if_neg]
            intro beyond
            rw [List.drop_eq_nil_of_le beyond] at form
            cases form
          exact absurd (inside.subset final) foreign

/-- Behind the placeholder the text is what it was. -/
theorem drop_behind (behind : front.length + redactionPlaceholder.length ≤ p) :
    (front ++ redactionPlaceholder ++ rest).drop p =
      (front ++ value ++ rest).drop
        (p - redactionPlaceholder.length + value.length) := by
  obtain ⟨k, rfl⟩ : ∃ k, p = (front ++ redactionPlaceholder).length + k :=
    ⟨p - (front ++ redactionPlaceholder).length, by
      rw [List.length_append]
      omega⟩
  have moved : (front ++ redactionPlaceholder).length + k -
      redactionPlaceholder.length + value.length =
        (front ++ value).length + k := by
    rw [List.length_append, List.length_append]
    omega
  rw [moved, List.drop_length_add_append, List.drop_length_add_append]

/-- A masked value leaves the other markers masked. -/
theorem masked_mask (shape : MarkerShape marker)
    (ends : front.getLast? = some last)
    (foreign : last ∉ redactionPlaceholder)
    (masked : Masked marker (front ++ value ++ rest)) :
    Masked marker (front ++ redactionPlaceholder ++ rest) := by
  intro p begins
  rcases begins_apart shape begins with before | behind
  · exact settled_before ends foreign before
      (masked p ((begins_before before).mp begins))
  · have later := masked (p - redactionPlaceholder.length + value.length)
    rw [← drop_behind behind] at later
    have moved := later begins
    rw [@drop_behind front value rest _ (by omega)]
    have same : p + marker.length - redactionPlaceholder.length +
        value.length =
        p - redactionPlaceholder.length + value.length + marker.length := by
      omega
    rw [same]
    exact moved

end Writing

/-! ## One turn -/

/-- Every occurrence that begins below a position is settled. -/
def CoveredBelow (marker t : Text) (bound : Nat) : Prop :=
  ∀ p < bound, Begins marker (t.drop p) →
    Covered (t.drop (p + marker.length))

/--
A turn that settles all it passes: no dotted capital I stands before the
marker that it finds, and when that marker has no value, no exposed marker
begins in the stretch that the next turn leaves out.
-/
def TameTurn (marker t : Text) (start : Nat) : Prop :=
  ∀ position, findFrom marker (lowered t) start = some position →
    (0x130 : CodePoint) ∉ t.take position ∧
      (markedValue (t.drop (position + marker.length)) = [] →
        ∀ p < position + marker.length + redactionPlaceholder.length,
          position + marker.length ≤ p → Begins marker (t.drop p) →
            Covered (t.drop (p + marker.length)))

instance (marker t : Text) (start : Nat) :
    Decidable (TameTurn marker t start) :=
  inferInstanceAs (Decidable (∀ position ∈ findFrom marker (lowered t) start,
    _ ∧ (_ → ∀ p < _, _ ≤ p → _ → _)))

section Turn

variable {start position : Nat}

/-- What one turn can do. -/
theorem maskTurn_eq_some {next : Text} {later : Nat}
    (turn : maskTurn marker t start = some (next, later)) :
    ∃ position, findFrom marker (lowered t) start = some position ∧
      later = position + marker.length + redactionPlaceholder.length ∧
      ((markedValue (t.drop (position + marker.length)) = [] ∧ next = t) ∨
        (markedValue (t.drop (position + marker.length)) ≠ [] ∧
          next = t.take (position + marker.length) ++ redactionPlaceholder ++
            t.drop (position + marker.length +
              (markedValue (t.drop (position + marker.length))).length))) := by
  obtain ⟨position, found, same⟩ := Option.map_eq_some_iff.mp turn
  rcases Prod.mk.inj same with ⟨written, rfl⟩
  refine ⟨position, found, rfl, ?_⟩
  by_cases bare : markedValue (t.drop (position + marker.length)) = []
  · rw [if_pos bare] at written
    exact .inl ⟨bare, written.symm⟩
  · rw [if_neg bare] at written
    exact .inr ⟨bare, written.symm⟩

theorem maskTurn_eq_none (turn : maskTurn marker t start = none) :
    findFrom marker (lowered t) start = none :=
  Option.map_eq_none_iff.mp turn

/-- A text around the value at one of its positions. -/
theorem value_split (t : Text) (begin_ : Nat) :
    t.take begin_ ++ markedValue (t.drop begin_) ++
      t.drop (begin_ + (markedValue (t.drop begin_)).length) = t := by
  have taken : (t.drop begin_).take (markedValue (t.drop begin_)).length =
      markedValue (t.drop begin_) :=
    (List.prefix_iff_eq_take.mp (List.takeWhile_prefix _)).symm
  have value : markedValue (t.drop begin_) ++
      t.drop (begin_ + (markedValue (t.drop begin_)).length) =
        t.drop begin_ := by
    rw [← List.drop_drop]
    nth_rewrite 1 [← taken]
    exact List.take_append_drop _ _
  rw [List.append_assoc, value, List.take_append_drop]

/-- Nothing, or a delimiter, follows a marker without a value. -/
theorem settled_of_bare {rest : Text} (bare : markedValue rest = []) :
    Covered rest := by
  cases rest with
  | nil => exact .inl rfl
  | cons c rest =>
      refine .inr (.inl ?_)
      by_cases ends : isValueEnd c
      · exact ends
      · rw [markedValue, List.takeWhile_cons_of_pos (by simp [ends])] at bare
        cases bare

/-- Without a dotted capital I the turn finds an occurrence of the text. -/
theorem found_begins (shape : MarkerShape marker)
    (plain : (0x130 : CodePoint) ∉ t.take position)
    (found : marker <+: (lowered t).drop position) :
    position ≤ t.length ∧ Begins marker (t.drop position) := by
  have inside : position ≤ t.length := by
    refine Nat.le_of_not_lt fun beyond => ?_
    rw [List.take_of_length_le (Nat.le_of_lt beyond)] at plain
    rw [List.drop_eq_nil_of_le
      (by rw [length_lowered plain]; exact Nat.le_of_lt beyond)] at found
    obtain ⟨body, last, form, _⟩ := shape.ends
    rw [form, List.prefix_nil] at found
    exact List.append_ne_nil_of_right_ne_nil _ (List.cons_ne_nil _ _) found
  rw [lowered_drop plain inside] at found
  exact ⟨inside, (begins_iff shape.plain).mpr found⟩

/-- An occurrence that a search passes lies before its start. -/
theorem passed_before {p : Nat} (shape : MarkerShape marker)
    (plain : (0x130 : CodePoint) ∉ t.take position)
    (inside : position ≤ t.length) (before : p < position)
    (first : ∀ j, start ≤ j → j < position →
      ¬marker <+: (lowered t).drop j)
    (begins : Begins marker (t.drop p)) : p < start := by
  refine Nat.lt_of_not_le fun reached => first p reached before ?_
  have same : (lowered (t.take p)).length = p := by
    rw [length_lowered fun member => plain
      ((List.take_prefix_take_left (Nat.le_of_lt before)).subset member),
      List.length_take, Nat.min_eq_left (by omega)]
  have copied := begins.copied shape.plain
  rw [same] at copied
  exact copied

/-- A marker lies within the text that it occurs in. -/
theorem begins_fits (shape : MarkerShape marker)
    (begins : Begins marker (t.drop position)) :
    position + marker.length ≤ t.length := by
  obtain ⟨body, last, form, _⟩ := shape.ends
  have final : marker[body.length]? = some last := by
    rw [form, List.getElem?_concat_length]
  obtain ⟨c, found, _⟩ := begins.reads shape.plain final
  rw [List.getElem?_drop] at found
  have here := (List.getElem?_eq_some_iff.mp found).1
  rw [form, List.length_append, List.length_singleton]
  omega

/-- The last character of the marker that a turn found. -/
theorem front_ends (shape : MarkerShape marker)
    (begins : Begins marker (t.drop position)) :
    ∃ c, (t.take (position + marker.length)).getLast? = some c ∧
      c ∉ redactionPlaceholder := by
  obtain ⟨body, last, form, _, foreign⟩ := shape.ends
  have final : marker[body.length]? = some last := by
    rw [form, List.getElem?_concat_length]
  obtain ⟨c, found, lowers⟩ := begins.reads shape.plain final
  rw [List.getElem?_drop] at found
  refine ⟨c, ?_, fun member => ?_⟩
  · have here : position + body.length < t.length :=
      (List.getElem?_eq_some_iff.mp found).1
    have length : position + marker.length = position + body.length + 1 := by
      rw [form, List.length_append, List.length_singleton]
      omega
    rw [length, List.getLast?_take, if_neg (Nat.succ_ne_zero _),
      Nat.add_sub_cancel, found]
    rfl
  · rw [loweredPoint_placeholder member] at lowers
    exact foreign ((List.cons.inj lowers).1 ▸ member)

/-- Two occurrences of a marker do not overlap. -/
theorem begins_disjoint {p : Nat} (shape : MarkerShape marker)
    (begins : Begins marker (t.drop position))
    (later : Begins marker (t.drop p)) (after : position < p) :
    position + marker.length ≤ p := by
  obtain ⟨body, last, form, once, _⟩ := shape.ends
  have length : marker.length = body.length + 1 := by
    rw [form, List.length_append, List.length_singleton]
  refine Nat.le_of_not_lt fun overlaps => once ?_
  have final : marker[body.length]? = some last := by
    rw [form, List.getElem?_concat_length]
  obtain ⟨k, reach⟩ : ∃ k, p + k = position + body.length :=
    ⟨position + body.length - p, by omega⟩
  have inBody : k < body.length := by omega
  have at_ : marker[k]? = some body[k] := by
    rw [form, List.getElem?_append_left inBody, List.getElem?_eq_getElem inBody]
  obtain ⟨c, found, lowers⟩ := begins.reads shape.plain final
  obtain ⟨d, same, lowersToo⟩ := later.reads shape.plain at_
  rw [List.getElem?_drop] at found same
  rw [reach, found, Option.some_inj] at same
  rw [same, lowersToo] at lowers
  exact (List.cons.inj lowers).1 ▸ List.getElem_mem inBody

/-- A turn that finds a value writes the placeholder behind the marker. -/
theorem maskTurn_writes {next : Text} (shape : MarkerShape marker)
    (begins : Begins marker (t.drop position))
    (written : next =
      t.take (position + marker.length) ++ redactionPlaceholder ++
        t.drop (position + marker.length +
          (markedValue (t.drop (position + marker.length))).length)) :
    ∃ front value rest last, t = front ++ value ++ rest ∧
      next = front ++ redactionPlaceholder ++ rest ∧
      front.length = position + marker.length ∧
      front.getLast? = some last ∧ last ∉ redactionPlaceholder := by
  obtain ⟨last, ends, foreign⟩ := front_ends shape begins
  refine ⟨_, _, _, last, (value_split t _).symm, written, ?_, ends, foreign⟩
  rw [List.length_take, Nat.min_eq_left (begins_fits shape begins)]

end Turn

/-! ## The loop -/

section Loop

variable {start later : Nat} {next : Text}

/-- One turn leaves what it passes settled. -/
theorem CoveredBelow.turn (shape : MarkerShape marker)
    (tame : TameTurn marker t start) (settled : CoveredBelow marker t start)
    (turn : maskTurn marker t start = some (next, later)) :
    CoveredBelow marker next later := by
  obtain ⟨position, found, rfl, written⟩ := maskTurn_eq_some turn
  rcases tame position found with ⟨plain, clear⟩
  obtain ⟨_, _, met, first⟩ := findFrom_eq_some.mp found
  obtain ⟨inside, here⟩ := found_begins shape plain met
  have early : ∀ p < position, Begins marker (t.drop p) →
      Covered (t.drop (p + marker.length)) := fun p before begins =>
    settled p (passed_before shape plain inside before first begins) begins
  intro p below begins
  rcases written with ⟨bare, rfl⟩ | ⟨_, written⟩
  · rcases Nat.lt_trichotomy p position with before | rfl | after
    · exact early p before begins
    · exact settled_of_bare bare
    · exact clear bare p below (begins_disjoint shape here begins after) begins
  · obtain ⟨front, value, rest, last, rfl, rfl, length, ends, foreign⟩ :=
      maskTurn_writes shape here written
    rcases begins_apart shape begins with before | behind
    · rcases Nat.lt_or_ge p position with earlier | reached
      · exact settled_before ends foreign before
          (early p earlier ((begins_before before).mp begins))
      · have same : p + marker.length = front.length := by omega
        rw [same, List.append_assoc, List.drop_left]
        exact .inr (.inr (List.prefix_append _ rest))
    · omega

/-- A turn leaves the other markers masked. -/
theorem Masked.turn {other : Text} (shape : MarkerShape marker)
    (otherShape : MarkerShape other) (tame : TameTurn marker t start)
    (masked : Masked other t)
    (turn : maskTurn marker t start = some (next, later)) :
    Masked other next := by
  obtain ⟨position, found, rfl, written⟩ := maskTurn_eq_some turn
  obtain ⟨_, _, met, _⟩ := findFrom_eq_some.mp found
  obtain ⟨_, here⟩ := found_begins shape (tame position found).1 met
  rcases written with ⟨_, rfl⟩ | ⟨_, written⟩
  · exact masked
  · obtain ⟨front, value, rest, last, rfl, rfl, _, ends, foreign⟩ :=
      maskTurn_writes shape here written
    exact masked_mask otherShape ends foreign masked

/-- When no marker is left, all of them are settled. -/
theorem CoveredBelow.masked (shape : MarkerShape marker)
    (settled : CoveredBelow marker t start)
    (turn : maskTurn marker t start = none) : Masked marker t := by
  intro p begins
  refine settled p (Nat.lt_of_not_le fun reached => ?_) begins
  have fits := begins_fits shape begins
  have copied := begins.copied shape.plain
  have later : p ≤ (lowered (t.take p)).length := by
    have longer := length_le_lowered (t.take p)
    rw [List.length_take] at longer
    omega
  have inside : (lowered (t.take p)).length ≤ (lowered t).length := by
    have split : lowered t = lowered (t.take p) ++ lowered (t.drop p) := by
      rw [← lowered_append, List.take_append_drop]
    rw [split, List.length_append]
    exact Nat.le_add_right _ _
  exact findFrom_eq_none.mp (maskTurn_eq_none turn) _ inside
    (Nat.le_trans reached later) copied

/-- Every turn shortens what is left to search. -/
theorem maskTurn_shorter (nonempty : marker ≠ [])
    (turn : maskTurn marker t start = some (next, later)) :
    (lowered next).length - later < (lowered t).length - start := by
  obtain ⟨position, found, rfl, written⟩ := maskTurn_eq_some turn
  obtain ⟨inside, reached, met, _⟩ := findFrom_eq_some.mp found
  have length := List.length_pos_of_ne_nil nonempty
  have fits := met.length_le
  rw [List.length_drop] at fits
  rw [length_placeholder]
  rcases written with ⟨_, rfl⟩ | ⟨valued, rfl⟩
  · omega
  · have whole := congrArg (fun t => (lowered t).length)
      (value_split t (position + marker.length))
    have value := List.length_pos_of_ne_nil valued
    have grown := length_le_lowered
      (markedValue (t.drop (position + marker.length)))
    have written : (lowered redactionPlaceholder).length = 10 := by
      decide
    simp only [lowered_append, List.length_append] at whole ⊢
    omega

/-- The loop ends. -/
theorem maskTurns_returns (nonempty : marker ≠ []) {fuel : Nat}
    (enough : (lowered t).length - start < fuel) :
    ∃ masked, maskTurns marker fuel t start = some masked := by
  induction fuel generalizing t start with
  | zero => exact absurd enough (Nat.not_lt_zero _)
  | succ fuel ih =>
      cases turn : maskTurn marker t start with
      | none => exact ⟨t, by rw [maskTurns, turn]⟩
      | some state =>
          obtain ⟨next, later⟩ := state
          have shorter := maskTurn_shorter nonempty turn
          obtain ⟨masked, returned⟩ := @ih next later (by omega)
          exact ⟨masked, by rw [maskTurns, turn]; exact returned⟩

/-- The states of the loop of a marker: a text, and where to search next. -/
def markerLoop (marker t : Text) : TransitionSystem (Text × Nat) Unit where
  Initial state := state = (t, 0)
  Step state _ next := maskTurn marker state.1 state.2 = some next

/-- Every turn of the loop of a marker is tame. -/
def TameLoop (marker t : Text) : Prop :=
  ∀ state, Reachable (markerLoop marker t) state →
    TameTurn marker state.1 state.2

/-- The loop returns the text of a state in which no marker is left. -/
theorem maskTurns_reaches {fuel : Nat} {whole masked : Text}
    (reached : Reachable (markerLoop marker whole) (t, start))
    (returned : maskTurns marker fuel t start = some masked) :
    ∃ last, Reachable (markerLoop marker whole) (masked, last) ∧
      maskTurn marker masked last = none := by
  induction fuel generalizing t start with
  | zero => cases returned
  | succ fuel ih =>
      cases turn : maskTurn marker t start with
      | none =>
          rw [maskTurns, turn] at returned
          exact ⟨start, Option.some.inj returned ▸ reached,
            Option.some.inj returned ▸ turn⟩
      | some state =>
          rw [maskTurns, turn] at returned
          exact ih (@Reachable.step _ _ _ _ _ () reached turn) returned

theorem maskMarker_reaches (nonempty : marker ≠ []) (t : Text) :
    ∃ last, Reachable (markerLoop marker t) (maskMarker t marker, last) ∧
      maskTurn marker (maskMarker t marker) last = none := by
  have enough : (lowered t).length - 0 < maskFuel t :=
    Nat.lt_succ_self _
  obtain ⟨masked, returned⟩ := maskTurns_returns nonempty enough
  have same : maskMarker t marker = masked := by
    rw [maskMarker, returned]
    rfl
  rw [same]
  exact maskTurns_reaches (.initial rfl) returned

/-- A tame loop settles its own marker. -/
theorem TameLoop.masks (shape : MarkerShape marker)
    (tame : TameLoop marker t) : Masked marker (maskMarker t marker) := by
  obtain ⟨last, reached, done⟩ := maskMarker_reaches shape.ne_nil t
  have settled : CoveredBelow marker (maskMarker t marker) last := by
    refine @Reachable.invariant _ _ (markerLoop marker t)
      (fun state => CoveredBelow marker state.1 state.2) ?_ ?_ _ reached
    · rintro _ rfl p below
      exact absurd below (Nat.not_lt_zero p)
    · rintro state _ ⟨next, later⟩ before settled turn
      exact settled.turn shape (tame state before) turn
  exact settled.masked shape done

/-- A tame loop leaves the other markers masked. -/
theorem TameLoop.keeps {other : Text} (shape : MarkerShape marker)
    (otherShape : MarkerShape other) (tame : TameLoop marker t)
    (masked : Masked other t) : Masked other (maskMarker t marker) := by
  obtain ⟨last, reached, _⟩ := maskMarker_reaches shape.ne_nil t
  refine @Reachable.invariant _ _ (markerLoop marker t)
    (fun state => Masked other state.1) ?_ ?_ _ reached
  · rintro _ rfl
    exact masked
  · rintro state _ ⟨next, later⟩ before masked turn
    exact masked.turn shape otherShape (tame state before) turn

/-- A loop whose states are listed is tame when all of them are. -/
theorem tameLoop_of_states {states : List (Text × Nat)}
    (starts : (t, 0) ∈ states)
    (closed : ∀ state ∈ states, ∀ next ∈ maskTurn marker state.1 state.2,
      next ∈ states)
    (tame : ∀ state ∈ states, TameTurn marker state.1 state.2) :
    TameLoop marker t := by
  intro state reached
  refine tame state (reached.invariant ?_ ?_)
  · rintro _ rfl
    exact starts
  · rintro state _ next _ listed turn
    exact closed state listed next turn

end Loop

/-! ## All markers -/

/-- The loops of several markers, one after the other, are all tame. -/
def TameRun : List Text → Text → Prop
  | [], _ => True
  | marker :: rest, t => TameLoop marker t ∧ TameRun rest (maskMarker t marker)

theorem TameRun.masks {markers done : List Text}
    (shapes : ∀ marker ∈ done ++ markers, MarkerShape marker)
    (tame : TameRun markers t) (masked : ∀ marker ∈ done, Masked marker t) :
    ∀ marker ∈ done ++ markers,
      Masked marker (markers.foldl maskMarker t) := by
  induction markers generalizing t done with
  | nil =>
      rw [List.append_nil]
      exact masked
  | cons marker rest ih =>
      rcases tame with ⟨here, later⟩
      have shape : MarkerShape marker :=
        shapes marker (List.mem_append_right _ List.mem_cons_self)
      rw [← List.singleton_append, ← List.append_assoc] at shapes ⊢
      refine ih shapes later fun other member => ?_
      rcases List.mem_append.mp member with before | same
      · exact here.keeps shape (shapes other
          (List.mem_append_left _ (List.mem_append_left _ before)))
          (masked other before)
      · rw [List.mem_singleton.mp same]
        exact here.masks shape

/-- The markers of `redactText` have the shape that the loop needs. -/
theorem secretMarkers_shape : ∀ marker ∈ secretMarkers, MarkerShape marker := by
  have password : MarkerShape (text "password=") :=
    ⟨by decide, by decide, text "password", point '=',
      by decide, by decide, by decide⟩
  have token : MarkerShape (text "token:") :=
    ⟨by decide, by decide, text "token", point ':',
      by decide, by decide, by decide⟩
  have bearer : MarkerShape (text "bearer ") :=
    ⟨by decide, by decide, text "bearer", point ' ',
      by decide, by decide, by decide⟩
  have secret : MarkerShape (text "secret/") :=
    ⟨by decide, by decide, text "secret", point '/',
      by decide, by decide, by decide⟩
  intro marker member
  simp only [secretMarkers, List.mem_cons, List.not_mem_nil, or_false] at member
  rcases member with rfl | rfl | rfl | rfl
  · exact password
  · exact token
  · exact bearer
  · exact secret

section Masking

variable [PatternRuntime]

/--
The marker loops end on every text.  When every turn is tame, every marker of
the text that `redactText` cuts is settled.
-/
theorem redactText_masks (t : Text) (secrets : SecretMaterial) :
    (∀ marker ∈ secretMarkers, ∀ t, ∃ ended,
      maskTurns marker (maskFuel t) t 0 = some ended) ∧
    (TameRun secretMarkers (maskShapes secrets t) →
      ∀ marker ∈ secretMarkers,
        Masked marker (maskMarkers (maskShapes secrets t))) := by
  refine ⟨fun marker member t => ?_, fun tame => ?_⟩
  · exact maskTurns_returns (secretMarkers_shape marker member).ne_nil
      (Nat.lt_succ_self _)
  · exact @TameRun.masks _ secretMarkers [] secretMarkers_shape tame
      fun marker member => absurd member List.not_mem_nil

end Masking

theorem redactText_masks_secret :
    letI := asciiPatternRuntime
    Masked (text "secret/") (maskMarkers (maskShapes .empty
      (text "secret/b secret/c"))) := by
  let _ := asciiPatternRuntime
  refine (redactText_masks _ .empty).2 ⟨?_, ?_, ?_, ?_, trivial⟩ _
    (by decide)
  · exact tameLoop_of_states (List.mem_singleton_self _)
      (by decide) (by decide)
  · exact tameLoop_of_states (List.mem_singleton_self _)
      (by decide) (by decide)
  · exact tameLoop_of_states (List.mem_singleton_self _)
      (by decide) (by decide)
  · exact @tameLoop_of_states _ _
      [(text "secret/b secret/c", 0),
        (text "secret/<redacted> secret/c", 17),
        (text "secret/<redacted> secret/<redacted>", 35)]
      (by decide) (by decide) (by decide)

/-- The loop jumps over a marker right behind one without a value. -/
theorem redactText_exposes :
    letI := asciiPatternRuntime
    ¬∀ (t : Text) (secrets : SecretMaterial), ∀ marker ∈ secretMarkers,
      Masked marker (maskMarkers (maskShapes secrets t)) := by
  intro masked
  have settled := @masked (text "secret/ secret/abc") .empty (text "secret/")
    (by decide) 8 (by decide)
  revert settled
  decide

end ParityGrid.Application
