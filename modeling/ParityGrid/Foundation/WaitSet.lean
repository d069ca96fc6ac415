import Mathlib

/-!
# Wait sets

The calls that wait for one condition, in the order in which they arrived,
each under its own key.  A call that waits again keeps its place; a call that
leaves takes nothing but itself out of the set.
-/

namespace ParityGrid.Foundation

section WaitSet

variable {α β κ : Type} [DecidableEq κ] {key : α → κ} {call : α}
  {calls : List α}

/-- Wait again in the same place, or arrive last. -/
def rejoin (key : α → κ) (call : α) (calls : List α) : List α :=
  if calls.any fun other => key other = key call then
    calls.map fun other => if key other = key call then call else other
  else calls ++ [call]

/-- Leave the set. -/
def without (key : α → κ) (gone : κ) (calls : List α) : List α :=
  calls.filter fun other => key other ≠ gone

theorem rejoin_absent (absent : ∀ other ∈ calls, key other ≠ key call) :
    rejoin key call calls = calls ++ [call] := by
  have alone : (calls.any fun other => key other = key call) = false := by
    simpa using absent
  simp only [rejoin, alone, Bool.false_eq_true, if_false]

theorem rejoin_present
    (present : ∃ other ∈ calls, key other = key call) :
    rejoin key call calls =
      calls.map fun other =>
        if key other = key call then call else other := by
  have again : (calls.any fun other => key other = key call) = true := by
    simpa using present
  simp only [rejoin, again, if_true]

theorem mem_rejoin (key : α → κ) (call : α) (calls : List α) :
    call ∈ rejoin key call calls := by
  by_cases present : ∃ other ∈ calls, key other = key call
  · rw [rejoin_present present]
    obtain ⟨other, member, same⟩ := present
    exact List.mem_map.mpr ⟨other, member, if_pos same⟩
  · have absent : ∀ other ∈ calls, key other ≠ key call :=
      fun other member same => present ⟨other, member, same⟩
    rw [rejoin_absent absent]
    exact List.mem_append_right _ List.mem_cons_self

/-- Everyone else was there before. -/
theorem of_mem_rejoin {other : α} (member : other ∈ rejoin key call calls) :
    other = call ∨ (other ∈ calls ∧ key other ≠ key call) := by
  by_cases present : ∃ other ∈ calls, key other = key call
  · rw [rejoin_present present, List.mem_map] at member
    obtain ⟨before, inside, rfl⟩ := member
    split
    · exact .inl rfl
    next apart => exact .inr ⟨inside, apart⟩
  · have absent : ∀ other ∈ calls, key other ≠ key call :=
      fun other member same => present ⟨other, member, same⟩
    rw [rejoin_absent absent, List.mem_append, List.mem_singleton] at member
    rcases member with inside | rfl
    · exact .inr ⟨inside, absent other inside⟩
    · exact .inl rfl

/-- Waiting again changes nothing on which the old and the new call agree. -/
theorem filter_map_rejoin {p : α → Bool} {g : α → β}
    (present : ∃ other ∈ calls, key other = key call)
    (agree : ∀ other ∈ calls, key other = key call →
      p other = p call ∧ g other = g call) :
    ((rejoin key call calls).filter p).map g = (calls.filter p).map g := by
  rw [rejoin_present present, List.filter_map, List.map_map]
  have kept : calls.filter (p ∘ fun other =>
      if key other = key call then call else other) = calls.filter p := by
    apply List.filter_congr
    intro other member
    simp only [Function.comp_apply]
    split
    next same => exact (agree other member same).1.symm
    next => rfl
  rw [kept]
  apply List.map_congr_left
  intro other member
  simp only [Function.comp_apply]
  split
  next same =>
    exact (agree other (List.mem_filter.mp member).1 same).2.symm
  next => rfl

theorem map_key_rejoin (present : ∃ other ∈ calls, key other = key call) :
    (rejoin key call calls).map key = calls.map key := by
  have same := filter_map_rejoin (p := fun _ => true) (g := key) present
    fun _ _ same => ⟨rfl, same⟩
  simpa using same

@[simp]
theorem mem_without {gone : κ} {other : α} :
    other ∈ without key gone calls ↔ other ∈ calls ∧ key other ≠ gone := by
  simp [without]

/-- Leaving forgets that the call ever waited. -/
theorem without_rejoin (key : α → κ) (call : α) (calls : List α) :
    without key (key call) (rejoin key call calls) =
      without key (key call) calls := by
  by_cases present : ∃ other ∈ calls, key other = key call
  · rw [rejoin_present present, without, List.filter_map, without]
    have kept : calls.filter ((fun other =>
        decide (key other ≠ key call)) ∘ fun other =>
          if key other = key call then call else other) =
        calls.filter fun other => decide (key other ≠ key call) := by
      apply List.filter_congr
      intro other _
      by_cases same : key other = key call <;> simp [same]
    rw [kept]
    refine (List.map_congr_left fun other member => ?_).trans (List.map_id _)
    have apart := (List.mem_filter.mp member).2
    rw [decide_eq_true_eq] at apart
    rw [if_neg apart, id]
  · have absent : ∀ other ∈ calls, key other ≠ key call :=
      fun other member same => present ⟨other, member, same⟩
    rw [rejoin_absent absent]
    simp [without]

theorem map_key_without (gone : κ) (calls : List α) :
    (without key gone calls).map key =
      (calls.map key).filter fun other => other ≠ gone := by
  rw [List.filter_map]
  rfl

theorem nodup_without {gone : κ} (distinct : (calls.map key).Nodup) :
    ((without key gone calls).map key).Nodup :=
  distinct.sublist (List.filter_sublist.map _)

theorem nodup_rejoin (distinct : (calls.map key).Nodup) :
    ((rejoin key call calls).map key).Nodup := by
  by_cases present : ∃ other ∈ calls, key other = key call
  · rw [map_key_rejoin present]
    exact distinct
  · have absent : ∀ other ∈ calls, key other ≠ key call :=
      fun other member same => present ⟨other, member, same⟩
    rw [rejoin_absent absent, List.map_append, List.nodup_append]
    refine ⟨distinct, List.nodup_singleton _, ?_⟩
    rintro _ inside who single rfl
    obtain ⟨other, member, same⟩ := List.mem_map.mp inside
    rw [List.map_singleton, List.mem_singleton] at single
    exact absent other member (same.trans single)

end WaitSet

end ParityGrid.Foundation
