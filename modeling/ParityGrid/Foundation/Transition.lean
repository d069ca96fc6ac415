import Mathlib

/-!
# Transition systems

A system starts in an initial state and moves by labelled steps.  An invariant
that holds initially and that every step preserves holds in every reachable
state; restricting the steps of a system only removes reachable states.  One
system follows another when it answers every step by some run of its own.
-/

namespace ParityGrid.Foundation

/-- Initial states, and where each label may lead from a state. -/
structure TransitionSystem (σ ι : Type) where
  Initial : σ → Prop
  Step : σ → ι → σ → Prop

namespace TransitionSystem

variable {σ ι : Type} {system : TransitionSystem σ ι}

/-- The states of all runs. -/
inductive Reachable (system : TransitionSystem σ ι) : σ → Prop
  | initial {state : σ} (starts : system.Initial state) : Reachable system state
  | step {state next : σ} {label : ι} (reached : Reachable system state)
      (moves : system.Step state label next) : Reachable system next

/-- What holds initially and is preserved by every step holds throughout. -/
theorem Reachable.invariant {Holds : σ → Prop}
    (initially : ∀ state, system.Initial state → Holds state)
    (preserved : ∀ state label next, Reachable system state →
      Holds state → system.Step state label next → Holds next)
    {state : σ} (reached : Reachable system state) : Holds state := by
  induction reached with
  | initial starts => exact initially _ starts
  | step before moves ih => exact preserved _ _ _ before ih moves

/-- The same system, with only the steps that are allowed. -/
def restrict (system : TransitionSystem σ ι) (Allowed : σ → ι → Prop) :
    TransitionSystem σ ι where
  Initial := system.Initial
  Step state label next :=
    system.Step state label next ∧ Allowed state label

theorem Reachable.of_restrict {Allowed : σ → ι → Prop} {state : σ}
    (reached : Reachable (system.restrict Allowed) state) :
    Reachable system state := by
  induction reached with
  | initial starts => exact .initial starts
  | step _ moves ih => exact .step ih moves.1

/-- Whether steps that a function makes are allowed throughout. -/
def allowedRun (step : σ → ι → σ) (allowed : σ → ι → Bool) :
    σ → List ι → Bool
  | _, [] => true
  | state, label :: rest =>
      allowed state label && allowedRun step allowed (step state label) rest

/-- A run of allowed steps is a run of the restricted system. -/
theorem Reachable.allowedRun {step : σ → ι → σ} {allowed : σ → ι → Bool}
    (moves : ∀ state label, system.Step state label (step state label))
    {state : σ} (reached : Reachable (system.restrict fun state label =>
      allowed state label = true) state) {labels : List ι}
    (checked : TransitionSystem.allowedRun step allowed state labels = true) :
    Reachable (system.restrict fun state label =>
      allowed state label = true) (labels.foldl step state) := by
  induction labels generalizing state with
  | nil => exact reached
  | cons label rest ih =>
      rcases Bool.and_eq_true_iff.mp checked with ⟨here, later⟩
      exact ih (reached.step ⟨moves state label, here⟩) later

/-- A run of steps that a function makes. -/
theorem Reachable.foldl {step : σ → ι → σ}
    (moves : ∀ state label, system.Step state label (step state label))
    {state : σ} (reached : Reachable system state) (labels : List ι) :
    Reachable system (labels.foldl step state) := by
  induction labels generalizing state with
  | nil => exact reached
  | cons label rest ih => exact ih (reached.step (moves state label))

/-- Where the runs from a state may lead. -/
inductive Leads (system : TransitionSystem σ ι) (start : σ) : σ → Prop
  | refl : Leads system start start
  | step {state next : σ} {label : ι} (reached : Leads system start state)
      (moves : system.Step state label next) : Leads system start next

theorem Leads.trans {start middle last : σ}
    (first : Leads system start middle) (later : Leads system middle last) :
    Leads system start last := by
  induction later with
  | refl => exact first
  | step _ moves ih => exact .step ih moves

theorem Leads.single {state next : σ} {label : ι}
    (moves : system.Step state label next) : Leads system state next :=
  .step .refl moves

/-- What every step preserves holds wherever a run leads. -/
theorem Leads.invariant {Holds : σ → Prop}
    (preserved : ∀ state label next, Holds state →
      system.Step state label next → Holds next)
    {start last : σ} (leads : Leads system start last)
    (holds : Holds start) : Holds last := by
  induction leads with
  | refl => exact holds
  | step _ moves ih => exact preserved _ _ _ ih moves

/-- When every step is answered by a run, every run is. -/
theorem Leads.followed {τ κ : Type} {other : TransitionSystem τ κ}
    {R : σ → τ → Prop}
    (answers : ∀ state label next partner, R state partner →
      system.Step state label next →
        ∃ answer, other.Leads partner answer ∧ R next answer)
    {start last : σ} (leads : Leads system start last) {partner : τ}
    (related : R start partner) :
    ∃ answer, other.Leads partner answer ∧ R last answer := by
  induction leads with
  | refl => exact ⟨partner, .refl, related⟩
  | step _ moves ih =>
      obtain ⟨middle, before, related⟩ := ih
      obtain ⟨answer, after, related⟩ := answers _ _ _ _ related moves
      exact ⟨answer, before.trans after, related⟩

end TransitionSystem

end ParityGrid.Foundation
