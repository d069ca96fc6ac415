import ParityGrid.Foundation.Validation

/-!
# Computations that change a state

An object's method reads and writes the state of its object and returns or
raises; what it changed before it raised stays changed.  `Ends` says how a
method ends from one state: its rules take a method apart step by step, and a
loop by its invariant.
-/

namespace ParityGrid.Foundation

/-- A method on a state that may raise. -/
abbrev Method (σ ε α : Type) :=
  ExceptT ε (StateM σ) α

namespace Method

variable {σ ε α β : Type}

/-- Call the method on a state. -/
def call (method : Method σ ε α) (state : σ) : Except ε α × σ :=
  method.run.run state

/-- The method returns under `returned` or raises under `raised`. -/
def Ends (method : Method σ ε α) (state : σ) (returned : α → σ → Prop)
    (raised : ε → σ → Prop) : Prop :=
  match method.call state with
  | (.ok a, after) => returned a after
  | (.error e, after) => raised e after

/-- A check that leaves the state alone. -/
def check (result : Except ε α) : Method σ ε α :=
  ExceptT.mk (pure result)

/-- Replace the state by what a function makes of it, or raise. -/
def update (transform : σ → Except ε σ) : Method σ ε Unit := do
  let state ← get
  let after ← check (transform state)
  modify fun _ => after

/-- What is left of a call for a caller that forgets the state of a call which
raised. -/
def kept (method : Method σ ε α) (state : σ) : Except ε (σ × α) :=
  match method.call state with
  | (.ok a, after) => .ok (after, a)
  | (.error e, _) => .error e

@[simp]
theorem call_check (result : Except ε α) (state : σ) :
    (check result : Method σ ε α).call state = (result, state) := rfl

@[simp]
theorem call_pure (a : α) (state : σ) :
    (pure a : Method σ ε α).call state = (.ok a, state) := rfl

@[simp]
theorem call_throw (e : ε) (state : σ) :
    (throw e : Method σ ε α).call state = (.error e, state) := rfl

@[simp]
theorem call_modify (f : σ → σ) (state : σ) :
    (modify f : Method σ ε PUnit).call state = (.ok ⟨⟩, f state) := rfl

@[simp]
theorem call_get (state : σ) :
    (get : Method σ ε σ).call state = (.ok state, state) := rfl

theorem call_bind (method : Method σ ε α) (next : α → Method σ ε β)
    (state : σ) :
    (method >>= next).call state =
      match method.call state with
      | (.ok a, after) => (next a).call after
      | (.error e, after) => (.error e, after) := by
  show ((ExceptT.bind method next).run.run state) = _
  simp only [call, ExceptT.bind, ExceptT.run, ExceptT.mk, StateT.run,
    bind, StateT.bind]
  rcases method state with ⟨result, after⟩
  cases result <;> rfl

theorem call_update (transform : σ → Except ε σ) (state : σ) :
    (update transform).call state =
      match transform state with
      | .ok after => (.ok (), after)
      | .error e => (.error e, state) := by
  rw [update, call_bind, call_get]
  dsimp only
  rw [call_bind, call_check]
  cases transform state <;> rfl

/-! ## Forgetting the state of a raise -/

theorem kept_bind (method : Method σ ε α) (next : α → Method σ ε β)
    (state : σ) :
    (method >>= next).kept state =
      method.kept state >>= fun reached => (next reached.2).kept reached.1 := by
  simp only [kept, call_bind]
  rcases method.call state with ⟨result, after⟩
  cases result <;> rfl

@[simp]
theorem kept_check (result : Except ε α) (state : σ) :
    (check result : Method σ ε α).kept state =
      result >>= fun a => pure (state, a) := by
  cases result <;> rfl

@[simp]
theorem kept_get (state : σ) :
    (get : Method σ ε σ).kept state = .ok (state, state) := rfl

@[simp]
theorem kept_modify (f : σ → σ) (state : σ) :
    (modify f : Method σ ε PUnit).kept state = .ok (f state, ⟨⟩) := rfl

@[simp]
theorem kept_update (transform : σ → Except ε σ) (state : σ) :
    (update transform).kept state =
      transform state >>= fun after => pure (after, ()) := by
  rw [kept, call_update]
  cases transform state <;> rfl

section Rules

variable {returned : α → σ → Prop} {raised : ε → σ → Prop} {state : σ}

theorem ends_check {result : Except ε α} :
    Ends (check result) state returned raised ↔
      (∀ a, result = .ok a → returned a state) ∧
        ∀ e, result = .error e → raised e state := by
  cases result with
  | error e => simp [Ends]
  | ok a => simp [Ends]

@[simp]
theorem ends_pure {a : α} :
    Ends (pure a : Method σ ε α) state returned raised ↔ returned a state :=
  Iff.rfl

@[simp]
theorem ends_throw {e : ε} :
    Ends (throw e : Method σ ε α) state returned raised ↔ raised e state :=
  Iff.rfl

@[simp]
theorem ends_modify {f : σ → σ} {returned : PUnit → σ → Prop} :
    Ends (modify f : Method σ ε PUnit) state returned raised ↔
      returned ⟨⟩ (f state) :=
  Iff.rfl

@[simp]
theorem ends_get {returned : σ → σ → Prop} :
    Ends (get : Method σ ε σ) state returned raised ↔ returned state state :=
  Iff.rfl

theorem ends_bind {method : Method σ ε α} {next : α → Method σ ε β}
    {returned : β → σ → Prop} :
    Ends (method >>= next) state returned raised ↔
      Ends method state
        (fun a after => Ends (next a) after returned raised) raised := by
  simp only [Ends, call_bind]
  rcases method.call state with ⟨result, after⟩
  cases result <;> rfl

theorem ends_check_bind {result : Except ε α} {next : α → Method σ ε β}
    {returned : β → σ → Prop} :
    Ends (check result >>= next) state returned raised ↔
      (∀ a, result = .ok a → Ends (next a) state returned raised) ∧
        ∀ e, result = .error e → raised e state := by
  rw [ends_bind, ends_check]

theorem ends_check_bind_ok {result : Except ε α} {next : α → Method σ ε β}
    {returned : β → σ → Prop} {a : α} (passed : result = .ok a) :
    Ends (check result >>= next) state returned raised ↔
      Ends (next a) state returned raised := by
  rw [ends_bind, passed]
  rfl

theorem ends_update {transform : σ → Except ε σ}
    {returned : Unit → σ → Prop} :
    Ends (update transform) state returned raised ↔
      (∀ after, transform state = .ok after → returned () after) ∧
        ∀ e, transform state = .error e → raised e state := by
  rw [Ends, call_update]
  cases transform state with
  | error e => simp
  | ok after => simp

theorem ends_update_bind_ok {transform : σ → Except ε σ}
    {next : Unit → Method σ ε β} {returned : β → σ → Prop} {after : σ}
    (transformed : transform state = .ok after) :
    Ends (update transform >>= next) state returned raised ↔
      Ends (next ()) after returned raised := by
  rw [ends_bind, Ends, call_update, transformed]

theorem ends_update_bind_error {transform : σ → Except ε σ}
    {next : Unit → Method σ ε β} {returned : β → σ → Prop} {e : ε}
    (refused : transform state = .error e) :
    Ends (update transform >>= next) state returned raised ↔
      raised e state := by
  rw [ends_bind, Ends, call_update, refused]

theorem ends_iff {method : Method σ ε α} :
    Ends method state returned raised ↔
      (∀ a after, method.call state = (.ok a, after) → returned a after) ∧
        ∀ e after, method.call state = (.error e, after) →
          raised e after := by
  unfold Ends
  rcases method.call state with ⟨result, reached⟩
  cases result with
  | error e => simp
  | ok a => simp

/-- What holds of the state however a method ends holds after a call. -/
theorem ends_always {method : Method σ ε α} {P : σ → Prop} :
    Ends method state (fun _ after => P after) (fun _ after => P after) ↔
      P (method.call state).2 := by
  unfold Ends
  rcases method.call state with ⟨result, reached⟩
  cases result <;> exact Iff.rfl

/-- A method ends as well under weaker conditions. -/
theorem Ends.weaken {method : Method σ ε α} {returned' : α → σ → Prop}
    {raised' : ε → σ → Prop} (ends : Ends method state returned raised)
    (returns : ∀ a after, returned a after → returned' a after)
    (raises : ∀ e after, raised e after → raised' e after) :
    Ends method state returned' raised' := by
  revert ends
  unfold Ends
  rcases method.call state with ⟨result, after⟩
  cases result with
  | error e => exact raises e after
  | ok a => exact returns a after

theorem Ends.bind {method : Method σ ε α} {next : α → Method σ ε β}
    {returned' : β → σ → Prop} (first : Ends method state returned raised)
    (rest : ∀ a after, returned a after →
      Ends (next a) after returned' raised) :
    Ends (method >>= next) state returned' raised :=
  ends_bind.mpr (first.weaken rest fun _ _ raised => raised)

/-- What a call shows of the conditions under which the method ends. -/
theorem Ends.of_ok {method : Method σ ε α} {a : α} {after : σ}
    (ends : Ends method state returned raised)
    (called : method.call state = (.ok a, after)) : returned a after := by
  simpa only [Ends, called] using ends

theorem Ends.of_error {method : Method σ ε α} {e : ε} {after : σ}
    (ends : Ends method state returned raised)
    (called : method.call state = (.error e, after)) : raised e after := by
  simpa only [Ends, called] using ends

end Rules

end Method

end ParityGrid.Foundation
