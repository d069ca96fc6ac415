import ParityGrid.Foundation.Text

/-!
# Checks that raise

A validator of the program is a sequence of checks, each of which raises its
own exception.  `require` is one check; `bind_eq_ok` takes a successful
sequence apart.  Segment patterns are the regular expressions
`first body* (?: separator later body*)*` that canonical texts must match.
-/

namespace ParityGrid.Foundation

/-! ## Sequencing -/

@[simp]
theorem mapError_eq_ok {ε ε' α : Type} {checked : Except ε α} {wrap : ε → ε'}
    {value : α} :
    checked.mapError wrap = .ok value ↔ checked = .ok value := by
  cases checked <;> simp [Except.mapError]

theorem bind_eq_ok {ε α β : Type} {x : Except ε α} {f : α → Except ε β}
    {b : β} :
    (x >>= f) = .ok b ↔ ∃ a, x = .ok a ∧ f a = .ok b := by
  cases x with
  | error e =>
      constructor
      · intro equal
        cases equal
      · rintro ⟨a, impossible, _⟩
        cases impossible
  | ok a =>
      constructor
      · intro equal
        exact ⟨a, rfl, equal⟩
      · rintro ⟨b, same, equal⟩
        cases same
        exact equal

theorem bind_eq_error {ε α β : Type} {x : Except ε α} {f : α → Except ε β}
    {e : ε} :
    (x >>= f) = .error e ↔
      x = .error e ∨ ∃ a, x = .ok a ∧ f a = .error e := by
  cases x with
  | error d =>
      constructor
      · intro equal
        cases equal
        exact .inl rfl
      · rintro (same | ⟨a, impossible, _⟩)
        · cases same
          rfl
        · cases impossible
  | ok a =>
      constructor
      · intro equal
        exact .inr ⟨a, rfl, equal⟩
      · rintro (impossible | ⟨b, same, equal⟩)
        · cases impossible
        · cases same
          exact equal

@[simp]
theorem ok_bind {ε α β : Type} (a : α) (f : α → Except ε β) :
    (Except.ok a >>= f) = f a := rfl

@[simp]
theorem error_bind {ε α β : Type} (e : ε) (f : α → Except ε β) :
    (Except.error e >>= f) = .error e := rfl

theorem map_eq_ok {ε α β : Type} {x : Except ε α} {f : α → β} {b : β} :
    x.map f = .ok b ↔ ∃ a, x = .ok a ∧ f a = b := by
  cases x with
  | error e => simp [Except.map]
  | ok a => simp [Except.map]

theorem fmap_eq_ok {ε α β : Type} {x : Except ε α} {f : α → β} {b : β} :
    f <$> x = .ok b ↔ ∃ a, x = .ok a ∧ f a = b :=
  map_eq_ok

/-- The computation raises nothing. -/
def Returns {ε α : Type} (x : Except ε α) : Prop :=
  ∃ a, x = .ok a

theorem Returns.ok {ε α : Type} (a : α) : Returns (.ok a : Except ε α) :=
  ⟨a, rfl⟩

theorem returns_map {ε α β : Type} {x : Except ε α} {f : α → β} :
    Returns (x.map f) ↔ Returns x := by
  cases x with
  | error e => simp [Returns, Except.map]
  | ok a => simp [Returns, Except.map]

theorem returns_fmap {ε α β : Type} {x : Except ε α} {f : α → β} :
    Returns (f <$> x) ↔ Returns x :=
  returns_map

theorem returns_bind {ε α β : Type} {x : Except ε α} {f : α → Except ε β} :
    Returns (x >>= f) ↔ ∃ a, x = .ok a ∧ Returns (f a) := by
  cases x with
  | error e => simp [Returns]
  | ok a => simp [Returns]

theorem Returns.bind {ε α β : Type} {x : Except ε α} {f : α → Except ε β}
    (first : Returns x) (next : ∀ a, x = .ok a → Returns (f a)) :
    Returns (x >>= f) := by
  obtain ⟨a, returned⟩ := first
  exact returns_bind.mpr ⟨a, returned, next a returned⟩

theorem returns_of_isSome {ε α : Type} {x : Except ε α}
    (some_ : x.toOption.isSome) :
    ∃ a, x = .ok a := by
  cases x with
  | error e => cases some_
  | ok a => exact ⟨a, rfl⟩

theorem toOption_eq_some {ε α : Type} {x : Except ε α} {a : α} :
    x.toOption = some a ↔ x = .ok a := by
  cases x <;> simp [Except.toOption]

/-- One check: raise `error` unless `condition` holds. -/
def require {ε : Type} (condition : Bool) (error : ε) : Except ε Unit :=
  if condition then .ok () else .error error

@[simp]
theorem require_true {ε : Type} (error : ε) :
    require true error = .ok () := rfl

@[simp]
theorem require_false {ε : Type} (error : ε) :
    require false error = .error error := rfl

theorem require_eq_ok {ε : Type} {condition : Bool} {error : ε} {u : Unit} :
    require condition error = .ok u ↔ condition = true := by
  cases condition <;> simp [require]

/-- A check is followed by the rest when it passes. -/
theorem check_bind_eq_ok {ε β : Type} {x : Except ε Unit}
    {f : Unit → Except ε β} {b : β} :
    (x >>= f) = .ok b ↔ x = .ok () ∧ f () = .ok b := by
  rw [bind_eq_ok]
  constructor
  · rintro ⟨_, passed, later⟩
    exact ⟨passed, later⟩
  · rintro ⟨passed, later⟩
    exact ⟨(), passed, later⟩

theorem forM_eq_ok {ε α : Type} {check : α → Except ε Unit}
    {values : List α} {u : Unit} :
    values.forM check = .ok u ↔ ∀ value ∈ values, check value = .ok () := by
  induction values with
  | nil => simp [pure, Except.pure]
  | cons value rest ih =>
      show (check value >>= fun _ => rest.forM check) = .ok u ↔ _
      simp only [bind_eq_ok, ih, List.forall_mem_cons]
      constructor
      · rintro ⟨_, first, later⟩
        exact ⟨first, later⟩
      · rintro ⟨first, later⟩
        exact ⟨(), first, later⟩

/-- A conjunction of tests that do not raise. -/
theorem allM_eq_ok {ε α : Type} {p : α → Except ε Bool} {q : α → Bool}
    {values : List α} (agrees : ∀ value ∈ values, p value = .ok (q value)) :
    values.allM p = .ok (values.all q) := by
  induction values with
  | nil => rfl
  | cons value rest ih =>
      rw [List.forall_mem_cons] at agrees
      rw [List.allM, agrees.1, ok_bind, List.all_cons]
      cases q value with
      | true => exact ih agrees.2
      | false => rfl

/-- A selection by tests that do not raise. -/
theorem filterM_eq_ok {ε α : Type} {p : α → Except ε Bool} {q : α → Bool}
    {values : List α} (agrees : ∀ value ∈ values, p value = .ok (q value)) :
    values.filterM p = .ok (values.filter q) := by
  have accumulates : ∀ kept : List α, List.filterAuxM p values kept =
      .ok ((values.filter q).reverse ++ kept) := by
    induction values with
    | nil => exact fun _ => rfl
    | cons value rest ih =>
        rw [List.forall_mem_cons] at agrees
        intro kept
        rw [List.filterAuxM, agrees.1, ok_bind, ih agrees.2, List.filter_cons]
        cases q value with
        | true => simp
        | false => rfl
  rw [List.filterM, accumulates []]
  simp [pure, Except.pure]

theorem mapM_eq_ok {ε α β : Type} {f : α → Except ε β} {values : List α}
    {results : List β} :
    values.mapM f = .ok results ↔ values.map f = results.map .ok := by
  induction values generalizing results with
  | nil =>
      cases results <;> simp [pure, Except.pure]
  | cons value rest ih =>
      simp only [List.mapM_cons, bind_eq_ok, ih, List.map_cons]
      constructor
      · rintro ⟨first, returned, others, later, same⟩
        cases same
        simp only [List.map_cons, returned, later]
      · intro maps
        cases results with
        | nil => cases maps
        | cons first others =>
            simp only [List.map_cons, List.cons.injEq] at maps
            exact ⟨first, maps.1, others, maps.2, rfl⟩

/-- A decoder that inverts an encoder inverts it on lists. -/
theorem mapM_eq_ok_iff_map {ε α β : Type} {f : α → Except ε β} {g : β → α}
    {values : List α} {results : List β}
    (inverts : ∀ value ∈ values, ∀ result,
      f value = .ok result ↔ value = g result) :
    values.mapM f = .ok results ↔ values = results.map g := by
  induction values generalizing results with
  | nil => cases results <;> simp [pure, Except.pure]
  | cons value rest ih =>
      rw [List.forall_mem_cons] at inverts
      simp only [List.mapM_cons, bind_eq_ok, ih inverts.2, inverts.1, pure,
        Except.pure, Except.ok.injEq]
      constructor
      · rintro ⟨result, rfl, others, rfl, rfl⟩
        rfl
      · intro same
        cases results with
        | nil => cases same
        | cons result others =>
            rw [List.map_cons, List.cons.injEq] at same
            exact ⟨result, same.1, others, same.2, rfl⟩

theorem mapM_origin {ε α β : Type} {f : α → Except ε β} {values : List α}
    {results : List β} (returned : values.mapM f = .ok results) {result : β}
    (member : result ∈ results) :
    ∃ value ∈ values, f value = .ok result := by
  have image : (Except.ok result : Except ε β) ∈ values.map f := by
    rw [mapM_eq_ok.mp returned]
    exact List.mem_map.mpr ⟨result, member, rfl⟩
  exact List.mem_map.mp image

theorem mapM_image {ε α β : Type} {f : α → Except ε β} {values : List α}
    {results : List β} (returned : values.mapM f = .ok results) {value : α}
    (member : value ∈ values) :
    ∃ result ∈ results, f value = .ok result := by
  have image : f value ∈ results.map Except.ok := by
    rw [← mapM_eq_ok.mp returned]
    exact List.mem_map.mpr ⟨value, member, rfl⟩
  obtain ⟨result, inside, same⟩ := List.mem_map.mp image
  exact ⟨result, inside, same.symm⟩

/-- What every result keeps of its value, all results keep of all values. -/
theorem mapM_keeps {ε α β γ : Type} {f : α → Except ε β} {g : α → γ}
    {h : β → γ} {values : List α} {results : List β}
    (keeps : ∀ value ∈ values, ∀ result, f value = .ok result →
      h result = g value)
    (returned : values.mapM f = .ok results) :
    results.map h = values.map g := by
  have maps := mapM_eq_ok.mp returned
  clear returned
  induction values generalizing results with
  | nil =>
      have empty : results = [] := by simpa using maps.symm
      rw [empty]
      rfl
  | cons value rest ih =>
      cases results with
      | nil => cases maps
      | cons first others =>
          simp only [List.map_cons, List.cons.injEq] at maps
          rw [List.map_cons, List.map_cons,
            keeps value List.mem_cons_self first maps.1,
            ih (fun v member =>
              keeps v (List.mem_cons_of_mem _ member)) maps.2]

/-- Checks that agree on every value agree on the list. -/
theorem mapM_congr_left {ε α β : Type} {f g : α → Except ε β} {values : List α}
    (same : ∀ value ∈ values, f value = g value) :
    values.mapM f = values.mapM g := by
  induction values with
  | nil => rfl
  | cons value rest ih =>
      rw [List.forall_mem_cons] at same
      rw [List.mapM_cons, List.mapM_cons, same.1, ih same.2]

theorem returns_mapM {ε α β : Type} {f : α → Except ε β}
    {values : List α} :
    Returns (values.mapM f) ↔ ∀ value ∈ values, Returns (f value) := by
  induction values with
  | nil => simp [Returns, pure, Except.pure]
  | cons value rest ih =>
      rw [List.forall_mem_cons, ← ih, List.mapM_cons]
      constructor
      · intro returned
        obtain ⟨first, firstReturns, returned⟩ := returns_bind.mp returned
        obtain ⟨others, othersReturn, _⟩ := returns_bind.mp returned
        exact ⟨⟨first, firstReturns⟩, ⟨others, othersReturn⟩⟩
      · rintro ⟨first, others⟩
        exact first.bind fun _ _ => others.bind fun _ _ => .ok _

/-- Keep the evidence that a successful computation provides. -/
def certify {ε α : Type} {P : α → Prop} (x : Except ε α)
    (holds : ∀ a, x = .ok a → P a) :
    Except ε { a : α // P a } :=
  match x, holds with
  | .ok a, holds => .ok ⟨a, holds a rfl⟩
  | .error e, _ => .error e

theorem certify_eq_ok {ε α : Type} {P : α → Prop} {x : Except ε α}
    {holds : ∀ a, x = .ok a → P a} {a : { a : α // P a }} :
    certify x holds = .ok a ↔ x = .ok a.1 := by
  cases x with
  | error e => simp [certify]
  | ok b => simp [certify, Subtype.ext_iff]

theorem certify_ok {ε α : Type} {P : α → Prop} {x : Except ε α}
    (holds : ∀ a, x = .ok a → P a) {a : α} (accepted : x = .ok a) :
    certify x holds = .ok ⟨a, holds a accepted⟩ :=
  certify_eq_ok.mpr accepted

theorem certify_eq_error {ε α : Type} {P : α → Prop} {x : Except ε α}
    {holds : ∀ a, x = .ok a → P a} {e : ε} :
    certify x holds = .error e ↔ x = .error e := by
  cases x with
  | error d => simp [certify]
  | ok b => simp [certify]

/-! ## What a computation may raise -/

/-- Every exception that the computation raises is of one kind. -/
def RaisesOnly {ε α : Type} (Kind : ε → Prop) (x : Except ε α) : Prop :=
  ∀ e, x = .error e → Kind e

namespace RaisesOnly

variable {ε α β : Type} {Kind : ε → Prop}

theorem ok (a : α) : RaisesOnly Kind (.ok a) := by
  intro e raised
  cases raised

theorem error {e : ε} (kind : Kind e) :
    RaisesOnly Kind (.error e : Except ε α) := by
  intro d raised
  cases raised
  exact kind

theorem returns {x : Except ε α} (returned : Returns x) :
    RaisesOnly Kind x := by
  obtain ⟨a, rfl⟩ := returned
  exact ok a

theorem bind {x : Except ε α} {f : α → Except ε β} (first : RaisesOnly Kind x)
    (next : ∀ a, x = .ok a → RaisesOnly Kind (f a)) :
    RaisesOnly Kind (x >>= f) := by
  intro e raised
  rcases bind_eq_error.mp raised with early | ⟨a, passed, late⟩
  · exact first e early
  · exact next a passed e late

theorem require {condition : Bool} {e : ε} (kind : Kind e) :
    RaisesOnly Kind (Foundation.require condition e) := by
  cases condition with
  | true => exact ok ()
  | false => exact error kind

theorem forM {check : α → Except ε Unit} {values : List α}
    (each : ∀ value ∈ values, RaisesOnly Kind (check value)) :
    RaisesOnly Kind (values.forM check) := by
  induction values with
  | nil => exact ok ()
  | cons value rest ih =>
      rw [List.forall_mem_cons] at each
      exact bind each.1 fun _ _ => ih each.2

theorem mapM {f : α → Except ε β} {values : List α}
    (each : ∀ value ∈ values, RaisesOnly Kind (f value)) :
    RaisesOnly Kind (values.mapM f) := by
  induction values with
  | nil => exact ok []
  | cons value rest ih =>
      rw [List.forall_mem_cons] at each
      rw [List.mapM_cons]
      exact bind each.1 fun _ _ => bind (ih each.2) fun _ _ => ok _

end RaisesOnly

/-- What `except (TypeError, ValueError)` around a computation catches. -/
def RaisesOnlyValueErrors {α : Type} (x : Except PythonError α) : Prop :=
  ∀ e, x = .error e → e.isTypeOrValueError

theorem RaisesOnlyValueErrors.bind {α β : Type}
    {x : Except PythonError α} {f : α → Except PythonError β}
    (first : RaisesOnlyValueErrors x)
    (next : ∀ a, x = .ok a → RaisesOnlyValueErrors (f a)) :
    RaisesOnlyValueErrors (x >>= f) := by
  intro e raised
  rcases bind_eq_error.mp raised with early | ⟨a, passed, late⟩
  · exact first e early
  · exact next a passed e late

theorem RaisesOnlyValueErrors.ok {α : Type} (a : α) :
    RaisesOnlyValueErrors (.ok a) := by
  intro e raised
  cases raised

theorem RaisesOnlyValueErrors.require {condition : Bool}
    {error : PythonError} (kind : error.isTypeOrValueError) :
    RaisesOnlyValueErrors (Foundation.require condition error) := by
  intro e raised
  cases condition with
  | true => cases raised
  | false =>
      cases raised
      exact kind

theorem RaisesOnlyValueErrors.encodeUtf8 (t : Text) :
    RaisesOnlyValueErrors (Foundation.encodeUtf8 t) := by
  intro e raised
  simp only [Foundation.encodeUtf8] at raised
  split at raised
  · cases raised
  · cases raised
    rfl

/-- `try: x; except (TypeError, ValueError): handler`. -/
def exceptValueErrors {α : Type} (x handler : Except PythonError α) :
    Except PythonError α :=
  match x with
  | .ok a => .ok a
  | .error e => if e.isTypeOrValueError then handler else .error e

@[simp]
theorem exceptValueErrors_ok {α : Type} (a : α)
    (handler : Except PythonError α) :
    exceptValueErrors (.ok a) handler = .ok a := rfl

/-- A handler covers a computation that raises only what it catches. -/
theorem RaisesOnlyValueErrors.exceptValueErrors {α : Type}
    {x : Except PythonError α} (raises : RaisesOnlyValueErrors x)
    (handler : Except PythonError α) :
    (∃ a, x = .ok a ∧ exceptValueErrors x handler = .ok a) ∨
      exceptValueErrors x handler = handler := by
  cases x with
  | ok a => exact .inl ⟨a, rfl, rfl⟩
  | error e =>
      right
      simp only [Foundation.exceptValueErrors, raises e rfl, if_true]

/-! ## Segment patterns -/

/-- Character classes of `first body* (?: separator later body*)*`. -/
structure SegmentPattern where
  first : CodePoint → Bool
  later : CodePoint → Bool
  body : CodePoint → Bool
  separator : CodePoint → Bool

namespace SegmentPattern

/-- Match the rest of a text; `inside` says that a segment has begun. -/
def matchRest (p : SegmentPattern) : Bool → Text → Bool
  | inside, [] => inside
  | false, c :: rest => p.later c && p.matchRest true rest
  | true, c :: rest =>
      if p.body c then p.matchRest true rest
      else p.separator c && p.matchRest false rest

/-- `pattern.fullmatch(text) is not None`. -/
def fullmatch (p : SegmentPattern) : Text → Bool
  | [] => false
  | c :: rest => p.first c && p.matchRest true rest

/-- Every character class of the pattern lies within `good`. -/
structure Within (p : SegmentPattern) (good : CodePoint → Bool) : Prop where
  first : ∀ c, p.first c → good c
  later : ∀ c, p.later c → good c
  body : ∀ c, p.body c → good c
  separator : ∀ c, p.separator c → good c

theorem Within.matchRest_all {p : SegmentPattern} {good : CodePoint → Bool}
    (within : p.Within good) {inside : Bool} {t : Text}
    (matched : p.matchRest inside t) :
    t.all good := by
  induction t generalizing inside with
  | nil => rfl
  | cons c rest ih =>
      cases inside with
      | false =>
          simp only [matchRest, Bool.and_eq_true] at matched
          simp only [List.all_cons, Bool.and_eq_true]
          exact ⟨within.later c matched.1, ih matched.2⟩
      | true =>
          simp only [matchRest] at matched
          simp only [List.all_cons, Bool.and_eq_true]
          split at matched
          next body => exact ⟨within.body c body, ih matched⟩
          next =>
            simp only [Bool.and_eq_true] at matched
            exact ⟨within.separator c matched.1, ih matched.2⟩

/-- A matching text uses only characters of the pattern's classes. -/
theorem Within.fullmatch_all {p : SegmentPattern} {good : CodePoint → Bool}
    (within : p.Within good) {t : Text} (matched : p.fullmatch t) :
    t.all good := by
  cases t with
  | nil => rfl
  | cons c rest =>
      simp only [fullmatch, Bool.and_eq_true] at matched
      simp only [List.all_cons, Bool.and_eq_true]
      exact ⟨within.first c matched.1, within.matchRest_all matched.2⟩

end SegmentPattern

theorem isAscii_of_isLower {c : CodePoint} (char : isLower c) :
    isAscii c := by
  simp only [isLower, Bool.and_eq_true, decide_eq_true_eq] at char
  simp only [isAscii, decide_eq_true_eq]
  omega

theorem isAscii_of_isUpper {c : CodePoint} (char : isUpper c) :
    isAscii c := by
  simp only [isUpper, Bool.and_eq_true, decide_eq_true_eq] at char
  simp only [isAscii, decide_eq_true_eq]
  omega

theorem isAscii_of_isHexLower {c : CodePoint} (char : isHexLower c) :
    isAscii c := by
  simp only [isHexLower, Bool.or_eq_true, Bool.and_eq_true,
    decide_eq_true_eq] at char
  rcases char with digit | letter
  · exact isAscii_of_isDigit digit
  · simp only [isAscii, decide_eq_true_eq]
    omega

end ParityGrid.Foundation
