import ParityGrid.Foundation.Sorting
import ParityGrid.Foundation.Validation

/-!
# Concurrent cleanup

A coordinator keeps a registry of owned resources and the set of those that
have closed.  A cleanup call attempts every other resource once and collects
evidence about the ones that raised.
-/

namespace ParityGrid.Application

open ParityGrid.Foundation

def maxCleanupResources : Nat := 64

def maxCleanupDetailLength : Nat := 256

/-- What a `close` raises: the text of the exception and its class. -/
structure CloseFailure where
  message : Text
  className : Text
deriving DecidableEq

inductive CleanupError where
  /-- `ConcurrentCleanupInvalidRequestError`. -/
  | invalidRequest (message : String)
  /-- `ConcurrentCleanupFailedError`, with its cause and the notes of it. -/
  | failed (cause : CloseFailure) (notes : List Text)
deriving DecidableEq

def CleanupError.isFailed : CleanupError → Bool
  | .invalidRequest _ => false
  | .failed _ _ => true

/-- The characters from the blank to the tilde. -/
def isPrintableAscii (c : CodePoint) : Bool :=
  0x20 ≤ c.val && c.val ≤ 0x7E

/-- `_require_detail_text`. -/
def requireDetailText (value : Text) (subject : String) :
    Except CleanupError Unit := do
  require (1 ≤ value.length && value.length ≤ maxCleanupDetailLength)
    (.invalidRequest (subject ++ " length is outside the supported range"))
  require (value.all isPrintableAscii)
    (.invalidRequest (subject ++ " must use printable ASCII characters"))

/-- A text that passes. -/
def IsDetailText (value : Text) : Prop :=
  1 ≤ value.length ∧ value.length ≤ maxCleanupDetailLength ∧
    value.all isPrintableAscii

instance (value : Text) : Decidable (IsDetailText value) :=
  inferInstanceAs (Decidable (_ ∧ _ ∧ _))

theorem requireDetailText_eq_ok {value : Text} {subject : String} :
    requireDetailText value subject = .ok () ↔ IsDetailText value := by
  simp only [requireDetailText, check_bind_eq_ok, require_eq_ok,
    Bool.and_eq_true, decide_eq_true_eq, IsDetailText, and_assoc]

theorem requireDetailText_raises {value : Text} {subject : String}
    {raised : CleanupError}
    (refused : requireDetailText value subject = .error raised) :
    raised.isFailed = false := by
  rw [requireDetailText] at refused
  cases length : decide (1 ≤ value.length) &&
      decide (value.length ≤ maxCleanupDetailLength) with
  | false =>
      rw [length] at refused
      cases refused
      rfl
  | true =>
      rw [length] at refused
      cases printable : value.all isPrintableAscii with
      | false =>
          rw [printable] at refused
          cases refused
          rfl
      | true =>
          rw [printable] at refused
          cases refused

/-! ## Evidence -/

/-- `UnresolvedResource`. -/
structure UnresolvedResource where
  kind : Text
  name : Text
  detail : Text
  kindValid : IsDetailText kind
  nameValid : IsDetailText name
  detailValid : detail ≠ [] → IsDetailText detail
deriving DecidableEq

/-- A registered resource: its kind and its name identify it. -/
structure CleanupResource where
  kind : Text
  name : Text
  kindValid : IsDetailText kind
  nameValid : IsDetailText name
deriving DecidableEq

/-- `str(error)[:256] or error.__class__.__name__`. -/
def CloseFailure.detail (failure : CloseFailure) : Text :=
  let shown := failure.message.take maxCleanupDetailLength
  if shown = [] then failure.className else shown

/-- The evidence about a failure. -/
def unresolvedResource (resource : CleanupResource) (failure : CloseFailure) :
    Except CleanupError UnresolvedResource :=
  if empty : failure.detail = [] then
    .ok ⟨resource.kind, resource.name, failure.detail, resource.kindValid,
      resource.nameValid, fun some_ => absurd empty some_⟩
  else
    match passed : requireDetailText failure.detail
        "unresolved resource detail" with
    | .error raised => .error raised
    | .ok () =>
        .ok ⟨resource.kind, resource.name, failure.detail, resource.kindValid,
          resource.nameValid, fun _ => requireDetailText_eq_ok.mp passed⟩

/-- `_unresolved_order_key`. -/
def unresolvedOrderKey (resource : UnresolvedResource) : Text ×ₗ Text :=
  toLex (resource.kind, resource.name)

/-- `CleanupReport`. -/
structure CleanupReport where
  attempted : Nat
  closed : Nat
  alreadyClosed : Nat
  unresolved : List UnresolvedResource
deriving DecidableEq

/-- `CleanupReport.__post_init__`. -/
def CleanupReport.check (report : CleanupReport) : Except CleanupError Unit := do
  require (report.attempted ≤ maxCleanupResources)
    (.invalidRequest
      "cleanup report attempted is outside the supported range")
  require (report.closed ≤ maxCleanupResources)
    (.invalidRequest "cleanup report closed is outside the supported range")
  require (report.alreadyClosed ≤ maxCleanupResources)
    (.invalidRequest
      "cleanup report already_closed is outside the supported range")
  require (sortedBy unresolvedOrderKey report.unresolved == report.unresolved)
    (.invalidRequest
      "cleanup unresolved evidence must be deterministically sorted")

/-- `is_complete`. -/
def CleanupReport.isComplete (report : CleanupReport) : Bool :=
  report.attempted == report.closed + report.alreadyClosed

/-! ## The coordinator -/

/-- `ConcurrentCleanupCoordinator`. -/
structure CleanupCoordinator where
  resources : List CleanupResource
  closed : List CleanupResource
  distinct : resources.Nodup
  bounded : resources.length ≤ maxCleanupResources

def CleanupCoordinator.empty : CleanupCoordinator where
  resources := []
  closed := []
  distinct := List.nodup_nil
  bounded := Nat.zero_le _

/-- `register`; the texts of a resource are checked when it is built. -/
def CleanupCoordinator.register (coordinator : CleanupCoordinator)
    (resource : CleanupResource) : Except CleanupError CleanupCoordinator :=
  if known : resource ∈ coordinator.resources then
    .error (.invalidRequest "cleanup resource is already registered")
  else if room : coordinator.resources.length < maxCleanupResources then
    .ok
      { coordinator with
        resources := coordinator.resources ++ [resource]
        distinct := by
          rw [List.nodup_append]
          refine ⟨coordinator.distinct, List.nodup_singleton _, ?_⟩
          rintro other member _ (_ | ⟨_, ⟨⟩⟩) rfl
          exact known member
        bounded := by
          rw [List.length_append, List.length_singleton]
          exact room }
  else
    .error (.invalidRequest
      "cleanup resource registry exceeds the supported bound")

/-- The local variables of one `cleanup` call, and the attempts it made. -/
structure CleanupPass where
  closedSet : List CleanupResource
  attempts : List CleanupResource
  attempted : Nat
  closed : Nat
  alreadyClosed : Nat
  unresolved : List UnresolvedResource
  firstFailure : Option CloseFailure
  notes : List Text

/-- The pass before its loop. -/
def CleanupPass.start (closedSet : List CleanupResource) : CleanupPass :=
  ⟨closedSet, [], 0, 0, 0, [], none, []⟩

/-- The note that a later failure adds to the first one. -/
def failureNote (resource : CleanupResource) (failure : CloseFailure) : Text :=
  text "additional cleanup failure: " ++ resource.kind ++ text ":" ++
    resource.name ++ text ": " ++ failure.message

/-- The `except` branch of the loop. -/
def CleanupPass.reject (pass : CleanupPass) (resource : CleanupResource)
    (failure : CloseFailure) : CleanupPass × Except CleanupError Unit :=
  match unresolvedResource resource failure with
  | .error raised => (pass, .error raised)
  | .ok evidence =>
      let pass := { pass with unresolved := pass.unresolved ++ [evidence] }
      match pass.firstFailure with
      | none => ({ pass with firstFailure := some failure }, .ok ())
      | some _ =>
          ({ pass with notes := pass.notes ++ [failureNote resource failure] },
            .ok ())

/-- One turn of the loop; `closes` says what each `close` raises. -/
def CleanupPass.visit (closes : CleanupResource → Option CloseFailure)
    (pass : CleanupPass) (resource : CleanupResource) :
    CleanupPass × Except CleanupError Unit :=
  if resource ∈ pass.closedSet then
    ({ pass with alreadyClosed := pass.alreadyClosed + 1 }, .ok ())
  else
    let pass :=
      { pass with
        attempted := pass.attempted + 1
        attempts := pass.attempts ++ [resource] }
    match closes resource with
    | none =>
        ({ pass with
            closedSet := resource :: pass.closedSet
            closed := pass.closed + 1 }, .ok ())
    | some failure => pass.reject resource failure

/-- The loop; what a turn raises ends it. -/
def CleanupPass.visitAll (closes : CleanupResource → Option CloseFailure) :
    List CleanupResource → CleanupPass → CleanupPass × Except CleanupError Unit
  | [], pass => (pass, .ok ())
  | resource :: rest, pass =>
      match pass.visit closes resource with
      | (pass, .error raised) => (pass, .error raised)
      | (pass, .ok ()) => CleanupPass.visitAll closes rest pass

/-- What `cleanup` does after its loop. -/
def CleanupPass.finish (pass : CleanupPass) :
    Except CleanupError CleanupReport := do
  let report : CleanupReport :=
    { attempted := pass.attempted
      closed := pass.closed
      alreadyClosed := pass.alreadyClosed
      unresolved := sortedBy unresolvedOrderKey pass.unresolved }
  report.check
  match pass.firstFailure with
  | some failure => .error (.failed failure pass.notes)
  | none => .ok report

/-- A timeout that `_require_timeout` accepts; only `close` reads it. -/
structure CleanupTimeout where
  seconds : Rat
  valid : 0 ≤ seconds ∧ seconds ≤ 86400

/-- One call of `cleanup`, and what it did. -/
structure CleanupCall where
  registered : List CleanupResource
  closes : CleanupResource → Option CloseFailure
  attempts : List CleanupResource
  outcome : Except CleanupError CleanupReport

/-- `cleanup`; `close` maps the timeout to what each resource raises. -/
def CleanupCoordinator.cleanup (coordinator : CleanupCoordinator)
    (close : CleanupTimeout → CleanupResource → Option CloseFailure)
    (timeout : CleanupTimeout) : CleanupCoordinator × CleanupCall :=
  let (pass, loop) := CleanupPass.visitAll (close timeout)
    coordinator.resources (.start coordinator.closed)
  ({ coordinator with closed := pass.closedSet },
    { registered := coordinator.resources
      closes := close timeout
      attempts := pass.attempts
      outcome := loop.bind fun _ => pass.finish })

end ParityGrid.Application
