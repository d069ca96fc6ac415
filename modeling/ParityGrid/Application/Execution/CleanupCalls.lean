import ParityGrid.Application.Execution.ConcurrentCleanup

/-!
# What cleanup calls attempt and report

A call attempts every resource that no earlier call closed, unless the evidence
about some failure is refused: the text of an exception must be printable
ASCII.  A report counts what earlier calls closed a second time, so it is
complete only when they closed nothing.
-/

namespace ParityGrid.Application

open ParityGrid.Foundation

variable {closes : CleanupResource → Option CloseFailure}

/-! ## One turn of the loop -/

/-- Evidence about a failure can be built. -/
def CloseFailure.Evident (failure : CloseFailure) : Prop :=
  failure.detail = [] ∨ IsDetailText failure.detail

instance (failure : CloseFailure) : Decidable failure.Evident :=
  inferInstanceAs (Decidable (_ ∨ _))

theorem unresolvedResource_ok {failure : CloseFailure}
    (evident : failure.Evident) (resource : CleanupResource) :
    ∃ evidence, unresolvedResource resource failure = .ok evidence := by
  rw [unresolvedResource]
  split
  · exact ⟨_, rfl⟩
  next some_ =>
    split
    next raised refused =>
      rw [requireDetailText_eq_ok.mpr (evident.resolve_left some_)] at refused
      cases refused
    · exact ⟨_, rfl⟩

theorem unresolvedResource_error {failure : CloseFailure}
    (hidden : ¬failure.Evident) (resource : CleanupResource) :
    ∃ raised, unresolvedResource resource failure = .error raised ∧
      raised.isFailed = false := by
  rw [CloseFailure.Evident, not_or] at hidden
  rw [unresolvedResource, dif_neg hidden.1]
  split
  next raised refused =>
    exact ⟨raised, rfl, requireDetailText_raises refused⟩
  next passed => exact absurd (requireDetailText_eq_ok.mp passed) hidden.2

/-- What one turn does. -/
inductive CleanupPass.Visits (closes : CleanupResource → Option CloseFailure)
    (pass : CleanupPass) (resource : CleanupResource) :
    CleanupPass × Except CleanupError Unit → Prop
  | skip (known : resource ∈ pass.closedSet) :
      Visits closes pass resource
        ({ pass with alreadyClosed := pass.alreadyClosed + 1 }, .ok ())
  | close (fresh : resource ∉ pass.closedSet)
      (returns : closes resource = none) :
      Visits closes pass resource
        ({ pass with
            attempted := pass.attempted + 1
            attempts := pass.attempts ++ [resource]
            closedSet := resource :: pass.closedSet
            closed := pass.closed + 1 }, .ok ())
  | record (fresh : resource ∉ pass.closedSet) {failure : CloseFailure}
      (raises : closes resource = some failure) (evident : failure.Evident)
      {unresolved : List UnresolvedResource} {first : CloseFailure}
      {notes : List Text} :
      Visits closes pass resource
        ({ pass with
            attempted := pass.attempted + 1
            attempts := pass.attempts ++ [resource]
            unresolved := unresolved
            firstFailure := some first
            notes := notes }, .ok ())
  | abort (fresh : resource ∉ pass.closedSet) {failure : CloseFailure}
      (raises : closes resource = some failure) (hidden : ¬failure.Evident)
      {raised : CleanupError} (invalid : raised.isFailed = false) :
      Visits closes pass resource
        ({ pass with
            attempted := pass.attempted + 1
            attempts := pass.attempts ++ [resource] }, .error raised)

theorem CleanupPass.visit_visits (pass : CleanupPass)
    (resource : CleanupResource) :
    pass.Visits closes resource (pass.visit closes resource) := by
  rw [visit]
  by_cases known : resource ∈ pass.closedSet
  · rw [if_pos known]
    exact .skip known
  · rw [if_neg known]
    cases answer : closes resource with
    | none => exact .close known answer
    | some failure =>
        by_cases evident : failure.Evident
        · obtain ⟨evidence, built⟩ := unresolvedResource_ok evident resource
          dsimp only [reject]
          rw [built]
          cases pass.firstFailure <;> exact .record known answer evident
        · obtain ⟨raised, refused, invalid⟩ :=
            unresolvedResource_error evident resource
          dsimp only [reject]
          rw [refused]
          exact .abort known answer evident invalid

/-! ## The loop -/

/-- The resources that a set does not hold. -/
def openResources (closedSet resources : List CleanupResource) :
    List CleanupResource :=
  resources.filter (· ∉ closedSet)

theorem openResources_cons_of_mem {closedSet resources : List CleanupResource}
    {resource : CleanupResource} (known : resource ∈ closedSet) :
    openResources closedSet (resource :: resources) =
      openResources closedSet resources :=
  List.filter_cons_of_neg (by simpa using known)

theorem openResources_cons_of_notMem
    {closedSet resources : List CleanupResource} {resource : CleanupResource}
    (fresh : resource ∉ closedSet) :
    openResources closedSet (resource :: resources) =
      resource :: openResources closedSet resources :=
  List.filter_cons_of_pos (by simpa using fresh)

/-- A resource that is visited no more does not count among the closed ones. -/
theorem openResources_closed {closedSet resources : List CleanupResource}
    {resource : CleanupResource} (visited : resource ∉ resources) :
    openResources (resource :: closedSet) resources =
      openResources closedSet resources := by
  apply List.filter_congr
  intro other member
  have apart : other ≠ resource := by
    rintro rfl
    exact visited member
  simp [apart]

/-- Whatever a loop raises, what has closed is what it attempted in vain not. -/
theorem CleanupPass.visitAll_closed (resources : List CleanupResource)
    (pass : CleanupPass) :
    ∃ tried, (visitAll closes resources pass).1.attempts =
        pass.attempts ++ tried ∧
      ∀ resource, resource ∈ (visitAll closes resources pass).1.closedSet ↔
        resource ∈ pass.closedSet ∨
          (resource ∈ tried ∧ closes resource = none) := by
  induction resources generalizing pass with
  | nil => exact ⟨[], (List.append_nil _).symm, by simp [visitAll]⟩
  | cons first rest ih =>
      rw [visitAll]
      have visits := @CleanupPass.visit_visits closes pass first
      generalize pass.visit closes first = turn at visits
      cases visits with
      | skip known => exact ih _
      | close fresh returns =>
          obtain ⟨tried, attempts, closed⟩ := ih
            { pass with
              attempted := pass.attempted + 1
              attempts := pass.attempts ++ [first]
              closedSet := first :: pass.closedSet
              closed := pass.closed + 1 }
          refine ⟨first :: tried, ?_, fun resource => (closed resource).trans ?_⟩
          · rw [attempts, List.append_assoc, List.singleton_append]
          · simp only [List.mem_cons]
            constructor
            · rintro ((rfl | known) | ⟨later, returns⟩)
              · exact .inr ⟨.inl rfl, returns⟩
              · exact .inl known
              · exact .inr ⟨.inr later, returns⟩
            · rintro (known | ⟨rfl | later, returns⟩)
              · exact .inl (.inr known)
              · exact .inl (.inl rfl)
              · exact .inr ⟨later, returns⟩
      | @record fresh failure raises evident unresolved cause notes =>
          obtain ⟨tried, attempts, closed⟩ := ih
            { pass with
              attempted := pass.attempted + 1
              attempts := pass.attempts ++ [first]
              unresolved := unresolved
              firstFailure := some cause
              notes := notes }
          refine ⟨first :: tried, ?_, fun resource => (closed resource).trans ?_⟩
          · rw [attempts, List.append_assoc, List.singleton_append]
          · simp only [List.mem_cons]
            constructor
            · rintro (known | ⟨later, returns⟩)
              · exact .inl known
              · exact .inr ⟨.inr later, returns⟩
            · rintro (known | ⟨rfl | later, returns⟩)
              · exact .inl known
              · rw [raises] at returns
                cases returns
              · exact .inr ⟨later, returns⟩
      | @abort fresh failure raises hidden raised invalid =>
          refine ⟨[first], rfl, fun resource => ?_⟩
          simp only [List.mem_singleton]
          constructor
          · exact .inl
          · rintro (known | ⟨rfl, returns⟩)
            · exact known
            · rw [raises] at returns
              cases returns

/-- What a loop over distinct resources leaves when nothing aborts it. -/
structure CleanupPass.Completes (closes : CleanupResource → Option CloseFailure)
    (resources : List CleanupResource) (pass next : CleanupPass) : Prop where
  attempts : next.attempts =
    pass.attempts ++ openResources pass.closedSet resources
  attempted : next.attempted =
    pass.attempted + (openResources pass.closedSet resources).length
  closed : next.closed = pass.closed +
    (openResources pass.closedSet resources).countP
      fun resource => (closes resource).isNone
  alreadyClosed : next.alreadyClosed = pass.alreadyClosed +
    resources.countP fun resource => resource ∈ pass.closedSet
  failure : next.firstFailure = none ↔ pass.firstFailure = none ∧
    ∀ resource ∈ openResources pass.closedSet resources,
      closes resource = none

/-- Evidence about every failure among some resources can be built. -/
def Evident (closes : CleanupResource → Option CloseFailure)
    (resources : List CleanupResource) : Prop :=
  ∀ resource ∈ resources, ∀ failure, closes resource = some failure →
    failure.Evident

/-- The loop ends exactly when all evidence can be built. -/
theorem CleanupPass.visitAll_completes {resources : List CleanupResource}
    (distinct : resources.Nodup) (pass : CleanupPass) :
    (Evident closes (openResources pass.closedSet resources) ∧
        (visitAll closes resources pass).2 = .ok () ∧
        pass.Completes closes resources (visitAll closes resources pass).1) ∨
      (¬Evident closes (openResources pass.closedSet resources) ∧
        ∃ raised, (visitAll closes resources pass).2 = .error raised ∧
          raised.isFailed = false) := by
  induction resources generalizing pass with
  | nil =>
      left
      refine ⟨fun _ member => absurd member List.not_mem_nil, rfl, ?_⟩
      exact ⟨(List.append_nil _).symm, rfl, rfl, rfl, by
        simp [visitAll, openResources]⟩
  | cons first rest ih =>
      obtain ⟨visited, distinct⟩ := List.nodup_cons.mp distinct
      rw [visitAll]
      have visits := @CleanupPass.visit_visits closes pass first
      generalize pass.visit closes first = turn at visits
      cases visits with
      | skip known =>
          have same : openResources pass.closedSet (first :: rest) = _ :=
            openResources_cons_of_mem known
          rw [same]
          refine (ih distinct { pass with
            alreadyClosed := pass.alreadyClosed + 1 }).imp_left ?_
          rintro ⟨evident, loop, completes⟩
          refine ⟨evident, loop, ?_, ?_, ?_, ?_, ?_⟩
          · rw [same]
            exact completes.attempts
          · rw [same]
            exact completes.attempted
          · rw [same]
            exact completes.closed
          · refine completes.alreadyClosed.trans ?_
            simp only [List.countP_cons, known, decide_true, if_true]
            omega
          · rw [same]
            exact completes.failure
      | close fresh returns =>
          have same : openResources pass.closedSet (first :: rest) = _ :=
            openResources_cons_of_notMem fresh
          have others : openResources (first :: pass.closedSet) rest = _ :=
            openResources_closed visited
          have counts : rest.countP (fun resource =>
              resource ∈ first :: pass.closedSet) =
              rest.countP fun resource => resource ∈ pass.closedSet := by
            refine List.countP_congr fun other member => ?_
            have apart : other ≠ first := by
              rintro rfl
              exact visited member
            simp [apart]
          have evidence : Evident closes (openResources pass.closedSet rest) ↔
              Evident closes
                (first :: openResources pass.closedSet rest) := by
            rw [Evident, Evident, List.forall_mem_cons, and_iff_right]
            intro failure raises
            rw [returns] at raises
            cases raises
          rw [same, ← evidence, ← others]
          refine (ih distinct { pass with
            attempted := pass.attempted + 1
            attempts := pass.attempts ++ [first]
            closedSet := first :: pass.closedSet
            closed := pass.closed + 1 }).imp_left ?_
          rintro ⟨evident, loop, completes⟩
          refine ⟨evident, loop, ?_, ?_, ?_, ?_, ?_⟩
          · refine completes.attempts.trans ?_
            rw [same, others, List.append_assoc, List.singleton_append]
          · refine completes.attempted.trans ?_
            rw [same, others, List.length_cons]
            exact Nat.succ_add_eq_add_succ _ _
          · refine completes.closed.trans ?_
            rw [same, others]
            simp only [List.countP_cons, returns, Option.isNone_none, if_true]
            omega
          · refine completes.alreadyClosed.trans ?_
            rw [counts]
            simp only [List.countP_cons, fresh, decide_false, if_false,
              Bool.false_eq_true, Nat.add_zero]
          · refine completes.failure.trans ?_
            rw [same, others, List.forall_mem_cons]
            exact and_congr_right fun _ => (and_iff_right returns).symm
      | @record fresh failure raises evident unresolved cause notes =>
          have same : openResources pass.closedSet (first :: rest) = _ :=
            openResources_cons_of_notMem fresh
          have evidence : Evident closes (openResources pass.closedSet rest) ↔
              Evident closes
                (first :: openResources pass.closedSet rest) := by
            rw [Evident, Evident, List.forall_mem_cons, and_iff_right]
            intro other also
            rw [raises] at also
            cases also
            exact evident
          rw [same, ← evidence]
          refine (ih distinct { pass with
            attempted := pass.attempted + 1
            attempts := pass.attempts ++ [first]
            unresolved := unresolved
            firstFailure := some cause
            notes := notes }).imp_left ?_
          rintro ⟨evident, loop, completes⟩
          refine ⟨evident, loop, ?_, ?_, ?_, ?_, ?_⟩
          · refine completes.attempts.trans ?_
            rw [same, List.append_assoc, List.singleton_append]
          · refine completes.attempted.trans ?_
            rw [same, List.length_cons]
            exact Nat.succ_add_eq_add_succ _ _
          · refine completes.closed.trans ?_
            rw [same]
            simp only [List.countP_cons, raises, Option.isNone_some, if_false,
              Bool.false_eq_true, Nat.add_zero]
          · refine completes.alreadyClosed.trans ?_
            simp only [List.countP_cons, fresh, decide_false, if_false,
              Bool.false_eq_true, Nat.add_zero]
          · refine completes.failure.trans ?_
            rw [same, List.forall_mem_cons, raises]
            constructor
            · rintro ⟨none_, _⟩
              cases none_
            · rintro ⟨_, none_, _⟩
              cases none_
      | @abort fresh failure raises hidden raised invalid =>
          right
          rw [openResources_cons_of_notMem fresh]
          refine ⟨fun evident => hidden ?_, raised, rfl, invalid⟩
          exact evident first List.mem_cons_self failure raises

/-! ## Calls in a history -/

/-- What happens to a coordinator. -/
inductive CleanupStep where
  | register (resource : CleanupResource)
  | cleanup
      (close : CleanupTimeout → CleanupResource → Option CloseFailure)
      (timeout : CleanupTimeout)

/-- The cleanup calls among some steps, in order. -/
def CleanupCoordinator.history (coordinator : CleanupCoordinator) :
    List CleanupStep → List CleanupCall
  | [] => []
  | .register resource :: rest =>
      match coordinator.register resource with
      | .ok next => next.history rest
      | .error _ => coordinator.history rest
  | .cleanup close timeout :: rest =>
      let (next, call) := coordinator.cleanup close timeout
      call :: next.history rest

/-- Some call closed the resource. -/
def ClosedIn (calls : List CleanupCall) (resource : CleanupResource) : Prop :=
  ∃ call ∈ calls, resource ∈ call.attempts ∧ call.closes resource = none

/-- A call attempts what is open, and says what became of it. -/
structure CleanupCall.Truthful (call : CleanupCall)
    (earlier : List CleanupCall) : Prop where
  attempted : ∀ resource, resource ∈ call.attempts ↔
    resource ∈ call.registered ∧ ¬ClosedIn earlier resource
  once : call.attempts.Nodup
  fails : (∃ raised, call.outcome = .error raised ∧ raised.isFailed) ↔
    ∃ resource ∈ call.attempts, call.closes resource ≠ none
  only : ∀ raised, call.outcome = .error raised → raised.isFailed
  complete : ∀ report, call.outcome = .ok report →
    (report.isComplete ↔
      ∀ resource ∈ call.registered, ClosedIn (earlier ++ [call]) resource)

/-- Evidence about every failure that the call meets can be built. -/
def CleanupCall.Evident (call : CleanupCall) (earlier : List CleanupCall) :
    Prop :=
  ∀ resource ∈ call.registered, ¬ClosedIn earlier resource →
    ∀ failure, call.closes resource = some failure → failure.Evident

/-- No resource was closed before, or another one still fails. -/
def CleanupCall.Counted (call : CleanupCall) (earlier : List CleanupCall) :
    Prop :=
  (∀ resource ∈ call.registered, ¬ClosedIn earlier resource) ∨
    ∃ resource ∈ call.registered, ¬ClosedIn earlier resource ∧
      call.closes resource ≠ none

/-- The set of a coordinator holds what earlier calls closed. -/
def CleanupCoordinator.Follows (coordinator : CleanupCoordinator)
    (earlier : List CleanupCall) : Prop :=
  ∀ resource, resource ∈ coordinator.closed ↔ ClosedIn earlier resource

theorem ClosedIn.append {earlier : List CleanupCall} {call : CleanupCall}
    {resource : CleanupResource} :
    ClosedIn (earlier ++ [call]) resource ↔ ClosedIn earlier resource ∨
      (resource ∈ call.attempts ∧ call.closes resource = none) := by
  simp only [ClosedIn, List.mem_append, List.mem_singleton, or_and_right,
    exists_or, exists_eq_left]

section Calls

variable {coordinator : CleanupCoordinator} {earlier : List CleanupCall}
  {close : CleanupTimeout → CleanupResource → Option CloseFailure}
  {timeout : CleanupTimeout}

/-- After a call the set holds what the call closed as well. -/
theorem CleanupCoordinator.Follows.cleanup
    (follows : coordinator.Follows earlier) :
    (coordinator.cleanup close timeout).1.Follows
      (earlier ++ [(coordinator.cleanup close timeout).2]) := by
  obtain ⟨tried, attempts, closed⟩ := @CleanupPass.visitAll_closed
    (close timeout) coordinator.resources (.start coordinator.closed)
  intro resource
  rw [ClosedIn.append, ← follows resource]
  refine (closed resource).trans (or_congr_right ?_)
  have same : (coordinator.cleanup close timeout).2.attempts = tried :=
    attempts
  rw [same]
  rfl

theorem CleanupCoordinator.Follows.mem_open
    (follows : coordinator.Follows earlier) {resource : CleanupResource} :
    resource ∈ openResources coordinator.closed coordinator.resources ↔
      resource ∈ coordinator.resources ∧ ¬ClosedIn earlier resource := by
  rw [openResources, List.mem_filter, decide_eq_true_eq, follows resource]

/-- The report of a pass within bounds is built. -/
theorem CleanupPass.finish_eq {pass : CleanupPass}
    (attempted : pass.attempted ≤ maxCleanupResources)
    (closed : pass.closed ≤ maxCleanupResources)
    (alreadyClosed : pass.alreadyClosed ≤ maxCleanupResources) :
    pass.finish =
      match pass.firstFailure with
      | some failure => .error (.failed failure pass.notes)
      | none => .ok
          { attempted := pass.attempted
            closed := pass.closed
            alreadyClosed := pass.alreadyClosed
            unresolved := sortedBy unresolvedOrderKey pass.unresolved } := by
  rw [finish]
  have checked : CleanupReport.check
      { attempted := pass.attempted
        closed := pass.closed
        alreadyClosed := pass.alreadyClosed
        unresolved := sortedBy unresolvedOrderKey pass.unresolved } =
      .ok () := by
    simp only [CleanupReport.check, check_bind_eq_ok, require_eq_ok,
      decide_eq_true_eq, beq_iff_eq]
    exact ⟨attempted, closed, alreadyClosed, sortedBy_idem _ _⟩
  rw [checked]
  rfl

/-- The loop of a call: what it leaves, or what it raises. -/
theorem CleanupCoordinator.cleanup_cases
    (follows : coordinator.Follows earlier) :
    let call := (coordinator.cleanup close timeout).2
    (call.Evident earlier ∧
        call.attempts =
          openResources coordinator.closed coordinator.resources ∧
        ((∃ cause notes, call.outcome = .error (.failed cause notes) ∧
            ∃ resource ∈ call.attempts, call.closes resource ≠ none) ∨
          (∃ report, call.outcome = .ok report ∧
            (∀ resource ∈ call.attempts, call.closes resource = none) ∧
            (report.isComplete ↔ ∀ resource ∈ coordinator.resources,
              ¬ClosedIn earlier resource)))) ∨
      (¬call.Evident earlier ∧ ∃ raised, call.outcome = .error raised ∧
        raised.isFailed = false) := by
  intro call
  have evident : call.Evident earlier ↔ Evident (close timeout)
      (openResources coordinator.closed coordinator.resources) := by
    simp only [CleanupCall.Evident, Evident, follows.mem_open, and_imp]
    exact Iff.rfl
  rcases @CleanupPass.visitAll_completes (close timeout) _
      coordinator.distinct (.start coordinator.closed) with
    ⟨built, loop, completes⟩ | ⟨hidden, raised, loop, invalid⟩
  · left
    generalize visited : CleanupPass.visitAll (close timeout)
      coordinator.resources (.start coordinator.closed) = result
      at loop completes
    obtain ⟨pass, answer⟩ := result
    dsimp only at loop completes
    subst loop
    have attempts : call.attempts =
        openResources coordinator.closed coordinator.resources := by
      show (CleanupPass.visitAll _ _ _).1.attempts = _
      rw [visited]
      exact completes.attempts.trans (List.nil_append _)
    have outcome : call.outcome = pass.finish := by
      show (CleanupPass.visitAll _ _ _).2.bind (fun _ =>
        (CleanupPass.visitAll _ _ _).1.finish) = _
      rw [visited]
      rfl
    have opened : (openResources coordinator.closed
        coordinator.resources).length ≤ maxCleanupResources :=
      Nat.le_trans (List.length_filter_le _ _) coordinator.bounded
    have attempted : pass.attempted = (openResources coordinator.closed
        coordinator.resources).length :=
      completes.attempted.trans (Nat.zero_add _)
    have closed : pass.closed = (openResources coordinator.closed
        coordinator.resources).countP fun resource =>
          (close timeout resource).isNone :=
      completes.closed.trans (Nat.zero_add _)
    have alreadyClosed : pass.alreadyClosed = coordinator.resources.countP
        fun resource => resource ∈ coordinator.closed :=
      completes.alreadyClosed.trans (Nat.zero_add _)
    have finished := CleanupPass.finish_eq (attempted ▸ opened)
      (closed ▸ Nat.le_trans List.countP_le_length opened)
      (alreadyClosed ▸ Nat.le_trans List.countP_le_length coordinator.bounded)
    refine ⟨evident.mpr built, attempts, ?_⟩
    cases failure : pass.firstFailure with
    | some cause =>
        left
        rw [failure] at finished
        refine ⟨cause, pass.notes, outcome.trans finished, ?_⟩
        by_contra returned
        have none_ : pass.firstFailure = none := by
          refine completes.failure.mpr ⟨rfl, fun resource member => ?_⟩
          by_contra raises
          exact returned ⟨resource, attempts ▸ member, raises⟩
        rw [failure] at none_
        cases none_
    | none =>
        right
        rw [failure] at finished
        have returned := (completes.failure.mp failure).2
        refine ⟨_, outcome.trans finished, fun resource member =>
          returned resource (attempts ▸ member), ?_⟩
        have all : pass.closed = pass.attempted := by
          rw [closed, attempted, List.countP_eq_length]
          intro resource member
          rw [returned resource member]
          rfl
        -- With all attempts closed, the count of the others decides.
        rw [CleanupReport.isComplete, beq_iff_eq, all,
          Nat.left_eq_add, alreadyClosed, List.countP_eq_zero]
        simp only [decide_eq_true_eq, ← follows _]
  · right
    refine ⟨fun built => hidden (evident.mp built), raised, ?_, invalid⟩
    show (CleanupPass.visitAll _ _ _).2.bind _ = _
    rw [loop]
    rfl

/-- A call is truthful when its evidence and its count are right. -/
theorem CleanupCoordinator.cleanup_truthful_iff
    (follows : coordinator.Follows earlier) :
    (coordinator.cleanup close timeout).2.Truthful earlier ↔
      (coordinator.cleanup close timeout).2.Evident earlier ∧
        (coordinator.cleanup close timeout).2.Counted earlier := by
  have cases_ := @cleanup_cases coordinator earlier close timeout follows
  have registered : (coordinator.cleanup close timeout).2.registered =
      coordinator.resources := rfl
  generalize (coordinator.cleanup close timeout).2 = call at *
  rcases cases_ with ⟨evident, attempts, failed | returned⟩ |
    ⟨hidden, raised, outcome, invalid⟩
  · obtain ⟨cause, notes, outcome, resource, member, raises⟩ := failed
    have opened := follows.mem_open.mp (attempts ▸ member)
    refine ⟨fun _ => ⟨evident, .inr ⟨resource, registered ▸ opened.1, opened.2,
      raises⟩⟩, fun _ => ⟨?_, ?_, ?_, ?_, ?_⟩⟩
    · intro other
      rw [attempts, registered, follows.mem_open]
    · exact attempts ▸ coordinator.distinct.filter _
    · exact ⟨fun _ => ⟨resource, member, raises⟩,
        fun _ => ⟨_, outcome, rfl⟩⟩
    · intro raised also
      rw [outcome] at also
      cases also
      rfl
    · intro report also
      rw [outcome] at also
      cases also
  · obtain ⟨report, outcome, closed, complete⟩ := returned
    have every : ∀ resource ∈ coordinator.resources,
        ClosedIn (earlier ++ [call]) resource := by
      intro resource member
      rw [ClosedIn.append]
      by_cases before : ClosedIn earlier resource
      · exact .inl before
      · have tried : resource ∈ call.attempts :=
          attempts ▸ follows.mem_open.mpr ⟨member, before⟩
        exact .inr ⟨tried, closed resource tried⟩
    constructor
    · intro truthful
      refine ⟨evident, .inl ?_⟩
      rw [registered]
      exact complete.mp ((truthful.complete report outcome).mpr
        (registered ▸ every))
    · rintro ⟨_, fresh | ⟨resource, member, opened, raises⟩⟩
      · refine ⟨?_, ?_, ?_, ?_, ?_⟩
        · intro other
          rw [attempts, registered, follows.mem_open]
        · exact attempts ▸ coordinator.distinct.filter _
        · constructor
          · rintro ⟨raised, also, _⟩
            rw [outcome] at also
            cases also
          · rintro ⟨resource, member, raises⟩
            exact absurd (closed resource member) raises
        · intro raised also
          rw [outcome] at also
          cases also
        · intro other also
          rw [outcome] at also
          cases also
          exact ⟨fun _ => registered ▸ every,
            fun _ => complete.mpr (registered ▸ fresh)⟩
      · exact absurd (closed resource (attempts ▸ follows.mem_open.mpr
          ⟨registered ▸ member, opened⟩)) raises
  · refine ⟨fun truthful => ?_, fun ⟨evident, _⟩ => absurd evident hidden⟩
    have failed := truthful.only raised outcome
    rw [invalid] at failed
    cases failed

end Calls

/-! ## Runs -/

theorem CleanupCoordinator.register_closed
    {coordinator next : CleanupCoordinator} {resource : CleanupResource}
    (registered : coordinator.register resource = .ok next) :
    next.closed = coordinator.closed := by
  rw [register] at registered
  split at registered
  · cases registered
  · split at registered
    · cases registered
      rfl
    · cases registered

/-- Every call of a history follows a coordinator that its past led to. -/
theorem CleanupCoordinator.history_cleanup (steps : List CleanupStep)
    {coordinator : CleanupCoordinator} {past : List CleanupCall}
    (follows : coordinator.Follows past) {earlier later : List CleanupCall}
    {call : CleanupCall}
    (split_ : coordinator.history steps = earlier ++ call :: later) :
    ∃ (before : CleanupCoordinator) (close : _) (timeout : CleanupTimeout),
      before.Follows (past ++ earlier) ∧
        call = (before.cleanup close timeout).2 := by
  induction steps generalizing coordinator past earlier with
  | nil => simp [history] at split_
  | cons step rest ih =>
      cases step with
      | register resource =>
          rw [history] at split_
          cases registered : coordinator.register resource with
          | ok next =>
              rw [registered] at split_
              refine ih (fun other => ?_) split_
              rw [register_closed registered]
              exact follows other
          | error raised =>
              rw [registered] at split_
              exact ih follows split_
      | cleanup close timeout =>
          rw [history] at split_
          cases earlier with
          | nil =>
              rw [List.nil_append, List.cons.injEq] at split_
              refine ⟨coordinator, close, timeout, ?_, split_.1.symm⟩
              rw [List.append_nil]
              exact follows
          | cons first earlier =>
              rw [List.cons_append, List.cons.injEq] at split_
              have later_ := ih follows.cleanup split_.2
              rw [split_.1, List.append_assoc, List.singleton_append] at later_
              exact later_

/--
In every run of registrations and cleanup calls, a call attempts what is open,
raises and reports as it should exactly when no exception text is refused as
evidence and earlier calls closed nothing, or something still fails.
-/
theorem cleanup_truthful (steps : List CleanupStep)
    (earlier later : List CleanupCall) (call : CleanupCall)
    (ran : CleanupCoordinator.empty.history steps =
      earlier ++ call :: later) :
    call.Truthful earlier ↔ call.Evident earlier ∧ call.Counted earlier := by
  have initially : CleanupCoordinator.empty.Follows [] := by
    intro resource
    simp [CleanupCoordinator.empty, ClosedIn]
  obtain ⟨before, close, timeout, follows, rfl⟩ :=
    CleanupCoordinator.history_cleanup steps initially ran
  exact before.cleanup_truthful_iff follows

/-! ## Concrete runs -/

def workerPool : CleanupResource where
  kind := text "pool"
  name := text "workers"
  kindValid := by decide +kernel
  nameValid := by decide +kernel

def resultChannel : CleanupResource where
  kind := text "channel"
  name := text "results"
  kindValid := by decide +kernel
  nameValid := by decide +kernel

def oneSecond : CleanupTimeout := ⟨1, by decide +kernel⟩

/-- Only the worker pool fails, with some text. -/
def poolFails (message : String) (_ : CleanupTimeout)
    (resource : CleanupResource) : Option CloseFailure :=
  if resource = workerPool then some ⟨text message, text "RuntimeError"⟩
  else none

/-- Two resources and one call in which the pool fails. -/
def failingSteps (message : String) : List CleanupStep :=
  [.register workerPool, .register resultChannel,
    .cleanup (poolFails message) oneSecond]

/-- A single line of ASCII is evidence. -/
theorem cleanup_truthful_sample :
    ∃ call, CleanupCoordinator.empty.history (failingSteps "still busy") =
        [] ++ call :: [] ∧ call.Truthful [] := by
  refine ⟨_, rfl, (cleanup_truthful (failingSteps "still busy") [] [] _
    rfl).mpr ⟨?_, .inl ?_⟩⟩
  · intro resource _ _ failure raises
    obtain ⟨_, same⟩ := Option.ite_none_right_eq_some.mp raises
    cases same
    exact .inr (by decide)
  · rintro resource _ ⟨call, member, _⟩
    cases member

/--
A text of two lines ends the call before the second resource, and after a
clean call the next report is incomplete.
-/
theorem cleanup_untruthful :
    (∃ call, CleanupCoordinator.empty.history
        (failingSteps "still busy\nretry later") = [call] ∧
      ¬call.Truthful []) ∧
    ∃ first second, CleanupCoordinator.empty.history
        [.register workerPool, .cleanup (fun _ _ => none) oneSecond,
          .cleanup (fun _ _ => none) oneSecond] = [first, second] ∧
      ¬second.Truthful [first] := by
  refine ⟨⟨_, rfl, fun truthful => ?_⟩, _, _, rfl, fun truthful => ?_⟩
  · have untouched : resultChannel ∉ (CleanupCoordinator.empty.history
        (failingSteps "still busy\nretry later")).flatMap
          CleanupCall.attempts := by
      decide
    refine untouched (List.mem_flatMap.mpr ⟨_, List.mem_cons_self, ?_⟩)
    refine (truthful.attempted _).mpr ⟨by decide, ?_⟩
    rintro ⟨call, member, _⟩
    cases member
  · have complete := (truthful.complete _ rfl).mpr fun resource member =>
      ⟨_, List.mem_cons_self, member, rfl⟩
    exact absurd complete (by decide)

end ParityGrid.Application
