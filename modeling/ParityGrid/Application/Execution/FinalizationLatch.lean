import ParityGrid.Application.Execution.RunFinalizer
import ParityGrid.Application.Ports.FlatDocuments

/-!
# The uncertainty latch

A call that ends over a command of unknown fate latches its finalizer, and a
latched finalizer refuses.  One exit lies outside the latch: the one at which
the ticket does not show its identity.
-/

namespace ParityGrid.Application

open ParityGrid.Foundation
open ParityGrid.Adapters.Persistence (isPortableIdentity)
open ParityGrid.Domain (NodeId RunId StateFingerprint)

section Latch

variable [CasefoldRuntime]

/-! ## Answers -/

/-- The submission returned, or raised something else than an admission error. -/
def CommandAnswer.mayBeAdmitted (answer : CommandAnswer) : Bool :=
  match answer.submit with
  | .admissionTimeout => false
  | .writerError => false
  | _ => true

/-- The ticket said that the command was not executed. -/
def CommandAnswer.provenUnexecuted (answer : CommandAnswer) : Bool :=
  match answer.submit, answer.identity, answer.result with
  | .ticket, .identity _, .notExecuted => true
  | _, _, _ => false

/--
A ticket shows its identity, and no `BaseException` comes out of reading the
identity or the receipt.
-/
def CommandAnswer.inspectable (answer : CommandAnswer) : Bool :=
  match answer.submit, answer.identity, answer.result with
  | .ticket, .identity _, .receipt .interrupting => false
  | .ticket, .identity _, _ => true
  | .ticket, _, _ => false
  | _, _, _ => true

variable {σ : Type}

/-- The last command is resolved, or the finalizer is latched. -/
def FinalizerState.Settled (state : FinalizerState σ) : Prop :=
  ∀ answer, state.answers.getLast? = some answer →
    answer.mayBeAdmitted = true → answer.provenUnexecuted = false →
    answer.inspectable = true → state.uncertain = true

/-- Nothing but the world has changed. -/
def FinalizerState.Framed (state after : FinalizerState σ) : Prop :=
  after.answers = state.answers ∧ after.uncertain = state.uncertain

variable {world : FinalizationWorld σ} {state : FinalizerState σ}

theorem FinalizerState.Framed.refl (state : FinalizerState σ) :
    state.Framed state :=
  ⟨rfl, rfl⟩

theorem FinalizerState.Framed.trans {state middle after : FinalizerState σ}
    (first : state.Framed middle) (second : middle.Framed after) :
    state.Framed after :=
  ⟨second.1.trans first.1, second.2.trans first.2⟩

theorem FinalizerState.Settled.framed {after : FinalizerState σ}
    (settled : state.Settled) (framed : state.Framed after) :
    after.Settled := by
  intro answer last
  rw [framed.1] at last
  rw [framed.2]
  exact settled answer last

/-- A latched finalizer is settled, whatever it has been answered. -/
theorem FinalizerState.settled_of_uncertain
    (latched : state.uncertain = true) : state.Settled :=
  fun _ _ _ _ _ => latched

theorem ends_askWorld {α : Type} {ask : σ → α × σ}
    {returned : α → FinalizerState σ → Prop}
    {raised : FinalizeError → FinalizerState σ → Prop} :
    Method.Ends (askWorld ask : Finalizing σ α) state returned raised ↔
      returned (ask state.world).1
        { state with world := (ask state.world).2 } :=
  Iff.rfl

/-! ## Before the first command -/

/-- A method before the first command, which changes nothing but the world. -/
def Quiet {α : Type} (method : Finalizing σ α) : Prop :=
  ∀ state, method.Ends state (fun _ after => state.Framed after)
    fun _ after => state.Framed after

theorem Quiet.check {α : Type} (result : Except FinalizeError α) :
    Quiet (Method.check result : Finalizing σ α) := by
  intro state
  rw [Method.ends_check]
  exact ⟨fun _ _ => .refl state, fun _ _ => .refl state⟩

theorem Quiet.throw {α : Type} (error : FinalizeError) :
    Quiet (throw error : Finalizing σ α) :=
  fun state => .refl state

theorem Quiet.pure {α : Type} (value : α) :
    Quiet (pure value : Finalizing σ α) :=
  fun state => .refl state

theorem Quiet.ask {α : Type} (ask : σ → α × σ) :
    Quiet (askWorld ask : Finalizing σ α) :=
  fun _ => ends_askWorld.mpr ⟨rfl, rfl⟩

theorem Quiet.bind {α β : Type} {method : Finalizing σ α}
    {next : α → Finalizing σ β} (first : Quiet method)
    (rest : ∀ value, Quiet (next value)) : Quiet (method >>= next) := by
  intro state
  refine (first state).bind fun value middle framed => ?_
  exact (rest value middle).weaken (fun _ _ after => framed.trans after)
    fun _ _ after => framed.trans after

theorem Quiet.analyticsProjection (evidence : FinalizationEvidence) :
    Quiet (analyticsProjection world evidence) := by
  refine .bind (.check _) fun _ => .bind (.check _) fun _ => ?_
  refine .bind (.ask _) fun answer => ?_
  cases answer with
  | summary summary => exact .pure _
  | failed => exact .throw _
  | interrupted => exact .throw _

theorem Quiet.finalizationTime (run : RunRecord) :
    Quiet (finalizationTime world run) := by
  refine .bind (.ask _) fun answer => ?_
  cases answer with
  | time now => exact .bind (.check _) fun _ => .pure _
  | failed => exact .throw _
  | invalid => exact .throw _
  | interrupted => exact .throw _

theorem Quiet.readFrontierEvidence (runId : RunId) :
    Quiet (readFrontierEvidence world runId) := by
  refine .bind (.ask _) fun answer => ?_
  cases answer with
  | evidence evidence => exact .pure _
  | corrupt => exact .throw _
  | failed => exact .throw _
  | invalid => exact .throw _
  | interrupted => exact .throw _

theorem Quiet.replaySuccess (evidence : FinalizationEvidence)
    (planFingerprint : PlanFingerprint) (outcome : FinalizationOutcome) :
    Quiet (replaySuccess world evidence planFingerprint outcome) := by
  unfold ParityGrid.Application.replaySuccess
  cases evidence.run.executionEvidenceFingerprint with
  | none => exact .throw _
  | some stored =>
      refine .bind (.check _) fun _ => .bind (.check _) fun _ => ?_
      refine .bind (.check _) fun _ => ?_
      refine .bind (.analyticsProjection evidence) fun _ => ?_
      exact .bind (.check _) fun _ => .bind (.check _) fun _ => .pure _

/-- A quiet beginning of a method. -/
theorem Quiet.ends_bind {α β : Type} {method : Finalizing σ α}
    {next : α → Finalizing σ β} {returned : β → FinalizerState σ → Prop}
    {raised : FinalizeError → FinalizerState σ → Prop} (quiet : Quiet method)
    (raises : ∀ error after, state.Framed after → raised error after)
    (rest : ∀ value middle, state.Framed middle →
      (next value).Ends middle returned raised) :
    (method >>= next).Ends state returned raised :=
  ((quiet state).weaken (fun _ _ framed => framed) raises).bind rest

/-- What a call knows before its first command includes the projection. -/
theorem ends_planFinalization (state : FinalizerState σ)
    (evidence : FinalizationEvidence) (planFingerprint : PlanFingerprint)
    (correlation : Option Text) :
    (planFinalization world evidence planFingerprint correlation).Ends state
      (fun plan after => state.Framed after ∧
        projectEmptyNodes correlation plan.transitionedAt evidence.emptyNodes
          evidence.run.rowVersion evidence = .ok plan.projected)
      fun _ after => state.Framed after := by
  have early : ∀ {error : FinalizeError} {result : Except FinalizeError Unit},
      result = .error error → state.Framed state := fun _ => .refl state
  unfold planFinalization
  refine Method.ends_check_bind.mpr ⟨fun _ _ => ?_, fun _ => early⟩
  refine Method.ends_check_bind.mpr ⟨fun _ _ => ?_, fun _ => early⟩
  refine Method.ends_check_bind.mpr ⟨fun _ _ => ?_, fun _ => early⟩
  refine Method.ends_check_bind.mpr ⟨fun _ _ => ?_, fun _ => early⟩
  refine (Quiet.finalizationTime evidence.run).ends_bind (fun _ _ => id)
    fun transitionedAt timed framed => ?_
  refine Method.ends_check_bind.mpr ⟨fun projected same => ?_,
    fun _ _ => framed⟩
  refine Method.ends_check_bind.mpr ⟨fun _ _ => ?_, fun _ _ => framed⟩
  refine (Quiet.analyticsProjection projected).ends_bind
    (fun _ _ => framed.trans) fun analysed middle next => ?_
  have framed := framed.trans next
  refine Method.ends_check_bind.mpr ⟨fun _ _ => ?_, fun _ _ => framed⟩
  refine Method.ends_check_bind.mpr ⟨fun _ _ => ?_, fun _ _ => framed⟩
  exact ⟨framed, same⟩

/-! ## Commands -/

/-- A settled end of a submission that raised. -/
theorem settled_of_last {answer : CommandAnswer} {answers : List CommandAnswer}
    (settled : answer.mayBeAdmitted = true → answer.provenUnexecuted = false →
      answer.inspectable = true → state.uncertain = true)
    (last : state.answers = answers ++ [answer]) : state.Settled := by
  intro other isLast
  rw [last, List.getLast?_concat] at isLast
  cases isLast
  exact settled

theorem ends_submitCommand (command : FinalizationCommand) :
    (submitCommand world command).Ends state
      (fun answer after => answer.submit = .ticket ∧
        after.uncertain = state.uncertain ∧
        after.answers = state.answers ++ [answer])
      fun _ after => after.Settled := by
  unfold submitCommand
  rw [Method.ends_bind, ends_askWorld, Method.ends_bind, Method.ends_modify]
  generalize (world.execute state.world command).1 = answer
  cases submitted : answer.submit with
  | ticket => exact ⟨submitted, rfl, rfl⟩
  | admissionTimeout =>
      refine settled_of_last (fun admitted => ?_) rfl
      simp [CommandAnswer.mayBeAdmitted, submitted] at admitted
  | writerError =>
      refine settled_of_last (fun admitted => ?_) rfl
      simp [CommandAnswer.mayBeAdmitted, submitted] at admitted
  | nothing => exact FinalizerState.settled_of_uncertain rfl
  | raised => exact FinalizerState.settled_of_uncertain rfl
  | interrupted => exact FinalizerState.settled_of_uncertain rfl

/-- A ticket up to its receipt. -/
theorem ends_ticket {α : Type} {answer : CommandAnswer}
    {answers : List CommandAnswer} {next : Int → ReceiptAnswer → Finalizing σ α}
    {returned : α → FinalizerState σ → Prop}
    (submitted : answer.submit = .ticket)
    (last : state.answers = answers ++ [answer])
    (rest : ∀ number receipt, answer.identity = .identity number →
      answer.result = .receipt receipt →
      (next number receipt).Ends state returned fun _ after => after.Settled) :
    (ticketIdentity answer >>= fun number =>
        awaitResult answer >>= next number).Ends state returned
      fun _ after => after.Settled := by
  rw [Method.ends_bind, ticketIdentity]
  cases shown : answer.identity with
  | invalid =>
      refine settled_of_last (fun _ _ inspectable => ?_) last
      simp [CommandAnswer.inspectable, submitted, shown] at inspectable
  | interrupted =>
      refine settled_of_last (fun _ _ inspectable => ?_) last
      simp [CommandAnswer.inspectable, submitted, shown] at inspectable
  | identity number =>
      show (awaitResult answer >>= next number).Ends state returned _
      rw [Method.ends_bind, awaitResult]
      cases resulted : answer.result with
      | receipt receipt => exact rest number receipt shown resulted
      | notExecuted =>
          refine settled_of_last (fun _ unproven => ?_) last
          simp [CommandAnswer.provenUnexecuted, submitted, shown, resulted]
            at unproven
      | raised => exact FinalizerState.settled_of_uncertain rfl
      | interrupted => exact FinalizerState.settled_of_uncertain rfl

/-- The inspection of a receipt fails to verify it and raises nothing else. -/
def ReceiptError.IsVerification (error : ReceiptError) : Prop :=
  ∃ message, error = .verification message

omit [CasefoldRuntime] in
theorem isVerification (message : String) :
    (ReceiptError.verification message).IsVerification :=
  ⟨message, rfl⟩

theorem validateReceipt_raises (receipt : WriterReceipt) (submissionId : Int)
    (command : TransitionRun) (previous : RunRecord) :
    RaisesOnly ReceiptError.IsVerification
      (validateReceipt (.receipt receipt) submissionId command previous) := by
  cases result : receipt.result with
  | transition run events =>
      simp only [validateReceipt, result]
      refine .bind (.require (isVerification _)) fun _ _ => ?_
      exact .bind (.require (isVerification _)) fun _ _ => .ok _
  | emptyNode node events =>
      simp only [validateReceipt, result]
      exact .error (isVerification _)
  | other =>
      simp only [validateReceipt, result]
      exact .error (isVerification _)

theorem validateEmptyReceipt_raises (receipt : WriterReceipt)
    (submissionId : Int) (command : FinalizeEmptyRunNode) :
    RaisesOnly ReceiptError.IsVerification
      (validateEmptyReceipt (.receipt receipt) submissionId command) := by
  cases result : receipt.result with
  | emptyNode node events =>
      simp only [validateEmptyReceipt, result]
      refine .bind (.require (isVerification _)) fun _ _ => ?_
      refine .bind (.require (isVerification _)) fun _ _ => ?_
      exact .bind (.require (isVerification _)) fun _ _ => .ok _
  | transition run events =>
      simp only [validateEmptyReceipt, result]
      exact .error (isVerification _)
  | other =>
      simp only [validateEmptyReceipt, result]
      exact .error (isVerification _)

theorem validateEmptyReceipt_eq_ok {answer : ReceiptAnswer}
    {submissionId : Int} {command : FinalizeEmptyRunNode}
    {validated : RunNodeRecord × ExecutionEventBatch}
    (valid : validateEmptyReceipt answer submissionId command =
      .ok validated) :
    validated = (expectedEmptyNode command,
      expectedEvents command.runId command.event) := by
  unfold validateEmptyReceipt at valid
  split at valid
  next => cases valid
  next => cases valid
  next => cases valid
  next receipt =>
    split at valid
    next node events _ =>
      simp only [check_bind_eq_ok, require_eq_ok, beq_iff_eq] at valid
      rcases valid with ⟨_, rfl, rfl, made⟩
      exact (Except.ok.inj made).symm
    next => cases valid

theorem ends_executeTransition (command : TransitionRun)
    (previous : RunRecord) :
    (executeTransition world command previous).Ends state (fun _ _ => True)
      fun _ after => after.Settled := by
  refine (ends_submitCommand _).bind fun answer after answered => ?_
  rcases answered with ⟨submitted, _, last⟩
  refine ends_ticket submitted last fun number receipt shown resulted => ?_
  cases validated : validateReceipt receipt number command previous with
  | ok pair => trivial
  | error error =>
      cases error with
      | verification message => exact FinalizerState.settled_of_uncertain rfl
      | malformed => exact FinalizerState.settled_of_uncertain rfl
      | interrupted =>
          refine settled_of_last (fun _ _ inspectable => ?_) last
          cases receipt with
          | foreign => cases validated
          | malformed => cases validated
          | interrupting =>
              simp [CommandAnswer.inspectable, submitted, shown, resulted]
                at inspectable
          | receipt receipt =>
              rcases validateReceipt_raises receipt number command previous _
                validated with ⟨_, impossible⟩
              cases impossible

theorem ends_executeEmpty (command : FinalizeEmptyRunNode) :
    (executeEmpty world command).Ends state
      (fun committed _ => committed.1 = expectedEmptyNode command ∧
        committed.2.1 = expectedEvents command.runId command.event)
      fun _ after => after.Settled := by
  refine (ends_submitCommand _).bind fun answer after answered => ?_
  rcases answered with ⟨submitted, _, last⟩
  refine ends_ticket submitted last fun number receipt shown resulted => ?_
  cases validated : validateEmptyReceipt receipt number command with
  | ok pair =>
      cases validateEmptyReceipt_eq_ok validated
      exact ⟨rfl, rfl⟩
  | error error =>
      cases error with
      | verification message => exact FinalizerState.settled_of_uncertain rfl
      | malformed => exact FinalizerState.settled_of_uncertain rfl
      | interrupted =>
          refine settled_of_last (fun _ _ inspectable => ?_) last
          cases receipt with
          | foreign => cases validated
          | malformed => cases validated
          | interrupting =>
              simp [CommandAnswer.inspectable, submitted, shown, resulted]
                at inspectable
          | receipt receipt =>
              rcases validateEmptyReceipt_raises receipt number command _
                validated with ⟨_, impossible⟩
              cases impossible

/-! ## The committing part -/

/-- Every empty node is committed as it was projected. -/
theorem ends_finalizeEmptyNodes {correlation : Option Text}
    {transitionedAt : Instant} {nodes : List RunNodeRecord}
    {runRowVersion : Int} {evidence projected : FinalizationEvidence}
    {submissionIds : List Int}
    (projects : projectEmptyNodes correlation transitionedAt nodes
      runRowVersion evidence = .ok projected) :
    (finalizeEmptyNodes world correlation transitionedAt nodes runRowVersion
        evidence submissionIds).Ends state
      (fun committed _ => committed.1 = projected)
      fun _ after => after.Settled := by
  induction nodes generalizing runRowVersion evidence submissionIds state with
  | nil => exact Except.ok.inj projects
  | cons node rest ih =>
      rcases bind_eq_ok.mp projects with ⟨command, made, projects⟩
      rcases bind_eq_ok.mp projects with ⟨advanced, advances, projects⟩
      rw [finalizeEmptyNodes, made]
      show (executeEmpty world command >>= _).Ends state _ _
      refine (ends_executeEmpty command).bind fun committed after matched => ?_
      rcases committed with ⟨record, events, submissionId⟩
      rcases matched with ⟨rfl, rfl⟩
      have batch : ((expectedEvents command.runId command.event).nextSequence =
            evidence.nextEventSequence + 1) ∧
          (expectedEvents command.runId command.event).counterRowVersion =
            evidence.eventCounterRowVersion + 1 := by
        rcases bind_eq_ok.mp made with ⟨payload, _, made⟩
        cases made
        exact ⟨rfl, rfl⟩
      dsimp only
      rw [batch.1, batch.2, advances]
      exact ih projects

/-- The payload of a transition freezes into a redacted document. -/
theorem transitionPayload_frozen (previous target : Domain.RunState)
    (fingerprint : Option StateFingerprint) :
    Returns (RedactedDocument.fromMapping
      (transitionPayload previous target fingerprint)) := by
  have keys : ∀ key ∈ ["final_fingerprint", "from_state", "to_state"].map text,
      (key.all isAscii = true ∧ key.length ≤ maxDocumentKeyLength) ∧
        isHarmlessKey key := by
    decide +kernel
  have flatState : ∀ (key : Text) (state : Domain.RunState),
      key.all isAscii = true → key.length ≤ maxDocumentKeyLength →
        isFlatField (key, .string (text state.value)) = true := by
    intro key state ascii length
    refine isFlatField_ascii ascii length ?_ ?_
    · cases state <;> decide
    · cases state <;> decide
  have key : ∀ item ∈ transitionPayload previous target fingerprint,
      item.1 ∈ ["final_fingerprint", "from_state", "to_state"].map text :=
    fun item member => List.mem_map_of_mem member
  apply RedactedDocument.fromMapping_flat
  · show (["final_fingerprint", "from_state", "to_state"].map text).Nodup
    decide
  · simp only [transitionPayload, List.forall_mem_cons]
    refine ⟨?_, flatState _ _ (by decide) (by decide),
      flatState _ _ (by decide) (by decide), by simp⟩
    cases fingerprint with
    | none =>
        have named : isFlatField (text "final_fingerprint", .string []) = true :=
          isFlatField_ascii (by decide) (by decide) rfl (by decide)
        exact Bool.and_eq_true_iff.mpr ⟨(Bool.and_eq_true_iff.mp named).1, rfl⟩
    | some fingerprint =>
        have sha := fingerprint.isSha256Text
        refine isFlatField_ascii (by decide) (by decide)
          (Domain.isSha256Text_ascii sha) ?_
        simp only [Domain.isSha256Text, Bool.and_eq_true, beq_iff_eq] at sha
        rw [sha.1]
        decide
  · show 3 ≤ maxDocumentEntries
    decide
  · intro item member
    exact isSensitiveKey_harmless (keys item.1 (key item member)).2

theorem transitionCommand_returns (evidence : FinalizationEvidence)
    (target : Domain.RunState) (transitionedAt : Instant)
    (fingerprint : Option StateFingerprint) (correlationId : Option Text) :
    Returns (transitionCommand evidence target transitionedAt fingerprint
      correlationId) := by
  rcases transitionPayload_frozen evidence.run.state target fingerprint with
    ⟨payload, frozen⟩
  rw [transitionCommand, eventPayload, frozen]
  exact ⟨_, rfl⟩

theorem ends_commitFinalization {evidence : FinalizationEvidence}
    {plan : FinalizationPlan} {correlation : Option Text}
    (projects : projectEmptyNodes correlation plan.transitionedAt
      evidence.emptyNodes evidence.run.rowVersion evidence =
        .ok plan.projected) :
    (commitFinalization world evidence plan correlation).Ends state
      (fun _ _ => True) fun _ after => after.Settled := by
  unfold commitFinalization
  refine (ends_finalizeEmptyNodes projects).bind fun committed middle same => ?_
  rcases committed with ⟨advanced, submissionIds⟩
  cases same
  dsimp only
  rw [if_neg (not_not_intro rfl)]
  rcases transitionCommand_returns plan.projected plan.outcome.targetState
    plan.transitionedAt plan.fingerprint correlation with ⟨command, made⟩
  rw [made]
  show (executeTransition world command _ >>= _).Ends middle _ _
  exact (ends_executeTransition command _).bind fun _ _ _ => trivial

/-- A call that ends with an error ends settled. -/
theorem ends_finalizeEvidence (request : FinalizeRequest)
    (evidence : FinalizationEvidence) (settled : state.Settled) :
    (finalizeEvidence world request evidence).Ends state (fun _ _ => True)
      fun _ after => after.Settled := by
  have quiet : ∀ {method : Finalizing σ FinalizationReport}, Quiet method →
      method.Ends state (fun _ _ => True) fun _ after => after.Settled :=
    fun quiet => (quiet state).weaken (fun _ _ _ => trivial)
      fun _ _ framed => settled.framed framed
  unfold finalizeEvidence
  cases evidence.run.state with
  | queued => exact quiet (.throw _)
  | running =>
      refine ((ends_planFinalization state evidence request.planFingerprint
        request.correlationId).weaken (fun _ _ planned => planned)
        fun _ _ framed => settled.framed framed).bind ?_
      exact fun plan middle planned => ends_commitFinalization planned.2
  | pausing => exact quiet (.throw _)
  | paused => exact quiet (.throw _)
  | resuming => exact quiet (.throw _)
  | succeeded => exact quiet (.replaySuccess _ _ _)
  | partiallySucceeded => exact quiet (.replaySuccess _ _ _)
  | failed => exact quiet (.check _)
  | cancelling => exact quiet (.throw _)
  | cancelled => exact quiet (.check _)

theorem ends_finalize (world : FinalizationWorld σ) (request : FinalizeRequest)
    (overlaps : Bool) (settled : state.Settled) :
    (finalize world request overlaps).Ends state (fun _ _ => True)
      fun _ after => after.Settled := by
  unfold finalize
  refine Method.ends_check_bind.mpr ⟨fun _ _ => ?_, fun _ _ => settled⟩
  refine Method.ends_check_bind.mpr ⟨fun _ _ => ?_, fun _ _ => settled⟩
  rw [Method.ends_bind, Method.ends_get]
  refine Method.ends_check_bind.mpr ⟨fun _ _ => ?_, fun _ _ => settled⟩
  refine (Quiet.readFrontierEvidence request.runId).ends_bind
    (fun _ _ framed => settled.framed framed) fun evidence middle framed => ?_
  refine Method.ends_check_bind.mpr ⟨fun _ _ => ?_,
    fun _ _ => settled.framed framed⟩
  exact ends_finalizeEvidence request evidence (settled.framed framed)

/-- A latched finalizer refuses and does nothing. -/
theorem ends_finalize_latched (world : FinalizationWorld σ)
    (request : FinalizeRequest) (overlaps : Bool)
    (latched : state.uncertain = true) :
    (finalize world request overlaps).Ends state (fun _ _ => False)
      fun error after => after = state ∧
        (request.validate = .ok () → overlaps = false →
          error = .outcomeUnknown
            "finalization requires durable recovery inspection") := by
  unfold finalize
  refine Method.ends_check_bind.mpr ⟨fun _ _ => ?_, fun error raised => ?_⟩
  swap
  · exact ⟨rfl, fun valid => by rw [valid] at raised; cases raised⟩
  refine Method.ends_check_bind.mpr ⟨fun _ _ => ?_, fun error raised => ?_⟩
  swap
  · exact ⟨rfl, fun _ free => by rw [free] at raised; cases raised⟩
  rw [Method.ends_bind, Method.ends_get, latched]
  exact ⟨rfl, fun _ _ => rfl⟩

/-! ## Sequences of calls -/

/-- One call; `overlaps` says that another one holds the operation lock. -/
structure FinalizeCall where
  request : FinalizeRequest
  overlaps : Bool

/-- How one call ended, and what its commands were answered. -/
structure FinalizeResult where
  call : FinalizeCall
  outcome : Except FinalizeError FinalizationReport
  answers : List CommandAnswer

/-- The calls of one finalizer, one after the other. -/
def finalizeCalls (world : FinalizationWorld σ) :
    List FinalizeCall → Bool → σ → List FinalizeResult
  | [], _, _ => []
  | call :: rest, uncertain, state =>
      let ended := (finalize world call.request call.overlaps).call
        ⟨uncertain, [], state⟩
      ⟨call, ended.1, ended.2.answers⟩ ::
        finalizeCalls world rest ended.2.uncertain ended.2.world

/--
The call ended with an error after a command that may have been admitted and is
not proven unexecuted.
-/
def FinalizeResult.Uncertain (result : FinalizeResult) : Prop :=
  (∃ error, result.outcome = .error error) ∧
    ∃ answer, result.answers.getLast? = some answer ∧
      answer.mayBeAdmitted = true ∧ answer.provenUnexecuted = false

/-- The last command of the call could be inspected. -/
def FinalizeResult.Inspectable (result : FinalizeResult) : Prop :=
  ∀ answer, result.answers.getLast? = some answer → answer.inspectable = true

/--
The call submitted no command; when its arguments are accepted and it gets the
lock, it raised the outcome-unknown error.
-/
def FinalizeResult.Refuses (result : FinalizeResult) : Prop :=
  result.answers = [] ∧
    (result.call.request.validate = .ok () → result.call.overlaps = false →
      result.outcome = .error (.outcomeUnknown
        "finalization requires durable recovery inspection"))

theorem finalizeCalls_latched (calls : List FinalizeCall) (state : σ) :
    ∀ result ∈ finalizeCalls world calls true state, result.Refuses := by
  induction calls generalizing state with
  | nil => simp [finalizeCalls]
  | cons call rest ih =>
      have latched : (⟨true, [], state⟩ : FinalizerState σ).uncertain = true :=
        rfl
      have ends := ends_finalize_latched world call.request call.overlaps latched
      unfold finalizeCalls
      rcases called : (finalize world call.request call.overlaps).call
        ⟨true, [], state⟩ with ⟨outcome, after⟩
      cases outcome with
      | ok report => exact (ends.of_ok called).elim
      | error error =>
          rcases ends.of_error called with ⟨rfl, refused⟩
          rw [List.forall_mem_cons]
          refine ⟨⟨rfl, fun valid free => ?_⟩, ih state⟩
          exact congrArg Except.error (refused valid free)

/-- After a call over a command of unknown fate, every later one refuses. -/
theorem finalizeCalls_latch (world : FinalizationWorld σ)
    (calls : List FinalizeCall) (uncertain : Bool) (state : σ) :
    (finalizeCalls world calls uncertain state).Pairwise fun earlier later =>
      earlier.Uncertain → earlier.Inspectable → later.Refuses := by
  induction calls generalizing uncertain state with
  | nil => exact .nil
  | cons call rest ih =>
      unfold finalizeCalls
      rcases called : (finalize world call.request call.overlaps).call
        ⟨uncertain, [], state⟩ with ⟨outcome, after⟩
      refine List.pairwise_cons.mpr ⟨?_, ih _ _⟩
      rintro later member ⟨⟨error, raised⟩, answer, last, admitted, unproven⟩
        inspectable
      have start : (⟨uncertain, [], state⟩ : FinalizerState σ).Settled := by
        intro answer last
        cases last
      have ended := ends_finalize world call.request call.overlaps start
      cases raised
      have latched := ended.of_error called answer last admitted unproven
        (inspectable answer last)
      rw [latched] at member
      exact finalizeCalls_latched rest after.world later member

end Latch

/-! ## A ticket without an identity -/

section Samples

attribute [local instance] asciiCasefoldRuntime

/-- One failed item of work, on its only node. -/
def failedEvidence : FinalizationEvidence where
  run := finalizedRun sampleRunIds.1 (text "threaded") 1000
  nextEventSequence := 9
  eventCounterRowVersion := 9
  nodes :=
    [{ finalizedNode sampleRunIds.1 sampleNodeIds.1 0 sampleDurations.1 with
      status := .failed, workSucceeded := 0, workFailed := 1 }]
  work :=
    [{ finalizedWork sampleWorkIds.1 sampleRunIds.1 sampleNodeIds.1 1 1000 with
      state := .failed, expectedCheckpointVersion := 0 }]
  attempts :=
    [finalizedAttempt sampleWorkIds.1 sampleNumbers.1 .failed sampleDurations.1]
  checkpointVersions := [(sampleWorkIds.1, 0)]

def failedSummary : RunStatisticsSummary :=
  { sampleSummary sampleRunIds.1 1 0 5 with
    nodeCount := 1, workTotal := 1, workSucceeded := 0, workFailed := 1
    recordsRead := 10, recordsWritten := 9, recordsQuarantined := 1
    bytesRead := 640, bytesWritten := 600 }

/-- A writer whose tickets show no `WriterSubmissionId`. -/
def namelessWorld : FinalizationWorld Unit where
  read _ _ := (.evidence failedEvidence, ())
  now _ := (.time 2000, ())
  analyse _ _ := (.summary failedSummary, ())
  execute _ _ := (⟨.ticket, .invalid, .receipt .foreign⟩, ())

def failedCall : FinalizeCall where
  request :=
    { runId := sampleRunIds.1
      planNodes := [sampleNodeIds.1]
      planFingerprint := samplePlanFingerprint
      correlationId := none }
  overlaps := false

/-- The second call submits the terminal transition once more. -/
theorem nameless_ticket_resubmits :
    ∃ earlier later,
      finalizeCalls namelessWorld [failedCall, failedCall] false () =
        [earlier, later] ∧ earlier.Uncertain ∧ ¬ later.Refuses := by
  refine ⟨_, _, rfl, ⟨⟨.protocol "finalization ticket identity is invalid", ?_⟩,
    ⟨.ticket, .invalid, .receipt .foreign⟩, ?_, rfl, rfl⟩, ?_⟩
  · decide +kernel
  · decide +kernel
  · intro refuses
    exact absurd refuses.1 (by decide +kernel)

end Samples

end ParityGrid.Application
