import ParityGrid.Application.Services.Idempotency

/-!
# Runs of one idempotent command

Every reservation a call holds is among the owners that the registry admitted,
each one from the expired lease of the one before.  The stored response is one
text; what any call returns as a terminal outcome is written by that text.
-/

namespace ParityGrid.Application.Services

open ParityGrid.Foundation ParityGrid.Adapters.Persistence

/-! ## Responses as JSON -/

theorem response_keys :
    text "body" ≤ text "media_type" ∧ text "media_type" ≤ text "status_code" ∧
      ¬ text "status_code" ≤ text "media_type" ∧
      ¬ text "media_type" ≤ text "body" ∧
      ¬ text "status_code" ≤ text "body" := by
  decide

/-- The mapping of a response, in key order. -/
theorem responseMapping_sorted (outcome : CommandOutcome) :
    (JsonValue.object (responseMapping outcome)).sortKeys =
      .object [
        (text "body", (JsonValue.object outcome.body).sortKeys),
        (text "media_type", .string outcome.mediaType),
        (text "status_code", .scalar (.int outcome.statusCode))] := by
  simp [responseMapping, JsonValue.sortKeys, JsonValue.sortFields,
    Foundation.fieldLe, response_keys]

/-- Two outcomes with the same status, media type and body, as JSON values. -/
structure SameOutcome (left right : CommandOutcome) : Prop where
  statusCode : left.statusCode = right.statusCode
  mediaType : (JsonValue.string left.mediaType).Same (.string right.mediaType)
  body : (JsonValue.object left.body).Same (.object right.body)

/-- A key that reads like a literal is that literal. -/
theorem key_of_unitText {key literal : Text} (plain : literal.all isAscii)
    (equal : unitText literal = unitText key) : key = literal :=
  utf16_ascii plain (unitText_inj.mp equal.symm)

/-- What a document must be whose text some outcome wrote. -/
theorem response_form {document : JsonValue} {outcome : CommandOutcome}
    (ordered : document.sortKeys = document)
    (same : (JsonValue.object (responseMapping outcome)).Same document) :
    ∃ body mediaType, document = .object [
      (text "body", .object body), (text "media_type", .string mediaType),
      (text "status_code", .scalar (.int outcome.statusCode))] := by
  rw [JsonValue.Same, responseMapping_sorted, ordered] at same
  match document with
  | .object [(bodyKey, body), (mediaKey, media), (statusKey, status)] =>
      simp only [JsonValue.units, JsonValue.unitsFields, JsonValue.object.injEq,
        List.cons.injEq, Prod.mk.injEq, and_true] at same
      obtain ⟨⟨bodyName, bodies⟩, ⟨mediaName, medias⟩, statusName,
        statuses⟩ := same
      rw [key_of_unitText (by decide) bodyName,
        key_of_unitText (by decide) mediaName,
        key_of_unitText (by decide) statusName]
      cases body with
      | object body =>
          cases media with
          | string mediaType =>
              cases status with
              | scalar value =>
                  simp only [JsonValue.units, JsonValue.scalar.injEq]
                    at statuses
                  rw [← statuses]
                  exact ⟨body, mediaType, rfl⟩
              | _ => simp [JsonValue.units] at statuses
          | _ => simp [JsonValue.units] at medias
      | _ => simp [JsonValue.sortKeys, JsonValue.units] at bodies
  | .object [] | .object [_] | .object [_, _] |
      .object (_ :: _ :: _ :: _ :: _) =>
      simp [JsonValue.units, JsonValue.unitsFields] at same
  | .scalar _ | .string _ | .array _ => simp [JsonValue.units] at same

section Responses

variable [CasefoldRuntime]

/-- Outcomes that are stored as one text are the same. -/
theorem sameOutcome_of_dumps {left right : CommandOutcome} {stored : Text}
    (first : jsonDumps (.object (responseMapping left)) = .ok stored)
    (second : jsonDumps (.object (responseMapping right)) = .ok stored) :
    SameOutcome left right := by
  have same := jsonDumps_same first second
  simp only [JsonValue.Same, responseMapping_sorted, JsonValue.units,
    JsonValue.unitsFields, JsonValue.object.injEq, List.cons.injEq,
    Prod.mk.injEq, JsonValue.scalar.injEq, JsonScalar.int.injEq, true_and,
    and_true] at same
  exact ⟨same.2.2, same.2.1, same.1⟩

/-- A stored text that some outcome wrote is replayed as such an outcome. -/
theorem storedOutcome_responds {record : IdempotencyRecord}
    {response : RedactedDocument} {outcome : CommandOutcome} {stored : Text}
    (version : record.responseSchemaVersion = some 1)
    (responds : record.response = some response)
    (ordered : response.toMapping.sortKeys = response.toMapping)
    (reads : jsonDumps response.toMapping = .ok stored)
    (wrote : jsonDumps (.object (responseMapping outcome)) = .ok stored) :
    ∃ replayed, storedOutcome record = some replayed ∧
      jsonDumps (.object (responseMapping replayed)) = .ok stored := by
  rcases response_form ordered (jsonDumps_same wrote reads) with
    ⟨body, mediaType, form⟩
  refine ⟨⟨outcome.statusCode, mediaType, body, true⟩, ?_, ?_⟩
  · simp [storedOutcome, version, responds, form, JsonValue.field,
      List.lookup]
  · rw [← reads]
    apply jsonDumps_congr
    rw [responseMapping_sorted, form]
    simp [JsonValue.sortKeys, JsonValue.sortFields, Foundation.fieldLe,
      response_keys]

end Responses

section Runs

variable [CasefoldRuntime] {service : IdempotentCommandService}

/-! ## What later transactions keep -/

/-- A registry that later transactions led to. -/
structure Extends (identity : IdempotencyIdentity)
    (before after : RegistryState) : Prop where
  owners : ∀ owner ∈ before.owners identity, owner ∈ after.owners identity
  history : ∀ event ∈ before.history, event ∈ after.history
  terminal : ∀ row, before.row identity = some row →
    row.status ≠ .inProgress → after.row identity = some row

theorem Extends.refl (identity : IdempotencyIdentity)
    (registry : RegistryState) : Extends identity registry registry :=
  ⟨fun _ member => member, fun _ member => member, fun _ present _ => present⟩

theorem transaction_history (registry : RegistryState)
    (command : RegistryCommand) :
    ∃ event, (registry.transaction command).history =
      registry.history ++ [event] := by
  cases done : command.perform registry.table with
  | error error =>
      exact ⟨_, congrArg RegistryState.history
        (RegistryState.transaction_error done)⟩
  | ok result =>
      exact ⟨_, congrArg RegistryState.history
        (RegistryState.transaction_ok done)⟩

theorem transaction_extends (identity : IdempotencyIdentity)
    (registry : RegistryState) (command : RegistryCommand) :
    Extends identity registry (registry.transaction command) := by
  rcases transaction_history registry command with ⟨event, history⟩
  refine ⟨?_, ?_, ?_⟩
  · intro owner member
    rw [RegistryState.owners, history, List.filterMap_append]
    exact List.mem_append_left _ member
  · intro earlier member
    rw [history]
    exact List.mem_append_left _ member
  · intro row present terminal
    exact RegistryState.terminal_transaction present terminal command

/-! ## What every call keeps -/

/-- The reservation that a call holds. -/
def CallPhase.owner : CallPhase → Option IdempotencyReservation
  | .handling _ reservation _ => some reservation
  | .terminalizing _ reservation _ => some reservation
  | _ => none

/-- A phase that a call reaches after its own response was stored. -/
def CallPhase.settled : CallPhase → Prop
  | .finishing known => known.outcome.terminal = true
  | .returned known => known.outcome.terminal = true
  | .lost known => known.any fun found => found.outcome.terminal
  | _ => False

/-- The execution of a call that has one. -/
def CallPhase.execution : CallPhase → Option CommandExecution
  | .finishing known => some known
  | .returned known => some known
  | _ => none

/-- The response is stored, as the text of this outcome. -/
def Responds (identity : IdempotencyIdentity) (registry : RegistryState)
    (outcome : CommandOutcome) : Prop :=
  ∃ row stored, registry.row identity = some row ∧
    row.status ≠ .inProgress ∧ row.responseSchemaVersion = some 1 ∧
    row.responseJson = some stored ∧
    jsonDumps (.object (responseMapping outcome)) = .ok stored

/-- What one call keeps, whatever the others do. -/
structure CallHolds (identity : IdempotencyIdentity) (registry : RegistryState)
    (call : CommandCall) : Prop where
  ran : call.ran = true → ∃ document, ∃ event ∈ registry.history,
    ConfigurationDocument.fromMapping call.request = .ok document ∧
    event.Accepted identity ∧ event.command.request = document
  owner : ∀ reservation, call.phase.owner = some reservation →
    reservation ∈ registry.owners identity ∧
      reservation.identity = identity ∧ call.ran = true
  outcome : ∀ document reservation outcome,
    call.phase = .terminalizing document reservation outcome →
    outcome.terminal = true
  execution : ∀ execution, call.phase.execution = some execution →
    execution.outcome.terminal = true →
    Responds identity registry execution.outcome

theorem Responds.extends {identity : IdempotencyIdentity}
    {before after : RegistryState} {outcome : CommandOutcome}
    (responds : Responds identity before outcome)
    (grows : Extends identity before after) :
    Responds identity after outcome := by
  rcases responds with ⟨row, stored, present, terminal, rest⟩
  exact ⟨row, stored, grows.terminal row present terminal, terminal, rest⟩

theorem CallHolds.extends {identity : IdempotencyIdentity}
    {before after : RegistryState} {call : CommandCall}
    (holds : CallHolds identity before call)
    (grows : Extends identity before after) :
    CallHolds identity after call where
  ran began := by
    rcases holds.ran began with ⟨document, event, member, rest⟩
    exact ⟨document, event, grows.history event member, rest⟩
  owner reservation held := by
    rcases holds.owner reservation held with ⟨member, rest⟩
    exact ⟨grows.owners reservation member, rest⟩
  outcome := holds.outcome
  execution execution known terminal :=
    (holds.execution execution known terminal).extends grows

/-- The lease of the earlier owner had run out when the later one took over. -/
def IdempotentCommandService.Expired (service : IdempotentCommandService)
    (earlier later : IdempotencyReservation) : Prop :=
  Binary64.lt (ageSeconds later.updatedAt earlier.updatedAt)
    service.policy.leaseSeconds = false

/-- What the registry keeps: every response in it was some outcome's. -/
structure RegistryPart (service : IdempotentCommandService)
    (state : RegistryState) : Prop where
  invariant : RegistryInvariant state service.identity
  chain : (state.owners service.identity).IsChain service.Expired
  stored : ∀ row, state.row service.identity = some row →
    row.status ≠ .inProgress → ∃ outcome, Responds service.identity state outcome

structure CommandInvariant (service : IdempotentCommandService)
    (run : CommandRun) : Prop where
  part : RegistryPart service run.registry
  each : ∀ (index : Nat) (call : CommandCall),
    run.calls[index]? = some call →
    CallHolds service.identity run.registry call
  distinct : ∀ (i j : Nat) (first second : CommandCall) reservation,
    run.calls[i]? = some first → run.calls[j]? = some second →
    first.phase.owner = some reservation →
    second.phase.owner = some reservation → i = j
  writer : ∀ index, run.writer = some index →
    ∃ call, run.calls[index]? = some call ∧ call.phase.settled
  written : ∀ row, run.registry.row service.identity = some row →
    row.status ≠ .inProgress → run.writer ≠ none

/-! ## One transaction -/

/-- A transaction that leaves the row and the owners as they were. -/
theorem RegistryPart.unchanged {before after : RegistryState}
    (part : RegistryPart service before)
    (invariant : RegistryInvariant after service.identity)
    (row : after.row service.identity = before.row service.identity)
    (owners : after.owners service.identity =
      before.owners service.identity) : RegistryPart service after where
  invariant := invariant
  chain := owners ▸ part.chain
  stored found present terminal := by
    rw [row] at present
    rcases part.stored found present terminal with ⟨outcome, responds⟩
    refine ⟨outcome, ?_⟩
    unfold Responds
    rw [row]
    exact responds

/-- A transaction that admits a next owner of a row in progress. -/
theorem RegistryPart.admitted {before after : RegistryState}
    {reservation : IdempotencyReservation}
    (part : RegistryPart service before)
    (invariant : RegistryInvariant after service.identity)
    (owners : after.owners service.identity =
      before.owners service.identity ++ [reservation])
    (live : ∀ row, after.row service.identity = some row →
      row.status = .inProgress)
    (expired : ∀ last ∈ (before.owners service.identity).getLast?,
      service.Expired last reservation) : RegistryPart service after where
  invariant := invariant
  chain := by
    rw [owners, List.isChain_append]
    refine ⟨part.chain, List.isChain_singleton _, ?_⟩
    intro last ends next begins
    cases begins
    exact expired last ends
  stored row present terminal := (terminal (live row present)).elim

/-- A stored response is read back as an outcome. -/
theorem RegistryPart.replays {state : RegistryState} {row : IdempotencyRow}
    {stored : StoredIdempotencyRecord} (part : RegistryPart service state)
    (present : state.row service.identity = some row)
    (reads : storedIdempotencyFromRow service.identity row = .ok stored)
    (terminal : row.status ≠ .inProgress) :
    ∃ outcome, storedOutcome stored.record = some outcome ∧
      Responds service.identity state outcome := by
  rcases part.stored row present terminal with
    ⟨first, found, written, again, _, version, held, wrote⟩
  cases present.symm.trans again
  rcases storedIdempotencyFromRow_response reads terminal with
    ⟨number, text, response, numbered, texts, read, responds, dumps, ordered⟩
  cases version.symm.trans numbered
  cases held.symm.trans texts
  rcases storedOutcome_responds read responds ordered dumps wrote with
    ⟨outcome, replays, writes⟩
  exact ⟨outcome, replays, row, written, present, terminal, version, held,
    writes⟩

/-- The phases in which the reserving transaction leaves its call. -/
inductive Reserved (service : IdempotentCommandService)
    (document : ConfigurationDocument) (before after : RegistryState) :
    CallPhase → Prop
  | refused (error : CommandError) :
      Reserved service document before after (.raised error)
  | admitted (reservation : IdempotencyReservation) (reclaimed : Bool)
      (event : RegistryEvent)
      (fresh : reservation ∉ before.owners service.identity)
      (owner : reservation ∈ after.owners service.identity)
      (identity : reservation.identity = service.identity)
      (member : event ∈ after.history)
      (accepted : event.Accepted service.identity)
      (request : event.command.request = document) :
      Reserved service document before after
        (.handling document reservation reclaimed)
  | replayed (outcome : CommandOutcome)
      (responds : Responds service.identity after outcome) :
      Reserved service document before after (.finishing ⟨outcome, true⟩)

/-- What the reserving transaction does to the registry. -/
structure Reserves (service : IdempotentCommandService)
    (document : ConfigurationDocument) (before after : RegistryState)
    (phase : CallPhase) : Prop where
  part : RegistryPart service after
  terminal : ∀ row, after.row service.identity = some row →
    row.status ≠ .inProgress → before.row service.identity = some row
  reserved : Reserved service document before after phase

omit [CasefoldRuntime] in
/-- An owner that comes last is a new one. -/
theorem fresh_of_increasing {earlier : List IdempotencyReservation}
    {reservation : IdempotencyReservation}
    (increasing : (earlier ++ [reservation]).Pairwise
      fun first second => first.updatedAt < second.updatedAt) :
    reservation ∉ earlier := by
  intro member
  exact lt_irrefl _ ((List.pairwise_append.mp increasing).2.2 reservation
    member reservation (List.mem_singleton.mpr rfl))

/-- The owners after a transaction that admits one. -/
theorem transaction_owners {state : RegistryState} {table : IdempotencyTable}
    {command : RegistryCommand} {answer : RegistryAnswer}
    (target : command.identity = service.identity) :
    RegistryState.owners
        { table, history := state.history ++ [⟨command, .ok answer⟩] }
        service.identity =
      state.owners service.identity ++ answer.reservation.toList := by
  rw [RegistryState.owners_append]
  simp [RegistryEvent.admits, target]

theorem begun_admits {result : IdempotencyBeginResult}
    {reservation : IdempotencyReservation} (document : ConfigurationDocument)
    (table : IdempotencyTable) (admits : result.disposition.admits = true)
    (held : result.reservation = some reservation) :
    ∃ reclaimed, IdempotentCommandService.begun document
      (.ok (result, table)) = .handling document reservation reclaimed := by
  cases kind : result.disposition <;> rw [kind] at admits <;>
    simp [IdempotencyBeginDisposition.admits] at admits
  · exact ⟨false, by simp [IdempotentCommandService.begun, kind, held]⟩
  · exact ⟨true, by simp [IdempotentCommandService.begun, kind, held]⟩

open IdempotentCommandService in
theorem RegistryPart.reserve {state : RegistryState}
    (part : RegistryPart service state) (document : ConfigurationDocument)
    (now : Instant) :
    Reserves service document state
      (state.transaction (service.reclaimCommand document now))
      (begun document (reclaim state.table service.scope service.key document
        service.policy.leaseSeconds now)) := by
  have invariant :=
    part.invariant.transaction (service.reclaimCommand document now)
  cases done : reclaim state.table service.scope service.key document
      service.policy.leaseSeconds now with
  | error error =>
      have raised : (service.reclaimCommand document now).perform state.table =
          .error error := by
        simp [reclaimCommand, RegistryCommand.perform, done]
      rw [RegistryState.transaction_error raised] at invariant ⊢
      refine ⟨part.unchanged invariant rfl ?_, fun _ same _ => same, ?_⟩
      · rw [RegistryState.owners_append]
        exact List.append_nil _
      · cases error <;> exact .refused _
  | ok answered =>
      rcases answered with ⟨result, table⟩
      have performed :
          (service.reclaimCommand document now).perform state.table =
            .ok (.began result, table) := by
        simp [reclaimCommand, RegistryCommand.perform, done]
      rw [RegistryState.transaction_ok performed] at invariant ⊢
      have owners : RegistryState.owners ⟨table, state.history ++
          [⟨service.reclaimCommand document now, .ok (.began result)⟩]⟩
          service.identity =
            state.owners service.identity ++ result.reservation.toList :=
        transaction_owners rfl
      rcases reclaim_cases done with admits | ⟨rfl, row, stored, present,
        reads, rfl⟩
      · -- a next owner, who found the lease of the last one expired
        rcases admits.reservation with ⟨reservation, held, at_⟩
        rcases RegistryCommand.perform_moves performed with
          ⟨digest, digested, move⟩
        rcases move.live_of_admits held with
          ⟨identity, live, row, present, begun_⟩
        rw [held, Option.toList_some] at owners
        have fresh := fresh_of_increasing (owners ▸ invariant.increasing)
        refine ⟨part.admitted invariant owners ?_ ?_, ?_, ?_⟩
        · intro found again
          cases again.symm.trans present
          exact begun_
        · intro last ends
          cases found : state.row service.identity with
          | none =>
              rw [(part.invariant.absent found).1] at ends
              cases ends
          | some before =>
              rw [part.invariant.latest before found (live before found)]
                at ends
              cases ends
              show Binary64.lt (ageSeconds reservation.updatedAt
                before.updatedAt) service.policy.leaseSeconds = false
              rw [at_]
              exact admits.expired before found
        · intro found again terminal
          cases again.symm.trans present
          exact (terminal begun_).elim
        · have owner : reservation ∈ RegistryState.owners ⟨table,
              state.history ++ [⟨service.reclaimCommand document now,
                .ok (.began result)⟩]⟩ service.identity := by
            rw [owners]
            exact List.mem_append_right _ (List.mem_singleton.mpr rfl)
          rcases begun_admits document table admits.admits held with
            ⟨reclaimed, phase⟩
          rw [phase]
          exact .admitted reservation reclaimed _ fresh owner identity
            (List.mem_append_right _ (List.mem_singleton.mpr rfl))
            ⟨rfl, _, rfl⟩ rfl
      · have same : RegistryPart service ⟨state.table, state.history ++
            [⟨service.reclaimCommand document now,
              .ok (.began (replayed stored.record))⟩]⟩ :=
          part.unchanged invariant rfl (owners.trans (List.append_nil _))
        refine ⟨same, fun _ kept _ => kept, ?_⟩
        have status := (storedIdempotencyFromRow_eq_ok reads).2.2.1
        cases live : row.status with
        | inProgress =>
            simp only [begun, replayed, status, live, IdempotencyStatus.replay]
            exact .refused _
        | _ =>
            rcases same.replays present reads (by simp [live]) with
              ⟨outcome, replays, responds⟩
            simp only [begun, replayed, status, live, IdempotencyStatus.replay,
              replays]
            exact .replayed outcome responds

open IdempotentCommandService in
/-- A terminal transaction that commits leaves its response in the row. -/
theorem terminalCommand_holds {document : ConfigurationDocument}
    {reservation : IdempotencyReservation} {outcome : CommandOutcome}
    {response : RedactedDocument} {now : Instant}
    {table next : IdempotencyTable} {answer : RegistryAnswer}
    (done : (terminalCommand document reservation outcome response
      now).perform table = .ok (answer, next)) :
    answer.reservation = none ∧ ∃ row written,
      next.lookup reservation.identity = some row ∧
      row.status ≠ .inProgress ∧ row.responseSchemaVersion = some 1 ∧
      row.responseJson = some written ∧
      jsonDumps response.toMapping = .ok written := by
  unfold terminalCommand at done
  split at done
  all_goals
    rcases fmap_eq_ok.mp done with ⟨⟨record, committed⟩, returned, same⟩
    cases same
    rcases terminalize_holds returned with
      ⟨encoded, row, encodes, present, status, version, held⟩
    refine ⟨rfl, row, encoded.text, present, ?_, version, held,
      encodeMapping_dumps encodes⟩
    rw [status]
    simp

open IdempotentCommandService in
theorem RegistryPart.terminalize {state : RegistryState}
    (part : RegistryPart service state)
    {reservation : IdempotencyReservation}
    (identity : reservation.identity = service.identity)
    {outcome : CommandOutcome} {response : RedactedDocument}
    (made : RedactedDocument.fromMapping (responseMapping outcome) =
      .ok response) {document : ConfigurationDocument} {now : Instant}
    {command : RegistryCommand}
    (submits : command =
      terminalCommand document reservation outcome response now) :
    RegistryPart service (state.transaction command) ∧
      ((∃ error, command.perform state.table = .error error ∧
          (state.transaction command).row service.identity =
            state.row service.identity) ∨
        ∃ answered, command.perform state.table = .ok answered ∧
          Responds service.identity (state.transaction command) outcome) := by
  have invariant := part.invariant.transaction command
  cases done : command.perform state.table with
  | error error =>
      rw [RegistryState.transaction_error done] at invariant ⊢
      refine ⟨part.unchanged invariant rfl ?_, .inl ⟨error, rfl, rfl⟩⟩
      rw [RegistryState.owners_append]
      exact List.append_nil _
  | ok answered =>
      rcases answered with ⟨answer, table⟩
      rw [RegistryState.transaction_ok done] at invariant ⊢
      have target : command.identity = service.identity := by
        rw [submits, ← identity]
        unfold terminalCommand
        split <;> rfl
      rw [submits] at done
      rcases terminalCommand_holds done with ⟨quiet, row, written, present,
        terminal, version, held, dumps⟩
      rw [identity] at present
      have responds : Responds service.identity ⟨table,
          state.history ++ [⟨command, .ok answer⟩]⟩ outcome := by
        refine ⟨row, written, present, terminal, version, held, ?_⟩
        rw [← dumps, RedactedDocument.fromMapping_toMapping made]
        exact (jsonDumps_congr (JsonValue.sortKeys_sortKeys _)).symm
      refine ⟨⟨invariant, ?_, ?_⟩, .inr ⟨_, rfl, responds⟩⟩
      · rw [transaction_owners target, quiet]
        simpa using part.chain
      · intro found again _
        exact ⟨outcome, responds⟩

/-! ## Steps -/

/-- One call moves on, and the registry with it. -/
theorem CommandInvariant.set {run : CommandRun} {registry : RegistryState}
    {writer : Option Nat} {index : Nat} {old new : CommandCall}
    (holds : CommandInvariant service run)
    (at_ : run.calls[index]? = some old)
    (part : RegistryPart service registry)
    (grows : Extends service.identity run.registry registry)
    (call : CallHolds service.identity registry new)
    (owner : ∀ reservation, new.phase.owner = some reservation →
      old.phase.owner = some reservation ∨
        reservation ∉ run.registry.owners service.identity)
    (names : writer = some index ∨ writer = run.writer)
    (settled : writer = some index → new.phase.settled)
    (written : ∀ row, registry.row service.identity = some row →
      row.status ≠ .inProgress → writer ≠ none) :
    CommandInvariant service
      { registry, calls := run.calls.set index new, writer } := by
  have inside : index < run.calls.length :=
    (List.getElem?_eq_some_iff.mp at_).1
  have here : (run.calls.set index new)[index]? = some new := by
    simp [inside]
  have there {other : Nat} (apart : index ≠ other) :
      (run.calls.set index new)[other]? = run.calls[other]? := by
    simp [apart]
  -- a reservation that another call holds is not the new one
  have fresh {other : Nat} {second : CommandCall}
      {reservation : IdempotencyReservation} (apart : index ≠ other)
      (held : new.phase.owner = some reservation)
      (found : run.calls[other]? = some second)
      (again : second.phase.owner = some reservation) : False := by
    rcases owner reservation held with same | unknown
    · exact apart (holds.distinct index other old second reservation at_
        found same again)
    · exact unknown ((holds.each other second found).owner reservation
        again).1
  refine ⟨part, ?_, ?_, ?_, written⟩
  · intro other found present
    by_cases same : index = other
    · subst same
      rw [here] at present
      cases present
      exact call
    · rw [there same] at present
      exact (holds.each other found present).extends grows
  · intro i j first second reservation atFirst atSecond heldFirst heldSecond
    by_cases left : index = i
    · subst left
      rw [here] at atFirst
      cases atFirst
      by_cases right : index = j
      · exact right
      · rw [there right] at atSecond
        exact (fresh right heldFirst atSecond heldSecond).elim
    · rw [there left] at atFirst
      by_cases right : index = j
      · subst right
        rw [here] at atSecond
        cases atSecond
        exact (fresh left heldSecond atFirst heldFirst).elim
      · rw [there right] at atSecond
        exact holds.distinct i j first second reservation atFirst atSecond
          heldFirst heldSecond
  · intro other named
    by_cases same : index = other
    · subst same
      exact ⟨new, here, settled named⟩
    · rcases names with now | kept
      · exact (same (Option.some.inj (now.symm.trans named))).elim
      · rcases holds.writer other (kept.symm.trans named) with
          ⟨found, present, rest⟩
        exact ⟨found, (there same).trans present, rest⟩

/-- One call moves on, and the registry stays as it is. -/
theorem CommandInvariant.move {run : CommandRun} {index : Nat}
    {old new : CommandCall} (holds : CommandInvariant service run)
    (at_ : run.calls[index]? = some old)
    (call : CallHolds service.identity run.registry new)
    (owner : ∀ reservation, new.phase.owner = some reservation →
      old.phase.owner = some reservation)
    (settled : old.phase.settled → new.phase.settled) :
    CommandInvariant service
      { run with calls := run.calls.set index new } := by
  refine holds.set at_ holds.part (Extends.refl _ _) call
    (fun reservation held => .inl (owner reservation held)) (.inr rfl) ?_
    holds.written
  intro named
  rcases holds.writer index named with ⟨found, present, known⟩
  cases at_.symm.trans present
  exact settled known

/-- A call that keeps its request and runs no handler. -/
theorem CallHolds.phase {identity : IdempotencyIdentity}
    {registry : RegistryState} {call : CommandCall}
    (holds : CallHolds identity registry call) {after : CallPhase}
    (owner : ∀ reservation, after.owner = some reservation →
      call.phase.owner = some reservation)
    (outcome : ∀ document reservation outcome,
      after = .terminalizing document reservation outcome →
      outcome.terminal = true)
    (execution : ∀ execution, after.execution = some execution →
      execution.outcome.terminal = true →
      Responds identity registry execution.outcome) :
    CallHolds identity registry { call with phase := after } where
  ran := holds.ran
  owner reservation held := holds.owner reservation (owner reservation held)
  outcome := outcome
  execution := execution

/-- A call that raises, or is lost. -/
theorem CallHolds.ended {identity : IdempotencyIdentity}
    {registry : RegistryState} {call : CommandCall}
    (holds : CallHolds identity registry call) {after : CallPhase}
    (owner : after.owner = none) (execution : after.execution = none) :
    CallHolds identity registry { call with phase := after } := by
  refine holds.phase ?_ ?_ ?_
  · intro reservation held
    cases owner.symm.trans held
  · rintro document reservation outcome rfl
    cases owner
  · intro known same
    cases execution.symm.trans same

/-- A call that found a response. -/
theorem CallHolds.finishing {identity : IdempotencyIdentity}
    {registry : RegistryState} {call : CommandCall}
    (holds : CallHolds identity registry call) {found : CommandExecution}
    (responds : found.outcome.terminal = true →
      Responds identity registry found.outcome) :
    CallHolds identity registry { call with phase := .finishing found } := by
  refine holds.phase ?_ ?_ ?_
  · intro _ impossible
    cases impossible
  · intro _ _ _ impossible
    cases impossible
  · intro known same
    cases same
    exact responds

/-- A call that ends without a response of its own. -/
theorem CommandInvariant.ended {run : CommandRun} {index : Nat}
    {call : CommandCall} {after : CallPhase}
    (holds : CommandInvariant service run)
    (at_ : run.calls[index]? = some call) (owner : after.owner = none)
    (execution : after.execution = none)
    (settled : call.phase.settled → after.settled) :
    CommandInvariant service
      { run with calls := run.calls.set index { call with phase := after } } :=
  holds.move at_ ((holds.each index call at_).ended owner execution)
    (fun _ held => by cases owner.symm.trans held) settled

theorem CommandInvariant.arrive {run : CommandRun}
    (holds : CommandInvariant service run)
    (request : List (Text × JsonValue)) :
    CommandInvariant service
      { run with calls := run.calls ++ [⟨request, .arrived, false⟩] } := by
  have cases_ {index : Nat} {call : CommandCall}
      (present : (run.calls ++ [⟨request, .arrived, false⟩])[index]? =
        some call) :
      run.calls[index]? = some call ∨ call = ⟨request, .arrived, false⟩ := by
    rw [List.getElem?_append] at present
    split at present
    · exact .inl present
    · rw [List.getElem?_singleton] at present
      split at present
      · exact .inr (Option.some.inj present).symm
      · cases present
  refine ⟨holds.part, ?_, ?_, ?_, holds.written⟩
  · intro index call present
    rcases cases_ present with old | rfl
    · exact holds.each index call old
    · constructor <;> intros <;> contradiction
  · intro i j first second reservation atFirst atSecond heldFirst heldSecond
    rcases cases_ atFirst with old | rfl
    · rcases cases_ atSecond with before | rfl
      · exact holds.distinct i j first second reservation old before heldFirst
          heldSecond
      · cases heldSecond
    · cases heldFirst
  · intro index named
    rcases holds.writer index named with ⟨call, present, settled⟩
    refine ⟨call, ?_, settled⟩
    rw [List.getElem?_append_left (List.getElem?_eq_some_iff.mp present).1]
    exact present

theorem CommandInvariant.reserve {run : CommandRun}
    (holds : CommandInvariant service run) (index : Nat) (now : Instant) :
    CommandInvariant service (service.reserve run index now) := by
  unfold IdempotentCommandService.reserve
  split
  next request ran at_ =>
    split
    next error failed =>
      exact holds.ended at_ rfl rfl False.elim
    next document made =>
      have reserves := holds.part.reserve document now
      have grows := transaction_extends service.identity run.registry
        (service.reclaimCommand document now)
      have old := (holds.each index _ at_).extends grows
      refine holds.set at_ reserves.part grows ?_ ?_ (.inr rfl) ?_ ?_
      · have reserved := reserves.reserved
        revert reserved
        generalize IdempotentCommandService.begun document _ = phase
        intro reserved
        cases reserved with
        | refused error =>
            have same : (ran || CallPhase.isHandling (.raised error)) = ran :=
              Bool.or_false ran
            rw [same]
            exact old.ended rfl rfl
        | admitted reservation reclaimed event fresh owner identity member
            accepted request_ =>
            refine ⟨?_, ?_, ?_, ?_⟩
            · intro _
              exact ⟨document, event, member, made, accepted, request_⟩
            · intro found held
              cases held
              exact ⟨owner, identity, Bool.or_true ran⟩
            · intro _ _ _ impossible
              cases impossible
            · intro _ impossible
              cases impossible
        | replayed outcome responds =>
            have same : (ran || CallPhase.isHandling
                (.finishing ⟨outcome, true⟩)) = ran := Bool.or_false ran
            rw [same]
            exact old.finishing fun _ => responds
      · have reserved := reserves.reserved
        revert reserved
        generalize IdempotentCommandService.begun document _ = phase
        intro reserved reservation held
        cases reserved with
        | admitted found reclaimed event fresh =>
            cases held
            exact .inr fresh
        | _ => cases held
      · intro named
        rcases holds.writer index named with ⟨found, present, known⟩
        cases at_.symm.trans present
        exact known.elim
      · intro row present terminal
        exact holds.written row (reserves.terminal row present terminal)
          terminal
  next => exact holds

theorem CommandInvariant.handled {run : CommandRun}
    (holds : CommandInvariant service run) (index : Nat)
    (result : Option CommandOutcome) :
    CommandInvariant service
      (IdempotentCommandService.handled run index result) := by
  unfold IdempotentCommandService.handled
  split
  next request document reservation reclaimed ran at_ =>
    cases result with
    | none => exact holds.ended at_ rfl rfl False.elim
    | some outcome =>
        have old := holds.each index _ at_
        by_cases terminal : outcome.terminal = true
        · simp only [terminal, if_true]
          refine holds.move at_ (old.phase ?_ ?_ ?_) ?_ False.elim
          · exact fun _ held => held
          · intro _ _ _ same
            cases same
            exact terminal
          · intro _ impossible
            cases impossible
          · exact fun _ held => held
        · simp only [terminal]
          refine holds.move at_ (old.finishing terminal.elim) ?_ False.elim
          · intro _ impossible
            cases impossible
  next => exact holds

theorem CommandInvariant.terminalize {run : CommandRun}
    (holds : CommandInvariant service run) (index : Nat) (now : Instant) :
    CommandInvariant service (service.terminalize run index now) := by
  unfold IdempotentCommandService.terminalize
  split
  next request document reservation outcome ran at_ =>
    have old := holds.each index _ at_
    split
    next error failed => exact holds.ended at_ rfl rfl False.elim
    next response made =>
      dsimp only
      generalize submits : IdempotentCommandService.terminalCommand document
        reservation outcome response now = command
      rcases holds.part.terminalize (old.owner reservation rfl).2.1 made
        submits.symm with ⟨part, ended⟩
      have grows := transaction_extends service.identity run.registry command
      rcases ended with ⟨error, raised, same⟩ | ⟨answered, done, responds⟩
      · rw [raised, if_pos same]
        have phase : (IdempotentCommandService.ended outcome
            (.error error)).owner = none ∧
            (IdempotentCommandService.ended outcome
              (.error error)).execution = none := by
          cases error <;> exact ⟨rfl, rfl⟩
        refine holds.set at_ part grows
          ((old.extends grows).ended phase.1 phase.2) ?_ (.inr rfl) ?_ ?_
        · intro found held
          cases phase.1.symm.trans held
        · intro named
          rcases holds.writer index named with ⟨found, present, known⟩
          cases at_.symm.trans present
          exact known.elim
        · intro row present
          exact holds.written row (same ▸ present)
      · rw [done]
        have terminal := old.outcome document reservation outcome rfl
        refine holds.set at_ part grows
          ((old.extends grows).finishing fun _ => responds) ?_ ?_
          (fun _ => terminal) ?_
        · intro _ impossible
          cases impossible
        · split
          · exact .inr rfl
          · exact .inl rfl
        · intro row present ended
          split
          next same => exact holds.written row (same ▸ present) ended
          next => simp
  next => exact holds

theorem CommandInvariant.lookUp {run : CommandRun}
    (holds : CommandInvariant service run) (index : Nat) :
    CommandInvariant service (service.lookUp run index) := by
  unfold IdempotentCommandService.lookUp
  split
  next request terminal message ran at_ =>
    have old := holds.each index _ at_
    -- the winner's response is the stored one
    have answer : (∃ error, service.winner run terminal message =
          .raised error) ∨ ∃ outcome, service.winner run terminal message =
            .finishing ⟨outcome, true⟩ ∧
          Responds service.identity run.registry outcome := by
      unfold IdempotentCommandService.winner
      split
      next => exact .inl ⟨_, rfl⟩
      next => exact .inl ⟨_, rfl⟩
      next stored got =>
        split
        next status =>
          split
          next outcome replays =>
            rcases getStored_eq_some got with ⟨row, present, reads⟩
            have same := (storedIdempotencyFromRow_eq_ok reads).2.2.1
            by_cases live : row.status = .inProgress
            · have none_ := storedIdempotencyFromRow_live reads live
              simp [storedOutcome, none_] at replays
            · rcases holds.part.replays present reads live with
                ⟨found, again, responds⟩
              cases replays.symm.trans again
              exact .inr ⟨_, rfl, responds⟩
          next => exact .inl ⟨_, rfl⟩
        next => exact .inl ⟨_, rfl⟩
    rcases answer with ⟨error, phase⟩ | ⟨outcome, phase, responds⟩
    · rw [phase]
      exact holds.ended at_ rfl rfl False.elim
    · rw [phase]
      refine holds.move at_ (old.finishing fun _ => responds) ?_ False.elim
      · intro _ impossible
        cases impossible
  next => exact holds

theorem CommandInvariant.interrupt {run : CommandRun}
    (holds : CommandInvariant service run) (index : Nat) {after : CallPhase}
    (owner : after.owner = none) (execution : after.execution = none) :
    CommandInvariant service
      (IdempotentCommandService.interrupt run index after) := by
  unfold IdempotentCommandService.interrupt
  split
  next => exact holds
  next => exact holds
  next => exact holds
  next => exact holds
  next request phase ran finishing returned raised lost at_ =>
    refine holds.ended at_ owner execution ?_
    intro settled
    cases phase with
    | finishing known => exact (finishing _ rfl).elim
    | returned known => exact (returned _ rfl).elim
    | lost known => exact (lost _ rfl).elim
    | _ => exact settled.elim
  next => exact holds

theorem CommandInvariant.conclude {run : CommandRun}
    (holds : CommandInvariant service run) (index : Nat)
    {after : CommandExecution → CallPhase}
    (owner : ∀ known, (after known).owner = none)
    (execution : ∀ known, (after known).execution = none ∨
      (after known).execution = some known)
    (settled : ∀ known : CommandExecution, known.outcome.terminal = true →
      (after known).settled) :
    CommandInvariant service
      (IdempotentCommandService.conclude run index after) := by
  unfold IdempotentCommandService.conclude
  split
  next request known ran at_ =>
    have old := holds.each index _ at_
    refine holds.move at_ (old.phase ?_ ?_ ?_) ?_ (settled known)
    · intro _ held
      cases (owner known).symm.trans held
    · intro _ _ _ same
      have none_ := owner known
      rw [same] at none_
      cases none_
    · intro found same terminal
      rcases execution known with none_ | some_
      · cases none_.symm.trans same
      · cases some_.symm.trans same
        exact old.execution known rfl terminal
    · intro _ held
      cases (owner known).symm.trans held
  next => exact holds

theorem CommandInvariant.step {run : CommandRun}
    (holds : CommandInvariant service run)
    (label : IdempotentCommandService.CallStep) :
    CommandInvariant service (service.step run label) := by
  cases label with
  | arrive request => exact holds.arrive request
  | reserve call now => exact holds.reserve call now
  | handled call result => exact holds.handled call result
  | terminalize call now => exact holds.terminalize call now
  | lookUp call => exact holds.lookUp call
  | finish call =>
      exact holds.conclude call (fun _ => rfl) (fun _ => .inr rfl)
        fun _ terminal => terminal
  | fail call => exact holds.interrupt call rfl rfl
  | lose call =>
      exact (holds.interrupt call rfl rfl).conclude call (fun _ => rfl)
        (fun _ => .inl rfl) fun _ terminal => terminal

theorem CommandInvariant.initial {run : CommandRun}
    (starts : service.system.Initial run) : CommandInvariant service run := by
  rcases starts with ⟨none_, nobody, history, absent⟩
  have owners : run.registry.owners service.identity = [] := by
    rw [RegistryState.owners, history]
    rfl
  refine ⟨⟨⟨?_, ?_, ?_, ?_, ?_⟩, ?_, ?_⟩, ?_, ?_, ?_, ?_⟩
  · intro _
    refine ⟨owners, ?_⟩
    rw [history]
    intro event member
    cases member
  · intro row present
    cases absent.symm.trans present
  · intro row present
    cases absent.symm.trans present
  · rw [owners]
    exact List.Pairwise.nil
  · intro row present
    cases absent.symm.trans present
  · rw [owners]
    exact List.isChain_nil
  · intro row present
    cases absent.symm.trans present
  · intro index call present
    rw [none_] at present
    cases present
  · intro i j first second reservation present
    rw [none_] at present
    cases present
  · intro index named
    cases nobody.symm.trans named
  · intro row present
    cases absent.symm.trans present

theorem command_invariant {run : CommandRun}
    (reachable : service.system.Reachable run) :
    CommandInvariant service run := by
  refine reachable.invariant ?_ ?_
  · exact fun _ starts => .initial starts
  · rintro before label after _ holds rfl
    exact holds.step label

/-! ## What the callers can rely on -/

/-- An owner whose lease had run out by the time another one took over. -/
def Outlived (service : IdempotentCommandService) (registry : RegistryState)
    (earlier later : IdempotencyReservation) : Prop :=
  ∃ taken ∈ registry.owners service.identity,
    earlier.updatedAt < taken.updatedAt ∧ taken.updatedAt ≤ later.updatedAt ∧
      service.Expired earlier taken

omit [CasefoldRuntime] in
/-- Owners in order are told apart by their update time. -/
theorem owner_of_updatedAt {owners : List IdempotencyReservation}
    {one other : IdempotencyReservation}
    (increasing : owners.Pairwise
      fun first second => first.updatedAt < second.updatedAt)
    (first : one ∈ owners) (second : other ∈ owners)
    (same : one.updatedAt = other.updatedAt) : one = other := by
  rcases List.append_of_mem first with ⟨past, future, rfl⟩
  have ordered := List.pairwise_append.mp increasing
  rcases List.mem_append.mp second with old | new
  · exact (ordered.2.2 other old one List.mem_cons_self).ne' same |>.elim
  · rcases List.mem_cons.mp new with equal | later
    · exact equal.symm
    · exact ((List.pairwise_cons.mp ordered.2.1).1 other later).ne same |>.elim

omit [CasefoldRuntime] in
/-- The owners between two of them begin with one that found the lease out. -/
theorem outlived_of_chain {owners : List IdempotencyReservation}
    {earlier later : IdempotencyReservation}
    (chain : owners.IsChain service.Expired)
    (increasing : owners.Pairwise
      fun first second => first.updatedAt < second.updatedAt)
    (first : earlier ∈ owners) (second : later ∈ owners)
    (before : earlier.updatedAt < later.updatedAt) :
    ∃ taken ∈ owners, earlier.updatedAt < taken.updatedAt ∧
      taken.updatedAt ≤ later.updatedAt ∧ service.Expired earlier taken := by
  rcases List.append_of_mem first with ⟨past, future, rfl⟩
  have ordered := List.pairwise_append.mp increasing
  have onward := List.pairwise_cons.mp ordered.2.1
  have member : later ∈ future := by
    rcases List.mem_append.mp second with old | new
    · have wrong := ordered.2.2 later old earlier (List.mem_cons_self)
      exact (lt_asymm wrong before).elim
    · rcases List.mem_cons.mp new with same | new
      · exact (lt_irrefl _ (same ▸ before)).elim
      · exact new
  cases future with
  | nil => cases member
  | cons taken rest =>
      refine ⟨taken, by simp, onward.1 taken List.mem_cons_self, ?_, ?_⟩
      · rcases List.mem_cons.mp member with rfl | later_
        · exact le_rfl
        · exact le_of_lt
            ((List.pairwise_cons.mp onward.2).1 later later_)
      · exact (List.isChain_cons_cons.mp (List.isChain_append.mp chain).2.1).1

/-- What the calls of one scope and key have in common. -/
structure CommandsAgree (service : IdempotentCommandService)
    (run : CommandRun) : Prop where
  /-- A terminal execution is the stored response. -/
  agree : ∀ (index : Nat) (call : CommandCall) (known : CommandExecution),
    run.calls[index]? = some call → call.phase.execution = some known →
    known.outcome.terminal = true →
    ∃ row stored outcome, run.registry.row service.identity = some row ∧
      storedIdempotencyFromRow service.identity row = .ok stored ∧
      storedOutcome stored.record = some outcome ∧
      SameOutcome known.outcome outcome
  /-- Only a call that may return a terminal execution stored a response. -/
  silent : ∀ (index : Nat) (call : CommandCall),
    run.calls[index]? = some call → ¬ call.phase.settled →
    run.writer ≠ some index
  /-- A stored response has its writer. -/
  written : ∀ row, run.registry.row service.identity = some row →
    row.status ≠ .inProgress → ∃ index, run.writer = some index
  /-- Every handler that ran did so for the request of the row. -/
  request : ∀ (index : Nat) (call : CommandCall),
    run.calls[index]? = some call → call.ran = true →
    ∃ document row,
      ConfigurationDocument.fromMapping call.request = .ok document ∧
      run.registry.row service.identity = some row ∧
      requestDigest document = .ok row.requestSha256
  /-- Of two running handlers, the first has outlived its lease. -/
  overlap : ∀ (i j : Nat) (first second : CommandCall)
    (document document' : ConfigurationDocument)
    (earlier later : IdempotencyReservation) (reclaimed reclaimed' : Bool),
    i ≠ j → run.calls[i]? = some first → run.calls[j]? = some second →
    first.phase = .handling document earlier reclaimed →
    second.phase = .handling document' later reclaimed' →
    Outlived service run.registry earlier later ∨
      Outlived service run.registry later earlier

theorem commands_agree {run : CommandRun}
    (reachable : service.system.Reachable run) : CommandsAgree service run := by
  have holds := command_invariant reachable
  refine ⟨?_, ?_, ?_, ?_, ?_⟩
  · intro index call known present same terminal
    rcases (holds.each index call present).execution known same terminal with
      ⟨row, written, found, ended, version, held, wrote⟩
    rcases holds.part.invariant.reads row found with ⟨stored, reads⟩
    rcases holds.part.replays found reads ended with
      ⟨outcome, replays, row', written', found', _, _, held', wrote'⟩
    cases found.symm.trans found'
    cases held.symm.trans held'
    exact ⟨row, stored, outcome, found, reads, replays,
      sameOutcome_of_dumps wrote wrote'⟩
  · intro index call present unsettled named
    rcases holds.writer index named with ⟨found, again, settled⟩
    cases present.symm.trans again
    exact unsettled settled
  · intro row present ended
    exact Option.ne_none_iff_exists'.mp (holds.written row present ended)
  · intro index call present ran
    rcases (holds.each index call present).ran ran with
      ⟨document, event, member, made, accepted, request⟩
    cases found : run.registry.row service.identity with
    | none =>
        exact ((holds.part.invariant.absent found).2 event member
          accepted).elim
    | some row =>
        have digested := holds.part.invariant.request row found event member
          accepted
        rw [request] at digested
        exact ⟨document, row, made, rfl, digested⟩
  · intro i j first second document document' earlier later reclaimed
      reclaimed' apart atFirst atSecond heldFirst heldSecond
    have ownsFirst : first.phase.owner = some earlier := by
      rw [heldFirst]
      rfl
    have ownsSecond : second.phase.owner = some later := by
      rw [heldSecond]
      rfl
    have memberFirst := ((holds.each i first atFirst).owner earlier
      ownsFirst).1
    have memberSecond := ((holds.each j second atSecond).owner later
      ownsSecond).1
    have chain := holds.part.chain
    have increasing := holds.part.invariant.increasing
    rcases lt_trichotomy earlier.updatedAt later.updatedAt with
      before | same | after
    · exact .inl (outlived_of_chain chain increasing memberFirst memberSecond
        before)
    · have equal := owner_of_updatedAt increasing memberFirst memberSecond same
      subst equal
      exact (apart (holds.distinct i j first second earlier atFirst atSecond
        ownsFirst ownsSecond)).elim
    · exact .inr (outlived_of_chain chain increasing memberSecond memberFirst
        after)

def CallPhase.isLost : CallPhase → Bool
  | .lost _ => true
  | _ => false

theorem reachable_after {run : CommandRun}
    (reachable : service.system.Reachable run)
    (labels : List IdempotentCommandService.CallStep) :
    service.system.Reachable (labels.foldl service.step run) :=
  reachable.foldl (fun _ _ => rfl) labels

/-- Nobody has called. -/
def CommandRun.empty : CommandRun :=
  { registry := RegistryState.empty, calls := [], writer := none }

theorem reachable_empty : service.system.Reachable CommandRun.empty :=
  .initial ⟨rfl, rfl, rfl, rfl⟩

end Runs

/-- One command, with a lease of half a minute. -/
def sampleService : IdempotentCommandService where
  scope := text "commands"
  key := text "k-1"
  policy := ⟨.finite 30, by decide +kernel⟩

def sampleOutcome : CommandOutcome where
  statusCode := 200
  mediaType := text "application/json"
  body := []
  terminal := true

def sampleReplay : List IdempotentCommandService.CallStep :=
  [.arrive [], .reserve 0 0, .handled 0 (some sampleOutcome),
    .terminalize 0 1, .finish 0, .arrive [], .reserve 1 5, .finish 1]

/-- A second call of a finished command returns what was stored. -/
theorem commands_agree_sample :
    letI : CasefoldRuntime := asciiCasefoldRuntime
    sampleService.system.Reachable
      (sampleReplay.foldl sampleService.step CommandRun.empty) ∧
    ((sampleReplay.foldl sampleService.step CommandRun.empty).calls.map
      fun call => (call.phase.execution.map fun known => known.replayed)) =
        [some false, some true] ∧
    CommandsAgree sampleService
      (sampleReplay.foldl sampleService.step CommandRun.empty) := by
  let : CasefoldRuntime := asciiCasefoldRuntime
  have reachable : sampleService.system.Reachable
      (sampleReplay.foldl sampleService.step CommandRun.empty) :=
    reachable_after reachable_empty sampleReplay
  exact ⟨reachable, by decide +kernel, commands_agree reachable⟩

/-- The response is stored, and then the process is lost. -/
def lostAfterwards : List IdempotentCommandService.CallStep :=
  [.arrive [], .reserve 0 0, .handled 0 (some sampleOutcome),
    .terminalize 0 1, .lose 0]

/-- The second call finds the lease of the first out, whose handler runs on. -/
def slowOwner : List IdempotentCommandService.CallStep :=
  [.arrive [], .reserve 0 0, .arrive [], .reserve 1 30000000]

/--
A lost call may have stored its response; and a handler that ends a second
after its reservation overlaps the slow handler that it took over from.
-/
theorem commands_lost_overlap :
    letI : CasefoldRuntime := asciiCasefoldRuntime
    (¬ ∀ run, sampleService.system.Reachable run →
      ∀ index (call : CommandCall), run.calls[index]? = some call →
        call.phase.isLost = true → run.writer ≠ some index) ∧
    ¬ ∀ run, sampleService.system.Reachable run →
      ∀ i j (first second : CommandCall) (reservation : IdempotencyReservation)
        (outcome : CommandOutcome) (now : Instant),
        i ≠ j → run.calls[i]? = some first → run.calls[j]? = some second →
        second.phase.isHandling = true →
        second.phase.owner = some reservation →
        -- the handler has ended by `now`, before its lease expires
        (((sampleService.step
          (sampleService.step run (.handled j (some outcome)))
          (.terminalize j now)).calls[j]?.bind
            fun call => call.phase.execution).map
              fun known => known.replayed) = some false →
        Binary64.lt (ageSeconds now reservation.updatedAt)
          sampleService.policy.leaseSeconds = true →
        first.phase.isHandling = false := by
  let : CasefoldRuntime := asciiCasefoldRuntime
  refine ⟨?_, ?_⟩
  · intro silent
    have reachable : sampleService.system.Reachable
        (lostAfterwards.foldl sampleService.step CommandRun.empty) :=
      reachable_after reachable_empty lostAfterwards
    have lost : ((lostAfterwards.foldl sampleService.step
        CommandRun.empty).calls[0]?.map fun call => call.phase.isLost) =
          some true := by decide +kernel
    rcases Option.map_eq_some_iff.mp lost with ⟨call, present, isLost⟩
    exact silent _ reachable 0 call present isLost (by decide +kernel)
  · intro apart
    have reachable : sampleService.system.Reachable
        (slowOwner.foldl sampleService.step CommandRun.empty) :=
      reachable_after reachable_empty slowOwner
    have slow : ((slowOwner.foldl sampleService.step
        CommandRun.empty).calls[0]?.map fun call => call.phase.isHandling) =
          some true := by decide +kernel
    have quick : ((slowOwner.foldl sampleService.step
        CommandRun.empty).calls[1]?.map fun call =>
          (call.phase.isHandling, call.phase.owner.map fun reservation =>
            reservation.updatedAt)) = some (true, some 30000000) := by
      decide +kernel
    rcases Option.map_eq_some_iff.mp slow with ⟨first, atFirst, handling⟩
    rcases Option.map_eq_some_iff.mp quick with ⟨second, atSecond, same⟩
    simp only [Prod.mk.injEq, Option.map_eq_some_iff] at same
    rcases same with ⟨running, reservation, held, at_⟩
    have impossible := apart _ reachable 0 1 first second reservation
      sampleOutcome 31000000 (by decide) atFirst atSecond running held
      (by decide +kernel) (by rw [at_]; decide +kernel)
    cases handling.symm.trans impossible

end ParityGrid.Application.Services
