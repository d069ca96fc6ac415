import ParityGrid.Adapters.Connectors.SourceWire
import ParityGrid.Foundation.JsonRoundTrip

/-!
# Failures of the wire functions

Every failure that a wire function states can be given a public detail, so the
exception that it builds is a `ConnectorError`, unless the gate finds a
registered secret in its message or its detail: then the gate's own error is
raised.  Of the decoder's errors only two are not turned into one.
-/

namespace ParityGrid.Adapters.Connectors

open ParityGrid.Foundation
open ParityGrid.Application

section Failures

variable [PatternRuntime]

/-- A registered secret occurs in the message or the public detail. -/
def WireFault.Carries (fault : WireFault) (secrets : SecretMaterial) : Prop :=
  ∃ value ∈ secrets.values, value <:+: fault.message ∨
    ∃ detail, buildPublicDetail fault.summary fault.fragment fault.details
      secrets = .ok detail ∧ value <:+: detail

/-! ## Public details can be built -/

/-- A detail whose `repr` cannot fail. -/
def Detail.Shown : Detail Text → Prop
  | .none => True
  | .bool _ => True
  | .int value => (decimal value.natAbs).length ≤ 4300
  | .text _ => True
  | _ => False

omit [PatternRuntime] in
theorem reprInt_returns {value : Int}
    (short : (decimal value.natAbs).length ≤ 4300) :
    Returns (reprInt value) := by
  rw [reprInt, intReprError, if_neg (Nat.not_lt_of_le short)]
  exact .ok _

theorem renderDetail_returns {secrets : SecretMaterial}
    {entry : Text × Detail Text} (shown : Detail.Shown entry.2) :
    Returns (renderDetail secrets entry) := by
  obtain ⟨key, value⟩ := entry
  cases value with
  | text value => exact .ok _
  | none => exact .ok _
  | bool value => exact .ok _
  | int value =>
      exact (reprInt_returns shown).bind fun _ _ => .ok _
  | mapping entries => cases shown
  | sequence items => cases shown
  | other repr => cases shown

theorem redactEntries_shown {secrets : SecretMaterial}
    {details : List (Text × Detail Text)}
    (shown : ∀ entry ∈ details, Detail.Shown entry.2) :
    ∀ entry ∈ redactEntries secrets details, Detail.Shown entry.2 := by
  induction details with
  | nil => exact fun entry member => absurd member List.not_mem_nil
  | cons first rest ih =>
      obtain ⟨key, value⟩ := first
      rcases List.forall_mem_cons.mp shown with ⟨here, later⟩
      intro entry member
      rw [redactEntries] at member
      rcases List.mem_cons.mp member with rfl | member
      · dsimp only
        split
        · trivial
        · cases value with
          | text value => trivial
          | none => trivial
          | bool value => trivial
          | int value => exact here
          | mapping entries => cases here
          | sequence items => cases here
          | other repr => cases here
      · exact ih later entry member

theorem buildPublicDetail_returns {summary : Text}
    {fragment : Option Fragment} {details : Option (List (Text × Detail Text))}
    {secrets : SecretMaterial} (stated : summary ≠ [])
    (shown : ∀ entries ∈ details, ∀ entry ∈ entries, Detail.Shown entry.2) :
    Returns (buildPublicDetail summary fragment details secrets) := by
  have passed : (!summary.isEmpty) = true := by
    rw [Bool.not_eq_true', List.isEmpty_eq_false_iff]
    exact stated
  rw [buildPublicDetail, passed, require_true, ok_bind]
  cases details with
  | none => exact .ok _
  | some entries =>
      have rendered : Returns (renderDetails secrets entries) := by
        refine returns_mapM.mpr fun entry member => renderDetail_returns ?_
        exact redactEntries_shown (shown entries rfl) entry
          (of_mem_dictOf (mem_sortedBy.mp member))
      exact rendered.bind fun _ _ => .ok _

/-- A fault whose report cannot fail but at the gate. -/
structure WireFault.Sound (fault : WireFault) : Prop where
  stated : fault.summary ≠ []
  shown : ∀ entries ∈ fault.details, ∀ entry ∈ entries, Detail.Shown entry.2
  delay : (fault.retryAfterSeconds.all fun seconds =>
    1 ≤ seconds && seconds ≤ 60)

/-- A detail that can be built, and what the report does with it. -/
theorem WireFault.Sound.built {fault : WireFault} (sound : fault.Sound)
    (secrets : SecretMaterial) :
    ∃ detail, buildPublicDetail fault.summary fault.fragment fault.details
        secrets = .ok detail ∧
      fault.report secrets = ConnectorError.create fault.kind fault.message
        (some detail) fault.retryAfterSeconds (some secrets) := by
  obtain ⟨detail, built⟩ : Returns (buildPublicDetail fault.summary
      fault.fragment fault.details secrets) :=
    buildPublicDetail_returns sound.stated sound.shown
  refine ⟨detail, built, ?_⟩
  rw [WireFault.report, built]
  rfl

/-- A report is a `ConnectorError`, or the gate refuses it. -/
theorem WireFault.Sound.report {fault : WireFault} (sound : fault.Sound)
    (secrets : SecretMaterial) :
    (fault.Carries secrets ∧ fault.report secrets = .error leakError) ∨
      (¬fault.Carries secrets ∧ ∃ error, fault.report secrets = .ok error) := by
  obtain ⟨detail, built, reported⟩ := sound.built secrets
  rw [reported, ConnectorError.create]
  by_cases inMessage : ∃ value ∈ secrets.values, value <:+: fault.message
  · obtain ⟨value, member, carried⟩ := inMessage
    refine .inl ⟨⟨value, member, .inl carried⟩, ?_⟩
    simp only [assertPublicTextIsSafe_error member carried, error_bind]
  have messageClear : ∀ value ∈ secrets.values, ¬value <:+: fault.message :=
    fun value member carried => inMessage ⟨value, member, carried⟩
  by_cases inDetail : ∃ value ∈ secrets.values, value <:+: detail
  · obtain ⟨value, member, carried⟩ := inDetail
    refine .inl ⟨⟨value, member, .inr ⟨detail, built, carried⟩⟩, ?_⟩
    simp only [assertPublicTextIsSafe_ok messageClear, ok_bind,
      assertPublicTextIsSafe_error member carried, error_bind]
  · have detailClear : ∀ value ∈ secrets.values, ¬value <:+: detail :=
      fun value member carried => inDetail ⟨value, member, carried⟩
    refine .inr ⟨?_, ⟨fault.kind, fault.message,
      cutText maxPublicDetailLength detail, fault.retryAfterSeconds⟩, ?_⟩
    · rintro ⟨value, member, carried | ⟨other, again, carried⟩⟩
      · exact messageClear value member carried
      · rw [built] at again
        exact detailClear value member (Except.ok.inj again ▸ carried)
    · simp only [assertPublicTextIsSafe_ok messageClear, ok_bind,
        assertPublicTextIsSafe_ok detailClear, sound.delay, require_true]

/-! ## The faults of each function -/

omit [PatternRuntime] in
theorem decimal_short {n : Nat} (small : n < 10 ^ 123) :
    (decimal n).length ≤ 4300 :=
  Nat.le_trans ((decimal_length_le (by decide)).mpr small) (by decide)

omit [PatternRuntime] in
theorem unknownFault_sound {message summary : String}
    {details : Option (List (Text × Detail Text))} (stated : text summary ≠ [])
    (shown : ∀ entries ∈ details, ∀ entry ∈ entries, Detail.Shown entry.2) :
    (unknownFault message summary details).Sound :=
  ⟨stated, shown, rfl⟩

theorem parseRetryAfter_bounded (retryAfterText : Option Text) :
    ((parseRetryAfter retryAfterText).all fun seconds =>
      1 ≤ seconds && seconds ≤ 60) := by
  cases parsed : parseRetryAfter retryAfterText with
  | none => rfl
  | some seconds =>
      simp only [parseRetryAfter, Option.bind_eq_bind,
        Option.bind_eq_some_iff, Option.guard_eq_some'] at parsed
      obtain ⟨_, _, _, _, _, within, same⟩ := parsed
      rw [Option.some.inj same] at within
      exact within

omit [PatternRuntime] in
theorem statusDetails_shown (status : HttpStatus) :
    ∀ entry ∈ statusDetails status, Detail.Shown entry.2 := by
  intro entry member
  rw [List.mem_singleton.mp member]
  exact decimal_short (Nat.lt_of_le_of_lt status.valid.2 (by decide))

theorem statusFault_sound (status : HttpStatus) (retryAfterText : Option Text)
    (body : ResponseBody) : (statusFault status retryAfterText body).Sound := by
  have shown : ∀ entries ∈ some (statusDetails status), ∀ entry ∈ entries,
      Detail.Shown entry.2 := by
    rintro _ ⟨⟩
    exact statusDetails_shown status
  have stated : text "the source rejected the request" ≠ [] := by decide
  rw [statusFault]
  dsimp only
  split
  · exact ⟨stated, shown, parseRetryAfter_bounded retryAfterText⟩
  split
  · exact ⟨stated, shown, rfl⟩
  split
  · exact ⟨stated, shown, rfl⟩
  · exact unknownFault_sound (by decide) shown

omit [PatternRuntime] in
theorem transportFault_sound (kind : HttpTransportErrorKind) :
    (transportFault kind).Sound := by
  have none_ : ∀ entries ∈ (none : Option (List (Text × Detail Text))),
      ∀ entry ∈ entries, Detail.Shown entry.2 := by
    rintro _ ⟨⟩
  cases kind with
  | connect => exact ⟨by decide, none_, rfl⟩
  | connectTimeout => exact ⟨by decide, none_, rfl⟩
  | readTimeout => exact ⟨by decide, none_, rfl⟩
  | connectionLost => exact ⟨by decide, none_, rfl⟩
  | protocol => exact ⟨by decide, none_, rfl⟩
  | responseTooLarge => exact ⟨by decide, none_, rfl⟩
  | clientClosed => exact ⟨by decide, none_, rfl⟩

omit [PatternRuntime] in
theorem malformedPage_sound : malformedPage.Sound :=
  unknownFault_sound (by decide) (by rintro _ ⟨⟩)

omit [PatternRuntime] in
theorem recordFromPayload_sound {index : Nat} (small : index < 10 ^ 123)
    (payload : JsonValue) (position : Int) :
    RaisesOnly WireFault.Sound (recordFromPayload index payload position) := by
  have indexed : ∀ entry ∈ [(text "record_index", @Detail.int Text index)],
      Detail.Shown entry.2 := by
    intro entry member
    rw [List.mem_singleton.mp member]
    exact decimal_short small
  have noObject : (unknownFault "the source page carried a non-object record"
      "page record is not an object"
      (some [(text "record_index", .int index)])).Sound :=
    unknownFault_sound (by decide) (by rintro _ ⟨⟩; exact indexed)
  cases payload with
  | object fields =>
      rw [recordFromPayload]
      split
      · exact .ok _
      · refine .error (unknownFault_sound (by decide) ?_)
        rintro _ ⟨⟩ entry member
        rcases List.mem_cons.mp member with rfl | member
        · exact decimal_short small
        · rw [List.mem_singleton.mp member]
          trivial
  | scalar value => exact .error noObject
  | string value => exact .error noObject
  | array items => exact .error noObject

omit [PatternRuntime] in
theorem recordsFrom_sound {start : Int} {payloads : List JsonValue}
    (few : payloads.length ≤ 10 ^ 122) :
    RaisesOnly WireFault.Sound (recordsFrom start payloads) := by
  refine .mapM fun (payload, index) member => ?_
  have inside := List.snd_lt_of_mem_zipIdx member
  exact recordFromPayload_sound (by omega) payload _

omit [PatternRuntime] in
theorem overflowingPage_sound {records : List JsonValue} {bound : RecordBound}
    (few : records.length ≤ 10 ^ 122) : (overflowingPage records bound).Sound := by
  refine unknownFault_sound (by decide) ?_
  rintro _ ⟨⟩ entry member
  rcases List.mem_cons.mp member with rfl | member
  · exact decimal_short (by show records.length < 10 ^ 123; omega)
  · rw [List.mem_singleton.mp member]
    have bounded : bound.value ≤ 200 := bound.valid.2
    exact decimal_short (by show bound.value < 10 ^ 123; omega)

/-- A document as `parse_json_document` gives it. -/
structure Parsed (document : JsonValue) : Prop where
  read : document.WellRead
  few : ∀ fields, document = .object fields →
    ∀ entry ∈ fields, FewItems (10 ^ 122) entry.2

theorem readCursorPage_sound {document : JsonValue} (parsed : Parsed document)
    (fallbackPosition : Int) (maxRecords : RecordBound) :
    RaisesOnly WireFault.Sound
      (readCursorPage document fallbackPosition maxRecords) := by
  unfold readCursorPage
  split
  next page =>
    split
    next nextCursor records _ found =>
      have few : records.length ≤ 10 ^ 122 :=
        parsed.few page rfl _ (mem_of_lookup found) records rfl
      exact .bind (.require (overflowingPage_sound few)) fun _ _ =>
        .bind (recordsFrom_sound few) fun _ _ => .ok _
    next => exact .error malformedPage_sound
  next => exact .error malformedPage_sound

theorem integerDetail_shown {value : JsonValue} (read : value.WellRead) :
    Detail.Shown (integerDetail value) := by
  unfold integerDetail
  split
  · exact read
  · trivial
  · trivial

theorem readNumberedPage_sound {document : JsonValue}
    (parsed : Parsed document) (pageNumber : PageNumber)
    (maxRecords : RecordBound) :
    RaisesOnly WireFault.Sound
      (readNumberedPage document pageNumber maxRecords) := by
  unfold readNumberedPage
  split
  next page =>
    split
    next records found =>
      have few : records.length ≤ 10 ^ 122 :=
        parsed.few page rfl _ (mem_of_lookup found) records rfl
      split
      next totalPages answered _ answeredAs =>
        have mismatch : (unknownFault
            "the source answered with a different page than requested"
            "source page mismatch"
            (some [(text "requested", .int pageNumber.value),
              (text "answered", integerDetail answered)])).Sound := by
          refine unknownFault_sound (by decide) ?_
          rintro _ ⟨⟩ entry member
          rcases List.mem_cons.mp member with rfl | member
          · exact decimal_short pageNumber.valid.2
          · rw [List.mem_singleton.mp member]
            have fields := JsonValue.wellReadFields_iff.mp parsed.read.2
            exact integerDetail_shown
              (fields _ (mem_of_lookup answeredAs)).2
        split
        · split
          · exact .bind (.require malformedPage_sound) fun _ _ =>
              .bind (.require mismatch) fun _ _ =>
                .bind (.require (overflowingPage_sound few)) fun _ _ =>
                  .bind (recordsFrom_sound few) fun _ _ => .ok _
          · exact .error malformedPage_sound
        · exact .error malformedPage_sound
      next => exact .error malformedPage_sound
    next => exact .error malformedPage_sound
  next => exact .error malformedPage_sound

/-- A parsed body is a document whose integers are short and arrays small. -/
theorem parseJsonDocument_parsed {body : ResponseBody}
    {secrets : SecretMaterial} {document : JsonValue}
    (parsed : parseJsonDocument body secrets = .ok document) :
    Parsed document := by
  rw [parseJsonDocument] at parsed
  split at parsed
  next => cases parsed
  next t decoded =>
    split at parsed
    next found loaded =>
      cases parsed
      refine ⟨jsonLoads_wellRead (decodeUtf8_unicode decoded) loaded, ?_⟩
      rintro fields rfl entry member items same
      have size := decodeUtf8_length decoded
      have bounded := body.bounded
      have few := jsonLoads_items loaded entry member items same
      simp only [maxResponseBytes] at bounded
      omega
    next failure loaded => split at parsed <;> cases parsed

/-! ## How failures leave -/

/-- No exception outside the taxonomy leaves. -/
def Contained {α : Type} (x : Except SourceFailure α) : Prop :=
  ∀ error, x ≠ .error (.escaped error)

/-- A fault leaves as a `ConnectorError`; the gate's error takes its place
exactly when it would carry a registered secret. -/
def Leaves {α : Type} (fault : WireFault) (secrets : SecretMaterial)
    (x : Except SourceFailure α) : Prop :=
  (fault.Carries secrets ∧ x = .error (.escaped leakError)) ∨
    (¬fault.Carries secrets ∧ ∃ error, x = .error (.connector error))

theorem WireFault.Sound.leaves {α : Type} {fault : WireFault}
    (sound : fault.Sound) (secrets : SecretMaterial) :
    Leaves fault secrets (surface secrets (.error fault : Except WireFault α)) := by
  rcases sound.report secrets with ⟨carries, report⟩ | ⟨clear, error, report⟩
  · exact .inl ⟨carries, by simp only [surface, report]⟩
  · exact .inr ⟨clear, error, by simp only [surface, report]⟩

/-- What reads a page returns it, or states a fault that leaves. -/
theorem surface_leaves {α : Type} {read : Except WireFault α}
    (sound : RaisesOnly WireFault.Sound read) (secrets : SecretMaterial) :
    (∃ page, surface secrets read = .ok page) ∨
      ∃ fault, read = .error fault ∧
        Leaves fault secrets (surface secrets read) := by
  cases read with
  | ok page => exact .inl ⟨page, rfl⟩
  | error fault => exact .inr ⟨fault, rfl, (sound fault rfl).leaves secrets⟩

theorem malformedBody_connector (body : ResponseBody)
    (secrets : SecretMaterial) :
    ∃ error, malformedBody body secrets = .connector error := by
  obtain ⟨detail, built⟩ : Returns (buildPublicDetail
      (text "response body is not valid json") (some (.bytes body.raw)) none
      secrets) :=
    buildPublicDetail_returns (by decide) (by rintro _ ⟨⟩)
  refine ⟨⟨.unknown, text "the source returned a malformed response body",
    cutText maxPublicDetailLength detail, none⟩, ?_⟩
  simp only [malformedBody, built, ok_bind]
  rfl

/-- The decoder raises nothing that the parser does not catch. -/
def Decodes (body : ResponseBody) : Prop :=
  ∀ t, decodeUtf8 body.raw = some t →
    jsonLoads t ≠ .error .digits ∧ jsonLoads t ≠ .error .nesting

theorem parseJsonDocument_contained {body : ResponseBody}
    (decodes : Decodes body) (secrets : SecretMaterial) :
    Contained (parseJsonDocument body secrets) := by
  obtain ⟨error, malformed⟩ := malformedBody_connector body secrets
  intro escaped left
  rw [parseJsonDocument, malformed] at left
  split at left
  next => cases left
  next t decoded =>
    rcases decodes t decoded with ⟨short, shallow⟩
    split at left
    next => cases left
    next failure loaded =>
      cases failure with
      | malformed => cases left
      | digits => exact short loaded
      | nesting => exact shallow loaded

theorem classifyStatusResponse_report (status : HttpStatus)
    (retryAfterText : Option Text) (body : ResponseBody)
    (secrets : SecretMaterial) :
    classifyStatusResponse status retryAfterText body secrets =
      (statusFault status retryAfterText body).report secrets := by
  obtain ⟨detail, built⟩ : Returns (buildPublicDetail
      (text "the source rejected the request") (some (.bytes body.raw))
      (some (statusDetails status)) secrets) := by
    refine buildPublicDetail_returns (by decide) ?_
    rintro _ ⟨⟩
    exact statusDetails_shown status
  rw [classifyStatusResponse, built, ok_bind]

/--
Source failures stay inside the taxonomy, or the gate refuses to report them:
it does exactly when their message or public detail would carry a registered
secret.  A body is parsed, or refused as malformed, unless the JSON decoder
gives up on it with another exception.
-/
theorem source_failures_leave (body : ResponseBody) (secrets : SecretMaterial) :
    (Decodes body → Contained (parseJsonDocument body secrets)) ∧
    (∀ status retryAfterText,
      let fault := statusFault status retryAfterText body
      let answer := classifyStatusResponse status retryAfterText body secrets
      (fault.Carries secrets ∧ answer = .error leakError) ∨
        (¬fault.Carries secrets ∧ ∃ error, answer = .ok error)) ∧
    (∀ kind,
      ((transportFault kind).Carries secrets ∧
          mapTransportError kind secrets = .error leakError) ∨
        (¬(transportFault kind).Carries secrets ∧
          ∃ error, mapTransportError kind secrets = .ok error)) ∧
    ∀ document, parseJsonDocument body secrets = .ok document →
      (∀ fallbackPosition maxRecords,
        let page :=
          extractCursorPage document fallbackPosition maxRecords secrets
        (∃ records, page = .ok records) ∨
          ∃ fault, readCursorPage document fallbackPosition maxRecords =
            .error fault ∧ Leaves fault secrets page) ∧
      ∀ pageNumber maxRecords,
        let page := extractNumberedPage document pageNumber maxRecords secrets
        (∃ records, page = .ok records) ∨
          ∃ fault, readNumberedPage document pageNumber maxRecords =
            .error fault ∧ Leaves fault secrets page := by
  refine ⟨fun decodes => parseJsonDocument_contained decodes secrets,
    fun status retryAfterText => ?_, fun kind => ?_,
    fun document parsed => ⟨fun fallbackPosition maxRecords => ?_,
      fun pageNumber maxRecords => ?_⟩⟩
  · dsimp only
    rw [classifyStatusResponse_report]
    exact (statusFault_sound status retryAfterText body).report secrets
  · exact (transportFault_sound kind).report secrets
  · exact surface_leaves (readCursorPage_sound
      (parseJsonDocument_parsed parsed) fallbackPosition maxRecords) secrets
  · exact surface_leaves (readNumberedPage_sound
      (parseJsonDocument_parsed parsed) pageNumber maxRecords) secrets

end Failures

/-- A registered secret that occurs in fixed messages. -/
def wordRegistry : SecretMaterial where
  values := [text "the"]
  nonempty := by decide
  bounded := by decide
  distinct := List.nodup_singleton _

/-- A page of one empty record. -/
def pageBody : ResponseBody where
  raw := encodeAscii (text "\x7b\"next_cursor\":\"c\",\"records\":[\x7b\x7d]\x7d")
  bounded := by decide

theorem source_failures_leave_sample :
    letI := asciiPatternRuntime
    ∃ document, parseJsonDocument pageBody wordRegistry = .ok document ∧
      let page := extractCursorPage document 0 ⟨1, by decide⟩ wordRegistry
      (∃ records, page = .ok records) ∨
        ∃ fault, readCursorPage document 0 ⟨1, by decide⟩ = .error fault ∧
          Leaves fault wordRegistry page := by
  let _ := asciiPatternRuntime
  obtain ⟨document, parsed⟩ :
      Returns (parseJsonDocument pageBody wordRegistry) :=
    returns_of_isSome (by decide +kernel)
  exact ⟨document, parsed,
    ((source_failures_leave pageBody wordRegistry).2.2.2 _ parsed).1 _ _⟩

/-- A registered word of a fixed message keeps it from being reported. -/
theorem mapTransportError_refuses :
    letI := asciiPatternRuntime
    ¬∀ (kind : HttpTransportErrorKind) (secrets : SecretMaterial),
      ∃ error, mapTransportError kind secrets = .ok error := by
  let _ := asciiPatternRuntime
  intro contained
  obtain ⟨error, reported⟩ := contained .connect wordRegistry
  have carried : (transportFault .connect).Carries wordRegistry :=
    ⟨text "the", List.mem_singleton_self _, .inl
      ⟨[], text " source connection could not be completed", by decide⟩⟩
  rcases (transportFault_sound .connect).report wordRegistry with
    ⟨_, refused⟩ | ⟨clear, _⟩
  · rw [mapTransportError, refused] at reported
    cases reported
  · exact clear carried

end ParityGrid.Adapters.Connectors
