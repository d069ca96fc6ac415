import ParityGrid.Application.Ports.TargetConnector
import ParityGrid.Domain.Reconciliation.Normalization

/-!
# Observing the whole target

The verifier reads the target page by page until a page names no next one.  The
target may serve anything: what it repeats, and what exceeds the bounds, ends
the observation with an exception.
-/

namespace ParityGrid.Application

open ParityGrid.Foundation
open ParityGrid.Domain

/-- `_MAX_FINGERPRINT_ITEMS`. -/
def Observation.maxFingerprintItems : Nat := 10000

/-- `RuntimeError(message)`. -/
def runtimeError (message : String) : PythonError :=
  .raised (text "RuntimeError") false (text message)

/-- What `raise_if_cancelled` raises. -/
def connectorCancelledError : PythonError :=
  .raised (text "ConnectorCancelledError") false
    (text "the connector call was cancelled before completion")

section Observation

variable [PythonRuntime]

/-! ## Payloads -/

/-- `TARGET_OBSERVATION_CONNECTOR`. -/
def targetObservationConnector : ConnectorId :=
  ⟨text "con_target-observation", by decide +kernel⟩

/-- `parse_observed_payload` of a mapping. -/
def parseObservedPayload (position : Nat) (payload : Payload)
    (distinct : (JsonValue.object payload).keysDistinct) :
    Except PythonError NormalizationEntry :=
  normalizeObservation
    { position
      connectorId := targetObservationConnector
      payload := .mapping payload distinct }

/-! ## One page -/

/-- What surrounds an observation: the page that each read is served, or what
it raises, and when a cancellation is seen. -/
structure ObservedTarget where
  page : Nat → Except PythonError TargetRecordPage
  cancelledAtPage : Nat → Bool
  cancelledAtRecord : Nat → Bool

/-- The keys seen and the records accepted so far. -/
structure Enumeration where
  seenKeys : List Text
  records : List InventoryRecord

/-- The body of the loop over the records of a page. -/
def takeRecord (target : ObservedTarget) (found : Enumeration)
    (served : TargetRecord) : Except PythonError Enumeration := do
  require (!target.cancelledAtRecord found.records.length)
    connectorCancelledError
  require (!found.seenKeys.contains served.sku)
    (runtimeError "the target enumeration repeated a record key")
  match ← parseObservedPayload found.records.length served.payload
      served.distinct with
  | .quarantined _ => .error (runtimeError
      "the target enumeration contains an unparsable record")
  | .record parsed => do
      let records := found.records ++ [parsed.record]
      require (records.length ≤ Observation.maxFingerprintItems) (runtimeError
        "the target enumeration exceeds the verification inventory bound")
      return { seenKeys := served.sku :: found.seenKeys, records }

/-- The loop over the records of a page. -/
def takeRecords (target : ObservedTarget) (found : Enumeration)
    (records : List TargetRecord) : Except PythonError Enumeration :=
  records.foldlM (takeRecord target) found

/-! ## The loop -/

/-- The loop of `_observe_inventory`, with the number of pages read.  Every turn
but the last adds a cursor to those seen. -/
def observePages (target : ObservedTarget) (reads : Nat)
    (seenCursors : List Text) (found : Enumeration) :
    Nat × Except PythonError (List InventoryRecord) :=
  if target.cancelledAtPage reads then
    (reads, .error connectorCancelledError)
  else
    match target.page reads with
    | .error error => (reads + 1, .error error)
    | .ok page =>
        match takeRecords target found page.records with
        | .error error => (reads + 1, .error error)
        | .ok found =>
            match page.nextCursor with
            | none => (reads + 1, .ok found.records)
            | some cursor =>
                if seenCursors.contains cursor then
                  (reads + 1, .error (runtimeError
                    "the target enumeration cursor repeated"))
                else if Observation.maxFingerprintItems < seenCursors.length + 1 then
                  (reads + 1, .error (runtimeError
                    "the target enumeration exceeds the page bound"))
                else
                  observePages target (reads + 1) (cursor :: seenCursors)
                    found
termination_by Observation.maxFingerprintItems - seenCursors.length
decreasing_by
  simp only [List.length_cons]
  omega

/-- `_observe_inventory`. -/
def observeInventory (target : ObservedTarget) :
    Nat × Except PythonError (List InventoryRecord) :=
  observePages target 0 [] ⟨[], []⟩

/-! ## What is accepted -/

/-- The accepted records are those served, each parsed at its position, under
keys that are all different. -/
structure Enumerates (served : List TargetRecord) (found : Enumeration) :
    Prop where
  keys : found.seenKeys = (served.map (·.sku)).reverse
  distinct : (served.map (·.sku)).Nodup
  length : found.records.length = served.length
  parsed : ∀ (position : Nat) (record : TargetRecord),
    served[position]? = some record → ∃ normalized : NormalizedRecord,
      parseObservedPayload position record.payload record.distinct =
        .ok (.record normalized) ∧
      found.records[position]? = some normalized.record
  bounded : found.records.length ≤ Observation.maxFingerprintItems

theorem Enumerates.nil : Enumerates [] ⟨[], []⟩ where
  keys := rfl
  distinct := List.nodup_nil
  length := rfl
  parsed := by simp
  bounded := Nat.zero_le _

variable {target : ObservedTarget} {served : List TargetRecord}
  {found after : Enumeration}

/-- One more record. -/
theorem Enumerates.take (enumerates : Enumerates served found)
    {record : TargetRecord}
    (taken : takeRecord target found record = .ok after) :
    Enumerates (served ++ [record]) after := by
  simp only [takeRecord, bind_eq_ok, require_eq_ok] at taken
  obtain ⟨_, _, _, fresh, entry, parses, taken⟩ := taken
  cases entry with
  | quarantined _ => cases taken
  | record normalized =>
      simp only [bind_eq_ok, require_eq_ok, decide_eq_true_eq] at taken
      obtain ⟨_, bounded, returned⟩ := taken
      cases returned
      have unseen : record.sku ∉ served.map (·.sku) := by
        rw [Bool.not_eq_true', List.contains_eq_mem,
          decide_eq_false_iff_not, enumerates.keys, List.mem_reverse]
          at fresh
        exact fresh
      refine ⟨?_, ?_, ?_, ?_, bounded⟩
      · simp [enumerates.keys]
      · rw [List.map_append, List.map_singleton, List.nodup_append]
        refine ⟨enumerates.distinct, List.nodup_singleton _, ?_⟩
        intro key member other single same
        rw [List.mem_singleton] at single
        exact unseen (single ▸ same ▸ member)
      · simp [enumerates.length]
      · intro position other inside
        by_cases earlier : position < served.length
        · rw [List.getElem?_append_left earlier] at inside
          obtain ⟨before, parsesBefore, kept⟩ :=
            enumerates.parsed position other inside
          refine ⟨before, parsesBefore, ?_⟩
          rw [List.getElem?_append_left (by rwa [enumerates.length])]
          exact kept
        · have last : position = served.length := by
            have bound := (List.getElem?_eq_some_iff.mp inside).1
            rw [List.length_append, List.length_singleton] at bound
            omega
          subst last
          rw [List.getElem?_concat_length, Option.some.injEq] at inside
          subst inside
          rw [enumerates.length] at parses
          refine ⟨normalized, parses, ?_⟩
          rw [← enumerates.length, List.getElem?_concat_length]

/-- The records of one page. -/
theorem Enumerates.takeAll (enumerates : Enumerates served found)
    {records : List TargetRecord}
    (taken : takeRecords target found records = .ok after) :
    Enumerates (served ++ records) after := by
  induction records generalizing served found with
  | nil =>
      cases taken
      rwa [List.append_nil]
  | cons record rest ih =>
      rw [takeRecords, List.foldlM_cons, bind_eq_ok] at taken
      obtain ⟨next, first, later⟩ := taken
      have reached := ih (enumerates.take first) later
      rwa [List.append_assoc, List.singleton_append] at reached

/-! ## Every stream -/

/-- The pages that the first reads are served, the last without a cursor. -/
structure ReadsPages (target : ObservedTarget) (start : Nat)
    (pages : List TargetRecordPage) : Prop where
  served : ∀ (index : Nat) (page : TargetRecordPage),
    pages[index]? = some page → target.page (start + index) = .ok page
  continued : ∀ page ∈ pages.dropLast, page.nextCursor ≠ none
  ended : ∃ page, pages.getLast? = some page ∧ page.nextCursor = none

omit [PythonRuntime] in
theorem ReadsPages.single {start : Nat} {page : TargetRecordPage}
    (served : target.page start = .ok page) (ended : page.nextCursor = none) :
    ReadsPages target start [page] where
  served := by
    rintro (_ | index) other inside
    · rw [List.getElem?_cons_zero, Option.some.injEq] at inside
      subst inside
      exact served
    · simp at inside
  continued := by simp
  ended := ⟨page, rfl, ended⟩

omit [PythonRuntime] in
theorem ReadsPages.cons {start : Nat} {page : TargetRecordPage}
    {pages : List TargetRecordPage} (served : target.page start = .ok page)
    (continued : page.nextCursor ≠ none)
    (rest : ReadsPages target (start + 1) pages) :
    ReadsPages target start (page :: pages) := by
  have nonempty : pages ≠ [] := by
    rintro rfl
    obtain ⟨last, isLast, _⟩ := rest.ended
    cases isLast
  refine ⟨?_, ?_, ?_⟩
  · rintro (_ | index) other inside
    · rw [List.getElem?_cons_zero, Option.some.injEq] at inside
      subst inside
      exact served
    · rw [List.getElem?_cons_succ] at inside
      have later := rest.served index other inside
      rwa [Nat.add_right_comm, Nat.add_assoc] at later
  · intro other member
    rw [List.dropLast_cons_of_ne_nil nonempty] at member
    rcases List.mem_cons.mp member with rfl | member
    · exact continued
    · exact rest.continued other member
  · obtain ⟨last, isLast, ended⟩ := rest.ended
    refine ⟨last, ?_, ended⟩
    rw [List.getLast?_cons, isLast, Option.getD_some]

/-- From any turn on: every further read but the last has a cursor of its own,
and what is returned are the records of the pages read. -/
theorem observePages_spec (target : ObservedTarget) {reads : Nat}
    {seenCursors : List Text} {found : Enumeration}
    (inStep : reads = seenCursors.length)
    (few : seenCursors.length ≤ Observation.maxFingerprintItems)
    (enumerates : Enumerates served found) :
    (observePages target reads seenCursors found).1 ≤
        Observation.maxFingerprintItems + 1 ∧
      ∀ records,
        (observePages target reads seenCursors found).2 = .ok records →
        ∃ pages, ReadsPages target reads pages ∧
          reads + pages.length =
            (observePages target reads seenCursors found).1 ∧
          ∃ final, final.records = records ∧
            Enumerates (served ++ pages.flatMap (·.records)) final := by
  induction reads, seenCursors, found using
    observePages.induct target generalizing served with
  | case1 reads seenCursors found cancelled =>
      rw [observePages, if_pos cancelled]
      exact ⟨by omega, fun records returned => by cases returned⟩
  | case2 reads seenCursors found running error raised =>
      rw [observePages, if_neg running, raised]
      exact ⟨by simp only; omega, fun records returned => by cases returned⟩
  | case3 reads seenCursors found running page read error raised =>
      rw [observePages, if_neg running, read]
      simp only [raised]
      exact ⟨by omega, fun records returned => by cases returned⟩
  | case4 reads seenCursors found running page read after taken last =>
      rw [observePages, if_neg running, read]
      simp only [taken, last]
      refine ⟨by omega, fun records returned => ?_⟩
      cases returned
      refine ⟨[page], .single read last, rfl, after, rfl, ?_⟩
      simpa using enumerates.takeAll taken
  | case5 reads seenCursors found running page read after taken cursor next
      repeated =>
      rw [observePages, if_neg running, read]
      simp only [taken, next, if_pos repeated]
      exact ⟨by omega, fun records returned => by cases returned⟩
  | case6 reads seenCursors found running page read after taken cursor next
      fresh full =>
      rw [observePages, if_neg running, read]
      simp only [taken, next, if_neg fresh, if_pos full]
      exact ⟨by omega, fun records returned => by cases returned⟩
  | case7 reads seenCursors found running page read after taken cursor next
      fresh room ih =>
      rw [observePages, if_neg running, read]
      simp only [taken, next, if_neg fresh, if_neg room]
      obtain ⟨bounded, returns⟩ := ih (by simp [inStep])
        (by simp only [List.length_cons]; omega) (enumerates.takeAll taken)
      refine ⟨bounded, fun records returned => ?_⟩
      obtain ⟨pages, reads_, total, final, same, all⟩ :=
        returns records returned
      refine ⟨page :: pages, .cons read (by simp [next]) reads_, ?_, final,
        same, ?_⟩
      · rw [List.length_cons, ← total]
        omega
      · rwa [List.flatMap_cons, ← List.append_assoc]

/-- Whatever a target serves, the observation ends after at most 10,001 reads;
it returns only what it was served up to a page without a cursor. -/
theorem observeInventory_complete (target : ObservedTarget) :
    (observeInventory target).1 ≤ 10001 ∧
      ∀ records, (observeInventory target).2 = .ok records →
        ∃ pages, ReadsPages target 0 pages ∧
          pages.length = (observeInventory target).1 ∧
          records.length = (pages.flatMap (·.records)).length ∧
          records.length ≤ 10000 ∧
          ((pages.flatMap (·.records)).map (·.sku)).Nodup ∧
          ∀ (position : Nat) (record : TargetRecord),
            (pages.flatMap (·.records))[position]? = some record →
            ∃ normalized : NormalizedRecord,
              parseObservedPayload position record.payload record.distinct =
                .ok (.record normalized) ∧
              records[position]? = some normalized.record := by
  have start : 0 = ([] : List Text).length := rfl
  obtain ⟨bounded, returns⟩ :=
    observePages_spec target start (Nat.zero_le _) Enumerates.nil
  refine ⟨bounded, fun records returned => ?_⟩
  obtain ⟨pages, reads, total, final, same, all⟩ := returns records returned
  rw [List.nil_append] at all
  subst same
  exact ⟨pages, reads, by simpa [observeInventory] using total, all.length, all.bounded,
    all.distinct, all.parsed⟩

end Observation

end ParityGrid.Application
