import ParityGrid.Foundation.JavaScript
import ParityGrid.Foundation.Splitting

/-!
# The event stream parser

A chunk of the stream ends anywhere.  The parser keeps the last line back until
its line feed arrives, and the fields of an event until an empty line.
-/

namespace ParityGrid.Web.SseParser

open ParityGrid.Foundation

def lineFeed : CodeUnit := 10

def carriageReturn : CodeUnit := 13

def space : CodeUnit := 32

def colon : CodeUnit := 58

/-- A message as it is read, before its data are parsed. -/
structure SseMessage where
  id : Option JsString
  event : Option JsString
  data : JsString
deriving DecidableEq

structure StreamState where
  id : Option JsString
  event : Option JsString
  data : List JsString
  dispatchPending : Bool
deriving DecidableEq

def emptyState : StreamState := ⟨none, none, [], false⟩

/-- `finalize`, and the state it leaves. -/
def finalize (state : StreamState) : Option SseMessage × StreamState :=
  if state.data.length = 0 ∧ ¬state.dispatchPending then
    (none, { state with id := none, event := none })
  else
    (some ⟨state.id, state.event, [lineFeed].intercalate state.data⟩,
      emptyState)

/-- The name and the value of a field; a line without a colon is a name. -/
def fieldOf (line : JsString) : JsString × JsString :=
  let rawName := match line.idxOf? colon with
    | none => line
    | some index => line.take index
  let value := match line.idxOf? colon with
    | none => []
    | some index => line.drop (index + 1)
  (rawName, if value.head? = some space then value.drop 1 else value)

/-- The `switch` on the name of a field. -/
def setField (state : StreamState) (rawName value : JsString) : StreamState :=
  if rawName = js "id" then { state with id := some value }
  else if rawName = js "event" then { state with event := some value }
  else if rawName = js "data" then
    { state with data := state.data ++ [value], dispatchPending := true }
  -- A retry hint and an unknown name change nothing.
  else state

/-- `handleLine`: the messages it pushes, and the state. -/
def handleLine (state : StreamState) (line : JsString) :
    List SseMessage × StreamState :=
  if line = [] then ((finalize state).1.toList, (finalize state).2)
  else if line.head? = some colon then ([], state)
  else ([], setField state (fieldOf line).1 (fieldOf line).2)

/-- `buffer.search(/\r?\n/)`. -/
def searchLineEnd : JsString → Option Nat
  | [] => none
  | unit :: rest =>
      if unit = lineFeed ∨
          (unit = carriageReturn ∧ rest.head? = some lineFeed) then some 0
      else (searchLineEnd rest).map (· + 1)

theorem searchLineEnd_lt {buffer : JsString} {index : Nat}
    (found : searchLineEnd buffer = some index) : index < buffer.length := by
  induction buffer generalizing index with
  | nil => cases found
  | cons unit rest ih =>
      rw [searchLineEnd] at found
      split at found
      · cases found
        exact Nat.zero_lt_succ _
      · obtain ⟨before, earlier, rfl⟩ := Option.map_eq_some_iff.mp found
        exact Nat.succ_lt_succ (ih earlier)

structure Parser where
  buffer : JsString
  state : StreamState
deriving DecidableEq

def createSseParser : Parser := ⟨[], emptyState⟩

/-- The loop of `push`. -/
def Parser.readLines (parser : Parser) : List SseMessage × Parser :=
  match _found : searchLineEnd parser.buffer with
  | none => ([], parser)
  | some newlineIndex =>
      let line := parser.buffer.take newlineIndex
      let ending := if [carriageReturn, lineFeed].isPrefixOf
        (parser.buffer.drop line.length) then 2 else 1
      let turn := handleLine parser.state line
      let next := readLines ⟨parser.buffer.drop (line.length + ending), turn.2⟩
      (turn.1 ++ next.1, next.2)
termination_by parser.buffer.length
decreasing_by
  have inside := searchLineEnd_lt _found
  rw [List.length_drop, List.length_take_of_le inside.le]
  split <;> omega

/-- `push`. -/
def Parser.push (parser : Parser) (chunk : JsString) :
    List SseMessage × Parser :=
  readLines { parser with buffer := parser.buffer ++ chunk }

/-- `flush`. -/
def Parser.flush (parser : Parser) : List SseMessage × Parser :=
  let turn := if parser.buffer ≠ [] then handleLine parser.state parser.buffer
    else ([], parser.state)
  let last := finalize turn.2
  (turn.1 ++ last.1.toList, ⟨[], last.2⟩)

/-- The messages of the pushes, one chunk after the other. -/
def Parser.pushAll (parser : Parser) :
    List JsString → List SseMessage × Parser
  | [] => ([], parser)
  | chunk :: chunks =>
      let turn := parser.push chunk
      let next := pushAll turn.2 chunks
      (turn.1 ++ next.1, next.2)

/-- What the transport hands on: the pushes of every chunk, then the flush. -/
def received (chunks : List JsString) : List SseMessage :=
  let pushed := createSseParser.pushAll chunks
  pushed.1 ++ pushed.2.flush.1

/-! ## What a stream says -/

/-- The value of a line that is a field of this name. -/
def fieldValue (name : String) (line : JsString) : Option JsString :=
  if line.head? = some colon then none
  else if (fieldOf line).1 = js name then some (fieldOf line).2 else none

/-- The message of a run of lines, if one of them is a data field. -/
def runMessage (run : List JsString) : Option SseMessage :=
  let data := run.filterMap (fieldValue "data")
  if data = [] then none
  else some {
    id := (run.filterMap (fieldValue "id")).getLast?
    event := (run.filterMap (fieldValue "event")).getLast?
    data := [lineFeed].intercalate data }

/-- A line without the carriage return before its line feed. -/
def withoutReturn (line : JsString) : JsString :=
  if line.getLast? = some carriageReturn then line.dropLast else line

/-- The lines of a text that a line feed ends. -/
def streamLines (t : JsString) : List JsString :=
  (terminated lineFeed t).map withoutReturn

/-- The runs of lines that an empty line ends. -/
def completeRuns (t : JsString) : List (List JsString) :=
  terminated [] (streamLines t)

/-- The lines after the last empty line, and what is left of the text. -/
def openRun (t : JsString) : List JsString :=
  unterminated [] (streamLines t) ++ [unterminated lineFeed t]

/-! ## Fields -/

/-- The state after the lines of a run. -/
def runState (run : List JsString) : StreamState where
  id := (run.filterMap (fieldValue "id")).getLast?
  event := (run.filterMap (fieldValue "event")).getLast?
  data := run.filterMap (fieldValue "data")
  dispatchPending := run.filterMap (fieldValue "data") ≠ []

theorem finalize_runState (run : List JsString) :
    finalize (runState run) = (runMessage run, emptyState) := by
  rw [finalize, runMessage]
  by_cases none_ : run.filterMap (fieldValue "data") = []
  · rw [if_pos (by simp [runState, none_]), if_pos none_]
    simp [runState, none_, emptyState]
  · rw [if_neg (by simp [runState, none_]), if_neg none_]
    rfl

theorem fieldValue_nil (name : String) (named : js name ≠ []) :
    fieldValue name [] = none := by
  rw [fieldValue, if_neg (by simp)]
  exact if_neg fun same => named same.symm

/-- A line that is not empty adds itself to the run. -/
theorem handleLine_runState (run : List JsString) {line : JsString}
    (some_ : line ≠ []) :
    handleLine (runState run) line = ([], runState (run ++ [line])) := by
  rw [handleLine, if_neg some_]
  by_cases comment : line.head? = some colon
  · have skipped (name : String) : fieldValue name line = none :=
      if_pos comment
    rw [if_pos comment, runState, runState]
    simp only [List.filterMap_append, List.filterMap_cons, skipped,
      List.filterMap_nil, List.append_nil]
  · have value (name : String) : fieldValue name line =
        if (fieldOf line).1 = js name then some (fieldOf line).2 else none :=
      if_neg comment
    rw [if_neg comment, runState, runState, setField]
    generalize fieldOf line = field at value ⊢
    congr 1
    by_cases isId : field.1 = js "id"
    · rw [if_pos isId]
      simp [List.filterMap_append, value, isId, js_injective.eq_iff]
    · rw [if_neg isId]
      by_cases isEvent : field.1 = js "event"
      · rw [if_pos isEvent]
        simp [List.filterMap_append, value, isEvent, js_injective.eq_iff]
      · rw [if_neg isEvent]
        by_cases isData : field.1 = js "data"
        · rw [if_pos isData]
          simp [List.filterMap_append, value, isData, js_injective.eq_iff]
        · rw [if_neg isData]
          simp [List.filterMap_append, value, isId, isEvent, isData]

/-- The messages of the lines, and the state after them. -/
def handleLines (state : StreamState) :
    List JsString → List SseMessage × StreamState
  | [] => ([], state)
  | line :: lines =>
      let turn := handleLine state line
      let next := handleLines turn.2 lines
      (turn.1 ++ next.1, next.2)

theorem handleLines_append (state : StreamState) (lines more : List JsString) :
    handleLines state (lines ++ more) =
      ((handleLines state lines).1 ++
        (handleLines (handleLines state lines).2 more).1,
      (handleLines (handleLines state lines).2 more).2) := by
  induction lines generalizing state with
  | nil => rfl
  | cons line lines ih =>
      rw [List.cons_append, handleLines, ih]
      simp only [handleLines, List.append_assoc]

/-- An empty line hands on the message of the run. -/
theorem handleLine_nil (run : List JsString) :
    handleLine (runState run) [] =
      ((runMessage run).toList, runState []) := by
  rw [handleLine, if_pos rfl, finalize_runState]
  rfl

/-- Lines without an empty one make the run longer. -/
theorem handleLines_run (run : List JsString) {lines : List JsString}
    (free : [] ∉ lines) :
    handleLines (runState run) lines = ([], runState (run ++ lines)) := by
  induction lines generalizing run with
  | nil => rw [handleLines, List.append_nil]
  | cons line lines ih =>
      rw [List.mem_cons, not_or] at free
      simp only [handleLines, handleLine_runState run (Ne.symm free.1),
        ih _ free.2, List.nil_append, List.append_assoc, List.cons_append]

/-- Every run that an empty line ends hands on its message. -/
theorem handleLines_runs (lines : List JsString) :
    handleLines emptyState lines =
      ((terminated [] lines).filterMap runMessage,
        runState (unterminated [] lines)) := by
  induction lines using pieces_induction ([] : JsString) with
  | free piece free =>
      rw [terminated_of_notMem free, unterminated_of_notMem free]
      exact handleLines_run [] free
  | cut piece rest free ih =>
      rw [terminated_cut free, unterminated_cut free, handleLines_append]
      have run : handleLines emptyState piece = ([], runState piece) :=
        handleLines_run [] free
      rw [run]
      simp only [handleLines, handleLine_nil]
      have start : runState [] = emptyState := rfl
      rw [start, ih]
      cases message : runMessage piece <;> simp [message]

/-! ## Lines -/

/-- A line, and the end that the search finds after it. -/
def EndsLine (line ending : JsString) : Prop :=
  ending = [carriageReturn, lineFeed] ∨
    (ending = [lineFeed] ∧ line.getLast? ≠ some carriageReturn)

theorem withoutReturn_ends (piece : JsString) :
    ∃ ending, piece ++ [lineFeed] = withoutReturn piece ++ ending ∧
      EndsLine (withoutReturn piece) ending := by
  rw [withoutReturn]
  by_cases returns : piece.getLast? = some carriageReturn
  · rw [if_pos returns]
    refine ⟨[carriageReturn, lineFeed], ?_, .inl rfl⟩
    obtain ⟨before, rfl⟩ := List.getLast?_eq_some_iff.mp returns
    rw [List.dropLast_concat, List.append_assoc]
    rfl
  · rw [if_neg returns]
    exact ⟨[lineFeed], rfl, .inr ⟨rfl, returns⟩⟩

theorem searchLineEnd_ends {line ending rest : JsString}
    (free : lineFeed ∉ line) (ends : EndsLine line ending) :
    searchLineEnd (line ++ (ending ++ rest)) = some line.length := by
  induction line with
  | nil =>
      rcases ends with rfl | ⟨rfl, _⟩
      · rfl
      · rfl
  | cons unit line ih =>
      rw [List.mem_cons, not_or] at free
      have later : EndsLine line ending := by
        refine ends.imp_right (And.imp_right fun final same => final ?_)
        obtain ⟨before, rfl⟩ := List.getLast?_eq_some_iff.mp same
        rw [← List.cons_append]
        exact List.getLast?_concat
      rw [List.cons_append, searchLineEnd, if_neg, ih free.2 later]
      · rfl
      · rintro (feed | ⟨return_, next⟩)
        · exact free.1 feed.symm
        · cases line with
          | nil =>
              rcases ends with rfl | ⟨rfl, final⟩
              · cases next
              · exact final (congrArg some return_)
          | cons first line =>
              have same : first = lineFeed := Option.some.inj next
              exact free.2 (same ▸ List.mem_cons_self)

theorem searchLineEnd_eq_none {buffer : JsString} (free : lineFeed ∉ buffer) :
    searchLineEnd buffer = none := by
  induction buffer with
  | nil => rfl
  | cons unit rest ih =>
      rw [List.mem_cons, not_or] at free
      rw [searchLineEnd, if_neg, ih free.2]
      · rfl
      · rintro (feed | ⟨_, next⟩)
        · exact free.1 feed.symm
        · exact free.2 (List.mem_of_head? next)

/-- One turn of the loop reads one line. -/
theorem readLines_cut (state : StreamState) {piece rest : JsString}
    (free : lineFeed ∉ piece) :
    Parser.readLines ⟨piece ++ lineFeed :: rest, state⟩ =
      ((handleLine state (withoutReturn piece)).1 ++
        (Parser.readLines
          ⟨rest, (handleLine state (withoutReturn piece)).2⟩).1,
      (Parser.readLines
        ⟨rest, (handleLine state (withoutReturn piece)).2⟩).2) := by
  obtain ⟨ending, form, ends⟩ := withoutReturn_ends piece
  have inside : lineFeed ∉ withoutReturn piece := by
    rw [withoutReturn]
    split
    · exact fun member => free (List.dropLast_subset _ member)
    · exact free
  have whole : piece ++ lineFeed :: rest =
      withoutReturn piece ++ (ending ++ rest) := by
    rw [← List.append_assoc, ← form, List.append_assoc]
    rfl
  generalize withoutReturn piece = line at *
  have found : searchLineEnd (piece ++ lineFeed :: rest) = some line.length :=
    whole ▸ searchLineEnd_ends inside ends
  rw [Parser.readLines]
  split
  · rename_i absent
    rw [found] at absent
    cases absent
  · rename_i index place
    rw [found] at place
    cases place
    have taken : (piece ++ lineFeed :: rest).take line.length = line :=
      whole ▸ List.take_left
    have dropped : (piece ++ lineFeed :: rest).drop line.length =
        ending ++ rest :=
      whole ▸ List.drop_left
    have length : (if [carriageReturn, lineFeed].isPrefixOf (ending ++ rest)
        then 2 else 1) = ending.length := by
      rcases ends with rfl | ⟨rfl, _⟩
      · rfl
      · rfl
    have after : (piece ++ lineFeed :: rest).drop
        (line.length + ending.length) = rest := by
      rw [← List.drop_drop, dropped, List.drop_left]
    simp only [taken, dropped, length, after]

theorem readLines_free (state : StreamState) {buffer : JsString}
    (free : lineFeed ∉ buffer) :
    Parser.readLines ⟨buffer, state⟩ = ([], ⟨buffer, state⟩) := by
  rw [Parser.readLines]
  split
  · rfl
  · rename_i index place
    rw [searchLineEnd_eq_none free] at place
    cases place

/-- The loop handles the lines that are ended, and keeps the rest back. -/
theorem readLines_eq (state : StreamState) (buffer : JsString) :
    Parser.readLines ⟨buffer, state⟩ =
      ((handleLines state (streamLines buffer)).1,
        ⟨unterminated lineFeed buffer,
          (handleLines state (streamLines buffer)).2⟩) := by
  induction buffer using pieces_induction lineFeed generalizing state with
  | free piece free =>
      rw [readLines_free state free, streamLines, terminated_of_notMem free,
        unterminated_of_notMem free]
      rfl
  | cut piece rest free ih =>
      have lines : streamLines (piece ++ lineFeed :: rest) =
          withoutReturn piece :: streamLines rest :=
        congrArg (List.map withoutReturn) (terminated_cut free)
      rw [readLines_cut state free, ih, lines, unterminated_cut free]
      rfl

/-! ## Chunks -/

theorem streamLines_append (t more : JsString) :
    streamLines (t ++ more) =
      streamLines t ++ streamLines (unterminated lineFeed t ++ more) := by
  rw [streamLines, terminated_append, List.map_append]
  rfl

/-- The messages of the lines of a text that are ended. -/
def messagesOf (t : JsString) : List SseMessage :=
  (handleLines emptyState (streamLines t)).1

/-- The parser after a text: the unfinished line, and the open run. -/
def parserAfter (t : JsString) : Parser :=
  ⟨unterminated lineFeed t, (handleLines emptyState (streamLines t)).2⟩

theorem messagesOf_eq (t : JsString) :
    messagesOf t = (completeRuns t).filterMap runMessage := by
  rw [messagesOf, handleLines_runs]
  rfl

/-- A chunk hands on what it adds to the messages of the text. -/
theorem push_parserAfter (t chunk : JsString) :
    messagesOf (t ++ chunk) = messagesOf t ++ ((parserAfter t).push chunk).1 ∧
      ((parserAfter t).push chunk).2 = parserAfter (t ++ chunk) := by
  have pushed : (parserAfter t).push chunk = _ :=
    readLines_eq (parserAfter t).state (unterminated lineFeed t ++ chunk)
  rw [pushed, messagesOf, parserAfter, parserAfter, streamLines_append,
    handleLines_append, unterminated_append lineFeed t chunk]
  exact ⟨rfl, rfl⟩

theorem pushAll_parserAfter (t : JsString) (chunks : List JsString) :
    messagesOf (t ++ chunks.flatten) =
        messagesOf t ++ ((parserAfter t).pushAll chunks).1 ∧
      ((parserAfter t).pushAll chunks).2 =
        parserAfter (t ++ chunks.flatten) := by
  induction chunks generalizing t with
  | nil =>
      rw [List.flatten_nil, List.append_nil]
      exact ⟨(List.append_nil _).symm, rfl⟩
  | cons chunk chunks ih =>
      obtain ⟨messages, next⟩ := push_parserAfter t chunk
      obtain ⟨later, final⟩ := ih (t ++ chunk)
      rw [List.flatten_cons, ← List.append_assoc]
      simp only [Parser.pushAll, next]
      rw [later, messages, List.append_assoc]
      exact ⟨rfl, final⟩

/-- An empty rest of the text adds nothing to the open run. -/
theorem runMessage_concat_nil (run : List JsString) :
    runMessage (run ++ [[]]) = runMessage run := by
  have skipped (name : String) (named : js name ≠ []) :
      (run ++ [[]]).filterMap (fieldValue name) =
        run.filterMap (fieldValue name) := by
    simp only [List.filterMap_append, List.filterMap_cons,
      fieldValue_nil name named, List.filterMap_nil, List.append_nil]
  rw [runMessage, skipped "data" (by decide), skipped "id" (by decide),
    skipped "event" (by decide)]
  rfl

/-- The end of the stream hands on the open run. -/
theorem flush_parserAfter (t : JsString) :
    (parserAfter t).flush.1 = (runMessage (openRun t)).toList := by
  rw [Parser.flush, parserAfter, handleLines_runs]
  dsimp only
  rw [openRun]
  by_cases rest : unterminated lineFeed t = []
  · rw [if_neg (not_not.mpr rest), finalize_runState, rest,
      runMessage_concat_nil]
    rfl
  · rw [if_pos rest, handleLine_runState _ rest]
    dsimp only
    rw [finalize_runState]
    rfl

theorem pushAll_messages (chunks : List JsString) :
    (createSseParser.pushAll chunks).1 =
        (completeRuns chunks.flatten).filterMap runMessage ∧
      (createSseParser.pushAll chunks).2.flush.1 =
        (runMessage (openRun chunks.flatten)).toList := by
  have start : createSseParser = parserAfter [] := rfl
  obtain ⟨messages, final⟩ := pushAll_parserAfter [] chunks
  rw [List.nil_append, messagesOf_eq] at messages
  rw [start]
  refine ⟨messages.symm, ?_⟩
  rw [final, flush_parserAfter, List.nil_append]

/--
However the stream is cut, the pushes hand on the runs with a data field that
an empty line ends, and the end of the stream the open run.
-/
theorem sse_received (chunks : List JsString) :
    received chunks = received [chunks.flatten] ∧
      (createSseParser.pushAll chunks).1 =
        (completeRuns chunks.flatten).filterMap runMessage ∧
      (createSseParser.pushAll chunks).2.flush.1 =
        (runMessage (openRun chunks.flatten)).toList := by
  obtain ⟨pushed, flushed⟩ := pushAll_messages chunks
  obtain ⟨whole, last⟩ := pushAll_messages [chunks.flatten]
  have same : [chunks.flatten].flatten = chunks.flatten :=
    List.flatten_singleton
  refine ⟨?_, pushed, flushed⟩
  rw [received, pushed, flushed, received, whole, last, same]

/-- The last event of a stream needs no empty line after it. -/
theorem sse_received_unfinished :
    completeRuns (js "data: 7") = [] ∧
      received [js "data: 7"] = [⟨none, none, js "7"⟩] := by
  obtain ⟨pushed, flushed⟩ := pushAll_messages [js "data: 7"]
  refine ⟨by decide, ?_⟩
  rw [received, pushed, flushed]
  decide

example : received [js "id: 1\r", js "\ndata: a\r\n\r", js "\nda", js "ta: b"] =
    [⟨some (js "1"), none, js "a"⟩, ⟨none, none, js "b"⟩] := by
  obtain ⟨pushed, flushed⟩ := pushAll_messages
    [js "id: 1\r", js "\ndata: a\r\n\r", js "\nda", js "ta: b"]
  rw [received, pushed, flushed]
  decide +kernel

end ParityGrid.Web.SseParser
