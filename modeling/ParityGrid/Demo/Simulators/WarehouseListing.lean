import ParityGrid.Application.Ports.TargetConnector
import ParityGrid.Demo.Simulators.WarehouseCalls
import ParityGrid.Foundation.Ascii
import ParityGrid.Foundation.Base64

/-!
# Listing the warehouse

The records are listed page by page in the order of their SKUs.  The cursor of
a page encodes the position of its first record, and the last page has none.
-/

namespace ParityGrid.Demo

open Foundation Domain

/-! ## Cursors -/

/-- `f"{n:0{width}d}"`. -/
def paddedDecimal (width n : Nat) : Text :=
  List.replicate (width - (decimal n).length) (point '0') ++ decimal n

/-- `_encode_cursor`. -/
def encodeCursor (position : Nat) : Text :=
  stripPadding (urlsafeEncode
    (encodeAscii (text "wh1:" ++ paddedDecimal 10 position)))

/-- What `_decode_cursor` makes of the decoded text. -/
def readPosition (decoded : Text) (total : Nat) : Option Nat :=
  let head := decoded.takeWhile (· ≠ point ':')
  let digits := decoded.drop (head.length + 1)
  if head = text "wh1" && head.length < decoded.length &&
      digits != [] && digits.all isDigit && numeral digits ≤ total then
    some (numeral digits)
  else none

/-- `_decode_cursor`. -/
def decodeCursor (cursorText : Text) (total : Nat) : Option Nat :=
  if cursorText = [] || 64 < cursorText.length || !cursorText.all isAscii then
    none
  else do
    let decoded ← urlsafeDecode (restorePadding cursorText)
    readPosition (← decodeAscii decoded) total

theorem paddedDecimal_digits (width n : Nat) :
    (paddedDecimal width n).all isDigit := by
  rw [paddedDecimal, List.all_append, decimal_all_digit, Bool.and_true,
    List.all_eq_true]
  intro c member
  rw [List.eq_of_mem_replicate member]
  decide

theorem numeral_paddedDecimal (width n : Nat) :
    numeral (paddedDecimal width n) = n := by
  have zeros (k : Nat) : numeral (List.replicate k (point '0')) = 0 := by
    induction k with
    | zero => rfl
    | succ k ih =>
        rw [List.replicate_succ', numeral_append, ih]
        decide
  rw [paddedDecimal, numeral, List.foldl_append, ← numeral, zeros]
  exact numeral_decimal n

theorem paddedDecimal_length {width n : Nat} (positive : 0 < width)
    (fits : n < 10 ^ width) : (paddedDecimal width n).length = width := by
  have short := (decimal_length_le positive).mpr fits
  rw [paddedDecimal, List.length_append, List.length_replicate]
  omega

section Cursor

variable {position total : Nat}

theorem readPosition_written (inside : position ≤ total) :
    readPosition (text "wh1:" ++ paddedDecimal 10 position) total =
      some position := by
  have nonempty : paddedDecimal 10 position ≠ [] := by
    rw [paddedDecimal]
    exact List.append_ne_nil_of_right_ne_nil _ (decimal_ne_nil position)
  have head : (text "wh1:" ++ paddedDecimal 10 position).takeWhile
      (· ≠ point ':') = text "wh1" := by
    rw [show text "wh1:" = text "wh1" ++ [point ':'] by decide,
      List.append_assoc, List.takeWhile_append_of_pos
        (List.all_eq_true.mp (by decide)),
      List.singleton_append, List.takeWhile_cons_of_neg (by simp),
      List.append_nil]
  have digits : (text "wh1:" ++ paddedDecimal 10 position).drop
      ((text "wh1").length + 1) = paddedDecimal 10 position :=
    List.drop_left' rfl
  have longer : (text "wh1").length <
      (text "wh1:" ++ paddedDecimal 10 position).length := by
    rw [List.length_append]
    exact Nat.lt_add_right _ (by decide)
  simp only [readPosition, head, digits, paddedDecimal_digits,
    numeral_paddedDecimal, longer, inside]
  simp [nonempty]

/-- The cursor of a position has nineteen characters of the alphabet. -/
theorem encodeCursor_form (small : position < 10 ^ 10) :
    (encodeCursor position).length = 19 ∧
      (encodeCursor position).all isBase64Point := by
  obtain ⟨body, pads, form, alphabet, few, groups, length⟩ :=
    urlsafeEncode_form
      (encodeAscii (text "wh1:" ++ paddedDecimal 10 position))
  have bytes : (encodeAscii
      (text "wh1:" ++ paddedDecimal 10 position)).length = 14 := by
    rw [encodeAscii, List.length_map, List.length_append,
      paddedDecimal_length (by decide) small]
    rfl
  rw [encodeCursor, form, stripPadding_append alphabet]
  refine ⟨?_, alphabet⟩
  omega

theorem isAscii_of_isBase64Point {c : CodePoint} (inside : isBase64Point c) :
    isAscii c := by
  simp only [isBase64Point, isUpper, isLower, isDigit, Bool.or_eq_true,
    Bool.and_eq_true, decide_eq_true_eq] at inside
  rw [isAscii, decide_eq_true_eq]
  rcases inside with (((upper | lower) | digit) | rfl) | rfl
  · omega
  · omega
  · omega
  · decide
  · decide

theorem encodeCursor_ascii (small : position < 10 ^ 10) :
    (encodeCursor position).all isAscii := by
  have alphabet := (encodeCursor_form small).2
  rw [List.all_eq_true] at alphabet ⊢
  exact fun c member => isAscii_of_isBase64Point (alphabet c member)

/-- A position inside the list is decoded again. -/
theorem decodeCursor_encode (inside : position ≤ total)
    (small : position < 10 ^ 10) :
    decodeCursor (encodeCursor position) total = some position := by
  obtain ⟨length, alphabet⟩ := encodeCursor_form small
  have nonempty : encodeCursor position ≠ [] := by
    intro empty
    rw [empty] at length
    cases length
  have ascii := encodeCursor_ascii small
  have written : (text "wh1:" ++ paddedDecimal 10 position).all isAscii := by
    have digits := paddedDecimal_digits 10 position
    rw [List.all_append, Bool.and_eq_true]
    refine ⟨by decide, ?_⟩
    rw [List.all_eq_true] at digits ⊢
    exact fun c member => isAscii_of_isDigit (digits c member)
  rw [decodeCursor, if_neg (by simp [nonempty, length, ascii])]
  rw [encodeCursor, restorePadding_strip, urlsafeDecode_encode]
  show (decodeAscii _ >>= fun decoded => readPosition decoded total) = _
  rw [decodeAscii_eq_some.mpr ⟨written, rfl⟩]
  exact readPosition_written inside

/-- The connector accepts every cursor. -/
theorem encodeCursor_isCursor (small : position < 10 ^ 10) :
    Application.isCursor (encodeCursor position) := by
  obtain ⟨length, alphabet⟩ := encodeCursor_form small
  have nonempty : encodeCursor position ≠ [] := by
    intro empty
    rw [empty] at length
    cases length
  have points : (encodeCursor position).all Application.isCursorPoint := by
    rw [List.all_eq_true] at alphabet ⊢
    intro c member
    have inside := alphabet c member
    simp only [isBase64Point, Bool.or_eq_true, decide_eq_true_eq] at inside
    rw [Application.isCursorPoint]
    rcases inside with (((upper | lower) | digit) | rfl) | rfl
    · rw [upper, Bool.true_or, Bool.true_or, Bool.true_or]
    · rw [lower, Bool.or_true, Bool.true_or, Bool.true_or]
    · rw [digit, Bool.or_true, Bool.true_or]
    · decide
    · decide
  rw [Application.isCursor, points, length]
  simp [nonempty]
  decide

end Cursor

/-! ## Limits -/

/-- `max_list_page_size`. -/
structure ListPageSize where
  size : Nat
  bounds : 1 ≤ size ∧ size ≤ 500

/-- What `str.isdigit` and `int` know of a character. -/
class DigitRuntime extends JsonRuntime where
  isDigitPoint : CodePoint → Bool
  decimalDigit : CodePoint → Option Nat
  isDigitPoint_ascii : ∀ c, isAscii c → isDigitPoint c = isDigit c
  decimalDigit_ascii : ∀ c, isDigit c → decimalDigit c = some (c.val - 0x30)

section Listing

variable [DigitRuntime]

/-- `int(digits)` of a text of digits, of which some may not be decimal. -/
def intOfDigits (digits : Text) : Except PythonError Nat := do
  let run := digits.takeWhile fun c => (DigitRuntime.decimalDigit c).isSome
  require (run.length ≤ 4300) (.valueError (text
    "Exceeds the limit (4300 digits) for integer string conversion"))
  require (run.length == digits.length) (.valueError (text
    "invalid literal for int() with base 10"))
  pure (digits.foldl
    (fun n c => 10 * n + (DigitRuntime.decimalDigit c).getD 0) 0)

/-- The limit of a page, or nothing for one that is refused. -/
def readLimit (pageSize : ListPageSize) (limitText : Option Text) :
    Except PythonError (Option Nat) :=
  let digits := limitText.getD (decimal pageSize.size)
  if digits != [] && digits.all DigitRuntime.isDigitPoint then do
    let limit ← intOfDigits digits
    pure (if limit < 1 then none else some (min limit pageSize.size))
  else .ok none

theorem readLimit_pos {pageSize : ListPageSize} {limitText : Option Text}
    {limit : Nat} (read : readLimit pageSize limitText = .ok (some limit)) :
    1 ≤ limit := by
  have bounds := pageSize.bounds
  rw [readLimit] at read
  split at read
  · rw [bind_eq_ok] at read
    obtain ⟨value, _, returned⟩ := read
    simp only [pure, Except.pure, Except.ok.injEq] at returned
    split at returned
    · cases returned
    · cases returned
      omega
  · cases read

/-! ## One page -/

/-- The document of one listed record. -/
def listedRecord (targetVersion : Nat) (item : Text × StoredRecord) :
    JsonValue :=
  .object [(text "payload", .object item.2.payload),
    (text "record_version", .int item.2.recordVersion),
    (text "sku", .string item.1),
    (text "target_version", .int targetVersion)]

/-- `_record_document`. -/
def recordListing (state : WarehouseState) (sku : Text) :
    Except PythonError JsonValue :=
  match state.records.lookup sku with
  | none => .error .keyError
  | some record => .ok (listedRecord state.targetVersion (sku, record))

/-- The document of one page. -/
def pageDocument (nextCursor : Text) (records : List JsonValue) : JsonValue :=
  .object [(text "next_cursor", .string nextCursor),
    (text "records", .array records)]

/-- `_handle_listing`, of the two parameters that it reads. -/
def handleListing (pageSize : ListPageSize) (cursor limitText : Option Text)
    (state : WarehouseState) : Except PythonError PlannedResponse :=
  let cursorText := cursor.getD []
  let skus := sorted (state.records.map Prod.fst)
  let start :=
    if cursorText = [] then some 0 else decodeCursor cursorText skus.length
  match start with
  | none =>
      errorResponse 400 "invalid_cursor" "The cursor is not valid."
  | some position => do
      match ← readLimit pageSize limitText with
      | none =>
          errorResponse 400 "invalid_limit"
            "The limit must be a positive integer."
      | some limit => do
          let window := (skus.drop position).take limit
          let nextPosition := position + window.length
          let records ← window.mapM (recordListing state)
          jsonResponse 200 (pageDocument
            (if skus.length ≤ nextPosition then []
              else encodeCursor nextPosition) records)

/-! ## Following the cursors -/

/-- What a page shows. -/
structure ListedPage where
  nextCursor : Text
  records : List (Text × StoredRecord)

def ListedPage.document (targetVersion : Nat) (page : ListedPage) :
    JsonValue :=
  pageDocument page.nextCursor (page.records.map (listedRecord targetVersion))

/-- A document of a decoded page shows a record. -/
structure ShowsRecord (targetVersion : Nat) (document : JsonValue)
    (item : Text × StoredRecord) : Prop where
  sku : document.field (text "sku") = some (.string item.1)
  payload : document.field (text "payload") =
    some (JsonValue.object item.2.payload).sortKeys
  recordVersion : document.field (text "record_version") =
    some (.int item.2.recordVersion)
  targetVersion : document.field (text "target_version") =
    some (.int targetVersion)

/-- The listing answers a cursor with status 200 and a body that is decoded to
the cursor and the records of a page. -/
def Answers (pageSize : ListPageSize) (limitText : Option Text)
    (state : WarehouseState) (cursor : Text) (page : ListedPage) : Prop :=
  ∃ response document documents,
    handleListing pageSize (some cursor) limitText state = .ok response ∧
    response.status = 200 ∧
    readBody response.body = .ok (some document) ∧
    document.field (text "next_cursor") = some (.string page.nextCursor) ∧
    document.field (text "records") = some (.array documents) ∧
    List.Forall₂ (ShowsRecord state.targetVersion) documents page.records

/-- The pages that the listing answers with, from a cursor on to the page
without one, while the state does not change. -/
inductive FollowsCursors (pageSize : ListPageSize) (limitText : Option Text)
    (state : WarehouseState) : Text → List ListedPage → Prop
  | last {cursor : Text} {page : ListedPage}
      (answers : Answers pageSize limitText state cursor page)
      (ended : page.nextCursor = []) :
      FollowsCursors pageSize limitText state cursor [page]
  | next {cursor : Text} {page : ListedPage} {pages : List ListedPage}
      (answers : Answers pageSize limitText state cursor page)
      (issued : page.nextCursor ≠ [])
      (follows : FollowsCursors pageSize limitText state page.nextCursor
        pages) :
      FollowsCursors pageSize limitText state cursor (page :: pages)

/--
The interpreter writes and reads a record on a page, where it stands inside
two containers: its document is within the limits of `json.dumps` and of
`json.loads` there.
-/
structure Listable (targetVersion : Nat) (item : Text × StoredRecord) :
    Prop where
  written : (listedRecord targetVersion item).sortKeys.dumpsError 2 = none
  nests : (listedRecord targetVersion item).nests (jsonReadingLimit - 2)

/-- What every state keeps: one record for each key, within the capacity, and
nothing that `json.loads` cannot give. -/
structure Stocked (capacity : Nat) (records : List (Text × StoredRecord)) :
    Prop where
  keys : (records.map Prod.fst).Nodup
  room : records.length ≤ capacity
  skus : ∀ item ∈ records, paired item.1
  payloads : ∀ item ∈ records, (JsonValue.object item.2.payload).WellRead

variable {pageSize : ListPageSize} {limitText : Option Text}
  {state : WarehouseState} {limit capacity position : Nat} {cursor : Text}

/-- The records in the order of their SKUs. -/
def WarehouseState.listed (state : WarehouseState) :
    List (Text × StoredRecord) :=
  sortedBy Prod.fst state.records

omit [DigitRuntime] in
theorem sorted_keys (state : WarehouseState) :
    sorted (state.records.map Prod.fst) = state.listed.map Prod.fst :=
  sortedBy_map Prod.fst id state.records

omit [DigitRuntime] in
theorem listed_length (state : WarehouseState) :
    state.listed.length = state.records.length :=
  sortedBy_length _ _

omit [DigitRuntime] in
/-- Each listed key shows its own record. -/
theorem mapM_recordListing (distinct : (state.records.map Prod.fst).Nodup)
    {items : List (Text × StoredRecord)}
    (listed : ∀ item ∈ items, item ∈ state.records) :
    (items.map Prod.fst).mapM (recordListing state) =
      .ok (items.map (listedRecord state.targetVersion)) := by
  rw [mapM_eq_ok, List.map_map, List.map_map]
  refine List.map_congr_left fun item member => ?_
  have found := (lookup_eq_some_iff_mem distinct).mpr (listed item member)
  rw [Function.comp_apply, recordListing, found]
  rfl

/-- The page that starts at a position. -/
def pageFrom (state : WarehouseState) (limit position : Nat) : ListedPage where
  nextCursor :=
    if state.listed.length ≤ position + limit then []
    else encodeCursor (position + limit)
  records := (state.listed.drop position).take limit

theorem handleListing_page (stocked : Stocked capacity state.records)
    (read : readLimit pageSize limitText = .ok (some limit))
    (starts : (if cursor = [] then some 0
      else decodeCursor cursor state.listed.length) = some position)
    (inside : position ≤ state.listed.length) :
    handleListing pageSize (some cursor) limitText state =
      jsonResponse 200
        ((pageFrom state limit position).document state.targetVersion) := by
  have positive := readLimit_pos read
  have window : ((state.listed.map Prod.fst).drop position).take limit =
      ((state.listed.drop position).take limit).map Prod.fst := by
    rw [← List.map_drop, ← List.map_take]
  have members : ∀ item ∈ (state.listed.drop position).take limit,
      item ∈ state.records := by
    intro item member
    exact mem_sortedBy.mp
      (List.mem_of_mem_drop (List.mem_of_mem_take member))
  have next : (if state.listed.length ≤ position +
        ((state.listed.drop position).take limit).length then []
      else encodeCursor (position +
        ((state.listed.drop position).take limit).length)) =
      (pageFrom state limit position).nextCursor := by
    rw [List.length_take, List.length_drop, pageFrom]
    rcases le_or_gt state.listed.length (position + limit) with last | more
    · rw [if_pos (by omega), if_pos last]
    · rw [min_eq_left (by omega)]
  rw [handleListing, sorted_keys]
  simp only [Option.getD_some, List.length_map, starts, read, ok_bind, window,
    mapM_recordListing stocked.keys members, next]
  rfl

/-! ## The body of a page -/

theorem dumpsItemsError_eq_none {depth : Nat} {items : List JsonValue} :
    JsonValue.dumpsItemsError depth items = none ↔
      ∀ item ∈ items, item.dumpsError depth = none := by
  induction items with
  | nil => simp [JsonValue.dumpsItemsError]
  | cons item rest ih =>
      simp [JsonValue.dumpsItemsError, Option.or_eq_none_iff, ih]

theorem wellRead_of_intReprError {value : Int}
    (printable : intReprError value = none) :
    (JsonValue.int value).WellRead := by
  rw [intReprError, ite_eq_right_iff] at printable
  refine Nat.le_of_not_lt fun long => ?_
  cases printable long

/-- A field of an object that is written can be written. -/
theorem dumpsError_field {depth : Nat} {fields : List (Text × JsonValue)}
    (written : (JsonValue.object fields).sortKeys.dumpsError depth = none)
    {key : Text} {value : JsonValue} (member : (key, value) ∈ fields) :
    value.sortKeys.dumpsError (depth + 1) = none := by
  simp only [JsonValue.sortKeys, JsonValue.dumpsError] at written
  split at written
  next => cases written
  next =>
    exact dumpsFieldsError_eq_none.mp written (key, value.sortKeys)
      ((List.mem_insertionSort _).mpr (JsonValue.mem_sortFields member))

/-- The document of a listable record is read back. -/
theorem Listable.wellRead {item : Text × StoredRecord} {targetVersion : Nat}
    (listable : Listable targetVersion item) (sku : paired item.1)
    (payload : (JsonValue.object item.2.payload).WellRead) :
    (listedRecord targetVersion item).WellRead := by
  have recordVersion : intReprError item.2.recordVersion = none :=
    dumpsError_field listable.written (.tail _ (.head _))
  have version : intReprError (targetVersion : Int) = none :=
    dumpsError_field listable.written (.tail _ (.tail _ (.tail _ (.head _))))
  exact ⟨(by decide : [text "payload", text "record_version", text "sku",
      text "target_version"].Nodup),
    paired_text _, payload, paired_text _,
    wellRead_of_intReprError recordVersion, paired_text _, sku, paired_text _,
    wellRead_of_intReprError version, trivial⟩

omit [DigitRuntime] in
theorem showsRecord (targetVersion : Nat) (item : Text × StoredRecord) :
    ShowsRecord targetVersion (listedRecord targetVersion item).sortKeys
      item := by
  constructor <;> rw [JsonValue.field_sortKeys] <;> rfl

/-- A page of listable records is written, and read as what it shows. -/
theorem answers_of_listable {page : ListedPage}
    (served : handleListing pageSize (some cursor) limitText state =
      jsonResponse 200 (page.document state.targetVersion))
    (issued : page.nextCursor.all isAscii)
    (listable : ∀ item ∈ page.records, Listable state.targetVersion item)
    (skus : ∀ item ∈ page.records, paired item.1)
    (payloads : ∀ item ∈ page.records,
      (JsonValue.object item.2.payload).WellRead) :
    Answers pageSize limitText state cursor page := by
  have wide := JsonRuntime.jsonReadingLimit_large
  have deep := PythonRuntime.jsonNestingLimit_large
  have read : (page.document state.targetVersion).WellRead := by
    refine ⟨(by decide : [text "next_cursor", text "records"].Nodup),
      paired_text _, paired_of_ascii issued, paired_text _,
      JsonValue.wellReadItems_iff.mpr ?_, trivial⟩
    intro document member
    obtain ⟨item, inside, rfl⟩ := List.mem_map.mp member
    exact (listable item inside).wellRead (skus item inside)
      (payloads item inside)
  have nests : (page.document state.targetVersion).nests jsonReadingLimit := by
    obtain ⟨budget, form⟩ : ∃ budget, jsonReadingLimit = budget + 2 :=
      ⟨jsonReadingLimit - 2, by omega⟩
    rw [form]
    refine JsonValue.nestsFields_iff.mpr ?_
    rintro entry (_ | ⟨_, _ | ⟨_, impossible⟩⟩)
    · rfl
    · refine JsonValue.nestsItems_iff.mpr fun document member => ?_
      obtain ⟨item, inside, rfl⟩ := List.mem_map.mp member
      have within := (listable item inside).nests
      rwa [form] at within
    · cases impossible
  have written : (page.document state.targetVersion).sortKeys.dumpsError 0 =
      none := by
    simp only [ListedPage.document, pageDocument, JsonValue.sortKeys,
      JsonValue.dumpsError]
    rw [if_neg (by omega), dumpsFieldsError_eq_none]
    intro entry member
    rw [List.mem_insertionSort] at member
    rcases member with _ | ⟨_, _ | ⟨_, impossible⟩⟩
    · rfl
    · simp only [JsonValue.sortItems_eq_map, JsonValue.sortKeys,
        JsonValue.dumpsError]
      rw [if_neg (by omega), dumpsItemsError_eq_none]
      intro document own
      obtain ⟨plain, source, rfl⟩ := List.mem_map.mp own
      obtain ⟨item, inside, rfl⟩ := List.mem_map.mp source
      exact (listable item inside).written
    · cases impossible
  obtain ⟨body, dumped⟩ :
      ∃ body, jsonDumps (page.document state.targetVersion) = .ok body := by
    rw [jsonDumps, written]
    exact ⟨_, rfl⟩
  have decoded : readBody (encodeAscii body) =
      .ok (some (page.document state.targetVersion).sortKeys) := by
    rw [readBody, decodeUtf8_encodeAscii (jsonDumps_ascii dumped)]
    simp only [jsonLoads_jsonDumps read nests le_rfl dumped]
  rw [jsonResponse, dumped] at served
  refine ⟨_, _, page.records.map fun item =>
      (listedRecord state.targetVersion item).sortKeys, served, rfl, decoded,
    ?_, ?_, ?_⟩
  · rw [JsonValue.field_sortKeys]
    rfl
  · rw [JsonValue.field_sortKeys, ListedPage.document, pageDocument]
    show some (JsonValue.array _).sortKeys = _
    rw [JsonValue.sortKeys_array, List.map_map]
    rfl
  · rw [List.forall₂_map_left_iff, List.forall₂_same]
    exact fun item _ => showsRecord _ item

/-- Following the cursors from a position shows what is left, in full pages
up to the last. -/
theorem exists_followsCursors (stocked : Stocked capacity state.records)
    (small : capacity < 10 ^ 10)
    (read : readLimit pageSize limitText = .ok (some limit))
    (listable : ∀ item ∈ state.records, Listable state.targetVersion item)
    (starts : (if cursor = [] then some 0
      else decodeCursor cursor state.listed.length) = some position)
    (inside : position ≤ state.listed.length) :
    ∃ pages, FollowsCursors pageSize limitText state cursor pages ∧
      pages.flatMap (·.records) = state.listed.drop position ∧
      (∀ page ∈ pages.dropLast, page.records.length = limit) ∧
      (∀ page ∈ pages, page.records.length ≤ limit) ∧
      ∀ page ∈ pages, page.nextCursor ≠ [] →
        Application.isCursor page.nextCursor := by
  have positive := readLimit_pos read
  have room := stocked.room
  rw [← listed_length] at room
  induction left : state.listed.length - position using Nat.strong_induction_on
    generalizing cursor position with
  | _ left_ ih =>
      have served := handleListing_page stocked read starts inside
      have few : (pageFrom state limit position).records.length ≤ limit :=
        List.length_take_le _ _
      have stored : ∀ item ∈ (pageFrom state limit position).records,
          item ∈ state.records := fun item member =>
        mem_sortedBy.mp (List.mem_of_mem_drop (List.mem_of_mem_take member))
      have answered (issued :
          (pageFrom state limit position).nextCursor.all isAscii) :=
        answers_of_listable served issued
          (fun item member => listable item (stored item member))
          (fun item member => stocked.skus item (stored item member))
          (fun item member => stocked.payloads item (stored item member))
      rcases le_or_gt state.listed.length (position + limit) with last | more
      · have ended : (pageFrom state limit position).nextCursor = [] :=
          if_pos last
        have answers := answered (by rw [ended]; rfl)
        refine ⟨_, .last answers ended, ?_, by simp, by simpa, ?_⟩
        · rw [List.flatMap_singleton]
          exact List.take_of_length_le (by rw [List.length_drop]; omega)
        · intro page member issued
          rw [List.mem_singleton] at member
          subst member
          exact absurd ended issued
      · have form : (pageFrom state limit position).nextCursor =
            encodeCursor (position + limit) := if_neg more.not_ge
        have fits : position + limit < 10 ^ 10 := by omega
        have valid := encodeCursor_isCursor fits
        have issued : encodeCursor (position + limit) ≠ [] := by
          intro empty
          rw [empty] at valid
          cases valid
        have onward : (if encodeCursor (position + limit) = [] then some 0
            else decodeCursor (encodeCursor (position + limit))
              state.listed.length) = some (position + limit) := by
          rw [if_neg issued, decodeCursor_encode more.le fits]
        have answers := answered (by
          rw [form]
          exact encodeCursor_ascii fits)
        obtain ⟨pages, follows, shown, full, bounded, grammar⟩ :=
          ih (state.listed.length - (position + limit)) (by omega) onward
            more.le rfl
        have nonempty : pages ≠ [] := by
          rintro rfl
          cases follows
        refine ⟨_, .next answers (by rwa [form]) (by rwa [form]), ?_, ?_, ?_,
          ?_⟩
        · rw [List.flatMap_cons, shown, ← List.drop_drop]
          exact List.take_append_drop limit _
        · rw [List.dropLast_cons_of_ne_nil nonempty, List.forall_mem_cons]
          refine ⟨?_, full⟩
          rw [pageFrom, List.length_take, List.length_drop]
          omega
        · exact List.forall_mem_cons.mpr ⟨few, bounded⟩
        · rw [List.forall_mem_cons, form]
          exact ⟨fun _ => valid, grammar⟩

/-! ## Every state is stocked -/

/-- One more write keeps the keys apart, and finds room for a new one. -/
theorem Stocked.write {records : List (Text × StoredRecord)}
    (stocked : Stocked capacity records) {sku : Text}
    (canonical : skuPattern.fullmatch sku)
    (room : records.lookup sku = none → records.length < capacity)
    (f : Option StoredRecord → StoredRecord)
    (read : ∀ existing, (JsonValue.object (f existing).payload).WellRead) :
    Stocked capacity (alter sku f records) := by
  have length := congrArg List.length (keys_alter sku f records)
  rw [List.length_map] at length
  refine ⟨nodup_alter stocked.keys, ?_, ?_, ?_⟩
  · rw [length]
    split
    next =>
      rw [List.length_map]
      exact stocked.room
    next absent =>
      have few := room (lookup_eq_none_iff_notMem.mpr absent)
      rw [List.length_append, List.length_map]
      exact few
  · intro item member
    rcases of_mem_alter member with old | ⟨existing, rfl⟩
    · exact stocked.skus item old
    · exact paired_of_ascii (skuPattern_ascii.fullmatch_all canonical)
  · intro item member
    rcases of_mem_alter member with old | ⟨existing, rfl⟩
    · exact stocked.payloads item old
    · exact read existing

theorem Stocked.step {before after : TargetState} {sku : Text}
    {upsert : UpsertRequest} (stocked : Stocked capacity before.records)
    (canonical : skuPattern.fullmatch sku) (sound : SoundUpsert upsert)
    (step : TargetStep capacity sku upsert before after) :
    Stocked capacity after.records := by
  cases step with
  | rejected => exact stocked
  | settled => exact stocked
  | applied room _ =>
      exact stocked.write canonical room _ fun _ => sound.payload

theorem Stocked.call {behavior : WarehouseBehavior} {sku : Text}
    {request : HttpRequest}
    (stocked : Stocked behavior.settings.capacity state.records)
    (addressed : upsertSku request = some sku) :
    Stocked behavior.settings.capacity
      ((handleUpsertCall behavior sku request).call state).2.records := by
  have canonical := upsertSku_canonical addressed
  have moved : EndsMoved (handleUpsertCall behavior sku request) state _ _ :=
    handleUpsertCall_moved
  have moves {after : TargetState}
      (moves : TargetMoves behavior sku request state.target after) :
      Stocked behavior.settings.capacity after.records := by
    rcases moves with rfl | ⟨upsert, read, _, step⟩
    · exact stocked
    · have held : Stocked behavior.settings.capacity
          state.target.records := stocked
      exact held.step canonical (readUpsert_sound read) step
  refine Method.ends_always.mp (moved.weaken (fun _ after => moves) ?_)
  rintro error after (complete | ⟨_, upsert, before, read, same, room, written⟩)
  · exact moves complete
  · have records : before.records = state.records :=
      congrArg TargetState.records same
    have after_ := congrArg TargetState.records written
    rw [after_]
    rw [← records] at stocked
    exact stocked.write canonical room _ fun _ =>
      (readUpsert_sound read).payload

theorem reachable_stocked {behavior : WarehouseBehavior}
    (reached : (callSystem behavior).Reachable state) :
    Stocked behavior.settings.capacity state.records := by
  induction reached with
  | initial starts =>
      obtain ⟨stateFile, started⟩ := starts
      have durable := (start_durable started).target
      exact ⟨durable.recordKeys, durable.recordRoom,
        fun item member => paired_of_ascii
          (skuPattern_ascii.fullmatch_all (durable.records item member).sku),
        fun item member => (durable.records item member).payload⟩
  | step _ moves stocked =>
      obtain ⟨sku, addressed, rfl⟩ := moves
      exact stocked.call addressed

/--
Whatever requests have reached a warehouse, and whatever limit is accepted:
if the interpreter can write and read each record on a page, then following
the cursors ends, each page is answered, and the decoded pages show every record
once in the order of the SKUs, full up to the last.
-/
theorem listing_complete (behavior : WarehouseBehavior)
    (pageSize : ListPageSize) (limitText : Option Text) (limit : Nat)
    (state : WarehouseState)
    (reached : (callSystem behavior).Reachable state)
    (read : readLimit pageSize limitText = .ok (some limit))
    (listable : ∀ item ∈ state.records, Listable state.targetVersion item) :
    ∃ pages, FollowsCursors pageSize limitText state [] pages ∧
      (pages.flatMap (·.records)).Perm state.records ∧
      ((pages.flatMap (·.records)).map Prod.fst).Pairwise (· < ·) ∧
      (∀ page ∈ pages.dropLast, page.records.length = limit) ∧
      (∀ page ∈ pages, page.records.length ≤ limit) ∧
      ∀ page ∈ pages, page.nextCursor ≠ [] →
        Application.isCursor page.nextCursor := by
  have stocked := reachable_stocked reached
  have small : behavior.settings.capacity < 10 ^ 10 :=
    behavior.settings.capacity_bounds.2.trans_lt (by decide)
  obtain ⟨pages, follows, shown, full, bounded, grammar⟩ :=
    exists_followsCursors stocked small read listable (if_pos rfl)
      (Nat.zero_le _)
  rw [List.drop_zero] at shown
  refine ⟨pages, follows, ?_, ?_, full, bounded, grammar⟩
  · rw [shown]
    exact sortedBy_perm _ _
  · rw [shown, List.pairwise_map]
    exact sortedBy_strict stocked.keys

end Listing

/-- The digits of the ASCII range alone. -/
@[reducible]
def asciiDigitRuntime : DigitRuntime where
  toJsonRuntime := asciiJsonRuntime
  isDigitPoint := isDigit
  decimalDigit c := if isDigit c then some (c.val - 0x30) else none
  isDigitPoint_ascii _ _ := rfl
  decimalDigit_ascii _ digit := if_pos digit

section Sample

attribute [local instance] asciiDigitRuntime

def shelfPayload (sku : Text) : List (Text × JsonValue) :=
  [(text "sku", .string sku)]

/-- An upsert of a record that says its SKU only, its key as well. -/
def shelfRequest (sku : Text) : HttpRequest :=
  recordRequest sku sku (text "\x7b\"sku\":\"" ++ sku ++ text "\"\x7d")

/-- The request for a SKU is read as an upsert of its payload. -/
structure Shelvable (sku : Text) : Prop where
  addressed : upsertSku (shelfRequest sku) = some sku
  read : ∃ fingerprint, readUpsert sku (shelfRequest sku) =
    .ok (.inr ⟨sku, shelfPayload sku, none, fingerprint⟩)
  written : isUnchanged (shelfPayload sku) none = .ok false

/-- A warehouse in memory with one record under each SKU. -/
structure Shelved (skus : List Text) (state : WarehouseState) : Prop where
  reached : (callSystem plainBehavior).Reachable state
  records : state.records =
    skus.map fun sku => (sku, ⟨shelfPayload sku, 1⟩)
  keys : state.idempotency.map Prod.fst = skus
  version : state.targetVersion = skus.length

theorem Shelved.keys_records {skus : List Text} {state : WarehouseState}
    (shelved : Shelved skus state) : state.records.map Prod.fst = skus := by
  rw [shelved.records, List.map_map]
  exact List.map_id _

/-- One more record is stored behind the others. -/
theorem Shelved.next {skus : List Text} {state : WarehouseState}
    (shelved : Shelved skus state) {sku : Text} (new : sku ∉ skus)
    (room : skus.length < 10000) (shelvable : Shelvable sku) :
    ∃ next, Shelved (skus ++ [sku]) next := by
  obtain ⟨fingerprint, read⟩ := shelvable.read
  have unstored : sku ∉ state.count.records.map Prod.fst := by
    rwa [show state.count.records = state.records from rfl,
      shelved.keys_records]
  have unseen : sku ∉ state.count.idempotency.map Prod.fst := by
    rwa [show state.count.idempotency = state.idempotency from rfl,
      shelved.keys]
  have absent := lookup_eq_none_iff_notMem.mpr unstored
  have records : state.records.length = skus.length := by
    rw [← shelved.keys_records, List.length_map]
  have receipts : state.idempotency.length = skus.length := by
    rw [← shelved.keys, List.length_map]
  have passes : Passes plainBehavior sku
      ⟨sku, shelfPayload sku, none, fingerprint⟩ state.count false :=
    ⟨lookup_eq_none_iff_notMem.mpr unseen, fun _ => records.trans_lt room, rfl,
      by rw [absent]; exact shelvable.written⟩
  have moved := call_received rfl (unscripted _) read passes
    (receipts.trans_lt room)
  refine ⟨_, .step shelved.reached ⟨sku, shelvable.addressed, moved⟩, ?_, ?_,
    ?_⟩
  · refine (alter_of_notMem unstored).trans ?_
    rw [show state.count.records = state.records from rfl, shelved.records,
      List.map_append]
    rfl
  · refine (keys_alter _ _ _).trans ?_
    rw [if_neg unseen, show state.count.idempotency = state.idempotency from rfl,
      shelved.keys]
  · rw [List.length_append, ← shelved.version]
    rfl

def sampleSkus : List Text :=
  [text "SKU-1", text "SKU-2", text "SKU-3"]

theorem exists_shelved : ∃ state, Shelved sampleSkus state := by
  have shelvable : ∀ sku ∈ sampleSkus, Shelvable sku := by
    intro sku member
    rcases member with _ | ⟨_, _ | ⟨_, _ | ⟨_, impossible⟩⟩⟩
    · exact ⟨by decide, readUpsert_record (by decide) (by decide)
        (by decide +kernel) (by decide), by decide⟩
    · exact ⟨by decide, readUpsert_record (by decide) (by decide)
        (by decide +kernel) (by decide), by decide⟩
    · exact ⟨by decide, readUpsert_record (by decide) (by decide)
        (by decide +kernel) (by decide), by decide⟩
    · cases impossible
  have none_ : Shelved [] WarehouseState.fresh :=
    ⟨.initial ⟨none, rfl⟩, rfl, rfl, rfl⟩
  obtain ⟨_, one⟩ := none_.next (by decide) (by decide)
    (shelvable (text "SKU-1") (by decide))
  obtain ⟨_, two⟩ := one.next (by decide) (by decide)
    (shelvable (text "SKU-2") (by decide))
  exact two.next (by decide) (by decide) (shelvable (text "SKU-3") (by decide))

/-- Three records on two pages or more of at most two. -/
theorem listing_complete_sample :
    ∃ state pages, state.records.map Prod.fst = sampleSkus ∧
      FollowsCursors ⟨2, by decide⟩ (some (text "7")) state [] pages ∧
      (pages.flatMap (·.records)).map Prod.fst = sampleSkus ∧
      1 < pages.length := by
  obtain ⟨state, shelved⟩ := exists_shelved
  have listable : ∀ item ∈ state.records,
      Listable state.targetVersion item := by
    rw [shelved.records, shelved.version]
    rintro item (_ | ⟨_, _ | ⟨_, _ | ⟨_, impossible⟩⟩⟩)
    · exact ⟨by decide, by decide⟩
    · exact ⟨by decide, by decide⟩
    · exact ⟨by decide, by decide⟩
    · cases impossible
  obtain ⟨pages, follows, shown, ascending, _, bounded, _⟩ :=
    listing_complete plainBehavior ⟨2, by decide⟩ (some (text "7")) 2 state
      shelved.reached (by decide) listable
  have skus : ((pages.flatMap (·.records)).map Prod.fst).Perm sampleSkus := by
    rw [← shelved.keys_records]
    exact shown.map Prod.fst
  have sorted : sampleSkus.Pairwise (· < ·) := by decide
  have whole := skus.eq_of_pairwise
    (fun _ _ _ _ before after => absurd before after.not_gt) ascending sorted
  refine ⟨state, pages, shelved.keys_records, follows, whole, ?_⟩
  have three := congrArg List.length whole
  rw [List.length_map] at three
  cases follows with
  | last answers ended =>
      rw [List.flatMap_singleton] at three
      have few := bounded _ List.mem_cons_self
      rw [three] at few
      exact absurd few (by decide)
  | next answers issued follows =>
      rw [List.length_cons]
      refine Nat.succ_lt_succ (List.length_pos_of_ne_nil ?_)
      rintro rfl
      cases follows

end Sample

end ParityGrid.Demo
