import ParityGrid.Application.Ports.Connectors

/-!
# Wire responses of the HTTP sources

Both HTTP connectors read the same JSON documents.  A response body is parsed,
an unsuccessful status or a transport failure becomes a `ConnectorError`, and a
page document becomes source records.  Every failure is reported with a public
detail that is redacted and then checked against the registered secrets.
-/

namespace ParityGrid.Adapters.Connectors

open ParityGrid.Foundation
open ParityGrid.Application

/-- What leaves a function of this module other than by returning. -/
inductive SourceFailure where
  | connector (error : ConnectorError)
  /-- Any exception outside the taxonomy. -/
  | escaped (error : PythonError)

/-- A failure as a `raise` statement states it. -/
structure WireFault where
  kind : ConnectorErrorKind
  message : Text
  summary : Text
  fragment : Option Fragment
  details : Option (List (Text × Detail Text))
  retryAfterSeconds : Option Int

/-- `ConnectorUnknownError` with a public detail. -/
def unknownFault (message summary : String)
    (details : Option (List (Text × Detail Text))) : WireFault where
  kind := .unknown
  message := text message
  summary := text summary
  fragment := none
  details := details
  retryAfterSeconds := none

section Wire

variable [PatternRuntime]

/-- The exception that a `raise` statement builds. -/
def WireFault.report (fault : WireFault) (secrets : SecretMaterial) :
    Except PythonError ConnectorError := do
  let detail ←
    buildPublicDetail fault.summary fault.fragment fault.details secrets
  ConnectorError.create fault.kind fault.message (some detail)
    fault.retryAfterSeconds (some secrets)

/-- What a caller sees of a function whose faults are raised with secrets. -/
def surface {α : Type} (secrets : SecretMaterial) (x : Except WireFault α) :
    Except SourceFailure α :=
  match x with
  | .ok a => .ok a
  | .error fault =>
      match fault.report secrets with
      | .ok error => .error (.connector error)
      | .error error => .error (.escaped error)

/-! ## Response bodies -/

/-- A response body; the clients refuse a larger one. -/
structure ResponseBody where
  raw : Bytes
  bounded : raw.length ≤ maxResponseBytes

/-- What `json.loads` raises besides `JSONDecodeError`. -/
def escapedJson : JsonFailure → Option PythonError
  | .malformed => none
  | .digits => some (.valueError (text
      "Exceeds the limit (4300 digits) for integer string conversion"))
  | .nesting => some .recursionError

/-- The body is no JSON text: this error is built without the secrets. -/
def malformedBody (body : ResponseBody) (secrets : SecretMaterial) :
    SourceFailure :=
  let error := do
    let detail ← buildPublicDetail (text "response body is not valid json")
      (some (.bytes body.raw)) none secrets
    ConnectorError.create .unknown
      (text "the source returned a malformed response body") (some detail)
      none none
  match error with
  | .ok error => .connector error
  | .error error => .escaped error

/-- `parse_json_document`. -/
def parseJsonDocument (body : ResponseBody) (secrets : SecretMaterial) :
    Except SourceFailure JsonValue :=
  match decodeUtf8 body.raw with
  | none => .error (malformedBody body secrets)
  | some t =>
      match jsonLoads t with
      | .ok document => .ok document
      | .error failure =>
          match escapedJson failure with
          | none => .error (malformedBody body secrets)
          | some error => .error (.escaped error)

/-! ## Statuses -/

/-- The digits of an `int` literal; single underscores may stand between. -/
def readDigits : Text → Option (List Nat)
  | [] => none
  | [c] => (digitValue c).map ([·])
  | c :: d :: rest => do
      let digit ← digitValue c
      let others ←
        if d = point '_' then readDigits rest else readDigits (d :: rest)
      some (digit :: others)

/-- `int(value)` of a stripped text, or `ValueError`. -/
def readInt (t : Text) : Option Int := do
  let negative := t.head? = some (point '-')
  let signed := negative || t.head? = some (point '+')
  let digits ← readDigits (if signed then t.tail else t)
  guard (digits.length ≤ 4300)
  let value : Int := digits.foldl (fun n digit => 10 * n + digit) (0 : Nat)
  some (if negative then -value else value)

def retryAfterBoundSeconds : Int := 60

/-- `_parse_retry_after`. -/
def parseRetryAfter (retryAfterText : Option Text) : Option Int := do
  let value ← readInt (strip (← retryAfterText))
  guard (1 ≤ value && value ≤ retryAfterBoundSeconds)
  some value

/-- An HTTP status; one of the clients accepts all of three digits. -/
structure HttpStatus where
  value : Nat
  valid : 100 ≤ value ∧ value ≤ 999

/-- `details={"status": status}`. -/
def statusDetails (status : HttpStatus) : List (Text × Detail Text) :=
  [(text "status", .int status.value)]

/-- The class, message and delay that a status is reported with; the body is
quoted unless its class is unexpected. -/
def statusFault (status : HttpStatus) (retryAfterText : Option Text)
    (body : ResponseBody) : WireFault :=
  let rejected (kind : ConnectorErrorKind) (message : String)
      (retryAfterSeconds : Option Int) : WireFault :=
    { kind := kind
      message := text message
      summary := text "the source rejected the request"
      fragment := some (.bytes body.raw)
      details := some (statusDetails status)
      retryAfterSeconds := retryAfterSeconds }
  if status.value = 429 then
    rejected .rateLimited "the source rate limited the request"
      (parseRetryAfter retryAfterText)
  else if 500 ≤ status.value && status.value ≤ 599 then
    rejected .serverFailure "the source reported a server failure" none
  else if 400 ≤ status.value && status.value ≤ 499 then
    rejected .permanent "the source rejected the request permanently" none
  else
    unknownFault "the source returned an unexpected status class"
      "unexpected http status class" (some (statusDetails status))

/-- `classify_status_response`; the quoting detail is built in every case. -/
def classifyStatusResponse (status : HttpStatus)
    (retryAfterText : Option Text) (body : ResponseBody)
    (secrets : SecretMaterial) : Except PythonError ConnectorError := do
  let _ ← buildPublicDetail (text "the source rejected the request")
    (some (.bytes body.raw)) (some (statusDetails status)) secrets
  (statusFault status retryAfterText body).report secrets

/-! ## Transport failures -/

/-- `HttpTransportErrorKind`. -/
inductive HttpTransportErrorKind where
  | connect
  | connectTimeout
  | readTimeout
  | connectionLost
  | protocol
  | responseTooLarge
  | clientClosed
deriving DecidableEq

/-- What a transport failure is reported as. -/
def transportFault (kind : HttpTransportErrorKind) : WireFault :=
  let fault (kind : ConnectorErrorKind) (message summary : String) :=
    { unknownFault message summary none with kind := kind }
  match kind with
  | .connect =>
      fault .retryable "the source connection could not be completed"
        "transport connect failure"
  | .readTimeout | .connectTimeout =>
      fault .timeout "the source request exceeded its deadline"
        "transport deadline exceeded"
  | .connectionLost =>
      fault .retryable "the source connection ended mid-response"
        "transport connection lost"
  | .responseTooLarge =>
      fault .unknown "the source response exceeded the configured bound"
        "response exceeded configured bound"
  | .clientClosed =>
      fault .permanent "the connector client is closed"
        "connector client already closed"
  | .protocol =>
      fault .unknown "the source response violated the wire contract"
        "transport protocol failure"

/-- `map_transport_error`. -/
def mapTransportError (kind : HttpTransportErrorKind)
    (secrets : SecretMaterial) : Except PythonError ConnectorError :=
  (transportFault kind).report secrets

/-! ## Page documents -/

/-- `_malformed_page`. -/
def malformedPage : WireFault :=
  unknownFault "the source page document is malformed"
    "page document shape is invalid" none

/-- `_record_from_payload`. -/
def recordFromPayload (index : Nat) (payload : JsonValue) (position : Int) :
    Except WireFault SourceRecord :=
  match payload with
  | .object fields =>
      match SourceRecord.create position .valid (some fields) none with
      | .ok record => .ok record
      | .error error =>
          .error (unknownFault
            "the source record violated the payload contract"
            "record payload failed the connector contract"
            (some [(text "record_index", .int index),
              (text "reason", .text error.detail)]))
  | _ =>
      .error (unknownFault "the source page carried a non-object record"
        "page record is not an object"
        (some [(text "record_index", .int index)]))

/-- The records of a page, in order. -/
def recordsFrom (start : Int) (payloads : List JsonValue) :
    Except WireFault (List SourceRecord) :=
  payloads.zipIdx.mapM fun (payload, index) =>
    recordFromPayload index payload (start + index)

/-- `isinstance(value, int)`, with the integer; a boolean is one. -/
def asInteger : JsonValue → Option Int
  | .scalar (.int value) => some value
  | .scalar (.bool value) => some (if value then 1 else 0)
  | _ => none

/-- The value that a details mapping names. -/
def integerDetail : JsonValue → Detail Text
  | .scalar (.int value) => .int value
  | .scalar (.bool value) => .bool value
  | _ => .none

/-- A record bound that the call bounds accept. -/
structure RecordBound where
  value : Nat
  valid : 1 ≤ value ∧ value ≤ maxPageRecords

/-- More records than the configured bound. -/
def overflowingPage (records : List JsonValue) (bound : RecordBound) :
    WireFault :=
  unknownFault "the source page exceeded the configured record bound"
    "page exceeded configured record bound"
    (some [(text "records", .int records.length),
      (text "bound", .int bound.value)])

/-- `extract_cursor_page`, with its faults still unreported. -/
def readCursorPage (document : JsonValue) (fallbackPosition : Int)
    (maxRecords : RecordBound) :
    Except WireFault (List SourceRecord × Option Text × Nat) :=
  match document with
  | .object page =>
      match page.lookup (text "next_cursor"), page.lookup (text "records") with
      | some (.string nextCursor), some (.array records) => do
          require (records.length ≤ maxRecords.value)
            (overflowingPage records maxRecords)
          let declared := (page.lookup (text "position")).bind asInteger
          let start :=
            match declared with
            | some position =>
                if 0 ≤ position then position else fallbackPosition
            | none => fallbackPosition
          let read ← recordsFrom start records
          .ok (read, if nextCursor.isEmpty then none else some nextCursor,
            records.length)
      | _, _ => .error malformedPage
  | _ => .error malformedPage

/-- `extract_cursor_page`. -/
def extractCursorPage (document : JsonValue) (fallbackPosition : Int)
    (maxRecords : RecordBound) (secrets : SecretMaterial) :
    Except SourceFailure (List SourceRecord × Option Text × Nat) :=
  surface secrets (readCursorPage document fallbackPosition maxRecords)

/-- A page number that a page cursor can carry. -/
structure PageNumber where
  value : Nat
  valid : 1 ≤ value ∧ value < 10 ^ 123

/-- `extract_numbered_page`, with its faults still unreported. -/
def readNumberedPage (document : JsonValue) (pageNumber : PageNumber)
    (maxRecords : RecordBound) :
    Except WireFault (List SourceRecord × Option Nat) :=
  match document with
  | .object page =>
      match page.lookup (text "records") with
      | some (.array records) =>
          match (page.lookup (text "total_pages")).bind asInteger,
              page.lookup (text "page") with
          | some totalPages, some answered => do
              let some pageValue := asInteger answered
                | .error malformedPage
              let some pageSize :=
                  (page.lookup (text "page_size")).bind asInteger
                | .error malformedPage
              require (1 ≤ pageSize) malformedPage
              require (pageValue = pageNumber.value)
                (unknownFault
                  "the source answered with a different page than requested"
                  "source page mismatch"
                  (some [(text "requested", .int pageNumber.value),
                    (text "answered", integerDetail answered)]))
              require (records.length ≤ maxRecords.value)
                (overflowingPage records maxRecords)
              let read ←
                recordsFrom ((pageNumber.value - 1 : Int) * pageSize) records
              .ok (read,
                if (pageNumber.value : Int) < totalPages then
                  some (pageNumber.value + 1)
                else none)
          | _, _ => .error malformedPage
      | _ => .error malformedPage
  | _ => .error malformedPage

/-- `extract_numbered_page`. -/
def extractNumberedPage (document : JsonValue) (pageNumber : PageNumber)
    (maxRecords : RecordBound) (secrets : SecretMaterial) :
    Except SourceFailure (List SourceRecord × Option Nat) :=
  surface secrets (readNumberedPage document pageNumber maxRecords)

end Wire

end ParityGrid.Adapters.Connectors
