import ParityGrid.Foundation.Json

/-!
# HTTP primitives of the simulators

Requests as the simulators receive them, planned responses, and the encoding of
a planned response that a cut connection truncates.
-/

namespace ParityGrid.Demo

open Foundation

/-- `value.encode("ascii")`. -/
def encodeStrict (t : Text) : Except PythonError Bytes :=
  if t.all isAscii then .ok (encodeAscii t) else .error .unicodeEncodeError

/--
One parsed request.  The path is what `request_path_only` leaves of the request
target; header names are in lower case.
-/
structure HttpRequest where
  method : Text
  path : Text
  headers : List (Text × Text)
  body : Bytes
deriving DecidableEq

/-- `request.headers.get(name)`. -/
def HttpRequest.header (request : HttpRequest) (name : String) : Option Text :=
  request.headers.lookup (text name)

/-- `ResponseAction`. -/
inductive ResponseAction where
  | respond
  | holdUntilDisconnect
  | closePartial
deriving DecidableEq

/-- A response as an engine must deliver it. -/
structure PlannedResponse where
  status : Nat
  body : Bytes
  headers : List (Text × Text) := []
  delayMicroseconds : Int := 0
  action : ResponseAction := .respond
  holdCapMicroseconds : Int := 0
  partialBytes : Int := 0
  closeAfterResponse : Bool := false
deriving DecidableEq

def jsonContentType : Text × Text :=
  (text "Content-Type", text "application/json")

/-- `_STATUS_TEXT.get(status, "Unknown")`. -/
def statusText : Nat → Text
  | 200 => text "OK"
  | 400 => text "Bad Request"
  | 404 => text "Not Found"
  | 405 => text "Method Not Allowed"
  | 409 => text "Conflict"
  | 411 => text "Length Required"
  | 413 => text "Payload Too Large"
  | 417 => text "Expectation Failed"
  | 429 => text "Too Many Requests"
  | 431 => text "Request Header Fields Too Large"
  | 500 => text "Internal Server Error"
  | 501 => text "Not Implemented"
  | 503 => text "Service Unavailable"
  | 507 => text "Insufficient Storage"
  | _ => text "Unknown"

def lineBreak : Text := text "\r\n"

/-- `encode_response`. -/
def PlannedResponse.encoded (planned : PlannedResponse) :
    Except PythonError Bytes := do
  let statusLine := text "HTTP/1.1 " ++ decimal planned.status ++ [point ' '] ++
    statusText planned.status ++ lineBreak
  let headerLines :=
    [text "Server: paritygrid-simulator",
      text "Content-Length: " ++ decimal planned.body.length] ++
    planned.headers.map (fun header => header.1 ++ text ": " ++ header.2) ++
    (if planned.closeAfterResponse then [text "Connection: close"] else [])
  let head ← encodeStrict
    (statusLine ++ lineBreak.intercalate headerLines ++ lineBreak ++ lineBreak)
  pure (head ++ planned.body)

/-- `_with_header`. -/
def PlannedResponse.withHeader (planned : PlannedResponse) (name value : Text) :
    PlannedResponse :=
  { planned with headers := planned.headers ++ [(name, value)] }

section Json

variable [PythonRuntime]

/-- `json_response`. -/
def jsonResponse (status : Nat) (document : JsonValue) :
    Except PythonError PlannedResponse := do
  let body ← jsonDumps document
  pure { status, body := encodeAscii body, headers := [jsonContentType] }

/-- The document of an error. -/
def errorDocument (code message : String) : JsonValue :=
  .object [(text "error", .object
    [(text "code", .string (text code)),
      (text "message", .string (text message))])]

/-- `error_response`. -/
def errorResponse (status : Nat) (code message : String) :
    Except PythonError PlannedResponse :=
  jsonResponse status (errorDocument code message)

/-- `_error_body`. -/
def errorBody (code message : String) : Except PythonError Bytes :=
  (jsonDumps (errorDocument code message)).map encodeAscii

end Json

end ParityGrid.Demo
