import ParityGrid.Application.Execution.ClockPolicy
import ParityGrid.Application.Ports.Configuration

/-!
# The consistency contract

What the repositories of checkpoints, events and idempotent commands share
with their callers: the errors they raise, documents that mention no secret,
and the records of idempotent commands.
-/

namespace ParityGrid.Application

open ParityGrid.Foundation

/-! ## Errors -/

/-- What an operation of a consistency repository raises. -/
inductive ConsistencyError where
  | invalidRequest (message : String)
  | staleRowVersion (message : String)
  /-- `IdempotencyConflictError`. -/
  | idempotencyConflict (message : String)
  | corruption (message : String)
  /-- An exception of the host language that no handler translates. -/
  | runtime (error : PythonError)
deriving DecidableEq

/-! ## Redacted documents -/

/--
What the host runtime supplies to the check of field names: `str.casefold`,
which lowers ASCII letters and keeps every other ASCII character.
-/
class CasefoldRuntime extends JsonRuntime where
  casefold : Text → Text
  casefold_ascii : ∀ t : Text, t.all isAscii → casefold t = lower t

export CasefoldRuntime (casefold)

/-- A runtime that is exact on ASCII texts. -/
@[reducible]
def asciiCasefoldRuntime : CasefoldRuntime where
  toJsonRuntime := asciiJsonRuntime
  casefold := lower
  casefold_ascii _ _ := rfl

theorem emptyDocument_valid :
    @validateDocumentObject asciiCasefoldRuntime.toPythonRuntime [] = .ok () :=
  rfl

/-- `_SENSITIVE_KEY_PARTS`. -/
def sensitiveKeyParts : List Text :=
  ["access_key", "api_key", "authorization", "bearer", "cookie", "credential",
    "password", "private_key", "secret", "session", "token"].map text

def isLowerAlphanumeric (c : CodePoint) : Bool := isLower c || isDigit c

/-- `_CAMEL_BOUNDARY.sub("_", key)`. -/
def splitCamel : Text → Text
  | [] => []
  | [c] => [c]
  | c :: d :: rest =>
      if isLowerAlphanumeric c && isUpper d then
        c :: point '_' :: splitCamel (d :: rest)
      else
        c :: splitCamel (d :: rest)

/-- `_NON_IDENTIFIER.sub("_", value)`; `inside` says that a run has begun. -/
def joinNonIdentifiers : Bool → Text → Text
  | _, [] => []
  | inside, c :: rest =>
      if isLowerAlphanumeric c then c :: joinNonIdentifiers false rest
      else if inside then joinNonIdentifiers true rest
      else point '_' :: joinNonIdentifiers true rest

/-- `value.strip("_")`. -/
def stripUnderscores (value : Text) : Text :=
  let isUnderscore := fun c => c == point '_'
  ((value.dropWhile isUnderscore).reverse.dropWhile isUnderscore).reverse

section Redacted

variable [CasefoldRuntime]

/-- The field name, in the form in which it is compared. -/
def normalizedKey (key : Text) : Text :=
  stripUnderscores (joinNonIdentifiers false (casefold (nfc (splitCamel key))))

/-- The field name mentions a secret. -/
def isSensitiveKey (key : Text) : Bool :=
  let pad := fun t : Text => point '_' :: t ++ [point '_']
  sensitiveKeyParts.any fun part =>
    decide (pad part <:+: pad (normalizedKey key))

mutual

/-- `_validate_redacted_mapping` raises nothing. -/
def isRedacted : JsonValue → Bool
  | .scalar _ => true
  | .string _ => true
  | .array items => isRedactedItems items
  | .object fields => isRedactedFields fields

def isRedactedItems : List JsonValue → Bool
  | [] => true
  | item :: rest => isRedacted item && isRedactedItems rest

def isRedactedFields : List (Text × JsonValue) → Bool
  | [] => true
  | (key, value) :: rest =>
      !isSensitiveKey key && isRedacted value && isRedactedFields rest

end

/-- A document proven safe for durable storage. -/
structure RedactedDocument where
  document : ConfigurationDocument
  redacted : isRedacted document.toMapping = true
deriving DecidableEq

namespace RedactedDocument

/-- `RedactedDocument(document)`. -/
def create (document : ConfigurationDocument) :
    Except ConsistencyError RedactedDocument :=
  if redacted : isRedacted document.toMapping = true then
    .ok ⟨document, redacted⟩
  else
    .error (.invalidRequest
      "redacted document contains a prohibited sensitive field")

/-- `RedactedDocument.from_mapping`. -/
def fromMapping (value : List (Text × JsonValue)) :
    Except ConsistencyError RedactedDocument := do
  create (← (ConfigurationDocument.fromMapping value).mapError .runtime)

/-- `RedactedDocument.to_mapping`. -/
def toMapping (value : RedactedDocument) : JsonValue :=
  value.document.toMapping

theorem fromMapping_toMapping {fields : List (Text × JsonValue)}
    {document : RedactedDocument}
    (made : fromMapping fields = .ok document) :
    document.toMapping = (JsonValue.object fields).sortKeys := by
  simp only [fromMapping, bind_eq_ok, create] at made
  obtain ⟨inner, read, made⟩ := made
  split at made
  · cases made
    exact ConfigurationDocument.fromMapping_toMapping (mapError_eq_ok.mp read)
  · cases made

end RedactedDocument

end Redacted

/-! ## Records of idempotent commands -/

inductive IdempotencyStatus where
  | inProgress
  | completed
  | failed
deriving DecidableEq

/-- Outcome of beginning or replaying an idempotent command. -/
inductive IdempotencyBeginDisposition where
  | started
  | reclaimed
  | inProgressReplay
  | completedReplay
  | failedReplay
deriving DecidableEq

/-- The dispositions that admit an owner. -/
def IdempotencyBeginDisposition.admits : IdempotencyBeginDisposition → Bool
  | .started => true
  | .reclaimed => true
  | _ => false

/-- `_DISPOSITIONS`. -/
def IdempotencyStatus.replay :
    IdempotencyStatus → IdempotencyBeginDisposition
  | .inProgress => .inProgressReplay
  | .completed => .completedReplay
  | .failed => .failedReplay

theorem IdempotencyStatus.replay_admits (status : IdempotencyStatus) :
    status.replay.admits = false := by
  cases status <;> rfl

/-- The scope and the key of one command. -/
structure IdempotencyIdentity where
  scope : Text
  key : Text
deriving DecidableEq

section Records

variable [CasefoldRuntime]

structure IdempotencyRecord where
  identity : IdempotencyIdentity
  status : IdempotencyStatus
  responseSchemaVersion : Option Int
  response : Option RedactedDocument
  createdAt : Instant
  updatedAt : Instant
  completedAt : Option Instant

/-- The capability of the transaction that created or reclaimed a record. -/
structure IdempotencyReservation where
  identity : IdempotencyIdentity
  requestSha256 : Text
  createdAt : Instant
  updatedAt : Instant
deriving DecidableEq

/-- Only a result that admits an owner carries a reservation. -/
structure IdempotencyBeginResult where
  disposition : IdempotencyBeginDisposition
  record : IdempotencyRecord
  reservation : Option IdempotencyReservation
  coherent : disposition.admits = reservation.isSome

end Records

end ParityGrid.Application
