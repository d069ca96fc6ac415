import ParityGrid.Foundation.Validation
import ParityGrid.Foundation.Sha256

/-!
# Identifiers, sequences and fingerprints

The canonical identifiers of the domain share one contract that differs only
in the marker of the kind.  Sequence numbers are bounded and one-based; a
state fingerprint is the hexadecimal text of a SHA-256 digest.
-/

namespace ParityGrid.Domain

open Foundation

/-! ## Prefixed identifiers -/

/-- The identifier types, one for each entity. -/
inductive IdentifierKind where
  | pipeline
  | node
  | connector
  | run
  | workItem
  | artifact
  | conflict
  | repairPlan
  | repairAction
  | targetVerification
deriving DecidableEq

/-- `_prefix` of the identifier class. -/
def IdentifierKind.tag : IdentifierKind → String
  | .pipeline => "pip"
  | .node => "nod"
  | .connector => "con"
  | .run => "run"
  | .workItem => "wrk"
  | .artifact => "art"
  | .conflict => "cnf"
  | .repairPlan => "rpl"
  | .repairAction => "rac"
  | .targetVerification => "tgv"

/-- `marker`: the tag and an underscore. -/
def IdentifierKind.marker (kind : IdentifierKind) : Text :=
  text kind.tag ++ [point '_']

def isLowerOrDigit (c : CodePoint) : Bool :=
  isLower c || isDigit c

/-- `_PAYLOAD_PATTERN`: `[a-z0-9]+(?:-[a-z0-9]+)*`. -/
def payloadPattern : SegmentPattern where
  first := isLowerOrDigit
  later := isLowerOrDigit
  body := isLowerOrDigit
  separator c := c == point '-'

def minPayloadLength : Nat := 3

def maxPayloadLength : Nat := 64

/-- `_validate_identifier`. -/
def validateIdentifier (kind : IdentifierKind) (value : Text) :
    Except PythonError Unit := do
  require (value != []) (.valueError (text "identifier must not be blank"))
  require (value.all isAscii)
    (.valueError (text "identifier must contain only ASCII"))
  require (kind.marker.isPrefixOf value)
    (.valueError (text "identifier must use the " ++ kind.marker ++
      text " prefix"))
  let payload := value.drop kind.marker.length
  require (minPayloadLength ≤ payload.length &&
      payload.length ≤ maxPayloadLength)
    (.valueError (text
      "identifier payload must be between 3 and 64 characters"))
  require (payloadPattern.fullmatch payload)
    (.valueError (text "identifier payload must be canonical lowercase ASCII"))

/-- `_PrefixedIdentifier`: a text that passed its validator. -/
structure Identifier (kind : IdentifierKind) where
  value : Text
  valid : validateIdentifier kind value = .ok ()
deriving DecidableEq

abbrev PipelineId := Identifier .pipeline
abbrev NodeId := Identifier .node
abbrev ConnectorId := Identifier .connector
abbrev RunId := Identifier .run
abbrev WorkItemId := Identifier .workItem
abbrev ArtifactId := Identifier .artifact
abbrev ConflictId := Identifier .conflict
abbrev RepairPlanId := Identifier .repairPlan
abbrev RepairActionId := Identifier .repairAction
abbrev TargetVerificationId := Identifier .targetVerification

/-- The constructor of an identifier class. -/
def Identifier.create (kind : IdentifierKind) (value : Text) :
    Except PythonError (Identifier kind) :=
  match valid : validateIdentifier kind value with
  | .ok () => .ok ⟨value, valid⟩
  | .error error => .error error

theorem Identifier.ext {kind : IdentifierKind} {left right : Identifier kind}
    (equal : left.value = right.value) :
    left = right := by
  cases left
  cases right
  cases equal
  rfl

theorem Identifier.create_value {kind : IdentifierKind} {value : Text}
    {identifier : Identifier kind}
    (created : Identifier.create kind value = .ok identifier) :
    identifier.value = value := by
  simp only [Identifier.create] at created
  split at created
  next => cases created; rfl
  next => cases created

theorem Identifier.create_self {kind : IdentifierKind}
    (identifier : Identifier kind) :
    Identifier.create kind identifier.value = .ok identifier := by
  simp only [Identifier.create]
  split
  next => rfl
  next error invalid =>
    rw [identifier.valid] at invalid
    cases invalid

theorem Identifier.value_ascii {kind : IdentifierKind}
    (identifier : Identifier kind) :
    identifier.value.all isAscii := by
  have valid := identifier.valid
  simp only [validateIdentifier, bind_eq_ok, require_eq_ok] at valid
  obtain ⟨_, _, _, ascii, _⟩ := valid
  exact ascii

theorem Identifier.value_unicode {kind : IdentifierKind}
    (identifier : Identifier kind) :
    isUnicode identifier.value :=
  isUnicode_of_ascii identifier.value_ascii

/-! ## Sequence values -/

def maxSequenceNumber : Int := 2147483647

/-- `_validate_sequence_number`. -/
def validateSequenceNumber (number : Int) : Except PythonError Unit :=
  require (1 ≤ number && number ≤ maxSequenceNumber)
    (.valueError (text "sequence number must be between 1 and 2147483647"))

/-- `_PositiveSequence`. -/
structure PositiveSequence where
  number : Int
  valid : validateSequenceNumber number = .ok ()
deriving DecidableEq

theorem PositiveSequence.ext {left right : PositiveSequence}
    (equal : left.number = right.number) :
    left = right := by
  cases left
  cases right
  cases equal
  rfl

/-- One-based version number within a pipeline identity. -/
structure PipelineVersion extends PositiveSequence
deriving DecidableEq

/-- One-based immutable attempt number within a work item. -/
structure AttemptNumber extends PositiveSequence
deriving DecidableEq

/-! ## State fingerprints -/

/-- `[0-9a-f]{64}`. -/
def isSha256Text (value : Text) : Bool :=
  value.length == 64 && value.all isHexLower

/-- `_validate_fingerprint`. -/
def validateFingerprint (value : Text) : Except PythonError Unit :=
  require (isSha256Text value)
    (.valueError (text
      "state fingerprint must be exactly 64 lowercase hexadecimal characters"))

structure StateFingerprint where
  value : Text
  valid : validateFingerprint value = .ok ()
deriving DecidableEq

theorem StateFingerprint.ext {left right : StateFingerprint}
    (equal : left.value = right.value) :
    left = right := by
  cases left
  cases right
  cases equal
  rfl

theorem Digest.isSha256Text (digest : Digest) :
    Domain.isSha256Text digest.hex := by
  simp [Domain.isSha256Text, digest.hex_length, digest.hex_all_isHexLower,
    -List.all_eq_true]

/-- `StateFingerprint(digest.hexdigest())`, which always validates. -/
def StateFingerprint.ofDigest (digest : Digest) : StateFingerprint where
  value := digest.hex
  valid := by
    simp [validateFingerprint, Digest.isSha256Text digest]

theorem StateFingerprint.ofDigest_injective :
    Function.Injective StateFingerprint.ofDigest := by
  intro left right equal
  exact Digest.hex_injective (congrArg StateFingerprint.value equal)

theorem isSha256Text_ascii {value : Text} (valid : isSha256Text value) :
    value.all isAscii := by
  simp only [isSha256Text, Bool.and_eq_true, List.all_eq_true] at valid
  simp only [List.all_eq_true]
  intro c member
  exact isAscii_of_isHexLower (valid.2 c member)

theorem StateFingerprint.isSha256Text (fingerprint : StateFingerprint) :
    Domain.isSha256Text fingerprint.value := by
  have valid := fingerprint.valid
  simpa [validateFingerprint, require_eq_ok] using valid

theorem StateFingerprint.value_unicode (fingerprint : StateFingerprint) :
    isUnicode fingerprint.value :=
  isUnicode_of_ascii (isSha256Text_ascii fingerprint.isSha256Text)

end ParityGrid.Domain
