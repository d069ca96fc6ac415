import ParityGrid.Foundation.JsonReading
import ParityGrid.Foundation.Sorting
import ParityGrid.Foundation.Validation

/-!
# Configuration documents

A `ConfigurationDocument` is a JSON object of bounded size without floats, in
key order and in normalized Unicode.
-/

namespace ParityGrid.Application

open ParityGrid.Foundation

/-! ## Bounds -/

def maxDocumentDepth : Nat := 32

def maxDocumentEntries : Nat := 10000

def maxDocumentKeyLength : Nat := 1024

def maxDocumentStringLength : Nat := 65536

/-- `_check_depth`. -/
def checkDepth (depth : Nat) : Except PythonError Unit :=
  require (depth ≤ maxDocumentDepth) (.valueError (text
    "configuration document exceeds the maximum nesting depth"))

/-- `_consume_entry`: the entries counted so far. -/
def consumeEntry (budget : Nat) : Except PythonError Nat := do
  require (budget + 1 ≤ maxDocumentEntries) (.valueError (text
    "configuration document contains too many entries"))
  return budget + 1

/-- `_check_normalized_text`. -/
def checkNormalizedText [PythonRuntime] (value : Text) (key : Bool) :
    Except PythonError Unit := do
  require
    (value.length ≤ if key then maxDocumentKeyLength else maxDocumentStringLength)
    (.valueError (text
      "configuration document text exceeds the supported length"))
  require (nfc value == value) (.valueError (text
    "configuration document text must use normalized Unicode"))

section Walk

variable [PythonRuntime] (canonical : Bool) (closedMessage : String)

/-- The keys of one object, when they have to be canonical. -/
def checkKeyOrder (fields : List (Text × JsonValue)) :
    Except PythonError Unit :=
  let keys := fields.map Prod.fst
  require (!canonical || (sortedBy id keys == keys && decide keys.Nodup))
    (.valueError (text
      "configuration document items must be canonical and sorted with unique keys"))

mutual

/--
The walk that freezing and validating a document share.  It returns the number
of entries counted so far; only validating requires canonical keys.
-/
def walkValue (depth budget : Nat) : JsonValue → Except PythonError Nat
  | .scalar (.float _) => do
      checkDepth depth
      throw (.typeError (text closedMessage))
  | .scalar _ => do
      checkDepth depth
      return budget
  | .string value => do
      checkDepth depth
      checkNormalizedText value false
      return budget
  | .array items => do
      checkDepth depth
      walkItems depth budget items
  | .object fields => do
      checkDepth depth
      let after ← walkFields depth budget fields
      checkKeyOrder canonical fields
      return after

def walkItems (depth budget : Nat) : List JsonValue → Except PythonError Nat
  | [] => .ok budget
  | item :: rest => do
      let counted ← consumeEntry budget
      let after ← walkValue (depth + 1) counted item
      walkItems depth after rest

def walkFields (depth budget : Nat) :
    List (Text × JsonValue) → Except PythonError Nat
  | [] => .ok budget
  | (key, value) :: rest => do
      checkNormalizedText key true
      let counted ← consumeEntry budget
      let after ← walkValue (depth + 1) counted value
      walkFields depth after rest

end

end Walk

/-! ## Configuration documents -/

section Configuration

variable [PythonRuntime]

/-- `_validate_document_object` at the root. -/
def validateDocumentObject (items : List (Text × JsonValue)) :
    Except PythonError Unit := do
  let _ ← walkValue true
    "configuration document values must be immutable structural values"
    0 0 (.object items)
  return ()

/-- `_freeze_object` at the root. -/
def freezeObject (fields : List (Text × JsonValue)) :
    Except PythonError (List (Text × JsonValue)) := do
  let _ ← walkValue false
    "configuration document values must be JSON-compatible without floats"
    0 0 (.object fields)
  return (JsonValue.sortFields fields).insertionSort fieldLe

/-- An immutable, normalized JSON object. -/
structure ConfigurationDocument where
  items : List (Text × JsonValue)
  valid : validateDocumentObject items = .ok ()
deriving DecidableEq

/-- The fields of the empty document. -/
theorem validateDocumentObject_nil : validateDocumentObject [] = .ok () := rfl

namespace ConfigurationDocument

/-- `ConfigurationDocument(items=...)`. -/
def create (items : List (Text × JsonValue)) :
    Except PythonError ConfigurationDocument :=
  match valid : validateDocumentObject items with
  | .ok () => .ok ⟨items, valid⟩
  | .error error => .error error

/-- `ConfigurationDocument.from_mapping`. -/
def fromMapping (value : List (Text × JsonValue)) :
    Except PythonError ConfigurationDocument := do
  create (← freezeObject value)

/-- `ConfigurationDocument.to_mapping`. -/
def toMapping (document : ConfigurationDocument) : JsonValue :=
  .object document.items

/-- A document is the mapping it was made from, in key order. -/
theorem fromMapping_toMapping {fields : List (Text × JsonValue)}
    {document : ConfigurationDocument}
    (made : fromMapping fields = .ok document) :
    document.toMapping = (JsonValue.object fields).sortKeys := by
  simp only [fromMapping, freezeObject, bind_eq_ok, create] at made
  obtain ⟨items, ⟨_, _, frozen⟩, made⟩ := made
  cases frozen
  split at made
  · cases made
    rfl
  · cases made

end ConfigurationDocument

end Configuration

end ParityGrid.Application
