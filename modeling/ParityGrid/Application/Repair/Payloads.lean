import ParityGrid.Application.Ports.ConnectorRedaction
import ParityGrid.Demo.Simulators.Warehouse

/-!
# Payloads of repair effects

A repair writes the business state of a record and expects the target to hold
the state that the reconciliation saw there.  The expectation travels as the
digest of a rendered payload, and the target takes the digest of what it
stores.
-/

namespace ParityGrid.Application

open Foundation Domain
open Demo (canonicalTargetPayloadSha256 preconditionHolds validateRecordValue
  validateRecordFields validateRecordItems)

section Effects

variable [PythonRuntime]

/-! ## Effects -/

/-- The fields of `_effect_record`. -/
def effectFields (content : BusinessContent) : InventoryFields where
  sku := content.sku
  name := content.name
  quantity := content.quantity
  unitPrice := content.unitPrice
  updatedAt := content.updatedAt
  connectorId := ⟨text "con_repair-effect", by decide +kernel⟩
  sourceRecordKey := text "repair-effect"
  attributes := content.attributes

/-- `InventoryEffect.__post_init__`. -/
def validateEffect (content : BusinessContent) : Except PythonError Unit := do
  let candidate ← InventoryRecord.construct (effectFields content)
  require (candidate.content == content)
    (.valueError (text "inventory effect must already use canonical values"))

/-- Inventory business state without observation provenance. -/
structure InventoryEffect where
  content : BusinessContent
  valid : validateEffect content = .ok ()

/-- `InventoryEffect.from_record`. -/
def InventoryEffect.fromRecord (record : InventoryRecord) :
    Except PythonError InventoryEffect :=
  match valid : validateEffect record.content with
  | .error error => .error error
  | .ok () => .ok ⟨record.content, valid⟩

/-- The placeholder key of an effect is canonical. -/
theorem effectKey_normalizes :
    normalizeSourceRecordKey (text "repair-effect") =
      .ok (text "repair-effect") := by
  have visible : ∀ c ∈ text "repair-effect", isAscii c ∧ 0x21 ≤ c.val ∧
      c.val ≤ 0x7E := by
    have all : (text "repair-effect").all fun c =>
        decide (0x21 ≤ c.val) && decide (c.val ≤ 0x7E) := by
      decide
    intro c member
    have range := List.all_eq_true.mp all c member
    simp only [Bool.and_eq_true, decide_eq_true_eq] at range
    refine ⟨?_, range⟩
    simp only [isAscii, decide_eq_true_eq]
    omega
  have ascii : (text "repair-effect").all isAscii :=
    List.all_eq_true.mpr fun c member => (visible c member).1
  have solid : (text "repair-effect").any
      (fun c => isSpace c && c != point ' ') = false := by
    rw [List.any_eq_false]
    intro c member space
    obtain ⟨plain, _, _⟩ := visible c member
    rw [Bool.and_eq_true, PythonRuntime.isSpace_ascii c plain] at space
    omega
  have printable : (text "repair-effect").any categoryOther = false := by
    rw [List.any_eq_false]
    intro c member other
    obtain ⟨plain, _, _⟩ := visible c member
    rw [PythonRuntime.categoryOther_ascii c plain] at other
    omega
  simp only [normalizeSourceRecordKey, normalizeBusinessText,
    PythonRuntime.nfc_ascii _ ascii, solid, printable]
  rfl

theorem validateEffect_content (record : InventoryRecord) :
    validateEffect record.content = .ok () := by
  have normalized : (effectFields record.content).normalize =
      .ok (effectFields record.content) := by
    simp only [InventoryFields.normalize, bind_eq_ok]
    exact ⟨(), record.valid.sku, _, record.valid.name, (),
      record.valid.quantity, (), record.valid.unitPrice, _,
      effectKey_normalizes, rfl⟩
  have built : InventoryRecord.construct (effectFields record.content) =
      .ok ⟨_, InventoryFields.normalize_valid normalized⟩ :=
    InventoryRecord.construct_eq_ok.mpr normalized
  rw [validateEffect, built, ok_bind, require_eq_ok, beq_iff_eq]
  rfl

/-- The effect of a record is its content. -/
theorem InventoryEffect.fromRecord_returns (record : InventoryRecord) :
    fromRecord record =
      .ok ⟨record.content, validateEffect_content record⟩ := by
  rw [fromRecord]
  split
  · rename_i error raised
    rw [validateEffect_content] at raised
    cases raised
  · rfl

end Effects

section Payloads

variable [JsonRuntime]

/-- `render_effect_payload`. -/
def renderEffectPayload (effect : InventoryEffect) :
    List (Text × JsonValue) :=
  let canonicalPrice := effect.content.unitPrice.toText
  let currency := canonicalPrice.takeWhile (· != point ' ')
  let amount := (canonicalPrice.dropWhile (· != point ' ')).drop 1
  [(text "attributes", .object (effect.content.attributes.items.map
      fun item => (item.1, .string item.2))),
    (text "name", .string effect.content.name),
    (text "quantity", .int effect.content.quantity),
    (text "sku", .string effect.content.sku),
    (text "source_record_key",
      .string (text "repair:" ++ lowered effect.content.sku)),
    (text "unit_price", .object
      [(text "amount", .string amount), (text "currency", .string currency)]),
    (text "updated_at", .string effect.content.updatedAt.toText)]

/-! ## Preconditions -/

/-- `TargetWritePrecondition`. -/
inductive TargetWritePrecondition where
  | mustBeAbsent
  | expectedPayloadSha256 (digest : Text) (valid : isSha256Text digest)

/-- `TargetWritePrecondition.expected_payload`. -/
def TargetWritePrecondition.expectedPayload
    (payload : List (Text × JsonValue)) :
    Except PythonError TargetWritePrecondition := do
  let digest ← canonicalTargetPayloadSha256 payload
  if valid : isSha256Text digest then
    .ok (.expectedPayloadSha256 digest valid)
  else
    .error (Demo.connectorValidationError
      "target precondition payload hash is invalid")

/-- `TargetWritePrecondition.header_value`. -/
def TargetWritePrecondition.headerValue : TargetWritePrecondition → Text
  | .mustBeAbsent => text "absent"
  | .expectedPayloadSha256 digest _ => text "sha256:" ++ digest

/-- The precondition of the request in `_apply_one`. -/
def effectPrecondition (expectedTarget : Option InventoryEffect) :
    Except PythonError TargetWritePrecondition :=
  match expectedTarget with
  | none => .ok .mustBeAbsent
  | some effect =>
      TargetWritePrecondition.expectedPayload (renderEffectPayload effect)

end Payloads

end ParityGrid.Application
