import ParityGrid.Foundation.Text

/-!
# ASCII payloads

A payload of bytes below 128 is the ASCII form of exactly one text.
-/

namespace ParityGrid.Foundation

/-- `payload.decode("ascii")`. -/
def decodeAscii (payload : Bytes) : Option Text :=
  if payload.all fun byte => byte.val < 0x80 then
    some (payload.map fun byte => Fin.ofNat _ byte.val)
  else none

theorem utf8_of_ascii {t : Text} (ascii : t.all isAscii) :
    encodeUtf8 t = .ok (encodeAscii t) := by
  rw [encodeUtf8_ok (isUnicode_of_ascii ascii)]
  refine congrArg Except.ok ?_
  induction t with
  | nil => rfl
  | cons c rest ih =>
      rw [List.all_cons, Bool.and_eq_true] at ascii
      rw [List.flatMap_cons, utf8Bytes_ascii ascii.1, ih ascii.2]
      rfl

/-- A payload is the ASCII form of the text that it decodes to. -/
theorem decodeAscii_eq_some {payload : Bytes} {t : Text} :
    decodeAscii payload = some t ↔
      t.all isAscii ∧ encodeAscii t = payload := by
  have onBytes {byte : Byte} (small : byte.val < 0x80) :
      isAscii (Fin.ofNat _ byte.val) ∧
        (Fin.ofNat 256 (Fin.ofNat 0x110000 byte.val).val) = byte := by
    simp only [isAscii, Fin.ext_iff, Fin.val_ofNat, decide_eq_true_eq]
    omega
  have onPoints {c : CodePoint} (ascii : isAscii c) :
      (Fin.ofNat 256 c.val).val < 0x80 ∧
        Fin.ofNat 0x110000 (Fin.ofNat 256 c.val).val = c := by
    simp only [isAscii, Fin.ext_iff, Fin.val_ofNat, decide_eq_true_eq]
      at ascii ⊢
    omega
  simp only [decodeAscii, Option.ite_none_right_eq_some, Option.some.injEq,
    List.all_eq_true, decide_eq_true_eq]
  constructor
  · rintro ⟨small, rfl⟩
    refine ⟨fun c member => ?_, ?_⟩
    · obtain ⟨byte, inside, rfl⟩ := List.mem_map.mp member
      exact (onBytes (small byte inside)).1
    · rw [encodeAscii, List.map_map]
      exact (List.map_congr_left fun byte inside =>
        (onBytes (small byte inside)).2).trans (List.map_id payload)
  · rintro ⟨ascii, rfl⟩
    refine ⟨fun byte member => ?_, ?_⟩
    · obtain ⟨c, inside, rfl⟩ := List.mem_map.mp member
      exact (onPoints (ascii c inside)).1
    · rw [encodeAscii, List.map_map]
      exact (List.map_congr_left fun c inside =>
        (onPoints (ascii c inside)).2).trans (List.map_id t)

end ParityGrid.Foundation
