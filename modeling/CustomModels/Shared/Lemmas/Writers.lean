import CustomModels.Shared.Lemmas.Readers

/-!
# What the writers append

Every writer appends exactly the layout of its value, and fails exactly when that does not fit.
-/

namespace CustomModels.Shared
open CustomModels.Lib Buffer

theorem writeByte_appends (value : UInt8) : Appends (ByteWriter.writeByte value) [value] := by
  intro w w'
  simp only [ByteWriter.writeByte]
  split
  · rename_i hfull
    simp only [reduceCtorEq, false_iff]
    intro hw
    have hb := w'.bounded
    rw [hw, List.length_append, List.length_singleton] at hb
    omega
  · simp only [Option.some.injEq, Buffer.ext_iff, eq_comm]

theorem writeU8_appends (value : UInt8) : Appends (ByteWriter.writeU8 value) [value] :=
  writeByte_appends value

theorem writeU16_appends (value : UInt16) : Appends (ByteWriter.writeU16 value) (be16 value) :=
  (writeByte_appends _).bind (writeByte_appends _)

theorem writeU32_appends (value : UInt32) : Appends (ByteWriter.writeU32 value) (be32 value) :=
  (((writeByte_appends _).bind (writeByte_appends _)).bind (writeByte_appends _)).bind
    (writeByte_appends _)

theorem writeU64_appends (value : UInt64) : Appends (ByteWriter.writeU64 value) (be64 value) :=
  (writeU32_appends _).bind (writeU32_appends _)

theorem writeBytes_appends (data : List UInt8) : Appends (ByteWriter.writeBytes data) data := by
  intro w w'
  have hw := w.bounded
  simp only [ByteWriter.writeBytes]
  split
  · simp only [reduceCtorEq, false_iff]
    intro he
    have hb := w'.bounded
    rw [he, List.length_append] at hb
    omega
  · simp only [Option.some.injEq, Buffer.ext_iff, eq_comm]

theorem writeString_appends {value : ByteString} (h : value.length < 2 ^ 16) :
    Appends (ByteWriter.writeString value) (stringLayout value) := by
  intro w w'
  rw [ByteWriter.writeString, if_pos (by omega)]
  exact ((writeU16_appends _).bind (writeBytes_appends value)) w w'

theorem writeRuntimeVersion_appends (version : RuntimeVersion) :
    Appends (writeRuntimeVersion version) version.layout :=
  ((writeU16_appends _).bind (writeU16_appends _)).bind (writeU16_appends _)

theorem writeAssetDescription_appends {asset : AssetDescription} (h : StringsFit asset) :
    Appends (writeAssetDescription asset) asset.layout :=
  (((((writeU32_appends _).bind (writeU16_appends _)).bind (writeString_appends h.1.2)).bind
    (writeString_appends h.2.2)).bind (writeU64_appends _)).bind (writeBytes_appends _)

theorem writePayload_appends (payload : List UInt8) : Appends (writePayload payload) payload := by
  induction payload with
  | nil =>
      intro w w'
      simp only [writePayload, Option.some.injEq, Buffer.ext_iff, List.append_nil, eq_comm]
  | cons byte payload ih => exact (writeU8_appends byte).bind ih

/-- A branch of `EncodePayload` succeeds exactly on valid fields, when their layout fits. -/
theorem encodeFields_eq_ok {valid : Bool} {write : ByteWriter → Option ByteWriter} {layout : List UInt8}
    {w w' : ByteWriter} (hw : valid = true → Appends write layout) :
    encodeFields valid write w = .ok w' ↔ valid = true ∧ w'.bytes = w.bytes ++ layout := by
  cases valid with
  | false => simp [encodeFields]
  | true =>
      simp only [encodeFields, Bool.not_true, Bool.false_eq_true, ↓reduceIte, true_and]
      rw [← hw rfl w w']
      cases write w <;> simp

end CustomModels.Shared
