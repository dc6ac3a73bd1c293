import CustomModels.Shared.Lemmas.Codec

/-!
# Packets that are cut short or go on

What the decoder says of an accepted packet with bytes taken off its end, and with bytes added there. All reads of
a payload come before its field check, so a payload that is cut short is told from one with invalid fields.
-/

namespace CustomModels.Shared
open CustomModels.Lib Reader

/-! ## Payloads -/

/-- The errors for an accepted payload that is cut short, and for one that goes on. -/
structure LengthErrors (decode : List UInt8 → Except DecodeError Message) (payload : List UInt8) : Prop where
  cut : ∀ front back, payload = front ++ back → back ≠ [] → decode front = .error .truncatedPayload
  extended : ∀ extra, extra ≠ [] → decode (payload ++ extra) = .error .payloadLengthMismatch

theorem decodeFields_lengthErrors {α : Type} {read : Reader α} {P : α → Prop} {layout : α → List UInt8}
    (hread : Reads read P layout) {valid : α → Bool} {build : α → Message} {payload : List UInt8}
    {message : Message} (h : decodeFields read valid build payload = .ok message) :
    LengthErrors (decodeFields read valid build) payload := by
  obtain ⟨value, hp, hvalid, rfl, rfl⟩ := (decodeFields_eq_ok hread).mp h
  constructor
  · intro front back hcut hb
    rw [decodeFields, hread.none_of_cut hp hcut hb]
  · intro extra he
    have hlength : remaining extra ≠ 0 := fun h0 => he (List.length_eq_zero_iff.mp h0)
    rw [decodeFields, hread.complete hp extra]
    simp [hvalid, hlength]

theorem decodePayload_lengthErrors {type : MessageType} {payload : List UInt8} {message : Message}
    (h : decodePayload type payload = .ok message) : LengthErrors (decodePayload type) payload := by
  cases type with
  | hello => exact decodeFields_lengthErrors readHello_reads h
  | welcome => exact decodeFields_lengthErrors readWelcome_reads h
  | reject => exact decodeFields_lengthErrors readU16_reads h
  | ping => exact decodeFields_lengthErrors readU64_reads h
  | pong => exact decodeFields_lengthErrors readU64_reads h
  | manifestBegin => exact decodeFields_lengthErrors readManifestBoundary_reads h
  | manifestAsset => exact decodeFields_lengthErrors readManifestAsset_reads h
  | manifestEnd => exact decodeFields_lengthErrors readManifestBoundary_reads h
  | assetReady => exact decodeFields_lengthErrors readAssetReady_reads h
  | assetError => exact decodeFields_lengthErrors readAssetError_reads h

/-! ## Packets -/

/-- The header of a packet with a payload of that size. -/
def headerOf (type : MessageType) (size : UInt32) : List UInt8 :=
  be32 kMagic ++ be16 kProtocolVersion ++ be16 type.value ++ be32 size

theorem headerOf_length (type : MessageType) (size : UInt32) : (headerOf type size).length = kHeaderSize := rfl

/-- Behind a header the sizes are compared, and then the payload is decoded. -/
theorem decodePacket_headerOf {type : MessageType} {size : UInt32} {reader : List UInt8}
    (hsize : size.toNat ≤ kMaximumPayloadSize) :
    decodePacket (headerOf type size ++ reader) =
      if reader.length < size.toNat then .error .truncatedPayload
      else if size.toNat ≠ reader.length then .error .payloadLengthMismatch
      else (decodePayload type reader).map fun message => ⟨kProtocolVersion, message⟩ := by
  have hread := (readHeader_reads (headerOf type size ++ reader) (kMagic, kProtocolVersion, type.value, size)
    reader).mpr ⟨trivial, rfl⟩
  have hlong : ¬ (headerOf type size ++ reader).length < kHeaderSize := by
    rw [List.length_append, headerOf_length]
    omega
  rw [decodePacket, if_neg hlong, hread]
  simp only [ne_eq, not_true_eq_false, ↓reduceIte, Nat.not_lt.mpr hsize, MessageType.ofValue?_eq_some.mpr rfl]
  cases decodePayload type reader with
  | error error => rfl
  | ok message => rfl

/-- An accepted packet is a header with the payload's size, and a payload that is accepted. -/
theorem exists_headerOf {bytes : List UInt8} {packet : Packet} (h : decodePacket bytes = .ok packet) :
    ∃ type payload, bytes = headerOf type (UInt32.ofNat payload.length) ++ payload ∧
      payload.length ≤ kMaximumPayloadSize ∧ LengthErrors (decodePayload type) payload := by
  obtain ⟨-, he, rfl⟩ := decodePacket_eq_ok.mp h
  have hlength := Message.payload_length_le he
  refine ⟨_, _, rfl, hlength.trans (by decide), decodePayload_lengthErrors (decodePayload_eq_ok.mpr ⟨rfl, he, rfl⟩)⟩

theorem withPayload_headerOf (type : MessageType) (size : UInt32) (old payload : List UInt8) :
    withPayload (headerOf type size ++ old) payload =
      headerOf type (UInt32.ofNat payload.length) ++ payload := rfl

theorem drop_headerOf (type : MessageType) (size : UInt32) (payload : List UInt8) :
    (headerOf type size ++ payload).drop kHeaderSize = payload := rfl

theorem toNat_ofNat_of_payload {payload : List UInt8} (h : payload.length ≤ kMaximumPayloadSize) :
    (UInt32.ofNat payload.length).toNat = payload.length := by
  simp only [kMaximumPayloadSize, kMaximumPacketSize, kHeaderSize] at h
  exact UInt32.toNat_ofNat_of_lt (by rw [UInt32.size]; omega)

/-- With the size of its payload in the header, a packet is decoded as its payload is. -/
theorem decodePacket_withSize {type : MessageType} {payload : List UInt8}
    (h : payload.length ≤ kMaximumPayloadSize) :
    decodePacket (headerOf type (UInt32.ofNat payload.length) ++ payload) =
      (decodePayload type payload).map fun message => ⟨kProtocolVersion, message⟩ := by
  have hsize := toNat_ofNat_of_payload h
  rw [decodePacket_headerOf (hsize.trans_le h), hsize]
  simp

end CustomModels.Shared
