import CustomModels.Shared.Lemmas.Writers

/-!
# The serializer refines the wire format

`encodePacket` and `decodePacket` each succeed exactly on the encodable messages and their packets. The
round trips of the protocol follow from these two equivalences alone.
-/

namespace CustomModels.Shared
open CustomModels.Lib Reader

/-! ## The field checks -/

theorem isSampVersionValueValid_iff {value : UInt16} :
    isSampVersionValueValid value = true ↔ value.toNat ≤ 7 := by
  simp only [isSampVersionValueValid, decide_eq_true_eq, UInt16.le_iff_toNat_le]
  rfl

theorem areCapabilitiesValid_iff {flags : CapabilityFlags} :
    areCapabilitiesValid flags = true ↔ DeclaredOnly flags := by
  simp only [areCapabilitiesValid, beq_iff_eq, DeclaredOnly]

theorem isRejectReasonValid_iff {value : UInt16} :
    isRejectReasonValid value = true ↔ 1 ≤ value.toNat ∧ value.toNat ≤ 5 := by
  simp only [isRejectReasonValid, Bool.and_eq_true, decide_eq_true_eq, UInt16.le_iff_toNat_le]
  rfl

theorem isAssetErrorReasonValid_iff {value : UInt16} :
    isAssetErrorReasonValid value = true ↔ 1 ≤ value.toNat ∧ value.toNat ≤ 8 := by
  simp only [isAssetErrorReasonValid, Bool.and_eq_true, decide_eq_true_eq, UInt16.le_iff_toNat_le]
  rfl

theorem isManifestBoundaryValid_iff {revision total : UInt64} {count : UInt32} :
    isManifestBoundaryValid revision count total = true ↔ ManifestBoundary revision count total := by
  simp only [isManifestBoundaryValid, ManifestBoundary, Bool.and_eq_true, Bool.or_eq_true, bne_iff_ne,
    beq_iff_eq, decide_eq_true_eq, UInt64.le_iff_toNat_le, and_assoc]
  refine and_congr_right fun _ => and_congr_right fun _ => and_congr Iff.rfl ?_
  tauto

theorem stringsFit_of_valid {asset : AssetDescription} (h : isAssetDescriptionValid asset = true) :
    StringsFit asset := by
  simp only [isAssetDescriptionValid, Bool.and_eq_true] at h
  obtain ⟨⟨⟨⟨⟨_, _⟩, hname⟩, hurl⟩, _⟩, _⟩ := h
  have hn : asset.logicalName.length ≤ kMaximumLogicalNameLength := by
    by_contra hlong
    rw [isLogicalNameValid, if_pos (by simp [Nat.lt_of_not_le hlong])] at hname
    cases hname
  have hu : asset.downloadUrl.length ≤ kMaximumUrlLength := by
    by_contra hlong
    rw [isDownloadUrlValid, if_pos (by simp [Nat.lt_of_not_le hlong])] at hurl
    cases hurl
  exact ⟨⟨hn, hn.trans_lt (by decide)⟩, hu, hu.trans_lt (by decide)⟩

/-! ## Payload lengths -/

theorem AssetDescription.layout_length (asset : AssetDescription) :
    asset.layout.length = 50 + asset.logicalName.length + asset.downloadUrl.length := by
  have hd := asset.sha256.size
  simp only [AssetDescription.layout, stringLayout, List.length_append, be16_length, be32_length,
    be64_length, hd, kSha256Size]
  omega

/-- No encodable payload comes near the limit of 4084 bytes. -/
theorem Message.payload_length_le {message : Message} (h : message.Encodable) :
    message.payload.length ≤ 2206 := by
  cases message with
  | manifestAsset value =>
      obtain ⟨⟨hname, _⟩, hurl, _⟩ := stringsFit_of_valid h.2.2
      simp only [kMaximumLogicalNameLength, kMaximumUrlLength] at hname hurl
      simp only [Message.payload, List.length_append, be32_length, be64_length,
        AssetDescription.layout_length]
      omega
  | _ => simp [Message.payload, RuntimeVersion.layout, boundaryLayout]

@[simp] theorem Message.packet_length (message : Message) :
    message.packet.length = kHeaderSize + message.payload.length := by
  simp only [Message.packet, List.length_append, be16_length, be32_length, kHeaderSize]

/-! ## Encoding -/

/-- Every branch of `EncodePayload` checks that the message is encodable and then writes its payload. -/
theorem encodePayload_branch (message : Message) :
    ∃ valid write, (∀ w, encodePayload w message = encodeFields valid write w) ∧
      (valid = true ↔ message.Encodable) ∧ (valid = true → Buffer.Appends write message.payload) := by
  cases message with
  | hello value =>
      refine ⟨_, _, fun _ => rfl, ?_, fun _ =>
        (((writeRuntimeVersion_appends _).bind (writeU16_appends _)).bind (writeU16_appends _)).bind
          (writeU32_appends _)⟩
      rw [Bool.and_eq_true, isSampVersionValueValid_iff, areCapabilitiesValid_iff, UInt8.toNat_toUInt16]
      rfl
  | welcome value =>
      exact ⟨_, _, fun _ => rfl, areCapabilitiesValid_iff, fun _ =>
        (((writeU16_appends _).bind (writeRuntimeVersion_appends _)).bind (writeU16_appends _)).bind
          (writeU32_appends _)⟩
  | reject value =>
      exact ⟨_, _, fun _ => rfl, isRejectReasonValid_iff, fun _ => writeU16_appends _⟩
  | ping value => exact ⟨_, _, fun _ => rfl, Iff.of_eq (eq_self true), fun _ => writeU64_appends _⟩
  | pong value => exact ⟨_, _, fun _ => rfl, Iff.of_eq (eq_self true), fun _ => writeU64_appends _⟩
  | manifestBegin value =>
      exact ⟨_, _, fun _ => rfl, isManifestBoundaryValid_iff, fun _ =>
        ((writeU64_appends _).bind (writeU32_appends _)).bind (writeU64_appends _)⟩
  | manifestAsset value =>
      refine ⟨_, _, fun _ => rfl, ?_, fun hvalid =>
        ((writeU64_appends _).bind (writeU32_appends _)).bind
          (writeAssetDescription_appends (stringsFit_of_valid (Bool.and_eq_true _ _ ▸ hvalid).2))⟩
      rw [Bool.and_eq_true, Bool.and_eq_true, bne_iff_ne, decide_eq_true_eq]
      exact and_assoc
  | manifestEnd value =>
      exact ⟨_, _, fun _ => rfl, isManifestBoundaryValid_iff, fun _ =>
        ((writeU64_appends _).bind (writeU32_appends _)).bind (writeU64_appends _)⟩
  | assetReady value =>
      refine ⟨_, _, fun _ => rfl, ?_, fun _ => (writeU64_appends _).bind (writeU32_appends _)⟩
      rw [Bool.and_eq_true, bne_iff_ne, bne_iff_ne]
      rfl
  | assetError value =>
      refine ⟨_, _, fun _ => rfl, ?_, fun _ =>
        ((writeU64_appends _).bind (writeU32_appends _)).bind (writeU16_appends _)⟩
      rw [Bool.and_eq_true, Bool.and_eq_true, bne_iff_ne, bne_iff_ne, isAssetErrorReasonValid_iff]
      exact and_assoc

theorem encodePayload_eq_ok {message : Message} {w w' : ByteWriter} :
    encodePayload w message = .ok w' ↔ message.Encodable ∧ w'.bytes = w.bytes ++ message.payload := by
  obtain ⟨valid, write, heq, hvalid, happ⟩ := encodePayload_branch message
  rw [heq, encodeFields_eq_ok happ, hvalid]

theorem encodePayload_of_not_encodable {message : Message} (h : ¬ message.Encodable) (w : ByteWriter) :
    encodePayload w message = .error .invalidField := by
  obtain ⟨valid, write, heq, hvalid, _⟩ := encodePayload_branch message
  rw [← hvalid, Bool.not_eq_true] at h
  rw [heq, h]
  rfl

/-- The header and the loop over the payload append the packet. -/
theorem writePacket_appends (message : Message) :
    Buffer.Appends (fun writer : ByteWriter => (ByteWriter.writeU32 kMagic writer >>=
      ByteWriter.writeU16 kProtocolVersion >>= ByteWriter.writeU16 (typeOf message).value >>=
      ByteWriter.writeU32 (UInt32.ofNat message.payload.length)) >>= writePayload message.payload)
      message.packet :=
  ((((writeU32_appends _).bind (writeU16_appends _)).bind (writeU16_appends _)).bind
    (writeU32_appends _)).bind (writePayload_appends _)

theorem encodePacket_of_encodable {message : Message} (h : message.Encodable) :
    encodePacket message kProtocolVersion = .ok message.packet := by
  have hlen := message.payload_length_le h
  obtain ⟨w, hw⟩ : ∃ w : ByteWriter, w.bytes = message.payload :=
    ⟨⟨message.payload, hlen.trans (by decide)⟩, rfl⟩
  have hp : encodePayload Buffer.empty message = .ok w :=
    encodePayload_eq_ok.mpr ⟨h, by rw [hw, Buffer.empty_bytes, List.nil_append]⟩
  obtain ⟨out, hout, hbytes⟩ := (writePacket_appends message).fits (w := Buffer.empty) (by
    rw [Buffer.empty_bytes, List.length_nil, Message.packet_length, kHeaderSize, kMaximumPacketSize]
    omega)
  have hsmall : ¬ (kMaximumPayloadSize < w.bytes.length ∨ UInt32.size - 1 < w.bytes.length) := by
    rw [hw]
    simp only [kMaximumPayloadSize, kMaximumPacketSize, kHeaderSize, UInt32.size]
    omega
  rw [Buffer.empty_bytes, List.nil_append] at hbytes
  simp only [encodePacket, ne_eq, not_true_eq_false, ↓reduceIte, hp, bind, Except.bind, Bool.or_eq_true,
    decide_eq_true_eq, hsmall]
  simp only [bind, ← hw] at hout
  simp only [hout, hbytes]

theorem encodePacket_of_not_encodable {message : Message} (h : ¬ message.Encodable) :
    encodePacket message kProtocolVersion = .error .invalidField := by
  simp [encodePacket, encodePayload_of_not_encodable h, bind, Except.bind]

theorem encodePacket_eq_ok {message : Message} {version : UInt16} {bytes : List UInt8} :
    encodePacket message version = .ok bytes ↔
      version = kProtocolVersion ∧ message.Encodable ∧ bytes = message.packet := by
  by_cases hv : version = kProtocolVersion
  · subst hv
    by_cases h : message.Encodable
    · simp [encodePacket_of_encodable h, h, eq_comm]
    · simp [encodePacket_of_not_encodable h, h]
  · simp [encodePacket, hv]

/-! ## Decoding -/

theorem decodeFields_eq_ok {α : Type} {read : Reader α} {P : α → Prop} {layout : α → List UInt8}
    (hread : Reads read P layout) {valid : α → Bool} {build : α → Message} {payload : List UInt8}
    {message : Message} :
    decodeFields read valid build payload = .ok message ↔
      ∃ value, P value ∧ valid value = true ∧ payload = layout value ∧ build value = message := by
  unfold decodeFields
  constructor
  · intro h
    split at h
    · cases h
    · rename_i value reader hr
      obtain ⟨hp, rfl⟩ := (hread _ _ _).mp hr
      split at h
      · cases h
      · rename_i hvalid
        split at h
        · rename_i hrest
          cases h
          rw [List.length_eq_zero_iff.mp hrest, List.append_nil]
          exact ⟨value, hp, by simpa using hvalid, rfl, rfl⟩
        · cases h
  · rintro ⟨value, hp, hvalid, rfl, rfl⟩
    have hr := hread.complete hp []
    rw [List.append_nil] at hr
    simp [hr, hvalid]

/-- A 16-bit build number that passes the check is the widening of the enumerator it is cast to. -/
theorem sampVersion_cast {value : UInt16} (h : value.toNat ≤ 7) : value.toUInt8.toUInt16 = value := by
  rw [← UInt16.toNat_inj, UInt8.toNat_toUInt16, UInt16.toNat_toUInt8]
  omega

/-- A branch of `DecodePayload` decodes its type of message, if every accepted value is such a message
and every such message is an accepted value. -/
theorem decodeFields_eq_message {α : Type} {read : Reader α} {P : α → Prop} {layout : α → List UInt8}
    (hread : Reads read P layout) {valid : α → Bool} {build : α → Message} {type : MessageType}
    (hsound : ∀ value, P value → valid value = true →
      typeOf (build value) = type ∧ (build value).Encodable ∧ layout value = (build value).payload)
    (hcomplete : ∀ message, typeOf message = type → message.Encodable →
      ∃ value, P value ∧ valid value = true ∧ build value = message)
    {payload : List UInt8} {message : Message} :
    decodeFields read valid build payload = .ok message ↔
      typeOf message = type ∧ message.Encodable ∧ payload = message.payload := by
  rw [decodeFields_eq_ok hread]
  constructor
  · rintro ⟨value, hp, hvalid, rfl, rfl⟩
    exact hsound value hp hvalid
  · rintro ⟨ht, he, rfl⟩
    obtain ⟨value, hp, hvalid, rfl⟩ := hcomplete message ht he
    exact ⟨value, hp, hvalid, (hsound value hp hvalid).2.2.symm, rfl⟩

theorem decodePayload_eq_ok {type : MessageType} {payload : List UInt8} {message : Message} :
    decodePayload type payload = .ok message ↔
      typeOf message = type ∧ message.Encodable ∧ payload = message.payload := by
  cases type with
  | hello =>
      apply decodeFields_eq_message readHello_reads
      · rintro ⟨version, protocolVersion, build, capabilities⟩ - hvalid
        simp only [Bool.and_eq_true, isSampVersionValueValid_iff, areCapabilitiesValid_iff] at hvalid
        have hb := sampVersion_cast hvalid.1
        refine ⟨rfl, ⟨?_, hvalid.2⟩, by simp only [Message.payload, hb]⟩
        rw [UInt16.toNat_toUInt8]
        omega
      · intro message ht he
        cases message <;> simp only [typeOf, reduceCtorEq] at ht
        rename_i value
        refine ⟨(value.runtimeVersion, value.protocolVersion, value.sampVersion.value.toUInt16,
          value.capabilities), trivial, ?_, by simp⟩
        simp only [Bool.and_eq_true, isSampVersionValueValid_iff, areCapabilitiesValid_iff,
          UInt8.toNat_toUInt16]
        exact he
  | welcome =>
      apply decodeFields_eq_message readWelcome_reads
      · exact fun value _ hvalid => ⟨rfl, areCapabilitiesValid_iff.mp hvalid, rfl⟩
      · intro message ht he
        cases message <;> simp only [typeOf, reduceCtorEq] at ht
        exact ⟨_, trivial, areCapabilitiesValid_iff.mpr he, rfl⟩
  | reject =>
      apply decodeFields_eq_message readU16_reads
      · exact fun reason _ hvalid => ⟨rfl, isRejectReasonValid_iff.mp hvalid, rfl⟩
      · intro message ht he
        cases message <;> simp only [typeOf, reduceCtorEq] at ht
        exact ⟨_, trivial, isRejectReasonValid_iff.mpr he, rfl⟩
  | ping =>
      apply decodeFields_eq_message readU64_reads
      · exact fun nonce _ _ => ⟨rfl, by trivial, rfl⟩
      · rintro message ht -
        cases message <;> simp only [typeOf, reduceCtorEq] at ht
        exact ⟨_, trivial, rfl, rfl⟩
  | pong =>
      apply decodeFields_eq_message readU64_reads
      · exact fun nonce _ _ => ⟨rfl, by trivial, rfl⟩
      · rintro message ht -
        cases message <;> simp only [typeOf, reduceCtorEq] at ht
        exact ⟨_, trivial, rfl, rfl⟩
  | manifestBegin =>
      apply decodeFields_eq_message readManifestBoundary_reads
      · rintro ⟨revision, count, total⟩ - hvalid
        exact ⟨rfl, isManifestBoundaryValid_iff.mp hvalid, rfl⟩
      · intro message ht he
        cases message <;> simp only [typeOf, reduceCtorEq] at ht
        exact ⟨(_, _, _), trivial, isManifestBoundaryValid_iff.mpr he, rfl⟩
  | manifestAsset =>
      apply decodeFields_eq_message readManifestAsset_reads
      · rintro value - hvalid
        simp only [Bool.and_eq_true, bne_iff_ne, decide_eq_true_eq] at hvalid
        exact ⟨rfl, ⟨hvalid.1.2, hvalid.2, hvalid.1.1⟩, rfl⟩
      · intro message ht he
        cases message <;> simp only [typeOf, reduceCtorEq] at ht
        refine ⟨_, stringsFit_of_valid he.2.2, ?_, rfl⟩
        simp only [Bool.and_eq_true, bne_iff_ne, decide_eq_true_eq]
        exact ⟨⟨he.2.2, he.1⟩, he.2.1⟩
  | manifestEnd =>
      apply decodeFields_eq_message readManifestBoundary_reads
      · rintro ⟨revision, count, total⟩ - hvalid
        exact ⟨rfl, isManifestBoundaryValid_iff.mp hvalid, rfl⟩
      · intro message ht he
        cases message <;> simp only [typeOf, reduceCtorEq] at ht
        exact ⟨(_, _, _), trivial, isManifestBoundaryValid_iff.mpr he, rfl⟩
  | assetReady =>
      apply decodeFields_eq_message readAssetReady_reads
      · rintro value - hvalid
        simp only [Bool.and_eq_true, bne_iff_ne] at hvalid
        exact ⟨rfl, hvalid, rfl⟩
      · intro message ht he
        cases message <;> simp only [typeOf, reduceCtorEq] at ht
        refine ⟨_, trivial, ?_, rfl⟩
        simp only [Bool.and_eq_true, bne_iff_ne]
        exact he
  | assetError =>
      apply decodeFields_eq_message readAssetError_reads
      · rintro value - hvalid
        simp only [Bool.and_eq_true, bne_iff_ne, isAssetErrorReasonValid_iff, and_assoc] at hvalid
        exact ⟨rfl, hvalid, rfl⟩
      · intro message ht he
        cases message <;> simp only [typeOf, reduceCtorEq] at ht
        refine ⟨_, trivial, ?_, rfl⟩
        simp only [Bool.and_eq_true, bne_iff_ne, isAssetErrorReasonValid_iff, and_assoc]
        exact he

theorem MessageType.ofValue?_eq_some {value : UInt16} {type : MessageType} :
    MessageType.ofValue? value = some type ↔ value = type.value := by
  constructor
  · intro h
    unfold MessageType.ofValue? at h
    split at h <;> simp only [reduceCtorEq, Option.some.injEq] at h
    all_goals
      subst h
      rename_i hv
      exact UInt16.toNat_inj.mp hv
  · rintro rfl
    cases type <;> rfl

theorem decodePacket_eq_ok {bytes : List UInt8} {packet : Packet} :
    decodePacket bytes = .ok packet ↔ packet.protocolVersion = kProtocolVersion ∧
      packet.message.Encodable ∧ bytes = packet.message.packet := by
  obtain ⟨version, message⟩ := packet
  constructor
  · intro h
    unfold decodePacket at h
    split at h
    · cases h
    · split at h
      · cases h
      · rename_i magic protocolVersion messageType payloadSize reader hr
        obtain ⟨-, rfl⟩ := (readHeader_reads _ _ _).mp hr
        simp only [ne_eq, ite_not] at h
        split_ifs at h with hmagic hversion hover hshort hsize
        split at h
        · cases h
        · rename_i type htype
          rw [MessageType.ofValue?_eq_some] at htype
          split at h
          · cases h
          · rename_i decoded hd
            simp only [Except.ok.injEq, Packet.mk.injEq] at h
            obtain ⟨rfl, rfl⟩ := h
            obtain ⟨rfl, he, rfl⟩ := decodePayload_eq_ok.mp hd
            have hcast : UInt32.ofNat decoded.payload.length = payloadSize := by
              rw [show decoded.payload.length = payloadSize.toNat from hsize.symm, UInt32.ofNat_toNat]
            refine ⟨hversion, he, ?_⟩
            simp only [Message.packet, hcast, hmagic, hversion, htype]
  · rintro ⟨rfl, he, rfl⟩
    have hlen := message.payload_length_le he
    have hcast : (UInt32.ofNat message.payload.length).toNat = message.payload.length :=
      UInt32.toNat_ofNat_of_lt (by rw [UInt32.size]; omega)
    have hr := (readHeader_reads message.packet (kMagic, kProtocolVersion, (typeOf message).value,
      UInt32.ofNat message.payload.length) message.payload).mpr ⟨trivial, rfl⟩
    have hp := decodePayload_eq_ok.mpr ⟨rfl, he, rfl⟩
    unfold decodePacket
    rw [if_neg (by rw [Message.packet_length]; omega), hr]
    simp only [ne_eq, not_true_eq_false, ↓reduceIte, hcast, MessageType.ofValue?_eq_some.mpr rfl, hp,
      Nat.lt_irrefl]
    rw [if_neg (by simp only [kMaximumPayloadSize, kMaximumPacketSize, kHeaderSize]; omega)]

end CustomModels.Shared
