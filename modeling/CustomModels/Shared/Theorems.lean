import CustomModels.Shared.Lemmas.Frames
import CustomModels.Shared.Lemmas.Hasher
import CustomModels.Shared.Lemmas.Names
import CustomModels.Shared.Lemmas.PeImage
import CustomModels.Shared.Lemmas.Truncation

/-!
# Theorems about the shared code

The round trip of an encoded packet and the canonicity of a decoded one, the names and URLs that assets may have,
the images that the client parses and the digests of what is streamed.
-/

namespace CustomModels.Shared
open CustomModels.Lib

/-! ## The wire format -/

/-- `EncodePacket` accepts exactly the encodable messages, and what it returns survives the frame and the
decoder. -/
theorem encodePacket_roundTrip (message : Message) :
    ((∃ bytes, encodePacket message kProtocolVersion = .ok bytes) ↔ message.Encodable) ∧
      encodePacket message kProtocolVersion ≠ .error .oversizedPayload ∧
      ∀ bytes, encodePacket message kProtocolVersion = .ok bytes →
        bytes.length ≤ 4096 ∧
        (∃ frame, encodeFrame bytes = some frame ∧ inspect frame = .customModel bytes) ∧
        decodePacket bytes = .ok ⟨1, message⟩ := by
  refine ⟨?_, ?_, ?_⟩
  · constructor
    · intro ⟨bytes, h⟩
      exact (encodePacket_eq_ok.mp h).2.1
    · intro h
      exact ⟨_, encodePacket_of_encodable h⟩
  · by_cases h : message.Encodable
    · simp [encodePacket_of_encodable h]
    · simp [encodePacket_of_not_encodable h]
  · intro bytes h
    obtain ⟨-, he, rfl⟩ := encodePacket_eq_ok.mp h
    exact ⟨message.packet_length_le he, ⟨_, encodeFrame_packet he, inspect_frame message⟩,
      decodePacket_packet he⟩

/-- The wire format is canonical: the encoder returns the very bytes that the decoder accepted, and no
other bytes carry the same message. -/
theorem decodePacket_canonical (bytes : List UInt8) (packet : Packet)
    (h : decodePacket bytes = .ok packet) :
    encodePacket packet.message packet.protocolVersion = .ok bytes ∧ bytes.length ≤ 4096 ∧
      ∀ other p, decodePacket other = .ok p → p.message = packet.message → other = bytes := by
  obtain ⟨hv, he, rfl⟩ := decodePacket_eq_ok.mp h
  refine ⟨encodePacket_eq_ok.mpr ⟨hv, he, rfl⟩, packet.message.packet_length_le he, ?_⟩
  intro other p ho hm
  obtain ⟨-, -, rfl⟩ := decodePacket_eq_ok.mp ho
  rw [hm]

theorem decodePacket_canonical_ping :
    encodePacket (.ping ⟨7⟩) 1 = .ok [67, 77, 79, 68, 0, 1, 0, 4, 0, 0, 0, 8, 0, 0, 0, 0, 0, 0, 0, 7] :=
  (decodePacket_canonical [67, 77, 79, 68, 0, 1, 0, 4, 0, 0, 0, 8, 0, 0, 0, 0, 0, 0, 0, 7]
    ⟨1, .ping ⟨7⟩⟩ (by decide)).1

/-- What is wrong with the length of a packet is told apart. An accepted packet whose payload is cut short is
truncated, also where the header gives the new size, and one that goes on has the wrong length. -/
theorem decodePacket_lengths (bytes : List UInt8) (packet : Packet) (h : decodePacket bytes = .ok packet) :
    (∀ front back, bytes.drop kHeaderSize = front ++ back → back ≠ [] →
        decodePacket (withPayload bytes front) = .error .truncatedPayload) ∧
      (∀ front back, bytes = front ++ back → back ≠ [] →
        decodePacket front = .error (if front.length < 12 then .truncatedHeader else .truncatedPayload)) ∧
      ∀ extra, extra ≠ [] → decodePacket (bytes ++ extra) = .error .payloadLengthMismatch ∧
        ((bytes ++ extra).length ≤ 4096 →
          decodePacket (withPayload bytes (bytes.drop kHeaderSize ++ extra)) = .error .payloadLengthMismatch) := by
  obtain ⟨type, payload, rfl, hlength, herrors⟩ := exists_headerOf h
  have hsize := toNat_ofNat_of_payload hlength
  refine ⟨fun front back hcut hb => ?_, fun front back hcut hb => ?_, fun extra he => ⟨?_, fun hlimit => ?_⟩⟩
  · rw [drop_headerOf] at hcut
    have hfront : front.length ≤ kMaximumPayloadSize := by
      rw [hcut, List.length_append] at hlength
      omega
    rw [withPayload_headerOf, decodePacket_withSize hfront, herrors.cut front back hcut hb]
    rfl
  · split
    · rename_i hshort
      exact if_pos hshort
    · rename_i hlong
      -- the header is whole, so the cut is in the payload
      obtain ⟨rest, rfl⟩ : headerOf type (UInt32.ofNat payload.length) <+: front := by
        refine List.prefix_of_prefix_length_le ⟨payload, rfl⟩ ⟨back, hcut.symm⟩ ?_
        rw [headerOf_length, kHeaderSize]
        omega
      rw [List.append_assoc, List.append_cancel_left_eq] at hcut
      have hrest : rest.length < payload.length := by
        have := List.length_pos_iff.mpr hb
        rw [hcut, List.length_append]
        omega
      rw [decodePacket_headerOf (hsize.trans_le hlength), hsize, if_pos hrest]
  · have hextra := List.length_pos_iff.mpr he
    rw [List.append_assoc, decodePacket_headerOf (hsize.trans_le hlength), hsize, List.length_append,
      if_neg (by omega), if_pos (by omega)]
  · have hlonger : (payload ++ extra).length ≤ kMaximumPayloadSize := by
      rw [List.append_assoc, List.length_append, headerOf_length] at hlimit
      simp only [kMaximumPayloadSize, kMaximumPacketSize]
      omega
    rw [drop_headerOf, withPayload_headerOf, decodePacket_withSize hlonger, herrors.extended extra he]
    rfl

theorem decodePacket_lengths_ping :
    decodePacket [67, 77, 79, 68, 0, 1, 0, 4, 0, 0, 0, 3, 0, 0, 0] = .error .truncatedPayload :=
  (decodePacket_lengths [67, 77, 79, 68, 0, 1, 0, 4, 0, 0, 0, 8, 0, 0, 0, 0, 0, 0, 0, 7] ⟨1, .ping ⟨7⟩⟩
    (by decide)).1 [0, 0, 0] [0, 0, 0, 0, 7] (by decide) (by decide)

/-! ## Names and URLs -/

/-- A logical name is valid exactly if it consists of segments that are joined by `/`. The scan for invalid segments
ends: with as many turns as the name has bytes, and one more, it comes to an answer, and has seen them all. -/
theorem isLogicalNameValid_iff (name : ByteString) :
    (isLogicalNameValid name = true ↔ LogicalName name) ∧
      ∀ turns, name.length < turns →
        hasInvalidPathSegmentFrom name turns 0 = some ((name.splitOn slash).any isInvalidSegment) := by
  refine ⟨?_, fun turns hturns => hasInvalidPathSegmentFrom_eq name (Nat.zero_le _) hturns⟩
  rw [isLogicalNameValid_iff_pieces]
  constructor
  · intro ⟨hpos, hmax, hsegments⟩
    exact ⟨hpos, hmax, _, List.splitOn_ne_nil slash name, hsegments, (List.intercalate_splitOn slash).symm⟩
  · rintro ⟨hpos, hmax, segments, hne, hsegments, rfl⟩
    have hslash : ∀ segment ∈ segments, slash ∉ segment := fun segment hs hb =>
      segmentByte_ne_slash ((hsegments segment hs).bytes slash hb) rfl
    rw [List.splitOn_intercalate slash hslash hne]
    exact ⟨hpos, hmax, hsegments⟩

/-- A URL is valid exactly if it has a scheme, an authority without credentials and what may follow one, and no byte
that a URL must not have. -/
theorem isDownloadUrlValid_iff (url : ByteString) : isDownloadUrlValid url = true ↔ DownloadUrl url := by
  constructor
  · exact downloadUrl_of_valid
  · intro ⟨hlength, hbytes, _, _, _, hparts⟩
    exact isDownloadUrlValid_of_parts hlength hbytes hparts

/-! ## Portable executables -/

/-- The parser returns the fields of exactly the images, and all of its reads are within the data: none of them fails,
so that it may ignore what they answer. -/
theorem parsePeImage_exact (data : ImageView) :
    (∀ info, (runPeImage (some data)).1 = .ok info ↔ PeImage data.bytes ∧ info = imageInfo data.bytes) ∧
      (∀ read ∈ (runPeImage (some data)).2,
        read.succeeded = true ∧ read.offset.toNat + read.width.toNat ≤ data.bytes.length) ∧
      runPeImage none = (.error .nullInput, []) := by
  obtain ⟨hexact, hreads⟩ := parsePeImage_returns data [] (by simp)
  exact ⟨hexact, hreads, rfl⟩

/-! ## Digests -/

/-- A hasher that was given its data in chunks ends with the digest of all of it, also where the length in bits
overflows. -/
theorem digest_chunks (chunks : List (List UInt8)) (small : ∀ chunk ∈ chunks, chunk.length ≤ 2 ^ 32 - 65536) :
    (chunks.foldl Picosha2.Hash256OneByOne.process .init).digest = sha256 chunks.flatten :=
  (Picosha2.Hash256OneByOne.absorbed_init.run small).digest

theorem digest_chunks_abc :
    ([[97], [], [98, 99]].foldl Picosha2.Hash256OneByOne.process .init).digest = sha256 [97, 98, 99] :=
  digest_chunks [[97], [], [98, 99]] (by decide)

/-- The digest of a file is that of its bytes, in whichever pieces they were read; a file that does not open or
breaks has none. -/
theorem sha256File_eq (file : Option FileStream) : sha256File file = (file.bind FileStream.contents).map sha256 := by
  cases file with
  | none => rfl
  | some stream => exact digest_readStream Picosha2.Hash256OneByOne.absorbed_init stream

end CustomModels.Shared
