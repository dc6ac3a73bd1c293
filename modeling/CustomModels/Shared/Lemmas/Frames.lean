import CustomModels.Shared.Lemmas.Codec
import CustomModels.Shared.TransportFrame

/-!
# Frames of packets
-/

namespace CustomModels.Shared
open CustomModels.Lib

theorem Message.packet_length_le {message : Message} (h : message.Encodable) :
    message.packet.length ≤ kMaximumPacketSize := by
  have := message.payload_length_le h
  rw [Message.packet_length, kHeaderSize, kMaximumPacketSize]
  omega

theorem hasProtocolMagic_packet (message : Message) : hasProtocolMagic message.packet = true := by
  have hm : be32 kMagic = protocolMagic := by decide
  simp only [hasProtocolMagic, Message.packet, List.append_assoc, Bool.and_eq_true, decide_eq_true_eq,
    List.length_append, be32_length, beq_iff_eq]
  exact ⟨by omega, by rw [List.take_left' (be32_length _), hm]⟩

theorem inspect_frame_of_magic {bytes : List UInt8} (h : hasProtocolMagic bytes = true) :
    inspect (kRakNetPacketId :: bytes) = .customModel bytes := by
  have hlen : 4 ≤ bytes.length := by
    rw [hasProtocolMagic, Bool.and_eq_true, decide_eq_true_eq] at h
    exact h.1
  have hlong : ¬ (bytes.length + 1 ≤ 1) := by omega
  simp [inspect, kPrefixSize, inspectProtocolPayload, h, hlong]

theorem inspect_eq_customModel_iff {bytes payload : List UInt8} :
    inspect bytes = .customModel payload ↔
      bytes.take 5 = kRakNetPacketId :: protocolMagic ∧ payload = bytes.drop 1 := by
  cases bytes with
  | nil => simp [inspect]
  | cons first rest =>
      by_cases hfirst : first = kRakNetPacketId
      · subst hfirst
        have htake : (kRakNetPacketId :: rest).take 5 = kRakNetPacketId :: protocolMagic ↔
            hasProtocolMagic rest = true := by
          simp only [List.take_succ_cons, List.cons.injEq, true_and, hasProtocolMagic, Bool.and_eq_true,
            decide_eq_true_eq, beq_iff_eq]
          refine ⟨fun ht => ⟨?_, ht⟩, And.right⟩
          have hlen : min 4 rest.length = 4 := by
            rw [← List.length_take, ht]
            rfl
          omega
        rw [htake]
        constructor
        · intro h
          by_cases hm : hasProtocolMagic rest = true
          · rw [inspect_frame_of_magic hm] at h
            cases h
            exact ⟨hm, rfl⟩
          · simp [inspect, inspectProtocolPayload, kPrefixSize, hm] at h
        · rintro ⟨hm, rfl⟩
          exact inspect_frame_of_magic hm
      · simp [inspect, hfirst]

theorem encodeFrame_packet {message : Message} (h : message.Encodable) :
    encodeFrame message.packet = some message.frame := by
  have hlen := Nat.not_lt.mpr (message.packet_length_le h)
  rw [encodeFrame, hasProtocolMagic_packet, if_neg (by simpa using Nat.not_lt.mp hlen)]
  rfl

theorem inspect_frame (message : Message) : inspect message.frame = .customModel message.packet :=
  inspect_frame_of_magic (hasProtocolMagic_packet message)

theorem decodePacket_packet {message : Message} (h : message.Encodable) :
    decodePacket message.packet = .ok ⟨kProtocolVersion, message⟩ :=
  decodePacket_eq_ok.mpr ⟨rfl, h, rfl⟩

end CustomModels.Shared
