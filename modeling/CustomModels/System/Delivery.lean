import CustomModels.Shared.Lemmas.Frames

/-!
# Delivery of frames

What a peer reads off a frame that the transport hands it.
-/

namespace CustomModels.System
open CustomModels.Shared

/-- `Inspect` and `DecodePacket`: the message of a claimed frame. -/
def messageOf (frame : List UInt8) : Option Message :=
  match inspect frame with
  | .unrelated => none
  | .customModel protocolBytes =>
      match decodePacket protocolBytes with
      | .error _ => none
      | .ok packet => some packet.message

theorem messageOf_frame {message : Message} (h : message.Encodable) :
    messageOf message.frame = some message := by
  simp only [messageOf, inspect_frame, decodePacket_packet h]

end CustomModels.System
