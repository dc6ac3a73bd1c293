import CustomModels.Shared.Layout
import CustomModels.Server.Component

/-!
# What the component owes to the handshake

The states in which every asset session stands on a live handshake, the events that take the handshake
from under one, and the effect that a malformed packet has at the endpoint.
-/

namespace CustomModels.Server
open CustomModels.Shared

/-! ## What a stream brings -/

inductive Incoming where
  | unclaimed
  | malformed
  | packet (protocolBytes : List UInt8)

namespace NetworkBitStream

/-- What `onReceive` makes of a stream before it looks into the packet. -/
def incoming (stream : NetworkBitStream) : Incoming :=
  match stream.data with
  | none => .unclaimed
  | some data =>
      if stream.unreadBits < 32 ∨ stream.readOffset < 0 ∨ stream.readOffset % 8 ≠ 0 then .unclaimed
      else if inspectProtocolPayload (stream.bytesAt data 4) = .unrelated then .unclaimed
      else if stream.unreadBits % 8 ≠ 0 ∨ kMaximumPacketSize < stream.unreadBits.toNat / 8 then .malformed
      else .packet (stream.bytesAt data (stream.unreadBits.toNat / 8))

/-- The unread bits are those of `payload`, from a whole byte on. -/
def Exposes (stream : NetworkBitStream) (payload : List UInt8) : Prop :=
  0 ≤ stream.readOffset ∧ stream.readOffset % 8 = 0 ∧ stream.unreadBits = 8 * payload.length ∧
    ∃ data, stream.data = some data ∧ stream.bytesAt data payload.length = payload

end NetworkBitStream

namespace CustomModelComponent

/-! ## Sessions and handshakes -/

/-- A whole manifest was sent only to players whose handshake is compatible, and reports are recorded for
such players only. -/
structure SessionsStand (component : CustomModelComponent) : Prop where
  compatible : ∀ playerId,
    (component.assets.getState playerId).state = .manifestComplete ∨
        (component.assets.getState playerId).state = .assetsReady →
      (component.tracker.getState playerId).state = .compatible
  recorded : ∀ playerId message,
    (component.assets.handleIncoming playerId message).1 = .readyRecorded ∨
        (component.assets.handleIncoming playerId message).1 = .errorRecorded →
      (component.tracker.getState playerId).state = .compatible

/-- The handshake of a player with a whole manifest is broken off: by a claimed packet that is not aligned
or too long, or by a Hello that is not the one the player was accepted for. -/
def Event.Disturbs (component : CustomModelComponent) : Event → Prop
  | receive playerId stream =>
      0 ≤ playerId ∧
        ((component.assets.getState (UInt32.ofNat playerId.toNat)).state = .manifestComplete ∨
          (component.assets.getState (UInt32.ofNat playerId.toNat)).state = .assetsReady) ∧
        (stream.incoming = .malformed ∨
          component.available = true ∧ ∃ bytes version hello, stream.incoming = .packet bytes ∧
            decodePacket bytes = .ok ⟨version, .hello hello⟩ ∧
            sameHello (component.tracker.getState (UInt32.ofNat playerId.toNat)) hello = false)
  | _ => False

/-! ## Malformed packets -/

/-- `onReceive` keeps the packet and has the endpoint's effect on it: one Reject frame is handed over, and
the tracker ends rejected with the reason for the error. -/
def RejectsMalformed (component : CustomModelComponent) (playerId : Int) (stream : NetworkBitStream)
    (payload : List UInt8) (error : DecodeError) : Prop :=
  let player := UInt32.ofNat playerId.toNat
  let received := component.onReceive playerId stream
  received.1 = false ∧
    received.2.endpoint = (component.endpoint.dispatchProtocolPayload player payload).2 ∧
    (∃ accepted, received.2.transport.sent = component.transport.sent ++
      [⟨player, (Message.reject ⟨HandshakeEndpoint.rejectionFor error⟩).frame, accepted⟩]) ∧
    (received.2.tracker.getState player).state = .rejected ∧
    (received.2.tracker.getState player).rejectReason = some (HandshakeEndpoint.rejectionFor error)

end CustomModelComponent

end CustomModels.Server
