import CustomModels.Shared.TransportFrame
import CustomModels.Server.PlayerCapabilities

/-!
# The handshake endpoint

`transport.hpp`, `handshake_endpoint.hpp` and `handshake_endpoint.cpp`. Whatever implements the transport
interface, all that its callers see is what `Send` answers: the model takes the answers from an arbitrary
function of the number of frames handed over before, and records the frames.
-/

namespace CustomModels.Server
open CustomModels.Shared

/-! ## `ServerTransport` -/

/-- A frame handed to `Send`, and the answer. -/
structure Sent where
  playerId : UInt32
  bytes : List UInt8
  accepted : Bool
  deriving DecidableEq

structure ServerTransport where
  answer : Nat → Bool
  sent : List Sent

namespace ServerTransport

def send (transport : ServerTransport) (playerId : UInt32) (bytes : List UInt8) :
    Bool × ServerTransport :=
  let accepted := transport.answer transport.sent.length
  (accepted, { transport with sent := transport.sent ++ [⟨playerId, bytes, accepted⟩] })

end ServerTransport

/-! ## `HandshakeEndpoint` -/

inductive DispatchResult where
  | unrelated
  | welcomeSent
  | rejectSent
  | sendFailed
  deriving DecidableEq

/-- The tracker and the transport that the endpoint refers to. -/
structure HandshakeEndpoint where
  tracker : PlayerCapabilityTracker
  transport : ServerTransport

namespace HandshakeEndpoint

def onPlayerConnected (endpoint : HandshakeEndpoint) (playerId : UInt32) : HandshakeEndpoint :=
  { endpoint with tracker := endpoint.tracker.beginHandshake playerId }

def onPlayerDisconnected (endpoint : HandshakeEndpoint) (playerId : UInt32) : HandshakeEndpoint :=
  { endpoint with tracker := endpoint.tracker.removePlayer playerId }

def sendResponse (endpoint : HandshakeEndpoint) (playerId : UInt32) (response : HandshakeResponse) :
    DispatchResult × HandshakeEndpoint :=
  match encodePacket response.message kProtocolVersion with
  | .error _ => (.sendFailed, endpoint)
  | .ok encoded =>
      match encodeFrame encoded with
      | none => (.sendFailed, endpoint)
      | some frame =>
          let (accepted, transport) := endpoint.transport.send playerId frame
          (if !accepted then .sendFailed
            else match response with
              | .welcome _ => .welcomeSent
              | .reject _ => .rejectSent,
            { endpoint with transport })

def reject (endpoint : HandshakeEndpoint) (playerId : UInt32) (reason : RejectReason) :
    DispatchResult × HandshakeEndpoint :=
  let (response, tracker) := endpoint.tracker.rejectPlayer playerId reason
  sendResponse { endpoint with tracker } playerId response

/-- The reason that answers a packet that does not decode. -/
def rejectionFor (error : DecodeError) : RejectReason :=
  if error = .unsupportedProtocolVersion then .unsupportedProtocol else .malformedHandshake

def dispatchClaimedProtocol (endpoint : HandshakeEndpoint) (playerId : UInt32)
    (protocolBytes : List UInt8) : DispatchResult × HandshakeEndpoint :=
  if kMaximumPacketSize < protocolBytes.length then endpoint.reject playerId .malformedHandshake
  else match decodePacket protocolBytes with
    | .error error => endpoint.reject playerId (rejectionFor error)
    | .ok ⟨_, .hello hello⟩ =>
        let (response, tracker) := endpoint.tracker.handleHello playerId hello
        sendResponse { endpoint with tracker } playerId response
    | .ok _ => endpoint.reject playerId .malformedHandshake

def dispatchIncoming (endpoint : HandshakeEndpoint) (playerId : UInt32) (frame : List UInt8) :
    DispatchResult × HandshakeEndpoint :=
  match inspect frame with
  | .unrelated => (.unrelated, endpoint)
  | .customModel protocolBytes => endpoint.dispatchClaimedProtocol playerId protocolBytes

def dispatchProtocolPayload (endpoint : HandshakeEndpoint) (playerId : UInt32)
    (protocolBytes : List UInt8) : DispatchResult × HandshakeEndpoint :=
  match inspectProtocolPayload protocolBytes with
  | .unrelated => (.unrelated, endpoint)
  | .customModel protocolBytes => endpoint.dispatchClaimedProtocol playerId protocolBytes

def rejectMalformed (endpoint : HandshakeEndpoint) (playerId : UInt32) :
    DispatchResult × HandshakeEndpoint := endpoint.reject playerId .malformedHandshake

end HandshakeEndpoint

end CustomModels.Server
