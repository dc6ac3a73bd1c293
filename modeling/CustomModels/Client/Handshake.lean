import CustomModels.Shared.Protocol

/-!
# The client handshake

`handshake.hpp` and `handshake.cpp` of the client.
-/

namespace CustomModels.Client
open CustomModels.Shared

inductive HandshakeState where
  | disconnected
  | connected
  | helloSent
  | welcomeReceived
  | compatible
  | rejected
  deriving DecidableEq

inductive IncomingResult where
  | ignored
  | malformed
  | welcomeReceived
  | rejected
  deriving DecidableEq

structure HandshakeConfiguration where
  runtimeVersion : RuntimeVersion
  sampVersion : SampVersion
  capabilities : CapabilityFlags

structure ClientHandshake where
  configuration : HandshakeConfiguration
  state : HandshakeState
  welcome : Option Welcome
  rejection : Option Reject

namespace ClientHandshake

/-- The constructor masks the capabilities of the configuration to the declared bits. -/
def make (configuration : HandshakeConfiguration) : ClientHandshake where
  configuration :=
    { configuration with capabilities := configuration.capabilities &&& kDeclaredCapabilities }
  state := .disconnected
  welcome := none
  rejection := none

def onConnected (handshake : ClientHandshake) : ClientHandshake :=
  if handshake.state = .disconnected then
    { handshake with state := .connected, welcome := none, rejection := none }
  else handshake

def onDisconnected (handshake : ClientHandshake) : ClientHandshake :=
  { handshake with state := .disconnected, welcome := none, rejection := none }

/-- The Hello that `TakeHello` encodes. -/
def hello (handshake : ClientHandshake) : Hello :=
  ⟨handshake.configuration.runtimeVersion, kProtocolVersion, handshake.configuration.sampVersion,
    handshake.configuration.capabilities⟩

def takeHello (handshake : ClientHandshake) : Option (List UInt8) × ClientHandshake :=
  if handshake.state ≠ .connected then (none, handshake)
  else match encodePacket (.hello handshake.hello) kProtocolVersion with
    | .error _ => (none, handshake)
    | .ok bytes => (some bytes, { handshake with state := .helloSent })

def handleIncoming (handshake : ClientHandshake) (bytes : List UInt8) : IncomingResult × ClientHandshake :=
  match decodePacket bytes with
  | .error _ => (.malformed, handshake)
  | .ok packet =>
      if handshake.state ≠ .helloSent then (.ignored, handshake)
      else match packet.message with
        | .welcome welcome =>
            if welcome.acceptedProtocolVersion ≠ kProtocolVersion ∨
                welcome.serverProtocolVersion ≠ kProtocolVersion ∨
                !areCapabilitiesValid welcome.negotiatedCapabilities ∨
                welcome.negotiatedCapabilities &&& ~~~handshake.configuration.capabilities ≠ 0 then
              (.malformed, handshake)
            else (.welcomeReceived, { handshake with welcome := some welcome, state := .welcomeReceived })
        | .reject reject => (.rejected, { handshake with rejection := some reject, state := .rejected })
        | _ => (.ignored, handshake)

def confirmWelcome (handshake : ClientHandshake) : Bool × ClientHandshake :=
  if handshake.state ≠ .welcomeReceived then (false, handshake)
  else (true, { handshake with state := .compatible })

end ClientHandshake

end CustomModels.Client
