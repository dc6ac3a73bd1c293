import CustomModels.Lib.Run
import CustomModels.Client.Handshake

/-!
# Negotiations

Histories of a client handshake, whoever calls it and whatever bytes come in, and the transitions that such a history
is made of.
-/

namespace CustomModels.Client
open CustomModels.Shared

namespace ClientHandshake

/-! ## Histories of a handshake -/

inductive Call where
  | onConnected
  | onDisconnected
  | takeHello
  | handleIncoming (bytes : List UInt8)
  | confirmWelcome
  deriving DecidableEq

def call (handshake : ClientHandshake) : Call → ClientHandshake
  | .onConnected => handshake.onConnected
  | .onDisconnected => handshake.onDisconnected
  | .takeHello => handshake.takeHello.2
  | .handleIncoming bytes => (handshake.handleIncoming bytes).2
  | .confirmWelcome => handshake.confirmWelcome.2

/-- The packet that `TakeHello` yields. -/
def yields (handshake : ClientHandshake) : Call → List (List UInt8)
  | .takeHello => handshake.takeHello.1.toList
  | _ => []

/-! ## Transitions -/

/-- A Welcome that the client may hold: of protocol version 1, and without capabilities that it did not declare. -/
structure Acceptable (capabilities : CapabilityFlags) (welcome : Welcome) : Prop where
  accepted : welcome.acceptedProtocolVersion = 1
  server : welcome.serverProtocolVersion = 1
  negotiated : welcome.negotiatedCapabilities &&& ~~~capabilities = 0

/-- What a call may do to a handshake, and the packets that it yields. -/
inductive Transition (handshake : ClientHandshake) : Call → List (List UInt8) → ClientHandshake → Prop where
  | none {call : Call} (hd : call ≠ .onDisconnected) (hc : call = .onConnected → handshake.state ≠ .disconnected) :
      Transition handshake call [] handshake
  | connect (h : handshake.state = .disconnected) :
      Transition handshake .onConnected [] ⟨handshake.configuration, .connected, .none, .none⟩
  | disconnect : Transition handshake .onDisconnected [] ⟨handshake.configuration, .disconnected, .none, .none⟩
  | hello (bytes : List UInt8) (h : handshake.state = .connected) :
      Transition handshake .takeHello [bytes] { handshake with state := .helloSent }
  | welcome (bytes : List UInt8) (value : Welcome) (h : handshake.state = .helloSent)
      (ha : Acceptable handshake.configuration.capabilities value) :
      Transition handshake (.handleIncoming bytes) []
        { handshake with welcome := some value, state := .welcomeReceived }
  | reject (bytes : List UInt8) (value : Reject) (h : handshake.state = .helloSent) :
      Transition handshake (.handleIncoming bytes) [] { handshake with rejection := some value, state := .rejected }
  | confirm (h : handshake.state = .welcomeReceived) :
      Transition handshake .confirmWelcome [] { handshake with state := .compatible }

/-! ## What a handshake holds -/

/-- A Welcome is held exactly from its receipt on, a rejection exactly in the rejected state, and the Welcome is
acceptable for the declared capabilities of the configuration. -/
structure Held (configuration : HandshakeConfiguration) (handshake : ClientHandshake) : Prop where
  configured : handshake.configuration = (make configuration).configuration
  welcome : handshake.welcome.isSome = true ↔ handshake.state = .welcomeReceived ∨ handshake.state = .compatible
  acceptable : ∀ welcome, handshake.welcome = some welcome →
    Acceptable (configuration.capabilities &&& kDeclaredCapabilities) welcome
  rejection : handshake.rejection.isSome = true ↔ handshake.state = .rejected

/-- The calls start with an `OnConnected` that left Disconnected, and no `OnDisconnected` has followed it. -/
def Session (configuration : HandshakeConfiguration) (front session : List Call) : Prop :=
  (Lib.run call (make configuration) front).state = .disconnected ∧ .onDisconnected ∉ session

/-- The packets that `TakeHello` yields in a session. -/
def hellos (configuration : HandshakeConfiguration) (front session : List Call) : List (List UInt8) :=
  Lib.collect call yields (Lib.run call (make configuration) (front ++ [.onConnected])) session

end ClientHandshake

end CustomModels.Client
