import CustomModels.Client.RakNetTransport
import CustomModels.Lib.Run

/-!
# What passes the hook

The packets that are the hook's own and those that are SA-MP's, the connections that it tells of, and the
callbacks of the runtime that hear of them.
-/

namespace CustomModels.Client
open CustomModels.Shared

/-! ## Packets -/

namespace RakPacket

/-- The packet can be read, and it begins with the carrier byte and the magic. -/
def claimed (packet : RakPacket) : Bool :=
  packet.readable && packet.headReadable && packet.data.any fun bytes =>
    bytes.take 5 == kRakNetPacketId :: protocolMagic

/-- The packet is no longer than a frame may be, and all of it can be read. -/
def deliverable (packet : RakPacket) : Bool :=
  packet.wholeReadable && packet.data.any fun bytes => bytes.length ≤ 4097

/-- The packet tells SA-MP that the connection has ended. -/
def endsConnection (packet : RakPacket) : Bool :=
  packet.data.any fun bytes =>
    bytes.head? == some kDisconnectionNotification || bytes.head? == some kConnectionLost

/-- What follows the carrier byte. -/
def payload (packet : RakPacket) : List UInt8 := (packet.data.getD []).drop 1

end RakPacket

/-- The packets among the first `count` answers of the original `Receive`. -/
def firstPackets (original : Nat → Option RakPacket) (count : Nat) : List RakPacket :=
  (List.range count).filterMap original

/-- The first `count` answers are drawn: each before the last is a claimed packet, and so is the last only where the
limit is reached. -/
structure Draws (original : Nat → Option RakPacket) (limit count : Nat) : Prop where
  atMost : count ≤ limit
  consumed : ∀ n, n + 1 < count → (original n).any RakPacket.claimed = true
  kept : count < limit → ∃ last, count = last + 1 ∧ (original last).any RakPacket.claimed = false

/-- What calls get from the original that draw these numbers of answers. -/
def packetsDrawn (calls : List ReceiveCall) (counts : List Nat) : List RakPacket :=
  (List.zipWith (fun call count => firstPackets call.original count) calls counts).flatten

namespace HookAction

def drawn? : HookAction → Option RakPacket
  | drew packet => packet
  | _ => none

def returned? : HookAction → Option RakPacket
  | returned packet => packet
  | _ => none

def deallocated? : HookAction → Option RakPacket
  | deallocated packet => some packet
  | _ => none

def dispatched? : HookAction → Option (List UInt8)
  | dispatched bytes => some bytes
  | _ => none

def connection? : HookAction → Option ConnectionEvent
  | connection event => some event
  | _ => none

def isDraw : HookAction → Bool
  | drew _ => true
  | _ => false

end HookAction

/-- SA-MP gets the packets that are not claimed, as they come; those that are claimed are deallocated, and
dispatched if they can be. -/
structure Transparent (actions : List HookAction) : Prop where
  returned : actions.filterMap HookAction.returned? =
    (actions.filterMap HookAction.drawn?).filter fun packet => !packet.claimed
  deallocated : actions.filterMap HookAction.deallocated? =
    (actions.filterMap HookAction.drawn?).filter RakPacket.claimed
  dispatched : actions.filterMap HookAction.dispatched? =
    ((actions.filterMap HookAction.drawn?).filter fun packet =>
      packet.claimed && packet.deliverable).map RakPacket.payload

/-! ## Connections -/

def connectionEvents (actions : List HookAction) : List ConnectionEvent :=
  actions.filterMap HookAction.connection?

/-- The first events of Connected, Disconnected, Connected, Disconnected and so on. -/
def alternating (count : Nat) : List ConnectionEvent :=
  (List.range count).map fun n => if n % 2 = 0 then .connected else .disconnected

namespace SampRakNetTransport

inductive Lifecycle where
  | initializeTransport (callbacks : TransportCallbacks) (resolution : Resolution)
  | receive (call : ReceiveCall)
  | shutdown (restored : Bool)

def live (transport : SampRakNetTransport) : Lifecycle → SampRakNetTransport
  | .initializeTransport callbacks resolution => (transport.initializeTransport callbacks resolution).2
  | .receive call => (transport.receive call).2
  | .shutdown restored => transport.shutdown restored

/-- The transport behind a successful `Initialize`. -/
def Started (transport : SampRakNetTransport) : Prop :=
  ∃ (before : List Lifecycle) (callbacks : TransportCallbacks) (resolution : Resolution),
    (Lib.run live fresh before).initializeTransport callbacks resolution = (true, transport)

/-- The transport after a call. -/
def afterCall (transport : SampRakNetTransport) (call : ReceiveCall) : SampRakNetTransport :=
  (transport.receive call).2

/-- The calls on SA-MP's client. -/
def own (transport : SampRakNetTransport) (calls : List ReceiveCall) : List ReceiveCall :=
  calls.filter fun call => some call.self = transport.rakClient

/-- The packet that a call on SA-MP's client returns, unless that is null. -/
def returns (transport : SampRakNetTransport) (call : ReceiveCall) : List RakPacket :=
  if some call.self = transport.rakClient then (transport.receive call).1.toList else []

/-- The call makes the callback for a new connection. -/
def Announces (transport : SampRakNetTransport) (call : ReceiveCall) : Prop :=
  .connected ∈ (connectionEvents (transport.afterCall call).actions).drop
    (connectionEvents transport.actions).length

instance (transport : SampRakNetTransport) (call : ReceiveCall) : Decidable (transport.Announces call) :=
  inferInstanceAs (Decidable (_ ∈ _))

end SampRakNetTransport

/-- The hook, and whether it has returned a packet of the present connection to SA-MP. -/
structure Introduction where
  transport : SampRakNetTransport
  introduced : Bool

namespace Introduction

def receive (introduction : Introduction) (call : ReceiveCall) : Introduction :=
  let (packet, transport) := introduction.transport.receive call
  let returned := some call.self == introduction.transport.rakClient && packet.isSome
  ⟨transport, transport.connected && (introduction.introduced || returned)⟩

/-- The client is connected, SA-MP has not got a packet yet, and the first one is claimed. -/
def Preempts (introduction : Introduction) (call : ReceiveCall) : Prop :=
  some call.self = introduction.transport.rakClient ∧ call.isConnected = true ∧
    introduction.transport.awaitingDisconnectedState = false ∧ introduction.introduced = false ∧
    (call.original 0).any RakPacket.claimed = true

instance (introduction : Introduction) (call : ReceiveCall) : Decidable (introduction.Preempts call) :=
  inferInstanceAs (Decidable (_ ∧ _))

end Introduction

/-! ## Callbacks -/

/-- The hook does something, or the worker takes a step. -/
inductive RuntimeStep where
  | hook (action : HookAction)
  | work (surroundings : Surroundings)

def RuntimeStep.hook? : RuntimeStep → Option HookAction
  | hook action => some action
  | work _ => none

namespace ProtocolContext

/-- The callbacks that the runtime gives to the transport. -/
def hear (context : ProtocolContext) : RuntimeStep → ProtocolContext
  | .hook (.dispatched bytes) => context.handleIncomingProtocol bytes
  | .hook (.connection event) => context.handleConnectionEvent event
  | .hook .pumped => context.pumpAssetResults.2
  | .hook _ => context
  | .work surroundings => { context with assets := context.assets.map (·.workerStep surroundings) }

/-- A connect finds the handshake disconnected, and leaves it behind one Hello that is handed over. -/
structure Greets (configuration : HandshakeConfiguration) (before after : ProtocolContext) : Prop where
  disconnected : before.handshake.map ClientHandshake.state = some .disconnected
  helloSent : after.handshake.map ClientHandshake.state = some .helloSent
  handed : ∃ transport hello accepted, before.transport = some transport ∧
    encodePacket (.hello (ClientHandshake.make configuration).hello) kProtocolVersion = .ok hello ∧
    after.transport = some { transport with sent := transport.sent ++ [⟨hello, accepted⟩] }

end ProtocolContext

end CustomModels.Client
