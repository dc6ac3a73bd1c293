import CustomModels.Client.Sessions
import CustomModels.Client.Traffic
import CustomModels.System.Exchange
import CustomModels.System.Separation

/-!
# The visit of a player

A server that a player has joined, and the whole client of that player: the hook on SA-MP's network, the callbacks of
the runtime and the worker. The network delivers every packet once and in order, in both directions; SA-MP's own
packets come in between. Other players act on the server meanwhile, and its registry changes.
-/

namespace CustomModels.System
open CustomModels.Shared CustomModels.Server CustomModels.Client

/-- What a server frame is to the client once RakNet has received it. -/
def arrival (frame : List UInt8) : RakPacket := ⟨1, true, some frame, true, true⟩

/-- The stream that the SDK makes of a frame: the packet id is read. -/
def streamOfFrame (frame : List UInt8) : NetworkBitStream where
  data := some frame
  readOffset := 8
  unreadBits := 8 * frame.length - 8
  inBounds := by
    rintro bytes ⟨⟩
    omega

structure Visit where
  hook : SampRakNetTransport
  /-- What the hook has done in the last call of `Receive` and the runtime has yet to hear of. -/
  due : List HookAction
  /-- `HandleIncomingProtocol` has yet to come to its call of `PumpAssetResults`. -/
  pumping : Bool
  client : ProtocolContext
  server : CustomModelComponent
  /-- The packets under way to the client. -/
  inbox : List RakPacket
  /-- How many of the packets that the client has handed over have left the network. -/
  delivered : Nat
  /-- Every event that a pump has gone through. -/
  pumped : List ClientAssetEvent

namespace Visit

/-- The runtime has initialized the client and the hook, and the server has heard of the player. -/
def start (hook : SampRakNetTransport) (configuration : HandshakeConfiguration) (root : Path) (files : Filesystem)
    (answer : Nat → Bool) (server : CustomModelComponent) : Visit where
  hook
  due := []
  pumping := false
  client := .prepared configuration answer root files
  server
  inbox := []
  delivered := 0
  pumped := []

/-- SA-MP calls `Receive` while it is connected, and finds the first packets that are under way. -/
def callFor (visit : Visit) (available : Nat) : ReceiveCall :=
  ⟨visit.hook.rakClient.getD 0, true, ((visit.inbox.take available)[·]?)⟩

def receive (visit : Visit) (available : Nat) : Visit :=
  if visit.due ≠ [] ∨ visit.pumping = true then visit
  else
    let hook := visit.hook.afterCall (visit.callFor available)
    let due := hook.actions.drop visit.hook.actions.length
    { visit with hook, due, inbox := visit.inbox.drop (due.filterMap HookAction.drawn?).length }

def pump (visit : Visit) : Visit :=
  let (events, client) := visit.client.pumpAssetResults
  { visit with client, pumped := visit.pumped ++ events }

/-- The next callback of the runtime; a pump behind a packet is one of its own, as the worker may come in between. -/
def callback (visit : Visit) : Visit :=
  if visit.pumping then { visit.pump with pumping := false }
  else
    match visit.due with
    | [] => visit
    | .dispatched bytes :: due =>
        let (pumping, client) := visit.client.handleIncoming bytes
        { visit with due, pumping, client }
    | .connection event :: due => { visit with due, client := visit.client.handleConnectionEvent event }
    | .pumped :: due => { visit.pump with due }
    | _ :: due => { visit with due }

def work (visit : Visit) (around : Surroundings) : Visit :=
  { visit with
    client := { visit.client with assets := visit.client.assets.map fun assets => assets.workerStep around } }

/-- The server does something, and what its transport takes for the player is under way. -/
def serve (visit : Visit) (player : UInt32) (activity : Activity) : Visit :=
  let server := act visit.server activity
  let new := (sentSince visit.server.transport.sent.length server).filter fun sent =>
    sent.playerId == player && sent.accepted
  { visit with server, inbox := visit.inbox ++ new.map fun sent => arrival sent.bytes }

/-- The packets that the client has handed over and that are under way. -/
def toServer (visit : Visit) : List ClientSent :=
  visit.client.transport.elim [] fun transport => transport.sent.drop visit.delivered

def deliverToServer (visit : Visit) (playerId : Int) : Visit :=
  match visit.toServer with
  | [] => visit
  | sent :: _ =>
      let visit := { visit with delivered := visit.delivered + 1 }
      if !sent.accepted then visit
      else match encodeFrame sent.bytes with
        | none => visit
        | some frame =>
            visit.serve (UInt32.ofNat playerId.toNat) (.event (.receive playerId (streamOfFrame frame)))

inductive Event where
  | samp (packet : RakPacket)
  | receive (available : Nat)
  | callback
  | work (around : Surroundings)
  | deliverToServer
  | elsewhere (activity : Activity)

def step (playerId : Int) (visit : Visit) : Event → Visit
  | .samp packet => { visit with inbox := visit.inbox ++ [packet] }
  | .receive available => visit.receive available
  | .callback => visit.callback
  | .work around => visit.work around
  | .deliverToServer => visit.deliverToServer playerId
  | .elsewhere activity => visit.serve (UInt32.ofNat playerId.toNat) activity

/-- SA-MP's packets are its own and do not end the connection, and what else happens on the server does not concern
the player. -/
def Event.Proper (player : UInt32) : Event → Prop
  | .samp packet => packet.claimed = false ∧ packet.endsConnection = false
  | .elsewhere activity => (activity.concern player).isNone = true
  | _ => True

instance (player : UInt32) : DecidablePred (Event.Proper player)
  | .samp _ => inferInstanceAs (Decidable (_ ∧ _))
  | .elsewhere _ => inferInstanceAs (Decidable (_ = true))
  | .receive _ | .callback | .work _ | .deliverToServer => inferInstanceAs (Decidable True)

/-- What the hook, the runtime, the worker and the network do by themselves, in these surroundings. -/
def Event.Own (around : Surroundings) : Event → Prop
  | .samp _ | .elsewhere _ => False
  | .work other => other = around
  | _ => True

/-- The protocol packets that are under way to the client. -/
def coming (visit : Visit) : List (List UInt8) :=
  visit.due.filterMap HookAction.dispatched? ++
    (visit.inbox.filter fun packet => packet.claimed && packet.deliverable).map RakPacket.payload

/-- Nothing is under way, in hand, queued or to be pumped. -/
def Quiet (visit : Visit) : Prop :=
  visit.due = [] ∧ visit.coming = [] ∧ visit.toServer = [] ∧
    ∀ manager ∈ visit.client.assets, manager.worker = .waiting ∧ manager.queue = [] ∧ manager.events = []

instance (visit : Visit) : Decidable visit.Quiet := inferInstanceAs (Decidable (_ ∧ _))

end Visit

/-- How a visit that is quiet stands: the client has not been announced, or it was rejected for the reason that the
server has recorded, or it is compatible and all assets of one manifest of the server have ended. -/
inductive Visited (playerId : Int) (start : Visit) (events : List Visit.Event) (visit : Visit) : Prop where
  | waiting (handshake : ClientHandshake) (client : visit.client.handshake = some handshake)
      (state : handshake.state = .disconnected) (unannounced : visit.hook.connectedEventSent = false)
      (record : (visit.server.tracker.getState (UInt32.ofNat playerId.toNat)).state = .handshakePending)
  | rejected (handshake : ClientHandshake) (reject : Reject) (client : visit.client.handshake = some handshake)
      (state : handshake.state = .rejected) (rejection : handshake.rejection = some reject)
      (record : (visit.server.tracker.getState (UInt32.ofNat playerId.toNat)).state = .rejected)
      (reason : (visit.server.tracker.getState (UInt32.ofNat playerId.toNat)).rejectReason = some reject.reason)
      (reports : visit.pumped = [])
  | compatible (handshake : ClientHandshake) (manager : ClientAssetManager) (front : List Visit.Event)
      (client : visit.client.handshake = some handshake) (assets : visit.client.assets = some manager)
      (state : handshake.state = .compatible)
      (record : (visit.server.tracker.getState (UInt32.ofNat playerId.toNat)).state = .compatible)
      (published : front <+: events)
      (agrees : Agrees (Lib.run (Visit.step playerId) start front).server.registry.buildManifest.assets manager
        visit.pumped (visit.server.assets.getState (UInt32.ofNat playerId.toNat)))

end CustomModels.System
