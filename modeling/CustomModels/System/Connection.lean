import Mathlib.Logic.Relation
import CustomModels.Client.Handshake
import CustomModels.Server.HandshakeEndpoint

/-!
# One connection

A client and a server that shake hands over a network which may delay, drop, duplicate and reorder frames:
whatever was sent once may be delivered at any time, any number of times, or never.
-/

namespace CustomModels.System
open CustomModels.Shared CustomModels.Server CustomModels.Client

structure Connection where
  client : ClientHandshake
  server : HandshakeEndpoint
  /-- Every frame that the client has sent. -/
  toServer : List (List UInt8)

namespace Connection

/-- The server has begun the handshake of the player, and nothing else has happened. -/
def start (configuration : HandshakeConfiguration) (tracker : PlayerCapabilityTracker)
    (answer : Nat → Bool) (playerId : UInt32) : Connection where
  client := .make configuration
  server := HandshakeEndpoint.onPlayerConnected ⟨tracker, ⟨answer, []⟩⟩ playerId
  toServer := []

/-- The client takes its Hello and hands it to its transport, which frames it. -/
def takeHello (connection : Connection) : Connection :=
  match connection.client.takeHello with
  | (none, client) => { connection with client }
  | (some bytes, client) =>
      { connection with client, toServer := (encodeFrame bytes).toList ++ connection.toServer }

/-- A frame arrives at the client, whose transport takes the packet out of it. -/
def deliverToClient (connection : Connection) (frame : List UInt8) : Connection :=
  match inspect frame with
  | .unrelated => connection
  | .customModel bytes => { connection with client := (connection.client.handleIncoming bytes).2 }

def deliverToServer (connection : Connection) (playerId : UInt32) (frame : List UInt8) : Connection :=
  { connection with server := (connection.server.dispatchIncoming playerId frame).2 }

/-- The frames that the server's transport took for the player. -/
def ToClient (connection : Connection) (playerId : UInt32) (frame : List UInt8) : Prop :=
  ⟨playerId, frame, true⟩ ∈ connection.server.transport.sent

instance (connection : Connection) (playerId : UInt32) (frame : List UInt8) :
    Decidable (connection.ToClient playerId frame) :=
  inferInstanceAs (Decidable (_ ∈ connection.server.transport.sent))

inductive Step (playerId : UInt32) : Connection → Connection → Prop where
  | connect (connection : Connection) :
      Step playerId connection { connection with client := connection.client.onConnected }
  | takeHello (connection : Connection) : Step playerId connection connection.takeHello
  | confirmWelcome (connection : Connection) :
      Step playerId connection { connection with client := connection.client.confirmWelcome.2 }
  | deliverToServer (connection : Connection) (frame : List UInt8) (sent : frame ∈ connection.toServer) :
      Step playerId connection (connection.deliverToServer playerId frame)
  | deliverToClient (connection : Connection) (frame : List UInt8)
      (sent : connection.ToClient playerId frame) : Step playerId connection (connection.deliverToClient frame)

/-- The states that a connection can come to. -/
abbrev Reachable (playerId : UInt32) := Relation.ReflTransGen (Step playerId)

end Connection

end CustomModels.System
