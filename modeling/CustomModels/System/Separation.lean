import CustomModels.Lib.Unwinding
import CustomModels.Server.Standing
import CustomModels.System.Publishing

/-!
# What concerns a player

The part of the component that is one player's, the events that concern the player, and what the surroundings answer
in between: whether `Send` takes the player's frames, and what the registry has when the player is published to.
-/

namespace CustomModels.System
open CustomModels.Shared CustomModels.Server

/-- The events that concern a player. -/
inductive Concern where
  | connect
  | disconnect
  | reset
  | receive (incoming : Incoming)

/-- What an activity is to the player. -/
def Activity.concern (player : UInt32) : Activity → Option Concern
  | event (.playerConnect playerId) =>
      if 0 ≤ playerId ∧ UInt32.ofNat playerId.toNat = player then some .connect else none
  | event (.playerDisconnect playerId) =>
      if 0 ≤ playerId ∧ UInt32.ofNat playerId.toNat = player then some .disconnect else none
  | event .reset => some .reset
  | event (.receive playerId stream) =>
      if 0 ≤ playerId ∧ UInt32.ofNat playerId.toNat = player then some (.receive stream.incoming) else none
  | operate _ => none

/-- What the component does about it. -/
def hear (player : UInt32) (component : CustomModelComponent) : Concern → CustomModelComponent
  | .connect =>
      { component.withEndpoint (component.endpoint.onPlayerConnected player) with
        assets := component.assets.onPlayerConnected player }
  | .disconnect =>
      { component.withEndpoint (component.endpoint.onPlayerDisconnected player) with
        assets := component.assets.onPlayerDisconnected player }
  | .reset => component.reset
  | .receive .unclaimed => component
  | .receive .malformed => component.dispatchMalformed player
  | .receive (.packet bytes) => component.receiveProtocol player bytes

/-- The frames handed over for the player. -/
def sendsTo (player : UInt32) (transport : ServerTransport) : List Sent :=
  transport.sent.filter (·.playerId == player)

/-- What `Send` answered for the player. -/
def outcomes (player : UInt32) (transport : ServerTransport) : List Bool :=
  (sendsTo player transport).map Sent.accepted

/-- The session waits for a manifest. -/
def Waits (state : PlayerAssetState) : Prop := state.state = .handshakePending ∨ state.state = .compatible

/-- A manifest was sent for the session, or refused. -/
def Attempted (state : PlayerAssetState) : Prop :=
  state.state = .manifestComplete ∨ state.state = .assetsReady ∨ state.state = .rejected

instance : DecidablePred Waits := fun _ => inferInstanceAs (Decidable (_ ∨ _))
instance : DecidablePred Attempted := fun _ => inferInstanceAs (Decidable (_ ∨ _))

/-- The content of the registry, if between the two states it was published to the player: this alone makes an attempt
of a session that waits. -/
def publishedTo (player : UInt32) (component after : CustomModelComponent) : List Manifest :=
  if Waits (component.assets.getState player) ∧ Attempted (after.assets.getState player) then
    [component.registry.buildManifest]
  else []

/-- The contents that a step publishes to the player. -/
def published (player : UInt32) (component : CustomModelComponent) (activity : Activity) : List Manifest :=
  publishedTo player component (act component activity)

/-- All that the component has of a player, and the contents that the player has been published. -/
structure PlayerView where
  policy : HandshakePolicy
  available : Bool
  record : Option PlayerCapabilityState
  session : Option PlayerAssetState
  sends : List Sent
  contents : List Manifest

def viewOf (player : UInt32) (state : CustomModelComponent × List Manifest) : PlayerView where
  policy := state.1.tracker.policy
  available := state.1.available
  record := state.1.tracker.players.lookup player
  session := state.1.assets.players.lookup player
  sends := sendsTo player state.1.transport
  contents := state.2

/-- The surroundings have answered alike where they were asked for the player. -/
def AnsweredAlike (player : UInt32) (state other : CustomModelComponent × List Manifest) : Prop :=
  Lib.Agree (outcomes player state.1.transport) (outcomes player other.1.transport) ∧
    Lib.Agree state.2 other.2

end CustomModels.System
