import CustomModels.Shared.ManifestStream
import CustomModels.Server.Component
import CustomModels.Server.ManifestConfig
import CustomModels.System.Delivery

/-!
# What a player is sent

Runs of the open.mp component in which the registry changes, and what they hand over to one player.
-/

namespace CustomModels.System
open CustomModels.Shared CustomModels.Server

/-- The component hears of an event, or somebody changes its registry. -/
inductive Activity where
  | event (event : CustomModelComponent.Event)
  | operate (operation : AssetRegistry.Operation)

def act (component : CustomModelComponent) : Activity → CustomModelComponent
  | .event event => component.step event
  | .operate operation => { component with registry := component.registry.operate operation }

namespace Activity

def Connects (player : UInt32) : Activity → Prop
  | event (.playerConnect playerId) => 0 ≤ playerId ∧ UInt32.ofNat playerId.toNat = player
  | _ => False

/-- The player disconnects, or the component is reset. -/
def Ends (player : UInt32) : Activity → Prop
  | event (.playerDisconnect playerId) => 0 ≤ playerId ∧ UInt32.ofNat playerId.toNat = player
  | event .reset => True
  | _ => False

end Activity

/-- The client makes a manifest message of the frame. -/
def isManifestFrame (sent : Sent) : Bool := (messageOf sent.bytes).any isManifestMessage

/-- The client makes a Welcome of the frame. -/
def isWelcomeFrame (sent : Sent) : Bool :=
  match messageOf sent.bytes with
  | some (.welcome _) => true
  | _ => false

/-- What `Send` was given since there were `count` frames. -/
def sentSince (count : Nat) (component : CustomModelComponent) : List Sent :=
  component.transport.sent.drop count

/-- The manifest frames for the player. -/
def manifestSends (player : UInt32) (sends : List Sent) : List Sent :=
  sends.filter fun sent => sent.playerId == player && isManifestFrame sent

/-- A Welcome was sent to the player. -/
def Welcomed (player : UInt32) (sends : List Sent) : Prop :=
  ∃ sent ∈ sends, sent.playerId = player ∧ isWelcomeFrame sent = true ∧ sent.accepted = true

/-- A Welcome comes before every manifest frame. -/
def Greeted (player : UInt32) (sends : List Sent) : Prop :=
  ∃ front welcome back, sends = front ++ welcome :: back ∧ manifestSends player front = [] ∧
    welcome.playerId = player ∧ isWelcomeFrame welcome = true ∧ welcome.accepted = true

end CustomModels.System
