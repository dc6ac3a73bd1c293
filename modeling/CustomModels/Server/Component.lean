import CustomModels.Server.AssetPublication

/-!
# The open.mp component

`component.hpp` and `component.cpp`: the adapter that feeds what open.mp receives to the handshake endpoint
and to the asset publication. Its log lines are left out. `OpenMpTransport::Send` answers whatever the SDK
does, which `ServerTransport.answer` covers.
-/

namespace CustomModels.Server
open CustomModels.Shared

/-- What the handler reads of the SDK's bit stream: `GetData` (`none` for the null pointer), `GetReadOffset`
and `GetNumberOfUnreadBits`. The unread bits lie within the data. -/
structure NetworkBitStream where
  data : Option (List UInt8)
  readOffset : Int
  unreadBits : Int
  inBounds : ∀ bytes, data = some bytes → readOffset + unreadBits ≤ 8 * bytes.length

namespace NetworkBitStream

/-- The first `count` bytes from the read offset on. -/
def bytesAt (stream : NetworkBitStream) (data : List UInt8) (count : Nat) : List UInt8 :=
  (data.drop (stream.readOffset.toNat / 8)).take count

end NetworkBitStream

structure CustomModelComponent where
  tracker : PlayerCapabilityTracker
  transport : ServerTransport
  /-- `IsAvailable` of the transport. -/
  available : Bool
  registry : AssetRegistry
  assets : AssetPublication
  lastDispatch : DispatchResult
  lastAssetDispatch : AssetDispatchResult

/-- Dff, Txd and Sha256Cache. -/
def kRequiredCapabilities : CapabilityFlags :=
  capabilityDff ||| capabilityTxd ||| capabilitySha256Cache

def makePolicy : HandshakePolicy :=
  { HandshakePolicy.default with
    serverCapabilities := kDeclaredCapabilities
    requiredCapabilities := kRequiredCapabilities }

namespace CustomModelComponent

/-- The component as `onLoad` leaves it, whatever registry the configuration gave. -/
def loaded (registry : AssetRegistry) (available : Bool) (answer : Nat → Bool) :
    CustomModelComponent where
  tracker := .make makePolicy
  transport := ⟨answer, []⟩
  available
  registry
  assets := ⟨∅⟩
  lastDispatch := .sendFailed
  lastAssetDispatch := .ignored

/-- `endpoint_`, which refers to the tracker and to the transport. -/
def endpoint (component : CustomModelComponent) : HandshakeEndpoint :=
  ⟨component.tracker, component.transport⟩

/-- The component after its endpoint has changed the two. -/
def withEndpoint (component : CustomModelComponent) (endpoint : HandshakeEndpoint) :
    CustomModelComponent :=
  { component with tracker := endpoint.tracker, transport := endpoint.transport }

def reset (component : CustomModelComponent) : CustomModelComponent :=
  { component with tracker := component.tracker.reset, assets := component.assets.reset }

/-- `playerId` is `player.getID()`. -/
def onPlayerConnect (component : CustomModelComponent) (playerId : Int) : CustomModelComponent :=
  if 0 ≤ playerId then
    { component.withEndpoint (component.endpoint.onPlayerConnected (UInt32.ofNat playerId.toNat)) with
      assets := component.assets.onPlayerConnected (UInt32.ofNat playerId.toNat) }
  else component

def onPlayerDisconnect (component : CustomModelComponent) (playerId : Int) : CustomModelComponent :=
  if 0 ≤ playerId then
    { component.withEndpoint (component.endpoint.onPlayerDisconnected (UInt32.ofNat playerId.toNat)) with
      assets := component.assets.onPlayerDisconnected (UInt32.ofNat playerId.toNat) }
  else component

/-- `DispatchProtocol`, the handler that the transport calls back. -/
def dispatchProtocol (component : CustomModelComponent) (playerId : UInt32) (bytes : List UInt8) :
    CustomModelComponent :=
  match decodePacket bytes with
  | .error _ => { component with lastDispatch := .sendFailed, lastAssetDispatch := .invalidOrder }
  | .ok ⟨_, .hello _⟩ =>
      let (result, endpoint) := component.endpoint.dispatchProtocolPayload playerId bytes
      { component.withEndpoint endpoint with lastDispatch := result }
  | .ok ⟨_, message⟩ =>
      let (result, assets) := component.assets.handleIncoming playerId message
      { component with assets, lastAssetDispatch := result }

def dispatchMalformed (component : CustomModelComponent) (playerId : UInt32) : CustomModelComponent :=
  component.withEndpoint (component.endpoint.rejectMalformed playerId).2

/-- `assets_.OnPlayerCompatible`. -/
def onPlayerCompatible (component : CustomModelComponent) (playerId : UInt32) : CustomModelComponent :=
  let (_, assets, transport) :=
    component.assets.onPlayerCompatible component.registry component.transport playerId
  { component with assets, transport }

def isHello : Except DecodeError Packet → Bool
  | .ok ⟨_, .hello _⟩ => true
  | _ => false

/-- `onReceive` from the point where the unread bytes are a claimed packet of acceptable size. -/
def receiveProtocol (component : CustomModelComponent) (playerId : UInt32) (protocolBytes : List UInt8) :
    CustomModelComponent :=
  let cleared := { component with lastDispatch := .sendFailed, lastAssetDispatch := .ignored }
  if !cleared.available then cleared
  else
    let dispatched := cleared.dispatchProtocol playerId protocolBytes
    if isHello (decodePacket protocolBytes) && dispatched.lastDispatch == .welcomeSent then
      dispatched.onPlayerCompatible playerId
    else dispatched

/-- The answer tells the SDK whether other handlers may see the packet. -/
def onReceive (component : CustomModelComponent) (playerId : Int) (stream : NetworkBitStream) :
    Bool × CustomModelComponent :=
  if playerId < 0 then (true, component)
  else
    let player := UInt32.ofNat playerId.toNat
    match stream.data with
    | none => (true, component)
    | some data =>
        if stream.unreadBits < 32 ∨ stream.readOffset < 0 ∨ stream.readOffset % 8 ≠ 0 then
          (true, component)
        else if inspectProtocolPayload (stream.bytesAt data 4) = .unrelated then (true, component)
        else if stream.unreadBits % 8 ≠ 0 ∨ kMaximumPacketSize < stream.unreadBits.toNat / 8 then
          (false, component.dispatchMalformed player)
        else
          (false, component.receiveProtocol player
            (stream.bytesAt data (stream.unreadBits.toNat / 8)))

/-! ## Histories of a component -/

inductive Event where
  | playerConnect (playerId : Int)
  | playerDisconnect (playerId : Int)
  | reset
  | receive (playerId : Int) (stream : NetworkBitStream)

def step (component : CustomModelComponent) : Event → CustomModelComponent
  | .playerConnect playerId => component.onPlayerConnect playerId
  | .playerDisconnect playerId => component.onPlayerDisconnect playerId
  | .reset => component.reset
  | .receive playerId stream => (component.onReceive playerId stream).2

end CustomModelComponent

end CustomModels.Server
