import Mathlib.Data.Finmap
import CustomModels.Shared.Protocol

/-!
# The player capability tracker

`player_capabilities.hpp` and `player_capabilities.cpp`.
-/

namespace CustomModels.Server
open CustomModels.Shared

inductive HandshakeState where
  | unknown
  | handshakePending
  | compatible
  | rejected
  deriving DecidableEq

structure PlayerCapabilityState where
  state : HandshakeState
  runtimeVersion : RuntimeVersion
  protocolVersion : UInt16
  sampVersion : SampVersion
  declaredCapabilities : CapabilityFlags
  negotiatedCapabilities : CapabilityFlags
  rejectReason : Option RejectReason
  deriving DecidableEq

/-- `PlayerCapabilityState state{}` with its `state` set. -/
def PlayerCapabilityState.ofState (state : HandshakeState) : PlayerCapabilityState :=
  ⟨state, ⟨0, 0, 0⟩, 0, .unknown, 0, 0, none⟩

structure HandshakePolicy where
  minimumClientRuntime : RuntimeVersion
  serverRuntimeVersion : RuntimeVersion
  serverCapabilities : CapabilityFlags
  requiredCapabilities : CapabilityFlags
  deriving DecidableEq

/-- `HandshakePolicy policy{}`. -/
def HandshakePolicy.default : HandshakePolicy := ⟨kRuntimeVersion, kRuntimeVersion, 0, 0⟩

inductive HandshakeResponse where
  | welcome (value : Welcome)
  | reject (value : Reject)
  deriving DecidableEq

/-- The message that `std::visit` hands to the encoder. -/
def HandshakeResponse.message : HandshakeResponse → Message
  | welcome value => .welcome value
  | reject value => .reject value

structure PlayerCapabilityTracker where
  policy : HandshakePolicy
  players : Finmap fun _ : UInt32 => PlayerCapabilityState

def hasPhase2BTransport (version : SampVersion) : Bool := version == .r1 || version == .r31

def isRuntimeSupported (version minimum : RuntimeVersion) : Bool :=
  if version.major ≠ minimum.major then false
  else if version.minor ≠ minimum.minor then minimum.minor < version.minor
  else minimum.patch ≤ version.patch

def stateFromHello (state : HandshakeState) (hello : Hello) : PlayerCapabilityState :=
  { PlayerCapabilityState.ofState state with
    runtimeVersion := hello.runtimeVersion
    protocolVersion := hello.protocolVersion
    sampVersion := hello.sampVersion
    declaredCapabilities := hello.capabilities }

def sameHello (state : PlayerCapabilityState) (hello : Hello) : Bool :=
  state.runtimeVersion == hello.runtimeVersion && state.protocolVersion == hello.protocolVersion &&
    state.sampVersion == hello.sampVersion && state.declaredCapabilities == hello.capabilities

namespace PlayerCapabilityTracker

/-- The constructor masks the capabilities of the policy to the declared bits. -/
def make (policy : HandshakePolicy) : PlayerCapabilityTracker where
  policy :=
    { policy with
      serverCapabilities := policy.serverCapabilities &&& kDeclaredCapabilities
      requiredCapabilities := policy.requiredCapabilities &&& kDeclaredCapabilities }
  players := ∅

/-- `players_[playerId] = state`. -/
def assign (tracker : PlayerCapabilityTracker) (playerId : UInt32) (state : PlayerCapabilityState) :
    PlayerCapabilityTracker :=
  { tracker with players := tracker.players.insert playerId state }

def beginHandshake (tracker : PlayerCapabilityTracker) (playerId : UInt32) : PlayerCapabilityTracker :=
  tracker.assign playerId (.ofState .handshakePending)

/-- `Reject`: the state keeps the Hello and the reason. -/
def rejectHello (tracker : PlayerCapabilityTracker) (playerId : UInt32) (hello : Hello)
    (reason : RejectReason) : HandshakeResponse × PlayerCapabilityTracker :=
  (.reject ⟨reason⟩,
    tracker.assign playerId { stateFromHello .rejected hello with rejectReason := some reason })

def welcomeFor (tracker : PlayerCapabilityTracker) (state : PlayerCapabilityState) : Welcome :=
  ⟨kProtocolVersion, tracker.policy.serverRuntimeVersion, kProtocolVersion, state.negotiatedCapabilities⟩

/-- `HandleHello` from the point where the player is known to be pending. -/
def handlePendingHello (tracker : PlayerCapabilityTracker) (playerId : UInt32) (hello : Hello) :
    HandshakeResponse × PlayerCapabilityTracker :=
  if hello.protocolVersion ≠ kProtocolVersion then
    tracker.rejectHello playerId hello .unsupportedProtocol
  else if !isRuntimeSupported hello.runtimeVersion tracker.policy.minimumClientRuntime then
    tracker.rejectHello playerId hello .unsupportedClientRuntime
  else if (findSampBuild hello.sampVersion).isNone || !hasPhase2BTransport hello.sampVersion then
    tracker.rejectHello playerId hello .unsupportedSampBuild
  else if !areCapabilitiesValid hello.capabilities then
    tracker.rejectHello playerId hello .malformedHandshake
  else
    let state := { stateFromHello .compatible hello with
      negotiatedCapabilities := hello.capabilities &&& tracker.policy.serverCapabilities }
    if state.negotiatedCapabilities &&& tracker.policy.requiredCapabilities ≠
        tracker.policy.requiredCapabilities then
      tracker.rejectHello playerId hello .unsupportedCapabilities
    else (.welcome (tracker.welcomeFor state), tracker.assign playerId state)

def handleHello (tracker : PlayerCapabilityTracker) (playerId : UInt32) (hello : Hello) :
    HandshakeResponse × PlayerCapabilityTracker :=
  match tracker.players.lookup playerId with
  | none => tracker.rejectHello playerId hello .malformedHandshake
  | some current =>
      if current.state = .compatible ∧ sameHello current hello then
        (.welcome (tracker.welcomeFor current), tracker)
      else match current.state, current.rejectReason with
        | .rejected, some reason => (.reject ⟨reason⟩, tracker)
        | .handshakePending, _ => tracker.handlePendingHello playerId hello
        | _, _ => tracker.rejectHello playerId hello .malformedHandshake

def rejectPlayer (tracker : PlayerCapabilityTracker) (playerId : UInt32) (reason : RejectReason) :
    HandshakeResponse × PlayerCapabilityTracker :=
  (.reject ⟨reason⟩,
    tracker.assign playerId { PlayerCapabilityState.ofState .rejected with rejectReason := some reason })

def removePlayer (tracker : PlayerCapabilityTracker) (playerId : UInt32) : PlayerCapabilityTracker :=
  { tracker with players := tracker.players.erase playerId }

def reset (tracker : PlayerCapabilityTracker) : PlayerCapabilityTracker :=
  { tracker with players := ∅ }

def getState (tracker : PlayerCapabilityTracker) (playerId : UInt32) : PlayerCapabilityState :=
  (tracker.players.lookup playerId).getD (.ofState .unknown)

/-! ## Histories of a tracker -/

inductive Call where
  | beginHandshake (playerId : UInt32)
  | handleHello (playerId : UInt32) (hello : Hello)
  | rejectPlayer (playerId : UInt32) (reason : RejectReason)
  | removePlayer (playerId : UInt32)
  | reset

def call (tracker : PlayerCapabilityTracker) : Call → PlayerCapabilityTracker
  | .beginHandshake playerId => tracker.beginHandshake playerId
  | .handleHello playerId hello => (tracker.handleHello playerId hello).2
  | .rejectPlayer playerId reason => (tracker.rejectPlayer playerId reason).2
  | .removePlayer playerId => tracker.removePlayer playerId
  | .reset => tracker.reset

end PlayerCapabilityTracker

end CustomModels.Server
