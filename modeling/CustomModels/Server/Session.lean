import CustomModels.Server.PlayerCapabilities
import CustomModels.Shared.Layout

/-!
# Handshake sessions

What a handshake is for, apart from the code that runs it: the Hellos that a policy admits, and what must
be true of the record of a player that was accepted or rejected.
-/

namespace CustomModels.Server
open CustomModels.Shared

namespace HandshakePolicy

/-- The declared bits among the capabilities that the policy offers. -/
def offered (policy : HandshakePolicy) : CapabilityFlags :=
  policy.serverCapabilities &&& kDeclaredCapabilities

/-- The declared bits among the capabilities that the policy requires. -/
def required (policy : HandshakePolicy) : CapabilityFlags :=
  policy.requiredCapabilities &&& kDeclaredCapabilities

end HandshakePolicy

/-- Of the same major version, and not below in minor version and patch. -/
def RuntimeVersion.Supports (version minimum : RuntimeVersion) : Prop :=
  version.major = minimum.major ∧
    (minimum.minor.toNat < version.minor.toNat ∨
      version.minor = minimum.minor ∧ minimum.patch.toNat ≤ version.patch.toNat)

/-- The Hellos that a policy admits. -/
def HandshakePolicy.Admits (policy : HandshakePolicy) (hello : Hello) : Prop :=
  hello.protocolVersion = 1 ∧
    RuntimeVersion.Supports hello.runtimeVersion policy.minimumClientRuntime ∧
    (hello.sampVersion = .r1 ∨ hello.sampVersion = .r31) ∧
    DeclaredOnly hello.capabilities ∧
    (hello.capabilities &&& policy.offered) &&& policy.required = policy.required

namespace PlayerCapabilityState

/-- The Hello that the record keeps. -/
def hello (state : PlayerCapabilityState) : Hello :=
  ⟨state.runtimeVersion, state.protocolVersion, state.sampVersion, state.declaredCapabilities⟩

/-- The record of an accepted player. -/
def accepted (policy : HandshakePolicy) (hello : Hello) : PlayerCapabilityState :=
  ⟨.compatible, hello.runtimeVersion, hello.protocolVersion, hello.sampVersion, hello.capabilities,
    hello.capabilities &&& policy.offered, none⟩

/-- A compatible record is that of an admitted Hello, and a rejected one has a reason. -/
structure Sound (policy : HandshakePolicy) (state : PlayerCapabilityState) : Prop where
  compatible : state.state = .compatible →
    policy.Admits state.hello ∧ state.negotiatedCapabilities = state.declaredCapabilities &&& policy.offered ∧
      state.rejectReason = none
  rejected : state.state = .rejected → state.rejectReason.isSome

end PlayerCapabilityState

namespace PlayerCapabilityTracker

/-- The call that starts the session of a player afresh. -/
def Call.Begins (playerId : UInt32) : Call → Prop
  | beginHandshake id => id = playerId
  | _ => False

/-- The calls that can change the record of a player. -/
def Call.Concerns (playerId : UInt32) : Call → Prop
  | beginHandshake id => id = playerId
  | handleHello id _ => id = playerId
  | rejectPlayer id _ => id = playerId
  | removePlayer id => id = playerId
  | reset => True

/-- `RejectPlayer` is given an enumerator of `RejectReason`, as the endpoint does. -/
def Call.Named : Call → Prop
  | rejectPlayer _ reason => 1 ≤ reason.value.toNat ∧ reason.value.toNat ≤ 5
  | _ => True

abbrev NamedCall := { c : Call // c.Named }

end PlayerCapabilityTracker

/-! ## What the endpoint answers -/

/-- The frames that are claimed: the packet id and `CMOD`. -/
def Claimed (frame : List UInt8) : Prop := [0x5E, 67, 77, 79, 68] <+: frame

/-- The record says what the response told. -/
def PlayerCapabilityState.Matches (state : PlayerCapabilityState) : Message → Prop
  | .welcome value =>
      state.state = .compatible ∧ state.negotiatedCapabilities = value.negotiatedCapabilities
  | .reject value => state.state = .rejected ∧ state.rejectReason = some value.reason
  | _ => False

end CustomModels.Server
