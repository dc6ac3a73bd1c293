import CustomModels.Client.Runtime
import CustomModels.Shared.TransportFrame

/-!
# The hook on SA-MP's network

`SampRakNetTransport` of `raknet_transport.cpp`. The original `Receive`, `IsConnected` and what Windows tells of
memory are outside: each call comes with their answers. What the hook does with SA-MP and with its callbacks is
recorded in order.
-/

namespace CustomModels.Client
open CustomModels.Shared

def kDisconnectionNotification : UInt8 := 32
def kConnectionLost : UInt8 := 33
def kMaximumConsumedPacketsPerCall : Nat := 64

/-- What a pointer to a `RakPacket` gives. -/
structure RakPacket where
  pointer : Nat
  /-- `IsReadable` of the packet itself. -/
  readable : Bool
  /-- The `length` bytes at `data`, unless that is null. -/
  data : Option (List UInt8)
  /-- `IsReadable` of the first five bytes, or of fewer if there are no more. -/
  headReadable : Bool
  /-- `IsReadable` of all bytes. -/
  wholeReadable : Bool
  deriving DecidableEq

/-- Which of the `TransportCallbacks` are set. -/
structure TransportCallbacks where
  incoming : Bool
  connection : Bool
  pump : Bool

/-- What `Initialize` meets: whether the loaded samp.dll is one it knows, the RakClient that it resolves, and
whether the hook can be installed. -/
structure Resolution where
  compatible : Bool
  rakClient : Option Nat
  installed : Bool

inductive HookAction where
  | drew (packet : Option RakPacket)
  | returned (packet : Option RakPacket)
  | deallocated (packet : RakPacket)
  | dispatched (bytes : List UInt8)
  | connection (event : ConnectionEvent)
  | pumped
  deriving DecidableEq

structure SampRakNetTransport where
  callbacks : TransportCallbacks
  rakClient : Option Nat
  initialized : Bool
  connected : Bool
  awaitingDisconnectedState : Bool
  connectedEventPending : Bool
  connectedEventSent : Bool
  /-- What was done since `Initialize`. -/
  actions : List HookAction

/-- A call of `Receive` on `self`, the answer of `IsConnected` and the packets that the original `Receive` has for
this call. -/
structure ReceiveCall where
  self : Nat
  isConnected : Bool
  original : Nat → Option RakPacket

namespace SampRakNetTransport

def fresh : SampRakNetTransport where
  callbacks := ⟨false, false, false⟩
  rakClient := none
  initialized := false
  connected := false
  awaitingDisconnectedState := false
  connectedEventPending := false
  connectedEventSent := false
  actions := []

def record (transport : SampRakNetTransport) (action : HookAction) : SampRakNetTransport :=
  { transport with actions := transport.actions ++ [action] }

/-- `Shutdown`, which gives up if the original entry cannot be restored. -/
def shutdown (transport : SampRakNetTransport) (restored : Bool) : SampRakNetTransport :=
  if !restored then transport else { fresh with actions := transport.actions }

/-- `Initialize`. The `Shutdown` of a failed one has no hook to restore. -/
def initializeTransport (transport : SampRakNetTransport) (callbacks : TransportCallbacks)
    (resolution : Resolution) : Bool × SampRakNetTransport :=
  if transport.initialized || !callbacks.incoming || !callbacks.connection then (false, transport)
  else if !resolution.compatible then (false, transport)
  else
    let transport :=
      { transport with callbacks, rakClient := resolution.rakClient, initialized := resolution.rakClient.isSome }
    if !transport.initialized || !resolution.installed then (false, transport.shutdown true)
    else (true, { transport with actions := [] })

def dispatchIncoming (transport : SampRakNetTransport) (bytes : List UInt8) : Bool × SampRakNetTransport :=
  if !transport.initialized || !transport.callbacks.incoming then (false, transport)
  else (true, transport.record (.dispatched bytes))

/-! ## Connections -/

def observeConnection (transport : SampRakNetTransport) (connected : Bool) : SampRakNetTransport :=
  if transport.awaitingDisconnectedState then
    if connected then transport else { transport with awaitingDisconnectedState := false }
  else if connected = transport.connected then transport
  else
    let notifyDisconnected := transport.connectedEventSent && !connected
    let transport :=
      { transport with connected, connectedEventPending := false, connectedEventSent := false }
    if notifyDisconnected then transport.record (.connection .disconnected) else transport

def notifyConnectedIfPending (transport : SampRakNetTransport) : SampRakNetTransport :=
  if !transport.connected || !transport.connectedEventPending || transport.connectedEventSent then transport
  else
    let transport := { transport with connectedEventPending := false, connectedEventSent := true }
    transport.record (.connection .connected)

def notifyDisconnected (transport : SampRakNetTransport) : SampRakNetTransport :=
  if !transport.connected then transport
  else
    let notify := transport.connectedEventSent
    let transport :=
      { transport with
        connected := false
        awaitingDisconnectedState := true
        connectedEventPending := false
        connectedEventSent := false }
    if notify then transport.record (.connection .disconnected) else transport

/-- A packet that SA-MP has yet to process makes the event pending. -/
def awaitFirstPacket (transport : SampRakNetTransport) : SampRakNetTransport :=
  if transport.connected && !transport.connectedEventSent then { transport with connectedEventPending := true }
  else transport

/-! ## `Receive` -/

/-- What the loop does with a packet that can be read, and whether it is consumed. -/
def examine (transport : SampRakNetTransport) (packet : RakPacket) : Bool × SampRakNetTransport :=
  match packet.data with
  | none | some [] => (false, transport)
  | some (first :: rest) =>
      if !packet.headReadable then (false, transport)
      else if first = kDisconnectionNotification ∨ first = kConnectionLost then
        (false, transport.notifyDisconnected)
      else
        match inspect (first :: rest) with
        | .unrelated => (false, transport)
        | .customModel protocolBytes =>
            let transport :=
              if (first :: rest).length ≤ kMaximumFrameSize ∧ packet.wholeReadable = true then
                (transport.dispatchIncoming protocolBytes).2
              else transport
            (true, transport.record (.deallocated packet))

/-- One round of the loop: a packet is drawn, and perhaps consumed. -/
def round (transport : SampRakNetTransport) (packet : Option RakPacket) : Bool × SampRakNetTransport :=
  let transport := (transport.record (.drew packet)).notifyConnectedIfPending
  match packet with
  | none => (false, transport)
  | some packet =>
      if !packet.readable then (false, transport) else transport.awaitFirstPacket.examine packet

/-- The loop with `left` rounds to go, behind `drawn` others. -/
def receiveLoop (original : Nat → Option RakPacket) (left drawn : Nat) (transport : SampRakNetTransport) :
    Option RakPacket × SampRakNetTransport :=
  match left with
  | 0 => (none, transport)
  | left + 1 =>
      match transport.round (original drawn) with
      | (false, transport) => (original drawn, transport)
      | (true, transport) => receiveLoop original left (drawn + 1) transport

def receive (transport : SampRakNetTransport) (call : ReceiveCall) : Option RakPacket × SampRakNetTransport :=
  if some call.self ≠ transport.rakClient then (call.original 0, transport)
  else
    let transport := transport.observeConnection call.isConnected
    let transport :=
      if transport.connectedEventSent && transport.callbacks.pump then transport.record .pumped else transport
    let (packet, transport) := receiveLoop call.original kMaximumConsumedPacketsPerCall 0 transport
    (packet, transport.record (.returned packet))

end SampRakNetTransport

end CustomModels.Client
