import CustomModels.Client.Handshake
import CustomModels.Client.Manager

/-!
# The callbacks of the client runtime

The `ProtocolContext` of `runtime.cpp` and the functions that the transport calls with it, on the network
thread. What they write to the logger is left out. As on the server, the answers of the transport come from an
arbitrary function.
-/

namespace CustomModels.Client
open CustomModels.Shared

/-! ## `ClientTransport` -/

/-- A packet handed to `Send`, and the answer. -/
structure ClientSent where
  bytes : List UInt8
  accepted : Bool
  deriving DecidableEq

structure ClientTransport where
  answer : Nat → Bool
  sent : List ClientSent

def ClientTransport.send (transport : ClientTransport) (bytes : List UInt8) : Bool × ClientTransport :=
  let accepted := transport.answer transport.sent.length
  (accepted, { transport with sent := transport.sent ++ [⟨bytes, accepted⟩] })

/-! ## `ProtocolContext` -/

inductive ConnectionEvent where
  | connected
  | disconnected
  deriving DecidableEq

structure ProtocolContext where
  handshake : Option ClientHandshake
  transport : Option ClientTransport
  assets : Option ClientAssetManager
  malformedPacketLogged : Bool

/-- What `PumpAssetResults` sends for an event. -/
def ClientAssetEvent.report (event : ClientAssetEvent) : Option Message :=
  match event.kind with
  | .ready => some (.assetReady ⟨event.manifestRevision, event.assetId⟩)
  | .failed => some (.assetError ⟨event.manifestRevision, event.assetId, event.error⟩)
  | _ => none

namespace ProtocolContext

def sendAssetReport (context : ProtocolContext) (message : Message) : ProtocolContext :=
  match context.transport with
  | none => context
  | some transport =>
      match encodePacket message kProtocolVersion with
      | .error _ => context
      | .ok bytes => { context with transport := some (transport.send bytes).2 }

def reportEvent (context : ProtocolContext) (event : ClientAssetEvent) : ProtocolContext :=
  match event.report with
  | none => context
  | some message => context.sendAssetReport message

/-- `PumpAssetResults`, with the events that it goes through. -/
def pumpAssetResults (context : ProtocolContext) : List ClientAssetEvent × ProtocolContext :=
  match context.assets, context.handshake with
  | some assets, some handshake =>
      if handshake.state ≠ .compatible then ([], context)
      else
        let (events, assets) := assets.drainEvents
        (events, events.foldl reportEvent { context with assets := some assets })
  | _, _ => ([], context)

/-- The branch of `HandleIncomingProtocol` for Welcome and Reject. -/
def handleHandshakeMessage (context : ProtocolContext) (handshake : ClientHandshake) (bytes : List UInt8) :
    ProtocolContext :=
  match handshake.handleIncoming bytes with
  | (.welcomeReceived, handshake) => { context with handshake := some handshake.confirmWelcome.2 }
  | (.malformed, handshake) => { context with handshake := some handshake, malformedPacketLogged := true }
  | (_, handshake) => { context with handshake := some handshake }

/-- The branch for the other messages, up to the call of `PumpAssetResults`. -/
def handleAssetMessage (context : ProtocolContext) (assets : ClientAssetManager) (message : Message) :
    ProtocolContext :=
  let (result, assets) := assets.handleMessage message
  let context := { context with assets := some assets }
  match result, message with
  | .invalidOrder, .manifestAsset item | .invalidManifest, .manifestAsset item =>
      context.sendAssetReport
        (.assetError ⟨item.manifestRevision, item.asset.assetId, .invalidManifest⟩)
  | _, _ => context

/-- `HandleIncomingProtocol` up to the call of `PumpAssetResults`, and whether it comes to it. -/
def handleIncoming (context : ProtocolContext) (bytes : List UInt8) : Bool × ProtocolContext :=
  match context.handshake with
  | none => (false, context)
  | some handshake =>
      match decodePacket bytes with
      | .error _ => (false, { context with malformedPacketLogged := true })
      | .ok packet =>
          match packet.message with
          | .welcome _ | .reject _ => (false, context.handleHandshakeMessage handshake bytes)
          | message =>
              match context.assets with
              | none => (false, context)
              | some assets =>
                  if handshake.state ≠ .compatible then (false, context)
                  else (true, context.handleAssetMessage assets message)

def handleIncomingProtocol (context : ProtocolContext) (bytes : List UInt8) : ProtocolContext :=
  match context.handleIncoming bytes with
  | (false, context) => context
  | (true, context) => context.pumpAssetResults.2

def handleConnectionEvent (context : ProtocolContext) (event : ConnectionEvent) : ProtocolContext :=
  match context.handshake, context.transport with
  | some handshake, some transport =>
      let assets := context.assets.map ClientAssetManager.resetSession
      match event with
      | .disconnected =>
          { context with
            handshake := some handshake.onDisconnected
            assets
            malformedPacketLogged := false }
      | .connected =>
          match handshake.onConnected.takeHello with
          | (none, handshake) => { context with handshake := some handshake, assets }
          | (some hello, handshake) =>
              { context with
                handshake := some handshake
                assets
                transport := some (transport.send hello).2 }
  | _, _ => context

end ProtocolContext

end CustomModels.Client
