import CustomModels.Client.Runtime
import CustomModels.Client.Stored
import CustomModels.Server.AssetPublication
import CustomModels.System.Delivery

/-!
# The exchange behind a handshake

A server has sent its manifest to a player, whose client downloads the assets and reports on them. The
network delivers every frame once and in order. The worker acts between any two steps of the network
thread: the pump that ends `HandleIncomingProtocol` is a step of its own, and other pumps may come in between.
-/

namespace CustomModels.System
open CustomModels.Shared CustomModels.Server CustomModels.Client

/-- A manager whose session is new: what the worker still has in hand is of an earlier one. -/
structure NewSession (manager : ClientAssetManager) : Prop where
  running : manager.stopping = false
  receiver : manager.receiver = .fresh
  queue : manager.queue = []
  events : manager.events = []
  states : manager.states = ∅
  hand : ∀ work, manager.worker.work? = some work → work.generation ≠ manager.generation

structure Exchange where
  client : ProtocolContext
  server : AssetPublication
  /-- The frames under way to the client. -/
  toClient : List (List UInt8)
  /-- How many of the packets that the client has handed over have left the network. -/
  delivered : Nat
  /-- What the server made of each: `none` is a frame that holds no message. -/
  answers : List (Option AssetDispatchResult)
  /-- Every event that a pump has gone through. -/
  pumped : List ClientAssetEvent

namespace Exchange

/-- The server has just published to the player: what its transport took is under way. -/
def start (context : ProtocolContext) (publication : AssetPublication) (registry : AssetRegistry)
    (transport : ServerTransport) (playerId : UInt32) : Exchange :=
  let outcome := publication.onPlayerCompatible registry transport playerId
  { client := context
    server := outcome.2.1
    toClient := (outcome.2.2.sent.drop transport.sent.length).map Sent.bytes
    delivered := context.transport.elim 0 fun transport => transport.sent.length
    answers := []
    pumped := [] }

def deliverToClient (exchange : Exchange) : Exchange :=
  match exchange.toClient with
  | [] => exchange
  | frame :: toClient =>
      match inspect frame with
      | .unrelated => { exchange with toClient }
      | .customModel bytes => { exchange with client := (exchange.client.handleIncoming bytes).2, toClient }

def work (exchange : Exchange) (around : Surroundings) : Exchange :=
  { exchange with
    client :=
      { exchange.client with assets := exchange.client.assets.map fun assets => assets.workerStep around } }

def pump (exchange : Exchange) : Exchange :=
  let (events, client) := exchange.client.pumpAssetResults
  { exchange with client, pumped := exchange.pumped ++ events }

/-- The packets that the client has handed over and that are under way. -/
def toServer (exchange : Exchange) : List ClientSent :=
  exchange.client.transport.elim [] fun transport => transport.sent.drop exchange.delivered

def deliverToServer (exchange : Exchange) (playerId : UInt32) : Exchange :=
  match exchange.toServer with
  | [] => exchange
  | sent :: _ =>
      let exchange := { exchange with delivered := exchange.delivered + 1 }
      if !sent.accepted then exchange
      else match (encodeFrame sent.bytes).bind messageOf with
        | none => { exchange with answers := exchange.answers ++ [none] }
        | some message =>
            let (answer, server) := exchange.server.handleIncoming playerId message
            { exchange with server, answers := exchange.answers ++ [some answer] }

inductive Event where
  | deliverToClient
  | work (around : Surroundings)
  | pump
  | deliverToServer

def step (playerId : UInt32) (exchange : Exchange) : Event → Exchange
  | .deliverToClient => exchange.deliverToClient
  | .work around => exchange.work around
  | .pump => exchange.pump
  | .deliverToServer => exchange.deliverToServer playerId

/-- Nothing is under way, in hand, queued or to be pumped. -/
def Quiet (exchange : Exchange) : Prop :=
  exchange.toClient = [] ∧ exchange.toServer = [] ∧
    ∀ manager ∈ exchange.client.assets, manager.worker = .waiting ∧ manager.queue = [] ∧ manager.events = []

instance (exchange : Exchange) : Decidable exchange.Quiet := inferInstanceAs (Decidable (_ ∧ _))

end Exchange

/-- The record of the player tells how every asset ended at the client, and for which reason the client
recorded that it failed. -/
structure Agrees (assets : List AssetDescription) (manager : ClientAssetManager)
    (pumped : List ClientAssetEvent) (record : PlayerAssetState) : Prop where
  ended : ∀ asset ∈ assets,
    manager.getState asset.assetId = .ready ∨ manager.getState asset.assetId = .failed
  ready : ∀ assetId, assetId ∈ record.readyAssets ↔
    assetId ∈ assets.map AssetDescription.assetId ∧ manager.getState assetId = .ready
  failed : ∀ assetId, assetId ∈ record.failedAssets ↔
    assetId ∈ assets.map AssetDescription.assetId ∧ manager.getState assetId = .failed
  reason : ∀ assetId reason, record.failedAssets.lookup assetId = some reason ↔
    ∃ event ∈ pumped, event.kind = .failed ∧ event.assetId = assetId ∧ event.error = reason
  session : record.state = .assetsReady ↔ ∀ asset ∈ assets, manager.getState asset.assetId = .ready

end CustomModels.System
