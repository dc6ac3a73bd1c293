import Mathlib.Data.Finset.Basic
import CustomModels.Server.HandshakeEndpoint
import CustomModels.Server.Registry

/-!
# Asset publication

`asset_publication.hpp` and `asset_publication.cpp`. The registry and the transport that the publication
refers to are arguments of the functions that use them.
-/

namespace CustomModels.Server
open CustomModels.Shared

inductive AssetSessionState where
  | unknown
  | handshakePending
  | compatible
  | manifestSending
  | manifestComplete
  | assetsReady
  | rejected
  deriving DecidableEq

inductive AssetDispatchResult where
  | ignored
  | readyRecorded
  | errorRecorded
  | invalidOrder
  | invalidAsset
  deriving DecidableEq

inductive ManifestSendResult where
  | sent
  | alreadySent
  | invalidState
  | sendFailed
  deriving DecidableEq

structure PlayerAssetState where
  state : AssetSessionState
  manifestRevision : UInt64
  expectedAssets : Finset UInt32
  readyAssets : Finset UInt32
  failedAssets : Finmap fun _ : UInt32 => AssetErrorReason
  deriving DecidableEq

/-- `PlayerAssetState state{}` with its `state` set. -/
def PlayerAssetState.ofState (state : AssetSessionState) : PlayerAssetState := ⟨state, 0, ∅, ∅, ∅⟩

structure AssetPublication where
  players : Finmap fun _ : UInt32 => PlayerAssetState

namespace AssetPublication

/-- `players_[playerId] = state`, also where the source writes through a reference into the map. -/
def assign (publication : AssetPublication) (playerId : UInt32) (state : PlayerAssetState) :
    AssetPublication := ⟨publication.players.insert playerId state⟩

def onPlayerConnected (publication : AssetPublication) (playerId : UInt32) : AssetPublication :=
  publication.assign playerId (.ofState .handshakePending)

def onPlayerDisconnected (publication : AssetPublication) (playerId : UInt32) : AssetPublication :=
  ⟨publication.players.erase playerId⟩

/-- `Send`: it reads nothing of the publication but the transport. -/
def send (transport : ServerTransport) (playerId : UInt32) (message : Message) :
    Bool × ServerTransport :=
  match encodePacket message kProtocolVersion with
  | .error _ => (false, transport)
  | .ok encoded =>
      match encodeFrame encoded with
      | none => (false, transport)
      | some framed => transport.send playerId framed

/-- The loop over the manifest's assets, from `index` on. -/
def sendAssets (revision : UInt64) (playerId : UInt32) :
    (index : Nat) → List AssetDescription → ServerTransport → Bool × ServerTransport
  | _, [], transport => (true, transport)
  | index, asset :: assets, transport =>
      match send transport playerId (.manifestAsset ⟨revision, UInt32.ofNat index, asset⟩) with
      | (false, transport) => (false, transport)
      | (true, transport) => sendAssets revision playerId (index + 1) assets transport

/-- The three groups of sends of `OnPlayerCompatible`: whether all of them succeeded. -/
def sendManifest (manifest : Manifest) (playerId : UInt32) (transport : ServerTransport) :
    Bool × ServerTransport :=
  let count := UInt32.ofNat manifest.assets.length
  match send transport playerId
      (.manifestBegin ⟨manifest.revision, count, manifest.totalDownloadSize⟩) with
  | (false, transport) => (false, transport)
  | (true, transport) =>
      match sendAssets manifest.revision playerId 0 manifest.assets transport with
      | (false, transport) => (false, transport)
      | (true, transport) =>
          send transport playerId (.manifestEnd ⟨manifest.revision, count, manifest.totalDownloadSize⟩)

/-- The state that `OnPlayerCompatible` replaces the player's with before it sends. -/
def sendingState (manifest : Manifest) : PlayerAssetState :=
  { PlayerAssetState.ofState .manifestSending with
    manifestRevision := manifest.revision
    expectedAssets := (manifest.assets.map AssetDescription.assetId).toFinset }

def onPlayerCompatible (publication : AssetPublication) (registry : AssetRegistry)
    (transport : ServerTransport) (playerId : UInt32) :
    ManifestSendResult × AssetPublication × ServerTransport :=
  match publication.players.lookup playerId with
  | none => (.invalidState, publication, transport)
  | some found =>
      if found.state = .manifestComplete ∨ found.state = .assetsReady then
        (.alreadySent, publication, transport)
      else if found.state ≠ .handshakePending ∧ found.state ≠ .compatible then
        (.invalidState, publication, transport)
      else
        let manifest := registry.buildManifest
        let state := sendingState manifest
        match sendManifest manifest playerId transport with
        | (false, transport) =>
            (.sendFailed, publication.assign playerId { state with state := .rejected }, transport)
        | (true, transport) =>
            (.sent, publication.assign playerId
              { state with
                state := if manifest.assets.isEmpty then .assetsReady else .manifestComplete },
              transport)

/-- The branch of `HandleIncoming` for `AssetReady`. -/
def handleAssetReady (state : PlayerAssetState) (ready : AssetReady) :
    AssetDispatchResult × PlayerAssetState :=
  if ready.manifestRevision ≠ state.manifestRevision ∨ ready.assetId ∉ state.expectedAssets then
    (.invalidAsset, state)
  else
    let readyAssets := insert ready.assetId state.readyAssets
    (.readyRecorded,
      { state with
        failedAssets := state.failedAssets.erase ready.assetId
        readyAssets
        state := if readyAssets.card = state.expectedAssets.card then .assetsReady else state.state })

/-- The branch of `HandleIncoming` for `AssetError`. -/
def handleAssetError (state : PlayerAssetState) (error : AssetError) :
    AssetDispatchResult × PlayerAssetState :=
  if error.manifestRevision ≠ state.manifestRevision ∨ error.assetId ∉ state.expectedAssets then
    (.invalidAsset, state)
  else
    (.errorRecorded,
      { state with
        readyAssets := state.readyAssets.erase error.assetId
        failedAssets := state.failedAssets.insert error.assetId error.reason
        state := .manifestComplete })

def handleIncoming (publication : AssetPublication) (playerId : UInt32) (message : Message) :
    AssetDispatchResult × AssetPublication :=
  match publication.players.lookup playerId with
  | none => (.invalidOrder, publication)
  | some found =>
      if found.state ≠ .manifestComplete ∧ found.state ≠ .assetsReady then
        (.invalidOrder, publication)
      else match message with
        | .assetReady ready =>
            let (result, state) := handleAssetReady found ready
            (result, publication.assign playerId state)
        | .assetError error =>
            let (result, state) := handleAssetError found error
            (result, publication.assign playerId state)
        | _ => (.ignored, publication)

def reset (_ : AssetPublication) : AssetPublication := ⟨∅⟩

def getState (publication : AssetPublication) (playerId : UInt32) : PlayerAssetState :=
  (publication.players.lookup playerId).getD (.ofState .unknown)

end AssetPublication

end CustomModels.Server
