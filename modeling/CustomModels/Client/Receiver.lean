import Mathlib.Data.Finset.Basic
import CustomModels.Shared.Protocol

/-!
# The manifest receiver

`ManifestReceiver` of `manager.hpp` and `manager.cpp`. The metadata counter is a `std::size_t` of the 32-bit
client.
-/

namespace CustomModels.Client
open CustomModels.Shared

inductive ManifestInputResult where
  | ignored
  | accepted
  | complete
  | invalidOrder
  | invalidManifest
  deriving DecidableEq

/-- The two answers that refuse a message. -/
def ManifestInputResult.Refused (result : ManifestInputResult) : Prop :=
  result = .invalidOrder ∨ result = .invalidManifest

/-- `ManifestReceiver::State`. -/
inductive ReceiverState where
  | idle
  | receiving
  | complete
  | failed
  deriving DecidableEq

structure ManifestReceiver where
  state : ReceiverState
  manifest : Manifest
  expectedCount : UInt32
  manifestBytes : UInt32
  assetIds : Finset UInt32
  logicalNames : Finset ByteString
  completed : Option Manifest

namespace ManifestReceiver

/-- A receiver as its constructor leaves it. -/
def fresh : ManifestReceiver := ⟨.idle, ⟨0, [], 0⟩, 0, 0, ∅, ∅, none⟩

def handleBegin (receiver : ManifestReceiver) (message : ManifestBegin) :
    ManifestInputResult × ManifestReceiver :=
  if receiver.state ≠ .idle then (.invalidOrder, { receiver with state := .failed })
  else if message.manifestRevision = 0 ∨ kMaximumAssetsPerManifest < message.assetCount.toNat ∨
      kMaximumTotalDownloadSize < message.totalDownloadSize ∨
      (message.assetCount = 0 ∧ message.totalDownloadSize ≠ 0) then
    (.invalidManifest, { receiver with state := .failed })
  else
    (.accepted,
      { receiver with
        manifest := ⟨message.manifestRevision, [], message.totalDownloadSize⟩
        expectedCount := message.assetCount
        manifestBytes := 20
        assetIds := ∅
        logicalNames := ∅
        completed := none
        state := .receiving })

def handleAsset (receiver : ManifestReceiver) (item : ManifestAsset) :
    ManifestInputResult × ManifestReceiver :=
  if receiver.state ≠ .receiving ∨ item.manifestRevision ≠ receiver.manifest.revision ∨
      item.assetIndex.toNat ≠ receiver.manifest.assets.length ∨
      receiver.expectedCount.toNat ≤ receiver.manifest.assets.length then
    (.invalidOrder, { receiver with state := .failed })
  else
    let bytes := UInt32.ofNat (serializedAssetBytes item.asset)
    if !isAssetDescriptionValid item.asset ∨
        UInt32.ofNat kMaximumManifestBytes - receiver.manifestBytes < bytes then
      (.invalidManifest, { receiver with state := .failed })
    -- each `insert` below keeps what it inserted when a later operand of the condition fails
    else if item.asset.assetId ∈ receiver.assetIds then
      (.invalidManifest, { receiver with state := .failed })
    else
      let receiver := { receiver with assetIds := insert item.asset.assetId receiver.assetIds }
      if item.asset.logicalName ∈ receiver.logicalNames then
        (.invalidManifest, { receiver with state := .failed })
      else
        (.accepted,
          { receiver with
            logicalNames := insert item.asset.logicalName receiver.logicalNames
            manifestBytes := receiver.manifestBytes + bytes
            manifest := { receiver.manifest with assets := receiver.manifest.assets ++ [item.asset] } })

/-- The loop that sums the file sizes from `total` on, `none` where it finds the sum too large. -/
def sumFileSizes (total : UInt64) : List AssetDescription → Option UInt64
  | [] => some total
  | asset :: assets =>
      if kMaximumTotalDownloadSize - total < asset.fileSize then none
      else sumFileSizes (total + asset.fileSize) assets

def handleEnd (receiver : ManifestReceiver) (message : ManifestEnd) :
    ManifestInputResult × ManifestReceiver :=
  if receiver.state ≠ .receiving ∨ message.manifestRevision ≠ receiver.manifest.revision ∨
      message.assetCount ≠ receiver.expectedCount ∨
      message.assetCount.toNat ≠ receiver.manifest.assets.length ∨
      message.totalDownloadSize ≠ receiver.manifest.totalDownloadSize then
    (.invalidOrder, { receiver with state := .failed })
  else match sumFileSizes 0 receiver.manifest.assets with
    | none => (.invalidManifest, { receiver with state := .failed })
    | some total =>
        if total ≠ receiver.manifest.totalDownloadSize then
          (.invalidManifest, { receiver with state := .failed })
        else
          let receiver := { receiver with manifestBytes := receiver.manifestBytes + 20 }
          if UInt32.ofNat kMaximumManifestBytes < receiver.manifestBytes then
            (.invalidManifest, { receiver with state := .failed })
          else (.complete, { receiver with completed := some receiver.manifest, state := .complete })

def handle (receiver : ManifestReceiver) : Message → ManifestInputResult × ManifestReceiver
  | .manifestBegin message => receiver.handleBegin message
  | .manifestAsset item => receiver.handleAsset item
  | .manifestEnd message => receiver.handleEnd message
  | _ => (.ignored, receiver)

def reset (_ : ManifestReceiver) : ManifestReceiver := ⟨.idle, ⟨0, [], 0⟩, 0, 0, ∅, ∅, none⟩

/-! ## Sequences of messages -/

def afterMessages (receiver : ManifestReceiver) (messages : List Message) : ManifestReceiver :=
  messages.foldl (fun receiver message => (receiver.handle message).2) receiver

/-- What `Handle` returns along a sequence of messages. -/
def results : ManifestReceiver → List Message → List ManifestInputResult
  | _, [] => []
  | receiver, message :: messages =>
      (receiver.handle message).1 :: results (receiver.handle message).2 messages

end ManifestReceiver

end CustomModels.Client
