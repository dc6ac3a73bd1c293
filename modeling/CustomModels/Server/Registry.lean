import Mathlib.Data.List.AList
import Mathlib.Data.List.Sort
import Mathlib.Data.Finmap
import CustomModels.Shared.Assets

/-!
# The asset registry

`asset_registry.hpp` and `asset_registry.cpp`. An `std::unordered_map` that is only searched is a finite
map; `assets_`, which `BuildManifest` walks, is an association list with distinct keys, in some order.
-/

namespace CustomModels.Server
open CustomModels.Shared

inductive RegistryResult where
  | added
  | removed
  | cleared
  | notFound
  | invalidAsset
  | duplicateAssetId
  | duplicateLogicalName
  | assetLimitReached
  | totalSizeExceeded
  deriving DecidableEq

structure AssetRegistry where
  revision : UInt64
  totalSize : UInt64
  assets : AList fun _ : UInt32 => AssetDescription
  logicalNames : Finmap fun _ : ByteString => UInt32

namespace AssetRegistry

/-- A registry as its constructor leaves it. -/
def fresh : AssetRegistry := ⟨1, 0, ∅, ∅⟩

def advanceRevision (registry : AssetRegistry) : AssetRegistry :=
  if registry.revision ≠ UInt64.ofNat (UInt64.size - 1) then
    { registry with revision := registry.revision + 1 }
  else registry

def registerAsset (registry : AssetRegistry) (asset : AssetDescription) :
    RegistryResult × AssetRegistry :=
  if !isAssetDescriptionValid asset then (.invalidAsset, registry)
  else if (registry.assets.lookup asset.assetId).isSome then (.duplicateAssetId, registry)
  else if (registry.logicalNames.lookup asset.logicalName).isSome then (.duplicateLogicalName, registry)
  else if kMaximumAssetsPerManifest ≤ registry.assets.entries.length then (.assetLimitReached, registry)
  else if kMaximumTotalDownloadSize - registry.totalSize < asset.fileSize then
    (.totalSizeExceeded, registry)
  else
    -- both keys are absent, so the two `emplace` calls insert
    (.added, advanceRevision
      { registry with
        totalSize := registry.totalSize + asset.fileSize
        logicalNames := registry.logicalNames.insert asset.logicalName asset.assetId
        assets := registry.assets.insert asset.assetId asset })

def removeAsset (registry : AssetRegistry) (assetId : UInt32) : RegistryResult × AssetRegistry :=
  match registry.assets.lookup assetId with
  | none => (.notFound, registry)
  | some found =>
      (.removed, advanceRevision
        { registry with
          totalSize := registry.totalSize - found.fileSize
          logicalNames := registry.logicalNames.erase found.logicalName
          assets := registry.assets.erase assetId })

def clearAssets (registry : AssetRegistry) : RegistryResult × AssetRegistry :=
  if registry.assets.entries.isEmpty then (.cleared, registry)
  else (.cleared, advanceRevision { registry with assets := ∅, logicalNames := ∅, totalSize := 0 })

/-- The comparison that `BuildManifest` sorts by. -/
def idLe (left right : AssetDescription) : Prop := left.assetId ≤ right.assetId

instance : DecidableRel idLe := fun left right =>
  inferInstanceAs (Decidable (left.assetId ≤ right.assetId))

def buildManifest (registry : AssetRegistry) : Manifest where
  revision := registry.revision
  totalDownloadSize := registry.totalSize
  assets := (registry.assets.entries.map Sigma.snd).insertionSort idLe

/-! ## Histories of a registry -/

inductive Call where
  | registerAsset (asset : AssetDescription)
  | removeAsset (assetId : UInt32)
  | clearAssets

def call (registry : AssetRegistry) : Call → AssetRegistry
  | .registerAsset asset => (registry.registerAsset asset).2
  | .removeAsset assetId => (registry.removeAsset assetId).2
  | .clearAssets => registry.clearAssets.2

end AssetRegistry

end CustomModels.Server
