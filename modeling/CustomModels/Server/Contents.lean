import CustomModels.Lib.Run
import CustomModels.Shared.ManifestStream
import CustomModels.Server.Lemmas.Registry
import CustomModels.Server.ManifestConfig

/-!
# What a registry stands for

A registry as a set of assets: how its two maps and its total describe them, which assets it takes, and what
the revision tells of them.
-/

namespace CustomModels.Server
open CustomModels.Shared

namespace AssetRegistry

/-- Both maps and the total describe the same assets, each stored under its own id. -/
structure Represented (registry : AssetRegistry) : Prop where
  stored : ∀ assetId asset, registry.assets.lookup assetId = some asset →
    asset.assetId = assetId ∧ isAssetDescriptionValid asset = true
  named : ∀ name assetId, registry.logicalNames.lookup name = some assetId ↔
    ∃ asset, registry.assets.lookup assetId = some asset ∧ asset.logicalName = name
  total : registry.totalSize.toNat = sizeSum registry.contents
  limit : registry.totalSize.toNat ≤ 512 * 1024 * 1024
  count : registry.contents.length ≤ 256

/-- The manifest has the stored assets, each once, in strictly ascending order, and their total. -/
structure Lists (registry : AssetRegistry) (manifest : Manifest) : Prop where
  revision : manifest.revision = registry.revision
  stored : ∀ asset, asset ∈ manifest.assets ↔ registry.assets.lookup asset.assetId = some asset
  ascending : manifest.assets.Pairwise fun a b => a.assetId < b.assetId
  total : manifest.totalDownloadSize = registry.totalSize

/-- The assets that a registry has room for. -/
structure Admits (registry : AssetRegistry) (asset : AssetDescription) : Prop where
  valid : isAssetDescriptionValid asset = true
  idUnused : registry.assets.lookup asset.assetId = none
  nameUnused : ∀ assetId other, registry.assets.lookup assetId = some other →
    other.logicalName ≠ asset.logicalName
  room : registry.contents.length < 256
  fits : registry.totalSize.toNat + asset.fileSize.toNat ≤ 512 * 1024 * 1024

/-! ## Revisions -/

/-- `Find` agrees on every id. -/
def SameAssets (registry other : AssetRegistry) : Prop :=
  ∀ assetId, registry.assets.lookup assetId = other.assets.lookup assetId

/-- The revision does not decrease, and it increases if the assets change. -/
structure Advances (registry next : AssetRegistry) : Prop where
  mono : registry.revision ≤ next.revision
  changed : ¬ registry.SameAssets next → registry.revision < next.revision

/-- Along the operations the revision advances, and it tells which manifest there is. -/
structure Identifies (registry : AssetRegistry) (operations : List Operation) : Prop where
  advances : Lib.Along operate (fun registry operation => registry.Advances (registry.operate operation))
    registry operations
  identified : ∀ xs ys, xs <+: operations → ys <+: operations →
    (Lib.run operate registry xs).revision = (Lib.run operate registry ys).revision →
      (Lib.run operate registry xs).buildManifest = (Lib.run operate registry ys).buildManifest

end AssetRegistry

/-! ## Files -/

/-- What the lines describe, in order: `none` unless every line that is not skipped describes an asset. -/
def describedBy (lines : List ByteString) : Option (List AssetDescription) :=
  ((lines.map trim).filter (!isSkipped ·)).mapM fun line => (parseLine line).toOption

/-- What the lines of a file describe, if it is read to its end. -/
def ConfigFile.described : ConfigFile → Option (List AssetDescription)
  | unopened => none
  | opened bytes failure => if failure then none else describedBy (getLines bytes failure)

/-- The lines of a file that are not skipped, trimmed. -/
def ConfigFile.significant : ConfigFile → List ByteString
  | unopened => []
  | opened bytes failure => ((getLines bytes failure).map trim).filter (!isSkipped ·)

/-- The other file delivers the same lines, in any order, and then ends alike. -/
def ConfigFile.Rearranges : ConfigFile → ConfigFile → Prop
  | unopened, unopened => True
  | opened bytes failure, opened other failed =>
      failed = failure ∧ (getLines other failed).Perm (getLines bytes failure)
  | _, _ => False

/-- Assets that one manifest can have. -/
structure Publishable (assets : List AssetDescription) : Prop where
  entries : EntriesValid assets
  count : assets.length ≤ 256
  total : sizeSum assets ≤ 512 * 1024 * 1024

/-- A file that can be loaded has as many assets as the revision counts, or one less and they are those that
the registry already has. -/
def AssetRegistry.Operation.Respects (registry : AssetRegistry) : Operation → Prop
  | call _ => True
  | loadManifestConfig file => ∀ assets, file.described = some assets → Publishable assets →
      registry.revision.toNat ≤ assets.length ∨
        registry.revision.toNat = assets.length + 1 ∧ ∀ asset, asset ∈ assets ↔ asset ∈ registry.contents

end CustomModels.Server
