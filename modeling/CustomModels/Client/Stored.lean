import CustomModels.Client.Manager

/-!
# Ready assets in the cache

What a Ready asset stands for, and the events that respect it.
-/

namespace CustomModels.Client
open CustomModels.Shared

/-- The item that the worker has in hand. -/
def Worker.work? : Worker → Option WorkItem
  | .stopped => none
  | .waiting => none
  | .checking work => some work
  | .lookingUp work => some work
  | .cacheHit work => some work
  | .downloading work => some work
  | .fetching work => some work
  | .verifying work => some work
  | .hashing work => some work
  | .verified work => some work
  | .committing work => some work
  | .moving work => some work
  | .ready work => some work
  | .failing work _ => some work

namespace ClientAssetManager

/-- `asset` is an entry of the session's manifest, and its state is Ready. -/
def IsReady (manager : ClientAssetManager) (asset : AssetDescription) : Prop :=
  ∃ manifest, manager.receiver.completed = some manifest ∧ asset ∈ manifest.assets ∧
    manager.getState asset.assetId = .ready

instance (manager : ClientAssetManager) (p : AssetDescription → Prop) [DecidablePred p] :
    Decidable (∀ asset, manager.IsReady asset → p asset) :=
  decidable_of_iff (∀ manifest ∈ manager.receiver.completed, ∀ asset ∈ manifest.assets,
      manager.getState asset.assetId = .ready → p asset)
    ⟨fun h asset ⟨manifest, hm, ha, hs⟩ => h manifest hm asset ha hs,
      fun h manifest hm asset ha hs => h asset ⟨manifest, hm, ha, hs⟩⟩

/-- Every Ready asset of the session's manifest stands in the cache. -/
def ReadyStored (manager : ClientAssetManager) : Prop :=
  ∀ asset, manager.IsReady asset →
    AssetCache.Holds manager.files (AssetCache.pathFor manager.root asset) asset

instance (manager : ClientAssetManager) : Decidable manager.ReadyStored :=
  inferInstanceAs (Decidable (∀ asset, manager.IsReady asset →
    AssetCache.Holds manager.files (AssetCache.pathFor manager.root asset) asset))

/-- What the lookup of `work` would find at the path of `asset` is not removed: the lookup fails before or
at the removal, or it can read the file and both assets announce one size. -/
def LookupSpares (manager : ClientAssetManager) (work : WorkItem) (errors : LookupErrors)
    (asset : AssetDescription) : Prop :=
  AssetCache.pathFor manager.root asset = AssetCache.pathFor manager.root work.asset →
    errors.status = true ∨ errors.remove = true ∨
      asset.fileSize = work.asset.fileSize ∧ errors.regularFile = false ∧ errors.fileSize = false ∧
        errors.read = false

instance (manager : ClientAssetManager) (work : WorkItem) (errors : LookupErrors) :
    DecidablePred (manager.LookupSpares work errors) := fun asset =>
  inferInstanceAs (Decidable (AssetCache.pathFor manager.root asset = _ → _))

/-- A lookup removes nothing that a Ready asset stands for, and the generation counter does not come round
to the item that the worker has in hand. -/
def Spares (manager : ClientAssetManager) : Event → Prop
  | .worker around => ∀ work, manager.worker = .lookingUp work →
      ∀ asset, manager.IsReady asset → manager.LookupSpares work around.lookup asset
  | .resetSession => ∀ work, manager.worker.work? = some work →
      work.generation ≠ nextGeneration manager.generation
  | _ => True

instance (manager : ClientAssetManager) : DecidablePred manager.Spares
  | .initializeManager _ => .isTrue trivial
  | .message _ => .isTrue trivial
  | .drainEvents => .isTrue trivial
  | .requestStop => .isTrue trivial
  | .joined => .isTrue trivial
  | .resetSession =>
      decidable_of_iff (∀ work ∈ manager.worker.work?, work.generation ≠ nextGeneration manager.generation)
        Iff.rfl
  | .worker around =>
      decidable_of_iff (∀ work ∈ manager.worker.work?, manager.worker = .lookingUp work →
          ∀ asset, manager.IsReady asset → manager.LookupSpares work around.lookup asset)
        ⟨fun h work hw => h work (by rw [hw]; rfl) hw, fun h work _ hw => h work hw⟩

end ClientAssetManager

end CustomModels.Client
