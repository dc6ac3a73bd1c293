import CustomModels.Shared.Protocol

/-!
# Manifests and their streams

What a manifest is and how the protocol transfers it, apart from the server that publishes it and the client
that receives it.
-/

namespace CustomModels.Shared

/-- Valid descriptions with distinct ids and distinct names. -/
structure EntriesValid (assets : List AssetDescription) : Prop where
  valid : ∀ asset ∈ assets, isAssetDescriptionValid asset = true
  ids : (assets.map AssetDescription.assetId).Nodup
  names : (assets.map AssetDescription.logicalName).Nodup

/-- The announced sizes, as a number that cannot overflow. -/
def sizeSum (assets : List AssetDescription) : Nat :=
  (assets.map fun asset => asset.fileSize.toNat).sum

namespace Manifest

/-- The limits of a manifest boundary, valid entries, and a total that is the sum of their sizes. -/
structure WellFormed (manifest : Manifest) : Prop where
  revision : manifest.revision ≠ 0
  count : manifest.assets.length ≤ 256
  total : manifest.totalDownloadSize.toNat ≤ 512 * 1024 * 1024
  entries : EntriesValid manifest.assets
  sum : sizeSum manifest.assets = manifest.totalDownloadSize.toNat

def beginMessage (manifest : Manifest) : Message :=
  .manifestBegin ⟨manifest.revision, UInt32.ofNat manifest.assets.length, manifest.totalDownloadSize⟩

/-- The entries from `index` on. -/
def entryMessages (revision : UInt64) : (index : Nat) → List AssetDescription → List Message
  | _, [] => []
  | index, asset :: assets =>
      .manifestAsset ⟨revision, UInt32.ofNat index, asset⟩ :: entryMessages revision (index + 1) assets

def endMessage (manifest : Manifest) : Message :=
  .manifestEnd ⟨manifest.revision, UInt32.ofNat manifest.assets.length, manifest.totalDownloadSize⟩

/-- The messages that transfer a manifest. -/
def stream (manifest : Manifest) : List Message :=
  manifest.beginMessage :: entryMessages manifest.revision 0 manifest.assets ++ [manifest.endMessage]

end Manifest

/-- The messages that a manifest stream is made of. -/
def isManifestMessage : Message → Bool
  | .manifestBegin _ => true
  | .manifestAsset _ => true
  | .manifestEnd _ => true
  | _ => false

/-! ## Streams -/

theorem Manifest.entryMessages_append (revision : UInt64) (index : Nat) (xs ys : List AssetDescription) :
    entryMessages revision index (xs ++ ys) =
      entryMessages revision index xs ++ entryMessages revision (index + xs.length) ys := by
  induction xs generalizing index with
  | nil => rfl
  | cons x xs ih =>
      simp only [List.cons_append, entryMessages, ih, List.length_cons, Nat.add_right_comm, Nat.add_assoc]

theorem Manifest.entryMessages_length (revision : UInt64) (index : Nat) (assets : List AssetDescription) :
    (entryMessages revision index assets).length = assets.length := by
  induction assets generalizing index with
  | nil => rfl
  | cons asset assets ih => rw [entryMessages, List.length_cons, List.length_cons, ih]

theorem Manifest.stream_length (manifest : Manifest) :
    manifest.stream.length = manifest.assets.length + 2 := by
  rw [stream, List.length_append, List.length_cons, entryMessages_length]
  rfl

theorem EntriesValid.of_append {xs ys : List AssetDescription} (h : EntriesValid (xs ++ ys)) :
    EntriesValid xs := by
  refine ⟨fun asset ha => h.valid asset (List.mem_append_left _ ha), ?_, ?_⟩
  · exact h.ids.sublist ((List.sublist_append_left xs ys).map _)
  · exact h.names.sublist ((List.sublist_append_left xs ys).map _)

theorem EntriesValid.perm {xs ys : List AssetDescription} (h : EntriesValid xs) (hp : xs.Perm ys) :
    EntriesValid ys :=
  ⟨fun asset ha => h.valid asset (hp.mem_iff.mpr ha), (hp.map _).nodup_iff.mp h.ids,
    (hp.map _).nodup_iff.mp h.names⟩

theorem entriesValid_nil : EntriesValid [] := ⟨nofun, List.nodup_nil, List.nodup_nil⟩

theorem entriesValid_cons {asset : AssetDescription} {assets : List AssetDescription} :
    EntriesValid (asset :: assets) ↔ isAssetDescriptionValid asset = true ∧
      asset.assetId ∉ assets.map AssetDescription.assetId ∧
      asset.logicalName ∉ assets.map AssetDescription.logicalName ∧ EntriesValid assets := by
  constructor
  · intro ⟨hvalid, hids, hnames⟩
    rw [List.map_cons, List.nodup_cons] at hids hnames
    exact ⟨hvalid asset List.mem_cons_self, hids.1, hnames.1,
      fun a ha => hvalid a (List.mem_cons_of_mem _ ha), hids.2, hnames.2⟩
  · intro ⟨hvalid, hid, hname, h⟩
    refine ⟨?_, ?_, ?_⟩
    · intro a ha
      rcases List.mem_cons.mp ha with rfl | ha
      · exact hvalid
      · exact h.valid a ha
    · exact List.nodup_cons.mpr ⟨hid, h.ids⟩
    · exact List.nodup_cons.mpr ⟨hname, h.names⟩

theorem sizeSum_cons (asset : AssetDescription) (assets : List AssetDescription) :
    sizeSum (asset :: assets) = asset.fileSize.toNat + sizeSum assets := by
  simp [sizeSum]

theorem sizeSum_perm {xs ys : List AssetDescription} (h : xs.Perm ys) : sizeSum xs = sizeSum ys :=
  (h.map _).sum_nat

end CustomModels.Shared
