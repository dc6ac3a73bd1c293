import CustomModels.Server.Contents

/-!
# What a registry stands for
-/

namespace CustomModels.Server
open CustomModels.Shared

namespace AssetRegistry

variable {registry : AssetRegistry} {asset : AssetDescription}

/-! ## The stored assets -/

theorem mem_contents_iff_entry :
    asset ∈ registry.contents ↔ ∃ assetId, registry.assets.lookup assetId = some asset := by
  simp only [contents, List.mem_map, Sigma.exists, exists_eq_right]
  exact exists_congr fun assetId => AList.mem_lookup_iff.symm

theorem Sound.stored (h : registry.Sound) {assetId : UInt32}
    (hl : registry.assets.lookup assetId = some asset) :
    asset.assetId = assetId ∧ isAssetDescriptionValid asset = true :=
  ⟨(h.keyed _ (AList.mem_lookup_iff.mp hl)).symm,
    h.entries.valid asset (mem_contents_iff_entry.mpr ⟨assetId, hl⟩)⟩

theorem Sound.mem_contents (h : registry.Sound) :
    asset ∈ registry.contents ↔ registry.assets.lookup asset.assetId = some asset := by
  rw [mem_contents_iff_entry]
  constructor
  · intro ⟨assetId, hl⟩
    rwa [(h.stored hl).1]
  · exact fun hl => ⟨_, hl⟩

/-! ## The index of the names -/

/-- The index of the names is the inverse of the map of the assets. -/
def Indexed (registry : AssetRegistry) : Prop :=
  ∀ name assetId, registry.logicalNames.lookup name = some assetId ↔
    ∃ asset, registry.assets.lookup assetId = some asset ∧ asset.logicalName = name

theorem fresh_indexed : Indexed fresh := by
  intro name assetId
  simp [fresh]

theorem Indexed.advanceRevision (h : registry.Indexed) : registry.advanceRevision.Indexed := by
  unfold AssetRegistry.advanceRevision
  split <;> exact h

theorem Indexed.insert (h : registry.Indexed)
    (hname : (registry.logicalNames.lookup asset.logicalName).isSome = false)
    (hid : registry.assets.lookup asset.assetId = none) (name : ByteString) (assetId : UInt32) :
    (registry.logicalNames.insert asset.logicalName asset.assetId).lookup name = some assetId ↔
      ∃ other, (registry.assets.insert asset.assetId asset).lookup assetId = some other ∧
        other.logicalName = name := by
  by_cases hn : name = asset.logicalName
  · subst hn
    rw [Finmap.lookup_insert, Option.some.injEq]
    constructor
    · rintro rfl
      exact ⟨asset, AList.lookup_insert _, rfl⟩
    · intro ⟨other, hl, hname'⟩
      by_contra hne
      rw [AList.lookup_insert_ne (Ne.symm hne)] at hl
      rw [(h _ _).mpr ⟨other, hl, hname'⟩] at hname
      cases hname
  · rw [Finmap.lookup_insert_of_ne _ hn, h]
    by_cases ha : assetId = asset.assetId
    · subst ha
      simp only [AList.lookup_insert, hid, reduceCtorEq, false_and, exists_false, Option.some.injEq,
        exists_eq_left', false_iff]
      exact Ne.symm hn
    · rw [AList.lookup_insert_ne ha]

theorem Indexed.registerAsset (h : registry.Indexed) (asset : AssetDescription) :
    (registry.registerAsset asset).2.Indexed := by
  unfold AssetRegistry.registerAsset
  split_ifs with hvalid hid hname hcount hsize
  · exact h
  · exact h
  · exact h
  · exact h
  · exact h
  · apply Indexed.advanceRevision
    exact h.insert (by simpa using hname) (by simpa using hid)

theorem Indexed.removeAsset (h : registry.Indexed) (id : UInt32) : (registry.removeAsset id).2.Indexed := by
  unfold AssetRegistry.removeAsset
  cases hl : registry.assets.lookup id with
  | none => exact h
  | some found =>
      apply Indexed.advanceRevision
      have hfound := (h found.logicalName id).mpr ⟨found, hl, rfl⟩
      intro name assetId
      simp only
      by_cases ha : assetId = id
      · subst ha
        simp only [AList.lookup_erase, reduceCtorEq, false_and, exists_false, iff_false]
        intro hn
        by_cases he : name = found.logicalName
        · rw [he, Finmap.lookup_erase] at hn
          cases hn
        · rw [Finmap.lookup_erase_ne he, h, hl] at hn
          obtain ⟨_, ⟨⟩, hname⟩ := hn
          exact he hname.symm
      · rw [AList.lookup_erase_ne ha, ← h]
        by_cases he : name = found.logicalName
        · rw [he, Finmap.lookup_erase, hfound, Option.some.injEq]
          exact ⟨nofun, fun hn => absurd hn.symm ha⟩
        · rw [Finmap.lookup_erase_ne he]

theorem Indexed.clearAssets (h : registry.Indexed) : registry.clearAssets.2.Indexed := by
  unfold AssetRegistry.clearAssets
  split
  · exact h
  · exact Indexed.advanceRevision fresh_indexed

theorem Indexed.call (h : registry.Indexed) (c : Call) : (registry.call c).Indexed := by
  cases c with
  | registerAsset asset => exact h.registerAsset asset
  | removeAsset id => exact h.removeAsset id
  | clearAssets => exact h.clearAssets

theorem Sound.represented (h : registry.Sound) (hi : registry.Indexed) : registry.Represented where
  stored := fun _ _ hl => h.stored hl
  named := hi
  total := h.total.symm
  limit := h.limit
  count := h.count

/-! ## Which assets are added -/

theorem Sound.exceeds_iff (h : registry.Sound) {size : UInt64} :
    kMaximumTotalDownloadSize - registry.totalSize < size ↔
      512 * 1024 * 1024 < registry.totalSize.toNat + size.toNat := by
  have hlimit : kMaximumTotalDownloadSize.toNat = 512 * 1024 * 1024 := rfl
  have ht := h.limit
  rw [UInt64.lt_iff_toNat_lt, UInt64.toNat_sub_of_le _ _ (UInt64.le_iff_toNat_le.mpr (by omega)), hlimit]
  omega

theorem Indexed.isSome_iff (h : registry.Indexed) {name : ByteString} :
    (registry.logicalNames.lookup name).isSome = true ↔
      ∃ assetId other, registry.assets.lookup assetId = some other ∧ other.logicalName = name := by
  rw [Option.isSome_iff_exists]
  exact exists_congr fun assetId => h name assetId

theorem registerAsset_added_iff (hs : registry.Sound) (hi : registry.Indexed) (asset : AssetDescription) :
    (registry.registerAsset asset).1 = .added ↔ registry.Admits asset := by
  have hexceeds := @Sound.exceeds_iff _ hs asset.fileSize
  have hlength : registry.contents.length = registry.assets.entries.length := List.length_map _
  unfold AssetRegistry.registerAsset
  split_ifs with hvalid hid hname hcount hsize
  · simp only [false_iff]
    exact fun h => by simp [h.valid] at hvalid
  · simp only [false_iff]
    exact fun h => by simp [h.idUnused] at hid
  · simp only [false_iff]
    intro h
    obtain ⟨assetId, other, hl, heq⟩ := hi.isSome_iff.mp hname
    exact h.nameUnused assetId other hl heq
  · simp only [false_iff]
    intro h
    have hroom := h.room
    have hfull : 256 ≤ registry.assets.entries.length := hcount
    omega
  · simp only [false_iff]
    intro h
    exact absurd h.fits (Nat.not_le.mpr (hexceeds.mp hsize))
  · simp only [true_iff]
    have hroom : ¬ 256 ≤ registry.assets.entries.length := hcount
    exact ⟨by simpa using hvalid, by simpa using hid,
      fun assetId other hl heq => hname (hi.isSome_iff.mpr ⟨assetId, other, hl, heq⟩), by omega,
      Nat.not_lt.mp fun hlt => hsize (hexceeds.mpr hlt)⟩

theorem registerAsset_refused (h : (registry.registerAsset asset).1 ≠ .added) :
    (registry.registerAsset asset).2 = registry := by
  unfold AssetRegistry.registerAsset at h ⊢
  split_ifs at h ⊢ <;> first | rfl | exact absurd rfl h

theorem removeAsset_refused {assetId : UInt32} (h : (registry.removeAsset assetId).1 ≠ .removed) :
    (registry.removeAsset assetId).2 = registry := by
  unfold AssetRegistry.removeAsset at h ⊢
  split at h
  · rfl
  · exact absurd rfl h

/-! ## The manifest of a registry -/

theorem mem_buildManifest : asset ∈ registry.buildManifest.assets ↔ asset ∈ registry.contents :=
  List.mem_insertionSort _

instance : Std.Total idLe := ⟨fun left right => UInt32.le_total left.assetId right.assetId⟩

instance : IsTrans AssetDescription idLe := ⟨fun _ _ _ hab hbc => UInt32.le_trans hab hbc⟩

theorem Sound.ascending (h : registry.Sound) :
    registry.buildManifest.assets.Pairwise fun a b => a.assetId < b.assetId := by
  have hle : registry.buildManifest.assets.Pairwise idLe := List.pairwise_insertionSort _ _
  have hne : registry.buildManifest.assets.Pairwise fun a b => a.assetId ≠ b.assetId :=
    List.pairwise_map.mp h.buildManifest.entries.ids
  exact (hle.and hne).imp fun hab => UInt32.lt_of_le_of_ne hab.1 hab.2

theorem Sound.lists (h : registry.Sound) : registry.Lists registry.buildManifest where
  revision := rfl
  stored := fun _ => mem_buildManifest.trans h.mem_contents
  ascending := h.ascending
  total := rfl

end AssetRegistry

end CustomModels.Server
