import CustomModels.Lib.Run
import CustomModels.Shared.ManifestStream
import CustomModels.Server.Registry

/-!
# The asset registry
-/

namespace CustomModels.Server
open CustomModels.Shared

namespace AssetRegistry

variable {registry : AssetRegistry}

/-- The registered assets, in the order of the map. -/
def contents (registry : AssetRegistry) : List AssetDescription := registry.assets.entries.map Sigma.snd

/-- What every history of a registry keeps. -/
structure Sound (registry : AssetRegistry) : Prop where
  keyed : ∀ entry ∈ registry.assets.entries, entry.1 = entry.2.assetId
  named : ∀ name, (registry.logicalNames.lookup name).isSome = true ↔
    name ∈ registry.contents.map AssetDescription.logicalName
  entries : EntriesValid registry.contents
  count : registry.contents.length ≤ 256
  total : sizeSum registry.contents = registry.totalSize.toNat
  limit : registry.totalSize.toNat ≤ 512 * 1024 * 1024
  revision : registry.revision ≠ 0

theorem fresh_sound : Sound fresh where
  keyed := nofun
  named := by simp [fresh, contents]
  entries := ⟨nofun, List.nodup_nil, List.nodup_nil⟩
  count := Nat.zero_le _
  total := rfl
  limit := by decide
  revision := by decide

theorem Sound.keys (h : registry.Sound) :
    registry.assets.keys = registry.contents.map AssetDescription.assetId := by
  rw [contents, List.map_map, AList.keys, List.keys]
  exact List.map_congr_left fun entry he => h.keyed entry he

theorem Sound.advanceRevision (h : registry.Sound) : registry.advanceRevision.Sound := by
  unfold AssetRegistry.advanceRevision
  split
  · rename_i hmax
    refine { h with revision := fun hz => hmax ?_ }
    have hz' : registry.revision + 1 = 0 := hz
    have hzero : (0 : UInt64).toNat = 0 := rfl
    have hone : (1 : UInt64).toNat = 1 := rfl
    have hlt := registry.revision.toNat_lt
    rw [← UInt64.toNat_inj, UInt64.toNat_add, hzero, hone] at hz'
    rw [← UInt64.toNat_inj, UInt64.toNat_ofNat', UInt64.size]
    omega
  · exact h

/-! ## Registration -/

theorem Sound.not_mem_ids (h : registry.Sound) {id : UInt32} (hn : registry.assets.lookup id = none) :
    id ∉ registry.contents.map AssetDescription.assetId := by
  rwa [← h.keys, ← AList.mem_keys, ← AList.lookup_eq_none]

/-- The room that `RegisterAsset` computes is exact. -/
theorem Sound.fits (h : registry.Sound) {size : UInt64}
    (hs : ¬ kMaximumTotalDownloadSize - registry.totalSize < size) :
    (registry.totalSize + size).toNat = registry.totalSize.toNat + size.toNat ∧
      registry.totalSize.toNat + size.toNat ≤ 512 * 1024 * 1024 := by
  have hlimit : kMaximumTotalDownloadSize.toNat = 512 * 1024 * 1024 := rfl
  have ht := h.limit
  rw [UInt64.lt_iff_toNat_lt, UInt64.toNat_sub_of_le _ _ (UInt64.le_iff_toNat_le.mpr (by omega)), hlimit] at hs
  have hsum : registry.totalSize.toNat + size.toNat ≤ 512 * 1024 * 1024 := by omega
  refine ⟨?_, hsum⟩
  rw [UInt64.toNat_add]
  exact Nat.mod_eq_of_lt (by omega)

theorem Sound.registerAsset (h : registry.Sound) (asset : AssetDescription) :
    (registry.registerAsset asset).2.Sound := by
  unfold AssetRegistry.registerAsset
  split_ifs with hvalid hid hname hcount hsize
  · exact h
  · exact h
  · exact h
  · exact h
  · exact h
  · have hlookup : registry.assets.lookup asset.assetId = none := by simpa using hid
    have hids := h.not_mem_ids hlookup
    have hnames : asset.logicalName ∉ registry.contents.map AssetDescription.logicalName := by
      rwa [← h.named]
    obtain ⟨hadd, hlimit⟩ := h.fits hsize
    have hentries : (registry.assets.insert asset.assetId asset).entries =
        ⟨asset.assetId, asset⟩ :: registry.assets.entries :=
      AList.entries_insert_of_notMem (AList.lookup_eq_none.mp hlookup)
    apply Sound.advanceRevision
    constructor
    · simp only [hentries, List.mem_cons]
      rintro entry (rfl | he)
      · rfl
      · exact h.keyed entry he
    · intro name
      simp only [contents, hentries, List.map_cons, List.mem_cons]
      by_cases hn : name = asset.logicalName
      · subst hn
        simp
      · rw [Finmap.lookup_insert_of_ne _ hn]
        simp only [hn, false_or]
        exact h.named name
    · simp only [contents, hentries, List.map_cons]
      exact entriesValid_cons.mpr ⟨by simpa using hvalid, hids, hnames, h.entries⟩
    · have hlength : ¬ 256 ≤ registry.assets.entries.length := hcount
      simp only [contents, hentries, List.map_cons, List.length_cons, List.length_map]
      omega
    · simp only [contents, hentries, List.map_cons, sizeSum_cons, hadd]
      rw [← h.total, Nat.add_comm]
      rfl
    · exact hadd ▸ hlimit
    · exact h.revision

/-! ## Removal -/

/-- What an id is removed from: the other entries, whatever their order. -/
theorem contents_erase_perm {id : UInt32} {found : AssetDescription}
    (hl : registry.assets.lookup id = some found) :
    registry.contents.Perm (found :: (registry.assets.erase id).entries.map Sigma.snd) := by
  have hmem : id ∈ registry.assets.entries.keys := by
    rw [← AList.keys, ← AList.mem_keys, ← AList.lookup_isSome, hl]
    rfl
  obtain ⟨asset, front, back, -, hentries, herase⟩ := List.exists_of_kerase hmem
  have hfound : asset = found := by
    have hm : (⟨id, asset⟩ : Sigma fun _ : UInt32 => AssetDescription) ∈ registry.assets.entries := by
      rw [hentries]
      exact List.mem_append_right _ List.mem_cons_self
    have hs := AList.mem_lookup_iff.mpr hm
    rw [hl] at hs
    exact (Option.some.inj hs).symm
  have herased : (registry.assets.erase id).entries = front ++ back := herase
  rw [contents, herased, hentries, hfound]
  exact (List.perm_middle (a := (⟨id, found⟩ : Sigma fun _ : UInt32 => AssetDescription))).map Sigma.snd

theorem Sound.removeAsset (h : registry.Sound) (id : UInt32) : (registry.removeAsset id).2.Sound := by
  unfold AssetRegistry.removeAsset
  cases hl : registry.assets.lookup id with
  | none => exact h
  | some found =>
      have hp := contents_erase_perm hl
      obtain ⟨-, -, hname, hentries⟩ := entriesValid_cons.mp (h.entries.perm hp)
      have hsum := sizeSum_perm hp
      rw [sizeSum_cons, h.total] at hsum
      have htotal : (registry.totalSize - found.fileSize).toNat =
          registry.totalSize.toNat - found.fileSize.toNat :=
        UInt64.toNat_sub_of_le _ _ (UInt64.le_iff_toNat_le.mpr (by omega))
      have hcount := hp.length_eq
      apply Sound.advanceRevision
      constructor
      · intro entry he
        exact h.keyed entry ((List.kerase_sublist id _).subset he)
      · intro name
        by_cases hn : name = found.logicalName
        · subst hn
          simp only [Finmap.lookup_erase, Option.isSome_none, Bool.false_eq_true, false_iff]
          exact hname
        · rw [Finmap.lookup_erase_ne hn, h.named, (hp.map _).mem_iff, List.map_cons, List.mem_cons]
          simp only [hn, false_or]
          rfl
      · exact hentries
      · have hc := h.count
        simp only [contents, List.length_cons] at hcount hc ⊢
        omega
      · rw [htotal, hsum, Nat.add_sub_cancel_left]
        rfl
      · have hlimit := h.limit
        simp only [htotal]
        omega
      · exact h.revision

theorem Sound.clearAssets (h : registry.Sound) : registry.clearAssets.2.Sound := by
  unfold AssetRegistry.clearAssets
  split
  · exact h
  · apply Sound.advanceRevision
    exact { fresh_sound with revision := h.revision }

/-! ## Histories -/

theorem Sound.call (h : registry.Sound) (c : Call) : (registry.call c).Sound := by
  cases c with
  | registerAsset asset => exact h.registerAsset asset
  | removeAsset id => exact h.removeAsset id
  | clearAssets => exact h.clearAssets

theorem run_sound (calls : List Call) : (Lib.run call fresh calls).Sound :=
  Lib.run_invariant (fun _ c h => h.call c) fresh_sound calls

/-- Every manifest that a history can lead to is well formed. -/
theorem Sound.buildManifest (h : registry.Sound) : registry.buildManifest.WellFormed := by
  have hp : (registry.contents.insertionSort idLe).Perm registry.contents := List.perm_insertionSort _ _
  constructor
  · exact h.revision
  · exact hp.length_eq ▸ h.count
  · exact h.limit
  · exact h.entries.perm hp.symm
  · exact (sizeSum_perm hp).trans h.total

end AssetRegistry

end CustomModels.Server
