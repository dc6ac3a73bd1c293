import CustomModels.Server.Lemmas.Loading

/-!
# Revisions

Every call that changes the assets advances the revision. A load starts a new count, which may fall behind.
-/

namespace CustomModels.Server
open CustomModels.Shared CustomModels.Lib

namespace AssetRegistry

variable {registry next other : AssetRegistry}

/-! ## Registries with the same assets -/

theorem SameAssets.refl (registry : AssetRegistry) : registry.SameAssets registry := fun _ => rfl

theorem SameAssets.trans (h : registry.SameAssets next) (hn : next.SameAssets other) :
    registry.SameAssets other := fun assetId => (h assetId).trans (hn assetId)

theorem Sound.sameAssets_iff (h : registry.Sound) (hn : next.Sound) :
    registry.SameAssets next ↔ ∀ asset, asset ∈ next.contents ↔ asset ∈ registry.contents := by
  constructor
  · intro hs asset
    rw [hn.mem_contents, h.mem_contents, hs]
  · intro hs assetId
    apply Option.ext
    intro asset
    constructor
    · intro hl
      have hid := (h.stored hl).1
      subst hid
      exact hn.mem_contents.mp ((hs asset).mpr (h.mem_contents.mpr hl))
    · intro hl
      have hid := (hn.stored hl).1
      subst hid
      exact h.mem_contents.mp ((hs asset).mp (hn.mem_contents.mpr hl))

/-- The manifest depends on the revision and on the assets, not on how they are stored. -/
theorem Sound.buildManifest_eq (h : registry.Sound) (hn : next.Sound)
    (hr : registry.revision = next.revision) (hs : registry.SameAssets next) :
    registry.buildManifest = next.buildManifest := by
  have hmem := (h.sameAssets_iff hn).mp hs
  have hperm : registry.contents.Perm next.contents :=
    (List.perm_ext_iff_of_nodup h.entries.ids.of_map hn.entries.ids.of_map).mpr fun asset => (hmem asset).symm
  have hassets : registry.buildManifest.assets = next.buildManifest.assets := by
    have hsorted := (List.perm_insertionSort idLe registry.contents).trans
      (hperm.trans (List.perm_insertionSort idLe next.contents).symm)
    refine hsorted.eq_of_pairwise (fun a b _ _ hab hba => ?_) h.ascending hn.ascending
    exact absurd hba (UInt32.not_lt.mpr (UInt32.le_of_lt hab))
  have htotal : registry.totalSize = next.totalSize := by
    rw [← UInt64.toNat_inj, ← h.total, ← hn.total]
    exact sizeSum_perm hperm
  have hmanifest : ∀ r : AssetRegistry, r.buildManifest = ⟨r.revision, r.buildManifest.assets, r.totalSize⟩ :=
    fun _ => rfl
  rw [hmanifest registry, hmanifest next, hr, hassets, htotal]

/-! ## Steps -/

theorem Advances.refl (registry : AssetRegistry) : registry.Advances registry :=
  ⟨UInt64.le_refl _, fun h => absurd (SameAssets.refl registry) h⟩

/-- A call that changes anything ends in `AdvanceRevision`. -/
theorem call_cases (registry : AssetRegistry) (c : Call) :
    registry.call c = registry ∨
      ∃ changed : AssetRegistry, registry.call c = changed.advanceRevision ∧
        changed.revision = registry.revision := by
  cases c with
  | registerAsset asset =>
      simp only [AssetRegistry.call, AssetRegistry.registerAsset]
      split_ifs
      · exact .inl rfl
      · exact .inl rfl
      · exact .inl rfl
      · exact .inl rfl
      · exact .inl rfl
      · exact .inr ⟨_, rfl, rfl⟩
  | removeAsset id =>
      simp only [AssetRegistry.call, AssetRegistry.removeAsset]
      split
      · exact .inl rfl
      · exact .inr ⟨_, rfl, rfl⟩
  | clearAssets =>
      simp only [AssetRegistry.call, AssetRegistry.clearAssets]
      split
      · exact .inl rfl
      · exact .inr ⟨_, rfl, rfl⟩

theorem call_advances (h : registry.revision ≠ UInt64.ofNat (UInt64.size - 1)) (c : Call) :
    registry.Advances (registry.call c) := by
  obtain heq | ⟨changed, heq, hrevision⟩ := call_cases registry c
  · rw [heq]
    exact .refl registry
  · have hlt : registry.revision < (registry.call c).revision := by
      have hmax : registry.revision.toNat ≠ UInt64.size - 1 := fun he => h (by rw [← he, UInt64.ofNat_toNat])
      have hbound := registry.revision.toNat_lt
      have hsize : UInt64.size = 2 ^ 64 := rfl
      rw [heq, UInt64.lt_iff_toNat_lt, toNat_advanceRevision (by rw [hrevision]; omega), hrevision]
      exact Nat.lt_succ_self _
    exact ⟨UInt64.le_of_lt hlt, fun _ => hlt⟩

/-- What every history with loads keeps. -/
structure Kept (registry : AssetRegistry) : Prop where
  sound : registry.Sound
  indexed : registry.Indexed

theorem fresh_kept : Kept fresh := ⟨fresh_sound, fresh_indexed⟩

theorem Kept.operated (h : registry.Kept) (operation : Operation) : (registry.operate operation).Kept := by
  cases operation with
  | call c => exact ⟨h.sound.call c, h.indexed.call c⟩
  | loadManifestConfig file =>
      rcases loadManifestConfig_cases file registry with ⟨heq, -⟩ | ⟨assets, -, -, hgrown, -⟩
      · rw [AssetRegistry.operate, heq]
        exact h
      · exact ⟨hgrown.sound, hgrown.indexed⟩

/-- An operation advances the revision exactly if it respects it. -/
theorem Kept.advances_iff (h : registry.Kept) (hr : registry.revision ≠ UInt64.ofNat (UInt64.size - 1))
    (operation : Operation) :
    registry.Advances (registry.operate operation) ↔ operation.Respects registry := by
  cases operation with
  | call c => exact iff_of_true (call_advances hr c) trivial
  | loadManifestConfig file =>
      rcases loadManifestConfig_cases file registry with ⟨heq, -, hnot⟩ | ⟨assets, hd, hp, hgrown, hcontents, -⟩
      · rw [AssetRegistry.operate, heq]
        exact iff_of_true (.refl registry) fun assets hd hp => absurd hp (hnot assets hd)
      · have hrevision := hgrown.revision
        have hsame := h.sound.sameAssets_iff hgrown.sound
        rw [hcontents, List.length_reverse] at hrevision
        simp only [hcontents, List.mem_reverse] at hsame
        have hlt : registry.revision < (loadManifestConfig file registry).2.revision ↔
            registry.revision.toNat ≤ assets.length := by
          rw [UInt64.lt_iff_toNat_lt, hrevision, Nat.lt_succ_iff]
        constructor
        · intro ha others ho _
          cases hd.symm.trans ho
          by_cases hs : registry.SameAssets (loadManifestConfig file registry).2
          · have hmono := UInt64.le_iff_toNat_le.mp ha.mono
            rw [AssetRegistry.operate, hrevision] at hmono
            rcases Nat.lt_or_eq_of_le hmono with hless | heq
            · exact .inl (Nat.lt_succ_iff.mp hless)
            · exact .inr ⟨heq, hsame.mp hs⟩
          · exact .inl (hlt.mp (ha.changed hs))
        · intro hrespects
          rcases hrespects assets hd hp with hless | ⟨heq, hmem⟩
          · exact ⟨UInt64.le_of_lt (hlt.mpr hless), fun _ => hlt.mpr hless⟩
          · refine ⟨UInt64.le_iff_toNat_le.mpr ?_, fun hs => absurd (hsame.mpr hmem) hs⟩
            rw [AssetRegistry.operate, heq, hrevision]

/-! ## Histories -/

theorem along_congr (h : registry.Kept) {operations : List Operation}
    (hr : Along operate (fun registry _ => registry.revision ≠ UInt64.ofNat (UInt64.size - 1)) registry
      operations) :
    Along operate (fun registry operation => registry.Advances (registry.operate operation)) registry
        operations ↔
      Along operate (fun registry operation => operation.Respects registry) registry operations := by
  induction operations generalizing registry with
  | nil => exact Iff.rfl
  | cons operation operations ih => exact and_congr (h.advances_iff hr.1 operation) (ih (h.operated operation) hr.2)

/-- Where the revision has not moved, the assets have not changed. -/
theorem same_of_advances {operations : List Operation}
    (h : Along operate (fun registry operation => registry.Advances (registry.operate operation)) registry
      operations) :
    registry.revision ≤ (run operate registry operations).revision ∧
      (registry.revision = (run operate registry operations).revision →
        registry.SameAssets (run operate registry operations)) := by
  induction operations generalizing registry with
  | nil => exact ⟨UInt64.le_refl _, fun _ => .refl registry⟩
  | cons operation operations ih =>
      obtain ⟨hfirst, hrest⟩ := h
      obtain ⟨hle, hsame⟩ := ih hrest
      refine ⟨UInt64.le_trans hfirst.mono hle, fun heq => ?_⟩
      rw [run_cons] at heq
      have hstay : registry.revision = (registry.operate operation).revision :=
        UInt64.le_antisymm hfirst.mono (heq ▸ hle)
      have hold : registry.SameAssets (registry.operate operation) := by
        by_contra hc
        have hlt := hfirst.changed hc
        rw [← hstay] at hlt
        exact UInt64.lt_irrefl _ hlt
      exact hold.trans (hsame (hstay.symm.trans heq))

theorem Kept.identified (h : registry.Kept) {xs ys : List Operation} (hp : xs <+: ys)
    (ha : Along operate (fun registry operation => registry.Advances (registry.operate operation)) registry ys)
    (hr : (run operate registry xs).revision = (run operate registry ys).revision) :
    (run operate registry xs).buildManifest = (run operate registry ys).buildManifest := by
  obtain ⟨zs, rfl⟩ := hp
  have hkept : ∀ operations, (run operate registry operations).Kept :=
    run_invariant (fun _ operation hk => hk.operated operation) h
  have hsame := (same_of_advances (Along.append.mp ha).2).2
  rw [← run_append] at hsame
  exact (hkept xs).sound.buildManifest_eq (hkept _).sound hr (hsame hr)

end AssetRegistry

/-! ## Files with the same lines -/

open AssetRegistry in
/-- If a file is loaded, so is every other with the same lines, and the manifest is the same. -/
theorem ConfigFile.Rearranges.loaded {file other : ConfigFile} (h : file.Rearranges other) {registry : AssetRegistry}
    (hl : (loadManifestConfig file registry).1.error = "") (prior : AssetRegistry) :
    (loadManifestConfig other prior).1.error = "" ∧
      (loadManifestConfig other prior).2.buildManifest = (loadManifestConfig file registry).2.buildManifest := by
  obtain ⟨-, hne, -⟩ | ⟨assets, hd, hp, hgrown, hcontents, -⟩ := loadManifestConfig_cases file registry
  · exact absurd hl hne
  · obtain ⟨assets', hd', hperm⟩ := h.described hd
    obtain ⟨-, -, hnot⟩ | ⟨others, ho, -, hgrown', hcontents', hresult'⟩ := loadManifestConfig_cases other prior
    · exact absurd (hp.perm hperm.symm) (hnot _ hd')
    · cases hd'.symm.trans ho
      refine ⟨by rw [hresult'], hgrown'.sound.buildManifest_eq hgrown.sound ?_ ?_⟩
      · rw [← UInt64.toNat_inj, hgrown.revision, hgrown'.revision, hcontents, hcontents', List.length_reverse,
          List.length_reverse, hperm.length_eq]
      · rw [hgrown'.sound.sameAssets_iff hgrown.sound]
        intro asset
        rw [hcontents, hcontents', List.mem_reverse, List.mem_reverse, hperm.mem_iff]

end CustomModels.Server
