import CustomModels.Lib.Search
import CustomModels.Server.Lemmas.Contents

/-!
# Loaded registries

A file is loaded exactly if its lines describe assets that one manifest can have. The registry then has these
assets, and its revision counts them.
-/

namespace CustomModels.Server
open CustomModels.Shared CustomModels.Lib

theorem Publishable.of_append {xs ys : List AssetDescription} (h : Publishable (xs ++ ys)) : Publishable ys := by
  refine ⟨(h.entries.perm List.perm_append_comm).of_append, ?_, ?_⟩
  · have hcount := h.count
    rw [List.length_append] at hcount
    omega
  · have htotal := h.total
    rw [sizeSum, List.map_append, List.sum_append] at htotal
    exact le_trans (Nat.le_add_left _ _) htotal

theorem Publishable.perm {xs ys : List AssetDescription} (h : Publishable xs) (hp : xs.Perm ys) : Publishable ys :=
  ⟨h.entries.perm hp, hp.length_eq ▸ h.count, sizeSum_perm hp ▸ h.total⟩

namespace AssetRegistry

variable {registry next : AssetRegistry} {asset : AssetDescription} {assets : List AssetDescription}

/-! ## One asset after the other -/

theorem Sound.admits_iff (h : registry.Sound) :
    registry.Admits asset ↔ Publishable (asset :: registry.contents) := by
  have hids : registry.assets.lookup asset.assetId = none ↔
      asset.assetId ∉ registry.contents.map AssetDescription.assetId := by
    rw [AList.lookup_eq_none, AList.mem_keys, h.keys]
  have hnames : (∀ assetId other, registry.assets.lookup assetId = some other →
      other.logicalName ≠ asset.logicalName) ↔
        asset.logicalName ∉ registry.contents.map AssetDescription.logicalName := by
    simp only [List.mem_map, not_exists, not_and, mem_contents_iff_entry]
    exact ⟨fun hn other ⟨assetId, hl⟩ => hn assetId other hl, fun hn assetId other hl => hn other ⟨assetId, hl⟩⟩
  constructor
  · intro ha
    refine ⟨entriesValid_cons.mpr ⟨ha.valid, hids.mp ha.idUnused, hnames.mp ha.nameUnused, h.entries⟩,
      ha.room, ?_⟩
    rw [sizeSum_cons, h.total, Nat.add_comm]
    exact ha.fits
  · intro hp
    obtain ⟨hvalid, hid, hname, -⟩ := entriesValid_cons.mp hp.entries
    have htotal := hp.total
    rw [sizeSum_cons, h.total, Nat.add_comm] at htotal
    exact ⟨hvalid, hids.mpr hid, hnames.mpr hname, hp.count, htotal⟩

/-- A registry to which assets have been added only. -/
structure Grown (registry : AssetRegistry) : Prop where
  sound : registry.Sound
  indexed : registry.Indexed
  revision : registry.revision.toNat = registry.contents.length + 1

theorem fresh_grown : Grown fresh := ⟨fresh_sound, fresh_indexed, rfl⟩

theorem toNat_advanceRevision (h : registry.revision.toNat < UInt64.size - 1) :
    registry.advanceRevision.revision.toNat = registry.revision.toNat + 1 := by
  have hmax : registry.revision ≠ UInt64.ofNat (UInt64.size - 1) := by
    intro he
    rw [he, UInt64.toNat_ofNat_of_lt' (by decide)] at h
    exact Nat.lt_irrefl _ h
  rw [AssetRegistry.advanceRevision, if_pos hmax]
  have hsize : UInt64.size = 2 ^ 64 := rfl
  have hone : (1 : UInt64).toNat = 1 := rfl
  rw [UInt64.toNat_add, hone]
  exact Nat.mod_eq_of_lt (by omega)

theorem Grown.registerAsset (h : registry.Grown) (ha : (registry.registerAsset asset).1 = .added) :
    (registry.registerAsset asset).2.Grown ∧
      (registry.registerAsset asset).2.contents = asset :: registry.contents := by
  have hid := ((registerAsset_added_iff h.sound h.indexed asset).mp ha).idUnused
  have hcount := h.sound.count
  have hrevision := h.revision
  have hcontents : (registry.registerAsset asset).2.contents = asset :: registry.contents ∧
      (registry.registerAsset asset).2.revision.toNat = registry.revision.toNat + 1 := by
    unfold AssetRegistry.registerAsset at ha ⊢
    split_ifs at ha ⊢
    refine ⟨?_, toNat_advanceRevision (by simp only [UInt64.size]; omega)⟩
    have hentries := AList.entries_insert_of_notMem (b := asset) (AList.lookup_eq_none.mp hid)
    unfold AssetRegistry.advanceRevision
    split <;> simp only [contents, hentries, List.map_cons]
  refine ⟨⟨h.sound.registerAsset asset, h.indexed.registerAsset asset, ?_⟩, hcontents.1⟩
  rw [hcontents.1, hcontents.2, hrevision, List.length_cons]

/-- `RegisterAsset` for each of the assets, `none` where one is not added. -/
def registerAll : List AssetDescription → AssetRegistry → Option AssetRegistry
  | [], registry => some registry
  | asset :: assets, registry =>
      if (registry.registerAsset asset).1 = .added then registerAll assets (registry.registerAsset asset).2
      else none

theorem Grown.of_registerAll (h : registry.Grown) (hr : registerAll assets registry = some next) :
    next.Grown ∧ next.contents = assets.reverse ++ registry.contents := by
  induction assets generalizing registry with
  | nil =>
      cases hr
      exact ⟨h, rfl⟩
  | cons asset assets ih =>
      rw [AssetRegistry.registerAll] at hr
      split at hr
      · rename_i ha
        obtain ⟨hgrown, hcontents⟩ := h.registerAsset ha
        obtain ⟨hnext, hall⟩ := ih hgrown hr
        refine ⟨hnext, ?_⟩
        rw [hall, hcontents, List.reverse_cons, List.append_assoc, List.singleton_append]
      · cases hr

/-- Assets are all added exactly if the registry can have them all. -/
theorem Grown.registerAll_isSome (h : registry.Grown) :
    (AssetRegistry.registerAll assets registry).isSome = true ↔
      Publishable (assets.reverse ++ registry.contents) := by
  induction assets generalizing registry with
  | nil =>
      have hs := h.sound
      refine iff_of_true rfl ⟨hs.entries, hs.count, ?_⟩
      rw [List.reverse_nil, List.nil_append, hs.total]
      exact hs.limit
  | cons asset assets ih =>
      have hcons : (asset :: assets).reverse ++ registry.contents =
          assets.reverse ++ asset :: registry.contents := by simp
      rw [AssetRegistry.registerAll, hcons]
      split
      · rename_i ha
        obtain ⟨hgrown, hcontents⟩ := h.registerAsset ha
        rw [ih hgrown, hcontents]
      · rename_i ha
        refine iff_of_false Bool.false_ne_true fun hp => ha ?_
        exact (registerAsset_added_iff h.sound h.indexed asset).mpr (h.sound.admits_iff.mpr hp.of_append)

/-! ## Lines -/

theorem readLines_toOption (lineNumber : Nat) (lines : List ByteString) (parsed : AssetRegistry) :
    (readLines lineNumber lines parsed).toOption =
      (describedBy lines).bind fun assets => registerAll assets parsed := by
  induction lines generalizing lineNumber parsed with
  | nil => rfl
  | cons line lines ih =>
      rw [readLines, describedBy, List.map_cons]
      split
      · rename_i hs
        rw [List.filter_cons_of_neg (by simp [hs]), ih]
        rfl
      · rename_i hs
        rw [List.filter_cons_of_pos (by simp [hs]), List.mapM_cons]
        cases hp : parseLine (trim line) with
        | error error => rfl
        | ok asset =>
            have hbind : ∀ described : Option (List AssetDescription),
                ((described.bind fun assets => some (asset :: assets)).bind
                    fun assets => registerAll assets parsed) =
                  if (parsed.registerAsset asset).1 = .added then
                    described.bind fun assets => registerAll assets (parsed.registerAsset asset).2
                  else none := by
              intro described
              cases described <;> simp [registerAll]
            refine Eq.trans ?_ (hbind _).symm
            simp only
            generalize parsed.registerAsset asset = registered
            obtain ⟨result, after⟩ := registered
            cases result with
            | added => exact ih (lineNumber + 1) after
            | _ => rfl

theorem parseLine_error {line : ByteString} {error : String} (h : parseLine line = .error error) : error ≠ "" := by
  unfold parseLine at h
  repeat' split at h
  all_goals cases h
  all_goals decide

theorem text_ne (result : RegistryResult) : result.text ≠ "" := by
  cases result <;> decide

theorem readLines_error {lineNumber : Nat} {lines : List ByteString} {parsed : AssetRegistry}
    {result : ManifestConfigResult} (h : readLines lineNumber lines parsed = .error result) : result.error ≠ "" := by
  induction lines generalizing lineNumber parsed with
  | nil => cases h
  | cons line lines ih =>
      rw [readLines] at h
      split at h
      · exact ih h
      · split at h
        · rename_i hp
          cases h
          exact parseLine_error hp
        · split at h
          · exact ih h
          · cases h
            exact text_ne _

/-- Lines behind others are read with the registry and the line number that those leave. -/
theorem readLines_append {lineNumber : Nat} {front : List ByteString} {parsed next : AssetRegistry}
    (h : readLines lineNumber front parsed = .ok next) (back : List ByteString) :
    readLines lineNumber (front ++ back) parsed = readLines (lineNumber + front.length) back next := by
  induction front generalizing lineNumber parsed with
  | nil =>
      cases h
      rfl
  | cons line front ih =>
      have hnumber : lineNumber + (line :: front).length = lineNumber + 1 + front.length := by
        rw [List.length_cons]
        omega
      rw [hnumber, List.cons_append, readLines]
      rw [readLines] at h
      split at h
      · rename_i hs
        rw [if_pos hs]
        exact ih h
      · rename_i hs
        rw [if_neg hs]
        split at h
        · cases h
        · split at h
          · exact ih h
          · cases h

/-! ## Loading -/

/-- A load reports an error and leaves the registry alone, unless its file describes assets that one manifest can
have: then the registry has these, in a new history. -/
theorem loadManifestConfig_cases (file : ConfigFile) (registry : AssetRegistry) :
    ((loadManifestConfig file registry).2 = registry ∧ (loadManifestConfig file registry).1.error ≠ "" ∧
        ∀ assets, file.described = some assets → ¬ Publishable assets) ∨
      ∃ assets, file.described = some assets ∧ Publishable assets ∧
        (loadManifestConfig file registry).2.Grown ∧
        (loadManifestConfig file registry).2.contents = assets.reverse ∧
        (loadManifestConfig file registry).1 = ⟨assets.length, 0, ""⟩ := by
  cases file with
  | unopened => exact .inl ⟨rfl, by simp [loadManifestConfig], nofun⟩
  | opened bytes failure =>
      cases failure with
      | true =>
          refine .inl ?_
          cases hl : readLines 0 (getLines bytes true) fresh with
          | error result =>
              simp only [loadManifestConfig, hl]
              exact ⟨trivial, readLines_error hl, nofun⟩
          | ok parsed =>
              simp only [loadManifestConfig, hl]
              exact ⟨rfl, by simp, nofun⟩
      | false =>
          have hread := readLines_toOption 0 (getLines bytes false) fresh
          cases hd : describedBy (getLines bytes false) with
          | none =>
              rw [hd, Option.bind_none] at hread
              cases hl : readLines 0 (getLines bytes false) fresh with
              | error result =>
                  simp only [loadManifestConfig, hl]
                  exact .inl ⟨trivial, readLines_error hl, fun assets ha => absurd (hd.symm.trans ha) nofun⟩
              | ok parsed =>
                  rw [hl] at hread
                  cases hread
          | some assets =>
              rw [hd, Option.bind_some] at hread
              have hall := @Grown.registerAll_isSome _ assets fresh_grown
              have hnil : fresh.contents = [] := rfl
              rw [hnil, List.append_nil] at hall
              cases hl : readLines 0 (getLines bytes false) fresh with
              | error result =>
                  rw [hl] at hread
                  simp only [loadManifestConfig, hl]
                  refine .inl ⟨trivial, readLines_error hl, fun other ho hp => ?_⟩
                  cases hd.symm.trans ho
                  rw [← hread] at hall
                  exact absurd (hall.mpr (hp.perm (List.reverse_perm _).symm)) Bool.false_ne_true
              | ok parsed =>
                  rw [hl] at hread
                  rw [← hread] at hall
                  obtain ⟨hgrown, hcontents⟩ := fresh_grown.of_registerAll hread.symm
                  rw [hnil, List.append_nil] at hcontents
                  refine .inr ⟨assets, hd, ?_, ?_⟩
                  · exact (hall.mp rfl).perm (List.reverse_perm _)
                  · have hcount : parsed.assets.entries.length = assets.length := by
                      rw [← assets.length_reverse, ← hcontents, contents, List.length_map]
                    simp only [loadManifestConfig, hl, Bool.false_eq_true, ↓reduceIte, hcount]
                    exact ⟨hgrown, hcontents, trivial⟩

end AssetRegistry

/-! ## Files with the same lines -/

namespace ConfigFile

open AssetRegistry

variable {file other : ConfigFile} {assets : List AssetDescription}

/-- A file that is read to its end describes one asset with each line that is not skipped. -/
theorem forall₂_of_described (h : file.described = some assets) :
    List.Forall₂ (fun line asset => parseLine line = .ok asset) file.significant assets := by
  cases file with
  | unopened => cases h
  | opened bytes failure =>
      simp only [described] at h
      split at h
      · cases h
      · refine (mapM_eq_some_iff_forall₂.mp h).imp fun line asset hline => ?_
        cases hp : parseLine line with
        | error error =>
            rw [hp] at hline
            cases hline
        | ok described =>
            rw [hp] at hline
            cases hline
            rfl

/-- A line that describes no valid asset ends the load, and the error has its number. -/
theorem loadManifestConfig_rejected {bytes line : ByteString} {failure : Bool} {front back : List ByteString}
    {parsed : AssetRegistry} (hlines : getLines bytes failure = front ++ line :: back)
    (hfront : readLines 0 front .fresh = .ok parsed) (hskip : isSkipped (trim line) = false)
    (hno : ∀ asset, parseLine (trim line) = .ok asset → isAssetDescriptionValid asset = false)
    (registry : AssetRegistry) :
    ∃ error, error ≠ "" ∧
      loadManifestConfig (.opened bytes failure) registry = (⟨0, front.length + 1, error⟩, registry) := by
  have hread : ∃ error, error ≠ "" ∧
      readLines 0 (getLines bytes failure) .fresh = .error ⟨0, front.length + 1, error⟩ := by
    rw [hlines, readLines_append hfront, Nat.zero_add, readLines, if_neg (by simp [hskip])]
    cases hp : parseLine (trim line) with
    | error error => exact ⟨error, parseLine_error hp, rfl⟩
    | ok asset =>
        have hr : parsed.registerAsset asset = (.invalidAsset, parsed) := by
          rw [AssetRegistry.registerAsset, if_pos (by simp [hno asset hp])]
        simp only [hr]
        exact ⟨_, text_ne .invalidAsset, rfl⟩
  obtain ⟨error, hne, herror⟩ := hread
  refine ⟨error, hne, ?_⟩
  simp only [loadManifestConfig, herror]

/-- After a load the registry has what each line describes. -/
theorem mem_contents_of_loaded {line : ByteString} {asset : AssetDescription} {registry : AssetRegistry}
    (hl : (loadManifestConfig file registry).1.error = "") (hline : line ∈ file.significant)
    (hp : parseLine line = .ok asset) : asset ∈ (loadManifestConfig file registry).2.contents := by
  obtain ⟨-, hne, -⟩ | ⟨assets, hd, -, -, hcontents, -⟩ := loadManifestConfig_cases file registry
  · exact absurd hl hne
  · obtain ⟨other, hmem, ho⟩ := exists_mem_of_forall₂ (forall₂_of_described hd) hline
    cases hp.symm.trans ho
    rw [hcontents, List.mem_reverse]
    exact hmem

theorem Rearranges.symm (h : file.Rearranges other) : other.Rearranges file := by
  cases file with
  | unopened => cases other with
    | unopened => trivial
    | opened bytes failure => cases h
  | opened bytes failure => cases other with
    | unopened => cases h
    | opened others failed => exact ⟨h.1.symm, h.2.symm⟩

theorem Rearranges.described (h : file.Rearranges other) (hd : file.described = some assets) :
    ∃ assets', other.described = some assets' ∧ assets'.Perm assets := by
  cases file with
  | unopened => cases hd
  | opened bytes failure => cases other with
    | unopened => cases h
    | opened others failed =>
        obtain ⟨rfl, hp⟩ := h
        simp only [ConfigFile.described] at hd ⊢
        split at hd
        · cases hd
        · rename_i hf
          rw [if_neg hf]
          exact exists_mapM_perm ((hp.map trim).filter _) hd

end ConfigFile

end CustomModels.Server
