import CustomModels.Shared.Lemmas.Hex
import CustomModels.Client.Cache

/-!
# The asset cache

A lookup and a commit change what stands at the final path of their asset and at its temporary path, and
nothing else.
-/

namespace CustomModels.Client
open CustomModels.Shared

namespace AssetCache

variable {root : Path} {files : Filesystem} {asset other : AssetDescription} {path : Path}

/-! ## Paths -/

theorem pathFor_ne_temporaryPathFor (root : Path) (asset other : AssetDescription) :
    pathFor root asset ≠ temporaryPathFor root other := by
  intro h
  have hlength := congrArg List.length h
  simp only [pathFor, temporaryPathFor, List.length_append, List.length_cons, List.length_nil] at hlength
  omega

theorem pathFor_eq_iff (root : Path) (asset other : AssetDescription) : pathFor root asset = pathFor root other ↔
    asset.sha256 = other.sha256 ∧ extensionFor asset.type = extensionFor other.type := by
  simp only [pathFor, List.append_cancel_left_eq, List.cons.injEq, and_true, true_and, sha256Hex_append_inj]
  exact and_iff_right_of_imp fun h => by rw [h.1]

theorem temporaryPathFor_eq_iff (root : Path) (asset other : AssetDescription) :
    temporaryPathFor root asset = temporaryPathFor root other ↔
      asset.sha256 = other.sha256 ∧ extensionFor asset.type = extensionFor other.type := by
  simp only [temporaryPathFor, List.append_cancel_left_eq, List.append_cancel_right_eq, List.cons.injEq, and_true,
    true_and, sha256Hex_append_inj]

theorem sha256_eq_of_pathFor (h : pathFor root asset = pathFor root other) : asset.sha256 = other.sha256 :=
  ((pathFor_eq_iff root asset other).mp h).1

theorem extensionFor_eq_iff (ha : isAssetDescriptionValid asset = true) (hb : isAssetDescriptionValid other = true) :
    extensionFor asset.type = extensionFor other.type ↔ asset.type = other.type := by
  simp only [isAssetDescriptionValid, isAssetTypeValid, Bool.and_eq_true, Bool.or_eq_true, beq_iff_eq] at ha hb
  obtain ⟨⟨⟨⟨⟨-, htype⟩, -⟩, -⟩, -⟩, -⟩ := ha
  obtain ⟨⟨⟨⟨⟨-, htype'⟩, -⟩, -⟩, -⟩, -⟩ := hb
  rcases htype with htype | htype
  all_goals
    rcases htype' with htype' | htype'
    all_goals
      rw [htype, htype']
      decide

/-! ## Names of files -/

theorem IsHexDigit.separators {digit : UInt8} (h : IsHexDigit digit) : digit ≠ 47 ∧ digit ≠ 92 ∧ digit ≠ 58 := by
  refine ⟨?_, ?_, ?_⟩
  all_goals
    rintro rfl
    simp [IsHexDigit] at h

theorem isHexDigit_of_mem {digest : Sha256Digest} {digit : UInt8} (h : digit ∈ sha256Hex digest) :
    IsHexDigit digit := by
  have hvalue : ∃ value, hexValue digit = some value := by
    rw [sha256Hex, Picosha2.bytesToHexString, List.mem_flatMap] at h
    obtain ⟨byte, -, hdigit⟩ := h
    obtain ⟨hhigh, hlow, -⟩ := hexValue_hexDigit byte
    rcases List.mem_cons.mp hdigit with hdigit | hdigit
    · exact ⟨_, hdigit ▸ hhigh⟩
    · exact ⟨_, List.mem_singleton.mp hdigit ▸ hlow⟩
  obtain ⟨value, hvalue⟩ := hvalue
  unfold hexValue at hvalue
  split at hvalue
  · rename_i hdecimal
    simp only [Bool.and_eq_true, decide_eq_true_eq] at hdecimal
    exact .inl hdecimal
  · split at hvalue
    · rename_i hletter
      simp only [Bool.and_eq_true, decide_eq_true_eq] at hletter
      exact .inr hletter
    · cases hvalue

theorem sha256Hex_take_two (digest : Sha256Digest) :
    ∃ first second, IsHexDigit first ∧ IsHexDigit second ∧ (sha256Hex digest).take 2 = [first, second] := by
  have hlength := sha256Hex_length digest
  have hdigits := fun digit => @isHexDigit_of_mem digest digit
  cases hhex : sha256Hex digest with
  | nil => simp [hhex] at hlength
  | cons first rest =>
      cases rest with
      | nil => simp [hhex] at hlength
      | cons second rest =>
          rw [hhex] at hdigits
          exact ⟨first, second, hdigits first (by simp), hdigits second (by simp), rfl⟩

/-- Behind the digits of a digest, whatever has no separator ends the name of a file. -/
theorem fileName_sha256Hex (digest : Sha256Digest) {suffix : ByteString}
    (h : ∀ byte ∈ suffix, byte ≠ 47 ∧ byte ≠ 92 ∧ byte ≠ 58) : FileName (sha256Hex digest ++ suffix) := by
  have hlength : 64 ≤ (sha256Hex digest ++ suffix).length := by
    rw [List.length_append, sha256Hex_length]
    omega
  have hlong : ∀ name : ByteString, name.length < 64 → sha256Hex digest ++ suffix ≠ name := by
    intro name hname heq
    rw [heq] at hlength
    omega
  refine ⟨hlong [] (by decide), fun byte hbyte => ?_, hlong [dot] (by decide), hlong [dot, dot] (by decide)⟩
  rcases List.mem_append.mp hbyte with hdigit | hsuffix
  · exact (isHexDigit_of_mem hdigit).separators
  · exact h byte hsuffix

theorem extensionFor_separators (type : AssetType) {byte : UInt8} (h : byte ∈ extensionFor type) :
    byte ≠ 47 ∧ byte ≠ 92 ∧ byte ≠ 58 := by
  have hall : ∀ byte ∈ extensionFor .dff ++ extensionFor .txd, byte ≠ 47 ∧ byte ≠ 92 ∧ byte ≠ 58 := by
    simp [extensionFor, AssetType.dff, AssetType.txd]
  unfold extensionFor at h
  split at h
  · exact hall byte (List.mem_append_left _ h)
  · split at h
    · exact hall byte (List.mem_append_right _ h)
    · cases h

/-- Neither the logical name nor the URL has a say in where a file is put. -/
theorem pathFor_directlyUnder (root : Path) (asset : AssetDescription) :
    ∃ first second, IsHexDigit first ∧ IsHexDigit second ∧
      DirectlyUnder (root ++ [sha256Directory, [first, second]]) (pathFor root asset) := by
  obtain ⟨first, second, hfirst, hsecond, htake⟩ := sha256Hex_take_two asset.sha256
  refine ⟨first, second, hfirst, hsecond, sha256Hex asset.sha256 ++ extensionFor asset.type, ?_, ?_⟩
  · exact fileName_sha256Hex _ fun byte hbyte => extensionFor_separators asset.type hbyte
  · simp [pathFor, htake]

theorem temporaryPathFor_directlyUnder (root : Path) (asset : AssetDescription) :
    DirectlyUnder (root ++ [tmpDirectory]) (temporaryPathFor root asset) := by
  refine ⟨sha256Hex asset.sha256 ++ (extensionFor asset.type ++ tmpExtension), ?_, by simp [temporaryPathFor]⟩
  apply fileName_sha256Hex
  intro byte hbyte
  rcases List.mem_append.mp hbyte with hextension | htmp
  · exact extensionFor_separators asset.type hextension
  · have hall : ∀ byte ∈ tmpExtension, byte ≠ 47 ∧ byte ≠ 92 ∧ byte ≠ 58 := by simp [tmpExtension]
    exact hall byte htmp

/-! ## What the cache holds -/

theorem Holds.congr {files' : Filesystem} {asset' : AssetDescription} (h : Holds files path asset)
    (hfiles : files' path = files path) (hsize : asset'.fileSize = asset.fileSize)
    (hdigest : asset'.sha256 = asset.sha256) : Holds files' path asset' := by
  obtain ⟨data, hdata, hlength, hsha⟩ := h
  exact ⟨data, by rw [hfiles, hdata], by rw [hsize, hlength], by rw [hdigest, hsha]⟩

/-! ## Removing and renaming -/

theorem remove_of_ne {removed : Path} (h : path ≠ removed) (fails : Bool) :
    (files.remove removed fails).2 path = files path := by
  unfold Filesystem.remove
  split
  · rfl
  · exact Function.update_of_ne h _ _

theorem removeTemporary_of_ne {removed : Path} (h : path ≠ removed) (fails : Bool) :
    removeTemporary files removed fails path = files path := remove_of_ne h fails

theorem rename_of_ne {source destination : Path} (hs : path ≠ source) (hd : path ≠ destination)
    (fails : Bool) :
    (files.rename source destination fails).2 path = files path := by
  unfold Filesystem.rename
  split
  · rfl
  · split
    · rfl
    · rfl
    · rfl
    · simp only [Function.update_of_ne hd, Function.update_of_ne hs]

/-! ## `Lookup` -/

/-- A lookup leaves the files alone, or removes what is at the asset's path and reports a miss. -/
theorem lookup_cases (root : Path) (files : Filesystem) (asset : AssetDescription) (errors : LookupErrors) :
    (lookup root files asset errors).2 = files ∨
      lookup root files asset errors = (.miss, Function.update files (pathFor root asset) none) := by
  unfold lookup Filesystem.remove
  cases errors.remove
  all_goals
    simp only [Bool.false_eq_true, ↓reduceIte]
    split
    · exact .inl rfl
    · split
      · exact .inl rfl
      · simp
      · split
        · simp
        · split <;> simp

theorem lookup_of_ne (files : Filesystem) (h : path ≠ pathFor root asset) (errors : LookupErrors) :
    (lookup root files asset errors).2 path = files path := by
  rcases lookup_cases root files asset errors with hfiles | hfiles
  · rw [hfiles]
  · rw [hfiles]
    exact Function.update_of_ne h _ _

theorem lookup_hit {errors : LookupErrors} (h : (lookup root files asset errors).1 = .hit) :
    (lookup root files asset errors).2 = files ∧ Holds files (pathFor root asset) asset := by
  simp only [lookup, Filesystem.remove] at h ⊢
  by_cases hstatus : errors.status = true
  · simp [hstatus] at h
  rw [if_neg hstatus] at h ⊢
  rcases hdata : files (pathFor root asset) with _ | (data | _)
  · simp [hdata] at h
  · simp only [hdata] at h ⊢
    split at h
    · cases hr : errors.remove <;> simp [hr] at h
    · split at h
      · rename_i hregular hmatch
        rw [if_neg hregular, if_pos hmatch]
        simp only [Bool.and_eq_true, beq_iff_eq] at hmatch
        exact ⟨rfl, data, hdata, hmatch.1.1.2, hmatch.2⟩
      · cases hr : errors.remove <;> simp [hr] at h
  · cases hr : errors.remove <;> simp [hdata, hr] at h

/-- A lookup that can read the file finds what the cache holds. -/
theorem lookup_of_holds {errors : LookupErrors} (h : Holds files (pathFor root asset) asset)
    (hregular : errors.regularFile = false) (hsize : errors.fileSize = false) (hread : errors.read = false)
    (hstatus : errors.status = false) : lookup root files asset errors = (.hit, files) := by
  obtain ⟨data, hdata, hlength, hsha⟩ := h
  simp [lookup, hstatus, hdata, hregular, hsize, hread, hlength, hsha]

/-- Only a lookup that could look and could remove misses what is there. -/
theorem lookup_miss {errors : LookupErrors} {entry : Entry} (he : files (pathFor root asset) = some entry)
    (h : (lookup root files asset errors).1 = .miss) : errors.status = false ∧ errors.remove = false := by
  unfold lookup Filesystem.remove at h
  cases hs : errors.status with
  | true => simp [hs] at h
  | false =>
      cases hr : errors.remove with
      | false => exact ⟨rfl, rfl⟩
      | true =>
          simp only [hs, hr, he, Bool.false_eq_true, ↓reduceIte] at h
          cases entry with
          | other => cases h
          | file data =>
              simp only at h
              split at h
              · cases h
              · split at h <;> cases h

/-- A lookup that wants another size than the file has, or cannot read it, removes it. -/
theorem lookup_removes {errors : LookupErrors} (h : Holds files (pathFor root asset) other)
    (hstatus : errors.status = false) (hremove : errors.remove = false)
    (hfound : ¬ (other.fileSize = asset.fileSize ∧ errors.regularFile = false ∧ errors.fileSize = false ∧
      errors.read = false)) :
    lookup root files asset errors = (.miss, Function.update files (pathFor root asset) none) := by
  obtain ⟨data, hdata, hlength, -⟩ := h
  simp only [lookup, Filesystem.remove, hstatus, hremove, hdata, Bool.false_eq_true, ↓reduceIte]
  split
  · rfl
  · rename_i hregular
    split
    · rename_i hmatch
      simp only [Bool.and_eq_true, Bool.not_eq_true', beq_iff_eq, hlength] at hmatch
      refine absurd ⟨?_, by simpa using hregular, hmatch.1.1.1, hmatch.1.2⟩ hfound
      exact UInt64.toNat_inj.mp hmatch.1.1.2
    · rfl

/-! ## `CommitVerified` -/

variable {temporaryPath : Path}

theorem commitLookup_of_ne (root : Path) (files : Filesystem) (asset : AssetDescription)
    (temporaryPath : Path) (errors : CommitErrors) (path : Path) (hp : path ≠ pathFor root asset)
    (ht : path ≠ temporaryPath) :
    (commitLookup root files asset temporaryPath errors).2 path = files path := by
  simp only [commitLookup]
  split
  · rfl
  · split
    · have hl := lookup_of_ne files hp errors.lookup
      split
      · rename_i hlookup
        rw [hlookup] at hl
        exact (removeTemporary_of_ne ht _).trans hl
      · rename_i hlookup
        rw [hlookup] at hl
        exact hl
    · rfl

/-- Before the rename the verified file is still where it was. -/
theorem commitLookup_none (files : Filesystem) (errors : CommitErrors)
    (hne : temporaryPath ≠ pathFor root asset)
    (h : (commitLookup root files asset temporaryPath errors).1 = none) :
    (commitLookup root files asset temporaryPath errors).2 temporaryPath = files temporaryPath := by
  simp only [commitLookup] at h ⊢
  split at h
  · cases h
  · rename_i hcreate
    rw [if_neg hcreate]
    split at h
    · rename_i hexists
      rw [if_pos hexists]
      have hl := lookup_of_ne files hne errors.lookup
      split at h
      · cases h
      · rename_i hlookup
        rw [hlookup] at hl
        exact hl
    · rename_i hexists
      rw [if_neg hexists]

/-- A commit that ends with the lookup has found the asset in the cache. -/
theorem commitLookup_true (files : Filesystem) (errors : CommitErrors)
    (hne : pathFor root asset ≠ temporaryPath)
    (h : (commitLookup root files asset temporaryPath errors).1 = some true) :
    Holds (commitLookup root files asset temporaryPath errors).2 (pathFor root asset) asset := by
  simp only [commitLookup] at h ⊢
  split at h
  · cases h
  · rename_i hcreate
    rw [if_neg hcreate]
    split at h
    · rename_i hexists
      rw [if_pos hexists]
      split at h
      · rename_i found hlookup
        obtain ⟨hfiles, hholds⟩ := lookup_hit (congrArg Prod.fst hlookup)
        rw [hlookup] at hfiles
        simp only at hfiles ⊢
        exact hholds.congr (by rw [removeTemporary_of_ne hne, hfiles]) rfl rfl
      · cases h
    · cases h

theorem commitRename_of_ne (root : Path) (files : Filesystem) (asset : AssetDescription)
    (temporaryPath : Path) (errors : CommitErrors) (path : Path) (hp : path ≠ pathFor root asset)
    (ht : path ≠ temporaryPath) :
    (commitRename root files asset temporaryPath errors).2 path = files path := rename_of_ne ht hp _

theorem commitRename_true (root : Path) (errors : CommitErrors) (hv : Holds files temporaryPath asset)
    (h : (commitRename root files asset temporaryPath errors).1 = true) :
    Holds (commitRename root files asset temporaryPath errors).2 (pathFor root asset) asset := by
  obtain ⟨data, hdata, hlength, hsha⟩ := hv
  simp only [commitRename, Filesystem.rename, hdata] at h ⊢
  cases hr : errors.rename with
  | true => simp [hr] at h
  | false =>
      refine ⟨data, ?_, hlength, hsha⟩
      rcases hd : files (pathFor root asset) with _ | (_ | _)
      · simp
      · simp
      · simp [hr, hd] at h

end AssetCache

end CustomModels.Client
