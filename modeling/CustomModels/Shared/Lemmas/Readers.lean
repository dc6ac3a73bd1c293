import CustomModels.Shared.Layout

/-!
# What the readers accept

Every reader accepts exactly the layouts of its values. The length check of `readString` is part of the
condition on the value, so that a layout with a longer string is not accepted.
-/

namespace CustomModels.Shared
open CustomModels.Lib Reader

/-! ## Integers -/

theorem readByte_reads : Reads readByte (fun _ => True) (fun byte => [byte]) := by
  intro bytes a rest
  cases bytes with
  | nil => simp [readByte]
  | cons b bytes => simp [readByte]

theorem readU16_reads : Reads readU16 (fun _ => True) be16 := by
  intro bytes value rest
  simp only [readU16, bind_eq_some, pure_eq_some, readByte_reads _ _ _, true_and]
  constructor
  · rintro ⟨high, _, rfl, low, _, rfl, rfl, rfl⟩
    rw [be16_ofBe16]
    rfl
  · rintro rfl
    exact ⟨_, _, rfl, _, _, rfl, ofBe16_be16 value, rfl⟩

theorem readU32_reads : Reads readU32 (fun _ => True) be32 := by
  intro bytes value rest
  simp only [readU32, bind_eq_some, pure_eq_some, readByte_reads _ _ _, true_and]
  constructor
  · rintro ⟨b0, _, rfl, b1, _, rfl, b2, _, rfl, b3, _, rfl, rfl, rfl⟩
    rw [be32_ofBe32]
    rfl
  · rintro rfl
    exact ⟨_, _, rfl, _, _, rfl, _, _, rfl, _, _, rfl, ofBe32_be32 value, rfl⟩

theorem readU64_reads : Reads readU64 (fun _ => True) be64 := by
  intro bytes value rest
  simp only [readU64, bind_eq_some, pure_eq_some, readU32_reads _ _ _, true_and]
  constructor
  · rintro ⟨high, _, rfl, low, _, rfl, rfl, rfl⟩
    rw [be64_ofBe64, List.append_assoc]
  · rintro rfl
    exact ⟨_, _, List.append_assoc _ _ _, _, _, rfl, ofBe64_halves value, rfl⟩

/-! ## Strings and arrays -/

/-- A string of at most `maximumLength` bytes whose length fits the 16-bit prefix. -/
def Fits (maximumLength : Nat) (value : ByteString) : Prop :=
  value.length ≤ maximumLength ∧ value.length < 2 ^ 16

theorem readString_reads (maximumLength : Nat) :
    Reads (readString maximumLength) (Fits maximumLength) stringLayout := by
  intro bytes value rest
  simp only [readString, bind_eq_some, readU16_reads _ _ _, true_and, remaining]
  constructor
  · rintro ⟨length, mid, rfl, h⟩
    split at h
    · cases h
    · rename_i hl
      simp only [Bool.or_eq_true, decide_eq_true_eq, not_or, Nat.not_lt] at hl
      simp only [Option.some.injEq, Prod.mk.injEq] at h
      obtain ⟨rfl, rfl⟩ := h
      have hlen : (mid.take length.toNat).length = length.toNat := by
        rw [List.length_take]
        omega
      refine ⟨⟨by omega, by rw [hlen]; exact length.toNat_lt⟩, ?_⟩
      rw [stringLayout, hlen, UInt16.ofNat_toNat, List.append_assoc, List.take_append_drop]
  · rintro ⟨⟨hmax, hsize⟩, rfl⟩
    refine ⟨UInt16.ofNat value.length, value ++ rest, List.append_assoc _ _ _, ?_⟩
    have hlen : (UInt16.ofNat value.length).toNat = value.length := UInt16.toNat_ofNat_of_lt hsize
    rw [hlen, if_neg, List.take_left, List.drop_left]
    simp only [Bool.or_eq_true, decide_eq_true_eq, List.length_append]
    omega

theorem readBytes_reads (size : Nat) : Reads (readBytes size) (fun _ => True) Subtype.val := by
  intro bytes value rest
  have hd := value.property
  simp only [readBytes, remaining, true_and]
  split
  · rename_i hs
    simp only [reduceCtorEq, false_iff]
    rintro rfl
    rw [List.length_append] at hs
    omega
  · rename_i hs
    simp only [Option.some.injEq, Prod.mk.injEq]
    constructor
    · rintro ⟨rfl, rfl⟩
      exact (List.take_append_drop _ _).symm
    · rintro rfl
      exact ⟨Subtype.ext (List.take_left' hd), List.drop_left' hd⟩

/-! ## Compound fields -/

theorem readRuntimeVersion_reads : Reads readRuntimeVersion (fun _ => True) RuntimeVersion.layout := by
  intro bytes version rest
  simp only [readRuntimeVersion, bind_eq_some, pure_eq_some, readU16_reads _ _ _, true_and]
  constructor
  · rintro ⟨major, _, rfl, minor, _, rfl, patch, _, rfl, rfl, rfl⟩
    simp only [RuntimeVersion.layout, List.append_assoc]
  · rintro rfl
    exact ⟨_, _, by simp only [RuntimeVersion.layout, List.append_assoc], _, _, rfl, _, _, rfl, rfl, rfl⟩

/-- The condition on an asset that the reads of `ReadAssetDescription` check themselves. -/
def StringsFit (asset : AssetDescription) : Prop :=
  Fits kMaximumLogicalNameLength asset.logicalName ∧ Fits kMaximumUrlLength asset.downloadUrl

theorem readAssetDescription_reads :
    Reads readAssetDescription StringsFit AssetDescription.layout := by
  intro bytes asset rest
  simp only [readAssetDescription, bind_eq_some, pure_eq_some, readU16_reads _ _ _, readU32_reads _ _ _,
    readU64_reads _ _ _, readString_reads _ _ _ _, readBytes_reads _ _ _ _, true_and]
  constructor
  · rintro ⟨id, _, rfl, type, _, rfl, name, _, ⟨hname, rfl⟩, url, _, ⟨hurl, rfl⟩, size, _, rfl,
      digest, _, rfl, rfl, rfl⟩
    exact ⟨⟨hname, hurl⟩, by simp only [AssetDescription.layout, List.append_assoc]⟩
  · rintro ⟨⟨hname, hurl⟩, rfl⟩
    exact ⟨_, _, by simp only [AssetDescription.layout, List.append_assoc], _, _, rfl,
      _, _, ⟨hname, rfl⟩, _, _, ⟨hurl, rfl⟩, _, _, rfl, ⟨asset.sha256.bytes, asset.sha256.size⟩, _, rfl, rfl, rfl⟩

/-! ## Payloads -/

theorem readHello_reads :
    Reads readHello (fun _ => True) (fun (version, protocolVersion, build, capabilities) =>
      version.layout ++ be16 protocolVersion ++ be16 build ++ be32 capabilities) := by
  intro bytes ⟨version, protocolVersion, build, capabilities⟩ rest
  simp only [readHello, bind_eq_some, pure_eq_some, readU16_reads _ _ _, readU32_reads _ _ _,
    readRuntimeVersion_reads _ _ _, true_and, Prod.mk.injEq]
  constructor
  · rintro ⟨_, _, rfl, _, _, rfl, _, _, rfl, _, _, rfl, ⟨rfl, rfl, rfl, rfl⟩, rfl⟩
    simp only [List.append_assoc]
  · rintro rfl
    exact ⟨_, _, by simp only [List.append_assoc], _, _, rfl, _, _, rfl, _, _, rfl,
      ⟨rfl, rfl, rfl, rfl⟩, rfl⟩

theorem readWelcome_reads :
    Reads readWelcome (fun _ => True) (fun value => (Message.welcome value).payload) := by
  intro bytes value rest
  simp only [readWelcome, bind_eq_some, pure_eq_some, readU16_reads _ _ _, readU32_reads _ _ _,
    readRuntimeVersion_reads _ _ _, true_and]
  constructor
  · rintro ⟨_, _, rfl, _, _, rfl, _, _, rfl, _, _, rfl, rfl, rfl⟩
    simp only [Message.payload, List.append_assoc]
  · rintro rfl
    exact ⟨_, _, by simp only [Message.payload, List.append_assoc], _, _, rfl, _, _, rfl,
      _, _, rfl, rfl, rfl⟩

theorem readManifestBoundary_reads :
    Reads readManifestBoundary (fun _ => True)
      (fun (revision, count, total) => boundaryLayout revision count total) := by
  intro bytes ⟨revision, count, total⟩ rest
  simp only [readManifestBoundary, bind_eq_some, pure_eq_some, readU64_reads _ _ _,
    readU32_reads _ _ _, true_and, Prod.mk.injEq]
  constructor
  · rintro ⟨_, _, rfl, _, _, rfl, _, _, rfl, ⟨rfl, rfl, rfl⟩, rfl⟩
    simp only [boundaryLayout, List.append_assoc]
  · rintro rfl
    exact ⟨_, _, by simp only [boundaryLayout, List.append_assoc], _, _, rfl, _, _, rfl,
      ⟨rfl, rfl, rfl⟩, rfl⟩

theorem readManifestAsset_reads :
    Reads readManifestAsset (fun value => StringsFit value.asset)
      (fun value => (Message.manifestAsset value).payload) := by
  intro bytes value rest
  simp only [readManifestAsset, bind_eq_some, pure_eq_some, readU64_reads _ _ _, readU32_reads _ _ _,
    readAssetDescription_reads _ _ _, true_and]
  constructor
  · rintro ⟨_, _, rfl, _, _, rfl, _, _, ⟨hfit, rfl⟩, rfl, rfl⟩
    exact ⟨hfit, by simp only [Message.payload, List.append_assoc]⟩
  · rintro ⟨hfit, rfl⟩
    exact ⟨_, _, by simp only [Message.payload, List.append_assoc], _, _, rfl,
      _, _, ⟨hfit, rfl⟩, rfl, rfl⟩

theorem readAssetReady_reads :
    Reads readAssetReady (fun _ => True) (fun value => (Message.assetReady value).payload) := by
  intro bytes value rest
  simp only [readAssetReady, bind_eq_some, pure_eq_some, readU64_reads _ _ _, readU32_reads _ _ _, true_and]
  constructor
  · rintro ⟨_, _, rfl, _, _, rfl, rfl, rfl⟩
    simp only [Message.payload, List.append_assoc]
  · rintro rfl
    exact ⟨_, _, by simp only [Message.payload, List.append_assoc], _, _, rfl, rfl, rfl⟩

theorem readAssetError_reads :
    Reads readAssetError (fun _ => True) (fun value => (Message.assetError value).payload) := by
  intro bytes value rest
  simp only [readAssetError, bind_eq_some, pure_eq_some, readU64_reads _ _ _, readU32_reads _ _ _,
    readU16_reads _ _ _, true_and]
  constructor
  · rintro ⟨_, _, rfl, _, _, rfl, _, _, rfl, rfl, rfl⟩
    simp only [Message.payload, List.append_assoc]
  · rintro rfl
    exact ⟨_, _, by simp only [Message.payload, List.append_assoc], _, _, rfl, _, _, rfl, rfl, rfl⟩

theorem readHeader_reads :
    Reads readHeader (fun _ => True) (fun (magic, version, type, size) =>
      be32 magic ++ be16 version ++ be16 type ++ be32 size) := by
  intro bytes ⟨magic, version, type, size⟩ rest
  simp only [readHeader, bind_eq_some, pure_eq_some, readU16_reads _ _ _, readU32_reads _ _ _,
    true_and, Prod.mk.injEq]
  constructor
  · rintro ⟨_, _, rfl, _, _, rfl, _, _, rfl, _, _, rfl, ⟨rfl, rfl, rfl, rfl⟩, rfl⟩
    simp only [List.append_assoc]
  · rintro rfl
    exact ⟨_, _, by simp only [List.append_assoc], _, _, rfl, _, _, rfl, _, _, rfl,
      ⟨rfl, rfl, rfl, rfl⟩, rfl⟩

end CustomModels.Shared
