import Mathlib.Data.Finset.Lattice.Lemmas
import CustomModels.Shared.ManifestStream
import CustomModels.Shared.Lemmas.Codec
import CustomModels.Client.Receiver

/-!
# The manifest receiver
-/

namespace CustomModels.Client
open CustomModels.Shared

/-! ## Limits that cannot fire early -/

theorem serializedAssetBytes_of_valid {asset : AssetDescription} (h : isAssetDescriptionValid asset = true) :
    serializedAssetBytes asset = 62 + asset.logicalName.length + asset.downloadUrl.length := by
  obtain ⟨⟨hname, -⟩, hurl, -⟩ := stringsFit_of_valid h
  simp only [kMaximumLogicalNameLength, kMaximumUrlLength] at hname hurl
  have hsmall : ¬ (sizeMaximum - serializedFixedBytes < asset.logicalName.length ∨
      sizeMaximum - serializedFixedBytes - asset.logicalName.length < asset.downloadUrl.length) := by
    simp only [sizeMaximum, serializedFixedBytes, kSha256Size]
    omega
  rw [serializedAssetBytes, if_neg (by simpa using hsmall)]
  rfl

theorem serializedAssetBytes_le {asset : AssetDescription} (h : isAssetDescriptionValid asset = true) :
    serializedAssetBytes asset ≤ 2206 := by
  obtain ⟨⟨hname, -⟩, hurl, -⟩ := stringsFit_of_valid h
  simp only [kMaximumLogicalNameLength, kMaximumUrlLength] at hname hurl
  rw [serializedAssetBytes_of_valid h]
  omega

/-- The metadata bytes of a boundary message and of the entries behind it. -/
def metadataBytes (assets : List AssetDescription) : Nat := 20 + (assets.map serializedAssetBytes).sum

@[simp] theorem metadataBytes_append_singleton (assets : List AssetDescription) (asset : AssetDescription) :
    metadataBytes (assets ++ [asset]) = metadataBytes assets + serializedAssetBytes asset := by
  simp [metadataBytes, Nat.add_assoc]

theorem metadataBytes_le {assets : List AssetDescription}
    (h : ∀ asset ∈ assets, isAssetDescriptionValid asset = true) :
    metadataBytes assets ≤ 20 + 2206 * assets.length := by
  induction assets with
  | nil => simp [metadataBytes]
  | cons asset assets ih =>
      have ha := serializedAssetBytes_le (h asset List.mem_cons_self)
      have hrest := ih fun a ha => h a (List.mem_cons_of_mem _ ha)
      simp only [metadataBytes, List.map_cons, List.sum_cons, List.length_cons] at hrest ⊢
      omega

namespace ManifestReceiver

/-- The running subtraction does not underflow: the loop fails exactly when the true sum is too large. -/
theorem sumFileSizes_eq_some {total sum : UInt64} {assets : List AssetDescription}
    (h : total.toNat ≤ 512 * 1024 * 1024) :
    sumFileSizes total assets = some sum ↔
      total.toNat + sizeSum assets = sum.toNat ∧ sum.toNat ≤ 512 * 1024 * 1024 := by
  have hlimit : kMaximumTotalDownloadSize.toNat = 512 * 1024 * 1024 := rfl
  induction assets generalizing total with
  | nil =>
      simp only [sumFileSizes, Option.some.injEq, sizeSum, List.map_nil, List.sum_nil, Nat.add_zero]
      constructor
      · rintro rfl
        exact ⟨rfl, h⟩
      · rintro ⟨ht, -⟩
        exact UInt64.toNat_inj.mp ht
  | cons asset assets ih =>
      have hsub : (kMaximumTotalDownloadSize - total).toNat = 512 * 1024 * 1024 - total.toNat := by
        rw [UInt64.toNat_sub_of_le _ _ (UInt64.le_iff_toNat_le.mpr (by omega)), hlimit]
      rw [sumFileSizes, sizeSum_cons]
      split
      · rename_i hover
        rw [UInt64.lt_iff_toNat_lt, hsub] at hover
        simp only [reduceCtorEq, false_iff, not_and]
        omega
      · rename_i hfits
        rw [UInt64.lt_iff_toNat_lt, hsub] at hfits
        have hadd : (total + asset.fileSize).toNat = total.toNat + asset.fileSize.toNat := by
          rw [UInt64.toNat_add]
          omega
        have hrest := ih (by omega : (total + asset.fileSize).toNat ≤ 512 * 1024 * 1024)
        rwa [hadd, Nat.add_assoc] at hrest

/-! ## The states of a stream -/

/-- The receiver behind the begin message and the first entries of a stream. -/
def receiving (revision : UInt64) (count : UInt32) (total : UInt64) (assets : List AssetDescription) :
    ManifestReceiver where
  state := .receiving
  manifest := ⟨revision, assets, total⟩
  expectedCount := count
  manifestBytes := UInt32.ofNat (metadataBytes assets)
  assetIds := (assets.map AssetDescription.assetId).toFinset
  logicalNames := (assets.map AssetDescription.logicalName).toFinset
  completed := none

/-- The message is refused, and the receiver remembers it. -/
def Fails (handled : ManifestInputResult × ManifestReceiver) : Prop :=
  handled.1.Refused ∧ handled.2.state = .failed

variable {receiver : ManifestReceiver} {message : Message} {revision total : UInt64} {count : UInt32}
  {assets : List AssetDescription}

/-- Behind a complete stream, and behind a refusal, every manifest message is refused. -/
theorem handle_fails (hidle : receiver.state ≠ .idle) (hreceiving : receiver.state ≠ .receiving)
    (h : isManifestMessage message = true) : Fails (receiver.handle message) := by
  cases message with
  | manifestBegin value =>
      rw [handle, handleBegin, if_pos hidle]
      exact ⟨.inl rfl, rfl⟩
  | manifestAsset value =>
      rw [handle, handleAsset, if_pos (.inl hreceiving)]
      exact ⟨.inl rfl, rfl⟩
  | manifestEnd value =>
      rw [handle, handleEnd, if_pos (.inl hreceiving)]
      exact ⟨.inl rfl, rfl⟩
  | _ => cases h

theorem handle_fails_of_over (hs : receiver.state = .complete ∨ receiver.state = .failed)
    (h : isManifestMessage message = true) : Fails (receiver.handle message) := by
  rcases hs with hs | hs
  · exact handle_fails (by rw [hs]; decide) (by rw [hs]; decide) h
  · exact handle_fails (by rw [hs]; decide) (by rw [hs]; decide) h

theorem handleBegin_fresh (h : ManifestBoundary revision count total) :
    fresh.handleBegin ⟨revision, count, total⟩ = (.accepted, receiving revision count total []) := by
  obtain ⟨hr, hc, ht, hz⟩ := h
  have hlimit : kMaximumTotalDownloadSize.toNat = 512 * 1024 * 1024 := rfl
  have hvalid : ¬ (revision = 0 ∨ kMaximumAssetsPerManifest < count.toNat ∨
      kMaximumTotalDownloadSize < total ∨ count = 0 ∧ total ≠ 0) := by
    rw [UInt64.lt_iff_toNat_lt, hlimit, kMaximumAssetsPerManifest]
    rintro (h | h | h | ⟨h, h'⟩)
    · exact hr h
    · omega
    · omega
    · exact h' (hz h)
  simp only [handleBegin, fresh, ne_eq, not_true_eq_false, ↓reduceIte, hvalid]
  rfl

theorem handleBegin_fresh_fails (h : ¬ ManifestBoundary revision count total) :
    Fails (fresh.handleBegin ⟨revision, count, total⟩) := by
  have hlimit : kMaximumTotalDownloadSize.toNat = 512 * 1024 * 1024 := rfl
  have hinvalid : revision = 0 ∨ kMaximumAssetsPerManifest < count.toNat ∨
      kMaximumTotalDownloadSize < total ∨ count = 0 ∧ total ≠ 0 := by
    rw [UInt64.lt_iff_toNat_lt, hlimit, kMaximumAssetsPerManifest]
    unfold ManifestBoundary at h
    by_contra hvalid
    simp only [not_or, not_and, not_not, not_lt] at hvalid
    exact h hvalid
  simp only [handleBegin, fresh, ne_eq, not_true_eq_false, ↓reduceIte, hinvalid]
  exact ⟨.inr rfl, rfl⟩

theorem toFinset_append_singleton {α : Type} [DecidableEq α] (xs : List α) (x : α) :
    (xs ++ [x]).toFinset = insert x xs.toFinset := by
  rw [List.toFinset_append, Finset.union_comm]
  rfl

/-- The next entry is one that the stream of a manifest can have at this place. -/
def Continues (revision : UInt64) (count : UInt32) (assets : List AssetDescription)
    (item : ManifestAsset) : Prop :=
  item.manifestRevision = revision ∧ item.assetIndex.toNat = assets.length ∧
    assets.length < count.toNat ∧ EntriesValid (assets ++ [item.asset])

theorem entriesValid_append_singleton {asset : AssetDescription} (h : EntriesValid assets) :
    EntriesValid (assets ++ [asset]) ↔ isAssetDescriptionValid asset = true ∧
      asset.assetId ∉ assets.map AssetDescription.assetId ∧
      asset.logicalName ∉ assets.map AssetDescription.logicalName := by
  have hp : (assets ++ [asset]).Perm (asset :: assets) := List.perm_append_singleton _ _
  have hcons := @entriesValid_cons asset assets
  exact ⟨fun h' => (hcons.mp (h'.perm hp)).imp_right (And.imp_right And.left),
    fun h' => (hcons.mpr ⟨h'.1, h'.2.1, h'.2.2, h⟩).perm hp.symm⟩

/-- The metadata counter is exact, and the limit of 1 MiB is out of reach. -/
theorem manifestBytes_receiving (h : EntriesValid assets) (hl : assets.length ≤ 256) :
    (UInt32.ofNat (metadataBytes assets)).toNat = metadataBytes assets ∧ metadataBytes assets ≤ 600000 := by
  have hb := metadataBytes_le h.valid
  exact ⟨UInt32.toNat_ofNat_of_lt (by rw [UInt32.size]; omega), by omega⟩

/-- Neither comparison with the limit can fail. -/
theorem metadata_fits_asset {asset : AssetDescription} (h : EntriesValid assets) (hl : assets.length ≤ 256)
    (hv : isAssetDescriptionValid asset = true) :
    ¬ (UInt32.ofNat kMaximumManifestBytes - UInt32.ofNat (metadataBytes assets) <
      UInt32.ofNat (serializedAssetBytes asset)) := by
  obtain ⟨hexact, hsmall⟩ := manifestBytes_receiving h hl
  have hbytes := serializedAssetBytes_le hv
  have hmax : (UInt32.ofNat kMaximumManifestBytes).toNat = 1048576 := rfl
  rw [UInt32.lt_iff_toNat_lt, UInt32.toNat_sub_of_le _ _ (UInt32.le_iff_toNat_le.mpr (by omega)), hexact, hmax,
    UInt32.toNat_ofNat_of_lt' (by rw [UInt32.size]; omega)]
  omega

theorem metadata_fits_end (h : EntriesValid assets) (hl : assets.length ≤ 256) :
    (UInt32.ofNat (metadataBytes assets) + 20).toNat = metadataBytes assets + 20 ∧
      ¬ (UInt32.ofNat kMaximumManifestBytes < UInt32.ofNat (metadataBytes assets) + 20) := by
  obtain ⟨hexact, hsmall⟩ := manifestBytes_receiving h hl
  have hmax : (UInt32.ofNat kMaximumManifestBytes).toNat = 1048576 := rfl
  have hadd : (UInt32.ofNat (metadataBytes assets) + 20).toNat = metadataBytes assets + 20 := by
    rw [UInt32.toNat_add, hexact]
    exact Nat.mod_eq_of_lt (show metadataBytes assets + 20 < 2 ^ 32 by omega)
  refine ⟨hadd, ?_⟩
  rw [UInt32.lt_iff_toNat_lt, hmax, hadd]
  omega

theorem handleAsset_receiving {item : ManifestAsset} (h : Continues revision count assets item)
    (hc : count.toNat ≤ 256) :
    (receiving revision count total assets).handleAsset item =
      (.accepted, receiving revision count total (assets ++ [item.asset])) := by
  obtain ⟨hr, hi, hl, he⟩ := h
  obtain ⟨hvalid, hid, hname⟩ := (entriesValid_append_singleton he.of_append).mp he
  have hfits := metadata_fits_asset he.of_append (by omega) hvalid
  have hfirst : ¬ (ReceiverState.receiving ≠ .receiving ∨ item.manifestRevision ≠ revision ∨
      item.assetIndex.toNat ≠ assets.length ∨ count.toNat ≤ assets.length) := by
    simp only [hr, hi, ne_eq, not_true_eq_false, false_or, not_le]
    exact hl
  simp only [handleAsset, receiving, hfirst, ↓reduceIte, hvalid, hfits, Bool.not_true, Bool.false_eq_true,
    or_self, List.mem_toFinset, hid, hname]
  simp only [metadataBytes_append_singleton, UInt32.ofNat_add, List.map_append, List.map_singleton,
    toFinset_append_singleton]

theorem handleAsset_receiving_fails {item : ManifestAsset} (h : ¬ Continues revision count assets item)
    (he : EntriesValid assets) : Fails ((receiving revision count total assets).handleAsset item) := by
  simp only [handleAsset, receiving, List.mem_toFinset]
  split_ifs with horder hvalid hid hname
  · exact ⟨.inl rfl, rfl⟩
  · exact ⟨.inr rfl, rfl⟩
  · exact ⟨.inr rfl, rfl⟩
  · exact ⟨.inr rfl, rfl⟩
  · refine absurd ?_ h
    simp only [ne_eq, not_true_eq_false, false_or, not_or, not_not, not_le] at horder
    rw [not_or, Bool.not_eq_true, Bool.not_eq_false'] at hvalid
    exact ⟨horder.1, horder.2.1, horder.2.2,
      (entriesValid_append_singleton he).mpr ⟨hvalid.1, hid, hname⟩⟩

/-- The end message fits the entries in front of it. -/
def Closes (revision : UInt64) (count : UInt32) (total : UInt64) (assets : List AssetDescription)
    (message : ManifestEnd) : Prop :=
  message = ⟨revision, count, total⟩ ∧ count.toNat = assets.length ∧ sizeSum assets = total.toNat

theorem handleEnd_receiving {value : ManifestEnd} (h : Closes revision count total assets value)
    (he : EntriesValid assets) (hc : count.toNat ≤ 256) (ht : total.toNat ≤ 512 * 1024 * 1024) :
    ∃ final, (receiving revision count total assets).handleEnd value = (.complete, final) ∧
      final.state = .complete ∧ final.completed = some ⟨revision, assets, total⟩ ∧
      final.manifestBytes = UInt32.ofNat (metadataBytes assets) + 20 := by
  obtain ⟨rfl, hl, hs⟩ := h
  obtain ⟨-, hfits⟩ := metadata_fits_end he (by omega)
  have hsum : sumFileSizes 0 assets = some total :=
    (sumFileSizes_eq_some (by decide)).mpr ⟨by rw [hs]; exact Nat.zero_add _, ht⟩
  let final : ManifestReceiver :=
    { receiving revision count total assets with
      manifestBytes := UInt32.ofNat (metadataBytes assets) + 20
      completed := some ⟨revision, assets, total⟩
      state := .complete }
  refine ⟨final, ?_, rfl, rfl, rfl⟩
  simp only [handleEnd, receiving, ne_eq, not_true_eq_false, hl, or_self, ↓reduceIte, hsum, hfits, final]

/-- An end message that is in order is refused for a wrong sum of the sizes. -/
theorem handleEnd_receiving_wrong (hl : count.toNat = assets.length) (hs : sizeSum assets ≠ total.toNat) :
    ((receiving revision count total assets).handleEnd ⟨revision, count, total⟩).1 = .invalidManifest := by
  simp only [handleEnd, receiving, ne_eq, not_true_eq_false, hl, or_self, ↓reduceIte]
  cases hsum : sumFileSizes 0 assets with
  | none => rfl
  | some sum =>
      have hne : ¬ sum = total := by
        rintro rfl
        obtain ⟨heq, -⟩ := (sumFileSizes_eq_some (by decide)).mp hsum
        exact hs (by simpa using heq)
      simp only [hne, not_false_eq_true, ↓reduceIte]

theorem handleEnd_receiving_fails {value : ManifestEnd} (h : ¬ Closes revision count total assets value) :
    Fails ((receiving revision count total assets).handleEnd value) := by
  unfold handleEnd
  split
  · exact ⟨.inl rfl, rfl⟩
  · rename_i horder
    split
    · exact ⟨.inr rfl, rfl⟩
    · rename_i sum hsum
      split
      · exact ⟨.inr rfl, rfl⟩
      · rename_i htotal
        refine absurd ?_ h
        simp only [receiving, ne_eq, not_true_eq_false, false_or, not_or, not_not] at horder htotal hsum
        obtain ⟨hr, hc, hl, ht⟩ := horder
        obtain ⟨hs, -⟩ := (sumFileSizes_eq_some (by decide)).mp hsum
        obtain ⟨r, c, t⟩ := value
        simp only at hr hc hl ht
        subst hr hc ht htotal
        exact ⟨rfl, hl, by simpa using hs⟩

end ManifestReceiver

end CustomModels.Client
