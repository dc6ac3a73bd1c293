import CustomModels.Shared.Layout
import CustomModels.Shared.ManifestStream

/-!
# Well formed manifests can be sent
-/

namespace CustomModels.Shared

namespace Manifest

variable {manifest : Manifest}

theorem WellFormed.count_toNat (h : manifest.WellFormed) :
    (UInt32.ofNat manifest.assets.length).toNat = manifest.assets.length := by
  have hcount := h.count
  exact UInt32.toNat_ofNat_of_lt' (by rw [UInt32.size]; omega)

theorem WellFormed.boundary (h : manifest.WellFormed) :
    ManifestBoundary manifest.revision (UInt32.ofNat manifest.assets.length) manifest.totalDownloadSize := by
  refine ⟨h.revision, by rw [h.count_toNat]; exact h.count, h.total, fun hz => ?_⟩
  have hempty : manifest.assets = [] := by
    rw [← List.length_eq_zero_iff, ← h.count_toNat, hz]
    rfl
  rw [← UInt64.toNat_inj, ← h.sum, hempty]
  rfl

theorem entryMessages_encodable {revision : UInt64} (hr : revision ≠ 0) {assets : List AssetDescription}
    (hv : ∀ asset ∈ assets, isAssetDescriptionValid asset = true) {index : Nat}
    (hi : index + assets.length ≤ 256) :
    ∀ message ∈ entryMessages revision index assets, message.Encodable := by
  induction assets generalizing index with
  | nil => exact nofun
  | cons asset assets ih =>
      intro message hm
      rw [List.length_cons] at hi
      rcases List.mem_cons.mp hm with rfl | hm
      · have hindex : (UInt32.ofNat index).toNat = index :=
          UInt32.toNat_ofNat_of_lt' (by rw [UInt32.size]; omega)
        refine ⟨hr, ?_, hv asset List.mem_cons_self⟩
        show (UInt32.ofNat index).toNat < 256
        omega
      · exact ih (fun a ha => hv a (List.mem_cons_of_mem _ ha)) (by omega) message hm

theorem WellFormed.stream_encodable (h : manifest.WellFormed) :
    ∀ message ∈ manifest.stream, message.Encodable := by
  intro message hm
  have hcount := h.count
  rw [stream, List.cons_append, List.mem_cons, List.mem_append, List.mem_singleton] at hm
  rcases hm with rfl | hm | rfl
  · exact h.boundary
  · exact entryMessages_encodable h.revision h.entries.valid (by omega) message hm
  · exact h.boundary

theorem entryMessages_isManifestMessage (revision : UInt64) (index : Nat) (assets : List AssetDescription) :
    ∀ message ∈ entryMessages revision index assets, isManifestMessage message = true := by
  induction assets generalizing index with
  | nil => exact nofun
  | cons asset assets ih =>
      intro message hm
      rcases List.mem_cons.mp hm with rfl | hm
      · rfl
      · exact ih _ message hm

theorem stream_isManifestMessage (manifest : Manifest) :
    ∀ message ∈ manifest.stream, isManifestMessage message = true := by
  intro message hm
  rw [stream, List.cons_append, List.mem_cons, List.mem_append, List.mem_singleton] at hm
  rcases hm with rfl | hm | rfl
  · rfl
  · exact entryMessages_isManifestMessage manifest.revision 0 manifest.assets message hm
  · rfl

end Manifest

end CustomModels.Shared
