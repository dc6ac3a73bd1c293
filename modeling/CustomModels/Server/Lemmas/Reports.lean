import CustomModels.Shared.Reports
import CustomModels.Server.Lemmas.Publication

/-!
# Recorded reports

What the server knows of a player behind the manifest and some reports, each of another asset.
-/

namespace CustomModels.Server
open CustomModels.Shared

/-- The record of a player who has the manifest and has reported these ends. -/
structure PlayerAssetState.Recorded (manifest : Manifest) (state : PlayerAssetState)
    (reported : List AssetEnd) : Prop where
  revision : state.manifestRevision = manifest.revision
  expected : state.expectedAssets = (manifest.assets.map AssetDescription.assetId).toFinset
  ready : ∀ assetId, assetId ∈ state.readyAssets ↔ ⟨assetId, none⟩ ∈ reported
  failed : ∀ assetId reason,
    state.failedAssets.lookup assetId = some reason ↔ ⟨assetId, some reason⟩ ∈ reported
  session : state.state =
    if state.readyAssets.card = state.expectedAssets.card then .assetsReady else .manifestComplete

/-- The answer that records the report of an end. -/
def recordedResult (ended : AssetEnd) : AssetDispatchResult :=
  match ended.error with
  | none => .readyRecorded
  | some _ => .errorRecorded

namespace PlayerAssetState

variable {manifest : Manifest} {state : PlayerAssetState} {reported : List AssetEnd} {assetId : UInt32}

theorem Recorded.subset (h : state.Recorded manifest reported)
    (hids : ∀ e ∈ reported, e.assetId ∈ manifest.assets.map AssetDescription.assetId) :
    state.readyAssets ⊆ state.expectedAssets := by
  intro id hid
  rw [h.expected, List.mem_toFinset]
  exact hids _ ((h.ready id).mp hid)

/-- Not every asset is Ready while one of them has not been reported so. -/
theorem Recorded.card_lt (h : state.Recorded manifest reported)
    (hids : ∀ e ∈ reported, e.assetId ∈ manifest.assets.map AssetDescription.assetId)
    (hexpected : assetId ∈ state.expectedAssets) (hnew : assetId ∉ state.readyAssets) :
    state.readyAssets.card < state.expectedAssets.card :=
  Finset.card_lt_card ⟨h.subset hids, fun hsub => hnew (hsub hexpected)⟩

theorem Recorded.assetReady (h : state.Recorded manifest reported)
    (hids : ∀ e ∈ reported, e.assetId ∈ manifest.assets.map AssetDescription.assetId)
    (hid : assetId ∈ manifest.assets.map AssetDescription.assetId)
    (hnew : ∀ e ∈ reported, e.assetId ≠ assetId) :
    (AssetPublication.handleAssetReady state ⟨manifest.revision, assetId⟩).1 = .readyRecorded ∧
      (AssetPublication.handleAssetReady state ⟨manifest.revision, assetId⟩).2.Recorded manifest
        (reported ++ [⟨assetId, none⟩]) := by
  have hexpected : assetId ∈ state.expectedAssets := by rwa [h.expected, List.mem_toFinset]
  have hready : assetId ∉ state.readyAssets := fun hr => hnew _ ((h.ready assetId).mp hr) rfl
  have hfirst : ¬ (manifest.revision ≠ state.manifestRevision ∨ assetId ∉ state.expectedAssets) := by
    simp only [h.revision, hexpected, not_true_eq_false, or_self, ne_eq, not_false_eq_true]
  simp only [AssetPublication.handleAssetReady, hfirst, ↓reduceIte, true_and]
  refine ⟨h.revision, h.expected, fun id => ?_, fun id reason => ?_, ?_⟩
  · rw [Finset.mem_insert, h.ready, List.mem_append, List.mem_singleton, AssetEnd.mk.injEq, or_comm]
    simp
  · have hfailed := h.failed id reason
    by_cases heq : id = assetId
    · subst heq
      have hnone : (⟨id, some reason⟩ : AssetEnd) ∉ reported := fun hm => hnew _ hm rfl
      simp [Finmap.lookup_erase, hnone]
    · rw [Finmap.lookup_erase_ne heq, hfailed]
      simp
  · have hlt := h.card_lt hids hexpected hready
    have hold : state.state = .manifestComplete := by rw [h.session, if_neg hlt.ne]
    rw [hold]

theorem Recorded.assetError (h : state.Recorded manifest reported)
    (hids : ∀ e ∈ reported, e.assetId ∈ manifest.assets.map AssetDescription.assetId)
    (hid : assetId ∈ manifest.assets.map AssetDescription.assetId)
    (hnew : ∀ e ∈ reported, e.assetId ≠ assetId) (reason : AssetErrorReason) :
    (AssetPublication.handleAssetError state ⟨manifest.revision, assetId, reason⟩).1 = .errorRecorded ∧
      (AssetPublication.handleAssetError state ⟨manifest.revision, assetId, reason⟩).2.Recorded manifest
        (reported ++ [⟨assetId, some reason⟩]) := by
  have hexpected : assetId ∈ state.expectedAssets := by rwa [h.expected, List.mem_toFinset]
  have hready : assetId ∉ state.readyAssets := fun hr => hnew _ ((h.ready assetId).mp hr) rfl
  have hfirst : ¬ (manifest.revision ≠ state.manifestRevision ∨ assetId ∉ state.expectedAssets) := by
    simp only [h.revision, hexpected, not_true_eq_false, or_self, ne_eq, not_false_eq_true]
  simp only [AssetPublication.handleAssetError, hfirst, ↓reduceIte, true_and, Finset.erase_eq_of_notMem hready]
  refine ⟨h.revision, h.expected, fun id => ?_, fun id found => ?_, ?_⟩
  · rw [h.ready]
    simp
  · by_cases heq : id = assetId
    · subst heq
      have hnone : (⟨id, some found⟩ : AssetEnd) ∉ reported := fun hm => hnew _ hm rfl
      simp [Finmap.lookup_insert, hnone, eq_comm]
    · rw [Finmap.lookup_insert_of_ne _ heq, h.failed]
      simp [heq]
  · exact (if_neg (h.card_lt hids hexpected hready).ne).symm

end PlayerAssetState

namespace AssetPublication

variable {manifest : Manifest} {publication : AssetPublication} {playerId : UInt32} {state : PlayerAssetState}
  {reported : List AssetEnd}

/-- The report of an asset that was not reported before is recorded. -/
theorem handleIncoming_report (hl : publication.players.lookup playerId = some state)
    (h : state.Recorded manifest reported)
    (hids : ∀ e ∈ reported, e.assetId ∈ manifest.assets.map AssetDescription.assetId) (ended : AssetEnd)
    (hid : ended.assetId ∈ manifest.assets.map AssetDescription.assetId)
    (hnew : ∀ e ∈ reported, e.assetId ≠ ended.assetId) :
    ∃ next : PlayerAssetState, publication.handleIncoming playerId (ended.report manifest.revision) =
        (recordedResult ended, publication.assign playerId next) ∧
      next.Recorded manifest (reported ++ [ended]) := by
  have hstate : ¬ (state.state ≠ .manifestComplete ∧ state.state ≠ .assetsReady) := by
    rw [h.session]
    split <;> simp
  obtain ⟨assetId, error⟩ := ended
  cases error with
  | none =>
      obtain ⟨hresult, hnext⟩ := h.assetReady hids hid hnew
      refine ⟨_, ?_, hnext⟩
      simp only [AssetEnd.report, handleIncoming, hl, if_neg hstate, recordedResult]
      rw [← hresult]
  | some reason =>
      obtain ⟨hresult, hnext⟩ := h.assetError hids hid hnew reason
      refine ⟨_, ?_, hnext⟩
      simp only [AssetEnd.report, handleIncoming, hl, if_neg hstate, recordedResult]
      rw [← hresult]

/-! ## A manifest that was sent -/

theorem sendingState_recorded (manifest : Manifest)
    (hids : (manifest.assets.map AssetDescription.assetId).Nodup) :
    PlayerAssetState.Recorded manifest
      { sendingState manifest with
        state := if manifest.assets.isEmpty then .assetsReady else .manifestComplete } [] where
  revision := rfl
  expected := rfl
  ready := fun assetId => by simp [sendingState, PlayerAssetState.ofState]
  failed := fun assetId reason => by simp [sendingState, PlayerAssetState.ofState]
  session := by
    simp only [sendingState, PlayerAssetState.ofState, Finset.card_empty, List.toFinset_card_of_nodup hids,
      List.length_map]
    cases manifest.assets <;> simp

end AssetPublication

end CustomModels.Server
