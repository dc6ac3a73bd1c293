import CustomModels.Lib.Latest
import CustomModels.Shared.Reports
import CustomModels.Server.Lemmas.Publication

/-!
# The latest reports

The record of a player behind a manifest, whatever reports have come in: it is determined by the latest report
on each asset.
-/

namespace CustomModels.Server
open CustomModels.Shared

/-- The record of a player who has the manifest and whose latest reports are `last`. -/
structure PlayerAssetState.Latest (manifest : Manifest) (state : PlayerAssetState)
    (last : UInt32 → Option (Option AssetErrorReason)) : Prop where
  revision : state.manifestRevision = manifest.revision
  expected : state.expectedAssets = (manifest.assets.map AssetDescription.assetId).toFinset
  ready : ∀ assetId, assetId ∈ state.readyAssets ↔ assetId ∈ state.expectedAssets ∧ last assetId = some none
  failed : ∀ assetId reason, state.failedAssets.lookup assetId = some reason ↔
    assetId ∈ state.expectedAssets ∧ last assetId = some (some reason)
  session : state.state = if state.readyAssets = state.expectedAssets then .assetsReady else .manifestComplete

namespace PlayerAssetState

variable {manifest : Manifest} {state other : PlayerAssetState} {last : UInt32 → Option (Option AssetErrorReason)}
  {assetId : UInt32} {reason : AssetErrorReason}

theorem Latest.unique (h : state.Latest manifest last) (ho : other.Latest manifest last) : state = other := by
  have hexpected : state.expectedAssets = other.expectedAssets := h.expected.trans ho.expected.symm
  have hready : state.readyAssets = other.readyAssets := by
    ext assetId
    rw [h.ready, ho.ready, hexpected]
  have hfailed : state.failedAssets = other.failedAssets := by
    apply Finmap.ext_lookup
    intro assetId
    apply Option.ext
    intro reason
    rw [h.failed, ho.failed, hexpected]
  have hsession : state.state = other.state := by rw [h.session, ho.session, hready, hexpected]
  have hrevision := h.revision.trans ho.revision.symm
  obtain ⟨_, _, _, _, _⟩ := state
  obtain ⟨_, _, _, _, _⟩ := other
  simp only at hexpected hready hfailed hsession hrevision
  subst hexpected hready hfailed hsession hrevision
  rfl

theorem Latest.congr (h : state.Latest manifest last) {next : UInt32 → Option (Option AssetErrorReason)}
    (hn : ∀ assetId ∈ state.expectedAssets, next assetId = last assetId) : state.Latest manifest next :=
  { h with
    ready := fun assetId => (h.ready assetId).trans (and_congr_right fun he => by rw [hn assetId he])
    failed := fun assetId reason =>
      (h.failed assetId reason).trans (and_congr_right fun he => by rw [hn assetId he]) }

theorem Latest.subset (h : state.Latest manifest last) : state.readyAssets ⊆ state.expectedAssets :=
  fun assetId ha => ((h.ready assetId).mp ha).1

theorem Latest.assetReady (h : state.Latest manifest last) (he : assetId ∈ state.expectedAssets) :
    (AssetPublication.handleAssetReady state ⟨manifest.revision, assetId⟩).2.Latest manifest
      (Function.update last assetId (some none)) := by
  have hfirst : ¬ (manifest.revision ≠ state.manifestRevision ∨ assetId ∉ state.expectedAssets) := by
    simp only [h.revision, he, not_true_eq_false, or_self, ne_eq, not_false_eq_true]
  simp only [AssetPublication.handleAssetReady, hfirst, ↓reduceIte]
  refine ⟨h.revision, h.expected, fun id => ?_, fun id reason => ?_, ?_⟩
  · by_cases heq : id = assetId
    · subst heq
      simp [he]
    · simp only [Finset.mem_insert, heq, false_or, Function.update_of_ne heq]
      exact h.ready id
  · by_cases heq : id = assetId
    · subst heq
      simp [Finmap.lookup_erase]
    · rw [Finmap.lookup_erase_ne heq, Function.update_of_ne heq]
      exact h.failed id reason
  · -- the sizes are compared, but the ready assets are among the expected ones
    have hsub : insert assetId state.readyAssets ⊆ state.expectedAssets :=
      Finset.insert_subset he h.subset
    have hcard : (insert assetId state.readyAssets).card = state.expectedAssets.card ↔
        insert assetId state.readyAssets = state.expectedAssets :=
      ⟨fun hc => Finset.eq_of_subset_of_card_le hsub hc.ge, fun heq => by rw [heq]⟩
    simp only [hcard]
    split
    · rfl
    · rename_i hne
      rw [h.session, if_neg]
      intro heq
      exact hne (Finset.Subset.antisymm hsub (heq ▸ Finset.subset_insert _ _))

theorem Latest.assetError (h : state.Latest manifest last) (he : assetId ∈ state.expectedAssets) :
    (AssetPublication.handleAssetError state ⟨manifest.revision, assetId, reason⟩).2.Latest manifest
      (Function.update last assetId (some (some reason))) := by
  have hfirst : ¬ (manifest.revision ≠ state.manifestRevision ∨ assetId ∉ state.expectedAssets) := by
    simp only [h.revision, he, not_true_eq_false, or_self, ne_eq, not_false_eq_true]
  simp only [AssetPublication.handleAssetError, hfirst, ↓reduceIte]
  refine ⟨h.revision, h.expected, fun id => ?_, fun id found => ?_, ?_⟩
  · by_cases heq : id = assetId
    · subst heq
      simp
    · simp only [Finset.mem_erase, ne_eq, heq, not_false_eq_true, true_and, Function.update_of_ne heq]
      exact h.ready id
  · by_cases heq : id = assetId
    · subst heq
      simp [Finmap.lookup_insert, he]
    · rw [Finmap.lookup_insert_of_ne _ heq, Function.update_of_ne heq]
      exact h.failed id found
  · have hne : state.readyAssets.erase assetId ≠ state.expectedAssets := by
      intro heq
      rw [← heq] at he
      exact Finset.notMem_erase assetId state.readyAssets he
    exact (if_neg hne).symm

end PlayerAssetState

namespace AssetPublication

variable {manifest : Manifest} {publication : AssetPublication} {playerId : UInt32} {state : PlayerAssetState}
  {last : UInt32 → Option (Option AssetErrorReason)} {message : Message}

/-! ## Handling a message -/

/-- Values for one asset replace what was last known of it. -/
theorem or_eq_update (assetId : UInt32) (value : Option AssetErrorReason)
    {report : UInt32 → Option (Option AssetErrorReason)}
    (h : ∀ id, report id = if assetId = id then some value else none) :
    (fun id => (report id).or (last id)) = Function.update last assetId (some value) := by
  funext id
  rw [h]
  by_cases heq : assetId = id
  · subst heq
    simp
  · simp [heq, Function.update_of_ne (Ne.symm heq)]

/-- A message that reports on no expected asset leaves the record as it is. -/
theorem handleIncoming_of_no_report (hl : publication.players.lookup playerId = some state)
    (hr : ∀ assetId ∈ state.expectedAssets, message.reportOn state.manifestRevision assetId = none) :
    (publication.handleIncoming playerId message).2.players.lookup playerId = some state := by
  simp only [handleIncoming, hl]
  split
  · exact hl
  · cases message with
    | assetReady ready =>
        have hrefused : ready.manifestRevision ≠ state.manifestRevision ∨ ready.assetId ∉ state.expectedAssets := by
          by_contra hc
          simp only [not_or, not_not] at hc
          have hnone := hr ready.assetId hc.2
          rw [Message.reportOn, if_pos ⟨hc.1, rfl⟩] at hnone
          cases hnone
        simp only [handleAssetReady, if_pos hrefused]
        exact Finmap.lookup_insert _
    | assetError error =>
        have hrefused : error.manifestRevision ≠ state.manifestRevision ∨ error.assetId ∉ state.expectedAssets := by
          by_contra hc
          simp only [not_or, not_not] at hc
          have hnone := hr error.assetId hc.2
          rw [Message.reportOn, if_pos ⟨hc.1, rfl⟩] at hnone
          cases hnone
        simp only [handleAssetError, if_pos hrefused]
        exact Finmap.lookup_insert _
    | _ => exact hl

/-- Every message takes the latest reports along. -/
theorem handleIncoming_latest (hl : publication.players.lookup playerId = some state)
    (h : state.Latest manifest last) (message : Message) :
    ∃ next : PlayerAssetState, (publication.handleIncoming playerId message).2.players.lookup playerId = some next ∧
      next.Latest manifest fun assetId => (message.reportOn manifest.revision assetId).or (last assetId) := by
  by_cases hr : ∀ assetId ∈ state.expectedAssets, message.reportOn state.manifestRevision assetId = none
  · refine ⟨state, handleIncoming_of_no_report hl hr, h.congr fun assetId he => ?_⟩
    rw [← h.revision, hr assetId he, Option.none_or]
  · simp only [not_forall] at hr
    obtain ⟨assetId, he, hr⟩ := hr
    have hstate : ¬ (state.state ≠ .manifestComplete ∧ state.state ≠ .assetsReady) := by
      rw [h.session]
      split <;> simp
    rw [h.revision] at hr
    cases message with
    | assetReady ready =>
        obtain ⟨revision, id⟩ := ready
        simp only [Message.reportOn, ite_eq_right_iff, reduceCtorEq, imp_false, not_not] at hr
        obtain ⟨rfl, rfl⟩ := hr
        refine ⟨(handleAssetReady state ⟨manifest.revision, id⟩).2, ?_, ?_⟩
        · simp only [handleIncoming, hl, if_neg hstate]
          exact Finmap.lookup_insert _
        · rw [or_eq_update id none fun other => by simp only [Message.reportOn, true_and]]
          exact h.assetReady he
    | assetError error =>
        obtain ⟨revision, id, reason⟩ := error
        simp only [Message.reportOn, ite_eq_right_iff, reduceCtorEq, imp_false, not_not] at hr
        obtain ⟨rfl, rfl⟩ := hr
        refine ⟨(handleAssetError state ⟨manifest.revision, id, reason⟩).2, ?_, ?_⟩
        · simp only [handleIncoming, hl, if_neg hstate]
          exact Finmap.lookup_insert _
        · rw [or_eq_update id (some reason) fun other => by simp only [Message.reportOn, true_and]]
          exact h.assetError he
    | _ => exact absurd rfl hr

/-! ## A manifest that was sent -/

theorem sendingState_latest (manifest : Manifest) :
    PlayerAssetState.Latest manifest
      { sendingState manifest with
        state := if manifest.assets.isEmpty then .assetsReady else .manifestComplete } fun _ => none where
  revision := rfl
  expected := rfl
  ready := fun assetId => by simp [sendingState, PlayerAssetState.ofState]
  failed := fun assetId reason => by simp [sendingState, PlayerAssetState.ofState]
  session := by
    have hempty : manifest.assets.isEmpty = true ↔
        ∅ = (manifest.assets.map AssetDescription.assetId).toFinset := by
      rw [List.isEmpty_iff, eq_comm (a := ∅), List.toFinset_eq_empty_iff, List.map_eq_nil_iff]
    exact if_congr hempty rfl rfl

theorem onPlayerCompatible_sent_latest {registry : AssetRegistry} {transport : ServerTransport}
    (h : (publication.onPlayerCompatible registry transport playerId).1 = .sent) :
    ∃ state : PlayerAssetState,
      (publication.onPlayerCompatible registry transport playerId).2.1.players.lookup playerId = some state ∧
        state.Latest registry.buildManifest fun _ => none := by
  refine ⟨_, ?_, sendingState_latest registry.buildManifest⟩
  unfold onPlayerCompatible at h ⊢
  split at h
  · cases h
  · split at h
    · cases h
    · rename_i hnew
      split at h
      · cases h
      · rename_i hstate
        rw [if_neg hnew, if_neg hstate]
        simp only at h ⊢
        split at h
        · cases h
        · exact Finmap.lookup_insert _

/-! ## Sequences of messages -/

/-- `HandleIncoming` for one player. -/
def handleFrom (playerId : UInt32) (publication : AssetPublication) (message : Message) : AssetPublication :=
  (publication.handleIncoming playerId message).2

theorem handleFrom_latest (hl : publication.players.lookup playerId = some state)
    (h : state.Latest manifest fun _ => none) (messages : List Message) :
    ∃ final : PlayerAssetState,
      (Lib.run (handleFrom playerId) publication messages).players.lookup playerId = some final ∧
        final.Latest manifest fun assetId => Lib.latest (Message.reportOn manifest.revision assetId) messages := by
  refine Lib.run_latest (I := fun (publication : AssetPublication) last => ∃ final : PlayerAssetState,
    publication.players.lookup playerId = some final ∧ final.Latest manifest last) _ ?_ ⟨state, hl, h⟩ messages
  intro publication last message hi
  obtain ⟨state, hl, h⟩ := hi
  exact handleIncoming_latest hl h message

end AssetPublication

end CustomModels.Server
