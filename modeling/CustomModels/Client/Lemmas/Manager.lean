import CustomModels.Client.Manager
import CustomModels.Client.Lemmas.Streams

/-!
# The client asset manager

What each call does to the manifest, the queue, the states and the events. A session completes at most one
manifest, and the queue starts with all of its entries.
-/

namespace CustomModels.Client
open CustomModels.Shared

/-! ## One manifest a session -/

namespace ManifestReceiver

/-- The receiver has been fed some messages since it was fresh. -/
def Fed (receiver : ManifestReceiver) : Prop := ∃ messages, fresh.afterMessages messages = receiver

theorem fed_fresh : Fed fresh := ⟨[], rfl⟩

variable {receiver : ManifestReceiver}

theorem Fed.handle (h : Fed receiver) (message : Message) : Fed (receiver.handle message).2 := by
  obtain ⟨messages, rfl⟩ := h
  exact ⟨messages ++ [message], afterMessages_append _ _ _⟩

/-- Only a begin message at the start and an end message that completes touch what is completed. -/
theorem handle_completed (message : Message) (hidle : receiver.state ≠ .idle)
    (h : (receiver.handle message).1 ≠ .complete) :
    (receiver.handle message).2.completed = receiver.completed := by
  cases message with
  | manifestBegin value => rw [handle, handleBegin, if_pos hidle]
  | manifestAsset item =>
      simp only [handle, handleAsset]
      split_ifs <;> rfl
  | manifestEnd value =>
      simp only [handle, handleEnd] at h ⊢
      split
      · rfl
      · rename_i hfirst
        rw [if_neg hfirst] at h
        cases hsum : sumFileSizes 0 receiver.manifest.assets with
        | none => rfl
        | some total =>
            simp only [hsum] at h ⊢
            split_ifs at h ⊢
            · rfl
            · rfl
            · exact absurd rfl h
  | _ => rfl

theorem Tracks.fresh_of_idle {messages : List Message} (h : Tracks messages receiver)
    (hs : receiver.state = .idle) : receiver = fresh := by
  cases h with
  | idle => rfl
  | receiving => cases hs
  | complete _ _ _ hc =>
      rw [hc] at hs
      cases hs
  | failed _ _ hf =>
      rw [hf] at hs
      cases hs

/-- A message leaves the completed manifest alone, or it completes the only one of the session. -/
theorem Fed.handle_cases (h : Fed receiver) (message : Message) :
    ((receiver.handle message).1 ≠ .complete ∧
        (receiver.handle message).2.completed = receiver.completed) ∨
      ∃ manifest : Manifest, (receiver.handle message).1 = .complete ∧ manifest.WellFormed ∧
        receiver.completed = none ∧ (receiver.handle message).2.completed = some manifest := by
  obtain ⟨messages, rfl⟩ := h
  have ht := tracks_afterMessages messages
  cases hm : isManifestMessage message with
  | false =>
      rw [handle_other hm]
      exact .inl ⟨nofun, rfl⟩
  | true =>
      by_cases hc : ((fresh.afterMessages messages).handle message).1 = .complete
      · obtain ⟨manifest, hw, -, hcompleted⟩ := (ht.handle hm).complete hc
        refine .inr ⟨manifest, hc, hw, ?_, hcompleted⟩
        generalize fresh.afterMessages messages = receiver, messages.filter isManifestMessage = seen at ht hc
        have hgoing : ¬ (receiver.state = .complete ∨ receiver.state = .failed) := fun hs => by
          rcases (handle_fails_of_over hs hm).1 with h | h <;> rw [h] at hc <;> cases hc
        cases ht with
        | idle => rfl
        | receiving => rfl
        | complete _ _ _ hs => exact absurd (.inl hs) hgoing
        | failed _ _ hs => exact absurd (.inr hs) hgoing
      · refine .inl ⟨hc, ?_⟩
        by_cases hi : (fresh.afterMessages messages).state = .idle
        · rw [ht.fresh_of_idle hi]
          cases message with
          | manifestBegin value =>
              simp only [ManifestReceiver.handle, handleBegin]
              split_ifs <;> rfl
          | manifestAsset item => rfl
          | manifestEnd value => rfl
          | _ => cases hm
        · exact handle_completed message hi hc

end ManifestReceiver

namespace ClientAssetManager

variable {manager : ClientAssetManager}

/-! ## The states of the assets -/

@[simp] theorem getState_insert (manager : ClientAssetManager) (assetId other : UInt32) (state : AssetState) :
    getState { manager with states := manager.states.insert assetId state } other =
      if other = assetId then state else manager.getState other := by
  unfold getState
  split
  · rename_i h
    rw [h, Finmap.lookup_insert]
    rfl
  · rename_i h
    rw [Finmap.lookup_insert_of_ne _ h]

/-! ## `QueueManifest` -/

def queuedItem (manager : ClientAssetManager) (revision : UInt64) (asset : AssetDescription) : WorkItem :=
  ⟨manager.generation, revision, asset⟩

def queuedEvent (revision : UInt64) (asset : AssetDescription) : ClientAssetEvent :=
  ⟨.queued, revision, asset.assetId, 0, .internalError⟩

/-- Assets that have no state yet are all queued, in order. -/
theorem queueAssets_eq (manager : ClientAssetManager) (revision : UInt64) {assets : List AssetDescription}
    (hids : (assets.map AssetDescription.assetId).Nodup)
    (hnew : ∀ asset ∈ assets, manager.states.lookup asset.assetId = none) :
    ∃ states, manager.queueAssets revision assets =
        { manager with
          states
          queue := manager.queue ++ assets.map (manager.queuedItem revision)
          events := manager.events ++ assets.map (queuedEvent revision) } ∧
      ∀ assetId, states.lookup assetId =
        if assetId ∈ assets.map AssetDescription.assetId then some .queued
        else manager.states.lookup assetId := by
  induction assets generalizing manager with
  | nil => exact ⟨manager.states, by simp [queueAssets], fun _ => by simp⟩
  | cons asset assets ih =>
      rw [List.map_cons, List.nodup_cons] at hids
      rw [queueAssets, hnew asset List.mem_cons_self]
      obtain ⟨states, heq, hstates⟩ := ih
        { manager with
          states := manager.states.insert asset.assetId .queued
          queue := manager.queue ++ [⟨manager.generation, revision, asset⟩]
          events := manager.events ++ [⟨.queued, revision, asset.assetId, 0, .internalError⟩] } hids.2 (by
        intro other ho
        have hne : other.assetId ≠ asset.assetId := by
          intro he
          exact hids.1 (he ▸ List.mem_map_of_mem ho)
        exact (Finmap.lookup_insert_of_ne _ hne).trans (hnew other (List.mem_cons_of_mem _ ho)))
      refine ⟨states, ?_, fun assetId => ?_⟩
      · simp only [heq, List.append_assoc, List.singleton_append, List.map_cons]
        rfl
      · rw [hstates, List.map_cons]
        by_cases h : assetId = asset.assetId
        · subst h
          simp [hids.1, Finmap.lookup_insert]
        · simp [h, Finmap.lookup_insert_of_ne]

/-- The first manifest of a session is queued as a whole. -/
theorem queueManifest_of_empty (manager : ClientAssetManager) {manifest : Manifest} (h : manifest.WellFormed)
    (hs : manager.states = ∅) :
    ∃ states, manager.queueManifest manifest =
        { manager with
          states
          queue := manager.queue ++ manifest.assets.map (manager.queuedItem manifest.revision)
          events := manager.events ++ manifest.assets.map (queuedEvent manifest.revision) } ∧
      ∀ assetId, states.lookup assetId =
        if assetId ∈ manifest.assets.map AssetDescription.assetId then some .queued else none := by
  obtain ⟨states, heq, hstates⟩ := queueAssets_eq manager manifest.revision h.entries.ids
    fun asset _ => by rw [hs, Finmap.lookup_empty]
  refine ⟨states, heq, fun assetId => ?_⟩
  rw [hstates, hs, Finmap.lookup_empty]

/-! ## `HandleMessage` -/

/-- The event in front of the queue events of a manifest. -/
def completeEvent (manifest : Manifest) : ClientAssetEvent :=
  ⟨.manifestComplete, manifest.revision, 0, UInt32.ofNat manifest.assets.length, .internalError⟩

/-- A message leaves the manifest, the queue and the states alone, or it queues the whole manifest. -/
theorem handleMessage_cases (h : manager.receiver.Fed) (message : Message) :
    (∃ events : List ClientAssetEvent, (∀ event ∈ events, event.kind = .manifestBegin) ∧
        (manager.handleMessage message).2 =
          { manager with
            receiver := (manager.receiver.handle message).2
            events := manager.events ++ events } ∧
        (manager.receiver.handle message).2.completed = manager.receiver.completed) ∨
      ∃ manifest : Manifest, manifest.WellFormed ∧ manager.receiver.completed = none ∧
        (manager.receiver.handle message).2.completed = some manifest ∧
        (manager.handleMessage message).2 =
          queueManifest
            { manager with
              receiver := (manager.receiver.handle message).2
              events := manager.events ++ [completeEvent manifest] } manifest := by
  rcases h.handle_cases message with ⟨hc, hcompleted⟩ | ⟨manifest, hc, hw, hnone, hcompleted⟩
  · left
    simp only [handleMessage]
    split
    · exact ⟨_, fun event he => by rw [List.mem_singleton.mp he], rfl, hcompleted⟩
    · rename_i hcomplete _
      exact absurd hcomplete hc
    · exact ⟨[], nofun, by simp, hcompleted⟩
  · refine .inr ⟨manifest, hw, hnone, hcompleted, ?_⟩
    simp only [handleMessage, hc, hcompleted]
    rfl

end ClientAssetManager

end CustomModels.Client
