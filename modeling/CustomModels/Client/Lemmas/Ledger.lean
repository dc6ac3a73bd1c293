import CustomModels.Client.Runtime
import CustomModels.Client.Lemmas.Worker

/-!
# The ledger of a session

Before the manifest is complete the worker has nothing to do for the session. From then on every entry of the
manifest has come to its end, is in hand or is queued, and the events report each end once.
-/

namespace CustomModels.Client
open CustomModels.Shared

/-! ## What is in hand -/

/-- The asset in hand, if it is of the session with the generation. -/
def Worker.handIds (worker : Worker) (generation : UInt64) : List UInt32 :=
  match worker.work? with
  | none => []
  | some work => if work.generation = generation then [work.asset.assetId] else []

namespace Worker

variable {worker : Worker} {generation : UInt64} {work : WorkItem}

theorem handIds_of_none (h : worker.work? = none) : worker.handIds generation = [] := by rw [handIds, h]

theorem handIds_of_current (h : worker.work? = some work) (hg : work.generation = generation) :
    worker.handIds generation = [work.asset.assetId] := by
  rw [handIds, h]
  exact if_pos hg

theorem handIds_of_stale (h : worker.work? = some work) (hg : work.generation ≠ generation) :
    worker.handIds generation = [] := by
  rw [handIds, h]
  exact if_neg hg

theorem handIds_congr {other : Worker} (h : worker.work? = other.work?) (generation : UInt64) :
    worker.handIds generation = other.handIds generation := by
  rw [handIds, handIds, h]

end Worker

namespace ClientAssetManager

variable {manager next : ClientAssetManager} {manifest : Manifest} {ended : List AssetEnd}

/-- The reports among the events. -/
def reports (events : List ClientAssetEvent) : List Message := events.filterMap ClientAssetEvent.report

@[simp] theorem reports_append (xs ys : List ClientAssetEvent) :
    reports (xs ++ ys) = reports xs ++ reports ys :=
  List.filterMap_append

/-! ## Before the manifest -/

/-- A session without a manifest yet: work in hand is of an earlier session. -/
structure Awaiting (manager : ClientAssetManager) : Prop where
  running : manager.stopping = false
  completed : manager.receiver.completed = none
  queue : manager.queue = []
  states : manager.states = ∅
  hand : ∀ work, manager.worker.work? = some work → work.generation ≠ manager.generation

theorem Awaiting.setState_eq (h : manager.Awaiting) {work : WorkItem}
    (hw : manager.worker.work? = some work) (state : AssetState) (event : ClientAssetEventKind)
    (error : AssetErrorReason) : manager.setState work state event error = manager :=
  setState_of_stale (h.hand work hw)

/-- The worker leaves no trace in a session without a manifest. -/
theorem Awaiting.booked (h : manager.Awaiting) (hb : Booked manager next) :
    next.Awaiting ∧ next.events = manager.events ∧ next.receiver = manager.receiver := by
  cases hb with
  | nothing files worker hand =>
      exact ⟨⟨h.running, h.completed, h.queue, h.states, fun work hw => h.hand work (hand ▸ hw)⟩, rfl, rfl⟩
  | takes work queue waiting first =>
      rw [h.queue] at first
      cases first
  | drops work checking stale => exact ⟨⟨h.running, h.completed, h.queue, h.states, nofun⟩, rfl, rfl⟩
  | notes work state event worker hand kept kind =>
      rw [h.setState_eq hand]
      exact ⟨⟨h.running, h.completed, h.queue, h.states,
        fun w hw => h.hand w (hand.trans (kept.symm.trans hw))⟩, rfl, rfl⟩
  | becomesReady work ready =>
      rw [h.setState_eq (congrArg Worker.work? ready)]
      exact ⟨⟨h.running, h.completed, h.queue, h.states, nofun⟩, rfl, rfl⟩
  | fails work reason failing =>
      rw [h.setState_eq (congrArg Worker.work? failing)]
      exact ⟨⟨h.running, h.completed, h.queue, h.states, nofun⟩, rfl, rfl⟩

/-! ## The ledger -/

/-- The state that tells how an asset ended. -/
def endState (error : Option AssetErrorReason) : AssetState := if error = none then .ready else .failed

theorem endState_eq_ready {error : Option AssetErrorReason} :
    endState error = .ready ↔ error = none := by
  unfold endState
  split <;> simp_all

theorem endState_eq_failed {error : Option AssetErrorReason} :
    endState error = .failed ↔ error ≠ none := by
  unfold endState
  split <;> simp_all

/-- Every entry of the manifest has ended, is in hand or is queued. -/
structure Ledger (manifest : Manifest) (manager : ClientAssetManager) (ended : List AssetEnd) : Prop where
  running : manager.stopping = false
  completed : manager.receiver.completed = some manifest
  wellFormed : manifest.WellFormed
  assets : (manifest.assets.map AssetDescription.assetId).Perm
    (ended.map AssetEnd.assetId ++ manager.worker.handIds manager.generation ++
      manager.queue.map fun work => work.asset.assetId)
  queue : ∀ work ∈ manager.queue,
    work.generation = manager.generation ∧ work.manifestRevision = manifest.revision
  hand : ∀ work, manager.worker.work? = some work → work.generation = manager.generation →
    work.manifestRevision = manifest.revision
  known : ∀ work reason, manager.worker = .failing work reason → work.generation = manager.generation →
    reason.Known
  states : ∀ e ∈ ended, manager.getState e.assetId = endState e.error
  errors : ∀ e ∈ ended, ∀ reason ∈ e.error, reason.Known

theorem Ledger.nodup (h : Ledger manifest manager ended) :
    (ended.map AssetEnd.assetId ++ manager.worker.handIds manager.generation ++
      manager.queue.map fun work => work.asset.assetId).Nodup :=
  h.assets.nodup_iff.mp h.wellFormed.entries.ids

theorem Ledger.mem_ids (h : Ledger manifest manager ended) {e : AssetEnd} (he : e ∈ ended) :
    e.assetId ∈ manifest.assets.map AssetDescription.assetId := by
  rw [h.assets.mem_iff, List.append_assoc]
  exact List.mem_append_left _ (List.mem_map_of_mem he)

theorem Ledger.ended_nodup (h : Ledger manifest manager ended) : (ended.map AssetEnd.assetId).Nodup :=
  (List.nodup_append.mp (List.nodup_append.mp h.nodup).1).1

theorem Ledger.report_encodable (h : Ledger manifest manager ended) {e : AssetEnd} (he : e ∈ ended) :
    (e.report manifest.revision).Encodable := by
  refine AssetEnd.report_encodable h.wellFormed.revision ?_ (h.errors e he)
  obtain ⟨asset, ha, hid⟩ := List.mem_map.mp (h.mem_ids he)
  have hvalid := h.wellFormed.entries.valid asset ha
  simp only [isAssetDescriptionValid, Bool.and_eq_true, bne_iff_ne] at hvalid
  rw [← hid]
  exact hvalid.1.1.1.1.1

theorem Ledger.ne_hand (h : Ledger manifest manager ended) {work : WorkItem}
    (hw : manager.worker.work? = some work) (hg : work.generation = manager.generation) :
    ∀ e ∈ ended, e.assetId ≠ work.asset.assetId := by
  intro e he heq
  have hnodup := (List.nodup_append.mp h.nodup).1
  rw [Worker.handIds_of_current hw hg] at hnodup
  exact (List.nodup_append.mp hnodup).2.2 _ (List.mem_map_of_mem he) _ (List.mem_singleton.mpr rfl) heq

/-- Nothing ends: what is in hand or queued stays so, up to where it is. -/
theorem Ledger.move (h : Ledger manifest manager ended) (hrunning : next.stopping = manager.stopping)
    (hreceiver : next.receiver = manager.receiver) (hgeneration : next.generation = manager.generation)
    (hids : next.worker.handIds next.generation ++ next.queue.map (fun work => work.asset.assetId) =
      manager.worker.handIds manager.generation ++ manager.queue.map fun work => work.asset.assetId)
    (hqueue : ∀ work ∈ next.queue, work ∈ manager.queue)
    (hhand : ∀ work, next.worker.work? = some work →
      manager.worker.work? = some work ∨ work ∈ manager.queue)
    (hknown : ∀ work reason, next.worker = .failing work reason → reason.Known)
    (hstates : ∀ e ∈ ended, next.getState e.assetId = manager.getState e.assetId) :
    Ledger manifest next ended where
  running := hrunning.trans h.running
  completed := (congrArg ManifestReceiver.completed hreceiver).trans h.completed
  wellFormed := h.wellFormed
  assets := by
    rw [List.append_assoc, hids, ← List.append_assoc]
    exact h.assets
  queue := fun work hw => hgeneration ▸ h.queue work (hqueue work hw)
  hand := fun work hw hg => by
    rcases hhand work hw with hw | hw
    · exact h.hand work hw (hg.trans hgeneration)
    · exact (h.queue work hw).2
  known := fun work reason hw _ => hknown work reason hw
  states := fun e he => (hstates e he).trans (h.states e he)
  errors := h.errors

theorem Ledger.finish (h : Ledger manifest manager ended) {work : WorkItem}
    (hw : manager.worker.work? = some work) (hg : work.generation = manager.generation)
    (error : Option AssetErrorReason) (hknown : ∀ reason ∈ error, reason.Known)
    (event : ClientAssetEventKind) (reason : AssetErrorReason) :
    Ledger manifest { manager.setState work (endState error) event reason with worker := .waiting }
      (ended ++ [⟨work.asset.assetId, error⟩]) := by
  have hne := h.ne_hand hw hg
  have hstate : ∀ assetId, ClientAssetManager.getState
      { manager.setState work (endState error) event reason with worker := .waiting } assetId =
        if assetId = work.asset.assetId then endState error else manager.getState assetId := by
    intro assetId
    have hstate := getState_setState manager work (endState error) event reason assetId
    rw [if_congr (and_iff_right hg) rfl rfl] at hstate
    exact hstate
  rw [setState_of_current hg] at hstate ⊢
  refine ⟨h.running, h.completed, h.wellFormed, ?_, h.queue, nofun, nofun, ?_, ?_⟩
  · rw [Worker.handIds_of_none rfl, List.append_nil, List.map_append]
    have hassets := h.assets
    rw [Worker.handIds_of_current hw hg] at hassets
    exact hassets
  · intro e he
    rw [hstate]
    rcases List.mem_append.mp he with he | he
    · rw [if_neg (hne e he)]
      exact h.states e he
    · rw [List.mem_singleton.mp he]
      exact if_pos rfl
  · intro e he
    rcases List.mem_append.mp he with he | he
    · exact h.errors e he
    · rw [List.mem_singleton.mp he]
      exact hknown

/-- Work of an earlier session leaves the ledger alone. -/
theorem Ledger.leave (h : Ledger manifest manager ended) {work : WorkItem}
    (hw : manager.worker.work? = some work) (hg : work.generation ≠ manager.generation) :
    Ledger manifest { manager with worker := .waiting } ended := by
  refine h.move rfl rfl rfl ?_ (fun _ hm => hm) nofun nofun fun _ _ => rfl
  rw [Worker.handIds_of_stale hw hg]
  rfl

/-- How the ledger goes on to the next state: the new ends are those that the new events report. -/
def Ledger.Continues (manifest : Manifest) (manager next : ClientAssetManager) (ended : List AssetEnd) : Prop :=
  ∃ new events, Ledger manifest next (ended ++ new) ∧ next.events = manager.events ++ events ∧
    reports events = new.map (AssetEnd.report manifest.revision) ∧ next.receiver = manager.receiver

theorem Ledger.continues_silently (h : Ledger manifest next ended) (hevents : next.events = manager.events)
    (hreceiver : next.receiver = manager.receiver) : Ledger.Continues manifest manager next ended :=
  ⟨[], [], by rwa [List.append_nil], by rw [hevents, List.append_nil], rfl, hreceiver⟩

/-- The last note about an asset reports its end, if it is of this session. -/
theorem Ledger.settle (h : Ledger manifest manager ended) {work : WorkItem}
    (hw : manager.worker.work? = some work) (error : Option AssetErrorReason)
    (hknown : work.generation = manager.generation → ∀ reason ∈ error, reason.Known)
    (event : ClientAssetEventKind) (reason : AssetErrorReason)
    (hreport : ∀ revision assetId, ClientAssetEvent.report ⟨event, revision, assetId, 0, reason⟩ =
      some (AssetEnd.report revision ⟨assetId, error⟩)) :
    Ledger.Continues manifest manager
      { manager.setState work (endState error) event reason with worker := .waiting } ended := by
  by_cases hg : work.generation = manager.generation
  · refine ⟨[⟨work.asset.assetId, error⟩], [⟨event, work.manifestRevision, work.asset.assetId, 0, reason⟩],
      h.finish hw hg error (hknown hg) event reason, ?_, ?_, ?_⟩
    · rw [setState_of_current hg]
    · rw [← h.hand work hw hg]
      exact List.filterMap_cons_some (hreport _ _)
    · rw [setState_of_current hg]
  · rw [setState_of_stale hg]
    exact (h.leave hw hg).continues_silently rfl rfl

/-- A step of the worker adds to the ended assets what its events report. -/
theorem Ledger.booked (h : Ledger manifest manager ended) (hb : Booked manager next)
    (hknown : ∀ work reason, next.worker = .failing work reason → reason.Known) :
    Ledger.Continues manifest manager next ended := by
  cases hb with
  | nothing files worker hand =>
      refine Ledger.continues_silently (h.move rfl rfl rfl ?_ (fun _ hw => hw) (fun w hw => .inl (hand ▸ hw))
        hknown fun _ _ => rfl) rfl rfl
      exact congrArg (· ++ _) (Worker.handIds_congr hand _)
  | takes work queue waiting first =>
      have hwork : work ∈ manager.queue := first ▸ List.mem_cons_self
      refine Ledger.continues_silently (h.move rfl rfl rfl ?_ (fun w hw => first ▸ List.mem_cons_of_mem _ hw)
        (fun w hw => .inr ?_) hknown fun _ _ => rfl) rfl rfl
      · rw [Worker.handIds_of_none (congrArg Worker.work? waiting), first]
        exact congrArg (· ++ _) (Worker.handIds_of_current rfl (h.queue work hwork).1)
      · cases hw
        exact hwork
  | drops work checking stale =>
      have hstale : work.generation ≠ manager.generation := by
        simpa [isCurrentGeneration, h.running] using stale
      exact (h.leave (congrArg Worker.work? checking) hstale).continues_silently rfl rfl
  | notes work state event worker hand kept kind =>
      have hkept : ∀ w, worker.work? = some w → manager.worker.work? = some w :=
        fun w hw => hand.trans (kept.symm.trans hw)
      have hids := congrArg (· ++ manager.queue.map fun work => work.asset.assetId)
        (Worker.handIds_congr (kept.trans hand.symm) manager.generation)
      by_cases hg : work.generation = manager.generation
      · refine ⟨[], [⟨event, work.manifestRevision, work.asset.assetId, 0, .internalError⟩], ?_, ?_, ?_, ?_⟩
        · rw [List.append_nil]
          have hstate := getState_setState manager work state event .internalError
          rw [setState_of_current hg] at hstate ⊢
          refine h.move rfl rfl rfl hids (fun _ hw => hw) (fun w hw => .inl (hkept w hw)) hknown fun e he => ?_
          exact (hstate e.assetId).trans (if_neg fun hc => h.ne_hand hand hg e he hc.2)
        · rw [setState_of_current hg]
        · cases event <;> first | rfl | exact absurd rfl kind.1 | exact absurd rfl kind.2
        · rw [setState_of_current hg]
      · rw [setState_of_stale hg] at hknown ⊢
        exact Ledger.continues_silently (h.move rfl rfl rfl hids (fun _ hw => hw)
          (fun w hw => .inl (hkept w hw)) hknown fun _ _ => rfl) rfl rfl
  | becomesReady work ready =>
      exact h.settle (congrArg Worker.work? ready) none (fun _ => nofun) .ready .internalError fun _ _ => rfl
  | fails work reason failing =>
      refine h.settle (congrArg Worker.work? failing) (some reason) (fun hg => ?_) .failed reason fun _ _ => rfl
      rintro _ ⟨⟩
      exact h.known work reason failing hg

/-! ## The manifest arrives -/

/-- A message leaves the session without a manifest, or it starts the ledger of one; it reports nothing. -/
theorem Awaiting.handleMessage (h : manager.Awaiting) (hf : manager.receiver.Fed) (message : Message) :
    ∃ events, (manager.handleMessage message).2.events = manager.events ++ events ∧ reports events = [] ∧
      (manager.handleMessage message).2.receiver = (manager.receiver.handle message).2 ∧
      ((manager.handleMessage message).2.Awaiting ∨
        ∃ manifest, Ledger manifest (manager.handleMessage message).2 []) := by
  rcases handleMessage_cases hf message with ⟨events, hkinds, heq, hcompleted⟩ |
    ⟨manifest, hw, hnone, hcompleted, heq⟩
  · refine ⟨events, by rw [heq], ?_, by rw [heq], .inl ?_⟩
    · apply List.filterMap_eq_nil_iff.mpr
      intro event he
      rw [ClientAssetEvent.report, hkinds event he]
    · rw [heq]
      exact ⟨h.running, hcompleted.trans h.completed, h.queue, h.states, h.hand⟩
  · obtain ⟨states, hstates, -⟩ := queueManifest_of_empty
      { manager with
        receiver := (manager.receiver.handle message).2
        events := manager.events ++ [completeEvent manifest] } hw h.states
    rw [heq, hstates]
    refine ⟨[completeEvent manifest] ++ manifest.assets.map (queuedEvent manifest.revision), ?_, ?_, rfl,
      .inr ⟨manifest, h.running, hcompleted, hw, ?_, ?_, ?_, ?_, nofun, nofun⟩⟩
    · rw [← List.append_assoc]
    · apply List.filterMap_eq_nil_iff.mpr
      intro event he
      rcases List.mem_append.mp he with he | he
      · rw [List.mem_singleton.mp he]
        rfl
      · obtain ⟨asset, -, rfl⟩ := List.mem_map.mp he
        rfl
    · have hstale : manager.worker.handIds manager.generation = [] := by
        cases hw : manager.worker.work? with
        | none => exact Worker.handIds_of_none hw
        | some work => exact Worker.handIds_of_stale hw (h.hand work hw)
      simp only [h.queue, hstale, List.map_nil, List.nil_append, List.map_map]
      exact .refl _
    · intro work hm
      simp only [h.queue, List.nil_append, List.mem_map] at hm
      obtain ⟨asset, -, rfl⟩ := hm
      exact ⟨rfl, rfl⟩
    · exact fun work hw hg => absurd hg (h.hand work hw)
    · exact fun work reason hw hg => absurd hg (h.hand work (congrArg Worker.work? hw))

end ClientAssetManager

end CustomModels.Client
