import CustomModels.Shared.Reports
import CustomModels.Client.Stored
import CustomModels.Client.Lemmas.Cache
import CustomModels.Client.Lemmas.Manager

/-!
# The worker

What one step of the worker does to the queue, the states and the events, and what it does to the files.
-/

namespace CustomModels.Client
open CustomModels.Shared

namespace ClientAssetManager

variable {manager : ClientAssetManager} {work : WorkItem} {state : AssetState}
  {event : ClientAssetEventKind} {error : AssetErrorReason}

/-! ## `SetState` -/

theorem setState_of_stale (h : work.generation ≠ manager.generation) :
    manager.setState work state event error = manager := by
  rw [setState, if_pos h]

theorem setState_of_current (h : work.generation = manager.generation) :
    manager.setState work state event error =
      { manager with
        states := manager.states.insert work.asset.assetId state
        events := manager.events ++ [⟨event, work.manifestRevision, work.asset.assetId, 0, error⟩] } := by
  rw [setState, if_neg (not_not.mpr h)]

/-- `SetState` writes to the states and the events only. -/
theorem setState_eq (manager : ClientAssetManager) (work : WorkItem) (state : AssetState)
    (event : ClientAssetEventKind) (error : AssetErrorReason) :
    ∃ states events, manager.setState work state event error = { manager with states, events } := by
  unfold setState
  split <;> exact ⟨_, _, rfl⟩

theorem getState_setState (manager : ClientAssetManager) (work : WorkItem) (state : AssetState)
    (event : ClientAssetEventKind) (error : AssetErrorReason) (assetId : UInt32) :
    (manager.setState work state event error).getState assetId =
      if work.generation = manager.generation ∧ assetId = work.asset.assetId then state
      else manager.getState assetId := by
  by_cases h : work.generation = manager.generation
  · rw [setState_of_current h]
    simp only [h, true_and]
    exact getState_insert manager work.asset.assetId assetId state
  · rw [setState_of_stale h, if_neg fun hc => h hc.1]

/-! ## The books -/

/-- How one step of the worker changes the queue, the states, the events and what it has in hand. -/
inductive Booked (manager : ClientAssetManager) : ClientAssetManager → Prop where
  | nothing (files : Filesystem) (worker : Worker) (hand : worker.work? = manager.worker.work?) :
      Booked manager { manager with files, worker }
  | takes (work : WorkItem) (queue : List WorkItem) (waiting : manager.worker = .waiting)
      (first : manager.queue = work :: queue) :
      Booked manager { manager with queue, worker := .checking work }
  | drops (work : WorkItem) (checking : manager.worker = .checking work)
      (stale : manager.isCurrentGeneration work.generation = false) :
      Booked manager { manager with worker := .waiting }
  | notes (work : WorkItem) (state : AssetState) (event : ClientAssetEventKind) (worker : Worker)
      (hand : manager.worker.work? = some work) (kept : worker.work? = some work)
      (kind : event ≠ .ready ∧ event ≠ .failed) :
      Booked manager { manager.setState work state event .internalError with worker }
  | becomesReady (work : WorkItem) (ready : manager.worker = .ready work) :
      Booked manager { manager.setState work .ready .ready .internalError with worker := .waiting }
  | fails (work : WorkItem) (reason : AssetErrorReason) (failing : manager.worker = .failing work reason) :
      Booked manager { manager.setState work .failed .failed reason with worker := .waiting }

theorem workerStep_booked (manager : ClientAssetManager) (around : Surroundings) :
    Booked manager (manager.workerStep around) := by
  unfold workerStep
  cases hw : manager.worker with
  | stopped => exact .nothing _ _ rfl
  | waiting =>
      simp only
      split
      · exact .nothing _ _ (by rw [hw]; rfl)
      · split
        · exact .nothing _ _ rfl
        · exact .takes _ _ hw ‹_›
  | checking work =>
      simp only
      split
      · exact .drops work hw (by simpa using ‹(!_) = true›)
      · exact .nothing _ _ (by rw [hw]; rfl)
  | lookingUp work =>
      simp only
      refine .nothing _ _ ?_
      rw [hw]
      split <;> rfl
  | cacheHit work => exact .notes work _ _ _ (by rw [hw]; rfl) rfl ⟨nofun, nofun⟩
  | downloading work => exact .notes work _ _ _ (by rw [hw]; rfl) rfl ⟨nofun, nofun⟩
  | fetching work =>
      simp only
      split <;> exact .nothing _ _ (by rw [hw]; rfl)
  | verifying work => exact .notes work _ _ _ (by rw [hw]; rfl) rfl ⟨nofun, nofun⟩
  | hashing work =>
      simp only
      split <;> exact .nothing _ _ (by rw [hw]; rfl)
  | verified work => exact .notes work _ _ _ (by rw [hw]; rfl) rfl ⟨nofun, nofun⟩
  | committing work =>
      simp only
      split <;> exact .nothing _ _ (by rw [hw]; rfl)
  | moving work =>
      simp only
      split <;> exact .nothing _ _ (by rw [hw]; rfl)
  | ready work => exact .becomesReady work hw
  | failing work reason => exact .fails work reason hw

/-! ## The reasons of failures -/

theorem mapFetchError_known (error : FetchError) : (mapFetchError error).Known := by
  cases error <;> exact ⟨by decide, by decide⟩

theorem fetch_known {around : Surroundings} {reason : AssetErrorReason}
    (h : (manager.fetch work around).2 = some reason) : reason.Known := by
  simp only [fetch] at h
  split at h
  · cases h
    exact mapFetchError_known _
  · split at h
    · cases h
      exact ⟨by decide, by decide⟩
    · cases h

theorem check_known {around : Surroundings} {reason : AssetErrorReason}
    (h : manager.check work around = some reason) : reason.Known := by
  unfold check at h
  split at h
  · split_ifs at h <;> cases h <;> exact ⟨by decide, by decide⟩
  · cases h
    exact ⟨by decide, by decide⟩

/-- The reasons that the worker comes to are ones that the protocol knows. -/
theorem workerStep_failing {around : Surroundings} {reason : AssetErrorReason}
    (h : (manager.workerStep around).worker = .failing work reason) : reason.Known := by
  have hdisk : AssetErrorReason.diskFailure.Known := ⟨by decide, by decide⟩
  cases hw : manager.worker with
  | lookingUp work =>
      simp only [workerStep, hw] at h
      split at h
      · cases h
      · cases h
        exact hdisk
      · cases h
  | fetching work =>
      simp only [workerStep, hw] at h
      split at h
      · cases h
      · rename_i files found hfetch
        cases h
        exact fetch_known (congrArg Prod.snd hfetch)
  | hashing work =>
      simp only [workerStep, hw] at h
      split at h
      · cases h
      · rename_i found hcheck
        cases h
        exact check_known hcheck
  | committing work =>
      simp only [workerStep, hw] at h
      split at h
      · cases h
      · cases h
        exact hdisk
      · cases h
  | moving work =>
      simp only [workerStep, hw] at h
      split at h
      · cases h
      · cases h
        exact hdisk
  | waiting =>
      simp only [workerStep, hw] at h
      split at h
      · cases h
      · split at h
        · cases hw.symm.trans h
        · cases h
  | checking work =>
      simp only [workerStep, hw] at h
      split at h <;> cases h
  | _ => simp only [workerStep, hw, reduceCtorEq] at h

end ClientAssetManager

end CustomModels.Client
