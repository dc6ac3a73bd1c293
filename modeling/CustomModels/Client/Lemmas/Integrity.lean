import CustomModels.Client.Sessions
import CustomModels.Client.Lemmas.Stored

/-!
# What stands in the cache

Only a rename puts anything at a final path, and what it moves has been hashed. So a final path never has a file
with another digest than its own, whatever the backend writes and whichever calls fail.
-/

namespace CustomModels.Client
open CustomModels.Shared

namespace AssetCache

variable {root path : Path} {files next : Filesystem} {asset : AssetDescription}

/-! ## Final paths -/

theorem Addressed.of_eq (h : Addressed root files)
    (hfiles : ∀ asset, next (pathFor root asset) = files (pathFor root asset)) : Addressed root next :=
  fun asset entry he => h asset entry (hfiles asset ▸ he)

theorem Addressed.update_none (h : Addressed root files) (path : Path) :
    Addressed root (Function.update files path none) := by
  intro asset entry he
  by_cases hp : pathFor root asset = path
  · rw [hp, Function.update_self] at he
    cases he
  · rw [Function.update_of_ne hp] at he
    exact h asset entry he

theorem Addressed.lookup (h : Addressed root files) (asset : AssetDescription) (errors : LookupErrors) :
    Addressed root (lookup root files asset errors).2 := by
  rcases lookup_cases root files asset errors with hfiles | hfiles
  · rw [hfiles]
    exact h
  · rw [hfiles]
    exact h.update_none _

/-- What changes at temporary paths only is nobody's. -/
theorem Addressed.temporary (h : Addressed root files) (asset : AssetDescription)
    (hfiles : ∀ path, path ≠ temporaryPathFor root asset → next path = files path) : Addressed root next :=
  h.of_eq fun _ => hfiles _ (pathFor_ne_temporaryPathFor _ _ _)

theorem Addressed.commitLookup (h : Addressed root files) (asset other : AssetDescription)
    (errors : CommitErrors) :
    Addressed root (commitLookup root files asset (temporaryPathFor root other) errors).2 := by
  have hlooked := h.lookup asset errors.lookup
  simp only [AssetCache.commitLookup]
  split
  · exact h
  · split
    · split
      · rename_i hlookup
        rw [hlookup] at hlooked
        exact hlooked.temporary other fun path hp => removeTemporary_of_ne hp _
      · rename_i hlookup
        rw [hlookup] at hlooked
        exact hlooked
    · exact h

/-- A rename of a verified file puts it where its digest says. -/
theorem Addressed.commitRename (h : Addressed root files) (errors : CommitErrors)
    (hv : Holds files (temporaryPathFor root asset) asset) :
    Addressed root (commitRename root files asset (temporaryPathFor root asset) errors).2 := by
  obtain ⟨data, hdata, -, hsha⟩ := hv
  have hmoved : Addressed root (Function.update (Function.update files (temporaryPathFor root asset) none)
      (pathFor root asset) (some (.file data))) := by
    intro other entry he
    by_cases hp : pathFor root other = pathFor root asset
    · rw [hp, Function.update_self] at he
      cases he
      exact ⟨data, rfl, hsha.trans (sha256_eq_of_pathFor hp).symm⟩
    · rw [Function.update_of_ne hp] at he
      exact h.update_none _ other entry he
  simp only [AssetCache.commitRename, Filesystem.rename, hdata]
  split
  · exact h
  · rcases files (pathFor root asset) with _ | (_ | _)
    · exact hmoved
    · exact hmoved
    · exact h

end AssetCache

namespace ClientAssetManager

variable {manager : ClientAssetManager} {work : WorkItem}

/-! ## What the worker has verified -/

/-- What each phase of the worker has found in the files. -/
def Found (manager : ClientAssetManager) : Worker → Prop
  | .cacheHit work => AssetCache.Holds manager.files (AssetCache.pathFor manager.root work.asset) work.asset
  | .ready work => AssetCache.Holds manager.files (AssetCache.pathFor manager.root work.asset) work.asset
  | .verified work =>
      AssetCache.Holds manager.files (AssetCache.temporaryPathFor manager.root work.asset) work.asset
  | .committing work =>
      AssetCache.Holds manager.files (AssetCache.temporaryPathFor manager.root work.asset) work.asset
  | .moving work =>
      AssetCache.Holds manager.files (AssetCache.temporaryPathFor manager.root work.asset) work.asset
  | _ => True

structure Intact (manager : ClientAssetManager) : Prop where
  addressed : AssetCache.Addressed manager.root manager.files
  found : manager.Found manager.worker

theorem Intact.setState (h : Intact manager) (work : WorkItem) (state : AssetState) (event : ClientAssetEventKind)
    (error : AssetErrorReason) (worker : Worker) (hfound : manager.Found worker) :
    Intact { manager.setState work state event error with worker } := by
  obtain ⟨_, _, heq⟩ := setState_eq manager work state event error
  rw [heq]
  refine ⟨h.addressed, ?_⟩
  cases worker <;> exact hfound

theorem Intact.rejectDownload (h : AssetCache.Addressed manager.root manager.files) (work : WorkItem)
    (around : Surroundings) (reason : AssetErrorReason) : Intact (manager.rejectDownload work around reason) :=
  ⟨h.temporary work.asset fun _ hp => AssetCache.removeTemporary_of_ne hp _, trivial⟩

theorem Intact.committing (h : Intact manager) (hw : manager.worker = .committing work) (around : Surroundings) :
    Intact (manager.workerStep around) := by
  have htemporary := h.found
  rw [hw] at htemporary
  have hne := AssetCache.pathFor_ne_temporaryPathFor manager.root work.asset work.asset
  have haddressed := h.addressed.commitLookup work.asset work.asset around.commit
  have hnone := AssetCache.commitLookup_none manager.files around.commit hne.symm
  have htrue := AssetCache.commitLookup_true manager.files around.commit hne
  simp only [workerStep, hw]
  generalize AssetCache.commitLookup manager.root manager.files work.asset
    (AssetCache.temporaryPathFor manager.root work.asset) around.commit = committed at *
  obtain ⟨_ | (_ | _), files⟩ := committed
  · exact ⟨haddressed, AssetCache.Holds.congr htemporary (hnone rfl) rfl rfl⟩
  · exact @Intact.rejectDownload { manager with files } haddressed work around _
  · exact ⟨haddressed, htrue rfl⟩

theorem Intact.moving (h : Intact manager) (hw : manager.worker = .moving work) (around : Surroundings) :
    Intact (manager.workerStep around) := by
  have htemporary := h.found
  rw [hw] at htemporary
  have haddressed := h.addressed.commitRename around.commit htemporary
  have htrue := AssetCache.commitRename_true manager.root around.commit htemporary
  simp only [workerStep, hw]
  generalize AssetCache.commitRename manager.root manager.files work.asset
    (AssetCache.temporaryPathFor manager.root work.asset) around.commit = committed at *
  obtain ⟨_ | _, files⟩ := committed
  · exact @Intact.rejectDownload { manager with files } haddressed work around _
  · exact ⟨haddressed, htrue rfl⟩

theorem Intact.workerStep (h : Intact manager) (around : Surroundings) : Intact (manager.workerStep around) := by
  cases hw : manager.worker with
  | stopped =>
      rw [ClientAssetManager.workerStep, hw]
      exact h
  | waiting =>
      simp only [ClientAssetManager.workerStep, hw]
      split
      · exact ⟨h.addressed, trivial⟩
      · split
        · exact h
        · exact ⟨h.addressed, trivial⟩
  | checking work =>
      simp only [ClientAssetManager.workerStep, hw]
      split <;> exact ⟨h.addressed, trivial⟩
  | lookingUp work =>
      simp only [ClientAssetManager.workerStep, hw]
      refine ⟨h.addressed.lookup work.asset around.lookup, ?_⟩
      cases hl : (AssetCache.lookup manager.root manager.files work.asset around.lookup).1 with
      | hit =>
          obtain ⟨hfiles, hholds⟩ := AssetCache.lookup_hit hl
          simpa only [hfiles, Found] using hholds
      | diskFailure => trivial
      | miss => trivial
  | cacheHit work =>
      have hfound := h.found
      rw [hw] at hfound
      simp only [ClientAssetManager.workerStep, hw]
      exact h.setState work .ready .cacheHit .internalError (.ready work) hfound
  | downloading work =>
      simp only [ClientAssetManager.workerStep, hw]
      exact h.setState work .downloading .downloading .internalError (.fetching work) trivial
  | fetching work =>
      have haddressed := h.addressed.temporary work.asset (fetch_of_ne manager work around)
      simp only [ClientAssetManager.workerStep, hw]
      generalize manager.fetch work around = fetched at *
      obtain ⟨files, _ | reason⟩ := fetched
      · exact ⟨haddressed, trivial⟩
      · exact ⟨haddressed, trivial⟩
  | verifying work =>
      simp only [ClientAssetManager.workerStep, hw]
      exact h.setState work .verifying .verifying .internalError (.hashing work) trivial
  | hashing work =>
      simp only [ClientAssetManager.workerStep, hw]
      cases hc : manager.check work around with
      | none => exact ⟨h.addressed, check_none hc⟩
      | some reason => exact Intact.rejectDownload h.addressed work around reason
  | verified work =>
      have hfound := h.found
      rw [hw] at hfound
      simp only [ClientAssetManager.workerStep, hw]
      exact h.setState work .verifying .verified .internalError (.committing work) hfound
  | committing work => exact h.committing hw around
  | moving work => exact h.moving hw around
  | ready work =>
      simp only [ClientAssetManager.workerStep, hw]
      exact h.setState work .ready .ready .internalError .waiting trivial
  | failing work reason =>
      simp only [ClientAssetManager.workerStep, hw]
      exact h.setState work .failed .failed reason .waiting trivial

/-! ## Every call -/

/-- The call adds events, and it leaves the files and the worker alone. -/
structure Adds (P : ClientAssetEvent → Prop) (manager next : ClientAssetManager) : Prop where
  root : next.root = manager.root
  files : next.files = manager.files
  worker : next.worker = manager.worker
  initialized : next.initialized = manager.initialized
  generation : next.generation = manager.generation
  events : ∃ events, next.events = manager.events ++ events ∧ ∀ event ∈ events, P event

theorem Adds.refl (P : ClientAssetEvent → Prop) (manager : ClientAssetManager) : Adds P manager manager :=
  ⟨rfl, rfl, rfl, rfl, rfl, [], by simp, by simp⟩

theorem Adds.trans {P : ClientAssetEvent → Prop} {next last : ClientAssetManager} (h : Adds P manager next)
    (h' : Adds P next last) : Adds P manager last := by
  obtain ⟨xs, hx, hxs⟩ := h.events
  obtain ⟨ys, hy, hys⟩ := h'.events
  refine ⟨h'.root.trans h.root, h'.files.trans h.files, h'.worker.trans h.worker,
    h'.initialized.trans h.initialized, h'.generation.trans h.generation, xs ++ ys,
    by rw [hy, hx, List.append_assoc], fun event he => ?_⟩
  rcases List.mem_append.mp he with he | he
  · exact hxs event he
  · exact hys event he

theorem queueAssets_adds {P : ClientAssetEvent → Prop} {revision : UInt64} {assets : List AssetDescription}
    (hp : ∀ asset ∈ assets, P (queuedEvent revision asset)) :
    Adds P manager (manager.queueAssets revision assets) := by
  induction assets generalizing manager with
  | nil => exact .refl P manager
  | cons asset assets ih =>
      have hrest := fun manager : ClientAssetManager =>
        @ih manager fun other ho => hp other (List.mem_cons_of_mem _ ho)
      have hfirst : ∀ states queue, Adds P manager
          { manager with states, queue, events := manager.events ++ [queuedEvent revision asset] } := by
        intro states queue
        refine ⟨rfl, rfl, rfl, rfl, rfl, [queuedEvent revision asset], rfl, fun event he => ?_⟩
        rw [List.mem_singleton.mp he]
        exact hp asset List.mem_cons_self
      rw [queueAssets]
      split
      · exact (hfirst _ _).trans (hrest _)
      · exact (hfirst _ _).trans (hrest _)
      · exact hrest manager

theorem handleMessage_adds (manager : ClientAssetManager) (message : Message) :
    Adds (fun event => event.kind ≠ .ready) manager (manager.handleMessage message).2 := by
  have hfirst : ∀ receiver (event : ClientAssetEvent), event.kind ≠ .ready →
      Adds (fun event => event.kind ≠ .ready) manager
        { manager with receiver, events := manager.events ++ [event] } := by
    intro receiver event hk
    refine ⟨rfl, rfl, rfl, rfl, rfl, [event], rfl, fun other ho => ?_⟩
    rw [List.mem_singleton.mp ho]
    exact hk
  simp only [handleMessage]
  split
  · exact hfirst _ _ (by simp)
  · exact (hfirst _ _ (by simp)).trans (queueAssets_adds fun _ _ => by simp [queuedEvent])
  · exact ⟨rfl, rfl, rfl, rfl, rfl, [], by simp, by simp⟩

theorem make_intact (root : Path) (files : Filesystem) (h : AssetCache.Addressed root files) :
    Intact (make root files) := ⟨h, trivial⟩

/-- Every other call leaves the files and the worker alone, or begins with a worker that waits; it makes no
asset Ready. -/
theorem intake_frame (manager : ClientAssetManager) (intake : Intake)
    (h : ∀ around, intake ≠ .event (.worker around)) :
    (manager.intake intake).root = manager.root ∧ (manager.intake intake).files = manager.files ∧
      ((manager.intake intake).worker = manager.worker ∨
        manager.initialized = false ∧ (manager.intake intake).worker = .waiting) ∧
      ∀ new, (manager.intake intake).events = manager.events ++ new → ∀ event ∈ new, event.kind ≠ .ready := by
  have hnothing : ∀ new, manager.events = manager.events ++ new → ∀ event ∈ new, event.kind ≠ .ready := by
    intro new hn
    rw [List.self_eq_append_right.mp hn]
    simp
  have hcleared : ∀ new, [] = manager.events ++ new → ∀ event ∈ new, event.kind ≠ .ready := by
    intro new hn
    rw [(List.append_eq_nil_iff.mp hn.symm).2]
    simp
  cases intake with
  | pass work => exact ⟨rfl, rfl, .inl rfl, hnothing⟩
  | event event =>
      cases event with
      | initializeManager cacheInitialized =>
          simp only [ClientAssetManager.intake, step, initializeManager]
          split
          · exact ⟨rfl, rfl, .inl rfl, hnothing⟩
          · rename_i hi
            rw [Bool.or_eq_true, not_or, Bool.not_eq_true] at hi
            exact ⟨rfl, rfl, .inr ⟨hi.1, rfl⟩, hnothing⟩
      | message message =>
          have hadds := handleMessage_adds manager message
          refine ⟨hadds.root, hadds.files, .inl hadds.worker, fun new hn => ?_⟩
          obtain ⟨events, he, hkinds⟩ := hadds.events
          rw [← List.append_cancel_left (he.symm.trans hn)]
          exact hkinds
      | resetSession => exact ⟨rfl, rfl, .inl rfl, hcleared⟩
      | drainEvents => exact ⟨rfl, rfl, .inl rfl, hcleared⟩
      | requestStop => exact ⟨rfl, rfl, .inl rfl, hnothing⟩
      | joined =>
          simp only [ClientAssetManager.intake, step, joined]
          split
          · exact ⟨rfl, rfl, .inl rfl, hnothing⟩
          · exact ⟨rfl, rfl, .inl rfl, hnothing⟩
      | worker around => exact absurd rfl (h around)

theorem Intact.intake (h : Intact manager) (intake : Intake) : Intact (manager.intake intake) := by
  by_cases hi : ∃ around, intake = .event (.worker around)
  · obtain ⟨around, rfl⟩ := hi
    exact h.workerStep around
  · obtain ⟨hroot, hfiles, hworker, -⟩ := intake_frame manager intake fun around he => hi ⟨around, he⟩
    refine ⟨by rw [hroot, hfiles]; exact h.addressed, ?_⟩
    have hfound := h.found
    rcases hworker with hw | ⟨-, hw⟩
    · rw [hw]
      cases hcase : manager.worker <;> rw [hcase] at hfound <;> simp only [Found, hroot, hfiles] at hfound ⊢ <;>
        exact hfound
    · rw [hw]
      trivial

/-! ## Ready events -/

theorem setState_events {state : AssetState} {event : ClientAssetEventKind} {error : AssetErrorReason}
    {new : List ClientAssetEvent}
    (h : (manager.setState work state event error).events = manager.events ++ new) :
    ∀ e ∈ new, e = ⟨event, work.manifestRevision, work.asset.assetId, 0, error⟩ := by
  intro e he
  by_cases hg : work.generation = manager.generation
  · rw [setState_of_current hg] at h
    rw [← List.append_cancel_left h] at he
    exact List.mem_singleton.mp he
  · rw [setState_of_stale hg] at h
    rw [List.self_eq_append_right.mp h] at he
    cases he

/-- A Ready event is appended by the last step for its asset. -/
theorem workerStep_ready {around : Surroundings} {new : List ClientAssetEvent}
    (h : (manager.workerStep around).events = manager.events ++ new) {event : ClientAssetEvent}
    (he : event ∈ new) (hk : event.kind = .ready) :
    ∃ work, manager.worker = .ready work ∧ event.assetId = work.asset.assetId ∧
      event.manifestRevision = work.manifestRevision := by
  have hb := workerStep_booked manager around
  generalize manager.workerStep around = next at hb h
  cases hb with
  | nothing files worker hand =>
      rw [List.self_eq_append_right.mp h] at he
      cases he
  | takes work queue waiting first =>
      rw [List.self_eq_append_right.mp h] at he
      cases he
  | drops work checking stale =>
      rw [List.self_eq_append_right.mp h] at he
      cases he
  | notes work state kind worker hand kept hkind =>
      rw [setState_events h event he] at hk
      exact absurd hk hkind.1
  | becomesReady work ready =>
      rw [setState_events h event he]
      exact ⟨work, ready, rfl, rfl⟩
  | fails work reason failing =>
      rw [setState_events h event he] at hk
      cases hk

theorem Intact.ready (h : Intact manager) {intake : Intake} {new : List ClientAssetEvent}
    (hn : (manager.intake intake).events = manager.events ++ new) {event : ClientAssetEvent} (he : event ∈ new)
    (hk : event.kind = .ready) :
    ∃ work, manager.worker = .ready work ∧ event.assetId = work.asset.assetId ∧
      event.manifestRevision = work.manifestRevision ∧
      AssetCache.Holds manager.files (AssetCache.pathFor manager.root work.asset) work.asset := by
  by_cases hi : ∃ around, intake = .event (.worker around)
  · obtain ⟨around, rfl⟩ := hi
    obtain ⟨work, hw, hid, hrevision⟩ := workerStep_ready hn he hk
    have hfound := h.found
    rw [hw] at hfound
    exact ⟨work, hw, hid, hrevision, hfound⟩
  · obtain ⟨-, -, -, hevents⟩ := intake_frame manager intake fun around he => hi ⟨around, he⟩
    exact absurd hk (hevents new hn event he)

/-! ## Temporary files -/

end ClientAssetManager

/-- The item that the worker has downloaded, or is downloading. -/
def Worker.downloads? : Worker → Option WorkItem
  | .fetching work => some work
  | .verifying work => some work
  | .hashing work => some work
  | .verified work => some work
  | .committing work => some work
  | .moving work => some work
  | _ => none

theorem Worker.downloads?_of_idle {worker : Worker} (h : worker.work? = none) : worker.downloads? = none := by
  cases worker with
  | stopped => rfl
  | waiting => rfl
  | _ => cases h

namespace ClientAssetManager

/-- Nothing stands at the path, unless the worker is at work on it. -/
def Tidy (path : Path) (manager : ClientAssetManager) : Prop :=
  manager.files path = none ∨ ∃ work, manager.worker.downloads? = some work ∧
    AssetCache.temporaryPathFor manager.root work.asset = path

variable {manager : ClientAssetManager} {work : WorkItem} {path : Path}

theorem removeTemporary_self (files : Filesystem) (path : Path) :
    AssetCache.removeTemporary files path false path = none := Function.update_self ..

theorem Tidy.nothing (h : Tidy path manager)
    (hd : ∀ work, manager.worker.downloads? = some work →
      path ≠ AssetCache.temporaryPathFor manager.root work.asset) : manager.files path = none := by
  rcases h with hnone | ⟨work, hw, hpath⟩
  · exact hnone
  · exact absurd hpath.symm (hd work hw)

theorem Tidy.idle (h : Tidy path manager) (hw : manager.worker.downloads? = none) : manager.files path = none := by
  apply h.nothing
  intro other ho
  cases hw.symm.trans ho

/-- The temporary paths of other work are left alone. -/
theorem Tidy.other (h : Tidy path manager) (hw : manager.worker.downloads? = some work)
    (hne : path ≠ AssetCache.temporaryPathFor manager.root work.asset) : manager.files path = none := by
  apply h.nothing
  intro other ho
  cases hw.symm.trans ho
  exact hne

theorem tidy_setState (work : WorkItem) (state : AssetState) (event : ClientAssetEventKind)
    (error : AssetErrorReason) (worker : Worker) (h : Tidy path { manager with worker }) :
    Tidy path { manager.setState work state event error with worker } := by
  obtain ⟨_, _, heq⟩ := setState_eq manager work state event error
  rw [heq]
  exact h

theorem Tidy.keep (h : Tidy path manager) {worker : Worker} (hw : manager.worker.downloads? = some work)
    (hw' : worker.downloads? = some work) : Tidy path { manager with worker } := by
  by_cases hp : path = AssetCache.temporaryPathFor manager.root work.asset
  · exact .inr ⟨work, hw', hp.symm⟩
  · exact .inl (h.other hw hp)

theorem fetch_failed {around : Surroundings} (hr : around.removeRejected = false) {reason : AssetErrorReason}
    (h : (manager.fetch work around).2 = some reason) :
    (manager.fetch work around).1 (AssetCache.temporaryPathFor manager.root work.asset) = none := by
  simp only [fetch] at h ⊢
  split at h
  · rename_i he
    rw [if_pos he, hr]
    exact removeTemporary_self _ _
  · rename_i he
    rw [if_neg he]
    split at h
    · rename_i hb
      rw [if_pos hb, hr]
      exact removeTemporary_self _ _
    · cases h

/-- A commit that ends early has removed the temporary file, or it has not begun. -/
theorem commitLookup_removes {root : Path} {files : Filesystem} {asset : AssetDescription} {temporaryPath : Path}
    {errors : CommitErrors} (hr : errors.removeTemporary = false)
    (h : (AssetCache.commitLookup root files asset temporaryPath errors).1 = some true) :
    (AssetCache.commitLookup root files asset temporaryPath errors).2 temporaryPath = none := by
  simp only [AssetCache.commitLookup] at h ⊢
  split at h
  · cases h
  · rename_i hcreate
    rw [if_neg hcreate]
    split at h
    · rename_i hexists
      rw [if_pos hexists]
      split at h
      · rw [hr]
        exact removeTemporary_self _ _
      · cases h
    · cases h

/-- A rename that succeeds takes the temporary file away. -/
theorem commitRename_removes {root : Path} {files : Filesystem} {asset : AssetDescription} {errors : CommitErrors}
    (hv : AssetCache.Holds files (AssetCache.temporaryPathFor root asset) asset)
    (h : (AssetCache.commitRename root files asset (AssetCache.temporaryPathFor root asset) errors).1 = true) :
    (AssetCache.commitRename root files asset (AssetCache.temporaryPathFor root asset) errors).2
      (AssetCache.temporaryPathFor root asset) = none := by
  obtain ⟨data, hdata, -⟩ := hv
  have hmoved : Function.update (Function.update files (AssetCache.temporaryPathFor root asset) none)
      (AssetCache.pathFor root asset) (some (.file data)) (AssetCache.temporaryPathFor root asset) = none := by
    rw [Function.update_of_ne (AssetCache.pathFor_ne_temporaryPathFor root asset asset).symm, Function.update_self]
  simp only [AssetCache.commitRename, Filesystem.rename, hdata] at h ⊢
  split at h
  · cases h
  · rename_i hrename
    rw [if_neg hrename]
    rcases hd : files (AssetCache.pathFor root asset) with _ | (_ | _)
    · exact hmoved
    · exact hmoved
    · rw [hd] at h
      cases h

theorem rejectDownload_tidy {around : Surroundings} (hr : around.removeRejected = false)
    (reason : AssetErrorReason)
    (h : path ≠ AssetCache.temporaryPathFor manager.root work.asset → manager.files path = none) :
    Tidy path (manager.rejectDownload work around reason) := by
  left
  by_cases hp : path = AssetCache.temporaryPathFor manager.root work.asset
  · simp only [rejectDownload, hr, hp]
    exact removeTemporary_self _ _
  · exact (AssetCache.removeTemporary_of_ne hp _).trans (h hp)

theorem Tidy.fetching (h : Tidy path manager) (hw : manager.worker = .fetching work) {around : Surroundings}
    (hr : around.removeRejected = false) : Tidy path (manager.workerStep around) := by
  have hdownloads : manager.worker.downloads? = some work := congrArg Worker.downloads? hw
  have hsame := fun hp => (fetch_of_ne manager work around path hp).trans (h.other hdownloads hp)
  have hfailed := fun reason => @fetch_failed manager work around hr reason
  simp only [ClientAssetManager.workerStep, hw]
  generalize manager.fetch work around = fetched at *
  by_cases hp : path = AssetCache.temporaryPathFor manager.root work.asset
  · obtain ⟨files, _ | reason⟩ := fetched
    · exact .inr ⟨work, rfl, hp.symm⟩
    · exact .inl (hp ▸ hfailed reason rfl)
  · obtain ⟨files, _ | reason⟩ := fetched
    · exact .inl (hsame hp)
    · exact .inl (hsame hp)

theorem Tidy.committing (h : Tidy path manager) (hw : manager.worker = .committing work)
    (hpath : path ≠ AssetCache.pathFor manager.root work.asset) {around : Surroundings}
    (hr : around.removeRejected = false ∧ around.commit.removeTemporary = false) :
    Tidy path (manager.workerStep around) := by
  have hdownloads : manager.worker.downloads? = some work := congrArg Worker.downloads? hw
  have hsame := fun hp => (AssetCache.commitLookup_of_ne manager.root manager.files work.asset
    (AssetCache.temporaryPathFor manager.root work.asset) around.commit path hpath hp).trans
      (h.other hdownloads hp)
  have hremoved := @commitLookup_removes manager.root manager.files work.asset
    (AssetCache.temporaryPathFor manager.root work.asset) _ hr.2
  simp only [ClientAssetManager.workerStep, hw]
  generalize AssetCache.commitLookup manager.root manager.files work.asset
    (AssetCache.temporaryPathFor manager.root work.asset) around.commit = committed at *
  obtain ⟨_ | (_ | _), files⟩ := committed
  · by_cases hp : path = AssetCache.temporaryPathFor manager.root work.asset
    · exact .inr ⟨work, rfl, hp.symm⟩
    · exact .inl (hsame hp)
  · exact @rejectDownload_tidy { manager with files } _ _ _ hr.1 _ hsame
  · by_cases hp : path = AssetCache.temporaryPathFor manager.root work.asset
    · exact .inl (hp ▸ hremoved rfl)
    · exact .inl (hsame hp)

theorem Tidy.moving (h : Tidy path manager) (hi : Intact manager) (hw : manager.worker = .moving work)
    (hpath : path ≠ AssetCache.pathFor manager.root work.asset) {around : Surroundings}
    (hr : around.removeRejected = false) : Tidy path (manager.workerStep around) := by
  have hdownloads : manager.worker.downloads? = some work := congrArg Worker.downloads? hw
  have hfound := hi.found
  rw [hw] at hfound
  have hsame := fun hp => (AssetCache.commitRename_of_ne manager.root manager.files work.asset
    (AssetCache.temporaryPathFor manager.root work.asset) around.commit path hpath hp).trans
      (h.other hdownloads hp)
  have hremoved := @commitRename_removes _ _ _ around.commit hfound
  simp only [ClientAssetManager.workerStep, hw]
  generalize AssetCache.commitRename manager.root manager.files work.asset
    (AssetCache.temporaryPathFor manager.root work.asset) around.commit = committed at *
  obtain ⟨_ | _, files⟩ := committed
  · exact @rejectDownload_tidy { manager with files } _ _ _ hr _ hsame
  · by_cases hp : path = AssetCache.temporaryPathFor manager.root work.asset
    · exact .inl (hp ▸ hremoved rfl)
    · exact .inl (hsame hp)

theorem Tidy.workerStep (h : Tidy path manager) (hi : Intact manager)
    (hpath : ∀ asset, path ≠ AssetCache.pathFor manager.root asset) {around : Surroundings}
    (hr : around.removeRejected = false ∧ around.commit.removeTemporary = false) :
    Tidy path (manager.workerStep around) := by
  have hdownloads : ∀ {worker : Worker}, manager.worker = worker →
      manager.worker.downloads? = worker.downloads? := fun hw => congrArg Worker.downloads? hw
  cases hw : manager.worker with
  | stopped =>
      rw [ClientAssetManager.workerStep, hw]
      exact h
  | waiting =>
      have hnone := h.idle (hdownloads hw)
      simp only [ClientAssetManager.workerStep, hw]
      split
      · exact .inl hnone
      · split <;> exact .inl hnone
  | checking work =>
      simp only [ClientAssetManager.workerStep, hw]
      split <;> exact .inl (h.idle (hdownloads hw))
  | lookingUp work =>
      simp only [ClientAssetManager.workerStep, hw]
      exact .inl ((AssetCache.lookup_of_ne manager.files (hpath work.asset) around.lookup).trans
        (h.idle (hdownloads hw)))
  | cacheHit work =>
      simp only [ClientAssetManager.workerStep, hw]
      exact tidy_setState _ _ _ _ _ (.inl (h.idle (hdownloads hw)))
  | downloading work =>
      simp only [ClientAssetManager.workerStep, hw]
      exact tidy_setState _ _ _ _ _ (.inl (h.idle (hdownloads hw)))
  | fetching work => exact h.fetching hw hr.1
  | verifying work =>
      simp only [ClientAssetManager.workerStep, hw]
      exact tidy_setState _ _ _ _ _ (h.keep (hdownloads hw) rfl)
  | hashing work =>
      simp only [ClientAssetManager.workerStep, hw]
      cases manager.check work around with
      | none => exact h.keep (hdownloads hw) rfl
      | some reason => exact rejectDownload_tidy hr.1 reason (h.other (hdownloads hw))
  | verified work =>
      simp only [ClientAssetManager.workerStep, hw]
      exact tidy_setState _ _ _ _ _ (h.keep (hdownloads hw) rfl)
  | committing work => exact h.committing hw (hpath work.asset) hr
  | moving work => exact h.moving hi hw (hpath work.asset) hr.1
  | ready work =>
      simp only [ClientAssetManager.workerStep, hw]
      exact tidy_setState _ _ _ _ _ (.inl (h.idle (hdownloads hw)))
  | failing work reason =>
      simp only [ClientAssetManager.workerStep, hw]
      exact tidy_setState _ _ _ _ _ (.inl (h.idle (hdownloads hw)))

/-! ## Every intake -/

/-- A worker that runs was started. -/
def Staffed (manager : ClientAssetManager) : Prop := manager.worker = .stopped ∨ manager.initialized = true

/-- The worker changes neither the root of the cache nor whether the manager is initialized, nor the session. -/
theorem workerStep_keeps (manager : ClientAssetManager) (around : Surroundings) :
    (manager.workerStep around).root = manager.root ∧
      (manager.workerStep around).initialized = manager.initialized ∧
      (manager.workerStep around).generation = manager.generation := by
  have hnote : ∀ work state event error worker,
      { manager.setState work state event error with worker }.root = manager.root ∧
        { manager.setState work state event error with worker }.initialized = manager.initialized ∧
        { manager.setState work state event error with worker }.generation = manager.generation := by
    intro work state event error worker
    obtain ⟨_, _, heq⟩ := setState_eq manager work state event error
    rw [heq]
    exact ⟨rfl, rfl, rfl⟩
  have hb := workerStep_booked manager around
  generalize manager.workerStep around = next at hb
  cases hb with
  | nothing files worker hand => exact ⟨rfl, rfl, rfl⟩
  | takes work queue waiting first => exact ⟨rfl, rfl, rfl⟩
  | drops work checking stale => exact ⟨rfl, rfl, rfl⟩
  | notes work state event worker hand kept kind => exact hnote work _ _ _ _
  | becomesReady work ready => exact hnote work _ _ _ _
  | fails work reason failing => exact hnote work _ _ _ _

theorem Staffed.intake (h : Staffed manager) (intake : Intake) : Staffed (manager.intake intake) := by
  cases intake with
  | pass work => exact h
  | event event =>
      cases event with
      | initializeManager cacheInitialized =>
          simp only [ClientAssetManager.intake, step, initializeManager]
          split
          · exact h
          · exact .inr rfl
      | message message =>
          have hadds := handleMessage_adds manager message
          rcases h with hw | hi
          · exact .inl (hadds.worker.trans hw)
          · exact .inr (hadds.initialized.trans hi)
      | resetSession => exact h
      | drainEvents => exact h
      | requestStop => exact h
      | joined =>
          simp only [ClientAssetManager.intake, step, joined]
          split
          · rename_i hj
            rw [Bool.and_eq_true, beq_iff_eq] at hj
            exact .inl hj.2
          · exact h
      | worker around =>
          rcases h with hw | hi
          · left
            simp only [ClientAssetManager.intake, step, workerStep, hw]
          · exact .inr ((workerStep_keeps manager around).2.1.trans hi)

theorem intake_root (manager : ClientAssetManager) (intake : Intake) :
    (manager.intake intake).root = manager.root := by
  by_cases hi : ∃ around, intake = .event (.worker around)
  · obtain ⟨around, rfl⟩ := hi
    exact (workerStep_keeps manager around).1
  · exact (intake_frame manager intake fun around he => hi ⟨around, he⟩).1

/-- Intact files, with a worker that runs only when it was started. -/
structure Served (root : Path) (manager : ClientAssetManager) : Prop where
  intact : Intact manager
  staffed : Staffed manager
  root_eq : manager.root = root

theorem make_served {root : Path} {files : Filesystem} (h : AssetCache.Addressed root files) :
    Served root (make root files) := ⟨make_intact root files h, .inl rfl, rfl⟩

theorem Served.intake {root : Path} (h : Served root manager) (intake : Intake) :
    Served root (manager.intake intake) :=
  ⟨h.intact.intake intake, h.staffed.intake intake, (intake_root manager intake).trans h.root_eq⟩

theorem Tidy.intake {root : Path} (h : Tidy path manager) (hs : Served root manager)
    (hpath : ∀ asset, path ≠ AssetCache.pathFor root asset) {intake : Intake} (hr : intake.Removes) :
    Tidy path (manager.intake intake) := by
  by_cases hi : ∃ around, intake = .event (.worker around)
  · obtain ⟨around, rfl⟩ := hi
    exact h.workerStep hs.intact (hs.root_eq ▸ hpath) hr
  · obtain ⟨hroot, hfiles, hworker, -⟩ := intake_frame manager intake fun around he => hi ⟨around, he⟩
    rcases hworker with hw | ⟨hi, -⟩
    · rw [Tidy, hroot, hfiles, hw]
      exact h
    · -- `Initialize` finds a worker that has stopped
      have hstopped : manager.worker = .stopped := by
        rcases hs.staffed with hstopped | hinitialized
        · exact hstopped
        · exact absurd (hi.symm.trans hinitialized) Bool.false_ne_true
      refine .inl (hfiles ▸ h.nothing fun work hw => ?_)
      rw [hstopped] at hw
      cases hw

theorem Served.tidy {root : Path} (h : Served root manager) (ht : Tidy path manager)
    (hpath : ∀ asset, path ≠ AssetCache.pathFor root asset) {later : List Intake}
    (hr : ∀ next ∈ later, next.Removes) : Tidy path (Lib.run ClientAssetManager.intake manager later) := by
  induction later generalizing manager with
  | nil => exact ht
  | cons next later ih =>
      exact ih (h.intake next) (ht.intake h hpath (hr next List.mem_cons_self))
        fun other ho => hr other (List.mem_cons_of_mem _ ho)

end ClientAssetManager

end CustomModels.Client
