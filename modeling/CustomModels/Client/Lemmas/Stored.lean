import CustomModels.Client.Lemmas.Worker

/-!
# Ready assets in the cache

Behind a miss no Ready asset shares the path of the asset in hand, so what the download and the commit
write there is nobody else's.
-/

namespace CustomModels.Client
open CustomModels.Shared

namespace ClientAssetManager

variable {manager : ClientAssetManager} {work : WorkItem} {asset : AssetDescription}

/-! ## Work of the session -/

/-- What the queue and the hand of the worker hold for this session are entries of its manifest. -/
structure Owned (manager : ClientAssetManager) : Prop where
  fed : manager.receiver.Fed
  wellFormed : ∀ manifest, manager.receiver.completed = some manifest → manifest.WellFormed
  empty : manager.receiver.completed = none → manager.states = ∅ ∧ manager.queue = [] ∧
    ∀ work, manager.worker.work? = some work → work.generation ≠ manager.generation
  queued : ∀ manifest, manager.receiver.completed = some manifest →
    ∀ work ∈ manager.queue, work.asset ∈ manifest.assets
  hand : ∀ manifest, manager.receiver.completed = some manifest →
    ∀ work, manager.worker.work? = some work → work.generation = manager.generation →
      work.asset ∈ manifest.assets

theorem make_owned (root : Path) (files : Filesystem) : Owned (make root files) where
  fed := ManifestReceiver.fed_fresh
  wellFormed := nofun
  empty := fun _ => ⟨rfl, rfl, nofun⟩
  queued := nofun
  hand := nofun

/-- The session goes on with the same manifest, and its queue and hand have got no new work. -/
theorem Owned.shrink (h : Owned manager) {next : ClientAssetManager}
    (hreceiver : next.receiver = manager.receiver) (hgeneration : next.generation = manager.generation)
    (hstates : manager.states = ∅ → (∃ work, manager.worker.work? = some work ∧
      work.generation = manager.generation) ∨ next.states = ∅)
    (hqueue : ∀ work ∈ next.queue, work ∈ manager.queue)
    (hhand : ∀ work, next.worker.work? = some work →
      manager.worker.work? = some work ∨ work ∈ manager.queue) : Owned next := by
  refine ⟨?_, ?_, ?_, ?_, ?_⟩
  · rw [hreceiver]
    exact h.fed
  · rw [hreceiver]
    exact h.wellFormed
  · rw [hreceiver, hgeneration]
    intro hn
    obtain ⟨hs, hq, hw⟩ := h.empty hn
    refine ⟨?_, List.eq_nil_iff_forall_not_mem.mpr fun w hm => ?_, fun w hm => ?_⟩
    · rcases hstates hs with ⟨w, hm, hg⟩ | hs'
      · exact absurd hg (hw w hm)
      · exact hs'
    · have := hqueue w hm
      rw [hq] at this
      cases this
    · rcases hhand w hm with hm | hm
      · exact hw w hm
      · rw [hq] at hm
        cases hm
  · rw [hreceiver]
    exact fun m hm w hw => h.queued m hm w (hqueue w hw)
  · rw [hreceiver, hgeneration]
    intro m hm w hw hg
    rcases hhand w hw with hw | hw
    · exact h.hand m hm w hw hg
    · exact h.queued m hm w hw

theorem Owned.setState (h : Owned manager) (hw : manager.worker.work? = some work) (state : AssetState)
    (event : ClientAssetEventKind) (error : AssetErrorReason) (worker : Worker)
    (hworker : worker = .waiting ∨ worker.work? = some work) :
    Owned { manager.setState work state event error with worker } := by
  have hhand : ∀ w, worker.work? = some w → manager.worker.work? = some w ∨ w ∈ manager.queue := by
    intro w hm
    rcases hworker with rfl | hsame
    · cases hm
    · rw [hw, ← hsame]
      exact .inl hm
  by_cases hg : work.generation = manager.generation
  · rw [setState_of_current hg]
    exact h.shrink rfl rfl (fun _ => .inl ⟨work, hw, hg⟩) (fun _ hm => hm) hhand
  · rw [setState_of_stale hg]
    exact h.shrink rfl rfl .inr (fun _ hm => hm) hhand

theorem Owned.booked (h : Owned manager) {next : ClientAssetManager} (hb : Booked manager next) :
    Owned next := by
  cases hb with
  | nothing files worker hand =>
      exact h.shrink rfl rfl .inr (fun _ hw => hw) fun _ hw => .inl (hand ▸ hw)
  | takes work queue waiting first =>
      refine h.shrink rfl rfl .inr (fun w hw => ?_) fun w hw => .inr ?_
      · rw [first]
        exact List.mem_cons_of_mem _ hw
      · cases hw
        rw [first]
        exact List.mem_cons_self
  | drops work checking stale => exact h.shrink rfl rfl .inr (fun _ hw => hw) nofun
  | notes work state event worker hand kept kind => exact h.setState hand _ _ _ _ (.inr kept)
  | becomesReady work ready => exact h.setState (congrArg Worker.work? ready) _ _ _ _ (.inl rfl)
  | fails work reason failing => exact h.setState (congrArg Worker.work? failing) _ _ _ _ (.inl rfl)

/-- A completed manifest fills the queue of a session that had none. -/
theorem Owned.handleMessage (h : Owned manager) (message : Message) :
    Owned (manager.handleMessage message).2 := by
  rcases handleMessage_cases h.fed message with ⟨events, -, heq, hcompleted⟩ |
    ⟨manifest, hw, hnone, hcompleted, heq⟩
  · rw [heq]
    refine ⟨h.fed.handle message, ?_, ?_, ?_, ?_⟩
    · simpa only [hcompleted] using h.wellFormed
    · simpa only [hcompleted] using h.empty
    · simpa only [hcompleted] using h.queued
    · simpa only [hcompleted] using h.hand
  · obtain ⟨hs, hq, hhand⟩ := h.empty hnone
    obtain ⟨states, hstates, -⟩ := queueManifest_of_empty
      { manager with
        receiver := (manager.receiver.handle message).2
        events := manager.events ++ [completeEvent manifest] } hw hs
    rw [heq, hstates]
    refine ⟨h.fed.handle message, ?_, ?_, ?_, ?_⟩
    · intro _ hm
      cases hcompleted.symm.trans hm
      exact hw
    · intro hn
      cases hcompleted.symm.trans hn
    · intro _ hm work hmem
      cases hcompleted.symm.trans hm
      simp only [hq, List.nil_append, List.mem_map] at hmem
      obtain ⟨asset, ha, rfl⟩ := hmem
      exact ha
    · intro _ _ work hm hg
      exact absurd hg (hhand work hm)

theorem Owned.resetSession (h : Spares manager .resetSession) : Owned manager.resetSession where
  fed := ManifestReceiver.fed_fresh
  wellFormed := nofun
  empty := fun _ => ⟨rfl, rfl, h⟩
  queued := nofun
  hand := nofun

theorem Owned.step (h : Owned manager) (event : Event) (hs : manager.Spares event) :
    Owned (manager.step event) := by
  cases event with
  | initializeManager cacheInitialized =>
      simp only [ClientAssetManager.step, initializeManager]
      split
      · exact h
      · exact h.shrink rfl rfl .inr (fun _ hw => hw) nofun
  | message message => exact h.handleMessage message
  | resetSession => exact .resetSession hs
  | drainEvents => exact h.shrink rfl rfl .inr (fun _ hw => hw) fun _ hw => .inl hw
  | requestStop => exact h.shrink rfl rfl .inr nofun fun _ hw => .inl hw
  | joined =>
      simp only [ClientAssetManager.step, joined]
      split
      · exact h.shrink rfl rfl .inr (fun _ hw => hw) fun _ hw => .inl hw
      · exact h
  | worker around => exact h.booked (manager.workerStep_booked around)

/-- Only the work in hand can make its asset Ready. -/
theorem Owned.isReady_setState (h : Owned manager) (hw : manager.worker.work? = some work)
    {state : AssetState} {event : ClientAssetEventKind} {error : AssetErrorReason}
    (hr : (manager.setState work state event error).IsReady asset) :
    asset = work.asset ∧ state = .ready ∨ manager.IsReady asset := by
  obtain ⟨manifest, hm, ha, hstate⟩ := hr
  have hm' : manager.receiver.completed = some manifest := by
    obtain ⟨_, _, heq⟩ := setState_eq manager work state event error
    rwa [heq] at hm
  rw [getState_setState] at hstate
  split at hstate
  · rename_i hid
    have hmem := h.hand manifest hm' work hw hid.1
    exact .inl ⟨List.inj_on_of_nodup_map (h.wellFormed manifest hm').entries.ids ha hmem hid.2, hstate⟩
  · exact .inr ⟨manifest, hm', ha, hstate⟩

/-! ## What the worker relies on -/

/-- No Ready asset shares the path of the asset in hand. -/
def Apart (manager : ClientAssetManager) (work : WorkItem) : Prop :=
  ∀ asset, manager.IsReady asset →
    AssetCache.pathFor manager.root asset ≠ AssetCache.pathFor manager.root work.asset

/-- What holds of the files in each phase of the worker. -/
def Relies (manager : ClientAssetManager) : Worker → Prop
  | .cacheHit work => AssetCache.Holds manager.files (AssetCache.pathFor manager.root work.asset) work.asset
  | .ready work => AssetCache.Holds manager.files (AssetCache.pathFor manager.root work.asset) work.asset
  | .downloading work => manager.Apart work
  | .fetching work => manager.Apart work
  | .verifying work => manager.Apart work
  | .hashing work => manager.Apart work
  | .verified work => manager.Apart work ∧
      AssetCache.Holds manager.files (AssetCache.temporaryPathFor manager.root work.asset) work.asset
  | .committing work => manager.Apart work ∧
      AssetCache.Holds manager.files (AssetCache.temporaryPathFor manager.root work.asset) work.asset
  | .moving work => manager.Apart work ∧
      AssetCache.Holds manager.files (AssetCache.temporaryPathFor manager.root work.asset) work.asset
  | _ => True

structure Kept (manager : ClientAssetManager) : Prop where
  owned : manager.Owned
  stored : manager.ReadyStored
  relies : manager.Relies manager.worker

/-- A change of files that keeps what Ready assets stand for. -/
theorem ReadyStored.frame (h : manager.ReadyStored) {files : Filesystem} (worker : Worker)
    (hfiles : ∀ asset, manager.IsReady asset →
      files (AssetCache.pathFor manager.root asset) = manager.files (AssetCache.pathFor manager.root asset)) :
    ReadyStored { manager with files, worker } :=
  fun asset hr => (h asset hr).congr (hfiles asset hr) rfl rfl

/-- What is at the temporary paths is no Ready asset's. -/
theorem ReadyStored.frame_temporary (h : manager.ReadyStored) (work : WorkItem) {files : Filesystem}
    (worker : Worker)
    (hfiles : ∀ path, path ≠ AssetCache.temporaryPathFor manager.root work.asset →
      files path = manager.files path) : ReadyStored { manager with files, worker } :=
  h.frame worker fun _ _ => hfiles _ (AssetCache.pathFor_ne_temporaryPathFor _ _ _)

theorem Kept.setState_stored (h : Kept manager) (hw : manager.worker.work? = some work)
    (state : AssetState) (event : ClientAssetEventKind) (error : AssetErrorReason) (worker : Worker)
    (hholds : state = .ready →
      AssetCache.Holds manager.files (AssetCache.pathFor manager.root work.asset) work.asset) :
    ReadyStored { manager.setState work state event error with worker } := by
  intro asset hr
  have hsame : AssetCache.Holds manager.files (AssetCache.pathFor manager.root asset) asset := by
    rcases h.owned.isReady_setState hw hr with ⟨rfl, hstate⟩ | hr
    · exact hholds hstate
    · exact h.stored asset hr
  obtain ⟨_, _, heq⟩ := setState_eq manager work state event error
  rw [heq]
  exact hsame

theorem Kept.setState_apart (h : Kept manager) (hw : manager.worker.work? = some work)
    {state : AssetState} (hstate : state ≠ .ready) (event : ClientAssetEventKind) (error : AssetErrorReason)
    (ha : manager.Apart work) : (manager.setState work state event error).Apart work := by
  intro asset hr
  have hold : manager.IsReady asset := by
    rcases h.owned.isReady_setState hw hr with ⟨-, hready⟩ | hr
    · exact absurd hready hstate
    · exact hr
  obtain ⟨_, _, heq⟩ := setState_eq manager work state event error
  rw [heq]
  exact ha asset hold

/-! ## The steps of the worker -/

/-- A lookup that spares what Ready assets stand for leaves it in place. -/
theorem lookup_spares (h : manager.ReadyStored) (hr : manager.IsReady asset) {errors : LookupErrors}
    (hs : manager.LookupSpares work errors asset) :
    AssetCache.pathFor manager.root asset = AssetCache.pathFor manager.root work.asset →
      (AssetCache.lookup manager.root manager.files work.asset errors).1 ≠ .miss := by
  intro hpath hmiss
  have hholds := h asset hr
  rw [hpath] at hholds
  obtain ⟨hstatus, hremove⟩ := AssetCache.lookup_miss hholds.choose_spec.1 hmiss
  rcases hs hpath with hs | hs | ⟨hsize, hregular, hfile, hread⟩
  · rw [hs] at hstatus
    cases hstatus
  · rw [hs] at hremove
    cases hremove
  · have hhit := AssetCache.lookup_of_holds
      (hholds.congr rfl hsize.symm (AssetCache.sha256_eq_of_pathFor hpath).symm) hregular hfile hread hstatus
    rw [hhit] at hmiss
    cases hmiss

theorem Kept.lookingUp (h : Kept manager) (hw : manager.worker = .lookingUp work) {around : Surroundings}
    (hs : manager.Spares (.worker around)) :
    (manager.workerStep around).ReadyStored ∧
      (manager.workerStep around).Relies (manager.workerStep around).worker := by
  have hspares := fun asset hr => lookup_spares h.stored hr (hs work hw asset hr)
  refine ⟨?_, ?_⟩
  · simp only [workerStep, hw]
    apply h.stored.frame _
    intro asset hr
    rcases AssetCache.lookup_cases manager.root manager.files work.asset around.lookup with hfiles | hmiss
    · rw [hfiles]
    · refine AssetCache.lookup_of_ne _ (fun hpath => hspares asset hr hpath ?_) around.lookup
      rw [hmiss]
  · simp only [workerStep, hw]
    cases hl : (AssetCache.lookup manager.root manager.files work.asset around.lookup).1 with
    | hit =>
        obtain ⟨hfiles, hholds⟩ := AssetCache.lookup_hit hl
        simpa only [hfiles, Relies] using hholds
    | diskFailure => trivial
    | miss => exact fun asset hr hpath => hspares asset hr hpath hl

/-- What `Fetch` and the rejections write is at the temporary path. -/
theorem fetch_of_ne (manager : ClientAssetManager) (work : WorkItem) (around : Surroundings) (path : Path)
    (h : path ≠ AssetCache.temporaryPathFor manager.root work.asset) :
    (manager.fetch work around).1 path = manager.files path := by
  have hwritten : Function.update
      (AssetCache.removeTemporary manager.files (AssetCache.temporaryPathFor manager.root work.asset)
        around.removeTemporary)
      (AssetCache.temporaryPathFor manager.root work.asset) around.written path = manager.files path := by
    rw [Function.update_of_ne h, AssetCache.removeTemporary_of_ne h]
  simp only [fetch]
  split
  · exact (AssetCache.removeTemporary_of_ne h _).trans hwritten
  · split
    · exact (AssetCache.removeTemporary_of_ne h _).trans hwritten
    · exact hwritten

theorem check_none {around : Surroundings} (h : manager.check work around = none) :
    AssetCache.Holds manager.files (AssetCache.temporaryPathFor manager.root work.asset) work.asset := by
  unfold check at h
  split at h
  · rename_i data hdata
    split_ifs at h with hsize hread hsha
    · exact ⟨data, hdata, not_not.mp ‹_›, not_not.mp ‹_›⟩
  · cases h

theorem ReadyStored.rejectDownload (h : manager.ReadyStored) (around : Surroundings)
    (reason : AssetErrorReason) : (manager.rejectDownload work around reason).ReadyStored :=
  h.frame_temporary work _ fun _ hpath => AssetCache.removeTemporary_of_ne hpath _

/-- The commit writes to the temporary path and to the path of the asset in hand: no Ready asset's. -/
theorem ReadyStored.frame_commit (h : manager.ReadyStored) (ha : manager.Apart work) {files : Filesystem}
    (worker : Worker)
    (hfiles : ∀ path, path ≠ AssetCache.pathFor manager.root work.asset →
      path ≠ AssetCache.temporaryPathFor manager.root work.asset → files path = manager.files path) :
    ReadyStored { manager with files, worker } :=
  h.frame worker fun asset hr => hfiles _ (ha asset hr) (AssetCache.pathFor_ne_temporaryPathFor _ _ _)

theorem Kept.committing (h : Kept manager) (hw : manager.worker = .committing work)
    (around : Surroundings) :
    (manager.workerStep around).ReadyStored ∧
      (manager.workerStep around).Relies (manager.workerStep around).worker := by
  have hrelies := h.relies
  rw [hw] at hrelies
  obtain ⟨hapart, htemporary⟩ := hrelies
  have hne := AssetCache.pathFor_ne_temporaryPathFor manager.root work.asset work.asset
  have hothers := AssetCache.commitLookup_of_ne manager.root manager.files work.asset
    (AssetCache.temporaryPathFor manager.root work.asset) around.commit
  have hnone := AssetCache.commitLookup_none manager.files around.commit hne.symm
  have htrue := AssetCache.commitLookup_true manager.files around.commit hne
  simp only [workerStep, hw]
  generalize AssetCache.commitLookup manager.root manager.files work.asset
    (AssetCache.temporaryPathFor manager.root work.asset) around.commit = committed at *
  have hstored := fun worker => h.stored.frame_commit hapart worker hothers
  obtain ⟨_ | (_ | _), files⟩ := committed
  · exact ⟨hstored _, hapart, htemporary.congr (hnone rfl) rfl rfl⟩
  · exact ⟨(hstored manager.worker).rejectDownload around _, trivial⟩
  · exact ⟨hstored _, htrue rfl⟩

theorem Kept.moving (h : Kept manager) (hw : manager.worker = .moving work) (around : Surroundings) :
    (manager.workerStep around).ReadyStored ∧
      (manager.workerStep around).Relies (manager.workerStep around).worker := by
  have hrelies := h.relies
  rw [hw] at hrelies
  obtain ⟨hapart, htemporary⟩ := hrelies
  have hothers := AssetCache.commitRename_of_ne manager.root manager.files work.asset
    (AssetCache.temporaryPathFor manager.root work.asset) around.commit
  have htrue := AssetCache.commitRename_true manager.root around.commit htemporary
  simp only [workerStep, hw]
  generalize AssetCache.commitRename manager.root manager.files work.asset
    (AssetCache.temporaryPathFor manager.root work.asset) around.commit = committed at *
  have hstored := fun worker => h.stored.frame_commit hapart worker hothers
  obtain ⟨_ | _, files⟩ := committed
  · exact ⟨(hstored manager.worker).rejectDownload around _, trivial⟩
  · exact ⟨hstored _, htrue rfl⟩

theorem Kept.fetching (h : Kept manager) (hw : manager.worker = .fetching work) (around : Surroundings) :
    (manager.workerStep around).ReadyStored ∧
      (manager.workerStep around).Relies (manager.workerStep around).worker := by
  have hapart := h.relies
  rw [hw] at hapart
  have hothers := fetch_of_ne manager work around
  simp only [workerStep, hw]
  generalize manager.fetch work around = fetched at *
  have hstored := fun worker => h.stored.frame_temporary work worker hothers
  obtain ⟨files, _ | reason⟩ := fetched
  · exact ⟨hstored _, hapart⟩
  · exact ⟨hstored _, trivial⟩

theorem Kept.noted (h : Kept manager) (hw : manager.worker.work? = some work) (state : AssetState)
    (hstate : state ≠ .ready) (event : ClientAssetEventKind) (error : AssetErrorReason) (worker : Worker)
    (ha : manager.Apart work) :
    ReadyStored { manager.setState work state event error with worker } ∧
      Apart { manager.setState work state event error with worker } work :=
  ⟨h.setState_stored hw state event error worker fun hr => absurd hr hstate,
    h.setState_apart hw hstate event error ha⟩

theorem Kept.workerStep (h : Kept manager) {around : Surroundings} (hs : manager.Spares (.worker around)) :
    Kept (manager.workerStep around) := by
  have hrelies := h.relies
  suffices hnext : (manager.workerStep around).ReadyStored ∧
      (manager.workerStep around).Relies (manager.workerStep around).worker from
    ⟨h.owned.booked (manager.workerStep_booked around), hnext.1, hnext.2⟩
  have hhand : ∀ {worker : Worker}, manager.worker = worker → manager.worker.work? = worker.work? :=
    fun hw => congrArg Worker.work? hw
  cases hw : manager.worker with
  | stopped =>
      rw [ClientAssetManager.workerStep, hw]
      exact ⟨h.stored, hrelies⟩
  | waiting =>
      simp only [ClientAssetManager.workerStep, hw]
      split
      · exact ⟨h.stored, trivial⟩
      · split
        · exact ⟨h.stored, hrelies⟩
        · exact ⟨h.stored, trivial⟩
  | checking work =>
      simp only [ClientAssetManager.workerStep, hw]
      split <;> exact ⟨h.stored, trivial⟩
  | lookingUp work => exact h.lookingUp hw hs
  | cacheHit work =>
      rw [hw] at hrelies
      simp only [ClientAssetManager.workerStep, hw]
      refine ⟨h.setState_stored (hhand hw) _ _ _ _ fun _ => hrelies, ?_⟩
      obtain ⟨_, _, heq⟩ := setState_eq manager work .ready .cacheHit .internalError
      rw [heq]
      exact hrelies
  | downloading work =>
      rw [hw] at hrelies
      simp only [ClientAssetManager.workerStep, hw]
      exact h.noted (hhand hw) .downloading (by decide) _ _ _ hrelies
  | fetching work => exact h.fetching hw around
  | verifying work =>
      rw [hw] at hrelies
      simp only [ClientAssetManager.workerStep, hw]
      exact h.noted (hhand hw) .verifying (by decide) _ _ _ hrelies
  | hashing work =>
      rw [hw] at hrelies
      simp only [ClientAssetManager.workerStep, hw]
      cases hc : manager.check work around with
      | none => exact ⟨h.stored, hrelies, check_none hc⟩
      | some reason => exact ⟨h.stored.rejectDownload around reason, trivial⟩
  | verified work =>
      rw [hw] at hrelies
      simp only [ClientAssetManager.workerStep, hw]
      obtain ⟨hstored, hapart⟩ := h.noted (hhand hw) .verifying (by decide) .verified .internalError
        (.committing work) hrelies.1
      refine ⟨hstored, hapart, ?_⟩
      obtain ⟨_, _, heq⟩ := setState_eq manager work .verifying .verified .internalError
      rw [heq]
      exact hrelies.2
  | committing work => exact h.committing hw around
  | moving work => exact h.moving hw around
  | ready work =>
      rw [hw] at hrelies
      simp only [ClientAssetManager.workerStep, hw]
      exact ⟨h.setState_stored (hhand hw) _ _ _ _ fun _ => hrelies, trivial⟩
  | failing work reason =>
      simp only [ClientAssetManager.workerStep, hw]
      exact ⟨h.setState_stored (hhand hw) _ _ _ _ fun hs => AssetState.noConfusion hs, trivial⟩

/-! ## Every step -/

theorem make_kept (root : Path) (files : Filesystem) : Kept (make root files) where
  owned := make_owned root files
  stored := by
    rintro asset ⟨_, hm, -⟩
    cases hm
  relies := trivial

theorem Relies.frame {worker : Worker} (h : manager.Relies worker) {next : ClientAssetManager}
    (hroot : next.root = manager.root) (hfiles : next.files = manager.files)
    (hready : ∀ asset, next.IsReady asset → manager.IsReady asset) : next.Relies worker := by
  have hapart : ∀ work, manager.Apart work → next.Apart work := fun work ha asset hr => by
    rw [hroot]
    exact ha asset (hready asset hr)
  cases worker with
  | cacheHit work => simpa only [Relies, hroot, hfiles] using h
  | ready work => simpa only [Relies, hroot, hfiles] using h
  | downloading work => exact hapart work h
  | fetching work => exact hapart work h
  | verifying work => exact hapart work h
  | hashing work => exact hapart work h
  | verified work => exact ⟨hapart work h.1, by simpa only [hroot, hfiles] using h.2⟩
  | committing work => exact ⟨hapart work h.1, by simpa only [hroot, hfiles] using h.2⟩
  | moving work => exact ⟨hapart work h.1, by simpa only [hroot, hfiles] using h.2⟩
  | _ => trivial

/-- Calls that leave the files alone and let no asset become Ready. -/
theorem Kept.frame (h : Kept manager) {next : ClientAssetManager} (ho : next.Owned)
    (hroot : next.root = manager.root) (hfiles : next.files = manager.files)
    (hworker : next.worker = manager.worker ∨ next.worker = .waiting)
    (hready : ∀ asset, next.IsReady asset → manager.IsReady asset) : Kept next := by
  refine ⟨ho, fun asset hr => ?_, ?_⟩
  · rw [hroot, hfiles]
    exact h.stored asset (hready asset hr)
  · rcases hworker with hw | hw
    · rw [hw]
      exact h.relies.frame hroot hfiles hready
    · rw [hw]
      trivial

theorem Kept.step (h : Kept manager) (event : Event) (hs : manager.Spares event) :
    Kept (manager.step event) := by
  have ho := h.owned.step event hs
  cases event with
  | initializeManager cacheInitialized =>
      simp only [ClientAssetManager.step, initializeManager] at ho ⊢
      split
      · exact h
      · rename_i hi
        rw [if_neg hi] at ho
        exact h.frame ho rfl rfl (.inr rfl) fun _ hr => hr
  | message message =>
      rcases handleMessage_cases h.owned.fed message with ⟨events, -, heq, hcompleted⟩ |
        ⟨manifest, hw, hnone, hcompleted, heq⟩
      · simp only [ClientAssetManager.step, heq] at ho ⊢
        apply h.frame ho rfl rfl (.inl rfl)
        intro asset ⟨manifest, hm, hr⟩
        exact ⟨manifest, hcompleted ▸ hm, hr⟩
      · obtain ⟨states, hstates, hlookup⟩ := queueManifest_of_empty
          { manager with
            receiver := (manager.receiver.handle message).2
            events := manager.events ++ [completeEvent manifest] } hw (h.owned.empty hnone).1
        simp only [ClientAssetManager.step, heq, hstates] at ho ⊢
        apply h.frame ho rfl rfl (.inl rfl)
        -- every entry has just been queued
        rintro asset ⟨_, -, -, hr⟩
        simp only [getState, hlookup] at hr
        split at hr <;> cases hr
  | resetSession =>
      apply h.frame ho rfl rfl (.inl rfl)
      rintro asset ⟨_, hm, -⟩
      cases hm
  | drainEvents => exact h.frame ho rfl rfl (.inl rfl) fun _ hr => hr
  | requestStop => exact h.frame ho rfl rfl (.inl rfl) fun _ hr => hr
  | joined =>
      simp only [ClientAssetManager.step, joined] at ho ⊢
      split
      · rename_i hj
        rw [if_pos hj] at ho
        exact h.frame ho rfl rfl (.inl rfl) fun _ hr => hr
      · exact h
  | worker around => exact h.workerStep hs

/-! ## Lookups that do not spare -/

/-- The lookup of `work` removes what a Ready asset stands for. -/
theorem not_readyStored_of_lookup (h : manager.ReadyStored) {around : Surroundings}
    (hs : ¬ manager.Spares (.worker around)) : ¬ (manager.workerStep around).ReadyStored := by
  simp only [Spares, not_forall] at hs
  obtain ⟨work, hw, asset, hr, hs⟩ := hs
  simp only [LookupSpares, not_forall, not_or, Bool.not_eq_true] at hs
  obtain ⟨hpath, hstatus, hremove, hfound⟩ := hs
  have hholds := h asset hr
  have hremoved : AssetCache.lookup manager.root manager.files work.asset around.lookup =
      (.miss, Function.update manager.files (AssetCache.pathFor manager.root work.asset) none) := by
    rw [hpath] at hholds
    exact AssetCache.lookup_removes hholds hstatus hremove hfound
  intro hstored
  have hready : (manager.workerStep around).IsReady asset := by
    simp only [workerStep, hw]
    exact hr
  obtain ⟨data, hdata, -⟩ := hstored asset hready
  simp only [workerStep, hw, hremoved, hpath, Function.update_self] at hdata
  cases hdata

end ClientAssetManager

end CustomModels.Client
