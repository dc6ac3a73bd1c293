import CustomModels.Client.Lemmas.Isolation

/-!
# The course of an asset

Every exit of the worker tells of the result once. So the events about an asset go along one lifecycle, however
the worker, the messages and the draining of the events follow on one another.
-/

namespace CustomModels.Client
open CustomModels.Shared CustomModels.Lib

/-! ## Trails -/

section Trails

variable {assetId : UInt32} {kinds : List ClientAssetEventKind}

theorem trail_append (assetId : UInt32) (xs ys : List ClientAssetEvent) :
    trail assetId (xs ++ ys) = trail assetId xs ++ trail assetId ys := by
  simp only [trail, List.filter_append, List.map_append]

theorem trail_of_not_asset {events : List ClientAssetEvent}
    (h : ∀ event ∈ events, event.kind.isAssetEvent = false) : trail assetId events = [] := by
  rw [trail, List.map_eq_nil_iff, List.filter_eq_nil_iff]
  intro event he
  simp [h event he]

theorem trail_single {event : ClientAssetEvent} (h : event.kind.isAssetEvent = true) :
    trail assetId [event] = if assetId = event.assetId then [event.kind] else [] := by
  by_cases hid : assetId = event.assetId
  · simp [trail, h, hid]
  · simp [trail, hid, Ne.symm hid]

theorem trail_queued (revision : UInt64) {assets : List AssetDescription}
    (h : (assets.map AssetDescription.assetId).Nodup) :
    trail assetId (assets.map (ClientAssetManager.queuedEvent revision)) =
      if assetId ∈ assets.map AssetDescription.assetId then [.queued] else [] := by
  induction assets with
  | nil => rfl
  | cons asset assets ih =>
      rw [List.map_cons, List.nodup_cons] at h
      rw [List.map_cons, List.map_cons, ← List.singleton_append, trail_append, ih h.2, trail_single rfl]
      by_cases hid : assetId = asset.assetId
      · subst hid
        simp [ClientAssetManager.queuedEvent, h.1]
      · simp [ClientAssetManager.queuedEvent, hid]

theorem IsCourse.initial {xs : List ClientAssetEventKind} (h : IsCourse kinds) (hp : xs <+: kinds) :
    IsCourse xs := by
  obtain ⟨lifecycle, hl, hk⟩ := h
  exact ⟨lifecycle, hl, hp.trans hk⟩

/-- A course begins with the queue, and comes back to it no more. -/
theorem IsCourse.count_queued (h : IsCourse kinds) (hn : kinds ≠ []) : kinds.count .queued = 1 := by
  have hall : ∀ lifecycle ∈ lifecycles, ∀ xs ∈ lifecycle.inits, xs ≠ [] →
      xs.count ClientAssetEventKind.queued = 1 := by decide
  obtain ⟨lifecycle, hl, hp⟩ := h
  exact hall lifecycle hl kinds (List.mem_inits _ _ |>.mpr hp) hn

end Trails

/-! ## The phases of the worker -/

/-- What may have been told of the item in hand when the worker comes to a phase. -/
def Worker.trails : Worker → List (List ClientAssetEventKind)
  | .stopped => []
  | .waiting => []
  | .checking _ => [[.queued]]
  | .lookingUp _ => [[.queued]]
  | .cacheHit _ => [[.queued]]
  | .downloading _ => [[.queued]]
  | .fetching _ => [[.queued, .downloading]]
  | .verifying _ => [[.queued, .downloading]]
  | .hashing _ => [[.queued, .downloading, .verifying]]
  | .verified _ => [[.queued, .downloading, .verifying]]
  | .committing _ => [[.queued, .downloading, .verifying, .verified]]
  | .moving _ => [[.queued, .downloading, .verifying, .verified]]
  | .ready _ => [[.queued, .cacheHit], [.queued, .downloading, .verifying, .verified]]
  | .failing _ _ =>
      [[.queued], [.queued, .downloading], [.queued, .downloading, .verifying],
        [.queued, .downloading, .verifying, .verified]]

theorem Worker.nil_not_mem_trails (worker : Worker) : [] ∉ worker.trails := by
  cases worker <;> simp [trails]

namespace ClientAssetManager

variable {manager next : ClientAssetManager} {work : WorkItem}

/-- One step of the worker, with what it tells of the item in hand. -/
inductive Advance (manager : ClientAssetManager) : ClientAssetManager → Prop where
  | quiet (files : Filesystem) (worker : Worker)
      (hand : ∀ work, worker.work? = some work → manager.worker.work? = some work)
      (along : ∀ work, worker.work? = some work → manager.worker.trails ⊆ worker.trails) :
      Advance manager { manager with files, worker }
  | takes (work : WorkItem) (queue : List WorkItem) (waiting : manager.worker = .waiting)
      (first : manager.queue = work :: queue) :
      Advance manager { manager with queue, worker := .checking work }
  | tells (work : WorkItem) (kind : ClientAssetEventKind) (error : AssetErrorReason) (worker : Worker)
      (hand : manager.worker.work? = some work) (about : kind.isAssetEvent = true)
      (kept : ∀ other, worker.work? = some other → other = work)
      (course : ∀ kinds ∈ manager.worker.trails, IsCourse (kinds ++ [kind]))
      (along : ∀ other, worker.work? = some other → ∀ kinds ∈ manager.worker.trails,
        kinds ++ [kind] ∈ worker.trails) :
      Advance manager { manager.setState work kind.state kind error with worker }

theorem workerStep_advance (manager : ClientAssetManager) (around : Surroundings) :
    Advance manager (manager.workerStep around) := by
  have hquiet : ∀ files (worker : Worker), worker.work? = manager.worker.work? →
      manager.worker.trails ⊆ worker.trails → Advance manager { manager with files, worker } :=
    fun files worker hand along => .quiet files worker (fun _ hw => hand ▸ hw) fun _ _ => along
  unfold workerStep
  cases hw : manager.worker with
  | stopped => exact .quiet _ _ (fun _ h => h) fun _ _ => List.Subset.refl _
  | waiting =>
      simp only
      split
      · exact .quiet _ _ nofun nofun
      · split
        · exact .quiet _ _ (fun _ h => h) fun _ _ => List.Subset.refl _
        · exact .takes _ _ hw ‹_›
  | checking work =>
      simp only
      split
      · exact .quiet _ _ nofun nofun
      · exact hquiet _ _ (by rw [hw]; rfl) (by simp only [hw, Worker.trails]; decide)
  | lookingUp work =>
      simp only
      apply hquiet _ _
      · rw [hw]
        split <;> rfl
      · rw [hw]
        split <;> simp [Worker.trails]
  | cacheHit work =>
      exact .tells work .cacheHit _ _ (by rw [hw]; rfl) rfl (fun _ h => (Option.some.inj h).symm)
        (by simp only [hw, Worker.trails]; decide)
        (by intro _ _; simp only [hw, Worker.trails]; decide)
  | downloading work =>
      exact .tells work .downloading _ _ (by rw [hw]; rfl) rfl (fun _ h => (Option.some.inj h).symm)
        (by simp only [hw, Worker.trails]; decide)
        (by intro _ _; simp only [hw, Worker.trails]; decide)
  | fetching work =>
      simp only
      split
      · exact hquiet _ _ (by rw [hw]; rfl) (by rw [hw]; simp [Worker.trails])
      · exact hquiet _ _ (by rw [hw]; rfl) (by rw [hw]; simp [Worker.trails])
  | verifying work =>
      exact .tells work .verifying _ _ (by rw [hw]; rfl) rfl (fun _ h => (Option.some.inj h).symm)
        (by simp only [hw, Worker.trails]; decide)
        (by intro _ _; simp only [hw, Worker.trails]; decide)
  | hashing work =>
      simp only
      split <;> exact hquiet _ _ (by rw [hw]; rfl) (by rw [hw]; simp [Worker.trails])
  | verified work =>
      exact .tells work .verified _ _ (by rw [hw]; rfl) rfl (fun _ h => (Option.some.inj h).symm)
        (by simp only [hw, Worker.trails]; decide)
        (by intro _ _; simp only [hw, Worker.trails]; decide)
  | committing work =>
      simp only
      split <;> exact hquiet _ _ (by rw [hw]; rfl) (by rw [hw]; simp [Worker.trails])
  | moving work =>
      simp only
      split <;> exact hquiet _ _ (by rw [hw]; rfl) (by rw [hw]; simp [Worker.trails])
  | ready work =>
      exact .tells work .ready _ _ (by rw [hw]; rfl) rfl nofun (by simp only [hw, Worker.trails]; decide) nofun
  | failing work reason =>
      exact .tells work .failed _ _ (by rw [hw]; rfl) rfl nofun (by simp only [hw, Worker.trails]; decide) nofun

/-! ## The books of a session -/

variable {log : List ClientAssetEvent} {enqueued : List WorkItem}

/-- What a session has, once it has appended the events of the log and queued the items. -/
structure Course (manager : ClientAssetManager) (log : List ClientAssetEvent) (enqueued : List WorkItem) :
    Prop where
  fed : manager.receiver.Fed
  states : ∀ assetId,
    manager.states.lookup assetId = (trail assetId log).getLast?.map ClientAssetEventKind.state
  courses : ∀ assetId, IsCourse (trail assetId log)
  listed : ∀ assetId, trail assetId log ≠ [] ↔ ∃ manifest, manager.receiver.completed = some manifest ∧
    assetId ∈ manifest.assets.map AssetDescription.assetId
  nothing : manager.receiver.completed = none → enqueued = []
  everything : ∀ manifest, manager.receiver.completed = some manifest →
    enqueued = manifest.assets.map (manager.queuedItem manifest.revision)
  waits : ∀ work ∈ manager.queue, trail work.asset.assetId log = [.queued]
  apart : (manager.queue.map fun work => work.asset.assetId).Nodup
  hand : ∀ work, manager.Current work → trail work.asset.assetId log ∈ manager.worker.trails ∧
    work.asset.assetId ∉ manager.queue.map fun work => work.asset.assetId

theorem Course.begin (hf : manager.receiver.Fed) (hc : manager.receiver.completed = none)
    (hs : manager.states = ∅) (hq : manager.queue = []) (hw : ∀ work, ¬ manager.Current work) :
    Course manager [] [] where
  fed := hf
  states := fun assetId => by rw [hs]; exact Finmap.lookup_empty assetId
  courses := fun assetId => ⟨_, List.mem_cons_self, List.nil_prefix⟩
  listed := fun assetId => by simp [trail, hc]
  nothing := fun _ => rfl
  everything := fun manifest hm => by cases hc.symm.trans hm
  waits := fun work hm => by simp [hq] at hm
  apart := by simp [hq]
  hand := fun work h => absurd h (hw work)

/-- The step tells nothing of an asset, and queues nothing. -/
theorem Course.frame (h : Course manager log enqueued) {new : List ClientAssetEvent}
    (hnew : ∀ event ∈ new, event.kind.isAssetEvent = false) (hfed : next.receiver.Fed)
    (hcompleted : next.receiver.completed = manager.receiver.completed)
    (hgeneration : next.generation = manager.generation) (hstates : next.states = manager.states)
    (hqueue : next.queue.Sublist manager.queue)
    (hhand : ∀ work, next.Current work → trail work.asset.assetId log ∈ next.worker.trails ∧
      work.asset.assetId ∉ next.queue.map fun work => work.asset.assetId) :
    Course next (log ++ new) enqueued := by
  have htrail : ∀ assetId, trail assetId (log ++ new) = trail assetId log := by
    intro assetId
    rw [trail_append, trail_of_not_asset hnew, List.append_nil]
  refine ⟨hfed, ?_, ?_, ?_, hcompleted ▸ h.nothing, ?_, fun work hw => ?_,
    h.apart.sublist (hqueue.map _), ?_⟩
  · simpa only [htrail, hstates] using h.states
  · simpa only [htrail] using h.courses
  · simpa only [htrail, hcompleted] using h.listed
  · intro manifest hm
    rw [h.everything manifest (hcompleted ▸ hm)]
    unfold queuedItem
    rw [hgeneration]
  · rw [htrail]
    exact h.waits work (hqueue.subset hw)
  · simpa only [htrail] using hhand

theorem Course.tells (h : Course manager log enqueued) (hw : manager.Current work) {kind : ClientAssetEventKind}
    (hk : kind.isAssetEvent = true) (error : AssetErrorReason) {worker : Worker}
    (hkept : ∀ other, worker.work? = some other → other = work)
    (hcourse : ∀ kinds ∈ manager.worker.trails, IsCourse (kinds ++ [kind]))
    (halong : ∀ other, worker.work? = some other → ∀ kinds ∈ manager.worker.trails,
      kinds ++ [kind] ∈ worker.trails) :
    Course { manager with
        states := manager.states.insert work.asset.assetId kind.state
        events := manager.events ++ [⟨kind, work.manifestRevision, work.asset.assetId, 0, error⟩]
        worker }
      (log ++ [⟨kind, work.manifestRevision, work.asset.assetId, 0, error⟩]) enqueued := by
  obtain ⟨htrail, hqueue⟩ := h.hand work hw
  have hmine : trail work.asset.assetId (log ++ [⟨kind, work.manifestRevision, work.asset.assetId, 0, error⟩]) =
      trail work.asset.assetId log ++ [kind] := by
    rw [trail_append, trail_single hk, if_pos rfl]
  have hother : ∀ assetId, assetId ≠ work.asset.assetId →
      trail assetId (log ++ [⟨kind, work.manifestRevision, work.asset.assetId, 0, error⟩]) =
        trail assetId log := by
    intro assetId hne
    rw [trail_append, trail_single hk, if_neg hne, List.append_nil]
  refine ⟨h.fed, fun assetId => ?_, fun assetId => ?_, fun assetId => ?_, h.nothing, h.everything,
    fun other ho => ?_, h.apart, fun other ho => ?_⟩
  · by_cases hid : assetId = work.asset.assetId
    · rw [hid, hmine, Finmap.lookup_insert, List.getLast?_append]
      rfl
    · rw [hother assetId hid, Finmap.lookup_insert_of_ne _ hid]
      exact h.states assetId
  · by_cases hid : assetId = work.asset.assetId
    · rw [hid, hmine]
      exact hcourse _ htrail
    · rw [hother assetId hid]
      exact h.courses assetId
  · by_cases hid : assetId = work.asset.assetId
    · -- the item in hand has been told of before
      have hsome : trail assetId log ≠ [] := by
        intro hnil
        rw [← hid, hnil] at htrail
        exact manager.worker.nil_not_mem_trails htrail
      rw [← h.listed assetId, hid, hmine]
      simp [hid ▸ hsome]
    · rw [hother assetId hid]
      exact h.listed assetId
  · have hne : other.asset.assetId ≠ work.asset.assetId := by
      intro he
      exact hqueue (he ▸ List.mem_map_of_mem ho)
    rw [hother _ hne]
    exact h.waits other ho
  · have hsame := hkept other ho.1
    rw [hsame, hmine]
    exact ⟨halong other ho.1 _ htrail, hqueue⟩

theorem Course.advance (h : Course manager log enqueued) (ha : Advance manager next) :
    ∃ new, next.events = manager.events ++ new ∧ Course next (log ++ new) enqueued := by
  have hsilent : ∀ next : ClientAssetManager, next.events = manager.events → Course next (log ++ []) enqueued →
      ∃ new, next.events = manager.events ++ new ∧ Course next (log ++ new) enqueued :=
    fun next he hc => ⟨[], by rw [he, List.append_nil], hc⟩
  cases ha with
  | quiet files worker hand along =>
      refine hsilent _ rfl (h.frame nofun h.fed rfl rfl rfl (List.Sublist.refl _) fun work hw => ?_)
      obtain ⟨htrail, hqueue⟩ := h.hand work ⟨hand work hw.1, hw.2⟩
      exact ⟨along work hw.1 htrail, hqueue⟩
  | takes work queue waiting first =>
      have hwaits := h.waits work (by rw [first]; exact List.mem_cons_self)
      have hapart := h.apart
      rw [first, List.map_cons, List.nodup_cons] at hapart
      refine hsilent _ rfl (h.frame nofun h.fed rfl rfl rfl ?_ fun other ho => ?_)
      · rw [first]
        exact List.sublist_cons_self work queue
      · cases ho.1
        exact ⟨by rw [hwaits]; exact List.mem_cons_self, hapart.1⟩
  | tells work kind error worker hand about kept course along =>
      by_cases hg : work.generation = manager.generation
      · rw [setState_of_current hg]
        exact ⟨_, rfl, h.tells ⟨hand, hg⟩ about error kept course along⟩
      · rw [setState_of_stale hg]
        refine hsilent _ rfl (h.frame nofun h.fed rfl rfl rfl (List.Sublist.refl _) fun other ho => ?_)
        exact absurd (kept other ho.1 ▸ ho.2) hg

/-- A session without a manifest has had no asset yet. -/
theorem Course.blank (h : Course manager log enqueued) (hnone : manager.receiver.completed = none) :
    (∀ assetId, trail assetId log = []) ∧ manager.queue = [] ∧ manager.states = ∅ ∧
      ∀ work, ¬ manager.Current work := by
  have htrail : ∀ assetId, trail assetId log = [] := by
    intro assetId
    by_contra hn
    obtain ⟨_, hm, -⟩ := (h.listed assetId).mp hn
    cases hnone.symm.trans hm
  refine ⟨htrail, ?_, ?_, fun work hc => ?_⟩
  · rw [List.eq_nil_iff_forall_not_mem]
    intro work hm
    cases (htrail work.asset.assetId).symm.trans (h.waits work hm)
  · apply Finmap.ext_lookup
    intro assetId
    rw [h.states, htrail, Finmap.lookup_empty]
    rfl
  · have htold := (h.hand work hc).1
    rw [htrail] at htold
    exact manager.worker.nil_not_mem_trails htold

theorem Course.handleMessage (h : Course manager log enqueued) (message : Message) :
    ∃ new items, (manager.handleMessage message).2.events = manager.events ++ new ∧
      (manager.handleMessage message).2.queue = manager.queue ++ items ∧
      Course (manager.handleMessage message).2 (log ++ new) (enqueued ++ items) := by
  rcases handleMessage_cases h.fed message with ⟨events, hkinds, heq, hcompleted⟩ |
    ⟨manifest, hw, hnone, hcompleted, heq⟩
  · rw [heq]
    refine ⟨events, [], rfl, (List.append_nil _).symm, ?_⟩
    rw [List.append_nil]
    refine h.frame (fun event he => ?_) (h.fed.handle message) hcompleted rfl rfl (List.Sublist.refl _) h.hand
    rw [hkinds event he]
    rfl
  · obtain ⟨htrail, hqueue, hstates, hhand⟩ := h.blank hnone
    obtain ⟨states, hqueued, hlookup⟩ := queueManifest_of_empty
      { manager with
        receiver := (manager.receiver.handle message).2
        events := manager.events ++ [completeEvent manifest] } hw hstates
    have hnew : ∀ assetId, trail assetId (log ++ ([completeEvent manifest] ++
        manifest.assets.map (queuedEvent manifest.revision))) =
          if assetId ∈ manifest.assets.map AssetDescription.assetId then [.queued] else [] := by
      intro assetId
      rw [trail_append, htrail, List.nil_append, trail_append, trail_queued _ hw.entries.ids]
      rfl
    rw [heq, hqueued]
    refine ⟨[completeEvent manifest] ++ manifest.assets.map (queuedEvent manifest.revision),
      manifest.assets.map (manager.queuedItem manifest.revision), ?_, rfl, h.fed.handle message, ?_, ?_, ?_, ?_, ?_,
      ?_, ?_, fun work hc => absurd hc (hhand work)⟩
    · exact List.append_assoc ..
    · intro assetId
      rw [hlookup, hnew]
      split <;> rfl
    · intro assetId
      rw [hnew]
      split
      · decide
      · decide
    · intro assetId
      rw [hnew]
      constructor
      · intro hn
        by_contra hno
        exact hn (if_neg fun hid => hno ⟨manifest, hcompleted, hid⟩)
      · intro ⟨other, ho, hid⟩
        cases hcompleted.symm.trans ho
        rw [if_pos hid]
        exact List.cons_ne_nil _ _
    · intro hn
      cases hcompleted.symm.trans hn
    · intro other ho
      cases hcompleted.symm.trans ho
      rw [h.nothing hnone, List.nil_append]
      rfl
    · intro work hm
      rw [hqueue, List.nil_append] at hm
      obtain ⟨asset, ha, rfl⟩ := List.mem_map.mp hm
      rw [hnew]
      exact if_pos (List.mem_map_of_mem ha)
    · rw [hqueue, List.nil_append, List.map_map]
      exact hw.entries.ids

/-! ## Runs of a session -/

/-- The events that a step appends are what it adds to those that wait. -/
theorem appendedBy_eq {event : Event} {new : List ClientAssetEvent} (hr : event ≠ .resetSession)
    (hd : event ≠ .drainEvents) (h : (manager.step event).events = manager.events ++ new) :
    manager.appendedBy event = new := by
  have hdrop : (manager.step event).events.drop manager.events.length = new := by rw [h, List.drop_left]
  cases event with
  | resetSession => exact absurd rfl hr
  | drainEvents => exact absurd rfl hd
  | _ => exact hdrop

theorem Course.step (h : Course manager log enqueued) {event : Event} (hr : event ≠ .resetSession) :
    manager.drainedBy event ++ (manager.step event).events = manager.events ++ manager.appendedBy event ∧
      Course (manager.step event) (log ++ manager.appendedBy event) (enqueued ++ manager.enqueuedBy event) := by
  -- the step appends nothing and queues nothing
  have hidle : ∀ next : ClientAssetManager, next.receiver = manager.receiver →
      next.generation = manager.generation → next.states = manager.states → next.queue.Sublist manager.queue →
      (∀ work, next.worker.work? = some work → next.worker = manager.worker) →
      Course next (log ++ []) (enqueued ++ []) := by
    intro next hreceiver hgeneration hstates hqueue hworker
    rw [List.append_nil enqueued]
    refine h.frame (fun _ he => (by cases he)) (hreceiver ▸ h.fed) (by rw [hreceiver]) hgeneration hstates hqueue
      fun work hw => ?_
    have hsame := hworker work hw.1
    obtain ⟨htrail, hne⟩ := h.hand work ⟨hsame ▸ hw.1, hw.2.trans hgeneration⟩
    exact ⟨hsame ▸ htrail, fun hm => hne ((hqueue.map _).subset hm)⟩
  cases event with
  | initializeManager cacheInitialized =>
      have hevents : (manager.step (.initializeManager cacheInitialized)).events = manager.events ++ [] := by
        simp only [ClientAssetManager.step, initializeManager, List.append_nil]
        split <;> rfl
      rw [appendedBy_eq hr (by simp) hevents, hevents]
      refine ⟨rfl, ?_⟩
      simp only [ClientAssetManager.step, initializeManager]
      split
      · exact hidle _ rfl rfl rfl (List.Sublist.refl _) fun _ _ => rfl
      · exact hidle _ rfl rfl rfl (List.Sublist.refl _) fun _ hw => (by cases hw)
  | message message =>
      obtain ⟨new, items, hevents, hqueue, hcourse⟩ := h.handleMessage message
      have hitems : manager.enqueuedBy (.message message) = items := by rw [enqueuedBy, hqueue, List.drop_left]
      rw [appendedBy_eq hr (by simp) hevents, hitems]
      exact ⟨hevents, hcourse⟩
  | resetSession => exact absurd rfl hr
  | drainEvents =>
      refine ⟨rfl, hidle _ rfl rfl rfl (List.Sublist.refl _) fun _ _ => rfl⟩
  | requestStop =>
      have hevents : (manager.step .requestStop).events = manager.events ++ [] := (List.append_nil _).symm
      rw [appendedBy_eq hr (by simp) hevents]
      exact ⟨hevents, hidle _ rfl rfl rfl (List.nil_sublist _) fun _ _ => rfl⟩
  | joined =>
      have hevents : (manager.step .joined).events = manager.events ++ [] := by
        simp only [ClientAssetManager.step, joined, List.append_nil]
        split <;> rfl
      rw [appendedBy_eq hr (by simp) hevents, hevents]
      refine ⟨rfl, ?_⟩
      simp only [ClientAssetManager.step, joined]
      split
      · exact hidle _ rfl rfl rfl (List.Sublist.refl _) fun _ _ => rfl
      · exact hidle _ rfl rfl rfl (List.Sublist.refl _) fun _ _ => rfl
  | worker around =>
      obtain ⟨new, hevents, hcourse⟩ := h.advance (manager.workerStep_advance around)
      rw [appendedBy_eq hr (by simp) hevents]
      refine ⟨hevents, ?_⟩
      rw [show manager.enqueuedBy (.worker around) = [] from rfl, List.append_nil]
      exact hcourse

theorem Course.run {start : ClientAssetManager} (h : Course start log enqueued) {session : List Event}
    (hr : ∀ event ∈ session, event ≠ .resetSession) :
    start.sessionDrained session ++ (Lib.run ClientAssetManager.step start session).events =
        start.events ++ start.sessionLog session ∧
      Course (Lib.run ClientAssetManager.step start session) (log ++ start.sessionLog session)
        (enqueued ++ collect ClientAssetManager.step enqueuedBy start session) := by
  induction session generalizing start log enqueued with
  | nil =>
      simp only [sessionDrained, sessionLog, collect, run_nil, List.nil_append, List.append_nil, true_and]
      exact h
  | cons event session ih =>
      obtain ⟨hevents, hstep⟩ := h.step (hr event List.mem_cons_self)
      obtain ⟨hdrained, hcourse⟩ := ih hstep fun other ho => hr other (List.mem_cons_of_mem _ ho)
      simp only [sessionDrained, sessionLog] at hdrained hcourse ⊢
      simp only [collect, run_cons]
      refine ⟨?_, ?_⟩
      · rw [List.append_assoc, hdrained, ← List.append_assoc, hevents, List.append_assoc]
      · rw [← List.append_assoc, ← List.append_assoc]
        exact hcourse

theorem run_generation {session : List Event} (hr : ∀ event ∈ session, event ≠ .resetSession) :
    (Lib.run ClientAssetManager.step manager session).generation = manager.generation := by
  induction session generalizing manager with
  | nil => rfl
  | cons event session ih =>
      refine (ih fun other ho => hr other (List.mem_cons_of_mem _ ho)).trans (step_generation ?_)
      have hne := hr event List.mem_cons_self
      cases event with
      | resetSession => exact absurd rfl hne
      | _ => rfl

/-- As long as the counter has not come round, the work in hand is of an earlier session. -/
theorem fresh_of_resets {root : Path} {files : Filesystem} {before : List Event}
    (hr : resets before < UInt64.size - 1) (h : before = [] ∨ ∃ earlier, before = earlier ++ [.resetSession])
    (work : WorkItem) (hw : (Lib.run ClientAssetManager.step (make root files) before).worker.work? = some work) :
    work.generation ≠ (Lib.run ClientAssetManager.step (make root files) before).generation := by
  intro hg
  have hbelongs := (run_isolated root files hr).1.current work ⟨hw, hg⟩
  rcases h with rfl | ⟨earlier, rfl⟩
  · exact not_belongs rfl hbelongs
  · rw [run_append] at hbelongs
    exact not_belongs rfl hbelongs

/-- A session begins at the start or with a reset, and it must not take the work in hand for its own. -/
theorem course_begin {root : Path} {files : Filesystem} {before : List Event}
    (h : before = [] ∨ ∃ earlier, before = earlier ++ [.resetSession])
    (hw : ∀ work, ¬ (Lib.run ClientAssetManager.step (make root files) before).Current work) :
    Course (Lib.run ClientAssetManager.step (make root files) before) [] [] ∧
      (Lib.run ClientAssetManager.step (make root files) before).events = [] := by
  rcases h with rfl | ⟨earlier, rfl⟩
  · exact ⟨.begin ManifestReceiver.fed_fresh rfl rfl rfl nofun, rfl⟩
  · rw [run_append] at hw ⊢
    exact ⟨.begin ManifestReceiver.fed_fresh rfl rfl rfl hw, rfl⟩

theorem Course.oneResult {start : ClientAssetManager} (h : Course start [] []) (he : start.events = [])
    {session : List Event} (hr : ∀ event ∈ session, event ≠ .resetSession) : OneResult start session := by
  obtain ⟨hdrained, hcourse⟩ := h.run hr
  rw [he, List.nil_append] at hdrained
  rw [List.nil_append, List.nil_append] at hcourse
  refine ⟨hdrained, fun assetId => ?_, fun assetId => ?_, fun manifest hm => ?_, fun assetId ho => ?_⟩
  · refine ⟨(hcourse.courses assetId).initial ?_, hcourse.courses assetId⟩
    rw [← hdrained, trail_append]
    exact List.prefix_append _ _
  · rw [getState, hcourse.states, impliedState]
  · refine ⟨?_, fun asset ha => (hcourse.courses asset.assetId).count_queued ?_⟩
    · rw [hcourse.everything manifest hm]
      unfold queuedItem
      rw [run_generation hr]
    · exact (hcourse.listed asset.assetId).mpr ⟨manifest, hm, List.mem_map_of_mem ha⟩
  · have hnone : trail assetId (start.sessionLog session) = [] := by
      by_contra hn
      obtain ⟨manifest, hm, hid⟩ := (hcourse.listed assetId).mp hn
      exact ho manifest hm hid
    exact ⟨hnone, by rw [hcourse.states, hnone]; rfl⟩

/-! ## The counter comes round -/

theorem run_resets (manager : ClientAssetManager) (n : Nat) :
    (Lib.run ClientAssetManager.step manager (List.replicate n .resetSession)).worker = manager.worker ∧
      (Lib.run ClientAssetManager.step manager (List.replicate n .resetSession)).generation =
        nextGeneration^[n] manager.generation := by
  induction n with
  | zero => exact ⟨rfl, rfl⟩
  | succ n ih =>
      rw [List.replicate_succ', run_append, Function.iterate_succ_apply', ← ih.2]
      exact ⟨ih.1, rfl⟩

theorem toNat_nextGeneration_iterate {n : Nat} (h : n < UInt64.size - 1) :
    (nextGeneration^[n] 1).toNat = n + 1 := by
  induction n with
  | zero => rfl
  | succ n ih =>
      have hn := ih (by omega)
      rw [Function.iterate_succ_apply', toNat_nextGeneration (by omega), hn]

theorem run_resets_events (manager : ClientAssetManager) (n : Nat) :
    (Lib.run ClientAssetManager.step manager (List.replicate (n + 1) .resetSession)).events = [] := by
  rw [List.replicate_succ', run_append]
  rfl

/-- After 2^64 - 1 resets the counter is back at the first generation. -/
theorem nextGeneration_cycle : nextGeneration^[UInt64.size - 2 + 1] 1 = 1 := by
  have hlast : (nextGeneration^[UInt64.size - 2] 1).toNat = UInt64.size - 2 + 1 :=
    toNat_nextGeneration_iterate (by decide)
  rw [Function.iterate_succ_apply']
  generalize nextGeneration^[UInt64.size - 2] 1 = last at hlast
  have hzero : last + 1 = 0 := by
    rw [← UInt64.toNat_inj, UInt64.toNat_add, hlast]
    rfl
  rw [nextGeneration, if_pos hzero]

end ClientAssetManager

end CustomModels.Client
