import CustomModels.Lib.Progress
import CustomModels.Client.Sessions
import CustomModels.Client.Lemmas.Ledger

/-!
# The progress of the worker

Each step of the worker brings the item in hand nearer to its end, or takes the next one. The calls of the network
thread do not set it back.
-/

namespace CustomModels.Client
open CustomModels.Shared CustomModels.Lib

/-- How many steps the worker has to go at most until it waits again. -/
def Worker.left : Worker → Nat
  | stopped => 0
  | waiting => 0
  | checking _ => 10
  | lookingUp _ => 9
  | downloading _ => 8
  | fetching _ => 7
  | verifying _ => 6
  | hashing _ => 5
  | verified _ => 4
  | committing _ => 3
  | cacheHit _ => 2
  | moving _ => 2
  | ready _ => 1
  | failing _ _ => 1

namespace ClientAssetManager

variable {manager : ClientAssetManager} {manifest : Manifest} {ended : List AssetEnd}

/-- The steps that the item in hand and those in the queue take at most. -/
def workLeft (manager : ClientAssetManager) : Nat := 11 * manager.queue.length + manager.worker.left

theorem setState_queue (manager : ClientAssetManager) (work : WorkItem) (state : AssetState)
    (event : ClientAssetEventKind) (error : AssetErrorReason) :
    (manager.setState work state event error).queue = manager.queue := by
  obtain ⟨_, _, heq⟩ := setState_eq manager work state event error
  rw [heq]

theorem workerStep_left (hr : manager.stopping = false) (hw : manager.worker ≠ .stopped) (around : Surroundings) :
    (manager.workerStep around).workLeft ≤ manager.workLeft - 1 ∧
      (manager.workerStep around).worker ≠ .stopped := by
  unfold workerStep
  cases hworker : manager.worker with
  | stopped => exact absurd hworker hw
  | waiting =>
      simp only [hr, Bool.false_eq_true, ↓reduceIte]
      cases hq : manager.queue with
      | nil => simp [workLeft, hq, hworker, Worker.left]
      | cons work queue =>
          simp only [workLeft, hq, hworker, Worker.left, List.length_cons, ne_eq, reduceCtorEq, not_false_eq_true,
            and_true]
          omega
  | checking work =>
      simp only
      split
      · simp [workLeft, hworker, Worker.left]
      · simp [workLeft, hworker, Worker.left]
  | lookingUp work =>
      simp only
      split
      · simp [workLeft, hworker, Worker.left]
      · simp [workLeft, hworker, Worker.left]
      · simp [workLeft, hworker, Worker.left]
  | fetching work =>
      simp only
      split
      · simp [workLeft, hworker, Worker.left]
      · simp [workLeft, hworker, Worker.left]
  | hashing work =>
      simp only
      split
      · simp [workLeft, hworker, Worker.left]
      · simp [workLeft, rejectDownload, hworker, Worker.left]
  | committing work =>
      simp only
      split
      · simp [workLeft, hworker, Worker.left]
      · simp [workLeft, rejectDownload, hworker, Worker.left]
      · simp [workLeft, hworker, Worker.left]
  | moving work =>
      simp only
      split
      · simp [workLeft, hworker, Worker.left]
      · simp [workLeft, rejectDownload, hworker, Worker.left]
  | cacheHit work | downloading work | verifying work | verified work | ready work | failing work reason =>
      simp [workLeft, setState_queue, hworker, Worker.left]

/-! ## Sessions -/

theorem Booked.kept {next : ClientAssetManager} (h : Booked manager next) :
    next.initialized = manager.initialized ∧ next.stopping = manager.stopping ∧ next.receiver = manager.receiver := by
  have hset : ∀ work state event error,
      (manager.setState work state event error).initialized = manager.initialized ∧
        (manager.setState work state event error).stopping = manager.stopping ∧
        (manager.setState work state event error).receiver = manager.receiver := by
    intro work state event error
    obtain ⟨_, _, heq⟩ := setState_eq manager work state event error
    rw [heq]
    exact ⟨rfl, rfl, rfl⟩
  cases h with
  | nothing files worker hand => exact ⟨rfl, rfl, rfl⟩
  | takes work queue waiting first => exact ⟨rfl, rfl, rfl⟩
  | drops work checking stale => exact ⟨rfl, rfl, rfl⟩
  | notes work state event worker hand kept kind => exact hset _ _ _ _
  | becomesReady work ready => exact hset _ _ _ _
  | fails work reason failing => exact hset _ _ _ _

/-- The worker thread runs, and the receiver has been fed since it was fresh. -/
structure Employed (manager : ClientAssetManager) : Prop where
  initialized : manager.initialized = true
  worker : manager.worker ≠ .stopped
  fed : manager.receiver.Fed

/-- The calls that a session is made of. -/
def Event.Within (event : Event) : Prop := event ≠ .resetSession ∧ event ≠ .requestStop

theorem queueAssets_keeps (manager : ClientAssetManager) (revision : UInt64) (assets : List AssetDescription) :
    ∃ states queue events, manager.queueAssets revision assets = { manager with states, queue, events } := by
  induction assets generalizing manager with
  | nil => exact ⟨_, _, _, rfl⟩
  | cons asset assets ih =>
      obtain ⟨states, queue, events, hqueued⟩ := ih
        { manager with
          states := manager.states.insert asset.assetId .queued
          queue := manager.queue ++ [⟨manager.generation, revision, asset⟩]
          events := manager.events ++ [⟨.queued, revision, asset.assetId, 0, .internalError⟩] }
      unfold queueAssets
      split
      · exact ⟨states, queue, events, hqueued⟩
      · exact ⟨states, queue, events, hqueued⟩
      · exact ih manager

theorem handleMessage_keeps (manager : ClientAssetManager) (message : Message) :
    ∃ states queue events, (manager.handleMessage message).2 =
      { manager with receiver := (manager.receiver.handle message).2, states, queue, events } := by
  simp only [handleMessage]
  generalize manager.receiver.handle message = handled
  split
  · exact ⟨_, _, _, rfl⟩
  · exact queueAssets_keeps _ _ _
  · exact ⟨_, _, _, rfl⟩

/-- What a call of the network thread leaves alone while the worker runs. -/
theorem Employed.call (h : Employed manager) (hr : manager.stopping = false) {event : Event} (hw : event.Within)
    (hworker : event.isWorker = false) :
    Employed (manager.step event) ∧ (manager.step event).worker = manager.worker := by
  cases event with
  | initializeManager cacheInitialized =>
      have hsame : manager.step (.initializeManager cacheInitialized) = manager := by
        simp only [step, initializeManager, h.initialized, Bool.true_or, ↓reduceIte]
      rw [hsame]
      exact ⟨h, rfl⟩
  | message message =>
      obtain ⟨states, queue, events, heq⟩ := handleMessage_keeps manager message
      rw [step, heq]
      exact ⟨⟨h.initialized, h.worker, h.fed.handle message⟩, rfl⟩
  | resetSession => exact absurd rfl hw.1
  | drainEvents => exact ⟨⟨h.initialized, h.worker, h.fed⟩, rfl⟩
  | requestStop => exact absurd rfl hw.2
  | joined =>
      have hsame : manager.step .joined = manager := by
        simp only [step, joined, hr, Bool.false_and, Bool.false_eq_true, ↓reduceIte]
      rw [hsame]
      exact ⟨h, rfl⟩
  | worker around => cases hworker

theorem Employed.workerStep (h : Employed manager) (hr : manager.stopping = false) (around : Surroundings) :
    Employed (manager.workerStep around) := by
  obtain ⟨hinitialized, -, hreceiver⟩ := (manager.workerStep_booked around).kept
  refine ⟨hinitialized.trans h.initialized, (workerStep_left hr h.worker around).2, ?_⟩
  rw [hreceiver]
  exact h.fed

/-- A session behind its manifest goes on with the ledger, and no step of it adds work. -/
theorem Ledger.step (h : Ledger manifest manager ended) (he : Employed manager) {event : Event}
    (hw : event.Within) :
    (∃ next, Ledger manifest (manager.step event) next) ∧ Employed (manager.step event) ∧
      (manager.step event).workLeft ≤ manager.workLeft - if event.isWorker then 1 else 0 := by
  cases hworker : event.isWorker with
  | true =>
      cases event with
      | worker around =>
          obtain ⟨new, -, hnext, -⟩ := h.booked (manager.workerStep_booked around)
            fun _ _ => ClientAssetManager.workerStep_failing
          exact ⟨⟨_, hnext⟩, he.workerStep h.running around, (workerStep_left h.running he.worker around).1⟩
      | _ => cases hworker
  | false =>
      obtain ⟨hemployed, hsame⟩ := he.call h.running hw hworker
      have hstays : Ledger manifest (manager.step event) ended ∧
          (manager.step event).queue = manager.queue := by
        cases event with
        | initializeManager cacheInitialized =>
            simp only [ClientAssetManager.step, initializeManager, he.initialized, Bool.true_or, ↓reduceIte]
            exact ⟨h, trivial⟩
        | message message =>
            rcases handleMessage_cases he.fed message with ⟨events, -, heq, hcompleted⟩ | ⟨_, -, hnone, -⟩
            · rw [ClientAssetManager.step, heq]
              exact ⟨⟨h.running, hcompleted.trans h.completed, h.wellFormed, h.assets, h.queue, h.hand, h.known,
                h.states, h.errors⟩, rfl⟩
            · cases hnone.symm.trans h.completed
        | resetSession => exact absurd rfl hw.1
        | drainEvents =>
            exact ⟨⟨h.running, h.completed, h.wellFormed, h.assets, h.queue, h.hand, h.known, h.states, h.errors⟩,
              rfl⟩
        | requestStop => exact absurd rfl hw.2
        | joined =>
            simp only [ClientAssetManager.step, joined, h.running, Bool.false_and, Bool.false_eq_true, ↓reduceIte]
            exact ⟨h, trivial⟩
        | worker around => cases hworker
      refine ⟨⟨ended, hstays.1⟩, hemployed, ?_⟩
      simp [workLeft, hstays.2, hsame]

/-- A session without a manifest goes on, or it completes its manifest. -/
theorem Awaiting.step (h : manager.Awaiting) (he : Employed manager) {event : Event} (hw : event.Within) :
    ((manager.step event).Awaiting ∨ ∃ manifest ended, Ledger manifest (manager.step event) ended) ∧
      Employed (manager.step event) := by
  cases hworker : event.isWorker with
  | true =>
      cases event with
      | worker around =>
          exact ⟨.inl (h.booked (manager.workerStep_booked around)).1, he.workerStep h.running around⟩
      | _ => cases hworker
  | false =>
      refine ⟨?_, (he.call h.running hw hworker).1⟩
      cases event with
      | initializeManager cacheInitialized =>
          simp only [ClientAssetManager.step, initializeManager, he.initialized, Bool.true_or, ↓reduceIte]
          exact .inl h
      | message message =>
          obtain ⟨_, -, -, -, hnext | ⟨manifest, hnext⟩⟩ := h.handleMessage he.fed message
          · exact .inl hnext
          · exact .inr ⟨manifest, [], hnext⟩
      | resetSession => exact absurd rfl hw.1
      | drainEvents => exact .inl ⟨h.running, h.completed, h.queue, h.states, h.hand⟩
      | requestStop => exact absurd rfl hw.2
      | joined =>
          simp only [ClientAssetManager.step, joined, h.running, Bool.false_and, Bool.false_eq_true, ↓reduceIte]
          exact .inl h
      | worker around => cases hworker

/-- A session that may have come to its manifest. -/
def Underway (manager : ClientAssetManager) : Prop :=
  (manager.Awaiting ∨ ∃ manifest ended, Ledger manifest manager ended) ∧ Employed manager

theorem Underway.step (h : Underway manager) {event : Event} (hw : event.Within) :
    Underway (manager.step event) := by
  obtain ⟨hsession, he⟩ := h
  rcases hsession with hsession | ⟨manifest, ended, hsession⟩
  · exact hsession.step he hw
  · obtain ⟨⟨next, hnext⟩, hemployed, -⟩ := hsession.step he hw
    exact ⟨.inr ⟨manifest, next, hnext⟩, hemployed⟩

theorem Ledger.all_ended (h : Ledger manifest manager ended) (hw : manager.worker ≠ .stopped)
    (hd : manager.workLeft = 0) :
    manager.worker = .waiting ∧ manager.queue = [] ∧ ∀ asset ∈ manifest.assets,
      manager.getState asset.assetId = .ready ∨ manager.getState asset.assetId = .failed := by
  rw [workLeft] at hd
  have hqueue : manager.queue = [] := List.length_eq_zero_iff.mp (by omega)
  have hwaiting : manager.worker = .waiting := by
    have hleft : manager.worker.left = 0 := by omega
    cases hworker : manager.worker with
    | waiting => rfl
    | stopped => exact absurd hworker hw
    | _ =>
        rw [hworker] at hleft
        cases hleft
  refine ⟨hwaiting, hqueue, fun asset ha => ?_⟩
  have hmem := h.assets.mem_iff.mp (List.mem_map_of_mem ha)
  rw [hwaiting, hqueue, Worker.handIds_of_none rfl, List.append_nil, List.map_nil, List.append_nil] at hmem
  obtain ⟨e, he, hid⟩ := List.mem_map.mp hmem
  rw [← hid, h.states e he, endState_eq_ready, endState_eq_failed]
  exact em _

/-- An item in hand and as many in the queue as the manifest has entries. -/
theorem Ledger.workLeft_le (h : Ledger manifest manager ended) :
    manager.workLeft ≤ 11 * manifest.assets.length + 10 := by
  have hlength := h.assets.length_eq
  have hleft : manager.worker.left ≤ 10 := by
    cases manager.worker <;> simp [Worker.left]
  simp only [List.length_append, List.length_map] at hlength
  rw [workLeft]
  omega

/-- However the calls of a session come in between, the steps of the worker come to the end of the manifest. -/
theorem Ledger.run_ended (h : Ledger manifest manager ended) (he : Employed manager) {events : List Event}
    (hw : ∀ event ∈ events, event.Within)
    (hsteps : 11 * manifest.assets.length + 10 ≤ events.countP Event.isWorker) :
    let final := run ClientAssetManager.step manager events
    final.worker = .waiting ∧ final.queue = [] ∧ ∀ asset ∈ manifest.assets,
      final.getState asset.assetId = .ready ∨ final.getState asset.assetId = .failed := by
  intro final
  have halong : Along ClientAssetManager.step (fun _ event => Event.Within event) manager events :=
    along_of_forall hw
  have hkeep : ∀ (manager : ClientAssetManager) (event : Event),
      (∃ ended, Ledger manifest manager ended) ∧ Employed manager → event.Within →
        (∃ ended, Ledger manifest (manager.step event) ended) ∧ Employed (manager.step event) := by
    intro manager event ⟨⟨_, hledger⟩, hemployed⟩ hwithin
    obtain ⟨hnext, hemployed, -⟩ := hledger.step hemployed hwithin
    exact ⟨hnext, hemployed⟩
  obtain ⟨⟨_, hledger⟩, hemployed⟩ := run_invariant_along hkeep ⟨⟨_, h⟩, he⟩ halong
  refine hledger.all_ended hemployed.worker (run_done hkeep ?_ ⟨⟨_, h⟩, he⟩ halong (h.workLeft_le.trans hsteps))
  intro manager event ⟨⟨_, hledger⟩, hemployed⟩ hwithin
  exact (hledger.step hemployed hwithin).2.2

/-- The worker of a manager runs from `Initialize` to the end of `Shutdown`. -/
theorem run_initialized (root : Path) (files : Filesystem) (events : List Event) :
    (run ClientAssetManager.step (make root files) events).worker ≠ .stopped →
      (run ClientAssetManager.step (make root files) events).initialized = true := by
  refine @run_invariant _ _ ClientAssetManager.step
    (fun manager => manager.worker ≠ .stopped → manager.initialized = true) ?_ _ (fun h => absurd rfl h) events
  intro manager event h hw
  cases event with
  | initializeManager cacheInitialized =>
      simp only [ClientAssetManager.step, initializeManager] at hw ⊢
      split
      · rename_i hkept
        rw [if_pos hkept] at hw
        exact h hw
      · rfl
  | message message =>
      obtain ⟨states, queue, added, heq⟩ := handleMessage_keeps manager message
      rw [ClientAssetManager.step, heq] at hw ⊢
      exact h hw
  | resetSession => exact h hw
  | drainEvents => exact h hw
  | requestStop => exact h hw
  | joined =>
      simp only [ClientAssetManager.step, joined] at hw ⊢
      split
      · rename_i hjoins
        rw [if_pos hjoins] at hw
        simp only [Bool.and_eq_true, beq_iff_eq] at hjoins
        exact absurd hjoins.2 hw
      · rename_i hstays
        rw [if_neg hstays] at hw
        exact h hw
  | worker around =>
      refine ((manager.workerStep_booked around).kept.1).trans (h fun hstopped => hw ?_)
      simp only [ClientAssetManager.step, workerStep, hstopped]

/-! ## The stop -/

/-- How many steps a worker that is to stop has to go at most. -/
def ending (manager : ClientAssetManager) : Nat :=
  if manager.worker = .stopped then 0 else manager.worker.left + 1

/-- `Shutdown` waits for the worker. -/
structure Stopping (manager : ClientAssetManager) : Prop where
  initialized : manager.initialized = true
  stopping : manager.stopping = true

/-- A worker that is to stop comes nearer to it with every step, and takes nothing new in hand. -/
theorem Stopping.workerStep (h : Stopping manager) (around : Surroundings) :
    Stopping (manager.workerStep around) ∧ (manager.workerStep around).ending ≤ manager.ending - 1 ∧
      ∀ work, (manager.workerStep around).worker.work? = some work → manager.worker.work? = some work := by
  obtain ⟨hinitialized, hstopping, -⟩ := (manager.workerStep_booked around).kept
  refine ⟨⟨hinitialized.trans h.initialized, hstopping.trans h.stopping⟩, ?_⟩
  unfold ClientAssetManager.workerStep
  cases hworker : manager.worker with
  | stopped => simp [ending, hworker, Worker.work?]
  | waiting => simp [ending, h.stopping, hworker, Worker.work?]
  | checking work => simp [ending, isCurrentGeneration, h.stopping, hworker, Worker.left, Worker.work?]
  | lookingUp work =>
      simp only
      split
      · simp [ending, hworker, Worker.left, Worker.work?]
      · simp [ending, hworker, Worker.left, Worker.work?]
      · simp [ending, hworker, Worker.left, Worker.work?]
  | fetching work =>
      simp only
      split
      · simp [ending, hworker, Worker.left, Worker.work?]
      · simp [ending, hworker, Worker.left, Worker.work?]
  | hashing work =>
      simp only
      split
      · simp [ending, hworker, Worker.left, Worker.work?]
      · simp [ending, rejectDownload, hworker, Worker.left, Worker.work?]
  | committing work =>
      simp only
      split
      · simp [ending, hworker, Worker.left, Worker.work?]
      · simp [ending, rejectDownload, hworker, Worker.left, Worker.work?]
      · simp [ending, hworker, Worker.left, Worker.work?]
  | moving work =>
      simp only
      split
      · simp [ending, hworker, Worker.left, Worker.work?]
      · simp [ending, rejectDownload, hworker, Worker.left, Worker.work?]
  | cacheHit work | downloading work | verifying work | verified work | ready work | failing work reason =>
      simp [ending, hworker, Worker.left, Worker.work?]

theorem Stopping.step (h : Stopping manager) {event : Event} (hj : event ≠ .joined) :
    Stopping (manager.step event) ∧
      (manager.step event).ending ≤ manager.ending - (if event.isWorker then 1 else 0) ∧
      ∀ work, (manager.step event).worker.work? = some work → manager.worker.work? = some work := by
  have hsame : ∀ {next : ClientAssetManager}, next.initialized = manager.initialized →
      next.stopping = true → next.worker = manager.worker →
        Stopping next ∧ next.ending ≤ manager.ending - 0 ∧
          ∀ work, next.worker.work? = some work → manager.worker.work? = some work := by
    intro next hinitialized hstopping hworker
    exact ⟨⟨hinitialized.trans h.initialized, hstopping⟩, by rw [ending, hworker]; rfl,
      fun work hw => hworker ▸ hw⟩
  cases event with
  | initializeManager cacheInitialized =>
      simp only [ClientAssetManager.step, initializeManager, h.initialized, Bool.true_or, ↓reduceIte]
      exact hsame rfl h.stopping rfl
  | message message =>
      obtain ⟨states, queue, events, heq⟩ := handleMessage_keeps manager message
      rw [ClientAssetManager.step, heq]
      exact hsame rfl h.stopping rfl
  | resetSession => exact hsame rfl h.stopping rfl
  | drainEvents => exact hsame rfl h.stopping rfl
  | requestStop => exact hsame rfl rfl rfl
  | joined => exact absurd rfl hj
  | worker around => exact h.workerStep around

end ClientAssetManager

end CustomModels.Client
