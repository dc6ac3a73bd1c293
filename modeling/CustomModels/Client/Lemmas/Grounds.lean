import CustomModels.Lib.Origin
import CustomModels.Client.Lemmas.Isolation

/-!
# The grounds of what the client says

An undrained event that reports the end of an asset was noted by the worker in the same connection, when it had the
asset of the manifest in hand and had found how it ended.
-/

namespace CustomModels.Client
open CustomModels.Shared CustomModels.Lib

namespace ClientAssetManager

variable {manager : ClientAssetManager}

/-! ## Managers that can be relied on -/

/-- What the manager notes is about its session, the work is of its manifest, and the worker has found what it says. -/
structure Trusted (manager : ClientAssetManager) : Prop where
  isolated : manager.Isolated
  owned : manager.Owned
  intact : manager.Intact

/-- A lookup may remove what it likes: the work of the session stays its work. -/
theorem Isolated.owned_step (h : Isolated manager) (ho : Owned manager) {event : Event}
    (hg : event.isReset = true → manager.generation.toNat + 1 < UInt64.size) : Owned (manager.step event) := by
  cases event with
  | worker around => exact ho.booked (workerStep_booked manager around)
  | resetSession =>
      refine ho.step .resetSession fun work hw he => ?_
      have haged := h.aged work hw
      rw [he, toNat_nextGeneration (hg rfl)] at haged
      omega
  | initializeManager cacheInitialized => exact ho.step (.initializeManager cacheInitialized) trivial
  | message message => exact ho.step (.message message) trivial
  | drainEvents => exact ho.step .drainEvents trivial
  | requestStop => exact ho.step .requestStop trivial
  | joined => exact ho.step .joined trivial

theorem run_trusted {root : Path} {files : Filesystem} (hfiles : AssetCache.Addressed root files)
    {events : List Event} (h : resets events < UInt64.size - 1) :
    Trusted (run step (make root files) events) := by
  refine ⟨(run_isolated root files h).1, ?_, ?_⟩
  · induction events using List.reverseRecOn with
    | nil => exact make_owned root files
    | append_singleton events event ih =>
        rw [resets_append] at h
        have hfront : resets events < UInt64.size - 1 := by omega
        obtain ⟨hisolated, hgeneration⟩ := run_isolated root files hfront
        rw [run_append]
        refine hisolated.owned_step (ih hfront) fun he => ?_
        have hone : resets [event] = 1 := by simp [resets, he]
        omega
  · exact run_invariant (fun manager event hi => hi.intake (.event event)) (make_intact root files hfiles) events

/-! ## Where a report comes from -/

/-- What the event reports is what the worker is about to note. -/
def Tells (manager : ClientAssetManager) (noted : ClientAssetEvent) : Prop :=
  ∃ manifest asset error, manager.Ends manifest asset error ∧
    noted.report = some (AssetEnd.report manifest.revision ⟨asset.assetId, error⟩)

theorem report_eq_none {noted : ClientAssetEvent} (h : noted.kind ≠ .ready ∧ noted.kind ≠ .failed) :
    noted.report = none := by
  obtain ⟨kind, _, _, _, _⟩ := noted
  cases kind <;> simp_all [ClientAssetEvent.report]

theorem handleMessage_silent (h : manager.receiver.Fed) (message : Message) {noted : ClientAssetEvent}
    (hn : noted ∈ (manager.handleMessage message).2.events) (hr : noted.report ≠ none) : noted ∈ manager.events := by
  rcases handleMessage_cases h message with ⟨events, hkinds, heq, -⟩ | ⟨manifest, -, -, -, heq⟩
  · rw [heq] at hn
    rcases List.mem_append.mp hn with hn | hn
    · exact hn
    · exact absurd (report_eq_none (by rw [hkinds noted hn]; exact ⟨nofun, nofun⟩)) hr
  · rw [heq, queueManifest] at hn
    obtain ⟨events, hevents, hqueued⟩ := (@queueAssets_adds _ (fun noted => noted.report = none) manifest.revision
      manifest.assets fun _ _ => rfl).events
    rw [hevents] at hn
    rcases List.mem_append.mp hn with hn | hn
    · rcases List.mem_append.mp hn with hn | hn
      · exact hn
      · rw [List.mem_singleton.mp hn] at hr
        exact absurd rfl hr
    · exact absurd (hqueued noted hn) hr

/-- What `SetState` notes tells of the item in hand, unless that is stale. -/
theorem setState_origin {work : WorkItem} {state : AssetState} {kind : ClientAssetEventKind}
    {error : AssetErrorReason} {noted : ClientAssetEvent}
    (hn : noted ∈ (manager.setState work state kind error).events) :
    noted ∈ manager.events ∨ work.generation = manager.generation ∧
      noted = ⟨kind, work.manifestRevision, work.asset.assetId, 0, error⟩ := by
  by_cases hg : work.generation = manager.generation
  · rw [setState_of_current hg] at hn
    rcases List.mem_append.mp hn with hn | hn
    · exact .inl hn
    · exact .inr ⟨hg, List.mem_singleton.mp hn⟩
  · rw [setState_of_stale hg] at hn
    exact .inl hn

theorem Trusted.entry (h : Trusted manager) {work : WorkItem} (hw : manager.worker.work? = some work)
    (hg : work.generation = manager.generation) :
    ∃ manifest, manager.receiver.completed = some manifest ∧ work.asset ∈ manifest.assets ∧
      work = ⟨manager.generation, manifest.revision, work.asset⟩ := by
  obtain ⟨manifest, hm, hrevision, -⟩ := h.isolated.current work ⟨hw, hg⟩
  refine ⟨manifest, hm, h.owned.hand manifest hm work hw hg, ?_⟩
  rw [← hg, ← hrevision]

theorem Trusted.tells_ready (h : Trusted manager) {work : WorkItem} (hw : manager.worker = .ready work)
    (hg : work.generation = manager.generation) :
    manager.Tells ⟨.ready, work.manifestRevision, work.asset.assetId, 0, .internalError⟩ := by
  obtain ⟨manifest, hm, ha, hwork⟩ := h.entry (congrArg Worker.work? hw) hg
  have hfound := h.intact.found
  rw [hw] at hfound
  refine ⟨manifest, work.asset, none, ⟨hm, ha, hw.trans (congrArg Worker.ready hwork), fun _ => hfound⟩, ?_⟩
  rw [hwork]
  rfl

theorem Trusted.tells_failed (h : Trusted manager) {work : WorkItem} {reason : AssetErrorReason}
    (hw : manager.worker = .failing work reason) (hg : work.generation = manager.generation) :
    manager.Tells ⟨.failed, work.manifestRevision, work.asset.assetId, 0, reason⟩ := by
  obtain ⟨manifest, hm, ha, hwork⟩ := h.entry (congrArg Worker.work? hw) hg
  refine ⟨manifest, work.asset, some reason, ⟨hm, ha, ?_, nofun⟩, ?_⟩
  · rw [hw, ← hwork]
  · rw [hwork]
    rfl

/-- A report that is there behind a step was there before, or the worker was about to note it. -/
theorem Trusted.origin (h : Trusted manager) {event : Event} {noted : ClientAssetEvent}
    (hn : noted ∈ (manager.step event).events) (hr : noted.report ≠ none) :
    event.isReset = false ∧ (noted ∈ manager.events ∨ manager.Tells noted) := by
  cases event with
  | initializeManager cacheInitialized =>
      simp only [step, initializeManager] at hn
      split at hn <;> exact ⟨rfl, .inl hn⟩
  | message message => exact ⟨rfl, .inl (handleMessage_silent h.isolated.fed message hn hr)⟩
  | resetSession => cases hn
  | drainEvents => cases hn
  | requestStop => exact ⟨rfl, .inl hn⟩
  | joined =>
      simp only [step, joined] at hn
      split at hn <;> exact ⟨rfl, .inl hn⟩
  | worker around =>
      refine ⟨rfl, ?_⟩
      have hb := workerStep_booked manager around
      simp only [step] at hn
      generalize manager.workerStep around = next at hb hn
      cases hb with
      | nothing files worker hand => exact .inl hn
      | takes work queue waiting first => exact .inl hn
      | drops work checking stale => exact .inl hn
      | notes work state kind worker hand kept hkind =>
          rcases setState_origin hn with hn | ⟨-, rfl⟩
          · exact .inl hn
          · exact absurd (report_eq_none hkind) hr
      | becomesReady work ready =>
          rcases setState_origin hn with hn | ⟨hg, rfl⟩
          · exact .inl hn
          · exact .inr (h.tells_ready ready hg)
      | fails work reason failing =>
          rcases setState_origin hn with hn | ⟨hg, rfl⟩
          · exact .inl hn
          · exact .inr (h.tells_failed failing hg)

end ClientAssetManager

/-! ## Connections -/

namespace ProtocolContext

variable {configuration : HandshakeConfiguration} {answer : Nat → Bool} {root : Path} {files : Filesystem}

/-- A call behind which a report is undrained does not begin a connection, and the report was there or the worker was
about to note it. -/
theorem perform_origin (hfiles : AssetCache.Addressed root files) {calls : List Call}
    (hc : calls.countP Call.isConnection < UInt64.size - 1) (call : Call) {noted : ClientAssetEvent}
    (hr : noted.report ≠ none)
    (hn : ∃ manager, ((run perform (prepared configuration answer root files) calls).perform call).assets =
      some manager ∧ noted ∈ manager.events) :
    ¬ call.isConnection = true ∧ ∃ manager,
      (run perform (prepared configuration answer root files) calls).assets = some manager ∧
        (noted ∈ manager.events ∨ manager.Tells noted) := by
  obtain ⟨next, hnext, hn⟩ := hn
  obtain ⟨events, hassets, hcount⟩ := @run_assets configuration answer root files calls
  obtain ⟨_, ⟨_, _, hh, ht, -⟩, -⟩ := @run_hearing configuration answer root files calls
  have htrusted := ClientAssetManager.run_trusted hfiles (hcount ▸ hc)
  rw [Bool.not_eq_true]
  rcases perform_manager (by rw [hh]; rfl) (by rw [ht]; rfl) hassets call with ⟨hsame, hcall⟩ | ⟨event, hstep, hreset⟩
  · cases hsame.symm.trans hnext
    exact ⟨hcall, _, hassets, .inl hn⟩
  · cases hstep.symm.trans hnext
    obtain ⟨hkeeps, horigin⟩ := htrusted.origin hn hr
    exact ⟨hreset.symm.trans hkeeps, _, hassets, horigin⟩

/-- What an undrained event reports was found in the connection. -/
theorem run_tells (hfiles : AssetCache.Addressed root files) {calls : List Call}
    (hc : calls.countP Call.isConnection < UInt64.size - 1) {noted : ClientAssetEvent} (hr : noted.report ≠ none)
    {manager : ClientAssetManager}
    (hm : (run perform (prepared configuration answer root files) calls).assets = some manager)
    (hn : noted ∈ manager.events) :
    Since perform (·.isConnection = true) (fun context => ∃ manager, context.assets = some manager ∧
      manager.Tells noted) (prepared configuration answer root files) calls := by
  refine since_of_origin (Q := fun context => ∃ manager, context.assets = some manager ∧ noted ∈ manager.events)
    ?_ (fun front call hfront hq => ?_) ⟨manager, hm, hn⟩
  · intro ⟨_, hstart, hnothing⟩
    cases hstart
    cases hnothing
  · have hbefore : front.countP Call.isConnection ≤ calls.countP Call.isConnection :=
      ((List.prefix_append front [call]).trans hfront).sublist.countP_le
    obtain ⟨hcall, manager, hassets, hn | htells⟩ := perform_origin hfiles (Nat.lt_of_le_of_lt hbefore hc) call hr hq
    · exact ⟨hcall, .inl ⟨manager, hassets, hn⟩⟩
    · exact ⟨hcall, .inr ⟨manager, hassets, htells⟩⟩

theorem run_grounds (hfiles : AssetCache.Addressed root files) {calls : List Call}
    (hc : calls.countP Call.isConnection < UInt64.size - 1) (call : Call) :
    Sends (Grounds configuration (prepared configuration answer root files) calls call)
      (run perform (prepared configuration answer root files) calls)
      ((run perform (prepared configuration answer root files) calls).perform call) := by
  obtain ⟨events, hassets, -⟩ := @run_assets configuration answer root files calls
  obtain ⟨_, hhearing, -⟩ := @run_hearing configuration answer root files calls
  refine perform_sends_of hhearing hassets call (fun he => ?_) (fun he hcompatible noted hn message hr => ?_)
    fun bytes item he hcompatible hdecoded hrefused => ?_
  · rw [he]
    exact .hello
  · obtain ⟨early, late, hcalls, hlate, manager, hm, manifest, asset, error, hends, hreport⟩ :=
      run_tells hfiles hc (by rw [hr]; nofun) hassets hn
    cases hreport.symm.trans hr
    rw [he]
    exact .ended manifest asset error hcompatible ⟨early, late, hcalls, hlate, manager, hm, hends⟩
  · rw [he]
    exact .refused bytes item _ hcompatible hdecoded hassets hrefused

end ProtocolContext

end CustomModels.Client
