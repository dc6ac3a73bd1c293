import CustomModels.Client.Lemmas.Callbacks
import CustomModels.Client.Lemmas.Integrity
import CustomModels.Client.Lemmas.Runtime

/-!
# Sessions apart

The generation counter grows with every reset, so an item of an earlier session is stale for good. What is noted
in a session is then about its own manifest, and so is what the runtime sends.
-/

namespace CustomModels.Client
open CustomModels.Shared CustomModels.Lib

namespace ClientAssetManager

variable {manager next : ClientAssetManager} {work : WorkItem}

/-! ## The generation counter -/

theorem toNat_nextGeneration {generation : UInt64} (h : generation.toNat + 1 < UInt64.size) :
    (nextGeneration generation).toNat = generation.toNat + 1 := by
  have hsucc : (generation + 1).toNat = generation.toNat + 1 := by
    rw [UInt64.toNat_add]
    exact Nat.mod_eq_of_lt h
  have hne : generation + 1 ≠ 0 := by
    intro he
    rw [he] at hsucc
    cases hsucc
  rw [nextGeneration, if_neg hne, hsucc]

theorem step_generation {event : Event} (h : event.isReset = false) :
    (manager.step event).generation = manager.generation := by
  cases event with
  | initializeManager cacheInitialized =>
      simp only [step, initializeManager]
      split <;> rfl
  | message message => exact (handleMessage_adds manager message).generation
  | resetSession => cases h
  | drainEvents => rfl
  | requestStop => rfl
  | joined =>
      simp only [step, joined]
      split <;> rfl
  | worker around => exact (workerStep_keeps manager around).2.2

/-! ## What belongs to the session -/

theorem Belongs.congr {revision : UInt64} {assetId : UInt32} (h : manager.Belongs revision assetId)
    (hc : next.receiver.completed = manager.receiver.completed) : next.Belongs revision assetId := by
  rw [Belongs, hc]
  exact h

theorem belongs_of_mem {manifest : Manifest} {asset : AssetDescription}
    (hm : manager.receiver.completed = some manifest) (ha : asset ∈ manifest.assets) :
    manager.Belongs manifest.revision asset.assetId := ⟨manifest, hm, rfl, List.mem_map_of_mem ha⟩

theorem not_belongs {revision : UInt64} {assetId : UInt32} (h : manager.receiver.completed = none) :
    ¬ manager.Belongs revision assetId := by
  intro ⟨manifest, hm, _⟩
  cases h.symm.trans hm

/-- The worker has the item in hand, and it is of this session. -/
def Current (manager : ClientAssetManager) (work : WorkItem) : Prop :=
  manager.worker.work? = some work ∧ work.generation = manager.generation

/-- What the session holds and notes is about its own manifest. -/
structure Isolated (manager : ClientAssetManager) : Prop where
  fed : manager.receiver.Fed
  queued : ∀ work ∈ manager.queue,
    work.generation = manager.generation ∧ manager.Belongs work.manifestRevision work.asset.assetId
  aged : ∀ work, manager.worker.work? = some work → work.generation.toNat ≤ manager.generation.toNat
  current : ∀ work, manager.Current work → manager.Belongs work.manifestRevision work.asset.assetId
  states : ∀ assetId, manager.states.lookup assetId ≠ none → ∃ revision, manager.Belongs revision assetId
  events : ∀ event ∈ manager.events, event.kind.isAssetEvent = true →
    manager.Belongs event.manifestRevision event.assetId

theorem make_isolated (root : Path) (files : Filesystem) : Isolated (make root files) where
  fed := ManifestReceiver.fed_fresh
  queued := nofun
  aged := nofun
  current := nofun
  states := fun assetId h => absurd (Finmap.lookup_empty assetId) h
  events := nofun

/-- The session goes on: its work is what it was, and what is new is about the item in hand. -/
theorem Isolated.goes (h : Isolated manager) (hreceiver : next.receiver = manager.receiver)
    (hgeneration : next.generation = manager.generation) (hqueue : ∀ work ∈ next.queue, work ∈ manager.queue)
    (hhand : ∀ work, next.worker.work? = some work → manager.worker.work? = some work ∨ work ∈ manager.queue)
    (hstates : ∀ assetId, next.states.lookup assetId ≠ none → manager.states.lookup assetId ≠ none ∨
      ∃ work, manager.Current work ∧ assetId = work.asset.assetId)
    (hevents : ∀ event ∈ next.events, event ∈ manager.events ∨ ∃ work, manager.Current work ∧
      event.manifestRevision = work.manifestRevision ∧ event.assetId = work.asset.assetId) : Isolated next := by
  have hbelongs : ∀ {revision assetId}, manager.Belongs revision assetId → next.Belongs revision assetId :=
    fun hb => hb.congr (congrArg ManifestReceiver.completed hreceiver)
  refine ⟨hreceiver ▸ h.fed, fun work hw => ?_, fun work hw => ?_, fun work hw => ?_, fun assetId hs => ?_,
    fun event he hk => ?_⟩
  · obtain ⟨hg, hb⟩ := h.queued work (hqueue work hw)
    exact ⟨hg.trans hgeneration.symm, hbelongs hb⟩
  · rw [hgeneration]
    rcases hhand work hw with hw | hw
    · exact h.aged work hw
    · rw [(h.queued work hw).1]
  · obtain ⟨hw, hg⟩ := hw
    rcases hhand work hw with hw | hw
    · exact hbelongs (h.current work ⟨hw, hg.trans hgeneration⟩)
    · exact hbelongs (h.queued work hw).2
  · rcases hstates assetId hs with hs | ⟨work, hw, rfl⟩
    · obtain ⟨revision, hb⟩ := h.states assetId hs
      exact ⟨revision, hbelongs hb⟩
    · exact ⟨_, hbelongs (h.current work hw)⟩
  · rcases hevents event he with he | ⟨work, hw, hrevision, hid⟩
    · exact hbelongs (h.events event he hk)
    · rw [hrevision, hid]
      exact hbelongs (h.current work hw)

theorem Isolated.setState (h : Isolated manager) (hw : manager.worker.work? = some work) (state : AssetState)
    (event : ClientAssetEventKind) (error : AssetErrorReason) (worker : Worker)
    (hworker : ∀ other, worker.work? = some other → other = work) :
    Isolated { manager.setState work state event error with worker } := by
  have hhand : ∀ other, worker.work? = some other →
      manager.worker.work? = some other ∨ other ∈ manager.queue := by
    intro other ho
    rw [hworker other ho]
    exact .inl hw
  by_cases hg : work.generation = manager.generation
  · rw [setState_of_current hg]
    refine h.goes rfl rfl (fun _ hm => hm) hhand (fun assetId hs => ?_) fun e he => ?_
    · by_cases hid : assetId = work.asset.assetId
      · exact .inr ⟨work, ⟨hw, hg⟩, hid⟩
      · rw [Finmap.lookup_insert_of_ne _ hid] at hs
        exact .inl hs
    · rcases List.mem_append.mp he with he | he
      · exact .inl he
      · rw [List.mem_singleton.mp he]
        exact .inr ⟨work, ⟨hw, hg⟩, rfl, rfl⟩
  · rw [setState_of_stale hg]
    exact h.goes rfl rfl (fun _ hm => hm) hhand (fun _ => .inl) fun _ => .inl

theorem Isolated.workerStep (h : Isolated manager) (around : Surroundings) :
    Isolated (manager.workerStep around) := by
  have hb := workerStep_booked manager around
  generalize manager.workerStep around = next at hb
  cases hb with
  | nothing files worker hand =>
      exact h.goes rfl rfl (fun _ hm => hm) (fun _ hw => .inl (hand ▸ hw)) (fun _ => .inl) fun _ => .inl
  | takes work queue waiting first =>
      refine h.goes rfl rfl (fun w hw => ?_) (fun w hw => .inr ?_) (fun _ => .inl) fun _ => .inl
      · rw [first]
        exact List.mem_cons_of_mem _ hw
      · cases hw
        rw [first]
        exact List.mem_cons_self
  | drops work checking stale => exact h.goes rfl rfl (fun _ hm => hm) nofun (fun _ => .inl) fun _ => .inl
  | notes work state event worker hand kept kind =>
      exact h.setState hand _ _ _ _ fun _ ho => Option.some.inj (ho.symm.trans kept)
  | becomesReady work ready => exact h.setState (congrArg Worker.work? ready) _ _ _ _ nofun
  | fails work reason failing => exact h.setState (congrArg Worker.work? failing) _ _ _ _ nofun

theorem Isolated.handleMessage (h : Isolated manager) (message : Message) :
    Isolated (manager.handleMessage message).2 := by
  rcases handleMessage_cases h.fed message with ⟨events, hkinds, heq, hcompleted⟩ |
    ⟨manifest, hw, hnone, hcompleted, heq⟩
  · rw [heq]
    have hbelongs : ∀ {revision assetId}, manager.Belongs revision assetId →
        Belongs { manager with receiver := _, events := manager.events ++ events } revision assetId :=
      fun hb => hb.congr hcompleted
    refine ⟨h.fed.handle message, fun work hw => ?_, h.aged, fun work hw => hbelongs (h.current work hw),
      fun assetId hs => ?_, fun event he hk => ?_⟩
    · obtain ⟨hg, hb⟩ := h.queued work hw
      exact ⟨hg, hbelongs hb⟩
    · obtain ⟨revision, hb⟩ := h.states assetId hs
      exact ⟨revision, hbelongs hb⟩
    · rcases List.mem_append.mp he with he | he
      · exact hbelongs (h.events event he hk)
      · rw [hkinds event he] at hk
        cases hk
  · -- nothing belonged to the session before
    have hnothing : ∀ {revision assetId}, ¬ manager.Belongs revision assetId := fun hb => not_belongs hnone hb
    have hstates : manager.states = ∅ := by
      apply Finmap.ext_lookup
      intro assetId
      rw [Finmap.lookup_empty]
      by_contra hs
      obtain ⟨revision, hb⟩ := h.states assetId hs
      exact hnothing hb
    obtain ⟨states, hqueued, hlookup⟩ := queueManifest_of_empty
      { manager with
        receiver := (manager.receiver.handle message).2
        events := manager.events ++ [completeEvent manifest] } hw hstates
    rw [heq, hqueued]
    refine ⟨h.fed.handle message, fun work hm => ?_, h.aged, fun work hm => absurd (h.current work hm) hnothing,
      fun assetId hs => ?_, fun event he hk => ?_⟩
    · rcases List.mem_append.mp hm with hm | hm
      · exact absurd (h.queued work hm).2 hnothing
      · obtain ⟨asset, ha, rfl⟩ := List.mem_map.mp hm
        exact ⟨rfl, belongs_of_mem hcompleted ha⟩
    · rw [hlookup] at hs
      by_cases hid : assetId ∈ manifest.assets.map AssetDescription.assetId
      · exact ⟨manifest.revision, manifest, hcompleted, rfl, hid⟩
      · exact absurd (if_neg hid) hs
    · rcases List.mem_append.mp he with he | he
      · rcases List.mem_append.mp he with he | he
        · exact absurd (h.events event he hk) hnothing
        · rw [List.mem_singleton.mp he] at hk
          cases hk
      · obtain ⟨asset, ha, rfl⟩ := List.mem_map.mp he
        exact belongs_of_mem hcompleted ha

/-- Behind a reset the work in hand is stale, as long as the counter does not come round. -/
theorem Isolated.resetSession (h : Isolated manager) (hg : manager.generation.toNat + 1 < UInt64.size) :
    Isolated manager.resetSession := by
  have hnext : manager.resetSession.generation.toNat = manager.generation.toNat + 1 := toNat_nextGeneration hg
  refine ⟨ManifestReceiver.fed_fresh, nofun, fun work hw => ?_, fun work hw => ?_, fun assetId hs => ?_, nofun⟩
  · rw [hnext]
    exact Nat.le_succ_of_le (h.aged work hw)
  · obtain ⟨hw, hsame⟩ := hw
    have := h.aged work hw
    rw [hsame, hnext] at this
    omega
  · exact absurd (Finmap.lookup_empty assetId) hs

theorem Isolated.step (h : Isolated manager) {event : Event}
    (hg : event.isReset = true → manager.generation.toNat + 1 < UInt64.size) : Isolated (manager.step event) := by
  have hsame : ∀ worker stopping initialized,
      (∀ work, worker.work? = some work → manager.worker.work? = some work) →
      Isolated { manager with worker, stopping, initialized } := by
    intro worker stopping initialized hhand
    exact h.goes rfl rfl (fun _ hm => hm) (fun work hw => .inl (hhand work hw)) (fun _ => .inl) fun _ => .inl
  cases event with
  | initializeManager cacheInitialized =>
      simp only [ClientAssetManager.step, initializeManager]
      split
      · exact h
      · exact hsame _ _ _ fun _ hw => (by cases hw)
  | message message => exact h.handleMessage message
  | resetSession => exact h.resetSession (hg rfl)
  | drainEvents => exact h.goes rfl rfl (fun _ hm => hm) (fun _ => .inl) (fun _ => .inl) fun _ he => (by cases he)
  | requestStop => exact h.goes rfl rfl (fun _ hw => (by cases hw)) (fun _ => .inl) (fun _ => .inl) fun _ => .inl
  | joined =>
      simp only [ClientAssetManager.step, joined]
      split
      · exact hsame _ _ _ fun _ hw => hw
      · exact h
  | worker around => exact h.workerStep around

/-! ## Runs -/

theorem resets_append (xs ys : List Event) : resets (xs ++ ys) = resets xs + resets ys := List.countP_append

/-- As long as the counter has not come round, it counts the resets. -/
theorem run_isolated (root : Path) (files : Filesystem) {events : List Event}
    (h : resets events < UInt64.size - 1) :
    Isolated (run step (make root files) events) ∧
      (run step (make root files) events).generation.toNat = resets events + 1 := by
  induction events using List.reverseRecOn with
  | nil => exact ⟨make_isolated root files, rfl⟩
  | append_singleton events event ih =>
      rw [resets_append] at h ⊢
      obtain ⟨hisolated, hgeneration⟩ := ih (by omega)
      rw [run_append, run_cons, run_nil]
      cases hreset : event.isReset with
      | false =>
          have hone : resets [event] = 0 := by simp [resets, hreset]
          refine ⟨hisolated.step fun he => ?_, ?_⟩
          · rw [hreset] at he
            cases he
          · rw [step_generation hreset, hgeneration, hone]
      | true =>
          have hone : resets [event] = 1 := by simp [resets, hreset]
          have hlt : (run step (make root files) events).generation.toNat + 1 < UInt64.size := by omega
          refine ⟨hisolated.step fun _ => hlt, ?_⟩
          cases event with
          | resetSession => rw [step, ClientAssetManager.resetSession, toNat_nextGeneration hlt, hgeneration, hone]
          | _ => cases hreset

theorem stale_of_queued (root : Path) (files : Filesystem) {visited before later : List Event}
    (h : resets (before ++ .resetSession :: later) < UInt64.size - 1) (hv : visited <+: before)
    (hw : work ∈ (run step (make root files) visited).queue) :
    work.generation ≠ (run step (make root files) (before ++ .resetSession :: later)).generation := by
  obtain ⟨rest, rfl⟩ := hv
  have hcount : resets (.resetSession :: later) = resets later + 1 := List.countP_cons_of_pos rfl
  have hall := (run_isolated root files h).2
  simp only [resets_append, hcount] at h hall
  obtain ⟨hisolated, hgeneration⟩ := @run_isolated root files visited (by omega)
  intro he
  have hsame := congrArg UInt64.toNat he
  rw [hall, (hisolated.queued work hw).1, hgeneration] at hsame
  omega

theorem workerStep_of_stale (around : Surroundings) (hw : manager.worker.work? = some work)
    (hs : work.generation ≠ manager.generation) :
    (manager.workerStep around).states = manager.states ∧ (manager.workerStep around).events = manager.events := by
  have hstale : ∀ {other}, manager.worker.work? = some other → other.generation ≠ manager.generation := by
    intro other ho
    cases hw.symm.trans ho
    exact hs
  have hb := workerStep_booked manager around
  generalize manager.workerStep around = next at hb
  cases hb with
  | nothing files worker hand => exact ⟨rfl, rfl⟩
  | takes other queue waiting first => exact ⟨rfl, rfl⟩
  | drops other checking stale => exact ⟨rfl, rfl⟩
  | notes other state event worker hand kept kind =>
      rw [setState_of_stale (hstale hand)]
      exact ⟨rfl, rfl⟩
  | becomesReady other ready =>
      rw [setState_of_stale (hstale (congrArg Worker.work? ready))]
      exact ⟨rfl, rfl⟩
  | fails other reason failing =>
      rw [setState_of_stale (hstale (congrArg Worker.work? failing))]
      exact ⟨rfl, rfl⟩

end ClientAssetManager

/-! ## What the runtime sends -/

namespace ProtocolContext

variable {context after : ProtocolContext} {configuration : HandshakeConfiguration} {P : Message → Prop}

/-- The step sends packets of messages for which `P` holds. -/
def Sends (P : Message → Prop) (context after : ProtocolContext) : Prop :=
  ∃ before later new, context.transport = some before ∧ after.transport = some later ∧
    later.sent = before.sent ++ new ∧
    ∀ packet ∈ new, ∃ message, message.Encodable ∧ packet.bytes = message.packet ∧ P message

theorem Sends.of_transport {transport : ClientTransport} (ht : context.transport = some transport)
    (h : after.transport = some transport) : Sends P context after :=
  ⟨transport, transport, [], ht, h, by simp, nofun⟩

theorem Sends.trans {last : ProtocolContext} (h : Sends P context after) (h' : Sends P after last) :
    Sends P context last := by
  obtain ⟨before, middle, new, hb, hm, hsent, hnew⟩ := h
  obtain ⟨_, later, more, hm', hl, hsent', hmore⟩ := h'
  cases hm.symm.trans hm'
  refine ⟨before, later, new ++ more, hb, hl, by rw [hsent', hsent, List.append_assoc], fun packet hp => ?_⟩
  rcases List.mem_append.mp hp with hp | hp
  · exact hnew packet hp
  · exact hmore packet hp

theorem Sends.isSome (h : Sends P context after) : after.transport.isSome = true := by
  obtain ⟨_, later, _, _, hl, _⟩ := h
  rw [hl]
  rfl

theorem Sends.send {transport : ClientTransport} {message : Message} {bytes : List UInt8}
    (ht : context.transport = some transport) (he : encodePacket message kProtocolVersion = .ok bytes)
    (hp : P message) (h : after.transport = some (transport.send bytes).2) : Sends P context after := by
  obtain ⟨-, hencodable, hbytes⟩ := encodePacket_eq_ok.mp he
  refine ⟨transport, _, _, ht, h, rfl, fun packet hm => ?_⟩
  rw [List.mem_singleton.mp hm]
  exact ⟨message, hencodable, hbytes, hp⟩

theorem sendAssetReport_sends {message : Message} (ht : context.transport.isSome = true) (hp : P message) :
    Sends P context (context.sendAssetReport message) := by
  obtain ⟨transport, ht⟩ := Option.isSome_iff_exists.mp ht
  simp only [sendAssetReport, ht]
  split
  · exact .of_transport ht ht
  · rename_i bytes he
    exact .send ht he hp rfl

theorem foldl_reportEvent_sends {events : List ClientAssetEvent} (ht : context.transport.isSome = true)
    (hp : ∀ event ∈ events, ∀ message, event.report = some message → P message) :
    Sends P context (events.foldl reportEvent context) := by
  induction events generalizing context with
  | nil =>
      obtain ⟨transport, ht⟩ := Option.isSome_iff_exists.mp ht
      exact .of_transport ht ht
  | cons event events ih =>
      have hfirst : Sends P context (context.reportEvent event) := by
        unfold reportEvent
        split
        · obtain ⟨transport, ht⟩ := Option.isSome_iff_exists.mp ht
          exact .of_transport ht ht
        · exact sendAssetReport_sends ht (hp event List.mem_cons_self _ ‹_›)
      exact hfirst.trans (ih hfirst.isSome fun other ho => hp other (List.mem_cons_of_mem _ ho))

/-! ## The calls -/

theorem sendAssetReport_assets (context : ProtocolContext) (message : Message) :
    (context.sendAssetReport message).assets = context.assets := by
  unfold sendAssetReport
  split
  · rfl
  · split <;> rfl

theorem foldl_reportEvent_assets (events : List ClientAssetEvent) (context : ProtocolContext) :
    (events.foldl reportEvent context).assets = context.assets := by
  induction events generalizing context with
  | nil => rfl
  | cons event events ih =>
      rw [List.foldl_cons, ih, reportEvent]
      split
      · rfl
      · exact sendAssetReport_assets context _

theorem handleConnectionEvent_eq (h : context.handshake.isSome = true) (ht : context.transport.isSome = true)
    (event : ConnectionEvent) :
    (context.handleConnectionEvent event).assets = context.assets.map ClientAssetManager.resetSession := by
  obtain ⟨handshake, hh⟩ := Option.isSome_iff_exists.mp h
  obtain ⟨transport, ht⟩ := Option.isSome_iff_exists.mp ht
  simp only [handleConnectionEvent, hh, ht]
  cases event with
  | disconnected => rfl
  | connected =>
      simp only
      split <;> rfl

/-- Each call is at most one call of the manager, and only connections reset it. -/
theorem perform_manager {manager : ClientAssetManager} (h : context.handshake.isSome = true)
    (ht : context.transport.isSome = true) (hm : context.assets = some manager) (call : Call) :
    (context.perform call).assets = some manager ∧ call.isConnection = false ∨
      ∃ event : ClientAssetManager.Event, (context.perform call).assets = some (manager.step event) ∧
        event.isReset = call.isConnection := by
  cases call with
  | connection event =>
      refine .inr ⟨.resetSession, ?_, rfl⟩
      rw [perform, handleConnectionEvent_eq h ht, hm]
      rfl
  | incoming bytes =>
      simp only [perform, handleIncoming]
      split
      · exact .inl ⟨hm, rfl⟩
      · split
        · exact .inl ⟨hm, rfl⟩
        · split
          · refine .inl ⟨?_, rfl⟩
            unfold handleHandshakeMessage
            split <;> exact hm
          · refine .inl ⟨?_, rfl⟩
            unfold handleHandshakeMessage
            split <;> exact hm
          · rw [hm]
            simp only
            split
            · exact .inl ⟨hm, rfl⟩
            · rename_i packet _ _ _ _ _
              refine .inr ⟨.message packet.message, ?_, rfl⟩
              simp only [handleAssetMessage]
              split
              · exact sendAssetReport_assets _ _
              · exact sendAssetReport_assets _ _
              · rfl
  | pump =>
      simp only [perform, pumpAssetResults]
      split
      · split
        · exact .inl ⟨hm, rfl⟩
        · rename_i assets _ ha _ _
          cases hm.symm.trans ha
          exact .inr ⟨.drainEvents, foldl_reportEvent_assets _ _, rfl⟩
      · exact .inl ⟨hm, rfl⟩
  | work surroundings =>
      refine .inr ⟨.worker surroundings, ?_, rfl⟩
      rw [perform, hm]
      rfl

theorem perform_assets {manager : ClientAssetManager} (h : context.handshake.isSome = true)
    (ht : context.transport.isSome = true) (hm : context.assets = some manager) (call : Call) :
    ∃ events, (context.perform call).assets = some (run ClientAssetManager.step manager events) ∧
      ClientAssetManager.resets events = [call].countP Call.isConnection := by
  rcases perform_manager h ht hm call with ⟨heq, hcall⟩ | ⟨event, heq, hreset⟩
  · exact ⟨[], heq, by simp [ClientAssetManager.resets, hcall]⟩
  · exact ⟨[event], heq, by simp [ClientAssetManager.resets, hreset]⟩

/-- Only a connection takes the handshake out of Disconnected. -/
theorem perform_settled {call : Call} (h : call.isConnection = false) :
    Settled context (context.perform call) := by
  cases call with
  | connection event => cases h
  | incoming bytes => exact handleIncoming_settled context bytes
  | pump => exact pumpAssetResults_settled context
  | work surroundings => exact .of_handshake rfl id

theorem Hearing.connection {sent : Bool} (h : Hearing configuration sent context) (event : ConnectionEvent) :
    Hearing configuration (event == .connected) (context.handleConnectionEvent event) := by
  cases event with
  | disconnected => exact h.disconnected
  | connected =>
      obtain ⟨handshake, transport, hh, ht, hc, -⟩ := h
      have hconnected : handshake.onConnected.configuration = handshake.configuration := by
        unfold ClientHandshake.onConnected
        split <;> rfl
      have htake : handshake.onConnected.takeHello.2.configuration = handshake.onConnected.configuration := by
        unfold ClientHandshake.takeHello
        split
        · rfl
        · split <;> rfl
      simp only [handleConnectionEvent, hh, ht]
      generalize handshake.onConnected.takeHello = taken at htake
      obtain ⟨_ | hello, next⟩ := taken
      · exact ⟨next, transport, rfl, rfl, (htake.trans hconnected).trans hc, fun hs => (by cases hs)⟩
      · exact ⟨next, _, rfl, rfl, (htake.trans hconnected).trans hc, fun hs => (by cases hs)⟩

theorem Hearing.completed {sent : Bool} (h : Hearing configuration sent context) (event : ConnectionEvent) :
    (context.handleConnectionEvent event).completed = none := by
  obtain ⟨handshake, transport, hh, ht, -⟩ := h
  have hassets := handleConnectionEvent_eq (by rw [hh]; rfl) (by rw [ht]; rfl) event
  rw [ProtocolContext.completed, hassets]
  cases context.assets <;> rfl

/-- If the message is an AssetReady, the handshake is Compatible and the session has what it tells of. -/
def Vouched (context : ProtocolContext) (message : Message) : Prop :=
  ∀ ready, message = .assetReady ready →
    (∃ handshake, context.handshake = some handshake ∧ handshake.state = .compatible) ∧
      ∃ manager, context.assets = some manager ∧ manager.Belongs ready.manifestRevision ready.assetId

theorem vouched_of_ne {message : Message} (h : ∀ ready, message ≠ .assetReady ready) : Vouched context message :=
  fun ready hr => absurd hr (h ready)

/-- A call sends a Hello, the reports of undrained events, or the refusal of an entry. -/
theorem perform_sends_of {manager : ClientAssetManager} {sent : Bool} (h : Hearing configuration sent context)
    (hm : context.assets = some manager) (call : Call)
    (hello : call = .connection .connected → P (.hello (ClientHandshake.make configuration).hello))
    (pumped : call = .pump → context.isCompatible = true →
      ∀ event ∈ manager.events, ∀ message, event.report = some message → P message)
    (refused : ∀ bytes item, call = .incoming bytes → context.isCompatible = true →
      decodePacket bytes = .ok ⟨kProtocolVersion, .manifestAsset item⟩ →
      (manager.receiver.handle (.manifestAsset item)).1.Refused →
      P (.assetError ⟨item.manifestRevision, item.asset.assetId, .invalidManifest⟩)) :
    Sends P context (context.perform call) := by
  obtain ⟨handshake, transport, hh, ht, hc, -⟩ := h
  obtain ⟨_, _, _, logged⟩ := context
  cases hh
  cases ht
  cases hm
  have hcompatible : ∀ {assets}, ¬ handshake.state ≠ .compatible →
      isCompatible ⟨some handshake, some transport, assets, logged⟩ = true := by
    intro assets hs
    rw [isCompatible, Option.any_some, not_not.mp hs]
    rfl
  cases call with
  | connection event =>
      simp only [perform, handleConnectionEvent]
      cases event with
      | disconnected => exact .of_transport rfl rfl
      | connected =>
          have hhello : handshake.onConnected.hello = (ClientHandshake.make configuration).hello := by
            rw [ClientHandshake.onConnected]
            split <;> rw [ClientHandshake.hello, hc, ClientHandshake.hello]
          simp only [ClientHandshake.takeHello]
          split
          · exact .of_transport rfl rfl
          · rename_i htaken
            split at htaken
            · cases htaken
            · split at htaken
              · cases htaken
              · rename_i he
                cases htaken
                exact .send rfl he (hhello ▸ hello rfl) rfl
  | incoming bytes =>
      simp only [perform, handleIncoming]
      split
      · exact .of_transport rfl rfl
      · rename_i packet hdecoded
        split
        · refine .of_transport rfl ?_
          unfold handleHandshakeMessage
          split <;> rfl
        · refine .of_transport rfl ?_
          unfold handleHandshakeMessage
          split <;> rfl
        · split
          · exact .of_transport rfl rfl
          · rename_i hstate
            have hrefused : ∀ item, packet.message = .manifestAsset item →
                (manager.handleMessage packet.message).1.Refused →
                P (.assetError ⟨item.manifestRevision, item.asset.assetId, .invalidManifest⟩) := by
              intro item hitem hr
              obtain ⟨version, message⟩ := packet
              cases hitem
              rw [ClientAssetManager.handleMessage_fst] at hr
              have hversion : version = kProtocolVersion := (decodePacket_eq_ok.mp hdecoded).1
              exact refused bytes item rfl (hcompatible hstate) (hversion ▸ hdecoded) hr
            simp only [handleAssetMessage]
            split
            · rename_i hresult hitem
              exact Sends.trans (.of_transport rfl rfl)
                (sendAssetReport_sends rfl (hrefused _ hitem (.inl hresult)))
            · rename_i hresult hitem
              exact Sends.trans (.of_transport rfl rfl)
                (sendAssetReport_sends rfl (hrefused _ hitem (.inr hresult)))
            · exact .of_transport rfl rfl
  | pump =>
      simp only [perform, pumpAssetResults]
      split
      · exact .of_transport rfl rfl
      · rename_i hstate
        exact Sends.trans (.of_transport rfl rfl)
          (foldl_reportEvent_sends rfl (pumped rfl (hcompatible hstate)))
  | work surroundings => exact .of_transport rfl rfl

theorem isCompatible_iff : context.isCompatible = true ↔
    ∃ handshake, context.handshake = some handshake ∧ handshake.state = .compatible := by
  rw [isCompatible, Option.any_eq_true]
  simp

/-- An AssetReady is sent for an event of the session, and only by a pump of a Compatible handshake. -/
theorem perform_sends {manager : ClientAssetManager} {sent : Bool} (h : Hearing configuration sent context)
    (hm : context.assets = some manager) (hi : manager.Isolated) (call : Call) :
    Sends (Vouched context) context (context.perform call) := by
  refine perform_sends_of h hm call (fun _ => vouched_of_ne fun _ he => (by cases he))
    (fun _ hcompatible event he message hr => ?_) fun _ _ _ _ _ _ => vouched_of_ne fun _ he => (by cases he)
  intro ready hready
  rw [hready] at hr
  obtain ⟨hk, hrevision, hid⟩ := ClientAssetEvent.report_eq_assetReady.mp hr
  rw [← hrevision, ← hid]
  exact ⟨isCompatible_iff.mp hcompatible, manager, hm, hi.events event he (by rw [hk]; rfl)⟩

/-! ## Runs -/

variable {answer : Nat → Bool} {root : Path} {files : Filesystem}

theorem prepared_hearing : Hearing configuration false (prepared configuration answer root files) :=
  ⟨_, _, rfl, rfl, rfl, fun _ => rfl⟩

/-- The handshake is disconnected, or a connection was announced and it still stands. -/
theorem run_hearing (calls : List Call) :
    ∃ sent, Hearing configuration sent (run perform (prepared configuration answer root files) calls) ∧
      (sent = true → ∃ before during, calls = before ++ .connection .connected :: during ∧
        ∀ call ∈ during, call.isConnection = false) := by
  induction calls using List.reverseRecOn with
  | nil => exact ⟨false, prepared_hearing, nofun⟩
  | append_singleton calls call ih =>
      obtain ⟨sent, hhearing, hconnected⟩ := ih
      rw [run_append, run_cons, run_nil]
      cases hcall : call.isConnection with
      | false =>
          refine ⟨sent, perform_settled hcall _ _ hhearing, fun hs => ?_⟩
          obtain ⟨before, during, rfl, hduring⟩ := hconnected hs
          refine ⟨before, during ++ [call], by simp, fun other ho => ?_⟩
          rcases List.mem_append.mp ho with ho | ho
          · exact hduring other ho
          · rw [List.mem_singleton.mp ho]
            exact hcall
      | true =>
          cases call with
          | connection event =>
              refine ⟨_, hhearing.connection event, fun hs => ?_⟩
              rw [beq_iff_eq.mp hs]
              exact ⟨calls, [], rfl, by simp⟩
          | _ => cases hcall

/-- The manager of the runtime makes a run of its own, reset once for each connection event. -/
theorem run_assets (calls : List Call) :
    ∃ events, (run perform (prepared configuration answer root files) calls).assets =
        some (run ClientAssetManager.step (.make root files) events) ∧
      ClientAssetManager.resets events = calls.countP Call.isConnection := by
  induction calls using List.reverseRecOn with
  | nil => exact ⟨[.initializeManager true], rfl, rfl⟩
  | append_singleton calls call ih =>
      obtain ⟨events, hassets, hcount⟩ := ih
      obtain ⟨sent, ⟨handshake, transport, hh, ht, -⟩, -⟩ :=
        @run_hearing configuration answer root files calls
      obtain ⟨more, hmore, hone⟩ := perform_assets (by rw [hh]; rfl) (by rw [ht]; rfl) hassets call
      refine ⟨events ++ more, ?_, ?_⟩
      · rw [run_append, run_cons, run_nil, hmore, run_append]
      · rw [ClientAssetManager.resets_append, hcount, hone, List.countP_append]

end ProtocolContext

end CustomModels.Client
