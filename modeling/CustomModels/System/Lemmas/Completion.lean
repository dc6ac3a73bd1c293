import CustomModels.Client.Lemmas.Progress
import CustomModels.System.Lemmas.Phases

/-!
# How a visit can go on

From wherever a visit is, the callbacks, the calls of `Receive`, the worker and the network lead it to rest: each of
them takes away some of what is left to do.
-/

namespace CustomModels.System
open CustomModels.Shared CustomModels.Server CustomModels.Client CustomModels.Lib

variable {playerId : Int} {visit : Visit} {configuration : HandshakeConfiguration} {around : Surroundings}

/-! ## What goes on -/

/-- The worker runs. -/
def Working (context : ProtocolContext) : Prop :=
  ∃ manager, context.assets = some manager ∧ manager.stopping = false ∧ manager.worker ≠ .stopped

namespace Working

variable {context : ProtocolContext}

theorem congr {after : ProtocolContext} (h : Working context) (ha : after.assets = context.assets) : Working after := by
  rw [Working, ha]
  exact h

theorem sendAssetReport (h : Working context) (message : Message) : Working (context.sendAssetReport message) := by
  unfold ProtocolContext.sendAssetReport
  split
  · exact h
  · split
    · exact h
    · exact h

theorem foldl_reportEvent (h : Working context) (events : List ClientAssetEvent) :
    Working (events.foldl ProtocolContext.reportEvent context) := by
  induction events generalizing context with
  | nil => exact h
  | cons event events ih =>
      refine ih ?_
      unfold ProtocolContext.reportEvent
      split
      · exact h
      · exact h.sendAssetReport _

theorem pump (h : Working context) : Working context.pumpAssetResults.2 := by
  obtain ⟨manager, hm, hstopping, hworker⟩ := h
  unfold ProtocolContext.pumpAssetResults
  split
  · rename_i assets handshake hassets _
    cases hm.symm.trans hassets
    split
    · exact ⟨manager, hassets, hstopping, hworker⟩
    · exact foldl_reportEvent ⟨manager.drainEvents.2, rfl, hstopping, hworker⟩ _
  · exact ⟨manager, hm, hstopping, hworker⟩

theorem handleAssetMessage (h : Working context) {manager : ClientAssetManager} (hm : context.assets = some manager)
    (message : Message) : Working (context.handleAssetMessage manager message) := by
  obtain ⟨_, hm', hstopping, hworker⟩ := h
  cases hm.symm.trans hm'
  obtain ⟨states, queue, events, heq⟩ := manager.handleMessage_keeps message
  have hnext : Working { context with assets := some (manager.handleMessage message).2 } := by
    rw [heq]
    exact ⟨_, rfl, hstopping, hworker⟩
  unfold ProtocolContext.handleAssetMessage
  simp only
  split
  · exact hnext.sendAssetReport _
  · exact hnext.sendAssetReport _
  · exact hnext

theorem handleHandshakeMessage (h : Working context) (handshake : ClientHandshake) (bytes : List UInt8) :
    Working (context.handleHandshakeMessage handshake bytes) := by
  unfold ProtocolContext.handleHandshakeMessage
  split
  · exact h
  · exact h
  · exact h

theorem handleIncoming (h : Working context) (bytes : List UInt8) : Working (context.handleIncoming bytes).2 := by
  unfold ProtocolContext.handleIncoming
  split
  · exact h
  · split
    · exact h
    · split
      · exact h.handleHandshakeMessage _ _
      · exact h.handleHandshakeMessage _ _
      · split
        · exact h
        · rename_i hassets
          split
          · exact h
          · exact h.handleAssetMessage hassets _

theorem handleConnectionEvent (h : Working context) (event : ConnectionEvent) :
    Working (context.handleConnectionEvent event) := by
  have hkept := h
  obtain ⟨manager, hm, hstopping, hworker⟩ := h
  unfold ProtocolContext.handleConnectionEvent
  split
  · have hreset : context.assets.map ClientAssetManager.resetSession = some manager.resetSession := by
      rw [hm]
      rfl
    simp only
    split
    · exact ⟨_, hreset, hstopping, hworker⟩
    · split
      · exact ⟨_, hreset, hstopping, hworker⟩
      · exact ⟨_, hreset, hstopping, hworker⟩
  · exact hkept

theorem work (h : Working context) (around : Surroundings) :
    Working { context with assets := context.assets.map fun assets => assets.workerStep around } := by
  obtain ⟨manager, hm, hstopping, hworker⟩ := h
  refine ⟨manager.workerStep around, by rw [hm]; rfl, ?_,
    (ClientAssetManager.workerStep_left hstopping hworker around).2⟩
  exact (manager.workerStep_booked around).kept.2.1.trans hstopping

end Working

/-- A visit that can go on: it is in one of its phases, the worker runs and the hook pumps. -/
structure Sure (configuration : HandshakeConfiguration) (playerId : Int) (visit : Visit) : Prop where
  wired : Wired visit
  phase : Phase configuration (UInt32.ofNat playerId.toNat) (fun _ => True) visit
  working : Working visit.client
  pumps : visit.hook.callbacks.pump = true

section Steps

variable (hid : 0 ≤ playerId) (he : (Message.hello (helloOf configuration)).Encodable)
include hid he

theorem Sure.step (h : Sure configuration playerId visit) {event : Visit.Event}
    (hp : event.Proper (UInt32.ofNat playerId.toNat)) : Sure configuration playerId (visit.step playerId event) := by
  obtain ⟨hwired, hphase⟩ := h.phase.step hid h.wired trivial he hp
  refine ⟨hwired, hphase, ?_, ?_⟩
  · cases event with
    | samp packet => exact h.working
    | receive available =>
        refine h.working.congr ?_
        simp only [Visit.step, Visit.receive]
        split <;> rfl
    | callback =>
        simp only [Visit.step, Visit.callback]
        split
        · exact h.working.pump
        · split
          · exact h.working
          · exact h.working.handleIncoming _
          · exact h.working.handleConnectionEvent _
          · exact h.working.pump
          · exact h.working
    | work around => exact h.working.work around
    | deliverToServer =>
        refine h.working.congr ?_
        simp only [Visit.step, Visit.deliverToServer]
        split
        · rfl
        · split
          · rfl
          · split <;> rfl
    | elsewhere activity => exact h.working
  · cases event with
    | receive available =>
        by_cases hbusy : visit.due ≠ [] ∨ visit.pumping = true
        · rw [Visit.step, Visit.receive, if_pos hbusy]
          exact h.pumps
        · rw [not_or, not_not, Bool.not_eq_true] at hbusy
          obtain ⟨hook, due, first, rest, hcall⟩ := h.wired.call hbusy.1 hbusy.2 available
          rw [Visit.step, hcall.receive]
          show hook.callbacks.pump = true
          rw [hcall.acts.callbacks]
          exact h.pumps
    | callback =>
        have hsame : visit.callback.hook = visit.hook := by
          unfold Visit.callback
          split
          · rfl
          · split <;> rfl
        rw [Visit.step, hsame]
        exact h.pumps
    | deliverToServer =>
        have hsame : (visit.deliverToServer playerId).hook = visit.hook := by
          unfold Visit.deliverToServer
          split
          · rfl
          · simp only
            split
            · rfl
            · split <;> rfl
        rw [Visit.step, hsame]
        exact h.pumps
    | samp packet => exact h.pumps
    | work around => exact h.pumps
    | elsewhere activity => exact h.pumps

theorem Sure.run (h : Sure configuration playerId visit) {events : List Visit.Event}
    (hp : ∀ event ∈ events, event.Proper (UInt32.ofNat playerId.toNat)) :
    Sure configuration playerId (Lib.run (Visit.step playerId) visit events) :=
  run_invariant_along (fun _ _ hsure hproper => hsure.step hid he hproper) h (along_of_forall hp)

/-! ## Callbacks and packets -/

/-- The ways on that a visit has by itself. -/
abbrev Goes (playerId : Int) (around : Surroundings) (visit : Visit) (P : Visit → Prop) : Prop :=
  Leads (Visit.step playerId) (Visit.Event.Own around) visit P

omit hid he in
theorem callback_goes (visit : Visit) : visit.callback.inbox = visit.inbox ∧ visit.callback.server = visit.server ∧
    (2 * visit.due.length + visit.pumping.toNat ≠ 0 →
      2 * visit.callback.due.length + visit.callback.pumping.toNat <
        2 * visit.due.length + visit.pumping.toNat) := by
  unfold Visit.callback
  split
  · rename_i hpumping
    refine ⟨rfl, rfl, fun _ => ?_⟩
    rw [hpumping]
    simp [Visit.pump]
  · rename_i hpumping
    rw [Bool.not_eq_true] at hpumping
    split
    · rename_i hdue
      exact ⟨rfl, rfl, fun h => absurd (by rw [hdue, hpumping]; rfl) h⟩
    · rename_i bytes due hdue
      refine ⟨rfl, rfl, fun _ => ?_⟩
      have hbit := Bool.toNat_le (visit.client.handleIncoming bytes).1
      simp only [hdue, List.length_cons]
      omega
    · rename_i event due hdue
      refine ⟨rfl, rfl, fun _ => ?_⟩
      simp only [hdue, List.length_cons]
      omega
    · rename_i due hdue
      refine ⟨rfl, rfl, fun _ => ?_⟩
      simp only [hdue, List.length_cons, Visit.pump]
      omega
    · rename_i action due _ _ _ hdue
      refine ⟨rfl, rfl, fun _ => ?_⟩
      simp only [hdue, List.length_cons]
      omega

theorem Sure.callbacks (h : Sure configuration playerId visit) :
    Goes playerId around visit fun next => Sure configuration playerId next ∧ next.due = [] ∧ next.pumping = false ∧
      next.inbox = visit.inbox ∧ next.server = visit.server := by
  have hwork : ∀ next : Visit, (Sure configuration playerId next ∧ next.inbox = visit.inbox ∧
      next.server = visit.server) → 2 * next.due.length + next.pumping.toNat ≠ 0 →
        Goes playerId around next fun last => (Sure configuration playerId last ∧ last.inbox = visit.inbox ∧
          last.server = visit.server) ∧ 2 * last.due.length + last.pumping.toNat <
            2 * next.due.length + next.pumping.toNat := by
    intro next ⟨hsure, hinbox, hserver⟩ hleft
    obtain ⟨hinbox', hserver', hless⟩ := callback_goes next
    exact .single (e := .callback) trivial
      ⟨⟨hsure.step hid he trivial, hinbox'.trans hinbox, hserver'.trans hserver⟩, hless hleft⟩
  refine (leads_of_work hwork ⟨h, rfl, rfl⟩).trans fun next ⟨⟨hsure, hinbox, hserver⟩, hnone⟩ => .refl ?_
  have hpumping : next.pumping = false := by
    cases hp : next.pumping with
    | false => rfl
    | true =>
        rw [hp] at hnone
        simp at hnone
  exact ⟨hsure, List.length_eq_zero_iff.mp (by omega), hpumping, hinbox, hserver⟩

/-- The hook has nothing in hand, and nothing is under way to the client. -/
structure Settled (configuration : HandshakeConfiguration) (playerId : Int) (visit : Visit) : Prop where
  sure : Sure configuration playerId visit
  due : visit.due = []
  pumping : visit.pumping = false
  inbox : visit.inbox = []

/-- Everything that is under way to the client gets there. -/
theorem Sure.settles (h : Sure configuration playerId visit) :
    Goes playerId around visit fun next => Settled configuration playerId next ∧ next.server = visit.server := by
  have hwork : ∀ next : Visit, (Sure configuration playerId next ∧ next.server = visit.server) →
      next.inbox.length ≠ 0 → Goes playerId around next fun last =>
        (Sure configuration playerId last ∧ last.server = visit.server) ∧ last.inbox.length < next.inbox.length := by
    intro next ⟨hsure, hserver⟩ hmore
    refine (hsure.callbacks hid he).trans fun ready ⟨hready, hdue, hpumping, hinbox, hserver'⟩ => ?_
    obtain ⟨hook, due, first, rest, hcall⟩ := hready.wired.call hdue hpumping 1
    refine .single (e := .receive 1) trivial ⟨⟨hready.step hid he trivial, ?_⟩, ?_⟩
    · rw [Visit.step, hcall.receive]
      exact hserver'.trans hserver
    · have hsome : first ≠ [] := by
        refine hcall.some (by simp) fun hnone => hmore ?_
        rw [← hinbox, hnone]
        rfl
      have hlength := congrArg List.length hcall.inbox
      have hfirst := List.length_pos_iff.mpr hsome
      rw [hinbox, List.length_append] at hlength
      rw [Visit.step, hcall.receive]
      show rest.length < next.inbox.length
      omega
  refine (leads_of_work hwork ⟨h, rfl⟩).trans fun next ⟨⟨hsure, hserver⟩, hnone⟩ => ?_
  refine (hsure.callbacks hid he).trans fun last ⟨hlast, hdue, hpumping, hinbox, hserver'⟩ => .refl ?_
  exact ⟨⟨hlast, hdue, hpumping, hinbox.trans (List.length_eq_zero_iff.mp hnone)⟩, hserver'.trans hserver⟩

/-! ## The downloads -/

/-- A settled visit of a player whom the server has welcomed. -/
structure Joined (configuration : HandshakeConfiguration) (playerId : Int) (visit : Visit) : Prop
    extends Settled configuration playerId visit where
  record : visit.server.tracker.players.lookup (UInt32.ofNat playerId.toNat) =
    some (.accepted makePolicy (helloOf configuration))

omit hid he in
theorem Settled.coming (h : Settled configuration playerId visit) : visit.coming = [] := by
  rw [Visit.coming_eq, h.due, h.inbox]
  rfl

omit hid he in
/-- The manifest has arrived, and the server records the reports. -/
theorem Joined.good (h : Joined configuration playerId visit) : Announced visit ∧
    ∃ manifest answers, manifest.WellFormed ∧ Good manifest (UInt32.ofNat playerId.toNat) (visit.exchange answers) := by
  have hrecord := h.record
  cases h.sure.phase with
  | before calm coming unheard pending =>
      cases congrArg (Option.map PlayerCapabilityState.state) (pending.record.symm.trans hrecord)
  | greeting calm coming announced pending =>
      cases congrArg (Option.map PlayerCapabilityState.state) (pending.record.symm.trans hrecord)
  | rejecting reason calm encodable coming => cases coming.symm.trans h.coming
  | rejected reason handshake calm state rejection coming announced turned =>
      obtain ⟨record, hl, hstate, -⟩ := turned
      cases hl.symm.trans hrecord
      cases hstate
  | welcoming manifest tracker published wellFormed calm encodable coming => cases coming.symm.trans h.coming
  | downloading manifest answers published wellFormed announced record good =>
      exact ⟨announced, manifest, answers, wellFormed, good⟩

/-- How many steps the worker of the client has to go at most. -/
def Visit.workLeft (visit : Visit) : Nat := visit.client.assets.elim 0 ClientAssetManager.workLeft

theorem Joined.works (h : Joined configuration playerId visit) :
    Goes playerId around visit fun next => Joined configuration playerId next ∧ next.workLeft = 0 := by
  refine leads_of_work (fun next hnext hleft => ?_) h
  refine .single (e := .work around) rfl ⟨⟨⟨hnext.sure.step hid he trivial, hnext.due, hnext.pumping, hnext.inbox⟩,
    hnext.record⟩, ?_⟩
  obtain ⟨manager, hm, hstopping, hworker⟩ := hnext.sure.working
  have hless := (ClientAssetManager.workerStep_left hstopping hworker around).1
  have hbefore : next.workLeft = manager.workLeft := by
    rw [Visit.workLeft, hm]
    rfl
  have hafter : (next.work around).workLeft = (manager.workerStep around).workLeft := by
    rw [Visit.work, Visit.workLeft, hm]
    rfl
  show (next.work around).workLeft < next.workLeft
  omega

omit hid he in
/-- A call that finds no packet on an announced connection pumps. -/
theorem afterCall_idle {hook : SampRakNetTransport} {call : ReceiveCall} (hf : SampRakNetTransport.Flags hook)
    (hs : hook.connectedEventSent = true) (hp : hook.callbacks.pump = true) (hself : some call.self = hook.rakClient)
    (hc : call.isConnected = true) (ho : call.original 0 = none) :
    hook.afterCall call = { hook with actions := hook.actions ++ [.pumped, .drew none, .returned none] } := by
  have hobserved : hook.observeConnection true = hook := by
    have hawaiting : hook.awaitingDisconnectedState = false := by
      by_contra hawaiting
      cases (hf.sent hs).symm.trans (hf.awaiting (by simpa using hawaiting))
    simp only [SampRakNetTransport.observeConnection, hawaiting, Bool.false_eq_true, ↓reduceIte, hf.sent hs]
  have hloop : ∀ transport : SampRakNetTransport, transport.connectedEventSent = true →
      SampRakNetTransport.receiveLoop call.original kMaximumConsumedPacketsPerCall 0 transport =
        (none, transport.record (.drew none)) := by
    intro transport hsent
    have hkept : (call.original 0).any RakPacket.claimed = false := by rw [ho]; rfl
    refine (@SampRakNetTransport.receiveLoop_kept transport _ 63 0 hkept).trans ?_
    rw [ho]
    simp only [SampRakNetTransport.round, SampRakNetTransport.notifyConnectedIfPending, SampRakNetTransport.record,
      hsent, Bool.or_true, ↓reduceIte]
  unfold SampRakNetTransport.afterCall SampRakNetTransport.receive
  rw [if_neg (not_not.mpr hself), hc, hobserved]
  simp only [hs, hp, Bool.and_self, ↓reduceIte]
  rw [hloop (hook.record .pumped) hs]
  simp only [SampRakNetTransport.record, List.append_assoc, List.cons_append, List.nil_append]
  rw [hs]

/-- The worker is through, and all its events have been pumped. -/
def Visit.Idle (visit : Visit) : Prop :=
  ∀ manager ∈ visit.client.assets, manager.worker = .waiting ∧ manager.queue = [] ∧ manager.events = []

theorem Joined.pumps (h : Joined configuration playerId visit) (hw : visit.workLeft = 0) :
    Goes playerId around visit fun next => Joined configuration playerId next ∧ next.Idle := by
  obtain ⟨announced, manifest, answers, -, manager, transport, seen, rest, recorded, flying, waiting, hb⟩ := h.good
  obtain ⟨self, hself⟩ := Option.isSome_iff_exists.mp h.sure.wired.self
  have hcall : visit.hook.afterCall (visit.callFor 0) =
      { visit.hook with actions := visit.hook.actions ++ [.pumped, .drew none, .returned none] } := by
    refine afterCall_idle h.sure.wired.flags announced.1 h.sure.pumps ?_ rfl rfl
    rw [Visit.callFor, hself]
    rfl
  have hreceive : visit.receive 0 = { visit with
      hook := { visit.hook with actions := visit.hook.actions ++ [.pumped, .drew none, .returned none] }
      due := [.pumped, .drew none, .returned none] } := by
    rw [Visit.receive, if_neg (by simp [h.due, h.pumping])]
    simp only [hcall, List.drop_left]
    rfl
  -- the pump, and two actions that the runtime does not hear of
  have hrun : Lib.run (Visit.step playerId) visit [.receive 0, .callback, .callback, .callback] =
      { visit.pump with
        hook := { visit.hook with actions := visit.hook.actions ++ [.pumped, .drew none, .returned none] } } := by
    show (visit.receive 0).callback.callback.callback = _
    rw [hreceive]
    simp only [Visit.callback, h.pumping, Bool.false_eq_true, ↓reduceIte, Visit.pump, h.due]
  have hsure : Sure configuration playerId
      (Lib.run (Visit.step playerId) visit [.receive 0, .callback, .callback, .callback]) :=
    h.sure.run hid he (by simp [Visit.Event.Proper])
  refine ⟨[.receive 0, .callback, .callback, .callback], by simp [Visit.Event.Own], ?_⟩
  rw [hrun] at hsure ⊢
  refine ⟨⟨⟨hsure, h.due, h.pumping, h.inbox⟩, h.record⟩, ?_⟩
  obtain ⟨_, hnext⟩ := hb.pump
  have hassets : visit.pump.client.assets = some manager.drainEvents.2 := hnext.assets
  obtain ⟨_, hm, -, hworker⟩ := h.sure.working
  obtain rfl := Option.some.inj (hb.assets.symm.trans hm)
  have hleft : manager.workLeft = 0 := by
    rw [← hw, Visit.workLeft, hm]
    rfl
  intro drained hdrained
  cases hassets.symm.trans hdrained
  rw [ClientAssetManager.workLeft] at hleft
  have hqueue : manager.queue = [] := List.length_eq_zero_iff.mp (by omega)
  have hnone : manager.worker.left = 0 := by omega
  refine ⟨?_, hqueue, rfl⟩
  show manager.worker = .waiting
  revert hnone hworker
  cases manager.worker <;> simp [Worker.left]

/-! ## The reports -/

omit hid he in
theorem toServer_delivered (visit : Visit) (server : CustomModelComponent) :
    Visit.toServer { visit with delivered := visit.delivered + 1, server } = visit.toServer.tail := by
  simp only [Visit.toServer]
  cases visit.client.transport with
  | none => rfl
  | some transport => simp only [Option.elim_some, List.tail_drop]

theorem Joined.reports (h : Joined configuration playerId visit) (hi : visit.Idle) (hmore : visit.toServer ≠ []) :
    let next := visit.deliverToServer playerId
    Joined configuration playerId next ∧ next.Idle ∧ next.toServer.length < visit.toServer.length := by
  have hsure : Sure configuration playerId (visit.step playerId .deliverToServer) := h.sure.step hid he trivial
  obtain ⟨-, manifest, answers, -, manager, transport, seen, rest, recorded, flying, waiting, hb⟩ := h.good
  have htoServer : visit.toServer = flying.map (handed manifest) := by
    have htransport : visit.client.transport = some transport := hb.channel
    rw [Visit.toServer, htransport]
    exact hb.toServer
  cases flying with
  | nil => exact absurd htoServer hmore
  | cons ended flying =>
      have hencodable := hb.downloads.report_encodable ended
        (List.mem_append_left _ (List.mem_append_right _ List.mem_cons_self))
      obtain ⟨server, -, -, htracker, -, hnext⟩ :=
        deliver_report hid h.sure.wired.available hencodable (report_ne_hello ended _) htoServer
      rw [Visit.step, hnext] at hsure
      rw [hnext]
      refine ⟨⟨⟨hsure, h.due, h.pumping, h.inbox⟩, by rw [htracker]; exact h.record⟩, hi, ?_⟩
      rw [toServer_delivered, List.length_tail]
      exact Nat.sub_lt (List.length_pos_iff.mpr hmore) Nat.one_pos

theorem Joined.completes (h : Joined configuration playerId visit) :
    Goes playerId around visit Visit.Quiet := by
  refine (h.works hid he).trans fun through ⟨hthrough, hleft⟩ => ?_
  refine (hthrough.pumps hid he hleft).trans fun idle ⟨hjoined, hidle⟩ => ?_
  have hwork : ∀ next : Visit, (Joined configuration playerId next ∧ next.Idle) → next.toServer.length ≠ 0 →
      Goes playerId around next fun last => (Joined configuration playerId last ∧ last.Idle) ∧
        last.toServer.length < next.toServer.length := by
    intro next ⟨hnext, hi⟩ hmore
    obtain ⟨hlast, hstays, hless⟩ := hnext.reports hid he hi (fun hnone => hmore (by rw [hnone]; rfl))
    exact .single (e := .deliverToServer) trivial ⟨⟨hlast, hstays⟩, hless⟩
  refine (leads_of_work hwork ⟨hjoined, hidle⟩).trans fun last ⟨⟨hlast, hi⟩, hnone⟩ => .refl ?_
  exact ⟨hlast.due, hlast.toSettled.coming, List.length_eq_zero_iff.mp hnone, hi⟩

/-! ## The handshake -/

omit hid he in
theorem Settled.quiet (h : Settled configuration playerId visit) {handshake : ClientHandshake}
    (hc : Calm visit handshake []) : visit.Quiet := by
  refine ⟨h.due, h.coming, hc.toServer, fun manager hm => ?_⟩
  obtain ⟨_, hassets, hunused⟩ := hc.manager
  cases hassets.symm.trans hm
  exact ⟨hunused.worker, hunused.session.queue, hunused.session.events⟩

/-- The server has answered the player. -/
def Answered (configuration : HandshakeConfiguration) (player : UInt32) (server : CustomModelComponent) : Prop :=
  (∃ reason, Turned player server reason) ∨
    server.tracker.players.lookup player = some (.accepted makePolicy (helloOf configuration))

omit hid in
theorem Wired.answered (h : Wired visit) (hid : 0 ≤ playerId)
    (calm : Calm visit (introduced configuration) [⟨(Message.hello (helloOf configuration)).packet, true⟩])
    (pending : Pending (UInt32.ofNat playerId.toNat) visit.server) :
    Answered configuration (UInt32.ofNat playerId.toNat) (visit.deliverToServer playerId).server := by
  have hreception := receiveProtocol_reception h.watched h.available h.answers pending.record pending.session he
  rw [deliverToServer_cons he calm.toServer]
  show Answered configuration (UInt32.ofNat playerId.toNat)
    (act visit.server (.event (.receive playerId (streamOfFrame (Message.hello (helloOf configuration)).frame))))
  rw [act_receive hid visit.server he]
  cases hreception with
  | rejected reason encodable sent record => exact .inl ⟨reason, record⟩
  | welcomed tracker encodable sent record session => exact .inr record

theorem Settled.completes_answered (h : Settled configuration playerId visit)
    (ha : Answered configuration (UInt32.ofNat playerId.toNat) visit.server) :
    Goes playerId around visit Visit.Quiet := by
  rcases ha with ⟨reason, record, hl, hstate, -⟩ | hrecord
  · cases h.sure.phase with
    | before calm => exact .refl (h.quiet calm)
    | greeting calm coming announced pending =>
        cases pending.record.symm.trans hl
        cases hstate
    | rejecting reason calm encodable coming => cases coming.symm.trans h.coming
    | rejected reason handshake calm => exact .refl (h.quiet calm)
    | welcoming manifest tracker published wellFormed calm encodable coming => cases coming.symm.trans h.coming
    | downloading manifest answers published wellFormed announced accepted =>
        cases accepted.symm.trans hl
        cases hstate
  · exact (Joined.mk h hrecord).completes hid he

theorem Sure.completes (h : Sure configuration playerId visit) : Goes playerId around visit Visit.Quiet := by
  refine (h.settles hid he).trans fun settled ⟨hsettled, _⟩ => ?_
  cases hsettled.sure.phase with
  | before calm => exact .refl (hsettled.quiet calm)
  | greeting calm coming announced pending =>
      have hanswered := hsettled.sure.wired.answered he hid calm pending
      have hgreeted : Sure configuration playerId (settled.step playerId .deliverToServer) :=
        hsettled.sure.step hid he trivial
      have hfirst : Goes playerId around settled fun next => Sure configuration playerId next ∧
          Answered configuration (UInt32.ofNat playerId.toNat) next.server :=
        .single (e := .deliverToServer) trivial ⟨hgreeted, hanswered⟩
      refine hfirst.trans fun next ⟨hnext, hdone⟩ => ?_
      refine (hnext.settles hid he).trans fun last ⟨hlast, hserver⟩ => ?_
      exact hlast.completes_answered hid he (hserver ▸ hdone)
  | rejecting reason calm encodable coming => cases coming.symm.trans hsettled.coming
  | rejected reason handshake calm => exact .refl (hsettled.quiet calm)
  | welcoming manifest tracker published wellFormed calm encodable coming =>
      cases coming.symm.trans hsettled.coming
  | downloading manifest answers published wellFormed announced record good =>
      exact (Joined.mk hsettled record).completes hid he

end Steps

end CustomModels.System
