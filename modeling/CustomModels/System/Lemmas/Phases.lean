import CustomModels.System.Lemmas.Visit

/-!
# The phases of a visit

The client waits to be announced; its Hello is under way; the answer of the server is under way; the client is rejected,
or it downloads. Until it downloads its asset manager is unused.
-/

namespace CustomModels.System
open CustomModels.Shared CustomModels.Server CustomModels.Client

variable {player : UInt32} {visit after : Visit} {configuration : HandshakeConfiguration} {manifests : Manifest → Prop}

/-! ## Before the downloads -/

/-- The session of the manager is new, and the worker waits for the first of it. -/
structure Unused (manager : ClientAssetManager) : Prop where
  session : NewSession manager
  worker : manager.worker = .waiting

theorem Unused.workerStep {manager : ClientAssetManager} (h : Unused manager) (around : Surroundings) :
    manager.workerStep around = manager := by
  simp only [ClientAssetManager.workerStep, h.worker, h.session.running, h.session.queue, Bool.false_eq_true,
    ↓reduceIte]

theorem Unused.resetSession {manager : ClientAssetManager} (h : Unused manager) : Unused manager.resetSession where
  session :=
    { running := h.session.running
      receiver := rfl
      queue := rfl
      events := rfl
      states := rfl
      hand := by
        intro work hwork
        rw [ClientAssetManager.resetSession, h.worker] at hwork
        cases hwork }
  worker := h.worker

theorem made_unused (root : Path) (files : Filesystem) :
    Unused ((ClientAssetManager.make root files).initializeManager true) :=
  ⟨⟨rfl, rfl, rfl, rfl, rfl, nofun⟩, rfl⟩

/-- The client has this handshake and an unused manager, and `sent` is under way from it. -/
structure Calm (visit : Visit) (handshake : ClientHandshake) (sent : List ClientSent) : Prop where
  handshake : visit.client.handshake = some handshake
  manager : ∃ manager, visit.client.assets = some manager ∧ Unused manager
  channel : ∃ transport, visit.client.transport = some transport ∧ (∀ n, transport.answer n = true) ∧
    visit.delivered ≤ transport.sent.length ∧ transport.sent.drop visit.delivered = sent
  pumped : visit.pumped = []

namespace Calm

variable {handshake : ClientHandshake} {sent : List ClientSent}

theorem congr (h : Calm visit handshake sent) (hclient : after.client = visit.client)
    (hdelivered : after.delivered = visit.delivered) (hpumped : after.pumped = visit.pumped) :
    Calm after handshake sent := by
  obtain ⟨hhandshake, hmanager, hchannel, hnone⟩ := h
  rw [← hclient] at hhandshake hmanager hchannel
  rw [← hdelivered] at hchannel
  exact ⟨hhandshake, hmanager, hchannel, hpumped.trans hnone⟩

theorem toServer (h : Calm visit handshake sent) : visit.toServer = sent := by
  obtain ⟨transport, ht, -, -, hsent⟩ := h.channel
  rw [Visit.toServer, ht]
  exact hsent

theorem work (h : Calm visit handshake sent) (around : Surroundings) : visit.work around = visit := by
  obtain ⟨manager, hm, hunused⟩ := h.manager
  obtain ⟨hook, due, pumping, ⟨_, _, _, logged⟩, server, inbox, delivered, pumped⟩ := visit
  cases hm
  simp only [Visit.work, Option.map_some, hunused.workerStep]

theorem pump (h : Calm visit handshake sent) (hc : handshake.state ≠ .compatible) : visit.pump = visit := by
  obtain ⟨manager, hm, -⟩ := h.manager
  have hpump : visit.client.pumpAssetResults = ([], visit.client) := by
    simp only [ProtocolContext.pumpAssetResults, h.handshake, hm, ne_eq, hc, not_false_eq_true, ↓reduceIte]
  simp only [Visit.pump, hpump, List.append_nil]

theorem newSession (h : Calm visit handshake sent) :
    ∃ manager, visit.client.assets = some manager ∧ NewSession manager := by
  obtain ⟨manager, hm, hunused⟩ := h.manager
  exact ⟨manager, hm, hunused.session⟩

end Calm

/-- The client once its Hello is out. -/
def introduced (configuration : HandshakeConfiguration) : ClientHandshake :=
  { ClientHandshake.make configuration with state := .helloSent }

/-! ## Phases -/

/-- The visit as the exchange behind its handshake. -/
def Visit.exchange (visit : Visit) (answers : List (Option AssetDispatchResult)) : Exchange where
  client := visit.client
  server := visit.server.assets
  toClient := visit.coming.map (kRakNetPacketId :: ·)
  delivered := visit.delivered
  answers
  pumped := visit.pumped

/-- The server waits for the Hello of the player. -/
structure Pending (player : UInt32) (server : CustomModelComponent) : Prop where
  record : server.tracker.players.lookup player = some (.ofState .handshakePending)
  session : server.assets.players.lookup player = some (.ofState .handshakePending)

/-- The server has rejected the player. -/
def Turned (player : UInt32) (server : CustomModelComponent) (reason : RejectReason) : Prop :=
  ∃ state, server.tracker.players.lookup player = some state ∧ state.state = .rejected ∧
    state.rejectReason = some reason

inductive Phase (configuration : HandshakeConfiguration) (player : UInt32) (manifests : Manifest → Prop)
    (visit : Visit) : Prop where
  | before (calm : Calm visit (.make configuration) []) (coming : visit.coming = []) (unheard : Unheard visit)
      (pending : Pending player visit.server)
  | greeting (calm : Calm visit (introduced configuration) [⟨(Message.hello (helloOf configuration)).packet, true⟩])
      (coming : visit.coming = []) (announced : Announced visit) (pending : Pending player visit.server)
  | rejecting (reason : RejectReason) (calm : Calm visit (introduced configuration) [])
      (encodable : (Message.reject ⟨reason⟩).Encodable) (coming : visit.coming = [(Message.reject ⟨reason⟩).packet])
      (announced : Announced visit) (turned : Turned player visit.server reason)
  | rejected (reason : RejectReason) (handshake : ClientHandshake) (calm : Calm visit handshake [])
      (state : handshake.state = .rejected) (rejection : handshake.rejection = some ⟨reason⟩)
      (coming : visit.coming = []) (announced : Announced visit) (turned : Turned player visit.server reason)
  | welcoming (manifest : Manifest) (tracker : PlayerCapabilityTracker) (published : manifests manifest)
      (wellFormed : manifest.WellFormed) (calm : Calm visit (introduced configuration) [])
      (encodable : (Message.welcome (tracker.welcomeFor (.accepted makePolicy (helloOf configuration)))).Encodable)
      (coming : visit.coming =
        (Message.welcome (tracker.welcomeFor (.accepted makePolicy (helloOf configuration))) ::
          manifest.stream).map Message.packet)
      (announced : Announced visit)
      (record : visit.server.tracker.players.lookup player = some (.accepted makePolicy (helloOf configuration)))
      (session : ∃ state, visit.server.assets.players.lookup player = some state ∧ state.Recorded manifest [])
  | downloading (manifest : Manifest) (answers : List (Option AssetDispatchResult)) (published : manifests manifest)
      (wellFormed : manifest.WellFormed) (announced : Announced visit)
      (record : visit.server.tracker.players.lookup player = some (.accepted makePolicy (helloOf configuration)))
      (good : Good manifest player (visit.exchange answers))

namespace Phase

theorem mono (h : Phase configuration player manifests visit) {more : Manifest → Prop}
    (hm : ∀ manifest, manifests manifest → more manifest) : Phase configuration player more visit := by
  cases h with
  | before calm coming unheard pending => exact .before calm coming unheard pending
  | greeting calm coming announced pending => exact .greeting calm coming announced pending
  | rejecting reason calm encodable coming announced turned =>
      exact .rejecting reason calm encodable coming announced turned
  | rejected reason handshake calm state rejection coming announced turned =>
      exact .rejected reason handshake calm state rejection coming announced turned
  | welcoming manifest tracker published wellFormed calm encodable coming announced record session =>
      exact .welcoming manifest tracker (hm _ published) wellFormed calm encodable coming announced record session
  | downloading manifest answers published wellFormed announced record good =>
      exact .downloading manifest answers (hm _ published) wellFormed announced record good

end Phase

/-- The exchange depends on the session of its player, not on those of others. -/
theorem Good.of_record {manifest : Manifest} {exchange : Exchange} (h : Good manifest player exchange)
    {server : AssetPublication} (hs : server.players.lookup player = exchange.server.players.lookup player) :
    Good manifest player { exchange with server } := by
  obtain ⟨manager, transport, seen, rest, recorded, flying, waiting, hb⟩ := h
  exact ⟨manager, transport, seen, rest, recorded, flying, waiting, { hb with record := by rw [hs]; exact hb.record }⟩

/-- A step that the client does not see, and that changes nothing the server has of the player. -/
structure Passes (player : UInt32) (visit after : Visit) : Prop where
  client : after.client = visit.client
  delivered : after.delivered = visit.delivered
  pumped : after.pumped = visit.pumped
  coming : after.coming = visit.coming
  record : after.server.tracker.players.lookup player = visit.server.tracker.players.lookup player
  session : after.server.assets.players.lookup player = visit.server.assets.players.lookup player
  unheard : Unheard visit → Unheard after
  announced : Announced visit → Announced after

theorem Phase.passes (h : Phase configuration player manifests visit) (hp : Passes player visit after) :
    Phase configuration player manifests after := by
  have hcalm := fun handshake sent (h : Calm visit handshake sent) => h.congr hp.client hp.delivered hp.pumped
  have hpending : Pending player visit.server → Pending player after.server :=
    fun h => ⟨hp.record.trans h.record, hp.session.trans h.session⟩
  have hturned : ∀ reason, Turned player visit.server reason → Turned player after.server reason := by
    intro reason h
    rw [Turned, hp.record]
    exact h
  cases h with
  | before calm coming unheard pending =>
      exact .before (hcalm _ _ calm) (hp.coming.trans coming) (hp.unheard unheard) (hpending pending)
  | greeting calm coming announced pending =>
      exact .greeting (hcalm _ _ calm) (hp.coming.trans coming) (hp.announced announced) (hpending pending)
  | rejecting reason calm encodable coming announced turned =>
      exact .rejecting reason (hcalm _ _ calm) encodable (hp.coming.trans coming) (hp.announced announced)
        (hturned reason turned)
  | rejected reason handshake calm state rejection coming announced turned =>
      exact .rejected reason handshake (hcalm _ _ calm) state rejection (hp.coming.trans coming)
        (hp.announced announced) (hturned reason turned)
  | welcoming manifest tracker published wellFormed calm encodable coming announced record session =>
      exact .welcoming manifest tracker published wellFormed (hcalm _ _ calm) encodable (hp.coming.trans coming)
        (hp.announced announced) (hp.record.trans record) (hp.session ▸ session)
  | downloading manifest answers published wellFormed announced record good =>
      refine .downloading manifest answers published wellFormed (hp.announced announced) (hp.record.trans record) ?_
      have hsame : after.exchange answers = { visit.exchange answers with server := after.server.assets } := by
        simp only [Visit.exchange, hp.client, hp.delivered, hp.pumped, hp.coming]
      rw [hsame]
      exact good.of_record hp.session

/-! ## Steps that change little -/

/-- Until the client downloads it is not compatible. -/
theorem Phase.calm_or_good (h : Phase configuration player manifests visit) :
    (∃ handshake sent, Calm visit handshake sent ∧ handshake.state ≠ .compatible) ∨
      ∃ manifest answers, manifests manifest ∧ manifest.WellFormed ∧ Announced visit ∧
        visit.server.tracker.players.lookup player = some (.accepted makePolicy (helloOf configuration)) ∧
        Good manifest player (visit.exchange answers) := by
  cases h with
  | before calm => exact .inl ⟨_, _, calm, by simp [ClientHandshake.make]⟩
  | greeting calm => exact .inl ⟨_, _, calm, by simp [introduced]⟩
  | rejecting reason calm => exact .inl ⟨_, _, calm, by simp [introduced]⟩
  | rejected reason handshake calm state => exact .inl ⟨_, _, calm, by simp [state]⟩
  | welcoming manifest tracker published wellFormed calm => exact .inl ⟨_, _, calm, by simp [introduced]⟩
  | downloading manifest answers published wellFormed announced record good =>
      exact .inr ⟨manifest, answers, published, wellFormed, announced, record, good⟩

theorem Phase.work (h : Phase configuration player manifests visit) (around : Surroundings) :
    Phase configuration player manifests (visit.work around) := by
  rcases h.calm_or_good with ⟨_, _, hcalm, -⟩ | ⟨manifest, answers, hp, hw, ha, hr, hg⟩
  · rw [hcalm.work]
    exact h
  · exact .downloading manifest answers hp hw ha hr (hg.step hw _ (.work around))

theorem Phase.pump (h : Phase configuration player manifests visit) :
    Phase configuration player manifests visit.pump := by
  rcases h.calm_or_good with ⟨_, _, hcalm, hstate⟩ | ⟨manifest, answers, hp, hw, ha, hr, hg⟩
  · rw [hcalm.pump hstate]
    exact h
  · exact .downloading manifest answers hp hw ha hr (hg.step hw _ .pump)

theorem Phase.samp (h : Phase configuration player manifests visit) {packet : RakPacket}
    (hp : packet.claimed = false) :
    Phase configuration player manifests { visit with inbox := visit.inbox ++ [packet] } := by
  refine h.passes ⟨rfl, rfl, rfl, ?_, rfl, rfl, id, id⟩
  have hnone : dispatches [packet] = [] := by simp [dispatches, hp]
  rw [Visit.coming_eq, Visit.coming_eq, dispatches_append, hnone, List.append_nil]

theorem Phase.receive (h : Phase configuration player manifests visit) (hw : Wired visit) (available : Nat) :
    Phase configuration player manifests (visit.receive available) := by
  obtain ⟨-, hcoming, hunheard, hannounced⟩ := hw.receive available
  have hsame : (visit.receive available).client = visit.client ∧
      (visit.receive available).delivered = visit.delivered ∧ (visit.receive available).pumped = visit.pumped ∧
        (visit.receive available).server = visit.server := by
    unfold Visit.receive
    split
    · exact ⟨rfl, rfl, rfl, rfl⟩
    · exact ⟨rfl, rfl, rfl, rfl⟩
  obtain ⟨hclient, hdelivered, hpumped, hserver⟩ := hsame
  exact h.passes ⟨hclient, hdelivered, hpumped, hcoming, by rw [hserver], by rw [hserver], hunheard, hannounced⟩

/-- What the server does for others passes the visit. -/
theorem Phase.elsewhere (h : Phase configuration player manifests visit) {activity : Activity}
    (hc : activity.concern player = none) :
    Phase configuration player manifests (visit.serve player activity) := by
  obtain ⟨-, hrecord, hsession, -⟩ := act_unheard visit.server hc
  rw [Visit.serve_eq (Visit.sentSince_unheard hc)]
  refine h.passes ⟨rfl, rfl, rfl, ?_, hrecord, hsession, id, id⟩
  rw [Visit.coming_eq, Visit.coming_eq, List.map_nil, List.append_nil]

/-! ## Callbacks -/

theorem handleIncoming_rejected {context : ProtocolContext} {reason : RejectReason}
    (hh : context.handshake = some (introduced configuration)) (he : (Message.reject ⟨reason⟩).Encodable) :
    context.handleIncoming (Message.reject ⟨reason⟩).packet = (false, { context with
      handshake := some { introduced configuration with rejection := some ⟨reason⟩, state := .rejected } }) := by
  simp only [ProtocolContext.handleIncoming, hh, decodePacket_packet he, ProtocolContext.handleHandshakeMessage,
    @handleIncoming_reject (introduced configuration) _ he rfl]

theorem handleIncoming_welcomed {context : ProtocolContext} {tracker : PlayerCapabilityTracker}
    (hh : context.handshake = some (introduced configuration))
    (he : (Message.welcome (tracker.welcomeFor (.accepted makePolicy (helloOf configuration)))).Encodable) :
    context.handleIncoming
        (Message.welcome (tracker.welcomeFor (.accepted makePolicy (helloOf configuration)))).packet =
      (false, { context with
        handshake := some { introduced configuration with
          welcome := some (tracker.welcomeFor (.accepted makePolicy (helloOf configuration)))
          state := .compatible } }) := by
  have hwelcome := @handleIncoming_welcome (introduced configuration) makePolicy tracker he rfl
  simp only [ProtocolContext.handleIncoming, hh, decodePacket_packet he, ProtocolContext.handleHandshakeMessage]
  rw [show helloOf configuration = (introduced configuration).hello from rfl, hwelcome]
  rfl

theorem Calm.connected (h : Calm visit (.make configuration) [])
    (he : (Message.hello (helloOf configuration)).Encodable) {due : List HookAction} :
    Calm { visit with due, client := visit.client.handleConnectionEvent .connected } (introduced configuration)
      [⟨(Message.hello (helloOf configuration)).packet, true⟩] := by
  obtain ⟨manager, hm, hunused⟩ := h.manager
  obtain ⟨transport, ht, ha, hdelivered, hsent⟩ := h.channel
  have htake : (ClientHandshake.make configuration).onConnected.takeHello =
      (some (Message.hello (helloOf configuration)).packet, introduced configuration) := by
    simp only [ClientHandshake.takeHello]
    rw [if_neg (by simp [ClientHandshake.onConnected, ClientHandshake.make])]
    rw [show (ClientHandshake.make configuration).onConnected.hello = helloOf configuration from rfl,
      encodePacket_of_encodable he]
    rfl
  have hevent : visit.client.handleConnectionEvent .connected =
      { visit.client with
        handshake := some (introduced configuration)
        assets := some manager.resetSession
        transport := some (transport.send (Message.hello (helloOf configuration)).packet).2 } := by
    simp only [ProtocolContext.handleConnectionEvent, h.handshake, ht, htake, hm, Option.map_some]
  rw [hevent]
  refine ⟨rfl, ⟨_, rfl, hunused.resetSession⟩, ⟨_, rfl, ha, ?_, ?_⟩, h.pumped⟩
  · simp only [ClientTransport.send, List.length_append]
    omega
  · simp only [ClientTransport.send, List.drop_append_of_le_length hdelivered, hsent, ha, List.nil_append]

/-- The first frame of the stream finds the manager with a new session. -/
theorem start_downloads {manifest : Manifest} {handshake : ClientHandshake}
    (h : Calm visit handshake []) (hc : handshake.state = .compatible)
    (hcoming : visit.coming = manifest.stream.map Message.packet)
    (hs : ∃ state, visit.server.assets.players.lookup player = some state ∧ state.Recorded manifest []) :
    Good manifest player (visit.exchange []) := by
  obtain ⟨manager, hm, hnew⟩ := h.newSession
  obtain ⟨transport, ht, ha, hdelivered, hsent⟩ := h.channel
  have hstream : manifest.stream ≠ [] := by
    rw [ne_eq, ← List.length_eq_zero_iff, Manifest.stream_length]
    omega
  refine ⟨manager, transport, [], manifest.stream, [], [], [], ?_⟩
  refine ⟨⟨handshake, h.handshake, hc⟩, hm, ht, fun n _ => ha n, hdelivered, rfl, ?_, hnew.receiver, ?_, ?_, hsent, hs,
    rfl, ?_⟩
  · rw [Visit.exchange, hcoming, List.map_map]
    rfl
  · refine .awaiting _ hstream ⟨hnew.running, ?_, hnew.queue, hnew.states, hnew.hand⟩
    rw [hnew.receiver]
    rfl
  · rw [hnew.events]
    rfl
  · rw [Visit.exchange, h.pumped]
    rfl

section Callbacks

variable {due : List HookAction}

/-- A packet that is dispatched is the next one to come. -/
theorem Phase.dispatched (h : Phase configuration player manifests visit) {bytes : List UInt8}
    (hdue : visit.due = .dispatched bytes :: due) :
    Phase configuration player manifests
      { visit with
        due
        pumping := (visit.client.handleIncoming bytes).1
        client := (visit.client.handleIncoming bytes).2 } := by
  have hcoming : visit.coming = bytes :: (due.filterMap HookAction.dispatched? ++ dispatches visit.inbox) := by
    rw [Visit.coming_eq, hdue]
    rfl
  have hannounced : Announced visit → visit.hook.connectedEventSent = true ∧ connectionEvents due = [] := by
    intro ⟨hsent, hevents⟩
    rw [hdue] at hevents
    exact ⟨hsent, hevents⟩
  cases h with
  | before calm coming => cases hcoming.symm.trans coming
  | greeting calm coming => cases hcoming.symm.trans coming
  | rejected reason handshake calm state rejection coming => cases hcoming.symm.trans coming
  | rejecting reason calm encodable coming announced turned =>
      obtain ⟨hbytes, hrest⟩ := List.cons.inj (hcoming.symm.trans coming)
      rw [hbytes, handleIncoming_rejected calm.handshake encodable]
      exact .rejected reason _ ⟨rfl, calm.manager, calm.channel, calm.pumped⟩ rfl rfl hrest (hannounced announced)
        turned
  | welcoming manifest tracker published wellFormed calm encodable coming announced record session =>
      obtain ⟨hbytes, hrest⟩ := List.cons.inj (hcoming.symm.trans coming)
      rw [hbytes, handleIncoming_welcomed calm.handshake encodable]
      exact .downloading manifest [] published wellFormed (hannounced announced) record
        (start_downloads ⟨rfl, calm.manager, calm.channel, calm.pumped⟩ rfl hrest session)
  | downloading manifest answers published wellFormed announced record good =>
      refine .downloading manifest answers published wellFormed (hannounced announced) record ?_
      have hnext := good.step wellFormed _ .deliverToClient
      obtain ⟨manager, transport, seen, rest, recorded, flying, waiting, hb⟩ := good
      have hframes := hb.toClient
      rw [Visit.exchange, hcoming] at hframes
      cases rest with
      | nil => cases hframes
      | cons message rest =>
          have hbytes : bytes = message.packet := (List.cons.inj (List.cons.inj hframes).1).2
          have hstep : (visit.exchange answers).step player .deliverToClient =
              { visit.exchange answers with
                client := (visit.client.handleIncoming bytes).2
                toClient := (due.filterMap HookAction.dispatched? ++ dispatches visit.inbox).map
                  (kRakNetPacketId :: ·) } := by
            simp only [Exchange.step, Exchange.deliverToClient, Visit.exchange, hcoming, List.map_cons, hbytes]
            rw [show kRakNetPacketId :: message.packet = message.frame from rfl, inspect_frame]
          rw [hstep] at hnext
          exact hnext

theorem Phase.connected (h : Phase configuration player manifests visit)
    (he : (Message.hello (helloOf configuration)).Encodable)
    (hdue : visit.due = .connection .connected :: due) :
    Phase configuration player manifests
      { visit with due, client := visit.client.handleConnectionEvent .connected } := by
  have hevents : connectionEvents visit.due = .connected :: connectionEvents due := by
    rw [hdue]
    rfl
  have hheard : ¬ Announced visit := fun ha => by cases hevents.symm.trans ha.2
  cases h with
  | before calm coming unheard pending =>
      have hsent : visit.hook.connectedEventSent = true ∧ connectionEvents due = [] := by
        rw [Unheard, hevents] at unheard
        split at unheard
        · rename_i hsent
          exact ⟨hsent, (List.cons.inj unheard).2⟩
        · cases unheard
      refine .greeting (calm.connected he) ?_ hsent pending
      rw [Visit.coming_eq, hdue] at coming
      exact coming
  | greeting calm coming announced => exact absurd announced hheard
  | rejecting reason calm encodable coming announced => exact absurd announced hheard
  | rejected reason handshake calm state rejection coming announced => exact absurd announced hheard
  | welcoming manifest tracker published wellFormed calm encodable coming announced => exact absurd announced hheard
  | downloading manifest answers published wellFormed announced => exact absurd announced hheard

/-- The hook never tells the runtime of an end. -/
theorem Phase.not_disconnected (h : Phase configuration player manifests visit) :
    visit.due ≠ .connection .disconnected :: due := by
  intro hdue
  have hevents : connectionEvents visit.due = .disconnected :: connectionEvents due := by
    rw [hdue]
    rfl
  have hheard : ¬ Announced visit := fun ha => by cases hevents.symm.trans ha.2
  cases h with
  | before calm coming unheard pending =>
      rw [Unheard, hevents] at unheard
      split at unheard
      · cases unheard
      · cases unheard
  | greeting calm coming announced => exact hheard announced
  | rejecting reason calm encodable coming announced => exact hheard announced
  | rejected reason handshake calm state rejection coming announced => exact hheard announced
  | welcoming manifest tracker published wellFormed calm encodable coming announced => exact hheard announced
  | downloading manifest answers published wellFormed announced => exact hheard announced

/-- What is not a callback passes. -/
theorem Phase.traffic (h : Phase configuration player manifests visit) {action : HookAction}
    (hdue : visit.due = action :: due) (hd : action.dispatched? = none) (hc : action.connection? = none) :
    Phase configuration player manifests { visit with due } := by
  have hevents : connectionEvents visit.due = connectionEvents due := by
    rw [hdue]
    exact List.filterMap_cons_none hc
  refine h.passes ⟨rfl, rfl, rfl, ?_, rfl, rfl, ?_, ?_⟩
  · rw [Visit.coming_eq, Visit.coming_eq, hdue, List.filterMap_cons_none hd]
  · intro hunheard
    rw [Unheard, hevents] at hunheard
    exact hunheard
  · intro hannounced
    exact ⟨hannounced.1, hevents.symm.trans hannounced.2⟩

theorem Phase.callback (h : Phase configuration player manifests visit)
    (he : (Message.hello (helloOf configuration)).Encodable) :
    Phase configuration player manifests visit.callback := by
  unfold Visit.callback
  split
  · exact h.pump.passes ⟨rfl, rfl, rfl, rfl, rfl, rfl, id, id⟩
  · cases hdue : visit.due with
    | nil => exact h
    | cons action due =>
        cases action with
        | dispatched bytes => exact h.dispatched hdue
        | connection event =>
            cases event with
            | connected => exact h.connected he hdue
            | disconnected => exact absurd hdue h.not_disconnected
        | pumped => exact h.pump.traffic hdue rfl rfl
        | drew packet => exact h.traffic hdue rfl rfl
        | returned packet => exact h.traffic hdue rfl rfl
        | deallocated packet => exact h.traffic hdue rfl rfl

end Callbacks

/-! ## Frames of the client -/

theorem streamOfFrame_incoming {message : Message} (he : message.Encodable) :
    (streamOfFrame message.frame).incoming = .packet message.packet := by
  refine CustomModelComponent.incoming_of_exposes ⟨?_, ?_, ?_, _, rfl, ?_⟩
    (hasProtocolMagic_packet message) (message.packet_length_le he)
  · simp [streamOfFrame]
  · simp [streamOfFrame]
  · simp only [streamOfFrame, Message.frame, List.length_cons]
    omega
  · simp [NetworkBitStream.bytesAt, streamOfFrame, Message.frame]

theorem act_receive {playerId : Int} (hid : 0 ≤ playerId) (server : CustomModelComponent) {message : Message}
    (he : message.Encodable) :
    act server (.event (.receive playerId (streamOfFrame message.frame))) =
      server.receiveProtocol (UInt32.ofNat playerId.toNat) message.packet := by
  simp only [act, CustomModelComponent.step, CustomModelComponent.onReceive_eq server hid, streamOfFrame_incoming he]

section Frames

variable {playerId : Int}

theorem deliverToServer_nil (h : visit.toServer = []) : visit.deliverToServer playerId = visit := by
  rw [Visit.deliverToServer, h]

theorem deliverToServer_cons {message : Message} {rest : List ClientSent} (he : message.Encodable)
    (h : visit.toServer = ⟨message.packet, true⟩ :: rest) :
    visit.deliverToServer playerId =
      Visit.serve { visit with delivered := visit.delivered + 1 } (UInt32.ofNat playerId.toNat)
        (.event (.receive playerId (streamOfFrame message.frame))) := by
  rw [Visit.deliverToServer, h]
  simp only [Bool.not_true, Bool.false_eq_true, ↓reduceIte, encodeFrame_packet he]

/-- A visit whose next packet has left the client. -/
theorem Wired.left (h : Wired visit) (delivered : Nat) : Wired { visit with delivered } := { h with }

theorem report_ne_hello (ended : AssetEnd) (revision : UInt64) (hello : Hello) :
    ended.report revision ≠ .hello hello := by
  obtain ⟨_, _ | _⟩ := ended <;> simp [AssetEnd.report]

/-- A report is recorded, and nothing is sent for it. -/
theorem deliver_report (hid : 0 ≤ playerId) (ha : visit.server.available = true) {message : Message}
    {rest : List ClientSent} (he : message.Encodable) (hm : ∀ hello, message ≠ .hello hello)
    (h : visit.toServer = ⟨message.packet, true⟩ :: rest) :
    ∃ server : CustomModelComponent, act visit.server
          (.event (.receive playerId (streamOfFrame message.frame))) = server ∧
        server.transport = visit.server.transport ∧ server.tracker = visit.server.tracker ∧
        server.assets = (visit.server.assets.handleIncoming (UInt32.ofNat playerId.toNat) message).2 ∧
        visit.deliverToServer playerId = { visit with delivered := visit.delivered + 1, server } := by
  obtain ⟨_, _, heq⟩ := CustomModelComponent.receiveProtocol_report ha (decodePacket_packet he) hm
    (UInt32.ofNat playerId.toNat)
  refine ⟨_, (act_receive hid visit.server he).trans heq, rfl, rfl, rfl, ?_⟩
  have hnothing : (sentSince visit.server.transport.sent.length
      (act visit.server (.event (.receive playerId (streamOfFrame message.frame))))).filter
        (fun sent => sent.playerId == UInt32.ofNat playerId.toNat && sent.accepted) =
      takenFor (UInt32.ofNat playerId.toNat) [] := by
    rw [act_receive hid visit.server he, heq]
    simp [sentSince, takenFor]
  rw [deliverToServer_cons he h, @Visit.serve_eq _ { visit with delivered := visit.delivered + 1 } _ _ hnothing,
    act_receive hid visit.server he, heq]
  simp only [List.map_nil, List.append_nil]

theorem Phase.received (hid : 0 ≤ playerId) (hw : Wired visit) (hnow : manifests visit.server.registry.buildManifest)
    (he : (Message.hello (helloOf configuration)).Encodable)
    (calm : Calm visit (introduced configuration) [⟨(Message.hello (helloOf configuration)).packet, true⟩])
    (coming : visit.coming = []) (announced : Announced visit)
    (pending : Pending (UInt32.ofNat playerId.toNat) visit.server) :
    Wired (visit.deliverToServer playerId) ∧
      Phase configuration (UInt32.ofNat playerId.toNat) manifests (visit.deliverToServer playerId) := by
  have hacted := act_receive hid visit.server he
  have hreception := receiveProtocol_reception hw.watched hw.available hw.answers pending.record pending.session he
  rw [← hacted] at hreception
  -- the Hello has left the client
  have hleft : Calm { visit with delivered := visit.delivered + 1 } (introduced configuration) [] := by
    obtain ⟨transport, ht, ha, hdelivered, hsent⟩ := calm.channel
    refine ⟨calm.handshake, calm.manager, ⟨transport, ht, ha, ?_, ?_⟩, calm.pumped⟩
    · have hlength := congrArg List.length hsent
      rw [List.length_drop, List.length_singleton] at hlength
      show visit.delivered + 1 ≤ transport.sent.length
      omega
    · rw [← List.drop_drop, hsent]
      rfl
  rw [deliverToServer_cons he calm.toServer]
  cases hreception with
  | rejected reason encodable sent record =>
      have hnew := @Visit.sentSince_takenFor _ { visit with delivered := visit.delivered + 1 } _ _ sent
      refine ⟨(hw.left _).serve hnew, ?_⟩
      rw [Visit.serve_eq hnew]
      refine .rejecting reason (hleft.congr rfl rfl rfl) encodable ?_ announced record
      have harrivals := @dispatches_arrivals [.reject ⟨reason⟩] (by simpa using encodable)
      rw [Visit.coming_eq, dispatches_append, ← List.append_assoc, harrivals]
      exact congrArg (· ++ [(Message.reject ⟨reason⟩).packet]) coming
  | welcomed tracker encodable sent record session =>
      have hmanifest := hw.watched.registry.sound.buildManifest
      have hnew := @Visit.sentSince_takenFor _ { visit with delivered := visit.delivered + 1 } _ _ sent
      refine ⟨(hw.left _).serve hnew, ?_⟩
      rw [Visit.serve_eq hnew]
      refine .welcoming visit.server.registry.buildManifest tracker hnow hmanifest (hleft.congr rfl rfl rfl)
        encodable ?_ announced record session
      have harrivals := @dispatches_arrivals
        (.welcome (tracker.welcomeFor (.accepted makePolicy (helloOf configuration))) ::
          visit.server.registry.buildManifest.stream) (List.forall_mem_cons.mpr ⟨encodable, hmanifest.stream_encodable⟩)
      rw [Visit.coming_eq, dispatches_append, ← List.append_assoc, harrivals]
      exact congrArg (· ++ _) coming

theorem Phase.reported (hid : 0 ≤ playerId) (hw : Wired visit) {manifest : Manifest}
    {answers : List (Option AssetDispatchResult)} (published : manifests manifest) (wellFormed : manifest.WellFormed)
    (announced : Announced visit) (record : visit.server.tracker.players.lookup (UInt32.ofNat playerId.toNat) =
      some (.accepted makePolicy (helloOf configuration)))
    (good : Good manifest (UInt32.ofNat playerId.toNat) (visit.exchange answers)) :
    Wired (visit.deliverToServer playerId) ∧
      Phase configuration (UInt32.ofNat playerId.toNat) manifests (visit.deliverToServer playerId) := by
  have hnext := good.step wellFormed _ .deliverToServer
  have hstays := good
  obtain ⟨manager, transport, seen, rest, recorded, flying, waiting, hb⟩ := good
  have htoServer : visit.toServer = flying.map (handed manifest) := by
    have htransport : visit.client.transport = some transport := hb.channel
    rw [Visit.toServer, htransport]
    exact hb.toServer
  cases flying with
  | nil =>
      rw [deliverToServer_nil htoServer]
      exact ⟨hw, .downloading manifest answers published wellFormed announced record hstays⟩
  | cons ended flying =>
      have hencodable := hb.downloads.report_encodable ended
        (List.mem_append_left _ (List.mem_append_right _ List.mem_cons_self))
      obtain ⟨server, hacted, htransport, htracker, hassets, hdelivered⟩ :=
        deliver_report hid hw.available hencodable (report_ne_hello ended _) htoServer
      rw [hdelivered]
      have hkept := hw.watched.act (.event (.receive playerId
        (streamOfFrame (ended.report manifest.revision).frame)))
      have havailable := act_available visit.server (.event (.receive playerId
        (streamOfFrame (ended.report manifest.revision).frame)))
      rw [hacted] at hkept havailable
      refine ⟨{ hw with
        watched := hkept
        available := havailable.trans hw.available
        answers := by rw [htransport]; exact hw.answers },
        .downloading manifest (answers ++ [some (visit.server.assets.handleIncoming (UInt32.ofNat playerId.toNat)
          (ended.report manifest.revision)).1]) published wellFormed announced (by rw [htracker]; exact record) ?_⟩
      have hstep : (visit.exchange answers).step (UInt32.ofNat playerId.toNat) .deliverToServer =
          Visit.exchange { visit with delivered := visit.delivered + 1, server }
            (answers ++ [some (visit.server.assets.handleIncoming (UInt32.ofNat playerId.toNat)
              (ended.report manifest.revision)).1]) := by
        have hsent : (visit.exchange answers).toServer = ⟨(ended.report manifest.revision).packet, true⟩ ::
            flying.map (handed manifest) := htoServer
        rw [Exchange.step, Exchange.deliverToServer, hsent]
        simp only [Bool.not_true, Bool.false_eq_true, ↓reduceIte, encodeFrame_packet hencodable, Option.bind_some,
          messageOf_frame hencodable, Visit.exchange, hassets]
        rfl
      rw [hstep] at hnext
      exact hnext

theorem Phase.deliverToServer (h : Phase configuration (UInt32.ofNat playerId.toNat) manifests visit)
    (hid : 0 ≤ playerId) (hw : Wired visit) (hnow : manifests visit.server.registry.buildManifest)
    (he : (Message.hello (helloOf configuration)).Encodable) :
    Wired (visit.deliverToServer playerId) ∧
      Phase configuration (UInt32.ofNat playerId.toNat) manifests (visit.deliverToServer playerId) := by
  have hnothing : ∀ {handshake : ClientHandshake}, Calm visit handshake [] →
      Wired (visit.deliverToServer playerId) ∧
        Phase configuration (UInt32.ofNat playerId.toNat) manifests (visit.deliverToServer playerId) := by
    intro handshake hcalm
    rw [deliverToServer_nil hcalm.toServer]
    exact ⟨hw, h⟩
  cases h with
  | before calm coming unheard pending => exact hnothing calm
  | greeting calm coming announced pending => exact Phase.received hid hw hnow he calm coming announced pending
  | rejecting reason calm => exact hnothing calm
  | rejected reason handshake calm => exact hnothing calm
  | welcoming manifest tracker published wellFormed calm => exact hnothing calm
  | downloading manifest answers published wellFormed announced record good =>
      exact Phase.reported hid hw published wellFormed announced record good

end Frames

/-! ## Runs -/

section Runs

variable {playerId : Int}

theorem Phase.step (h : Phase configuration (UInt32.ofNat playerId.toNat) manifests visit) (hid : 0 ≤ playerId)
    (hw : Wired visit) (hnow : manifests visit.server.registry.buildManifest)
    (he : (Message.hello (helloOf configuration)).Encodable) {event : Visit.Event}
    (hp : event.Proper (UInt32.ofNat playerId.toNat)) :
    Wired (visit.step playerId event) ∧
      Phase configuration (UInt32.ofNat playerId.toNat) manifests (visit.step playerId event) := by
  cases event with
  | samp packet => exact ⟨hw.samp hp.2, h.samp hp.1⟩
  | receive available => exact ⟨(hw.receive available).1, h.receive hw available⟩
  | callback =>
      refine ⟨?_, h.callback he⟩
      have hsame : visit.callback.hook = visit.hook ∧ visit.callback.inbox = visit.inbox ∧
          visit.callback.server = visit.server := by
        unfold Visit.callback
        split
        · exact ⟨rfl, rfl, rfl⟩
        · split <;> exact ⟨rfl, rfl, rfl⟩
      obtain ⟨hhook, hinbox, hserver⟩ := hsame
      obtain ⟨hinitialized, hincoming, hself, hflags, hlasting, hwatched, havailable, hanswers⟩ := hw
      rw [← hhook] at hinitialized hincoming hself hflags
      rw [← hinbox] at hlasting
      rw [← hserver] at hwatched havailable hanswers
      exact ⟨hinitialized, hincoming, hself, hflags, hlasting, hwatched, havailable, hanswers⟩
  | work around => exact ⟨{ hw with }, h.work around⟩
  | deliverToServer => exact h.deliverToServer hid hw hnow he
  | elsewhere activity =>
      have hc : activity.concern (UInt32.ofNat playerId.toNat) = none := Option.isNone_iff_eq_none.mp hp
      exact ⟨hw.serve (Visit.sentSince_unheard hc), h.elsewhere hc⟩

/-- Some state of the visit has the registry with this manifest. -/
def Shown (playerId : Int) (start : Visit) (events : List Visit.Event) (manifest : Manifest) : Prop :=
  ∃ front, front <+: events ∧
    manifest = (Lib.run (Visit.step playerId) start front).server.registry.buildManifest

theorem Shown.append {start : Visit} {events more : List Visit.Event} {manifest : Manifest}
    (h : Shown playerId start events manifest) : Shown playerId start (events ++ more) manifest := by
  obtain ⟨front, hfront, hmanifest⟩ := h
  exact ⟨front, hfront.trans (List.prefix_append _ _), hmanifest⟩

theorem run_phase {start : Visit} (hid : 0 ≤ playerId) (hw : Wired start)
    (h : Phase configuration (UInt32.ofNat playerId.toNat) (Shown playerId start []) start)
    (he : (Message.hello (helloOf configuration)).Encodable) {events : List Visit.Event}
    (hp : ∀ event ∈ events, event.Proper (UInt32.ofNat playerId.toNat)) :
    Wired (Lib.run (Visit.step playerId) start events) ∧
      Phase configuration (UInt32.ofNat playerId.toNat) (Shown playerId start events)
        (Lib.run (Visit.step playerId) start events) := by
  induction events using List.reverseRecOn with
  | nil => exact ⟨hw, h⟩
  | append_singleton events event ih =>
      obtain ⟨hwired, hphase⟩ := ih fun e hm => hp e (List.mem_append_left _ hm)
      rw [Lib.run_append]
      exact (hphase.mono fun _ => Shown.append).step hid hwired ⟨events, List.prefix_append _ _, rfl⟩ he
        (hp event (List.mem_append_right _ List.mem_cons_self))

end Runs

/-! ## The start and the end -/

/-- Every configuration of a known version has a Hello that can be sent: the client masks its capabilities. -/
theorem helloOf_encodable (h : configuration.sampVersion.value.toNat ≤ 7) :
    (Message.hello (helloOf configuration)).Encodable := by
  refine ⟨h, ?_⟩
  show DeclaredOnly (configuration.capabilities &&& kDeclaredCapabilities)
  have hmasked := and_and_not kDeclaredCapabilities configuration.capabilities
  rwa [UInt32.and_comm kDeclaredCapabilities] at hmasked

section Ends

variable {hook : SampRakNetTransport} {server : CustomModelComponent} {answer : Nat → Bool}

theorem start_wired (hh : hook.Started) (hw : Watched server) (hv : server.available = true)
    (ha : ∀ n, server.transport.answer n = true) (root : Path) (files : Filesystem) :
    Wired (.start hook configuration root files answer server) where
  initialized := hh.ready.initialized
  incoming := hh.ready.incoming
  self := hh.self
  flags := hh.ready.flags
  lasting := nofun
  watched := hw
  available := hv
  answers := ha

theorem start_phase (hh : hook.Started) (hp : Pending player server) (ha : ∀ n, answer n = true) (root : Path)
    (files : Filesystem) :
    Phase configuration player manifests (.start hook configuration root files answer server) := by
  refine .before ⟨rfl, ⟨_, rfl, made_unused root files⟩, ⟨_, rfl, ha, le_rfl, rfl⟩, rfl⟩ rfl ?_ hp
  simp [Unheard, Visit.start, hh.ready.sent, connectionEvents]

/-- A server that has heard of the connect of a player. -/
theorem playerConnect_ready {playerId : Int} (hid : 0 ≤ playerId) (ha : ∀ n, answer n = true)
    (operations : List AssetRegistry.Operation) (before : List Activity) :
    let registry := Lib.run AssetRegistry.operate .fresh operations
    let server := act (Lib.run act (.loaded registry true answer) before) (.event (.playerConnect playerId))
    Watched server ∧ server.available = true ∧ (∀ n, server.transport.answer n = true) ∧
      Pending (UInt32.ofNat playerId.toNat) server := by
  intro registry server
  have hkept : registry.Kept :=
    Lib.run_invariant (fun _ operation hk => hk.operated operation) AssetRegistry.fresh_kept operations
  have hrun := @Lib.run_invariant _ _ act
    (fun component => Watched component ∧ component.available = true ∧ component.transport.answer = answer)
    (fun component activity hi => ⟨hi.1.act activity, (act_available component activity).trans hi.2.1,
      (act_answer component activity).trans hi.2.2⟩) _ ⟨loaded_watched hkept true answer, rfl, rfl⟩
    (before ++ [.event (.playerConnect playerId)])
  rw [Lib.run_append] at hrun
  obtain ⟨hwatched, havailable, hanswer⟩ := hrun
  refine ⟨hwatched, havailable, fun n => ?_, ?_, playerConnect_lookup _ hid⟩
  · rw [show server.transport.answer = answer from hanswer]
    exact ha n
  · simp only [server, act, CustomModelComponent.step, CustomModelComponent.onPlayerConnect, if_pos hid]
    exact PlayerCapabilityTracker.assign_lookup_self _

theorem Phase.visited {playerId : Int} {start : Visit} {events : List Visit.Event}
    (h : Phase configuration (UInt32.ofNat playerId.toNat) (Shown playerId start events) visit) (hq : visit.Quiet) :
    Visited playerId start events visit := by
  obtain ⟨hdue, hcoming, htoServer, hmanager⟩ := hq
  cases h with
  | before calm coming unheard pending =>
      refine .waiting _ calm.handshake rfl ?_ ?_
      · rw [Unheard, hdue] at unheard
        simpa [connectionEvents] using unheard
      · rw [PlayerCapabilityTracker.getState_of_lookup pending.record]
        rfl
  | greeting calm => cases calm.toServer.symm.trans htoServer
  | rejecting reason calm encodable coming => cases coming.symm.trans hcoming
  | rejected reason handshake calm state rejection coming announced turned =>
      obtain ⟨record, hl, hstate, hreason⟩ := turned
      refine .rejected handshake ⟨reason⟩ calm.handshake state rejection ?_ ?_ calm.pumped
      · rwa [PlayerCapabilityTracker.getState_of_lookup hl]
      · rwa [PlayerCapabilityTracker.getState_of_lookup hl]
  | welcoming manifest tracker published wellFormed calm encodable coming => cases coming.symm.trans hcoming
  | downloading manifest answers published wellFormed announced record good =>
      obtain ⟨manager, transport, seen, rest, recorded, flying, waiting, hb⟩ := good
      obtain ⟨handshake, hh, hc⟩ := hb.handshake
      obtain ⟨front, hfront, rfl⟩ := published
      have hquiet : (visit.exchange answers).Quiet :=
        ⟨by rw [Visit.exchange, hcoming]; rfl, htoServer, hmanager⟩
      obtain ⟨hledger, hids, hpumped⟩ := hb.recorded_all hquiet
      obtain ⟨state, hl, hrecorded⟩ := hb.record
      refine .compatible handshake manager front hh hb.assets hc ?_ hfront ?_
      · rw [PlayerCapabilityTracker.getState_of_lookup record]
        rfl
      · have hl' : visit.server.assets.players.lookup (UInt32.ofNat playerId.toNat) = some state := hl
        rw [AssetPublication.getState_of_lookup hl']
        exact agrees hledger hrecorded hids hpumped

end Ends

end CustomModels.System
