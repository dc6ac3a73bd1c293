import CustomModels.Lib.Run
import CustomModels.Client.Lemmas.Runtime
import CustomModels.Server.Lemmas.Reports
import CustomModels.System.Exchange

/-!
# Reports of one exchange

The ends of the client's assets pass through three places: recorded by the server, under way to it, and among
the events that wait for a pump. No step loses one or makes one twice.
-/

namespace CustomModels.System
open CustomModels.Shared CustomModels.Server CustomModels.Client

variable {manifest : Manifest} {playerId : UInt32}

/-! ## The client -/

/-- The manager before the manifest is complete, and with the ledger of the manifest behind it. -/
inductive Downloads (manifest : Manifest) (manager : ClientAssetManager) :
    List Message → List AssetEnd → Prop where
  | awaiting (rest : List Message) (more : rest ≠ []) (session : manager.Awaiting) :
      Downloads manifest manager rest []
  | going (ended : List AssetEnd) (session : manager.Ledger manifest ended) :
      Downloads manifest manager [] ended

namespace Downloads

variable {manager : ClientAssetManager} {rest : List Message} {ended : List AssetEnd}

theorem mem_ids (h : Downloads manifest manager rest ended) :
    ∀ e ∈ ended, e.assetId ∈ manifest.assets.map AssetDescription.assetId := by
  cases h with
  | awaiting => exact nofun
  | going ended session => exact fun e he => session.mem_ids he

theorem nodup (h : Downloads manifest manager rest ended) : (ended.map AssetEnd.assetId).Nodup := by
  cases h with
  | awaiting => exact List.nodup_nil
  | going ended session => exact session.ended_nodup

theorem report_encodable (h : Downloads manifest manager rest ended) :
    ∀ e ∈ ended, (e.report manifest.revision).Encodable := by
  cases h with
  | awaiting => exact nofun
  | going ended session => exact fun e he => session.report_encodable he

theorem drainEvents (h : Downloads manifest manager rest ended) :
    Downloads manifest manager.drainEvents.2 rest ended := by
  cases h with
  | awaiting rest more session =>
      exact .awaiting rest more
        ⟨session.running, session.completed, session.queue, session.states, session.hand⟩
  | going ended session =>
      exact .going ended
        ⟨session.running, session.completed, session.wellFormed, session.assets, session.queue, session.hand,
          session.known, session.states, session.errors⟩

/-- The worker adds ends, and events that report them. -/
theorem workerStep (h : Downloads manifest manager rest ended) (around : Surroundings) :
    ∃ new events, Downloads manifest (manager.workerStep around) rest (ended ++ new) ∧
      (manager.workerStep around).events = manager.events ++ events ∧
      ClientAssetManager.reports events = new.map (AssetEnd.report manifest.revision) ∧
      (manager.workerStep around).receiver = manager.receiver := by
  have hbooked := manager.workerStep_booked around
  cases h with
  | awaiting rest more session =>
      obtain ⟨hsession, hevents, hreceiver⟩ := session.booked hbooked
      exact ⟨[], [], .awaiting rest more hsession, by rw [hevents, List.append_nil], rfl, hreceiver⟩
  | going ended session =>
      obtain ⟨new, events, hsession, hevents, hreports, hreceiver⟩ :=
        session.booked hbooked fun _ _ => ClientAssetManager.workerStep_failing
      exact ⟨new, events, .going _ hsession, hevents, hreports, hreceiver⟩

/-- The next message of the stream is taken, and the last one starts the ledger. -/
theorem handleMessage {seen : List Message} {message : Message} (hw : manifest.WellFormed)
    (hs : manifest.stream = seen ++ message :: rest)
    (hr : manager.receiver = ManifestReceiver.fresh.afterMessages seen)
    (h : Downloads manifest manager (message :: rest) ended) :
    ¬ (manager.handleMessage message).1.Refused ∧
      Downloads manifest (manager.handleMessage message).2 rest ended ∧
      (manager.handleMessage message).2.receiver =
        ManifestReceiver.fresh.afterMessages (seen ++ [message]) ∧
      ∃ events, (manager.handleMessage message).2.events = manager.events ++ events ∧
        ClientAssetManager.reports events = [] := by
  have hresult := ManifestReceiver.handle_stream hw hs
  have hfed : manager.receiver.Fed := ⟨seen, hr.symm⟩
  cases h with
  | awaiting _ _ session =>
      obtain ⟨events, hevents, hreports, hreceiver, hsession⟩ := session.handleMessage hfed message
      have hafter : (manager.receiver.handle message).2 =
          ManifestReceiver.fresh.afterMessages (seen ++ [message]) := by
        rw [hr, ManifestReceiver.afterMessages_append]
        rfl
      rw [← hr] at hresult
      refine ⟨?_, ?_, hreceiver.trans hafter, events, hevents, hreports⟩
      · rw [ClientAssetManager.handleMessage_fst, hresult]
        split
        · exact ManifestReceiver.not_refused_complete
        · exact ManifestReceiver.not_refused_accepted
      · by_cases hrest : rest = []
        · subst hrest
          have hcompleted : (manager.handleMessage message).2.receiver.completed = some manifest := by
            rw [hreceiver, hafter, ← hs]
            exact (ManifestReceiver.results_stream hw).2
          rcases hsession with hsession | ⟨other, hsession⟩
          · cases hsession.completed.symm.trans hcompleted
          · cases hsession.completed.symm.trans hcompleted
            exact .going [] hsession
        · rcases hsession with hsession | ⟨other, hsession⟩
          · exact .awaiting rest hrest hsession
          · rw [if_neg hrest] at hresult
            rcases hfed.handle_cases message with ⟨-, hsame⟩ | ⟨_, hcomplete, -⟩
            · have hnone := hsame.trans session.completed
              rw [← hreceiver, hsession.completed] at hnone
              cases hnone
            · cases hresult.symm.trans hcomplete

end Downloads

/-! ## The three places -/

/-- What `Send` was handed for an end. -/
def handed (manifest : Manifest) (ended : AssetEnd) : ClientSent :=
  ⟨(ended.report manifest.revision).packet, true⟩

/-- The exchange behind a part of the stream: the ends that the server has recorded, those under way to it
and those that wait for a pump. -/
structure Balanced (manifest : Manifest) (playerId : UInt32) (exchange : Exchange)
    (manager : ClientAssetManager) (transport : ClientTransport) (seen rest : List Message)
    (recorded flying waiting : List AssetEnd) : Prop where
  handshake : ∃ handshake, exchange.client.handshake = some handshake ∧ handshake.state = .compatible
  assets : exchange.client.assets = some manager
  channel : exchange.client.transport = some transport
  answers : ProtocolContext.Answers transport
  delivered : exchange.delivered ≤ transport.sent.length
  stream : manifest.stream = seen ++ rest
  toClient : exchange.toClient = rest.map Message.frame
  receiver : manager.receiver = ManifestReceiver.fresh.afterMessages seen
  downloads : Downloads manifest manager rest (recorded ++ flying ++ waiting)
  events : ClientAssetManager.reports manager.events = waiting.map (AssetEnd.report manifest.revision)
  toServer : transport.sent.drop exchange.delivered = flying.map (handed manifest)
  record : ∃ state, exchange.server.players.lookup playerId = some state ∧ state.Recorded manifest recorded
  results : exchange.answers = recorded.map fun ended => some (recordedResult ended)
  pumped : ClientAssetManager.reports exchange.pumped =
    (recorded ++ flying).map (AssetEnd.report manifest.revision)

namespace Balanced

variable {exchange : Exchange} {manager : ClientAssetManager} {transport : ClientTransport}
  {seen rest : List Message} {recorded flying waiting : List AssetEnd}

theorem deliverToClient (hw : manifest.WellFormed)
    (h : Balanced manifest playerId exchange manager transport seen rest recorded flying waiting) :
    ∃ manager' seen' rest', Balanced manifest playerId exchange.deliverToClient manager' transport seen' rest'
      recorded flying waiting := by
  have hframes := h.toClient
  cases rest with
  | nil =>
      refine ⟨manager, seen, [], ?_⟩
      rw [Exchange.deliverToClient, hframes]
      exact h
  | cons message rest =>
      have hmem : message ∈ manifest.stream := h.stream ▸ List.mem_append_right _ List.mem_cons_self
      obtain ⟨hrefused, hdownloads, hreceiver, events, hevents, hreports⟩ :=
        h.downloads.handleMessage hw h.stream h.receiver
      obtain ⟨handshake, hh, hc⟩ := h.handshake
      have hclient := ProtocolContext.handleIncoming_eq hh hc h.assets (hw.stream_encodable message hmem)
        (manifest.stream_isManifestMessage message hmem) hrefused
      have hnext : exchange.deliverToClient =
          { exchange with
            client := { exchange.client with assets := some (manager.handleMessage message).2 }
            toClient := rest.map Message.frame } := by
        simp only [Exchange.deliverToClient, hframes, List.map_cons, inspect_frame, hclient]
      refine ⟨(manager.handleMessage message).2, seen ++ [message], rest, ?_⟩
      rw [hnext]
      refine { h with
        assets := rfl
        stream := ?_
        toClient := rfl
        receiver := hreceiver
        downloads := hdownloads
        events := ?_ }
      · rw [h.stream, List.append_assoc]
        rfl
      · rw [hevents, ClientAssetManager.reports_append, hreports, List.append_nil, h.events]

theorem work (h : Balanced manifest playerId exchange manager transport seen rest recorded flying waiting)
    (around : Surroundings) :
    ∃ waiting', Balanced manifest playerId (exchange.work around) (manager.workerStep around) transport seen rest
      recorded flying waiting' := by
  obtain ⟨new, events, hdownloads, hevents, hreports, hreceiver⟩ := h.downloads.workerStep around
  refine ⟨waiting ++ new, { h with
    assets := ?_
    receiver := hreceiver.trans h.receiver
    downloads := ?_
    events := ?_ }⟩
  · rw [Exchange.work, h.assets]
    rfl
  · rw [← List.append_assoc]
    exact hdownloads
  · rw [hevents, ClientAssetManager.reports_append, hreports, h.events, List.map_append]

theorem pump (h : Balanced manifest playerId exchange manager transport seen rest recorded flying waiting) :
    ∃ transport', Balanced manifest playerId exchange.pump manager.drainEvents.2 transport' seen rest recorded
      (flying ++ waiting) [] := by
  obtain ⟨handshake, hh, hc⟩ := h.handshake
  have hencodable : ∀ m ∈ ClientAssetManager.reports manager.events, m.Encodable := by
    rw [h.events]
    intro m hm
    obtain ⟨ended, he, rfl⟩ := List.mem_map.mp hm
    exact h.downloads.report_encodable ended (List.mem_append_right _ he)
  have hpump := ProtocolContext.pumpAssetResults_eq hh hc h.channel h.answers h.assets hencodable
  have hnext : exchange.pump =
      { exchange with
        client :=
          { exchange.client with
            assets := some manager.drainEvents.2
            transport := some (ProtocolContext.took transport (ClientAssetManager.reports manager.events)) }
        pumped := exchange.pumped ++ manager.events } := by
    rw [Exchange.pump, hpump]
  refine ⟨ProtocolContext.took transport (ClientAssetManager.reports manager.events), ?_⟩
  rw [hnext]
  refine { h with
    assets := rfl
    channel := rfl
    answers := h.answers.took _
    delivered := ?_
    downloads := ?_
    events := rfl
    toServer := ?_
    pumped := ?_ }
  · rw [ProtocolContext.took, List.length_append]
    exact h.delivered.trans (Nat.le_add_right _ _)
  · rw [List.append_nil, ← List.append_assoc]
    exact h.downloads.drainEvents
  · rw [ProtocolContext.took, List.drop_append_of_le_length h.delivered, h.toServer, h.events, List.map_append,
      List.map_map]
    rfl
  · rw [ClientAssetManager.reports_append, h.pumped, h.events, ← List.map_append, List.append_assoc]

theorem deliverToServer
    (h : Balanced manifest playerId exchange manager transport seen rest recorded flying waiting) :
    ∃ recorded' flying', Balanced manifest playerId (exchange.deliverToServer playerId) manager transport seen rest
      recorded' flying' waiting := by
  have htoServer : exchange.toServer = flying.map (handed manifest) := by
    rw [Exchange.toServer, h.channel]
    exact h.toServer
  cases flying with
  | nil =>
      refine ⟨recorded, [], ?_⟩
      rw [Exchange.deliverToServer, htoServer]
      exact h
  | cons ended flying =>
      have hmem : ended ∈ recorded ++ ended :: flying ++ waiting :=
        List.mem_append_left _ (List.mem_append_right _ List.mem_cons_self)
      have hencodable := h.downloads.report_encodable ended hmem
      obtain ⟨state, hl, hrecorded⟩ := h.record
      have hnew : ∀ e ∈ recorded, e.assetId ≠ ended.assetId := by
        have hnodup := h.downloads.nodup
        rw [List.append_assoc, List.map_append, List.nodup_append] at hnodup
        exact fun e he heq => hnodup.2.2 _ (List.mem_map_of_mem he) _ List.mem_cons_self heq
      obtain ⟨next, hhandled, hnext⟩ := AssetPublication.handleIncoming_report hl hrecorded
        (fun e he => h.downloads.mem_ids e (List.mem_append_left _ (List.mem_append_left _ he))) ended
        (h.downloads.mem_ids ended hmem) hnew
      have hexchange : exchange.deliverToServer playerId =
          { exchange with
            delivered := exchange.delivered + 1
            server := exchange.server.assign playerId next
            answers := exchange.answers ++ [some (recordedResult ended)] } := by
        simp only [Exchange.deliverToServer, htoServer, List.map_cons, handed, Bool.not_true, Bool.false_eq_true,
          ↓reduceIte, encodeFrame_packet hencodable, Option.bind_some, messageOf_frame hencodable, hhandled]
      have hlength : exchange.delivered < transport.sent.length := by
        have hdrop := congrArg List.length h.toServer
        rw [List.length_drop, List.map_cons, List.length_cons] at hdrop
        omega
      refine ⟨recorded ++ [ended], flying, ?_⟩
      rw [hexchange]
      refine { h with
        delivered := hlength
        downloads := ?_
        toServer := ?_
        record := ⟨next, Finmap.lookup_insert _, hnext⟩
        results := ?_
        pumped := ?_ }
      · rw [List.append_assoc recorded]
        exact h.downloads
      · rw [← List.drop_drop, h.toServer]
        rfl
      · rw [h.results, List.map_append]
        rfl
      · rw [List.append_assoc]
        exact h.pumped

end Balanced

/-! ## Runs -/

/-- Every end of an asset is in one of the three places. -/
def Good (manifest : Manifest) (playerId : UInt32) (exchange : Exchange) : Prop :=
  ∃ manager transport seen rest recorded flying waiting,
    Balanced manifest playerId exchange manager transport seen rest recorded flying waiting

theorem Good.step (hw : manifest.WellFormed) (exchange : Exchange) (event : Exchange.Event)
    (h : Good manifest playerId exchange) : Good manifest playerId (exchange.step playerId event) := by
  obtain ⟨manager, transport, seen, rest, recorded, flying, waiting, hb⟩ := h
  cases event with
  | deliverToClient =>
      obtain ⟨_, _, _, hnext⟩ := hb.deliverToClient hw
      exact ⟨_, _, _, _, _, _, _, hnext⟩
  | work around =>
      obtain ⟨_, hnext⟩ := hb.work around
      exact ⟨_, _, _, _, _, _, _, hnext⟩
  | pump =>
      obtain ⟨_, hnext⟩ := hb.pump
      exact ⟨_, _, _, _, _, _, _, hnext⟩
  | deliverToServer =>
      obtain ⟨_, _, hnext⟩ := hb.deliverToServer
      exact ⟨_, _, _, _, _, _, _, hnext⟩

theorem start_good {context : ProtocolContext} {handshake : ClientHandshake} {transport : ClientTransport}
    {manager : ClientAssetManager} {publication : AssetPublication} {registry : AssetRegistry}
    {serverTransport : ServerTransport} (hw : registry.buildManifest.WellFormed)
    (hh : context.handshake = some handshake) (hc : handshake.state = .compatible)
    (ht : context.transport = some transport) (ha : ProtocolContext.Answers transport)
    (hm : context.assets = some manager) (hnew : NewSession manager)
    (hs : (publication.onPlayerCompatible registry serverTransport playerId).1 = .sent) :
    Good registry.buildManifest playerId
      (.start context publication registry serverTransport playerId) := by
  obtain ⟨hpublication, hsent⟩ := AssetPublication.onPlayerCompatible_sent hw hs
  have hstream : registry.buildManifest.stream ≠ [] := by
    rw [ne_eq, ← List.length_eq_zero_iff, Manifest.stream_length]
    omega
  refine ⟨manager, transport, [], registry.buildManifest.stream, [], [], [], ?_⟩
  refine ⟨⟨handshake, hh, hc⟩, hm, ht, ha, ?_, rfl, ?_, hnew.receiver, ?_, ?_, ?_, ?_, rfl, rfl⟩
  · rw [Exchange.start, ht]
    exact le_rfl
  · rw [Exchange.start, hsent, List.drop_left, List.map_map]
    rfl
  · refine .awaiting _ hstream ⟨hnew.running, ?_, hnew.queue, hnew.states, hnew.hand⟩
    rw [hnew.receiver]
    rfl
  · rw [hnew.events]
    rfl
  · rw [Exchange.start, ht]
    exact List.drop_length
  · rw [Exchange.start, hpublication]
    exact ⟨_, Finmap.lookup_insert _, AssetPublication.sendingState_recorded _ hw.entries.ids⟩

/-! ## The end -/

/-- What is quiet has been recorded. -/
theorem Balanced.recorded_all {exchange : Exchange} {manager : ClientAssetManager}
    {transport : ClientTransport} {seen rest : List Message} {recorded flying waiting : List AssetEnd}
    (h : Balanced manifest playerId exchange manager transport seen rest recorded flying waiting)
    (hq : exchange.Quiet) :
    manager.Ledger manifest recorded ∧
      (manifest.assets.map AssetDescription.assetId).Perm (recorded.map AssetEnd.assetId) ∧
      ClientAssetManager.reports exchange.pumped = recorded.map (AssetEnd.report manifest.revision) := by
  obtain ⟨htoClient, htoServer, hmanager⟩ := hq
  obtain ⟨hworker, hqueue, hevents⟩ := hmanager manager h.assets
  have hrest : rest = [] := List.map_eq_nil_iff.mp (h.toClient.symm.trans htoClient)
  have hflying : flying = [] := by
    rw [Exchange.toServer, h.channel] at htoServer
    exact List.map_eq_nil_iff.mp (h.toServer.symm.trans htoServer)
  have hwaiting : waiting = [] := by
    have hreports := h.events
    rw [hevents] at hreports
    exact List.map_eq_nil_iff.mp hreports.symm
  have hdownloads := h.downloads
  have hpumped := h.pumped
  simp only [hrest, hflying, hwaiting, List.append_nil] at hdownloads hpumped
  cases hdownloads with
  | awaiting _ more => exact absurd rfl more
  | going _ session =>
      refine ⟨session, ?_, hpumped⟩
      have hassets := session.assets
      rwa [hworker, Worker.handIds_of_none rfl, hqueue, List.append_nil, List.map_nil, List.append_nil]
        at hassets

section Agreement

variable {manager : ClientAssetManager} {state : PlayerAssetState} {recorded : List AssetEnd}
  {pumped : List ClientAssetEvent}

theorem agrees (hl : manager.Ledger manifest recorded) (hr : state.Recorded manifest recorded)
    (hids : (manifest.assets.map AssetDescription.assetId).Perm (recorded.map AssetEnd.assetId))
    (hp : ClientAssetManager.reports pumped = recorded.map (AssetEnd.report manifest.revision)) :
    Agrees manifest.assets manager pumped state := by
  have hmem : ∀ {assetId : UInt32}, assetId ∈ manifest.assets.map AssetDescription.assetId →
      ∃ error, ⟨assetId, error⟩ ∈ recorded ∧
        manager.getState assetId = ClientAssetManager.endState error := by
    intro assetId ha
    obtain ⟨⟨_, error⟩, he, rfl⟩ := List.mem_map.mp (hids.mem_iff.mp ha)
    exact ⟨error, he, hl.states _ he⟩
  have hready : ∀ assetId, assetId ∈ state.readyAssets ↔
      assetId ∈ manifest.assets.map AssetDescription.assetId ∧ manager.getState assetId = .ready := by
    intro assetId
    rw [hr.ready]
    constructor
    · exact fun he => ⟨hl.mem_ids he, hl.states _ he⟩
    · intro ⟨ha, hs⟩
      obtain ⟨error, he, hstate⟩ := hmem ha
      rwa [ClientAssetManager.endState_eq_ready.mp (hstate.symm.trans hs)] at he
  refine ⟨fun asset ha => ?_, hready, fun assetId => ?_, fun assetId reason => ?_, ?_⟩
  · obtain ⟨error, -, hstate⟩ := hmem (List.mem_map_of_mem ha)
    rw [hstate, ClientAssetManager.endState_eq_ready, ClientAssetManager.endState_eq_failed]
    exact em _
  · rw [Finmap.mem_iff]
    constructor
    · intro ⟨reason, hlookup⟩
      have he := (hr.failed assetId reason).mp hlookup
      exact ⟨hl.mem_ids he, hl.states _ he⟩
    · intro ⟨ha, hs⟩
      obtain ⟨error, he, hstate⟩ := hmem ha
      obtain ⟨reason, rfl⟩ :=
        Option.ne_none_iff_exists'.mp (ClientAssetManager.endState_eq_failed.mp (hstate.symm.trans hs))
      exact ⟨reason, (hr.failed assetId reason).mpr he⟩
  · rw [hr.failed]
    constructor
    · intro he
      have hreport : AssetEnd.report manifest.revision ⟨assetId, some reason⟩ ∈
          ClientAssetManager.reports pumped := hp ▸ List.mem_map_of_mem he
      obtain ⟨event, hevent, heq⟩ := List.mem_filterMap.mp hreport
      obtain ⟨hkind, -, hid, herror⟩ := ClientAssetEvent.report_eq_assetError.mp heq
      exact ⟨event, hevent, hkind, hid, herror⟩
    · intro ⟨event, hevent, hkind, hid, herror⟩
      have hreport : Message.assetError ⟨event.manifestRevision, assetId, reason⟩ ∈
          ClientAssetManager.reports pumped :=
        List.mem_filterMap.mpr ⟨event, hevent,
          ClientAssetEvent.report_eq_assetError.mpr ⟨hkind, rfl, hid, herror⟩⟩
      rw [hp] at hreport
      obtain ⟨ended, he, heq⟩ := List.mem_map.mp hreport
      rwa [(AssetEnd.report_eq_assetError.mp heq).2] at he
  · rw [hr.session]
    have hsubset := hr.subset fun e he => hl.mem_ids he
    have hall : state.readyAssets.card = state.expectedAssets.card ↔
        ∀ asset ∈ manifest.assets, manager.getState asset.assetId = .ready := by
      constructor
      · intro hcard asset ha
        have hexpected : asset.assetId ∈ state.expectedAssets := by
          rw [hr.expected, List.mem_toFinset]
          exact List.mem_map_of_mem ha
        rw [← Finset.eq_of_subset_of_card_le hsubset hcard.ge] at hexpected
        exact ((hready _).mp hexpected).2
      · intro h
        refine congrArg Finset.card (hsubset.antisymm fun assetId hexpected => ?_)
        rw [hr.expected, List.mem_toFinset] at hexpected
        obtain ⟨asset, ha, rfl⟩ := List.mem_map.mp hexpected
        exact (hready _).mpr ⟨hexpected, h asset ha⟩
    rw [← hall]
    split <;> simp_all

end Agreement

end CustomModels.System
