import CustomModels.Server.Lemmas.Component
import CustomModels.Server.Lemmas.Revisions
import CustomModels.System.Publishing

/-!
# What a player is sent

Between two connects of a player the component publishes at most once: behind the first Welcome that is taken,
while the player has a session that waits for it. Whatever the publication comes to, no later Hello finds such a
session again.
-/

namespace CustomModels.System
open CustomModels.Shared CustomModels.Server CustomModels.Lib

/-! ## Frames -/

section Frames

variable {player : UInt32} {message : Message} {accepted : Bool}

theorem isManifestFrame_frame (h : message.Encodable) :
    isManifestFrame ⟨player, message.frame, accepted⟩ = isManifestMessage message := by
  rw [isManifestFrame, messageOf_frame h, Option.any_some]

theorem isWelcomeFrame_frame (h : message.Encodable) :
    isWelcomeFrame ⟨player, message.frame, accepted⟩ = true ↔ ∃ welcome, message = .welcome welcome := by
  rw [isWelcomeFrame, messageOf_frame h]
  cases message <;> simp

theorem manifestSends_of_other {sends : List Sent} (h : ∀ sent ∈ sends, sent.playerId ≠ player) :
    manifestSends player sends = [] :=
  List.filter_eq_nil_iff.mpr fun sent hs => by simp [h sent hs]

theorem manifestSends_append (player : UInt32) (xs ys : List Sent) :
    manifestSends player (xs ++ ys) = manifestSends player xs ++ manifestSends player ys :=
  List.filter_append ..

theorem manifestSends_map {messages : List Message} (he : ∀ m ∈ messages, m.Encodable)
    (hm : ∀ m ∈ messages, isManifestMessage m = true) :
    manifestSends player (messages.map fun m => ⟨player, m.frame, accepted⟩) =
      messages.map fun m => ⟨player, m.frame, accepted⟩ := by
  apply List.filter_eq_self.mpr
  intro sent hs
  obtain ⟨m, hmem, rfl⟩ := List.mem_map.mp hs
  simp [isManifestFrame_frame (he m hmem), hm m hmem]

end Frames

/-! ## What the transport is given -/

/-- Messages sent one by one: all are taken, or one is refused and the rest is not tried. -/
theorem sendAll_cases (player : UInt32) {messages : List Message} (he : ∀ m ∈ messages, m.Encodable)
    (transport : ServerTransport) :
    ((AssetPublication.sendAll player messages transport).1 = true ∧
        (AssetPublication.sendAll player messages transport).2.sent =
          transport.sent ++ messages.map fun m => ⟨player, m.frame, true⟩) ∨
      ((AssetPublication.sendAll player messages transport).1 = false ∧
        ∃ taken refused rest, messages = taken ++ refused :: rest ∧
          (AssetPublication.sendAll player messages transport).2.sent = transport.sent ++
            (taken.map (fun m => ⟨player, m.frame, true⟩) ++ [⟨player, refused.frame, false⟩])) := by
  induction messages generalizing transport with
  | nil => exact .inl ⟨rfl, by simp [AssetPublication.sendAll]⟩
  | cons message messages ih =>
      simp only [AssetPublication.sendAll, AssetPublication.send_of_encodable (he message List.mem_cons_self),
        ServerTransport.send]
      cases ha : transport.answer transport.sent.length with
      | false => exact .inr ⟨rfl, [], message, messages, rfl, rfl⟩
      | true =>
          rcases ih (fun m hm => he m (List.mem_cons_of_mem _ hm))
            { transport with sent := transport.sent ++ [⟨player, message.frame, true⟩] } with
            ⟨hall, hsent⟩ | ⟨hsome, taken, refused, rest, hsplit, hsent⟩
          · exact .inl ⟨hall, by rw [hsent]; simp⟩
          · refine .inr ⟨hsome, message :: taken, refused, rest, by rw [hsplit]; rfl, ?_⟩
            rw [hsent]
            simp

/-- `OnPlayerCompatible` for a session that waits: what it leaves depends on whether everything is sent. -/
theorem onPlayerCompatible_waiting {publication : AssetPublication} {player : UInt32} {state : PlayerAssetState}
    (hl : publication.players.lookup player = some state)
    (hp : state.state = .handshakePending ∨ state.state = .compatible) (registry : AssetRegistry)
    (transport : ServerTransport) :
    let manifest := registry.buildManifest
    let sent := AssetPublication.sendAll player manifest.stream transport
    (publication.onPlayerCompatible registry transport player).2 =
      (publication.assign player { AssetPublication.sendingState manifest with
        state := bif sent.1 then bif manifest.assets.isEmpty then .assetsReady else .manifestComplete
          else .rejected }, sent.2) := by
  intro manifest sent
  have hsettled : ¬ (state.state = .manifestComplete ∨ state.state = .assetsReady) := by
    rcases hp with hp | hp <;> simp [hp]
  have hwaits : ¬ (state.state ≠ .handshakePending ∧ state.state ≠ .compatible) := by
    rcases hp with hp | hp <;> simp [hp]
  simp only [AssetPublication.onPlayerCompatible, hl, if_neg hsettled, if_neg hwaits,
    AssetPublication.sendManifest_eq]
  rcases hs : AssetPublication.sendAll player manifest.stream transport with ⟨_ | _, after⟩
  · simp only [sent, manifest, hs, cond_false]
  · simp only [sent, manifest, hs, Bool.cond_eq_ite]
    rfl

/-- With a manifest that can be sent, either all of its stream is taken or one frame is refused. -/
theorem onPlayerCompatible_cases {publication : AssetPublication} {registry : AssetRegistry} {player : UInt32}
    {state : PlayerAssetState} (hm : registry.buildManifest.WellFormed)
    (hl : publication.players.lookup player = some state)
    (hp : state.state = .handshakePending ∨ state.state = .compatible) (transport : ServerTransport) :
    let outcome := publication.onPlayerCompatible registry transport player
    let stream := registry.buildManifest.stream
    (outcome.2.2.sent = transport.sent ++ stream.map (fun m => ⟨player, m.frame, true⟩) ∧
        ∃ next : PlayerAssetState, outcome.2.1 = publication.assign player next ∧
          (next.state = .manifestComplete ∨ next.state = .assetsReady)) ∨
      ∃ taken refused rest, stream = taken ++ refused :: rest ∧
        outcome.2.2.sent = transport.sent ++
          (taken.map (fun m => ⟨player, m.frame, true⟩) ++ [⟨player, refused.frame, false⟩]) ∧
        ∃ next : PlayerAssetState, outcome.2.1 = publication.assign player next ∧ next.state = .rejected := by
  intro outcome stream
  have houtcome := onPlayerCompatible_waiting hl hp registry transport
  have hassets := congrArg Prod.fst houtcome
  have hsent := congrArg (fun after => after.2.sent) houtcome
  rcases sendAll_cases player hm.stream_encodable transport with
    ⟨hall, hframes⟩ | ⟨hsome, taken, refused, rest, hsplit, hframes⟩
  · refine .inl ⟨hsent.trans hframes, _, hassets, ?_⟩
    rw [hall]
    cases registry.buildManifest.assets.isEmpty with
    | false => exact .inl rfl
    | true => exact .inr rfl
  · refine .inr ⟨taken, refused, rest, hsplit, hsent.trans hframes, _, hassets, ?_⟩
    rw [hsome]
    rfl

/-- Without a session that waits for it, a publication does nothing. -/
theorem onPlayerCompatible_of_not_waiting {publication : AssetPublication} {registry : AssetRegistry}
    {player : UInt32} (h : ∀ state, publication.players.lookup player = some state →
      ¬ (state.state = .handshakePending ∨ state.state = .compatible)) (transport : ServerTransport) :
    (publication.onPlayerCompatible registry transport player).2 = (publication, transport) := by
  unfold AssetPublication.onPlayerCompatible
  cases hl : publication.players.lookup player with
  | none => rfl
  | some state =>
      simp only
      split
      · rfl
      · rw [if_pos (not_or.mp (h state hl))]

theorem onPlayerCompatible_lookup_of_ne {publication : AssetPublication} {registry : AssetRegistry}
    {transport : ServerTransport} {player other : UInt32} (h : player ≠ other) :
    (publication.onPlayerCompatible registry transport other).2.1.players.lookup player =
      publication.players.lookup player := by
  by_cases hw : ∀ state, publication.players.lookup other = some state →
      ¬ (state.state = .handshakePending ∨ state.state = .compatible)
  · rw [onPlayerCompatible_of_not_waiting hw]
  · simp only [not_forall, not_not] at hw
    obtain ⟨state, hl, hp⟩ := hw
    rw [onPlayerCompatible_waiting hl hp]
    exact Finmap.lookup_insert_of_ne _ h

theorem onPlayerCompatible_lookup_none {publication : AssetPublication} {registry : AssetRegistry}
    {transport : ServerTransport} {player other : UInt32}
    (h : (publication.onPlayerCompatible registry transport player).2.1.players.lookup other = none) :
    publication.players.lookup other = none := by
  by_cases ho : other = player
  · subst ho
    by_cases hw : ∀ state, publication.players.lookup other = some state →
        ¬ (state.state = .handshakePending ∨ state.state = .compatible)
    · rwa [onPlayerCompatible_of_not_waiting hw] at h
    · simp only [not_forall, not_not] at hw
      obtain ⟨state, hl, hp⟩ := hw
      rw [onPlayerCompatible_waiting hl hp, AssetPublication.assign, Finmap.lookup_insert] at h
      cases h
  · rwa [onPlayerCompatible_lookup_of_ne ho] at h

theorem onPlayerCompatible_sends (publication : AssetPublication) (registry : AssetRegistry) (player : UInt32)
    (transport : ServerTransport) :
    ∃ handed, (publication.onPlayerCompatible registry transport player).2.2.sent = transport.sent ++ handed ∧
      ∀ s ∈ handed, s.playerId = player := by
  by_cases hw : ∀ state, publication.players.lookup player = some state →
      ¬ (state.state = .handshakePending ∨ state.state = .compatible)
  · rw [onPlayerCompatible_of_not_waiting hw]
    exact ⟨[], by simp, by simp⟩
  · simp only [not_forall, not_not] at hw
    obtain ⟨state, hl, hp⟩ := hw
    rw [onPlayerCompatible_waiting hl hp]
    exact AssetPublication.sendAll_handed player registry.buildManifest.stream transport

/-! ## What a received stream does -/

/-- The three effects of a stream from a player: at most a report is recorded; or the handshake is answered;
or it is answered with a Welcome that is taken, and the publication hears of it. -/
inductive Received (component : CustomModelComponent) (player : UInt32) (after : CustomModelComponent) :
    Prop where
  | quiet (registry : after.registry = component.registry) (tracker : after.tracker = component.tracker)
      (transport : after.transport = component.transport)
      (assets : after.assets = component.assets ∨
        ∃ message, after.assets = (component.assets.handleIncoming player message).2)
  | answered (call : PlayerCapabilityTracker.Call) (sends : List Sent)
      (registry : after.registry = component.registry) (tracker : after.tracker = component.tracker.call call)
      (begins : ∀ other, ¬ call.Begins other) (concerns : ∀ other, call.Concerns other → other = player)
      (sent : after.transport.sent = component.transport.sent ++ sends)
      (mine : ∀ s ∈ sends, s.playerId = player ∧ isManifestFrame s = false ∧
        (isWelcomeFrame s = true → s.accepted = false))
      (assets : after.assets = component.assets)
  | welcomed (hello : Hello) (welcome : Sent) (transport : ServerTransport)
      (registry : after.registry = component.registry)
      (response : ∃ value, (component.tracker.handleHello player hello).1 = .welcome value)
      (tracker : after.tracker = (component.tracker.handleHello player hello).2)
      (mine : welcome.playerId = player ∧ isManifestFrame welcome = false ∧ isWelcomeFrame welcome = true ∧
        welcome.accepted = true)
      (sent : transport.sent = component.transport.sent ++ [welcome])
      (outcome : (after.assets, after.transport) =
        (component.assets.onPlayerCompatible component.registry transport player).2)

section Received

variable {component : CustomModelComponent} {player : UInt32} {endpoint : HandshakeEndpoint}

/-- A response is at most one frame, and the endpoint reports a Welcome exactly if it is taken. -/
theorem sendResponse_cases (endpoint : HandshakeEndpoint) (player : UInt32) (response : HandshakeResponse) :
    ((endpoint.sendResponse player response).1 ≠ .welcomeSent ∧ ∃ sends : List Sent,
        (endpoint.sendResponse player response).2.transport.sent = endpoint.transport.sent ++ sends ∧
        ∀ s ∈ sends, s.playerId = player ∧ isManifestFrame s = false ∧
          (isWelcomeFrame s = true → s.accepted = false)) ∨
      ((endpoint.sendResponse player response).1 = .welcomeSent ∧ ∃ welcome : Sent,
        (endpoint.sendResponse player response).2.transport.sent = endpoint.transport.sent ++ [welcome] ∧
        welcome.playerId = player ∧ isManifestFrame welcome = false ∧ isWelcomeFrame welcome = true ∧
        welcome.accepted = true) := by
  by_cases he : response.message.Encodable
  · have hmanifest : ∀ accepted, isManifestFrame ⟨player, response.message.frame, accepted⟩ = false := by
      intro accepted
      rw [isManifestFrame_frame he]
      cases response <;> rfl
    have hwelcome := fun accepted => @isWelcomeFrame_frame player _ accepted he
    simp only [HandshakeEndpoint.sendResponse, encodePacket_of_encodable he, encodeFrame_packet he,
      ServerTransport.send]
    rcases Bool.eq_false_or_eq_true (endpoint.transport.answer endpoint.transport.sent.length) with ha | ha
    · simp only [ha]
      cases response with
      | welcome value => exact .inr ⟨rfl, _, rfl, rfl, hmanifest true, (hwelcome true).mpr ⟨value, rfl⟩, rfl⟩
      | reject value =>
          refine .inl ⟨by simp, _, rfl, fun s hs => ?_⟩
          rw [List.mem_singleton.mp hs]
          refine ⟨rfl, hmanifest true, fun hw => ?_⟩
          obtain ⟨_, hmessage⟩ := (hwelcome true).mp hw
          cases hmessage
    · simp only [ha]
      refine .inl ⟨by simp, _, rfl, fun s hs => ?_⟩
      rw [List.mem_singleton.mp hs]
      exact ⟨rfl, hmanifest false, fun _ => rfl⟩
  · simp only [HandshakeEndpoint.sendResponse, encodePacket_of_not_encodable he]
    exact .inl ⟨by simp, [], by simp, by simp⟩

theorem dispatchMalformed_received (component : CustomModelComponent) (player : UInt32) :
    Received component player (component.dispatchMalformed player) := by
  have hresponse := sendResponse_cases
    { component.endpoint with tracker := (component.tracker.rejectPlayer player .malformedHandshake).2 } player
    (component.tracker.rejectPlayer player .malformedHandshake).1
  rcases hresponse with ⟨-, sends, hsent, hmine⟩ | ⟨hw, -⟩
  · exact .answered (.rejectPlayer player .malformedHandshake) sends rfl
      (HandshakeEndpoint.rejectMalformed_tracker _ _) (fun _ => id) (fun _ h => Eq.symm h) hsent hmine rfl
  · obtain ⟨value, hvalue⟩ := HandshakeEndpoint.welcome_of_sendResponse hw
    cases hvalue

theorem receiveProtocol_received (component : CustomModelComponent) (player : UInt32) (bytes : List UInt8) :
    Received component player (component.receiveProtocol player bytes) := by
  obtain hdrop | ⟨ha, version, message, hd, hm⟩ | ⟨ha, version, hello, hd⟩ :=
    CustomModelComponent.packet_cases component bytes
  · obtain ⟨_, _, heq⟩ := CustomModelComponent.receiveProtocol_dropped hdrop player
    rw [heq]
    exact .quiet rfl rfl rfl (.inl rfl)
  · obtain ⟨_, _, heq⟩ := CustomModelComponent.receiveProtocol_report ha hd hm player
    rw [heq]
    exact .quiet rfl rfl rfl (.inr ⟨message, rfl⟩)
  · have hresponse := sendResponse_cases ⟨(component.tracker.handleHello player hello).2, component.transport⟩
      player (component.tracker.handleHello player hello).1
    have htracker := HandshakeEndpoint.sendResponse_tracker
      ⟨(component.tracker.handleHello player hello).2, component.transport⟩ player
      (component.tracker.handleHello player hello).1
    rw [CustomModelComponent.receiveProtocol_hello ha hd]
    rcases hresponse with ⟨hnot, sends, hsent, hmine⟩ | ⟨hw, welcome, hsent, hmine⟩
    · rw [if_neg hnot]
      exact .answered (.handleHello player hello) sends rfl htracker (fun _ => id) (fun _ h => Eq.symm h)
        hsent hmine rfl
    · rw [if_pos hw]
      exact .welcomed hello welcome _ rfl (HandshakeEndpoint.welcome_of_sendResponse hw) htracker hmine hsent rfl

theorem onReceive_received (component : CustomModelComponent) {playerId : Int} (h : 0 ≤ playerId)
    (stream : NetworkBitStream) :
    Received component (UInt32.ofNat playerId.toNat) (component.onReceive playerId stream).2 := by
  rw [CustomModelComponent.onReceive_eq component h]
  cases stream.incoming with
  | unclaimed => exact .quiet rfl rfl rfl (.inl rfl)
  | malformed => exact dispatchMalformed_received component _
  | packet bytes => exact receiveProtocol_received component _ bytes

/-- Whatever is received from a player, the frames that are handed over for it are the player's. -/
theorem Received.handed (h : Received component player after) :
    ∃ handed, after.transport.sent = component.transport.sent ++ handed ∧ ∀ s ∈ handed, s.playerId = player := by
  cases h with
  | quiet registry tracker transport assets => exact ⟨[], by rw [transport, List.append_nil], nofun⟩
  | answered call sends registry tracker begins concerns sent mine assets =>
      exact ⟨sends, sent, fun s hs => (mine s hs).1⟩
  | welcomed hello welcome transport registry response tracker mine sent outcome =>
      obtain ⟨handed, hsent, hplayer⟩ :=
        onPlayerCompatible_sends component.assets component.registry player transport
      rw [← congrArg Prod.snd outcome, sent, List.append_assoc] at hsent
      refine ⟨_, hsent, fun s hs => ?_⟩
      rcases List.mem_append.mp hs with hs | hs
      · rw [List.mem_singleton.mp hs, mine.1]
      · exact hplayer s hs

theorem Received.elsewhere {other : UInt32} (h : Received component player after) :
    after.tracker.policy = component.tracker.policy ∧ (other ≠ player →
      after.tracker.players.lookup other = component.tracker.players.lookup other ∧
        after.assets.players.lookup other = component.assets.players.lookup other) := by
  cases h with
  | quiet registry tracker transport assets =>
      refine ⟨by rw [tracker], fun ho => ⟨by rw [tracker], ?_⟩⟩
      rcases assets with he | ⟨message, he⟩
      · rw [he]
      · rw [he]
        obtain he | ⟨-, state, he⟩ := AssetPublication.handleIncoming_assigns component.assets player message
        · rw [he]
        · rw [he]
          exact Finmap.lookup_insert_of_ne _ ho
  | answered call sends registry tracker begins concerns sent mine assets =>
      refine ⟨by rw [tracker, PlayerCapabilityTracker.call_policy], fun ho => ⟨?_, by rw [assets]⟩⟩
      rw [tracker]
      exact PlayerCapabilityTracker.call_lookup_of_not_concerns fun hc => ho (concerns other hc)
  | welcomed hello welcome transport registry response tracker mine sent outcome =>
      refine ⟨?_, fun ho => ⟨?_, ?_⟩⟩
      · rw [tracker]
        exact PlayerCapabilityTracker.call_policy component.tracker (.handleHello player hello)
      · rw [tracker, PlayerCapabilityTracker.handleHello_lookup_of_ne ho]
      · have hassets : after.assets = _ := congrArg Prod.fst outcome
        rw [hassets]
        exact onPlayerCompatible_lookup_of_ne ho

end Received

/-! ## What an activity does -/

/-- The effects of an activity; a player with a negative id is ignored. -/
inductive Acted (component : CustomModelComponent) : Activity → CustomModelComponent → Prop where
  | ignored (activity : Activity) : Acted component activity component
  | operated (operation : AssetRegistry.Operation) :
      Acted component (.operate operation) { component with registry := component.registry.operate operation }
  | connected (playerId : Int) (h : 0 ≤ playerId) :
      Acted component (.event (.playerConnect playerId))
        { component.withEndpoint (component.endpoint.onPlayerConnected (UInt32.ofNat playerId.toNat)) with
          assets := component.assets.onPlayerConnected (UInt32.ofNat playerId.toNat) }
  | disconnected (playerId : Int) (h : 0 ≤ playerId) :
      Acted component (.event (.playerDisconnect playerId))
        { component.withEndpoint (component.endpoint.onPlayerDisconnected (UInt32.ofNat playerId.toNat)) with
          assets := component.assets.onPlayerDisconnected (UInt32.ofNat playerId.toNat) }
  | reset : Acted component (.event .reset) component.reset
  | received (playerId : Int) (h : 0 ≤ playerId) (stream : NetworkBitStream) (after : CustomModelComponent)
      (hr : Received component (UInt32.ofNat playerId.toNat) after) :
      Acted component (.event (.receive playerId stream)) after

theorem act_acted (component : CustomModelComponent) (activity : Activity) :
    Acted component activity (act component activity) := by
  cases activity with
  | operate operation => exact .operated operation
  | event event =>
      cases event with
      | playerConnect playerId =>
          by_cases hid : 0 ≤ playerId
          · simp only [act, CustomModelComponent.step, CustomModelComponent.onPlayerConnect, if_pos hid]
            exact .connected playerId hid
          · simp only [act, CustomModelComponent.step, CustomModelComponent.onPlayerConnect, if_neg hid]
            exact .ignored _
      | playerDisconnect playerId =>
          by_cases hid : 0 ≤ playerId
          · simp only [act, CustomModelComponent.step, CustomModelComponent.onPlayerDisconnect, if_pos hid]
            exact .disconnected playerId hid
          · simp only [act, CustomModelComponent.step, CustomModelComponent.onPlayerDisconnect, if_neg hid]
            exact .ignored _
      | reset => exact .reset
      | receive playerId stream =>
          by_cases hid : 0 ≤ playerId
          · exact .received playerId hid stream _ (onReceive_received component hid stream)
          · simp only [act, CustomModelComponent.step, CustomModelComponent.onReceive, if_pos (Int.not_le.mp hid)]
            exact .ignored _

theorem act_sent_mono (component : CustomModelComponent) (activity : Activity) :
    component.transport.sent <+: (act component activity).transport.sent := by
  have hacted := act_acted component activity
  generalize act component activity = after at hacted ⊢
  cases hacted with
  | received _ _ _ _ hr =>
      obtain ⟨handed, hsent, -⟩ := hr.handed
      exact ⟨handed, hsent.symm⟩
  | _ => exact List.prefix_refl _

theorem run_sent_mono (component : CustomModelComponent) (activities : List Activity) :
    component.transport.sent <+: (run act component activities).transport.sent := by
  induction activities generalizing component with
  | nil => exact List.prefix_refl _
  | cons activity activities ih => exact (act_sent_mono component activity).trans (ih _)

/-! ## What every run keeps -/

/-- A player without an asset session has no handshake that could succeed. -/
structure Watched (component : CustomModelComponent) : Prop where
  sessions : PlayerCapabilityTracker.Sessions makePolicy component.tracker
  registry : component.registry.Kept
  closed : ∀ player, component.assets.players.lookup player = none →
    (component.tracker.getState player).state ≠ .compatible ∧
      (component.tracker.getState player).state ≠ .handshakePending

section Watched

variable {component after : CustomModelComponent} {player other : UInt32}

theorem not_accepted_of_lookup_none {tracker : PlayerCapabilityTracker} (h : tracker.players.lookup player = none) :
    (tracker.getState player).state ≠ .compatible ∧ (tracker.getState player).state ≠ .handshakePending := by
  rw [PlayerCapabilityTracker.getState_of_lookup_none h]
  constructor <;> simp [PlayerCapabilityState.ofState]

theorem loaded_watched {registry : AssetRegistry} (h : registry.Kept) (available : Bool) (answer : Nat → Bool) :
    Watched (.loaded registry available answer) where
  sessions := PlayerCapabilityTracker.make_sessions _
  registry := h
  closed := fun player _ => not_accepted_of_lookup_none (Finmap.lookup_empty player)

theorem handleIncoming_lookup_none {publication : AssetPublication} {message : Message}
    (h : (publication.handleIncoming player message).2.players.lookup other = none) :
    publication.players.lookup other = none := by
  obtain he | ⟨-, state, he⟩ := AssetPublication.handleIncoming_assigns publication player message
  · rwa [he] at h
  · rw [he] at h
    by_cases ho : other = player
    · subst ho
      rw [AssetPublication.assign, Finmap.lookup_insert] at h
      cases h
    · rwa [AssetPublication.assign, Finmap.lookup_insert_of_ne _ ho] at h

/-- The players whose session a stream ends with are those who had one. -/
theorem Received.lookup_none (h : Received component player after)
    (hn : after.assets.players.lookup other = none) : component.assets.players.lookup other = none := by
  cases h with
  | quiet registry tracker transport assets =>
      rcases assets with he | ⟨message, he⟩
      · rwa [he] at hn
      · rw [he] at hn
        exact handleIncoming_lookup_none hn
  | answered call sends registry tracker begins concerns sent mine assets => rwa [assets] at hn
  | welcomed hello welcome transport registry response tracker mine sent outcome =>
      have hassets := congrArg Prod.fst outcome
      simp only at hassets
      rw [hassets] at hn
      exact onPlayerCompatible_lookup_none hn

theorem Received.watched (h : Received component player after) (hw : Watched component) : Watched after := by
  have hlookup := fun other => @Received.lookup_none _ _ _ other h
  cases h with
  | quiet registry tracker transport assets =>
      refine ⟨by rw [tracker]; exact hw.sessions, by rw [registry]; exact hw.registry, fun other hn => ?_⟩
      rw [tracker]
      exact hw.closed other (hlookup other hn)
  | answered call sends registry tracker begins concerns sent mine assets =>
      refine ⟨by rw [tracker]; exact hw.sessions.call call, by rw [registry]; exact hw.registry,
        fun other hn => ?_⟩
      rw [tracker]
      exact PlayerCapabilityTracker.call_not_accepted hw.sessions (hw.closed other (hlookup other hn))
        (begins other)
  | welcomed hello welcome transport registry response tracker mine sent outcome =>
      refine ⟨by rw [tracker]; exact hw.sessions.handleHello player hello, by rw [registry]; exact hw.registry,
        fun other hn => ?_⟩
      rw [tracker]
      exact PlayerCapabilityTracker.call_not_accepted (c := .handleHello player hello) hw.sessions
        (hw.closed other (hlookup other hn)) id

theorem Acted.watched {activity : Activity} (h : Acted component activity after) (hw : Watched component) :
    Watched after := by
  cases h with
  | ignored => exact hw
  | operated operation => exact ⟨hw.sessions, hw.registry.operated operation, hw.closed⟩
  | connected playerId =>
      refine ⟨hw.sessions.call (.beginHandshake _), hw.registry, fun other hn => ?_⟩
      have hne : other ≠ UInt32.ofNat playerId.toNat := by
        rintro rfl
        rw [AssetPublication.onPlayerConnected, AssetPublication.assign, Finmap.lookup_insert] at hn
        cases hn
      rw [AssetPublication.onPlayerConnected, AssetPublication.assign, Finmap.lookup_insert_of_ne _ hne] at hn
      exact PlayerCapabilityTracker.call_not_accepted (c := .beginHandshake (UInt32.ofNat playerId.toNat))
        hw.sessions (hw.closed other hn) (Ne.symm hne)
  | disconnected playerId =>
      refine ⟨hw.sessions.call (.removePlayer _), hw.registry, fun other hn => ?_⟩
      by_cases ho : other = UInt32.ofNat playerId.toNat
      · subst ho
        exact not_accepted_of_lookup_none (Finmap.lookup_erase _ _)
      · rw [AssetPublication.onPlayerDisconnected, Finmap.lookup_erase_ne ho] at hn
        exact PlayerCapabilityTracker.call_not_accepted (c := .removePlayer (UInt32.ofNat playerId.toNat))
          hw.sessions (hw.closed other hn) id
  | reset =>
      refine ⟨hw.sessions.call .reset, hw.registry, fun other _ => ?_⟩
      exact not_accepted_of_lookup_none (Finmap.lookup_empty _)
  | received _ _ _ _ hr => exact hr.watched hw

theorem Watched.act (h : Watched component) (activity : Activity) : Watched (act component activity) :=
  (act_acted component activity).watched h

end Watched

/-! ## The stream of a connection -/

/-- Where the stream of a connection stands behind these sends, and what the session of the player can be. -/
inductive Stage (player : UInt32) (manifests : Manifest → Prop) (component : CustomModelComponent)
    (sends : List Sent) : Prop where
  | unpublished (handed : manifestSends player sends = []) (unwelcomed : ¬ Welcomed player sends)
      (session : ∀ state, component.assets.players.lookup player = some state →
        state.state = .handshakePending)
  | published (manifest : Manifest) (snapshot : manifests manifest) (greeted : Greeted player sends)
      (handed : manifestSends player sends = manifest.stream.map fun m => ⟨player, m.frame, true⟩)
      (session : ∀ state, component.assets.players.lookup player = some state →
        state.state = .manifestComplete ∨ state.state = .assetsReady)
  | failed (manifest : Manifest) (snapshot : manifests manifest) (greeted : Greeted player sends)
      (taken : List Message) (refused : Message) (rest : List Message)
      (stream : manifest.stream = taken ++ refused :: rest)
      (handed : manifestSends player sends =
        taken.map (fun m => ⟨player, m.frame, true⟩) ++ [⟨player, refused.frame, false⟩])
      (session : ∀ state, component.assets.players.lookup player = some state → state.state = .rejected)

section Stage

variable {component after : CustomModelComponent} {player other : UInt32} {manifests : Manifest → Prop}
  {sends new : List Sent}

theorem Greeted.append (h : Greeted player sends) (new : List Sent) : Greeted player (sends ++ new) := by
  obtain ⟨front, welcome, back, rfl, hfront, hwelcome⟩ := h
  exact ⟨front, welcome, back ++ new, by simp, hfront, hwelcome⟩

theorem not_welcomed_append (h : ¬ Welcomed player sends) (hn : ¬ Welcomed player new) :
    ¬ Welcomed player (sends ++ new) := by
  intro ⟨sent, hs, hsent⟩
  rcases List.mem_append.mp hs with hs | hs
  · exact h ⟨sent, hs, hsent⟩
  · exact hn ⟨sent, hs, hsent⟩

/-- The session goes on as it was, or as one that has the manifest. -/
def Continues (state next : PlayerAssetState) : Prop :=
  next.state = state.state ∨
    (state.state = .manifestComplete ∨ state.state = .assetsReady) ∧
      (next.state = .manifestComplete ∨ next.state = .assetsReady)

/-- Nothing of a manifest is sent, and the session goes on or is over. -/
theorem Stage.extend (h : Stage player manifests component sends) (hnew : manifestSends player new = [])
    (hwelcome : Welcomed player new → manifestSends player sends ≠ [])
    (hsession : ∀ next, after.assets.players.lookup player = some next →
      ∃ state, component.assets.players.lookup player = some state ∧ Continues state next) :
    Stage player manifests after (sends ++ new) := by
  have hhanded : manifestSends player (sends ++ new) = manifestSends player sends := by
    rw [manifestSends_append, hnew, List.append_nil]
  cases h with
  | unpublished handed unwelcomed session =>
      refine .unpublished (hhanded.trans handed)
        (not_welcomed_append unwelcomed fun hw => hwelcome hw handed) fun next hn => ?_
      obtain ⟨state, hl, hc | ⟨hc, -⟩⟩ := hsession next hn
      · exact hc.trans (session state hl)
      · rw [session state hl] at hc
        rcases hc with hc | hc <;> cases hc
  | published manifest snapshot greeted handed session =>
      refine .published manifest snapshot (greeted.append new) (hhanded.trans handed) fun next hn => ?_
      obtain ⟨state, hl, hc | ⟨-, hc⟩⟩ := hsession next hn
      · rw [hc]
        exact session state hl
      · exact hc
  | failed manifest snapshot greeted taken refused rest stream handed session =>
      refine .failed manifest snapshot (greeted.append new) taken refused rest stream (hhanded.trans handed)
        fun next hn => ?_
      obtain ⟨state, hl, hc | ⟨hc, -⟩⟩ := hsession next hn
      · exact hc.trans (session state hl)
      · rw [session state hl] at hc
        rcases hc with hc | hc <;> cases hc

/-- What concerns the player's sessions only if they go on. -/
theorem continues_of_lookup_eq (h : after.assets.players.lookup player = component.assets.players.lookup player) :
    ∀ next, after.assets.players.lookup player = some next →
      ∃ state, component.assets.players.lookup player = some state ∧ Continues state next :=
  fun next hn => ⟨next, h ▸ hn, .inl rfl⟩

/-! ### Sessions -/

/-- A report leaves a session with the manifest one with the manifest, and every other as it is. -/
theorem handleIncoming_continues {publication : AssetPublication} {message : Message} {next : PlayerAssetState}
    (h : (publication.handleIncoming other message).2.players.lookup player = some next) :
    ∃ state, publication.players.lookup player = some state ∧ Continues state next := by
  have hsame : publication.players.lookup player = some next →
      ∃ state, publication.players.lookup player = some state ∧ Continues state next :=
    fun hl => ⟨next, hl, .inl rfl⟩
  simp only [AssetPublication.handleIncoming] at h
  split at h
  · exact hsame h
  · rename_i found hfound
    split at h
    · exact hsame h
    · rename_i hpublished
      have hp : found.state = .manifestComplete ∨ found.state = .assetsReady := by
        by_contra hc
        exact hpublished (not_or.mp hc)
      -- either report stores a record that has the manifest
      have hstored : ∀ stored : PlayerAssetState,
          (stored.state = .manifestComplete ∨ stored.state = .assetsReady) →
          (publication.assign other stored).players.lookup player = some next →
          ∃ state, publication.players.lookup player = some state ∧ Continues state next := by
        intro stored hs hl
        by_cases ho : player = other
        · subst ho
          rw [AssetPublication.assign, Finmap.lookup_insert] at hl
          cases hl
          exact ⟨found, hfound, .inr ⟨hp, hs⟩⟩
        · rw [AssetPublication.assign, Finmap.lookup_insert_of_ne _ ho] at hl
          exact hsame hl
      split at h
      · refine hstored _ ?_ h
        simp only [AssetPublication.handleAssetReady]
        split
        · exact hp
        · simp only
          split
          · exact .inr rfl
          · exact hp
      · refine hstored _ ?_ h
        simp only [AssetPublication.handleAssetError]
        split
        · exact hp
        · exact .inl rfl
      · exact hsame h

/-! ### Steps -/

/-- The first Welcome that is taken starts the stream. -/
theorem Stage.publish (hsends : manifestSends player sends = []) {welcome : Sent}
    (hmine : welcome.playerId = player ∧ isManifestFrame welcome = false ∧ isWelcomeFrame welcome = true ∧
      welcome.accepted = true)
    {registry : AssetRegistry} (hm : registry.buildManifest.WellFormed)
    (hsnapshot : manifests registry.buildManifest) {publication : AssetPublication} {state : PlayerAssetState}
    (hl : publication.players.lookup player = some state) (hp : state.state = .handshakePending)
    {transport : ServerTransport}
    (ha : (after.assets, after.transport) = (publication.onPlayerCompatible registry transport player).2) :
    ∃ handed, after.transport.sent = transport.sent ++ handed ∧
      Stage player manifests after (sends ++ ([welcome] ++ handed)) := by
  have hwelcome : manifestSends player [welcome] = [] := by simp [manifestSends, hmine.2.1]
  have hgreeted : ∀ handed, Greeted player (sends ++ ([welcome] ++ handed)) := fun handed =>
    ⟨sends, welcome, handed, rfl, hsends, hmine.1, hmine.2.2.1, hmine.2.2.2⟩
  have hall : ∀ handed, manifestSends player handed = handed →
      manifestSends player (sends ++ ([welcome] ++ handed)) = handed := fun handed hh => by
    rw [manifestSends_append, manifestSends_append, hsends, hwelcome, List.nil_append, List.nil_append, hh]
  have hassets := congrArg Prod.fst ha
  have htransport := congrArg Prod.snd ha
  simp only at hassets htransport
  have hstored : ∀ next : PlayerAssetState, after.assets = publication.assign player next →
      ∀ found, after.assets.players.lookup player = some found → found = next := by
    intro next he found hf
    rw [he, AssetPublication.assign, Finmap.lookup_insert] at hf
    exact (Option.some.inj hf).symm
  rcases onPlayerCompatible_cases hm hl (.inl hp) transport with
    ⟨hsent, next, hnext, hstate⟩ | ⟨taken, refused, rest, hstream, hsent, next, hnext, hstate⟩
  · rw [← htransport] at hsent
    refine ⟨_, hsent, .published registry.buildManifest hsnapshot (hgreeted _) (hall _ ?_) fun found hf => ?_⟩
    · exact manifestSends_map hm.stream_encodable (Manifest.stream_isManifestMessage _)
    · rw [hstored next (hassets.trans hnext) found hf]
      exact hstate
  · rw [← htransport] at hsent
    refine ⟨_, hsent, .failed registry.buildManifest hsnapshot (hgreeted _) taken refused rest hstream
      (hall _ ?_) fun found hf => ?_⟩
    · have hmem : ∀ m ∈ taken ++ [refused], m ∈ registry.buildManifest.stream := by
        intro m hm
        rw [hstream]
        rcases List.mem_append.mp hm with hm | hm
        · exact List.mem_append_left _ hm
        · rw [List.mem_singleton.mp hm]
          exact List.mem_append_right _ List.mem_cons_self
      have hencodable := fun m h => hm.stream_encodable m (hmem m h)
      have hmanifest := fun m h => Manifest.stream_isManifestMessage registry.buildManifest m (hmem m h)
      rw [manifestSends_append]
      apply congrArg₂ (· ++ ·)
      · exact manifestSends_map (fun m h => hencodable m (List.mem_append_left _ h))
          fun m h => hmanifest m (List.mem_append_left _ h)
      · have hrefused : refused ∈ taken ++ [refused] := List.mem_append_right _ (List.mem_singleton_self _)
        simp [manifestSends, isManifestFrame_frame (hencodable _ hrefused), hmanifest _ hrefused]
    · rw [hstored next (hassets.trans hnext) found hf]
      exact hstate

/-- A stream from another player leaves the connection where it is. -/
theorem Stage.elsewhere (h : Stage player manifests component sends) (hr : Received component other after)
    (ho : player ≠ other) :
    ∃ new, after.transport.sent = component.transport.sent ++ new ∧
      Stage player manifests after (sends ++ new) := by
  obtain ⟨handed, hsent, hothers⟩ := hr.handed
  obtain ⟨-, hsession⟩ := hr.elsewhere.2 ho
  have hall : ∀ s ∈ handed, s.playerId ≠ player := by
    intro s hs
    rw [hothers s hs]
    exact ho.symm
  refine ⟨handed, hsent, h.extend (manifestSends_of_other hall) (fun hw => ?_) (continues_of_lookup_eq hsession)⟩
  obtain ⟨s, hs, hplayer, -⟩ := hw
  exact absurd hplayer (hall s hs)

/-- A stream from the player brings the connection to its next stage. -/
theorem Stage.received (h : Stage player manifests component sends) (hw : Watched component)
    (hsnapshot : manifests component.registry.buildManifest) (hr : Received component player after) :
    ∃ new, after.transport.sent = component.transport.sent ++ new ∧
      Stage player manifests after (sends ++ new) := by
  cases hr with
  | quiet registry tracker transport assets =>
      refine ⟨[], by rw [transport, List.append_nil], h.extend rfl (fun hw => ?_) ?_⟩
      · obtain ⟨_, hmem, -⟩ := hw
        cases hmem
      · rcases assets with he | ⟨message, he⟩
        · exact continues_of_lookup_eq (by rw [he])
        · rw [he]
          exact fun next hn => handleIncoming_continues hn
  | answered call new registry tracker begins concerns sent mine assets =>
      refine ⟨new, sent, h.extend ?_ (fun hw => ?_) (continues_of_lookup_eq (by rw [assets]))⟩
      · exact List.filter_eq_nil_iff.mpr fun s hs => by simp [(mine s hs).2.1]
      · obtain ⟨s, hs, -, hwelcome, haccepted⟩ := hw
        rw [(mine s hs).2.2 hwelcome] at haccepted
        cases haccepted
  | welcomed hello welcome transport registry response tracker mine sent outcome =>
      -- a session that does not wait is left alone, and so is the transport
      have hstill : manifestSends player sends ≠ [] →
          (∀ state, component.assets.players.lookup player = some state →
            ¬ (state.state = .handshakePending ∨ state.state = .compatible)) →
          ∃ new, after.transport.sent = component.transport.sent ++ new ∧
            Stage player manifests after (sends ++ new) := by
        intro hne hnot
        have hsame := @onPlayerCompatible_of_not_waiting _ component.registry _ hnot transport
        rw [hsame] at outcome
        obtain ⟨hassets, htransport⟩ := Prod.mk.inj outcome
        refine ⟨[welcome], by rw [htransport, sent], h.extend ?_ (fun _ => hne)
          (continues_of_lookup_eq (by rw [hassets]))⟩
        simp [manifestSends, mine.2.1]
      cases h with
      | unpublished handed unwelcomed session =>
          cases hl : component.assets.players.lookup player with
          | none =>
              obtain ⟨value, hvalue⟩ := response
              have hclosed := PlayerCapabilityTracker.call_not_accepted (c := .handleHello player hello)
                hw.sessions (hw.closed player hl) id
              exact absurd (PlayerCapabilityTracker.compatible_of_welcome hw.sessions.1 hvalue) hclosed.1
          | some state =>
              obtain ⟨handed', hsent', hstage⟩ := Stage.publish handed mine hw.registry.sound.buildManifest hsnapshot
                hl (session state hl) outcome
              exact ⟨[welcome] ++ handed', by rw [hsent', sent, List.append_assoc], hstage⟩
      | published manifest snapshot greeted handed session =>
          refine hstill ?_ fun state hl hc => ?_
          · rw [handed]
            simp [Manifest.stream]
          · rcases session state hl with hs | hs <;> rw [hs] at hc <;> rcases hc with hc | hc <;> cases hc
      | failed manifest snapshot greeted taken refused rest stream handed session =>
          refine hstill ?_ fun state hl hc => ?_
          · rw [handed]
            exact List.append_ne_nil_of_right_ne_nil _ (List.cons_ne_nil _ _)
          · rw [session state hl] at hc
            rcases hc with hc | hc <;> cases hc

theorem Stage.act (h : Stage player manifests component sends) (hw : Watched component)
    (hsnapshot : manifests component.registry.buildManifest) {activity : Activity}
    (hc : ¬ activity.Connects player) :
    ∃ new, (act component activity).transport.sent = component.transport.sent ++ new ∧
      Stage player manifests (act component activity) (sends ++ new) := by
  -- all but a received stream leave the transport alone
  have hsilent : ∀ next : CustomModelComponent, next.transport.sent = component.transport.sent →
      (∀ found, next.assets.players.lookup player = some found →
        component.assets.players.lookup player = some found) →
      ∃ new, next.transport.sent = component.transport.sent ++ new ∧
        Stage player manifests next (sends ++ new) := by
    intro next hsent hsession
    refine ⟨[], by rw [hsent, List.append_nil], h.extend rfl (fun hw => ?_) fun found hf => ?_⟩
    · obtain ⟨_, hmem, -⟩ := hw
      cases hmem
    · exact ⟨found, hsession found hf, .inl rfl⟩
  have hacted := act_acted component activity
  generalize System.act component activity = after at hacted ⊢
  cases hacted with
  | ignored => exact hsilent _ rfl fun _ hf => hf
  | operated operation => exact hsilent _ rfl fun _ hf => hf
  | connected playerId hid =>
      refine hsilent _ rfl fun found hf => ?_
      have hne : player ≠ UInt32.ofNat playerId.toNat := fun he => hc ⟨hid, he.symm⟩
      rwa [AssetPublication.onPlayerConnected, AssetPublication.assign, Finmap.lookup_insert_of_ne _ hne] at hf
  | disconnected playerId =>
      refine hsilent _ rfl fun found hf => ?_
      by_cases ho : player = UInt32.ofNat playerId.toNat
      · rw [AssetPublication.onPlayerDisconnected, ← ho, Finmap.lookup_erase] at hf
        cases hf
      · rwa [AssetPublication.onPlayerDisconnected, Finmap.lookup_erase_ne ho] at hf
  | reset =>
      refine hsilent _ rfl fun found hf => ?_
      cases (Finmap.lookup_empty player).symm.trans hf
  | received playerId _ _ _ hr =>
      by_cases ho : player = UInt32.ofNat playerId.toNat
      · subst ho
        exact h.received hw hsnapshot hr
      · exact h.elsewhere hr ho

/-- What is sent stays, and no manifest is sent to a player that is left without a session. -/
theorem Received.grows (h : Received component other after) (hw : Watched component) (player : UInt32) :
    ∃ new, after.transport.sent = component.transport.sent ++ new ∧
      (after.assets.players.lookup player = none → manifestSends player new = []) := by
  have hnone := @Received.lookup_none _ _ _ player h
  by_cases ho : player = other
  · subst ho
    cases h with
    | quiet registry tracker transport assets => exact ⟨[], by rw [transport, List.append_nil], fun _ => rfl⟩
    | answered call sends registry tracker begins concerns sent mine assets =>
        exact ⟨sends, sent, fun _ => List.filter_eq_nil_iff.mpr fun s hs => by simp [(mine s hs).2.1]⟩
    | welcomed hello welcome transport registry response tracker mine sent outcome =>
        obtain ⟨handed, hsent, -⟩ := onPlayerCompatible_sends component.assets component.registry player transport
        rw [← congrArg Prod.snd outcome, sent, List.append_assoc] at hsent
        refine ⟨_, hsent, fun hn => ?_⟩
        obtain ⟨value, hvalue⟩ := response
        have hclosed := PlayerCapabilityTracker.call_not_accepted (c := .handleHello player hello) hw.sessions
          (hw.closed player (hnone hn)) id
        exact absurd (PlayerCapabilityTracker.compatible_of_welcome hw.sessions.1 hvalue) hclosed.1
  · obtain ⟨handed, hsent, hothers⟩ := h.handed
    refine ⟨handed, hsent, fun _ => manifestSends_of_other fun s hs => ?_⟩
    rw [hothers s hs]
    exact Ne.symm ho

theorem act_grows (hw : Watched component) (player : UInt32) (activity : Activity) :
    ∃ new, (System.act component activity).transport.sent = component.transport.sent ++ new ∧
      ((System.act component activity).assets.players.lookup player = none → manifestSends player new = []) := by
  have hsilent : ∀ next : CustomModelComponent, next.transport.sent = component.transport.sent →
      ∃ new, next.transport.sent = component.transport.sent ++ new ∧
        (next.assets.players.lookup player = none → manifestSends player new = []) :=
    fun next hsent => ⟨[], by rw [hsent, List.append_nil], fun _ => rfl⟩
  have hacted := act_acted component activity
  generalize System.act component activity = after at hacted ⊢
  cases hacted with
  | received _ _ _ _ hr => exact hr.grows hw player
  | _ => exact hsilent _ rfl

/-! ### Runs -/

theorem Stage.mono (h : Stage player manifests component sends) {more : Manifest → Prop}
    (hm : ∀ manifest, manifests manifest → more manifest) : Stage player more component sends := by
  cases h with
  | unpublished handed unwelcomed session => exact .unpublished handed unwelcomed session
  | published manifest snapshot greeted handed session =>
      exact .published manifest (hm _ snapshot) greeted handed session
  | failed manifest snapshot greeted taken refused rest stream handed session =>
      exact .failed manifest (hm _ snapshot) greeted taken refused rest stream handed session

/-- The manifests that the registry has had in the run. -/
def Snapshot (start : CustomModelComponent) (during : List Activity) (manifest : Manifest) : Prop :=
  ∃ visited, visited <+: during ∧ manifest = (run System.act start visited).registry.buildManifest

theorem stage_run {start : CustomModelComponent} (hw : Watched start)
    (hs : ∀ state, start.assets.players.lookup player = some state → state.state = .handshakePending)
    {during : List Activity} (hd : ∀ activity ∈ during, ¬ activity.Connects player) :
    Watched (run System.act start during) ∧ ∃ sends,
      (run System.act start during).transport.sent = start.transport.sent ++ sends ∧
      Stage player (Snapshot start during) (run System.act start during) sends := by
  induction during using List.reverseRecOn with
  | nil =>
      refine ⟨hw, [], (List.append_nil _).symm, .unpublished rfl (fun h => ?_) hs⟩
      obtain ⟨_, hmem, -⟩ := h
      cases hmem
  | append_singleton during activity ih =>
      obtain ⟨hwatched, sends, hsent, hstage⟩ := ih fun a ha => hd a (List.mem_append_left _ ha)
      rw [run_append]
      have hc := hd activity (List.mem_append_right _ (List.mem_singleton_self _))
      obtain ⟨new, hnew, hnext⟩ := hstage.act hwatched ⟨during, List.prefix_refl _, rfl⟩ hc
      refine ⟨hwatched.act activity, sends ++ new, ?_, hnext.mono ?_⟩
      · rw [run_cons, run_nil, hnew, hsent, List.append_assoc]
      · rintro manifest ⟨visited, hv, rfl⟩
        exact ⟨visited, hv.trans (List.prefix_append _ _), rfl⟩

theorem playerConnect_lookup (component : CustomModelComponent) {playerId : Int} (h : 0 ≤ playerId) :
    (System.act component (.event (.playerConnect playerId))).assets.players.lookup
      (UInt32.ofNat playerId.toNat) = some (.ofState .handshakePending) := by
  simp only [System.act, CustomModelComponent.step, CustomModelComponent.onPlayerConnect, if_pos h]
  exact Finmap.lookup_insert _

/-- A session lasts until the player disconnects or the component is reset. -/
theorem act_lookup_none {activity : Activity} (h : ¬ activity.Ends player)
    (hn : (System.act component activity).assets.players.lookup player = none) :
    component.assets.players.lookup player = none := by
  have hacted := act_acted component activity
  generalize System.act component activity = after at hacted hn
  cases hacted with
  | ignored => exact hn
  | operated operation => exact hn
  | connected playerId =>
      by_cases ho : player = UInt32.ofNat playerId.toNat
      · rw [AssetPublication.onPlayerConnected, AssetPublication.assign, ← ho, Finmap.lookup_insert] at hn
        cases hn
      · rwa [AssetPublication.onPlayerConnected, AssetPublication.assign, Finmap.lookup_insert_of_ne _ ho] at hn
  | disconnected playerId hid =>
      have hne : player ≠ UInt32.ofNat playerId.toNat := fun he => h ⟨hid, he.symm⟩
      rwa [AssetPublication.onPlayerDisconnected, Finmap.lookup_erase_ne hne] at hn
  | reset => exact absurd trivial h
  | received _ _ _ _ hr => exact hr.lookup_none hn

theorem run_lookup_ne_none {start : CustomModelComponent}
    (hs : start.assets.players.lookup player ≠ none) {during : List Activity}
    (hd : ∀ activity ∈ during, ¬ activity.Ends player) :
    (run System.act start during).assets.players.lookup player ≠ none := by
  induction during generalizing start with
  | nil => exact hs
  | cons activity during ih =>
      exact ih (fun hn => hs (act_lookup_none (hd activity List.mem_cons_self) hn))
        fun a ha => hd a (List.mem_cons_of_mem _ ha)

/-! ### The frames of a stage -/

theorem taken_map (messages : List Message) :
    ((messages.map fun m => (⟨player, m.frame, true⟩ : Sent)).filter Sent.accepted).map Sent.bytes =
      messages.map Message.frame := by
  rw [List.filter_eq_self.mpr fun sent hs => by obtain ⟨m, -, rfl⟩ := List.mem_map.mp hs; rfl, List.map_map]
  rfl

/-- The frames that were taken are the start of one stream, and all of it if none was refused. -/
theorem Stage.taken (h : Stage player manifests component sends)
    (he : ∃ manifest, manifests manifest) :
    ∃ manifest, manifests manifest ∧
      ((manifestSends player sends).filter Sent.accepted).map Sent.bytes <+:
        manifest.stream.map Message.frame ∧
      (Welcomed player sends → (∀ sent ∈ manifestSends player sends, sent.accepted = true) →
        ((manifestSends player sends).filter Sent.accepted).map Sent.bytes =
          manifest.stream.map Message.frame) := by
  cases h with
  | unpublished handed unwelcomed session =>
      obtain ⟨manifest, hm⟩ := he
      rw [handed]
      exact ⟨manifest, hm, List.nil_prefix, fun hw => absurd hw unwelcomed⟩
  | published manifest snapshot greeted handed session =>
      rw [handed, taken_map]
      exact ⟨manifest, snapshot, List.prefix_refl _, fun _ _ => rfl⟩
  | failed manifest snapshot greeted taken refused rest stream handed session =>
      rw [handed]
      refine ⟨manifest, snapshot, ?_, fun _ hall => ?_⟩
      · have hlast : [(⟨player, refused.frame, false⟩ : Sent)].filter Sent.accepted = [] := rfl
        rw [List.filter_append, hlast, List.append_nil, taken_map, stream, List.map_append]
        exact List.prefix_append _ _
      · have hrefused := hall _ (List.mem_append_right _ (List.mem_singleton_self _))
        cases hrefused

theorem Stage.greeted (h : Stage player manifests component sends) (hs : manifestSends player sends ≠ []) :
    Greeted player sends := by
  cases h with
  | unpublished handed unwelcomed session => exact absurd handed hs
  | published manifest snapshot greeted handed session => exact greeted
  | failed manifest snapshot greeted taken refused rest stream handed session => exact greeted

/-- Behind a frame that was refused, nothing more of the stream is sent and the session is not restored. -/
theorem Stage.refused (h : Stage player manifests component (sends ++ new))
    (hr : ∃ sent ∈ manifestSends player sends, sent.accepted = false) :
    manifestSends player (sends ++ new) = manifestSends player sends ∧
      ∀ state, component.assets.players.lookup player = some state → state.state = .rejected := by
  obtain ⟨sent, hs, hsent⟩ := hr
  have hsplit := manifestSends_append player sends new
  have hmem : sent ∈ manifestSends player (sends ++ new) := hsplit ▸ List.mem_append_left _ hs
  cases h with
  | unpublished handed unwelcomed session =>
      rw [handed] at hmem
      cases hmem
  | published manifest snapshot greeted handed session =>
      rw [handed] at hmem
      obtain ⟨m, -, rfl⟩ := List.mem_map.mp hmem
      cases hsent
  | failed manifest snapshot greeted taken refused rest stream handed session =>
      refine ⟨?_, session⟩
      rw [hsplit] at handed ⊢
      -- the refused frame is the last of all
      have hnil : manifestSends player new = [] := by
        rcases List.eq_nil_or_concat (manifestSends player new) with hnil | ⟨front, last, hlast⟩
        · exact hnil
        · rw [hlast, List.concat_eq_append, ← List.append_assoc] at handed
          have hfront := (List.append_inj' handed rfl).1
          have htaken : sent ∈ taken.map fun m => (⟨player, m.frame, true⟩ : Sent) :=
            hfront ▸ List.mem_append_left _ hs
          obtain ⟨m, -, rfl⟩ := List.mem_map.mp htaken
          cases hsent
      rw [hnil, List.append_nil]

end Stage

end CustomModels.System
