import CustomModels.System.Separation
import CustomModels.System.Lemmas.Publishing

/-!
# What concerns a player

A step that concerns others leaves the part of the player alone. One that concerns the player reads nothing else: the
registry and the answers of `Send` aside, what it makes of the part depends on the part.
-/

namespace CustomModels.System
open CustomModels.Shared CustomModels.Server CustomModels.Lib

variable {player other : UInt32}

/-! ## Transports -/

section Transports

variable {transport elsewhere after : ServerTransport} {message : Message} {messages : List Message}

theorem sendsTo_of_handed {handed : List Sent} (h : after.sent = transport.sent ++ handed)
    (ho : ∀ s ∈ handed, s.playerId ≠ player) : sendsTo player after = sendsTo player transport := by
  have hnone : handed.filter (·.playerId == player) = [] :=
    List.filter_eq_nil_iff.mpr fun s hs => by simpa using ho s hs
  rw [sendsTo, h, List.filter_append, hnone, List.append_nil]
  rfl

theorem outcomes_mono (h : transport.sent <+: after.sent) : outcomes player transport <+: outcomes player after :=
  (h.filter _).map _

theorem sendsTo_send (player : UInt32) (transport : ServerTransport) (bytes : List UInt8) :
    sendsTo player (transport.send player bytes).2 =
      sendsTo player transport ++ [⟨player, bytes, (transport.send player bytes).1⟩] := by
  simp [sendsTo, ServerTransport.send]

theorem send_alike (h : sendsTo player transport = sendsTo player elsewhere)
    (ha : Agree (outcomes player (AssetPublication.send transport player message).2)
      (outcomes player (AssetPublication.send elsewhere player message).2)) :
    (AssetPublication.send transport player message).1 = (AssetPublication.send elsewhere player message).1 ∧
      sendsTo player (AssetPublication.send transport player message).2 =
        sendsTo player (AssetPublication.send elsewhere player message).2 := by
  obtain hnot | ⟨bytes, hsend⟩ := AssetPublication.send_cases player message
  · rw [hnot, hnot]
    exact ⟨rfl, h⟩
  · rw [hsend, hsend, outcomes, outcomes, sendsTo_send, sendsTo_send, h, List.map_append, List.map_append] at ha
    have hanswer : (transport.send player bytes).1 = (elsewhere.send player bytes).1 := ha.eq_of_append
    rw [hsend, hsend, sendsTo_send, sendsTo_send, h, hanswer]
    exact ⟨rfl, rfl⟩

theorem sendAll_alike (h : sendsTo player transport = sendsTo player elsewhere)
    (ha : Agree (outcomes player (AssetPublication.sendAll player messages transport).2)
      (outcomes player (AssetPublication.sendAll player messages elsewhere).2)) :
    (AssetPublication.sendAll player messages transport).1 =
        (AssetPublication.sendAll player messages elsewhere).1 ∧
      sendsTo player (AssetPublication.sendAll player messages transport).2 =
        sendsTo player (AssetPublication.sendAll player messages elsewhere).2 := by
  induction messages generalizing transport elsewhere with
  | nil => exact ⟨rfl, h⟩
  | cons message messages ih =>
      have hfirst : ∀ transport, (AssetPublication.send transport player message).2.sent <+:
          (AssetPublication.sendAll player (message :: messages) transport).2.sent := by
        intro transport
        simp only [AssetPublication.sendAll]
        generalize AssetPublication.send transport player message = sent
        obtain ⟨_ | _, after⟩ := sent
        · exact List.prefix_refl _
        · obtain ⟨rest, hrest, -⟩ := AssetPublication.sendAll_handed player messages after
          exact hrest ▸ List.prefix_append _ _
      have hone : Agree (outcomes player (AssetPublication.send transport player message).2)
          (outcomes player (AssetPublication.send elsewhere player message).2) :=
        ((ha.of_start (outcomes_mono (hfirst _))).symm.of_start (outcomes_mono (hfirst _))).symm
      obtain ⟨hresult, hsends⟩ := send_alike h hone
      simp only [AssetPublication.sendAll] at ha ⊢
      generalize AssetPublication.send transport player message = sent at *
      generalize AssetPublication.send elsewhere player message = other at *
      obtain ⟨result, after⟩ := sent
      obtain ⟨_, afterwards⟩ := other
      cases hresult
      cases result with
      | false => exact ⟨rfl, hsends⟩
      | true => exact ih hsends ha

end Transports

/-! ## The two parts of the player -/

theorem handleHello_alike {tracker elsewhere : PlayerCapabilityTracker} (hp : tracker.policy = elsewhere.policy)
    (hl : tracker.players.lookup player = elsewhere.players.lookup player) (hello : Hello) :
    (tracker.handleHello player hello).1 = (elsewhere.handleHello player hello).1 ∧
      (tracker.handleHello player hello).2.players.lookup player =
        (elsewhere.handleHello player hello).2.players.lookup player := by
  have hreject : ∀ reason, (tracker.rejectHello player hello reason).2.players.lookup player =
      (elsewhere.rejectHello player hello reason).2.players.lookup player := by
    intro reason
    simp only [PlayerCapabilityTracker.rejectHello, PlayerCapabilityTracker.assign_lookup_self]
  have hpending : (tracker.handlePendingHello player hello).1 = (elsewhere.handlePendingHello player hello).1 ∧
      (tracker.handlePendingHello player hello).2.players.lookup player =
        (elsewhere.handlePendingHello player hello).2.players.lookup player := by
    simp only [PlayerCapabilityTracker.handlePendingHello, hp]
    split_ifs
    · exact ⟨rfl, hreject _⟩
    · exact ⟨rfl, hreject _⟩
    · exact ⟨rfl, hreject _⟩
    · exact ⟨rfl, hreject _⟩
    · exact ⟨rfl, hreject _⟩
    · simp only [PlayerCapabilityTracker.welcomeFor, hp, PlayerCapabilityTracker.assign_lookup_self, and_self]
  unfold PlayerCapabilityTracker.handleHello
  rw [hl]
  cases elsewhere.players.lookup player with
  | none => exact ⟨rfl, hreject _⟩
  | some current =>
      simp only [PlayerCapabilityTracker.welcomeFor, hp]
      split
      · exact ⟨rfl, hl⟩
      · split
        · exact ⟨rfl, hl⟩
        · exact hpending
        · exact ⟨rfl, hreject _⟩

theorem handleIncoming_alike {publication elsewhere : AssetPublication}
    (hl : publication.players.lookup player = elsewhere.players.lookup player) (message : Message) :
    (publication.handleIncoming player message).2.players.lookup player =
      (elsewhere.handleIncoming player message).2.players.lookup player := by
  unfold AssetPublication.handleIncoming
  rw [hl]
  cases elsewhere.players.lookup player with
  | none => exact hl
  | some found =>
      simp only
      split
      · exact hl
      · split
        · simp only [AssetPublication.assign, Finmap.lookup_insert]
        · simp only [AssetPublication.assign, Finmap.lookup_insert]
        · exact hl

/-- The manifest aside, a publication depends on the session of the player and on what `Send` answers. -/
theorem onPlayerCompatible_alike {publication elsewhere : AssetPublication} {registry others : AssetRegistry}
    {transport afar : ServerTransport} {state : PlayerAssetState}
    (hp : publication.players.lookup player = some state) (he : elsewhere.players.lookup player = some state)
    (hw : Waits state) (hm : registry.buildManifest = others.buildManifest)
    (hs : sendsTo player transport = sendsTo player afar)
    (ha : Agree (outcomes player (publication.onPlayerCompatible registry transport player).2.2)
      (outcomes player (elsewhere.onPlayerCompatible others afar player).2.2)) :
    (publication.onPlayerCompatible registry transport player).2.1.players.lookup player =
        (elsewhere.onPlayerCompatible others afar player).2.1.players.lookup player ∧
      sendsTo player (publication.onPlayerCompatible registry transport player).2.2 =
        sendsTo player (elsewhere.onPlayerCompatible others afar player).2.2 := by
  rw [onPlayerCompatible_waiting hp hw, onPlayerCompatible_waiting he hw, hm] at *
  obtain ⟨hresult, hsends⟩ := sendAll_alike hs ha
  simp only [AssetPublication.assign, Finmap.lookup_insert, hresult]
  exact ⟨trivial, hsends⟩

/-! ## Steps -/

section Steps

variable {component after : CustomModelComponent} {activity : Activity} {bytes : List UInt8}

theorem act_of_concern {what : Concern} (h : activity.concern player = some what) :
    act component activity = hear player component what := by
  cases activity with
  | operate operation => cases h
  | event event =>
      cases event with
      | playerConnect playerId =>
          simp only [Activity.concern] at h
          split at h
          · rename_i hid
            cases h
            simp only [act, CustomModelComponent.step, CustomModelComponent.onPlayerConnect, if_pos hid.1, hid.2, hear]
          · cases h
      | playerDisconnect playerId =>
          simp only [Activity.concern] at h
          split at h
          · rename_i hid
            cases h
            simp only [act, CustomModelComponent.step, CustomModelComponent.onPlayerDisconnect, if_pos hid.1, hid.2,
              hear]
          · cases h
      | reset =>
          cases h
          rfl
      | receive playerId stream =>
          simp only [Activity.concern] at h
          split at h
          · rename_i hid
            cases h
            simp only [act, CustomModelComponent.step, CustomModelComponent.onReceive_eq component hid.1, hid.2]
            cases stream.incoming <;> rfl
          · cases h

theorem sendResponse_eq_send (endpoint : HandshakeEndpoint) (player : UInt32) (response : HandshakeResponse) :
    endpoint.sendResponse player response =
      let sent := AssetPublication.send endpoint.transport player response.message
      (if !sent.1 then .sendFailed
        else match response with
          | .welcome _ => .welcomeSent
          | .reject _ => .rejectSent, { endpoint with transport := sent.2 }) := by
  by_cases he : response.message.Encodable
  · unfold HandshakeEndpoint.sendResponse
    rw [AssetPublication.send_of_encodable he, encodePacket_of_encodable he]
    dsimp only
    rewrite [encodeFrame_packet he]
    rfl
  · simp only [HandshakeEndpoint.sendResponse, AssetPublication.send, encodePacket_of_not_encodable he,
      Bool.not_false, ↓reduceIte]

/-! ### What a step leaves alone -/

theorem receiveProtocol_available (component : CustomModelComponent) (player : UInt32) (bytes : List UInt8) :
    (component.receiveProtocol player bytes).available = component.available := by
  obtain hdrop | ⟨ha, version, message, hd, hm⟩ | ⟨ha, version, hello, hd⟩ :=
    CustomModelComponent.packet_cases component bytes
  · obtain ⟨_, _, heq⟩ := CustomModelComponent.receiveProtocol_dropped hdrop player
    rw [heq]
  · obtain ⟨_, _, heq⟩ := CustomModelComponent.receiveProtocol_report ha hd hm player
    rw [heq]
  · rw [CustomModelComponent.receiveProtocol_hello ha hd]
    split <;> rfl

theorem act_available (component : CustomModelComponent) (activity : Activity) :
    (act component activity).available = component.available := by
  cases activity with
  | operate operation => rfl
  | event event =>
      cases event with
      | playerConnect playerId =>
          simp only [act, CustomModelComponent.step, CustomModelComponent.onPlayerConnect]
          split <;> rfl
      | playerDisconnect playerId =>
          simp only [act, CustomModelComponent.step, CustomModelComponent.onPlayerDisconnect]
          split <;> rfl
      | reset => rfl
      | receive playerId stream =>
          by_cases hid : 0 ≤ playerId
          · simp only [act, CustomModelComponent.step, CustomModelComponent.onReceive_eq component hid]
            cases stream.incoming with
            | unclaimed => rfl
            | malformed => rfl
            | packet bytes => exact receiveProtocol_available _ _ _
          · simp only [act, CustomModelComponent.step, CustomModelComponent.onReceive, if_pos (Int.not_le.mp hid)]

/-- An activity that does not concern the player leaves all of the player's part alone. -/
theorem act_unheard (component : CustomModelComponent) (h : activity.concern player = none) :
    let after := act component activity
    after.tracker.policy = component.tracker.policy ∧
      after.tracker.players.lookup player = component.tracker.players.lookup player ∧
      after.assets.players.lookup player = component.assets.players.lookup player ∧
      sendsTo player after.transport = sendsTo player component.transport := by
  have hother : ∀ {playerId : Int}, 0 ≤ playerId → (0 ≤ playerId ∧ UInt32.ofNat playerId.toNat = player → False) →
      player ≠ UInt32.ofNat playerId.toNat := fun hid hnot he => hnot ⟨hid, he.symm⟩
  have hacted := act_acted component activity
  generalize act component activity = after at hacted ⊢
  cases hacted with
  | ignored => exact ⟨rfl, rfl, rfl, rfl⟩
  | operated operation => exact ⟨rfl, rfl, rfl, rfl⟩
  | connected playerId hid =>
      have hne := hother hid (by simpa [Activity.concern] using h)
      exact ⟨rfl, PlayerCapabilityTracker.assign_lookup_of_ne hne, Finmap.lookup_insert_of_ne _ hne, rfl⟩
  | disconnected playerId hid =>
      have hne := hother hid (by simpa [Activity.concern] using h)
      exact ⟨rfl, Finmap.lookup_erase_ne hne, Finmap.lookup_erase_ne hne, rfl⟩
  | reset => cases h
  | received playerId hid stream _ hr =>
      have hne := hother hid (by simpa [Activity.concern] using h)
      obtain ⟨handed, hsent, hothers⟩ := hr.handed
      obtain ⟨hpolicy, hparts⟩ := hr.elsewhere
      obtain ⟨hrecord, hsession⟩ := hparts hne
      refine ⟨hpolicy, hrecord, hsession, sendsTo_of_handed hsent fun s hs => ?_⟩
      rw [hothers s hs]
      exact hne.symm

theorem publishedTo_of_lookup (h : after.assets.players.lookup player = component.assets.players.lookup player) :
    publishedTo player component after = [] := by
  rw [publishedTo, AssetPublication.getState, AssetPublication.getState, h, if_neg]
  rintro ⟨hw | hw, ha⟩
  · simp [Attempted, hw] at ha
  · simp [Attempted, hw] at ha

end Steps

/-! ## Steps that concern the player -/

/-- Both components have the same of the player. -/
structure Matching (player : UInt32) (component elsewhere : CustomModelComponent) : Prop where
  policy : component.tracker.policy = elsewhere.tracker.policy
  available : component.available = elsewhere.available
  record : component.tracker.players.lookup player = elsewhere.tracker.players.lookup player
  session : component.assets.players.lookup player = elsewhere.assets.players.lookup player
  sends : sendsTo player component.transport = sendsTo player elsewhere.transport

section Matching

variable {component elsewhere after afterwards : CustomModelComponent} {bytes : List UInt8}

theorem Matching.getState (h : Matching player component elsewhere) :
    component.assets.getState player = elsewhere.assets.getState player := by
  rw [AssetPublication.getState, AssetPublication.getState, h.session]

/-- What the component noted last about its dispatches is not the player's. -/
theorem Matching.marked (h : Matching player component elsewhere) (result result' : DispatchResult)
    (report report' : AssetDispatchResult) :
    Matching player { component with lastDispatch := result, lastAssetDispatch := report }
      { elsewhere with lastDispatch := result', lastAssetDispatch := report' } :=
  ⟨h.policy, h.available, h.record, h.session, h.sends⟩

/-- Without an attempt nothing is published, and whether there is one depends on the sessions. -/
theorem Matching.publishedTo (h : Matching player component elsewhere) (hafter : Matching player after afterwards)
    (hn : ¬ (Waits (component.assets.getState player) ∧ Attempted (after.assets.getState player))) :
    System.publishedTo player component after = System.publishedTo player elsewhere afterwards := by
  rw [System.publishedTo, System.publishedTo, ← h.getState, ← hafter.getState, if_neg hn, if_neg hn]

theorem not_attempted_of_waits {state : PlayerAssetState} (h : Waits state) : ¬ Attempted state := by
  rcases h with h | h <;> simp [Attempted, h]

/-- A response has the same fate for both, whatever the rest of the trackers is. -/
theorem Matching.sendResponse (h : Matching player component elsewhere) {tracker others : PlayerCapabilityTracker}
    (hp : tracker.policy = others.policy) (hl : tracker.players.lookup player = others.players.lookup player)
    {response : HandshakeResponse}
    (ha : Agree
      (outcomes player (HandshakeEndpoint.sendResponse ⟨tracker, component.transport⟩ player response).2.transport)
      (outcomes player (HandshakeEndpoint.sendResponse ⟨others, elsewhere.transport⟩ player response).2.transport)) :
    (HandshakeEndpoint.sendResponse ⟨tracker, component.transport⟩ player response).1 =
        (HandshakeEndpoint.sendResponse ⟨others, elsewhere.transport⟩ player response).1 ∧
      Matching player
        (component.withEndpoint (HandshakeEndpoint.sendResponse ⟨tracker, component.transport⟩ player response).2)
        (elsewhere.withEndpoint (HandshakeEndpoint.sendResponse ⟨others, elsewhere.transport⟩ player response).2) := by
  simp only [sendResponse_eq_send] at ha ⊢
  obtain ⟨hresult, hsends⟩ := send_alike h.sends ha
  exact ⟨by rw [hresult], hp, h.available, hl, h.session, hsends⟩

/-- A malformed packet is answered with a Reject, whatever the record is. -/
theorem Matching.dispatchMalformed (h : Matching player component elsewhere)
    (ha : Agree (outcomes player (component.dispatchMalformed player).transport)
      (outcomes player (elsewhere.dispatchMalformed player).transport)) :
    Matching player (component.dispatchMalformed player) (elsewhere.dispatchMalformed player) := by
  have hpolicy : (component.tracker.rejectPlayer player .malformedHandshake).2.policy =
      (elsewhere.tracker.rejectPlayer player .malformedHandshake).2.policy := h.policy
  have hrecord : (component.tracker.rejectPlayer player .malformedHandshake).2.players.lookup player =
      (elsewhere.tracker.rejectPlayer player .malformedHandshake).2.players.lookup player := by
    rw [PlayerCapabilityTracker.rejectPlayer, PlayerCapabilityTracker.rejectPlayer,
      PlayerCapabilityTracker.assign_lookup_self, PlayerCapabilityTracker.assign_lookup_self]
  exact (@Matching.sendResponse player component elsewhere h _ _ hpolicy hrecord (.reject ⟨.malformedHandshake⟩) ha).2

/-- A report on a session that waits is not taken. -/
theorem not_attempted_of_handleIncoming {publication : AssetPublication} (message : Message)
    (h : Waits (publication.getState player)) :
    ¬ Attempted ((publication.handleIncoming player message).2.getState player) := by
  rw [AssetPublication.handleIncoming_of_not_published]
  · exact not_attempted_of_waits h
  · rintro (hp | hp)
    · simp [Waits, hp] at h
    · simp [Waits, hp] at h

theorem attempted_of_onPlayerCompatible {publication : AssetPublication} {state : PlayerAssetState}
    (hl : publication.players.lookup player = some state) (hw : Waits state) (registry : AssetRegistry)
    (transport : ServerTransport) :
    Attempted ((publication.onPlayerCompatible registry transport player).2.1.getState player) := by
  rw [onPlayerCompatible_waiting hl hw, AssetPublication.getState_assign_self]
  cases (AssetPublication.sendAll player registry.buildManifest.stream transport).1 with
  | false => exact .inr (.inr rfl)
  | true =>
      cases registry.buildManifest.assets.isEmpty with
      | false => exact .inl rfl
      | true => exact .inr (.inl rfl)

theorem publishedTo_of_waits {state : PlayerAssetState} (hl : component.assets.players.lookup player = some state)
    (hw : Waits state) : System.publishedTo player component (component.onPlayerCompatible player) =
      [component.registry.buildManifest] := by
  apply if_pos
  constructor
  · rwa [AssetPublication.getState_of_lookup hl]
  · exact attempted_of_onPlayerCompatible hl hw component.registry component.transport

/-- The player is published to where `OnPlayerCompatible` gets past its guards. -/
theorem publishedTo_onPlayerCompatible (component : CustomModelComponent) (player : UInt32) :
    System.publishedTo player component (component.onPlayerCompatible player) =
      match (component.assets.onPlayerCompatible component.registry component.transport player).1 with
      | .sent => [component.registry.buildManifest]
      | .sendFailed => [component.registry.buildManifest]
      | .alreadySent => []
      | .invalidState => [] := by
  have hquiet : (component.onPlayerCompatible player).assets = component.assets →
      System.publishedTo player component (component.onPlayerCompatible player) = [] :=
    fun h => publishedTo_of_lookup (by rw [h])
  have hattempt := @publishedTo_of_waits player component
  simp only [CustomModelComponent.onPlayerCompatible, AssetPublication.onPlayerCompatible] at hquiet hattempt ⊢
  cases hl : component.assets.players.lookup player with
  | none =>
      rw [hl] at hquiet
      exact hquiet rfl
  | some found =>
      rw [hl] at hquiet hattempt
      simp only at hquiet hattempt ⊢
      by_cases hsettled : found.state = .manifestComplete ∨ found.state = .assetsReady
      · rw [if_pos hsettled] at hquiet ⊢
        exact hquiet rfl
      · rw [if_neg hsettled] at hquiet hattempt ⊢
        by_cases hw : found.state ≠ .handshakePending ∧ found.state ≠ .compatible
        · rw [if_pos hw] at hquiet ⊢
          exact hquiet rfl
        · rw [if_neg hw] at hattempt ⊢
          have hwaits : Waits found := by rwa [← not_or, not_not] at hw
          have hpublished := hattempt rfl hwaits
          cases hsent : AssetPublication.sendManifest component.registry.buildManifest player component.transport with
          | mk result transport =>
              rw [hsent] at hpublished
              cases result with
              | false => exact hpublished
              | true => exact hpublished

/-- A publication reads the registry for a session that waits, and does nothing for any other. -/
theorem Matching.onPlayerCompatible (h : Matching player component elsewhere)
    (hs : Agree (outcomes player (component.onPlayerCompatible player).transport)
      (outcomes player (elsewhere.onPlayerCompatible player).transport))
    (hc : Agree (System.publishedTo player component (component.onPlayerCompatible player))
      (System.publishedTo player elsewhere (elsewhere.onPlayerCompatible player))) :
    Matching player (component.onPlayerCompatible player) (elsewhere.onPlayerCompatible player) ∧
      System.publishedTo player component (component.onPlayerCompatible player) =
        System.publishedTo player elsewhere (elsewhere.onPlayerCompatible player) := by
  by_cases hw : ∃ state, component.assets.players.lookup player = some state ∧ Waits state
  · obtain ⟨state, hl, hw⟩ := hw
    have hl' : elsewhere.assets.players.lookup player = some state := h.session.symm.trans hl
    rw [publishedTo_of_waits hl hw, publishedTo_of_waits hl' hw] at hc ⊢
    have hmanifest : component.registry.buildManifest = elsewhere.registry.buildManifest :=
      @Agree.eq_of_append _ [] _ _ hc
    obtain ⟨hsession, hsends⟩ := onPlayerCompatible_alike hl hl' hw hmanifest h.sends hs
    exact ⟨⟨h.policy, h.available, h.record, hsession, hsends⟩, by rw [hmanifest]⟩
  · have hsame : ∀ {component : CustomModelComponent},
        (∀ state, component.assets.players.lookup player = some state → ¬ Waits state) →
          component.onPlayerCompatible player = component := by
      intro component hn
      have heq := @onPlayerCompatible_of_not_waiting _ component.registry _ hn component.transport
      simp only [CustomModelComponent.onPlayerCompatible, heq]
    have hn : ∀ state, component.assets.players.lookup player = some state → ¬ Waits state :=
      fun state hl hwaits => hw ⟨state, hl, hwaits⟩
    rw [hsame hn, hsame (h.session ▸ hn), publishedTo_of_lookup rfl, publishedTo_of_lookup rfl]
    exact ⟨h, rfl⟩

theorem onPlayerCompatible_sent_mono (component : CustomModelComponent) (player : UInt32) :
    component.transport.sent <+: (component.onPlayerCompatible player).transport.sent := by
  obtain ⟨handed, hsent, -⟩ :=
    onPlayerCompatible_sends component.assets component.registry player component.transport
  exact ⟨handed, hsent.symm⟩

theorem Matching.receive_hello (h : Matching player component elsewhere) {version : UInt16} {hello : Hello}
    (ha : component.available = true) (hd : decodePacket bytes = .ok ⟨version, .hello hello⟩)
    (hs : Agree (outcomes player (component.receiveProtocol player bytes).transport)
      (outcomes player (elsewhere.receiveProtocol player bytes).transport))
    (hc : Agree (System.publishedTo player component (component.receiveProtocol player bytes))
      (System.publishedTo player elsewhere (elsewhere.receiveProtocol player bytes))) :
    Matching player (component.receiveProtocol player bytes) (elsewhere.receiveProtocol player bytes) ∧
      System.publishedTo player component (component.receiveProtocol player bytes) =
        System.publishedTo player elsewhere (elsewhere.receiveProtocol player bytes) := by
  obtain ⟨hanswer, hrecord⟩ := handleHello_alike h.policy h.record hello
  have hpolicy : ∀ tracker : PlayerCapabilityTracker,
      (tracker.handleHello player hello).2.policy = tracker.policy :=
    fun tracker => PlayerCapabilityTracker.call_policy tracker (.handleHello player hello)
  -- the answers to the Hello have the same fate, whether or not a publication follows
  have hfirst : ∀ (followed : Prop) [Decidable followed] (dispatched : CustomModelComponent),
      outcomes player dispatched.transport <+:
        outcomes player (if followed then dispatched.onPlayerCompatible player else dispatched).transport := by
    intro followed _ dispatched
    split
    · exact outcomes_mono (onPlayerCompatible_sent_mono dispatched player)
    · exact List.prefix_refl _
  rw [CustomModelComponent.receiveProtocol_hello ha hd,
    CustomModelComponent.receiveProtocol_hello (h.available ▸ ha) hd, ← hanswer] at hs hc ⊢
  have hone := ((hs.of_start (hfirst _ _)).symm.of_start (hfirst _ _)).symm
  obtain ⟨hresult, hmatching⟩ := h.sendResponse
    ((hpolicy component.tracker).trans (h.policy.trans (hpolicy elsewhere.tracker).symm)) hrecord hone
  rw [← hresult] at hs hc ⊢
  split at hs
  · rw [if_pos ‹_›, if_pos ‹_›] at hc ⊢
    exact (hmatching.marked _ _ _ _).onPlayerCompatible hs hc
  · rw [if_neg ‹_›, if_neg ‹_›]
    exact ⟨hmatching.marked _ _ _ _, (publishedTo_of_lookup rfl).trans (publishedTo_of_lookup rfl).symm⟩

theorem Matching.receiveProtocol (h : Matching player component elsewhere)
    (hs : Agree (outcomes player (component.receiveProtocol player bytes).transport)
      (outcomes player (elsewhere.receiveProtocol player bytes).transport))
    (hc : Agree (System.publishedTo player component (component.receiveProtocol player bytes))
      (System.publishedTo player elsewhere (elsewhere.receiveProtocol player bytes))) :
    Matching player (component.receiveProtocol player bytes) (elsewhere.receiveProtocol player bytes) ∧
      System.publishedTo player component (component.receiveProtocol player bytes) =
        System.publishedTo player elsewhere (elsewhere.receiveProtocol player bytes) := by
  obtain hdrop | ⟨ha, version, message, hd, hm⟩ | ⟨ha, version, hello, hd⟩ :=
    CustomModelComponent.packet_cases component bytes
  · obtain ⟨_, _, heq⟩ := CustomModelComponent.receiveProtocol_dropped hdrop player
    obtain ⟨_, _, heq'⟩ := CustomModelComponent.receiveProtocol_dropped (h.available ▸ hdrop) player
    rw [heq, heq']
    exact ⟨h.marked _ _ _ _, (publishedTo_of_lookup rfl).trans (publishedTo_of_lookup rfl).symm⟩
  · obtain ⟨_, _, heq⟩ := CustomModelComponent.receiveProtocol_report ha hd hm player
    obtain ⟨_, _, heq'⟩ := CustomModelComponent.receiveProtocol_report (h.available ▸ ha) hd hm player
    have hmatching : Matching player (component.receiveProtocol player bytes)
        (elsewhere.receiveProtocol player bytes) := by
      rw [heq, heq']
      exact ⟨h.policy, h.available, h.record, handleIncoming_alike h.session message, h.sends⟩
    refine ⟨hmatching, h.publishedTo hmatching fun hboth => ?_⟩
    rw [heq] at hboth
    exact not_attempted_of_handleIncoming message hboth.1 hboth.2
  · exact h.receive_hello ha hd hs hc

/-- A session that has just begun, and none at all, are not published to. -/
theorem not_attempted_of_fresh {publication : AssetPublication}
    (h : publication.players.lookup player = some (.ofState .handshakePending) ∨
      publication.players.lookup player = none) : ¬ Attempted (publication.getState player) := by
  rcases h with h | h
  · rw [AssetPublication.getState_of_lookup h]
    decide
  · rw [AssetPublication.getState_of_lookup_none h]
    decide

theorem Matching.hear (h : Matching player component elsewhere) (what : Concern)
    (hs : Agree (outcomes player (System.hear player component what).transport)
      (outcomes player (System.hear player elsewhere what).transport))
    (hc : Agree (System.publishedTo player component (System.hear player component what))
      (System.publishedTo player elsewhere (System.hear player elsewhere what))) :
    Matching player (System.hear player component what) (System.hear player elsewhere what) ∧
      System.publishedTo player component (System.hear player component what) =
        System.publishedTo player elsewhere (System.hear player elsewhere what) := by
  cases what with
  | connect =>
      have hrecord : ∀ component, (System.hear player component .connect).tracker.players.lookup player =
          some (.ofState .handshakePending) := fun component => PlayerCapabilityTracker.assign_lookup_self _
      have hsession : ∀ component, (System.hear player component .connect).assets.players.lookup player =
          some (.ofState .handshakePending) := fun component => Finmap.lookup_insert _
      have hmatching : Matching player (System.hear player component .connect)
          (System.hear player elsewhere .connect) :=
        ⟨h.policy, h.available, by rw [hrecord, hrecord], by rw [hsession, hsession], h.sends⟩
      exact ⟨hmatching, h.publishedTo hmatching fun hboth =>
        not_attempted_of_fresh (.inl (hsession component)) hboth.2⟩
  | disconnect =>
      have hrecord : ∀ component, (System.hear player component .disconnect).tracker.players.lookup player = none :=
        fun component => Finmap.lookup_erase player _
      have hsession : ∀ component, (System.hear player component .disconnect).assets.players.lookup player = none :=
        fun component => Finmap.lookup_erase player _
      have hmatching : Matching player (System.hear player component .disconnect)
          (System.hear player elsewhere .disconnect) :=
        ⟨h.policy, h.available, by rw [hrecord, hrecord], by rw [hsession, hsession], h.sends⟩
      exact ⟨hmatching, h.publishedTo hmatching fun hboth =>
        not_attempted_of_fresh (.inr (hsession component)) hboth.2⟩
  | reset =>
      have hmatching : Matching player (System.hear player component .reset) (System.hear player elsewhere .reset) :=
        ⟨h.policy, h.available, rfl, rfl, h.sends⟩
      exact ⟨hmatching, h.publishedTo hmatching fun hboth =>
        not_attempted_of_fresh (.inr (Finmap.lookup_empty player)) hboth.2⟩
  | receive incoming =>
      cases incoming with
      | unclaimed => exact ⟨h, h.publishedTo h fun hboth => not_attempted_of_waits hboth.1 hboth.2⟩
      | malformed =>
          have hmatching := h.dispatchMalformed hs
          exact ⟨hmatching, h.publishedTo hmatching fun hboth => not_attempted_of_waits hboth.1 hboth.2⟩
      | packet bytes => exact h.receiveProtocol hs hc

end Matching

/-! ## Runs -/

theorem viewOf_eq_iff {state other : CustomModelComponent × List Manifest} :
    viewOf player state = viewOf player other ↔ Matching player state.1 other.1 ∧ state.2 = other.2 := by
  rw [viewOf, viewOf, PlayerView.mk.injEq]
  constructor
  · rintro ⟨hpolicy, havailable, hrecord, hsession, hsends, hcontents⟩
    exact ⟨⟨hpolicy, havailable, hrecord, hsession, hsends⟩, hcontents⟩
  · rintro ⟨h, hcontents⟩
    exact ⟨h.policy, h.available, h.record, h.session, h.sends, hcontents⟩

/-- What the component has of a player unwinds over the events that concern the player. -/
theorem act_unwinds (player : UInt32) :
    Unwinds (logged act (published player)) (Activity.concern player) (viewOf player) (AnsweredAlike player) where
  unheard := by
    intro state activity hnone
    obtain ⟨hpolicy, hrecord, hsession, hsends⟩ := act_unheard state.1 hnone
    rw [viewOf_eq_iff]
    refine ⟨⟨hpolicy, act_available state.1 activity, hrecord, hsession, hsends⟩, ?_⟩
    rw [logged, published, publishedTo_of_lookup hsession, List.append_nil]
  heard := by
    intro state other activity elsewhere what hview hx hy ha
    rw [viewOf_eq_iff] at hview ⊢
    obtain ⟨hmatching, hcontents⟩ := hview
    simp only [AnsweredAlike, logged, published, act_of_concern hx, act_of_concern hy, hcontents] at ha ⊢
    obtain ⟨hs, hc⟩ := ha
    have hpublished := hmatching.hear what hs (hc.of_append)
    exact ⟨hpublished.1, by rw [hpublished.2]⟩
  symm := fun state other ha => ⟨ha.1.symm, ha.2.symm⟩
  before := by
    intro state other activity ha
    exact ⟨ha.1.of_start (outcomes_mono (act_sent_mono state.1 activity)),
      ha.2.of_start (List.prefix_append _ _)⟩

end CustomModels.System
