import CustomModels.Server.Standing
import CustomModels.Server.Lemmas.Endpoint
import CustomModels.Server.Lemmas.Publication

/-!
# The open.mp component
-/

namespace CustomModels.Server
open CustomModels.Shared CustomModels.Lib

namespace CustomModelComponent

variable {component : CustomModelComponent} {player other : UInt32} {playerId : Int}
  {stream : NetworkBitStream} {bytes : List UInt8}

/-! ## Received streams -/

theorem onReceive_eq (component : CustomModelComponent) (h : 0 ≤ playerId) (stream : NetworkBitStream) :
    component.onReceive playerId stream = match stream.incoming with
      | .unclaimed => (true, component)
      | .malformed => (false, component.dispatchMalformed (UInt32.ofNat playerId.toNat))
      | .packet bytes => (false, component.receiveProtocol (UInt32.ofNat playerId.toNat) bytes) := by
  unfold onReceive NetworkBitStream.incoming
  rw [if_neg (Int.not_lt.mpr h)]
  cases stream.data with
  | none => rfl
  | some data =>
      simp only
      split_ifs <;> rfl

theorem incoming_of_exposes (h : stream.Exposes bytes) (hm : hasProtocolMagic bytes = true)
    (hl : bytes.length ≤ kMaximumPacketSize) : stream.incoming = .packet bytes := by
  obtain ⟨hoffset, haligned, hbits, data, hdata, hbytes⟩ := h
  have hm' := hm
  rw [hasProtocolMagic, Bool.and_eq_true, decide_eq_true_eq] at hm'
  have hcount : stream.unreadBits.toNat / 8 = bytes.length := by omega
  have hmagic : hasProtocolMagic (stream.bytesAt data 4) = true := by
    have htake : stream.bytesAt data 4 = bytes.take 4 := by
      rw [← hbytes, NetworkBitStream.bytesAt, NetworkBitStream.bytesAt, List.take_take, Nat.min_eq_left hm'.1]
    rw [htake, hasProtocolMagic, List.take_take, Nat.min_self, List.length_take, Nat.min_eq_left hm'.1]
    simpa using hm'.2
  have h1 : ¬ (stream.unreadBits < 32 ∨ stream.readOffset < 0 ∨ stream.readOffset % 8 ≠ 0) := by omega
  have h2 : ¬ (stream.unreadBits % 8 ≠ 0 ∨ kMaximumPacketSize < bytes.length) := by omega
  simp only [NetworkBitStream.incoming, hdata, h1, ↓reduceIte, hcount, h2, hbytes, inspectProtocolPayload,
    hmagic, Bool.not_true, Bool.false_eq_true, reduceCtorEq]

/-! ## What a packet changes -/

/-- A packet is dropped, or it is a report, or a Hello. -/
theorem packet_cases (component : CustomModelComponent) (bytes : List UInt8) :
    (component.available = false ∨ ∃ error, decodePacket bytes = .error error) ∨
      (component.available = true ∧ ∃ version message, decodePacket bytes = .ok ⟨version, message⟩ ∧
        ∀ hello, message ≠ .hello hello) ∨
      component.available = true ∧ ∃ version hello, decodePacket bytes = .ok ⟨version, .hello hello⟩ := by
  cases ha : component.available with
  | false => exact .inl (.inl rfl)
  | true =>
      cases hd : decodePacket bytes with
      | error error => exact .inl (.inr ⟨error, rfl⟩)
      | ok packet =>
          obtain ⟨version, message⟩ := packet
          by_cases hm : ∃ hello, message = .hello hello
          · obtain ⟨hello, rfl⟩ := hm
            exact .inr (.inr ⟨rfl, version, hello, rfl⟩)
          · exact .inr (.inl ⟨rfl, version, message, rfl, fun hello he => hm ⟨hello, he⟩⟩)

theorem receiveProtocol_dropped (h : component.available = false ∨ ∃ error, decodePacket bytes = .error error)
    (player : UInt32) : ∃ result report, component.receiveProtocol player bytes =
      { component with lastDispatch := result, lastAssetDispatch := report } := by
  cases ha : component.available with
  | false =>
      simp only [receiveProtocol, ha, Bool.not_false, ↓reduceIte]
      exact ⟨_, _, rfl⟩
  | true =>
      obtain hf | ⟨error, hd⟩ := h
      · cases ha.symm.trans hf
      · simp only [receiveProtocol, ha, dispatchProtocol, hd, isHello, Bool.not_true, Bool.false_eq_true, ↓reduceIte,
          Bool.false_and]
        exact ⟨_, _, rfl⟩

theorem receiveProtocol_report {version : UInt16} {message : Message} (ha : component.available = true)
    (hd : decodePacket bytes = .ok ⟨version, message⟩) (hm : ∀ hello, message ≠ .hello hello) (player : UInt32) :
    ∃ result report, component.receiveProtocol player bytes =
      { component with
        assets := (component.assets.handleIncoming player message).2
        lastDispatch := result
        lastAssetDispatch := report } := by
  cases message with
  | hello hello => exact absurd rfl (hm hello)
  | _ =>
      simp only [receiveProtocol, ha, dispatchProtocol, hd, isHello, Bool.not_true, Bool.false_eq_true, ↓reduceIte,
        Bool.false_and]
      exact ⟨_, _, rfl⟩

/-- A Hello is answered, and a Welcome that is sent is followed by a publication. -/
theorem receiveProtocol_hello {version : UInt16} {hello : Hello} (ha : component.available = true)
    (hd : decodePacket bytes = .ok ⟨version, .hello hello⟩) (player : UInt32) :
    let answered := component.tracker.handleHello player hello
    let sent := HandshakeEndpoint.sendResponse ⟨answered.2, component.transport⟩ player answered.1
    let dispatched := { component.withEndpoint sent.2 with lastDispatch := sent.1, lastAssetDispatch := .ignored }
    component.receiveProtocol player bytes =
      if sent.1 = .welcomeSent then dispatched.onPlayerCompatible player else dispatched := by
  obtain ⟨tracker, transport, _, registry, assets, _, _⟩ := component
  cases ha
  simp only [receiveProtocol, dispatchProtocol, hd, isHello, Bool.not_true, Bool.false_eq_true, ↓reduceIte,
    Bool.true_and, endpoint, HandshakeEndpoint.dispatchProtocolPayload_hello hd, beq_iff_eq]
  rfl

/-- A Hello goes to the tracker, and a welcome to the asset publication; everything else leaves the tracker
alone and may only be handled as a report. -/
theorem receiveProtocol_cases (component : CustomModelComponent) (player : UInt32) (bytes : List UInt8) :
    ((component.available = true → isHello (decodePacket bytes) = false) ∧
        (component.receiveProtocol player bytes).tracker = component.tracker ∧
        ((component.receiveProtocol player bytes).assets = component.assets ∨
          ∃ message, (component.receiveProtocol player bytes).assets =
            (component.assets.handleIncoming player message).2)) ∨
      component.available = true ∧ ∃ version hello, decodePacket bytes = .ok ⟨version, .hello hello⟩ ∧
        (component.receiveProtocol player bytes).tracker = (component.tracker.handleHello player hello).2 ∧
        ((component.receiveProtocol player bytes).assets = component.assets ∨
          (∃ value, (component.tracker.handleHello player hello).1 = .welcome value) ∧
            ∃ transport, (component.receiveProtocol player bytes).assets =
              (component.assets.onPlayerCompatible component.registry transport player).2.1) := by
  obtain hdrop | ⟨ha, version, message, hd, hm⟩ | ⟨ha, version, hello, hd⟩ := packet_cases component bytes
  · obtain ⟨_, _, heq⟩ := receiveProtocol_dropped hdrop player
    rw [heq]
    refine .inl ⟨fun ha => ?_, rfl, .inl rfl⟩
    obtain hf | ⟨error, hd⟩ := hdrop
    · cases ha.symm.trans hf
    · rw [hd]
      rfl
  · obtain ⟨_, _, heq⟩ := receiveProtocol_report ha hd hm player
    rw [heq]
    refine .inl ⟨fun _ => ?_, rfl, .inr ⟨message, rfl⟩⟩
    rw [hd]
    cases message with
    | hello hello => exact absurd rfl (hm hello)
    | _ => rfl
  · refine .inr ⟨ha, version, hello, hd, ?_⟩
    rw [receiveProtocol_hello ha hd]
    split
    · rename_i hw
      exact ⟨HandshakeEndpoint.sendResponse_tracker _ _ _,
        .inr ⟨HandshakeEndpoint.welcome_of_sendResponse hw, _, rfl⟩⟩
    · exact ⟨HandshakeEndpoint.sendResponse_tracker _ _ _, .inl rfl⟩

/-! ## Sessions that stand -/

theorem sessionsStand_of_compatible
    (h : ∀ player, component.assets.Published player →
      (component.tracker.getState player).state = .compatible) :
    component.SessionsStand := by
  refine ⟨h, fun player message hr => ?_⟩
  by_contra hc
  have hp : ¬ component.assets.Published player := fun hp => hc (h player hp)
  rw [AssetPublication.handleIncoming_of_not_published hp] at hr
  rcases hr with hr | hr <;> cases hr

/-- The sessions stand, and the tracker is one that runs under the component's policy. -/
def Standing (component : CustomModelComponent) : Prop :=
  PlayerCapabilityTracker.Sessions makePolicy component.tracker ∧
    ∀ player, component.assets.Published player →
      (component.tracker.getState player).state = .compatible

theorem loaded_standing (registry : AssetRegistry) (available : Bool) (answer : Nat → Bool) :
    (loaded registry available answer).Standing :=
  ⟨PlayerCapabilityTracker.make_sessions _, fun player h =>
    absurd h (AssetPublication.not_published_of_lookup_none (by simp [loaded]))⟩

theorem Standing.onPlayerConnect (h : component.Standing) (playerId : Int) :
    (component.onPlayerConnect playerId).Standing := by
  unfold CustomModelComponent.onPlayerConnect
  split
  · refine ⟨h.1.call (.beginHandshake _), fun other hp => ?_⟩
    by_cases ho : other = UInt32.ofNat playerId.toNat
    · subst ho
      rw [AssetPublication.Published, AssetPublication.onPlayerConnected,
        AssetPublication.getState_assign_self] at hp
      rcases hp with hp | hp <;> cases hp
    · rw [AssetPublication.Published, AssetPublication.onPlayerConnected,
        AssetPublication.getState_assign_of_ne ho] at hp
      have hc := h.2 other hp
      rwa [PlayerCapabilityTracker.getState, ← PlayerCapabilityTracker.assign_lookup_of_ne ho] at hc
  · exact h

theorem Standing.onPlayerDisconnect (h : component.Standing) (playerId : Int) :
    (component.onPlayerDisconnect playerId).Standing := by
  unfold CustomModelComponent.onPlayerDisconnect
  split
  · refine ⟨h.1.call (.removePlayer _), fun other hp => ?_⟩
    by_cases ho : other = UInt32.ofNat playerId.toNat
    · subst ho
      exact absurd hp (AssetPublication.not_published_of_lookup_none (Finmap.lookup_erase _ _))
    · rw [AssetPublication.Published, AssetPublication.onPlayerDisconnected, AssetPublication.getState,
        Finmap.lookup_erase_ne ho] at hp
      have hc := h.2 other hp
      rwa [PlayerCapabilityTracker.getState, ← Finmap.lookup_erase_ne ho] at hc
  · exact h

theorem Standing.reset (h : component.Standing) : component.reset.Standing :=
  ⟨h.1.call .reset, fun _ hp =>
    absurd hp (AssetPublication.not_published_of_lookup_none (Finmap.lookup_empty _))⟩

/-- The rejection of a player without a whole manifest keeps the sessions standing. -/
theorem Standing.dispatchMalformed (h : component.Standing) (hp : ¬ component.assets.Published player) :
    (component.dispatchMalformed player).Standing := by
  have ht : (component.dispatchMalformed player).tracker =
      (component.tracker.rejectPlayer player .malformedHandshake).2 :=
    HandshakeEndpoint.rejectMalformed_tracker _ _
  refine ⟨by rw [ht]; exact h.1.call (.rejectPlayer player .malformedHandshake), fun other hother => ?_⟩
  have hne : other ≠ player := by
    rintro rfl
    exact hp hother
  have hc := h.2 other hother
  rwa [PlayerCapabilityTracker.getState, ht, PlayerCapabilityTracker.rejectPlayer,
    PlayerCapabilityTracker.assign_lookup_of_ne hne]

/-- A packet keeps the sessions standing, unless it is another Hello of a player with a whole manifest. -/
theorem Standing.receiveProtocol (h : component.Standing)
    (hsame : component.assets.Published player → component.available = true →
      ∀ version hello, decodePacket bytes = .ok ⟨version, .hello hello⟩ →
        sameHello (component.tracker.getState player) hello = true) :
    (component.receiveProtocol player bytes).Standing := by
  rcases receiveProtocol_cases component player bytes with
    ⟨-, ht, ha⟩ | ⟨havailable, version, hello, hd, ht, ha⟩
  · refine ⟨by rw [ht]; exact h.1, fun other hp => ?_⟩
    rw [ht]
    apply h.2 other
    rcases ha with ha | ⟨message, ha⟩
    · rwa [ha] at hp
    · rw [ha] at hp
      exact AssetPublication.published_of_handleIncoming hp
  · refine ⟨by rw [ht]; exact h.1.handleHello player hello, fun other hp => ?_⟩
    rw [ht]
    by_cases ho : other = player
    · subst ho
      by_cases hpublished : component.assets.Published other
      · have hs := hsame hpublished havailable version hello hd
        have hsettled := PlayerCapabilityTracker.settled_of_getState h.1
          (.inl ⟨h.2 other hpublished, sameHello_iff.mp hs⟩)
        rw [(PlayerCapabilityTracker.handleHello_of_settled hsettled).1]
        exact h.2 other hpublished
      · rcases ha with ha | ⟨⟨value, hw⟩, -⟩
        · exact absurd (ha ▸ hp) hpublished
        · exact PlayerCapabilityTracker.compatible_of_welcome h.1.1 hw
    · have hp' : component.assets.Published other := by
        rcases ha with ha | ⟨-, transport, ha⟩
        · rwa [ha] at hp
        · rwa [ha, AssetPublication.Published, AssetPublication.getState_onPlayerCompatible_of_ne ho] at hp
      rw [PlayerCapabilityTracker.getState, PlayerCapabilityTracker.handleHello_lookup_of_ne ho]
      exact h.2 other hp'

theorem Standing.step (h : component.Standing) (event : Event) (hd : ¬ event.Disturbs component) :
    (component.step event).Standing := by
  cases event with
  | playerConnect playerId => exact h.onPlayerConnect playerId
  | playerDisconnect playerId => exact h.onPlayerDisconnect playerId
  | reset => exact h.reset
  | receive playerId stream =>
      by_cases hid : 0 ≤ playerId
      · simp only [CustomModelComponent.step, onReceive_eq component hid]
        cases hi : stream.incoming with
        | unclaimed => exact h
        | malformed =>
            refine h.dispatchMalformed fun hp => hd ⟨hid, hp, .inl hi⟩
        | packet bytes =>
            apply h.receiveProtocol
            intro hp havailable version hello hdecode
            by_contra hs
            exact hd ⟨hid, hp, .inr ⟨havailable, bytes, version, hello, hi, hdecode, by simpa using hs⟩⟩
      · simp only [CustomModelComponent.step, onReceive, if_pos (Int.not_le.mp hid)]
        exact h

theorem Standing.sessionsStand (h : component.Standing) : component.SessionsStand :=
  sessionsStand_of_compatible h.2

/-! ## Sessions that lose their handshake -/

/-- A rejection that leaves the asset session in place. -/
theorem not_sessionsStand_of_rejected {after : CustomModelComponent} (hp : component.assets.Published player)
    (ha : after.assets = component.assets) (ht : (after.tracker.getState player).state = .rejected) :
    ¬ after.SessionsStand := by
  intro h
  have hc := h.compatible player (by rwa [ha])
  rw [ht] at hc
  cases hc

theorem dispatchMalformed_getState (component : CustomModelComponent) (player : UInt32) :
    ((component.dispatchMalformed player).tracker.getState player).state = .rejected := by
  have ht : (component.dispatchMalformed player).tracker =
      (component.tracker.rejectPlayer player .malformedHandshake).2 :=
    HandshakeEndpoint.rejectMalformed_tracker _ _
  rw [ht, PlayerCapabilityTracker.rejectPlayer,
    PlayerCapabilityTracker.getState_of_lookup (PlayerCapabilityTracker.assign_lookup_self _)]
  rfl

/-- Another Hello of a compatible player is rejected, and the publication does not hear of it. -/
theorem receiveProtocol_of_other_hello (h : component.Standing) {version : UInt16} {hello : Hello}
    (hc : (component.tracker.getState player).state = .compatible) (ha : component.available = true)
    (hd : decodePacket bytes = .ok ⟨version, .hello hello⟩)
    (hs : sameHello (component.tracker.getState player) hello = false) :
    (component.receiveProtocol player bytes).assets = component.assets ∧
      ((component.receiveProtocol player bytes).tracker.getState player).state = .rejected := by
  have hl : component.tracker.players.lookup player = some (component.tracker.getState player) :=
    PlayerCapabilityTracker.lookup_of_getState (by rw [hc]; exact nofun)
  obtain ⟨reason, he⟩ := PlayerCapabilityTracker.handleHello_of_other h.1.1 hl hc hs
  rcases receiveProtocol_cases component player bytes with
    ⟨hnot, _⟩ | ⟨_, _, hello', hd', ht, hassets⟩
  · have := hnot ha
    rw [hd] at this
    cases this
  · rw [hd'] at hd
    cases hd
    refine ⟨?_, ?_⟩
    · rcases hassets with hassets | ⟨⟨value, hw⟩, -⟩
      · exact hassets
      · rw [he] at hw
        cases hw
    · rw [ht, he, PlayerCapabilityTracker.rejectHello,
        PlayerCapabilityTracker.getState_of_lookup (PlayerCapabilityTracker.assign_lookup_self _)]
      rfl

theorem Standing.not_sessionsStand (h : component.Standing) {event : Event} (hd : event.Disturbs component) :
    ¬ (component.step event).SessionsStand := by
  cases event with
  | playerConnect playerId => exact hd.elim
  | playerDisconnect playerId => exact hd.elim
  | reset => exact hd.elim
  | receive playerId stream =>
      obtain ⟨hid, hp, hcause⟩ := hd
      simp only [CustomModelComponent.step, onReceive_eq component hid]
      rcases hcause with hi | ⟨ha, bytes, version, hello, hi, hdecode, hs⟩
      · rw [hi]
        exact not_sessionsStand_of_rejected hp rfl (dispatchMalformed_getState component _)
      · rw [hi]
        obtain ⟨hassets, ht⟩ := receiveProtocol_of_other_hello h (h.2 _ hp) ha hdecode hs
        exact not_sessionsStand_of_rejected hp hassets ht

/-! ## Malformed packets -/

/-- A packet that does not decode reaches neither the tracker nor the transport. -/
theorem receiveProtocol_malformed {error : DecodeError} (h : decodePacket bytes = .error error) :
    (component.receiveProtocol player bytes).endpoint = component.endpoint := by
  by_cases ha : component.available = true
  · simp [receiveProtocol, ha, dispatchProtocol, h, isHello, endpoint]
  · simp [receiveProtocol, ha, endpoint]

end CustomModelComponent

end CustomModels.Server
