import CustomModels.System.Lemmas.Separation
import CustomModels.Server.Lemmas.Reports

/-!
# The reception of a player

What the component makes of the first Hello of a player, when its transport takes every frame: a Reject, or a Welcome
and behind it the whole stream of the manifest that the registry has then.
-/

namespace CustomModels.System
open CustomModels.Shared CustomModels.Server

variable {player : UInt32} {component : CustomModelComponent}

/-! ## The answers of the transport -/

theorem send_answer (transport : ServerTransport) (player : UInt32) (message : Message) :
    (AssetPublication.send transport player message).2.answer = transport.answer := by
  obtain hnot | ⟨bytes, hsend⟩ := AssetPublication.send_cases player message
  · rw [hnot]
  · rw [hsend]
    rfl

theorem sendAll_answer (player : UInt32) (messages : List Message) (transport : ServerTransport) :
    (AssetPublication.sendAll player messages transport).2.answer = transport.answer := by
  induction messages generalizing transport with
  | nil => rfl
  | cons message messages ih =>
      have hsent := send_answer transport player message
      simp only [AssetPublication.sendAll]
      generalize AssetPublication.send transport player message = sent at hsent ⊢
      obtain ⟨_ | _, after⟩ := sent
      · exact hsent
      · exact (ih after).trans hsent

theorem onPlayerCompatible_answer (component : CustomModelComponent) (player : UInt32) :
    (component.onPlayerCompatible player).transport.answer = component.transport.answer := by
  have hsent := sendAll_answer player component.registry.buildManifest.stream component.transport
  simp only [CustomModelComponent.onPlayerCompatible, AssetPublication.onPlayerCompatible,
    AssetPublication.sendManifest_eq]
  generalize AssetPublication.sendAll player component.registry.buildManifest.stream component.transport = sent
    at hsent ⊢
  obtain ⟨_ | _, after⟩ := sent
  · split
    · rfl
    · split
      · rfl
      · split
        · rfl
        · exact hsent
  · split
    · rfl
    · split
      · rfl
      · split
        · rfl
        · exact hsent

theorem sendResponse_answer (endpoint : HandshakeEndpoint) (player : UInt32) (response : HandshakeResponse) :
    (endpoint.sendResponse player response).2.transport.answer = endpoint.transport.answer := by
  rw [sendResponse_eq_send]
  exact send_answer endpoint.transport player response.message

theorem receiveProtocol_answer (component : CustomModelComponent) (player : UInt32) (bytes : List UInt8) :
    (component.receiveProtocol player bytes).transport.answer = component.transport.answer := by
  obtain hdrop | ⟨ha, version, message, hd, hm⟩ | ⟨ha, version, hello, hd⟩ :=
    CustomModelComponent.packet_cases component bytes
  · obtain ⟨_, _, heq⟩ := CustomModelComponent.receiveProtocol_dropped hdrop player
    rw [heq]
  · obtain ⟨_, _, heq⟩ := CustomModelComponent.receiveProtocol_report ha hd hm player
    rw [heq]
  · have hsent := sendResponse_answer ⟨(component.tracker.handleHello player hello).2, component.transport⟩ player
      (component.tracker.handleHello player hello).1
    rw [CustomModelComponent.receiveProtocol_hello ha hd]
    split
    · exact (onPlayerCompatible_answer _ _).trans hsent
    · exact hsent

theorem dispatchMalformed_answer (component : CustomModelComponent) (player : UInt32) :
    (component.dispatchMalformed player).transport.answer = component.transport.answer :=
  sendResponse_answer ⟨(component.tracker.rejectPlayer player .malformedHandshake).2, component.transport⟩ player
    (component.tracker.rejectPlayer player .malformedHandshake).1

theorem act_answer (component : CustomModelComponent) (activity : Activity) :
    (act component activity).transport.answer = component.transport.answer := by
  cases activity with
  | operate operation => rfl
  | event event =>
      cases event with
      | playerConnect playerId =>
          simp only [act, CustomModelComponent.step, CustomModelComponent.onPlayerConnect]
          split <;> rfl
      | playerDisconnect playerId =>
          simp only [act, CustomModelComponent.step, CustomModelComponent.onPlayerDisconnect]
          split <;> rfl
      | reset => rfl
      | receive playerId stream =>
          by_cases hid : 0 ≤ playerId
          · simp only [act, CustomModelComponent.step, CustomModelComponent.onReceive_eq component hid]
            cases stream.incoming with
            | unclaimed => rfl
            | malformed => exact dispatchMalformed_answer component _
            | packet bytes => exact receiveProtocol_answer _ _ _
          · simp only [act, CustomModelComponent.step, CustomModelComponent.onReceive, if_pos (Int.not_le.mp hid)]

/-! ## Hellos -/

/-- What a transport has once it has taken messages for the player. -/
def takenFor (player : UInt32) (messages : List Message) : List Sent :=
  messages.map fun message => ⟨player, message.frame, true⟩

/-- How a player that has just connected is received. -/
inductive Reception (player : UInt32) (hello : Hello) (component after : CustomModelComponent) : Prop where
  | rejected (reason : RejectReason) (encodable : (Message.reject ⟨reason⟩).Encodable)
      (sent : after.transport.sent = component.transport.sent ++ takenFor player [.reject ⟨reason⟩])
      (record : ∃ state, after.tracker.players.lookup player = some state ∧ state.state = .rejected ∧
        state.rejectReason = some reason)
  | welcomed (tracker : PlayerCapabilityTracker)
      (encodable : (Message.welcome (tracker.welcomeFor (.accepted makePolicy hello))).Encodable)
      (sent : after.transport.sent = component.transport.sent ++ takenFor player
        (.welcome (tracker.welcomeFor (.accepted makePolicy hello)) :: component.registry.buildManifest.stream))
      (record : after.tracker.players.lookup player = some (.accepted makePolicy hello))
      (session : ∃ state, after.assets.players.lookup player = some state ∧
        state.Recorded component.registry.buildManifest [])

variable {hello : Hello}

/-- The transport behind messages that it has taken for the player. -/
def taking (player : UInt32) (messages : List Message) (transport : ServerTransport) : ServerTransport :=
  { transport with sent := transport.sent ++ takenFor player messages }

section Responses

variable {endpoint : HandshakeEndpoint}

theorem sendResponse_welcome {value : Welcome} (he : (Message.welcome value).Encodable)
    (ha : ∀ n, endpoint.transport.answer n = true) :
    endpoint.sendResponse player (.welcome value) =
      (.welcomeSent, { endpoint with transport := taking player [.welcome value] endpoint.transport }) := by
  rw [sendResponse_eq_send, HandshakeResponse.message, AssetPublication.send_of_encodable he, ServerTransport.send, ha]
  rfl

theorem sendResponse_reject {value : Reject} (he : (Message.reject value).Encodable)
    (ha : ∀ n, endpoint.transport.answer n = true) :
    endpoint.sendResponse player (.reject value) =
      (.rejectSent, { endpoint with transport := taking player [.reject value] endpoint.transport }) := by
  rw [sendResponse_eq_send, HandshakeResponse.message, AssetPublication.send_of_encodable he, ServerTransport.send, ha]
  rfl

end Responses

/-- A pending player is rejected, or it is welcomed and sent the manifest. -/
theorem receiveProtocol_reception (hw : Watched component) (havailable : component.available = true)
    (ha : ∀ n, component.transport.answer n = true)
    (hr : component.tracker.players.lookup player = some (.ofState .handshakePending))
    (hs : component.assets.players.lookup player = some (.ofState .handshakePending))
    (he : (Message.hello hello).Encodable) :
    Reception player hello component (component.receiveProtocol player (Message.hello hello).packet) := by
  have hw' := hw.registry.sound.buildManifest
  rw [CustomModelComponent.receiveProtocol_hello havailable (decodePacket_packet he)]
  obtain ⟨_, hl, hc, -⟩ | ⟨_, _, hl, hc, -⟩ | ⟨_, _, _, hadmits, hanswer⟩ | ⟨reason, hencodable, -, hanswer⟩ :=
    PlayerCapabilityTracker.handleHello_cases hw.sessions.1 player hello
  · cases hr.symm.trans hl
    cases hc
  · cases hr.symm.trans hl
    cases hc
  · have hencodable := PlayerCapabilityTracker.welcomeFor_encodable
      (PlayerCapabilityTracker.accepted_sound hadmits) rfl component.tracker
    have hsession : (component.assets.getState player).state = .handshakePending := by
      rw [AssetPublication.getState_of_lookup hs]
      rfl
    simp only [hanswer]
    rw [sendResponse_welcome hencodable ha, if_pos rfl]
    have hpublished := @AssetPublication.onPlayerCompatible_pending component.assets player component.registry
      (taking player [.welcome (component.tracker.welcomeFor (.accepted makePolicy hello))] component.transport)
      hw' hsession fun n _ => ha n
    simp only [CustomModelComponent.onPlayerCompatible, CustomModelComponent.withEndpoint, hpublished]
    refine .welcomed component.tracker hencodable ?_ (PlayerCapabilityTracker.assign_lookup_self _)
      ⟨_, Finmap.lookup_insert _, AssetPublication.sendingState_recorded _ hw'.entries.ids⟩
    simp [taking, takenFor]
  · simp only [hanswer, PlayerCapabilityTracker.rejectHello]
    rw [sendResponse_reject hencodable ha, if_neg (by simp)]
    exact .rejected reason hencodable rfl ⟨_, PlayerCapabilityTracker.assign_lookup_self _, rfl, rfl⟩

end CustomModels.System
