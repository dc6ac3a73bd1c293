import CustomModels.Shared.Lemmas.Frames
import CustomModels.Server.HandshakeEndpoint
import CustomModels.Server.Lemmas.Tracker

/-!
# The handshake endpoint
-/

namespace CustomModels.Server
open CustomModels.Shared CustomModels.Lib

namespace HandshakeEndpoint

variable {endpoint : HandshakeEndpoint} {playerId : UInt32} {response : HandshakeResponse}

/-! ## Sending a response -/

theorem sendResponse_tracker (endpoint : HandshakeEndpoint) (playerId : UInt32)
    (response : HandshakeResponse) :
    (endpoint.sendResponse playerId response).2.tracker = endpoint.tracker := by
  unfold sendResponse
  split
  · rfl
  · split <;> rfl

theorem sendResponse_ne_unrelated : (endpoint.sendResponse playerId response).1 ≠ .unrelated := by
  unfold sendResponse
  split
  · exact nofun
  · split
    · exact nofun
    · cases response with
      | welcome value =>
          dsimp only
          split <;> exact nofun
      | reject value =>
          dsimp only
          split <;> exact nofun

theorem welcome_of_sendResponse
    (h : (endpoint.sendResponse playerId response).1 = .welcomeSent) :
    ∃ value, response = .welcome value := by
  cases response with
  | welcome value => exact ⟨value, rfl⟩
  | reject value =>
      unfold sendResponse at h
      split at h
      · cases h
      · split at h
        · cases h
        · simp only at h
          split at h <;> cases h

/-- An encodable response is handed to the transport in one frame. -/
theorem sendResponse_of_encodable (h : response.message.Encodable) :
    (endpoint.sendResponse playerId response).2 =
      { endpoint with transport := (endpoint.transport.send playerId response.message.frame).2 } := by
  simp only [sendResponse, encodePacket_of_encodable h, encodeFrame_packet h]

/-- The send of an encodable response is reported as failed exactly if the transport refused the frame. -/
theorem sendResponse_sendFailed_iff (h : response.message.Encodable) :
    (endpoint.sendResponse playerId response).1 = .sendFailed ↔
      endpoint.transport.answer endpoint.transport.sent.length = false := by
  simp only [sendResponse, encodePacket_of_encodable h, encodeFrame_packet h, ServerTransport.send]
  by_cases ha : endpoint.transport.answer endpoint.transport.sent.length = true
  · cases response with
    | welcome value => simp [ha]
    | reject value => simp [ha]
  · simp [ha]

/-- What is in the transport's log after a response: it was there before, or it is the response. -/
theorem mem_sent_sendResponse {sent : Sent}
    (h : sent ∈ (endpoint.sendResponse playerId response).2.transport.sent) :
    sent ∈ endpoint.transport.sent ∨
      response.message.Encodable ∧ sent.playerId = playerId ∧ sent.bytes = response.message.frame := by
  by_cases he : response.message.Encodable
  · rw [sendResponse_of_encodable he] at h
    rcases List.mem_append.mp h with h | h
    · exact .inl h
    · rw [List.mem_singleton.mp h]
      exact .inr ⟨he, rfl, rfl⟩
  · simp only [sendResponse, encodePacket_of_not_encodable he] at h
    exact .inl h

/-! ## Dispatch -/

variable {bytes : List UInt8}

theorem dispatchProtocolPayload_of_magic (h : hasProtocolMagic bytes = true) :
    endpoint.dispatchProtocolPayload playerId bytes = endpoint.dispatchClaimedProtocol playerId bytes := by
  simp only [dispatchProtocolPayload, inspectProtocolPayload, h, Bool.not_true, Bool.false_eq_true,
    ↓reduceIte]

theorem dispatchProtocolPayload_hello {version : UInt16} {hello : Hello}
    (h : decodePacket bytes = .ok ⟨version, .hello hello⟩) :
    endpoint.dispatchProtocolPayload playerId bytes =
      sendResponse { endpoint with tracker := (endpoint.tracker.handleHello playerId hello).2 } playerId
        (endpoint.tracker.handleHello playerId hello).1 := by
  obtain ⟨-, he, rfl⟩ := decodePacket_eq_ok.mp h
  rw [dispatchProtocolPayload_of_magic (hasProtocolMagic_packet _), dispatchClaimedProtocol,
    if_neg (Nat.not_lt.mpr (Message.packet_length_le he)), h]

theorem dispatchIncoming_hello {hello : Hello} (h : (Message.hello hello).Encodable) :
    endpoint.dispatchIncoming playerId (Message.hello hello).frame =
      sendResponse { endpoint with tracker := (endpoint.tracker.handleHello playerId hello).2 } playerId
        (endpoint.tracker.handleHello playerId hello).1 := by
  rw [dispatchIncoming, inspect_frame]
  simp only [← dispatchProtocolPayload_of_magic (hasProtocolMagic_packet (.hello hello))]
  exact dispatchProtocolPayload_hello (decodePacket_packet h)

theorem rejectionFor_encodable (error : DecodeError) : (Message.reject ⟨rejectionFor error⟩).Encodable := by
  unfold rejectionFor
  split <;> decide

theorem rejectMalformed_tracker (endpoint : HandshakeEndpoint) (playerId : UInt32) :
    (endpoint.rejectMalformed playerId).2.tracker =
      (endpoint.tracker.rejectPlayer playerId .malformedHandshake).2 := sendResponse_tracker _ _ _

end HandshakeEndpoint

/-! ## Answers that match the records -/

theorem declaredOnly_and {flags : CapabilityFlags} (h : DeclaredOnly flags) (mask : CapabilityFlags) :
    DeclaredOnly (flags &&& mask) := by
  rw [DeclaredOnly, UInt32.and_assoc, UInt32.and_comm mask, ← UInt32.and_assoc, h, UInt32.zero_and]

namespace PlayerCapabilityTracker

variable {tracker : PlayerCapabilityTracker} {playerId : UInt32} {policy : HandshakePolicy} {reason : RejectReason}

/-- Records are sound, and the reasons in them can be sent. -/
structure Answerable (policy : HandshakePolicy) (tracker : PlayerCapabilityTracker) : Prop where
  sessions : Sessions policy tracker
  reasons : ∀ playerId state reason, tracker.players.lookup playerId = some state →
    state.rejectReason = some reason → (Message.reject ⟨reason⟩).Encodable

/-- An answer about a player, with the tracker that it leaves: it can be sent, the record of the player matches it,
and the other records are as they were. -/
structure Answered (policy : HandshakePolicy) (tracker : PlayerCapabilityTracker) (playerId : UInt32)
    (answer : HandshakeResponse × PlayerCapabilityTracker) : Prop where
  encodable : answer.1.message.Encodable
  recorded : (answer.2.getState playerId).Matches answer.1.message
  others : ∀ other, other ≠ playerId → answer.2.players.lookup other = tracker.players.lookup other
  answerable : Answerable policy answer.2

theorem make_answerable (policy : HandshakePolicy) : Answerable policy (make policy) :=
  ⟨make_sessions policy, by simp⟩

theorem Answerable.assign (h : Answerable policy tracker) {state : PlayerCapabilityState} (hs : state.Sound policy)
    (hr : ∀ reason, state.rejectReason = some reason → (Message.reject ⟨reason⟩).Encodable) :
    Answerable policy (tracker.assign playerId state) := by
  refine ⟨h.sessions.assign hs, fun id current reason hl => ?_⟩
  by_cases he : id = playerId
  · subst he
    rw [assign_lookup_self] at hl
    cases hl
    exact hr reason
  · rw [assign_lookup_of_ne he] at hl
    exact h.reasons id current reason hl

/-- Both kinds of rejection store a record with the reason that they answer. -/
theorem Answerable.reject (h : Answerable policy tracker) {state : PlayerCapabilityState}
    (hs : state.state = .rejected) (hr : state.rejectReason = some reason)
    (he : (Message.reject ⟨reason⟩).Encodable) (playerId : UInt32) :
    Answered policy tracker playerId (.reject ⟨reason⟩, tracker.assign playerId state) := by
  refine ⟨he, ?_, fun other ho => assign_lookup_of_ne ho, h.assign (rejection_sound hs (by rw [hr]; rfl)) ?_⟩
  · rw [getState_of_lookup (assign_lookup_self _)]
    exact ⟨hs, hr⟩
  · intro other ho
    rw [hr] at ho
    cases ho
    exact he

theorem Answerable.rejectHello (h : Answerable policy tracker) (playerId : UInt32) (hello : Hello)
    (he : (Message.reject ⟨reason⟩).Encodable) :
    Answered policy tracker playerId (tracker.rejectHello playerId hello reason) := h.reject rfl rfl he playerId

theorem Answerable.rejectPlayer (h : Answerable policy tracker) (playerId : UInt32)
    (he : (Message.reject ⟨reason⟩).Encodable) :
    Answered policy tracker playerId (tracker.rejectPlayer playerId reason) := h.reject rfl rfl he playerId

/-- What a sound record of a compatible player says is answered with a Welcome. -/
theorem welcomeFor_encodable {state : PlayerCapabilityState} (hs : state.Sound policy)
    (hc : state.state = .compatible) (tracker : PlayerCapabilityTracker) :
    (HandshakeResponse.welcome (tracker.welcomeFor state)).message.Encodable := by
  obtain ⟨hadmits, hnegotiated, -⟩ := hs.compatible hc
  show DeclaredOnly state.negotiatedCapabilities
  rw [hnegotiated]
  exact declaredOnly_and hadmits.2.2.2.1 _

/-- The answer to a Hello is a Welcome or a Reject, as the record of the player says afterwards. -/
theorem Answerable.handleHello (h : Answerable policy tracker) (playerId : UInt32) (hello : Hello) :
    Answered policy tracker playerId (tracker.handleHello playerId hello) := by
  obtain ⟨current, hl, hc, -, he⟩ | ⟨current, reason, hl, hc, hr, he⟩ | ⟨-, -, -, hadmits, he⟩ |
      ⟨reason, hencodable, -, he⟩ := handleHello_cases h.sessions.1 playerId hello
  · rw [he]
    refine ⟨welcomeFor_encodable (h.sessions.2 _ _ hl) hc tracker, ?_, fun _ _ => rfl, h⟩
    rw [getState_of_lookup hl]
    exact ⟨hc, rfl⟩
  · rw [he]
    refine ⟨h.reasons _ _ _ hl hr, ?_, fun _ _ => rfl, h⟩
    rw [getState_of_lookup hl]
    exact ⟨hc, hr⟩
  · rw [he]
    have hsound := accepted_sound hadmits
    refine ⟨welcomeFor_encodable hsound rfl tracker, ?_, fun other ho => assign_lookup_of_ne ho,
      h.assign hsound nofun⟩
    rw [getState_of_lookup (assign_lookup_self _)]
    exact ⟨rfl, rfl⟩
  · rw [he]
    exact h.rejectHello playerId hello hencodable

theorem Answerable.call (h : Answerable policy tracker) (c : NamedCall) :
    Answerable policy (tracker.call c.1) := by
  obtain ⟨c, hc⟩ := c
  cases c with
  | beginHandshake playerId => exact h.assign ⟨nofun, nofun⟩ nofun
  | handleHello playerId hello => exact (h.handleHello playerId hello).answerable
  | rejectPlayer playerId reason => exact (h.rejectPlayer playerId hc).answerable
  | removePlayer playerId =>
      refine ⟨h.sessions.call _, fun id state reason hl => ?_⟩
      by_cases he : id = playerId
      · subst he
        simp [PlayerCapabilityTracker.call, removePlayer] at hl
      · simp only [PlayerCapabilityTracker.call, removePlayer, Finmap.lookup_erase_ne he] at hl
        exact h.reasons id state reason hl
  | reset => exact ⟨h.sessions.call _, by simp [PlayerCapabilityTracker.call, reset]⟩

theorem run_answerable (policy : HandshakePolicy) (calls : List NamedCall) :
    Answerable policy (run (fun tracker c => tracker.call c.1) (make policy) calls) :=
  run_invariant (fun _ c h => h.call c) (make_answerable policy) calls

end PlayerCapabilityTracker

theorem inspect_eq_unrelated_iff {frame : List UInt8} : inspect frame = .unrelated ↔ ¬ Claimed frame := by
  have hclaimed : Claimed frame ↔ ∃ payload, inspect frame = .customModel payload := by
    simp only [inspect_eq_customModel_iff, exists_and_left, exists_eq, and_true]
    rw [Claimed, List.prefix_iff_eq_take]
    exact eq_comm
  rw [hclaimed]
  cases inspect frame with
  | unrelated => simp
  | customModel payload => simp

namespace HandshakeEndpoint

open PlayerCapabilityTracker

variable {endpoint : HandshakeEndpoint} {policy : HandshakePolicy}

/-- Whatever the protocol bytes are, one answer that matches the record is handed to the transport. -/
theorem dispatchClaimedProtocol_answered (h : Answerable policy endpoint.tracker) (playerId : UInt32)
    (bytes : List UInt8) :
    ∃ answer, Answered policy endpoint.tracker playerId answer ∧
      endpoint.dispatchClaimedProtocol playerId bytes =
        sendResponse ⟨answer.2, endpoint.transport⟩ playerId answer.1 := by
  have hmalformed : (Message.reject ⟨.malformedHandshake⟩).Encodable := by decide
  unfold dispatchClaimedProtocol
  split
  · exact ⟨_, h.rejectPlayer playerId hmalformed, rfl⟩
  · split
    · exact ⟨_, h.rejectPlayer playerId (rejectionFor_encodable _), rfl⟩
    · exact ⟨_, h.handleHello playerId _, rfl⟩
    · exact ⟨_, h.rejectPlayer playerId hmalformed, rfl⟩

end HandshakeEndpoint

end CustomModels.Server
