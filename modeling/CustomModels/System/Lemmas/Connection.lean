import CustomModels.Lib.Run
import CustomModels.Server.Lemmas.Endpoint
import CustomModels.System.Connection

/-!
# Agreement of the two handshakes

The server decides once, and every frame that it sends carries its decision: whatever the client hears, and
whenever it hears it, is that decision.
-/

namespace CustomModels.System
open CustomModels.Shared CustomModels.Server CustomModels.Client

/-! ## The decision of the server -/

section Decision

variable {policy : HandshakePolicy} {tracker : PlayerCapabilityTracker} {playerId : UInt32} {hello : Hello}

/-- What the record of the player says about the answer to the Hello, `none` as long as it is pending. -/
def Decided (policy : HandshakePolicy) (hello : Hello) (tracker : PlayerCapabilityTracker)
    (playerId : UInt32) : Option HandshakeResponse → Prop
  | none => tracker.players.lookup playerId = some (.ofState .handshakePending)
  | some (.welcome welcome) => policy.Admits hello ∧
      tracker.players.lookup playerId = some (.accepted policy hello) ∧
      welcome = tracker.welcomeFor (.accepted policy hello)
  | some (.reject reject) => ∃ current, tracker.players.lookup playerId = some current ∧
      current.state = .rejected ∧ current.rejectReason = some reject.reason

/-- The answer to the Hello is the decision, and it never changes. -/
theorem Decided.handleHello (hp : tracker.Runs policy) {decision : Option HandshakeResponse}
    (h : Decided policy hello tracker playerId decision) :
    Decided policy hello (tracker.handleHello playerId hello).2 playerId
        (some (tracker.handleHello playerId hello).1) ∧
      ∀ response, decision = some response → (tracker.handleHello playerId hello).1 = response := by
  cases decision with
  | none =>
      have hl : tracker.players.lookup playerId = some (.ofState .handshakePending) := h
      refine ⟨?_, nofun⟩
      obtain ⟨current, hc, hs, -⟩ | ⟨current, _, hc, hs, -⟩ | ⟨_, _, _, hadmits, he⟩ | ⟨reason, _, _, he⟩ :=
        PlayerCapabilityTracker.handleHello_cases hp playerId hello
      · cases hl.symm.trans hc
        cases hs
      · cases hl.symm.trans hc
        cases hs
      · rw [he]
        exact ⟨hadmits, PlayerCapabilityTracker.assign_lookup_self _, rfl⟩
      · rw [he]
        exact ⟨_, PlayerCapabilityTracker.assign_lookup_self _, rfl, rfl⟩
  | some response =>
      have hanswer : tracker.handleHello playerId hello = (response, tracker) := by
        cases response with
        | welcome value =>
            obtain ⟨-, hl, rfl⟩ := h
            have hs : sameHello (.accepted policy hello) hello = true := sameHello_iff.mpr rfl
            simp only [PlayerCapabilityTracker.handleHello, hl, hs, and_true]
            rfl
        | reject value =>
            obtain ⟨current, hl, hs, hr⟩ := h
            simp [PlayerCapabilityTracker.handleHello, hl, hs, hr]
      rw [hanswer]
      exact ⟨h, fun r hr => Option.some.inj hr⟩

end Decision

/-! ## The client -/

/-- The client has not heard an answer yet. -/
def Undecided (client : ClientHandshake) : Prop :=
  client.state = .disconnected ∨ client.state = .connected ∨ client.state = .helloSent

/-- The client has taken over the decision. -/
def Follows (client : ClientHandshake) : HandshakeResponse → Prop
  | .welcome welcome =>
      (client.state = .welcomeReceived ∨ client.state = .compatible) ∧ client.welcome = some welcome
  | .reject reject => client.state = .rejected ∧ client.rejection = some reject

theorem Undecided.not_follows {client : ClientHandshake} (h : Undecided client)
    (response : HandshakeResponse) :
    ¬ Follows client response := by
  intro hf
  cases response with
  | welcome value => rcases h with h | h | h <;> rcases hf.1 with hw | hw <;> rw [h] at hw <;> cases hw
  | reject value =>
      have hr := hf.1
      rcases h with h | h | h <;> rw [h] at hr <;> cases hr

/-- The client's own mask keeps what the server offers within what the client declared. -/
theorem and_and_not (flags offered : CapabilityFlags) : flags &&& offered &&& ~~~flags = 0 := by
  rw [UInt32.and_comm flags offered, UInt32.and_assoc, UInt32.and_not_self, UInt32.and_zero]

/-- A welcome that the server can give passes every check of the client. -/
theorem handleIncoming_welcome {client : ClientHandshake} {policy : HandshakePolicy}
    {tracker : PlayerCapabilityTracker}
    (he : (Message.welcome (tracker.welcomeFor (.accepted policy client.hello))).Encodable)
    (hs : client.state = .helloSent) :
    client.handleIncoming (Message.welcome (tracker.welcomeFor (.accepted policy client.hello))).packet =
      (.welcomeReceived, { client with
        welcome := some (tracker.welcomeFor (.accepted policy client.hello))
        state := .welcomeReceived }) := by
  have hcaps := areCapabilitiesValid_iff.mpr he
  have hdeclared : (PlayerCapabilityState.accepted policy client.hello).negotiatedCapabilities &&&
      ~~~client.configuration.capabilities = 0 := and_and_not _ _
  simp only [ClientHandshake.handleIncoming, decodePacket_packet he, hs, ne_eq, not_true_eq_false, ↓reduceIte]
  rw [if_neg]
  rintro (h | h | h | h)
  · exact h rfl
  · exact h rfl
  · rw [hcaps] at h
    cases h
  · exact h hdeclared

theorem handleIncoming_of_decoded {client : ClientHandshake} {message : Message} (he : message.Encodable)
    (hs : client.state ≠ .helloSent) : client.handleIncoming message.packet = (.ignored, client) := by
  simp only [ClientHandshake.handleIncoming, decodePacket_packet he, ne_eq, hs, not_false_eq_true, ↓reduceIte]

theorem handleIncoming_reject {client : ClientHandshake} {reject : Reject}
    (he : (Message.reject reject).Encodable) (hs : client.state = .helloSent) :
    client.handleIncoming (Message.reject reject).packet =
      (.rejected, { client with rejection := some reject, state := .rejected }) := by
  simp only [ClientHandshake.handleIncoming, decodePacket_packet he, hs, ne_eq, not_true_eq_false, ↓reduceIte]

/-! ## The invariant -/

/-- The Hello of a client with this configuration. -/
def helloOf (configuration : HandshakeConfiguration) : Hello := (ClientHandshake.make configuration).hello

/-- The server decides on the one Hello of the client, its frames carry the decision, and the client has
heard nothing or follows it. -/
structure Agreeing (configuration : HandshakeConfiguration) (policy : HandshakePolicy) (playerId : UInt32)
    (connection : Connection) : Prop where
  sessions : PlayerCapabilityTracker.Sessions policy connection.server.tracker
  hello : connection.client.hello = helloOf configuration
  toServer : ∀ frame ∈ connection.toServer, (Message.hello (helloOf configuration)).Encodable ∧
    frame = (Message.hello (helloOf configuration)).frame
  decision : ∃ decision,
    Decided policy (helloOf configuration) connection.server.tracker playerId decision ∧
    (∀ sent ∈ connection.server.transport.sent, ∃ response, decision = some response ∧
      response.message.Encodable ∧ sent.bytes = response.message.frame) ∧
    (Undecided connection.client ∨
      ∃ response, decision = some response ∧ Follows connection.client response)

variable {configuration : HandshakeConfiguration} {policy : HandshakePolicy} {playerId : UInt32}
  {connection : Connection}

theorem start_agreeing {tracker : PlayerCapabilityTracker}
    (h : PlayerCapabilityTracker.Sessions policy tracker) (answer : Nat → Bool) :
    Agreeing configuration policy playerId (.start configuration tracker answer playerId) where
  sessions := h.call (.beginHandshake playerId)
  hello := rfl
  toServer := nofun
  decision := ⟨none, PlayerCapabilityTracker.assign_lookup_self _, nofun, .inl (.inl rfl)⟩

/-- A step of the client that keeps its Hello, and keeps it undecided or following. -/
theorem Agreeing.withClient (h : Agreeing configuration policy playerId connection)
    {client : ClientHandshake} (hc : client.configuration = connection.client.configuration)
    (hu : Undecided connection.client → Undecided client)
    (hf : ∀ response, Follows connection.client response → Follows client response) :
    Agreeing configuration policy playerId { connection with client } := by
  obtain ⟨decision, hd, hsent, hclient⟩ := h.decision
  refine ⟨h.sessions, ?_, h.toServer, decision, hd, hsent, ?_⟩
  · rw [← h.hello]
    simp only [ClientHandshake.hello, hc]
  · exact hclient.imp hu fun ⟨response, hr, hfollows⟩ => ⟨response, hr, hf response hfollows⟩

theorem Agreeing.connect (h : Agreeing configuration policy playerId connection) :
    Agreeing configuration policy playerId
      { connection with client := connection.client.onConnected } := by
  unfold ClientHandshake.onConnected
  split
  · rename_i hs
    exact h.withClient rfl (fun _ => .inr (.inl rfl)) fun response hf =>
      absurd hf (Undecided.not_follows (.inl hs) response)
  · exact h

theorem Agreeing.confirmWelcome (h : Agreeing configuration policy playerId connection) :
    Agreeing configuration policy playerId
      { connection with client := connection.client.confirmWelcome.2 } := by
  unfold ClientHandshake.confirmWelcome
  split
  · exact h
  · rename_i hs
    rw [ne_eq, not_not] at hs
    refine h.withClient rfl (fun hu => ?_) fun response hf => ?_
    · rcases hu with hu | hu | hu <;> rw [hs] at hu <;> cases hu
    · cases response with
      | welcome value => exact ⟨.inr rfl, hf.2⟩
      | reject value =>
          have hr := hf.1
          rw [hs] at hr
          cases hr

theorem Agreeing.takeHello (h : Agreeing configuration policy playerId connection) :
    Agreeing configuration policy playerId connection.takeHello := by
  by_cases hs : connection.client.state = .connected
  · by_cases he : (Message.hello connection.client.hello).Encodable
    · have ht : connection.client.takeHello =
          (some (Message.hello connection.client.hello).packet,
            { connection.client with state := .helloSent }) := by
        simp only [ClientHandshake.takeHello, hs, ne_eq, not_true_eq_false, ↓reduceIte,
          encodePacket_of_encodable he]
      have hnext : Agreeing configuration policy playerId
          { connection with client := { connection.client with state := .helloSent } } :=
        h.withClient rfl (fun _ => .inr (.inr rfl)) fun response hf =>
          absurd hf (Undecided.not_follows (.inr (.inl hs)) response)
      simp only [Connection.takeHello, ht, encodeFrame_packet he]
      rw [h.hello] at he ⊢
      refine ⟨hnext.sessions, hnext.hello, ?_, hnext.decision⟩
      intro frame hf
      rcases List.mem_append.mp hf with hf | hf
      · exact ⟨he, List.mem_singleton.mp hf⟩
      · exact h.toServer frame hf
    · have ht : connection.client.takeHello = (none, connection.client) := by
        simp only [ClientHandshake.takeHello, hs, ne_eq, not_true_eq_false, ↓reduceIte,
          encodePacket_of_not_encodable he]
      simp only [Connection.takeHello, ht]
      exact h
  · have ht : connection.client.takeHello = (none, connection.client) := by
      simp only [ClientHandshake.takeHello, ne_eq, hs, not_false_eq_true, ↓reduceIte]
    simp only [Connection.takeHello, ht]
    exact h

theorem Agreeing.deliverToServer (h : Agreeing configuration policy playerId connection) {frame : List UInt8}
    (hf : frame ∈ connection.toServer) :
    Agreeing configuration policy playerId (connection.deliverToServer playerId frame) := by
  obtain ⟨he, rfl⟩ := h.toServer frame hf
  obtain ⟨decision, hd, hsent, hclient⟩ := h.decision
  obtain ⟨hdecided, hsame⟩ := hd.handleHello h.sessions.1
  simp only [Connection.deliverToServer, HandshakeEndpoint.dispatchIncoming_hello he]
  generalize hanswer : connection.server.tracker.handleHello playerId (helloOf configuration) = answered at *
  have hsessions := h.sessions.handleHello playerId (helloOf configuration)
  rw [hanswer] at hsessions
  have htracker := HandshakeEndpoint.sendResponse_tracker
    { connection.server with tracker := answered.2 } playerId answered.1
  refine ⟨by rw [htracker]; exact hsessions, h.hello, h.toServer, some answered.1, ?_, ?_, ?_⟩
  · rw [htracker]
    exact hdecided
  · intro sent hs
    rcases HandshakeEndpoint.mem_sent_sendResponse hs with hs | ⟨hencodable, -, hbytes⟩
    · obtain ⟨response, hr, hencodable, hbytes⟩ := hsent sent hs
      exact ⟨response, by rw [hsame response hr], hencodable, hbytes⟩
    · exact ⟨answered.1, rfl, hencodable, hbytes⟩
  · exact hclient.imp_right fun ⟨response, hr, hfollows⟩ => ⟨response, by rw [hsame response hr], hfollows⟩

/-- Every frame for the client is claimed, and what the client makes of it is not `Malformed`. -/
theorem Agreeing.handleIncoming (h : Agreeing configuration policy playerId connection) {frame : List UInt8}
    (hf : connection.ToClient playerId frame) :
    ∃ bytes, inspect frame = .customModel bytes ∧
      (connection.client.handleIncoming bytes).1 ≠ .malformed ∧
      Agreeing configuration policy playerId
        { connection with client := (connection.client.handleIncoming bytes).2 } := by
  obtain ⟨decision, hd, hsent, hclient⟩ := h.decision
  obtain ⟨response, hr, he, rfl⟩ := hsent _ hf
  refine ⟨response.message.packet, inspect_frame _, ?_⟩
  by_cases hs : connection.client.state = .helloSent
  · subst hr
    cases response with
    | welcome value =>
        have hvalue : value = connection.server.tracker.welcomeFor
            (.accepted policy connection.client.hello) := by rw [h.hello, hd.2.2]
        rw [HandshakeResponse.message, hvalue] at he ⊢
        rw [handleIncoming_welcome he hs, ← hvalue]
        exact ⟨nofun, h.sessions, h.hello, h.toServer, _, hd, hsent, .inr ⟨_, rfl, .inl rfl, rfl⟩⟩
    | reject value =>
        rw [HandshakeResponse.message, handleIncoming_reject he hs]
        exact ⟨nofun, h.sessions, h.hello, h.toServer, _, hd, hsent, .inr ⟨_, rfl, rfl, rfl⟩⟩
  · rw [handleIncoming_of_decoded he hs]
    exact ⟨nofun, h⟩

theorem Agreeing.step (h : Agreeing configuration policy playerId connection) {next : Connection}
    (hstep : Connection.Step playerId connection next) : Agreeing configuration policy playerId next := by
  cases hstep with
  | connect => exact h.connect
  | takeHello => exact h.takeHello
  | confirmWelcome => exact h.confirmWelcome
  | deliverToServer frame hf => exact h.deliverToServer hf
  | deliverToClient frame hf =>
      obtain ⟨bytes, hi, -, hnext⟩ := h.handleIncoming hf
      simp only [Connection.deliverToClient, hi]
      exact hnext

theorem agreeing_of_reachable {tracker : PlayerCapabilityTracker} {answer : Nat → Bool}
    (hs : PlayerCapabilityTracker.Sessions policy tracker)
    (h : Connection.Reachable playerId (.start configuration tracker answer playerId) connection) :
    Agreeing configuration policy playerId connection :=
  Lib.reachable_invariant (fun _ _ hi hstep => hi.step hstep) (start_agreeing hs answer) h

/-! ## The outcome -/

theorem Agreeing.decision_of_compatible (h : Agreeing configuration policy playerId connection)
    (hc : connection.client.state = .compatible) :
    ∃ welcome, connection.client.welcome = some welcome ∧
      Decided policy (helloOf configuration) connection.server.tracker playerId (some (.welcome welcome)) := by
  obtain ⟨decision, hd, -, hu | ⟨response, rfl, hf⟩⟩ := h.decision
  · rcases hu with hu | hu | hu <;> rw [hc] at hu <;> cases hu
  · cases response with
    | welcome welcome => exact ⟨welcome, hf.2, hd⟩
    | reject reject =>
        have hr := hf.1
        rw [hc] at hr
        cases hr

theorem Agreeing.decision_of_rejected (h : Agreeing configuration policy playerId connection)
    (hc : connection.client.state = .rejected) :
    ∃ reject, connection.client.rejection = some reject ∧
      Decided policy (helloOf configuration) connection.server.tracker playerId (some (.reject reject)) := by
  obtain ⟨decision, hd, -, hu | ⟨response, rfl, hf⟩⟩ := h.decision
  · rcases hu with hu | hu | hu <;> rw [hc] at hu <;> cases hu
  · cases response with
    | welcome welcome => rcases hf.1 with hw | hw <;> rw [hc] at hw <;> cases hw
    | reject reject => exact ⟨reject, hf.2, hd⟩

/-- Masking both sides to the declared bits masks their intersection. -/
theorem negotiated_eq (configuration : HandshakeConfiguration) (policy : HandshakePolicy) :
    (PlayerCapabilityState.accepted policy (helloOf configuration)).negotiatedCapabilities =
      configuration.capabilities &&& policy.serverCapabilities &&& kDeclaredCapabilities := by
  show configuration.capabilities &&& kDeclaredCapabilities &&&
    (policy.serverCapabilities &&& kDeclaredCapabilities) = _
  rw [UInt32.and_comm policy.serverCapabilities, UInt32.and_assoc, ← UInt32.and_assoc kDeclaredCapabilities,
    UInt32.and_self, UInt32.and_comm kDeclaredCapabilities, UInt32.and_assoc]

end CustomModels.System
