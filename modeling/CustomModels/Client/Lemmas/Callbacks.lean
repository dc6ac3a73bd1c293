import CustomModels.Client.Lemmas.Connections

/-!
# What the runtime makes of the callbacks

A handshake stays disconnected until a connection is announced, whatever is dispatched before. So each announced
connection takes it to its Hello.
-/

namespace CustomModels.Client
open CustomModels.Shared CustomModels.Lib

/-! ## The handshake -/

namespace ClientHandshake

/-- Nothing that comes in takes a handshake out of Disconnected. -/
theorem handleIncoming_disconnected (handshake : ClientHandshake) (bytes : List UInt8) :
    (handshake.handleIncoming bytes).2.configuration = handshake.configuration ∧
      (handshake.state = .disconnected → (handshake.handleIncoming bytes).2 = handshake) := by
  unfold handleIncoming
  split
  · exact ⟨rfl, fun _ => rfl⟩
  · split
    · exact ⟨rfl, fun _ => rfl⟩
    · rename_i hstate
      have hsent : handshake.state ≠ .disconnected := by
        rw [not_not.mp hstate]
        simp
      split
      · split
        · exact ⟨rfl, fun _ => rfl⟩
        · exact ⟨rfl, fun h => absurd h hsent⟩
      · exact ⟨rfl, fun h => absurd h hsent⟩
      · exact ⟨rfl, fun _ => rfl⟩

theorem confirmWelcome_disconnected (handshake : ClientHandshake) :
    handshake.confirmWelcome.2.configuration = handshake.configuration ∧
      (handshake.state = .disconnected → handshake.confirmWelcome.2 = handshake) := by
  unfold confirmWelcome
  split
  · exact ⟨rfl, fun _ => rfl⟩
  · rename_i hstate
    exact ⟨rfl, fun h => absurd (not_not.mp hstate) (by rw [h]; simp)⟩

end ClientHandshake

/-! ## Callbacks -/

namespace ProtocolContext

variable {context after : ProtocolContext} {handshake : ClientHandshake} {transport : ClientTransport}

/-- Both are set up, the configuration is that of the client, and the handshake is disconnected unless a
connection was announced. -/
def Hearing (configuration : HandshakeConfiguration) (sent : Bool) (context : ProtocolContext) : Prop :=
  ∃ handshake transport, context.handshake = some handshake ∧ context.transport = some transport ∧
    handshake.configuration = (ClientHandshake.make configuration).configuration ∧
    (sent = false → handshake.state = .disconnected)

/-- The step keeps the configuration, and a handshake that is disconnected. -/
def Settled (context after : ProtocolContext) : Prop :=
  ∀ configuration sent, Hearing configuration sent context → Hearing configuration sent after

theorem Settled.refl (context : ProtocolContext) : Settled context context := fun _ _ h => h

theorem Settled.trans {last : ProtocolContext} (h : Settled context after) (h' : Settled after last) :
    Settled context last := fun configuration sent hh => h' configuration sent (h configuration sent hh)

theorem Settled.of_handshake (hh : after.handshake = context.handshake)
    (ht : context.transport.isSome = true → after.transport.isSome = true) : Settled context after := by
  intro configuration sent ⟨handshake, transport, hh', ht', hrest⟩
  obtain ⟨next, hnext⟩ := Option.isSome_iff_exists.mp (ht (by rw [ht']; rfl))
  exact ⟨handshake, next, hh.trans hh', hnext, hrest⟩

theorem sendAssetReport_settled (context : ProtocolContext) (message : Message) :
    Settled context (context.sendAssetReport message) := by
  unfold sendAssetReport
  split
  · exact .refl _
  · split
    · exact .refl _
    · exact .of_handshake rfl fun _ => rfl

theorem reportEvent_settled (context : ProtocolContext) (event : ClientAssetEvent) :
    Settled context (context.reportEvent event) := by
  unfold reportEvent
  split
  · exact .refl _
  · exact sendAssetReport_settled _ _

theorem foldl_reportEvent_settled (events : List ClientAssetEvent) (context : ProtocolContext) :
    Settled context (events.foldl reportEvent context) := by
  induction events generalizing context with
  | nil => exact .refl _
  | cons event events ih => exact (reportEvent_settled context event).trans (ih _)

theorem pumpAssetResults_settled (context : ProtocolContext) : Settled context context.pumpAssetResults.2 := by
  unfold pumpAssetResults
  split
  · split
    · exact .refl _
    · refine Settled.trans ?_ (foldl_reportEvent_settled _ _)
      exact .of_handshake rfl id
  · exact .refl _

theorem handleAssetMessage_settled (context : ProtocolContext) (assets : ClientAssetManager) (message : Message) :
    Settled context (context.handleAssetMessage assets message) := by
  have hassets : ∀ assets, Settled context { context with assets := some assets } :=
    fun assets => .of_handshake rfl id
  unfold handleAssetMessage
  simp only
  split
  · exact (hassets _).trans (sendAssetReport_settled _ _)
  · exact (hassets _).trans (sendAssetReport_settled _ _)
  · exact hassets _

theorem handleHandshakeMessage_settled (hh : context.handshake = some handshake) (bytes : List UInt8) :
    Settled context (context.handleHandshakeMessage handshake bytes) := by
  intro configuration sent ⟨current, transport, hh', ht, hc, hd⟩
  cases hh.symm.trans hh'
  have hnext := ClientHandshake.handleIncoming_disconnected handshake bytes
  unfold handleHandshakeMessage
  generalize handshake.handleIncoming bytes = outcome at hnext
  obtain ⟨result, next⟩ := outcome
  obtain ⟨hconfiguration, hstays⟩ := hnext
  have hconfirmed := ClientHandshake.confirmWelcome_disconnected next
  have hdisconnected : sent = false → next.state = .disconnected := by
    intro hs
    have hsame : next = handshake := hstays (hd hs)
    rw [hsame]
    exact hd hs
  cases result with
  | welcomeReceived =>
      exact ⟨_, transport, rfl, ht, (hconfirmed.1.trans hconfiguration).trans hc,
        fun hs => by rw [hconfirmed.2 (hdisconnected hs)]; exact hdisconnected hs⟩
  | malformed => exact ⟨_, transport, rfl, ht, hconfiguration.trans hc, hdisconnected⟩
  | rejected => exact ⟨_, transport, rfl, ht, hconfiguration.trans hc, hdisconnected⟩
  | ignored => exact ⟨_, transport, rfl, ht, hconfiguration.trans hc, hdisconnected⟩

theorem handleIncoming_settled (context : ProtocolContext) (bytes : List UInt8) :
    Settled context (context.handleIncoming bytes).2 := by
  unfold handleIncoming
  split
  · exact .refl _
  · rename_i handshake hh
    split
    · exact .of_handshake rfl id
    · split
      · exact handleHandshakeMessage_settled hh bytes
      · exact handleHandshakeMessage_settled hh bytes
      · split
        · exact .refl _
        · split
          · exact .refl _
          · exact handleAssetMessage_settled _ _ _

theorem handleIncomingProtocol_settled (context : ProtocolContext) (bytes : List UInt8) :
    Settled context (context.handleIncomingProtocol bytes) := by
  have hincoming := handleIncoming_settled context bytes
  unfold handleIncomingProtocol
  generalize context.handleIncoming bytes = outcome at hincoming
  obtain ⟨pumps, next⟩ := outcome
  cases pumps with
  | false => exact hincoming
  | true => exact hincoming.trans (pumpAssetResults_settled next)

/-- A connect that is announced takes the handshake to its Hello, if that can be encoded. -/
theorem Hearing.connected {configuration : HandshakeConfiguration} (h : Hearing configuration false context)
    (he : (Message.hello (ClientHandshake.make configuration).hello).Encodable) :
    Hearing configuration true (context.handleConnectionEvent .connected) ∧
      Greets configuration context (context.handleConnectionEvent .connected) := by
  obtain ⟨handshake, transport, hh, ht, hc, hd⟩ := h
  have hdisconnected := hd rfl
  have hhello : handshake.onConnected.hello = (ClientHandshake.make configuration).hello := by
    rw [ClientHandshake.onConnected, if_pos hdisconnected, ClientHandshake.hello, ClientHandshake.hello, hc]
  have htake : handshake.onConnected.takeHello =
      (some (Message.hello (ClientHandshake.make configuration).hello).packet,
        { handshake.onConnected with state := .helloSent }) := by
    have hstate : handshake.onConnected.state = .connected := by
      rw [ClientHandshake.onConnected, if_pos hdisconnected]
    rw [ClientHandshake.takeHello, hstate, hhello, encodePacket_of_encodable he]
    rfl
  have hevent : context.handleConnectionEvent .connected =
      { context with
        handshake := some { handshake.onConnected with state := .helloSent }
        assets := context.assets.map ClientAssetManager.resetSession
        transport := some (transport.send (Message.hello (ClientHandshake.make configuration).hello).packet).2 } := by
    simp only [handleConnectionEvent, hh, ht, htake]
  rw [hevent]
  refine ⟨⟨_, _, rfl, rfl, ?_, by simp⟩, ?_, rfl, transport, _, _, ht, encodePacket_of_encodable he, rfl⟩
  · rw [ClientHandshake.onConnected, if_pos hdisconnected]
    exact hc
  · rw [hh, Option.map_some, hdisconnected]

theorem Hearing.disconnected {configuration : HandshakeConfiguration} {sent : Bool}
    (h : Hearing configuration sent context) :
    Hearing configuration false (context.handleConnectionEvent .disconnected) := by
  obtain ⟨handshake, transport, hh, ht, hc, -⟩ := h
  have hevent : context.handleConnectionEvent .disconnected =
      { context with
        handshake := some handshake.onDisconnected
        assets := context.assets.map ClientAssetManager.resetSession
        malformedPacketLogged := false } := by
    simp only [handleConnectionEvent, hh, ht]
  rw [hevent]
  exact ⟨_, transport, rfl, ht, hc, fun _ => rfl⟩

theorem Hearing.turn {configuration : HandshakeConfiguration} {sent next : Bool} {action : HookAction}
    (h : Hearing configuration sent context) (ht : Turn sent action next)
    (he : (Message.hello (ClientHandshake.make configuration).hello).Encodable) :
    Hearing configuration next (context.hear (.hook action)) := by
  cases ht with
  | connected => exact (h.connected he).1
  | disconnected => exact h.disconnected
  | pumped => exact pumpAssetResults_settled context _ _ h
  | traffic connection pump =>
      cases action with
      | dispatched bytes => exact handleIncomingProtocol_settled context bytes _ _ h
      | connection event => cases connection
      | pumped => exact absurd rfl pump
      | drew packet => exact h
      | returned packet => exact h
      | deallocated packet => exact h

theorem Hearing.run {configuration : HandshakeConfiguration} {sent next : Bool} {steps : List RuntimeStep}
    (h : Hearing configuration sent context)
    (he : (Message.hello (ClientHandshake.make configuration).hello).Encodable)
    (hw : Walk Turn sent (steps.filterMap RuntimeStep.hook?) next) :
    Hearing configuration next (Lib.run hear context steps) := by
  induction steps generalizing context sent with
  | nil =>
      cases hw with
      | nil => exact h
  | cons step steps ih =>
      cases step with
      | hook action =>
          cases hw with
          | cons first rest => exact ih (h.turn first he) rest
      | work surroundings =>
          refine ih ?_ hw
          exact (@Settled.of_handshake context (context.hear (.work surroundings)) rfl id) _ _ h

end ProtocolContext

end CustomModels.Client
