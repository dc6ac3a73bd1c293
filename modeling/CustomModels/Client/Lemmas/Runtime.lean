import CustomModels.Shared.Lemmas.Frames
import CustomModels.Client.Lemmas.Ledger

/-!
# The callbacks of the client runtime
-/

namespace CustomModels.Client
open CustomModels.Shared

namespace ProtocolContext

variable {context : ProtocolContext} {handshake : ClientHandshake} {transport : ClientTransport}
  {manager : ClientAssetManager} {message : Message}

/-- The transport takes every packet from now on. -/
def Answers (transport : ClientTransport) : Prop :=
  ∀ n, transport.sent.length ≤ n → transport.answer n = true

/-- The transport behind messages that it has taken. -/
def took (transport : ClientTransport) (messages : List Message) : ClientTransport :=
  { transport with sent := transport.sent ++ messages.map fun message => ⟨message.packet, true⟩ }

theorem Answers.took (h : Answers transport) (messages : List Message) :
    Answers (took transport messages) := by
  intro n hn
  rw [ProtocolContext.took, List.length_append] at hn
  exact h n (by omega)

theorem sendAssetReport_eq (ht : context.transport = some transport) (ha : Answers transport)
    (he : message.Encodable) :
    context.sendAssetReport message = { context with transport := some (took transport [message]) } := by
  simp only [sendAssetReport, ht, encodePacket_of_encodable he, ClientTransport.send, ha _ le_rfl, took,
    List.map_singleton]

theorem foldl_reportEvent {events : List ClientAssetEvent} (ht : context.transport = some transport)
    (ha : Answers transport) (he : ∀ m ∈ ClientAssetManager.reports events, m.Encodable) :
    events.foldl reportEvent context =
      { context with transport := some (took transport (ClientAssetManager.reports events)) } := by
  induction events generalizing context transport with
  | nil => simp [ClientAssetManager.reports, took, ← ht]
  | cons event events ih =>
      rw [List.foldl_cons, reportEvent]
      cases hr : event.report with
      | none =>
          have hreports : ClientAssetManager.reports (event :: events) = ClientAssetManager.reports events :=
            List.filterMap_cons_none hr
          rw [hreports] at he ⊢
          exact ih ht ha he
      | some message =>
          have hreports : ClientAssetManager.reports (event :: events) =
              message :: ClientAssetManager.reports events := List.filterMap_cons_some hr
          rw [hreports] at he ⊢
          simp only [sendAssetReport_eq ht ha (he message List.mem_cons_self)]
          rw [ih rfl (ha.took _) fun m hm => he m (List.mem_cons_of_mem _ hm)]
          simp [took]

theorem pumpAssetResults_eq (hh : context.handshake = some handshake) (hc : handshake.state = .compatible)
    (ht : context.transport = some transport) (ha : Answers transport) (hm : context.assets = some manager)
    (he : ∀ m ∈ ClientAssetManager.reports manager.events, m.Encodable) :
    context.pumpAssetResults = (manager.events,
      { context with
        assets := some manager.drainEvents.2
        transport := some (took transport (ClientAssetManager.reports manager.events)) }) := by
  obtain ⟨_, _, _, logged⟩ := context
  cases hh
  cases ht
  cases hm
  apply (if_neg (not_not.mpr hc)).trans
  exact congrArg (Prod.mk _) (foldl_reportEvent rfl ha he)

/-- A manifest message that is not refused goes to the manager, and nothing is sent. -/
theorem handleIncoming_eq (hh : context.handshake = some handshake) (hc : handshake.state = .compatible)
    (hm : context.assets = some manager) (he : message.Encodable) (hk : isManifestMessage message = true)
    (hr : ¬ (manager.handleMessage message).1.Refused) :
    context.handleIncoming message.packet =
      (true, { context with assets := some (manager.handleMessage message).2 }) := by
  have hhandled : context.handleAssetMessage manager message =
      { context with assets := some (manager.handleMessage message).2 } := by
    unfold handleAssetMessage
    generalize manager.handleMessage message = handled at hr ⊢
    obtain ⟨result, assets⟩ := handled
    cases result with
    | invalidOrder => exact absurd (.inl rfl) hr
    | invalidManifest => exact absurd (.inr rfl) hr
    | _ => rfl
  have hgoes : (if handshake.state ≠ .compatible then (false, context)
      else (true, context.handleAssetMessage manager message)) =
        (true, { context with assets := some (manager.handleMessage message).2 }) := by
    rw [if_neg (not_not.mpr hc), hhandled]
  obtain ⟨_, transport, _, logged⟩ := context
  cases hh
  cases hm
  simp only [handleIncoming, decodePacket_packet he]
  cases message with
  | manifestBegin value => exact hgoes
  | manifestAsset value => exact hgoes
  | manifestEnd value => exact hgoes
  | _ => cases hk

end ProtocolContext

/-- A report of a failure is that of a Failed event. -/
theorem ClientAssetEvent.report_eq_assetError {event : ClientAssetEvent} {error : AssetError} :
    event.report = some (.assetError error) ↔ event.kind = .failed ∧
      event.manifestRevision = error.manifestRevision ∧ event.assetId = error.assetId ∧
      event.error = error.reason := by
  obtain ⟨kind, _, _, _, _⟩ := event
  obtain ⟨_, _, _⟩ := error
  cases kind <;> simp [ClientAssetEvent.report]

theorem ClientAssetEvent.report_eq_assetReady {event : ClientAssetEvent} {ready : AssetReady} :
    event.report = some (.assetReady ready) ↔ event.kind = .ready ∧
      event.manifestRevision = ready.manifestRevision ∧ event.assetId = ready.assetId := by
  obtain ⟨kind, _, _, _, _⟩ := event
  obtain ⟨_, _⟩ := ready
  cases kind <;> simp [ClientAssetEvent.report]

theorem ClientAssetManager.handleMessage_fst (manager : ClientAssetManager) (message : Message) :
    (manager.handleMessage message).1 = (manager.receiver.handle message).1 := by
  simp only [handleMessage]
  split <;> rfl

end CustomModels.Client
