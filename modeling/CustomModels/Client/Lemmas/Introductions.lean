import CustomModels.Client.Lemmas.Connections

/-!
# The first packet of a connection

The event of a new connection is pending once a packet has been examined while none was announced. A packet that
is kept ends the call, so the event waits for the next one; behind a packet that is consumed it does not.
-/

namespace CustomModels.Client
open CustomModels.Shared CustomModels.Lib

namespace SampRakNetTransport

variable {transport after : SampRakNetTransport} {packet : RakPacket}

/-! ## Silence -/

/-- The step changes the record of traffic and nothing else. -/
def Unmoved (transport after : SampRakNetTransport) : Prop :=
  ∃ actions, after = { transport with actions := transport.actions ++ actions } ∧ connectionEvents actions = []

theorem Unmoved.refl (transport : SampRakNetTransport) : Unmoved transport transport :=
  ⟨[], by rw [List.append_nil], rfl⟩

theorem Unmoved.trans {last : SampRakNetTransport} (h : Unmoved transport after) (h' : Unmoved after last) :
    Unmoved transport last := by
  obtain ⟨xs, rfl, hx⟩ := h
  obtain ⟨ys, rfl, hy⟩ := h'
  refine ⟨xs ++ ys, by rw [List.append_assoc], ?_⟩
  rw [connectionEvents_append, hx, hy, List.append_nil]

theorem record_unmoved {action : HookAction} (h : action.connection? = none) :
    Unmoved transport (transport.record action) := ⟨[action], rfl, List.filterMap_cons_none h⟩

theorem deliver_unmoved : Unmoved transport (transport.deliver packet) := by
  unfold deliver
  split
  · unfold dispatchIncoming
    split
    · exact .refl _
    · exact record_unmoved rfl
  · exact .refl _

theorem draw_unmoved (h : transport.connectedEventPending = false) (packet : Option RakPacket) :
    transport.draw packet = transport.record (.drew packet) := by
  rw [draw, notifyConnectedIfPending, record, h, Bool.not_false, Bool.or_true, Bool.true_or, if_pos rfl]

theorem round_unmoved (hc : transport.connected = false) (hp : transport.connectedEventPending = false)
    (packet : Option RakPacket) : Unmoved transport (transport.round packet).2 := by
  have hdraw : Unmoved transport (transport.draw packet) := by
    rw [draw_unmoved hp]
    exact record_unmoved rfl
  have hconnected : (transport.draw packet).connected = false := by
    rw [draw_unmoved hp]
    exact hc
  have hawait : (transport.draw packet).awaitFirstPacket = transport.draw packet := by
    rw [awaitFirstPacket, hconnected, Bool.false_and, if_neg Bool.false_ne_true]
  have hnotify : (transport.draw packet).notifyDisconnected = transport.draw packet := by
    rw [notifyDisconnected, hconnected, Bool.not_false, if_pos rfl]
  rcases Bool.eq_false_or_eq_true (packet.any RakPacket.claimed) with hclaimed | hclaimed
  · obtain ⟨packet, rfl, hclaimed⟩ := Option.any_eq_true _ _ |>.mp hclaimed
    rw [round_claimed hclaimed, hawait]
    exact hdraw.trans (deliver_unmoved.trans (record_unmoved rfl))
  · rcases @round_unclaimed transport _ hclaimed with hr | ⟨-, hr | hr⟩
    · rw [hr]
      exact hdraw
    · rw [hr, hawait]
      exact hdraw
    · rw [hr, hawait, hnotify]
      exact hdraw

theorem receiveLoop_unmoved (hc : transport.connected = false) (hp : transport.connectedEventPending = false)
    (original : Nat → Option RakPacket) (left drawn : Nat) :
    Unmoved transport (receiveLoop original left drawn transport).2 := by
  induction left generalizing transport drawn with
  | zero => exact .refl _
  | succ left ih =>
      have hround := round_unmoved hc hp (original drawn)
      rcases Bool.eq_false_or_eq_true ((original drawn).any RakPacket.claimed) with hclaimed | hclaimed
      · obtain ⟨packet, hpacket, hclaimed⟩ := Option.any_eq_true _ _ |>.mp hclaimed
        rw [receiveLoop_consumed hpacket hclaimed]
        rw [hpacket] at hround
        have hnext := @ih (transport.round (some packet)).2
        obtain ⟨actions, heq, hsilent⟩ := hround
        exact Unmoved.trans ⟨actions, heq, hsilent⟩
          (hnext (by rw [heq]; exact hc) (by rw [heq]; exact hp) (drawn + 1))
      · rw [receiveLoop_kept hclaimed]
        exact hround

/-! ## The first packet -/

/-- A first packet that is kept is announced by no one, and if there was one its event may be pending. -/
theorem round_first_kept (hp : transport.connectedEventPending = false)
    (hs : transport.connectedEventSent = false) {packet : Option RakPacket}
    (h : packet.any RakPacket.claimed = false) :
    connectionEvents (transport.round packet).2.actions = connectionEvents transport.actions ∧
      (transport.round packet).2.connectedEventSent = false ∧
      ((transport.round packet).2.connectedEventPending = true → packet.isSome = true) := by
  have hdraw := draw_unmoved hp packet
  have hevents : connectionEvents (transport.draw packet).actions = connectionEvents transport.actions := by
    rw [hdraw, record, connectionEvents_append]
    exact List.append_nil _
  have hsent : (transport.draw packet).connectedEventSent = false := by
    rw [hdraw]
    exact hs
  have hawait : (transport.draw packet).awaitFirstPacket.actions = (transport.draw packet).actions ∧
      (transport.draw packet).awaitFirstPacket.connectedEventSent = false := by
    unfold awaitFirstPacket
    split
    · exact ⟨rfl, hsent⟩
    · exact ⟨rfl, hsent⟩
  rcases @round_unclaimed transport _ h with hr | ⟨hsome, hr | hr⟩
  · rw [hr]
    refine ⟨hevents, hsent, fun hpending => ?_⟩
    rw [hdraw, record, hp] at hpending
    cases hpending
  · rw [hr]
    exact ⟨by rw [hawait.1]; exact hevents, hawait.2, fun _ => hsome⟩
  · rw [hr]
    refine ⟨?_, ?_, fun _ => hsome⟩
    · unfold notifyDisconnected
      split
      · rw [hawait.1]
        exact hevents
      · rw [hawait.2, if_neg Bool.false_ne_true]
        rw [← hawait.1] at hevents
        exact hevents
    · unfold notifyDisconnected
      split
      · exact hawait.2
      · rw [hawait.2, if_neg Bool.false_ne_true]

/-- Behind a first packet that is consumed, the next draw announces the connection. -/
theorem receiveLoop_first_consumed (hf : Flags transport) (hc : transport.connected = true)
    (hp : transport.connectedEventPending = false) (hs : transport.connectedEventSent = false)
    {original : Nat → Option RakPacket} (hpacket : original 0 = some packet) (h : packet.claimed = true)
    (left : Nat) :
    ∃ events, connectionEvents (receiveLoop original (left + 2) 0 transport).2.actions =
      connectionEvents transport.actions ++ .connected :: events := by
  -- the round of the first packet makes the event pending
  obtain ⟨actions, hround, hsilent⟩ : ∃ actions, (transport.round (some packet)).2 =
      { transport with connectedEventPending := true, actions := transport.actions ++ actions } ∧
        connectionEvents actions = [] := by
    have hawait : (transport.draw (some packet)).awaitFirstPacket =
        { transport.record (.drew (some packet)) with connectedEventPending := true } := by
      rw [draw_unmoved hp, awaitFirstPacket, record, hc, hs, Bool.not_false, Bool.and_true, if_pos rfl]
    obtain ⟨actions, hd, hnone⟩ := (@deliver_unmoved (transport.draw (some packet)).awaitFirstPacket packet).trans
      (@record_unmoved _ (.deallocated packet) rfl)
    rw [hawait] at hd
    refine ⟨.drew (some packet) :: actions, ?_, ?_⟩
    · rw [round_claimed h, hawait, hd]
      simp [record]
    · rw [← hnone]
      rfl
  have hflags := ((@round_turns transport (some packet)) hf).1
  rw [receiveLoop_consumed hpacket h]
  generalize (transport.round (some packet)).2 = next at hround hflags
  -- and the next draw announces it
  have hdraw : (next.draw (original 1)).actions =
      next.actions ++ [.drew (original 1), .connection .connected] := by
    rw [hround]
    simp [draw, record, notifyConnectedIfPending, hc, hs]
  have hdrawn := ((@draw_turns next (original 1)) hflags).1
  obtain ⟨-, more, hmore, -⟩ := @draw_receiveLoop_turns next original left 1
    (fun _ => receiveLoop_turns original left 2) hdrawn
  refine ⟨connectionEvents more, ?_⟩
  have hannounced : connectionEvents [.drew (original 1), .connection .connected] = [.connected] := rfl
  rw [hmore, hdraw, connectionEvents_append, connectionEvents_append, hannounced, hround,
    connectionEvents_append, hsilent, List.append_nil, List.append_assoc]
  rfl

/-! ## Calls -/

/-- The transport with which a call goes into its loop while no connection is announced. -/
structure Polled (transport : SampRakNetTransport) (call : ReceiveCall) (polled : SampRakNetTransport) : Prop where
  actions : polled.actions = transport.actions
  pending : polled.connectedEventPending = false
  sent : polled.connectedEventSent = false
  connected : polled.connected =
    (if transport.awaitingDisconnectedState then transport.connected else call.isConnected)
  turns : Turns transport polled
  receive : transport.receive call = ((receiveLoop call.original kMaximumConsumedPacketsPerCall 0 polled).1,
    (receiveLoop call.original kMaximumConsumedPacketsPerCall 0 polled).2.record
      (.returned (receiveLoop call.original kMaximumConsumedPacketsPerCall 0 polled).1))

theorem receive_polled {call : ReceiveCall} (hr : some call.self = transport.rakClient)
    (hp : transport.connectedEventPending = false) (hs : transport.connectedEventSent = false) :
    Polled transport call (transport.observeConnection call.isConnected) := by
  have hobserved : (transport.observeConnection call.isConnected).actions = transport.actions ∧
      (transport.observeConnection call.isConnected).connectedEventPending = false ∧
      (transport.observeConnection call.isConnected).connectedEventSent = false ∧
      (transport.observeConnection call.isConnected).connected =
        (if transport.awaitingDisconnectedState then transport.connected else call.isConnected) := by
    unfold observeConnection
    split
    · split
      · exact ⟨rfl, hp, hs, rfl⟩
      · exact ⟨rfl, hp, hs, rfl⟩
    · split
      · rename_i hsame
        exact ⟨rfl, hp, hs, hsame.symm⟩
      · simp [hs]
  obtain ⟨ha, hp', hs', hc⟩ := hobserved
  refine ⟨ha, hp', hs', hc, observeConnection_turns _, ?_⟩
  rw [SampRakNetTransport.receive, if_neg (not_not.mpr hr)]
  simp only [hs', Bool.false_and, if_neg Bool.false_ne_true]

/-- The call makes no callback for the connection, and it leaves an event pending only behind a packet that it has
returned. -/
structure Silent (transport : SampRakNetTransport) (call : ReceiveCall) : Prop where
  events : connectionEvents (transport.afterCall call).actions = connectionEvents transport.actions
  sent : (transport.afterCall call).connectedEventSent = false
  pending : (transport.afterCall call).connectedEventPending = true →
    some call.self = transport.rakClient ∧ (transport.receive call).1.isSome = true

section Polled

variable {call : ReceiveCall} {polled : SampRakNetTransport}

theorem Polled.events (h : Polled transport call polled) :
    connectionEvents (transport.afterCall call).actions =
      connectionEvents (receiveLoop call.original kMaximumConsumedPacketsPerCall 0 polled).2.actions := by
  have hreturned : ∀ packet, connectionEvents [.returned packet] = [] := fun _ => rfl
  rw [afterCall, h.receive, record, connectionEvents_append, hreturned, List.append_nil]

theorem Polled.away (h : Polled transport call polled) (hc : polled.connected = false) :
    Silent transport call := by
  have hevents := h.events
  obtain ⟨actions, hloop, hsilent⟩ :=
    receiveLoop_unmoved hc h.pending call.original kMaximumConsumedPacketsPerCall 0
  rw [hloop, connectionEvents_append, hsilent, List.append_nil, h.actions] at hevents
  have hafter : transport.afterCall call = (receiveLoop call.original kMaximumConsumedPacketsPerCall 0 polled).2.record
      (.returned (receiveLoop call.original kMaximumConsumedPacketsPerCall 0 polled).1) := by
    rw [afterCall, h.receive]
  refine ⟨hevents, ?_, fun hpending => ?_⟩
  · rw [hafter, record, hloop]
    exact h.sent
  · rw [hafter, record, hloop, h.pending] at hpending
    cases hpending

/-- A first packet that is kept is returned before anything is announced. -/
theorem Polled.kept (h : Polled transport call polled) (hr : some call.self = transport.rakClient)
    (hfirst : (call.original 0).any RakPacket.claimed = false) : Silent transport call := by
  have hkept : receiveLoop call.original kMaximumConsumedPacketsPerCall 0 polled =
      (call.original 0, (polled.round (call.original 0)).2) := receiveLoop_kept hfirst
  obtain ⟨hevents, hsent, hpending⟩ := round_first_kept h.pending h.sent hfirst
  have hreceive := h.receive
  rw [hkept] at hreceive
  refine ⟨?_, ?_, fun hp => ⟨hr, ?_⟩⟩
  · rw [h.events, hkept, hevents, h.actions]
  · rw [afterCall, hreceive]
    exact hsent
  · rw [afterCall, hreceive] at hp
    rw [hreceive]
    exact hpending hp

/-- Behind a first packet that is consumed the connection is announced in the same call. -/
theorem Polled.consumed (h : Polled transport call polled) (hf : Flags transport) (hc : polled.connected = true)
    (hfirst : (call.original 0).any RakPacket.claimed = true) :
    ∃ events, connectionEvents (transport.afterCall call).actions =
      connectionEvents transport.actions ++ .connected :: events := by
  obtain ⟨packet, hpacket, hclaimed⟩ := Option.any_eq_true _ _ |>.mp hfirst
  rw [h.events, ← h.actions]
  exact receiveLoop_first_consumed (h.turns hf).1 hc h.pending h.sent hpacket hclaimed 62

end Polled

theorem announces_iff_of_append {call : ReceiveCall} {events : List ConnectionEvent}
    (h : connectionEvents (transport.afterCall call).actions = connectionEvents transport.actions ++ events) :
    transport.Announces call ↔ .connected ∈ events := by
  rw [Announces, h, List.drop_left]

end SampRakNetTransport

namespace Introduction

open SampRakNetTransport

variable {introduction : Introduction}

/-- An event is pending or sent only for a connection of which SA-MP has got a packet. -/
structure Proper (introduction : Introduction) : Prop where
  flags : Flags introduction.transport
  pending : introduction.transport.connectedEventPending = true → introduction.introduced = true
  sent : introduction.transport.connectedEventSent = true → introduction.introduced = true

theorem receive_introduced (introduction : Introduction) (call : ReceiveCall) :
    (introduction.receive call).introduced = ((introduction.transport.afterCall call).connected &&
      (introduction.introduced || (some call.self == introduction.transport.rakClient &&
        (introduction.transport.receive call).1.isSome))) := rfl

/-- What a call does to an introduction that has not happened yet. -/
theorem Proper.receive_unintroduced (h : Proper introduction) (hi : introduction.introduced = false)
    {call : ReceiveCall} :
    (introduction.Preempts call ∧ introduction.transport.Announces call) ∨
      ¬ introduction.Preempts call ∧ ¬ introduction.transport.Announces call ∧
        Proper (introduction.receive call) := by
  obtain ⟨transport, introduced⟩ := introduction
  simp only at hi
  subst hi
  obtain ⟨hf, hpending, hsent⟩ := h
  simp only at hf hpending hsent
  have hp : transport.connectedEventPending = false := by
    by_contra hp
    cases hpending (Bool.not_eq_false _ ▸ hp)
  have hs : transport.connectedEventSent = false := by
    by_contra hs
    cases hsent (Bool.not_eq_false _ ▸ hs)
  have hafter := ((@afterCall_turns transport call) hf).1
  -- a silent call announces nothing, and what it leaves pending SA-MP has got
  have hsilent : Silent transport call → ¬ transport.Announces call ∧
      Proper (Introduction.receive ⟨transport, false⟩ call) := by
    intro hsilent
    refine ⟨?_, hafter, fun hpending => ?_, fun hsent => ?_⟩
    · rw [announces_iff_of_append (hsilent.events.trans (List.append_nil _).symm)]
      exact List.not_mem_nil
    · obtain ⟨hr, hsome⟩ := hsilent.pending hpending
      rw [receive_introduced, (hafter.pending hpending).1, hsome, hr]
      simp
    · exact absurd (hsilent.sent.symm.trans hsent) Bool.false_ne_true
  by_cases hr : some call.self = transport.rakClient
  · have hpolled := receive_polled hr hp hs
    have hconnected := hpolled.connected
    rcases Bool.eq_false_or_eq_true (transport.observeConnection call.isConnected).connected with hc | hc
    · have hfound : call.isConnected = true ∧ transport.awaitingDisconnectedState = false := by
        rw [hc] at hconnected
        split at hconnected
        · rename_i hawaiting
          rw [hf.awaiting hawaiting] at hconnected
          cases hconnected
        · rename_i hawaiting
          exact ⟨hconnected.symm, Bool.not_eq_true _ ▸ hawaiting⟩
      rcases Bool.eq_false_or_eq_true ((call.original 0).any RakPacket.claimed) with hfirst | hfirst
      · obtain ⟨events, he⟩ := hpolled.consumed hf hc hfirst
        exact .inl ⟨⟨hr, hfound.1, hfound.2, rfl, hfirst⟩, (announces_iff_of_append he).mpr List.mem_cons_self⟩
      · refine .inr ⟨fun hpreempts => ?_, hsilent (hpolled.kept hr hfirst)⟩
        rw [hpreempts.2.2.2.2] at hfirst
        cases hfirst
    · refine .inr ⟨fun hpreempts => ?_, hsilent (hpolled.away hc)⟩
      rw [hpreempts.2.2.1, if_neg Bool.false_ne_true] at hconnected
      exact Bool.false_ne_true (hc.symm.trans (hconnected.trans hpreempts.2.1))
  · have hpass : transport.afterCall call = transport := by
      rw [afterCall, SampRakNetTransport.receive, if_pos hr]
    refine .inr ⟨fun hpreempts => absurd hpreempts.1 hr, hsilent ⟨by rw [hpass], by rw [hpass]; exact hs, ?_⟩⟩
    rw [hpass, hp]
    exact fun h => absurd h Bool.false_ne_true

/-- Under the invariant a call announces a connection too early exactly if it preempts SA-MP. -/
theorem Proper.announces_preempts (h : Proper introduction) (call : ReceiveCall) :
    (introduction.transport.Announces call → introduction.introduced = true) ↔ ¬ introduction.Preempts call := by
  rcases Bool.eq_false_or_eq_true introduction.introduced with hi | hi
  · refine ⟨fun _ hpreempts => ?_, fun _ _ => hi⟩
    rw [hpreempts.2.2.2.1] at hi
    cases hi
  · rcases h.receive_unintroduced hi with ⟨hp, ha⟩ | ⟨hp, ha, -⟩
    · refine ⟨fun himplies => ?_, fun hn => absurd hp hn⟩
      rw [himplies ha] at hi
      cases hi
    · exact ⟨fun _ => hp, fun _ hannounces => absurd hannounces ha⟩

theorem Proper.receive (h : Proper introduction) {call : ReceiveCall}
    (hc : introduction.transport.Announces call → introduction.introduced = true) :
    Proper (introduction.receive call) := by
  rcases Bool.eq_false_or_eq_true introduction.introduced with hi | hi
  · have hflags := (@afterCall_turns introduction.transport call h.flags).1
    have hnext : (introduction.receive call).introduced =
        (introduction.transport.afterCall call).connected := by
      simp only [Introduction.receive, hi, Bool.true_or, Bool.and_true]
      rfl
    refine ⟨hflags, fun hpending => ?_, fun hsent => ?_⟩
    · rw [hnext]
      exact (hflags.pending hpending).1
    · rw [hnext]
      exact hflags.sent hsent
  · rcases h.receive_unintroduced hi with ⟨-, ha⟩ | ⟨-, -, hproper⟩
    · rw [hc ha] at hi
      cases hi
    · exact hproper

end Introduction

end CustomModels.Client
