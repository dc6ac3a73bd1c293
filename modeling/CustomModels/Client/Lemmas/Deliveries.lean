import CustomModels.Client.Lemmas.Connections

/-!
# What a call takes of a connection that lasts

While SA-MP is connected, and is told of no end, a call draws the first packets that there are, and the hook makes no
callback but for a new connection.
-/

namespace CustomModels.Client
open CustomModels.Shared CustomModels.Lib

namespace SampRakNetTransport

variable {transport after : SampRakNetTransport} {packet : RakPacket}

/-- The step makes no callback but for a new connection. -/
def Lasting (transport after : SampRakNetTransport) : Prop :=
  ∃ events : List ConnectionEvent, Acts transport after (events.map .connection) ∧ .disconnected ∉ events

theorem Lasting.refl (transport : SampRakNetTransport) : Lasting transport transport := ⟨[], .refl _, by simp⟩

theorem Lasting.trans {last : SampRakNetTransport} (h : Lasting transport after) (h' : Lasting after last) :
    Lasting transport last := by
  obtain ⟨events, hacts, hevents⟩ := h
  obtain ⟨more, hmore, hrest⟩ := h'
  refine ⟨events ++ more, ?_, by simp [hevents, hrest]⟩
  rw [List.map_append]
  exact hacts.trans hmore

theorem observeConnection_lasting (transport : SampRakNetTransport) :
    Acts transport (transport.observeConnection true) [] := by
  have hnothing : ∀ {after : SampRakNetTransport}, after.callbacks = transport.callbacks →
      after.rakClient = transport.rakClient → after.initialized = transport.initialized →
      after.actions = transport.actions → Acts transport after [] := by
    intro after hcallbacks hself hinitialized hactions
    exact ⟨hcallbacks, hself, hinitialized, by rw [hactions, List.append_nil]⟩
  unfold observeConnection
  split
  · exact .refl _
  · split
    · exact .refl _
    · simp only [Bool.not_true, Bool.and_false, Bool.false_eq_true, if_false]
      exact hnothing rfl rfl rfl rfl

theorem notifyConnectedIfPending_lasting (transport : SampRakNetTransport) :
    Lasting transport transport.notifyConnectedIfPending := by
  unfold notifyConnectedIfPending
  split
  · exact .refl _
  · exact ⟨[.connected], ⟨rfl, rfl, rfl, rfl⟩, by simp⟩

theorem awaitFirstPacket_lasting (transport : SampRakNetTransport) :
    Lasting transport transport.awaitFirstPacket := by
  unfold awaitFirstPacket
  split
  · exact ⟨[], ⟨rfl, rfl, rfl, (List.append_nil _).symm⟩, by simp⟩
  · exact .refl _

theorem examine_kept (hr : packet.readable = true) (hc : packet.claimed = false)
    (hl : packet.endsConnection = false) : transport.examine packet = (false, transport) := by
  unfold examine
  split
  · rfl
  · rfl
  · rename_i first rest hdata
    split
    · rfl
    · rename_i hhead
      split
      · rename_i hends
        have htold : packet.endsConnection = true := by
          rw [RakPacket.endsConnection, hdata]
          simpa using hends
        rw [hl] at htold
        cases htold
      · split
        · rfl
        · rename_i protocolBytes hinspect
          have hclaimed : packet.claimed = true := by
            refine RakPacket.claimed_iff.mpr ⟨hr, by simpa using hhead, _, hdata, ?_⟩
            rw [hinspect, RakPacket.payload, hdata, (inspect_eq_customModel_iff.mp hinspect).2]
            rfl
          rw [hc] at hclaimed
          cases hclaimed

/-! ## Rounds -/

theorem draw_lasting (packet : Option RakPacket) :
    Lasting (transport.record (.drew packet)) (transport.draw packet) := notifyConnectedIfPending_lasting _

theorem round_kept_lasting {packet : Option RakPacket} (hc : packet.any RakPacket.claimed = false)
    (hl : packet.any RakPacket.endsConnection = false) :
    Lasting (transport.record (.drew packet)) (transport.round packet).2 := by
  cases packet with
  | none => exact draw_lasting none
  | some packet =>
      rcases Bool.eq_false_or_eq_true packet.readable with hr | hr
      · have hround : transport.round (some packet) = (false, (transport.draw (some packet)).awaitFirstPacket) := by
          simp only [round, hr, Bool.not_true, Bool.false_eq_true, if_false, examine_kept hr hc hl, draw]
        rw [hround]
        exact (draw_lasting _).trans (awaitFirstPacket_lasting _)
      · have hround : transport.round (some packet) = (false, transport.draw (some packet)) := by
          simp only [round, hr, Bool.not_false, if_true, draw]
        rw [hround]
        exact draw_lasting _

/-- What a step does is a draw of `packets` and no end of the connection. -/
structure Takes (transport after : SampRakNetTransport) (packets : List RakPacket) : Prop where
  acts : ∃ actions, Acts transport after actions ∧ actions.filterMap HookAction.drawn? = packets ∧
    .disconnected ∉ connectionEvents actions

theorem Takes.trans {last : SampRakNetTransport} {xs ys : List RakPacket} (h : Takes transport after xs)
    (h' : Takes after last ys) : Takes transport last (xs ++ ys) := by
  obtain ⟨actions, hacts, hdrawn, hevents⟩ := h.acts
  obtain ⟨more, hmore, hrest, hlater⟩ := h'.acts
  refine ⟨⟨actions ++ more, hacts.trans hmore, ?_, by simp [hevents, hlater]⟩⟩
  rw [List.filterMap_append, hdrawn, hrest]

theorem takes_of_record {action : HookAction} (hd : action.drawn? = none) (hc : action.connection? = none) :
    Takes transport (transport.record action) [] :=
  ⟨⟨[action], record_acts _ _, by simp [hd], by simp [connectionEvents, hc]⟩⟩

theorem takes_of_drew (packet : Option RakPacket) :
    Takes transport (transport.record (.drew packet)) packet.toList := by
  refine ⟨⟨[.drew packet], record_acts _ _, ?_, by simp [connectionEvents, HookAction.connection?]⟩⟩
  cases packet <;> simp [HookAction.drawn?]

theorem Lasting.takes (h : Lasting transport after) : Takes transport after [] := by
  obtain ⟨events, hacts, hevents⟩ := h
  refine ⟨⟨events.map .connection, hacts, filterMap_connection (fun _ => rfl) events, ?_⟩⟩
  rw [connectionEvents, List.filterMap_map]
  simpa [HookAction.connection?] using hevents

theorem deliver_takes (transport : SampRakNetTransport) (packet : RakPacket) :
    Takes transport (transport.deliver packet) [] := by
  unfold deliver
  split
  · unfold dispatchIncoming
    split
    · exact (Lasting.refl _).takes
    · exact takes_of_record rfl rfl
  · exact (Lasting.refl _).takes

theorem round_takes {packet : Option RakPacket} (hl : packet.any RakPacket.endsConnection = false) :
    Takes transport (transport.round packet).2 packet.toList := by
  rw [← List.append_nil packet.toList]
  refine (takes_of_drew packet).trans ?_
  rcases Bool.eq_false_or_eq_true (packet.any RakPacket.claimed) with hclaimed | hclaimed
  · obtain ⟨packet, rfl, hclaimed⟩ := Option.any_eq_true _ _ |>.mp hclaimed
    rw [round_claimed hclaimed]
    have hwaited := (@draw_lasting transport (some packet)).trans (awaitFirstPacket_lasting _)
    exact (hwaited.takes.trans (deliver_takes _ packet)).trans (takes_of_record rfl rfl)
  · exact (round_kept_lasting hclaimed hl).takes

/-! ## Calls -/

theorem receiveLoop_takes {packets : List RakPacket} {original : Nat → Option RakPacket}
    (ho : ∀ n, original n = packets[n]?) (hl : ∀ packet ∈ packets, packet.endsConnection = false)
    (left drawn : Nat) :
    ∃ first, first <+: packets.drop drawn ∧ (left ≠ 0 → packets.drop drawn ≠ [] → first ≠ []) ∧
      Takes transport (receiveLoop original left drawn transport).2 first := by
  induction left generalizing transport drawn with
  | zero => exact ⟨[], List.nil_prefix, fun h => absurd rfl h, (Lasting.refl _).takes⟩
  | succ left ih =>
      have hlasts : (original drawn).any RakPacket.endsConnection = false := by
        rw [ho]
        cases hp : packets[drawn]? with
        | none => rfl
        | some packet => exact hl packet (List.mem_of_getElem? hp)
      have hdrop : packets.drop drawn = (original drawn).toList ++ packets.drop (drawn + 1) := by
        rw [ho]
        exact List.drop_eq_getElem?_toList_append
      have hround := @round_takes transport _ hlasts
      rcases Bool.eq_false_or_eq_true ((original drawn).any RakPacket.claimed) with hclaimed | hclaimed
      · obtain ⟨packet, hp, hclaimed⟩ := Option.any_eq_true _ _ |>.mp hclaimed
        obtain ⟨rest, hprefix, -, hrest⟩ := @ih (transport.round (some packet)).2 (drawn + 1)
        rw [receiveLoop_consumed hp hclaimed]
        rw [hp] at hround hdrop
        refine ⟨[packet] ++ rest, ?_, fun _ _ => by simp, hround.trans hrest⟩
        rw [hdrop]
        exact List.prefix_append_right_inj _ |>.mpr hprefix
      · rw [receiveLoop_kept hclaimed]
        refine ⟨_, hdrop ▸ List.prefix_append _ _, fun _ hmore hnone => hmore ?_, hround⟩
        rw [ho, Option.toList_eq_nil_iff, List.getElem?_eq_none_iff] at hnone
        exact List.drop_eq_nil_of_le hnone

/-- A call on a connected client draws its first packets, and the connection goes on. -/
theorem afterCall_takes {packets : List RakPacket} {call : ReceiveCall} (hs : some call.self = transport.rakClient)
    (hc : call.isConnected = true) (ho : ∀ n, call.original n = packets[n]?)
    (hl : ∀ packet ∈ packets, packet.endsConnection = false) :
    ∃ first, first <+: packets ∧ (packets ≠ [] → first ≠ []) ∧ Takes transport (transport.afterCall call) first := by
  have hpump : ∀ observed : SampRakNetTransport, Takes observed
      (if observed.connectedEventSent && observed.callbacks.pump then observed.record .pumped else observed) [] := by
    intro observed
    split
    · exact takes_of_record rfl rfl
    · exact (Lasting.refl _).takes
  have hobserved : Takes transport (transport.observeConnection true) [] :=
    ⟨⟨[], observeConnection_lasting transport, rfl, by simp [connectionEvents]⟩⟩
  have hready := hobserved.trans (hpump _)
  unfold afterCall receive
  rw [if_neg (not_not.mpr hs), hc]
  simp only
  generalize (if (transport.observeConnection true).connectedEventSent &&
    (transport.observeConnection true).callbacks.pump then (transport.observeConnection true).record .pumped
      else transport.observeConnection true) = ready at hready ⊢
  obtain ⟨first, hprefix, hsome, hloop⟩ :=
    @receiveLoop_takes ready packets call.original ho hl kMaximumConsumedPacketsPerCall 0
  refine ⟨first, hprefix, hsome (by simp [kMaximumConsumedPacketsPerCall]), ?_⟩
  have hcall := hready.trans (hloop.trans (@takes_of_record _ (.returned
    (receiveLoop call.original kMaximumConsumedPacketsPerCall 0 ready).1) rfl rfl))
  simpa using hcall

theorem Started.self (h : Started transport) : transport.rakClient.isSome = true := by
  obtain ⟨before, callbacks, resolution, hsuccess⟩ := h
  have hcoherent : Coherent (run SampRakNetTransport.live fresh before) :=
    run_invariant (fun _ event h => h.live event) fresh_coherent before
  rcases initializeTransport_cases hcoherent callbacks resolution with ⟨hfails, -⟩ | ⟨-, -, -, _, heq⟩
  · rw [hsuccess] at hfails
    cases hfails
  · rw [heq] at hsuccess
    cases hsuccess
    rfl

end SampRakNetTransport

/-- Turns without an end announce a connection once, if it has not been announced. -/
theorem walk_lasting {actions : List HookAction} {sent next : Bool} (h : Walk Turn sent actions next)
    (hl : .disconnected ∉ connectionEvents actions) :
    (sent = true → next = true) ∧ connectionEvents actions = if !sent && next then [.connected] else [] := by
  induction h with
  | nil => simp [connectionEvents]
  | @cons sent middle next action actions first rest ih =>
      rw [← List.singleton_append, connectionEvents_append, List.mem_append, not_or] at hl
      obtain ⟨hsent, hevents⟩ := ih hl.2
      rw [← List.singleton_append, connectionEvents_append, hevents]
      cases first with
      | connected => simp [connectionEvents, HookAction.connection?, hsent rfl]
      | disconnected => exact absurd hl.1 (by simp [connectionEvents, HookAction.connection?])
      | pumped => simp [connectionEvents, HookAction.connection?, hsent rfl]
      | traffic connection pump =>
          have hnone : connectionEvents [action] = [] := List.filterMap_cons_none connection
          rw [hnone, List.nil_append]
          exact ⟨hsent, rfl⟩

end CustomModels.Client
