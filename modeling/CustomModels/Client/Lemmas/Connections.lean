import CustomModels.Client.Lemmas.Hook
import CustomModels.Lib.Run

/-!
# Connections that the hook tells of

Whatever is polled and drawn, the hook announces a connection only when it has announced the end of the last one,
and it pumps in between. The flags say where it stands.
-/

namespace CustomModels.Client
open CustomModels.Shared CustomModels.Lib

/-! ## Turns -/

/-- What the hook may do when it has or has not announced a connection, and what it has done then. -/
inductive Turn : Bool → HookAction → Bool → Prop where
  | connected : Turn false (.connection .connected) true
  | disconnected : Turn true (.connection .disconnected) false
  | pumped : Turn true .pumped true
  | traffic {sent : Bool} {action : HookAction} (connection : action.connection? = none)
      (pump : action ≠ .pumped) : Turn sent action sent

namespace SampRakNetTransport

variable {transport after : SampRakNetTransport} {packet : RakPacket}

/-- What the flags say of each other. -/
structure Flags (transport : SampRakNetTransport) : Prop where
  pending : transport.connectedEventPending = true →
    transport.connected = true ∧ transport.connectedEventSent = false
  sent : transport.connectedEventSent = true → transport.connected = true
  awaiting : transport.awaitingDisconnectedState = true → transport.connected = false

/-- The step keeps the flags, and its actions are turns. -/
def Turns (transport after : SampRakNetTransport) : Prop :=
  Flags transport → Flags after ∧ ∃ actions, after.actions = transport.actions ++ actions ∧
    Walk Turn transport.connectedEventSent actions after.connectedEventSent

theorem Turns.refl (transport : SampRakNetTransport) : Turns transport transport :=
  fun h => ⟨h, [], (List.append_nil _).symm, .nil⟩

theorem Turns.trans {last : SampRakNetTransport} (h : Turns transport after) (h' : Turns after last) :
    Turns transport last := by
  intro hf
  obtain ⟨hflags, xs, hx, hxs⟩ := h hf
  obtain ⟨hflags, ys, hy, hys⟩ := h' hflags
  exact ⟨hflags, xs ++ ys, by rw [hy, hx, List.append_assoc], hxs.append hys⟩

theorem record_turns {action : HookAction} (h : action.connection? = none) (hp : action ≠ .pumped) :
    Turns transport (transport.record action) :=
  fun hf => ⟨⟨hf.pending, hf.sent, hf.awaiting⟩, [action], rfl, .single (.traffic h hp)⟩

theorem observeConnection_turns (connected : Bool) :
    Turns transport (transport.observeConnection connected) := by
  intro hf
  unfold observeConnection
  split
  · split
    · exact Turns.refl _ hf
    · exact ⟨⟨hf.pending, hf.sent, fun h => by cases h⟩, [], (List.append_nil _).symm, .nil⟩
  · rename_i hawaiting
    split
    · exact Turns.refl _ hf
    · rename_i hchanged
      have hflags : ∀ actions, Flags { transport with
          connected, connectedEventPending := false, connectedEventSent := false, actions } :=
        fun _ => ⟨fun h => (by cases h), fun h => (by cases h), fun h => absurd h hawaiting⟩
      simp only
      split
      · rename_i hnotify
        rw [Bool.and_eq_true] at hnotify
        refine ⟨hflags _, [.connection .disconnected], rfl, .single ?_⟩
        rw [hnotify.1]
        exact .disconnected
      · rename_i hsilent
        refine ⟨hflags _, [], (List.append_nil _).symm, ?_⟩
        -- an announced connection that is polled again has not changed
        have hsent : transport.connectedEventSent = false := by
          by_contra hs
          rw [Bool.not_eq_false] at hs
          have hc := hf.sent hs
          cases connected with
          | false => exact hsilent (by rw [hs]; rfl)
          | true => exact hchanged hc.symm
        rw [hsent]
        exact .nil

theorem notifyConnectedIfPending_turns : Turns transport transport.notifyConnectedIfPending := by
  intro hf
  unfold notifyConnectedIfPending
  split
  · exact Turns.refl _ hf
  · rename_i h
    simp only [Bool.or_eq_true, Bool.not_eq_true', not_or, Bool.not_eq_false, Bool.not_eq_true] at h
    obtain ⟨⟨hconnected, -⟩, hsent⟩ := h
    refine ⟨⟨fun h => (by cases h), fun _ => hconnected, hf.awaiting⟩, [.connection .connected], rfl, .single ?_⟩
    rw [hsent]
    exact .connected

theorem notifyDisconnected_turns : Turns transport transport.notifyDisconnected := by
  intro hf
  unfold notifyDisconnected
  split
  · exact Turns.refl _ hf
  · simp only
    split
    · rename_i hsent
      refine ⟨⟨fun h => (by cases h), fun h => (by cases h), fun _ => rfl⟩, [.connection .disconnected], rfl,
        .single ?_⟩
      rw [hsent]
      exact .disconnected
    · rename_i hsent
      refine ⟨⟨fun h => (by cases h), fun h => (by cases h), fun _ => rfl⟩, [], (List.append_nil _).symm, ?_⟩
      rw [Bool.not_eq_true] at hsent
      rw [hsent]
      exact .nil

theorem awaitFirstPacket_turns : Turns transport transport.awaitFirstPacket := by
  intro hf
  unfold awaitFirstPacket
  split
  · rename_i h
    rw [Bool.and_eq_true, Bool.not_eq_true'] at h
    exact ⟨⟨fun _ => h, hf.sent, hf.awaiting⟩, [], (List.append_nil _).symm, .nil⟩
  · exact Turns.refl _ hf

theorem draw_turns (packet : Option RakPacket) : Turns transport (transport.draw packet) :=
  (record_turns rfl (by simp)).trans notifyConnectedIfPending_turns

theorem deliver_turns : Turns transport (transport.deliver packet) := by
  unfold deliver
  split
  · unfold dispatchIncoming
    split
    · exact .refl _
    · exact record_turns rfl (by simp)
  · exact .refl _

theorem draw_round_turns (packet : Option RakPacket) :
    Turns (transport.draw packet) (transport.round packet).2 := by
  rcases Bool.eq_false_or_eq_true (packet.any RakPacket.claimed) with hclaimed | hclaimed
  · obtain ⟨packet, rfl, hclaimed⟩ := Option.any_eq_true _ _ |>.mp hclaimed
    rw [round_claimed hclaimed]
    exact awaitFirstPacket_turns.trans (deliver_turns.trans (record_turns rfl (by simp)))
  · rcases @round_unclaimed transport _ hclaimed with hr | ⟨-, hr | hr⟩
    · rw [hr]
      exact .refl _
    · rw [hr]
      exact awaitFirstPacket_turns
    · rw [hr]
      exact awaitFirstPacket_turns.trans notifyDisconnected_turns

theorem round_turns (packet : Option RakPacket) : Turns transport (transport.round packet).2 :=
  (draw_turns packet).trans (draw_round_turns packet)

theorem draw_receiveLoop_turns (original : Nat → Option RakPacket) (left drawn : Nat)
    (hloop : ∀ next : SampRakNetTransport, Turns next (receiveLoop original left (drawn + 1) next).2) :
    Turns (transport.draw (original drawn)) (receiveLoop original (left + 1) drawn transport).2 := by
  have hround := @draw_round_turns transport (original drawn)
  rcases Bool.eq_false_or_eq_true ((original drawn).any RakPacket.claimed) with hclaimed | hclaimed
  · obtain ⟨packet, hp, hclaimed⟩ := Option.any_eq_true _ _ |>.mp hclaimed
    rw [receiveLoop_consumed hp hclaimed]
    rw [hp] at hround ⊢
    exact hround.trans (hloop _)
  · rw [receiveLoop_kept hclaimed]
    exact hround

theorem receiveLoop_turns (original : Nat → Option RakPacket) (left drawn : Nat) :
    Turns transport (receiveLoop original left drawn transport).2 := by
  induction left generalizing transport drawn with
  | zero => exact .refl _
  | succ left ih => exact (draw_turns _).trans (draw_receiveLoop_turns original left drawn fun _ => ih (drawn + 1))

theorem afterCall_turns (call : ReceiveCall) : Turns transport (transport.afterCall call) := by
  unfold afterCall receive
  split
  · exact .refl _
  · have hpump : ∀ observed : SampRakNetTransport, Turns observed
        (if observed.connectedEventSent && observed.callbacks.pump then observed.record .pumped else observed) := by
      intro observed hf
      split
      · rename_i h
        rw [Bool.and_eq_true] at h
        refine ⟨⟨hf.pending, hf.sent, hf.awaiting⟩, [.pumped], rfl, .single ?_⟩
        simp only [record, h.1]
        exact .pumped
      · exact Turns.refl _ hf
    exact ((observeConnection_turns _).trans (hpump _)).trans
      ((receiveLoop_turns _ _ _).trans (record_turns rfl (by simp)))

theorem Ready.flags (h : Ready transport) : Flags transport :=
  ⟨fun hp => absurd hp (by simp [h.pending]), fun hs => absurd hs (by simp [h.sent]),
    fun ha => absurd ha (by simp [h.awaiting])⟩

theorem run_turns (h : Ready transport) (calls : List ReceiveCall) :
    Flags (run afterCall transport calls) ∧ Walk Turn false (run afterCall transport calls).actions
      (run afterCall transport calls).connectedEventSent := by
  have hturns : Turns transport (run afterCall transport calls) := by
    induction calls using List.reverseRecOn with
    | nil => exact .refl _
    | append_singleton calls call ih =>
        rw [run_append]
        exact ih.trans (afterCall_turns call)
  obtain ⟨hflags, actions, ha, hwalk⟩ := hturns h.flags
  rw [h.actions, List.nil_append] at ha
  rw [ha]
  rw [h.sent] at hwalk
  exact ⟨hflags, hwalk⟩

end SampRakNetTransport

/-! ## Alternation -/

@[simp] theorem connectionEvents_append (xs ys : List HookAction) :
    connectionEvents (xs ++ ys) = connectionEvents xs ++ connectionEvents ys := List.filterMap_append

theorem alternating_succ (count : Nat) :
    alternating (count + 1) = alternating count ++ [if count % 2 = 0 then .connected else .disconnected] := by
  simp [alternating, List.range_succ]

/-- Turns make the events alternate, and the parity of their number tells where the hook stands. -/
theorem walk_alternating {actions : List HookAction} {sent : Bool} (h : Walk Turn false actions sent) :
    connectionEvents actions = alternating (connectionEvents actions).length ∧
      (sent = true ↔ (connectionEvents actions).length % 2 = 1) := by
  induction actions using List.reverseRecOn generalizing sent with
  | nil =>
      cases h with
      | nil => simp [connectionEvents, alternating]
  | append_singleton actions action ih =>
      obtain ⟨middle, hwalk, hlast⟩ := Walk.append_iff.mp h
      cases hlast with
      | cons first rest =>
          cases rest with
          | nil =>
              obtain ⟨heq, hparity⟩ := ih hwalk
              cases first with
              | connected =>
                  have heven : (connectionEvents actions).length % 2 = 0 := by
                    have := mt hparity.mpr (by simp)
                    omega
                  have hevent : connectionEvents [.connection .connected] = [.connected] := rfl
                  rw [connectionEvents_append, hevent, List.length_append, List.length_singleton, alternating_succ,
                    if_pos heven, ← heq]
                  exact ⟨rfl, fun _ => by omega, fun _ => rfl⟩
              | disconnected =>
                  have hodd := hparity.mp rfl
                  have hevent : connectionEvents [.connection .disconnected] = [.disconnected] := rfl
                  rw [connectionEvents_append, hevent, List.length_append, List.length_singleton, alternating_succ,
                    if_neg (by omega), ← heq]
                  exact ⟨rfl, by simp; omega⟩
              | pumped =>
                  have hevent : connectionEvents [.pumped] = [] := rfl
                  rw [connectionEvents_append, hevent, List.append_nil]
                  exact ⟨heq, hparity⟩
              | traffic connection pump =>
                  have hevent : connectionEvents [action] = [] := List.filterMap_cons_none connection
                  rw [connectionEvents_append, hevent, List.append_nil]
                  exact ⟨heq, hparity⟩

theorem getLast?_alternating {count : Nat} (h : count % 2 = 1) :
    (alternating count).getLast? = some .connected := by
  cases count with
  | zero => cases h
  | succ count => rw [alternating_succ, if_pos (by omega), List.getLast?_concat]

/-- The hook pumps between a connect and the next disconnect. -/
theorem walk_pumped {front back : List HookAction} {sent : Bool}
    (h : Walk Turn false (front ++ .pumped :: back) sent) :
    (connectionEvents front).getLast? = some .connected := by
  obtain ⟨middle, hfront, hrest⟩ := Walk.append_iff.mp h
  obtain ⟨heq, hparity⟩ := walk_alternating hfront
  cases hrest with
  | cons first rest =>
      have hsent : middle = true := by
        cases first with
        | pumped => rfl
        | traffic connection pump => exact absurd rfl pump
      rw [heq]
      exact getLast?_alternating (hparity.mp hsent)

end CustomModels.Client
