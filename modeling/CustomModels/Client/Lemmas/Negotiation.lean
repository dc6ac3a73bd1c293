import Mathlib.Data.List.Induction
import CustomModels.Client.Negotiation

/-!
# The transitions of a handshake

Every call makes one of the transitions, so what a handshake holds and what it has sent follows from them alone.
-/

namespace CustomModels.Client
open CustomModels.Shared CustomModels.Lib

namespace ClientHandshake

variable {configuration : HandshakeConfiguration} {handshake next : ClientHandshake} {c : Call}
  {packets : List (List UInt8)}

/-! ## Calls -/

/-- Bytes that come in change nothing but where they are accepted. -/
theorem handleIncoming_transition (handshake : ClientHandshake) (bytes : List UInt8) :
    Transition handshake (.handleIncoming bytes) [] (handshake.handleIncoming bytes).2 ∧
      ((handshake.handleIncoming bytes).1 = .malformed ∨ (handshake.handleIncoming bytes).1 = .ignored →
        (handshake.handleIncoming bytes).2 = handshake) := by
  have hnone : Transition handshake (.handleIncoming bytes) [] handshake := .none nofun nofun
  unfold handleIncoming
  split
  · exact ⟨hnone, fun _ => rfl⟩
  · split
    · exact ⟨hnone, fun _ => rfl⟩
    · rename_i hstate
      have hsent := not_not.mp hstate
      split
      · split
        · exact ⟨hnone, fun _ => rfl⟩
        · rename_i welcome _ hvalid
          simp only [not_or, not_not] at hvalid
          exact ⟨.welcome bytes welcome hsent ⟨hvalid.1, hvalid.2.1, hvalid.2.2.2⟩, by simp⟩
      · exact ⟨.reject bytes _ hsent, by simp⟩
      · exact ⟨hnone, fun _ => rfl⟩

theorem call_transition (handshake : ClientHandshake) (c : Call) :
    Transition handshake c (handshake.yields c) (handshake.call c) := by
  cases c with
  | onConnected =>
      show Transition handshake .onConnected [] handshake.onConnected
      unfold onConnected
      split
      · rename_i h
        exact .connect h
      · rename_i h
        exact .none nofun fun _ => h
  | onDisconnected => exact .disconnect
  | takeHello =>
      unfold call yields takeHello
      simp only
      split
      · exact .none nofun nofun
      · rename_i h
        split
        · exact .none nofun nofun
        · exact .hello _ (not_not.mp h)
  | handleIncoming bytes => exact (handleIncoming_transition handshake bytes).1
  | confirmWelcome =>
      unfold call confirmWelcome
      simp only
      split
      · exact .none nofun nofun
      · rename_i h
        exact .confirm (not_not.mp h)

/-! ## What is held -/

theorem make_held (configuration : HandshakeConfiguration) : Held configuration (make configuration) :=
  ⟨rfl, by simp [make], by simp [make], by simp [make]⟩

theorem Held.transition (h : Held configuration handshake) (ht : Transition handshake c packets next) :
    Held configuration next := by
  have hwelcome := h.welcome
  have hrejection := h.rejection
  cases ht with
  | none hd hc => exact h
  | connect hs => exact ⟨h.configured, by simp, by simp, by simp⟩
  | disconnect => exact ⟨h.configured, by simp, by simp, by simp⟩
  | hello bytes hs => exact ⟨h.configured, by simpa [hs] using hwelcome, h.acceptable, by simpa [hs] using hrejection⟩
  | welcome bytes value hs ha =>
      refine ⟨h.configured, by simp, ?_, by simpa [hs] using hrejection⟩
      rintro _ ⟨⟩
      rw [h.configured] at ha
      exact ha
  | reject bytes value hs => exact ⟨h.configured, by simpa [hs] using hwelcome, h.acceptable, by simp⟩
  | confirm hs => exact ⟨h.configured, by simpa [hs] using hwelcome, h.acceptable, by simpa [hs] using hrejection⟩

theorem run_held (configuration : HandshakeConfiguration) (calls : List Call) :
    Held configuration (run call (make configuration) calls) :=
  run_invariant (fun handshake c h => h.transition (call_transition handshake c)) (make_held configuration) calls

/-! ## Sessions -/

/-- The Hellos that were sent in a session, by the state it is in. -/
def sent (handshake : ClientHandshake) : Nat := if handshake.state = .connected then 0 else 1

theorem Transition.sent (ht : Transition handshake c packets next) (hs : handshake.state ≠ .disconnected)
    (hc : c ≠ .onDisconnected) :
    next.state ≠ .disconnected ∧ handshake.sent + packets.length = next.sent := by
  unfold ClientHandshake.sent
  cases ht with
  | none hd hc => exact ⟨hs, rfl⟩
  | connect h => exact absurd h hs
  | disconnect => exact absurd rfl hc
  | hello bytes h => simp [h]
  | welcome bytes value h ha => simp [h]
  | reject bytes value h => simp [h]
  | confirm h => simp [h]

/-- Along a session the Hellos that it yields are counted by its state. -/
theorem collect_sent {session : List Call} (hs : handshake.state ≠ .disconnected)
    (hsession : .onDisconnected ∉ session) :
    (run call handshake session).state ≠ .disconnected ∧
      handshake.sent + (collect call yields handshake session).length = (run call handshake session).sent := by
  induction session generalizing handshake with
  | nil => exact ⟨hs, rfl⟩
  | cons c session ih =>
      simp only [List.mem_cons, not_or] at hsession
      obtain ⟨hnext, hcount⟩ := (call_transition handshake c).sent hs (Ne.symm hsession.1)
      obtain ⟨hlast, hrest⟩ := ih hnext hsession.2
      refine ⟨hlast, ?_⟩
      rw [run_cons, ← hrest, ← hcount, collect, List.length_append, Nat.add_assoc]

/-- Only `OnConnected` leaves Disconnected. -/
theorem Transition.connected (ht : Transition handshake c packets next) (hs : handshake.state = .disconnected)
    (hn : next.state ≠ .disconnected) : c = .onConnected ∧ next.sent = 0 := by
  cases ht with
  | none hd hc => exact absurd hs hn
  | connect h => exact ⟨rfl, rfl⟩
  | disconnect => exact absurd rfl hn
  | hello bytes h => simp [hs] at h
  | welcome bytes value h ha => simp [hs] at h
  | reject bytes value h => simp [hs] at h
  | confirm h => simp [hs] at h

theorem onConnected_sent (h : handshake.state = .disconnected) :
    (handshake.call .onConnected).state ≠ .disconnected ∧ (handshake.call .onConnected).sent = 0 := by
  simp [call, onConnected, h, ClientHandshake.sent]

theorem exists_session {calls : List Call}
    (h : (run call (make configuration) calls).state ≠ .disconnected) :
    ∃ front session, calls = front ++ .onConnected :: session ∧ Session configuration front session := by
  induction calls using List.reverseRecOn with
  | nil => exact absurd rfl h
  | append_singleton calls c ih =>
      rw [run_append] at h
      have ht := call_transition (run call (make configuration) calls) c
      by_cases hs : (run call (make configuration) calls).state = .disconnected
      · obtain ⟨rfl, -⟩ := ht.connected hs h
        exact ⟨calls, [], rfl, hs, by simp⟩
      · obtain ⟨front, session, rfl, hfront, hsession⟩ := ih hs
        refine ⟨front, session ++ [c], by simp, hfront, fun hm => ?_⟩
        rcases List.mem_append.mp hm with hm | hm
        · exact hsession hm
        · rw [← List.mem_singleton.mp hm] at h
          exact h rfl

end ClientHandshake

end CustomModels.Client
