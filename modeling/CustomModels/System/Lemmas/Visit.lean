import CustomModels.Client.Lemmas.Deliveries
import CustomModels.System.Lemmas.Connection
import CustomModels.System.Lemmas.Exchange
import CustomModels.System.Lemmas.Reception
import CustomModels.System.Visit

/-!
# The visit of a player

A visit goes through its phases in one direction. In the last one the visit is an exchange of its own: what the hook
has in hand and what is under way to it are the frames that come to the client.
-/

namespace CustomModels.System
open CustomModels.Shared CustomModels.Server CustomModels.Client

variable {player : UInt32} {visit : Visit} {configuration : HandshakeConfiguration} {manifests : Manifest → Prop}

/-! ## Packets under way -/

theorem arrival_claimed (message : Message) : (arrival message.frame).claimed = true := by
  rw [RakPacket.claimed_iff]
  exact ⟨rfl, rfl, _, rfl, inspect_frame message⟩

theorem arrival_deliverable {message : Message} (h : message.Encodable) :
    (arrival message.frame).deliverable = true := by
  have hlength := message.packet_length_le h
  rw [kMaximumPacketSize] at hlength
  simp only [RakPacket.deliverable, arrival, Message.frame, Option.any_some, List.length_cons, Bool.true_and,
    decide_eq_true_eq]
  omega

theorem arrival_lasting (message : Message) : (arrival message.frame).endsConnection = false := by
  simp [RakPacket.endsConnection, arrival, Message.frame, kDisconnectionNotification, kConnectionLost]

/-- The packets that the hook will dispatch. -/
def dispatches (inbox : List RakPacket) : List (List UInt8) :=
  (inbox.filter fun packet => packet.claimed && packet.deliverable).map RakPacket.payload

theorem dispatches_append (xs ys : List RakPacket) : dispatches (xs ++ ys) = dispatches xs ++ dispatches ys := by
  simp [dispatches]

theorem dispatches_arrivals {messages : List Message} (h : ∀ message ∈ messages, message.Encodable) :
    dispatches (messages.map fun message => arrival message.frame) = messages.map Message.packet := by
  induction messages with
  | nil => rfl
  | cons message messages ih =>
      have hrest := ih fun m hm => h m (List.mem_cons_of_mem _ hm)
      simp only [dispatches] at hrest ⊢
      simp only [List.map_cons, List.filter_cons, arrival_claimed, arrival_deliverable (h message List.mem_cons_self),
        Bool.and_self, ↓reduceIte, hrest]
      rfl

namespace Visit

theorem coming_eq (visit : Visit) :
    visit.coming = visit.due.filterMap HookAction.dispatched? ++ dispatches visit.inbox := rfl

/-- What the server has handed over for the player since there were `count` frames, and what of it was taken. -/
theorem serve_eq {activity : Activity} {messages : List Message}
    (h : (sentSince visit.server.transport.sent.length (act visit.server activity)).filter
      (fun sent => sent.playerId == player && sent.accepted) = takenFor player messages) :
    visit.serve player activity =
      { visit with
        server := act visit.server activity
        inbox := visit.inbox ++ messages.map fun message => arrival message.frame } := by
  simp only [serve, h, takenFor, List.map_map]
  rfl

theorem sentSince_takenFor {activity : Activity} {messages : List Message}
    (h : (act visit.server activity).transport.sent = visit.server.transport.sent ++ takenFor player messages) :
    (sentSince visit.server.transport.sent.length (act visit.server activity)).filter
      (fun sent => sent.playerId == player && sent.accepted) = takenFor player messages := by
  rw [sentSince, h, List.drop_left, List.filter_eq_self]
  intro sent hsent
  obtain ⟨message, -, rfl⟩ := List.mem_map.mp hsent
  simp

theorem sentSince_unheard {activity : Activity} (h : activity.concern player = none) :
    (sentSince visit.server.transport.sent.length (act visit.server activity)).filter
      (fun sent => sent.playerId == player && sent.accepted) = takenFor player [] := by
  obtain ⟨-, -, -, hsends⟩ := act_unheard visit.server h
  obtain ⟨new, hnew⟩ := act_sent_mono visit.server activity
  have hnone : new.filter (·.playerId == player) = [] := by
    simp only [sendsTo, ← hnew, List.filter_append] at hsends
    exact List.append_right_eq_self.mp hsends
  rw [sentSince, ← hnew, List.drop_left, takenFor, List.map_nil]
  rw [List.filter_eq_nil_iff] at hnone ⊢
  intro sent hsent
  simp [hnone sent hsent]

end Visit

/-! ## The hook and the server -/

/-- What holds throughout a visit. -/
structure Wired (visit : Visit) : Prop where
  initialized : visit.hook.initialized = true
  incoming : visit.hook.callbacks.incoming = true
  self : visit.hook.rakClient.isSome = true
  flags : SampRakNetTransport.Flags visit.hook
  lasting : ∀ packet ∈ visit.inbox, packet.endsConnection = false
  watched : Watched visit.server
  available : visit.server.available = true
  answers : ∀ n, visit.server.transport.answer n = true

/-- The hook has announced the connection exactly if the runtime is about to hear of it. -/
def Unheard (visit : Visit) : Prop :=
  connectionEvents visit.due = if visit.hook.connectedEventSent then [.connected] else []

/-- The runtime has heard of the connection. -/
def Announced (visit : Visit) : Prop :=
  visit.hook.connectedEventSent = true ∧ connectionEvents visit.due = []

namespace Wired

theorem samp (h : Wired visit) {packet : RakPacket} (hp : packet.endsConnection = false) :
    Wired { visit with inbox := visit.inbox ++ [packet] } := by
  refine { h with lasting := ?_ }
  intro other ho
  rcases List.mem_append.mp ho with ho | ho
  · exact h.lasting other ho
  · rw [List.mem_singleton.mp ho]
    exact hp

theorem serve (h : Wired visit) {activity : Activity} {messages : List Message}
    (hsent : (sentSince visit.server.transport.sent.length (act visit.server activity)).filter
      (fun sent => sent.playerId == player && sent.accepted) = takenFor player messages) :
    Wired (visit.serve player activity) := by
  rw [Visit.serve_eq hsent]
  refine { h with lasting := ?_, watched := h.watched.act activity, available := ?_, answers := ?_ }
  · intro packet hp
    rcases List.mem_append.mp hp with hp | hp
    · exact h.lasting packet hp
    · obtain ⟨message, -, rfl⟩ := List.mem_map.mp hp
      exact arrival_lasting message
  · exact (act_available visit.server activity).trans h.available
  · rw [act_answer]
    exact h.answers

/-- What a call of `Receive` does that finds the callbacks made. -/
structure Call (visit : Visit) (available : Nat) (hook : SampRakNetTransport) (due : List HookAction)
    (first rest : List RakPacket) : Prop where
  receive : visit.receive available = { visit with hook, due, inbox := rest }
  inbox : visit.inbox = first ++ rest
  some : available ≠ 0 → visit.inbox ≠ [] → first ≠ []
  acts : SampRakNetTransport.Acts visit.hook hook due
  flags : SampRakNetTransport.Flags hook
  dispatched : due.filterMap HookAction.dispatched? = dispatches first
  announced : visit.hook.connectedEventSent = true → hook.connectedEventSent = true
  events : connectionEvents due =
    if !visit.hook.connectedEventSent && hook.connectedEventSent then [.connected] else []

theorem call (h : Wired visit) (hdue : visit.due = []) (hpumping : visit.pumping = false) (available : Nat) :
    ∃ hook due first rest, Call visit available hook due first rest := by
  obtain ⟨self, hself⟩ := Option.isSome_iff_exists.mp h.self
  have hlasting : ∀ packet ∈ visit.inbox.take available, packet.endsConnection = false :=
    fun packet hp => h.lasting packet (List.mem_of_mem_take hp)
  have hown : some (visit.callFor available).self = visit.hook.rakClient := by
    rw [Visit.callFor, hself]
    rfl
  obtain ⟨first, hfirst, hsome, ⟨actions, hacts, hdrawn, hends⟩⟩ :=
    SampRakNetTransport.afterCall_takes hown rfl (fun _ => rfl) hlasting
  obtain ⟨others, hother, htransparent⟩ :=
    SampRakNetTransport.afterCall_transparent h.initialized h.incoming (visit.callFor available)
  obtain ⟨hflags, more, hmore, hwalk⟩ := SampRakNetTransport.afterCall_turns (visit.callFor available) h.flags
  obtain rfl : others = actions := List.append_cancel_left (hother.actions.symm.trans hacts.actions)
  obtain rfl : more = others := List.append_cancel_left (hmore.symm.trans hacts.actions)
  obtain ⟨rest, hrest⟩ : first <+: visit.inbox := hfirst.trans (List.take_prefix available visit.inbox)
  obtain ⟨hsent, hevents⟩ := walk_lasting hwalk hends
  refine ⟨visit.hook.afterCall (visit.callFor available), more, first, rest, ?_, hrest.symm, ?_, hacts, hflags, ?_,
    hsent, hevents⟩
  · have hinbox : visit.inbox.drop first.length = rest := by
      rw [← hrest, List.drop_left]
    rw [Visit.receive, if_neg (by simp [hdue, hpumping])]
    simp only [hacts.actions, List.drop_left, hdrawn, hinbox]
  · intro havailable hinbox
    exact hsome (by simp [List.take_eq_nil_iff, havailable, hinbox])
  · rw [htransparent.dispatched, hdrawn]
    rfl

/-- A call of `Receive` takes packets into hand, and at most it announces the connection. -/
theorem receive (h : Wired visit) (available : Nat) :
    Wired (visit.receive available) ∧ (visit.receive available).coming = visit.coming ∧
      (Unheard visit → Unheard (visit.receive available)) ∧
      (Announced visit → Announced (visit.receive available)) := by
  by_cases hbusy : visit.due ≠ [] ∨ visit.pumping = true
  · rw [Visit.receive, if_pos hbusy]
    exact ⟨h, rfl, id, id⟩
  · rw [not_or, not_not, Bool.not_eq_true] at hbusy
    obtain ⟨hook, due, first, rest, hcall⟩ := h.call hbusy.1 hbusy.2 available
    rw [hcall.receive]
    refine ⟨{ h with
      initialized := by rw [hcall.acts.initialized]; exact h.initialized
      incoming := by rw [hcall.acts.callbacks]; exact h.incoming
      self := by rw [hcall.acts.rakClient]; exact h.self
      flags := hcall.flags
      lasting := fun packet hp => h.lasting packet (hcall.inbox ▸ List.mem_append_right _ hp) }, ?_, ?_, ?_⟩
    · rw [Visit.coming_eq, Visit.coming_eq, hcall.inbox, dispatches_append, hcall.dispatched, hbusy.1]
      rfl
    · intro hunheard
      have hidle : visit.hook.connectedEventSent = false := by
        rw [Unheard, hbusy.1] at hunheard
        simpa [connectionEvents] using hunheard
      rw [Unheard, hcall.events, hidle]
      simp
    · intro hannounced
      refine ⟨hcall.announced hannounced.1, ?_⟩
      rw [hcall.events, hannounced.1]
      simp

end Wired

end CustomModels.System
