import CustomModels.Client.ReceiveSlot
import CustomModels.Client.Lemmas.Hook

/-!
# The entry of `Receive` in the vtable

What holds at each stage of the thread, whatever SA-MP and other modules do between its steps, and why the steps
are those of the lifecycle that the other results about the transport start from.
-/

namespace CustomModels.Client.ReceiveSlot
open CustomModels.Shared CustomModels.Lib

variable {slot : ReceiveSlot}

/-! ## What holds -/

/-- `Initialize` has kept the callbacks, and nothing else. -/
def Prepared (transport : SampRakNetTransport) : Prop :=
  ∃ callbacks actions, callbacks.incoming = true ∧ callbacks.connection = true ∧
    transport = { SampRakNetTransport.fresh with callbacks, actions }

/-- `Initialize` has found the client. -/
def Resolved (transport : SampRakNetTransport) : Prop :=
  ∃ callbacks actions rakClient, callbacks.incoming = true ∧ callbacks.connection = true ∧
    transport =
      { SampRakNetTransport.fresh with callbacks, actions, rakClient := some rakClient, initialized := true }

/-- The hook is in the chain at these stages, with or without `receiveSlot_`. -/
def HookedAt (receiveSlot : Bool) : Stage → Prop
  | .idle | .restoring | .exchangingBack => receiveSlot = true
  | .reprotecting true | .rollingBack | .withdrawing => receiveSlot = false
  | _ => False

/-- What holds while the hook is in the chain. -/
structure Served (slot : ReceiveSlot) : Prop where
  active : slot.active = true
  originalReceive : slot.originalReceive = true
  initialized : slot.transport.initialized = true
  incoming : slot.transport.callbacks.incoming = true
  place : HookedAt slot.receiveSlot slot.stage

/-- How far `Initialize` and `Shutdown` have got while it is not. -/
def Progress (slot : ReceiveSlot) : Stage → Prop
  | .idle => slot.transport = { SampRakNetTransport.fresh with actions := slot.transport.actions }
  | .resolving _ => Prepared slot.transport
  | .unprotecting | .publishing => Resolved slot.transport ∧ slot.originalReceive = true
  | .exchanging => Resolved slot.transport ∧ slot.originalReceive = true ∧ slot.active = true
  | .reprotecting true | .rollingBack | .exchangingBack => False
  | _ => True

structure Unhooked (slot : ReceiveSlot) : Prop where
  released : slot.receiveSlot = false
  progress : Progress slot slot.stage

structure Sound (slot : ReceiveSlot) : Prop where
  served : slot.entry.hooked = true → Served slot
  unhooked : slot.entry.hooked = false → Unhooked slot

theorem Sound.of_unhooked (free : slot.entry.hooked = false) (h : Unhooked slot) : Sound slot :=
  ⟨fun hooked => (by rw [free] at hooked; cases hooked), fun _ => h⟩

theorem Sound.of_served (hooked : slot.entry.hooked = true) (h : Served slot) : Sound slot :=
  ⟨fun _ => h, fun free => (by rw [hooked] at free; cases free)⟩

theorem untouched_sound : Sound untouched := ⟨fun h => (by cases h), fun _ => ⟨rfl, rfl⟩⟩

theorem Sound.answered (h : Sound slot) : slot.Answered :=
  fun hooked => ⟨(h.served hooked).active, (h.served hooked).originalReceive⟩

/-! ## Calls -/

/-- A call gets to the transport if the hook is in the chain, and else to the original function. -/
theorem enter_eq (pointee : Pointee) (call : ReceiveCall) : slot.enter call pointee =
    if pointee.hooked then slot.receiveHook call else (call.original 0, slot.transport) := by
  induction pointee with
  | original => rfl
  | receiveHook => rfl
  | foreign next ih => exact ih

theorem receiveHook_of_answered (h : slot.Answered) (hooked : slot.entry.hooked = true) (call : ReceiveCall) :
    slot.receiveHook call = slot.transport.receive call := by
  obtain ⟨active, original⟩ := h hooked
  simp [receiveHook, active, original]

theorem receive_kept (call : ReceiveCall) {transport : SampRakNetTransport} (hi : transport.initialized = true)
    (hc : transport.callbacks.incoming = true) : (transport.receive call).2.initialized = true ∧
      (transport.receive call).2.callbacks.incoming = true := by
  obtain ⟨actions, hacts, -⟩ := SampRakNetTransport.afterCall_transparent hi hc call
  have hinitialized := hacts.initialized
  have hcallbacks := hacts.callbacks
  rw [SampRakNetTransport.afterCall] at hinitialized hcallbacks
  rw [hinitialized, hcallbacks]
  exact ⟨hi, hc⟩

theorem Sound.call (h : Sound slot) (call : ReceiveCall) : Sound (slot.step (.call call)) := by
  rw [step, enter_eq]
  cases hooked : slot.entry.hooked with
  | false => exact h
  | true =>
      have served := h.served hooked
      obtain ⟨hinitialized, hincoming⟩ := receive_kept call served.initialized served.incoming
      rw [if_pos rfl, receiveHook_of_answered h.answered hooked]
      exact .of_served hooked ⟨served.active, served.originalReceive, hinitialized, hincoming, served.place⟩

/-! ## Other modules -/

theorem Sound.foreignHook (h : Sound slot) : Sound (slot.step .foreignHook) :=
  ⟨fun hooked => ⟨(h.served hooked).active, (h.served hooked).originalReceive, (h.served hooked).initialized,
    (h.served hooked).incoming, (h.served hooked).place⟩,
    fun free => ⟨(h.unhooked free).released, (h.unhooked free).progress⟩⟩

theorem Sound.foreignUnhook (h : Sound slot) : Sound (slot.step .foreignUnhook) := by
  rw [step]
  cases hp : slot.entry with
  | original => exact h
  | receiveHook => exact h
  | foreign next =>
      have same : next.hooked = slot.entry.hooked := by rw [hp]; rfl
      refine ⟨fun hooked => ?_, fun free => ?_⟩
      · have served := h.served (same.symm.trans hooked)
        exact ⟨served.active, served.originalReceive, served.initialized, served.incoming, served.place⟩
      · have bare := h.unhooked (same.symm.trans free)
        exact ⟨bare.released, bare.progress⟩

/-! ## The thread -/

theorem Sound.initializeTransport (h : Sound slot) (callbacks : TransportCallbacks) (compatible : Bool) :
    Sound (slot.step (.initializeTransport callbacks compatible)) := by
  rw [step, ReceiveSlot.initializeTransport]
  split
  · exact h
  · rename_i hidle
    split
    · exact h
    · rename_i hfree
      split
      · exact h
      · simp only [Bool.or_eq_true, Bool.not_eq_true', not_or, Bool.not_eq_true, Bool.not_eq_false] at hfree
        obtain ⟨⟨hnone, hincoming⟩, hconnection⟩ := hfree
        have free : slot.entry.hooked = false := by
          cases hooked : slot.entry.hooked with
          | false => rfl
          | true => rw [(h.served hooked).initialized] at hnone; cases hnone
        have before := h.unhooked free
        have kept := before.progress
        simp only [ne_eq, Decidable.not_not] at hidle
        rw [hidle] at kept
        exact .of_unhooked free
          ⟨before.released, callbacks, slot.transport.actions, hincoming, hconnection, by rw [kept]⟩

/-- The hook is not in the chain at a stage that is none of its own. -/
theorem Sound.unhooked_of_place (h : Sound slot) (place : ¬ HookedAt slot.receiveSlot slot.stage) :
    slot.entry.hooked = false ∧ Unhooked slot := by
  cases hooked : slot.entry.hooked with
  | false => exact ⟨rfl, h.unhooked hooked⟩
  | true => exact (place (h.served hooked).place).elim

theorem Sound.resolve (h : Sound slot) (found : Option Nat) : Sound (slot.step (.resolve found)) := by
  rw [step, ReceiveSlot.resolve]
  cases hs : slot.stage with
  | resolving left =>
      obtain ⟨free, bare⟩ := h.unhooked_of_place (by rw [hs]; exact id)
      have kept := bare.progress
      rw [hs] at kept
      simp only
      split
      · rename_i rakClient hfound
        obtain ⟨callbacks, actions, hincoming, hconnection, heq⟩ := kept
        exact .of_unhooked free
          ⟨bare.released, ⟨callbacks, actions, rakClient, hincoming, hconnection, by rw [heq]⟩, rfl⟩
      · refine .of_unhooked free ⟨bare.released, ?_⟩
        simp only
        split
        · trivial
        · exact kept
  | _ => exact h

theorem Sound.shutdown (h : Sound slot) : Sound (slot.step .shutdown) := by
  rw [step, ReceiveSlot.shutdown]
  split
  · exact h
  · rename_i hidle
    simp only [ne_eq, Decidable.not_not] at hidle
    cases hooked : slot.entry.hooked with
    | true =>
        have served := h.served hooked
        have place := served.place
        rw [hidle] at place
        exact .of_served hooked ⟨served.active, served.originalReceive, served.initialized, served.incoming, place⟩
    | false => exact .of_unhooked hooked ⟨(h.unhooked hooked).released, trivial⟩

theorem Served.proceed (h : Served slot) (hooked : slot.entry.hooked = true) (granted : Bool)
    (hc : slot.Undisturbed (.proceed granted)) : Sound (slot.proceed granted) := by
  have place := h.place
  rw [ReceiveSlot.proceed]
  cases hs : slot.stage with
  | idle => exact .of_served hooked h
  | reprotecting exchanged =>
      rw [hs] at place
      cases exchanged with
      | false => exact place.elim
      | true =>
          cases granted with
          | true => exact .of_served hooked ⟨h.active, h.originalReceive, h.initialized, h.incoming, rfl⟩
          | false => exact .of_served hooked ⟨h.active, h.originalReceive, h.initialized, h.incoming, place⟩
  | rollingBack =>
      rw [hs] at place
      simp only
      split
      · exact .of_unhooked rfl ⟨place, trivial⟩
      · exact .of_served hooked ⟨h.active, h.originalReceive, h.initialized, h.incoming, place⟩
  | withdrawing =>
      have free : slot.entry.hooked = false := by
        rw [Undisturbed.eq_def, hs] at hc
        exact hc
      rw [hooked] at free
      cases free
  | restoring =>
      rw [hs] at place
      have kept : slot.receiveSlot = true := place
      simp only [kept, h.originalReceive, Bool.not_true, Bool.or_false, Bool.false_eq_true, if_false]
      cases granted with
      | true => exact .of_served hooked ⟨h.active, rfl, h.initialized, h.incoming, rfl⟩
      | false => exact .of_served hooked ⟨h.active, rfl, h.initialized, h.incoming, rfl⟩
  | exchangingBack =>
      rw [hs] at place
      simp only [exchangeBack]
      cases hp : slot.entry with
      | original => exact .of_unhooked rfl ⟨rfl, trivial⟩
      | receiveHook => exact .of_unhooked rfl ⟨rfl, trivial⟩
      | foreign next =>
          rw [hp] at hooked
          exact .of_served hooked ⟨h.active, h.originalReceive, h.initialized, h.incoming, place⟩
  | _ => rw [hs] at place; exact place.elim

theorem Unhooked.proceed (h : Unhooked slot) (free : slot.entry.hooked = false) (granted : Bool) :
    Sound (slot.proceed granted) := by
  have kept := h.progress
  rw [ReceiveSlot.proceed]
  cases hs : slot.stage with
  | idle => exact .of_unhooked free h
  | resolving left => exact .of_unhooked free h
  | unprotecting =>
      rw [hs] at kept
      refine .of_unhooked free ⟨h.released, ?_⟩
      simp only
      split
      · exact kept
      · trivial
  | publishing =>
      rw [hs] at kept
      exact .of_unhooked free ⟨h.released, kept.1, kept.2, rfl⟩
  | exchanging =>
      rw [hs] at kept
      obtain ⟨⟨callbacks, actions, rakClient, hincoming, -, heq⟩, horiginal, hactive⟩ := kept
      simp only [exchange]
      split
      · refine .of_served rfl ⟨hactive, horiginal, ?_, ?_, h.released⟩
        · rw [heq]
        · rw [heq]; exact hincoming
      · exact .of_unhooked free ⟨h.released, trivial⟩
  | reprotecting exchanged =>
      rw [hs] at kept
      cases exchanged with
      | true => exact kept.elim
      | false => exact .of_unhooked free ⟨h.released, trivial⟩
  | rollingBack => rw [hs] at kept; exact kept.elim
  | withdrawing => exact .of_unhooked free ⟨h.released, trivial⟩
  | restoring =>
      simp only [h.released, Bool.not_false, Bool.true_or, if_true]
      exact .of_unhooked free ⟨rfl, trivial⟩
  | exchangingBack => rw [hs] at kept; exact kept.elim
  | deactivating => exact .of_unhooked free ⟨h.released, trivial⟩
  | clearing => exact .of_unhooked free ⟨h.released, rfl⟩

theorem Sound.proceed (h : Sound slot) (granted : Bool) (hc : slot.Undisturbed (.proceed granted)) :
    Sound (slot.step (.proceed granted)) := by
  cases hooked : slot.entry.hooked with
  | true => exact (h.served hooked).proceed hooked granted hc
  | false => exact (h.unhooked hooked).proceed hooked granted

theorem Sound.step (h : Sound slot) (event : SlotEvent) (hc : slot.Undisturbed event) :
    Sound (slot.step event) := by
  cases event with
  | initializeTransport callbacks compatible => exact h.initializeTransport callbacks compatible
  | resolve found => exact h.resolve found
  | shutdown => exact h.shutdown
  | proceed granted => exact h.proceed granted hc
  | foreignHook => exact h.foreignHook
  | foreignUnhook => exact h.foreignUnhook
  | call call => exact h.call call

/-! ## The lifecycle -/

theorem lifecycle_of_unhooked (free : slot.entry.hooked = false) :
    slot.lifecycle = { SampRakNetTransport.fresh with actions := slot.transport.actions } := by
  rw [lifecycle, free]
  rfl

theorem lifecycle_of_hooked (hooked : slot.entry.hooked = true) : slot.lifecycle = slot.transport := by
  rw [lifecycle, if_pos hooked]

/-- Steps that leave the chain and the transport alone mean nothing for the lifecycle. -/
theorem lifecycle_congr {after : ReceiveSlot} (entry : after.entry.hooked = slot.entry.hooked)
    (transport : after.transport = slot.transport) : after.lifecycle = slot.lifecycle := by
  rw [lifecycle, lifecycle, entry, transport]

/-- Without the hook in the chain, only what was done counts. -/
theorem lifecycle_of_free {after : ReceiveSlot} (free : slot.entry.hooked = false)
    (entry : after.entry.hooked = slot.entry.hooked) (actions : after.transport.actions = slot.transport.actions) :
    after.lifecycle = slot.lifecycle := by
  rw [lifecycle_of_unhooked free, lifecycle_of_unhooked (entry.trans free), actions]

theorem lifecycle_call (h : Sound slot) (call : ReceiveCall) :
    (slot.step (.call call)).lifecycle = slot.lifecycle.live (.receive call) ∧
      (slot.enter call slot.entry).1 = (slot.lifecycle.receive call).1 := by
  rw [step, enter_eq]
  cases hooked : slot.entry.hooked with
  | true =>
      rw [if_pos rfl, receiveHook_of_answered h.answered hooked, lifecycle_of_hooked hooked]
      exact ⟨lifecycle_of_hooked hooked, rfl⟩
  | false =>
      rw [lifecycle_of_unhooked hooked]
      exact ⟨lifecycle_of_unhooked hooked, rfl⟩

theorem lifecycle_proceed (h : Sound slot) (granted : Bool) :
    (slot.proceed granted).lifecycle = run SampRakNetTransport.live slot.lifecycle (slot.emits (.proceed granted)) := by
  rw [ReceiveSlot.proceed, emits]
  cases hs : slot.stage with
  | exchanging =>
      obtain ⟨free, bare⟩ := h.unhooked_of_place (by rw [hs]; exact id)
      have kept := bare.progress
      rw [hs] at kept
      obtain ⟨⟨callbacks, actions, rakClient, hincoming, hconnection, heq⟩, -, -⟩ := kept
      rw [lifecycle_of_unhooked free, exchange]
      cases hp : slot.entry with
      | original =>
          rw [if_pos rfl, lifecycle_of_hooked rfl, heq]
          simp [SampRakNetTransport.live, SampRakNetTransport.initializeTransport, SampRakNetTransport.fresh,
            hincoming, hconnection]
      | receiveHook => rw [hp] at free; cases free
      | foreign next =>
          rw [hp] at free
          exact lifecycle_of_unhooked free
  | rollingBack =>
      cases hp : slot.entry with
      | original => exact lifecycle_congr (by rw [hp]; rfl) rfl
      | foreign next => exact lifecycle_congr (by rw [hp]; rfl) rfl
      | receiveHook =>
          rw [if_pos rfl, lifecycle_of_unhooked rfl, @lifecycle_of_hooked slot (by rw [hp]; rfl)]
          rfl
  | exchangingBack =>
      simp only [exchangeBack]
      cases hp : slot.entry with
      | original => exact lifecycle_congr (by rw [hp]) rfl
      | foreign next => exact lifecycle_congr (by rw [hp]) rfl
      | receiveHook =>
          rw [lifecycle_of_unhooked rfl, @lifecycle_of_hooked slot (by rw [hp]; rfl)]
          rfl
  | clearing =>
      obtain ⟨free, -⟩ := h.unhooked_of_place (by rw [hs]; exact id)
      exact lifecycle_of_free free rfl rfl
  | reprotecting exchanged =>
      cases exchanged with
      | false => exact lifecycle_congr rfl rfl
      | true => cases granted <;> exact lifecycle_congr rfl rfl
  | restoring =>
      simp only
      split <;> exact lifecycle_congr rfl rfl
  | _ => exact lifecycle_congr rfl rfl

theorem lifecycle_step (h : Sound slot) (event : SlotEvent) :
    (slot.step event).lifecycle = run SampRakNetTransport.live slot.lifecycle (slot.emits event) := by
  cases event with
  | initializeTransport callbacks compatible =>
      rw [ReceiveSlot.step, ReceiveSlot.initializeTransport]
      split
      · rfl
      · split
        · rfl
        · rename_i hfree
          split
          · rfl
          · have free : slot.entry.hooked = false := by
              cases hooked : slot.entry.hooked with
              | false => rfl
              | true => simp [(h.served hooked).initialized] at hfree
            exact lifecycle_of_free free rfl rfl
  | resolve found =>
      rw [ReceiveSlot.step, ReceiveSlot.resolve]
      cases hs : slot.stage with
      | resolving left =>
          obtain ⟨free, -⟩ := h.unhooked_of_place (by rw [hs]; exact id)
          simp only
          split <;> exact lifecycle_of_free free rfl rfl
      | _ => rfl
  | shutdown =>
      rw [ReceiveSlot.step, ReceiveSlot.shutdown]
      split <;> exact lifecycle_congr rfl rfl
  | proceed granted => exact lifecycle_proceed h granted
  | foreignHook => exact lifecycle_congr rfl rfl
  | foreignUnhook =>
      rw [ReceiveSlot.step]
      cases hp : slot.entry with
      | foreign next => exact lifecycle_congr (by rw [hp]; rfl) rfl
      | _ => exact lifecycle_congr rfl rfl
  | call call => exact (lifecycle_call h call).1

/-- The entry, the thread and the other modules together refine the lifecycle of the transport. -/
theorem refines : Refines step SampRakNetTransport.live lifecycle emits Sound Undisturbed where
  keeps := fun _ event h hc => h.step event hc
  commutes := fun _ event h _ => lifecycle_step h event

theorem answer_eq (h : Sound slot) (event : SlotEvent) :
    slot.answer event =
      collect SampRakNetTransport.live SampRakNetTransport.answer slot.lifecycle (slot.emits event) := by
  cases event with
  | call call =>
      rw [answer, (lifecycle_call h call).2]
      rfl
  | proceed granted =>
      have nothing : slot.answer (.proceed granted) = [] := rfl
      rw [nothing, emits]
      split <;> rfl
  | _ => rfl

/-- Between calls of `Initialize` and `Shutdown`, the hook is in the chain exactly with `receiveSlot_`, and without it
nothing is kept. -/
theorem Sound.idle (h : Sound slot) (hs : slot.stage = .idle) : slot.entry.hooked = slot.receiveSlot ∧
    (slot.receiveSlot = false →
      slot.transport = { SampRakNetTransport.fresh with actions := slot.transport.actions }) := by
  cases hooked : slot.entry.hooked with
  | true =>
      have place := (h.served hooked).place
      rw [hs] at place
      refine ⟨place.symm, fun released => ?_⟩
      have kept : slot.receiveSlot = true := place
      rw [released] at kept
      cases kept
  | false =>
      obtain ⟨released, progress⟩ := h.unhooked hooked
      rw [hs] at progress
      exact ⟨released.symm, fun _ => progress⟩

/-! ## The window of a failed installation -/

/-- A hook that stays in the chain when `active_` is cleared is not served. -/
theorem not_answered_of_disturbed {event : SlotEvent} (h : ¬ slot.Undisturbed event) :
    ¬ (slot.step event).Answered := by
  rw [Undisturbed.eq_def] at h
  split at h
  · rename_i granted hs
    have hooked : slot.entry.hooked = true := by simpa using h
    intro answered
    rw [step, ReceiveSlot.proceed, hs] at answered
    exact Bool.false_ne_true (answered hooked).1
  · exact (h trivial).elim

/-! ## Without the hook -/

/-- The hook is not in the chain, and nothing is under way that would put it there. -/
structure Down (slot : ReceiveSlot) : Prop where
  free : slot.entry.hooked = false
  released : slot.receiveSlot = false
  stage : slot.stage = .idle ∨ slot.stage = .restoring ∨ slot.stage = .deactivating ∨ slot.stage = .clearing

theorem Down.step (h : Down slot) {event : SlotEvent}
    (other : ∀ callbacks compatible, event ≠ .initializeTransport callbacks compatible) : Down (slot.step event) ∧
      (slot.step event).transport.actions = slot.transport.actions := by
  cases event with
  | initializeTransport callbacks compatible => exact (other callbacks compatible rfl).elim
  | resolve found =>
      rw [ReceiveSlot.step, ReceiveSlot.resolve]
      rcases h.stage with hs | hs | hs | hs <;> rw [hs] <;> exact ⟨h, rfl⟩
  | shutdown =>
      rw [ReceiveSlot.step, ReceiveSlot.shutdown]
      split
      · exact ⟨h, rfl⟩
      · exact ⟨⟨h.free, h.released, .inr (.inl rfl)⟩, rfl⟩
  | proceed granted =>
      rw [ReceiveSlot.step, ReceiveSlot.proceed]
      rcases h.stage with hs | hs | hs | hs <;> rw [hs]
      · exact ⟨h, rfl⟩
      · rw [h.released]
        exact ⟨⟨h.free, rfl, .inr (.inr (.inl rfl))⟩, rfl⟩
      · exact ⟨⟨h.free, h.released, .inr (.inr (.inr rfl))⟩, rfl⟩
      · exact ⟨⟨h.free, h.released, .inl rfl⟩, rfl⟩
  | foreignHook => exact ⟨⟨h.free, h.released, h.stage⟩, rfl⟩
  | foreignUnhook =>
      rw [ReceiveSlot.step]
      cases hp : slot.entry with
      | foreign next =>
          have free : next.hooked = false := by
            have chain := h.free
            rw [hp] at chain
            exact chain
          exact ⟨⟨free, h.released, h.stage⟩, rfl⟩
      | _ => exact ⟨h, rfl⟩
  | call call =>
      rw [ReceiveSlot.step, enter_eq, if_neg (by simp [h.free])]
      exact ⟨h, rfl⟩

/-- SA-MP gets from a call what the original function has. -/
def passed : SlotEvent → List (Option RakPacket)
  | .call call => [call.original 0]
  | _ => []

theorem Down.answer (h : Down slot) (event : SlotEvent) : slot.answer event = passed event := by
  cases event with
  | call call => rw [ReceiveSlot.answer, enter_eq, if_neg (by simp [h.free]), passed]
  | _ => rfl

theorem Down.run (h : Down slot) {events : List SlotEvent}
    (other : ∀ event ∈ events, ∀ callbacks compatible, event ≠ .initializeTransport callbacks compatible) :
    (Lib.run ReceiveSlot.step slot events).transport.actions = slot.transport.actions ∧
      collect ReceiveSlot.step ReceiveSlot.answer slot events = events.flatMap passed := by
  induction events generalizing slot with
  | nil => exact ⟨rfl, rfl⟩
  | cons event events ih =>
      obtain ⟨hdown, hactions⟩ := h.step (other event (by simp))
      obtain ⟨hlast, hanswers⟩ := ih hdown fun e he => other e (by simp [he])
      refine ⟨hlast.trans hactions, ?_⟩
      rw [collect, hanswers, h.answer, List.flatMap_cons]

end CustomModels.Client.ReceiveSlot
