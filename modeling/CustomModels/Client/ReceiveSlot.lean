import CustomModels.Client.Traffic
import CustomModels.Lib.Refinement

/-!
# The entry of `Receive` in the vtable

`Initialize` and `Shutdown` of `raknet_transport.cpp` with `InstallReceiveHook`, `RestoreReceiveHook` and `ReceiveHook`,
one step for each call of the system, each exchange of the entry and each store to `active_`. Between two of them
SA-MP calls through the entry, and other modules put their own hooks there and take them away.
-/

namespace CustomModels.Client
open CustomModels.Shared

def kResolveAttempts : Nat := 600

/-- What the entry points to. A module that hooks it calls what it has found there. -/
inductive Pointee where
  | original
  | receiveHook
  | foreign (next : Pointee)
  deriving DecidableEq

/-- A call through the entry gets to `ReceiveHook`. -/
def Pointee.hooked : Pointee → Bool
  | original => false
  | receiveHook => true
  | foreign next => next.hooked

/-- What the thread that runs `Initialize` or `Shutdown` does next. -/
inductive Stage where
  | idle
  /-- The loop of `Initialize`, with some turns left. -/
  | resolving (left : Nat)
  | unprotecting
  | publishing
  | exchanging
  | reprotecting (exchanged : Bool)
  | rollingBack
  | withdrawing
  /-- The begin of `Shutdown`, which a failed `Initialize` calls as well. -/
  | restoring
  | exchangingBack
  | deactivating
  | clearing
  deriving DecidableEq

structure ReceiveSlot where
  entry : Pointee
  /-- `active_` is the transport. -/
  active : Bool
  /-- `originalReceive_` is set. It only ever holds the function of samp.dll itself. -/
  originalReceive : Bool
  /-- `receiveSlot_` is set. -/
  receiveSlot : Bool
  transport : SampRakNetTransport
  stage : Stage

/-- `resolve` is a turn of the loop of `Initialize` and what `ResolveRakClient` finds in it, `proceed` any other step
of the thread; a call of `VirtualProtect` there is granted or not. -/
inductive SlotEvent where
  | initializeTransport (callbacks : TransportCallbacks) (compatible : Bool)
  | resolve (found : Option Nat)
  | shutdown
  | proceed (granted : Bool)
  | foreignHook
  | foreignUnhook
  | call (call : ReceiveCall)

/-- What SA-MP gets in a step of the lifecycle. -/
def SampRakNetTransport.answer (transport : SampRakNetTransport) :
    SampRakNetTransport.Lifecycle → List (Option RakPacket)
  | .receive call => [(transport.receive call).1]
  | _ => []

namespace ReceiveSlot

def untouched : ReceiveSlot where
  entry := .original
  active := false
  originalReceive := false
  receiveSlot := false
  transport := .fresh
  stage := .idle

/-! ## The thread -/

def initializeTransport (slot : ReceiveSlot) (callbacks : TransportCallbacks) (compatible : Bool) : ReceiveSlot :=
  if slot.stage ≠ .idle then slot
  else if slot.transport.initialized || !callbacks.incoming || !callbacks.connection then slot
  else if !compatible then slot
  else { slot with transport := { slot.transport with callbacks }, stage := .resolving kResolveAttempts }

/-- A function outside of samp.dll is not executable for `ResolveRakClient`, so it succeeds only where the entry is
not hooked. -/
def resolve (slot : ReceiveSlot) (found : Option Nat) : ReceiveSlot :=
  match slot.stage with
  | .resolving left =>
      match if slot.entry = .original then found else none with
      | some rakClient =>
          { slot with
            originalReceive := true
            transport := { slot.transport with rakClient := some rakClient, initialized := true }
            stage := .unprotecting }
      | none => { slot with stage := if left ≤ 1 then .restoring else .resolving (left - 1) }
  | _ => slot

def shutdown (slot : ReceiveSlot) : ReceiveSlot :=
  if slot.stage ≠ .idle then slot else { slot with stage := .restoring }

/-- The exchange of `InstallReceiveHook`. What the transport does is recorded from here. -/
def exchange (slot : ReceiveSlot) : ReceiveSlot :=
  if slot.entry = .original then
    { slot with
      entry := .receiveHook
      transport := { slot.transport with actions := [] }
      stage := .reprotecting true }
  else { slot with stage := .reprotecting false }

/-- The exchange of `RestoreReceiveHook`, which gives up where another hook stands. -/
def exchangeBack (slot : ReceiveSlot) : ReceiveSlot :=
  match slot.entry with
  | .foreign _ => { slot with stage := .idle }
  | _ => { slot with entry := .original, receiveSlot := false, stage := .deactivating }

def proceed (slot : ReceiveSlot) (granted : Bool) : ReceiveSlot :=
  match slot.stage with
  | .idle | .resolving _ => slot
  | .unprotecting => { slot with stage := if slot.originalReceive && granted then .publishing else .restoring }
  | .publishing => { slot with active := true, stage := .exchanging }
  | .exchanging => slot.exchange
  | .reprotecting false => { slot with active := false, stage := .restoring }
  | .reprotecting true =>
      if granted then { slot with receiveSlot := true, stage := .idle } else { slot with stage := .rollingBack }
  | .rollingBack =>
      { slot with entry := if slot.entry = .receiveHook then .original else slot.entry, stage := .withdrawing }
  | .withdrawing => { slot with active := false, stage := .restoring }
  | .restoring =>
      if !slot.receiveSlot || !slot.originalReceive then { slot with stage := .deactivating }
      else { slot with stage := if granted then .exchangingBack else .idle }
  | .exchangingBack => slot.exchangeBack
  | .deactivating => { slot with active := false, stage := .clearing }
  | .clearing =>
      { slot with
        originalReceive := false
        transport := { SampRakNetTransport.fresh with actions := slot.transport.actions }
        stage := .idle }

/-! ## Calls -/

/-- `ReceiveHook`, which loses the call where there is no transport for it. -/
def receiveHook (slot : ReceiveSlot) (call : ReceiveCall) : Option RakPacket × SampRakNetTransport :=
  if !slot.active || !slot.originalReceive then (none, slot.transport) else slot.transport.receive call

def enter (slot : ReceiveSlot) (call : ReceiveCall) : Pointee → Option RakPacket × SampRakNetTransport
  | .original => (call.original 0, slot.transport)
  | .receiveHook => slot.receiveHook call
  | .foreign next => slot.enter call next

/-! ## Runs -/

def step (slot : ReceiveSlot) : SlotEvent → ReceiveSlot
  | .initializeTransport callbacks compatible => slot.initializeTransport callbacks compatible
  | .resolve found => slot.resolve found
  | .shutdown => slot.shutdown
  | .proceed granted => slot.proceed granted
  | .foreignHook => { slot with entry := .foreign slot.entry }
  | .foreignUnhook =>
      match slot.entry with
      | .foreign next => { slot with entry := next }
      | _ => slot
  | .call call => { slot with transport := (slot.enter call slot.entry).2 }

/-- What SA-MP gets. -/
def answer (slot : ReceiveSlot) : SlotEvent → List (Option RakPacket)
  | .call call => [(slot.enter call slot.entry).1]
  | _ => []

/-! ## What is promised -/

/-- A call that gets to `ReceiveHook` finds the transport and the original function. -/
def Answered (slot : ReceiveSlot) : Prop :=
  slot.entry.hooked = true → slot.active = true ∧ slot.originalReceive = true

/-- The store to `active_` behind an exchange that was taken back finds no hook in the chain. -/
def Undisturbed (slot : ReceiveSlot) (event : SlotEvent) : Prop :=
  match slot.stage, event with
  | .withdrawing, .proceed _ => slot.entry.hooked = false
  | _, _ => True

instance : ∀ slot event, Decidable (Undisturbed slot event) := by
  intro slot event
  unfold Undisturbed
  split <;> infer_instance

/-- What the entry and the transport stand for: the transport while its hook is in the chain, else none. -/
def lifecycle (slot : ReceiveSlot) : SampRakNetTransport :=
  if slot.entry.hooked then slot.transport
  else { SampRakNetTransport.fresh with actions := slot.transport.actions }

/-- The exchanges are where the transport is initialized and shut down. -/
def emits (slot : ReceiveSlot) : SlotEvent → List SampRakNetTransport.Lifecycle
  | .call call => [.receive call]
  | .proceed _ =>
      match slot.stage, slot.entry with
      | .exchanging, .original =>
          [.initializeTransport slot.transport.callbacks ⟨true, slot.transport.rakClient, true⟩]
      | .rollingBack, .receiveHook | .exchangingBack, .receiveHook => [.shutdown true]
      | _, _ => []
  | _ => []

end ReceiveSlot

end CustomModels.Client
