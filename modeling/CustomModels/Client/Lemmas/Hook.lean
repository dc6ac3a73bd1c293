import CustomModels.Client.Traffic
import CustomModels.Shared.Lemmas.Frames

/-!
# What a call of the hook does

A round of the loop draws one packet. It keeps a packet that is not claimed, which ends the call, and consumes one
that is.
-/

namespace CustomModels.Client
open CustomModels.Shared CustomModels.Lib

/-! ## Claimed packets -/

namespace RakPacket

theorem claimed_iff {packet : RakPacket} : packet.claimed = true ↔
    packet.readable = true ∧ packet.headReadable = true ∧
      ∃ bytes, packet.data = some bytes ∧ inspect bytes = .customModel packet.payload := by
  simp only [claimed, Bool.and_eq_true, Option.any_eq_true, beq_iff_eq, and_assoc, inspect_eq_customModel_iff]
  refine and_congr_right fun _ => and_congr_right fun _ => exists_congr fun bytes => and_congr_right fun hdata => ?_
  rw [payload, hdata]
  exact ⟨fun h => ⟨h, rfl⟩, And.left⟩

end RakPacket

namespace SampRakNetTransport

variable {transport after : SampRakNetTransport} {packet : RakPacket}

/-! ## Rounds -/

/-- A claimed packet is dispatched if it can be. -/
def deliver (transport : SampRakNetTransport) (packet : RakPacket) : SampRakNetTransport :=
  if packet.deliverable then (transport.dispatchIncoming packet.payload).2 else transport

theorem examine_claimed (h : packet.claimed = true) :
    transport.examine packet = (true, (transport.deliver packet).record (.deallocated packet)) := by
  obtain ⟨-, hhead, bytes, hdata, hinspect⟩ := RakPacket.claimed_iff.mp h
  have htake := (inspect_eq_customModel_iff.mp hinspect).1
  cases bytes with
  | nil => cases htake
  | cons first rest =>
      have hfirst : first = kRakNetPacketId := (List.cons.inj htake).1
      subst hfirst
      have hother : ¬ (kRakNetPacketId = kDisconnectionNotification ∨ kRakNetPacketId = kConnectionLost) := by
        decide
      have hdeliver : packet.deliverable = true ↔
          (kRakNetPacketId :: rest).length ≤ kMaximumFrameSize ∧ packet.wholeReadable = true := by
        simp [RakPacket.deliverable, hdata, kMaximumFrameSize, kPrefixSize, kMaximumPacketSize, and_comm]
      simp only [examine, hdata, hhead, Bool.not_true, Bool.false_eq_true, if_false, if_neg hother, hinspect,
        deliver, hdeliver]

theorem examine_unclaimed (hr : packet.readable = true) (h : packet.claimed = false) :
    transport.examine packet = (false, transport) ∨
      transport.examine packet = (false, transport.notifyDisconnected) := by
  unfold examine
  split
  · exact .inl rfl
  · exact .inl rfl
  · rename_i first rest hdata
    split
    · exact .inl rfl
    · rename_i hhead
      split
      · exact .inr rfl
      · split
        · exact .inl rfl
        · rename_i protocolBytes hinspect
          have hclaimed : packet.claimed = true := by
            refine RakPacket.claimed_iff.mpr ⟨hr, by simpa using hhead, _, hdata, ?_⟩
            rw [hinspect, RakPacket.payload, hdata, (inspect_eq_customModel_iff.mp hinspect).2]
            rfl
          rw [h] at hclaimed
          cases hclaimed

/-- The transport behind the draw of a packet. -/
def draw (transport : SampRakNetTransport) (packet : Option RakPacket) : SampRakNetTransport :=
  (transport.record (.drew packet)).notifyConnectedIfPending

theorem round_claimed (h : packet.claimed = true) :
    transport.round (some packet) = (true,
      ((transport.draw (some packet)).awaitFirstPacket.deliver packet).record (.deallocated packet)) := by
  have hr := (RakPacket.claimed_iff.mp h).1
  simp only [round, hr, Bool.not_true, Bool.false_eq_true, if_false, examine_claimed h, draw]

/-- A packet that is kept is at most waited for, and at most it ends the connection. -/
theorem round_unclaimed {packet : Option RakPacket} (h : packet.any RakPacket.claimed = false) :
    transport.round packet = (false, transport.draw packet) ∨ packet.isSome = true ∧
      (transport.round packet = (false, (transport.draw packet).awaitFirstPacket) ∨
        transport.round packet = (false, (transport.draw packet).awaitFirstPacket.notifyDisconnected)) := by
  cases packet with
  | none => exact .inl rfl
  | some packet =>
      rcases Bool.eq_false_or_eq_true packet.readable with hr | hr
      · have hround : transport.round (some packet) =
            (transport.draw (some packet)).awaitFirstPacket.examine packet := by
          simp only [round, hr, Bool.not_true, Bool.false_eq_true, if_false, draw]
        rw [hround]
        exact .inr ⟨rfl, examine_unclaimed hr h⟩
      · left
        simp only [round, hr, Bool.not_false, if_true, draw]

theorem receiveLoop_kept {original : Nat → Option RakPacket} {left drawn : Nat}
    (h : (original drawn).any RakPacket.claimed = false) :
    receiveLoop original (left + 1) drawn transport = (original drawn, (transport.round (original drawn)).2) := by
  have hfirst : (transport.round (original drawn)).1 = false := by
    rcases @round_unclaimed transport _ h with hr | ⟨-, hr | hr⟩ <;> rw [hr]
  rw [receiveLoop]
  generalize transport.round (original drawn) = result at hfirst
  obtain ⟨consumed, after⟩ := result
  cases hfirst
  rfl

theorem receiveLoop_consumed {original : Nat → Option RakPacket} {left drawn : Nat}
    (hp : original drawn = some packet) (h : packet.claimed = true) :
    receiveLoop original (left + 1) drawn transport =
      receiveLoop original left (drawn + 1) (transport.round (some packet)).2 := by
  rw [receiveLoop, hp, round_claimed h]

/-! ## Actions -/

/-- The step does what is in `actions`, and the surroundings of the transport stay. -/
structure Acts (transport after : SampRakNetTransport) (actions : List HookAction) : Prop where
  callbacks : after.callbacks = transport.callbacks
  rakClient : after.rakClient = transport.rakClient
  initialized : after.initialized = transport.initialized
  actions : after.actions = transport.actions ++ actions

theorem Acts.refl (transport : SampRakNetTransport) : Acts transport transport [] :=
  ⟨rfl, rfl, rfl, (List.append_nil _).symm⟩

theorem Acts.trans {last : SampRakNetTransport} {xs ys : List HookAction} (h : Acts transport after xs)
    (h' : Acts after last ys) : Acts transport last (xs ++ ys) :=
  ⟨h'.callbacks.trans h.callbacks, h'.rakClient.trans h.rakClient, h'.initialized.trans h.initialized,
    by rw [h'.actions, h.actions, List.append_assoc]⟩

theorem record_acts (transport : SampRakNetTransport) (action : HookAction) :
    Acts transport (transport.record action) [action] := ⟨rfl, rfl, rfl, rfl⟩

/-- The step makes callbacks for the connection at most. -/
def Quiet (transport after : SampRakNetTransport) : Prop :=
  ∃ events : List ConnectionEvent, Acts transport after (events.map .connection)

theorem Quiet.refl (transport : SampRakNetTransport) : Quiet transport transport := ⟨[], .refl _⟩

theorem Quiet.trans {last : SampRakNetTransport} (h : Quiet transport after) (h' : Quiet after last) :
    Quiet transport last := by
  obtain ⟨events, he⟩ := h
  obtain ⟨more, hm⟩ := h'
  refine ⟨events ++ more, ?_⟩
  rw [List.map_append]
  exact he.trans hm

theorem observeConnection_quiet (transport : SampRakNetTransport) (connected : Bool) :
    Quiet transport (transport.observeConnection connected) := by
  unfold observeConnection
  split
  · split
    · exact .refl _
    · exact ⟨[], rfl, rfl, rfl, (List.append_nil _).symm⟩
  · split
    · exact .refl _
    · simp only
      split
      · exact ⟨[_], rfl, rfl, rfl, rfl⟩
      · exact ⟨[], rfl, rfl, rfl, (List.append_nil _).symm⟩

theorem notifyConnectedIfPending_quiet (transport : SampRakNetTransport) :
    Quiet transport transport.notifyConnectedIfPending := by
  unfold notifyConnectedIfPending
  split
  · exact .refl _
  · exact ⟨[_], rfl, rfl, rfl, rfl⟩

theorem notifyDisconnected_quiet (transport : SampRakNetTransport) :
    Quiet transport transport.notifyDisconnected := by
  unfold notifyDisconnected
  split
  · exact .refl _
  · simp only
    split
    · exact ⟨[_], rfl, rfl, rfl, rfl⟩
    · exact ⟨[], rfl, rfl, rfl, (List.append_nil _).symm⟩

theorem awaitFirstPacket_quiet (transport : SampRakNetTransport) : Quiet transport transport.awaitFirstPacket := by
  unfold awaitFirstPacket
  split
  · exact ⟨[], rfl, rfl, rfl, (List.append_nil _).symm⟩
  · exact .refl _

/-- What is done for a claimed packet. -/
def consumption (packet : RakPacket) : List HookAction :=
  (if packet.deliverable then [.dispatched packet.payload] else []) ++ [.deallocated packet]

theorem consume_acts (hi : transport.initialized = true) (hc : transport.callbacks.incoming = true) :
    Acts transport ((transport.deliver packet).record (.deallocated packet)) (consumption packet) := by
  have hdispatch : transport.dispatchIncoming packet.payload =
      (true, transport.record (.dispatched packet.payload)) := by
    simp only [dispatchIncoming, hi, hc, Bool.not_true, Bool.or_self, Bool.false_eq_true, if_false]
  unfold deliver consumption
  split
  · rw [hdispatch]
    exact (record_acts transport _).trans (record_acts _ _)
  · exact record_acts transport _

/-! ### Rounds -/

theorem round_claimed_acts (h : packet.claimed = true) (hi : transport.initialized = true)
    (hc : transport.callbacks.incoming = true) : ∃ events : List ConnectionEvent,
      Acts transport (transport.round (some packet)).2
        ([.drew (some packet)] ++ events.map .connection ++ consumption packet) := by
  obtain ⟨events, he⟩ := (notifyConnectedIfPending_quiet (transport.record (.drew (some packet)))).trans
    (awaitFirstPacket_quiet _)
  refine ⟨events, ?_⟩
  have hdrawn := (record_acts transport (.drew (some packet))).trans he
  rw [round_claimed h]
  exact hdrawn.trans (consume_acts (by rw [he.initialized]; exact hi) (by rw [he.callbacks]; exact hc))

theorem round_unclaimed_acts {packet : Option RakPacket} (h : packet.any RakPacket.claimed = false) :
    ∃ events : List ConnectionEvent,
      Acts transport (transport.round packet).2 ([.drew packet] ++ events.map .connection) := by
  have hquiet : Quiet (transport.record (.drew packet)) (transport.round packet).2 := by
    have hdraw := notifyConnectedIfPending_quiet (transport.record (.drew packet))
    rcases @round_unclaimed transport _ h with hr | ⟨-, hr | hr⟩
    · rw [hr]
      exact hdraw
    · rw [hr]
      exact hdraw.trans (awaitFirstPacket_quiet _)
    · rw [hr]
      exact (hdraw.trans (awaitFirstPacket_quiet _)).trans (notifyDisconnected_quiet _)
  obtain ⟨events, he⟩ := hquiet
  exact ⟨events, (record_acts transport _).trans he⟩

/-! ## Traffic -/

theorem filterMap_connection {β : Type} {f : HookAction → Option β} (h : ∀ event, f (.connection event) = none)
    (events : List ConnectionEvent) : (events.map HookAction.connection).filterMap f = [] := by
  rw [List.filterMap_map]
  exact List.filterMap_eq_nil_iff.mpr fun event _ => h event

end SampRakNetTransport

namespace Transparent

variable {xs ys : List HookAction} {packet : RakPacket}

theorem append (hx : Transparent xs) (hy : Transparent ys) : Transparent (xs ++ ys) := by
  constructor
  · simp only [List.filterMap_append, List.filter_append, hx.returned, hy.returned]
  · simp only [List.filterMap_append, List.filter_append, hx.deallocated, hy.deallocated]
  · simp only [List.filterMap_append, List.filter_append, List.map_append, hx.dispatched, hy.dispatched]

/-- Callbacks for the connection are not traffic. -/
theorem connections (events : List ConnectionEvent) (h : Transparent (xs ++ ys)) :
    Transparent (xs ++ events.map .connection ++ ys) := by
  obtain ⟨hr, hd, hp⟩ := h
  simp only [List.filterMap_append] at hr hd hp
  have hsilent : ∀ {β : Type} (f : HookAction → Option β), (∀ event, f (.connection event) = none) →
      (xs ++ events.map HookAction.connection ++ ys).filterMap f = xs.filterMap f ++ ys.filterMap f := by
    intro β f hf
    rw [List.filterMap_append, List.filterMap_append, SampRakNetTransport.filterMap_connection hf, List.append_nil]
  constructor
  · rw [hsilent _ fun _ => rfl, hsilent _ fun _ => rfl, hr]
  · rw [hsilent _ fun _ => rfl, hsilent _ fun _ => rfl, hd]
  · rw [hsilent _ fun _ => rfl, hsilent _ fun _ => rfl, hp]

theorem of_connections (events : List ConnectionEvent) : Transparent (events.map .connection) := by
  simpa using @connections [] [] events ⟨rfl, rfl, rfl⟩

theorem of_unclaimed {packet : Option RakPacket} (h : packet.any RakPacket.claimed = false) :
    Transparent ([.drew packet] ++ [.returned packet]) := by
  cases packet with
  | none => exact ⟨rfl, rfl, rfl⟩
  | some packet =>
      rw [Option.any_some] at h
      constructor <;> simp [List.filterMap_cons, HookAction.returned?, HookAction.drawn?, HookAction.deallocated?,
        HookAction.dispatched?, h]

theorem of_claimed (h : packet.claimed = true) :
    Transparent ([.drew (some packet)] ++ SampRakNetTransport.consumption packet) := by
  unfold SampRakNetTransport.consumption
  rcases Bool.eq_false_or_eq_true packet.deliverable with hd | hd
  · constructor <;> simp [List.filterMap_cons, HookAction.returned?, HookAction.drawn?, HookAction.deallocated?,
      HookAction.dispatched?, h, hd]
  · constructor <;> simp [List.filterMap_cons, HookAction.returned?, HookAction.drawn?, HookAction.deallocated?,
      HookAction.dispatched?, h, hd]

end Transparent

namespace SampRakNetTransport

variable {transport : SampRakNetTransport}

theorem countP_connections (events : List ConnectionEvent) :
    (events.map HookAction.connection).countP HookAction.isDraw = 0 :=
  List.countP_eq_zero.mpr fun action ha => by
    obtain ⟨event, -, rfl⟩ := List.mem_map.mp ha
    simp [HookAction.isDraw]

theorem countP_consumption (packet : RakPacket) : (consumption packet).countP HookAction.isDraw = 0 := by
  unfold consumption
  split <;> rfl

theorem drawn_connections (events : List ConnectionEvent) :
    (events.map HookAction.connection).filterMap HookAction.drawn? = [] := filterMap_connection (fun _ => rfl) events

theorem drawn_consumption (packet : RakPacket) : (consumption packet).filterMap HookAction.drawn? = [] := by
  unfold consumption
  split <;> rfl

theorem firstPackets_succ (original : Nat → Option RakPacket) (count : Nat) :
    firstPackets original (count + 1) = (original 0).toList ++ firstPackets (fun n => original (1 + n)) count := by
  have hnext : (original ∘ Nat.succ) = fun n => original (1 + n) := funext fun n => by
    rw [Function.comp_apply, Nat.succ_eq_one_add]
  rw [firstPackets, List.range_succ_eq_map, List.filterMap_cons, List.filterMap_map, hnext]
  cases original 0 <;> rfl

/-- The loop draws `count` times, does what is in `actions`, and returns `packet`. -/
structure Loops (original : Nat → Option RakPacket) (left count : Nat) (packet : Option RakPacket)
    (actions : List HookAction) : Prop where
  draws : Draws original left count
  transparent : Transparent (actions ++ [.returned packet])
  drawn : actions.filterMap HookAction.drawn? = firstPackets original count
  counted : actions.countP HookAction.isDraw = count
  returned : packet.toList = (firstPackets original count).filter fun packet => !packet.claimed

theorem draws_kept {original : Nat → Option RakPacket} {left : Nat}
    (h : (original 0).any RakPacket.claimed = false) : Draws original (left + 1) 1 :=
  ⟨by omega, fun n hn => by omega, fun _ => ⟨0, rfl, h⟩⟩

theorem draws_consumed {original : Nat → Option RakPacket} {left count : Nat}
    (h : (original 0).any RakPacket.claimed = true) (hrest : Draws (fun n => original (1 + n)) left count) :
    Draws original (left + 1) (count + 1) := by
  refine ⟨Nat.succ_le_succ hrest.atMost, fun n hn => ?_, fun hlimit => ?_⟩
  · cases n with
    | zero => exact h
    | succ n =>
        rw [Nat.add_comm n 1]
        exact hrest.consumed n (Nat.lt_of_succ_lt_succ hn)
  · obtain ⟨last, rfl, hlast⟩ := hrest.kept (Nat.lt_of_succ_lt_succ hlimit)
    exact ⟨1 + last, by omega, hlast⟩

theorem loops_kept {original : Nat → Option RakPacket} {left : Nat} (h : (original 0).any RakPacket.claimed = false)
    (events : List ConnectionEvent) :
    Loops original (left + 1) 1 (original 0) ([.drew (original 0)] ++ events.map .connection) := by
  have hfirst : firstPackets original 1 = (original 0).toList := by
    rw [firstPackets_succ]
    exact List.append_nil _
  refine ⟨draws_kept h, (Transparent.of_unclaimed h).connections events, ?_, ?_, ?_⟩
  · rw [List.filterMap_append, drawn_connections, hfirst]
    cases original 0 <;> rfl
  · rw [List.countP_append, countP_connections]
    rfl
  · rw [hfirst]
    cases hp : original 0 with
    | none => rfl
    | some packet =>
        rw [hp, Option.any_some] at h
        simp [h]

theorem loops_consumed {original : Nat → Option RakPacket} {left count : Nat} {returned : Option RakPacket}
    {packet : RakPacket} {actions : List HookAction} (hp : original 0 = some packet) (h : packet.claimed = true)
    (events : List ConnectionEvent) (hrest : Loops (fun n => original (1 + n)) left count returned actions) :
    Loops original (left + 1) (count + 1) returned
      ([.drew (some packet)] ++ events.map .connection ++ consumption packet ++ actions) := by
  have hdraw : [HookAction.drew (some packet)].countP HookAction.isDraw = 1 := rfl
  have hfirst : firstPackets original (count + 1) = packet :: firstPackets (fun n => original (1 + n)) count := by
    rw [firstPackets_succ, hp]
    rfl
  refine ⟨draws_consumed (by rw [hp]; exact h) hrest.draws, ?_, ?_, ?_, ?_⟩
  · rw [List.append_assoc _ actions]
    exact ((Transparent.of_claimed h).connections events).append hrest.transparent
  · rw [hfirst, ← hrest.drawn]
    simp only [List.filterMap_append, drawn_connections, drawn_consumption, List.append_nil]
    rfl
  · simp only [List.countP_append, hdraw, countP_connections, countP_consumption, hrest.counted]
    omega
  · rw [hfirst, hrest.returned, List.filter_cons_of_neg (by simp [h])]

/-- The loop, with what it returns, is transparent, and it draws up to the first packet that is not claimed. -/
theorem receiveLoop_transparent (hi : transport.initialized = true) (hc : transport.callbacks.incoming = true)
    (original : Nat → Option RakPacket) (left first : Nat) :
    ∃ count actions, Acts transport (receiveLoop original left first transport).2 actions ∧
      Loops (fun n => original (first + n)) left count (receiveLoop original left first transport).1 actions := by
  induction left generalizing transport first with
  | zero =>
      exact ⟨0, [], .refl _, ⟨Nat.le_refl _, nofun, nofun⟩, ⟨rfl, rfl, rfl⟩, rfl, rfl, rfl⟩
  | succ left ih =>
      rcases Bool.eq_false_or_eq_true ((original first).any RakPacket.claimed) with hclaimed | hclaimed
      · obtain ⟨packet, hp, hclaimed⟩ := Option.any_eq_true _ _ |>.mp hclaimed
        obtain ⟨events, hround⟩ := round_claimed_acts hclaimed hi hc
        obtain ⟨count, actions, hacts, hloops⟩ := @ih (transport.round (some packet)).2
          (by rw [hround.initialized]; exact hi) (by rw [hround.callbacks]; exact hc) (first + 1)
        simp only [Nat.add_assoc] at hloops
        rw [receiveLoop_consumed hp hclaimed]
        exact ⟨count + 1, _, hround.trans hacts, loops_consumed hp hclaimed events hloops⟩
      · obtain ⟨events, hround⟩ := round_unclaimed_acts hclaimed
        rw [receiveLoop_kept hclaimed]
        exact ⟨1, _, hround, loops_kept hclaimed events⟩

/-- A call draws `count` times, does what is in `actions`, and returns the packet that is not claimed. -/
structure Serves (transport : SampRakNetTransport) (call : ReceiveCall) (count : Nat) (actions : List HookAction) :
    Prop where
  draws : Draws call.original kMaximumConsumedPacketsPerCall count
  acts : Acts transport (transport.afterCall call) actions
  transparent : Transparent actions
  drawn : actions.filterMap HookAction.drawn? = firstPackets call.original count
  counted : actions.countP HookAction.isDraw = count
  returned : (transport.receive call).1.toList =
    (firstPackets call.original count).filter fun packet => !packet.claimed

theorem receive_other {call : ReceiveCall} (h : some call.self ≠ transport.rakClient) :
    transport.receive call = (call.original 0, transport) := by rw [receive, if_pos h]

theorem receive_serves (hi : transport.initialized = true) (hc : transport.callbacks.incoming = true)
    {call : ReceiveCall} (hself : some call.self = transport.rakClient) :
    ∃ count actions, transport.Serves call count actions := by
  obtain ⟨events, hobserved⟩ := observeConnection_quiet transport call.isConnected
  have hreceive := receive.eq_def transport call
  rw [if_neg (not_not.mpr hself)] at hreceive
  generalize transport.observeConnection call.isConnected = observed at hobserved hreceive
  -- the pump is not traffic either
  have hpumped : ∃ pumps, Acts observed (if observed.connectedEventSent && observed.callbacks.pump then
      observed.record .pumped else observed) pumps ∧ Transparent pumps ∧ pumps.filterMap HookAction.drawn? = [] ∧
        pumps.countP HookAction.isDraw = 0 := by
    split
    · exact ⟨_, record_acts _ _, ⟨rfl, rfl, rfl⟩, rfl, rfl⟩
    · exact ⟨[], .refl _, ⟨rfl, rfl, rfl⟩, rfl, rfl⟩
  obtain ⟨pumps, hpumps, htransparent, hundrawn, hnone⟩ := hpumped
  have hready := hobserved.trans hpumps
  simp only at hreceive
  generalize (if observed.connectedEventSent && observed.callbacks.pump then
    observed.record .pumped else observed) = ready at hready hreceive
  obtain ⟨count, actions, hacts, hloops⟩ := receiveLoop_transparent (by rw [hready.initialized]; exact hi)
    (by rw [hready.callbacks]; exact hc) call.original kMaximumConsumedPacketsPerCall 0
  simp only [Nat.zero_add] at hloops
  generalize receiveLoop call.original kMaximumConsumedPacketsPerCall 0 ready = result at hacts hloops hreceive
  have hreturned : [HookAction.returned result.1].filterMap HookAction.drawn? = [] := rfl
  have hundrawing : [HookAction.returned result.1].countP HookAction.isDraw = 0 := rfl
  refine ⟨count, _, hloops.draws, ?_, ((Transparent.of_connections events).append htransparent).append
    hloops.transparent, ?_, ?_, hreceive ▸ hloops.returned⟩
  · rw [afterCall, hreceive]
    exact hready.trans (hacts.trans (record_acts _ _))
  · simp only [List.filterMap_append, drawn_connections, hundrawn, hloops.drawn, hreturned, List.nil_append,
      List.append_nil]
  · simp only [List.countP_append, countP_connections, hnone, hloops.counted, hundrawing]
    omega

theorem afterCall_transparent (hi : transport.initialized = true) (hc : transport.callbacks.incoming = true)
    (call : ReceiveCall) :
    ∃ actions, Acts transport (transport.afterCall call) actions ∧ Transparent actions := by
  by_cases hself : some call.self = transport.rakClient
  · obtain ⟨_, actions, hserves⟩ := receive_serves hi hc hself
    exact ⟨actions, hserves.acts, hserves.transparent⟩
  · rw [afterCall, receive_other hself]
    exact ⟨[], .refl _, rfl, rfl, rfl⟩

/-! ## The start -/

/-- A transport without a hook knows of no client, and one with a hook has its callbacks. -/
structure Coherent (transport : SampRakNetTransport) : Prop where
  hooked : transport.initialized = true → transport.callbacks.incoming = true
  idle : transport.initialized = false → transport.rakClient = none ∧ transport.connected = false ∧
    transport.awaitingDisconnectedState = false ∧ transport.connectedEventPending = false ∧
    transport.connectedEventSent = false

theorem fresh_coherent : Coherent fresh := ⟨fun h => (by cases h), fun _ => ⟨rfl, rfl, rfl, rfl, rfl⟩⟩

theorem shutdown_true_coherent (transport : SampRakNetTransport) : Coherent (transport.shutdown true) :=
  ⟨fun h => (by cases h), fun _ => ⟨rfl, rfl, rfl, rfl, rfl⟩⟩

theorem Coherent.shutdown (h : Coherent transport) (restored : Bool) : Coherent (transport.shutdown restored) := by
  cases restored with
  | false => exact h
  | true => exact shutdown_true_coherent transport

/-- `Initialize` fails and leaves a coherent transport, or it succeeds on one that has no hook. -/
theorem initializeTransport_cases (h : Coherent transport) (callbacks : TransportCallbacks)
    (resolution : Resolution) :
    ((transport.initializeTransport callbacks resolution).1 = false ∧
        Coherent (transport.initializeTransport callbacks resolution).2) ∨
      transport.initialized = false ∧ callbacks.incoming = true ∧ callbacks.connection = true ∧
        ∃ rakClient, transport.initializeTransport callbacks resolution = (true,
          { transport with callbacks, rakClient := some rakClient, initialized := true, actions := [] }) := by
  unfold initializeTransport
  split
  · exact .inl ⟨rfl, h⟩
  · rename_i hcalls
    simp only [Bool.or_eq_true, Bool.not_eq_true', not_or, Bool.not_eq_false, Bool.not_eq_true] at hcalls
    obtain ⟨⟨hidle, hincoming⟩, hconnection⟩ := hcalls
    split
    · exact .inl ⟨rfl, h⟩
    · cases hr : resolution.rakClient with
      | none => exact .inl ⟨rfl, shutdown_true_coherent _⟩
      | some rakClient =>
          simp only [Option.isSome_some, Bool.not_true, Bool.false_or, Bool.not_eq_true']
          split
          · exact .inl ⟨rfl, shutdown_true_coherent _⟩
          · exact .inr ⟨hidle, hincoming, hconnection, rakClient, rfl⟩

theorem Coherent.live (h : Coherent transport) (event : Lifecycle) : Coherent (transport.live event) := by
  cases event with
  | initializeTransport callbacks resolution =>
      rcases initializeTransport_cases h callbacks resolution with ⟨-, hc⟩ | ⟨-, hincoming, -, rakClient, heq⟩
      · exact hc
      · rw [SampRakNetTransport.live, heq]
        exact ⟨fun _ => hincoming, fun hi => (by cases hi)⟩
  | receive call =>
      rcases Bool.eq_false_or_eq_true transport.initialized with hi | hi
      · obtain ⟨_, hacts, -⟩ := afterCall_transparent hi (h.hooked hi) call
        refine ⟨fun _ => ?_, fun hidle => ?_⟩
        · rw [SampRakNetTransport.live, ← afterCall, hacts.callbacks]
          exact h.hooked hi
        · rw [SampRakNetTransport.live, ← afterCall, hacts.initialized, hi] at hidle
          cases hidle
      · have hpass : (transport.receive call).2 = transport := by
          rw [receive, (h.idle hi).1, if_pos (Option.some_ne_none _)]
        rw [SampRakNetTransport.live, hpass]
        exact h
  | shutdown restored => exact h.shutdown restored

/-- What a successful `Initialize` leaves. -/
structure Ready (transport : SampRakNetTransport) : Prop where
  initialized : transport.initialized = true
  incoming : transport.callbacks.incoming = true
  connected : transport.connected = false
  awaiting : transport.awaitingDisconnectedState = false
  pending : transport.connectedEventPending = false
  sent : transport.connectedEventSent = false
  actions : transport.actions = []

theorem Started.ready (h : Started transport) : Ready transport := by
  obtain ⟨before, callbacks, resolution, hsuccess⟩ := h
  have hcoherent : Coherent (run SampRakNetTransport.live fresh before) :=
    run_invariant (fun _ event h => h.live event) fresh_coherent before
  rcases initializeTransport_cases hcoherent callbacks resolution with ⟨hfails, -⟩ | ⟨hidle, hin, -, _, heq⟩
  · rw [hsuccess] at hfails
    cases hfails
  · obtain ⟨-, hconnected, hawaiting, hpending, hsent⟩ := hcoherent.idle hidle
    rw [heq] at hsuccess
    cases hsuccess
    exact ⟨rfl, hin, hconnected, hawaiting, hpending, hsent, rfl⟩

/-! ## Runs -/

/-- The transport is in service, and what it has done is transparent. -/
structure Serving (transport : SampRakNetTransport) : Prop where
  initialized : transport.initialized = true
  incoming : transport.callbacks.incoming = true
  transparent : Transparent transport.actions

theorem Ready.serving (h : Ready transport) : Serving transport :=
  ⟨h.initialized, h.incoming, by rw [h.actions]; exact ⟨rfl, rfl, rfl⟩⟩

theorem Serving.afterCall (h : Serving transport) (call : ReceiveCall) : Serving (transport.afterCall call) := by
  obtain ⟨actions, hacts, htransparent⟩ := afterCall_transparent h.initialized h.incoming call
  refine ⟨by rw [hacts.initialized]; exact h.initialized, by rw [hacts.callbacks]; exact h.incoming, ?_⟩
  rw [hacts.actions]
  exact h.transparent.append htransparent

theorem Serving.rakClient_afterCall (h : Serving transport) (call : ReceiveCall) :
    (transport.afterCall call).rakClient = transport.rakClient := by
  obtain ⟨_, hacts, -⟩ := afterCall_transparent h.initialized h.incoming call
  exact hacts.rakClient

/-- The calls on SA-MP's client draw as often as they may, and return what is not claimed. -/
theorem Serving.run_returns (h : Serving transport) (calls : List ReceiveCall) :
    ∃ counts, List.Forall₂ (fun call count => Draws call.original kMaximumConsumedPacketsPerCall count)
        (transport.own calls) counts ∧
      (run SampRakNetTransport.afterCall transport calls).actions.filterMap HookAction.drawn? =
        transport.actions.filterMap HookAction.drawn? ++ packetsDrawn (transport.own calls) counts ∧
      collect SampRakNetTransport.afterCall returns transport calls =
        (packetsDrawn (transport.own calls) counts).filter fun packet => !packet.claimed := by
  induction calls generalizing transport with
  | nil => exact ⟨[], .nil, (List.append_nil _).symm, rfl⟩
  | cons call calls ih =>
      obtain ⟨counts, hdraws, hdrawn, hreturned⟩ := ih (h.afterCall call)
      have hsame : (transport.afterCall call).own calls = transport.own calls := by
        rw [own, h.rakClient_afterCall, own]
      rw [hsame] at hdraws hdrawn hreturned
      by_cases hself : some call.self = transport.rakClient
      · obtain ⟨count, actions, hserves⟩ := receive_serves h.initialized h.incoming hself
        have hown : transport.own (call :: calls) = call :: transport.own calls :=
          List.filter_cons_of_pos (decide_eq_true hself)
        have hcons : packetsDrawn (call :: transport.own calls) (count :: counts) =
            firstPackets call.original count ++ packetsDrawn (transport.own calls) counts := rfl
        rw [hown]
        refine ⟨count :: counts, .cons hserves.draws hdraws, ?_, ?_⟩
        · rw [run_cons, hdrawn, hserves.acts.actions, List.filterMap_append, hserves.drawn, hcons,
            List.append_assoc]
        · rw [collect, returns, if_pos hself, hserves.returned, hreturned, hcons, List.filter_append]
      · have hpass : transport.afterCall call = transport := by
          rw [SampRakNetTransport.afterCall, receive_other hself]
        have hown : transport.own (call :: calls) = transport.own calls :=
          List.filter_cons_of_neg (by simpa using hself)
        rw [hown]
        refine ⟨counts, hdraws, ?_, ?_⟩
        · rw [run_cons, hdrawn, hpass]
        · rw [collect, returns, if_neg hself, hreturned]
          rfl

end SampRakNetTransport

end CustomModels.Client
