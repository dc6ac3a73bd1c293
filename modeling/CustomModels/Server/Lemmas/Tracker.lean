import CustomModels.Lib.Run
import CustomModels.Shared.Lemmas.Codec
import CustomModels.Server.Session

/-!
# The capability tracker
-/

namespace CustomModels.Server
open CustomModels.Shared CustomModels.Lib

/-! ## Checks of a Hello -/

theorem isRuntimeSupported_iff {version minimum : RuntimeVersion} :
    isRuntimeSupported version minimum = true ↔ RuntimeVersion.Supports version minimum := by
  unfold isRuntimeSupported RuntimeVersion.Supports
  split
  · simp_all
  · rename_i hmajor
    rw [ne_eq, not_not] at hmajor
    split
    · rename_i hminor
      simp [hmajor, hminor, UInt16.lt_iff_toNat_lt]
    · rename_i hminor
      rw [ne_eq, not_not] at hminor
      simp [hmajor, hminor, UInt16.le_iff_toNat_le]

theorem hasPhase2BTransport_iff {version : SampVersion} :
    hasPhase2BTransport version = true ↔ version = .r1 ∨ version = .r31 := by
  simp [hasPhase2BTransport]

/-- Both builds with a transport have a record, so the search for the record decides nothing. -/
theorem sampBuild_check {version : SampVersion} :
    ((findSampBuild version).isNone || !hasPhase2BTransport version) = false ↔
      version = .r1 ∨ version = .r31 := by
  rw [Bool.or_eq_false_iff, Bool.not_eq_false', hasPhase2BTransport_iff]
  constructor
  · exact And.right
  · rintro (rfl | rfl)
    · exact ⟨by decide, Or.inl rfl⟩
    · exact ⟨by decide, Or.inr rfl⟩

theorem sameHello_iff {state : PlayerCapabilityState} {hello : Hello} :
    sameHello state hello = true ↔ state.hello = hello := by
  obtain ⟨version, protocolVersion, build, capabilities⟩ := hello
  simp only [sameHello, PlayerCapabilityState.hello, Bool.and_eq_true, beq_iff_eq, Hello.mk.injEq,
    and_assoc]

namespace PlayerCapabilityTracker

variable {tracker : PlayerCapabilityTracker} {playerId other : UInt32} {hello : Hello}

/-! ## Reading the map -/

@[simp] theorem make_policy (policy : HandshakePolicy) :
    (make policy).policy = { policy with
      serverCapabilities := policy.offered
      requiredCapabilities := policy.required } := rfl

@[simp] theorem make_lookup (policy : HandshakePolicy) : (make policy).players.lookup playerId = none := by
  simp [make]

@[simp] theorem assign_policy (state : PlayerCapabilityState) :
    (tracker.assign playerId state).policy = tracker.policy := rfl

@[simp] theorem assign_lookup_self (state : PlayerCapabilityState) :
    (tracker.assign playerId state).players.lookup playerId = some state := by
  simp [assign]

theorem assign_lookup_of_ne {state : PlayerCapabilityState} (h : other ≠ playerId) :
    (tracker.assign playerId state).players.lookup other = tracker.players.lookup other := by
  simp [assign, Finmap.lookup_insert_of_ne _ h]

theorem getState_of_lookup {state : PlayerCapabilityState}
    (h : tracker.players.lookup playerId = some state) : tracker.getState playerId = state := by
  rw [getState, h, Option.getD_some]

theorem getState_of_lookup_none (h : tracker.players.lookup playerId = none) :
    tracker.getState playerId = .ofState .unknown := by
  rw [getState, h, Option.getD_none]

theorem lookup_of_getState (h : (tracker.getState playerId).state ≠ .unknown) :
    tracker.players.lookup playerId = some (tracker.getState playerId) := by
  cases hl : tracker.players.lookup playerId with
  | none => exact absurd (by rw [getState_of_lookup_none hl]; rfl) h
  | some state => rw [getState_of_lookup hl]

/-! ## What `HandleHello` can do -/

/-- The policy of the tracker is the configured one with its capabilities masked. -/
def Runs (tracker : PlayerCapabilityTracker) (policy : HandshakePolicy) : Prop :=
  tracker.policy = (make policy).policy

variable {policy : HandshakePolicy}

theorem handlePendingHello_of_admits (hp : tracker.Runs policy) (h : policy.Admits hello) :
    tracker.handlePendingHello playerId hello =
      (.welcome (tracker.welcomeFor (.accepted policy hello)),
        tracker.assign playerId (.accepted policy hello)) := by
  obtain ⟨hproto, hruntime, hbuild, hcaps, hrequired⟩ := h
  rw [Runs, make_policy] at hp
  simp only [handlePendingHello, hp, hproto, isRuntimeSupported_iff.mpr hruntime, sampBuild_check.mpr hbuild,
    areCapabilitiesValid_iff.mpr hcaps, hrequired, kProtocolVersion, ne_eq, not_true_eq_false,
    Bool.not_true, Bool.false_eq_true, ↓reduceIte]
  rfl

theorem handlePendingHello_of_not_admits (hp : tracker.Runs policy) (h : ¬ policy.Admits hello)
    (playerId : UInt32) :
    ∃ reason, (Message.reject ⟨reason⟩).Encodable ∧
      tracker.handlePendingHello playerId hello = tracker.rejectHello playerId hello reason := by
  rw [Runs, make_policy] at hp
  simp only [handlePendingHello]
  split_ifs with hproto hruntime hbuild hcaps hrequired
  · exact ⟨.unsupportedProtocol, by decide, rfl⟩
  · exact ⟨.unsupportedClientRuntime, by decide, rfl⟩
  · exact ⟨.unsupportedSampBuild, by decide, rfl⟩
  · exact ⟨.malformedHandshake, by decide, rfl⟩
  · exact ⟨.unsupportedCapabilities, by decide, rfl⟩
  · refine absurd ⟨?_, ?_, ?_, ?_, ?_⟩ h
    · simpa [kProtocolVersion] using hproto
    · rw [hp] at hruntime
      exact isRuntimeSupported_iff.mp (by simpa using hruntime)
    · exact sampBuild_check.mp (Bool.eq_false_iff.mpr hbuild)
    · exact areCapabilitiesValid_iff.mp (by simpa using hcaps)
    · rw [hp] at hrequired
      simpa [stateFromHello] using hrequired

/-- The four outcomes of `HandleHello`: a repeated Hello of a compatible player, any Hello of a rejected
one, an admitted Hello of a pending one, and the rejection of everything else. -/
theorem handleHello_cases (hp : tracker.Runs policy) (playerId : UInt32) (hello : Hello) :
    (∃ current, tracker.players.lookup playerId = some current ∧ current.state = .compatible ∧
        current.hello = hello ∧
        tracker.handleHello playerId hello = (.welcome (tracker.welcomeFor current), tracker)) ∨
      (∃ current reason, tracker.players.lookup playerId = some current ∧ current.state = .rejected ∧
        current.rejectReason = some reason ∧
        tracker.handleHello playerId hello = (.reject ⟨reason⟩, tracker)) ∨
      (∃ current, tracker.players.lookup playerId = some current ∧ current.state = .handshakePending ∧
        policy.Admits hello ∧
        tracker.handleHello playerId hello =
          (.welcome (tracker.welcomeFor (.accepted policy hello)),
            tracker.assign playerId (.accepted policy hello))) ∨
      ∃ reason, (Message.reject ⟨reason⟩).Encodable ∧
        (∀ current, tracker.players.lookup playerId = some current →
          current.state = .compatible → current.hello ≠ hello) ∧
        tracker.handleHello playerId hello = tracker.rejectHello playerId hello reason := by
  have hmalformed : (Message.reject ⟨.malformedHandshake⟩).Encodable := by decide
  unfold handleHello
  cases hl : tracker.players.lookup playerId with
  | none => exact .inr (.inr (.inr ⟨_, hmalformed, by simp, rfl⟩))
  | some current =>
      by_cases hsame : current.state = .compatible ∧ sameHello current hello = true
      · exact .inl ⟨current, rfl, hsame.1, sameHello_iff.mp hsame.2, by simp only [hsame, and_self, ↓reduceIte]⟩
      · have hother : ∀ c, some current = some c → c.state = .compatible → c.hello ≠ hello := by
          rintro c ⟨⟩ hc he
          exact hsame ⟨hc, sameHello_iff.mpr he⟩
        simp only [hsame, ↓reduceIte]
        cases hstate : current.state with
        | rejected =>
            cases hreason : current.rejectReason with
            | none => exact .inr (.inr (.inr ⟨_, hmalformed, hother, rfl⟩))
            | some reason => exact .inr (.inl ⟨current, reason, rfl, hstate, hreason, rfl⟩)
        | handshakePending =>
            by_cases hadmits : policy.Admits hello
            · exact .inr (.inr (.inl ⟨current, rfl, hstate, hadmits, handlePendingHello_of_admits hp hadmits⟩))
            · obtain ⟨reason, he, hr⟩ := handlePendingHello_of_not_admits hp hadmits playerId
              exact .inr (.inr (.inr ⟨reason, he, hother, hr⟩))
        | unknown => exact .inr (.inr (.inr ⟨_, hmalformed, hother, rfl⟩))
        | compatible => exact .inr (.inr (.inr ⟨_, hmalformed, hother, rfl⟩))

/-! ## The invariant of every history -/

theorem accepted_sound (h : policy.Admits hello) :
    (PlayerCapabilityState.accepted policy hello).Sound policy :=
  ⟨fun _ => ⟨h, rfl, rfl⟩, nofun⟩

theorem rejection_sound {state : PlayerCapabilityState} (hs : state.state = .rejected)
    (hr : state.rejectReason.isSome) : state.Sound policy := by
  refine ⟨fun h => ?_, fun _ => hr⟩
  rw [hs] at h
  cases h

/-- The tracker runs under the policy, and every record that it keeps is sound. -/
def Sessions (policy : HandshakePolicy) (tracker : PlayerCapabilityTracker) : Prop :=
  tracker.Runs policy ∧
    ∀ playerId state, tracker.players.lookup playerId = some state → state.Sound policy

theorem make_sessions (policy : HandshakePolicy) : Sessions policy (make policy) :=
  ⟨rfl, by simp⟩

theorem Sessions.assign (h : Sessions policy tracker) {state : PlayerCapabilityState}
    (hs : state.Sound policy) : Sessions policy (tracker.assign playerId state) := by
  refine ⟨h.1, fun id current hc => ?_⟩
  by_cases he : id = playerId
  · subst he
    rw [assign_lookup_self] at hc
    cases hc
    exact hs
  · rw [assign_lookup_of_ne he] at hc
    exact h.2 id current hc

theorem Sessions.handleHello (h : Sessions policy tracker) (playerId : UInt32) (hello : Hello) :
    Sessions policy (tracker.handleHello playerId hello).2 := by
  obtain ⟨_, _, _, _, he⟩ | ⟨_, _, _, _, _, he⟩ | ⟨_, _, _, hadmits, he⟩ | ⟨_, _, _, he⟩ :=
    handleHello_cases h.1 playerId hello
  · rwa [he]
  · rwa [he]
  · rw [he]
    exact h.assign (accepted_sound hadmits)
  · rw [he]
    exact h.assign (rejection_sound rfl rfl)

theorem Sessions.call (h : Sessions policy tracker) (c : Call) : Sessions policy (tracker.call c) := by
  cases c with
  | beginHandshake playerId => exact h.assign ⟨nofun, nofun⟩
  | handleHello playerId hello => exact h.handleHello playerId hello
  | rejectPlayer playerId reason => exact h.assign (rejection_sound rfl rfl)
  | removePlayer playerId =>
      refine ⟨h.1, fun id current hc => ?_⟩
      by_cases he : id = playerId
      · subst he
        simp [PlayerCapabilityTracker.call, removePlayer] at hc
      · simp only [PlayerCapabilityTracker.call, removePlayer, Finmap.lookup_erase_ne he] at hc
        exact h.2 id current hc
  | reset => exact ⟨h.1, by simp [PlayerCapabilityTracker.call, reset]⟩

theorem run_sessions (policy : HandshakePolicy) (calls : List Call) :
    Sessions policy (run call (make policy) calls) :=
  run_invariant (fun _ c h => h.call c) (make_sessions policy) calls

/-! ## Calls about one player -/

/-- `HandleHello` keeps the tracker as it is, or stores a record of the one player. -/
theorem handleHello_assigns (tracker : PlayerCapabilityTracker) (playerId : UInt32) (hello : Hello) :
    (tracker.handleHello playerId hello).2 = tracker ∨
      ∃ state, (tracker.handleHello playerId hello).2 = tracker.assign playerId state := by
  have hpending : ∃ state, (tracker.handlePendingHello playerId hello).2 = tracker.assign playerId state := by
    simp only [handlePendingHello]
    split_ifs
    all_goals exact ⟨_, rfl⟩
  unfold handleHello
  split
  · exact .inr ⟨_, rfl⟩
  · split
    · exact .inl rfl
    · split
      · exact .inl rfl
      · exact .inr hpending
      · exact .inr ⟨_, rfl⟩

theorem handleHello_of_other {current : PlayerCapabilityState} (hp : tracker.Runs policy)
    (hl : tracker.players.lookup playerId = some current) (hc : current.state = .compatible)
    (hs : sameHello current hello = false) :
    ∃ reason, tracker.handleHello playerId hello = tracker.rejectHello playerId hello reason := by
  obtain ⟨_, hl', _, hh, _⟩ | ⟨_, _, hl', hr, _⟩ | ⟨_, hl', hr, _⟩ | ⟨reason, _, _, he⟩ :=
    handleHello_cases hp playerId hello
  · cases hl.symm.trans hl'
    rw [sameHello_iff.mpr hh] at hs
    cases hs
  · cases hl.symm.trans hl'
    rw [hc] at hr
    cases hr
  · cases hl.symm.trans hl'
    rw [hc] at hr
    cases hr
  · exact ⟨reason, he⟩

theorem handleHello_lookup_of_ne (h : other ≠ playerId) :
    (tracker.handleHello playerId hello).2.players.lookup other = tracker.players.lookup other := by
  obtain he | ⟨_, he⟩ := handleHello_assigns tracker playerId hello
  · rw [he]
  · rw [he, assign_lookup_of_ne h]

theorem compatible_of_welcome (hp : tracker.Runs policy) {value : Welcome}
    (h : (tracker.handleHello playerId hello).1 = .welcome value) :
    ((tracker.handleHello playerId hello).2.getState playerId).state = .compatible := by
  obtain ⟨current, hl, hc, _, he⟩ | ⟨_, _, _, _, _, he⟩ | ⟨_, _, _, _, he⟩ | ⟨_, _, _, he⟩ :=
    handleHello_cases hp playerId hello
  · rw [he, getState_of_lookup hl, hc]
  · rw [he] at h
    cases h
  · rw [he, getState_of_lookup (assign_lookup_self _)]
    rfl
  · rw [he] at h
    cases h

/-- A call about other players leaves a record alone. -/
theorem call_lookup_of_not_concerns {c : Call} (h : ¬ c.Concerns playerId) :
    (tracker.call c).players.lookup playerId = tracker.players.lookup playerId := by
  cases c with
  | beginHandshake id => exact assign_lookup_of_ne (Ne.symm h)
  | handleHello id hello => exact handleHello_lookup_of_ne (Ne.symm h)
  | rejectPlayer id reason => exact assign_lookup_of_ne (Ne.symm h)
  | removePlayer id => exact Finmap.lookup_erase_ne (Ne.symm h)
  | reset => exact absurd trivial h

/-- What the first Hello of a session settles: the record says compatible with this Hello, or rejected. -/
def Settled (tracker : PlayerCapabilityTracker) (playerId : UInt32) (hello : Hello) : Prop :=
  ∃ current, tracker.players.lookup playerId = some current ∧
    (current.state = .compatible ∧ current.hello = hello ∨
      current.state = .rejected ∧ current.rejectReason.isSome)

theorem settled_of_getState (hs : Sessions policy tracker)
    (h : (tracker.getState playerId).state = .compatible ∧ (tracker.getState playerId).hello = hello ∨
      (tracker.getState playerId).state = .rejected) : tracker.Settled playerId hello := by
  have hl : tracker.players.lookup playerId = some (tracker.getState playerId) := by
    apply lookup_of_getState
    rcases h with ⟨h, _⟩ | h <;> rw [h] <;> exact nofun
  exact ⟨_, hl, h.imp_right fun hr => ⟨hr, (hs.2 _ _ hl).rejected hr⟩⟩

/-- Where the Hello settles, its answer reads only the record and the policy. -/
theorem handleHello_of_settled (h : tracker.Settled playerId hello) :
    (tracker.handleHello playerId hello).2 = tracker ∧
      ∀ later : PlayerCapabilityTracker, later.policy = tracker.policy →
        later.players.lookup playerId = tracker.players.lookup playerId →
        (later.handleHello playerId hello).1 = (tracker.handleHello playerId hello).1 := by
  obtain ⟨current, hl, ⟨hc, he⟩ | ⟨hc, hr⟩⟩ := h
  · have hs := sameHello_iff.mpr he
    refine ⟨by simp [handleHello, hl, hc, hs], fun later hp hlater => ?_⟩
    simp [handleHello, hlater, hl, hc, hs, welcomeFor, hp]
  · obtain ⟨reason, hr⟩ := Option.isSome_iff_exists.mp hr
    refine ⟨by simp [handleHello, hl, hc, hr], fun later _ hlater => ?_⟩
    simp [handleHello, hlater, hl, hc, hr]

theorem handleHello_settles (hp : tracker.Runs policy) (playerId : UInt32) (hello : Hello) :
    (tracker.handleHello playerId hello).2.Settled playerId hello := by
  obtain ⟨current, hl, hc, hh, he⟩ | ⟨current, reason, hl, hc, hr, he⟩ | ⟨_, _, _, _, he⟩ | ⟨_, _, _, he⟩ :=
    handleHello_cases hp playerId hello
  · exact ⟨current, by rw [he, hl], .inl ⟨hc, hh⟩⟩
  · exact ⟨current, by rw [he, hl], .inr ⟨hc, by rw [hr]; rfl⟩⟩
  · exact ⟨_, by rw [he, assign_lookup_self], .inl ⟨rfl, rfl⟩⟩
  · exact ⟨_, by rw [he]; exact assign_lookup_self _, .inr ⟨rfl, rfl⟩⟩

/-- An answered Hello is answered alike when it is repeated at once. -/
theorem handleHello_repeats (hp : tracker.Runs policy) (playerId : UInt32) (hello : Hello) :
    (tracker.handleHello playerId hello).2.handleHello playerId hello =
      tracker.handleHello playerId hello := by
  obtain ⟨_, _, _, _, he⟩ | ⟨_, _, _, _, _, he⟩ | ⟨_, _, _, _, he⟩ | ⟨reason, _, _, he⟩ :=
    handleHello_cases hp playerId hello
  · simp only [he]
  · simp only [he]
  · have hs : sameHello (.accepted policy hello) hello = true := sameHello_iff.mpr rfl
    rw [he]
    simp only [handleHello, assign_lookup_self, hs, and_true]
    rfl
  · rw [he]
    simp only [handleHello, rejectHello, assign_lookup_self]
    rfl

theorem call_policy (tracker : PlayerCapabilityTracker) (c : Call) :
    (tracker.call c).policy = tracker.policy := by
  cases c with
  | handleHello playerId hello =>
      obtain he | ⟨_, he⟩ := handleHello_assigns tracker playerId hello
      · rw [call, he]
      · rw [call, he, assign_policy]
  | _ => rfl

/-- Neither calls about other players nor repetitions of the Hello change its answer. -/
theorem handleHello_repeats_later (hp : tracker.Runs policy) {later : List Call}
    (h : ∀ c ∈ later, ¬ c.Concerns playerId ∨ c = .handleHello playerId hello) :
    let answered := tracker.handleHello playerId hello
    (run call answered.2 later).handleHello playerId hello = (answered.1, run call answered.2 later) := by
  intro answered
  have hsettled : answered.2.Settled playerId hello := handleHello_settles hp playerId hello
  have hkept : (run call answered.2 later).policy = answered.2.policy ∧
      (run call answered.2 later).players.lookup playerId = answered.2.players.lookup playerId := by
    clear_value answered
    induction later using List.reverseRecOn with
    | nil => exact ⟨rfl, rfl⟩
    | append_singleton later c ih =>
        obtain ⟨ihp, ihl⟩ := ih fun c hc => h c (List.mem_append_left _ hc)
        rw [run_append, run_cons, run_nil, call_policy]
        refine ⟨ihp, ?_⟩
        rcases h c (List.mem_append_right _ (List.mem_singleton_self c)) with hc | rfl
        · rw [call_lookup_of_not_concerns hc, ihl]
        · have hs : (run call answered.2 later).Settled playerId hello := by rwa [Settled, ihl]
          rw [call, (handleHello_of_settled hs).1, ihl]
  have hs : (run call answered.2 later).Settled playerId hello := by rwa [Settled, hkept.2]
  refine Prod.ext ?_ (handleHello_of_settled hs).1
  rw [(handleHello_of_settled hsettled).2 _ hkept.1 hkept.2, handleHello_repeats hp]

/-! ## Rejection lasts -/

/-- Only `BeginHandshake` takes a player out of a rejection into a session that can succeed. -/
theorem call_not_accepted (hs : Sessions policy tracker)
    (h : (tracker.getState playerId).state ≠ .compatible ∧
      (tracker.getState playerId).state ≠ .handshakePending)
    {c : Call} (hc : ¬ c.Begins playerId) :
    ((tracker.call c).getState playerId).state ≠ .compatible ∧
      ((tracker.call c).getState playerId).state ≠ .handshakePending := by
  by_cases hcon : c.Concerns playerId
  · cases c with
    | beginHandshake id => exact absurd hcon hc
    | handleHello id hello =>
        cases (hcon : id = playerId)
        obtain ⟨current, hl, hstate, _, _⟩ | ⟨_, _, _, _, _, he⟩ | ⟨current, hl, hstate, _, _⟩ | ⟨_, _, _, he⟩ :=
          handleHello_cases hs.1 playerId hello
        · exact absurd (by rw [getState_of_lookup hl, hstate]) h.1
        · rwa [call, he]
        · exact absurd (by rw [getState_of_lookup hl, hstate]) h.2
        · rw [call, he, rejectHello, getState_of_lookup (assign_lookup_self _)]
          exact ⟨nofun, nofun⟩
    | rejectPlayer id reason =>
        cases (hcon : id = playerId)
        rw [call, rejectPlayer, getState_of_lookup (assign_lookup_self _)]
        exact ⟨nofun, nofun⟩
    | removePlayer id =>
        cases (hcon : id = playerId)
        rw [call, getState_of_lookup_none (Finmap.lookup_erase _ _)]
        exact ⟨nofun, nofun⟩
    | reset =>
        rw [call, getState_of_lookup_none (Finmap.lookup_empty _)]
        exact ⟨nofun, nofun⟩
  · rwa [getState, call_lookup_of_not_concerns hcon]

theorem run_not_accepted (hs : Sessions policy tracker)
    (h : (tracker.getState playerId).state ≠ .compatible ∧
      (tracker.getState playerId).state ≠ .handshakePending)
    {later : List Call} (hl : ∀ c ∈ later, ¬ c.Begins playerId) :
    ((run call tracker later).getState playerId).state ≠ .compatible ∧
      ((run call tracker later).getState playerId).state ≠ .handshakePending := by
  induction later generalizing tracker with
  | nil => exact h
  | cons c later ih =>
      exact ih (hs.call c) (call_not_accepted hs h (hl c List.mem_cons_self))
        fun d hd => hl d (List.mem_cons_of_mem _ hd)

end PlayerCapabilityTracker

end CustomModels.Server
