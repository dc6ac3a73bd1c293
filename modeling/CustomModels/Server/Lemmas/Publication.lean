import CustomModels.Shared.Lemmas.Frames
import CustomModels.Shared.Lemmas.Manifests
import CustomModels.Server.AssetPublication

/-!
# Asset publication
-/

namespace CustomModels.Server
open CustomModels.Shared

namespace AssetPublication

variable {publication : AssetPublication} {playerId other : UInt32} {state : PlayerAssetState}

/-! ## Reading the map -/

theorem getState_of_lookup (h : publication.players.lookup playerId = some state) :
    publication.getState playerId = state := by
  rw [getState, h, Option.getD_some]

theorem getState_of_lookup_none (h : publication.players.lookup playerId = none) :
    publication.getState playerId = .ofState .unknown := by
  rw [getState, h, Option.getD_none]

@[simp] theorem getState_assign_self :
    (publication.assign playerId state).getState playerId = state := by
  simp [getState, assign]

theorem getState_assign_of_ne (h : other ≠ playerId) :
    (publication.assign playerId state).getState other = publication.getState other := by
  simp [getState, assign, Finmap.lookup_insert_of_ne _ h]

/-- The states in which reports are recorded: the whole manifest was sent. -/
def Published (publication : AssetPublication) (playerId : UInt32) : Prop :=
  (publication.getState playerId).state = .manifestComplete ∨
    (publication.getState playerId).state = .assetsReady

theorem not_published_of_lookup_none (h : publication.players.lookup playerId = none) :
    ¬ publication.Published playerId := by
  rw [Published, getState_of_lookup_none h]
  rintro (h | h) <;> cases h

/-! ## What the handlers change -/

/-- A report is handled for players with a whole manifest only. -/
theorem handleIncoming_of_not_published (h : ¬ publication.Published playerId) (message : Message) :
    publication.handleIncoming playerId message = (.invalidOrder, publication) := by
  unfold handleIncoming
  cases hl : publication.players.lookup playerId with
  | none => rfl
  | some found =>
      rw [Published, getState_of_lookup hl, not_or] at h
      simp only [ne_eq, h, not_false_eq_true, and_self, ↓reduceIte]

/-- `HandleIncoming` keeps the publication as it is, or stores a record of the one player, who had the
whole manifest before. -/
theorem handleIncoming_assigns (publication : AssetPublication) (playerId : UInt32) (message : Message) :
    (publication.handleIncoming playerId message).2 = publication ∨
      publication.Published playerId ∧
        ∃ state, (publication.handleIncoming playerId message).2 = publication.assign playerId state := by
  by_cases hp : publication.Published playerId
  · unfold handleIncoming
    split
    · exact .inl rfl
    · split
      · exact .inl rfl
      · split
        · exact .inr ⟨hp, _, rfl⟩
        · exact .inr ⟨hp, _, rfl⟩
        · exact .inl rfl
  · rw [handleIncoming_of_not_published hp]
    exact .inl rfl

/-- No report gives a player the whole manifest. -/
theorem published_of_handleIncoming {message : Message}
    (h : (publication.handleIncoming playerId message).2.Published other) : publication.Published other := by
  obtain he | ⟨hp, state, he⟩ := handleIncoming_assigns publication playerId message
  · rwa [he] at h
  · by_cases ho : other = playerId
    · rwa [ho]
    · rwa [he, Published, getState_assign_of_ne ho] at h

theorem getState_onPlayerCompatible_of_ne {registry : AssetRegistry} {transport : ServerTransport}
    (h : other ≠ playerId) :
    (publication.onPlayerCompatible registry transport playerId).2.1.getState other =
      publication.getState other := by
  unfold onPlayerCompatible
  split
  · rfl
  · split
    · rfl
    · split
      · rfl
      · simp only
        split <;> exact getState_assign_of_ne h

/-! ## Sending a manifest -/

/-- Messages sent one by one, up to the first failure. -/
def sendAll (playerId : UInt32) : List Message → ServerTransport → Bool × ServerTransport
  | [], transport => (true, transport)
  | message :: messages, transport =>
      match send transport playerId message with
      | (false, transport) => (false, transport)
      | (true, transport) => sendAll playerId messages transport

theorem sendAll_append (playerId : UInt32) (xs ys : List Message) (transport : ServerTransport) :
    sendAll playerId (xs ++ ys) transport =
      match sendAll playerId xs transport with
      | (false, transport) => (false, transport)
      | (true, transport) => sendAll playerId ys transport := by
  induction xs generalizing transport with
  | nil => rfl
  | cons x xs ih =>
      simp only [List.cons_append, sendAll]
      rcases send transport playerId x with ⟨_ | _, after⟩
      · rfl
      · exact ih after

theorem sendAssets_eq (revision : UInt64) (playerId : UInt32) (index : Nat) (assets : List AssetDescription)
    (transport : ServerTransport) :
    sendAssets revision playerId index assets transport =
      sendAll playerId (Manifest.entryMessages revision index assets) transport := by
  induction assets generalizing index transport with
  | nil => rfl
  | cons asset assets ih =>
      simp only [sendAssets, Manifest.entryMessages, sendAll]
      rcases send transport playerId (.manifestAsset ⟨revision, UInt32.ofNat index, asset⟩) with ⟨_ | _, after⟩
      · rfl
      · exact ih (index + 1) after

/-- The publication sends the stream of the manifest, up to the first failure. -/
theorem sendManifest_eq (manifest : Manifest) (playerId : UInt32) (transport : ServerTransport) :
    sendManifest manifest playerId transport = sendAll playerId manifest.stream transport := by
  rw [Manifest.stream, List.cons_append, sendAll]
  simp only [sendManifest, sendAssets_eq, sendAll_append, Manifest.beginMessage, Manifest.endMessage]
  rcases send transport playerId _ with ⟨_ | _, after⟩
  · rfl
  · simp only [sendAll]
    rcases sendAll playerId _ after with ⟨_ | _, after⟩
    · rfl
    · simp only
      rcases send after playerId _ with ⟨_ | _, after⟩ <;> rfl

theorem send_of_encodable {message : Message} (h : message.Encodable) (transport : ServerTransport)
    (playerId : UInt32) : send transport playerId message = transport.send playerId message.frame := by
  simp only [send, encodePacket_of_encodable h, encodeFrame_packet h]

/-- A message is not sent to anyone, or always in the same frame. -/
theorem send_cases (playerId : UInt32) (message : Message) :
    (∀ transport, send transport playerId message = (false, transport)) ∨
      ∃ bytes, ∀ transport, send transport playerId message = transport.send playerId bytes := by
  simp only [send]
  cases encodePacket message kProtocolVersion with
  | error _ => exact .inl fun _ => rfl
  | ok encoded =>
      cases hf : encodeFrame encoded with
      | none => exact .inl fun _ => by simp only [hf]
      | some framed => exact .inr ⟨framed, fun _ => by simp only [hf]⟩

theorem send_handed (transport : ServerTransport) (playerId : UInt32) (message : Message) :
    ∃ handed, (send transport playerId message).2.sent = transport.sent ++ handed ∧
      ∀ s ∈ handed, s.playerId = playerId := by
  obtain hnot | ⟨bytes, hsend⟩ := send_cases playerId message
  · rw [hnot]
    exact ⟨[], by simp, by simp⟩
  · rw [hsend]
    exact ⟨_, rfl, by simp⟩

theorem sendAll_handed (playerId : UInt32) (messages : List Message) (transport : ServerTransport) :
    ∃ handed, (sendAll playerId messages transport).2.sent = transport.sent ++ handed ∧
      ∀ s ∈ handed, s.playerId = playerId := by
  induction messages generalizing transport with
  | nil => exact ⟨[], by simp [sendAll], by simp⟩
  | cons message messages ih =>
      obtain ⟨first, hfirst, hone⟩ := send_handed transport playerId message
      simp only [sendAll]
      generalize send transport playerId message = sent at *
      obtain ⟨_ | _, after⟩ := sent
      · exact ⟨first, hfirst, hone⟩
      · obtain ⟨rest, hrest, hmore⟩ := ih after
        refine ⟨first ++ rest, by rw [hrest, hfirst, List.append_assoc], fun s hs => ?_⟩
        exact (List.mem_append.mp hs).elim (hone s) (hmore s)

/-- Where the transport takes every frame, encodable messages are all sent. -/
theorem sendAll_of_answer (playerId : UInt32) {messages : List Message} (he : ∀ m ∈ messages, m.Encodable)
    {transport : ServerTransport} (ha : ∀ n, transport.sent.length ≤ n → transport.answer n = true) :
    sendAll playerId messages transport =
      (true, { transport with
        sent := transport.sent ++ messages.map fun message => ⟨playerId, message.frame, true⟩ }) := by
  induction messages generalizing transport with
  | nil => simp [sendAll]
  | cons message messages ih =>
      have hanswer := ha _ le_rfl
      simp only [sendAll, send_of_encodable (he message List.mem_cons_self), ServerTransport.send, hanswer]
      rw [ih (fun m hm => he m (List.mem_cons_of_mem _ hm))]
      · simp
      · intro n hn
        rw [List.length_append] at hn
        exact ha n (by omega)

/-- A pending player whose transport takes every frame is sent the whole stream. -/
theorem onPlayerCompatible_pending {registry : AssetRegistry} {transport : ServerTransport}
    (hm : registry.buildManifest.WellFormed)
    (hp : (publication.getState playerId).state = .handshakePending)
    (ha : ∀ n, transport.sent.length ≤ n → transport.answer n = true) :
    publication.onPlayerCompatible registry transport playerId =
      (.sent, publication.assign playerId
        { sendingState registry.buildManifest with
          state := if registry.buildManifest.assets.isEmpty then .assetsReady else .manifestComplete },
        { transport with sent := transport.sent ++
            registry.buildManifest.stream.map fun message => ⟨playerId, message.frame, true⟩ }) := by
  unfold onPlayerCompatible
  cases hl : publication.players.lookup playerId with
  | none =>
      rw [getState_of_lookup_none hl] at hp
      cases hp
  | some found =>
      rw [getState_of_lookup hl] at hp
      simp only [hp, reduceCtorEq, or_self, ↓reduceIte, ne_eq, not_true_eq_false, false_and,
        sendManifest_eq, sendAll_of_answer playerId hm.stream_encodable ha]

theorem sendAll_sent (playerId : UInt32) {messages : List Message} (he : ∀ m ∈ messages, m.Encodable)
    (transport : ServerTransport) (h : (sendAll playerId messages transport).1 = true) :
    (sendAll playerId messages transport).2.sent =
      transport.sent ++ messages.map fun message => ⟨playerId, message.frame, true⟩ := by
  induction messages generalizing transport with
  | nil => simp [sendAll]
  | cons message messages ih =>
      simp only [sendAll, send_of_encodable (he message List.mem_cons_self), ServerTransport.send] at h ⊢
      cases ha : transport.answer transport.sent.length with
      | false => simp [ha] at h
      | true =>
          simp only [ha] at h ⊢
          rw [ih (fun m hm => he m (List.mem_cons_of_mem _ hm)) _ h]
          simp

/-- What a publication that reports success has sent and recorded. -/
theorem onPlayerCompatible_sent {registry : AssetRegistry} {transport : ServerTransport}
    (hm : registry.buildManifest.WellFormed)
    (h : (publication.onPlayerCompatible registry transport playerId).1 = .sent) :
    (publication.onPlayerCompatible registry transport playerId).2.1 = publication.assign playerId
        { sendingState registry.buildManifest with
          state := if registry.buildManifest.assets.isEmpty then .assetsReady else .manifestComplete } ∧
      (publication.onPlayerCompatible registry transport playerId).2.2.sent = transport.sent ++
        registry.buildManifest.stream.map fun message => ⟨playerId, message.frame, true⟩ := by
  have hsent := sendAll_sent playerId hm.stream_encodable transport
  simp only [onPlayerCompatible, sendManifest_eq] at h ⊢
  split at h
  · cases h
  · split at h
    · cases h
    · rename_i hnew
      split at h
      · cases h
      · rename_i hstate
        rw [if_neg hnew, if_neg hstate]
        generalize sendAll playerId registry.buildManifest.stream transport = sent at *
        obtain ⟨_ | _, transport⟩ := sent
        · cases h
        · exact ⟨rfl, hsent rfl⟩

end AssetPublication

end CustomModels.Server
