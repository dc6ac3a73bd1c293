import CustomModels.Server.Lemmas.Component
import CustomModels.Server.Lemmas.ConfigGrammar
import CustomModels.Server.Lemmas.Readiness
import CustomModels.Server.Lemmas.Revisions

/-!
# Theorems about the server

The sessions of the capability tracker, the contents and the revisions of the asset registry, and what the
open.mp component makes of them.
-/

namespace CustomModels.Server
open CustomModels.Shared CustomModels.Lib

/-! ## The capability tracker -/

open PlayerCapabilityTracker in
/-- In every history of a tracker its records are sound, a rejection lasts until the next handshake of the
player begins, and a repeated Hello changes nothing and is answered as before. -/
theorem tracker_sessions (policy : HandshakePolicy) (calls : List Call) :
    let tracker := run call (make policy) calls
    (∀ playerId state, tracker.players.lookup playerId = some state → state.Sound policy) ∧
      (∀ playerId later, (tracker.getState playerId).state = .rejected →
        (∀ c ∈ later, ¬ c.Begins playerId) →
        ((run call tracker later).getState playerId).state ≠ .compatible) ∧
      (∀ playerId hello,
        ((tracker.getState playerId).state = .compatible ∧ (tracker.getState playerId).hello = hello ∨
            (tracker.getState playerId).state = .rejected →
          (tracker.handleHello playerId hello).2 = tracker) ∧
        ∀ later, (∀ c ∈ later, ¬ c.Concerns playerId ∨ c = .handleHello playerId hello) →
          let answered := tracker.handleHello playerId hello
          (run call answered.2 later).handleHello playerId hello =
            (answered.1, run call answered.2 later)) := by
  intro tracker
  have hs : Sessions policy tracker := run_sessions policy calls
  refine ⟨hs.2, ?_, ?_⟩
  · intro playerId later hr hlater
    exact (run_not_accepted hs (by rw [hr]; exact ⟨nofun, nofun⟩) hlater).1
  · intro playerId hello
    refine ⟨fun h => ?_, fun later hlater => handleHello_repeats_later hs.1 hlater⟩
    exact (handleHello_of_settled (settled_of_getState hs h)).1

open PlayerCapabilityTracker in
/-- Whatever calls the tracker has had, a frame that is not claimed is left alone, and a claimed one is answered
with one frame, which says what the record of the player says afterwards. -/
theorem HandshakeEndpoint.dispatchIncoming_answers (policy : HandshakePolicy) (calls : List NamedCall)
    (transport : ServerTransport) (playerId : UInt32) (frame : List UInt8) :
    let endpoint : HandshakeEndpoint := ⟨run (fun tracker c => tracker.call c.1) (make policy) calls, transport⟩
    let dispatched := endpoint.dispatchIncoming playerId frame
    (dispatched.1 = .unrelated ↔ ¬ Claimed frame) ∧
      (¬ Claimed frame → dispatched.2 = endpoint) ∧
      (Claimed frame →
        (∃ bytes protocolBytes packet,
          dispatched.2.transport = (transport.send playerId bytes).2 ∧
            inspect bytes = .customModel protocolBytes ∧ decodePacket protocolBytes = .ok packet ∧
            (dispatched.2.tracker.getState playerId).Matches packet.message ∧
            (dispatched.1 = .sendFailed ↔ (transport.send playerId bytes).1 = false)) ∧
        ∀ other, other ≠ playerId →
          dispatched.2.tracker.players.lookup other = endpoint.tracker.players.lookup other) := by
  intro endpoint dispatched
  have ha : Answerable policy endpoint.tracker := run_answerable policy calls
  cases hi : inspect frame with
  | unrelated =>
      have hc := inspect_eq_unrelated_iff.mp hi
      have heq : dispatched = (.unrelated, endpoint) := by
        simp only [dispatched, dispatchIncoming, hi]
      rw [heq]
      exact ⟨⟨fun _ => hc, fun _ => rfl⟩, fun _ => rfl, fun h => absurd h hc⟩
  | customModel payload =>
      have hc : Claimed frame := by
        by_contra hc
        rw [inspect_eq_unrelated_iff.mpr hc] at hi
        cases hi
      obtain ⟨answer, h, heq⟩ := dispatchClaimedProtocol_answered ha playerId payload
      have heq : dispatched = sendResponse ⟨answer.2, transport⟩ playerId answer.1 := by
        rw [← heq]
        simp only [dispatched, dispatchIncoming, hi]
      rw [heq]
      have hsent : (sendResponse ⟨answer.2, transport⟩ playerId answer.1).2 =
          ⟨answer.2, (transport.send playerId answer.1.message.frame).2⟩ := sendResponse_of_encodable h.encodable
      refine ⟨⟨fun hu => ?_, fun hu => absurd hc hu⟩, fun hu => absurd hc hu, fun _ => ⟨?_, ?_⟩⟩
      · exact absurd hu sendResponse_ne_unrelated
      · refine ⟨answer.1.message.frame, answer.1.message.packet, _, by rw [hsent], inspect_frame _,
          decodePacket_packet h.encodable, ?_, sendResponse_sendFailed_iff h.encodable⟩
        rw [sendResponse_tracker]
        exact h.recorded
      · rw [sendResponse_tracker]
        exact h.others

/-! ## The asset registry -/

namespace AssetRegistry

/-- Whatever history a registry has, its maps and its total describe the same assets, its manifest lists them,
it adds exactly the assets that it has room for, and a call that is refused changes nothing. -/
theorem registry_represented (calls : List Call) :
    let registry := run call fresh calls
    registry.Represented ∧ registry.Lists registry.buildManifest ∧
      (∀ asset, (registry.registerAsset asset).1 = .added ↔ registry.Admits asset) ∧
      (∀ asset, (registry.registerAsset asset).1 ≠ .added → (registry.registerAsset asset).2 = registry) ∧
      (∀ assetId, (registry.removeAsset assetId).1 ≠ .removed → (registry.removeAsset assetId).2 = registry) ∧
      (registry.contents = [] → registry.clearAssets.2 = registry) := by
  intro registry
  have hs : registry.Sound := run_sound calls
  have hi : registry.Indexed := run_invariant (fun _ c h => h.call c) fresh_indexed calls
  refine ⟨hs.represented hi, hs.lists, registerAsset_added_iff hs hi, fun _ => registerAsset_refused,
    fun _ => removeAsset_refused, fun hempty => ?_⟩
  have hentries : registry.assets.entries.isEmpty = true := List.isEmpty_iff.mpr (List.map_eq_nil_iff.mp hempty)
  rw [clearAssets, if_pos hentries]

/-- As long as the revision can still advance, the revisions of a history identify the manifests exactly if
every file that is loaded has enough assets for its count to go on. -/
theorem identifies_iff (operations : List Operation)
    (h : Along operate (fun registry _ => registry.revision ≠ UInt64.ofNat (UInt64.size - 1)) fresh operations) :
    Identifies fresh operations ↔
      Along operate (fun registry operation => operation.Respects registry) fresh operations := by
  have hadvances : Along operate (fun registry operation => registry.Advances (registry.operate operation))
      fresh operations ↔ Along operate (fun registry operation => operation.Respects registry) fresh operations :=
    along_congr fresh_kept h
  constructor
  · exact fun hi => hadvances.mp hi.advances
  · intro hr
    have ha := hadvances.mpr hr
    refine ⟨ha, fun xs ys hxs hys heq => ?_⟩
    rcases List.prefix_or_prefix_of_prefix hxs hys with hp | hp
    · exact fresh_kept.identified hp (ha.of_prefix hys) heq
    · exact (fresh_kept.identified hp (ha.of_prefix hxs) heq.symm).symm

/-- An asset whose digest is all zeros. -/
def plainAsset (assetId : UInt32) (name : UInt8) : AssetDescription :=
  ⟨assetId, .dff, [name], httpPrefix ++ [97], 1, ⟨List.replicate 32 0, rfl⟩⟩

/-- The line `<id> DFF <name> http://a 1` and a digest. -/
def plainLine (assetId name : UInt8) : ByteString :=
  [assetId, 32] ++ dffName ++ [32, name, 32] ++ httpPrefix ++ [97, 32, 49, 32] ++ List.replicate 64 48

/-- One asset is registered, a file with two is loaded, and one of these is removed: the revisions are 2, 3 and 4. -/
def respectful : List Operation :=
  [.call (.registerAsset (plainAsset 1 97)),
    .loadManifestConfig (.opened (plainLine 50 98 ++ 10 :: plainLine 51 99) false), .call (.removeAsset 2)]

theorem identifies_iff_plain : Identifies fresh respectful := by
  refine (identifies_iff respectful (by decide +kernel)).mpr ⟨trivial, fun assets hd _ => .inl ?_, trivial, trivial⟩
  have hcount : (ConfigFile.described (.opened (plainLine 50 98 ++ 10 :: plainLine 51 99) false)).map List.length =
      some 2 := by decide +kernel
  rw [hd, Option.map_some, Option.some.injEq] at hcount
  rw [hcount]
  decide +kernel

example : (run operate fresh respectful).buildManifest.revision = 4 := by decide +kernel

/-- The line `2 DFF b http://a 1` and a digest. -/
def plainFile : ConfigFile := .opened (plainLine 50 98) false

/-- One asset is registered, and then a file with another one is loaded: both manifests have the revision 2. -/
theorem identifies_fails : ¬ ∀ operations : List Operation,
    Along operate (fun registry _ => registry.revision ≠ UInt64.ofNat (UInt64.size - 1)) fresh operations →
      Identifies fresh operations := by
  intro h
  let operations : List Operation := [.call (.registerAsset (plainAsset 1 97)), .loadManifestConfig plainFile]
  have hi := h operations (by decide +kernel)
  exact absurd (hi.identified [.call (.registerAsset (plainAsset 1 97))] operations ⟨_, rfl⟩
    (List.prefix_refl _) (by decide +kernel)) (by decide +kernel)

/-- A file is loaded whole or not at all, whatever the registry had before: either an error is reported and the
registry is as it was, or it has one asset with each line that is not skipped, in a new history. The order of the
lines does not matter. -/
theorem loadManifestConfig_whole (file : ConfigFile) (registry : AssetRegistry) :
    let loaded := loadManifestConfig file registry
    (loaded.1.error ≠ "" ∧ loaded.2 = registry ∨
        loaded.1 = ⟨file.significant.length, 0, ""⟩ ∧ loaded.2.Represented ∧
          (loaded.2.contents.map AssetDescription.assetId).Nodup ∧
          loaded.2.revision.toNat = file.significant.length + 1 ∧
          List.Forall₂ (fun line asset => parseLine line = .ok asset) file.significant loaded.2.contents.reverse) ∧
      ∀ other prior, file.Rearranges other →
        ((loadManifestConfig other prior).1.error = "" ↔ loaded.1.error = "") ∧
          (loaded.1.error = "" → (loadManifestConfig other prior).2.buildManifest = loaded.2.buildManifest) := by
  intro loaded
  constructor
  · obtain ⟨heq, herror, -⟩ | ⟨assets, hd, -, hgrown, hcontents, hresult⟩ := loadManifestConfig_cases file registry
    · exact .inl ⟨herror, heq⟩
    · have hlines := ConfigFile.forall₂_of_described hd
      have hs := hgrown.sound
      refine .inr ⟨?_, hs.represented hgrown.indexed, hs.entries.ids, ?_, ?_⟩
      · rw [hlines.length_eq]
        exact hresult
      · rw [hgrown.revision, hcontents, List.length_reverse, hlines.length_eq]
      · rw [hcontents, List.reverse_reverse]
        exact hlines
  · intro other prior h
    exact ⟨⟨fun hl => (h.symm.loaded hl registry).1, fun hl => (h.loaded hl prior).1⟩, fun hl => (h.loaded hl prior).2⟩

theorem loadManifestConfig_whole_reversed :
    (loadManifestConfig (.opened (plainLine 49 97 ++ 10 :: plainLine 50 98) false) fresh).2.buildManifest =
      (loadManifestConfig (.opened (plainLine 50 98 ++ 10 :: plainLine 49 97) false) fresh).2.buildManifest :=
  ((loadManifestConfig_whole (.opened (plainLine 50 98 ++ 10 :: plainLine 49 97) false) fresh).2
    (.opened (plainLine 49 97 ++ 10 :: plainLine 50 98) false) fresh ⟨rfl, by decide +kernel⟩).2 (by decide +kernel)

/-- A line that is reached, and is neither blank nor a comment, is read as documented exactly if it has no irregular
number in front of a valid asset's type or digest. -/
theorem readAsDocumented_iff (bytes : ByteString) (failure : Bool) (registry parsed : AssetRegistry)
    (front back : List ByteString) (line : ByteString) (hlines : getLines bytes failure = front ++ line :: back)
    (hfront : readLines 0 front fresh = .ok parsed) (hskip : isSkipped (trim line) = false) :
    ReadAsDocumented (.opened bytes failure) registry front.length line ↔ ¬ ∃ asset, Deviating line asset := by
  constructor
  · rintro h ⟨asset, hd⟩
    exact ((h.yields asset).mp (yields_iff.mpr (.inr hd))).not_deviating hd
  · intro hno
    have hyields : ∀ asset, Yields line asset ↔ Documented line asset := by
      intro asset
      rw [yields_iff]
      exact or_iff_left fun hd => hno ⟨asset, hd⟩
    refine ⟨hyields, fun asset hd hl => ?_, fun hnot => ?_⟩
    · have hmem : trim line ∈ ConfigFile.significant (.opened bytes failure) := by
        rw [ConfigFile.significant, hlines]
        simp [hskip]
      exact ConfigFile.mem_contents_of_loaded hl hmem ((hyields asset).mpr hd).1
    · have hinvalid : ∀ asset, parseLine (trim line) = .ok asset → isAssetDescriptionValid asset = false := by
        intro asset hp
        by_contra hv
        exact hnot asset ((hyields asset).mp ⟨hp, by simpa using hv⟩)
      obtain ⟨error, hne, hload⟩ := ConfigFile.loadManifestConfig_rejected hlines hfront hskip hinvalid registry
      rw [hload]
      exact ⟨rfl, hne, rfl⟩

theorem digits_one (values : Nat) (h : 1 < values) : Digits values [49] 1 :=
  ⟨List.cons_ne_nil 49 [], List.forall_mem_singleton.mpr rfl, rfl, h⟩

theorem plainLine_documented : Documented (plainLine 49 97) (plainAsset 1 97) :=
  ⟨by decide +kernel, [49], [49], by decide +kernel, digits_one _ (by decide), digits_one _ (by decide)⟩

theorem readAsDocumented_iff_plain :
    ReadAsDocumented (.opened (plainLine 49 97) false) fresh 0 (plainLine 49 97) :=
  (readAsDocumented_iff (plainLine 49 97) false fresh fresh [] [] (plainLine 49 97) (by decide +kernel) rfl
    (by decide +kernel)).mpr fun ⟨_, hd⟩ => plainLine_documented.not_deviating hd

/-- The line `1DFF a http://a 1` and a digest, which has five fields. -/
def joinedLine : ByteString :=
  [49] ++ dffName ++ [32, 97, 32] ++ httpPrefix ++ [97, 32, 49, 32] ++ List.replicate 64 48

/-- The id and the type of the line are read from one field, so the line is taken. -/
theorem readAsDocumented_fails : ¬ ∀ bytes failure registry parsed front back line,
    getLines bytes failure = front ++ line :: back → readLines 0 front fresh = .ok parsed →
      isSkipped (trim line) = false →
      ReadAsDocumented (.opened bytes failure) registry front.length line := by
  intro h
  have hread := h joinedLine false fresh fresh [] [] joinedLine (by decide +kernel) rfl (by decide +kernel)
  have hd : Deviating joinedLine (plainAsset 1 97) := by
    refine ⟨by decide +kernel, [[49] ++ dffName], [[49], sha256Hex (plainAsset 1 97).sha256], by decide +kernel,
      .inl ⟨.joined (.inl (digits_one _ (by decide))) rfl rfl, .inl ⟨[49], digits_one _ (by decide), rfl⟩⟩⟩
  exact ((hread.yields _).mp (yields_iff.mpr (.inr hd))).not_deviating hd

end AssetRegistry

/-! ## Asset publication -/

namespace AssetPublication

/-- Behind a manifest that was sent, the record of the player holds the latest report on every expected asset
and nothing else. So other messages change nothing, reports on different assets may come in either order, and
a repeated one changes nothing. -/
theorem readiness_latest (publication : AssetPublication) (registry : AssetRegistry) (transport : ServerTransport)
    (playerId : UInt32) (messages : List Message)
    (h : (publication.onPlayerCompatible registry transport playerId).1 = .sent) :
    let sent := (publication.onPlayerCompatible registry transport playerId).2.1
    let expected := (registry.buildManifest.assets.map AssetDescription.assetId).toFinset
    let report := Message.reportOn registry.buildManifest.revision
    let record := fun messages => (run (handleFrom playerId) sent messages).getState playerId
    (record messages).manifestRevision = registry.buildManifest.revision ∧
      (record messages).expectedAssets = expected ∧
      (∀ assetId, assetId ∈ (record messages).readyAssets ↔
        assetId ∈ expected ∧ latest (report assetId) messages = some none) ∧
      (∀ assetId reason, (record messages).failedAssets.lookup assetId = some reason ↔
        assetId ∈ expected ∧ latest (report assetId) messages = some (some reason)) ∧
      ((record messages).state = .assetsReady ↔ (record messages).readyAssets = expected) ∧
      (∀ message, (∀ assetId ∈ expected, report assetId message = none) →
        record (messages ++ [message]) = record messages) ∧
      (∀ first second, (∀ assetId, report assetId first = none ∨ report assetId second = none) →
        record (messages ++ [first, second]) = record (messages ++ [second, first])) ∧
      ∀ message, record (messages ++ [message, message]) = record (messages ++ [message]) := by
  intro sent expected report record
  obtain ⟨start, hstart, hlatest⟩ := onPlayerCompatible_sent_latest h
  have hrecord : ∀ messages,
      (record messages).Latest registry.buildManifest fun assetId => latest (report assetId) messages := by
    intro messages
    obtain ⟨final, hl, hfinal⟩ := handleFrom_latest hstart hlatest messages
    have heq : record messages = final := getState_of_lookup hl
    rw [heq]
    exact hfinal
  -- records with the same latest reports are the same
  have hsame : ∀ xs ys, (∀ assetId ∈ expected, latest (report assetId) xs = latest (report assetId) ys) →
      record xs = record ys := by
    intro xs ys hreports
    refine (hrecord xs).unique ((hrecord ys).congr fun assetId he => hreports assetId ?_)
    rwa [(hrecord ys).expected] at he
  have hr := hrecord messages
  refine ⟨hr.revision, hr.expected, fun assetId => ?_, fun assetId reason => ?_, ?_, fun message hnone => ?_,
    fun first second hnone => ?_, fun message => ?_⟩
  · rw [hr.ready, hr.expected]
  · rw [hr.failed, hr.expected]
  · rw [hr.session, hr.expected]
    split <;> simp [expected, *]
  · apply hsame _ _
    intro assetId he
    rw [latest_append_singleton, hnone assetId he, Option.none_or]
  · apply hsame _ _
    intro assetId _
    have happend : ∀ a b : Message, messages ++ [a, b] = (messages ++ [a]) ++ [b] := fun a b => by simp
    simp only [happend, latest_append_singleton]
    exact or_left_comm (hnone assetId) _
  · apply hsame _ _
    intro assetId _
    have happend : messages ++ [message, message] = (messages ++ [message]) ++ [message] := by simp
    simp only [happend, latest_append_singleton, ← Option.or_assoc, Option.or_self]

/-- An error behind a ready report takes the session back. -/
theorem readiness_latest_one :
    let publication := AssetPublication.onPlayerConnected ⟨∅⟩ 7
    let registry := run AssetRegistry.call .fresh [.registerAsset (AssetRegistry.plainAsset 1 97)]
    let sent := (publication.onPlayerCompatible registry ⟨fun _ => true, []⟩ 7).2.1
    (run (handleFrom 7) sent [.assetReady ⟨2, 1⟩, .assetError ⟨2, 1, .timeout⟩]).getState 7 =
      (run (handleFrom 7) sent [.assetReady ⟨2, 1⟩, .assetError ⟨2, 1, .timeout⟩,
        .assetError ⟨2, 1, .timeout⟩]).getState 7 :=
  ((readiness_latest (AssetPublication.onPlayerConnected ⟨∅⟩ 7)
    (run AssetRegistry.call .fresh [.registerAsset (AssetRegistry.plainAsset 1 97)]) ⟨fun _ => true, []⟩ 7
    [.assetReady ⟨2, 1⟩] (by decide +kernel)).2.2.2.2.2.2.2 (.assetError ⟨2, 1, .timeout⟩)).symm

end AssetPublication

/-! ## The open.mp component -/

namespace CustomModelComponent

/-- Every session stands on a live handshake throughout a history exactly if no event of the history breaks
off the handshake of a player with a whole manifest. -/
theorem sessionsStand_iff (registry : AssetRegistry) (available : Bool) (answer : Nat → Bool)
    (events : List Event) :
    Always step SessionsStand (loaded registry available answer) events ↔
      Along step (fun component event => ¬ event.Disturbs component) (loaded registry available answer)
        events := by
  have hloaded := loaded_standing registry available answer
  constructor
  · exact along_of_always (fun _ event h hd => h.step event hd)
      (fun _ _ h hd => h.not_sessionsStand (not_not.mp hd)) hloaded
  · intro h
    exact (always_of_along (fun _ event h hd => h.step event hd) hloaded h).mono fun _ h => h.sessionsStand

/-- The stream that the SDK makes of a frame: the packet id is read. -/
def streamOf (message : Message) : NetworkBitStream where
  data := some message.frame
  readOffset := 8
  unreadBits := 8 * message.packet.length
  inBounds := by
    rintro bytes ⟨⟩
    simp only [Message.frame, List.length_cons]
    omega

/-- A compatible player sends a Hello with other capabilities: the session survives its handshake. -/
theorem sessionsStand_fails : ¬ ∀ (registry : AssetRegistry) (available : Bool) (answer : Nat → Bool)
    (events : List Event), Always step SessionsStand (loaded registry available answer) events := by
  intro h
  let events : List Event :=
    [.playerConnect 0, .receive 0 (streamOf (.hello ⟨⟨0, 2, 0⟩, 1, .r1, 28⟩)),
      .receive 0 (streamOf (.hello ⟨⟨0, 2, 0⟩, 1, .r1, 29⟩))]
  have hstand := (h .fresh true (fun _ => true) events events (List.prefix_refl _)).compatible 0
    (by decide +kernel)
  exact absurd hstand (by decide +kernel)

/-- The component never gives a packet that does not decode the endpoint's treatment: it keeps the packet
from other handlers, and neither the tracker nor the transport hears of it. -/
theorem onReceive_malformed (component : CustomModelComponent) (playerId : Int) (stream : NetworkBitStream)
    (payload : List UInt8) (error : DecodeError) (hid : 0 ≤ playerId) (hs : stream.Exposes payload)
    (hl : payload.length ≤ kMaximumPacketSize) (hm : hasProtocolMagic payload = true)
    (hd : decodePacket payload = .error error) :
    (component.onReceive playerId stream).1 = false ∧
      (component.onReceive playerId stream).2.endpoint = component.endpoint ∧
      ¬ component.RejectsMalformed playerId stream payload error := by
  have hr := onReceive_eq component hid stream
  rw [incoming_of_exposes hs hm hl] at hr
  have he : (component.onReceive playerId stream).2.endpoint = component.endpoint := by
    rw [hr]
    exact receiveProtocol_malformed hd
  refine ⟨by rw [hr], he, ?_⟩
  rintro ⟨-, -, ⟨accepted, hsent⟩, -⟩
  have hsame : (component.onReceive playerId stream).2.transport.sent = component.transport.sent :=
    congrArg (fun e => e.transport.sent) he
  rw [hsame] at hsent
  exact absurd (congrArg List.length hsent) (by simp)

/-- The four bytes of the magic, alone and byte-aligned. -/
def magicStream : NetworkBitStream where
  data := some protocolMagic
  readOffset := 0
  unreadBits := 32
  inBounds := by
    rintro bytes ⟨⟩
    decide

theorem onReceive_malformed_magic :
    ¬ (loaded .fresh true fun _ => true).RejectsMalformed 0 magicStream protocolMagic .truncatedHeader :=
  (onReceive_malformed (loaded .fresh true fun _ => true) 0 magicStream protocolMagic .truncatedHeader
    (by decide) ⟨by decide, by decide, by decide, protocolMagic, rfl, by decide⟩ (by decide) (by decide)
    (by decide)).2.2

/-- The truncated packet `CMOD` is not rejected. -/
theorem rejectsMalformed_fails : ¬ ∀ (component : CustomModelComponent) (playerId : Int)
    (stream : NetworkBitStream) (payload : List UInt8) (error : DecodeError), 0 ≤ playerId →
    stream.Exposes payload → payload.length ≤ kMaximumPacketSize → hasProtocolMagic payload = true →
    decodePacket payload = .error error → component.RejectsMalformed playerId stream payload error := by
  intro h
  have hr := h (loaded .fresh true fun _ => true) 0 magicStream protocolMagic .truncatedHeader
    (by decide) ⟨by decide, by decide, by decide, protocolMagic, rfl, by decide⟩ (by decide) (by decide)
    (by decide)
  exact absurd hr.2.2.2.1 (by decide +kernel)

end CustomModelComponent

end CustomModels.Server
