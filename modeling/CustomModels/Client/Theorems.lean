import CustomModels.Lib.Run
import CustomModels.Client.Lemmas.Accounts
import CustomModels.Client.Lemmas.Courses
import CustomModels.Client.Lemmas.Grounds
import CustomModels.Client.Lemmas.Introductions
import CustomModels.Client.Lemmas.Module
import CustomModels.Client.Lemmas.Negotiation
import CustomModels.Client.Lemmas.Progress
import CustomModels.Client.Lemmas.ReceiveSlot
import CustomModels.Client.Lemmas.Requests
import CustomModels.Client.Lemmas.Resolution
import CustomModels.Client.Lemmas.Stored

/-!
# Theorems about the client

What a handshake holds, the grammar and the accounts of the manifest receiver, where the cache puts its files and what
it holds, what a session tells of its assets and on which grounds, how its worker, a download and a whole request end,
what the hook on SA-MP's network lets through and tells of, how it comes into the chain and out of it, how the network
is found, and which addresses of a module are handed out.
-/

namespace CustomModels.Client
open CustomModels.Shared CustomModels.Lib

/-! ## The handshake -/

namespace ClientHandshake

/-- Whatever is called and whatever bytes come in, a handshake holds an acceptable Welcome exactly from its receipt on,
and a rejection exactly in the rejected state. In each session one Hello is sent at most, and the handshake does not
get to its end before. What is malformed or ignored changes nothing. -/
theorem handshake_guarded (configuration : HandshakeConfiguration) (calls : List Call) :
    let handshake := run call (make configuration) calls
    (handshake.welcome.isSome = true ↔ handshake.state = .welcomeReceived ∨ handshake.state = .compatible) ∧
      (∀ welcome, handshake.welcome = some welcome →
        Acceptable (configuration.capabilities &&& kDeclaredCapabilities) welcome) ∧
      (handshake.rejection.isSome = true ↔ handshake.state = .rejected) ∧
      (∀ front session, calls = front ++ .onConnected :: session → Session configuration front session →
        (hellos configuration front session).length ≤ 1 ∧
          (handshake.state = .compatible ∨ handshake.state = .rejected →
            (hellos configuration front session).length = 1)) ∧
      (handshake.state ≠ .disconnected →
        ∃ front session, calls = front ++ .onConnected :: session ∧ Session configuration front session) ∧
      ∀ bytes, (handshake.handleIncoming bytes).1 = .malformed ∨ (handshake.handleIncoming bytes).1 = .ignored →
        (handshake.handleIncoming bytes).2 = handshake := by
  intro handshake
  have hheld : Held configuration handshake := run_held configuration calls
  refine ⟨hheld.welcome, hheld.acceptable, hheld.rejection, fun front session hcalls hsession => ?_, exists_session,
    fun bytes => (handleIncoming_transition handshake bytes).2⟩
  obtain ⟨hconnected, hnone⟩ := onConnected_sent hsession.1
  obtain ⟨-, hcount⟩ := collect_sent hconnected hsession.2
  have hstart : run call (make configuration) (front ++ [.onConnected]) =
      (run call (make configuration) front).call .onConnected := by rw [run_append, run_cons, run_nil]
  have hlast : run call (run call (make configuration) (front ++ [.onConnected])) session = handshake := by
    rw [← run_append, List.append_assoc, List.singleton_append, ← hcalls]
  rw [hnone, Nat.zero_add, ← hstart, hlast] at hcount
  rw [hellos, hcount, sent]
  constructor
  · split <;> omega
  · intro hstate
    rw [if_neg]
    rcases hstate with hstate | hstate
    · simp [hstate]
    · simp [hstate]

end ClientHandshake

/-! ## The manifest receiver -/

namespace ManifestReceiver

/-- A fresh receiver, which is what `Reset` leaves, completes exactly on the last message of the stream of a
well formed manifest, whatever other messages come in between, and then holds that manifest. Behind a
refused message it refuses every manifest message. -/
theorem handle_complete_iff (messages : List Message) (message : Message) :
    let handled := (fresh.afterMessages messages).handle message
    let seen := (messages ++ [message]).filter isManifestMessage
    (∀ receiver : ManifestReceiver, receiver.reset = fresh) ∧
      (handled.1 = .complete ↔ isManifestMessage message = true ∧
        ∃ manifest : Manifest, manifest.WellFormed ∧ seen = manifest.stream) ∧
      (∀ manifest : Manifest, handled.1 = .complete → manifest.WellFormed → seen = manifest.stream →
        handled.2.completed = some manifest) ∧
      (handled.1.Refused → ∀ later next, isManifestMessage next = true →
        ((handled.2.afterMessages later).handle next).1.Refused) := by
  intro handled seen
  have hother : isManifestMessage message = false → handled = (.ignored, fresh.afterMessages messages) :=
    handle_other
  have hanswered : isManifestMessage message = true →
      Answered (messages.filter isManifestMessage) message handled := (tracks_afterMessages messages).handle
  refine ⟨fun _ => rfl, ⟨fun hc => ?_, ?_⟩, ?_, ?_⟩
  · cases hm : isManifestMessage message with
    | false =>
        rw [hother hm] at hc
        cases hc
    | true =>
        obtain ⟨manifest, hw, hs, -⟩ := (hanswered hm).complete hc
        refine ⟨rfl, manifest, hw, ?_⟩
        rw [← hs]
        simp only [seen, List.filter_append, List.filter_cons_of_pos hm, List.filter_nil]
  · intro ⟨hm, manifest, hw, hs⟩
    obtain ⟨final, hfinal, -⟩ := completes_stream hw hm hs
    exact congrArg Prod.fst hfinal
  · intro manifest hc hw hs
    cases hm : isManifestMessage message with
    | false =>
        rw [hother hm] at hc
        cases hc
    | true =>
        obtain ⟨final, hfinal, hcompleted⟩ := completes_stream hw hm hs
        exact (congrArg (fun h => h.2.completed) hfinal).trans hcompleted
  · intro hr later next hnext
    have hfailed : handled.2.state = .failed := by
      cases hm : isManifestMessage message with
      | false =>
          rw [hother hm] at hr
          rcases hr with hr | hr <;> cases hr
      | true => exact (hanswered hm).refused hr
    have hlater := failed_afterMessages later hfailed
    exact (handle_fails_of_over (.inr hlater) hnext).1

end ManifestReceiver

/-! ## The cache -/

namespace ClientAssetManager

/-- As long as no lookup removes what a Ready asset stands for, every Ready asset stands in the cache; the
first lookup that does ends this. -/
theorem readyStored_of_spares (root : Path) (files : Filesystem) (events : List Event)
    (h : Along step Spares (make root files) events) :
    Always step ReadyStored (make root files) events ∧
      ∀ around, ¬ (run step (make root files) events).Spares (.worker around) →
        ¬ (run step (make root files) (events ++ [.worker around])).ReadyStored := by
  have hkept : Always step Kept (make root files) events :=
    always_of_along (fun _ event hk hs => hk.step event hs) (make_kept root files) h
  refine ⟨hkept.mono fun _ hk => hk.stored, fun around hs => ?_⟩
  rw [run_append, run_cons, run_nil]
  exact not_readyStored_of_lookup (hkept events (List.prefix_refl events)).stored hs

/-- An asset whose file is the byte 0, announced with a size. -/
def zeroAsset (assetId : UInt32) (name : UInt8) (fileSize : UInt64) : AssetDescription :=
  ⟨assetId, .dff, [name], httpPrefix ++ [97, 47, 98], fileSize, sha256 [0]⟩

/-- No call fails, and every fetch leaves the byte 0. -/
def zeroFetched : Surroundings :=
  let lookup : LookupErrors := ⟨false, false, false, false, false⟩
  ⟨lookup, false, ⟨.none, 1⟩, some (.file [0]), false, false, false, ⟨false, false, lookup, false, false⟩⟩

/-- Two assets with one digest and one size. The session is reset during the download and begins once more; the lookup
of the second asset then finds what the first one stands for. -/
theorem readyStored_of_spares_two :
    let offered : List Event :=
      [.message (.manifestBegin ⟨1, 2, 2⟩), .message (.manifestAsset ⟨1, 0, zeroAsset 1 97 1⟩),
        .message (.manifestAsset ⟨1, 1, zeroAsset 2 98 1⟩), .message (.manifestEnd ⟨1, 2, 2⟩)]
    let reached := run step (make [] fun _ => none)
      (.initializeManager true :: offered ++ List.replicate 5 (.worker zeroFetched) ++ .resetSession :: offered ++
        List.replicate 17 (.worker zeroFetched))
    ReadyStored reached ∧ reached.getState 1 = .ready ∧ reached.getState 2 = .ready := by
  intro offered reached
  obtain ⟨hstored, -⟩ := readyStored_of_spares [] (fun _ => none)
    (.initializeManager true :: offered ++ List.replicate 5 (.worker zeroFetched) ++ .resetSession :: offered ++
      List.replicate 17 (.worker zeroFetched)) (by decide +kernel)
  exact ⟨hstored _ (List.prefix_refl _), by decide +kernel, by decide +kernel⟩

/-- Two entries announce one digest with the sizes 1 and 2: the lookup of the second removes the file of the
first, which is Ready. -/
theorem readyStored_fails : ¬ ∀ (root : Path) (files : Filesystem) (events : List Event),
    Always step ReadyStored (make root files) events := by
  intro h
  let events : List Event :=
    [.initializeManager true, .message (.manifestBegin ⟨1, 2, 3⟩),
      .message (.manifestAsset ⟨1, 0, zeroAsset 1 97 1⟩), .message (.manifestAsset ⟨1, 1, zeroAsset 2 98 2⟩),
      .message (.manifestEnd ⟨1, 2, 3⟩)] ++ List.replicate 14 (.worker zeroFetched)
  exact absurd (h [] (fun _ => none) events events (List.prefix_refl events)) (by decide +kernel)

/-- Whatever the worker is given, whatever the backend leaves and whichever calls fail: a final path has its own
digest or nothing, an asset is told Ready while its file stands, and a download leaves no temporary file. -/
theorem cache_integrity (root : Path) (files : Filesystem)
    (h : ∀ asset, files (AssetCache.pathFor root asset) = none) (intakes : List Intake) :
    let reached := run intake (make root files) intakes
    AssetCache.Addressed root reached.files ∧
      (∀ next new, (reached.intake next).events = reached.events ++ new → ∀ event ∈ new, event.kind = .ready →
        ∃ work, reached.worker = .ready work ∧ event.assetId = work.asset.assetId ∧
          event.manifestRevision = work.manifestRevision ∧
          AssetCache.Holds reached.files (AssetCache.pathFor root work.asset) work.asset) ∧
      ∀ work, reached.worker = .fetching work → ∀ later : List Intake, (∀ next ∈ later, next.Removes) →
        (run intake reached later).worker.work? = none →
          (run intake reached later).files (AssetCache.temporaryPathFor root work.asset) = none := by
  intro reached
  have hempty : AssetCache.Addressed root files := fun asset entry he => by cases (h asset).symm.trans he
  have hserved : Served root reached :=
    run_invariant (fun _ next hs => hs.intake next) (make_served hempty) intakes
  refine ⟨hserved.root_eq ▸ hserved.intact.addressed, fun next new hn event he hk => ?_, ?_⟩
  · rw [← hserved.root_eq]
    exact hserved.intact.ready hn he hk
  · intro work hw later hr hidle
    have hpath := fun asset => (AssetCache.pathFor_ne_temporaryPathFor root asset work.asset).symm
    have hstart : Tidy (AssetCache.temporaryPathFor root work.asset) reached :=
      .inr ⟨work, by rw [hw]; rfl, by rw [hserved.root_eq]⟩
    have htidy := hserved.tidy hstart hpath hr
    apply htidy.nothing
    intro other ho
    rw [Worker.downloads?_of_idle hidle] at ho
    cases ho

/-- The session is reset while the first asset is downloaded. -/
theorem cache_integrity_reset :
    let work : WorkItem := ⟨1, 1, zeroAsset 1 97 1⟩
    let intakes : List Intake := [.event (.initializeManager true), .pass work] ++
        List.replicate 4 (.event (.worker zeroFetched))
    let later : List Intake := .event .resetSession :: List.replicate 8 (.event (.worker zeroFetched))
    (run intake (run intake (make [] fun _ => none) intakes) later).files
      (AssetCache.temporaryPathFor [] work.asset) = none := by
  intro work intakes later
  have hremoves : ∀ next ∈ later, next.Removes := by
    intro next hn
    rcases List.mem_cons.mp hn with rfl | hn
    · trivial
    · rw [List.eq_of_mem_replicate hn]
      exact ⟨rfl, rfl⟩
  obtain ⟨-, -, htidy⟩ := cache_integrity [] (fun _ => none) (fun _ => rfl) intakes
  exact htidy work (by decide +kernel) later hremoves (by decide +kernel)

end ClientAssetManager

namespace AssetCache

/-- The spelling of a digest and its parser are inverse to each other, so a path tells the digest and the type of a
valid asset and nothing else of it, and it is that of a file in one of the directories of the cache. -/
theorem paths_faithful (root : Path) :
    (∀ digest, parseSha256Hex (sha256Hex digest) = some digest) ∧
      (∀ text digest, parseSha256Hex text = some digest → sha256Hex digest = text) ∧
      (∀ a b, isAssetDescriptionValid a = true → isAssetDescriptionValid b = true →
        (pathFor root a = pathFor root b ↔ a.sha256 = b.sha256 ∧ a.type = b.type) ∧
          (temporaryPathFor root a = temporaryPathFor root b ↔ a.sha256 = b.sha256 ∧ a.type = b.type)) ∧
      (∀ a b, pathFor root a ≠ temporaryPathFor root b) ∧
      ∀ asset, DirectlyUnder (root ++ [tmpDirectory]) (temporaryPathFor root asset) ∧
        ∃ first second, IsHexDigit first ∧ IsHexDigit second ∧
          DirectlyUnder (root ++ [sha256Directory, [first, second]]) (pathFor root asset) := by
  refine ⟨parseSha256Hex_sha256Hex, fun text digest h => (parseSha256Hex_eq_some_iff.mp h).symm, ?_,
    pathFor_ne_temporaryPathFor root, ?_⟩
  · intro a b ha hb
    rw [pathFor_eq_iff, temporaryPathFor_eq_iff, extensionFor_eq_iff ha hb]
    exact ⟨Iff.rfl, Iff.rfl⟩
  · intro asset
    exact ⟨temporaryPathFor_directlyUnder root asset, pathFor_directlyUnder root asset⟩

/-- Two assets of one digest and type, which have other names. -/
theorem paths_faithful_zero :
    let a := ClientAssetManager.zeroAsset 1 97 1
    let b := ClientAssetManager.zeroAsset 2 98 1
    a.logicalName ≠ b.logicalName ∧ pathFor [] a = pathFor [] b := by
  intro a b
  obtain ⟨-, -, hpaths, -⟩ := paths_faithful []
  obtain ⟨hfinal, -⟩ := hpaths a b (by decide +kernel) (by decide +kernel)
  exact ⟨by decide, hfinal.mpr ⟨rfl, rfl⟩⟩

end AssetCache

/-! ## The metadata of a manifest -/

namespace ManifestReceiver

/-- Whatever is handled and whenever the receiver is reset: its counter is the sum of the payload bytes of the messages
that it has accepted since the last begin message, and it stays within its limit. The limit refuses nothing: a valid
entry that comes in order and has a new id and a new name is accepted, and an end message that comes in order is refused
only where the sizes do not sum up to what was announced. -/
theorem metadata_accounted (calls : List Call) :
    let reached := run Account.call ⟨fresh, []⟩ calls
    reached.receiver.manifestBytes.toNat = (reached.accepted.map payloadLength).sum ∧
      (∀ message ∈ reached.accepted, isManifestMessage message = true ∧
        ∃ bytes, encodePacket message kProtocolVersion = .ok bytes ∧
          bytes.length = kHeaderSize + payloadLength message) ∧
      (∀ revision index asset, revision ≠ 0 → index.toNat < kMaximumAssetsPerManifest →
        isAssetDescriptionValid asset = true →
        ∃ bytes, encodePacket (.manifestAsset ⟨revision, index, asset⟩) kProtocolVersion = .ok bytes ∧
          bytes.length = kHeaderSize + serializedAssetBytes asset) ∧
      reached.receiver.manifestBytes.toNat ≤ kMaximumManifestBytes ∧
      (reached.receiver.state = .receiving →
        (∀ item : ManifestAsset, item.manifestRevision = reached.receiver.manifest.revision →
          item.assetIndex.toNat = reached.receiver.manifest.assets.length →
          reached.receiver.manifest.assets.length < reached.receiver.expectedCount.toNat →
          isAssetDescriptionValid item.asset = true →
          item.asset.assetId ∉ reached.receiver.manifest.assets.map AssetDescription.assetId →
          item.asset.logicalName ∉ reached.receiver.manifest.assets.map AssetDescription.logicalName →
          (reached.receiver.handle (.manifestAsset item)).1 = .accepted) ∧
        ∀ value : ManifestEnd, value.manifestRevision = reached.receiver.manifest.revision →
          value.assetCount = reached.receiver.expectedCount →
          value.assetCount.toNat = reached.receiver.manifest.assets.length →
          value.totalDownloadSize = reached.receiver.manifest.totalDownloadSize →
          (reached.receiver.handle (.manifestEnd value)).1 =
            if sizeSum reached.receiver.manifest.assets = reached.receiver.manifest.totalDownloadSize.toNat then
              .complete
            else .invalidManifest) := by
  intro reached
  have haccounted : Accounted reached := run_invariant (fun _ call h => h.call call) .idle calls
  obtain ⟨hmessages, hbytes, hlimit⟩ := haccounted.balanced
  refine ⟨hbytes, fun message hm => ?_, fun revision index asset hr hi hv => ?_, hlimit,
    fun hs => ⟨fun item => haccounted.accepts_entry hs, fun value => haccounted.ends hs⟩⟩
  · obtain ⟨hmanifest, hencodable⟩ := hmessages message hm
    exact ⟨hmanifest, encodePacket_length hencodable⟩
  · have hencodable : (Message.manifestAsset ⟨revision, index, asset⟩).Encodable := ⟨hr, hi, hv⟩
    obtain ⟨bytes, hencoded, hlength⟩ := encodePacket_length hencodable
    rw [payloadLength_manifestAsset hencodable] at hlength
    exact ⟨bytes, hencoded, hlength⟩

/-- A manifest of one asset is counted, its entry is one that can be encoded, and its end message completes it. -/
theorem metadata_accounted_zero :
    let item : ManifestAsset := ⟨1, 0, ClientAssetManager.zeroAsset 1 97 1⟩
    let reached := run Account.call ⟨fresh, []⟩ [.handle (.manifestBegin ⟨1, 1, 1⟩), .handle (.manifestAsset item)]
    reached.accepted.length = 2 ∧
      reached.receiver.manifestBytes.toNat = (reached.accepted.map payloadLength).sum ∧
      (∃ bytes, encodePacket (.manifestAsset item) kProtocolVersion = .ok bytes ∧
        bytes.length = kHeaderSize + serializedAssetBytes item.asset) ∧
      (reached.receiver.handle (.manifestEnd ⟨1, 1, 1⟩)).1 = .complete := by
  intro item reached
  obtain ⟨hbytes, -, hencoded, -, hreceiving⟩ := metadata_accounted
    [.handle (.manifestBegin ⟨1, 1, 1⟩), .handle (.manifestAsset item)]
  obtain ⟨-, hends⟩ := hreceiving (by decide +kernel)
  refine ⟨by decide +kernel, hbytes, hencoded 1 0 _ (by decide) (by decide) (by decide +kernel), ?_⟩
  exact (hends ⟨1, 1, 1⟩ (by decide +kernel) (by decide +kernel) (by decide +kernel) (by decide +kernel)).trans
    (if_pos (by decide +kernel))

end ManifestReceiver

/-! ## Sessions -/

namespace ProtocolContext

/-- With fewer than 2^64 - 1 resets, an item of an earlier session notes nothing, what a session notes is about
the manifest that it has completed, and so is each AssetReady, which is sent while the handshake is Compatible
and in the connection that the manifest came in. -/
theorem session_isolation (root : Path) (files : Filesystem) :
    (∀ before later work, ClientAssetManager.resets (before ++ .resetSession :: later) < UInt64.size - 1 →
      (∃ visited, visited <+: before ∧ work ∈ (run ClientAssetManager.step (.make root files) visited).queue) →
      let reached := run ClientAssetManager.step (.make root files) (before ++ .resetSession :: later)
      reached.worker.work? = some work → ∀ around, (reached.workerStep around).states = reached.states ∧
        (reached.workerStep around).events = reached.events) ∧
      (∀ events, ClientAssetManager.resets events < UInt64.size - 1 →
        let reached := run ClientAssetManager.step (.make root files) events
        (∀ assetId, reached.states.lookup assetId ≠ none → ∃ revision, reached.Belongs revision assetId) ∧
          (∀ event ∈ reached.events, event.kind.isAssetEvent = true →
            reached.Belongs event.manifestRevision event.assetId) ∧
          reached.resetSession.receiver.completed = none) ∧
      ∀ configuration answer calls call, (calls ++ [call]).countP Call.isConnection < UInt64.size - 1 →
        let start := prepared configuration answer root files
        let reached := run perform start calls
        ∃ transport after new, reached.transport = some transport ∧
          (reached.perform call).transport = some after ∧ after.sent = transport.sent ++ new ∧
          ∀ sent ∈ new, ∀ packet ready, decodePacket sent.bytes = .ok packet →
            packet.message = .assetReady ready →
            (∃ handshake, reached.handshake = some handshake ∧ handshake.state = .compatible) ∧
              (∃ manifest, reached.completed = some manifest ∧ ready.manifestRevision = manifest.revision ∧
                ready.assetId ∈ manifest.assets.map AssetDescription.assetId) ∧
              ∃ before during, calls = before ++ .connection .connected :: during ∧
                (∀ call ∈ during, call.isConnection = false) ∧
                (run perform start (before ++ [.connection .connected])).completed = none := by
  refine ⟨fun before later work hr hq => ?_, fun events hr => ?_, fun configuration answer calls call hr => ?_⟩
  · intro reached hw around
    obtain ⟨visited, hv, hq⟩ := hq
    exact ClientAssetManager.workerStep_of_stale around hw
      (ClientAssetManager.stale_of_queued root files hr hv hq)
  · obtain ⟨hisolated, -⟩ := ClientAssetManager.run_isolated root files hr
    exact ⟨hisolated.states, hisolated.events, rfl⟩
  · intro start reached
    obtain ⟨events, hassets, hcount⟩ := @run_assets configuration answer root files calls
    obtain ⟨announced, hhearing, hannounced⟩ := @run_hearing configuration answer root files calls
    rw [List.countP_append, ← hcount] at hr
    obtain ⟨hisolated, -⟩ :=
      ClientAssetManager.run_isolated root files (Nat.lt_of_le_of_lt (Nat.le_add_right ..) hr)
    obtain ⟨transport, after, new, ht, hafter, hsent, hnew⟩ := perform_sends hhearing hassets hisolated call
    refine ⟨transport, after, new, ht, hafter, hsent, fun sent hs packet ready hd hp => ?_⟩
    obtain ⟨message, he, hbytes, hvouched⟩ := hnew sent hs
    rw [hbytes, decodePacket_packet he] at hd
    cases hd
    obtain ⟨⟨handshake, hh, hstate⟩, manager, hm, manifest, hcompleted, hrevision, hid⟩ := hvouched ready hp
    refine ⟨⟨handshake, hh, hstate⟩, ⟨manifest, ?_, hrevision, hid⟩, ?_⟩
    · rw [completed, hm]
      exact hcompleted
    · have hsome : announced = true := by
        obtain ⟨_, _, hh', -, -, hdisconnected⟩ := hhearing
        cases hh.symm.trans hh'
        by_contra hn
        cases hstate.symm.trans (hdisconnected (Bool.eq_false_iff.mpr hn))
      obtain ⟨before, during, hcalls, hduring⟩ := hannounced hsome
      obtain ⟨_, hbefore, -⟩ := @run_hearing configuration answer root files before
      refine ⟨before, during, hcalls, hduring, ?_⟩
      rw [run_append]
      exact hbefore.completed .connected

/-- The session is reset right before the first asset is noted as downloading. -/
theorem session_isolation_download :
    let offered : List ClientAssetManager.Event :=
      [.initializeManager true, .message (.manifestBegin ⟨1, 1, 1⟩),
        .message (.manifestAsset ⟨1, 0, ClientAssetManager.zeroAsset 1 97 1⟩), .message (.manifestEnd ⟨1, 1, 1⟩)]
    let taken := offered ++ List.replicate 3 (.worker ClientAssetManager.zeroFetched)
    let reached := run ClientAssetManager.step (.make [] fun _ => none) (taken ++ [.resetSession])
    (reached.workerStep ClientAssetManager.zeroFetched).states = reached.states ∧
      (reached.workerStep ClientAssetManager.zeroFetched).events = reached.events := by
  intro offered taken reached
  obtain ⟨hstale, -⟩ := session_isolation [] fun _ => none
  exact hstale taken [] ⟨1, 1, ClientAssetManager.zeroAsset 1 97 1⟩ (by decide +kernel)
    ⟨offered, List.prefix_append _ _, by decide +kernel⟩ (by decide +kernel) _

/-- Whatever comes in and whichever calls of the system fail: with fewer than 2^64 - 1 connection events, what the
client sends decodes, and each message has its grounds. A Hello begins a connection, an AssetReady tells of an asset of
the manifest whose file stood in the cache with the announced size and digest in that connection, and an AssetError of
one that the worker gave up there for that reason, or of an entry that has just been refused. -/
theorem sent_grounded (configuration : HandshakeConfiguration) (answer : Nat → Bool) (root : Path)
    (files : Filesystem) (calls : List Call) (call : Call) (hfiles : AssetCache.Addressed root files)
    (hc : calls.countP Call.isConnection < UInt64.size - 1) :
    let start := prepared configuration answer root files
    let reached := run perform start calls
    ∃ transport after new, reached.transport = some transport ∧ (reached.perform call).transport = some after ∧
      after.sent = transport.sent ++ new ∧ ∀ sent ∈ new, ∃ message,
        decodePacket sent.bytes = .ok ⟨kProtocolVersion, message⟩ ∧
          Grounds configuration start calls call message := by
  intro start reached
  obtain ⟨transport, after, new, ht, ha, hsent, hnew⟩ :=
    @run_grounds configuration answer root files hfiles calls hc call
  refine ⟨transport, after, new, ht, ha, hsent, fun sent hs => ?_⟩
  obtain ⟨message, he, hbytes, hgrounds⟩ := hnew sent hs
  exact ⟨message, by rw [hbytes, decodePacket_packet he], hgrounds⟩

/-- A connection that comes to a Ready asset, right before the pump that reports it. -/
def reporting : List Call :=
  [.connection .connected, .incoming (Message.welcome ⟨1, ⟨0, 2, 0⟩, 1, 31⟩).packet,
    .incoming (Message.manifestBegin ⟨1, 1, 1⟩).packet,
    .incoming (Message.manifestAsset ⟨1, 0, ClientAssetManager.zeroAsset 1 97 1⟩).packet,
    .incoming (Message.manifestEnd ⟨1, 1, 1⟩).packet] ++
      List.replicate 12 (.work ClientAssetManager.zeroFetched)

theorem sent_grounded_ready :
    Grounds ⟨⟨0, 2, 0⟩, .r1, 31⟩ (prepared ⟨⟨0, 2, 0⟩, .r1, 31⟩ (fun _ => true) [] fun _ => none) reporting .pump
      (.assetReady ⟨1, 1⟩) := by
  obtain ⟨transport, after, new, ht, ha, hsent, hnew⟩ := sent_grounded ⟨⟨0, 2, 0⟩, .r1, 31⟩ (fun _ => true) []
    (fun _ => none) reporting .pump nofun (by decide)
  have hbefore : ((run perform (prepared ⟨⟨0, 2, 0⟩, .r1, 31⟩ (fun _ => true) [] fun _ => none)
      reporting).transport.elim 0 fun transport => transport.sent.length) = 1 := by decide +kernel
  have hafter : (((run perform (prepared ⟨⟨0, 2, 0⟩, .r1, 31⟩ (fun _ => true) [] fun _ => none)
      reporting).perform .pump).transport.elim none fun transport => transport.sent[1]?) =
        some ⟨(Message.assetReady ⟨1, 1⟩).packet, true⟩ := by decide +kernel
  rw [ht, Option.elim_some] at hbefore
  rw [ha, Option.elim_some, hsent, List.getElem?_append_right hbefore.le, hbefore] at hafter
  obtain ⟨message, hdecoded, hgrounds⟩ := hnew _ (List.mem_of_getElem? hafter)
  have hready : decodePacket (Message.assetReady ⟨1, 1⟩).packet = .ok ⟨kProtocolVersion, .assetReady ⟨1, 1⟩⟩ := by
    decide +kernel
  cases hready.symm.trans hdecoded
  exact hgrounds

end ProtocolContext

namespace ClientAssetManager

/-- The manifest of one asset, and the worker right before it notes the download. -/
def offered : List Event :=
  [.initializeManager true, .message (.manifestBegin ⟨1, 1, 1⟩),
    .message (.manifestAsset ⟨1, 0, zeroAsset 1 97 1⟩), .message (.manifestEnd ⟨1, 1, 1⟩)] ++
      List.replicate 3 (.worker zeroFetched)

theorem offered_ne_reset : ∀ event ∈ offered, event ≠ .resetSession := by
  intro event he
  simp only [offered, List.cons_append, List.nil_append, List.mem_cons, List.mem_replicate] at he
  rcases he with rfl | rfl | rfl | rfl | ⟨-, rfl⟩ <;> simp

/-- The worker is right before it notes the download. -/
theorem offered_downloading : (run step (make [] fun _ => none) offered).worker =
      .downloading ⟨1, 1, zeroAsset 1 97 1⟩ ∧ (run step (make [] fun _ => none) offered).generation = 1 := by
  decide +kernel

/-- In a session that does not take the work in hand for its own, each asset of the manifest is queued once, its
events go along one lifecycle, and its state is that of the last one. -/
theorem one_result (root : Path) (files : Filesystem) (before session : List Event)
    (hstart : before = [] ∨ ∃ earlier, before = earlier ++ [.resetSession])
    (hfresh : ∀ work, (run step (make root files) before).worker.work? = some work →
      work.generation ≠ (run step (make root files) before).generation)
    (hsession : ∀ event ∈ session, event ≠ .resetSession) :
    OneResult (run step (make root files) before) session := by
  obtain ⟨hcourse, hevents⟩ := course_begin hstart fun work hw => hfresh work hw.1 hw.2
  exact hcourse.oneResult hevents hsession

/-- The second session gets the manifest again while the worker still has the first download in hand. -/
theorem one_result_again :
    OneResult (run step (make [] fun _ => none) (offered ++ [.resetSession])) (offered ++ [.drainEvents]) := by
  have hstart : offered ++ [.resetSession] = [] ∨
      ∃ earlier, offered ++ [.resetSession] = earlier ++ [.resetSession] := .inr ⟨offered, rfl⟩
  refine one_result [] (fun _ => none) _ _ hstart (fresh_of_resets (by decide) hstart) fun event he => ?_
  rcases List.mem_append.mp he with he | he
  · exact offered_ne_reset event he
  · rw [List.mem_singleton.mp he]
    simp

/-- The counter comes round while the worker has an item in hand: the download is noted in a session without a
manifest. -/
theorem one_result_fails : ¬ ∀ (root : Path) (files : Filesystem) (before session : List Event),
    (before = [] ∨ ∃ earlier, before = earlier ++ [.resetSession]) →
    (∀ event ∈ session, event ≠ .resetSession) → OneResult (run step (make root files) before) session := by
  intro h
  obtain ⟨n, hn⟩ : ∃ n, n = UInt64.size - 2 := ⟨_, rfl⟩
  have hcycle := hn ▸ nextGeneration_cycle
  obtain ⟨hw, hg⟩ := run_resets (run step (make [] fun _ => none) offered) (n + 1)
  have he := run_resets_events (run step (make [] fun _ => none) offered) n
  have hone := h [] (fun _ => none) (offered ++ List.replicate (n + 1) .resetSession) [.worker zeroFetched]
    (.inr ⟨offered ++ List.replicate n .resetSession, by rw [List.replicate_succ', List.append_assoc]⟩) (by simp)
  rw [run_append] at hone
  generalize run step (run step (make [] fun _ => none) offered)
    (List.replicate (n + 1) .resetSession) = start at *
  rw [offered_downloading.1] at hw
  rw [offered_downloading.2, hcycle] at hg
  have hlog : start.sessionLog [.worker zeroFetched] = [⟨.downloading, 1, 1, 0, .internalError⟩] := by
    simp only [sessionLog, collect, appendedBy, step, workerStep, hw, setState, hg, he]
    rfl
  have hcourse := (hone.courses 1).2
  rw [hlog] at hcourse
  exact absurd hcourse (by decide)

end ClientAssetManager

/-! ## The worker -/

namespace ClientAssetManager

/-- Whatever the network thread calls in between, and whatever the surroundings do: once a session has its manifest, the
worker comes to the end of every asset within eleven steps for each, behind the item that it may still have in hand. -/
theorem assets_settle (root : Path) (files : Filesystem) (before front back : List Event) (manifest : Manifest)
    (hruns : (run step (make root files) (before ++ [.resetSession])).worker ≠ .stopped ∧
      (run step (make root files) (before ++ [.resetSession])).stopping = false)
    (hfresh : ∀ work, (run step (make root files) (before ++ [.resetSession])).worker.work? = some work →
      work.generation ≠ (run step (make root files) (before ++ [.resetSession])).generation)
    (hsession : ∀ event ∈ front ++ back, event ≠ .resetSession ∧ event ≠ .requestStop)
    (hmanifest : (run step (make root files) (before ++ [.resetSession] ++ front)).receiver.completed = some manifest)
    (hsteps : 11 * manifest.assets.length + 10 ≤ back.countP Event.isWorker) :
    let final := run step (make root files) (before ++ [.resetSession] ++ front ++ back)
    final.worker = .waiting ∧ final.queue = [] ∧
      ∀ asset ∈ manifest.assets, final.getState asset.assetId = .ready ∨ final.getState asset.assetId = .failed := by
  have hinitialized := run_initialized root files (before ++ [.resetSession]) hruns.1
  rw [run_append] at hmanifest
  rw [run_append, run_append]
  have hreset : run step (make root files) (before ++ [.resetSession]) =
      (run step (make root files) before).resetSession := by
    rw [run_append]
    rfl
  have hstart : Underway (run step (make root files) (before ++ [.resetSession])) := by
    refine ⟨.inl ⟨hruns.2, ?_, ?_, ?_, hfresh⟩, hinitialized, hruns.1, ?_⟩
    · rw [hreset]
      rfl
    · rw [hreset]
      rfl
    · rw [hreset]
      rfl
    · rw [hreset]
      exact ManifestReceiver.fed_fresh
  have hwithin : ∀ event ∈ front, event.Within := fun event he => hsession event (List.mem_append_left _ he)
  obtain ⟨hunderway, hemployed⟩ := run_invariant_along (fun _ _ h hw => h.step hw) hstart
    (@along_of_forall _ _ step _ (run step (make root files) (before ++ [.resetSession])) _ hwithin)
  rcases hunderway with hawaiting | ⟨completed, ended, hledger⟩
  · cases hawaiting.completed.symm.trans hmanifest
  · cases hledger.completed.symm.trans hmanifest
    exact hledger.run_ended hemployed (fun event he => hsession event (List.mem_append_right _ he)) hsteps

/-- The worker has noted nothing yet when the manifest is there. -/
theorem assets_settle_zero :
    let final := run step (make [] fun _ => none) ([.initializeManager true] ++ [.resetSession] ++ offered ++
      List.replicate 21 (.worker zeroFetched))
    final.getState 1 = .ready ∨ final.getState 1 = .failed :=
  (assets_settle [] (fun _ => none) [.initializeManager true] offered (List.replicate 21 (.worker zeroFetched))
    ⟨1, [zeroAsset 1 97 1], 1⟩ (by decide +kernel) (by decide +kernel)
    (fun event he => by
      rcases List.mem_append.mp he with he | he
      · simp only [offered, List.cons_append, List.nil_append, List.mem_cons, List.mem_replicate] at he
        rcases he with rfl | rfl | rfl | rfl | ⟨-, rfl⟩ <;> simp
      · rw [List.eq_of_mem_replicate he]
        simp) (by decide +kernel) (by decide)).2.2 (zeroAsset 1 97 1) List.mem_cons_self

/-- A manager that is to stop takes nothing new in hand, whatever is called and however often; and within eleven steps
its worker has stopped, so that `Shutdown` can end. -/
theorem stop_settles (start : ClientAssetManager) (events : List Event) (hinitialized : start.initialized = true)
    (hwaits : ∀ event ∈ events, event ≠ .joined) :
    (∀ visited, visited <+: events → ∀ work,
        (run step start.requestStop visited).worker.work? = some work → start.worker.work? = some work) ∧
      (11 ≤ events.countP Event.isWorker →
        (run step start.requestStop events).worker = .stopped ∧
          (run step start.requestStop (events ++ [.joined])).initialized = false) := by
  have hstart : Stopping start.requestStop ∧
      ∀ work, start.requestStop.worker.work? = some work → start.worker.work? = some work :=
    ⟨⟨hinitialized, rfl⟩, fun _ hw => hw⟩
  have hkeep : ∀ (manager : ClientAssetManager) (event : Event),
      (Stopping manager ∧ ∀ work, manager.worker.work? = some work → start.worker.work? = some work) →
        event ≠ .joined → Stopping (manager.step event) ∧
          ∀ work, (manager.step event).worker.work? = some work → start.worker.work? = some work := by
    intro manager event ⟨hstopping, hhand⟩ hj
    obtain ⟨hnext, -, hkept⟩ := hstopping.step hj
    exact ⟨hnext, fun work hw => hhand work (hkept work hw)⟩
  have halong : Along step (fun _ event => event ≠ Event.joined) start.requestStop events := along_of_forall hwaits
  refine ⟨fun visited hv => (run_invariant_along hkeep hstart (halong.of_prefix hv)).2, fun hsteps => ?_⟩
  have hending : start.requestStop.ending ≤ events.countP Event.isWorker := by
    refine le_trans ?_ hsteps
    unfold ending
    split
    · exact Nat.zero_le _
    · have hleft : start.requestStop.worker.left ≤ 10 := by
        cases start.requestStop.worker <;> simp [Worker.left]
      omega
  have hdone := run_done hkeep (fun manager event h hj => (h.1.step hj).2.1) hstart halong hending
  have hstopped : (run step start.requestStop events).worker = .stopped := by
    by_contra hn
    rw [ending, if_neg hn] at hdone
    cases hdone
  refine ⟨hstopped, ?_⟩
  have hstopping := (run_invariant_along hkeep hstart halong).1.stopping
  rw [run_append]
  simp only [run_cons, run_nil, step, joined, hstopping, hstopped, beq_self_eq_true, Bool.and_self, ↓reduceIte]

/-- The stop comes in while a download is in hand. -/
theorem stop_settles_zero :
    (run step (run step (make [] fun _ => none) offered).requestStop
      (List.replicate 11 (.worker zeroFetched))).worker = .stopped :=
  ((stop_settles (run step (make [] fun _ => none) offered) (List.replicate 11 (.worker zeroFetched))
    (by decide +kernel) fun event he => by rw [List.eq_of_mem_replicate he]; simp).2 (by decide)).1

end ClientAssetManager

/-! ## Downloads -/

namespace WinHttpFetchBackend.Download

/-- Whatever WinHTTP, the stream and the clock answer: the file holds what the turns have read, no more is received or
written than was announced, so that what is left of it never underflows, and there are at most as many turns as bytes,
and one more. `Fetch` tells success exactly if the answers are complete: each turn is in time and brings some of what
is left, until one finds the end of the data, with all the bytes received and written, and the stream is closed. -/
theorem fetch_bounded (download : Download) :
    (∀ index transfer, download.before index = some transfer →
        transfer.received ≤ download.expectedSize ∧ transfer.destination = download.bytesBefore index ∧
        transfer.destination.length = transfer.received.toNat) ∧
      (∀ index, download.expectedSize.toNat < index → download.before index = none) ∧
      ∃ result final, (∀ fuel, download.expectedSize.toNat < fuel →
          download.run fuel 0 .start = some (result, final)) ∧
        final.destination.length ≤ download.expectedSize.toNat ∧
        (result.error = .none ↔ ∃ count, download.Complete count) ∧
        ∀ count, download.Complete count →
          result.bytesReceived = download.expectedSize ∧ final.destination = download.bytesBefore count := by
  refine ⟨fun index transfer h => ?_, fun index hindex => ?_, ?_⟩
  · have hgoing := before_going h
    exact ⟨UInt64.le_iff_toNat_le.mpr hgoing.fits, hgoing.destination, by rw [hgoing.destination, hgoing.received]⟩
  · cases h : download.before index with
    | none => rfl
    | some transfer =>
        have hgoing := before_going h
        have hfits := hgoing.fits
        have hprogress := hgoing.progress
        omega
  · obtain ⟨result, final, houtcome, hrun⟩ := download.run_outcome
    exact ⟨result, final, hrun, houtcome.fits, houtcome.success, houtcome.whole⟩

/-- A download of two bytes: they are announced and read in the first turn, and the second one finds the end. -/
def twoBytes : Download where
  expectedSize := 2
  transferTimeoutMilliseconds := 120000
  started := 5
  turns index := if index = 0 then ⟨6, .ok 2, .ok [1, 2], none, by rintro _ _ ⟨⟩ ⟨⟩; decide⟩
    else ⟨7, .ok 0, .error 0, none, nofun⟩
  closed := true

example : (twoBytes.run 3 0 .start).map (fun outcome => (outcome.1, outcome.2.destination)) =
    some (⟨.none, 2⟩, [1, 2]) := by decide

end WinHttpFetchBackend.Download

namespace WinHttpFetchBackend.FetchRequest

/-- Whatever is answered: `Fetch` ends, it uses only handles that are open and closes each that it has opened, the last
one first. It touches the destination exactly if the URL, the size, every call before the loop and the headers are as
they should be, and tells success exactly if the transfer was complete as well. One request at most is sent, on handles
with the timeouts and the limits on redirects, and for a URL that is valid. -/
theorem fetch_contract (request : FetchRequest) :
    ∃ fetched, (∀ fuel, request.expectedSize.toNat < fuel → request.fetch fuel = some fetched) ∧
      Tidy (fetched.calls.flatMap HttpCall.holding) ∧
      (fetched.destination.isSome = true ↔ ∃ parsed, request.Granted parsed) ∧
      (∀ written, fetched.destination = some written → written.length ≤ request.expectedSize.toNat) ∧
      (fetched.result.error = .none ↔ (∃ parsed, request.Granted parsed) ∧ ∃ count, request.download.Complete count) ∧
      (∀ written count, fetched.destination = some written → request.download.Complete count →
        fetched.result.bytesReceived = request.expectedSize ∧ written = request.download.bytesBefore count) ∧
      fetched.calls.count (.used .request .sendRequest) ≤ 1 ∧
      (.used .request .sendRequest ∈ fetched.calls → isDownloadUrlValid request.url = true ∧
        ∃ parsed, parseUrl request.answers.crackUrl request.url = some parsed ∧
          request.introduction parsed ++ [.used .request .sendRequest] <+: fetched.calls) := by
  obtain ⟨fetched, heq, hf, hparsed, hsends⟩ := request.fetch_yields
  refine ⟨fetched, heq, hf.holds, hf.opens, fun written hwritten => (hf.writes written hwritten).fits, ?_,
    fun written count hwritten => (hf.writes written hwritten).whole count, ?_, fun hsent => ?_⟩
  · rw [← hf.opens]
    cases hdestination : fetched.destination with
    | none => simpa using hf.fails hdestination
    | some written => simpa using (hf.writes written hdestination).success
  · by_cases hcalls : fetched.calls = []
    · simp [hcalls]
    · obtain ⟨-, parsed, hp⟩ := hparsed hcalls
      exact (hsends parsed hp).once
  · obtain ⟨hvalid, parsed, hp⟩ := hparsed fun hnone => by simp [hnone] at hsent
    exact ⟨hvalid, parsed, hp, (hsends parsed hp).behind hsent⟩

/-- The download of two bytes, behind a response that tells the length. -/
def twoBytesRequest : FetchRequest where
  url := httpPrefix ++ [97, 47, 98]
  expectedSize := 2
  options := .default
  answers := ⟨fun _ => .ok ⟨internetSchemeHttp, [97], 80, [47, 98], []⟩, none, none, none, none, none, none, none, none,
    .ok 200, .ok 2, true⟩
  started := Download.twoBytes.started
  turns := Download.twoBytes.turns
  closed := true

example : (twoBytesRequest.fetch 3).map (fun fetched => (fetched.result, fetched.destination, fetched.calls.length)) =
    some (⟨.none, 2⟩, some [1, 2], 24) := by decide

end WinHttpFetchBackend.FetchRequest

/-! ## The hook on SA-MP's network -/

namespace SampRakNetTransport

/-- Whatever comes in, SA-MP gets from the calls on its client what these draw and is not claimed, as it comes; each
claimed packet is deallocated, and dispatched if it can be. A call draws up to the first answer that is not a claimed
packet, and 64 of them at most. A call on another client gets the first answer, and the hook does nothing. -/
theorem receive_transparent (transport : SampRakNetTransport) (h : Started transport)
    (calls : List ReceiveCall) :
    let reached := run afterCall transport calls
    (∃ counts, List.Forall₂ (fun call count => Draws call.original 64 count) (transport.own calls) counts ∧
      reached.actions.filterMap HookAction.drawn? = packetsDrawn (transport.own calls) counts ∧
      collect afterCall returns transport calls =
        (packetsDrawn (transport.own calls) counts).filter fun packet => !packet.claimed) ∧
    Transparent reached.actions ∧
    ∀ call, (some call.self = transport.rakClient → ∃ count actions, Draws call.original 64 count ∧
        (reached.afterCall call).actions = reached.actions ++ actions ∧
        actions.countP HookAction.isDraw = count ∧
        actions.filterMap HookAction.drawn? = firstPackets call.original count ∧
        (reached.receive call).1.toList = (firstPackets call.original count).filter fun packet => !packet.claimed) ∧
      (some call.self ≠ transport.rakClient → reached.receive call = (call.original 0, reached)) := by
  intro reached
  have hstep : ∀ (visited : SampRakNetTransport) (call : ReceiveCall),
      Serving visited ∧ visited.rakClient = transport.rakClient →
        Serving (visited.afterCall call) ∧ (visited.afterCall call).rakClient = transport.rakClient :=
    fun _ call hs => ⟨hs.1.afterCall call, (hs.1.rakClient_afterCall call).trans hs.2⟩
  obtain ⟨hserving, hself⟩ : Serving reached ∧ reached.rakClient = transport.rakClient :=
    run_invariant hstep ⟨h.ready.serving, rfl⟩ calls
  obtain ⟨counts, hdraws, hdrawn, hreturned⟩ := h.ready.serving.run_returns calls
  rw [h.ready.actions] at hdrawn
  refine ⟨⟨counts, hdraws, hdrawn, hreturned⟩, hserving.transparent, fun call => ⟨fun hown => ?_, fun hother => ?_⟩⟩
  · obtain ⟨count, actions, hserves⟩ := receive_serves hserving.initialized hserving.incoming (hown.trans hself.symm)
    exact ⟨count, actions, hserves.draws, hserves.acts.actions, hserves.counted, hserves.drawn, hserves.returned⟩
  · exact receive_other (hself.symm ▸ hother)

/-- A transport with all its callbacks, right behind `Initialize`. -/
def hooked : SampRakNetTransport := (fresh.initializeTransport ⟨true, true, true⟩ ⟨true, some 1, true⟩).2

theorem hooked_started : Started hooked := ⟨[], ⟨true, true, true⟩, ⟨true, some 1, true⟩, rfl⟩

/-- A packet of which everything can be read. -/
def packetOf (pointer : Nat) (bytes : List UInt8) : RakPacket := ⟨pointer, true, some bytes, true, true⟩

/-- A call that finds the client connected and draws the packets. -/
def connectedCall (packets : List RakPacket) : ReceiveCall := ⟨1, true, (packets[·]?)⟩

/-- A call on another client comes in between. -/
def mixedCalls : List ReceiveCall :=
  [connectedCall [packetOf 1 [40]], ⟨2, true, fun _ => some (packetOf 2 [40])⟩,
    connectedCall [packetOf 3 [94, 67, 77, 79, 68], packetOf 4 [94, 67]]]

theorem receive_transparent_mixed : ∃ counts,
    List.Forall₂ (fun call count => Draws call.original 64 count) (hooked.own mixedCalls) counts ∧
      (run afterCall hooked mixedCalls).actions.filterMap HookAction.drawn? =
        packetsDrawn (hooked.own mixedCalls) counts ∧
      collect afterCall returns hooked mixedCalls =
        (packetsDrawn (hooked.own mixedCalls) counts).filter fun packet => !packet.claimed :=
  (receive_transparent hooked hooked_started mixedCalls).1

example : collect afterCall returns hooked mixedCalls = [packetOf 1 [40], packetOf 4 [94, 67]] := by decide +kernel

/-- In a run the hook announces connections only when SA-MP has got a packet of them in an earlier call, exactly
if no call finds the client connected and draws a claimed packet first. -/
theorem announces_iff (transport : SampRakNetTransport) (h : Started transport) (calls : List ReceiveCall) :
    Along Introduction.receive
        (fun introduction call => introduction.transport.Announces call → introduction.introduced = true)
        ⟨transport, false⟩ calls ↔
      Along Introduction.receive (fun introduction call => ¬ introduction.Preempts call) ⟨transport, false⟩
        calls := by
  have hstart : Introduction.Proper ⟨transport, false⟩ := by
    refine ⟨h.ready.flags, fun hp => ?_, fun hs => ?_⟩
    · exact absurd (h.ready.pending.symm.trans hp) Bool.false_ne_true
    · exact absurd (h.ready.sent.symm.trans hs) Bool.false_ne_true
  exact along_congr_of_invariant (fun _ call hp => hp.announces_preempts call)
    (fun _ _ hp hc => hp.receive hc) hstart

theorem announces_iff_plain : Along Introduction.receive
    (fun introduction call => introduction.transport.Announces call → introduction.introduced = true)
    ⟨hooked, false⟩ [connectedCall [packetOf 1 [40]], connectedCall []] :=
  (announces_iff hooked hooked_started [connectedCall [packetOf 1 [40]], connectedCall []]).mpr
    (by decide +kernel)

/-- The first packet of a connection is a frame of the hook's own: the connection is announced in the same call. -/
theorem announces_fails : ¬ ∀ (transport : SampRakNetTransport), Started transport → ∀ calls : List ReceiveCall,
    Along Introduction.receive
      (fun introduction call => introduction.transport.Announces call → introduction.introduced = true)
      ⟨transport, false⟩ calls := by
  intro h
  exact absurd (h hooked hooked_started [connectedCall [packetOf 1 [94, 67, 77, 79, 68]]]) (by decide +kernel)

/-- Whatever is polled and drawn, the events of connections alternate, the hook pumps in between only, and each
connect finds the handshake of the runtime disconnected and takes it to one Hello. -/
theorem connections_alternate (transport : SampRakNetTransport) (h : Started transport)
    (calls : List ReceiveCall) :
    let actions := (run afterCall transport calls).actions
    (∃ count, connectionEvents actions = alternating count) ∧
      (∀ front back, actions = front ++ .pumped :: back →
        (connectionEvents front).getLast? = some .connected) ∧
      ∀ (configuration : HandshakeConfiguration) (hello : List UInt8) (context : ProtocolContext)
        (steps : List RuntimeStep),
        encodePacket (.hello (ClientHandshake.make configuration).hello) kProtocolVersion = .ok hello →
        context.handshake = some (.make configuration) → context.transport.isSome = true →
        steps.filterMap RuntimeStep.hook? = actions →
        ∀ front back, steps = front ++ .hook (.connection .connected) :: back →
          ProtocolContext.Greets configuration (run ProtocolContext.hear context front)
            (run ProtocolContext.hear context (front ++ [.hook (.connection .connected)])) := by
  intro actions
  have hwalk : Walk Turn false actions (run afterCall transport calls).connectedEventSent :=
    (run_turns h.ready calls).2
  refine ⟨⟨_, (walk_alternating hwalk).1⟩, fun front back hsplit => walk_pumped (hsplit ▸ hwalk), ?_⟩
  intro configuration hello context steps he hh ht hsteps front back hsplit
  have hencodable : (Message.hello (ClientHandshake.make configuration).hello).Encodable := by
    by_contra hn
    rw [encodePacket_of_not_encodable hn] at he
    cases he
  obtain ⟨clientTransport, ht⟩ := Option.isSome_iff_exists.mp ht
  have hstart : ProtocolContext.Hearing configuration false context :=
    ⟨_, clientTransport, hh, ht, rfl, fun _ => rfl⟩
  rw [← hsteps, hsplit, List.filterMap_append] at hwalk
  obtain ⟨middle, hfront, hrest⟩ := Walk.append_iff.mp hwalk
  cases hrest with
  | cons first rest =>
      have hmiddle : middle = false := by
        cases first with
        | connected => rfl
        | traffic connection pump => cases connection
      subst hmiddle
      rw [run_append]
      exact ((hstart.run hencodable hfront).connected hencodable).2

/-- An R1 client without assets, before its first connection. -/
def idleContext : ProtocolContext where
  handshake := some (.make ⟨⟨0, 2, 0⟩, .r1, 31⟩)
  transport := some ⟨fun _ => true, []⟩
  assets := none
  malformedPacketLogged := false

theorem connections_alternate_first :
    let front : List RuntimeStep :=
      [.hook (.drew (some (packetOf 1 [40]))), .hook (.returned (some (packetOf 1 [40]))), .hook (.drew none)]
    ProtocolContext.Greets ⟨⟨0, 2, 0⟩, .r1, 31⟩ (run ProtocolContext.hear idleContext front)
      (run ProtocolContext.hear idleContext (front ++ [.hook (.connection .connected)])) :=
  (connections_alternate hooked hooked_started [connectedCall [packetOf 1 [40]], connectedCall []]).2.2
    ⟨⟨0, 2, 0⟩, .r1, 31⟩ _ idleContext _ rfl rfl rfl (by decide +kernel) _
    [.hook (.returned none)] rfl

end SampRakNetTransport

/-! ## The entry of `Receive` -/

namespace ReceiveSlot

-- another module comes between the exchange and its rollback
example : ¬ Along step Undisturbed untouched
    [.initializeTransport ⟨true, true, true⟩ true, .resolve (some 1), .proceed true, .proceed true, .proceed true,
      .foreignHook, .proceed false, .proceed true, .proceed true] := by decide

end ReceiveSlot

/-! ## Modules of the process -/

namespace ModuleInfo

/-- What `FindLoadedModule` finds is placed, and behind a placed module no range check wraps: an RVA is resolved exactly
if its range is within the image, and a range found accessible is one of the module's own memory. -/
theorem address_safety {width : Nat} (info : ModuleInfo width) (h : info.Placed) :
    (∀ name handle answer contents found,
      findLoadedModule name handle answer contents = .ok found → found.Placed) ∧
    (∀ rva length,
      ((info.resolveRva rva length).isSome = true ↔
        1 ≤ rva.toNat ∧ 1 ≤ length.toNat ∧ rva.toNat + length.toNat ≤ info.imageSize.toNat) ∧
      ∀ address, info.resolveRva rva length = some address → address.toNat = info.base.toNat + rva.toNat) ∧
    ∀ (query : VirtualQuery width) (address length : BitVec width),
      (∃ verdict, ∀ more, info.isAccessible query address length (length.toNat + 1 + more) = some verdict) ∧
      ∀ memory : Nat → BitVec width → MemoryCell width,
        (∀ call current region, query call current = some region → region.Describes (memory call) current) →
        ∀ fuel, info.isAccessible query address length fuel = some true →
          1 ≤ length.toNat ∧ info.base.toNat ≤ address.toNat ∧
            address.toNat + length.toNat ≤ info.base.toNat + info.imageSize.toNat ∧
            ∀ byte : BitVec width, address.toNat ≤ byte.toNat → byte.toNat < address.toNat + length.toNat →
              ∃ call, (memory call byte).Accessible info.base := by
  refine ⟨fun name handle answer contents found hfound => (findLoadedModule_placed hfound).1, ?_, ?_⟩
  · intro rva length
    exact ⟨resolveRva_isSome_iff h, fun address haddress => resolveRva_eq_some haddress⟩
  · intro query address length
    refine ⟨isAccessible_ends info query address length, fun memory hq fuel ha => ?_⟩
    exact isAccessible_true h hq ha

/-- A module of two pages, each a region of its own. -/
def pagedModule : ModuleInfo 32 := ⟨0x400000, 0x400000, 0x2000, 0x1000, true⟩

def pagedMemory (_ : Nat) (address : BitVec 32) : MemoryCell 32 :=
  if 0x400000 ≤ address.toNat ∧ address.toNat < 0x402000 then ⟨memCommit, 4, 0x400000⟩ else ⟨0x10000, 1, 0⟩

/-- The page of an address, as long as it is one of the module. -/
def pagedQuery : VirtualQuery 32 := fun _ address =>
  if 0x400000 ≤ address.toNat ∧ address.toNat < 0x401000 then some ⟨0x400000, 0x400000, 0x1000, memCommit, 4⟩
  else if 0x401000 ≤ address.toNat ∧ address.toNat < 0x402000 then
    some ⟨0x401000, 0x400000, 0x1000, memCommit, 4⟩
  else none

theorem pagedQuery_describes {call : Nat} {current : BitVec 32} {region : MemoryBasicInformation 32}
    (h : pagedQuery call current = some region) : region.Describes (pagedMemory call) current := by
  unfold pagedQuery at h
  split at h
  · rename_i hpage
    cases h
    exact ⟨hpage.1, hpage.2, fun byte hlower hupper => if_pos ⟨hlower, Nat.lt_trans hupper (by decide)⟩⟩
  · split at h
    · rename_i hpage
      cases h
      exact ⟨hpage.1, hpage.2, fun byte hlower hupper => if_pos ⟨Nat.le_trans (by decide) hlower, hupper⟩⟩
    · cases h

/-- The range crosses from one page to the other. -/
theorem address_safety_paged :
    (pagedModule.resolveRva 0x1FFF 1).isSome = true ∧
      ∃ call, (pagedMemory call 0x401000).Accessible pagedModule.base := by
  obtain ⟨-, hresolve, haccess⟩ := address_safety pagedModule ⟨by decide, by decide, by decide⟩
  obtain ⟨-, hcovered⟩ := haccess pagedQuery 0x400FF0 0x20
  obtain ⟨-, -, -, hbytes⟩ := hcovered pagedMemory (fun _ _ _ h => pagedQuery_describes h) 3 (by decide)
  exact ⟨(hresolve 0x1FFF 1).1.mpr (by decide), hbytes 0x401000 (by decide) (by decide)⟩

end ModuleInfo

/-! ## The resolution of the RakClient -/

end CustomModels.Client
