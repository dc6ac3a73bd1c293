import CustomModels.Client.Lemmas.Streams
import CustomModels.Server.Lemmas.Publication
import CustomModels.Server.Lemmas.Registry
import CustomModels.Server.Theorems
import CustomModels.System.Delivery
import CustomModels.System.Lemmas.Connection
import CustomModels.System.Lemmas.Exchange
import CustomModels.System.Lemmas.Completion
import CustomModels.System.Lemmas.Phases
import CustomModels.System.Lemmas.Publishing
import CustomModels.System.Lemmas.Separation

/-!
# Theorems about the server and the client together

The two handshakes agree, what the server publishes is what the client receives, one connection gets one
manifest stream, players do not affect each other, the server records how every asset ended at the client, a visit
that is quiet has come to an end on which both agree, and every visit can come to one.
-/

namespace CustomModels.System
open CustomModels.Shared CustomModels.Server CustomModels.Client

/-! ## Handshakes -/

/-- Whatever the network does to the frames of a connection, a client that is through with the handshake has
the outcome that the server recorded, and no frame of the server is malformed to the client. -/
theorem handshake_agreement (configuration : HandshakeConfiguration) (policy : HandshakePolicy)
    (calls : List PlayerCapabilityTracker.Call) (answer : Nat → Bool) (playerId : UInt32)
    (connection : Connection)
    (h : Connection.Reachable playerId
      (.start configuration (Lib.run PlayerCapabilityTracker.call (.make policy) calls) answer playerId)
      connection) :
    let record := connection.server.tracker.getState playerId
    (connection.client.state = .compatible →
        record.state = .compatible ∧
        (∃ welcome, connection.client.welcome = some welcome ∧
          welcome.negotiatedCapabilities = record.negotiatedCapabilities) ∧
        record.negotiatedCapabilities =
          configuration.capabilities &&& policy.serverCapabilities &&& kDeclaredCapabilities ∧
        record.negotiatedCapabilities &&& policy.required = policy.required) ∧
      (connection.client.state = .rejected →
        record.state = .rejected ∧
        ∃ reject, connection.client.rejection = some reject ∧ record.rejectReason = some reject.reason) ∧
      ∀ frame, connection.ToClient playerId frame → ∃ bytes, inspect frame = .customModel bytes ∧
        (connection.client.handleIncoming bytes).1 ≠ .malformed := by
  intro record
  have hi := agreeing_of_reachable (PlayerCapabilityTracker.run_sessions policy calls) h
  refine ⟨fun hc => ?_, fun hc => ?_, fun frame hf => ?_⟩
  · obtain ⟨welcome, hw, hadmits, hl, hvalue⟩ := hi.decision_of_compatible hc
    have hrecord : record = .accepted policy (helloOf configuration) :=
      PlayerCapabilityTracker.getState_of_lookup hl
    rw [hrecord]
    exact ⟨rfl, ⟨welcome, hw, by rw [hvalue]; rfl⟩, negotiated_eq configuration policy, hadmits.2.2.2.2⟩
  · obtain ⟨reject, hr, current, hl, hs, hreason⟩ := hi.decision_of_rejected hc
    have hrecord : record = current := PlayerCapabilityTracker.getState_of_lookup hl
    rw [hrecord]
    exact ⟨hs, reject, hr, hreason⟩
  · obtain ⟨bytes, hbytes, hm, -⟩ := hi.handleIncoming hf
    exact ⟨bytes, hbytes, hm⟩

/-- An R1 client with every capability, a server that offers and requires what the open.mp adapter does, and
one undisturbed handshake. -/
def greeted : Connection :=
  let connection : Connection := .start ⟨⟨0, 2, 0⟩, .r1, 31⟩
    (.make { HandshakePolicy.default with serverCapabilities := 31, requiredCapabilities := 28 })
    (fun _ => true) 7
  let connection := { connection with client := connection.client.onConnected }
  let connection := connection.takeHello
  let connection := connection.deliverToServer 7 (Message.hello ⟨⟨0, 2, 0⟩, 1, .r1, 31⟩).frame
  let connection := connection.deliverToClient (Message.welcome ⟨1, ⟨0, 2, 0⟩, 1, 31⟩).frame
  { connection with client := connection.client.confirmWelcome.2 }

theorem greeted_reachable : Connection.Reachable 7 (.start ⟨⟨0, 2, 0⟩, .r1, 31⟩
    (.make { HandshakePolicy.default with serverCapabilities := 31, requiredCapabilities := 28 })
    (fun _ => true) 7) greeted :=
  .tail (.tail (.tail (.tail (.tail .refl (.connect _)) (.takeHello _))
    (.deliverToServer _ _ (by decide +kernel))) (.deliverToClient _ _ (by decide +kernel))) (.confirmWelcome _)

theorem handshake_agreement_greeted : (greeted.server.tracker.getState 7).state = .compatible :=
  ((handshake_agreement ⟨⟨0, 2, 0⟩, .r1, 31⟩
    { HandshakePolicy.default with serverCapabilities := 31, requiredCapabilities := 28 } [] (fun _ => true) 7
    greeted greeted_reachable).1 (by decide +kernel)).1

/-! ## Manifests -/

/-- Whatever history the registry has, its manifest can be sent to a pending player, and a fresh receiver
that is fed the frames ends with the manifest itself. -/
theorem manifest_fidelity (calls : List AssetRegistry.Call) (publication : AssetPublication)
    (transport : ServerTransport) (playerId : UInt32)
    (hp : (publication.getState playerId).state = .handshakePending)
    (ha : ∀ n, transport.sent.length ≤ n → transport.answer n = true) :
    let registry := Lib.run AssetRegistry.call .fresh calls
    let outcome := publication.onPlayerCompatible registry transport playerId
    outcome.1 = .sent ∧
      ∃ (frames : List (List UInt8)) (messages : List Message),
        outcome.2.2.sent = transport.sent ++ frames.map (fun frame => ⟨playerId, frame, true⟩) ∧
        frames.map messageOf = messages.map some ∧
        ManifestReceiver.fresh.results messages =
          List.replicate (messages.length - 1) .accepted ++ [.complete] ∧
        (ManifestReceiver.fresh.afterMessages messages).completed = some registry.buildManifest := by
  intro registry outcome
  have hm : registry.buildManifest.WellFormed := (AssetRegistry.run_sound calls).buildManifest
  have houtcome := AssetPublication.onPlayerCompatible_pending hm hp ha
  have hresults := ManifestReceiver.results_stream hm
  refine ⟨congrArg Prod.fst houtcome, registry.buildManifest.stream.map Message.frame,
    registry.buildManifest.stream, ?_, ?_, ?_, hresults.2⟩
  · rw [List.map_map]
    exact congrArg (fun o => o.2.2.sent) houtcome
  · rw [List.map_map]
    exact List.map_congr_left fun message hmem => messageOf_frame (hm.stream_encodable message hmem)
  · rw [Manifest.stream_length]
    exact hresults.1

/-- A model of one byte. -/
def dffAsset (assetId : UInt32) (sha256 : Sha256Digest) : AssetDescription :=
  ⟨assetId, .dff, [97], httpPrefix ++ [97, 47, 97], 1, sha256⟩

/-- A texture of five bytes. -/
def txdAsset (assetId : UInt32) (sha256 : Sha256Digest) : AssetDescription :=
  ⟨assetId, .txd, [98], httpPrefix ++ [97, 47, 98], 5, sha256⟩

/-- The asset with the larger id is registered first. A player whose connection is new is sent both, in the order of
their ids. -/
theorem manifest_fidelity_two : ∃ (frames : List (List UInt8)) (messages : List Message),
    ((AssetPublication.onPlayerConnected ⟨∅⟩ 7).onPlayerCompatible
      (Lib.run AssetRegistry.call .fresh [.registerAsset (txdAsset 2 ⟨List.replicate 32 7, rfl⟩),
        .registerAsset (dffAsset 1 ⟨List.replicate 32 0, rfl⟩)])
      ⟨fun _ => true, []⟩ 7).2.2.sent = frames.map (fun frame => ⟨7, frame, true⟩) ∧
    frames.map messageOf = messages.map some ∧
    (ManifestReceiver.fresh.afterMessages messages).completed =
      some ⟨3, [dffAsset 1 ⟨List.replicate 32 0, rfl⟩, txdAsset 2 ⟨List.replicate 32 7, rfl⟩], 6⟩ := by
  obtain ⟨-, frames, messages, hsent, hmessages, -, hcompleted⟩ := manifest_fidelity
    [.registerAsset (txdAsset 2 ⟨List.replicate 32 7, rfl⟩), .registerAsset (dffAsset 1 ⟨List.replicate 32 0, rfl⟩)]
    (AssetPublication.onPlayerConnected ⟨∅⟩ 7) ⟨fun _ => true, []⟩ 7 (by decide) (fun _ _ => rfl)
  exact ⟨frames, messages, hsent, hmessages, hcompleted.trans (by decide +kernel)⟩

/-- However the registry changes, whatever payloads come in and whichever frames `Send` refuses: what a player is
sent of manifests between two of its connects is the start of one stream of one registry state, behind a Welcome,
and all of it if no frame is refused. A refused one ends the stream, and the session stays rejected until the
player disconnects or the component is reset. -/
theorem one_stream (operations : List AssetRegistry.Operation) (available : Bool) (answer : Nat → Bool)
    (before during : List Activity) (playerId : Int) (hid : 0 ≤ playerId)
    (hd : ∀ activity ∈ during, ¬ activity.Connects (UInt32.ofNat playerId.toNat)) :
    let player := UInt32.ofNat playerId.toNat
    let registry := Lib.run AssetRegistry.operate .fresh operations
    let start := act (Lib.run act (.loaded registry available answer) before) (.event (.playerConnect playerId))
    let sent := fun activities => sentSince start.transport.sent.length (Lib.run act start activities)
    let handed := fun activities => manifestSends player (sent activities)
    let taken := ((handed during).filter Sent.accepted).map Sent.bytes
    (∃ visited manifest, visited <+: during ∧
        manifest = (Lib.run act start visited).registry.buildManifest ∧
        taken <+: manifest.stream.map Message.frame ∧
        (Welcomed player (sent during) → (∀ frame ∈ handed during, frame.accepted = true) →
          taken = manifest.stream.map Message.frame)) ∧
      (handed during ≠ [] → Greeted player (sent during)) ∧
      ∀ visited activity later, visited ++ activity :: later = during →
        (∀ frame ∈ handed visited, frame.accepted = true) →
        (∃ frame ∈ handed (visited ++ [activity]), frame.accepted = false) →
        handed during = handed (visited ++ [activity]) ∧
          ((∀ next ∈ later, ¬ next.Ends player) →
            ((Lib.run act start during).assets.getState player).state = .rejected) := by
  intro player registry start sent handed taken
  have hkept : registry.Kept :=
    Lib.run_invariant (fun _ operation hk => hk.operated operation) AssetRegistry.fresh_kept operations
  have hwatched : Watched start :=
    (Lib.run_invariant (fun _ activity hw => hw.act activity) (loaded_watched hkept available answer) before).act _
  have hsession : ∀ state, start.assets.players.lookup player = some state → state.state = .handshakePending :=
    fun state hl => by cases (playerConnect_lookup _ hid).symm.trans hl; rfl
  have hsent : ∀ {activities sends}, (Lib.run act start activities).transport.sent =
      start.transport.sent ++ sends → sent activities = sends := by
    intro activities sends hs
    simp only [sent, sentSince, hs, List.drop_left]
  obtain ⟨-, sends, hs, hstage⟩ := stage_run hwatched hsession hd
  refine ⟨?_, ?_, fun visited activity later hsplit hall hrefused => ?_⟩
  · obtain ⟨manifest, ⟨visited, hv, hmanifest⟩, htaken⟩ := hstage.taken ⟨_, [], List.nil_prefix, rfl⟩
    refine ⟨visited, manifest, hv, hmanifest, ?_⟩
    simpa only [taken, handed, hsent hs] using htaken
  · simp only [handed, hsent hs]
    exact hstage.greeted
  · have hduring : during = (visited ++ [activity]) ++ later := by rw [← hsplit, List.append_assoc]; rfl
    have hfront := fun a ha => hd a (hsplit ▸ List.mem_append_left _ ha)
    obtain ⟨hwatchedFront, front, hf, -⟩ := stage_run hwatched hsession hfront
    obtain ⟨new, hnew, hquiet⟩ := act_grows hwatchedFront player activity
    have hmid : Lib.run act start (visited ++ [activity]) = act (Lib.run act start visited) activity :=
      Lib.run_append ..
    have hm : (Lib.run act start (visited ++ [activity])).transport.sent =
        start.transport.sent ++ (front ++ new) := by
      rw [hmid, hnew, hf, List.append_assoc]
    obtain ⟨more, hmore⟩ := run_sent_mono _ later
    have hlast : Lib.run act start during = Lib.run act (act (Lib.run act start visited) activity) later := by
      rw [hduring, Lib.run_append, hmid]
    have hcut : sends = (front ++ new) ++ more := by
      refine List.append_cancel_left (hs.symm.trans ?_)
      rw [hlast, ← hmore, hnew, hf]
      simp only [List.append_assoc]
    simp only [handed, hsent hm, hsent hs, hsent hf] at hall hrefused ⊢
    rw [hcut] at hstage ⊢
    obtain ⟨hsame, hrejected⟩ := hstage.refused hrefused
    refine ⟨hsame, fun hl => ?_⟩
    -- the refused frame went out to a session, which only an end removes
    have hopen : (act (Lib.run act start visited) activity).assets.players.lookup player ≠ none := by
      intro hn
      obtain ⟨frame, hmem, hfalse⟩ := hrefused
      rw [manifestSends_append, hquiet hn, List.append_nil] at hmem
      rw [hall frame hmem] at hfalse
      cases hfalse
    obtain ⟨state, hstate⟩ := Option.ne_none_iff_exists'.mp (hlast ▸ run_lookup_ne_none hopen hl)
    rw [AssetPublication.getState_of_lookup hstate]
    exact hrejected state hstate

/-- A player that says Hello twice, the second time behind a refused asset frame. -/
theorem one_stream_refused :
    let hello : Activity := .event (.receive 7 (CustomModelComponent.streamOf
      (.hello ⟨⟨0, 2, 0⟩, 1, .r1, 28⟩)))
    let registry := Lib.run AssetRegistry.operate .fresh
      [.call (.registerAsset (AssetRegistry.plainAsset 1 97))]
    let start := act (.loaded registry true (· != 2)) (.event (.playerConnect 7))
    ((Lib.run act start [hello, hello]).assets.getState 7).state = .rejected :=
  ((one_stream [.call (.registerAsset (AssetRegistry.plainAsset 1 97))] true (· != 2) []
    [.event (.receive 7 (CustomModelComponent.streamOf (.hello ⟨⟨0, 2, 0⟩, 1, .r1, 28⟩))),
      .event (.receive 7 (CustomModelComponent.streamOf (.hello ⟨⟨0, 2, 0⟩, 1, .r1, 28⟩)))]
    7 (by decide) (by simp [Activity.Connects])).2.2 [] _ _ rfl (by decide +kernel) (by decide +kernel)).2
    (by simp [Activity.Ends])

/-! ## Players -/

/-- Players do not affect each other: two runs in which the same concerns a player, in the same order, and in which
`Send` and the registry answer alike where they are asked for the player, hand over the same frames for it and end
with the same record and the same session, whatever else happens in them. -/
theorem players_separated (player : UInt32) (available : Bool) (registry others : AssetRegistry)
    (answer reply : Nat → Bool) (activities elsewhere : List Activity)
    (hsame : activities.filterMap (Activity.concern player) = elsewhere.filterMap (Activity.concern player))
    (hsend : Lib.Agree (outcomes player (Lib.run act (.loaded registry available answer) activities).transport)
      (outcomes player (Lib.run act (.loaded others available reply) elsewhere).transport))
    (hcontent : Lib.Agree (Lib.collect act (published player) (.loaded registry available answer) activities)
      (Lib.collect act (published player) (.loaded others available reply) elsewhere)) :
    let after := Lib.run act (.loaded registry available answer) activities
    let afterwards := Lib.run act (.loaded others available reply) elsewhere
    sendsTo player after.transport = sendsTo player afterwards.transport ∧
      after.tracker.players.lookup player = afterwards.tracker.players.lookup player ∧
      after.assets.players.lookup player = afterwards.assets.players.lookup player := by
  intro after afterwards
  have hview := (act_unwinds player).run (s := (.loaded registry available answer, []))
    (t := (.loaded others available reply, [])) rfl hsame
  simp only [Lib.run_logged, List.nil_append, viewOf_eq_iff] at hview
  obtain ⟨hmatching, -⟩ := hview ⟨hsend, hcontent⟩
  exact ⟨hmatching.sends, hmatching.record, hmatching.session⟩

/-- A player alone, and next to another one whose Welcome is refused. -/
theorem players_separated_two :
    let hello := CustomModelComponent.streamOf (.hello ⟨⟨0, 2, 0⟩, 1, .r1, 28⟩)
    let register := AssetRegistry.Operation.call (.registerAsset (AssetRegistry.plainAsset 1 97))
    let activities : List Activity := [.event (.playerConnect 0), .event (.playerConnect 1),
      .event (.receive 1 hello), .operate register, .event (.receive 0 hello)]
    let elsewhere : List Activity := [.operate register, .event (.playerConnect 0), .event (.receive 0 hello)]
    sendsTo 0 (Lib.run act (.loaded .fresh true (· != 0)) activities).transport =
      sendsTo 0 (Lib.run act (.loaded .fresh true fun _ => true) elsewhere).transport := by
  intro hello register activities elsewhere
  exact (players_separated 0 true .fresh .fresh (· != 0) (fun _ => true) activities elsewhere rfl
    (.inl (by decide +kernel)) (.inl (by decide +kernel))).1

/-! ## Reports -/

/-- Whatever becomes of the downloads, and however the steps of the worker, the network thread and the network
interleave, the server records every report; once nothing is under way any more, its record of the player
agrees with the client. -/
theorem status_agreement (calls : List AssetRegistry.Call) (publication : AssetPublication)
    (serverTransport : ServerTransport) (playerId : UInt32) (context : ProtocolContext)
    (handshake : ClientHandshake) (transport : ClientTransport) (manager : ClientAssetManager)
    (events : List Exchange.Event)
    (hh : context.handshake = some handshake) (hc : handshake.state = .compatible)
    (ht : context.transport = some transport)
    (ha : ∀ n, transport.sent.length ≤ n → transport.answer n = true)
    (hm : context.assets = some manager) (hnew : NewSession manager)
    (hs : (publication.onPlayerCompatible (Lib.run AssetRegistry.call .fresh calls) serverTransport playerId).1 =
      .sent) :
    let registry := Lib.run AssetRegistry.call .fresh calls
    let final := Lib.run (Exchange.step playerId)
      (.start context publication registry serverTransport playerId) events
    (∀ answer ∈ final.answers, answer = some .readyRecorded ∨ answer = some .errorRecorded) ∧
      (final.Quiet → ∃ client, final.client.assets = some client ∧
        Agrees registry.buildManifest.assets client final.pumped (final.server.getState playerId)) := by
  intro registry final
  have hw : registry.buildManifest.WellFormed := (AssetRegistry.run_sound calls).buildManifest
  have hgood : Good registry.buildManifest playerId final :=
    Lib.run_invariant (Good.step hw) (start_good hw hh hc ht ha hm hnew hs) events
  obtain ⟨client, _, _, _, recorded, _, _, hb⟩ := hgood
  refine ⟨fun answer hmem => ?_, fun hq => ⟨client, hb.assets, ?_⟩⟩
  · rw [hb.results] at hmem
    obtain ⟨⟨_, _ | reason⟩, -, rfl⟩ := List.mem_map.mp hmem
    · exact .inl rfl
    · exact .inr rfl
  · obtain ⟨hledger, hids, hpumped⟩ := hb.recorded_all hq
    obtain ⟨state, hl, hrecorded⟩ := hb.record
    rw [AssetPublication.getState_of_lookup hl]
    exact agrees hledger hrecorded hids hpumped

/-- A registry with two assets, whose files are the bytes 0 and 1. -/
def twoAssets : List AssetRegistry.Call :=
  [.registerAsset ⟨1, .dff, [97], httpPrefix ++ [97, 47, 98], 1, sha256 [0]⟩,
    .registerAsset ⟨2, .txd, [98], httpPrefix ++ [97, 47, 99], 1, sha256 [1]⟩]

/-- A client behind its handshake, with an empty cache. -/
def newClient : ProtocolContext where
  handshake := some ⟨⟨⟨0, 2, 0⟩, .r1, 31⟩, .compatible, none, none⟩
  transport := some ⟨fun _ => true, []⟩
  assets := some ((ClientAssetManager.make [] fun _ => none).initializeManager true)
  malformedPacketLogged := false

/-- Surroundings in which nothing fails but, perhaps, the fetch. -/
def fetching (error : FetchError) : Surroundings :=
  let lookup : LookupErrors := ⟨false, false, false, false, false⟩
  ⟨lookup, false, ⟨error, 1⟩, some (.file [0]), false, false, false, ⟨false, false, lookup, false, false⟩⟩

/-- The first asset is downloaded while the manifest comes in, the second download times out. -/
def twoDownloads : List Exchange.Event :=
  List.replicate 4 .deliverToClient ++ List.replicate 12 (.work (fetching .none)) ++
    [.pump, .deliverToServer] ++ List.replicate 6 (.work (fetching .timeout)) ++ [.pump, .deliverToServer]

theorem status_agreement_two :
    let registry := Lib.run AssetRegistry.call .fresh twoAssets
    let final := Lib.run (Exchange.step 7)
      (.start newClient (.onPlayerConnected ⟨∅⟩ 7) registry ⟨fun _ => true, []⟩ 7) twoDownloads
    ∃ client, final.client.assets = some client ∧
      Agrees registry.buildManifest.assets client final.pumped (final.server.getState 7) :=
  (status_agreement twoAssets (.onPlayerConnected ⟨∅⟩ 7) ⟨fun _ => true, []⟩ 7 newClient _ _ _ twoDownloads
    rfl rfl rfl (fun _ _ => rfl) rfl ⟨rfl, rfl, rfl, rfl, rfl, nofun⟩ (by decide +kernel)).2
      (by decide +kernel)

/-! ## Visits -/

/-- From the connect of a player on, and however SA-MP, the hook, the callbacks of the runtime, the worker, the network
and the rest of the server interleave: a visit that is quiet has come to an end on which both sides agree. The client
has not been announced and the server waits for it; or it was rejected for the reason on record; or it is compatible,
and the record tells how every asset of one manifest of the server ended. -/
theorem visit_agreement (operations : List AssetRegistry.Operation) (answer : Nat → Bool)
    (before : List Activity) (playerId : Int) (configuration : HandshakeConfiguration) (hook : SampRakNetTransport)
    (root : Path) (files : Filesystem) (clientAnswer : Nat → Bool) (events : List Visit.Event)
    (hid : 0 ≤ playerId) (hv : configuration.sampVersion.value.toNat ≤ 7) (hh : hook.Started)
    (ha : ∀ n, answer n = true) (hc : ∀ n, clientAnswer n = true)
    (hp : ∀ event ∈ events, event.Proper (UInt32.ofNat playerId.toNat)) :
    let registry := Lib.run AssetRegistry.operate .fresh operations
    let server := act (Lib.run act (.loaded registry true answer) before) (.event (.playerConnect playerId))
    let start := Visit.start hook configuration root files clientAnswer server
    let final := Lib.run (Visit.step playerId) start events
    final.Quiet → Visited playerId start events final := by
  intro registry server start final hq
  obtain ⟨hwatched, havailable, hanswers, hpending⟩ := playerConnect_ready hid ha operations before
  obtain ⟨-, hphase⟩ := run_phase hid (start_wired hh hwatched havailable hanswers root files)
    (start_phase hh hpending hc root files) (helloOf_encodable hv) hp
  exact hphase.visited hq

/-- A hook on the client at address 1, with all callbacks. -/
def visitedHook : SampRakNetTransport :=
  (SampRakNetTransport.fresh.initializeTransport ⟨true, true, true⟩ ⟨true, some 1, true⟩).2

/-- A client that is announced with the second draw, says its Hello, downloads the asset and reports it. -/
def oneVisit : List Visit.Event :=
  [.samp ⟨2, true, some [40], true, true⟩, .receive 1, .callback, .callback, .receive 0] ++
    List.replicate 3 .callback ++ [.deliverToServer, .receive 4] ++ List.replicate 18 .callback ++
    List.replicate 12 (.work (fetching .none)) ++ [.receive 0] ++ List.replicate 3 .callback ++ [.deliverToServer]

theorem visit_agreement_one :
    let register := AssetRegistry.Operation.call
      (.registerAsset ⟨1, .dff, [97], httpPrefix ++ [97, 47, 98], 1, sha256 [0]⟩)
    let server := act (.loaded (Lib.run AssetRegistry.operate .fresh [register]) true fun _ => true)
      (.event (.playerConnect 7))
    let start := Visit.start visitedHook ⟨⟨0, 2, 0⟩, .r1, 31⟩ [] (fun _ => none) (fun _ => true) server
    Visited 7 start oneVisit (Lib.run (Visit.step 7) start oneVisit) := by
  intro register server start
  exact visit_agreement [register] (fun _ => true) [] 7 ⟨⟨0, 2, 0⟩, .r1, 31⟩ visitedHook [] (fun _ => none)
    (fun _ => true) oneVisit (by decide) (by decide) ⟨[], ⟨true, true, true⟩, ⟨true, some 1, true⟩, rfl⟩
    (fun _ => rfl) (fun _ => rfl) (by decide) (by decide +kernel)

/-- Wherever such a visit is, if the hook also pumps, the calls of `Receive`, the callbacks, the worker and the network
lead it on to quiet: no packet of SA-MP and nothing else on the server is needed for it, and no download that
succeeds. -/
theorem visit_completes (operations : List AssetRegistry.Operation) (answer : Nat → Bool)
    (before : List Activity) (playerId : Int) (configuration : HandshakeConfiguration) (hook : SampRakNetTransport)
    (root : Path) (files : Filesystem) (clientAnswer : Nat → Bool) (events : List Visit.Event) (around : Surroundings)
    (hid : 0 ≤ playerId) (hv : configuration.sampVersion.value.toNat ≤ 7) (hh : hook.Started)
    (hpump : hook.callbacks.pump = true) (ha : ∀ n, answer n = true) (hc : ∀ n, clientAnswer n = true)
    (hp : ∀ event ∈ events, event.Proper (UInt32.ofNat playerId.toNat)) :
    let registry := Lib.run AssetRegistry.operate .fresh operations
    let server := act (Lib.run act (.loaded registry true answer) before) (.event (.playerConnect playerId))
    let start := Visit.start hook configuration root files clientAnswer server
    ∃ rest, (∀ event ∈ rest, Visit.Event.Own around event) ∧
      (Lib.run (Visit.step playerId) start (events ++ rest)).Quiet := by
  intro registry server start
  obtain ⟨hwatched, havailable, hanswers, hpending⟩ := playerConnect_ready hid ha operations before
  have hsure : Sure configuration playerId start :=
    { wired := start_wired hh hwatched havailable hanswers root files
      phase := start_phase hh hpending hc root files
      working := ⟨_, rfl, rfl, nofun⟩
      pumps := hpump }
  have he := helloOf_encodable hv
  obtain ⟨rest, hown, hquiet⟩ := @Sure.completes _ _ _ around hid he (hsure.run hid he hp)
  refine ⟨rest, hown, ?_⟩
  rw [Lib.run_append]
  exact hquiet

/-- The client of the visit above has said its Hello. -/
theorem visit_completes_greeted :
    let register := AssetRegistry.Operation.call
      (.registerAsset ⟨1, .dff, [97], httpPrefix ++ [97, 47, 98], 1, sha256 [0]⟩)
    let server := act (.loaded (Lib.run AssetRegistry.operate .fresh [register]) true fun _ => true)
      (.event (.playerConnect 7))
    let start := Visit.start visitedHook ⟨⟨0, 2, 0⟩, .r1, 31⟩ [] (fun _ => none) (fun _ => true) server
    ∃ rest, (∀ event ∈ rest, Visit.Event.Own (fetching .networkFailure) event) ∧
      (Lib.run (Visit.step 7) start (oneVisit.take 8 ++ rest)).Quiet := by
  intro register server start
  exact visit_completes [register] (fun _ => true) [] 7 ⟨⟨0, 2, 0⟩, .r1, 31⟩ visitedHook [] (fun _ => none)
    (fun _ => true) (oneVisit.take 8) (fetching .networkFailure) (by decide) (by decide)
    ⟨[], ⟨true, true, true⟩, ⟨true, some 1, true⟩, rfl⟩ rfl (fun _ => rfl) (fun _ => rfl) (by decide)

end CustomModels.System
