import CustomModels.Lib.Origin
import CustomModels.Shared.Reports
import CustomModels.Client.Runtime
import CustomModels.Client.Stored

/-!
# Sessions of the asset manager

What is passed to the worker, what a session appends and drains, the courses that an asset can take in it, the
calls that a connection makes, and the grounds of what the client says in it.
-/

namespace CustomModels.Client
open CustomModels.Shared

/-! ## The cache -/

/-- Whatever stands at a final path is a file with the digest that the path tells. -/
def AssetCache.Addressed (root : Path) (files : Filesystem) : Prop :=
  ∀ asset entry, files (pathFor root asset) = some entry →
    ∃ data, entry = .file data ∧ sha256 data = asset.sha256

namespace ClientAssetManager

/-- The worker may be given any item, also one that no manifest has. -/
inductive Intake where
  | event (event : Event)
  | pass (work : WorkItem)

def intake (manager : ClientAssetManager) : Intake → ClientAssetManager
  | .event event => manager.step event
  | .pass work => { manager with queue := manager.queue ++ [work] }

/-- Temporary files that are to be removed are. -/
def Intake.Removes : Intake → Prop
  | .event (.worker around) => around.removeRejected = false ∧ around.commit.removeTemporary = false
  | _ => True

/-! ## The events of a session -/

/-- What a call of `DrainEvents` hands over. -/
def drainedBy (manager : ClientAssetManager) : Event → List ClientAssetEvent
  | .drainEvents => manager.drainEvents.1
  | _ => []

/-- The events that a step appends. -/
def appendedBy (manager : ClientAssetManager) : Event → List ClientAssetEvent
  | .drainEvents => []
  | .resetSession => []
  | event => (manager.step event).events.drop manager.events.length

/-- The revision and the asset are those of an entry of the manifest that the session has completed. -/
def Belongs (manager : ClientAssetManager) (revision : UInt64) (assetId : UInt32) : Prop :=
  ∃ manifest, manager.receiver.completed = some manifest ∧ revision = manifest.revision ∧
    assetId ∈ manifest.assets.map AssetDescription.assetId

/-- The items that a message puts into the queue. -/
def enqueuedBy (manager : ClientAssetManager) : Event → List WorkItem
  | .message message => (manager.handleMessage message).2.queue.drop manager.queue.length
  | _ => []

end ClientAssetManager

/-! ## The course of an asset -/

namespace ClientAssetEventKind

/-- The event is about one asset. -/
def isAssetEvent : ClientAssetEventKind → Bool
  | manifestBegin => false
  | manifestComplete => false
  | _ => true

/-- The state that the event tells of. -/
def state : ClientAssetEventKind → AssetState
  | manifestBegin => .unknown
  | manifestComplete => .unknown
  | cacheHit => .ready
  | queued => .queued
  | downloading => .downloading
  | verifying => .verifying
  | verified => .verifying
  | ready => .ready
  | failed => .failed

end ClientAssetEventKind

/-- The kinds of the events about an asset. -/
def trail (assetId : UInt32) (events : List ClientAssetEvent) : List ClientAssetEventKind :=
  (events.filter fun event => event.kind.isAssetEvent && event.assetId == assetId).map ClientAssetEvent.kind

/-- The state that a trail implies. -/
def impliedState (kinds : List ClientAssetEventKind) : AssetState :=
  (kinds.getLast?.map ClientAssetEventKind.state).getD .unknown

def lifecycles : List (List ClientAssetEventKind) :=
  [[.queued, .cacheHit, .ready],
    [.queued, .failed],
    [.queued, .downloading, .failed],
    [.queued, .downloading, .verifying, .failed],
    [.queued, .downloading, .verifying, .verified, .failed],
    [.queued, .downloading, .verifying, .verified, .ready]]

/-- How far an asset may have come. -/
def IsCourse (kinds : List ClientAssetEventKind) : Prop := ∃ lifecycle ∈ lifecycles, kinds <+: lifecycle

instance : DecidablePred IsCourse := fun kinds =>
  inferInstanceAs (Decidable (∃ lifecycle ∈ lifecycles, kinds <+: lifecycle))

namespace ClientAssetManager

/-- All events of a session, in the order in which they are appended. -/
def sessionLog (start : ClientAssetManager) (session : List Event) : List ClientAssetEvent :=
  Lib.collect step appendedBy start session

/-- All events that a session hands over, in order. -/
def sessionDrained (start : ClientAssetManager) (session : List Event) : List ClientAssetEvent :=
  Lib.collect step drainedBy start session

/-- In a session each asset of the completed manifest is queued once and comes to one result. -/
structure OneResult (start : ClientAssetManager) (session : List Event) : Prop where
  /-- Draining loses and doubles nothing. -/
  drained : sessionDrained start session ++ (Lib.run step start session).events = sessionLog start session
  courses : ∀ assetId, IsCourse (trail assetId (sessionDrained start session)) ∧
    IsCourse (trail assetId (sessionLog start session))
  states : ∀ assetId, (Lib.run step start session).getState assetId =
    impliedState (trail assetId (sessionLog start session))
  queued : ∀ manifest, (Lib.run step start session).receiver.completed = some manifest →
    Lib.collect step enqueuedBy start session =
        manifest.assets.map (fun asset => ⟨start.generation, manifest.revision, asset⟩) ∧
      ∀ asset ∈ manifest.assets, (trail asset.assetId (sessionLog start session)).count .queued = 1
  /-- No asset outside the manifest has an event or a state. -/
  outside : ∀ assetId, (∀ manifest, (Lib.run step start session).receiver.completed = some manifest →
      assetId ∉ manifest.assets.map AssetDescription.assetId) →
    trail assetId (sessionLog start session) = [] ∧ (Lib.run step start session).states.lookup assetId = none

end ClientAssetManager

/-! ## Connections -/

namespace ClientAssetManager

def Event.isReset : Event → Bool
  | resetSession => true
  | _ => false

def Event.isWorker : Event → Bool
  | worker _ => true
  | _ => false

/-- How often a history resets the session. -/
def resets (events : List Event) : Nat := events.countP Event.isReset

end ClientAssetManager

namespace ProtocolContext

/-- The context as `InitializeImpl` leaves it, with a transport that has sent nothing. -/
def prepared (configuration : HandshakeConfiguration) (answer : Nat → Bool) (root : Path) (files : Filesystem) :
    ProtocolContext where
  handshake := some (.make configuration)
  transport := some ⟨answer, []⟩
  assets := some ((ClientAssetManager.make root files).initializeManager true)
  malformedPacketLogged := false

/-- What the network thread and the worker do. The pump that ends `HandleIncomingProtocol` is a call of its own,
so that the worker may come in between. -/
inductive Call where
  | connection (event : ConnectionEvent)
  | incoming (bytes : List UInt8)
  | pump
  | work (surroundings : Surroundings)

def perform (context : ProtocolContext) : Call → ProtocolContext
  | .connection event => context.handleConnectionEvent event
  | .incoming bytes => (context.handleIncoming bytes).2
  | .pump => context.pumpAssetResults.2
  | .work surroundings => { context with assets := context.assets.map (·.workerStep surroundings) }

def Call.isConnection : Call → Bool
  | connection _ => true
  | _ => false

/-- The manifest that the receiver has completed. -/
def completed (context : ProtocolContext) : Option Manifest :=
  context.assets.bind fun manager => manager.receiver.completed

end ProtocolContext

/-! ## What the client says -/

/-- The worker is about to note how an asset of the manifest ended; a Ready one stands in the cache. -/
structure ClientAssetManager.Ends (manager : ClientAssetManager) (manifest : Manifest) (asset : AssetDescription)
    (error : Option AssetErrorReason) : Prop where
  completed : manager.receiver.completed = some manifest
  entry : asset ∈ manifest.assets
  hand : manager.worker =
    match error with
    | none => .ready ⟨manager.generation, manifest.revision, asset⟩
    | some reason => .failing ⟨manager.generation, manifest.revision, asset⟩ reason
  stored : error = none → AssetCache.Holds manager.files (AssetCache.pathFor manager.root asset) asset

namespace ProtocolContext

def isCompatible (context : ProtocolContext) : Bool :=
  context.handshake.any (·.state = .compatible)

/-- Why a call hands over a message behind other calls: a new connection begins with the Hello of the client; the end
of an asset was found in the same connection; or the entry that has just come in was refused. -/
inductive Grounds (configuration : HandshakeConfiguration) (start : ProtocolContext) (calls : List Call) :
    Call → Message → Prop where
  | hello :
      Grounds configuration start calls (.connection .connected) (.hello (ClientHandshake.make configuration).hello)
  | ended (manifest : Manifest) (asset : AssetDescription) (error : Option AssetErrorReason)
      (compatible : (Lib.run perform start calls).isCompatible = true)
      (since : Lib.Since perform (·.isConnection = true)
        (fun context => ∃ manager, context.assets = some manager ∧ manager.Ends manifest asset error) start calls) :
      Grounds configuration start calls .pump (AssetEnd.report manifest.revision ⟨asset.assetId, error⟩)
  | refused (bytes : List UInt8) (item : ManifestAsset) (manager : ClientAssetManager)
      (compatible : (Lib.run perform start calls).isCompatible = true)
      (decoded : decodePacket bytes = .ok ⟨kProtocolVersion, .manifestAsset item⟩)
      (assets : (Lib.run perform start calls).assets = some manager)
      (refused : (manager.receiver.handle (.manifestAsset item)).1.Refused) :
      Grounds configuration start calls (.incoming bytes)
        (.assetError ⟨item.manifestRevision, item.asset.assetId, .invalidManifest⟩)

end ProtocolContext

end CustomModels.Client
