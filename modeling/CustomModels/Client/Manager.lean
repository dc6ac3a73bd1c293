import Mathlib.Data.Finmap
import CustomModels.Client.Cache
import CustomModels.Client.Receiver

/-!
# The client asset manager

`fetch.hpp` and the manager of `manager.hpp` and `manager.cpp`. The worker thread runs `Process` in steps: one
between any two points at which it takes the mutex, or at which it changes what stands at a path of the
cache. Other threads may act between any two steps.
-/

namespace CustomModels.Client
open CustomModels.Shared

/-! ## Fetching -/

inductive FetchError where
  | none
  | unsupportedScheme
  | networkFailure
  | timeout
  | sizeMismatch
  | diskFailure
  | internalError
  deriving DecidableEq

structure FetchResult where
  error : FetchError
  bytesReceived : UInt64
  deriving DecidableEq

def mapFetchError : FetchError → AssetErrorReason
  | .unsupportedScheme => .unsupportedScheme
  | .networkFailure => .networkFailure
  | .timeout => .timeout
  | .sizeMismatch => .sizeMismatch
  | .diskFailure => .diskFailure
  | .internalError => .internalError
  | .none => .internalError

/-! ## States and events -/

inductive AssetState where
  | unknown
  | queued
  | downloading
  | verifying
  | ready
  | failed
  deriving DecidableEq

inductive ClientAssetEventKind where
  | manifestBegin
  | manifestComplete
  | cacheHit
  | queued
  | downloading
  | verifying
  | verified
  | ready
  | failed
  deriving DecidableEq

structure ClientAssetEvent where
  kind : ClientAssetEventKind
  manifestRevision : UInt64
  assetId : UInt32
  assetCount : UInt32
  error : AssetErrorReason
  deriving DecidableEq

structure WorkItem where
  generation : UInt64
  manifestRevision : UInt64
  asset : AssetDescription
  deriving DecidableEq

/-- Where the worker thread stands: before the call that each name tells. -/
inductive Worker where
  | stopped
  | waiting
  | checking (work : WorkItem)
  | lookingUp (work : WorkItem)
  | cacheHit (work : WorkItem)
  | downloading (work : WorkItem)
  | fetching (work : WorkItem)
  | verifying (work : WorkItem)
  | hashing (work : WorkItem)
  | verified (work : WorkItem)
  | committing (work : WorkItem)
  | moving (work : WorkItem)
  | ready (work : WorkItem)
  | failing (work : WorkItem) (reason : AssetErrorReason)
  deriving DecidableEq

/-- What the filesystem and the fetch backend do to one step of the worker. `written` is what stands at the
destination after the fetch. -/
structure Surroundings where
  lookup : LookupErrors
  removeTemporary : Bool
  fetched : FetchResult
  written : Option Entry
  fileSizeError : Bool
  readError : Bool
  removeRejected : Bool
  commit : CommitErrors

structure ClientAssetManager where
  /-- The root of the cache, and what the worker sees of the filesystem. -/
  root : Path
  files : Filesystem
  receiver : ManifestReceiver
  queue : List WorkItem
  events : List ClientAssetEvent
  states : Finmap fun _ : UInt32 => AssetState
  worker : Worker
  generation : UInt64
  initialized : Bool
  stopping : Bool

namespace ClientAssetManager

/-- A manager as its constructor leaves it. -/
def make (root : Path) (files : Filesystem) : ClientAssetManager where
  root
  files
  receiver := .fresh
  queue := []
  events := []
  states := ∅
  worker := .stopped
  generation := 1
  initialized := false
  stopping := false

/-! ## The calls of the network thread -/

/-- `Initialize`, with a fetch backend; `cacheInitialized` is what `cache_.Initialize` returns. -/
def initializeManager (manager : ClientAssetManager) (cacheInitialized : Bool) : ClientAssetManager :=
  if manager.initialized || !cacheInitialized then manager
  else { manager with stopping := false, worker := .waiting, initialized := true }

def requestStop (manager : ClientAssetManager) : ClientAssetManager :=
  { manager with stopping := true, queue := [] }

/-- The end of `Shutdown`: once the worker has stopped, `join` returns. -/
def joined (manager : ClientAssetManager) : ClientAssetManager :=
  if manager.stopping && manager.worker == .stopped then { manager with initialized := false } else manager

/-- The generation that `ResetSession` goes on to: 0 is skipped. -/
def nextGeneration (generation : UInt64) : UInt64 := if generation + 1 = 0 then 1 else generation + 1

def resetSession (manager : ClientAssetManager) : ClientAssetManager :=
  { manager with
    generation := nextGeneration manager.generation
    receiver := manager.receiver.reset
    queue := []
    events := []
    states := ∅ }

/-- The loop of `QueueManifest`. -/
def queueAssets (manager : ClientAssetManager) (revision : UInt64) :
    List AssetDescription → ClientAssetManager
  | [] => manager
  | asset :: assets =>
      match manager.states.lookup asset.assetId with
      | some .failed | none =>
          let queued : ClientAssetManager :=
            { manager with
              states := manager.states.insert asset.assetId .queued
              queue := manager.queue ++ [⟨manager.generation, revision, asset⟩]
              events := manager.events ++ [⟨.queued, revision, asset.assetId, 0, .internalError⟩] }
          queued.queueAssets revision assets
      | some _ => manager.queueAssets revision assets

def queueManifest (manager : ClientAssetManager) (manifest : Manifest) : ClientAssetManager :=
  manager.queueAssets manifest.revision manifest.assets

def handleMessage (manager : ClientAssetManager) (message : Message) :
    ManifestInputResult × ClientAssetManager :=
  let (result, receiver) := manager.receiver.handle message
  let manager := { manager with receiver }
  match result, message, receiver.completed with
  | .accepted, .manifestBegin value, _ =>
      (result, { manager with
        events := manager.events ++
          [⟨.manifestBegin, value.manifestRevision, 0, value.assetCount, .internalError⟩] })
  | .complete, _, some manifest =>
      let announced : ClientAssetManager :=
        { manager with
          events := manager.events ++
            [⟨.manifestComplete, manifest.revision, 0, UInt32.ofNat manifest.assets.length,
              .internalError⟩] }
      (result, announced.queueManifest manifest)
  | _, _, _ => (result, manager)

def drainEvents (manager : ClientAssetManager) : List ClientAssetEvent × ClientAssetManager :=
  (manager.events, { manager with events := [] })

def getState (manager : ClientAssetManager) (assetId : UInt32) : AssetState :=
  (manager.states.lookup assetId).getD .unknown

/-! ## The worker thread -/

def setState (manager : ClientAssetManager) (work : WorkItem) (state : AssetState)
    (event : ClientAssetEventKind) (error : AssetErrorReason) : ClientAssetManager :=
  if work.generation ≠ manager.generation then manager
  else
    { manager with
      states := manager.states.insert work.asset.assetId state
      events := manager.events ++ [⟨event, work.manifestRevision, work.asset.assetId, 0, error⟩] }

def isCurrentGeneration (manager : ClientAssetManager) (generation : UInt64) : Bool :=
  !manager.stopping && generation == manager.generation

/-- The download of `Process`: what the fetch leaves, and the reason if it is rejected. -/
def fetch (manager : ClientAssetManager) (work : WorkItem) (around : Surroundings) :
    Filesystem × Option AssetErrorReason :=
  let temporaryPath := AssetCache.temporaryPathFor manager.root work.asset
  let files := AssetCache.removeTemporary manager.files temporaryPath around.removeTemporary
  let files := Function.update files temporaryPath around.written
  if around.fetched.error ≠ .none then
    (AssetCache.removeTemporary files temporaryPath around.removeRejected,
      some (mapFetchError around.fetched.error))
  else if around.fetched.bytesReceived ≠ work.asset.fileSize then
    (AssetCache.removeTemporary files temporaryPath around.removeRejected, some .sizeMismatch)
  else (files, none)

/-- The check of the downloaded file in `Process`: the reason if it is rejected. -/
def check (manager : ClientAssetManager) (work : WorkItem) (around : Surroundings) :
    Option AssetErrorReason :=
  match manager.files (AssetCache.temporaryPathFor manager.root work.asset) with
  | some (.file data) =>
      if around.fileSizeError then some .diskFailure
      else if data.length ≠ work.asset.fileSize.toNat then some .sizeMismatch
      else if around.readError then some .diskFailure
      else if sha256 data ≠ work.asset.sha256 then some .hashMismatch
      else none
  | _ => some .diskFailure

/-- The rejection of a download: the temporary file goes, and the failure is to be recorded. -/
def rejectDownload (manager : ClientAssetManager) (work : WorkItem) (around : Surroundings)
    (reason : AssetErrorReason) : ClientAssetManager :=
  { manager with
    files := AssetCache.removeTemporary manager.files
      (AssetCache.temporaryPathFor manager.root work.asset) around.removeRejected
    worker := .failing work reason }

/-- One step of `WorkerLoop` and of the `Process` that it calls. -/
def workerStep (manager : ClientAssetManager) (around : Surroundings) : ClientAssetManager :=
  match manager.worker with
  | .stopped => manager
  | .waiting =>
      if manager.stopping then { manager with worker := .stopped }
      else match manager.queue with
        | [] => manager
        | work :: queue => { manager with queue, worker := .checking work }
  | .checking work =>
      if !manager.isCurrentGeneration work.generation then { manager with worker := .waiting }
      else { manager with worker := .lookingUp work }
  | .lookingUp work =>
      let (lookup, files) := AssetCache.lookup manager.root manager.files work.asset around.lookup
      { manager with
        files
        worker := match lookup with
          | .hit => .cacheHit work
          | .diskFailure => .failing work .diskFailure
          | .miss => .downloading work }
  | .cacheHit work =>
      { manager.setState work .ready .cacheHit .internalError with worker := .ready work }
  | .downloading work =>
      { manager.setState work .downloading .downloading .internalError with worker := .fetching work }
  | .fetching work =>
      match manager.fetch work around with
      | (files, none) => { manager with files, worker := .verifying work }
      | (files, some reason) => { manager with files, worker := .failing work reason }
  | .verifying work =>
      { manager.setState work .verifying .verifying .internalError with worker := .hashing work }
  | .hashing work =>
      match manager.check work around with
      | none => { manager with worker := .verified work }
      | some reason => manager.rejectDownload work around reason
  | .verified work =>
      { manager.setState work .verifying .verified .internalError with worker := .committing work }
  | .committing work =>
      match AssetCache.commitLookup manager.root manager.files work.asset
          (AssetCache.temporaryPathFor manager.root work.asset) around.commit with
      | (some true, files) => { manager with files, worker := .ready work }
      | (some false, files) => { manager with files }.rejectDownload work around .diskFailure
      | (none, files) => { manager with files, worker := .moving work }
  | .moving work =>
      match AssetCache.commitRename manager.root manager.files work.asset
          (AssetCache.temporaryPathFor manager.root work.asset) around.commit with
      | (true, files) => { manager with files, worker := .ready work }
      | (false, files) => { manager with files }.rejectDownload work around .diskFailure
  | .ready work => { manager.setState work .ready .ready .internalError with worker := .waiting }
  | .failing work reason => { manager.setState work .failed .failed reason with worker := .waiting }

/-! ## Histories of a manager -/

inductive Event where
  | initializeManager (cacheInitialized : Bool)
  | message (message : Message)
  | resetSession
  | drainEvents
  | requestStop
  | joined
  | worker (around : Surroundings)

def step (manager : ClientAssetManager) : Event → ClientAssetManager
  | .initializeManager cacheInitialized => manager.initializeManager cacheInitialized
  | .message message => (manager.handleMessage message).2
  | .resetSession => manager.resetSession
  | .drainEvents => manager.drainEvents.2
  | .requestStop => manager.requestStop
  | .joined => manager.joined
  | .worker around => manager.workerStep around

end ClientAssetManager

end CustomModels.Client
