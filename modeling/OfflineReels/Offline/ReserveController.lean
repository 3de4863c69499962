import OfflineReels.Offline.ReserveRepository

namespace OfflineReels.Offline

open OfflineReels.Foundation
open OfflineReels.Foundation.Program
open OfflineReels.Instagram
open OfflineReels.Management

/-! The controller of the local reserve: one bounded foreground cycle at a time,
and its cancellation. -/

inductive ReserveState
  | idle
  | reconciling
  | evaluating
  | requestingSources
  | waitingForCollection
  | waitingForNormalization
  | downloading
  | satisfied
  | offline
  | pausedByUser
  | quotaReached
  | cancelled
  | safeError
  deriving DecidableEq, Repr

inductive ReserveRequestIntent
  | auto
  | manual
  | viewedDeletion
  deriving DecidableEq, Repr

structure ReserveSnapshot where
  state : ReserveState
  settings : Option LocalReserveRecord
  localCompletedCount : Nat
  storagePercent : Option Nat
  deriving DecidableEq, Repr

/-- The fields of the snapshot that are set beside the state. -/
structure ReserveSnapshotPatch where
  settings : Option LocalReserveRecord := none
  localCompletedCount : Option Nat := none
  storagePercent : Option (Option Nat) := none
  deriving DecidableEq, Repr

/-- What the controller reads of the snapshot of the queue. -/
structure QueueProjection where
  records : List OfflineVideoRecord
  currentErrorCode : Option OfflineErrorCode
  deriving DecidableEq, Repr

structure StorageUsage where
  usage : Option Nat
  quota : Option Nat
  deriving DecidableEq, Repr

structure NormalizationStatus where
  pending : Nat
  running : Nat
  deriving DecidableEq, Repr

structure ReserveReport where
  deviceUuid : UUID
  autoRefillEnabled : Bool
  desiredCount : JsNumber
  lowWatermark : JsNumber
  quotaThreshold : JsNumber
  localCompletedCount : Nat
  reportedAt : Time
  deriving DecidableEq, Repr

inductive ControllerFault
  | aborted
  | unpaired
  | collectionTerminal
  | collectionDeadline
  | normalizationDeadline
  | other
  deriving DecidableEq, Repr

/-- The fields of the controller, its dependencies, and what goes on at the
server besides. -/
inductive ControllerCall
  /-- A request starts a cycle, or is remembered while one runs. -/
  | join (intent : ReserveRequestIntent)
  | isAvailable
  | attach
  | set (state : ReserveState) (patch : ReserveSnapshotPatch)
  | snapshotState
  | signalAborted
  | detach
  | endCycle (cycle : Nat)
  | now
  | isOnline
  | getSettings
  | setIntent (intent : ReserveCycleIntent)
  | updateSettings (patch : LocalReservePatch)
  | initializeQueue
  | reconcile
  | refreshFromStorage
  | getSnapshot
  | estimate
  | getCatalog
  | getStatus
  /-- The request reaches the server, which may make a run of it. -/
  | startCollection (cycle : Nat) (count : Nat)
  /-- Its answer arrives. -/
  | own (runId : UUID)
  | disown
  | getRun (runId : UUID)
  | wait (milliseconds : Nat)
  | normalization
  | enqueueReserveAndStart (videos : List CatalogItem) (limit : Nat)
  | report (report : ReserveReport)
  | pause
  /-- The signal is aborted, and the owned run sent a cancellation. -/
  | cancelOwned
  | cancelBatch
  | cancelReturned (cycle : Option Nat)
  | createRun
  | finishRun (runId : UUID) (status : CollectionRunStatus)

@[reducible] def ControllerReply : ControllerCall → Type
  | .join _ => Option Nat
  | .isAvailable | .signalAborted | .isOnline | .getStatus => Bool
  | .snapshotState => ReserveState
  | .now => Time
  | .getSettings | .updateSettings _ => LocalReserveRecord
  | .getSnapshot => QueueProjection
  | .estimate => StorageUsage
  | .getCatalog => List CatalogItem
  | .startCollection _ _ => UUID
  | .getRun _ => CollectionRunStatus
  | .normalization => NormalizationStatus
  | .enqueueReserveAndStart _ _ => Nat
  | .cancelOwned => Option Nat
  | .attach | .set _ _ | .detach | .endCycle _ | .setIntent _
  | .initializeQueue | .reconcile | .refreshFromStorage | .own _ | .disown
  | .wait _ | .report _ | .pause | .cancelBatch | .cancelReturned _
  | .createRun | .finishRun _ _ => Unit

abbrev Controlling (α : Type) : Type :=
  Program ControllerCall ControllerReply ControllerFault α

namespace ReserveController

def ask (call : ControllerCall) : Controlling (ControllerReply call) :=
  perform call

/-- 120 000 ms -/
def MAX_CYCLE : Time := 120 * 1000000

def MAX_COLLECTION_REQUEST : Int := 10

def usableStoragePercent (estimate : StorageUsage) : Option Nat :=
  match estimate.usage, estimate.quota with
  | some usage, some quota =>
      if quota = 0 then none
      else some (min 100 ((usage * 100 + (quota - 1)) / quota))
  | _, _ => none

def isReady (record : OfflineVideoRecord) : Bool :=
  record.status = .completed && record.viewedAt.isNone

def completedCount (records : List OfflineVideoRecord) : Nat :=
  (records.filter isReady).length

/-- Every stored record has passed its check, so its numbers are whole. -/
def wholeOf : JsNumber → Int
  | .integer value => value
  | .other => 0

def missing (records : List OfflineVideoRecord) (catalog : List CatalogItem) :
    List CatalogItem :=
  let completed := (records.filter fun record =>
    record.status = .completed || record.isTombstone).map (·.id)
  (uniqueVideos catalog).filter fun video => video.id ∉ completed

/-- Every round waits for half a second at least. -/
def MAX_POLLS : Nat := 240

def FIRST_DELAY : Nat := 500

def nextDelay (delay : Nat) : Nat := min 8000 (delay * 2)

def pollCollection (runId : UUID) (deadline : Time) :
    Nat → Nat → Controlling Unit
  | 0, _ => raise .collectionDeadline
  | polls + 1, delay => do
      let now : Time ← ask .now
      if now < deadline then
        match ← ask (.getRun runId) with
        | .completed => pure ()
        | .failed | .cancelled => raise .collectionTerminal
        | .queued | .running => do
            ask (.wait delay)
            pollCollection runId deadline polls (nextDelay delay)
      else raise .collectionDeadline

def pollActiveCollection (deadline : Time) : Nat → Nat → Controlling Unit
  | 0, _ => raise .collectionDeadline
  | polls + 1, delay => do
      let now : Time ← ask .now
      if now < deadline then
        let active : Bool ← ask .getStatus
        if active then
          ask (.wait delay)
          pollActiveCollection deadline polls (nextDelay delay)
      else raise .collectionDeadline

def pollNormalization (deadline : Time) : Nat → Nat → Controlling Unit
  | 0, _ => raise .normalizationDeadline
  | polls + 1, delay => do
      let now : Time ← ask .now
      if now < deadline then
        let status : NormalizationStatus ← ask .normalization
        if ¬ (status.pending = 0 ∧ status.running = 0) then
          ask (.wait delay)
          pollNormalization deadline polls (nextDelay delay)
      else raise .normalizationDeadline

/-- A report that fails is left. -/
def finish (settings : LocalReserveRecord) (completed : Nat) :
    Controlling Unit := do
  ask (.setIntent .none)
  let online : Bool ← ask .isOnline
  if online then
    let reportedAt : Time ← ask .now
    (ask (.report {
      deviceUuid := settings.deviceId
      autoRefillEnabled := settings.autoRefillEnabled
      desiredCount := settings.desiredCount
      lowWatermark := settings.lowWatermark
      quotaThreshold := settings.maxStoragePercent
      localCompletedCount := completed
      reportedAt := reportedAt })).rescue (fun _ => true) fun _ => pure ()

/-- The deficit beyond the candidates is collected first. -/
def collect (cycle : Nat) (deadline : Time) (deficit : Int) :
    Controlling Unit := do
  let active : Bool ← ask .getStatus
  if active then
    ask (.set .waitingForCollection {})
    pollActiveCollection deadline MAX_POLLS FIRST_DELAY
    ask (.set .waitingForNormalization {})
    pollNormalization deadline MAX_POLLS FIRST_DELAY
  else
    ask (.set .requestingSources {})
    let runId : UUID ← ask (.startCollection cycle
      (max 1 (min MAX_COLLECTION_REQUEST deficit)).toNat)
    ask (.own runId)
    ask (.set .waitingForCollection {})
    pollCollection runId deadline MAX_POLLS FIRST_DELAY
    ask .disown
    ask (.set .waitingForNormalization {})
    pollNormalization deadline MAX_POLLS FIRST_DELAY

def candidates (cycle : Nat) (deadline : Time) (wanted : Int) :
    Controlling (List CatalogItem) := do
  let catalog : List CatalogItem ← ask .getCatalog
  let projection : QueueProjection ← ask .getSnapshot
  let found := missing projection.records catalog
  if (found.length : Int) < wanted then
    collect cycle deadline (wanted - found.length)
    let catalog : List CatalogItem ← ask .getCatalog
    let projection : QueueProjection ← ask .getSnapshot
    return missing projection.records catalog
  else return found

def download (settings : LocalReserveRecord) (wanted : Int)
    (videos : List CatalogItem) : Controlling Unit := do
  ask (.set .downloading {})
  let _ ← ask (.enqueueReserveAndStart videos (max 0 wanted).toNat)
  let after : QueueProjection ← ask .getSnapshot
  let completed := completedCount after.records
  let online : Bool ← ask .isOnline
  ask (.set (
    if ¬ online then .offline
    else if after.currentErrorCode = some .storageQuotaExceeded then
      .quotaReached
    else if wholeOf settings.desiredCount ≤ completed ∨ videos = [] then
      .satisfied
    else .safeError) { localCompletedCount := some completed })
  finish settings completed

def refill (cycle : Nat) (deadline : Time) (settings : LocalReserveRecord)
    (completed : Nat) : Controlling Unit := do
  let wanted := wholeOf settings.desiredCount - completed
  let videos ← candidates cycle deadline wanted
  let now : Time ← ask .now
  if deadline ≤ now then ask (.set .safeError {})
  else download settings wanted videos

def evaluate (cycle : Nat) (intent : ReserveRequestIntent) (deadline : Time) :
    Controlling Unit := do
  ask .reconcile
  ask .refreshFromStorage
  let projection : QueueProjection ← ask .getSnapshot
  let estimate : StorageUsage ← ask .estimate
  let percent := usableStoragePercent estimate
  let completed := completedCount projection.records
  let now : Time ← ask .now
  let settings : LocalReserveRecord ← ask (.updateSettings {
    lastSuccessfulReconciliationAt := some (some now) })
  ask (.set .evaluating {
    settings := some settings
    localCompletedCount := some completed
    storagePercent := some percent })
  if percent.any fun percent =>
      wholeOf settings.maxStoragePercent ≤ (percent : Int) then
    ask (.set .quotaReached {})
  else if (intent = .auto ∧ wholeOf settings.lowWatermark ≤ completed) ∨
      wholeOf settings.desiredCount ≤ completed then do
    ask (.set .satisfied {})
    finish settings completed
  else refill cycle deadline settings completed

variable (build : ReserveBuild)

def runGuarded (cycle : Nat) (intent : ReserveRequestIntent)
    (deadline : Time) : Controlling Unit := do
  let settings : LocalReserveRecord ← ask .getSettings
  if intent ≠ .manual ∧
      (¬ build.AUTO_REFILL_ENABLED ∨ ¬ settings.autoRefillEnabled) then
    ask (.set .idle { settings := some settings })
  else
    ask (.setIntent (if intent = .manual then .manual else .auto))
    ask .initializeQueue
    ask (.set .reconciling { settings := some settings })
    evaluate cycle intent deadline

/-- An abort is not an error. -/
def caught (error : ControllerFault) : Controlling Unit := do
  let aborted : Bool ← ask .signalAborted
  if aborted then
    let state : ReserveState ← ask .snapshotState
    if state ≠ .pausedByUser ∧ state ≠ .cancelled then
      ask (.set .cancelled {})
  else if error = .unpaired then ask (.set .safeError {})
  else
    let online : Bool ← ask .isOnline
    ask (.set (if online then .safeError else .offline) {})

def runCycle (cycle : Nat) (intent : ReserveRequestIntent) :
    Controlling Unit := do
  let available : Bool ← ask .isAvailable
  if available then
    ask .attach
    let started : Time ← ask .now
    ((runGuarded build cycle intent (started + MAX_CYCLE)).rescue
      (fun _ => true) caught).ensure (ask .detach)
  else ask (.set .offline {})

/-- What was requested meanwhile is one more request afterwards. -/
def request (intent : ReserveRequestIntent) : Controlling Unit := do
  let joined : Option Nat ← ask (.join intent)
  match joined with
  | none => pure ()
  | some cycle => (runCycle build cycle intent).ensure (ask (.endCycle cycle))

/-- It returns with an error where the queue or the repository raises. -/
def cancel : Controlling Unit := do
  let cycle : Option Nat ← ask .cancelOwned
  (do
    ask .cancelBatch
    ask (.setIntent .none)
    ask (.set .cancelled {}) : Controlling Unit).ensure
      (ask (.cancelReturned cycle))

inductive ControllerJob
  | request (intent : ReserveRequestIntent)
  | pause
  | cancel
  | createRun
  | finishRun (runId : UUID) (status : CollectionRunStatus)

def program : ControllerJob → Controlling Unit
  | .request intent => request build intent
  | .pause => ask .pause
  | .cancel => cancel
  | .createRun => ask .createRun
  | .finishRun runId status => ask (.finishRun runId status)

end ReserveController

end OfflineReels.Offline
