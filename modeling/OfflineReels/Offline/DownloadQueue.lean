import OfflineReels.Offline.Downloader
import OfflineReels.Offline.Reconciliation

namespace OfflineReels.Offline

open OfflineReels.Foundation
open OfflineReels.Foundation.Program
open OfflineReels.Instagram
open OfflineReels.Management (CatalogItem)

/-! The download queue: its operations, and the pump that a start sets going.
What runs between two awaits is one call. -/

inductive BatchState
  | active
  | failed
  | completed
  deriving DecidableEq, Repr

structure DownloadBatchProgress where
  totalBytes : Nat
  completedBytes : Nat
  displayedBytes : Nat
  state : BatchState
  deriving DecidableEq, Repr

structure DownloadQueueSnapshot where
  activeVideoId : Option UUID
  paused : Bool
  queuedCount : Nat
  completedCount : Nat
  completedBytes : Nat
  currentProgress : Option DownloadProgress
  currentErrorCode : Option OfflineErrorCode
  online : Bool
  initialized : Bool
  clearing : Bool
  batchProgress : Option DownloadBatchProgress
  records : List OfflineVideoRecord
  deriving DecidableEq, Repr

def emptySnapshot (online : Bool) : DownloadQueueSnapshot where
  activeVideoId := none
  paused := true
  queuedCount := 0
  completedCount := 0
  completedBytes := 0
  currentProgress := none
  currentErrorCode := none
  online := online
  initialized := false
  clearing := false
  batchProgress := none
  records := []

def toQueueRecord (video : CatalogItem) (timestamp : Time) :
    OfflineVideoRecord :=
  Downloader.createQueuedRecord video timestamp

/-- What runs under control, one operation after the other. -/
inductive ControlledOperation
  | enqueue (videoIds : List UUID)
  | retry (videoId : UUID)
  | remove (videoId : UUID)
  | cancelActive
  | cancelQueued
  | beginClear
  deriving DecidableEq, Repr

/-- How a start goes on: it stops, waits for the pump that runs, or runs one. -/
inductive Join
  | stopped
  | joined (pump : Nat)
  | created (pump : Nat)
  deriving DecidableEq, Repr

inductive QueueCall
  | browse (input : BrowserCall)
  | download (controller : Nat) (input : DownloadCall)
  | enterControl
  | turn (operation : ControlledOperation)
  | release
  | beginInitialize
  | awaitInitialized
  | initialized (outcome : Except JsError Unit)
  | refreshed (records : List StoredVideo) (completedBytes : Nat)
  | isClearing
  | batch (candidates : List CatalogItem)
  | callStart
  | join
  | pumpTest
  | beginDownload (next : StoredVideo)
  | takeCancelled (videoId : UUID)
  | downloadFailed (code : OfflineErrorCode)
  | endDownload (controller : Nat) (videoId : UUID)
  | pumpEnded
  /-- The promise of the pump is reset, and settles. -/
  | settlePump (pump : Nat) (outcome : Except JsError Unit)
  /-- The start resolves with the pump that it waits for. -/
  | finishStart (pump : Nat)
  | never
  | pause
  | abortActive
  | offline
  | online
  | currentPump
  | awaitPump (pump : Nat)
  | cancelActive
  | batchRecords
  | inBatch (videoId : UUID)
  | beginClear
  | cleared
  | endClear
  | removeResolved (videoId : UUID) (removed : Bool)
  | clearResolved

@[reducible] def QueueReply : QueueCall → Type
  | .browse input => BrowserReply input
  | .download _ input => DownloadReply input
  | .beginInitialize | .isClearing | .pumpTest | .takeCancelled _
  | .inBatch _ => Bool
  | .join => Join
  | .beginDownload _ => Option Nat
  | .currentPump => Option Nat
  | .batchRecords => List OfflineVideoRecord
  | .enterControl | .turn _ | .release | .awaitInitialized | .initialized _
  | .refreshed _ _ | .batch _ | .callStart | .downloadFailed _
  | .endDownload _ _ | .pumpEnded | .settlePump _ _ | .finishStart _ | .never
  | .pause | .abortActive | .offline | .online | .awaitPump _ | .cancelActive
  | .beginClear | .cleared | .endClear | .removeResolved _ _ | .clearResolved =>
      Unit

abbrev QueueProgram (α : Type) : Type :=
  Program QueueCall QueueReply JsError α

namespace OfflineDownloadQueue

def exec (input : QueueCall) : QueueProgram (QueueReply input) := perform input

def browsed {α : Type} (program : Browsing α) : QueueProgram α :=
  program.handle fun input => perform (.browse input)

def downloading {α : Type} (controller : Nat) (program : Downloading α) :
    QueueProgram α :=
  program.handle fun input => perform (.download controller input)

/-- Operations run in the order of their calls. -/
def runControlled {α : Type} (operation : ControlledOperation)
    (program : QueueProgram α) : QueueProgram α := do
  exec .enterControl
  exec (.turn operation)
  program.ensure (exec .release)

def calculateCompletedLibrarySize : Browsing Nat := do
  let records ← listOfflineVideos
  return ((records.filter (·.status = .completed)).map (·.byteSize)).sum

def refreshRecords : QueueProgram Unit := do
  let records ← browsed listOfflineVideos
  let completedBytes ← browsed calculateCompletedLibrarySize
  exec (.refreshed records completedBytes)

/-- The first caller initializes; the others wait for it. -/
def initializeQueue : QueueProgram Unit := do
  let begins : Bool ← exec .beginInitialize
  if begins then
    (do
      let _ ← browsed reconcileOfflineLibrary
      refreshRecords : QueueProgram Unit).attempt fun outcome => do
        exec (.initialized outcome)
        match outcome with
        | .ok _ => pure ()
        | .error error => raise error
  else exec .awaitInitialized

def refreshFromStorage : QueueProgram Unit := do
  initializeQueue
  refreshRecords

def enqueueUnlocked (video : CatalogItem) : QueueProgram Bool := do
  let refused : Bool ← exec .isClearing
  if refused then return false
  else
    let existing ← browsed (getOfflineVideo video.id)
    let clearing : Bool ← exec .isClearing
    if clearing || existing.any fun existing =>
        existing.status = .completed || existing.status = .queued ||
          existing.status = .downloading || existing.status = .failed then
      return false
    else
      let timestamp : Time ← exec (.browse .now)
      browsed (putOfflineVideo (toQueueRecord video timestamp))
      refreshRecords
      return true

def retryPatch : OfflineVideoPatch := fun record =>
  { record with
    status := .queued
    downloadedBytes := 0
    downloadedAt := none
    cacheKey := none
    lastErrorCode := none
    lastErrorMessage := none
    failedAt := none }

def retryUnlocked (videoId : UUID) : QueueProgram Bool := do
  let refused : Bool ← exec .isClearing
  if refused then return false
  else
    let record ← browsed (getOfflineVideo videoId)
    if record.all (·.status ≠ .failed) then return false
    else
      let _ ← browsed (updateOfflineVideo videoId retryPatch)
      refreshRecords
      return true

def enqueue (video : CatalogItem) : QueueProgram Bool :=
  runControlled (.enqueue [video.id]) (enqueueUnlocked video)

def enqueueAll : List CatalogItem → Nat → QueueProgram Nat
  | [], enqueued => pure enqueued
  | video :: rest, enqueued => do
      let added ← enqueueUnlocked video
      enqueueAll rest (if added then enqueued + 1 else enqueued)

def enqueueMany (videos : List CatalogItem) : QueueProgram Nat :=
  runControlled (.enqueue (videos.map (·.id))) (enqueueAll videos 0)

def retry (videoId : UUID) : QueueProgram Bool :=
  runControlled (.retry videoId) (retryUnlocked videoId)

def removeUnlocked (videoId : UUID) : QueueProgram Bool := do
  let record ← browsed (getOfflineVideo videoId)
  if record.all (·.status ≠ .queued) then return false
  else
    browsed (deleteOfflineVideo videoId)
    refreshRecords
    return true

def removeQueued (videoId : UUID) : QueueProgram Bool :=
  runControlled (.remove videoId) (removeUnlocked videoId)

/-- The records that a catalog does not bring in again. -/
def isSettled (record : OfflineVideoRecord) : Bool :=
  record.isTombstone || record.status = .completed ||
    record.status = .queued || record.status = .downloading

def enqueueCandidate (video : CatalogItem) : QueueProgram Bool := do
  let existing ← browsed (getOfflineVideo video.id)
  if existing.any (isSettled ·.toOfflineVideoRecord) then return false
  else if existing.any (·.status = .failed) then retryUnlocked video.id
  else enqueueUnlocked video

/-- A reserve stops at its limit. -/
def enqueueCandidates (limit : Option Nat) :
    List CatalogItem → List CatalogItem → QueueProgram (List CatalogItem)
  | [], candidates => pure candidates
  | video :: rest, candidates =>
      if limit.any (· ≤ candidates.length) then pure candidates
      else do
        let added ← enqueueCandidate video
        enqueueCandidates limit rest
          (if added then candidates ++ [video] else candidates)

def enqueueBatch (limit : Option Nat) (videos : List CatalogItem) :
    QueueProgram Nat :=
  runControlled (.enqueue (videos.map (·.id))) do
    let candidates ← enqueueCandidates limit (uniqueVideos videos) []
    exec (.batch candidates)
    return candidates.length

def videoOf (record : OfflineVideoRecord) : CatalogItem where
  id := record.id
  title := record.title
  contentType := record.contentType
  byteSize := record.byteSize
  createdAt := record.createdAt

/-- A download that was cancelled while it ran to its end is undone. -/
def attemptDownload (controller : Nat) (next : StoredVideo) :
    QueueProgram Unit := do
  let _ ← downloading controller
    (Downloader.downloadVideoForOffline (videoOf next.toOfflineVideoRecord))
  let cancelled : Bool ← exec (.takeCancelled next.id)
  if cancelled then
    (browsed (deleteCachedVideo next.id)).attempt fun _ => pure ()
    browsed (deleteOfflineVideo next.id)

def downloadNext (controller : Nat) (next : StoredVideo) :
    QueueProgram Unit :=
  (attemptDownload controller next).attempt fun outcome => do
    match outcome with
    | .ok _ => pure ()
    | .error error =>
        exec (.downloadFailed (toOfflineStorageError error .unknownError))
    exec (.endDownload controller next.id)
    refreshRecords

/-- The loop has as many rounds as a run asks of it. -/
def pump : Nat → QueueProgram Unit
  | 0 => exec .never
  | rounds + 1 => do
      let records ← browsed listOfflineVideos
      match records.find? (·.status = .queued) with
      | none => exec .pumpEnded
      | some next =>
          let begun : Option Nat ← exec (.beginDownload next)
          match begun with
          | none => exec .pumpEnded
          | some controller =>
              downloadNext controller next
              let again : Bool ← exec .pumpTest
              if again then pump rounds else exec .pumpEnded

/-- A round of the pump from the record it chose. -/
def pumpRound (rounds : Nat) : Option StoredVideo → QueueProgram Unit
  | none => exec .pumpEnded
  | some next => do
      let begun : Option Nat ← exec (.beginDownload next)
      match begun with
      | none => exec .pumpEnded
      | some controller =>
          downloadNext controller next
          let again : Bool ← exec .pumpTest
          if again then pump rounds else exec .pumpEnded

/-- The start that sets the pump going waits for it like the others. -/
def start (rounds : Nat) : QueueProgram Unit := do
  exec .callStart
  initializeQueue
  let join : Join ← exec .join
  match join with
  | .stopped => pure ()
  | .joined number => exec (.finishStart number)
  | .created number =>
      (pump rounds).attempt fun outcome => do
        exec (.settlePump number outcome)
        exec (.finishStart number)

def enqueueCatalogAndStart (videos : List CatalogItem) (rounds : Nat) :
    QueueProgram Unit := do
  initializeQueue
  let queued ← enqueueBatch none videos
  if 0 < queued then start rounds

def enqueueReserveAndStart (videos : List CatalogItem) (limit rounds : Nat) :
    QueueProgram Nat :=
  if limit < 1 then pure 0
  else do
    initializeQueue
    let queued ← enqueueBatch (some limit) videos
    if 0 < queued then start rounds
    return queued

def awaitCurrentPump : QueueProgram Unit := do
  let current : Option Nat ← exec .currentPump
  match current with
  | none => pure ()
  | some number => exec (.awaitPump number)

def deleteBatch : List OfflineVideoRecord → QueueProgram Unit
  | [] => pure ()
  | record :: rest => do
      let member : Bool ← exec (.inBatch record.id)
      if member && record.status = .queued then
        browsed (deleteOfflineVideo record.id)
      deleteBatch rest

def cancelBatch : QueueProgram Unit := do
  runControlled .cancelActive (exec .cancelActive)
  awaitCurrentPump
  runControlled .cancelQueued do
    let records : List OfflineVideoRecord ← exec .batchRecords
    deleteBatch records
    refreshRecords

/-- A cleanup that fails shows what is left of the library. -/
def clearAndRefresh : QueueProgram Unit :=
  (do
    awaitCurrentPump
    browsed clearOfflineLibrary
    exec .cleared
    refreshRecords : QueueProgram Unit).rescue (fun _ => true) fun error =>
      refreshRecords.attempt fun _ => raise error

def cancelAndClear : QueueProgram Unit := do
  runControlled .beginClear (exec .beginClear)
  clearAndRefresh.ensure (exec .endClear)

inductive QueueJob
  | initializeQueue
  | refreshFromStorage
  | enqueue (video : CatalogItem)
  | enqueueMany (videos : List CatalogItem)
  | retry (videoId : UUID)
  | removeQueued (videoId : UUID)
  | enqueueCatalogAndStart (videos : List CatalogItem) (rounds : Nat)
  | enqueueReserveAndStart (videos : List CatalogItem) (limit rounds : Nat)
  | start (rounds : Nat)
  | pause
  | abortActive
  | cancelBatch
  | cancelAndClear
  | offline
  | online
  | recordViewed (videoId : UUID)

def program : QueueJob → QueueProgram Unit
  | .initializeQueue => initializeQueue
  | .refreshFromStorage => refreshFromStorage
  | .enqueue video => do let _ ← enqueue video
  | .enqueueMany videos => do let _ ← enqueueMany videos
  | .retry videoId => do let _ ← retry videoId
  | .removeQueued videoId => do
      let removed ← removeQueued videoId
      exec (.removeResolved videoId removed)
  | .enqueueCatalogAndStart videos rounds =>
      enqueueCatalogAndStart videos rounds
  | .enqueueReserveAndStart videos limit rounds => do
      let _ ← enqueueReserveAndStart videos limit rounds
  | .start rounds => start rounds
  | .pause => exec .pause
  | .abortActive => exec .abortActive
  | .cancelBatch => cancelBatch
  | .cancelAndClear => do
      cancelAndClear
      exec .clearResolved
  | .offline => exec .offline
  | .online => exec .online
  | .recordViewed videoId => do
      let viewedAt : Time ← exec (.browse .now)
      let _ ← browsed (markOfflineVideoViewed videoId viewedAt)

end OfflineDownloadQueue

end OfflineReels.Offline
