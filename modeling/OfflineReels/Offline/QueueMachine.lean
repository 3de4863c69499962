import OfflineReels.Foundation.Interleaving
import OfflineReels.Offline.DownloadQueue

namespace OfflineReels.Offline

open OfflineReels.Foundation
open OfflineReels.Instagram
open OfflineReels.Management (CatalogItem)

/-! The state of the queue beside the stores, and what each call does to it. -/

/-- The promise of the initialization. -/
inductive Initialization
  | absent
  | running
  | settled (outcome : Except JsError Unit)

/-- Pumps and controllers are counted; `settled` has the pumps that are over. -/
structure QueueStore where
  stores : Stores
  onLine : Bool
  snapshot : DownloadQueueSnapshot
  activeController : Option Nat
  controllers : Nat
  aborted : List Nat
  pumpPromise : Option Nat
  pumps : Nat
  settled : List (Nat × Except JsError Unit)
  initialization : Initialization
  control : List ThreadId
  taken : Bool
  clearing : Bool
  batchVideoIds : Option (List UUID)
  cancelledActiveVideoIds : List UUID

/-- What the outside answers, and whether a progress event is due. -/
structure QueueDraw where
  now : Time
  estimate : LocalStorageEstimate
  response : FetchedResponse
  emits : Bool

/-- A dependency answers or rejects. -/
inductive QueueChoice
  | returns (draw : QueueDraw)
  | rejects (error : JsError)

namespace QueueStore

def fresh (stores : Stores) (onLine : Bool) : QueueStore where
  stores := stores
  onLine := onLine
  snapshot := emptySnapshot onLine
  activeController := none
  controllers := 0
  aborted := []
  pumpPromise := none
  pumps := 0
  settled := []
  initialization := .absent
  control := []
  taken := false
  clearing := false
  batchVideoIds := none
  cancelledActiveVideoIds := []

def isBatched (store : QueueStore) (videoId : UUID) : Bool :=
  store.batchVideoIds.any (videoId ∈ ·)

def batchState (pending : Bool) (completedBytes totalBytes : Nat) :
    BatchState :=
  if pending then .active
  else if completedBytes = totalBytes then .completed
  else .failed

def updateBatchProgress (store : QueueStore) : QueueStore :=
  match store.snapshot.batchProgress, store.batchVideoIds with
  | some batch, some videoIds =>
      let records := store.snapshot.records.filter (·.id ∈ videoIds)
      let completedBytes :=
        ((records.filter (·.status = .completed)).map (·.byteSize)).sum
      let currentBytes := match store.snapshot.currentProgress with
        | some progress =>
            if progress.videoId ∈ videoIds then progress.downloadedBytes else 0
        | none => 0
      let observedBytes := min batch.totalBytes (completedBytes + currentBytes)
      let pending := (records.any fun record =>
          record.status = .queued || record.status = .downloading) ||
        store.snapshot.activeVideoId.isSome
      { store with snapshot := { store.snapshot with
        batchProgress := some {
          totalBytes := batch.totalBytes
          completedBytes := completedBytes
          displayedBytes := max batch.displayedBytes observedBytes
          state := batchState pending completedBytes batch.totalBytes } } }
  | _, _ => store

def refreshed (store : QueueStore) (records : List StoredVideo)
    (completedBytes : Nat) : QueueStore :=
  updateBatchProgress { store with snapshot := { store.snapshot with
    records := records.map (·.toOfflineVideoRecord)
    queuedCount := (records.filter (·.status = .queued)).length
    completedCount := (records.filter (·.status = .completed)).length
    completedBytes := completedBytes
    online := store.onLine } }

def batch (store : QueueStore) (candidates : List CatalogItem) : QueueStore :=
  { store with
    batchVideoIds := some (candidates.map (·.id))
    snapshot := { store.snapshot with
      batchProgress :=
        if candidates = [] then none
        else some {
          totalBytes := (candidates.map (·.byteSize)).sum
          completedBytes := 0
          displayedBytes := 0
          state := .active } } }

/-- A progress event of a download that is not the active one is dropped. -/
def progressed (store : QueueStore) (controller : Nat)
    (progress : DownloadProgress) : QueueStore :=
  if store.activeController ≠ some controller ∨ store.clearing then store
  else
    updateBatchProgress { store with snapshot := { store.snapshot with
      currentProgress := some progress } }

def pause (store : QueueStore) : QueueStore :=
  { store with snapshot := { store.snapshot with paused := true } }

def abort (store : QueueStore) : QueueStore :=
  { store with aborted := store.activeController.toList ++ store.aborted }

def join (store : QueueStore) : QueueStore × Join :=
  if store.clearing then (store, .stopped)
  else if ¬ store.onLine then
    ({ store with snapshot := { store.snapshot with
      online := false
      paused := true } }, .stopped)
  else
    let started := { store with snapshot := { store.snapshot with
      online := true
      paused := false
      currentErrorCode := none } }
    match store.pumpPromise with
    | some pump => (started, .joined pump)
    | none =>
        ({ started with
          pumpPromise := some store.pumps
          pumps := store.pumps + 1 }, .created store.pumps)

def beginDownload (store : QueueStore) (next : StoredVideo) :
    QueueStore × Option Nat :=
  if store.clearing then (store, none)
  else
    ({ store with
      activeController := some store.controllers
      controllers := store.controllers + 1
      snapshot := { store.snapshot with
        activeVideoId := some next.id
        currentProgress := some ⟨next.id, 0, none⟩
        currentErrorCode := none } }, some store.controllers)

def takeCancelled (store : QueueStore) (videoId : UUID) : QueueStore :=
  { store with
    cancelledActiveVideoIds :=
      store.cancelledActiveVideoIds.filter (· ≠ videoId) }

/-- Too little space and an abort pause the queue. -/
def downloadFailed (store : QueueStore) (code : OfflineErrorCode) :
    QueueStore :=
  { store with snapshot := { store.snapshot with
    paused := code = .storageQuotaExceeded || code = .downloadAborted ||
      store.snapshot.paused
    currentErrorCode := some code } }

def endDownload (store : QueueStore) (controller : Nat) (videoId : UUID) :
    QueueStore :=
  { store.takeCancelled videoId with
    activeController :=
      if store.activeController = some controller then none
      else store.activeController
    snapshot := { store.snapshot with
      activeVideoId := none
      currentProgress := none } }

def pumpEnded (store : QueueStore) : QueueStore :=
  { store with snapshot := { store.snapshot with
    activeVideoId := none
    currentProgress := none
    online := store.onLine } }

def outcomeOf (store : QueueStore) (pump : Nat) :
    Option (Except JsError Unit) :=
  (store.settled.find? (·.1 = pump)).map (·.2)

def offline (store : QueueStore) : QueueStore :=
  { store.abort with
    onLine := false
    snapshot := { store.snapshot with
      online := false
      paused := true } }

def online (store : QueueStore) : QueueStore :=
  { store with
    onLine := true
    snapshot := { store.snapshot with online := true } }

def cancelActive (store : QueueStore) : QueueStore :=
  { store.pause.abort with
    cancelledActiveVideoIds :=
      store.snapshot.activeVideoId.toList.filter store.isBatched ++
        store.cancelledActiveVideoIds }

def beginClear (store : QueueStore) : QueueStore :=
  { store.abort with
    clearing := true
    snapshot := { store.snapshot with
      clearing := true
      paused := true
      currentErrorCode := none } }

def cleared (store : QueueStore) : QueueStore :=
  { store with
    batchVideoIds := none
    snapshot := { emptySnapshot store.onLine with
      initialized := true
      clearing := true } }

def endClear (store : QueueStore) : QueueStore :=
  { store with
    clearing := false
    snapshot := { store.snapshot with
      clearing := false
      paused := true } }

/-- A call of the browser that the queue makes, where it is not rejected. -/
def browse (store : QueueStore) (draw : QueueDraw) :
    (input : BrowserCall) → Option (QueueStore × BrowserReply input)
  | .getVideo videoId => some (store, store.stores.library.find? videoId)
  | .getAllVideos => some (store, store.stores.library.rows)
  | .putVideo record =>
      some ({ store with stores := store.stores.putVideo record }, ())
  | .deleteVideo videoId =>
      some ({ store with stores := store.stores.deleteVideo videoId }, ())
  | .markVideoViewed videoId viewedAt =>
      let (stores, viewed) := store.stores.markVideoViewed videoId viewedAt
      some ({ store with stores }, viewed)
  | .clearVideos preserveViewed =>
      some ({ store with
        stores := store.stores.clearVideos preserveViewed }, ())
  | .matchMedia path =>
      some (store, (store.stores.media.find? (.media path)).map (·.2))
  | .putMedia path media =>
      some ({ store with stores := store.stores.putMedia path media }, ())
  | .deleteMedia path =>
      let (stores, deleted) := store.stores.deleteMedia path
      some ({ store with stores }, deleted)
  | .mediaKeys => some (store, store.stores.media.rows.map (·.1))
  | .deleteMediaCache =>
      some ({ store with stores := { store.stores with media := .empty } },
        store.stores.media.rows ≠ [])
  | .isOnline => some (store, store.onLine)
  | .now => some (store, draw.now)
  | .getLocalReserve | .refreshManagementSession | .getConfirmedViewedReels
  | .syncViewedReels _ _ | .activeVideoId => none

/-- A rejected call does nothing. -/
def browsed (store : QueueStore) (choice : QueueChoice)
    (input : BrowserCall) :
    Option (QueueStore × Except JsError (BrowserReply input)) :=
  match choice with
  | .rejects error => some (store, .error error)
  | .returns draw =>
      (store.browse draw input).map fun (after, reply) => (after, .ok reply)

def transform (store : QueueStore) (controller : Nat)
    (progress : DownloadProgress) (draw : QueueDraw) :
    QueueStore × Except JsError Unit :=
  if controller ∈ store.aborted then
    (store, .error (.domException .abortError))
  else if draw.emits then (store.progressed controller progress, .ok ())
  else (store, .ok ())

def download (store : QueueStore) (choice : QueueChoice) (controller : Nat) :
    (input : DownloadCall) →
      Option (QueueStore × Except JsError (DownloadReply input))
  | .browse input => store.browsed choice input
  | .signalAborted => some (store, .ok (controller ∈ store.aborted))
  | .finishProgress progress =>
      some (store.progressed controller progress, .ok ())
  | .getStorageEstimate =>
      match choice with
      | .returns draw => some (store, .ok draw.estimate)
      | .rejects error => some (store, .error error)
  | .fetch _ =>
      match choice with
      | .returns draw => some (store, .ok draw.response)
      | .rejects error => some (store, .error error)
  | .transform progress =>
      match choice with
      | .returns draw => some (store.transform controller progress draw)
      | .rejects error => some (store, .error error)

/-- What waits for its turn or for a promise is not enabled before. -/
def perform (thread : ThreadId) (store : QueueStore) (input : QueueCall)
    (choice : QueueChoice) :
    Option (QueueStore × Except JsError (QueueReply input)) :=
  match input with
  | .browse input => store.browsed choice input
  | .download controller input => store.download choice controller input
  | .enterControl =>
      some ({ store with control := store.control ++ [thread] }, .ok ())
  | .turn _ =>
      if store.control.head? = some thread ∧ store.taken = false then
        some ({ store with taken := true }, .ok ())
      else none
  | .release =>
      some ({ store with
        control := store.control.tail
        taken := false }, .ok ())
  | .beginInitialize =>
      match store.initialization with
      | .absent => some ({ store with initialization := .running }, .ok true)
      | _ => some (store, .ok false)
  | .awaitInitialized =>
      match store.initialization with
      | .settled outcome => some (store, outcome)
      | _ => none
  | .initialized outcome =>
      some ({ store with
        initialization := .settled outcome
        snapshot := { store.snapshot with
          initialized := store.snapshot.initialized || outcome.toBool } },
        .ok ())
  | .refreshed records completedBytes =>
      some (store.refreshed records completedBytes, .ok ())
  | .isClearing => some (store, .ok store.clearing)
  | .batch candidates => some (store.batch candidates, .ok ())
  | .callStart => some (store, .ok ())
  | .join => some (store.join.1, .ok store.join.2)
  | .pumpTest => some (store, .ok (!store.snapshot.paused && store.onLine))
  | .beginDownload next =>
      some ((store.beginDownload next).1, .ok (store.beginDownload next).2)
  | .takeCancelled videoId =>
      some (store.takeCancelled videoId,
        .ok (videoId ∈ store.cancelledActiveVideoIds))
  | .downloadFailed code => some (store.downloadFailed code, .ok ())
  | .endDownload controller videoId =>
      some (store.endDownload controller videoId, .ok ())
  | .pumpEnded => some (store.pumpEnded, .ok ())
  | .settlePump pump outcome =>
      some ({ store with
        pumpPromise := none
        settled := (pump, outcome) :: store.settled }, .ok ())
  | .finishStart pump | .awaitPump pump =>
      (store.outcomeOf pump).map fun outcome => (store, outcome)
  | .never => none
  | .pause => some (store.pause, .ok ())
  | .abortActive =>
      match store.activeController with
      | some _ => some (store.pause.abort, .ok ())
      | none => some (store, .ok ())
  | .offline => some (store.offline, .ok ())
  | .online => some (store.online, .ok ())
  | .currentPump => some (store, .ok store.pumpPromise)
  | .cancelActive => some (store.cancelActive, .ok ())
  | .batchRecords =>
      some (store, .ok
        (if store.batchVideoIds.isSome then store.snapshot.records else []))
  | .inBatch videoId =>
      match store.batchVideoIds with
      | some videoIds => some (store, .ok (videoId ∈ videoIds))
      | none => some (store, .error .typeError)
  | .beginClear => some (store.beginClear, .ok ())
  | .cleared => some (store.cleared, .ok ())
  | .endClear => some (store.endClear, .ok ())
  | .removeResolved _ _ | .clearResolved => some (store, .ok ())

end QueueStore

/-- The queue, with what an observer notes of its calls. -/
def queueMachine {Phase Note : Type}
    (protocol : Protocol QueueCall QueueReply JsError Phase) (idle : Phase)
    (observe : Observer QueueCall QueueReply JsError QueueStore Note) :
    Machine QueueCall QueueReply JsError Phase (QueueStore × Note)
      OfflineDownloadQueue.QueueJob QueueChoice where
  protocol := protocol
  idle := idle
  program := OfflineDownloadQueue.program
  perform := noting QueueStore.perform observe

abbrev QueueLabel : Type := Label OfflineDownloadQueue.QueueJob QueueChoice

def sampleVideo : CatalogItem where
  id := 7
  title := "reel"
  contentType := "video/mp4"
  byteSize := 10
  createdAt := 0

def sampleDraw : QueueDraw where
  now := 5
  estimate := ⟨none, none, none, false⟩
  response := ⟨404, true, none, none, []⟩
  emits := false

def takes (thread : ThreadId) (steps : Nat) : List QueueLabel :=
  List.replicate steps (.step thread (.returns sampleDraw))

end OfflineReels.Offline
