import OfflineReels.Offline.Reconciliation

namespace OfflineReels.Offline

open OfflineReels.Foundation
open OfflineReels.Foundation.Program
open OfflineReels.Instagram

/-! The lifecycle of a viewed video: its outbox, and its deletion when due. -/

def MAX_SYNC_ATTEMPTS : Nat := 5

def MAX_SYNC_BATCH : Nat := 50

/-- A handler for everything that is thrown. -/
def orElse (program : Browsing Unit) (handler : Browsing Unit) :
    Browsing Unit :=
  program.rescue (fun _ => true) fun _ => handler

def isPending (record : OfflineVideoRecord) : Bool :=
  record.viewSyncState = some .pending &&
    record.viewSyncAttempts.getD 0 < MAX_SYNC_ATTEMPTS

/-- The events of the next request. -/
def outbox (records : List StoredVideo) : List StoredVideo :=
  (records.filter (isPending ·.toOfflineVideoRecord)).take MAX_SYNC_BATCH

def syncedPatch : OfflineVideoPatch := fun record =>
  { record with viewSyncState := some .synced }

/-- One more attempt than the listed record had. -/
def attemptedPatch (listed : OfflineVideoRecord) : OfflineVideoPatch :=
  fun record =>
    { record with
      viewSyncAttempts :=
        some (min MAX_SYNC_ATTEMPTS (listed.viewSyncAttempts.getD 0 + 1)) }

/-- The updates concern different records, so they are made in turn. -/
def updateAll (patch : StoredVideo → OfflineVideoPatch) :
    List StoredVideo → Browsing Unit
  | [] => pure ()
  | record :: rest => do
      let _ ← updateOfflineVideo record.id (patch record)
      updateAll patch rest

def markConfirmed (confirmed : List UUID) : List StoredVideo → Browsing Unit
  | [] => pure ()
  | record :: rest => do
      if record.id ∈ confirmed && record.viewedAt.isNone then
        let viewedAt : Time ← browse .now
        let _ ← markOfflineVideoViewed record.id viewedAt
      markConfirmed confirmed rest

/-- Pairing again must not revive a video that the server knows as viewed. -/
def adoptConfirmed : Browsing Unit :=
  orElse (do
    let confirmed : List UUID ← browse .getConfirmedViewedReels
    let records ← listOfflineVideos
    markConfirmed confirmed records) (pure ())

def resultPatch (confirmed : List UUID) (record : StoredVideo) :
    OfflineVideoPatch :=
  if record.id ∈ confirmed then syncedPatch
  else attemptedPatch record.toOfflineVideoRecord

def sendOutbox (settings : LocalReserve) (pending : List StoredVideo) :
    Browsing Unit :=
  orElse (do
    let paired : Bool ← browse .refreshManagementSession
    if paired then
      let confirmed : List UUID ←
        browse (.syncViewedReels settings.deviceId (pending.map (·.id)))
      updateAll (resultPatch confirmed) pending)
    (updateAll (fun record => attemptedPatch record.toOfflineVideoRecord)
      pending)

def syncOutbox : Browsing Unit := do
  let online : Bool ← browse .isOnline
  if online then
    adoptConfirmed
    let settings : LocalReserve ← browse .getLocalReserve
    let records ← listOfflineVideos
    if outbox records ≠ [] then
      sendOutbox settings (outbox records)

def isDue (now : Time) (record : OfflineVideoRecord) : Bool :=
  record.viewedAt.isSome && record.deleteAfter.any (· ≤ now) &&
    record.deletionState ≠ some .deleted

def deletingPatch : OfflineVideoPatch := fun record =>
  { record with
    deletionState := some .deleting
    lastViewReasonCode := none }

def deletedPatch : OfflineVideoPatch := fun record =>
  { record with
    status := .deleted
    cacheKey := none
    downloadedBytes := 0
    downloadedAt := none
    deletionState := some .deleted
    lastViewReasonCode := none }

def deletionFailedPatch : OfflineVideoPatch := fun record =>
  { record with
    deletionState := some .failed
    lastViewReasonCode := some .cacheDeleteFailed }

/-- An object that is absent already counts as deleted. -/
def deleteViewed (videoId : UUID) : Browsing Unit := do
  let _ ← updateOfflineVideo videoId deletingPatch
  orElse (do
    let _ ← deleteCachedVideo videoId
    let _ ← updateOfflineVideo videoId deletedPatch) (do
    let _ ← updateOfflineVideo videoId deletionFailedPatch)

/-- The video that is playing is left for later. -/
def deleteDue (now : Time) : List StoredVideo → Browsing Unit
  | [] => pure ()
  | record :: rest => do
      if isDue now record.toOfflineVideoRecord then
        let active : Option UUID ← browse .activeVideoId
        if active ≠ some record.id then
          deleteViewed record.id
      deleteDue now rest

def lifecycleRun : Browsing Unit := do
  syncOutbox
  let now : Time ← browse .now
  let records ← listOfflineVideos
  deleteDue now records
  let _ ← reconcileOfflineLibrary

def recordViewed (videoId : UUID) : Browsing Bool := do
  let viewedAt : Time ← browse .now
  let record ← markOfflineVideoViewed videoId viewedAt
  return record.any (·.newlyRecorded)

end OfflineReels.Offline
