import OfflineReels.Offline.MediaCache

namespace OfflineReels.Offline

open OfflineReels.Foundation
open OfflineReels.Foundation.Program
open OfflineReels.Instagram

/-! Reconciliation of the records with the media cache. -/

inductive ReconciliationScope
  | record
  | cache
  deriving DecidableEq, Repr

section

/-! The records of a listing have identifiers of their own, under which they
are stored. -/

variable {Key : Type}

structure ReconciliationError (Key : Type) where
  scope : ReconciliationScope
  videoId : Option Key
  code : OfflineErrorCode
  deriving DecidableEq, Repr

structure ReconciliationSummary (Key : Type) where
  interruptedMarkedFailed : Nat
  missingCacheMarkedFailed : Nat
  invalidCacheMarkedFailed : Nat
  orphanCacheEntriesDeleted : Nat
  validCompletedCount : Nat
  storageUnavailable : Bool
  errors : List (ReconciliationError Key)
  deriving DecidableEq, Repr

def emptySummary : ReconciliationSummary Key := ⟨0, 0, 0, 0, 0, false, []⟩

/-- A browser exception has no storage code. -/
def errorCode : JsError → OfflineErrorCode
  | .offlineStorage code => code
  | .domException _ | .typeError | .other => .unknownError

def ReconciliationSummary.withError (summary : ReconciliationSummary Key)
    (scope : ReconciliationScope) (videoId : Option Key) (error : JsError) :
    ReconciliationSummary Key :=
  { summary with
    errors := summary.errors ++ [⟨scope, videoId, errorCode error⟩] }

/-- An unavailable storage is reported apart from the errors. -/
def ReconciliationSummary.withFailure (summary : ReconciliationSummary Key)
    (scope : ReconciliationScope) (videoId : Option Key) (error : JsError) :
    ReconciliationSummary Key :=
  { summary.withError scope videoId error with
    storageUnavailable := summary.storageUnavailable ||
      errorCode error = .browserStorageUnavailable }

def failedMessage : OfflineErrorCode → String
  | .downloadInterrupted =>
      "The video download was interrupted before it finished."
  | _ => "The local video file could not be validated."

def failedPatch (code : OfflineErrorCode) (failedAt : Time) :
    OfflineVideoPatch := fun record =>
  { record with
    status := .failed
    downloadedBytes := 0
    downloadedAt := none
    cacheKey := none
    lastErrorCode := some code
    lastErrorMessage := some (failedMessage code)
    failedAt := some failedAt }

def markFailed (videoId : UUID) (code : OfflineErrorCode) :
    Browsing (Option StoredVideo) := do
  let failedAt : Time ← browse .now
  updateOfflineVideo videoId (failedPatch code failedAt)

/-- A failed deletion is noted, and goes no further. -/
def removeMedia (videoId : UUID) (key : Key)
    (summary : ReconciliationSummary Key) :
    Browsing (ReconciliationSummary Key) :=
  (deleteCachedVideo videoId).attempt fun
    | .ok _ => pure summary
    | .error error => pure (summary.withError .cache (some key) error)

abbrev Reconciled (Key : Type) : Type := ReconciliationSummary Key × List Key

structure Listed (Key : Type) where
  key : Key
  record : StoredVideo

def reconcileCompleted (listed : Listed Key)
    (summary : ReconciliationSummary Key) (validCompletedIds : List Key) :
    Browsing (Reconciled Key) := do
  let record := listed.record
  match ← validateCachedVideo record.id record.cachedMetadata with
  | .valid _ =>
      return ({ summary with
        validCompletedCount := summary.validCompletedCount + 1 },
        listed.key :: validCompletedIds)
  | .missing =>
      let _ ← markFailed record.id .cacheEntryMissing
      return ({ summary with
        missingCacheMarkedFailed := summary.missingCacheMarkedFailed + 1 },
        validCompletedIds)
  | .cacheKeyMismatch | .invalidContentType | .sizeMismatch =>
      let summary ← removeMedia record.id listed.key summary
      let _ ← markFailed record.id .cacheValidationFailed
      return ({ summary with
        invalidCacheMarkedFailed := summary.invalidCacheMarkedFailed + 1 },
        validCompletedIds)

def reconcileRecord (listed : Listed Key) (summary : ReconciliationSummary Key)
    (validCompletedIds : List Key) : Browsing (Reconciled Key) :=
  match listed.record.status with
  | .downloading => do
      let summary ← removeMedia listed.record.id listed.key summary
      let _ ← markFailed listed.record.id .downloadInterrupted
      return ({ summary with
        interruptedMarkedFailed := summary.interruptedMarkedFailed + 1 },
        validCompletedIds)
  | .completed => reconcileCompleted listed summary validCompletedIds
  | .queued | .failed | .deleted => pure (summary, validCompletedIds)

def reconcileRecords : List (Listed Key) → Reconciled Key →
    Browsing (Reconciled Key)
  | [], reconciled => pure reconciled
  | listed :: rest, (summary, validCompletedIds) =>
      (reconcileRecord listed summary validCompletedIds).attempt fun
        | .ok reconciled => reconcileRecords rest reconciled
        | .error error =>
            reconcileRecords rest
              (summary.withFailure .record (some listed.key) error,
                validCompletedIds)

variable [DecidableEq Key] (canonical : UUID → Key)

def removeOrphans (validCompletedIds : List Key) :
    List UUID → ReconciliationSummary Key →
      Browsing (ReconciliationSummary Key)
  | [], summary => pure summary
  | videoId :: rest, summary =>
      if canonical videoId ∈ validCompletedIds then
        removeOrphans validCompletedIds rest summary
      else
        (deleteCachedVideo videoId).attempt fun
          | .ok deleted =>
              removeOrphans validCompletedIds rest { summary with
                orphanCacheEntriesDeleted := summary.orphanCacheEntriesDeleted +
                  if deleted then 1 else 0 }
          | .error error =>
              removeOrphans validCompletedIds rest
                (summary.withError .cache (some (canonical videoId)) error)

/-- The records are listed once, before the media are looked at. -/
def reconcileListed (records : List (Listed Key)) :
    Browsing (ReconciliationSummary Key) := do
  let (summary, validCompletedIds) ← reconcileRecords records (emptySummary, [])
  listCachedVideoIds.attempt fun
    | .ok videoIds =>
        removeOrphans canonical validCompletedIds videoIds summary
    | .error error => pure (summary.withFailure .cache none error)

end

/-- Where every record is stored under the normal form of its identifier. -/
def reconcileOfflineLibrary : Browsing (ReconciliationSummary UUID) := do
  let records ← listOfflineVideos
  reconcileListed id (records.map fun record => ⟨record.id, record⟩)

/-! Deletion of one video and of the whole library.  The media go first. -/

/-- What has become of the media is recorded before the error is passed on. -/
def recoverAfterMetadataFailure {α : Type} (error : JsError) : Browsing α :=
  reconcileOfflineLibrary.attempt fun _ =>
    throwOffline (toOfflineStorageError error .unknownError)

def deleteOfflineLibraryVideo (videoId : UUID) : Browsing Unit := do
  let _ ← deleteCachedVideo videoId
  (deleteOfflineVideo videoId).rescue (fun _ => true)
    recoverAfterMetadataFailure

/-- A viewed record stays, with its outbox. -/
def clearOfflineLibrary : Browsing Unit := do
  let _ ← clearMediaCache
  (clearOfflineVideos true).rescue (fun _ => true) recoverAfterMetadataFailure

end OfflineReels.Offline
