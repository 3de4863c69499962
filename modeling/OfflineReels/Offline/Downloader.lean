import OfflineReels.Offline.MediaCache

namespace OfflineReels.Offline

open OfflineReels.Foundation
open OfflineReels.Foundation.Program
open OfflineReels.Instagram
open OfflineReels.Management (CatalogItem)

/-! The download of one video into the library. -/

/-- The response of the stream endpoint, with the sizes of its chunks. -/
structure FetchedResponse where
  status : Nat
  hasBody : Bool
  contentType : Option String
  contentLength : Option String
  chunks : List Nat
  deriving DecidableEq, Repr

structure LocalStorageEstimate where
  usage : Option Nat
  quota : Option Nat
  available : Option Nat
  isAvailable : Bool
  deriving DecidableEq, Repr

structure DownloadProgress where
  videoId : UUID
  downloadedBytes : Nat
  totalBytes : Option Nat
  deriving DecidableEq, Repr

inductive DownloadCall
  | browse (input : BrowserCall)
  | getStorageEstimate
  | fetch (videoId : UUID)
  /-- A chunk passes unless the signal is aborted. -/
  | transform (progress : DownloadProgress)
  | finishProgress (progress : DownloadProgress)
  | signalAborted

@[reducible] def DownloadReply : DownloadCall → Type
  | .browse input => BrowserReply input
  | .getStorageEstimate => LocalStorageEstimate
  | .fetch _ => FetchedResponse
  | .transform _ | .finishProgress _ => Unit
  | .signalAborted => Bool

abbrev Downloading (α : Type) : Type :=
  Program DownloadCall DownloadReply JsError α

namespace Downloader

def invoke (input : DownloadCall) : Downloading (DownloadReply input) :=
  perform input

def browsed {α : Type} (program : Browsing α) : Downloading α :=
  program.handle fun input => perform (.browse input)

def fail {α : Type} (code : OfflineErrorCode) : Downloading α :=
  raise (.offlineStorage code)

def MINIMUM_STORAGE_RESERVE_BYTES : Nat := 50 * 1024 * 1024

/-- `Math.ceil(downloadBytes * 1.2)` and the reserve -/
def calculateExpectedRequiredSpace (downloadBytes : Nat) : Nat :=
  (downloadBytes * 6 + 4) / 5 + MINIMUM_STORAGE_RESERVE_BYTES

def hasEstimatedSpaceForDownload (downloadBytes : Nat)
    (estimate : LocalStorageEstimate) : Bool :=
  estimate.available.all (calculateExpectedRequiredSpace downloadBytes ≤ ·)

def safeMessage : OfflineErrorCode → String
  | .networkError =>
      "Не удалось скачать видео. Проверьте подключение."
  | .storageQuotaExceeded =>
      "Недостаточно места. Удалите часть данных и повторите."
  | .unsupportedContentType =>
      "Формат видео не поддерживается."
  | .contentLengthMismatch | .byteSizeMismatch =>
      "Файл скачался некорректно. Повторите загрузку."
  | .downloadAborted => "Загрузка отменена."
  | .downloadInterrupted =>
      "Загрузка была прервана. Нажмите «Повторить»."
  | .cacheWriteFailed =>
      "Не удалось сохранить видео на устройстве."
  | .cacheValidationFailed =>
      "Сохранённый файл повреждён. Повторите загрузку."
  | _ => "Не удалось сохранить видео на устройстве."

/-- The value of decimal digits, none of which leads with a zero. -/
def parseContentLength : Option String →
    Except OfflineErrorCode (Option Nat)
  | none => .ok none
  | some header =>
      let digits := header.toList
      if digits = ['0'] ∨ (digits ≠ [] ∧ digits.head? ≠ some '0' ∧
          digits.all (·.isDigit)) then
        let value := digits.foldl
          (fun value digit => value * 10 + (digit.toNat - '0'.toNat)) 0
        if value ≤ MAX_SAFE_INTEGER then .ok (some value)
        else .error .contentLengthMismatch
      else .error .contentLengthMismatch

def assertVideoMetadata (video : CatalogItem) : Except OfflineErrorCode Unit :=
  if trim video.title.toList = [] ∨
      ¬ isAllowedVideoContentType video.contentType then
    .error .unsupportedContentType
  else if MAX_SAFE_INTEGER < video.byteSize ∨ video.byteSize = 0 then
    .error .byteSizeMismatch
  else .ok ()

def checked {α : Type} : Except OfflineErrorCode α → Downloading α
  | .ok value => pure value
  | .error code => fail code

/-- An error after an abort is the abort. -/
def normalizeDownloadError (error : JsError) (aborted : Bool) :
    OfflineErrorCode :=
  if aborted then .downloadAborted
  else match error with
    | .typeError => .networkError
    | error => toOfflineStorageError error .unknownError

def createQueuedRecord (video : CatalogItem) (timestamp : Time) :
    OfflineVideoRecord where
  id := video.id
  title := video.title
  contentType := "video/mp4"
  byteSize := video.byteSize
  createdAt := video.createdAt
  status := .queued
  downloadedBytes := 0
  downloadedAt := none
  cacheKey := none
  lastErrorCode := none
  lastErrorMessage := none
  failedAt := none
  lastWatchedAt := none
  viewedAt := none
  deleteAfter := none
  deletionState := none
  viewSyncState := none
  viewSyncAttempts := none
  lastViewReasonCode := none
  updatedAt := timestamp

def downloadingPatch (video : CatalogItem) : OfflineVideoPatch := fun record =>
  { record with
    title := video.title
    contentType := "video/mp4"
    byteSize := video.byteSize
    createdAt := video.createdAt
    status := .downloading
    downloadedBytes := 0
    downloadedAt := none
    cacheKey := none
    lastErrorCode := none
    lastErrorMessage := none
    failedAt := none }

def completedPatch (videoId : UUID) (byteSize : Nat) (downloadedAt : Time) :
    OfflineVideoPatch := fun record =>
  { record with
    status := .completed
    downloadedBytes := byteSize
    downloadedAt := some downloadedAt
    cacheKey := some (getMediaCacheKey videoId)
    lastErrorCode := none
    lastErrorMessage := none
    failedAt := none }

def failedPatch (code : OfflineErrorCode) (failedAt : Time) :
    OfflineVideoPatch := fun record =>
  { record with
    status := .failed
    downloadedBytes := 0
    downloadedAt := none
    cacheKey := none
    lastErrorCode := some code
    lastErrorMessage := some (safeMessage code)
    failedAt := some failedAt }

def now : Downloading Time := invoke (.browse .now)

def update (videoId : UUID) (patch : OfflineVideoPatch) :
    Downloading (Option StoredVideo) :=
  browsed (updateOfflineVideo videoId patch)

def markFailed (videoId : UUID) (code : OfflineErrorCode) :
    Downloading Unit := do
  let failedAt ← now
  let updated ← update videoId (failedPatch code failedAt)
  if updated.isNone then fail .unknownError

def stream (videoId : UUID) (totalBytes : Option Nat) :
    List Nat → Nat → Downloading Nat
  | [], downloadedBytes => pure downloadedBytes
  | chunk :: rest, downloadedBytes => do
      let _ : Unit ← invoke
        (.transform ⟨videoId, downloadedBytes + chunk, totalBytes⟩)
      stream videoId totalBytes rest (downloadedBytes + chunk)

/-- A partial body is removed again when the write fails. -/
def putOwnedResponse (videoId : UUID) (response : FetchedResponse)
    (totalBytes : Option Nat) : Downloading Nat :=
  (do
    let byteSize ← stream videoId totalBytes response.chunks 0
    let _ : Unit ← invoke (.browse (.putMedia (getMediaCacheKey videoId)
      ⟨response.contentType.getD "", byteSize⟩))
    return byteSize : Downloading Nat).attempt fun
    | .ok byteSize => pure byteSize
    | .error error =>
        (invoke (.browse (.deleteMedia (getMediaCacheKey videoId)))).attempt
          fun _ => fail (toOfflineStorageError error .cacheWriteFailed)

/-- A deletion whose error is passed over. -/
def discardMedia (videoId : UUID) : Downloading Unit :=
  (browsed (deleteCachedVideo videoId)).attempt fun _ => pure ()

def ensureOpen (videoId : UUID) : Downloading Unit := do
  let beforeCommit ← browsed (getOfflineVideo videoId)
  if beforeCommit.any (·.isTombstone) then
    discardMedia videoId
    fail .downloadAborted

def transfer (video : CatalogItem) : Downloading StoredVideo := do
  let response : FetchedResponse ← invoke (.fetch video.id)
  if response.status ≠ 200 then fail .httpError
  if ¬ response.hasBody then fail .responseBodyMissing
  if ¬ isAllowedVideoContentType (response.contentType.getD "") then
    fail .unsupportedContentType
  let contentLength ← checked (parseContentLength response.contentLength)
  if contentLength.any (· ≠ video.byteSize) then fail .contentLengthMismatch
  let byteSize ← putOwnedResponse video.id response contentLength
  let _ : Unit ← invoke (.finishProgress ⟨video.id, byteSize, contentLength⟩)
  if byteSize = 0 ∨ byteSize ≠ video.byteSize then fail .byteSizeMismatch
  let validation ← browsed (validateCachedVideo video.id
    ⟨some (getMediaCacheKey video.id), "video/mp4", video.byteSize⟩)
  if ¬ validation.isValid then fail .cacheValidationFailed
  ensureOpen video.id
  let downloadedAt ← now
  let completed ←
    update video.id (completedPatch video.id byteSize downloadedAt)
  match completed with
  | some completed => return completed
  | none => fail .unknownError

/-- A tombstone that came meanwhile is never turned into a failed record. -/
def abandon (videoId : UUID) (error : JsError) : Downloading StoredVideo := do
  let aborted : Bool ← invoke .signalAborted
  let normalized := normalizeDownloadError error aborted
  discardMedia videoId
  let current ← browsed (getOfflineVideo videoId)
  if current.any (·.isTombstone) then fail normalized
  (markFailed videoId normalized).attempt fun
    | .ok _ => fail normalized
    | .error error => fail (toOfflineStorageError error .unknownError)

/-- Space is looked for before the record is marked as downloading. -/
def begin (video : CatalogItem) : Downloading StoredVideo := do
  let estimate : LocalStorageEstimate ← invoke .getStorageEstimate
  if ¬ hasEstimatedSpaceForDownload video.byteSize estimate then
    markFailed video.id .storageQuotaExceeded
    fail .storageQuotaExceeded
  let _ ← update video.id (downloadingPatch video)
  (transfer video).rescue (fun _ => true) (abandon video.id)

def restart (video : CatalogItem) (existing : Option StoredVideo) :
    Downloading StoredVideo :=
  match existing with
  | some existing =>
      if existing.status = .completed then do
        let validation ←
          browsed (validateCachedVideo video.id existing.cachedMetadata)
        if validation.isValid then return existing
        discardMedia video.id
        begin video
      else begin video
  | none => do
      let timestamp ← now
      browsed (putOfflineVideo (createQueuedRecord video timestamp))
      begin video

/-- A video with a tombstone never comes back. -/
def downloadVideoForOffline (video : CatalogItem) :
    Downloading StoredVideo := do
  checked (assertVideoMetadata video)
  let existing ← browsed (getOfflineVideo video.id)
  if existing.any (·.isTombstone) then fail .downloadAborted
  else restart video existing

end Downloader

end OfflineReels.Offline
