import OfflineReels.Offline.Repository

namespace OfflineReels.Offline

open OfflineReels.Foundation
open OfflineReels.Foundation.Program
open OfflineReels.Instagram

/-! The media cache. -/

def getMediaCacheKey (videoId : UUID) : MediaPath := ⟨videoId⟩

/-- What Cache Storage raises, as a storage error with its own fallback. -/
def withMediaCache {α : Type} (fallbackCode : OfflineErrorCode)
    (operation : Browsing α) : Browsing α :=
  operation.attempt fun
    | .ok value => pure value
    | .error error => throwOffline (toOfflineStorageError error fallbackCode)

def getCachedVideo (videoId : UUID) : Browsing (Option CachedMedia) :=
  withMediaCache .browserStorageUnavailable
    (browse (.matchMedia (getMediaCacheKey videoId)))

def deleteCachedVideo (videoId : UUID) : Browsing Bool :=
  withMediaCache .cacheWriteFailed
    (browse (.deleteMedia (getMediaCacheKey videoId)))

def canonicalIds (keys : List CacheKey) : List UUID :=
  (keys.filterMap fun
    | .media path => some path.videoId
    | .other _ => none).insertionSort (· ≤ ·)

def listCachedVideoIds : Browsing (List UUID) :=
  withMediaCache .browserStorageUnavailable do
    let keys : List CacheKey ← browse .mediaKeys
    return canonicalIds keys

def clearMediaCache : Browsing Bool :=
  withMediaCache .browserStorageUnavailable (browse .deleteMediaCache)

/-- A partial body is removed again when the write fails. -/
def putCachedVideoOwnedResponse (videoId : UUID) (response : CachedMedia) :
    Browsing Unit :=
  if ¬ isAllowedVideoContentType response.contentType then
    throwOffline .unsupportedContentType
  else
    (browse (.putMedia (getMediaCacheKey videoId) response)).attempt fun
      | .ok _ => pure ()
      | .error error =>
          (browse (.deleteMedia (getMediaCacheKey videoId))).attempt fun _ =>
            throwOffline (toOfflineStorageError error .cacheWriteFailed)

inductive CachedVideoValidation
  | valid (byteSize : Nat)
  | missing
  | cacheKeyMismatch
  | invalidContentType
  | sizeMismatch
  deriving DecidableEq, Repr

def CachedVideoValidation.isValid : CachedVideoValidation → Bool
  | .valid _ => true
  | _ => false

structure CachedVideoMetadata where
  cacheKey : Option MediaPath
  contentType : String
  byteSize : Nat
  deriving DecidableEq, Repr

def OfflineVideoRecord.cachedMetadata (record : OfflineVideoRecord) :
    CachedVideoMetadata where
  cacheKey := record.cacheKey
  contentType := record.contentType
  byteSize := record.byteSize

def validation (expected : CachedVideoMetadata) :
    Option CachedMedia → CachedVideoValidation
  | none => .missing
  | some cached =>
      if ¬ isAllowedVideoContentType cached.contentType then .invalidContentType
      else if cached.byteSize ≠ expected.byteSize then .sizeMismatch
      else .valid cached.byteSize

def validateCachedVideo (videoId : UUID) (expected : CachedVideoMetadata) :
    Browsing CachedVideoValidation :=
  if expected.cacheKey ≠ some (getMediaCacheKey videoId) then
    pure .cacheKeyMismatch
  else if ¬ isAllowedVideoContentType expected.contentType then
    pure .invalidContentType
  else do
    let cached ← getCachedVideo videoId
    return validation expected cached

end OfflineReels.Offline
