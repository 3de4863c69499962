import OfflineReels.Foundation.Program
import OfflineReels.Management.Catalog
import OfflineReels.Offline.Records

namespace OfflineReels.Offline

open OfflineReels.Foundation
open OfflineReels.Instagram

/-! What the offline library calls: IndexedDB transactions, Cache Storage, the
control plane and the clock. -/

inductive DomExceptionName
  | quotaExceededError
  | abortError
  | securityError
  | invalidStateError
  | other
  deriving DecidableEq, Repr

/-- What a promise may be rejected with. -/
inductive JsError
  | offlineStorage (code : OfflineErrorCode)
  | domException (name : DomExceptionName)
  | typeError
  | other
  deriving DecidableEq, Repr

def toOfflineStorageError (error : JsError)
    (fallbackCode : OfflineErrorCode) : OfflineErrorCode :=
  match error with
  | .offlineStorage code => code
  | .domException .quotaExceededError => .storageQuotaExceeded
  | .domException .abortError => .downloadAborted
  | .domException .securityError | .domException .invalidStateError =>
      .browserStorageUnavailable
  | .domException .other | .typeError | .other => fallbackCode

/-- A response body in Cache Storage. -/
structure CachedMedia where
  contentType : String
  byteSize : Nat
  deriving DecidableEq, Repr

/-- The key of an entry of the media cache, canonical or not. -/
inductive CacheKey
  | media (path : MediaPath)
  | other (url : String)
  deriving DecidableEq, Repr

structure LocalReserve where
  deviceId : UUID
  deriving DecidableEq, Repr

inductive BrowserCall
  | getVideo (videoId : UUID)
  | getAllVideos
  | putVideo (record : StoredVideo)
  | deleteVideo (videoId : UUID)
  /-- The read and the write of the first view, in one transaction. -/
  | markVideoViewed (videoId : UUID) (viewedAt : Time)
  | clearVideos (preserveViewed : Bool)
  | matchMedia (path : MediaPath)
  | putMedia (path : MediaPath) (media : CachedMedia)
  | deleteMedia (path : MediaPath)
  | mediaKeys
  | deleteMediaCache
  | getLocalReserve
  | refreshManagementSession
  | getConfirmedViewedReels
  | syncViewedReels (deviceId : UUID) (events : List UUID)
  | isOnline
  | activeVideoId
  | now
  deriving DecidableEq

/-- What `markOfflineVideoViewed` answers. -/
structure ViewedOfflineVideo where
  record : StoredVideo
  newlyRecorded : Bool
  deriving DecidableEq

@[reducible] def BrowserReply : BrowserCall → Type
  | .getVideo _ => Option StoredVideo
  | .activeVideoId => Option UUID
  | .getAllVideos => List StoredVideo
  | .markVideoViewed .. => Option ViewedOfflineVideo
  | .matchMedia _ => Option CachedMedia
  | .deleteMedia _ | .deleteMediaCache => Bool
  | .mediaKeys => List CacheKey
  | .getLocalReserve => LocalReserve
  | .refreshManagementSession | .isOnline => Bool
  | .getConfirmedViewedReels | .syncViewedReels .. => List UUID
  | .now => Time
  | .putVideo _ | .deleteVideo _ | .clearVideos _ | .putMedia .. => Unit

abbrev Browsing (α : Type) : Type :=
  Program BrowserCall BrowserReply JsError α

def browse (request : BrowserCall) : Browsing (BrowserReply request) :=
  Program.perform request

/-- The entries of the media cache; a key has one at most. -/
abbrev MediaCache : Type :=
  Table (CacheKey × CachedMedia) CacheKey Prod.fst

structure Stores where
  library : Library
  media : MediaCache

namespace Stores

/-- Add or replace a record. -/
def putVideo (stores : Stores) (record : StoredVideo) : Stores :=
  { stores with library := stores.library.upsert record }

def deleteVideo (stores : Stores) (videoId : UUID) : Stores :=
  { stores with library := stores.library.filter (·.id ≠ videoId) }

def viewedVideo (stored : StoredVideo) (viewedAt : Time) : StoredVideo where
  toOfflineVideoRecord := viewedRecord stored.toOfflineVideoRecord viewedAt
  accepted := viewedRecord_accepted stored viewedAt

/-- The first view is kept. -/
def markVideoViewed (stores : Stores) (videoId : UUID) (viewedAt : Time) :
    Stores × Option ViewedOfflineVideo :=
  match stores.library.find? videoId with
  | none => (stores, none)
  | some existing =>
      if existing.viewedAt.isSome then (stores, some ⟨existing, false⟩)
      else
        let updated := viewedVideo existing viewedAt
        ({ stores with library := stores.library.upsert updated },
          some ⟨updated, true⟩)

theorem markVideoViewed_cases (stores : Stores) (videoId : UUID)
    (viewedAt : Time) :
    (stores.markVideoViewed videoId viewedAt).1 = stores ∨
      ∃ existing, stores.library.find? videoId = some existing ∧
        existing.viewedAt = none ∧
        (stores.markVideoViewed videoId viewedAt).1 =
          { stores with
            library := stores.library.upsert (viewedVideo existing viewedAt) } := by
  unfold markVideoViewed
  split
  · exact .inl rfl
  · rename_i existing found
    cases seen : existing.viewedAt with
    | some first => exact .inl rfl
    | none => exact .inr ⟨existing, found, seen, rfl⟩

/-- Viewed records are tombstones, which a clear may preserve. -/
def clearVideos (stores : Stores) (preserveViewed : Bool) : Stores :=
  { stores with
    library := stores.library.filter fun record =>
      preserveViewed && record.viewedAt.isSome }

def putMedia (stores : Stores) (path : MediaPath) (media : CachedMedia) :
    Stores :=
  { stores with media := stores.media.upsert (.media path, media) }

def deleteMedia (stores : Stores) (path : MediaPath) : Stores × Bool :=
  ({ stores with media := stores.media.filter (·.1 ≠ .media path) },
    (stores.media.find? (.media path)).isSome)

end Stores

/-- An entry of a `Map` takes the place of an earlier one with its key. -/
def replaceOrAppend (video : Management.CatalogItem) :
    List Management.CatalogItem → List Management.CatalogItem
  | [] => [video]
  | other :: rest =>
      if other.id = video.id then video :: rest
      else other :: replaceOrAppend video rest

/-- `new Map(videos.map((video) => [video.id, video])).values()` -/
def uniqueVideos (videos : List Management.CatalogItem) :
    List Management.CatalogItem :=
  videos.foldl (fun unique video => replaceOrAppend video unique) []

end OfflineReels.Offline
