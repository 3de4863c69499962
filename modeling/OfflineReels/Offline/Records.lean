import Mathlib.Algebra.GroupWithZero.Nat
import Mathlib.Data.List.Sort
import OfflineReels.Foundation.Table
import OfflineReels.Instagram.Contracts

namespace OfflineReels.Offline

open OfflineReels.Foundation
open OfflineReels.Instagram

/-! The record of a video in the offline library, and the check that every write
of one passes. -/

inductive OfflineVideoStatus
  | queued
  | downloading
  | completed
  | failed
  | deleted
  deriving DecidableEq, Repr

inductive OfflineErrorCode
  | networkError
  | httpError
  | responseBodyMissing
  | unsupportedContentType
  | contentLengthMismatch
  | byteSizeMismatch
  | cacheWriteFailed
  | cacheValidationFailed
  | storageQuotaExceeded
  | downloadAborted
  | downloadInterrupted
  | cacheEntryMissing
  | browserStorageUnavailable
  | invalidVideoId
  | unknownError
  deriving DecidableEq, Repr

inductive DeletionState
  | none
  | pending
  | deleting
  | deleted
  | failed
  deriving DecidableEq, Repr

inductive ViewSyncState
  | none
  | pending
  | synced
  deriving DecidableEq, Repr

inductive ViewReasonCode
  | cacheDeleteFailed
  deriving DecidableEq, Repr

/-- `/offline-media/<video id>` -/
structure MediaPath where
  videoId : UUID
  deriving DecidableEq, Repr

/-- The fields of a viewed video are absent in an old row. -/
structure OfflineVideoRecord where
  id : UUID
  title : String
  contentType : String
  byteSize : Nat
  createdAt : Time
  status : OfflineVideoStatus
  downloadedBytes : Nat
  downloadedAt : Option Time
  cacheKey : Option MediaPath
  lastErrorCode : Option OfflineErrorCode
  lastErrorMessage : Option String
  failedAt : Option Time
  lastWatchedAt : Option Time
  viewedAt : Option Time
  deleteAfter : Option Time
  deletionState : Option DeletionState
  viewSyncState : Option ViewSyncState
  viewSyncAttempts : Option Nat
  lastViewReasonCode : Option ViewReasonCode
  updatedAt : Time
  deriving DecidableEq, Repr

/-- A viewed video must not come back to the library. -/
def OfflineVideoRecord.isTombstone (record : OfflineVideoRecord) : Bool :=
  record.viewedAt.isSome || record.deletionState = some .deleted

/-- The white space that `String.prototype.trim` removes. -/
def isWhiteSpace (character : Char) : Bool :=
  let code := character.toNat
  (9 ≤ code && code ≤ 13) || code = 32 || code = 160 || code = 0x1680 ||
    (0x2000 ≤ code && code ≤ 0x200a) || code = 0x2028 || code = 0x2029 ||
    code = 0x202f || code = 0x205f || code = 0x3000 || code = 0xfeff

def trim (text : List Char) : List Char :=
  ((text.dropWhile isWhiteSpace).reverse.dropWhile isWhiteSpace).reverse

/-- The number of UTF-16 code units. -/
def utf16Length (text : List Char) : Nat :=
  (text.map fun character => if 0x10000 ≤ character.toNat then 2 else 1).sum

def isAllowedVideoContentType (contentType : String) : Bool :=
  (trim (contentType.toList.takeWhile (· ≠ ';'))).map Char.toLower =
    "video/mp4".toList

/-- 2 ^ 53 - 1 -/
def MAX_SAFE_INTEGER : Nat := 9007199254740991

/-- The checks in the order in which they raise. -/
def assertOfflineVideoRecord (record : OfflineVideoRecord) :
    Except OfflineErrorCode Unit :=
  if trim record.title.toList = [] ∨ 255 < utf16Length record.title.toList then
    .error .unknownError
  else if ¬ isAllowedVideoContentType record.contentType then
    .error .unsupportedContentType
  else if record.byteSize = 0 ∨ MAX_SAFE_INTEGER < record.byteSize then
    .error .byteSizeMismatch
  else if MAX_SAFE_INTEGER < record.downloadedBytes then
    .error .byteSizeMismatch
  else if record.viewedAt.isSome ∧ ¬ (record.viewedAt.any fun viewedAt =>
      record.deleteAfter.any fun deleteAfter => viewedAt ≤ deleteAfter) then
    .error .unknownError
  else if record.viewSyncAttempts.any (8 < ·) then
    .error .unknownError
  else if record.cacheKey.any (· ≠ ⟨record.id⟩) then
    .error .invalidVideoId
  else if record.lastErrorMessage.any fun message =>
      500 < utf16Length message.toList then
    .error .unknownError
  else if record.status = .completed ∧ (record.cacheKey.isNone ∨
      record.downloadedAt.isNone ∨ record.downloadedBytes ≠ record.byteSize) then
    .error .cacheValidationFailed
  else .ok ()

/-- A record as the library holds it: it has passed the check. -/
structure StoredVideo extends OfflineVideoRecord where
  accepted : assertOfflineVideoRecord toOfflineVideoRecord = .ok ()
  deriving DecidableEq

def accept (record : OfflineVideoRecord) :
    Except OfflineErrorCode StoredVideo :=
  match accepted : assertOfflineVideoRecord record with
  | .ok () => .ok ⟨record, accepted⟩
  | .error code => .error code

theorem accept_eq_ok {record : OfflineVideoRecord} {stored : StoredVideo}
    (passed : accept record = .ok stored) :
    stored.toOfflineVideoRecord = record := by
  unfold accept at passed
  split at passed
  · cases passed
    rfl
  · cases passed

theorem accept_of {record : OfflineVideoRecord}
    (accepted : assertOfflineVideoRecord record = .ok ()) :
    accept record = .ok ⟨record, accepted⟩ := by
  unfold accept
  split
  · rfl
  · rename_i code refused
    rw [accepted] at refused
    cases refused

theorem assertOfflineVideoRecord_eq_ok {record : OfflineVideoRecord} :
    assertOfflineVideoRecord record = .ok () ↔
      ¬ (trim record.title.toList = [] ∨
          255 < utf16Length record.title.toList) ∧
        isAllowedVideoContentType record.contentType = true ∧
        ¬ (record.byteSize = 0 ∨ MAX_SAFE_INTEGER < record.byteSize) ∧
        ¬ MAX_SAFE_INTEGER < record.downloadedBytes ∧
        ¬ (record.viewedAt.isSome ∧ ¬ (record.viewedAt.any fun viewedAt =>
          record.deleteAfter.any fun deleteAfter =>
            viewedAt ≤ deleteAfter)) ∧
        ¬ record.viewSyncAttempts.any (8 < ·) ∧
        ¬ record.cacheKey.any (· ≠ ⟨record.id⟩) ∧
        ¬ (record.lastErrorMessage.any fun message =>
          500 < utf16Length message.toList) ∧
        ¬ (record.status = .completed ∧ (record.cacheKey.isNone ∨
          record.downloadedAt.isNone ∨
            record.downloadedBytes ≠ record.byteSize)) := by
  unfold assertOfflineVideoRecord
  split_ifs <;> simp_all

/-- The fields that an update replaces; it keeps the identifier, and stamps the
record itself. -/
abbrev OfflineVideoPatch : Type := OfflineVideoRecord → OfflineVideoRecord

def applyPatch (existing : OfflineVideoRecord) (patch : OfflineVideoPatch)
    (now : Time) : OfflineVideoRecord :=
  { patch existing with
    id := existing.id
    updatedAt := now }

/-- One hour -/
def DELETE_DELAY : Time := 60 * 60 * 1000000

/-- The first view and its outbox entry. -/
def viewedRecord (existing : OfflineVideoRecord) (viewedAt : Time) :
    OfflineVideoRecord :=
  { existing with
    viewedAt := some viewedAt
    deleteAfter := some (viewedAt + DELETE_DELAY)
    deletionState := some .pending
    viewSyncState := some .pending
    viewSyncAttempts := some 0
    lastViewReasonCode := none
    updatedAt := viewedAt }

theorem viewedRecord_accepted (stored : StoredVideo) (viewedAt : Time) :
    assertOfflineVideoRecord (viewedRecord stored.toOfflineVideoRecord viewedAt) =
      .ok () := by
  have accepted := assertOfflineVideoRecord_eq_ok.mp stored.accepted
  rw [assertOfflineVideoRecord_eq_ok]
  obtain ⟨title, contentType, size, bytes, _, _, path, message, complete⟩ :=
    accepted
  exact ⟨title, contentType, size, bytes, by simp [viewedRecord],
    by simp [viewedRecord], path, message, complete⟩

def sortByUpdatedAt (left right : StoredVideo) : Prop :=
  right.updatedAt < left.updatedAt ∨
    (right.updatedAt = left.updatedAt ∧ right.id ≤ left.id)

instance : DecidableRel sortByUpdatedAt :=
  fun _ _ => inferInstanceAs (Decidable (_ ∨ _))

def sortRecords (records : List StoredVideo) : List StoredVideo :=
  records.insertionSort sortByUpdatedAt

@[simp] theorem mem_sortRecords {records : List StoredVideo}
    {record : StoredVideo} : record ∈ sortRecords records ↔ record ∈ records :=
  List.mem_insertionSort sortByUpdatedAt

abbrev Library : Type := Table StoredVideo UUID (·.id)

end OfflineReels.Offline
