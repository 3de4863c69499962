import OfflineReels.Foundation.Protocol
import OfflineReels.Offline.DownloadQueue

namespace OfflineReels.Offline.DownloadMarks

open OfflineReels.Foundation
open OfflineReels.Foundation.Program
open OfflineReels.Instagram
open OfflineReels.Management (CatalogItem)

/-! Whether a download takes its record out of the queue, and with which errors
it fails. -/

def isPausing (code : OfflineErrorCode) : Bool :=
  code = .storageQuotaExceeded || code = .downloadAborted

/-- The queue pauses after a download that fails with the error. -/
def pauses (error : JsError) : Bool :=
  isPausing (toOfflineStorageError error .unknownError)

theorem pauses_offlineStorage (code : OfflineErrorCode) :
    pauses (.offlineStorage code) = isPausing code := rfl

theorem isPausing_fallback (error : JsError) {fallback : OfflineErrorCode}
    (calm : isPausing fallback = false) :
    isPausing (toOfflineStorageError error fallback) = pauses error := by
  unfold pauses
  cases error with
  | domException name =>
      cases name
      all_goals first | rfl | exact calm
  | offlineStorage code => rfl
  | typeError => exact calm
  | other => exact calm

/-! The phase tells whether the record may still be queued.  A strict run is one in
which nothing is viewed meanwhile and no error pauses. -/

section

variable (videoId : UUID) (strict : Bool)

def permitsBrowse (waiting : Bool) : BrowserCall → Prop
  | .getVideo requested => requested = videoId
  | .putVideo record =>
      record.id = videoId ∧ (record.status = .queued → waiting = false)
  | .matchMedia _ | .putMedia _ _ | .deleteMedia _ | .now => True
  | _ => False

def assumesBrowse (waiting : Bool) (input : BrowserCall)
    (reply : Except JsError (BrowserReply input)) : Prop :=
  (match input, reply with
    | .getVideo requested, .ok found => ∀ record ∈ found,
        record.id = requested ∧ (record.status = .queued → waiting = true) ∧
          (strict = true → record.isTombstone = false)
    | .getVideo _, .error _ | .now, .error _ => False
    | _, _ => True) ∧
    (strict = true → ∀ error, reply = .error error → pauses error = false)

def advanceBrowse (waiting : Bool) (input : BrowserCall)
    (reply : Except JsError (BrowserReply input)) : Bool :=
  match input, reply with
  | .getVideo _, .ok found => found.any (·.status = .queued)
  | .putVideo record, .ok _ => record.status = .queued
  | .putVideo _, .error error => waiting && pauses error
  | _, _ => waiting

def browseProtocol : Protocol BrowserCall BrowserReply JsError Bool where
  permits := permitsBrowse videoId
  assumes := assumesBrowse strict
  advance := advanceBrowse

def permitsDownload (waiting : Bool) : DownloadCall → Prop
  | .browse input => permitsBrowse videoId waiting input
  | _ => True

def assumesDownload (byteSize : Nat) (waiting : Bool) (input : DownloadCall)
    (reply : Except JsError (DownloadReply input)) : Prop :=
  match input, reply with
  | .browse input, reply => assumesBrowse strict waiting input reply
  | .getStorageEstimate, .ok estimate => strict = true →
      Downloader.hasEstimatedSpaceForDownload byteSize estimate = true
  | .getStorageEstimate, .error _ => False
  | .signalAborted, .ok aborted => strict = true → aborted = false
  | _, reply =>
      strict = true → ∀ error, reply = .error error → pauses error = false

def advanceDownload (waiting : Bool) (input : DownloadCall)
    (reply : Except JsError (DownloadReply input)) : Bool :=
  match input, reply with
  | .browse input, reply => advanceBrowse waiting input reply
  | _, _ => waiting

def downloadProtocol (byteSize : Nat) :
    Protocol DownloadCall DownloadReply JsError Bool where
  permits := permitsDownload videoId
  assumes := assumesDownload strict byteSize
  advance := advanceDownload

end

section

variable {videoId : UUID} {strict : Bool} {byteSize : Nat} {α β : Type}

theorem follows_browsed {program : Browsing α} {waiting : Bool}
    {post : Except JsError α → Bool → Prop}
    (follows : Follows (browseProtocol videoId strict) waiting program post) :
    Follows (downloadProtocol videoId strict byteSize) waiting
      (Downloader.browsed program) post := by
  refine Follows.handle ?_ follows
  intro waiting input permitted
  exact ⟨permitted, fun _ assumed => ⟨assumed, rfl⟩⟩

/-! The phase goes to false, or the program fails with an error that pauses. -/

def Marks (outcome : Except JsError α) (waiting : Bool) : Prop :=
  waiting = false ∨ ∃ error, outcome = .error error ∧ pauses error = true

theorem marks_error {error : JsError} {waiting : Bool}
    (marks : Marks (.error error : Except JsError α) waiting) :
    Marks (.error error : Except JsError β) waiting := by
  rcases marks with marked | ⟨raised, same, stops⟩
  · exact .inl marked
  · cases same
    exact .inr ⟨error, rfl, stops⟩

def Dequeues (patch : OfflineVideoPatch) : Prop :=
  ∀ record, (patch record).status ≠ .queued

def Acceptable (patch : OfflineVideoPatch) : Prop :=
  ∀ (stored : StoredVideo) now, assertOfflineVideoRecord
    (applyPatch stored.toOfflineVideoRecord patch now) = .ok ()

theorem withOfflineDatabase_marks {operation : Browsing α} {waiting : Bool}
    (marks : Follows (browseProtocol videoId strict) waiting operation Marks) :
    Follows (browseProtocol videoId strict) waiting
      (withOfflineDatabase operation) Marks := by
  refine marks.attempt fun outcome reached kept => ?_
  cases outcome with
  | ok value =>
      rcases kept with marked | ⟨_, same, _⟩
      · exact .inl marked
      · cases same
  | error error =>
      rcases kept with marked | ⟨_, same, stops⟩
      · exact .inl marked
      · cases same
        refine .inr ⟨_, rfl, ?_⟩
        rw [pauses_offlineStorage]
        exact stops

theorem writePatched_marks {patch : OfflineVideoPatch}
    (dequeues : Dequeues patch) (acceptable : Acceptable patch)
    {found : Option StoredVideo}
    (here : ∀ record ∈ found, record.id = videoId) :
    Follows (browseProtocol videoId strict) (found.any (·.status = .queued))
      (writePatched patch found) Marks := by
  cases found with
  | none => exact .inl rfl
  | some existing =>
      refine ⟨trivial, fun reply timed => ?_⟩
      cases reply with
      | error error => exact timed.1.elim
      | ok now =>
          have accepted := accept_of (acceptable existing now)
          have apart : (applyPatch existing.toOfflineVideoRecord patch
              now).status ≠ .queued := dequeues existing.toOfflineVideoRecord
          simp only [attempt_done, accepted, orThrow]
          refine ⟨⟨here existing rfl, fun queued => absurd queued apart⟩,
            fun reply _ => ?_⟩
          cases reply with
          | ok _ => exact .inl (decide_eq_false apart)
          | error error =>
              cases stops : pauses error with
              | true => exact .inr ⟨error, rfl, stops⟩
              | false =>
                  left
                  simp [browseProtocol, advanceBrowse, stops]

theorem updateOfflineVideo_marks {patch : OfflineVideoPatch}
    (dequeues : Dequeues patch) (acceptable : Acceptable patch)
    (waiting : Bool) :
    Follows (browseProtocol videoId strict) waiting
      (updateOfflineVideo videoId patch) Marks := by
  refine withOfflineDatabase_marks ⟨rfl, fun reply assumed => ?_⟩
  cases reply with
  | error error => exact assumed.1.elim
  | ok found =>
      exact writePatched_marks dequeues acceptable
        fun record member => (assumed.1 record member).1

theorem lookup_follows :
    Follows (browseProtocol videoId strict) false (browse (.getVideo videoId))
      fun outcome reached => reached = false ∧ ∃ found, outcome = .ok found ∧
        ∀ record ∈ found, record.id = videoId := by
  refine ⟨rfl, fun reply assumed => ?_⟩
  cases reply with
  | error error => exact assumed.1.elim
  | ok found =>
      refine ⟨?_, found, rfl, fun record member => (assumed.1 record member).1⟩
      change found.any (·.status = .queued) = false
      cases found with
      | none => rfl
      | some record =>
          have stays := (assumed.1 record rfl).2.1
          refine decide_eq_false fun queued => ?_
          cases stays queued

theorem withOfflineDatabase_rests {operation : Browsing α}
    (rests : Rests (browseProtocol videoId strict) false operation) :
    Rests (browseProtocol videoId strict) false
      (withOfflineDatabase operation) := by
  refine rests.attempt fun outcome => ?_
  cases outcome with
  | ok value => exact rests_pure _
  | error error => exact rests_raise _

theorem withMediaCache_rests {fallback : OfflineErrorCode}
    {operation : Browsing α}
    (rests : Rests (browseProtocol videoId strict) false operation) :
    Rests (browseProtocol videoId strict) false
      (withMediaCache fallback operation) := by
  refine rests.attempt fun outcome => ?_
  cases outcome with
  | ok value => exact rests_pure _
  | error error => exact rests_raise _

theorem getOfflineVideo_rests :
    Rests (browseProtocol videoId strict) false (getOfflineVideo videoId) :=
  withOfflineDatabase_rests (lookup_follows.mono fun _ _ kept => kept.1)

theorem putVideo_rests {record : StoredVideo} (same : record.id = videoId)
    (apart : record.status ≠ .queued) :
    Rests (browseProtocol videoId strict) false (browse (.putVideo record)) := by
  refine rests_perform ⟨same, fun _ => rfl⟩ fun reply => ?_
  cases reply with
  | ok _ => exact decide_eq_false apart
  | error error => rfl

theorem writePatched_rests {patch : OfflineVideoPatch}
    (dequeues : Dequeues patch) {found : Option StoredVideo}
    (here : ∀ record ∈ found, record.id = videoId) :
    Rests (browseProtocol videoId strict) false (writePatched patch found) := by
  cases found with
  | none => exact rests_pure _
  | some existing =>
      refine Rests.bind (rests_perform trivial fun reply => rfl) fun now => ?_
      cases passed : accept (applyPatch existing.toOfflineVideoRecord patch
          now) with
      | error code => exact rests_done _
      | ok updated =>
          have written := accept_eq_ok passed
          have apart : updated.status ≠ .queued := by
            rw [written]
            exact dequeues existing.toOfflineVideoRecord
          have same : updated.id = videoId := by
            rw [written]
            exact here existing rfl
          have put : Rests (browseProtocol videoId strict) false
              (browse (.putVideo updated)) := putVideo_rests same apart
          exact put.bind fun _ => rests_pure (some updated)

theorem updateOfflineVideo_rests {patch : OfflineVideoPatch}
    (dequeues : Dequeues patch) :
    Rests (browseProtocol videoId strict) false
      (updateOfflineVideo videoId patch) := by
  refine withOfflineDatabase_rests (lookup_follows.bind ?_ ?_)
  · intro found reached ⟨marked, _, same, here⟩
    cases same
    subst marked
    exact writePatched_rests dequeues here
  · exact fun _ _ kept => kept.1

theorem validateCachedVideo_rests (expected : CachedVideoMetadata) :
    Rests (browseProtocol videoId strict) false
      (validateCachedVideo videoId expected) := by
  unfold validateCachedVideo
  split
  · exact rests_pure _
  · split
    · exact rests_pure _
    · refine Rests.bind (withMediaCache_rests ?_) fun _ => rests_pure _
      exact rests_perform trivial fun _ => rfl

theorem deleteCachedVideo_rests :
    Rests (browseProtocol videoId strict) false (deleteCachedVideo videoId) := by
  refine withMediaCache_rests ?_
  exact rests_perform trivial fun _ => rfl

theorem rests_browsed {program : Browsing α}
    (rests : Rests (browseProtocol videoId strict) false program) :
    Rests (downloadProtocol videoId strict byteSize) false
      (Downloader.browsed program) :=
  follows_browsed rests

theorem rests_ite {condition : Prop} [Decidable condition]
    {first second : Downloading α}
    (whenTrue : Rests (downloadProtocol videoId strict byteSize) false first)
    (whenFalse : Rests (downloadProtocol videoId strict byteSize) false
      second) :
    Rests (downloadProtocol videoId strict byteSize) false
      (if condition then first else second) := by
  split
  · exact whenTrue
  · exact whenFalse

theorem rests_guard {condition : Prop} {decidable : Decidable condition}
    {code : OfflineErrorCode} {next : Unit → Downloading α}
    (goes : Rests (downloadProtocol videoId strict byteSize) false (next ())) :
    Rests (downloadProtocol videoId strict byteSize) false
      (if condition then Downloader.fail code >>= next else next ()) := by
  split
  · exact rests_raise _
  · exact goes

theorem rests_checked (outcome : Except OfflineErrorCode α) :
    Rests (downloadProtocol videoId strict byteSize) false
      (Downloader.checked outcome) := by
  cases outcome with
  | ok value => exact rests_pure _
  | error code => exact rests_raise _

theorem now_rests :
    Rests (downloadProtocol videoId strict byteSize) false Downloader.now :=
  rests_perform trivial fun _ => rfl

theorem failedPatch_dequeues (code : OfflineErrorCode) (failedAt : Time) :
    Dequeues (Downloader.failedPatch code failedAt) :=
  fun _ => nofun

theorem discardMedia_rests :
    Rests (downloadProtocol videoId strict byteSize) false
      (Downloader.discardMedia videoId) :=
  (rests_browsed deleteCachedVideo_rests).attempt fun _ => rests_pure _

theorem markFailed_rests (code : OfflineErrorCode) :
    Rests (downloadProtocol videoId strict byteSize) false
      (Downloader.markFailed videoId code) := by
  refine now_rests.bind fun failedAt => ?_
  refine Rests.bind (rests_browsed
    (updateOfflineVideo_rests (failedPatch_dequeues code failedAt)))
    fun updated => ?_
  exact rests_ite (rests_raise _) (rests_pure _)

theorem stream_rests (totalBytes : Option Nat) (chunks : List Nat)
    (downloadedBytes : Nat) :
    Rests (downloadProtocol videoId strict byteSize) false
      (Downloader.stream videoId totalBytes chunks downloadedBytes) := by
  induction chunks generalizing downloadedBytes with
  | nil => exact rests_pure _
  | cons chunk rest ih =>
      exact Rests.bind (rests_perform trivial fun _ => rfl) fun _ => ih _

theorem putOwnedResponse_rests (response : FetchedResponse)
    (totalBytes : Option Nat) :
    Rests (downloadProtocol videoId strict byteSize) false
      (Downloader.putOwnedResponse videoId response totalBytes) := by
  refine Rests.attempt ?_ fun outcome => ?_
  · refine (stream_rests totalBytes response.chunks 0).bind fun _ => ?_
    exact Rests.bind (rests_perform trivial fun _ => rfl) fun _ => rests_pure _
  · cases outcome with
    | ok byteSize => exact rests_pure _
    | error error =>
        exact Rests.attempt (rests_perform trivial fun _ => rfl)
          fun _ => rests_raise _

theorem ensureOpen_rests :
    Rests (downloadProtocol videoId strict byteSize) false
      (Downloader.ensureOpen videoId) := by
  refine (rests_browsed getOfflineVideo_rests).bind fun beforeCommit => ?_
  exact rests_ite (discardMedia_rests.bind fun _ => rests_raise _)
    (rests_pure _)

theorem completedPatch_dequeues (downloaded : Nat) (downloadedAt : Time) :
    Dequeues (Downloader.completedPatch videoId downloaded downloadedAt) :=
  fun _ => nofun

theorem transfer_rests {video : CatalogItem} (same : video.id = videoId) :
    Rests (downloadProtocol videoId strict byteSize) false
      (Downloader.transfer video) := by
  subst same
  unfold Downloader.transfer
  refine Rests.bind (rests_perform trivial fun _ => rfl) fun response => ?_
  refine rests_guard ?_
  refine rests_guard ?_
  refine rests_guard ?_
  refine (rests_checked _).bind fun contentLength => ?_
  refine rests_guard ?_
  refine (putOwnedResponse_rests _ _).bind fun downloaded => ?_
  refine Rests.bind (rests_perform trivial fun _ => rfl) fun _ => ?_
  refine rests_guard ?_
  refine (rests_browsed (validateCachedVideo_rests _)).bind fun checked => ?_
  refine rests_guard ?_
  refine ensureOpen_rests.bind fun _ => ?_
  refine now_rests.bind fun downloadedAt => ?_
  refine Rests.bind (rests_browsed (updateOfflineVideo_rests
    (completedPatch_dequeues downloaded downloadedAt))) fun completed => ?_
  cases completed with
  | none => exact rests_raise _
  | some completed => exact rests_pure _

theorem abandon_rests (error : JsError) :
    Rests (downloadProtocol videoId strict byteSize) false
      (Downloader.abandon videoId error) := by
  refine Rests.bind (rests_perform trivial fun _ => rfl) fun aborted => ?_
  refine discardMedia_rests.bind fun _ => ?_
  refine (rests_browsed getOfflineVideo_rests).bind fun current => ?_
  refine rests_guard ?_
  refine (markFailed_rests _).attempt fun outcome => ?_
  cases outcome with
  | ok _ => exact rests_raise _
  | error error => exact rests_raise _

end

theorem safeMessage_short (code : OfflineErrorCode) :
    ¬ 500 < utf16Length (Downloader.safeMessage code).toList := by
  unfold Downloader.safeMessage
  split <;> decide +kernel

theorem failedPatch_acceptable (code : OfflineErrorCode) (failedAt : Time) :
    Acceptable (Downloader.failedPatch code failedAt) := by
  intro stored now
  have accepted := assertOfflineVideoRecord_eq_ok.mp stored.accepted
  obtain ⟨title, contentType, size, _, viewed, attempts, _, _, _⟩ := accepted
  have short := safeMessage_short code
  rw [assertOfflineVideoRecord_eq_ok]
  exact ⟨title, contentType, size, by simp [applyPatch, Downloader.failedPatch],
    viewed, attempts, by simp [applyPatch, Downloader.failedPatch],
    by simpa [applyPatch, Downloader.failedPatch] using short,
    by simp [applyPatch, Downloader.failedPatch]⟩

theorem downloadingPatch_acceptable (next : StoredVideo) :
    Acceptable (Downloader.downloadingPatch
      (OfflineDownloadQueue.videoOf next.toOfflineVideoRecord)) := by
  intro stored now
  have own := assertOfflineVideoRecord_eq_ok.mp next.accepted
  have accepted := assertOfflineVideoRecord_eq_ok.mp stored.accepted
  obtain ⟨title, _, size, _⟩ := own
  obtain ⟨_, _, _, _, viewed, attempts, _, _, _⟩ := accepted
  have mp4 : isAllowedVideoContentType "video/mp4" = true := by decide
  rw [assertOfflineVideoRecord_eq_ok]
  exact ⟨title, mp4, size, by simp [applyPatch, Downloader.downloadingPatch],
    viewed, attempts, by simp [applyPatch, Downloader.downloadingPatch],
    by simp [applyPatch, Downloader.downloadingPatch],
    by simp [applyPatch, Downloader.downloadingPatch]⟩

theorem downloadingPatch_dequeues (video : CatalogItem) :
    Dequeues (Downloader.downloadingPatch video) :=
  fun _ => nofun

theorem assertVideoMetadata_stored (next : StoredVideo) :
    Downloader.assertVideoMetadata
      (OfflineDownloadQueue.videoOf next.toOfflineVideoRecord) = .ok () := by
  have own := assertOfflineVideoRecord_eq_ok.mp next.accepted
  obtain ⟨title, contentType, size, _⟩ := own
  unfold Downloader.assertVideoMetadata OfflineDownloadQueue.videoOf
  rw [if_neg, if_neg]
  · intro refused
    exact size refused.symm
  · intro refused
    rcases refused with empty | disallowed
    · exact title (.inl empty)
    · exact disallowed contentType

section

variable {videoId : UUID} {strict : Bool} {byteSize : Nat} {α : Type}

theorem marks_of_rests {program : Downloading α}
    (rests : Rests (downloadProtocol videoId strict byteSize) false program) :
    Follows (downloadProtocol videoId strict byteSize) false program Marks :=
  rests.mono fun _ _ same => .inl same

theorem marks_bind {β : Type} {program : Downloading α}
    {next : α → Downloading β} {waiting : Bool}
    (first : Follows (downloadProtocol videoId strict byteSize) waiting program
      Marks)
    (rests : ∀ value, Rests (downloadProtocol videoId strict byteSize) false
      (next value)) :
    Follows (downloadProtocol videoId strict byteSize) waiting
      (program >>= next) Marks := by
  refine first.bind (fun value reached marks => ?_)
    fun fault reached marks => marks_error marks
  rcases marks with marked | ⟨_, same, _⟩
  · subst marked
    exact marks_of_rests (rests value)
  · cases same

theorem markFailed_marks (code : OfflineErrorCode) (waiting : Bool) :
    Follows (downloadProtocol videoId strict byteSize) waiting
      (Downloader.markFailed videoId code) Marks := by
  refine ⟨trivial, fun reply timed => ?_⟩
  cases reply with
  | error error => exact timed.1.elim
  | ok failedAt =>
      refine marks_bind (follows_browsed (updateOfflineVideo_marks
        (failedPatch_dequeues code failedAt)
        (failedPatch_acceptable code failedAt) waiting)) fun updated => ?_
      exact rests_ite (rests_raise _) (rests_pure _)

variable {next : StoredVideo}

theorem begin_marks (waiting : Bool) :
    Follows (downloadProtocol next.id strict byteSize) waiting
      (Downloader.begin
        (OfflineDownloadQueue.videoOf next.toOfflineVideoRecord)) Marks := by
  refine ⟨trivial, fun reply assumed => ?_⟩
  cases reply with
  | error error => exact assumed.elim
  | ok estimate =>
      have begins : Follows (downloadProtocol next.id strict byteSize) waiting
          (Downloader.update next.id (Downloader.downloadingPatch
            (OfflineDownloadQueue.videoOf next.toOfflineVideoRecord))) Marks :=
        follows_browsed (updateOfflineVideo_marks
          (downloadingPatch_dequeues _) (downloadingPatch_acceptable next)
          waiting)
      have transfers : Rests (downloadProtocol next.id strict byteSize) false
          (Downloader.transfer
            (OfflineDownloadQueue.videoOf next.toOfflineVideoRecord)) :=
        transfer_rests rfl
      simp only [attempt_done]
      split
      · exact marks_bind (markFailed_marks _ waiting) fun _ => rests_raise _
      · exact marks_bind begins fun _ => transfers.rescue abandon_rests

theorem putOfflineVideo_follows {record : OfflineVideoRecord}
    (same : record.id = videoId) :
    Follows (browseProtocol videoId strict) false (putOfflineVideo record)
      fun outcome reached => ∀ error, outcome = .error error →
        reached = false := by
  cases passed : accept record with
  | error code =>
      rw [putOfflineVideo, passed]
      exact fun _ _ => rfl
  | ok stored =>
      have here : stored.id = videoId := by
        rw [accept_eq_ok passed]
        exact same
      rw [putOfflineVideo, passed]
      refine ⟨⟨here, fun _ => rfl⟩, fun reply _ => ?_⟩
      cases reply with
      | ok _ => exact nofun
      | error error => exact fun _ _ => rfl

theorem restart_marks (existing : Option StoredVideo) :
    Follows (downloadProtocol next.id strict byteSize)
      (existing.any (·.status = .queued))
      (Downloader.restart
        (OfflineDownloadQueue.videoOf next.toOfflineVideoRecord) existing)
      Marks := by
  cases existing with
  | none =>
      refine now_rests.before (fun timestamp => ?_) fun _ => .inl rfl
      refine Follows.bind (follows_browsed (putOfflineVideo_follows rfl)) ?_ ?_
      · exact fun _ reached _ => begin_marks reached
      · exact fun fault reached kept => .inl (kept fault rfl)
  | some existing =>
      unfold Downloader.restart
      dsimp only
      split
      · rename_i completed
        have marked : (some existing).any (·.status = .queued) = false := by
          simp [completed]
        rw [marked]
        refine (rests_browsed (validateCachedVideo_rests _)).before
          (fun validation => ?_) fun _ => .inl rfl
        split
        · exact .inl rfl
        · exact discardMedia_rests.before (fun _ => begin_marks false)
            fun _ => .inl rfl
      · exact begin_marks _

theorem getOfflineVideo_follows (waiting : Bool) :
    Follows (browseProtocol videoId strict) waiting (getOfflineVideo videoId)
      fun outcome reached => ∃ found, outcome = .ok found ∧
        reached = found.any (·.status = .queued) ∧
          (strict = true → ∀ record ∈ found, record.isTombstone = false) := by
  refine ⟨rfl, fun reply assumed => ?_⟩
  cases reply with
  | error error => exact assumed.1.elim
  | ok found =>
      exact ⟨found, rfl, rfl, fun strictly record member =>
        (assumed.1 record member).2.2 strictly⟩

theorem downloadVideoForOffline_marks :
    Follows (downloadProtocol next.id strict byteSize) true
      (Downloader.downloadVideoForOffline
        (OfflineDownloadQueue.videoOf next.toOfflineVideoRecord)) Marks := by
  unfold Downloader.downloadVideoForOffline
  rw [assertVideoMetadata_stored]
  have looked : Follows (downloadProtocol next.id strict byteSize) true
      (Downloader.browsed (getOfflineVideo next.id)) _ :=
    follows_browsed (getOfflineVideo_follows true)
  refine looked.bind ?_ ?_
  · intro existing reached ⟨found, same, here, _⟩
    cases same
    subst here
    split
    · exact .inr ⟨_, rfl, rfl⟩
    · exact restart_marks existing
  · intro fault reached ⟨found, same, _⟩
    cases same

end

/-- What fails, fails with an error that does not pause. -/
def Calm {α : Type} (outcome : Except JsError α) : Prop :=
  ∀ error, outcome = .error error → pauses error = false

theorem calm_ok {α : Type} (value : α) : Calm (.ok value) := nofun

theorem calm_error {α : Type} {error : JsError} (calm : pauses error = false) :
    Calm (.error error : Except JsError α) := by
  intro raised same
  cases same
  exact calm

/-- Whatever it is answered, a download writes its own record only. -/
def calmBrowse (videoId : UUID) :
    Protocol BrowserCall BrowserReply JsError Unit where
  permits _ := permitsBrowse videoId false
  assumes _ input reply := assumesBrowse true true input reply
  advance _ _ _ := ()

def calmDownload (videoId : UUID) (byteSize : Nat) :
    Protocol DownloadCall DownloadReply JsError Unit where
  permits _ := permitsDownload videoId false
  assumes _ input reply := assumesDownload true byteSize true input reply
  advance _ _ _ := ()

/-- The calm protocols leave open whether the record is queued. -/
theorem assumesDownload_calm {byteSize : Nat} {waiting : Bool}
    {input : DownloadCall} {reply : Except JsError (DownloadReply input)}
    (assumed : assumesDownload true byteSize waiting input reply) :
    assumesDownload true byteSize true input reply := by
  cases input with
  | browse input =>
      obtain ⟨answered, calm⟩ := assumed
      refine ⟨?_, calm⟩
      cases input with
      | getVideo requested =>
          cases reply with
          | error error => exact answered
          | ok found =>
              intro record member
              obtain ⟨same, _, open_⟩ := answered record member
              exact ⟨same, fun _ => rfl, open_⟩
      | _ => cases reply <;> exact answered
  | _ => cases reply <;> exact assumed

section

variable {Call : Type} {Reply : Call → Type} {α β : Type}
variable {protocol : Protocol Call Reply JsError Unit}

def Calms (protocol : Protocol Call Reply JsError Unit)
    (program : Program Call Reply JsError α) : Prop :=
  Follows protocol () program fun outcome _ => Calm outcome

theorem calms_done {outcome : Except JsError α} (calm : Calm outcome) :
    Calms protocol (done outcome) := calm

theorem calms_pure (value : α) : Calms protocol (pure value) :=
  calm_ok value

theorem calms_raise {error : JsError} (calm : pauses error = false) :
    Calms protocol (raise error : Program Call Reply JsError α) :=
  calm_error calm

theorem Calms.attempt {program : Program Call Reply JsError α}
    {next : Except JsError α → Program Call Reply JsError β}
    (first : Calms protocol program)
    (second : ∀ outcome, Calm outcome → Calms protocol (next outcome)) :
    Calms protocol (program.attempt next) :=
  Follows.attempt first fun outcome _ calm => second outcome calm

theorem Calms.bind {program : Program Call Reply JsError α}
    {next : α → Program Call Reply JsError β}
    (first : Calms protocol program)
    (second : ∀ value, Calms protocol (next value)) :
    Calms protocol (program >>= next) := by
  rw [bind_eq_attempt]
  refine first.attempt fun outcome calm => ?_
  cases outcome with
  | ok value => exact second value
  | error error => exact calms_raise (calm error rfl)

theorem Calms.rescue {program : Program Call Reply JsError α}
    {selects : JsError → Bool}
    {handler : JsError → Program Call Reply JsError α}
    (body : Calms protocol program)
    (handles : ∀ error, pauses error = false →
      Calms protocol (handler error)) :
    Calms protocol (program.rescue selects handler) := by
  refine body.attempt fun outcome calm => ?_
  cases outcome with
  | ok value => exact calms_pure value
  | error error =>
      have mild := calm error rfl
      cases chosen : selects error with
      | true => simpa [chosen] using handles error mild
      | false => simpa [chosen] using calms_done (calm_error mild)

theorem calms_ite {condition : Prop} [Decidable condition]
    {first second : Program Call Reply JsError α}
    (whenTrue : Calms protocol first) (whenFalse : Calms protocol second) :
    Calms protocol (if condition then first else second) := by
  split
  · exact whenTrue
  · exact whenFalse

end

section

variable {videoId : UUID} {α : Type}

theorem calms_browse {input : BrowserCall}
    (own : permitsBrowse videoId false input) :
    Calms (calmBrowse videoId) (browse input) :=
  ⟨own, fun _ assumed => assumed.2 rfl⟩

theorem isPausing_toOfflineStorageError {error : JsError}
    (calm : pauses error = false) {fallback : OfflineErrorCode}
    (mild : isPausing fallback = false) :
    isPausing (toOfflineStorageError error fallback) = false := by
  rw [isPausing_fallback error mild]
  exact calm

theorem calms_withOfflineDatabase {operation : Browsing α}
    (calms : Calms (calmBrowse videoId) operation) :
    Calms (calmBrowse videoId) (withOfflineDatabase operation) := by
  refine calms.attempt fun outcome calm => ?_
  cases outcome with
  | ok value => exact calms_pure value
  | error error =>
      exact calms_raise
        (isPausing_toOfflineStorageError (calm error rfl) rfl)

theorem calms_withMediaCache {operation : Browsing α}
    {fallback : OfflineErrorCode} (mild : isPausing fallback = false)
    (calms : Calms (calmBrowse videoId) operation) :
    Calms (calmBrowse videoId) (withMediaCache fallback operation) := by
  refine calms.attempt fun outcome calm => ?_
  cases outcome with
  | ok value => exact calms_pure value
  | error error =>
      exact calms_raise
        (isPausing_toOfflineStorageError (calm error rfl) mild)

theorem assertOfflineVideoRecord_calm {record : OfflineVideoRecord}
    {code : OfflineErrorCode}
    (refused : assertOfflineVideoRecord record = .error code) :
    isPausing code = false := by
  unfold assertOfflineVideoRecord at refused
  split_ifs at refused
  all_goals
    cases refused
    rfl

theorem calms_accepted {record : OfflineVideoRecord}
    {next : StoredVideo → Browsing α}
    (goes : ∀ stored : StoredVideo, stored.toOfflineVideoRecord = record →
      Calms (calmBrowse videoId) (next stored)) :
    Calms (calmBrowse videoId) (orThrow (accept record) >>= next) := by
  cases passed : accept record with
  | ok stored => exact goes stored (accept_eq_ok passed)
  | error code =>
      refine calms_raise ?_
      rw [pauses_offlineStorage]
      unfold accept at passed
      split at passed
      · cases passed
      · rename_i refused
        cases passed
        exact assertOfflineVideoRecord_calm refused

theorem calms_putVideo {record : StoredVideo} (own : record.id = videoId) :
    Calms (calmBrowse videoId) (browse (.putVideo record)) :=
  calms_browse ⟨own, fun _ => rfl⟩

theorem calms_putOfflineVideo {record : OfflineVideoRecord}
    (own : record.id = videoId) :
    Calms (calmBrowse videoId) (putOfflineVideo record) := by
  refine calms_accepted fun stored accepted => ?_
  have same : stored.id = videoId := by
    rw [accepted]
    exact own
  exact calms_withOfflineDatabase (calms_putVideo same)

theorem lookup_own :
    Follows (calmBrowse videoId) () (browse (.getVideo videoId))
      fun outcome _ => ∃ found, outcome = .ok found ∧
        (∀ record ∈ found, record.id = videoId) ∧
          ∀ record ∈ found, record.isTombstone = false := by
  refine ⟨rfl, fun reply assumed => ?_⟩
  cases reply with
  | error error => exact assumed.1.elim
  | ok found =>
      exact ⟨found, rfl, fun record member => (assumed.1 record member).1,
        fun record member => (assumed.1 record member).2.2 rfl⟩

theorem calms_writePatched (patch : OfflineVideoPatch)
    {found : Option StoredVideo}
    (own : ∀ record ∈ found, record.id = videoId) :
    Calms (calmBrowse videoId) (writePatched patch found) := by
  cases found with
  | none => exact calms_pure none
  | some existing =>
      have clock : Calms (calmBrowse videoId) (browse .now) :=
        calms_browse trivial
      refine clock.bind fun now => ?_
      refine calms_accepted fun updated accepted => ?_
      have same : updated.id = videoId := by
        rw [accepted]
        exact own existing rfl
      exact (calms_putVideo same).bind fun _ => calms_pure (some updated)

theorem calms_updateOfflineVideo (patch : OfflineVideoPatch) :
    Calms (calmBrowse videoId) (updateOfflineVideo videoId patch) := by
  refine calms_withOfflineDatabase (lookup_own.bind ?_ ?_)
  · intro found _ ⟨_, same, own, _⟩
    cases same
    exact calms_writePatched patch own
  · intro _ _ ⟨_, same, _⟩
    cases same

theorem calms_deleteCachedVideo :
    Calms (calmBrowse videoId) (deleteCachedVideo videoId) :=
  calms_withMediaCache rfl (calms_browse trivial)

theorem calms_validateCachedVideo (expected : CachedVideoMetadata) :
    Calms (calmBrowse videoId) (validateCachedVideo videoId expected) := by
  refine calms_ite (calms_pure _) (calms_ite (calms_pure _) ?_)
  refine (calms_withMediaCache rfl (calms_browse ?_)).bind
    fun _ => calms_pure _
  trivial

end

section

variable {videoId : UUID} {byteSize : Nat} {α : Type}

theorem follows_calmly {program : Browsing α}
    {post : Except JsError α → Unit → Prop}
    (follows : Follows (calmBrowse videoId) () program post) :
    Follows (calmDownload videoId byteSize) ()
      (Downloader.browsed program) post := by
  refine Follows.handle ?_ follows
  intro _ input own
  exact ⟨own, fun _ assumed => ⟨assumed, rfl⟩⟩

theorem calms_browsed {program : Browsing α}
    (calms : Calms (calmBrowse videoId) program) :
    Calms (calmDownload videoId byteSize) (Downloader.browsed program) :=
  follows_calmly calms

theorem calms_invoke {input : DownloadCall}
    (own : permitsDownload videoId false input)
    (plain : ∀ error, assumesDownload true byteSize true input (.error error) →
      pauses error = false) :
    Calms (calmDownload videoId byteSize) (Downloader.invoke input) := by
  refine ⟨own, fun reply assumed error same => ?_⟩
  subst same
  exact plain error assumed

theorem calms_now : Calms (calmDownload videoId byteSize) Downloader.now :=
  calms_invoke trivial fun _ assumed => assumed.2 rfl _ rfl

theorem calms_fetch (fetched : UUID) :
    Calms (calmDownload videoId byteSize) (Downloader.invoke (.fetch fetched)) :=
  calms_invoke trivial fun _ assumed => assumed rfl _ rfl

theorem calms_transform (progress : DownloadProgress) :
    Calms (calmDownload videoId byteSize)
      (Downloader.invoke (.transform progress)) :=
  calms_invoke trivial fun _ assumed => assumed rfl _ rfl

theorem calms_finishProgress (progress : DownloadProgress) :
    Calms (calmDownload videoId byteSize)
      (Downloader.invoke (.finishProgress progress)) :=
  calms_invoke trivial fun _ assumed => assumed rfl _ rfl

theorem calms_media {input : BrowserCall}
    (own : permitsBrowse videoId false input) :
    Calms (calmDownload videoId byteSize) (Downloader.invoke (.browse input)) :=
  calms_invoke own fun _ assumed => assumed.2 rfl _ rfl

theorem calms_fail {code : OfflineErrorCode} (mild : isPausing code = false) :
    Calms (calmDownload videoId byteSize)
      (Downloader.fail code : Downloading α) :=
  calms_raise mild

theorem calms_guard {condition : Prop} {decidable : Decidable condition}
    {code : OfflineErrorCode} {next : Unit → Downloading α}
    (mild : isPausing code = false)
    (goes : Calms (calmDownload videoId byteSize) (next ())) :
    Calms (calmDownload videoId byteSize)
      (if condition then Downloader.fail code >>= next else next ()) := by
  split
  · exact calms_raise mild
  · exact goes

theorem calms_update (patch : OfflineVideoPatch) :
    Calms (calmDownload videoId byteSize) (Downloader.update videoId patch) :=
  calms_browsed (calms_updateOfflineVideo patch)

theorem calms_markFailed (code : OfflineErrorCode) :
    Calms (calmDownload videoId byteSize)
      (Downloader.markFailed videoId code) := by
  refine calms_now.bind fun failedAt => ?_
  refine (calms_update _).bind fun updated => ?_
  exact calms_ite (calms_fail rfl) (calms_pure _)

theorem calms_discardMedia :
    Calms (calmDownload videoId byteSize) (Downloader.discardMedia videoId) :=
  (calms_browsed calms_deleteCachedVideo).attempt fun _ _ => calms_pure ()

theorem calms_stream (totalBytes : Option Nat)
    (chunks : List Nat) (downloadedBytes : Nat) :
    Calms (calmDownload videoId byteSize)
      (Downloader.stream videoId totalBytes chunks downloadedBytes) := by
  induction chunks generalizing downloadedBytes with
  | nil => exact calms_pure _
  | cons chunk rest ih =>
      exact (calms_transform _).bind fun _ => ih _

theorem calms_putOwnedResponse (response : FetchedResponse)
    (totalBytes : Option Nat) :
    Calms (calmDownload videoId byteSize)
      (Downloader.putOwnedResponse videoId response totalBytes) := by
  refine Calms.attempt ?_ fun outcome calm => ?_
  · refine (calms_stream _ _ _).bind fun _ => ?_
    refine (calms_media ?_).bind fun _ => calms_pure _
    trivial
  · cases outcome with
    | ok byteSize => exact calms_pure _
    | error error =>
        have mild := isPausing_toOfflineStorageError (calm error rfl)
          (show isPausing .cacheWriteFailed = false from rfl)
        refine (calms_media ?_).attempt fun _ _ => calms_fail mild
        trivial

/-- A record that is not viewed meanwhile does not close the download. -/
theorem lookup_calm :
    Follows (calmDownload videoId byteSize) ()
      (Downloader.browsed (getOfflineVideo videoId)) fun outcome _ =>
        ∃ found, outcome = .ok found ∧
          ∀ record ∈ found, record.isTombstone = false := by
  have looked : Follows (calmBrowse videoId) () (getOfflineVideo videoId)
      fun outcome _ => ∃ found, outcome = .ok found ∧
        ∀ record ∈ found, record.isTombstone = false := by
    refine lookup_own.attempt ?_
    intro outcome _ ⟨found, same, _, open_⟩
    cases same
    exact ⟨found, rfl, open_⟩
  exact follows_calmly looked

theorem any_tombstone {found : Option StoredVideo}
    (open_ : ∀ record ∈ found, record.isTombstone = false) :
    found.any (·.isTombstone) = false := by
  cases found with
  | none => rfl
  | some record => exact open_ record rfl

theorem calms_lookup {next : Option StoredVideo → Downloading α}
    (goes : ∀ found, found.any (·.isTombstone) = false →
      Calms (calmDownload videoId byteSize) (next found)) :
    Calms (calmDownload videoId byteSize)
      (Downloader.browsed (getOfflineVideo videoId) >>= next) := by
  refine lookup_calm.bind ?_ ?_
  · intro found _ ⟨_, same, open_⟩
    cases same
    exact goes found (any_tombstone open_)
  · intro _ _ ⟨_, same, _⟩
    cases same

theorem calms_ensureOpen :
    Calms (calmDownload videoId byteSize) (Downloader.ensureOpen videoId) := by
  refine calms_lookup fun found open_ => ?_
  rw [open_]
  exact calms_pure ()

theorem calms_checked {outcome : Except OfflineErrorCode α}
    (mild : ∀ code, outcome = .error code → isPausing code = false) :
    Calms (calmDownload videoId byteSize) (Downloader.checked outcome) := by
  cases outcome with
  | ok value => exact calms_pure value
  | error code => exact calms_fail (mild code rfl)

theorem parseContentLength_calm {header : Option String}
    {code : OfflineErrorCode}
    (refused : Downloader.parseContentLength header = .error code) :
    isPausing code = false := by
  unfold Downloader.parseContentLength at refused
  split at refused
  · cases refused
  · dsimp only at refused
    split at refused
    · split at refused
      · cases refused
      · cases refused
        rfl
    · cases refused
      rfl

theorem calms_transfer (video : CatalogItem) :
    Calms (calmDownload video.id byteSize) (Downloader.transfer video) := by
  unfold Downloader.transfer
  refine (calms_fetch _).bind fun response => ?_
  refine calms_guard rfl ?_
  refine calms_guard rfl ?_
  refine calms_guard rfl ?_
  refine (calms_checked fun code refused =>
    parseContentLength_calm refused).bind fun contentLength => ?_
  refine calms_guard rfl ?_
  refine (calms_putOwnedResponse _ _).bind fun downloaded => ?_
  refine (calms_finishProgress _).bind fun _ => ?_
  refine calms_guard rfl ?_
  refine (calms_browsed (calms_validateCachedVideo _)).bind fun checked => ?_
  refine calms_guard rfl ?_
  refine calms_ensureOpen.bind fun _ => ?_
  refine calms_now.bind fun downloadedAt => ?_
  refine (calms_update _).bind fun completed => ?_
  cases completed with
  | none => exact calms_fail rfl
  | some completed => exact calms_pure completed

theorem calms_abandon {error : JsError}
    (calm : pauses error = false) :
    Calms (calmDownload videoId byteSize) (Downloader.abandon videoId error) := by
  refine ⟨trivial, fun reply assumed => ?_⟩
  cases reply with
  | error raised => exact calm_error (assumed rfl raised rfl)
  | ok aborted =>
      have open_ : aborted = false := assumed rfl
      subst open_
      have mild : isPausing
          (Downloader.normalizeDownloadError error false) = false := by
        unfold Downloader.normalizeDownloadError
        cases error with
        | typeError => rfl
        | _ => exact calm
      refine calms_discardMedia.bind fun _ => ?_
      refine calms_lookup fun found open_ => ?_
      simp only [open_]
      refine (calms_markFailed _).attempt fun outcome calm => ?_
      cases outcome with
      | ok _ => exact calms_fail mild
      | error error =>
          exact calms_fail
            (isPausing_toOfflineStorageError (calm error rfl) rfl)

theorem calms_begin (video : CatalogItem) :
    Calms (calmDownload video.id video.byteSize) (Downloader.begin video) := by
  refine ⟨trivial, fun reply assumed => ?_⟩
  cases reply with
  | error error => exact assumed.elim
  | ok estimate =>
      have space := assumed rfl
      simp only [attempt_done, space]
      refine (calms_update _).bind fun _ => ?_
      exact (calms_transfer video).rescue fun error calm =>
        calms_abandon calm

theorem calms_restart (video : CatalogItem) (existing : Option StoredVideo) :
    Calms (calmDownload video.id video.byteSize)
      (Downloader.restart video existing) := by
  cases existing with
  | none =>
      refine calms_now.bind fun timestamp => ?_
      refine (calms_browsed (calms_putOfflineVideo ?_)).bind
        fun _ => calms_begin video
      rfl
  | some existing =>
      refine calms_ite ?_ (calms_begin video)
      refine (calms_browsed (calms_validateCachedVideo _)).bind
        fun validation => ?_
      refine calms_ite (calms_pure _) ?_
      exact calms_discardMedia.bind fun _ => calms_begin video

theorem assertVideoMetadata_calm {video : CatalogItem} {code : OfflineErrorCode}
    (refused : Downloader.assertVideoMetadata video = .error code) :
    isPausing code = false := by
  unfold Downloader.assertVideoMetadata at refused
  split_ifs at refused
  all_goals
    cases refused
    rfl

theorem calms_downloadVideoForOffline (video : CatalogItem) :
    Calms (calmDownload video.id video.byteSize)
      (Downloader.downloadVideoForOffline video) := by
  refine (calms_checked fun _ refused =>
    assertVideoMetadata_calm refused).bind fun _ => ?_
  refine calms_lookup fun existing open_ => ?_
  rw [open_]
  exact calms_restart video existing

theorem downloadVideoForOffline_settles {next : StoredVideo} (strict : Bool) :
    Follows (downloadProtocol next.id strict next.byteSize) true
      (Downloader.downloadVideoForOffline
        (OfflineDownloadQueue.videoOf next.toOfflineVideoRecord))
      fun outcome waiting =>
        Marks outcome waiting ∧ (strict = true → Calm outcome) := by
  cases strict with
  | false =>
      exact downloadVideoForOffline_marks.mono fun _ _ marks =>
        ⟨marks, nofun⟩
  | true =>
      have calms := calms_downloadVideoForOffline
        (OfflineDownloadQueue.videoOf next.toOfflineVideoRecord)
      refine (downloadVideoForOffline_marks.and ?_ calms).mono ?_
      · intro waiting _ input reply assumed
        exact assumesDownload_calm assumed
      · intro outcome waiting ⟨marks, _, calm⟩
        exact ⟨marks, fun _ => calm⟩

end

end OfflineReels.Offline.DownloadMarks
