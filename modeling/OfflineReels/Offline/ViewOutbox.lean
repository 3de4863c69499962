import OfflineReels.Foundation.Transition
import OfflineReels.Management.Ownership
import OfflineReels.Offline.ViewLifecycle

namespace OfflineReels.Offline.ViewOutbox

open OfflineReels.Foundation
open OfflineReels.Foundation.Program
open OfflineReels.Instagram

/-! The view outbox of a device and the endpoint that it is sent to, over
repeated runs of the lifecycle. -/

/-- What the endpoint answers a request with whose events it does not look at. -/
inductive SyncRefusal
  | unauthorized
  | forbidden
  | rateLimited
  | unavailable
  deriving DecidableEq, Repr

/-- What the outside answers during one run; a request that is sent reaches the
server, and the records can be read and written.  The session that is restored
is unpaired, or the request for it fails. -/
structure LifecycleRun where
  online : Bool
  confirmed : Except JsError (List UUID)
  reserve : Except JsError LocalReserve
  session : Except JsError Bool
  refusal : Option SyncRefusal
  views : UUID → Management.NewView
  clock : Nat → Time
  active : Nat → Option UUID
  media : Nat → (request : BrowserCall) → Except JsError (BrowserReply request)

structure State where
  stores : Stores
  server : Database
  /-- The calls made so far, by which the outside tells them apart. -/
  calls : Nat

def State.tick (state : State) : State :=
  { state with calls := state.calls + 1 }

/-- The events of a request; an unacceptable batch is refused as a whole. -/
def serve (accountId : UUID) (views : UUID → Management.NewView)
    (server : Database) (deviceId : UUID) (events : List UUID) :
    Except JsError (List UUID) × Database :=
  if valid : (1 ≤ events.length ∧ events.length ≤
      Management.MAX_VIEW_SYNC_BATCH) ∧ events.Nodup then
    match Management.syncViewedReels server views accountId
        ⟨deviceId, events, valid.1.1, valid.1.2, valid.2⟩ with
    | .ok (server, _, confirmed) => (.ok confirmed, server)
    | .error _ => (.error .other, server)
  else (.error .other, server)

def receive (accountId : UUID) (run : LifecycleRun) (server : Database)
    (deviceId : UUID) (events : List UUID) :
    Except JsError (List UUID) × Database :=
  match run.refusal with
  | some _ => (.error .other, server)
  | none => serve accountId run.views server deviceId events

def respond (accountId : UUID) (run : LifecycleRun) (state : State) :
    (request : BrowserCall) → Except JsError (BrowserReply request) × State
  | .getVideo videoId =>
      (.ok (state.stores.library.find? videoId), state)
  | .getAllVideos => (.ok state.stores.library.rows, state)
  | .putVideo record =>
      (.ok (), { state with stores := state.stores.putVideo record })
  | .deleteVideo videoId =>
      (.ok (), { state with stores := state.stores.deleteVideo videoId })
  | .markVideoViewed videoId viewedAt =>
      let (stores, viewed) := state.stores.markVideoViewed videoId viewedAt
      (.ok viewed, { state with stores })
  | .clearVideos preserveViewed =>
      (.ok (), { state with
        stores := state.stores.clearVideos preserveViewed })
  | .isOnline => (.ok run.online, state)
  | .getConfirmedViewedReels => (run.confirmed, state)
  | .getLocalReserve => (run.reserve, state)
  | .refreshManagementSession => (run.session, state)
  | .syncViewedReels deviceId events =>
      let (answer, server) :=
        receive accountId run state.server deviceId events
      (answer, { state with server })
  | .activeVideoId => (.ok (run.active state.calls), state.tick)
  | .now => (.ok (run.clock state.calls), state.tick)
  | .matchMedia path => (run.media state.calls (.matchMedia path), state.tick)
  | .putMedia path media =>
      (run.media state.calls (.putMedia path media), state.tick)
  | .deleteMedia path => (run.media state.calls (.deleteMedia path), state.tick)
  | .mediaKeys => (run.media state.calls .mediaKeys, state.tick)
  | .deleteMediaCache => (run.media state.calls .deleteMediaCache, state.tick)

def next (accountId : UUID) (state : State) (run : LifecycleRun) :
    Option State :=
  some (lifecycleRun.play (respond accountId run) state).2

/-- The account owns the video, and it is ready. -/
def Acceptable (server : Database) (accountId videoId : UUID) : Prop :=
  ∃ reel ∈ server.reels, reel.videoId = some videoId ∧
    reel.pipelineStatus = .ready ∧
      Management.HoldsItem server accountId reel Management.everyOutcome

instance (server : Database) (accountId videoId : UUID) :
    Decidable (Acceptable server accountId videoId) :=
  inferInstanceAs (Decidable (∃ reel ∈ server.reels, _ ∧ _ ∧
    ∃ item ∈ server.items, _ ∧ _ ∧ ∃ run ∈ server.runs, _ ∧ _))

def attempts (record : OfflineVideoRecord) : Nat :=
  if record.viewSyncState = some .pending then
    record.viewSyncAttempts.getD 0
  else 0

def attemptsOf (library : Library) (videoId : UUID) : Nat :=
  match library.find? videoId with
  | some record => attempts record.toOfflineVideoRecord
  | none => 0

/-- No attempt is counted for an event that the server would accept. -/
def Spares (accountId : UUID) (before : State) (_ : LifecycleRun)
    (after : State) : Prop :=
  ∀ videoId, Acceptable before.server accountId videoId →
    attemptsOf after.stores.library videoId ≤
      attemptsOf before.stores.library videoId

/-- The views that the server confirms are adopted before the outbox is sent. -/
def adopted (accountId : UUID) (state : State) (run : LifecycleRun) : State :=
  (adoptConfirmed.play (respond accountId run) state).2

def sentOutbox (accountId : UUID) (state : State) (run : LifecycleRun) :
    List StoredVideo :=
  outbox (sortRecords (adopted accountId state run).stores.library.rows)

def LifecycleRun.Sends (run : LifecycleRun) : Prop :=
  run.online = true ∧ run.reserve.toBool = true ∧ run.session ≠ .ok false

instance (run : LifecycleRun) : Decidable run.Sends :=
  inferInstanceAs (Decidable (_ ∧ _ ∧ _))

/-- The session can be restored, and the endpoint comes to the events. -/
def LifecycleRun.Arrives (run : LifecycleRun) : Prop :=
  run.session = .ok true ∧ run.refusal = none

instance (run : LifecycleRun) : Decidable run.Arrives :=
  inferInstanceAs (Decidable (_ ∧ _))

/-- A batch that is to be sent has no acceptable event beside an unacceptable
one, and none at all if the endpoint does not come to its events. -/
def Unmixed (accountId : UUID) (state : State) (run : LifecycleRun) : Prop :=
  run.Sends →
    (run.Arrives ∧ ∀ record ∈ sentOutbox accountId state run,
      Acceptable state.server accountId record.id) ∨
    ∀ record ∈ sentOutbox accountId state run,
      ¬ Acceptable state.server accountId record.id

instance (accountId : UUID) (state : State) (run : LifecycleRun) :
    Decidable (Unmixed accountId state run) :=
  inferInstanceAs (Decidable (_ → (_ ∧ _) ∨ _))

def Recorded (library : Library) : Prop :=
  ∀ record ∈ library, record.viewSyncState = some .pending →
    record.viewedAt.isSome = true

instance (library : Library) : Decidable (Recorded library) :=
  inferInstanceAs (Decidable (∀ _ ∈ library, _))

def Untouched (before after : State) : Prop :=
  Recorded before.stores.library →
    Recorded after.stores.library ∧
      (∀ videoId, attemptsOf after.stores.library videoId =
        attemptsOf before.stores.library videoId) ∧
      after.server = before.server

theorem untouched_refl (state : State) : Untouched state state :=
  fun recorded => ⟨recorded, fun _ => rfl, rfl⟩

theorem untouched_trans (first second third : State)
    (left : Untouched first second) (right : Untouched second third) :
    Untouched first third := by
  intro recorded
  obtain ⟨middle, sameLeft, serverLeft⟩ := left recorded
  obtain ⟨final, sameRight, serverRight⟩ := right middle
  exact ⟨final, fun videoId => (sameRight videoId).trans (sameLeft videoId),
    serverRight.trans serverLeft⟩

def NeutralPatch (patch : OfflineVideoPatch) : Prop :=
  ∀ record, (patch record).viewSyncState = record.viewSyncState ∧
    (patch record).viewSyncAttempts = record.viewSyncAttempts ∧
    (patch record).viewedAt = record.viewedAt

section

variable {accountId : UUID} {run : LifecycleRun}

abbrev Neutral (accountId : UUID) (run : LifecycleRun) {α : Type}
    (program : Browsing α) : Prop :=
  program.Keeps (respond accountId run) Untouched

theorem neutral_done {α : Type} (result : Except JsError α) :
    Neutral accountId run (.done result : Browsing α) :=
  keeps_done untouched_refl result

theorem neutral_attempt {α β : Type} {program : Browsing α}
    {next : Except JsError α → Browsing β}
    (first : Neutral accountId run program)
    (rest : ∀ outcome, Neutral accountId run (next outcome)) :
    Neutral accountId run (program.attempt next) :=
  keeps_attempt untouched_trans first rest

theorem neutral_bind {α β : Type} {program : Browsing α}
    {next : α → Browsing β} (first : Neutral accountId run program)
    (rest : ∀ value, Neutral accountId run (next value)) :
    Neutral accountId run (program >>= next) :=
  keeps_bind untouched_refl untouched_trans first rest

theorem neutral_browse {request : BrowserCall}
    (same : ∀ state, (respond accountId run state request).2.stores.library =
        state.stores.library ∧
      (respond accountId run state request).2.server = state.server) :
    Neutral accountId run (browse request) := by
  refine keeps_perform fun state recorded => ?_
  obtain ⟨library, server⟩ := same state
  rw [library]
  exact ⟨recorded, fun _ => rfl, server⟩

theorem neutral_withOfflineDatabase {α : Type} {operation : Browsing α}
    (neutral : Neutral accountId run operation) :
    Neutral accountId run (withOfflineDatabase operation) := by
  refine neutral_attempt neutral fun outcome => ?_
  cases outcome with
  | ok value => exact neutral_done _
  | error error => exact neutral_done _

theorem neutral_withMediaCache {α : Type} {fallback : OfflineErrorCode}
    {operation : Browsing α} (neutral : Neutral accountId run operation) :
    Neutral accountId run (withMediaCache fallback operation) := by
  refine neutral_attempt neutral fun outcome => ?_
  cases outcome with
  | ok value => exact neutral_done _
  | error error => exact neutral_done _

theorem neutral_orElse {program handler : Browsing Unit}
    (first : Neutral accountId run program)
    (second : Neutral accountId run handler) :
    Neutral accountId run (orElse program handler) := by
  refine neutral_attempt first fun outcome => ?_
  cases outcome with
  | ok value => exact neutral_done _
  | error error => exact second

theorem attemptsOf_upsert (library : Library) (record : StoredVideo)
    (videoId : UUID) :
    attemptsOf (library.upsert record) videoId =
      if record.id = videoId then attempts record.toOfflineVideoRecord
      else attemptsOf library videoId := by
  unfold attemptsOf
  by_cases same : record.id = videoId
  · subst same
    rw [if_pos rfl, Table.find?_upsert_self]
  · have other : (library.upsert record).find? videoId =
        library.find? videoId := Table.find?_upsert_other same
    rw [if_neg same, other]

theorem recorded_upsert {library : Library} {record : StoredVideo}
    (recorded : Recorded library)
    (viewed : record.viewSyncState = some .pending →
      record.viewedAt.isSome = true) : Recorded (library.upsert record) := by
  intro other member pending
  rcases Table.mem_upsert.mp member with rfl | ⟨present, _⟩
  · exact viewed pending
  · exact recorded other present pending

theorem update_absent {videoId : UUID} {patch : OfflineVideoPatch}
    {state : State} (absent : state.stores.library.find? videoId = none) :
    (updateOfflineVideo videoId patch).play (respond accountId run) state =
      (.ok none, state) := by
  rw [updateOfflineVideo, play_withOfflineDatabase, play_bind, play_browse]
  simp only [respond, absent]
  rfl

theorem update_written {videoId : UUID} {patch : OfflineVideoPatch}
    {state : State} {existing updated : StoredVideo}
    (found : state.stores.library.find? videoId = some existing)
    (passed : accept (applyPatch existing.toOfflineVideoRecord patch
      (run.clock state.calls)) = .ok updated) :
    (updateOfflineVideo videoId patch).play (respond accountId run) state =
      (.ok (some updated),
        { state.tick with stores := state.stores.putVideo updated }) := by
  rw [updateOfflineVideo, play_withOfflineDatabase, play_bind, play_browse]
  have clock : (browse .now).play (respond accountId run) state =
      (.ok (run.clock state.calls), state.tick) := rfl
  simp only [respond, found, writePatched]
  rw [play_bind, clock]
  simp only [passed]
  rfl

theorem update_refused {videoId : UUID} {patch : OfflineVideoPatch}
    {state : State} {existing : StoredVideo} {code : OfflineErrorCode}
    (found : state.stores.library.find? videoId = some existing)
    (refused : accept (applyPatch existing.toOfflineVideoRecord patch
      (run.clock state.calls)) = .error code) :
    (updateOfflineVideo videoId patch).play (respond accountId run) state =
      (.error (.offlineStorage code), state.tick) := by
  rw [updateOfflineVideo, play_withOfflineDatabase, play_bind, play_browse]
  have clock : (browse .now).play (respond accountId run) state =
      (.ok (run.clock state.calls), state.tick) := rfl
  simp only [respond, found, writePatched]
  rw [play_bind, clock]
  simp only [refused]
  rfl

theorem neutral_update {videoId : UUID} {patch : OfflineVideoPatch}
    (neutral : NeutralPatch patch) :
    Neutral accountId run (updateOfflineVideo videoId patch) := by
  intro state recorded
  cases found : state.stores.library.find? videoId with
  | none =>
      rw [update_absent found]
      exact untouched_refl state recorded
  | some existing =>
      obtain ⟨member, here⟩ := Table.find?_eq_some.mp found
      cases passed : accept (applyPatch existing.toOfflineVideoRecord patch
          (run.clock state.calls)) with
      | error code =>
          rw [update_refused found passed]
          exact ⟨recorded, fun _ => rfl, rfl⟩
      | ok updated =>
          rw [update_written found passed]
          have shape := accept_eq_ok passed
          obtain ⟨sync, counted, viewed⟩ :=
            neutral existing.toOfflineVideoRecord
          have sameSync : updated.viewSyncState = existing.viewSyncState := by
            rw [shape]
            exact sync
          have sameCount :
              updated.viewSyncAttempts = existing.viewSyncAttempts := by
            rw [shape]
            exact counted
          have sameView : updated.viewedAt = existing.viewedAt := by
            rw [shape]
            exact viewed
          have sameId : updated.id = videoId := by
            rw [shape]
            exact here
          refine ⟨recorded_upsert recorded ?_, fun other => ?_, rfl⟩
          · rw [sameSync, sameView]
            exact recorded existing member
          · refine (attemptsOf_upsert _ _ _).trans ?_
            by_cases same : updated.id = other
            · rw [if_pos same]
              have lookup : state.stores.library.find? other =
                  some existing := by
                rw [← same, sameId]
                exact found
              simp only [attemptsOf, lookup, attempts, sameSync, sameCount]
            · rw [if_neg same]

theorem neutral_markViewed {videoId : UUID} {viewedAt : Time} :
    Neutral accountId run (markOfflineVideoViewed videoId viewedAt) := by
  refine neutral_withOfflineDatabase (keeps_perform fun state recorded => ?_)
  change Recorded (state.stores.markVideoViewed videoId viewedAt).1.library ∧
    (∀ other, attemptsOf
      (state.stores.markVideoViewed videoId viewedAt).1.library other =
        attemptsOf state.stores.library other) ∧ state.server = state.server
  rcases state.stores.markVideoViewed_cases videoId viewedAt with
    same | ⟨existing, found, unseen, written⟩
  · rw [same]
    exact ⟨recorded, fun _ => rfl, rfl⟩
  · obtain ⟨member, here⟩ := Table.find?_eq_some.mp found
    rw [written]
    refine ⟨recorded_upsert recorded fun _ => rfl, fun other => ?_, rfl⟩
    refine (attemptsOf_upsert _ _ _).trans ?_
    by_cases same : existing.id = other
    · have idle : existing.viewSyncState ≠ some .pending := by
        intro pending
        have viewed := recorded existing member pending
        rw [unseen] at viewed
        cases viewed
      have lookup : state.stores.library.find? other = some existing := by
        rw [← same, here]
        exact found
      refine (if_pos same).trans ?_
      simp only [attemptsOf, lookup, attempts, if_neg idle]
      rfl
    · exact if_neg same

theorem neutral_markConfirmed (confirmed : List UUID)
    (records : List StoredVideo) :
    Neutral accountId run (markConfirmed confirmed records) := by
  induction records with
  | nil => exact neutral_done _
  | cons record rest ih =>
      unfold markConfirmed
      split
      · refine neutral_bind (neutral_browse fun _ => ⟨rfl, rfl⟩) fun viewedAt => ?_
        exact neutral_bind neutral_markViewed fun _ => ih
      · exact ih

theorem neutral_listOfflineVideos :
    Neutral accountId run listOfflineVideos :=
  neutral_bind (neutral_withOfflineDatabase
    (neutral_browse fun _ => ⟨rfl, rfl⟩)) fun _ => neutral_done _

theorem neutral_adoptConfirmed : Neutral accountId run adoptConfirmed := by
  refine neutral_orElse ?_ (neutral_done _)
  refine neutral_bind (neutral_browse fun _ => ⟨rfl, rfl⟩) fun confirmed => ?_
  exact neutral_bind neutral_listOfflineVideos fun records =>
    neutral_markConfirmed confirmed records

theorem neutral_deleteCachedVideo {videoId : UUID} :
    Neutral accountId run (deleteCachedVideo videoId) :=
  neutral_withMediaCache (neutral_browse fun _ => ⟨rfl, rfl⟩)

theorem neutral_deleteViewed {videoId : UUID} :
    Neutral accountId run (deleteViewed videoId) := by
  refine neutral_bind (neutral_update fun _ => ⟨rfl, rfl, rfl⟩) fun _ => ?_
  refine neutral_orElse ?_ ?_
  · refine neutral_bind neutral_deleteCachedVideo fun _ => ?_
    exact neutral_bind (neutral_update fun _ => ⟨rfl, rfl, rfl⟩) fun _ =>
      neutral_done _
  · exact neutral_bind (neutral_update fun _ => ⟨rfl, rfl, rfl⟩) fun _ =>
      neutral_done _

theorem neutral_deleteDue (now : Time) (records : List StoredVideo) :
    Neutral accountId run (deleteDue now records) := by
  induction records with
  | nil => exact neutral_done _
  | cons record rest ih =>
      unfold deleteDue
      split
      · refine neutral_bind (neutral_browse fun _ => ⟨rfl, rfl⟩) fun active => ?_
        dsimp only
        split
        · exact neutral_bind neutral_deleteViewed fun _ => ih
        · exact ih
      · exact ih

theorem neutral_markFailed {videoId : UUID} {code : OfflineErrorCode} :
    Neutral accountId run (markFailed videoId code) :=
  neutral_bind (neutral_browse fun _ => ⟨rfl, rfl⟩) fun _ =>
    neutral_update fun _ => ⟨rfl, rfl, rfl⟩

theorem neutral_removeMedia {Key : Type} {videoId : UUID} {key : Key}
    {summary : ReconciliationSummary Key} :
    Neutral accountId run (removeMedia videoId key summary) := by
  refine neutral_attempt neutral_deleteCachedVideo fun outcome => ?_
  cases outcome with
  | ok value => exact neutral_done _
  | error error => exact neutral_done _

theorem neutral_reconcileRecord {Key : Type} {row : Listed Key}
    {summary : ReconciliationSummary Key} {validCompletedIds : List Key} :
    Neutral accountId run
      (reconcileRecord row summary validCompletedIds) := by
  unfold reconcileRecord
  split
  · refine neutral_bind neutral_removeMedia fun _ => ?_
    exact neutral_bind neutral_markFailed fun _ => neutral_done _
  · unfold reconcileCompleted
    refine neutral_bind ?_ fun outcome => ?_
    · unfold validateCachedVideo
      split
      · exact neutral_done _
      · split
        · exact neutral_done _
        · exact neutral_bind (neutral_withMediaCache
            (neutral_browse fun _ => ⟨rfl, rfl⟩)) fun _ => neutral_done _
    · cases outcome with
      | valid byteSize => exact neutral_done _
      | missing =>
          exact neutral_bind neutral_markFailed fun _ => neutral_done _
      | cacheKeyMismatch =>
          refine neutral_bind neutral_removeMedia fun _ => ?_
          exact neutral_bind neutral_markFailed fun _ => neutral_done _
      | invalidContentType =>
          refine neutral_bind neutral_removeMedia fun _ => ?_
          exact neutral_bind neutral_markFailed fun _ => neutral_done _
      | sizeMismatch =>
          refine neutral_bind neutral_removeMedia fun _ => ?_
          exact neutral_bind neutral_markFailed fun _ => neutral_done _
  · exact neutral_done _
  · exact neutral_done _
  · exact neutral_done _

theorem neutral_reconcileRecords {Key : Type} (rows : List (Listed Key))
    (reconciled : Reconciled Key) :
    Neutral accountId run (reconcileRecords rows reconciled) := by
  induction rows generalizing reconciled with
  | nil => exact neutral_done _
  | cons record rest ih =>
      obtain ⟨summary, validCompletedIds⟩ := reconciled
      refine neutral_attempt neutral_reconcileRecord fun outcome => ?_
      cases outcome with
      | ok reconciled => exact ih reconciled
      | error error => exact ih _

theorem neutral_removeOrphans {Key : Type} [DecidableEq Key]
    {canonical : UUID → Key} (validCompletedIds : List Key)
    (videoIds : List UUID) (summary : ReconciliationSummary Key) :
    Neutral accountId run
      (removeOrphans canonical validCompletedIds videoIds summary) := by
  induction videoIds generalizing summary with
  | nil => exact neutral_done _
  | cons videoId rest ih =>
      unfold removeOrphans
      split
      · exact ih summary
      · refine neutral_attempt neutral_deleteCachedVideo fun outcome => ?_
        cases outcome with
        | ok deleted => exact ih _
        | error error => exact ih _

theorem neutral_reconcileOfflineLibrary :
    Neutral accountId run reconcileOfflineLibrary := by
  refine neutral_bind neutral_listOfflineVideos fun records => ?_
  refine neutral_bind (neutral_reconcileRecords _ _) fun reconciled => ?_
  refine neutral_attempt ?_ fun outcome => ?_
  · exact neutral_withMediaCache (neutral_bind
      (neutral_browse fun _ => ⟨rfl, rfl⟩) fun _ => neutral_done _)
  · cases outcome with
    | ok videoIds => exact neutral_removeOrphans _ videoIds _
    | error error => exact neutral_done _

def afterOutbox : Browsing Unit := do
  let now : Time ← browse .now
  let records ← listOfflineVideos
  deleteDue now records
  let _ ← reconcileOfflineLibrary

theorem lifecycleRun_eq :
    lifecycleRun = syncOutbox >>= fun _ => afterOutbox := rfl

theorem neutral_afterOutbox : Neutral accountId run afterOutbox := by
  refine neutral_bind (neutral_browse fun _ => ⟨rfl, rfl⟩) fun now => ?_
  refine neutral_bind neutral_listOfflineVideos fun records => ?_
  refine neutral_bind (neutral_deleteDue now records) fun _ => ?_
  exact neutral_bind neutral_reconcileOfflineLibrary fun _ => neutral_done _

theorem acceptable_views {server : Database}
    {views : Table InstagramReelView UUID InstagramReelView.id}
    {videoId : UUID} :
    Acceptable { server with views } accountId videoId ↔
      Acceptable server accountId videoId := Iff.rfl

theorem serve_cases {views : UUID → Management.NewView} {server : Database}
    {deviceId : UUID} {events : List UUID} (nonempty : 1 ≤ events.length)
    (bounded : events.length ≤ Management.MAX_VIEW_SYNC_BATCH)
    (unique : events.Nodup) :
    ((∀ videoId ∈ events, Acceptable server accountId videoId) ∧
        ∃ table, serve accountId views server deviceId events =
          (.ok (events.insertionSort (· ≤ ·)),
            { server with views := table })) ∨
      ((∃ videoId ∈ events, ¬ Acceptable server accountId videoId) ∧
        serve accountId views server deviceId events =
          (.error .other, server)) := by
  have accepts := @Management.accepts_iff server views accountId
    ⟨deviceId, events, nonempty, bounded, unique⟩
  have answers : serve accountId views server deviceId events =
      match Management.syncViewedReels server views accountId
          ⟨deviceId, events, nonempty, bounded, unique⟩ with
      | .ok (server, _, confirmed) => (.ok confirmed, server)
      | .error _ => (.error .other, server) := by
    unfold serve
    rw [dif_pos ⟨⟨nonempty, bounded⟩, unique⟩]
  rw [answers]
  cases outcome : Management.syncViewedReels server views accountId
      ⟨deviceId, events, nonempty, bounded, unique⟩ with
  | ok result =>
      obtain ⟨after, status, confirmed⟩ := result
      obtain ⟨rfl, rfl, table, rfl⟩ :=
        Management.syncViewedReels_eq_ok outcome
      exact .inl ⟨accepts.mp ⟨_, _, outcome⟩, table, rfl⟩
  | error fault =>
      refine .inr ⟨?_, rfl⟩
      by_contra none
      simp only [not_exists, not_and, not_not] at none
      obtain ⟨after, confirmed, accepted⟩ := accepts.mpr none
      rw [outcome] at accepted
      cases accepted

/-- A patch that only answers the outbox. -/
structure SyncPatch (patch : OfflineVideoPatch) (record : StoredVideo) :
    Prop where
  viewed : (patch record.toOfflineVideoRecord).viewedAt = record.viewedAt
  pends : (patch record.toOfflineVideoRecord).viewSyncState = some .pending →
    record.viewSyncState = some .pending
  passes : ∀ now, ∃ updated,
    accept (applyPatch record.toOfflineVideoRecord patch now) = .ok updated

theorem syncPatch_synced (record : StoredVideo) :
    SyncPatch syncedPatch record := by
  refine ⟨rfl, nofun, fun now => ?_⟩
  have accepted : assertOfflineVideoRecord (applyPatch
      record.toOfflineVideoRecord syncedPatch now) = .ok () :=
    assertOfflineVideoRecord_eq_ok.mpr
      (assertOfflineVideoRecord_eq_ok.mp record.accepted)
  exact ⟨_, accept_of accepted⟩

theorem syncPatch_attempted (record : StoredVideo) :
    SyncPatch (attemptedPatch record.toOfflineVideoRecord) record := by
  refine ⟨rfl, id, fun now => ?_⟩
  obtain ⟨title, contentType, size, bytes, deadline, _, path, message,
    complete⟩ := assertOfflineVideoRecord_eq_ok.mp record.accepted
  have few : ¬ (min MAX_SYNC_ATTEMPTS
      (record.viewSyncAttempts.getD 0 + 1)) > 8 := by
    have limit : MAX_SYNC_ATTEMPTS = 5 := rfl
    omega
  have accepted : assertOfflineVideoRecord (applyPatch
      record.toOfflineVideoRecord
      (attemptedPatch record.toOfflineVideoRecord) now) = .ok () := by
    refine assertOfflineVideoRecord_eq_ok.mpr ⟨title, contentType, size, bytes,
      deadline, ?_, path, message, complete⟩
    simpa [applyPatch, attemptedPatch] using few
  exact ⟨_, accept_of accepted⟩

theorem updateAll_play {patch : StoredVideo → OfflineVideoPatch}
    {records : List StoredVideo} {state : State}
    (patches : ∀ record ∈ records, SyncPatch (patch record) record)
    (listed : ∀ record ∈ records,
      state.stores.library.find? record.id = some record)
    (unique : (records.map (·.id)).Nodup)
    (recorded : Recorded state.stores.library) :
    ∃ after, (updateAll patch records).play (respond accountId run) state =
        (.ok (), after) ∧
      after.server = state.server ∧ Recorded after.stores.library ∧
      (∀ record ∈ records, attemptsOf after.stores.library record.id =
        attempts (patch record record.toOfflineVideoRecord)) ∧
      ∀ videoId ∉ records.map (·.id),
        attemptsOf after.stores.library videoId =
          attemptsOf state.stores.library videoId := by
  induction records generalizing state with
  | nil =>
      exact ⟨state, rfl, rfl, recorded,
        fun _ absent => absurd absent List.not_mem_nil, fun _ _ => rfl⟩
  | cons record rest ih =>
      obtain ⟨viewed, pends, passes⟩ := patches record List.mem_cons_self
      have found := listed record List.mem_cons_self
      have member := (Table.find?_eq_some.mp found).1
      obtain ⟨updated, passed⟩ := passes (run.clock state.calls)
      have wrote : (updateOfflineVideo record.id (patch record)).play
          (respond accountId run) state = (.ok (some updated),
            { state.tick with stores := state.stores.putVideo updated }) :=
        update_written found passed
      have shape := accept_eq_ok passed
      simp only [List.map_cons, List.nodup_cons] at unique
      obtain ⟨apart, unique⟩ := unique
      have sameId : updated.id = record.id := by
        rw [shape]
        rfl
      have sameCount : attempts updated.toOfflineVideoRecord =
          attempts (patch record record.toOfflineVideoRecord) := by
        rw [shape]
        rfl
      have kept : Recorded (state.stores.library.upsert updated) := by
        refine recorded_upsert recorded fun pending => ?_
        rw [shape] at pending ⊢
        have view : (applyPatch record.toOfflineVideoRecord (patch record)
          (run.clock state.calls)).viewedAt = record.viewedAt := viewed
        rw [view]
        exact recorded record member (pends pending)
      have remaining : ∀ other ∈ rest, (state.stores.library.upsert
          updated).find? other.id = some other := by
        intro other present
        have different : updated.id ≠ other.id := by
          rw [sameId]
          intro same
          exact apart (List.mem_map.mpr ⟨other, present, same.symm⟩)
        have others : (state.stores.library.upsert updated).find? other.id =
            state.stores.library.find? other.id :=
          Table.find?_upsert_other different
        rw [others]
        exact listed other (List.mem_cons_of_mem _ present)
      obtain ⟨after, played, server, final, counted, others⟩ :=
        @ih { state.tick with stores := state.stores.putVideo updated }
          (fun other present => patches other (List.mem_cons_of_mem _ present))
          remaining unique kept
      refine ⟨after, ?_, server, final, ?_, ?_⟩
      · rw [updateAll, play_bind, wrote]
        exact played
      · intro other present
        rcases List.mem_cons.mp present with rfl | later
        · rw [others other.id apart]
          refine (attemptsOf_upsert _ _ _).trans ?_
          rw [if_pos sameId, sameCount]
        · exact counted other later
      · intro videoId absent
        simp only [List.map_cons, List.mem_cons, not_or] at absent
        rw [others videoId absent.2]
        refine (attemptsOf_upsert _ _ _).trans ?_
        rw [if_neg]
        rw [sameId]
        exact fun same => absent.1 same.symm

theorem play_orElse (program handler : Browsing Unit) (state : State) :
    (orElse program handler).play (respond accountId run) state =
      match program.play (respond accountId run) state with
      | (.ok value, after) => (.ok value, after)
      | (.error _, after) => handler.play (respond accountId run) after := by
  rw [orElse, rescue, play_attempt]
  generalize program.play (respond accountId run) state = played
  obtain ⟨outcome, after⟩ := played
  cases outcome with
  | ok value => rfl
  | error error => rfl

theorem play_adoptConfirmed (state : State) :
    adoptConfirmed.play (respond accountId run) state =
      (.ok (), adopted accountId state run) := by
  unfold adopted adoptConfirmed
  rw [play_orElse]
  split
  · rfl
  · rfl

theorem untouched_adopted (state : State) :
    Untouched state (adopted accountId state run) :=
  neutral_adoptConfirmed state

theorem play_syncOutbox (state : State) :
    syncOutbox.play (respond accountId run) state =
      if run.online = true then
        match run.reserve with
        | .ok settings =>
            if sentOutbox accountId state run ≠ [] then
              (sendOutbox settings (sentOutbox accountId state run)).play
                (respond accountId run) (adopted accountId state run)
            else (.ok (), adopted accountId state run)
        | .error error => (.error error, adopted accountId state run)
      else (.ok (), state) := by
  have online : (browse .isOnline).play (respond accountId run) state =
      (.ok run.online, state) := rfl
  rw [syncOutbox, play_bind, online]
  dsimp only
  by_cases connected : run.online = true
  · rw [if_pos connected, if_pos connected, play_bind, play_adoptConfirmed]
    dsimp only
    have reserve : (browse .getLocalReserve).play (respond accountId run)
        (adopted accountId state run) =
        (run.reserve, adopted accountId state run) := rfl
    rw [play_bind, reserve]
    cases run.reserve with
    | error error => rfl
    | ok settings =>
        have listed : listOfflineVideos.play (respond accountId run)
            (adopted accountId state run) = (.ok (sortRecords
              (adopted accountId state run).stores.library.rows),
              adopted accountId state run) := rfl
        dsimp only
        rw [play_bind, listed]
        change (if sentOutbox accountId state run ≠ [] then
          sendOutbox settings (sentOutbox accountId state run)
          else pure ()).play (respond accountId run) _ = _
        by_cases empty : sentOutbox accountId state run = []
        · rw [if_neg (not_not.mpr empty), if_neg (not_not.mpr empty)]
          rfl
        · rw [if_pos empty, if_pos empty]
  · rw [if_neg connected, if_neg connected]
    rfl

/-- What a library sends at once. -/
structure Batch (library : Library) (pending : List StoredVideo) : Prop where
  listed : ∀ record ∈ pending, library.find? record.id = some record
  waits : ∀ record ∈ pending, record.viewSyncState = some .pending
  few : ∀ record ∈ pending,
    record.viewSyncAttempts.getD 0 < MAX_SYNC_ATTEMPTS
  unique : (pending.map (·.id)).Nodup
  bounded : pending.length ≤ MAX_SYNC_BATCH

theorem batch_outbox (library : Library) :
    Batch library (outbox (sortRecords library.rows)) := by
  have chosen : ∀ record ∈ outbox (sortRecords library.rows),
      record ∈ library ∧ isPending record.toOfflineVideoRecord = true := by
    intro record sent
    have chosen := List.mem_of_mem_take sent
    simp only [List.mem_filter, mem_sortRecords] at chosen
    exact chosen
  simp only [isPending, Bool.and_eq_true, decide_eq_true_eq] at chosen
  refine ⟨fun record sent => ?_, fun record sent => (chosen record sent).2.1,
    fun record sent => (chosen record sent).2.2, ?_, ?_⟩
  · exact Table.find?_eq_some.mpr ⟨(chosen record sent).1, rfl⟩
  · have part : (outbox (sortRecords library.rows)).Sublist
        (sortRecords library.rows) :=
      (List.take_sublist _ _).trans List.filter_sublist
    have same : (sortRecords library.rows).Perm library.rows :=
      List.perm_insertionSort _ _
    exact ((same.map _).nodup_iff.mpr library.keysNodup).sublist
      (part.map _)
  · exact List.length_take_le _ _

theorem Batch.attempted {library : Library} {pending : List StoredVideo}
    (batch : Batch library pending) {record : StoredVideo}
    (sent : record ∈ pending) :
    attemptsOf library record.id = record.viewSyncAttempts.getD 0 := by
  simp only [attemptsOf, batch.listed record sent, attempts,
    if_pos (batch.waits record sent)]

theorem Batch.serve_cases {library : Library} {pending : List StoredVideo}
    (batch : Batch library pending) (nonempty : pending ≠ [])
    (views : UUID → Management.NewView) (server : Database) (deviceId : UUID) :
    ((∀ record ∈ pending, Acceptable server accountId record.id) ∧
        ∃ table, serve accountId views server deviceId (pending.map (·.id)) =
          (.ok ((pending.map (·.id)).insertionSort (· ≤ ·)),
            { server with views := table })) ∨
      ((∃ record ∈ pending, ¬ Acceptable server accountId record.id) ∧
        serve accountId views server deviceId (pending.map (·.id)) =
          (.error .other, server)) := by
  have some : 1 ≤ (pending.map (·.id)).length := by
    rw [List.length_map]
    exact List.length_pos_of_ne_nil nonempty
  have few : (pending.map (·.id)).length ≤
      Management.MAX_VIEW_SYNC_BATCH := by
    rw [List.length_map]
    exact batch.bounded.trans (by decide)
  rcases @ViewOutbox.serve_cases accountId views server deviceId _ some few
    batch.unique with ⟨all, table, served⟩ | ⟨⟨videoId, sent, wrong⟩, served⟩
  · exact .inl ⟨fun record member => all _ (List.mem_map_of_mem member),
      table, served⟩
  · obtain ⟨record, member, rfl⟩ := List.mem_map.mp sent
    exact .inr ⟨⟨record, member, wrong⟩, served⟩

theorem sendOutbox_accepted {state : State} {pending : List StoredVideo}
    (settings : LocalReserve) (arrives : run.Arrives)
    (recorded : Recorded state.stores.library)
    (batch : Batch state.stores.library pending) (nonempty : pending ≠ [])
    (acceptable : ∀ record ∈ pending,
      Acceptable state.server accountId record.id) :
    ∃ after, (sendOutbox settings pending).play (respond accountId run) state =
        (.ok (), after) ∧
      (∃ views, after.server = { state.server with views }) ∧
      Recorded after.stores.library ∧
      ∀ videoId, attemptsOf after.stores.library videoId ≤
        attemptsOf state.stores.library videoId := by
  rcases @Batch.serve_cases accountId _ _ batch nonempty run.views state.server
    settings.deviceId with ⟨_, views, served⟩ | ⟨⟨record, sent, wrong⟩, _⟩
  · have patched : ∀ record ∈ pending, resultPatch
        ((pending.map (·.id)).insertionSort (· ≤ ·)) record = syncedPatch := by
      intro record member
      unfold resultPatch
      rw [if_pos]
      exact (List.mem_insertionSort _).mpr (List.mem_map_of_mem member)
    have patches : ∀ record ∈ pending, SyncPatch (resultPatch
        ((pending.map (·.id)).insertionSort (· ≤ ·)) record) record := by
      intro record member
      rw [patched record member]
      exact syncPatch_synced record
    obtain ⟨after, played, server, final, counted, others⟩ :=
      @updateAll_play accountId run _ pending
        { state with server := { state.server with views } } patches
        batch.listed batch.unique recorded
    refine ⟨after, ?_, ⟨views, server⟩, final, fun videoId => ?_⟩
    · rw [sendOutbox, play_orElse, play_bind, play_browse]
      simp only [respond, arrives.1, if_true]
      rw [play_bind, play_browse]
      simp only [respond, receive, arrives.2, served]
      rw [played]
    · by_cases member : videoId ∈ pending.map (·.id)
      · obtain ⟨record, sent, rfl⟩ := List.mem_map.mp member
        rw [counted record sent, patched record sent]
        exact Nat.zero_le _
      · exact le_of_eq (others videoId member)
  · exact absurd (acceptable record sent) wrong

theorem play_sendOutbox_failed {state : State} {pending : List StoredVideo}
    (settings : LocalReserve) (sends : run.session ≠ .ok false)
    (batch : Batch state.stores.library pending)
    (failed : run.Arrives → ∃ record ∈ pending,
      ¬ Acceptable state.server accountId record.id) :
    (sendOutbox settings pending).play (respond accountId run) state =
      (updateAll (fun record => attemptedPatch record.toOfflineVideoRecord)
        pending).play (respond accountId run) state := by
  rw [sendOutbox, play_orElse, play_bind, play_browse]
  cases session : run.session with
  | error error => simp only [respond, session]
  | ok paired =>
      cases paired with
      | false => exact absurd session sends
      | true =>
          simp only [respond, session, if_true]
          rw [play_bind, play_browse]
          cases refusal : run.refusal with
          | some refusal => simp only [respond, receive, refusal]
          | none =>
              obtain ⟨bad, present, wrong⟩ := failed ⟨session, refusal⟩
              rcases @Batch.serve_cases accountId _ _ batch
                (List.ne_nil_of_mem present) run.views state.server
                settings.deviceId with ⟨all, _, _⟩ | ⟨_, served⟩
              · exact absurd (all bad present) wrong
              · simp only [respond, receive, refusal, served]

theorem sendOutbox_failed {state : State} {pending : List StoredVideo}
    (settings : LocalReserve) (sends : run.session ≠ .ok false)
    (recorded : Recorded state.stores.library)
    (batch : Batch state.stores.library pending)
    (failed : run.Arrives → ∃ record ∈ pending,
      ¬ Acceptable state.server accountId record.id) :
    ∃ after, (sendOutbox settings pending).play (respond accountId run) state =
        (.ok (), after) ∧
      after.server = state.server ∧ Recorded after.stores.library ∧
      (∀ record ∈ pending, attemptsOf after.stores.library record.id =
        attemptsOf state.stores.library record.id + 1) ∧
      ∀ videoId ∉ pending.map (·.id),
        attemptsOf after.stores.library videoId =
          attemptsOf state.stores.library videoId := by
  obtain ⟨after, played, server, final, counted, others⟩ :=
    @updateAll_play accountId run
      (fun record => attemptedPatch record.toOfflineVideoRecord) pending
      state (fun record _ => syncPatch_attempted record) batch.listed
      batch.unique recorded
  refine ⟨after, ?_, server, final, fun record sent => ?_, others⟩
  · rw [play_sendOutbox_failed settings sends batch failed]
    exact played
  · have value : attempts (attemptedPatch record.toOfflineVideoRecord
        record.toOfflineVideoRecord) =
        min MAX_SYNC_ATTEMPTS (record.viewSyncAttempts.getD 0 + 1) :=
      if_pos (batch.waits record sent)
    have few := batch.few record sent
    rw [counted record sent, value, batch.attempted sent]
    omega

theorem syncOutbox_idle {state : State}
    (idle : ¬ run.Sends ∨ sentOutbox accountId state run = []) :
    Untouched state (syncOutbox.play (respond accountId run) state).2 := by
  rw [play_syncOutbox]
  by_cases online : run.online = true
  · rw [if_pos online]
    cases reserve : run.reserve with
    | error error => exact untouched_adopted state
    | ok settings =>
        dsimp only
        by_cases empty : sentOutbox accountId state run = []
        · rw [if_neg (not_not.mpr empty)]
          exact untouched_adopted state
        · rw [if_pos empty]
          have unpaired : run.session = .ok false := by
            have silent := idle.resolve_right empty
            simp only [LifecycleRun.Sends, online, reserve, Except.toBool,
              true_and, not_not] at silent
            exact silent
          rw [sendOutbox, play_orElse, play_bind, play_browse]
          simp only [respond, unpaired, Bool.false_eq_true, if_false]
          exact untouched_adopted state
  · rw [if_neg online]
    exact untouched_refl state

theorem syncOutbox_sends {state : State} (sends : run.Sends)
    (nonempty : sentOutbox accountId state run ≠ []) :
    ∃ settings, syncOutbox.play (respond accountId run) state =
      (sendOutbox settings (sentOutbox accountId state run)).play
        (respond accountId run) (adopted accountId state run) := by
  obtain ⟨online, reserved, _⟩ := sends
  rw [play_syncOutbox, if_pos online]
  cases reserve : run.reserve with
  | error error =>
      rw [reserve] at reserved
      cases reserved
  | ok settings =>
      dsimp only
      rw [if_pos nonempty]
      exact ⟨settings, rfl⟩

theorem untouched_afterOutbox (state : State) :
    Untouched (syncOutbox.play (respond accountId run) state).2
      (lifecycleRun.play (respond accountId run) state).2 := by
  rw [lifecycleRun_eq, play_bind]
  generalize syncOutbox.play (respond accountId run) state = played
  obtain ⟨outcome, middle⟩ := played
  cases outcome with
  | ok value => exact neutral_afterOutbox middle
  | error error => exact untouched_refl middle

end

/-- The run spares the acceptable events exactly if its batch is unmixed. -/
theorem spares_iff_unmixed {accountId : UUID} {run : LifecycleRun}
    {state : State} (recorded : Recorded state.stores.library) :
    (Spares accountId state run
        (lifecycleRun.play (respond accountId run) state).2 ↔
      Unmixed accountId state run) ∧
    Recorded
      (lifecycleRun.play (respond accountId run) state).2.stores.library ∧
    ∃ views, (lifecycleRun.play (respond accountId run) state).2.server =
      { state.server with views } := by
  have rest := @untouched_afterOutbox accountId run state
  generalize (lifecycleRun.play (respond accountId run) state).2 = after at rest
  have adopts := @untouched_adopted accountId run state recorded
  obtain ⟨kept, same, server⟩ := adopts
  by_cases idle : ¬ run.Sends ∨ sentOutbox accountId state run = []
  · obtain ⟨final, counted, served⟩ :=
      untouched_trans _ _ _ (syncOutbox_idle idle) rest recorded
    refine ⟨⟨fun _ sends => ?_, fun _ videoId _ => le_of_eq (counted videoId)⟩,
      final, state.server.views, served⟩
    have empty := idle.resolve_left (not_not.mpr sends)
    refine .inr fun record member => ?_
    rw [empty] at member
    exact absurd member List.not_mem_nil
  · rw [not_or, not_not] at idle
    obtain ⟨sends, nonempty⟩ := idle
    obtain ⟨settings, sent⟩ := @syncOutbox_sends accountId _ _ sends nonempty
    have batch := batch_outbox (adopted accountId state run).stores.library
    by_cases good : run.Arrives ∧ ∀ record ∈ sentOutbox accountId state run,
        Acceptable state.server accountId record.id
    · obtain ⟨arrives, all⟩ := good
      rw [← server] at all
      obtain ⟨middle, played, ⟨views, changed⟩, stays, counted⟩ :=
        sendOutbox_accepted settings arrives kept batch nonempty all
      rw [sent, sentOutbox, played] at rest
      obtain ⟨final, unchanged, served⟩ := rest stays
      rw [server] at all
      refine ⟨⟨fun _ _ => .inl ⟨arrives, all⟩, fun _ videoId _ => ?_⟩, final,
        views, ?_⟩
      · rw [unchanged videoId, ← same videoId]
        exact counted videoId
      · rw [served, changed, server]
    · have failed : run.Arrives → ∃ record ∈ sentOutbox accountId state run,
          ¬ Acceptable (adopted accountId state run).server accountId
            record.id := by
        intro arrives
        rw [server]
        simpa only [arrives, true_and, not_forall, exists_prop] using good
      obtain ⟨middle, played, changed, stays, counted, others⟩ :=
        sendOutbox_failed settings sends.2.2 kept batch failed
      rw [sent, sentOutbox, played] at rest
      obtain ⟨final, unchanged, served⟩ := rest stays
      refine ⟨⟨fun spares _ => .inr fun record present acceptable => ?_,
        fun unmixed videoId acceptable => ?_⟩, final, state.server.views, ?_⟩
      · have more := spares record.id acceptable
        rw [unchanged, counted record present, same] at more
        omega
      · have none := (unmixed sends).resolve_left good
        have absent : videoId ∉
            (sentOutbox accountId state run).map (·.id) := by
          intro present
          obtain ⟨record, sent, rfl⟩ := List.mem_map.mp present
          exact none record sent acceptable
        rw [unchanged, others videoId absent, same]
      · rw [served, changed, server]

/-- The runs that spare the acceptable events are those whose batches are
unmixed, and these never exhaust the attempts of an acceptable event. -/
theorem events_spared {accountId : UUID} {state : State}
    {runs : List LifecycleRun} (recorded : Recorded state.stores.library) :
    (Along (next accountId) (Spares accountId) state runs ↔
        Meets (next accountId) (Unmixed accountId) state runs) ∧
      (Meets (next accountId) (Unmixed accountId) state runs →
        ∀ final, Foundation.run (next accountId) state runs = some final →
          ∀ videoId, Acceptable state.server accountId videoId →
            attemptsOf state.stores.library videoId < MAX_SYNC_ATTEMPTS →
            attemptsOf final.stores.library videoId < MAX_SYNC_ATTEMPTS) := by
  constructor
  · have exact : ∀ before run after, Recorded before.stores.library →
        next accountId before run = some after →
        (Spares accountId before run after ↔ Unmixed accountId before run) ∧
          (Unmixed accountId before run → Recorded after.stores.library) := by
      intro before run after holds stepped
      obtain rfl := Option.some.inj stepped
      obtain ⟨same, kept, _⟩ := @spares_iff_unmixed accountId run _ holds
      exact ⟨same, fun _ => kept⟩
    exact along_iff_meets exact recorded
  · intro meets final ran videoId acceptable few
    have kept : ∀ before run after,
        (Recorded before.stores.library ∧
          Acceptable before.server accountId videoId ∧
          attemptsOf before.stores.library videoId < MAX_SYNC_ATTEMPTS) →
        Unmixed accountId before run →
        next accountId before run = some after →
        Recorded after.stores.library ∧
          Acceptable after.server accountId videoId ∧
          attemptsOf after.stores.library videoId < MAX_SYNC_ATTEMPTS := by
      rintro before run after ⟨holds, owned, below⟩ unmixed stepped
      obtain rfl := Option.some.inj stepped
      obtain ⟨same, kept, views, served⟩ :=
        @spares_iff_unmixed accountId run _ holds
      refine ⟨kept, ?_, (same.mpr unmixed videoId owned).trans_lt below⟩
      rw [served]
      exact acceptable_views.mpr owned
    exact (run_invariant kept ⟨recorded, acceptable, few⟩ meets ran).2.2

def watched (videoId : UUID) : OfflineVideoRecord where
  id := videoId
  title := "Reel"
  contentType := "video/mp4"
  byteSize := 1
  createdAt := 0
  status := .completed
  downloadedBytes := 1
  downloadedAt := some 0
  cacheKey := some ⟨videoId⟩
  lastErrorCode := none
  lastErrorMessage := none
  failedAt := none
  lastWatchedAt := none
  viewedAt := some 0
  deleteAfter := some DELETE_DELAY
  deletionState := some .pending
  viewSyncState := some .pending
  viewSyncAttempts := some 0
  lastViewReasonCode := none
  updatedAt := 0

theorem watched_accepted (videoId : UUID) :
    assertOfflineVideoRecord (watched videoId) = .ok () := by
  have texts : trim "Reel".toList ≠ [] ∧ utf16Length "Reel".toList ≤ 255 ∧
      isAllowedVideoContentType "video/mp4" = true := by decide +kernel
  obtain ⟨title, short, contentType⟩ := texts
  refine assertOfflineVideoRecord_eq_ok.mpr ⟨?_, contentType, ?_⟩
  · exact not_or.mpr ⟨title, not_lt.mpr short⟩
  · simp [watched, MAX_SAFE_INTEGER, DELETE_DELAY]

def watchedVideo (videoId : UUID) : StoredVideo :=
  ⟨watched videoId, watched_accepted videoId⟩

def pairedRun : LifecycleRun where
  online := true
  confirmed := .ok []
  reserve := .ok ⟨9⟩
  session := .ok true
  refusal := none
  views _ := ⟨5, 5⟩
  clock _ := 1
  active _ := none
  media _
    | .matchMedia _ => .ok (some ⟨"video/mp4", 1⟩)
    | .mediaKeys => .ok []
    | _ => .error .other

def watchedState (videos : List UUID) (unique : videos.Nodup) : State where
  stores := ⟨⟨videos.map watchedVideo, by
    rw [List.map_map]
    exact (List.map_id videos).symm ▸ unique⟩, .empty⟩
  server := Management.sharedDatabase
  calls := 0

def limitedRun : LifecycleRun :=
  { pairedRun with refusal := some .rateLimited }

/-- Five runs with the view of another account's video exhaust the attempts of
the view of video 2.  So do five whose request is refused, with that view
alone. -/
theorem mixed_outbox_exhausted :
    let state := watchedState [2, 3] (by decide)
    let alone := watchedState [2] (by decide)
    Recorded state.stores.library ∧
      Acceptable state.server 2 2 ∧ ¬ Acceptable state.server 2 3 ∧
      attemptsOf state.stores.library 2 = 0 ∧
      (Foundation.run (next 2) state (List.replicate 5 pairedRun)).map
        (fun final => (decide (Acceptable final.server 2 2),
          attemptsOf final.stores.library 2)) =
            some (true, MAX_SYNC_ATTEMPTS) ∧
      ¬ Along (next 2) (Spares 2) state (List.replicate 5 pairedRun) ∧
      (Foundation.run (next 2) alone (List.replicate 5 limitedRun)).map
        (fun final => (decide (Acceptable final.server 2 2),
          attemptsOf final.stores.library 2)) =
            some (true, MAX_SYNC_ATTEMPTS) := by
  refine ⟨by decide +kernel, by decide +kernel, by decide +kernel,
    by decide +kernel, by decide +kernel, fun along => ?_, by decide +kernel⟩
  have spared := (along _ rfl).1 2 (by decide +kernel)
  revert spared
  decide +kernel

/-- Alone in the outbox it is synced. -/
theorem events_spared_unmixed :
    Along (next 2) (Spares 2) (watchedState [2] (by decide)) [pairedRun] ∧
      ∀ final, Foundation.run (next 2) (watchedState [2] (by decide))
          [pairedRun] = some final →
        attemptsOf final.stores.library 2 < MAX_SYNC_ATTEMPTS := by
  have recorded :
      Recorded (watchedState [2] (by decide)).stores.library := by
    decide +kernel
  have unmixed : Meets (next 2) (Unmixed 2) (watchedState [2] (by decide))
      [pairedRun] := by
    have alone : Unmixed 2 (watchedState [2] (by decide)) pairedRun := by
      decide +kernel
    exact fun _ _ => ⟨alone, trivial⟩
  obtain ⟨exact, spares⟩ := events_spared recorded
  exact ⟨exact.mpr unmixed, fun final ran =>
    spares unmixed final ran 2 (by decide +kernel) (by decide +kernel)⟩

end OfflineReels.Offline.ViewOutbox
