import Mathlib.Data.Finset.Card
import OfflineReels.Offline.DownloadMarks
import OfflineReels.Offline.QueueStarts

namespace OfflineReels.Offline.PumpRounds

open OfflineReels.Foundation
open OfflineReels.Foundation.Program
open OfflineReels.Instagram
open OfflineReels.Offline.OfflineDownloadQueue
open OfflineReels.Offline.DownloadMarks
open OfflineReels.Offline.QueueStarts (queuedIds flags)

/-! The rounds of the pump against an outside that may do anything to the stores
between two calls, short of queueing more than it is allowed to. -/

/-- The downloads that were begun, the one that runs, and how many records the
outside may yet queue. -/
structure Attempts where
  attempted : List StoredVideo
  current : Option StoredVideo
  allowance : Nat

abbrev Pumping : Type := QueueStore × Attempts

def observe : Observer QueueCall QueueReply JsError QueueStore Attempts :=
  fun _ _ input reply _ notes =>
    match input, reply with
    | .beginDownload next, .ok (some _) =>
        { notes with
          attempted := next :: notes.attempted
          current := some next }
    | .endDownload _ _, _ => { notes with current := none }
    | _, _ => notes

def queued (stores : Stores) : Finset UUID := (queuedIds stores).toFinset

def outstanding (state : Pumping) : Nat :=
  (queued state.1.stores).card + state.2.allowance

/-- Between two calls nobody resumes the queue, or queues the record that is
downloaded. -/
structure Meanwhile (before between : Pumping) : Prop where
  fresh : (queued between.1.stores \ queued before.1.stores).card +
    between.2.allowance ≤ before.2.allowance
  apart : ∀ current ∈ before.2.current,
    current.id ∈ queued between.1.stores → current.id ∈ queued before.1.stores
  paused : before.1.snapshot.paused = true →
    between.1.snapshot.paused = true
  attempted : between.2.attempted = before.2.attempted
  current : between.2.current = before.2.current

def Reads (input : BrowserCall) (reply : Except JsError (BrowserReply input)) :
    Prop :=
  match input, reply with
  | .getVideo _, .error _ | .getAllVideos, .error _ | .now, .error _ => False
  | _, _ => True

/-- Reads succeed, the estimate of the space among them. -/
def Readable (input : QueueCall) (reply : Except JsError (QueueReply input)) :
    Prop :=
  match input, reply with
  | .browse input, reply | .download _ (.browse input), reply =>
      Reads input reply
  | .download _ .getStorageEstimate, .error _ => False
  | _, _ => True

/-- The write that marks a queued record may only fail with an error that
pauses. -/
def Marking (store : QueueStore) (input : QueueCall)
    (reply : Except JsError (QueueReply input)) : Prop :=
  match input, reply with
  | .download _ (.browse (.putVideo record)), .error error =>
      record.id ∈ queued store.stores → pauses error = true
  | _, _ => True

def Served (store : QueueStore) (input : QueueCall)
    (reply : Except JsError (QueueReply input)) : Prop :=
  Readable input reply ∧ Marking store input reply

/-- Nothing fails with an error that pauses, and there is enough space. -/
def Mild (state : Pumping) (input : QueueCall)
    (reply : Except JsError (QueueReply input)) : Prop :=
  match input, reply with
  | .browse _, .error error | .download _ _, .error error =>
      pauses error = false
  | .download _ .getStorageEstimate, .ok estimate =>
      ∀ next ∈ state.2.current,
        Downloader.hasEstimatedSpaceForDownload next.byteSize estimate = true
  | .download _ .signalAborted, .ok aborted => aborted = false
  | _, _ => True

/-- The downloader does not meet a record that was viewed or deleted. -/
def Unviewed (input : QueueCall) (reply : Except JsError (QueueReply input)) :
    Prop :=
  match input, reply with
  | .download _ (.browse (.getVideo _)), .ok found =>
      ∀ record ∈ found, record.isTombstone = false
  | _, _ => True

def Smooth (state : Pumping) (input : QueueCall)
    (reply : Except JsError (QueueReply input)) : Prop :=
  Mild state input reply ∧ Unviewed input reply

/-- What the outside does before a call, and what the call is answered. -/
def responds (condition : Pumping → (input : QueueCall) →
      Except JsError (QueueReply input) → Prop) (thread : ThreadId)
    (state : Pumping) (input : QueueCall)
    (reply : Except JsError (QueueReply input)) (after : Pumping) : Prop :=
  ∃ between choice, Meanwhile state between ∧ condition between input reply ∧
    noting QueueStore.perform observe thread between input choice =
      some (after, reply)

/-! A list read in `reading` is the pump's own.  In `working` a record may still be
queued; `rounds` counts those that went on. -/

inductive Stage
  | opening
  | reading
  | chosen (next : StoredVideo)
  | working (next : StoredVideo) (waiting : Bool)
  | stopped
  | closing
  | drained
  | finished

structure PumpPhase where
  rounds : Nat
  stage : Stage

section

variable (owed : Finset UUID) (total : Nat) (strict : Bool)

def permitsOpening : BrowserCall → Prop
  | .putVideo record => record.status ≠ .queued ∧ record.id ∉ owed
  | .deleteVideo _ | .markVideoViewed _ _ | .clearVideos _ => False
  | _ => True

def permits (phase : PumpPhase) (input : QueueCall) : Prop :=
  match phase.stage, input with
  | .opening, .browse input => permitsOpening owed input
  | .opening, .callStart | .opening, .beginInitialize
  | .opening, .awaitInitialized | .opening, .refreshed _ _
  | .opening, .join => True
  | .opening, .initialized outcome => outcome = .ok ()
  | .reading, .browse .getAllVideos => True
  | .reading, .never => phase.rounds = total
  | .chosen next, .beginDownload other => other = next
  | .working next waiting, .download _ input =>
      permitsDownload next.id waiting input
  | .working _ _, .takeCancelled _ => True
  | .working _ _, .browse (.deleteMedia _) => True
  | .working next waiting, .browse (.deleteVideo videoId) =>
      videoId = next.id ∧ waiting = false
  | .working _ _, .downloadFailed code =>
      strict = true → isPausing code = false
  | .working _ waiting, .endDownload _ _ => waiting = false
  | .stopped, .endDownload _ _ => True
  | .closing, .browse .getAllVideos | .closing, .refreshed _ _
  | .closing, .pumpTest => True
  | .drained, .pumpEnded | .drained, .settlePump _ _
  | .drained, .finishStart _ => True
  | .finished, .pumpEnded => True
  | _, _ => False

def assumesListing : Stage → Except JsError (List StoredVideo) → Prop
  | _, .error _ => False
  | .opening, .ok records => strict = true →
      ∀ record ∈ records, record.id ∈ owed → record.status = .queued
  | _, .ok _ => True

def assumes (phase : PumpPhase) (input : QueueCall)
    (reply : Except JsError (QueueReply input)) : Prop :=
  match phase.stage, input, reply with
  | stage, .browse .getAllVideos, reply => assumesListing owed strict stage reply
  | _, .browse (.getVideo requested), .ok found =>
      ∀ record ∈ found, record.id = requested
  | .working _ _, .browse _, .error error =>
      strict = true → pauses error = false
  | .working next waiting, .download _ input, reply =>
      assumesDownload strict next.byteSize waiting input reply
  | _, .awaitInitialized, .error _ => strict = false
  | _, .join, .ok join => strict = true → ∃ pump, join = .created pump
  | _, .beginDownload _, .ok begun => strict = true → begun.isSome = true
  | _, .pumpTest, .ok again => strict = true → again = true
  | _, .never, _ => False
  | _, .browse _, _ | _, .finishStart _, _ => True
  | _, _, .error _ => False
  | _, _, .ok _ => True

def chosenOf (records : List StoredVideo) : Stage :=
  match (sortRecords records).find? (·.status = .queued) with
  | none => .drained
  | some next => .chosen next

def advanceStage (stage : Stage) (input : QueueCall)
    (reply : Except JsError (QueueReply input)) : Stage :=
  match stage, input, reply with
  | .opening, .join, .ok (.created _) => .reading
  | .opening, .join, _ => .finished
  | .reading, .browse .getAllVideos, .ok records => chosenOf records
  | .chosen next, .beginDownload _, .ok (some _) => .working next true
  | .chosen _, .beginDownload _, _ => .finished
  | .working next waiting, .download _ input, reply =>
      .working next (advanceDownload waiting input reply)
  | .working next waiting, .downloadFailed code, _ =>
      if isPausing code then .stopped else .working next waiting
  | .working _ _, .endDownload _ _, _ | .stopped, .endDownload _ _, _ =>
      .closing
  | .closing, .pumpTest, .ok true => .reading
  | .closing, .pumpTest, _ => .finished
  | stage, _, _ => stage

def advance (phase : PumpPhase) (input : QueueCall)
    (reply : Except JsError (QueueReply input)) : PumpPhase where
  rounds :=
    match input, reply with
    | .pumpTest, .ok true => phase.rounds + 1
    | _, _ => phase.rounds
  stage := advanceStage phase.stage input reply

def pumpProtocol : Protocol QueueCall QueueReply JsError PumpPhase where
  permits := permits owed total strict
  assumes := assumes owed strict
  advance := advance

end

section

variable {owed : Finset UUID} {total : Nat} {strict : Bool} {α : Type}

def Returns (protocol : Protocol QueueCall QueueReply JsError PumpPhase)
    (phase : PumpPhase) (program : QueueProgram α) : Prop :=
  Follows protocol phase program fun outcome reached =>
    reached = phase ∧ ∃ value, outcome = .ok value

theorem Returns.before {β : Type} {phase : PumpPhase}
    {program : QueueProgram α} {next : α → QueueProgram β}
    {post : Except JsError β → PumpPhase → Prop}
    (first : Returns (pumpProtocol owed total strict) phase program)
    (goes : ∀ value,
      Follows (pumpProtocol owed total strict) phase (next value) post) :
    Follows (pumpProtocol owed total strict) phase (program >>= next) post := by
  refine first.bind ?_ ?_
  · intro value reached ⟨same, _⟩
    exact same ▸ goes value
  · intro fault reached ⟨_, value, same⟩
    cases same

theorem listOfflineVideos_returns {rounds : Nat} {stage : Stage}
    (beside : stage = .opening ∨ stage = .closing) :
    Returns (pumpProtocol owed total strict) ⟨rounds, stage⟩
      (browsed listOfflineVideos) := by
  rcases beside with rfl | rfl
  all_goals
    refine ⟨trivial, fun reply listed => ?_⟩
    cases reply with
    | error error => exact listed.elim
    | ok records => exact ⟨rfl, _, rfl⟩

theorem calculateCompletedLibrarySize_returns {rounds : Nat} {stage : Stage}
    (beside : stage = .opening ∨ stage = .closing) :
    Returns (pumpProtocol owed total strict) ⟨rounds, stage⟩
      (browsed calculateCompletedLibrarySize) := by
  rcases beside with rfl | rfl
  all_goals
    refine ⟨trivial, fun reply listed => ?_⟩
    cases reply with
    | error error => exact listed.elim
    | ok records => exact ⟨rfl, _, rfl⟩

theorem refreshRecords_returns {rounds : Nat} {stage : Stage}
    (beside : stage = .opening ∨ stage = .closing) :
    Returns (pumpProtocol owed total strict) ⟨rounds, stage⟩
      refreshRecords := by
  refine (listOfflineVideos_returns beside).before fun records => ?_
  refine (calculateCompletedLibrarySize_returns beside).before
    fun completedBytes => ?_
  rcases beside with rfl | rfl
  all_goals
    refine ⟨trivial, fun reply refreshed => ?_⟩
    cases reply with
    | error error => exact refreshed.elim
    | ok _ => exact ⟨rfl, (), rfl⟩

def Settles (rounds : Nat) (next : StoredVideo) (strict : Bool)
    (outcome : Except JsError α) (phase : PumpPhase) : Prop :=
  ∃ waiting, phase = ⟨rounds, .working next waiting⟩ ∧
    Marks outcome waiting ∧ (strict = true → Calm outcome)

theorem downloading_settles (rounds : Nat) (next : StoredVideo)
    (controller : Nat) :
    Follows (pumpProtocol owed total strict) ⟨rounds, .working next true⟩
      (downloading controller (Downloader.downloadVideoForOffline
        (videoOf next.toOfflineVideoRecord)))
      (Settles rounds next strict) := by
  have settles : Follows (pumpProtocol owed total strict)
      ⟨rounds, .working next true⟩
      (downloading controller (Downloader.downloadVideoForOffline
        (videoOf next.toOfflineVideoRecord)))
      fun outcome phase => ∃ waiting,
        (Marks outcome waiting ∧ (strict = true → Calm outcome)) ∧
          phase = ⟨rounds, .working next waiting⟩ := by
    refine Follows.simulate ?_ (downloadVideoForOffline_settles strict) rfl
    intro waiting phase input same permitted
    subst same
    exact ⟨permitted, fun reply assumed => ⟨assumed, rfl⟩⟩
  refine settles.mono fun outcome phase holds => ?_
  obtain ⟨waiting, settled, same⟩ := holds
  exact ⟨waiting, same, settled⟩

theorem settles_of_marked {rounds : Nat} {next : StoredVideo}
    {outcome : Except JsError α} (calm : strict = true → Calm outcome) :
    Settles rounds next strict outcome ⟨rounds, .working next false⟩ :=
  ⟨false, rfl, .inl rfl, calm⟩

theorem pauses_wrapped {error : JsError} {fallback : OfflineErrorCode}
    (mild : isPausing fallback = false)
    (calm : strict = true → pauses error = false) :
    strict = true → pauses (.offlineStorage
      (toOfflineStorageError error fallback)) = false :=
  fun strictly => isPausing_toOfflineStorageError (calm strictly) mild

theorem deleteCachedVideo_returns (rounds : Nat) (next : StoredVideo)
    (waiting : Bool) (videoId : UUID) :
    Returns (pumpProtocol owed total strict) ⟨rounds, .working next waiting⟩
      ((browsed (deleteCachedVideo videoId)).attempt fun _ => pure ()) := by
  refine ⟨trivial, fun reply _ => ?_⟩
  cases reply with
  | error error => exact ⟨rfl, (), rfl⟩
  | ok deleted => exact ⟨rfl, (), rfl⟩

theorem deleteOfflineVideo_settles (rounds : Nat) (next : StoredVideo) :
    Follows (pumpProtocol owed total strict) ⟨rounds, .working next false⟩
      (browsed (deleteOfflineVideo next.id))
      (Settles rounds next strict) := by
  refine ⟨⟨rfl, rfl⟩, fun reply assumed => ?_⟩
  cases reply with
  | ok _ => exact settles_of_marked fun _ => calm_ok ()
  | error error =>
      exact settles_of_marked fun strictly =>
        calm_error (pauses_wrapped rfl assumed strictly)

theorem attemptDownload_settles (rounds : Nat) (next : StoredVideo)
    (controller : Nat) :
    Follows (pumpProtocol owed total strict) ⟨rounds, .working next true⟩
      (attemptDownload controller next) (Settles rounds next strict) := by
  refine (downloading_settles rounds next controller).bind ?_ ?_
  · intro completed phase ⟨waiting, same, marks, _⟩
    subst same
    rcases marks with marked | ⟨_, raised, _⟩
    · subst marked
      refine ⟨trivial, fun reply taken => ?_⟩
      cases reply with
      | error error => exact taken.elim
      | ok cancelled =>
          cases cancelled with
          | false => exact settles_of_marked fun _ => calm_ok ()
          | true =>
              exact (deleteCachedVideo_returns rounds next false next.id).before
                fun _ => deleteOfflineVideo_settles rounds next
    · cases raised
  · intro error phase ⟨waiting, same, marks, calm⟩
    refine ⟨waiting, same, marks_error marks, fun strictly => ?_⟩
    exact calm_error (calm strictly error rfl)

theorem endDownload_returns {rounds controller : Nat} {videoId : UUID}
    {stage : Stage}
    (settled : stage = .stopped ∨ ∃ next, stage = .working next false) :
    Follows (pumpProtocol owed total strict) ⟨rounds, stage⟩
      (do
        exec (.endDownload controller videoId)
        refreshRecords)
      fun outcome reached => reached = ⟨rounds, .closing⟩ ∧ outcome = .ok () := by
  rcases settled with rfl | ⟨next, rfl⟩
  all_goals
    refine ⟨by trivial, fun reply ended => ?_⟩
    cases reply with
    | error error => exact ended.elim
    | ok _ =>
        refine (refreshRecords_returns (.inr rfl)).mono ?_
        exact fun outcome reached ⟨same, _, returned⟩ => ⟨same, returned⟩

theorem downloadNext_closes (rounds : Nat) (next : StoredVideo)
    (controller : Nat) :
    Follows (pumpProtocol owed total strict) ⟨rounds, .working next true⟩
      (downloadNext controller next)
      fun outcome reached => reached = ⟨rounds, .closing⟩ ∧ outcome = .ok () := by
  refine (attemptDownload_settles rounds next controller).attempt ?_
  intro outcome phase ⟨waiting, same, marks, calm⟩
  subst same
  cases outcome with
  | ok _ =>
      rcases marks with marked | ⟨_, raised, _⟩
      · subst marked
        exact endDownload_returns (.inr ⟨next, rfl⟩)
      · cases raised
  | error error =>
      refine ⟨fun strictly => calm strictly error rfl, fun reply failed => ?_⟩
      cases reply with
      | error raised => exact failed.elim
      | ok _ =>
          change Follows (pumpProtocol owed total strict) ⟨rounds,
            if pauses error = true then .stopped
            else .working next waiting⟩ _ _
          rcases marks with marked | ⟨raised, same, stops⟩
          · subst marked
            split
            · exact endDownload_returns (.inl rfl)
            · exact endDownload_returns (.inr ⟨next, rfl⟩)
          · cases same
            rw [if_pos stops]
            exact endDownload_returns (.inl rfl)

def Drains (strict : Bool) (_ : Except JsError α) (phase : PumpPhase) : Prop :=
  strict = true → phase.stage = .drained

theorem pumpEnded_drains {phase : PumpPhase}
    (permitted : permits owed total strict phase .pumpEnded)
    (still : ∀ reply, advanceStage phase.stage .pumpEnded reply = phase.stage)
    (drained : strict = true → phase.stage = .drained) :
    Follows (pumpProtocol owed total strict) phase (exec .pumpEnded)
      (Drains strict) := by
  refine ⟨permitted, fun reply _ strictly => ?_⟩
  exact (still reply).trans (drained strictly)

theorem pumpTest_follows {rounds passed : Nat}
    (continues : Follows (pumpProtocol owed total strict)
      ⟨passed + 1, .reading⟩ (pump rounds) (Drains strict)) :
    Follows (pumpProtocol owed total strict) ⟨passed, .closing⟩
      (do
        let again : Bool ← exec .pumpTest
        if again then pump rounds else exec .pumpEnded)
      (Drains strict) := by
  refine ⟨trivial, fun reply tested => ?_⟩
  cases reply with
  | error error => exact tested.elim
  | ok again =>
      cases again with
      | true => exact continues
      | false =>
          refine pumpEnded_drains trivial (fun _ => rfl) ?_
          exact fun strictly => nomatch tested strictly

theorem pump_follows {rounds passed : Nat} (counted : passed + rounds = total) :
    Follows (pumpProtocol owed total strict) ⟨passed, .reading⟩ (pump rounds)
      (Drains strict) := by
  induction rounds generalizing passed with
  | zero => exact ⟨counted, fun reply never => never.elim⟩
  | succ rounds ih =>
      refine ⟨trivial, fun reply listed => ?_⟩
      cases reply with
      | error error => exact listed.elim
      | ok records =>
          change Follows (pumpProtocol owed total strict)
            ⟨passed, chosenOf records⟩
            (pumpRound rounds
              ((sortRecords records).find? (·.status = .queued))) _
          unfold chosenOf
          cases (sortRecords records).find? (·.status = .queued) with
          | none => exact pumpEnded_drains trivial (fun _ => rfl) fun _ => rfl
          | some next =>
              refine ⟨rfl, fun reply begun => ?_⟩
              cases reply with
              | error error => exact begun.elim
              | ok controller =>
                  cases controller with
                  | none =>
                      refine pumpEnded_drains trivial (fun _ => rfl) ?_
                      exact fun strictly => nomatch begun strictly
                  | some controller =>
                      refine (downloadNext_closes passed next controller).bind
                        ?_ ?_
                      · intro _ phase ⟨closed, _⟩
                        subst closed
                        exact pumpTest_follows (ih (by omega))
                      · intro _ _ ⟨_, failed⟩
                        cases failed

end

theorem mem_queued {stores : Stores} {videoId : UUID} :
    videoId ∈ queued stores ↔ ∃ record ∈ stores.library,
      record.id = videoId ∧ record.status = .queued := by
  unfold queued queuedIds
  simp only [List.mem_toFinset, List.mem_map, List.mem_filter,
    decide_eq_true_eq]
  constructor
  · intro ⟨record, ⟨member, waits⟩, same⟩
    exact ⟨record, member, same, waits⟩
  · intro ⟨record, member, same, waits⟩
    exact ⟨record, ⟨member, waits⟩, same⟩

theorem mem_queued_find? {stores : Stores} {videoId : UUID} :
    videoId ∈ queued stores ↔ ∃ record,
      stores.library.find? videoId = some record ∧ record.status = .queued := by
  rw [mem_queued]
  constructor
  · intro ⟨record, member, same, waits⟩
    exact ⟨record, Table.find?_eq_some.mpr ⟨member, same⟩, waits⟩
  · intro ⟨record, found, waits⟩
    obtain ⟨member, same⟩ := Table.find?_eq_some.mp found
    exact ⟨record, member, same, waits⟩

theorem queued_putVideo (stores : Stores) (record : StoredVideo) :
    queued (stores.putVideo record) =
      if record.status = .queued then insert record.id (queued stores)
      else (queued stores).erase record.id := by
  ext videoId
  by_cases same : videoId = record.id
  · subst same
    rw [mem_queued_find?]
    simp only [Stores.putVideo, Table.find?_upsert_self]
    split <;> simp [*]
  · have kept : videoId ∈ queued (stores.putVideo record) ↔
        videoId ∈ queued stores := by
      rw [mem_queued_find?, mem_queued_find?]
      have other : (stores.library.upsert record).find? videoId =
          stores.library.find? videoId :=
        Table.find?_upsert_other fun clash => same clash.symm
      simp only [Stores.putVideo, other]
    rw [kept]
    split <;> simp [same]

theorem queued_deleteVideo (stores : Stores) (videoId : UUID) :
    queued (stores.deleteVideo videoId) = (queued stores).erase videoId := by
  ext other
  simp only [mem_queued, Stores.deleteVideo, Table.mem_filter,
    Finset.mem_erase]
  constructor
  · intro kept
    obtain ⟨record, ⟨member, apart⟩, same, waits⟩ := kept
    subst same
    exact ⟨by simpa using apart, record, member, rfl, waits⟩
  · intro kept
    obtain ⟨apart, record, member, same, waits⟩ := kept
    subst same
    exact ⟨record, ⟨member, by simpa using apart⟩, rfl, waits⟩

def Requeues (before after : Stores) (input : BrowserCall)
    (reply : Except JsError (BrowserReply input)) : Prop :=
  match input, reply with
  | .putVideo record, .ok _ => queued after = queued (before.putVideo record)
  | .deleteVideo videoId, .ok _ =>
      queued after = queued (before.deleteVideo videoId)
  | .markVideoViewed _ _, .ok _ | .clearVideos _, .ok _ => True
  | _, _ => queued after = queued before

/-- What a read answers. -/
def Answers (stores : Stores) (input : BrowserCall)
    (reply : Except JsError (BrowserReply input)) : Prop :=
  match input, reply with
  | .getVideo videoId, .ok found => found = stores.library.find? videoId
  | .getAllVideos, .ok records => records = stores.library.rows
  | _, _ => True

theorem browsed_queued {store after : QueueStore} {choice : QueueChoice}
    {input : BrowserCall} {reply : Except JsError (BrowserReply input)}
    (browsed : store.browsed choice input = some (after, reply)) :
    Requeues store.stores after.stores input reply := by
  cases choice with
  | rejects error =>
      cases browsed
      cases input <;> rfl
  | returns draw =>
      obtain ⟨⟨_, answer⟩, answered, same⟩ :=
        Option.map_eq_some_iff.mp browsed
      cases same
      cases input <;> cases answered <;> first
        | exact trivial
        | rfl

theorem browsed_answers {store after : QueueStore} {choice : QueueChoice}
    {input : BrowserCall} {reply : Except JsError (BrowserReply input)}
    (browsed : store.browsed choice input = some (after, reply)) :
    Answers store.stores input reply := by
  cases choice with
  | rejects error =>
      cases browsed
      cases input <;> trivial
  | returns draw =>
      obtain ⟨⟨_, answer⟩, answered, same⟩ :=
        Option.map_eq_some_iff.mp browsed
      cases same
      cases input <;> cases answered <;> first
        | rfl
        | exact trivial

theorem updateBatchProgress_eq (store : QueueStore) :
    ∃ snapshot, store.updateBatchProgress = { store with snapshot } := by
  unfold QueueStore.updateBatchProgress
  split <;> exact ⟨_, rfl⟩

theorem refreshed_eq (store : QueueStore) (records : List StoredVideo)
    (completedBytes : Nat) :
    ∃ snapshot, store.refreshed records completedBytes =
      { store with snapshot } :=
  updateBatchProgress_eq _

theorem refreshed_stores (store : QueueStore) (records : List StoredVideo)
    (completedBytes : Nat) :
    (store.refreshed records completedBytes).stores = store.stores := by
  obtain ⟨snapshot, shown⟩ := refreshed_eq store records completedBytes
  rw [shown]

theorem progressed_eq (store : QueueStore) (controller : Nat)
    (progress : DownloadProgress) :
    ∃ snapshot, store.progressed controller progress =
      { store with snapshot } := by
  unfold QueueStore.progressed
  split
  · exact ⟨store.snapshot, rfl⟩
  · exact updateBatchProgress_eq _

theorem transform_eq (store : QueueStore) (controller : Nat)
    (progress : DownloadProgress) (draw : QueueDraw) :
    ∃ snapshot, (store.transform controller progress draw).1 =
      { store with snapshot } := by
  unfold QueueStore.transform
  split
  · exact ⟨store.snapshot, rfl⟩
  · split
    · exact progressed_eq _ _ _
    · exact ⟨store.snapshot, rfl⟩

theorem download_eq {store after : QueueStore} {choice : QueueChoice}
    {controller : Nat} {input : DownloadCall}
    {reply : Except JsError (DownloadReply input)}
    (downloaded : store.download choice controller input =
      some (after, reply))
    (apart : ∀ request, input ≠ .browse request) :
    ∃ snapshot, after = { store with snapshot } := by
  cases input with
  | browse input => exact absurd rfl (apart input)
  | signalAborted =>
      cases downloaded
      exact ⟨store.snapshot, rfl⟩
  | finishProgress progress =>
      cases downloaded
      exact progressed_eq _ _ _
  | getStorageEstimate =>
      cases choice <;> cases downloaded <;> exact ⟨store.snapshot, rfl⟩
  | fetch videoId =>
      cases choice <;> cases downloaded <;> exact ⟨store.snapshot, rfl⟩
  | transform progress =>
      cases choice with
      | rejects error =>
          cases downloaded
          exact ⟨store.snapshot, rfl⟩
      | returns draw =>
          have same : (store.transform controller progress draw).1 = after :=
            congrArg Prod.fst (Option.some.inj downloaded)
          rw [← same]
          exact transform_eq _ _ _ _

def remaining (next : StoredVideo) (state : Pumping) : Nat :=
  ((queued state.1.stores).erase next.id).card + state.2.allowance

def Watches (limit : Nat) (phase : PumpPhase) (state : Pumping) : Prop :=
  match phase.stage with
  | .opening | .reading => outstanding state + phase.rounds ≤ limit
  | .chosen next => remaining next state + 1 + phase.rounds ≤ limit
  | .working next waiting =>
      remaining next state + 1 + phase.rounds ≤ limit ∧
        state.2.current = some next ∧
        (waiting = false → next.id ∉ queued state.1.stores)
  | .stopped => state.1.snapshot.paused = true
  | .closing => state.1.snapshot.paused = true ∨
      outstanding state + 1 + phase.rounds ≤ limit
  | .drained | .finished => True

theorem Meanwhile.outstanding_le {before between : Pumping}
    (meanwhile : Meanwhile before between) :
    outstanding between ≤ outstanding before := by
  have counted := Finset.card_le_card_sdiff_add_card
    (s := queued between.1.stores) (t := queued before.1.stores)
  have fresh := meanwhile.fresh
  unfold outstanding
  omega

theorem Meanwhile.remaining_le {before between : Pumping}
    (meanwhile : Meanwhile before between) (next : StoredVideo) :
    remaining next between ≤ remaining next before := by
  have counted := Finset.card_le_card_sdiff_add_card
    (s := (queued between.1.stores).erase next.id)
    (t := (queued before.1.stores).erase next.id)
  have within : ((queued between.1.stores).erase next.id \
      (queued before.1.stores).erase next.id).card ≤
        (queued between.1.stores \ queued before.1.stores).card := by
    refine Finset.card_le_card fun videoId member => ?_
    simp only [Finset.mem_sdiff, Finset.mem_erase, not_and] at member ⊢
    exact ⟨member.1.2, member.2 member.1.1⟩
  have fresh := meanwhile.fresh
  unfold remaining
  omega

theorem Watches.meanwhile {limit : Nat} {phase : PumpPhase}
    {before between : Pumping} (watched : Watches limit phase before)
    (meanwhile : Meanwhile before between) :
    Watches limit phase between := by
  obtain ⟨rounds, stage⟩ := phase
  have fewer := meanwhile.outstanding_le
  cases stage with
  | opening | reading => exact le_trans (by simpa using fewer) watched
  | chosen next =>
      have left := meanwhile.remaining_le next
      simp only [Watches] at watched ⊢
      omega
  | working next waiting =>
      obtain ⟨bounded, current, marked⟩ := watched
      have left := meanwhile.remaining_le next
      refine ⟨?_, meanwhile.current.trans current, fun settled waits => ?_⟩
      · dsimp only at bounded ⊢
        omega
      · exact marked settled (meanwhile.apart next current waits)
  | stopped => exact meanwhile.paused watched
  | closing =>
      refine watched.imp meanwhile.paused fun bounded => ?_
      dsimp only at bounded ⊢
      omega
  | drained | finished => trivial

section

variable {owed : Finset UUID} {total limit : Nat} {strict : Bool}
variable {thread : ThreadId} {between after : Pumping} {choice : QueueChoice}

theorem observe_allowance {input : QueueCall}
    {reply : Except JsError (QueueReply input)} {store next : QueueStore}
    (notes : Attempts) :
    (observe thread store input reply next notes).allowance =
      notes.allowance := by
  unfold observe
  split <;> rfl

/-- Where the stores keep their queued records, nothing is counted anew. -/
theorem outstanding_kept {input : QueueCall}
    {reply : Except JsError (QueueReply input)}
    (noted : after.2 = observe thread between.1 input reply after.1 between.2)
    (same : queued after.1.stores = queued between.1.stores) :
    outstanding after = outstanding between := by
  unfold outstanding
  rw [same, noted, observe_allowance]

theorem remaining_kept {input : QueueCall}
    {reply : Except JsError (QueueReply input)} (next : StoredVideo)
    (noted : after.2 = observe thread between.1 input reply after.1 between.2)
    (same : (queued after.1.stores).erase next.id =
      (queued between.1.stores).erase next.id) :
    remaining next after = remaining next between := by
  unfold remaining
  rw [same, noted, observe_allowance]

theorem assumesBrowse_of {next : StoredVideo} {waiting : Bool}
    {controller : Nat} {input : BrowserCall}
    {reply : Except JsError (BrowserReply input)} {store : QueueStore}
    (marked : waiting = false → next.id ∉ queued between.1.stores)
    (permitted : permitsBrowse next.id waiting input)
    (served : Served between.1 (.download controller (.browse input)) reply)
    (smooth : strict = true →
      Smooth between (.download controller (.browse input)) reply)
    (browsed : between.1.browsed choice input = some (store, reply)) :
    assumesBrowse strict waiting input reply := by
  refine ⟨?_, fun strictly error failed => ?_⟩
  · cases input with
    | getVideo requested =>
        cases reply with
        | error error => exact served.1.elim
        | ok found =>
            have answers := browsed_answers browsed
            intro record member
            rw [answers] at member
            have here := (Table.find?_eq_some.mp member).2
            refine ⟨here, fun waits => ?_, fun strictly => ?_⟩
            · by_contra settled
              refine marked (by simpa using settled) ?_
              rw [← permitted]
              exact mem_queued_find?.mpr ⟨record, member, waits⟩
            · exact (smooth strictly).2 record (answers ▸ member)
    | now =>
        cases reply with
        | error error => exact served.1.elim
        | ok now => trivial
    | _ => cases reply <;> trivial
  · subst failed
    exact (smooth strictly).1

theorem watched_browsed {rounds : Nat} {next : StoredVideo} {waiting : Bool}
    {controller : Nat} {input : BrowserCall}
    {reply : Except JsError (BrowserReply input)}
    (watched : Watches limit ⟨rounds, .working next waiting⟩ between)
    (permitted : permitsBrowse next.id waiting input)
    (served : Served between.1 (.download controller (.browse input)) reply)
    (browsed : between.1.browsed choice input = some (after.1, reply))
    (same : after.2 = between.2) :
    Watches limit ⟨rounds, .working next (advanceBrowse waiting input reply)⟩
      after := by
  obtain ⟨bounded, current, marked⟩ := watched
  have effect := browsed_queued browsed
  have others : (queued after.1.stores).erase next.id =
      (queued between.1.stores).erase next.id := by
    cases input with
    | putVideo record =>
        cases reply with
        | error error => exact congrArg (Finset.erase · next.id) effect
        | ok _ =>
            rw [effect, queued_putVideo, permitted.1]
            split
            · exact Finset.erase_insert_eq_erase _ _
            · exact Finset.erase_idem
    | getVideo requested | matchMedia path | putMedia path media
    | deleteMedia path | now =>
        cases reply <;> exact congrArg (Finset.erase · next.id) effect
    | _ => exact permitted.elim
  refine ⟨?_, same ▸ current, fun settled waits => ?_⟩
  · unfold remaining at bounded ⊢
    rw [others, same]
    exact bounded
  · cases input with
    | putVideo record =>
        cases reply with
        | ok _ =>
            have apart : record.status ≠ .queued := of_decide_eq_false settled
            rw [effect, queued_putVideo, if_neg apart, permitted.1] at waits
            exact Finset.notMem_erase _ _ waits
        | error error =>
            rw [effect] at waits
            cases waited : waiting with
            | false => exact marked waited waits
            | true =>
                have stops : pauses error = true :=
                  served.2 (permitted.1 ▸ waits)
                simp [advanceBrowse, waited, stops] at settled
    | getVideo requested =>
        cases reply with
        | error error => exact served.1.elim
        | ok found =>
            have answers := browsed_answers browsed
            rw [effect] at waits
            obtain ⟨record, here, queued⟩ := mem_queued_find?.mp waits
            rw [← permitted, ← answers] at here
            subst here
            simp [advanceBrowse, queued] at settled
    | matchMedia path | putMedia path media | deleteMedia path | now =>
        have same : queued after.1.stores = queued between.1.stores := by
          cases reply <;> exact effect
        have waited : waiting = false := by
          cases reply <;> exact settled
        exact marked waited (same ▸ waits)
    | _ => exact permitted.elim

theorem Watches.still {rounds : Nat} {next : StoredVideo} {waiting : Bool}
    (watched : Watches limit ⟨rounds, .working next waiting⟩ between)
    (stores : queued after.1.stores = queued between.1.stores)
    (same : after.2 = between.2) :
    Watches limit ⟨rounds, .working next waiting⟩ after := by
  obtain ⟨bounded, current, marked⟩ := watched
  refine ⟨?_, same ▸ current, fun settled => stores ▸ marked settled⟩
  unfold remaining at bounded ⊢
  rw [stores, same]
  exact bounded

theorem Mild.calm {state : Pumping} {controller : Nat}
    {input : DownloadCall} {error : JsError}
    (mild : Mild state (.download controller input) (.error error)) :
    pauses error = false := by
  cases input with
  | browse input => cases input <;> exact mild
  | _ => exact mild

theorem assumesDownload_of {rounds : Nat} {next : StoredVideo} {waiting : Bool}
    {controller : Nat} {input : DownloadCall}
    {reply : Except JsError (DownloadReply input)} {store : QueueStore}
    (watched : Watches limit ⟨rounds, .working next waiting⟩ between)
    (permitted : permitsDownload next.id waiting input)
    (served : Served between.1 (.download controller input) reply)
    (smooth : strict = true → Smooth between (.download controller input) reply)
    (downloaded : between.1.download choice controller input =
      some (store, reply)) :
    assumesDownload strict next.byteSize waiting input reply := by
  have calm : strict = true → ∀ error, reply = .error error →
      pauses error = false := by
    intro strictly error failed
    subst failed
    exact (smooth strictly).1.calm
  cases input with
  | browse input =>
      exact assumesBrowse_of watched.2.2 permitted served smooth downloaded
  | getStorageEstimate =>
      cases reply with
      | error error => exact served.1
      | ok estimate =>
          intro strictly
          have current : next ∈ between.2.current := watched.2.1
          exact (smooth strictly).1 next current
  | signalAborted =>
      cases reply with
      | error error => exact calm
      | ok aborted => exact fun strictly => (smooth strictly).1
  | fetch videoId => exact calm
  | transform progress => exact calm
  | finishProgress progress => exact calm

theorem watched_download {rounds : Nat} {next : StoredVideo} {waiting : Bool}
    {controller : Nat} {input : DownloadCall}
    {reply : Except JsError (DownloadReply input)}
    (watched : Watches limit ⟨rounds, .working next waiting⟩ between)
    (permitted : permitsDownload next.id waiting input)
    (served : Served between.1 (.download controller input) reply)
    (downloaded : between.1.download choice controller input =
      some (after.1, reply))
    (same : after.2 = between.2) :
    Watches limit
      ⟨rounds, .working next (advanceDownload waiting input reply)⟩ after := by
  cases input with
  | browse input =>
      exact watched_browsed watched permitted served downloaded same
  | _ =>
      obtain ⟨snapshot, shown⟩ :=
        download_eq downloaded fun _ clash => by cases clash
      exact watched.still (by rw [shown]) same

theorem opening_queued {input : BrowserCall}
    {reply : Except JsError (BrowserReply input)} {store : QueueStore}
    (permitted : permitsOpening owed input)
    (browsed : between.1.browsed choice input = some (store, reply)) :
    queued store.stores ⊆ queued between.1.stores := by
  have effect := browsed_queued browsed
  cases input with
  | putVideo record =>
      cases reply with
      | error error => exact effect.subset
      | ok _ =>
          rw [effect, queued_putVideo, if_neg permitted.1]
          exact Finset.erase_subset _ _
  | deleteVideo videoId | markVideoViewed videoId viewedAt
  | clearVideos preserveViewed => exact permitted.elim
  | _ => cases reply <;> exact effect.subset

theorem join_stores (store : QueueStore) :
    store.join.1.stores = store.stores := by
  unfold QueueStore.join
  split_ifs <;> try rfl
  dsimp only
  split <;> rfl

theorem opening_stores {input : QueueCall}
    {reply : Except JsError (QueueReply input)} {store : QueueStore}
    {rounds : Nat} (permitted : permits owed total strict ⟨rounds, .opening⟩ input)
    (performed : between.1.perform thread input choice = some (store, reply)) :
    queued store.stores ⊆ queued between.1.stores := by
  cases input with
  | browse input => exact opening_queued permitted performed
  | callStart =>
      cases performed
      exact subset_rfl
  | beginInitialize =>
      simp only [QueueStore.perform] at performed
      split at performed <;> cases performed <;> exact subset_rfl
  | awaitInitialized =>
      simp only [QueueStore.perform] at performed
      split at performed <;> cases performed
      exact subset_rfl
  | initialized outcome =>
      cases performed
      exact subset_rfl
  | refreshed records completedBytes =>
      cases performed
      rw [refreshed_stores]
  | join =>
      cases performed
      rw [join_stores]
  | _ => exact permitted.elim

theorem outstanding_mono {input : QueueCall}
    {reply : Except JsError (QueueReply input)}
    (noted : after.2 = observe thread between.1 input reply after.1 between.2)
    (fewer : queued after.1.stores ⊆ queued between.1.stores) :
    outstanding after ≤ outstanding between := by
  have counted := Finset.card_le_card fewer
  unfold outstanding
  rw [noted, observe_allowance]
  omega

theorem remaining_of_queued {next : StoredVideo} {state : Pumping}
    (waits : next.id ∈ queued state.1.stores) :
    remaining next state + 1 = outstanding state := by
  have counted := Finset.card_erase_add_one waits
  unfold remaining outstanding
  omega

theorem remaining_of_settled {next : StoredVideo} {state : Pumping}
    (settled : next.id ∉ queued state.1.stores) :
    remaining next state = outstanding state := by
  unfold remaining outstanding
  rw [Finset.erase_eq_of_notMem settled]

theorem watched_reading {rounds : Nat} {input : QueueCall}
    {reply : Except JsError (QueueReply input)}
    (watched : Watches limit ⟨rounds, .reading⟩ between)
    (permitted : permits owed total strict ⟨rounds, .reading⟩ input)
    (called : between.1.perform thread input choice = some (after.1, reply))
    (noted : after.2 = observe thread between.1 input reply after.1 between.2) :
    Watches limit (advance ⟨rounds, .reading⟩ input reply) after := by
  cases input with
  | browse input =>
      cases input with
      | getAllVideos =>
          have effect := browsed_queued called
          cases reply with
          | error error =>
              have same := outstanding_kept noted effect
              change outstanding after + rounds ≤ limit
              rw [same]
              exact watched
          | ok records =>
              have answers := browsed_answers called
              have same := outstanding_kept noted effect
              change Watches limit ⟨rounds, chosenOf records⟩ after
              unfold chosenOf
              cases chosen : (sortRecords records).find?
                  (·.status = .queued) with
              | none => trivial
              | some next =>
                  have member := List.mem_of_find?_eq_some chosen
                  have waits := List.find?_some chosen
                  rw [mem_sortRecords, answers] at member
                  have queued : next.id ∈ queued after.1.stores := by
                    rw [effect, mem_queued]
                    exact ⟨next, member, rfl, by simpa using waits⟩
                  have counted := remaining_of_queued queued
                  simp only [Watches] at watched ⊢
                  omega
      | _ => exact permitted.elim
  | never => cases called
  | _ => exact permitted.elim

theorem beginDownload_stores (store : QueueStore) (next : StoredVideo) :
    (store.beginDownload next).1.stores = store.stores := by
  unfold QueueStore.beginDownload
  split <;> rfl

theorem watched_chosen {rounds : Nat} {next : StoredVideo} {input : QueueCall}
    {reply : Except JsError (QueueReply input)}
    (watched : Watches limit ⟨rounds, .chosen next⟩ between)
    (permitted : permits owed total strict ⟨rounds, .chosen next⟩ input)
    (called : between.1.perform thread input choice = some (after.1, reply))
    (noted : after.2 = observe thread between.1 input reply after.1 between.2) :
    Watches limit (advance ⟨rounds, .chosen next⟩ input reply) after := by
  cases input with
  | beginDownload other =>
      have same : other = next := permitted
      subst same
      obtain ⟨store, notes⟩ := after
      cases called
      have left := remaining_kept other noted
        (congrArg (Finset.erase · other.id)
          (congrArg queued (beginDownload_stores between.1 other)))
      simp only [Watches] at watched
      change Watches limit ⟨rounds, advanceStage (.chosen other)
        (.beginDownload other) (.ok (between.1.beginDownload other).2)⟩ _
      cases begun : (between.1.beginDownload other).2 with
      | none => trivial
      | some controller =>
          refine ⟨by dsimp only; omega, ?_, nofun⟩
          dsimp only at noted ⊢
          rw [noted, begun]
          rfl
  | _ => exact permitted.elim

theorem watched_removal {rounds : Nat} {next : StoredVideo} {waiting : Bool}
    {input : BrowserCall} {reply : Except JsError (BrowserReply input)}
    (watched : Watches limit ⟨rounds, .working next waiting⟩ between)
    (permitted : permits owed total strict ⟨rounds, .working next waiting⟩
      (.browse input))
    (called : between.1.browsed choice input = some (after.1, reply))
    (same : after.2 = between.2) :
    Watches limit ⟨rounds, .working next waiting⟩ after := by
  have effect := browsed_queued called
  cases input with
  | deleteMedia path => exact watched.still (by cases reply <;> exact effect) same
  | deleteVideo videoId =>
      cases reply with
      | error error => exact watched.still effect same
      | ok _ =>
          obtain ⟨bounded, current, marked⟩ := watched
          obtain ⟨own, settled⟩ := permitted
          have absent := marked settled
          refine Watches.still ⟨bounded, current, marked⟩ ?_ same
          rw [← Finset.erase_eq_of_notMem absent, ← own, ← queued_deleteVideo]
          exact effect
  | _ => exact permitted.elim

theorem watched_working {rounds : Nat} {next : StoredVideo} {waiting : Bool}
    {input : QueueCall} {reply : Except JsError (QueueReply input)}
    (watched : Watches limit ⟨rounds, .working next waiting⟩ between)
    (permitted : permits owed total strict ⟨rounds, .working next waiting⟩ input)
    (served : Served between.1 input reply)
    (called : between.1.perform thread input choice = some (after.1, reply))
    (noted : after.2 = observe thread between.1 input reply after.1 between.2) :
    Watches limit (advance ⟨rounds, .working next waiting⟩ input reply)
      after := by
  cases input with
  | download controller input =>
      exact watched_download watched permitted served called noted
  | takeCancelled videoId =>
      obtain ⟨store, notes⟩ := after
      cases called
      exact watched.still rfl noted
  | browse input =>
      have kept := watched_removal watched permitted called noted
      cases input <;> exact kept
  | downloadFailed code =>
      change Watches limit ⟨rounds, if isPausing code then .stopped
        else .working next waiting⟩ after
      obtain ⟨store, notes⟩ := after
      cases called
      split
      · rename_i stops
        change _ = true
        simp only [isPausing, Bool.or_eq_true, decide_eq_true_eq] at stops
        simp [stops]
      · exact watched.still rfl noted
  | endDownload controller videoId =>
      obtain ⟨bounded, _, marked⟩ := watched
      have settled := marked permitted
      obtain ⟨store, notes⟩ := after
      cases called
      right
      have counted := remaining_of_settled settled
      have same := outstanding_kept noted rfl
      rw [same, ← counted]
      exact bounded
  | _ => exact permitted.elim

theorem watched_closing {rounds : Nat} {input : QueueCall}
    {reply : Except JsError (QueueReply input)}
    (watched : Watches limit ⟨rounds, .closing⟩ between)
    (permitted : permits owed total strict ⟨rounds, .closing⟩ input)
    (called : between.1.perform thread input choice = some (after.1, reply))
    (noted : after.2 = observe thread between.1 input reply after.1 between.2) :
    Watches limit (advance ⟨rounds, .closing⟩ input reply) after := by
  cases input with
  | browse input =>
      cases input with
      | getAllVideos =>
          have effect : queued after.1.stores = queued between.1.stores := by
            have effect := browsed_queued called
            cases reply <;> exact effect
          have same := outstanding_kept noted effect
          obtain ⟨stores, shown⟩ := QueueStarts.browsed_eq_some called
          have kept : Watches limit ⟨rounds, .closing⟩ after := by
            refine watched.imp (fun paused => ?_) fun bounded => ?_
            · rw [shown]
              exact paused
            · rw [same]
              exact bounded
          exact kept
      | _ => exact permitted.elim
  | refreshed records completedBytes =>
      obtain ⟨store, notes⟩ := after
      cases called
      have same := outstanding_kept noted
        (congrArg queued (refreshed_stores between.1 records completedBytes))
      have flagged := QueueStarts.flags_refreshed between.1 records
        completedBytes
      refine watched.imp (fun paused => ?_) fun bounded => ?_
      · exact (congrArg QueueStarts.Flags.paused flagged).trans paused
      · rw [same]
        exact bounded
  | pumpTest =>
      obtain ⟨store, notes⟩ := after
      cases called
      have same := outstanding_kept noted rfl
      cases tested : (!between.1.snapshot.paused && between.1.onLine) with
      | false => trivial
      | true =>
          simp only [Bool.and_eq_true, Bool.not_eq_true'] at tested
          rcases watched with paused | bounded
          · rw [tested.1] at paused
            cases paused
          · change outstanding _ + (rounds + 1) ≤ limit
            rw [same, Nat.add_comm rounds, ← Nat.add_assoc]
            exact bounded
  | _ => exact permitted.elim

theorem watched_call {phase : PumpPhase} {input : QueueCall}
    {reply : Except JsError (QueueReply input)}
    (watched : Watches limit phase between)
    (permitted : permits owed total strict phase input)
    (served : Served between.1 input reply)
    (performed : noting QueueStore.perform observe thread between input choice =
      some (after, reply)) :
    Watches limit (advance phase input reply) after := by
  obtain ⟨called, noted⟩ := noting_eq_some performed
  obtain ⟨rounds, stage⟩ := phase
  cases stage with
  | opening =>
      have fewer := outstanding_mono noted (opening_stores permitted called)
      have bounded : outstanding after + rounds ≤ limit :=
        le_trans (Nat.add_le_add_right fewer rounds) watched
      cases input with
      | join =>
          cases reply with
          | error error => trivial
          | ok join => cases join <;> trivial
      | browse input => cases input <;> exact bounded
      | callStart | beginInitialize | awaitInitialized | initialized outcome
      | refreshed records completedBytes => exact bounded
      | _ => exact permitted.elim
  | reading => exact watched_reading watched permitted called noted
  | chosen next => exact watched_chosen watched permitted called noted
  | working next waiting =>
      exact watched_working watched permitted served called noted
  | stopped =>
      cases input with
      | endDownload controller videoId =>
          obtain ⟨store, notes⟩ := after
          cases called
          exact .inl watched
      | _ => exact permitted.elim
  | closing => exact watched_closing watched permitted called noted
  | drained =>
      cases input with
      | pumpEnded | settlePump pump outcome | finishStart pump => trivial
      | _ => exact permitted.elim
  | finished =>
      cases input with
      | pumpEnded => trivial
      | _ => exact permitted.elim

structure Orderly (owed : Finset UUID) (stage : Stage) (state : Pumping) :
    Prop where
  online : state.1.onLine = true
  open_ : state.1.clearing = false
  initialized : ∀ error, state.1.initialization ≠ .settled (.error error)
  idle : stage = .opening →
    state.1.pumpPromise = none ∧ state.2.attempted = []
  running : stage ≠ .opening → state.1.snapshot.paused = false
  owing : ∀ videoId ∈ owed, videoId ∈ queued state.1.stores ∨
    ∃ attempted ∈ state.2.attempted, attempted.id = videoId
  working : ∀ next waiting, stage = .working next waiting →
    next ∈ state.2.attempted
  drained : stage = .drained → ∀ videoId ∈ owed,
    ∃ attempted ∈ state.2.attempted, attempted.id = videoId

theorem assumes_opening {rounds : Nat} {input : BrowserCall}
    {reply : Except JsError (BrowserReply input)} {store : QueueStore}
    (orderly : strict = true → Orderly owed .opening between)
    (permitted : permitsOpening owed input)
    (served : Reads input reply)
    (called : between.1.browsed choice input = some (store, reply)) :
    assumes owed strict ⟨rounds, .opening⟩ (.browse input) reply := by
  have answers := browsed_answers called
  cases input with
  | getAllVideos =>
      cases reply with
      | error error => exact served
      | ok records =>
          intro strictly record member owing
          have kept := orderly strictly
          rcases kept.owing record.id owing with waits | ⟨attempted, begun, _⟩
          · obtain ⟨found, here, queued⟩ := mem_queued_find?.mp waits
            obtain ⟨present, same⟩ := Table.find?_eq_some.mp here
            rw [answers] at member
            have unique := Table.eq_of_key_eq member present same.symm
            rw [unique]
            exact queued
          · rw [(kept.idle rfl).2] at begun
            cases begun
  | getVideo requested =>
      cases reply with
      | error error => trivial
      | ok found =>
          intro record member
          rw [answers] at member
          exact (Table.find?_eq_some.mp member).2
  | deleteVideo videoId | markVideoViewed videoId viewedAt
  | clearVideos preserveViewed => exact permitted.elim
  | _ => trivial

theorem join_created {store : QueueStore} (online : store.onLine = true)
    (open_ : store.clearing = false) (idle : store.pumpPromise = none) :
    store.join.2 = .created store.pumps := by
  unfold QueueStore.join
  simp [online, open_, idle]

theorem assumes_of {phase : PumpPhase} {input : QueueCall}
    {reply : Except JsError (QueueReply input)} {store : QueueStore}
    (watched : Watches limit phase between)
    (orderly : strict = true → Orderly owed phase.stage between)
    (permitted : permits owed total strict phase input)
    (served : Served between.1 input reply)
    (smooth : strict = true → Smooth between input reply)
    (called : between.1.perform thread input choice = some (store, reply)) :
    assumes owed strict phase input reply := by
  obtain ⟨rounds, stage⟩ := phase
  cases stage with
  | opening =>
      cases input with
      | browse input => exact assumes_opening orderly permitted served.1 called
      | awaitInitialized =>
          simp only [QueueStore.perform] at called
          split at called
          · rename_i outcome settled
            cases called
            cases reply with
            | ok _ => trivial
            | error error =>
                cases strictly : strict with
                | false => rfl
                | true =>
                    exact absurd settled
                      ((orderly strictly).initialized error)
          · cases called
      | join =>
          cases called
          intro strictly
          have kept := orderly strictly
          exact ⟨_, join_created kept.online kept.open_ (kept.idle rfl).1⟩
      | beginInitialize =>
          simp only [QueueStore.perform] at called
          split at called <;> cases called <;> trivial
      | callStart | initialized outcome | refreshed records completedBytes =>
          cases called
          trivial
      | _ => exact permitted.elim
  | reading =>
      cases input with
      | browse input =>
          cases input with
          | getAllVideos =>
              cases reply with
              | error error => exact served.1
              | ok records => trivial
          | _ => exact permitted.elim
      | never => cases called
      | _ => exact permitted.elim
  | chosen next =>
      cases input with
      | beginDownload other =>
          cases called
          intro strictly
          have kept := orderly strictly
          simp [QueueStore.beginDownload, kept.open_]
      | _ => exact permitted.elim
  | working next waiting =>
      cases input with
      | download controller input =>
          exact assumesDownload_of watched permitted served smooth called
      | browse input =>
          cases input with
          | deleteMedia path | deleteVideo videoId =>
              cases reply with
              | error error => exact fun strictly => (smooth strictly).1
              | ok _ => trivial
          | _ => exact permitted.elim
      | takeCancelled videoId | downloadFailed code
      | endDownload controller videoId =>
          cases called
          trivial
      | _ => exact permitted.elim
  | stopped =>
      cases input with
      | endDownload controller videoId =>
          cases called
          trivial
      | _ => exact permitted.elim
  | closing =>
      cases input with
      | browse input =>
          cases input with
          | getAllVideos =>
              cases reply with
              | error error => exact served.1
              | ok records => trivial
          | _ => exact permitted.elim
      | refreshed records completedBytes =>
          cases called
          trivial
      | pumpTest =>
          cases called
          intro strictly
          have kept := orderly strictly
          simp [kept.running (fun clash => by cases clash), kept.online]
      | _ => exact permitted.elim
  | drained =>
      cases input with
      | pumpEnded | settlePump pump outcome =>
          cases called
          trivial
      | finishStart pump => trivial
      | _ => exact permitted.elim
  | finished =>
      cases input with
      | pumpEnded =>
          cases called
          trivial
      | _ => exact permitted.elim

end

/-- Reads succeed, and marking a record does not fail unnoticed. -/
abbrev respondsServing : ThreadId → Pumping → (input : QueueCall) →
    Except JsError (QueueReply input) → Pumping → Prop :=
  responds fun between input reply => Served between.1 input reply

theorem serving_answers {thread : ThreadId} {limit total : Nat} (phase : PumpPhase)
    (state : Pumping) (input : QueueCall)
    (reply : Except JsError (QueueReply input)) (after : Pumping)
    (watched : Watches limit phase state)
    (permitted : permits ∅ total false phase input)
    (responded : respondsServing thread state input reply after) :
    assumes ∅ false phase input reply ∧
      Watches limit (advance phase input reply) after := by
  obtain ⟨between, choice, meanwhile, served, performed⟩ := responded
  have kept := watched.meanwhile meanwhile
  refine ⟨?_, watched_call kept permitted served performed⟩
  exact assumes_of kept nofun permitted served nofun
    (noting_eq_some performed).1

/-- Where an execution of the pump has got to. -/
theorem pump_reaches {thread : ThreadId} {rounds : Nat} {state after : Pumping}
    {rest : QueueProgram Unit}
    (reached : (pump rounds).Reaches (respondsServing thread) state rest after) :
    ∃ phase, Follows (pumpProtocol ∅ rounds false) phase rest (Drains false) ∧
      Watches (outstanding state) phase after := by
  have follows : Follows (pumpProtocol ∅ rounds false) ⟨0, .reading⟩
      (pump rounds) (Drains false) := pump_follows (Nat.zero_add rounds)
  have watched : Watches (outstanding state) ⟨0, .reading⟩ state := le_rfl
  exact follows.reaches serving_answers watched reached

/-- A round takes a record from the queue or pauses, so the rounds end. -/
theorem pump_ends (thread : ThreadId) (state : Pumping) :
    (∀ resume after, (pump 1).Reaches (respondsServing thread) state
      (.call .pumpTest resume) after →
        after.1.snapshot.paused = true ∨
          outstanding after < outstanding state) ∧
    ∀ rounds, outstanding state < rounds → ∀ resume after,
      ¬ (pump rounds).Reaches (respondsServing thread) state
        (.call .never resume) after := by
  constructor
  · intro resume after reached
    obtain ⟨⟨passed, stage⟩, ⟨permitted, _⟩, watched⟩ := pump_reaches reached
    cases stage with
    | closing =>
        refine watched.imp id fun bounded => ?_
        dsimp only at bounded
        omega
    | _ => exact permitted.elim
  · intro rounds enough resume after reached
    obtain ⟨⟨passed, stage⟩, ⟨permitted, _⟩, watched⟩ := pump_reaches reached
    cases stage with
    | reading =>
        have counted : passed = rounds := permitted
        simp only [Watches] at watched
        omega
    | _ => exact permitted.elim

theorem Meanwhile.refl (state : Pumping) : Meanwhile state state where
  fresh := by simp
  apart := fun _ _ => id
  paused := id
  attempted := rfl
  current := rfl

def answer (check : Pumping → (input : QueueCall) →
      Except JsError (QueueReply input) → Bool)
    (state : Pumping) (input : QueueCall) (choice : QueueChoice) :
    Option (Except JsError (QueueReply input) × Pumping) :=
  (noting QueueStore.perform observe 0 state input choice).bind
    fun (after, reply) =>
      if check state input reply then some (reply, after) else none

theorem answer_eq_some {check : Pumping → (input : QueueCall) →
      Except JsError (QueueReply input) → Bool}
    {state after : Pumping} {input : QueueCall} {choice : QueueChoice}
    {reply : Except JsError (QueueReply input)}
    (answered : answer check state input choice = some (reply, after)) :
    check state input reply = true ∧
      noting QueueStore.perform observe 0 state input choice =
        some (after, reply) := by
  obtain ⟨⟨middle, replied⟩, performed, passed⟩ :=
    Option.bind_eq_some_iff.mp answered
  obtain ⟨holds, same⟩ := Option.ite_none_right_eq_some.mp passed
  cases same
  exact ⟨holds, performed⟩

theorem answer_responds {condition : Pumping → (input : QueueCall) →
      Except JsError (QueueReply input) → Prop}
    {check : Pumping → (input : QueueCall) →
      Except JsError (QueueReply input) → Bool}
    (checked : ∀ state input reply, check state input reply = true →
      condition state input reply)
    (state : Pumping) (input : QueueCall) (choice : QueueChoice)
    (reply : Except JsError (QueueReply input)) (after : Pumping)
    (answered : answer check state input choice = some (reply, after)) :
    responds condition 0 state input reply after := by
  obtain ⟨holds, performed⟩ := answer_eq_some answered
  exact ⟨state, choice, .refl state, checked state input reply holds, performed⟩

def isTest : QueueProgram Unit → Bool
  | .call .pumpTest _ => true
  | _ => false

theorem exists_test {program : QueueProgram Unit}
    (tests : isTest program = true) :
    ∃ resume, program = .call .pumpTest resume := by
  cases program with
  | done result => cases tests
  | call request resume =>
      cases request with
      | pumpTest => exact ⟨resume, rfl⟩
      | _ => cases tests

def sampleQueued : StoredVideo where
  toOfflineVideoRecord := toQueueRecord sampleVideo 5
  accepted := by decide +kernel

def sampleQueue : Pumping :=
  ({ QueueStore.fresh ⟨Table.empty.upsert sampleQueued, .empty⟩ true with
      snapshot := { emptySnapshot true with paused := false } },
    ⟨[], none, 0⟩)

def testAfter (check : Pumping → (input : QueueCall) →
      Except JsError (QueueReply input) → Bool)
    (choices : List QueueChoice) : Option (Bool × Bool × Nat) :=
  (walk (answer check) choices (pump 1) sampleQueue).map
    fun (rest, after) =>
      (isTest rest, after.1.snapshot.paused, outstanding after)

theorem test_reached {condition : Pumping → (input : QueueCall) →
      Except JsError (QueueReply input) → Prop}
    {check : Pumping → (input : QueueCall) →
      Except JsError (QueueReply input) → Bool}
    (checked : ∀ state input reply, check state input reply = true →
      condition state input reply)
    {choices : List QueueChoice} {paused : Bool} {left : Nat}
    (tested : testAfter check choices = some (true, paused, left)) :
    ∃ resume after, (pump 1).Reaches (responds condition 0) sampleQueue
      (.call .pumpTest resume) after ∧
        after.1.snapshot.paused = paused ∧ outstanding after = left := by
  obtain ⟨⟨rest, after⟩, walked, same⟩ := Option.map_eq_some_iff.mp tested
  have reached := reaches_walk (answer_responds checked) .start walked
  simp only [Prod.mk.injEq] at same
  obtain ⟨tests, paused, left⟩ := same
  obtain ⟨resume, shown⟩ := exists_test tests
  exact ⟨resume, after, shown ▸ reached, paused, left⟩

def fails (input : QueueCall) (reply : Except JsError (QueueReply input)) :
    Bool :=
  match input with
  | .download _ (.browse (.putVideo _)) => true
  | _ => reply.toBool

theorem readable_ok (input : QueueCall) (value : QueueReply input) :
    Readable input (.ok value) := by
  cases input with
  | browse input => cases input <;> trivial
  | download controller input =>
      cases input with
      | browse input => cases input <;> trivial
      | _ => trivial
  | _ => trivial

theorem marking_ok (store : QueueStore) (input : QueueCall)
    (value : QueueReply input) : Marking store input (.ok value) := by
  cases input with
  | download controller input =>
      cases input with
      | browse input => cases input <;> trivial
      | _ => trivial
  | _ => trivial

theorem readable_of_fails (input : QueueCall)
    (reply : Except JsError (QueueReply input))
    (passed : fails input reply = true) : Readable input reply := by
  cases reply with
  | ok value => exact readable_ok input value
  | error error =>
      unfold fails at passed
      split at passed
      · trivial
      · cases passed

/-- The record is not in the stream endpoint, and is marked as failed. -/
theorem missing_record_leaves :
    (∃ resume after, (pump 1).Reaches (respondsServing 0) sampleQueue
        (.call .pumpTest resume) after ∧
          after.1.snapshot.paused = false ∧ outstanding after = 0 ∧
          (after.1.snapshot.paused = true ∨
            outstanding after < outstanding sampleQueue)) ∧
      ∀ resume after, ¬ (pump 2).Reaches (respondsServing 0) sampleQueue
        (.call .never resume) after := by
  obtain ⟨progress, ends⟩ := pump_ends 0 sampleQueue
  have checked : ∀ (state : Pumping) (input : QueueCall)
      (reply : Except JsError (QueueReply input)), reply.toBool = true →
        Served state.1 input reply := by
    intro state input reply returned
    cases reply with
    | ok value => exact ⟨readable_ok input value, marking_ok _ input value⟩
    | error error => cases returned
  have tested : testAfter (fun _ _ => Except.toBool)
      (.replicate 20 (.returns sampleDraw)) = some (true, false, 0) := by
    decide +kernel
  obtain ⟨resume, after, reached, running, none⟩ := test_reached checked tested
  exact ⟨⟨resume, after, reached, running, none, progress resume after reached⟩,
    ends 2 (by decide +kernel)⟩

/-- The write that marks the record is rejected with an ordinary error: the
record stays queued, and the queue goes on. -/
theorem failed_mark_keeps_queued :
    ¬ ∀ resume after, (pump 1).Reaches (responds (fun _ => Readable) 0)
        sampleQueue (.call .pumpTest resume) after →
      after.1.snapshot.paused = true ∨
        outstanding after < outstanding sampleQueue := by
  intro progress
  have tested : testAfter (fun _ => fails)
      (.replicate 6 (.returns sampleDraw) ++ .rejects .other ::
        .replicate 5 (.returns sampleDraw)) = some (true, false, 1) := by
    decide +kernel
  obtain ⟨resume, after, reached, running, left⟩ :=
    test_reached (fun _ => readable_of_fails) tested
  have one : outstanding sampleQueue = 1 := by decide +kernel
  rcases progress resume after reached with paused | fewer
  · rw [running] at paused
    cases paused
  · omega

end OfflineReels.Offline.PumpRounds
