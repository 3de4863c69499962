import OfflineReels.Offline.PumpRounds

namespace OfflineReels.Offline.QueueAttempts

open OfflineReels.Foundation
open OfflineReels.Foundation.Program
open OfflineReels.Instagram
open OfflineReels.Offline.OfflineDownloadQueue
open OfflineReels.Offline.DownloadMarks
open OfflineReels.Offline.PumpRounds
open OfflineReels.Offline.QueueStarts (flags)

/-! A start attempts what was queued at its call. -/

section

variable (owed : Finset UUID)

def assumesOpening (input : BrowserCall)
    (reply : Except JsError (BrowserReply input)) : Prop :=
  match input, reply with
  | .getAllVideos, .ok records =>
      ∀ record ∈ records, record.id ∈ owed → record.status = .queued
  | .getAllVideos, .error _ => False
  | .getVideo requested, .ok found => ∀ record ∈ found, record.id = requested
  | _, _ => True

def openingProtocol : Protocol BrowserCall BrowserReply JsError Unit where
  permits _ := permitsOpening owed
  assumes _ := assumesOpening owed
  advance _ _ _ := ()

def Tame {α : Type} (program : Browsing α) : Prop :=
  Follows (openingProtocol owed) () program fun _ _ => True

def Resolves {α : Type} (program : Browsing α) : Prop :=
  Follows (openingProtocol owed) () program fun outcome _ =>
    ∃ value, outcome = .ok value

end

section

variable {owed : Finset UUID} {α β : Type}

theorem tame_pure (value : α) : Tame owed (pure value : Browsing α) := trivial

theorem Tame.attempt {program : Browsing α}
    {next : Except JsError α → Browsing β} (first : Tame owed program)
    (second : ∀ outcome, Tame owed (next outcome)) :
    Tame owed (program.attempt next) :=
  Follows.attempt first fun outcome _ _ => second outcome

theorem Tame.bind {program : Browsing α} {next : α → Browsing β}
    (first : Tame owed program) (second : ∀ value, Tame owed (next value)) :
    Tame owed (program >>= next) :=
  Follows.bind first (fun value _ _ => second value) fun _ _ _ => trivial

theorem Tame.resolves {program : Browsing α}
    {next : Except JsError α → Browsing β} (first : Tame owed program)
    (second : ∀ outcome, Resolves owed (next outcome)) :
    Resolves owed (program.attempt next) :=
  Follows.attempt first fun outcome _ _ => second outcome

theorem tame_withMediaCache {fallback : OfflineErrorCode}
    {operation : Browsing α} (tame : Tame owed operation) :
    Tame owed (withMediaCache fallback operation) := by
  refine tame.attempt fun outcome => ?_
  cases outcome with
  | ok value => trivial
  | error error => trivial

theorem tame_deleteCachedVideo (videoId : UUID) :
    Tame owed (deleteCachedVideo videoId) :=
  tame_withMediaCache ⟨trivial, fun _ _ => trivial⟩

theorem tame_validateCachedVideo (videoId : UUID)
    (expected : CachedVideoMetadata) :
    Tame owed (validateCachedVideo videoId expected) := by
  unfold validateCachedVideo
  split
  · trivial
  · split
    · trivial
    · refine Tame.bind (tame_withMediaCache ?_) fun _ => tame_pure _
      exact ⟨trivial, fun _ _ => trivial⟩

theorem tame_updateOfflineVideo {videoId : UUID} (apart : videoId ∉ owed)
    {patch : OfflineVideoPatch} (dequeues : Dequeues patch) :
    Tame owed (updateOfflineVideo videoId patch) := by
  have tame : Tame owed (do
      let existing : Option StoredVideo ← browse (.getVideo videoId)
      writePatched patch existing) := by
    refine ⟨trivial, fun reply looked => ?_⟩
    cases reply with
    | error error => trivial
    | ok found =>
        cases found with
        | none => trivial
        | some existing =>
            refine ⟨trivial, fun reply _ => ?_⟩
            cases reply with
            | error error => trivial
            | ok now =>
                cases passed : accept (applyPatch
                    existing.toOfflineVideoRecord patch now) with
                | error code =>
                    simp only [attempt_done, passed]
                    trivial
                | ok updated =>
                    have written := accept_eq_ok passed
                    simp only [attempt_done, passed]
                    refine ⟨⟨?_, ?_⟩, fun reply _ => ?_⟩
                    · rw [written]
                      exact dequeues existing.toOfflineVideoRecord
                    · have same : updated.id = videoId := by
                        rw [written]
                        exact looked existing rfl
                      rwa [same]
                    · cases reply <;> trivial
  refine tame.attempt fun outcome => ?_
  cases outcome with
  | ok value => trivial
  | error error => trivial

theorem failedPatch_dequeues (code : OfflineErrorCode) (failedAt : Time) :
    Dequeues (failedPatch code failedAt) :=
  fun _ => nofun

theorem tame_markFailed {videoId : UUID} (apart : videoId ∉ owed)
    (code : OfflineErrorCode) : Tame owed (markFailed videoId code) := by
  refine Tame.bind ⟨trivial, fun _ _ => trivial⟩ fun failedAt => ?_
  exact tame_updateOfflineVideo apart (failedPatch_dequeues code failedAt)

theorem tame_removeMedia {Key : Type} (videoId : UUID) (key : Key)
    (summary : ReconciliationSummary Key) :
    Tame owed (removeMedia videoId key summary) := by
  refine (tame_deleteCachedVideo videoId).attempt fun outcome => ?_
  cases outcome with
  | ok _ => trivial
  | error error => trivial

theorem tame_reconcileRecord {Key : Type} {row : Listed Key}
    (listed : row.record.id ∈ owed → row.record.status = .queued)
    (summary : ReconciliationSummary Key) (validCompletedIds : List Key) :
    Tame owed (reconcileRecord row summary validCompletedIds) := by
  have apart : row.record.status ≠ .queued → row.record.id ∉ owed :=
    fun other owing => other (listed owing)
  unfold reconcileRecord
  split
  · rename_i downloading
    have other : row.record.id ∉ owed := apart (by simp [downloading])
    refine (tame_removeMedia _ _ _).bind fun summary => ?_
    exact (tame_markFailed other _).bind fun _ => tame_pure _
  · rename_i completed
    have other : row.record.id ∉ owed := apart (by simp [completed])
    refine (tame_validateCachedVideo _ _).bind fun validation => ?_
    cases validation with
    | valid byteSize => trivial
    | missing => exact (tame_markFailed other _).bind fun _ => tame_pure _
    | cacheKeyMismatch | invalidContentType | sizeMismatch =>
        refine (tame_removeMedia _ _ _).bind fun summary => ?_
        exact (tame_markFailed other _).bind fun _ => tame_pure _
  all_goals trivial

theorem resolves_reconcileRecords {Key : Type} {rows : List (Listed Key)}
    (listed : ∀ row ∈ rows, row.record.id ∈ owed → row.record.status = .queued)
    (reconciled : Reconciled Key) :
    Resolves owed (reconcileRecords rows reconciled) := by
  induction rows generalizing reconciled with
  | nil => exact ⟨reconciled, rfl⟩
  | cons row rest ih =>
      obtain ⟨summary, validCompletedIds⟩ := reconciled
      have others := ih fun other member =>
        listed other (List.mem_cons_of_mem row member)
      refine (tame_reconcileRecord (listed row List.mem_cons_self)
        summary validCompletedIds).resolves fun outcome => ?_
      cases outcome with
      | ok reconciled => exact others reconciled
      | error error => exact others _

theorem resolves_removeOrphans {Key : Type} [DecidableEq Key]
    {canonical : UUID → Key} (validCompletedIds : List Key)
    (videoIds : List UUID) (summary : ReconciliationSummary Key) :
    Resolves owed
      (removeOrphans canonical validCompletedIds videoIds summary) := by
  induction videoIds generalizing summary with
  | nil => exact ⟨summary, rfl⟩
  | cons videoId rest ih =>
      unfold removeOrphans
      split
      · exact ih summary
      · refine (tame_deleteCachedVideo videoId).resolves fun outcome => ?_
        cases outcome with
        | ok deleted => exact ih _
        | error error => exact ih _

theorem tame_listCachedVideoIds : Tame owed listCachedVideoIds := by
  refine tame_withMediaCache ⟨trivial, fun reply _ => ?_⟩
  cases reply with
  | ok keys => trivial
  | error error => trivial

theorem resolves_reconcileOfflineLibrary :
    Resolves owed reconcileOfflineLibrary := by
  refine ⟨trivial, fun reply listed => ?_⟩
  cases reply with
  | error error => exact listed.elim
  | ok records =>
      have reconciles : Resolves owed
          (reconcileRecords ((sortRecords records).map fun record =>
            (⟨record.id, record⟩ : Listed UUID)) (emptySummary, [])) := by
        apply resolves_reconcileRecords
        intro row member
        obtain ⟨record, sorted, rfl⟩ := List.mem_map.mp member
        exact listed record (mem_sortRecords.mp sorted)
      refine Follows.bind reconciles ?_ ?_
      · intro ⟨summary, validCompletedIds⟩ _ _
        refine tame_listCachedVideoIds.resolves fun outcome => ?_
        cases outcome with
        | ok videoIds => exact resolves_removeOrphans _ _ _
        | error error => exact ⟨_, rfl⟩
      · intro fault _ ⟨_, failed⟩
        cases failed

end

section

variable {owed : Finset UUID} {total : Nat} {α : Type}

theorem opening_browsed {program : Browsing α} (rounds : Nat)
    (resolves : Resolves owed program) :
    Returns (pumpProtocol owed total true) ⟨rounds, .opening⟩
      (browsed program) := by
  have follows : Follows (pumpProtocol owed total true) ⟨rounds, .opening⟩
      (browsed program) fun outcome phase => ∃ _ : Unit,
        (∃ value, outcome = .ok value) ∧ phase = ⟨rounds, .opening⟩ := by
    refine Follows.simulate ?_ resolves rfl
    intro _ phase input same permitted
    subst same
    refine ⟨permitted, fun reply assumed => ⟨?_, by cases input <;> rfl⟩⟩
    cases input with
    | getAllVideos =>
        cases reply with
        | error error => exact assumed.elim
        | ok records => exact assumed rfl
    | getVideo requested =>
        cases reply with
        | error error => trivial
        | ok found => exact assumed
    | _ => trivial
  refine follows.mono fun outcome phase holds => ?_
  obtain ⟨_, returned, same⟩ := holds
  exact ⟨same, returned⟩

theorem initializeQueue_returns (rounds : Nat) :
    Returns (pumpProtocol owed total true) ⟨rounds, .opening⟩
      initializeQueue := by
  refine ⟨trivial, fun reply begun => ?_⟩
  cases reply with
  | error error => exact begun.elim
  | ok begins =>
      cases begins with
      | true =>
          have opens : Returns (pumpProtocol owed total true)
              ⟨rounds, .opening⟩ (do
                let _ ← browsed reconcileOfflineLibrary
                refreshRecords) :=
            (opening_browsed rounds resolves_reconcileOfflineLibrary).before
              fun _ => refreshRecords_returns (.inl rfl)
          change Follows (pumpProtocol owed total true) ⟨rounds, .opening⟩
            (Program.attempt _ _) _
          refine opens.attempt ?_
          intro outcome phase ⟨same, value, returned⟩
          subst same returned
          refine ⟨rfl, fun reply settled => ?_⟩
          cases reply with
          | error error => exact settled.elim
          | ok _ => exact ⟨rfl, (), rfl⟩
      | false =>
          refine ⟨trivial, fun reply awaited => ?_⟩
          cases reply with
          | error error => cases awaited
          | ok _ => exact ⟨rfl, (), rfl⟩

theorem start_follows (rounds : Nat) :
    Follows (pumpProtocol owed rounds true) ⟨0, .opening⟩ (start rounds)
      (Drains true) := by
  refine ⟨trivial, fun reply called => ?_⟩
  cases reply with
  | error error => exact called.elim
  | ok _ =>
      refine (initializeQueue_returns 0).before fun _ => ?_
      refine ⟨trivial, fun reply joined => ?_⟩
      cases reply with
      | error error => exact joined.elim
      | ok join =>
          obtain ⟨pump, created⟩ := joined rfl
          subst created
          refine (pump_follows (Nat.zero_add rounds)).attempt ?_
          intro outcome ⟨passed, stage⟩ drains
          have drained : stage = .drained := drains rfl
          subst drained
          refine ⟨trivial, fun reply settled => ?_⟩
          cases reply with
          | error error => exact settled.elim
          | ok _ => exact ⟨trivial, fun _ _ _ => rfl⟩

end

/-- Between two calls nobody pauses, aborts or clears, takes a record out of
the queue or sets another pump going, and the network stays online. -/
structure Undisturbed (before between : Pumping) : Prop
    extends Meanwhile before between where
  kept : queued before.1.stores ⊆ queued between.1.stores
  running : before.1.snapshot.paused = false →
    between.1.snapshot.paused = false
  online : between.1.onLine = true
  open_ : between.1.clearing = false
  pump : between.1.pumpPromise = before.1.pumpPromise
  initialized : ∀ error, between.1.initialization ≠ .settled (.error error)

def respondsCalmly (condition : Pumping → (input : QueueCall) →
      Except JsError (QueueReply input) → Prop) (thread : ThreadId)
    (state : Pumping) (input : QueueCall)
    (reply : Except JsError (QueueReply input)) (after : Pumping) : Prop :=
  ∃ between choice, Undisturbed state between ∧ condition between input reply ∧
    noting QueueStore.perform observe thread between input choice =
      some (after, reply)

/-- Reads and the writes that mark a record succeed, nothing is short of space
or aborts, and no record was viewed or deleted when the downloader looks. -/
abbrev respondsSmoothly : ThreadId → Pumping → (input : QueueCall) →
    Except JsError (QueueReply input) → Pumping → Prop :=
  respondsCalmly fun between input reply =>
    Served between.1 input reply ∧ Smooth between input reply

def Attempted (state : Pumping) (videoId : UUID) : Prop :=
  ∃ attempted ∈ state.2.attempted, attempted.id = videoId

section

variable {owed : Finset UUID} {total : Nat} {thread : ThreadId}
variable {before between after : Pumping} {choice : QueueChoice}

theorem orderly_meanwhile {stage : Stage} (orderly : Orderly owed stage before)
    (undisturbed : Undisturbed before between) :
    Orderly owed stage between where
  online := undisturbed.online
  open_ := undisturbed.open_
  initialized := undisturbed.initialized
  idle opening := by
    rw [undisturbed.pump, undisturbed.attempted]
    exact orderly.idle opening
  running apart := undisturbed.running (orderly.running apart)
  owing videoId member := by
    rw [undisturbed.attempted]
    exact (orderly.owing videoId member).imp_left fun waits =>
      undisturbed.kept waits
  working next waiting here := by
    rw [undisturbed.attempted]
    exact orderly.working next waiting here
  drained here := by
    rw [undisturbed.attempted]
    exact orderly.drained here

structure Steers (before after : QueueStore) : Prop where
  paused : after.snapshot.paused = before.snapshot.paused
  onLine : after.onLine = before.onLine
  clearing : after.clearing = before.clearing
  initialization : after.initialization = before.initialization

theorem Steers.of_flags {before after : QueueStore}
    (same : flags after = flags before)
    (settled : after.initialization = before.initialization) :
    Steers before after :=
  ⟨congrArg QueueStarts.Flags.paused same,
    congrArg QueueStarts.Flags.onLine same,
    congrArg QueueStarts.Flags.clearing same, settled⟩

theorem Steers.of_browsed {store after : QueueStore} {input : BrowserCall}
    {reply : Except JsError (BrowserReply input)}
    (browsed : store.browsed choice input = some (after, reply)) :
    Steers store after := by
  obtain ⟨stores, rfl⟩ := QueueStarts.browsed_eq_some browsed
  exact ⟨rfl, rfl, rfl, rfl⟩

theorem Steers.of_download {store after : QueueStore} {controller : Nat}
    {input : DownloadCall} {reply : Except JsError (DownloadReply input)}
    (downloaded : store.download choice controller input =
      some (after, reply)) : Steers store after := by
  refine .of_flags (QueueStarts.flags_download downloaded) ?_
  cases input with
  | browse input => exact (Steers.of_browsed downloaded).initialization
  | _ =>
      obtain ⟨snapshot, shown⟩ :=
        download_eq downloaded fun _ clash => by cases clash
      rw [shown]

theorem Steers.refreshed (store : QueueStore) (records : List StoredVideo)
    (completedBytes : Nat) :
    Steers store (store.refreshed records completedBytes) := by
  refine .of_flags (QueueStarts.flags_refreshed _ _ _) ?_
  obtain ⟨snapshot, shown⟩ := refreshed_eq store records completedBytes
  rw [shown]

theorem Steers.beginDownload (store : QueueStore) (next : StoredVideo) :
    Steers store (store.beginDownload next).1 := by
  unfold QueueStore.beginDownload
  split <;> exact ⟨rfl, rfl, rfl, rfl⟩

theorem Orderly.step {stage later : Stage}
    (orderly : Orderly owed stage between) (apart : stage ≠ .opening)
    (steers : Steers between.1 after.1)
    (begun : between.2.attempted ⊆ after.2.attempted)
    (waits : ∀ videoId ∈ queued between.1.stores,
      videoId ∈ queued after.1.stores ∨ Attempted after videoId)
    (open_ : later ≠ .opening)
    (working : ∀ next waiting, later = .working next waiting →
      next ∈ after.2.attempted)
    (drained : later = .drained → ∀ videoId ∈ owed, Attempted after videoId) :
    Orderly owed later after where
  online := steers.onLine.trans orderly.online
  open_ := steers.clearing.trans orderly.open_
  initialized error := steers.initialization ▸ orderly.initialized error
  idle opening := absurd opening open_
  running _ := steers.paused.trans (orderly.running apart)
  owing videoId member := by
    rcases orderly.owing videoId member with queued | ⟨attempted, here, own⟩
    · exact waits videoId queued
    · exact .inr ⟨attempted, begun here, own⟩
  working := working
  drained := drained

def isPlain : Stage → Bool
  | .reading | .chosen _ | .stopped | .closing | .finished => true
  | .opening | .working _ _ | .drained => false

theorem Orderly.plain {stage later : Stage}
    (orderly : Orderly owed stage between) (apart : stage ≠ .opening)
    (steers : Steers between.1 after.1)
    (waits : queued between.1.stores ⊆ queued after.1.stores)
    (same : after.2.attempted = between.2.attempted)
    (plain : isPlain later = true) : Orderly owed later after := by
  refine Orderly.step orderly apart steers (by rw [same]; exact fun _ => id)
    (fun videoId member => .inl (waits member)) ?_ ?_ ?_
  · intro opening
    subst opening
    cases plain
  · intro next waiting works
    subst works
    cases plain
  · intro drained
    subst drained
    cases plain

/-- A record that is owed was attempted once nothing is queued. -/
theorem orderly_drained {stage : Stage} (orderly : Orderly owed stage between)
    (apart : stage ≠ .opening) (steers : Steers between.1 after.1)
    (none : ∀ videoId, videoId ∉ queued between.1.stores)
    (same : after.2.attempted = between.2.attempted) :
    Orderly owed .drained after := by
  have attempted : ∀ videoId ∈ owed, Attempted after videoId := by
    intro videoId member
    unfold Attempted
    rw [same]
    exact (orderly.owing videoId member).resolve_left (none videoId)
  refine Orderly.step orderly apart steers (by rw [same]; exact fun _ => id)
    (fun videoId member => absurd member (none videoId)) ?_ ?_
    fun _ => attempted
  · intro opening
    cases opening
  · intro next waiting works
    cases works

theorem orderly_reading {rounds : Nat} {input : QueueCall}
    {reply : Except JsError (QueueReply input)}
    (orderly : Orderly owed .reading between)
    (permitted : permits owed total true ⟨rounds, .reading⟩ input)
    (called : between.1.perform thread input choice = some (after.1, reply))
    (noted : after.2 = observe thread between.1 input reply after.1 between.2) :
    Orderly owed (advanceStage .reading input reply) after := by
  have apart : Stage.reading ≠ .opening := by simp
  cases input with
  | browse input =>
      cases input with
      | getAllVideos =>
          have effect : queued after.1.stores = queued between.1.stores := by
            have effect := browsed_queued called
            cases reply <;> exact effect
          have same : after.2 = between.2 := noted
          have steers := Steers.of_browsed called
          have plain : ∀ later, isPlain later = true →
              Orderly owed later after := fun later =>
            Orderly.plain orderly apart steers effect.superset
              (congrArg Attempts.attempted same)
          cases reply with
          | error error => exact plain .reading rfl
          | ok records =>
              have answers := browsed_answers called
              change Orderly owed (chosenOf records) after
              unfold chosenOf
              cases chosen : (sortRecords records).find?
                  (·.status = .queued) with
              | some next => exact plain (.chosen next) rfl
              | none =>
                  refine orderly_drained orderly apart steers ?_
                    (congrArg Attempts.attempted same)
                  intro videoId queued
                  obtain ⟨record, present, _, waits⟩ := mem_queued.mp queued
                  have listed : record ∈ sortRecords records := by
                    rw [mem_sortRecords, answers]
                    exact present
                  rw [List.find?_eq_none] at chosen
                  exact chosen record listed (decide_eq_true waits)
      | _ => exact permitted.elim
  | never => cases called
  | _ => exact permitted.elim

theorem orderly_chosen {rounds : Nat} {next : StoredVideo} {input : QueueCall}
    {reply : Except JsError (QueueReply input)}
    (orderly : Orderly owed (.chosen next) between)
    (permitted : permits owed total true ⟨rounds, .chosen next⟩ input)
    (called : between.1.perform thread input choice = some (after.1, reply))
    (noted : after.2 = observe thread between.1 input reply after.1 between.2) :
    Orderly owed (advanceStage (.chosen next) input reply) after := by
  have apart : Stage.chosen next ≠ .opening := by simp
  cases input with
  | beginDownload other =>
      have same : other = next := permitted
      subst same
      obtain ⟨store, notes⟩ := after
      cases called
      have steers := Steers.beginDownload between.1 other
      have stores := congrArg queued (beginDownload_stores between.1 other)
      change Orderly owed (advanceStage (.chosen other)
        (.beginDownload other) (.ok (between.1.beginDownload other).2)) _
      cases begun : (between.1.beginDownload other).2 with
      | none =>
          refine Orderly.plain orderly apart steers stores.superset ?_ rfl
          dsimp only at noted ⊢
          rw [noted, begun]
          rfl
      | some controller =>
          have attempted : notes.attempted = other :: between.2.attempted := by
            dsimp only at noted
            rw [noted, begun]
            rfl
          refine Orderly.step orderly apart steers ?_ ?_ ?_ ?_ ?_
          · rw [attempted]
            exact fun _ => List.mem_cons_of_mem other
          · exact fun videoId member => .inl (stores.superset member)
          · intro opening
            cases opening
          · intro next waiting works
            cases works
            rw [attempted]
            exact List.mem_cons_self
          · intro drained
            cases drained
  | _ => exact permitted.elim

theorem orderly_works {next : StoredVideo} {waiting later : Bool}
    (orderly : Orderly owed (.working next waiting) between)
    (steers : Steers between.1 after.1)
    (waits : (queued between.1.stores).erase next.id ⊆ queued after.1.stores)
    (same : after.2.attempted = between.2.attempted) :
    Orderly owed (.working next later) after := by
  have begun := orderly.working next waiting rfl
  refine Orderly.step orderly (by simp) steers (by rw [same]; exact fun _ => id)
    ?_ ?_ ?_ ?_
  · intro videoId member
    by_cases own : next.id = videoId
    · refine .inr ⟨next, ?_, own⟩
      rw [same]
      exact begun
    · exact .inl (waits (Finset.mem_erase.mpr ⟨fun clash => own clash.symm,
        member⟩))
  · intro opening
    cases opening
  · intro other waiting works
    cases works
    rw [same]
    exact begun
  · intro drained
    cases drained

theorem browsed_kept {next : StoredVideo} {waiting : Bool} {input : BrowserCall}
    {reply : Except JsError (BrowserReply input)} {earlier store : QueueStore}
    (permitted : permitsBrowse next.id waiting input ∨
      input = .deleteVideo next.id)
    (browsed : earlier.browsed choice input = some (store, reply)) :
    (queued earlier.stores).erase next.id ⊆ queued store.stores := by
  have effect := browsed_queued browsed
  rcases permitted with permitted | deletes
  · cases input with
    | putVideo record =>
        cases reply with
        | error error =>
            exact (Finset.erase_subset _ _).trans effect.superset
        | ok _ =>
            rw [effect, queued_putVideo, permitted.1]
            split
            · exact (Finset.erase_subset _ _).trans (Finset.subset_insert _ _)
            · exact subset_rfl
    | getVideo requested | matchMedia path | putMedia path media
    | deleteMedia path | now =>
        cases reply <;>
          exact (Finset.erase_subset _ _).trans effect.superset
    | _ => exact permitted.elim
  · subst deletes
    cases reply with
    | error error => exact (Finset.erase_subset _ _).trans effect.superset
    | ok _ =>
        have same : queued store.stores =
            queued (earlier.stores.deleteVideo next.id) := effect
        rw [same, queued_deleteVideo]

theorem download_kept {next : StoredVideo} {waiting : Bool} {controller : Nat}
    {input : DownloadCall} {reply : Except JsError (DownloadReply input)}
    {earlier store : QueueStore} (permitted : permitsDownload next.id waiting input)
    (downloaded : earlier.download choice controller input =
      some (store, reply)) :
    (queued earlier.stores).erase next.id ⊆ queued store.stores := by
  cases input with
  | browse input => exact browsed_kept (.inl permitted) downloaded
  | _ =>
      obtain ⟨snapshot, shown⟩ :=
        download_eq downloaded fun _ clash => by cases clash
      rw [shown]
      exact Finset.erase_subset _ _

theorem orderly_working {rounds : Nat} {next : StoredVideo} {waiting : Bool}
    {input : QueueCall} {reply : Except JsError (QueueReply input)}
    (orderly : Orderly owed (.working next waiting) between)
    (permitted : permits owed total true ⟨rounds, .working next waiting⟩ input)
    (called : between.1.perform thread input choice = some (after.1, reply))
    (noted : after.2 = observe thread between.1 input reply after.1 between.2) :
    Orderly owed (advanceStage (.working next waiting) input reply) after := by
  cases input with
  | download controller input =>
      have same : after.2 = between.2 := noted
      exact orderly_works orderly (Steers.of_download called)
        (download_kept permitted called) (congrArg Attempts.attempted same)
  | browse input =>
      have same : after.2 = between.2 := noted
      have deletes : permitsBrowse next.id waiting input ∨
          input = .deleteVideo next.id := by
        cases input with
        | deleteMedia path => exact .inl trivial
        | deleteVideo videoId => exact .inr (congrArg _ permitted.1)
        | _ => exact permitted.elim
      have works : Orderly owed (.working next waiting) after :=
        orderly_works orderly (Steers.of_browsed called)
          (browsed_kept deletes called) (congrArg Attempts.attempted same)
      cases input <;> exact works
  | takeCancelled videoId =>
      obtain ⟨store, notes⟩ := after
      cases called
      exact orderly_works orderly ⟨rfl, rfl, rfl, rfl⟩
        (Finset.erase_subset _ _) (congrArg Attempts.attempted noted)
  | downloadFailed code =>
      have mild : isPausing code = false := permitted rfl
      obtain ⟨store, notes⟩ := after
      cases called
      change Orderly owed (if isPausing code then .stopped
        else .working next waiting) _
      rw [mild]
      refine orderly_works orderly ⟨?_, rfl, rfl, rfl⟩
        (Finset.erase_subset _ _) (congrArg Attempts.attempted noted)
      unfold isPausing at mild
      simp [mild]
  | endDownload controller videoId =>
      obtain ⟨store, notes⟩ := after
      cases called
      refine Orderly.plain orderly (by simp) ⟨rfl, rfl, rfl, rfl⟩ subset_rfl
        ?_ rfl
      dsimp only at noted ⊢
      rw [noted]
      rfl
  | _ => exact permitted.elim

theorem orderly_closing {rounds : Nat} {input : QueueCall}
    {reply : Except JsError (QueueReply input)}
    (orderly : Orderly owed .closing between)
    (permitted : permits owed total true ⟨rounds, .closing⟩ input)
    (called : between.1.perform thread input choice = some (after.1, reply))
    (noted : after.2 = observe thread between.1 input reply after.1 between.2) :
    Orderly owed (advanceStage .closing input reply) after := by
  cases input with
  | browse input =>
      cases input with
      | getAllVideos =>
          have effect : queued after.1.stores = queued between.1.stores := by
            have effect := browsed_queued called
            cases reply <;> exact effect
          have same : after.2 = between.2 := noted
          exact Orderly.plain orderly (by simp) (Steers.of_browsed called)
            effect.superset (congrArg Attempts.attempted same) rfl
      | _ => exact permitted.elim
  | refreshed records completedBytes =>
      obtain ⟨store, notes⟩ := after
      cases called
      refine Orderly.plain orderly (by simp)
        (Steers.refreshed between.1 records completedBytes) ?_
        (congrArg Attempts.attempted noted) rfl
      exact (congrArg queued (refreshed_stores _ _ _)).superset
  | pumpTest =>
      obtain ⟨store, notes⟩ := after
      cases called
      refine Orderly.plain orderly (by simp) ⟨rfl, rfl, rfl, rfl⟩ subset_rfl
        (congrArg Attempts.attempted noted) ?_
      cases (!between.1.snapshot.paused && between.1.onLine) <;> rfl
  | _ => exact permitted.elim

theorem orderly_ended {rounds : Nat} {input : QueueCall}
    {reply : Except JsError (QueueReply input)}
    (orderly : Orderly owed .drained between)
    (permitted : permits owed total true ⟨rounds, .drained⟩ input)
    (called : between.1.perform thread input choice = some (after.1, reply))
    (noted : after.2 = observe thread between.1 input reply after.1 between.2) :
    Orderly owed .drained after := by
  have ends : Steers between.1 after.1 →
      queued after.1.stores = queued between.1.stores →
      after.2 = between.2 → Orderly owed .drained after := by
    intro steers stores same
    have attempted := congrArg Attempts.attempted same
    refine Orderly.step orderly (by simp) steers
      (by rw [attempted]; exact fun _ => id)
      (fun videoId member => .inl (stores.superset member)) ?_ ?_ ?_
    · intro opening
      cases opening
    · intro next waiting works
      cases works
    · intro drained videoId member
      unfold Attempted
      rw [attempted]
      exact orderly.drained rfl videoId member
  cases input with
  | pumpEnded =>
      obtain ⟨store, notes⟩ := after
      cases called
      exact ends ⟨rfl, rfl, rfl, rfl⟩ rfl noted
  | settlePump pump outcome =>
      obtain ⟨store, notes⟩ := after
      cases called
      exact ends ⟨rfl, rfl, rfl, rfl⟩ rfl noted
  | finishStart pump =>
      obtain ⟨outcome, _, same⟩ := Option.map_eq_some_iff.mp called
      have here : between.1 = after.1 := (Prod.mk.inj same).1
      exact ends (here ▸ ⟨rfl, rfl, rfl, rfl⟩) (by rw [here]) noted
  | _ => exact permitted.elim

theorem opening_kept {input : BrowserCall}
    {reply : Except JsError (BrowserReply input)} {store : QueueStore}
    (permitted : permitsOpening owed input)
    (browsed : between.1.browsed choice input = some (store, reply)) :
    ∀ videoId ∈ owed, videoId ∈ queued between.1.stores →
      videoId ∈ queued store.stores := by
  intro videoId member waits
  have effect := browsed_queued browsed
  cases input with
  | putVideo record =>
      cases reply with
      | error error => exact effect.superset waits
      | ok _ =>
          rw [effect, queued_putVideo, if_neg permitted.1]
          refine Finset.mem_erase.mpr ⟨fun same => ?_, waits⟩
          exact permitted.2 (same ▸ member)
  | deleteVideo videoId | markVideoViewed videoId viewedAt
  | clearVideos preserveViewed => exact permitted.elim
  | _ => cases reply <;> exact effect.superset waits

theorem orderly_opens (orderly : Orderly owed .opening between)
    (online : after.1.onLine = between.1.onLine)
    (clearing : after.1.clearing = between.1.clearing)
    (pump : after.1.pumpPromise = between.1.pumpPromise)
    (settled : ∀ error, after.1.initialization ≠ .settled (.error error))
    (waits : ∀ videoId ∈ owed, videoId ∈ queued between.1.stores →
      videoId ∈ queued after.1.stores)
    (same : after.2 = between.2) : Orderly owed .opening after where
  online := online.trans orderly.online
  open_ := clearing.trans orderly.open_
  initialized := settled
  idle _ := by
    rw [pump, same]
    exact orderly.idle rfl
  running apart := absurd rfl apart
  owing videoId member := by
    rw [same]
    exact (orderly.owing videoId member).imp_left (waits videoId member)
  working next waiting works := by cases works
  drained drained := by cases drained

theorem joined {store : QueueStore} (online : store.onLine = true)
    (open_ : store.clearing = false) (idle : store.pumpPromise = none) :
    store.join.1.onLine = true ∧ store.join.1.clearing = false ∧
      store.join.1.initialization = store.initialization ∧
      store.join.1.snapshot.paused = false := by
  unfold QueueStore.join
  simp [online, open_, idle]

theorem orderly_opening {rounds : Nat} {input : QueueCall}
    {reply : Except JsError (QueueReply input)}
    (orderly : Orderly owed .opening between)
    (permitted : permits owed total true ⟨rounds, .opening⟩ input)
    (called : between.1.perform thread input choice = some (after.1, reply))
    (noted : after.2 = observe thread between.1 input reply after.1 between.2) :
    Orderly owed (advanceStage .opening input reply) after := by
  have same : after.2 = between.2 := by
    cases input with
    | beginDownload next => exact permitted.elim
    | endDownload controller videoId => exact permitted.elim
    | _ => exact noted
  cases input with
  | browse input =>
      obtain ⟨stores, shown⟩ := QueueStarts.browsed_eq_some called
      have opens : Orderly owed .opening after :=
        orderly_opens orderly (by rw [shown]) (by rw [shown]) (by rw [shown])
          (by rw [shown]; exact orderly.initialized)
          (opening_kept permitted called) same
      cases input <;> exact opens
  | callStart =>
      obtain ⟨store, notes⟩ := after
      cases called
      exact orderly_opens orderly rfl rfl rfl orderly.initialized
        (fun _ _ => id) same
  | beginInitialize =>
      obtain ⟨store, notes⟩ := after
      simp only [QueueStore.perform] at called
      split at called
      · cases called
        exact orderly_opens orderly rfl rfl rfl (fun _ clash => by cases clash)
          (fun _ _ => id) same
      · cases called
        exact orderly_opens orderly rfl rfl rfl orderly.initialized
          (fun _ _ => id) same
  | awaitInitialized =>
      obtain ⟨store, notes⟩ := after
      simp only [QueueStore.perform] at called
      split at called <;> cases called
      exact orderly_opens orderly rfl rfl rfl orderly.initialized
        (fun _ _ => id) same
  | initialized outcome =>
      have returned : outcome = .ok () := permitted
      subst returned
      obtain ⟨store, notes⟩ := after
      cases called
      exact orderly_opens orderly rfl rfl rfl (fun _ clash => by cases clash)
        (fun _ _ => id) same
  | refreshed records completedBytes =>
      obtain ⟨store, notes⟩ := after
      cases called
      have steers := Steers.refreshed between.1 records completedBytes
      obtain ⟨snapshot, shown⟩ :=
        refreshed_eq between.1 records completedBytes
      refine orderly_opens orderly steers.onLine steers.clearing ?_ ?_ ?_ same
      · exact (congrArg QueueStore.pumpPromise shown).trans rfl
      · exact fun error failed => orderly.initialized error
          (steers.initialization.symm.trans failed)
      · intro videoId _ waits
        exact (congrArg queued (refreshed_stores _ _ _)).superset waits
  | join =>
      obtain ⟨store, notes⟩ := after
      cases called
      have idle := orderly.idle rfl
      have created :=
        join_created orderly.online orderly.open_ idle.1
      rw [created]
      have joins := joined orderly.online orderly.open_ idle.1
      exact {
        online := joins.1
        open_ := joins.2.1
        initialized := fun error failed => orderly.initialized error
          (joins.2.2.1.symm.trans failed)
        idle := fun opening => by cases opening
        running := fun _ => joins.2.2.2
        owing := fun videoId member => by
          rw [same, join_stores]
          exact orderly.owing videoId member
        working := fun next waiting works => by cases works
        drained := fun drained => by cases drained }
  | _ => exact permitted.elim

theorem orderly_call {phase : PumpPhase} {input : QueueCall}
    {reply : Except JsError (QueueReply input)}
    (orderly : Orderly owed phase.stage between)
    (permitted : permits owed total true phase input)
    (performed : noting QueueStore.perform observe thread between input choice =
      some (after, reply)) :
    Orderly owed (advance phase input reply).stage after := by
  obtain ⟨called, noted⟩ := noting_eq_some performed
  obtain ⟨rounds, stage⟩ := phase
  cases stage with
  | opening => exact orderly_opening orderly permitted called noted
  | reading => exact orderly_reading orderly permitted called noted
  | chosen next => exact orderly_chosen orderly permitted called noted
  | working next waiting => exact orderly_working orderly permitted called noted
  | closing => exact orderly_closing orderly permitted called noted
  | drained =>
      have ends := orderly_ended orderly permitted called noted
      cases input with
      | pumpEnded | settlePump pump outcome | finishStart pump => exact ends
      | _ => exact permitted.elim
  | stopped =>
      cases input with
      | endDownload controller videoId =>
          obtain ⟨store, notes⟩ := after
          cases called
          refine Orderly.plain orderly (by simp) ⟨rfl, rfl, rfl, rfl⟩
            subset_rfl ?_ rfl
          dsimp only at noted ⊢
          rw [noted]
          rfl
      | _ => exact permitted.elim
  | finished =>
      cases input with
      | pumpEnded =>
          obtain ⟨store, notes⟩ := after
          cases called
          exact Orderly.plain orderly (by simp) ⟨rfl, rfl, rfl, rfl⟩
            subset_rfl (congrArg Attempts.attempted noted) rfl
      | _ => exact permitted.elim

end

/-- The queue is online and not cleared, no pump runs, and the initialization
has not failed. -/
structure Ready (store : QueueStore) : Prop where
  online : store.onLine = true
  open_ : store.clearing = false
  idle : store.pumpPromise = none
  initialized : ∀ error, store.initialization ≠ .settled (.error error)

theorem Ready.orderly {store : QueueStore} (ready : Ready store)
    (allowance : Nat) :
    Orderly (queued store.stores) .opening (store, ⟨[], none, allowance⟩) where
  online := ready.online
  open_ := ready.open_
  initialized := ready.initialized
  idle _ := ⟨ready.idle, rfl⟩
  running apart := absurd rfl apart
  owing _ member := .inl member
  working next waiting works := by cases works
  drained drained := by cases drained

theorem smooth_answers {thread : ThreadId} {owed : Finset UUID}
    {limit total : Nat} (phase : PumpPhase) (state : Pumping)
    (input : QueueCall) (reply : Except JsError (QueueReply input))
    (after : Pumping)
    (watched : Watches limit phase state ∧ Orderly owed phase.stage state)
    (permitted : permits owed total true phase input)
    (responded : respondsSmoothly thread state input reply after) :
    assumes owed true phase input reply ∧
      Watches limit (advance phase input reply) after ∧
        Orderly owed (advance phase input reply).stage after := by
  obtain ⟨between, choice, undisturbed, ⟨served, smooth⟩, performed⟩ :=
    responded
  have kept := watched.1.meanwhile undisturbed.toMeanwhile
  have orderly := orderly_meanwhile watched.2 undisturbed
  refine ⟨?_, watched_call kept permitted served performed,
    orderly_call orderly permitted performed⟩
  exact assumes_of kept (fun _ => orderly) permitted served (fun _ => smooth)
    (noting_eq_some performed).1

/-- A start that nobody disturbs is never paused by a download, has attempted
every record that was queued at its call when it ends, and comes to its end. -/
structure AttemptsQueued (store : QueueStore) (allowance rounds : Nat)
    (rest : QueueProgram Unit) (after : Pumping) : Prop where
  running : after.2.attempted ≠ [] → after.1.snapshot.paused = false
  attempted : ∀ outcome, rest = .done outcome →
    ∀ videoId ∈ queued store.stores, Attempted after videoId
  ends : (queued store.stores).card + allowance < rounds →
    ∀ resume, rest ≠ .call .never resume

theorem start_attempts {thread : ThreadId} {store : QueueStore}
    (ready : Ready store) {allowance rounds : Nat} {rest : QueueProgram Unit}
    {after : Pumping}
    (reached : (start rounds).Reaches (respondsSmoothly thread)
      (store, ⟨[], none, allowance⟩) rest after) :
    AttemptsQueued store allowance rounds rest after := by
  have watched : Watches (outstanding (store, ⟨[], none, allowance⟩))
      ⟨0, .opening⟩ (store, ⟨[], none, allowance⟩) := le_rfl
  obtain ⟨⟨passed, stage⟩, follows, watched, orderly⟩ :=
    (start_follows rounds).reaches smooth_answers
      ⟨watched, ready.orderly allowance⟩ reached
  refine ⟨fun begun => ?_, fun outcome ended => ?_, fun enough resume more => ?_⟩
  · refine orderly.running fun opening => ?_
    exact begun (orderly.idle opening).2
  · subst ended
    exact orderly.drained (follows rfl)
  · subst more
    obtain ⟨permitted, _⟩ := follows
    cases stage with
    | reading =>
        have counted : passed = rounds := permitted
        simp only [Watches, outstanding] at watched
        omega
    | _ => exact permitted.elim

def isDone : QueueProgram Unit → Bool
  | .done _ => true
  | _ => false

theorem exists_done {program : QueueProgram Unit}
    (ends : isDone program = true) : ∃ outcome, program = .done outcome := by
  cases program with
  | done outcome => exact ⟨outcome, rfl⟩
  | call request resume => cases ends

def otherQueued : StoredVideo where
  toOfflineVideoRecord := toQueueRecord { sampleVideo with id := 8 } 5
  accepted := by decide +kernel

def sampleIdle (first : StoredVideo) : QueueStore :=
  { QueueStore.fresh
      ⟨(Table.empty.upsert otherQueued).upsert first, .empty⟩ true with
    initialization := .settled (.ok ()) }

def isCalm (store : QueueStore) : Bool :=
  store.onLine && !store.clearing && match store.initialization with
    | .settled outcome => outcome.toBool
    | _ => true

def isMild (state : Pumping) (input : QueueCall)
    (reply : Except JsError (QueueReply input)) : Bool :=
  isCalm state.1 && match input, reply with
    | .download _ .getStorageEstimate, .ok estimate =>
        estimate.available.isNone
    | .download _ .signalAborted, .ok aborted => !aborted
    | _, reply => reply.toBool

def endAfter (check : Pumping → (input : QueueCall) →
      Except JsError (QueueReply input) → Bool)
    (first : StoredVideo) (steps : Nat) : Option (Bool × List UUID × Bool) :=
  (walk (answer check) (.replicate steps (.returns sampleDraw)) (start 5)
    (sampleIdle first, ⟨[], none, 0⟩)).map fun (rest, after) =>
      (isDone rest, after.2.attempted.map fun record => record.id,
        after.1.snapshot.paused)

theorem undisturbed_of_calm {state : Pumping} (calm : isCalm state.1 = true) :
    Undisturbed state state := by
  simp only [isCalm, Bool.and_eq_true, Bool.not_eq_true'] at calm
  obtain ⟨⟨online, open_⟩, settled⟩ := calm
  refine ⟨.refl state, subset_rfl, id, online, open_, rfl, ?_⟩
  intro error failed
  rw [failed] at settled
  cases settled

theorem mild_of_isMild {state : Pumping} {input : QueueCall}
    {reply : Except JsError (QueueReply input)}
    (mild : isMild state input reply = true) :
    isCalm state.1 = true ∧ Served state.1 input reply ∧
      Mild state input reply := by
  obtain ⟨calm, passed⟩ := Bool.and_eq_true_iff.mp mild
  refine ⟨calm, ?_⟩
  cases reply with
  | error error =>
      cases input with
      | download controller input => cases input <;> cases passed
      | _ => cases passed
  | ok value =>
      refine ⟨⟨readable_ok input value, marking_ok state.1 input value⟩, ?_⟩
      cases input with
      | download controller input =>
          cases input with
          | getStorageEstimate =>
              intro next _
              unfold Downloader.hasEstimatedSpaceForDownload
              rw [Option.isNone_iff_eq_none.mp passed]
              rfl
          | signalAborted => exact (Bool.not_eq_true' value).mp passed
          | browse input => cases input <;> trivial
          | _ => trivial
      | _ => trivial

def isUnviewed (input : QueueCall)
    (reply : Except JsError (QueueReply input)) : Bool :=
  match input, reply with
  | .download _ (.browse (.getVideo _)), .ok found =>
      found.all fun record => !record.isTombstone
  | _, _ => true

theorem unviewed_of_isUnviewed {input : QueueCall}
    {reply : Except JsError (QueueReply input)}
    (unviewed : isUnviewed input reply = true) : Unviewed input reply := by
  unfold isUnviewed at unviewed
  unfold Unviewed
  split
  · intro record member
    cases member
    simpa using unviewed
  · trivial

theorem end_reached {condition : Pumping → (input : QueueCall) →
      Except JsError (QueueReply input) → Prop}
    {check : Pumping → (input : QueueCall) →
      Except JsError (QueueReply input) → Bool}
    (checked : ∀ state input reply, check state input reply = true →
      isCalm state.1 = true ∧ condition state input reply)
    {first : StoredVideo} {steps : Nat} {videoIds : List UUID} {paused : Bool}
    (ends : endAfter check first steps = some (true, videoIds, paused)) :
    ∃ outcome after, (start 5).Reaches (respondsCalmly condition 0)
        (sampleIdle first, ⟨[], none, 0⟩) (.done outcome) after ∧
      (after.2.attempted.map fun record => record.id) = videoIds ∧
      after.1.snapshot.paused = paused := by
  obtain ⟨⟨rest, after⟩, walked, same⟩ := Option.map_eq_some_iff.mp ends
  have reached := reaches_walk
    (fun state input choice reply after answered => by
      obtain ⟨passed, performed⟩ := answer_eq_some answered
      obtain ⟨calm, holds⟩ := checked state input reply passed
      have responded : respondsCalmly condition 0 state input reply after :=
        ⟨state, choice, undisturbed_of_calm calm, holds, performed⟩
      exact responded) .start walked
  simp only [Prod.mk.injEq] at same
  obtain ⟨done, attempted, paused⟩ := same
  obtain ⟨outcome, ended⟩ := exists_done done
  exact ⟨outcome, after, ended ▸ reached, attempted, paused⟩

/-- Both records are missing in the stream endpoint. -/
theorem missing_records_reached :
    ∃ outcome after, (start 5).Reaches (respondsSmoothly 0)
        (sampleIdle sampleQueued, ⟨[], none, 0⟩) (.done outcome) after ∧
      after.2.attempted ≠ [] := by
  have ends : endAfter (fun state input reply =>
      isMild state input reply && isUnviewed input reply) sampleQueued 50 =
        some (true, [7, 8], false) := by
    decide +kernel
  have checked : ∀ (state : Pumping) (input : QueueCall)
      (reply : Except JsError (QueueReply input)),
      (isMild state input reply && isUnviewed input reply) = true →
        isCalm state.1 = true ∧ Served state.1 input reply ∧
          Smooth state input reply := by
    intro state input reply passed
    obtain ⟨mild, unviewed⟩ := Bool.and_eq_true_iff.mp passed
    obtain ⟨calm, served, mild⟩ := mild_of_isMild mild
    exact ⟨calm, served, mild, unviewed_of_isUnviewed unviewed⟩
  obtain ⟨outcome, after, reached, attempted, _⟩ := end_reached checked ends
  refine ⟨outcome, after, reached, fun none => ?_⟩
  rw [none] at attempted
  cases attempted

/-- A record that was viewed before its turn pauses the queue, and the other
one is not attempted. -/
theorem viewed_record_blocks :
    ¬ ∀ outcome after, (start 5).Reaches
        (respondsCalmly (fun between input reply =>
          Served between.1 input reply ∧ Mild between input reply) 0)
        (sampleIdle (Stores.viewedVideo sampleQueued 6), ⟨[], none, 0⟩)
        (.done outcome) after →
      after.1.snapshot.paused = false ∧
        ∀ videoId ∈
          queued (sampleIdle (Stores.viewedVideo sampleQueued 6)).stores,
          Attempted after videoId := by
  intro all
  have ends : endAfter isMild (Stores.viewedVideo sampleQueued 6) 16 =
      some (true, [7], true) := by
    decide +kernel
  obtain ⟨outcome, after, reached, attempted, paused⟩ :=
    end_reached (fun state input reply passed => mild_of_isMild passed) ends
  obtain ⟨running, begun⟩ := all outcome after reached
  have waits : (8 : UUID) ∈
      queued (sampleIdle (Stores.viewedVideo sampleQueued 6)).stores := by
    decide +kernel
  obtain ⟨record, member, same⟩ := begun 8 waits
  have listed := List.mem_map_of_mem (f := fun record => record.id) member
  rw [attempted, same] at listed
  revert listed
  decide

end OfflineReels.Offline.QueueAttempts
