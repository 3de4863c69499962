import OfflineReels.Offline.QueueMachine

namespace OfflineReels.Offline.QueueStarts

open OfflineReels.Foundation
open OfflineReels.Foundation.Program
open OfflineReels.Instagram
open OfflineReels.Offline.OfflineDownloadQueue

/-! What a start of the queue leaves queued when it resolves. -/

/-- A start, the pump that it waits for, and the records that have been queued
ever since it was called. -/
structure PendingStart where
  thread : ThreadId
  pump : Option Nat
  queued : List UUID
  deriving DecidableEq, Repr

def queuedIds (stores : Stores) : List UUID :=
  (stores.library.rows.filter (·.status = .queued)).map (·.id)

def called (thread : ThreadId) (queued : List UUID)
    (starts : List PendingStart) : List PendingStart :=
  ⟨thread, none, queued⟩ :: starts.filter (·.thread ≠ thread)

def joins (thread : ThreadId) (pump : Nat) (start : PendingStart) :
    PendingStart :=
  if start.thread = thread then { start with pump := some pump } else start

def resolved (thread : ThreadId) (starts : List PendingStart) :
    List PendingStart :=
  starts.filter (·.thread ≠ thread)

def noteStart (thread : ThreadId) (store : QueueStore) (input : QueueCall)
    (reply : Except JsError (QueueReply input))
    (starts : List PendingStart) : List PendingStart :=
  match input, reply with
  | .callStart, _ => called thread (queuedIds store.stores) starts
  | .join, .ok (.joined pump) => starts.map (joins thread pump)
  | .join, .ok (.created pump) => starts.map (joins thread pump)
  | .join, _ => resolved thread starts
  | .finishStart _, _ => resolved thread starts
  | _, _ => starts

def PendingStart.keep (queued : List UUID) (start : PendingStart) :
    PendingStart :=
  { start with queued := start.queued.filter (· ∈ queued) }

def observe :
    Observer QueueCall QueueReply JsError QueueStore (List PendingStart) :=
  fun thread before input reply after starts =>
    (noteStart thread before input reply starts).map
      (·.keep (queuedIds after.stores))

/-- A pump is leaving once it has read a list without a queued record, has met
a queue that is clearing, or a test has failed. -/
inductive StartPhase
  | idle
  | called
  | reading (pump : Nat)
  | working (pump : Nat)
  | leaving (pump : Nat)
  | waiting (pump : Nat)
  deriving DecidableEq, Repr

def StartPhase.pump : StartPhase → Option Nat
  | .idle | .called => none
  | .reading pump | .working pump | .leaving pump | .waiting pump => some pump

def StartPhase.runs (phase : StartPhase) (pump : Nat) : Prop :=
  phase = .reading pump ∨ phase = .working pump ∨ phase = .leaving pump

def advanceStart (phase : StartPhase) (input : QueueCall)
    (reply : Except JsError (QueueReply input)) : StartPhase :=
  match input, reply with
  | .callStart, _ => .called
  | .join, .ok (.joined pump) => .waiting pump
  | .join, .ok (.created pump) => .reading pump
  | .join, _ => .idle
  | .browse .getAllVideos, .ok records =>
      match phase with
      | .reading pump =>
          if records.any (·.status = .queued) then .working pump
          else .leaving pump
      | _ => phase
  | .beginDownload _, .ok begun =>
      match phase, begun with
      | .working pump, none => .leaving pump
      | _, _ => phase
  | .pumpTest, .ok again =>
      match phase with
      | .working pump => if again then .reading pump else .leaving pump
      | _ => phase
  | .settlePump pump _, _ => .waiting pump
  | .finishStart _, _ => .idle
  | _, _ => phase

def permitsStart (phase : StartPhase) : QueueCall → Prop
  | .callStart => phase = .idle
  | .join => phase = .called
  | .beginDownload _ | .endDownload _ _ | .pumpTest =>
      ∃ pump, phase = .working pump
  | .settlePump pump outcome =>
      phase.runs pump ∧ (outcome = .ok () → phase = .leaving pump)
  | .finishStart pump => phase = .waiting pump
  | _ => True

def startProtocol : Protocol QueueCall QueueReply JsError StartPhase where
  permits := permitsStart
  assumes _ input _ := input ≠ .never
  advance := advanceStart

abbrev startMachine := queueMachine startProtocol .idle observe

def StartPhase.calm (phase : StartPhase) : Prop :=
  ∀ pump, phase ≠ .reading pump

section

variable {α : Type} {phase : StartPhase}

/-- The calls that no start is made of, and which leave its pump alone. -/
def isApart : QueueCall → Bool
  | .callStart | .join | .beginDownload _ | .endDownload _ _ | .pumpTest
  | .settlePump _ _ | .finishStart _ => false
  | _ => true

theorem rests_exec (calm : phase.calm) (input : QueueCall)
    (apart : isApart input = true) :
    Rests startProtocol phase (exec input) := by
  refine rests_perform ?_ fun reply => ?_
  · cases input with
    | callStart => cases apart
    | join => cases apart
    | beginDownload next => cases apart
    | endDownload controller videoId => cases apart
    | pumpTest => cases apart
    | settlePump pump outcome => cases apart
    | finishStart pump => cases apart
    | _ => trivial
  · change advanceStart phase input reply = phase
    cases input with
    | browse input =>
        cases input with
        | getAllVideos =>
            cases reply with
            | error error => rfl
            | ok records =>
                cases phase with
                | reading pump => exact absurd rfl (calm pump)
                | _ => rfl
        | _ => rfl
    | callStart => cases apart
    | join => cases apart
    | beginDownload next => cases apart
    | endDownload controller videoId => cases apart
    | pumpTest => cases apart
    | settlePump pump outcome => cases apart
    | finishStart pump => cases apart
    | _ => rfl

end

def Quiet {Phase : Type} (protocol : Protocol QueueCall QueueReply JsError Phase)
    (phase : Phase) : Prop :=
  ∀ input, isApart input = true → Rests protocol phase (exec input)

theorem quiet_of_calm {phase : StartPhase} (calm : phase.calm) :
    Quiet startProtocol phase :=
  rests_exec calm

section

variable {α Phase : Type} {phase : Phase}
variable {protocol : Protocol QueueCall QueueReply JsError Phase}

theorem rests_browsed (quiet : Quiet protocol phase) (program : Browsing α) :
    Rests protocol phase (browsed program) :=
  rests_handle (fun input => quiet (.browse input) rfl) program

theorem rests_downloading (quiet : Quiet protocol phase) (controller : Nat)
    (program : Downloading α) :
    Rests protocol phase (downloading controller program) :=
  rests_handle
    (fun input => quiet (.download controller input) rfl) program

theorem rests_controlled (quiet : Quiet protocol phase)
    (operation : ControlledOperation) {program : QueueProgram α}
    (rests : Rests protocol phase program) :
    Rests protocol phase (runControlled operation program) := by
  refine (quiet .enterControl rfl).bind fun _ => ?_
  refine (quiet (.turn operation) rfl).bind fun _ => ?_
  exact rests.ensure (quiet .release rfl)

theorem rests_ite {condition : Prop} [Decidable condition]
    {first second : QueueProgram α}
    (whenTrue : Rests protocol phase first)
    (whenFalse : Rests protocol phase second) :
    Rests protocol phase (if condition then first else second) := by
  split
  · exact whenTrue
  · exact whenFalse

theorem rests_refreshRecords (quiet : Quiet protocol phase) :
    Rests protocol phase refreshRecords := by
  refine (rests_browsed quiet _).bind fun records => ?_
  refine (rests_browsed quiet _).bind fun completedBytes => ?_
  exact quiet (.refreshed records completedBytes) rfl

theorem rests_initializeQueue (quiet : Quiet protocol phase) :
    Rests protocol phase initializeQueue := by
  refine (quiet .beginInitialize rfl).bind fun begins => ?_
  refine rests_ite ?_ (quiet .awaitInitialized rfl)
  refine Rests.attempt ?_ fun outcome => ?_
  · exact (rests_browsed quiet _).bind fun _ => rests_refreshRecords quiet
  · refine (quiet (.initialized outcome) rfl).bind fun _ => ?_
    cases outcome with
    | ok _ => exact rests_pure _
    | error error => exact rests_raise _

theorem rests_enqueueUnlocked (quiet : Quiet protocol phase)
    (video : Management.CatalogItem) :
    Rests protocol phase (enqueueUnlocked video) := by
  refine (quiet .isClearing rfl).bind fun refused => ?_
  refine rests_ite (rests_pure _) ?_
  refine (rests_browsed quiet _).bind fun existing => ?_
  refine (quiet .isClearing rfl).bind fun clearing => ?_
  refine rests_ite (rests_pure _) ?_
  refine (quiet (.browse .now) rfl).bind fun timestamp => ?_
  refine (rests_browsed quiet _).bind fun _ => ?_
  exact (rests_refreshRecords quiet).bind fun _ => rests_pure _

theorem rests_retryUnlocked (quiet : Quiet protocol phase) (videoId : UUID) :
    Rests protocol phase (retryUnlocked videoId) := by
  refine (quiet .isClearing rfl).bind fun refused => ?_
  refine rests_ite (rests_pure _) ?_
  refine (rests_browsed quiet _).bind fun record => ?_
  refine rests_ite (rests_pure _) ?_
  refine (rests_browsed quiet _).bind fun _ => ?_
  exact (rests_refreshRecords quiet).bind fun _ => rests_pure _

theorem rests_enqueueAll (quiet : Quiet protocol phase)
    (videos : List Management.CatalogItem) (enqueued : Nat) :
    Rests protocol phase (enqueueAll videos enqueued) := by
  induction videos generalizing enqueued with
  | nil => exact rests_pure _
  | cons video rest ih =>
      exact (rests_enqueueUnlocked quiet video).bind fun added => ih _

theorem rests_removeUnlocked (quiet : Quiet protocol phase) (videoId : UUID) :
    Rests protocol phase (removeUnlocked videoId) := by
  refine (rests_browsed quiet _).bind fun record => ?_
  refine rests_ite (rests_pure _) ?_
  refine (rests_browsed quiet _).bind fun _ => ?_
  exact (rests_refreshRecords quiet).bind fun _ => rests_pure _

theorem rests_enqueueCandidates (quiet : Quiet protocol phase) (limit : Option Nat)
    (videos candidates : List Management.CatalogItem) :
    Rests protocol phase (enqueueCandidates limit videos candidates) := by
  induction videos generalizing candidates with
  | nil => exact rests_pure _
  | cons video rest ih =>
      refine rests_ite (rests_pure _) (Rests.bind ?_ fun added => ih _)
      refine (rests_browsed quiet _).bind fun existing => ?_
      refine rests_ite (rests_pure _) (rests_ite ?_ ?_)
      · exact rests_retryUnlocked quiet video.id
      · exact rests_enqueueUnlocked quiet video

theorem rests_enqueueBatch (quiet : Quiet protocol phase) (limit : Option Nat)
    (videos : List Management.CatalogItem) :
    Rests protocol phase (enqueueBatch limit videos) := by
  refine rests_controlled quiet _ ?_
  refine (rests_enqueueCandidates quiet limit _ _).bind fun candidates => ?_
  exact (quiet (.batch candidates) rfl).bind fun _ => rests_pure _

theorem rests_awaitCurrentPump (quiet : Quiet protocol phase) :
    Rests protocol phase awaitCurrentPump := by
  refine (quiet .currentPump rfl).bind fun current => ?_
  cases current with
  | none => exact rests_pure _
  | some pump => exact quiet (.awaitPump pump) rfl

theorem rests_deleteBatch (quiet : Quiet protocol phase)
    (records : List OfflineVideoRecord) :
    Rests protocol phase (deleteBatch records) := by
  induction records with
  | nil => exact rests_pure _
  | cons record rest ih =>
      refine (quiet (.inBatch record.id) rfl).bind fun member => ?_
      exact rests_ite ((rests_browsed quiet _).bind fun _ => ih) ih

theorem rests_cancelBatch (quiet : Quiet protocol phase) :
    Rests protocol phase cancelBatch := by
  refine (rests_controlled quiet .cancelActive
    (quiet .cancelActive rfl)).bind fun _ => ?_
  refine (rests_awaitCurrentPump quiet).bind fun _ => ?_
  refine rests_controlled quiet .cancelQueued ?_
  refine (quiet .batchRecords rfl).bind fun records => ?_
  exact (rests_deleteBatch quiet records).bind fun _ =>
    rests_refreshRecords quiet

theorem rests_cancelAndClear (quiet : Quiet protocol phase) :
    Rests protocol phase cancelAndClear := by
  refine (rests_controlled quiet .beginClear
    (quiet .beginClear rfl)).bind fun _ => ?_
  refine Rests.ensure ?_ (quiet .endClear rfl)
  refine Rests.rescue ?_ fun error => ?_
  · refine (rests_awaitCurrentPump quiet).bind fun _ => ?_
    refine (rests_browsed quiet _).bind fun _ => ?_
    exact (quiet .cleared rfl).bind fun _ =>
      rests_refreshRecords quiet
  · exact (rests_refreshRecords quiet).attempt fun _ => rests_raise _

end

def EndsPump (pump : Nat) (outcome : Except JsError Unit)
    (phase : StartPhase) : Prop :=
  phase.runs pump ∧ (outcome = .ok () → phase = .leaving pump)

theorem calm_working (pump : Nat) : (StartPhase.working pump).calm := nofun

theorem find?_sortRecords {rows : List StoredVideo} {test : StoredVideo → Bool} :
    (sortRecords rows).find? test = none ↔ rows.any test = false := by
  simp

theorem queued_of_find? {rows : List StoredVideo} {next : StoredVideo}
    {test : StoredVideo → Bool}
    (found : (sortRecords rows).find? test = some next) :
    rows.any test = true := by
  by_contra absent
  rw [Bool.not_eq_true] at absent
  rw [find?_sortRecords.mpr absent] at found
  cases found

theorem downloadNext_rests (pump controller : Nat) (next : StoredVideo) :
    Rests startProtocol (.working pump) (downloadNext controller next) := by
  have quiet := quiet_of_calm (calm_working pump)
  refine Rests.attempt ?_ fun outcome => ?_
  · refine (rests_downloading quiet controller _).bind fun _ => ?_
    refine (quiet (.takeCancelled next.id) rfl).bind
      fun cancelled => ?_
    refine rests_ite ?_ (rests_pure _)
    refine Rests.bind ?_ fun _ => rests_browsed quiet _
    exact (rests_browsed quiet _).attempt fun _ => rests_pure _
  · have ends : Rests startProtocol (.working pump) (do
        exec (.endDownload controller next.id)
        refreshRecords) := by
      refine Rests.bind ?_ fun _ => rests_refreshRecords quiet
      exact rests_perform ⟨pump, rfl⟩ fun _ => rfl
    cases outcome with
    | ok _ => exact ends
    | error error =>
        exact (quiet (.downloadFailed _) rfl).bind fun _ => ends

theorem pumpEnded_follows (pump : Nat) :
    Follows startProtocol (.leaving pump) (exec .pumpEnded)
      (EndsPump pump) :=
  ⟨trivial, fun _ _ => ⟨.inr (.inr rfl), fun _ => rfl⟩⟩

theorem pump_follows (rounds pump : Nat) :
    Follows startProtocol (.reading pump) (OfflineDownloadQueue.pump rounds)
      (EndsPump pump) := by
  induction rounds with
  | zero => exact ⟨trivial, fun _ never => absurd rfl never⟩
  | succ rounds ih =>
      refine ⟨trivial, fun reply _ => ?_⟩
      cases reply with
      | error error => exact ⟨.inl rfl, fun clash => by cases clash⟩
      | ok rows =>
          change Follows startProtocol
            (if rows.any (·.status = .queued) then .working pump
              else .leaving pump)
            (pumpRound rounds
              ((sortRecords rows).find? (·.status = .queued))) _
          cases found : (sortRecords rows).find? (·.status = .queued) with
          | none =>
              rw [find?_sortRecords.mp found]
              exact pumpEnded_follows pump
          | some next =>
              rw [queued_of_find? found]
              refine ⟨⟨pump, rfl⟩, fun reply _ => ?_⟩
              cases reply with
              | error error =>
                  exact ⟨.inr (.inl rfl), fun clash => by cases clash⟩
              | ok begun =>
                  cases begun with
                  | none => exact pumpEnded_follows pump
                  | some controller =>
                      refine (downloadNext_rests pump controller next).before
                        (fun _ => ?_) fun error =>
                          ⟨.inr (.inl rfl), fun clash => by cases clash⟩
                      refine ⟨⟨pump, rfl⟩, fun reply _ => ?_⟩
                      cases reply with
                      | error error =>
                          exact ⟨.inr (.inl rfl), fun clash => by cases clash⟩
                      | ok again =>
                          cases again with
                          | true => exact ih
                          | false => exact pumpEnded_follows pump

theorem calm_idle : StartPhase.idle.calm := nofun

theorem start_follows (rounds : Nat) :
    Follows startProtocol .idle (start rounds) fun _ _ => True := by
  refine ⟨rfl, fun reply _ => ?_⟩
  cases reply with
  | error error => trivial
  | ok _ =>
      refine (rests_initializeQueue
        (quiet_of_calm (nofun : StartPhase.called.calm))).before
        (fun _ => ?_) fun error => trivial
      refine ⟨rfl, fun reply _ => ?_⟩
      cases reply with
      | error error => trivial
      | ok join =>
          cases join with
          | stopped => trivial
          | joined pump => exact ⟨rfl, fun _ _ => trivial⟩
          | created pump =>
              refine (pump_follows rounds pump).attempt ?_
              intro outcome reached ends
              refine ⟨ends, fun reply _ => ?_⟩
              cases reply with
              | error error => trivial
              | ok _ => exact ⟨rfl, fun _ _ => trivial⟩

section

variable {Phase : Type} {idle : Phase} {finished : Phase → Prop}
variable {protocol : Protocol QueueCall QueueReply JsError Phase}

theorem reserve_follows (quiet : Quiet protocol idle) (ends : finished idle)
    (starts : ∀ rounds, Follows protocol idle (start rounds)
      fun _ phase => finished phase)
    (videos : List Management.CatalogItem) (limit rounds : Nat) :
    Follows protocol idle (enqueueReserveAndStart videos limit rounds)
      fun _ phase => finished phase := by
  unfold enqueueReserveAndStart
  split
  · exact ends
  · refine (rests_initializeQueue quiet).before (fun _ => ?_) fun _ => ends
    refine (rests_enqueueBatch quiet (some limit) videos).before
      (fun queued => ?_) fun _ => ends
    split
    · exact (starts rounds).bind (fun _ _ kept => kept) fun _ _ kept => kept
    · exact ends

theorem jobs_follow (quiet : Quiet protocol idle) (ends : finished idle)
    (starts : ∀ rounds, Follows protocol idle (start rounds)
      fun _ phase => finished phase) (job : QueueJob) :
    Follows protocol idle (program job) fun _ phase => finished phase := by
  have rested {α : Type} {queued : QueueProgram α}
      (rests : Rests protocol idle queued) :
      Follows protocol idle queued fun _ phase => finished phase :=
    Follows.mono rests fun _ _ same => same ▸ ends
  cases job with
  | initializeQueue => exact rested (rests_initializeQueue quiet)
  | refreshFromStorage =>
      exact rested ((rests_initializeQueue quiet).bind
        fun _ => rests_refreshRecords quiet)
  | enqueue video =>
      exact rested ((rests_controlled quiet _
        (rests_enqueueUnlocked quiet video)).bind fun _ => rests_pure _)
  | enqueueMany videos =>
      exact rested ((rests_controlled quiet _
        (rests_enqueueAll quiet videos 0)).bind fun _ => rests_pure _)
  | retry videoId =>
      exact rested ((rests_controlled quiet _
        (rests_retryUnlocked quiet videoId)).bind fun _ => rests_pure _)
  | removeQueued videoId =>
      exact rested ((rests_controlled quiet _
        (rests_removeUnlocked quiet videoId)).bind
          fun removed => quiet (.removeResolved videoId removed) rfl)
  | enqueueCatalogAndStart videos rounds =>
      refine (rests_initializeQueue quiet).before (fun _ => ?_) fun _ => ends
      refine (rests_enqueueBatch quiet none videos).before (fun queued => ?_)
        fun _ => ends
      split
      · exact starts rounds
      · exact ends
  | enqueueReserveAndStart videos limit rounds =>
      exact (reserve_follows quiet ends starts videos limit rounds).bind
        (fun _ _ kept => kept) fun _ _ kept => kept
  | start rounds => exact starts rounds
  | pause => exact rested (quiet .pause rfl)
  | abortActive => exact rested (quiet .abortActive rfl)
  | cancelBatch => exact rested (rests_cancelBatch quiet)
  | cancelAndClear =>
      exact rested ((rests_cancelAndClear quiet).bind
        fun _ => quiet .clearResolved rfl)
  | offline => exact rested (quiet .offline rfl)
  | online => exact rested (quiet .online rfl)
  | recordViewed videoId =>
      exact rested ((quiet (.browse .now) rfl).bind
        fun viewedAt => (rests_browsed quiet _).bind fun _ => rests_pure _)

end

theorem program_follows (job : QueueJob) :
    Follows startProtocol .idle (program job) fun _ _ => True :=
  jobs_follow (quiet_of_calm calm_idle) trivial start_follows job

/-- A start resolves with its pump, or at once where it does not join one. -/
def resolves (store : QueueStore) : QueueCall → Bool
  | .join => store.clearing || !store.onLine
  | .finishStart pump => (store.outcomeOf pump).any (·.toBool)
  | _ => false

def isRunning (store : QueueStore) : Bool :=
  !store.snapshot.paused && store.onLine && !store.clearing

abbrev StartCondition : Type :=
  Machine.CallCondition QueueCall StartPhase
    (QueueStore × List PendingStart)

/-- A start that resolves while the queue runs leaves no record queued that was
so at its call and ever since. -/
def Woken : StartCondition := fun thread state _ input =>
  resolves state.1 input = true → isRunning state.1 = true →
    ∀ start ∈ state.2, start.thread = thread → start.queued = []

/-- The pump takes no further record. -/
def isLeaving (state : QueueStore × List PendingStart)
    (phases : ThreadId → StartPhase) (pump : Nat) : Bool :=
  state.1.settled.any (fun entry => entry.1 = pump && entry.2.toBool) ||
    state.2.any fun start => phases start.thread = .leaving pump

/-- A start resumes the queue while it, or another start, waits for a pump that
is leaving, and a record of that start is still queued. -/
def overlooks (thread : ThreadId) (state : QueueStore × List PendingStart)
    (phases : ThreadId → StartPhase) : QueueCall → Bool
  | .join =>
      !state.1.clearing && state.1.onLine && state.2.any fun start =>
        start.queued ≠ [] &&
          (if start.thread = thread then state.1.pumpPromise
            else start.pump).any (isLeaving state phases)
  | _ => false

def attends : StartCondition := fun thread state phases input =>
  overlooks thread state phases input = false

instance (thread : ThreadId) (state : QueueStore × List PendingStart)
    (phases : ThreadId → StartPhase) (input : QueueCall) :
    Decidable (attends thread state phases input) :=
  inferInstanceAs (Decidable (_ = false))

instance (thread : ThreadId) (state : QueueStore × List PendingStart)
    (phases : ThreadId → StartPhase) (input : QueueCall) :
    Decidable (Woken thread state phases input) :=
  inferInstanceAs (Decidable (_ → _ → _))

structure Pumps where
  promise : Option Nat
  count : Nat
  settled : List (Nat × Except JsError Unit)

structure Flags where
  paused : Bool
  onLine : Bool
  clearing : Bool
  pumps : Pumps

def flags (store : QueueStore) : Flags where
  paused := store.snapshot.paused
  onLine := store.onLine
  clearing := store.clearing
  pumps := ⟨store.pumpPromise, store.pumps, store.settled⟩

theorem flags_updateBatchProgress (store : QueueStore) :
    flags store.updateBatchProgress = flags store := by
  unfold QueueStore.updateBatchProgress
  split <;> rfl

theorem flags_refreshed (store : QueueStore) (records : List StoredVideo)
    (completedBytes : Nat) :
    flags (store.refreshed records completedBytes) = flags store :=
  flags_updateBatchProgress _

theorem flags_progressed (store : QueueStore) (controller : Nat)
    (progress : DownloadProgress) :
    flags (store.progressed controller progress) = flags store := by
  unfold QueueStore.progressed
  split
  · rfl
  · exact flags_updateBatchProgress _

theorem flags_transform (store : QueueStore) (controller : Nat)
    (progress : DownloadProgress) (draw : QueueDraw) :
    flags (store.transform controller progress draw).1 = flags store := by
  unfold QueueStore.transform
  split
  · rfl
  · split
    · exact flags_progressed _ _ _
    · rfl

theorem browse_eq_some {store after : QueueStore} {draw : QueueDraw}
    {input : BrowserCall} {reply : BrowserReply input}
    (browsed : store.browse draw input = some (after, reply)) :
    ∃ stores, after = { store with stores } := by
  cases input <;> first
    | cases browsed; exact ⟨_, rfl⟩
    | cases browsed

theorem browsed_eq_some {store after : QueueStore} {choice : QueueChoice}
    {input : BrowserCall} {reply : Except JsError (BrowserReply input)}
    (browsed : store.browsed choice input = some (after, reply)) :
    ∃ stores, after = { store with stores } := by
  cases choice with
  | rejects error =>
      cases browsed
      exact ⟨store.stores, rfl⟩
  | returns draw =>
      obtain ⟨⟨_, answer⟩, answered, same⟩ :=
        Option.map_eq_some_iff.mp browsed
      cases same
      exact browse_eq_some answered

theorem flags_download {store after : QueueStore} {choice : QueueChoice}
    {controller : Nat} {input : DownloadCall}
    {reply : Except JsError (DownloadReply input)}
    (downloaded : store.download choice controller input =
      some (after, reply)) : flags after = flags store := by
  cases input with
  | browse input =>
      obtain ⟨stores, rfl⟩ := browsed_eq_some downloaded
      rfl
  | signalAborted =>
      cases downloaded
      rfl
  | finishProgress progress =>
      cases downloaded
      exact flags_progressed _ _ _
  | getStorageEstimate => cases choice <;> cases downloaded <;> rfl
  | fetch videoId => cases choice <;> cases downloaded <;> rfl
  | transform progress =>
      cases choice with
      | rejects error =>
          cases downloaded
          rfl
      | returns draw =>
          have same : (store.transform controller progress draw).1 = after :=
            congrArg Prod.fst (Option.some.inj downloaded)
          rw [← same]
          exact flags_transform _ _ _ _

/-- Only a start resumes the queue or makes a pump; the queue is paused where it
is offline or clears, and a pump settles by a call of its own. -/
structure Steady (before after : Flags) : Prop where
  paused : before.paused = true → after.paused = true
  quiet : (after.onLine = false ∨ after.clearing = true) →
    after.paused = true ∨ before.onLine = false ∨ before.clearing = true
  pumps : after.pumps = before.pumps

theorem Steady.of_eq {before after : Flags} (same : after = before) :
    Steady before after := by
  subst same
  exact ⟨fun paused => paused, .inr, rfl⟩

theorem Steady.pausing {before after : Flags} (paused : after.paused = true)
    (pumps : after.pumps = before.pumps) : Steady before after :=
  ⟨fun _ => paused, fun _ => .inl paused, pumps⟩

def isSteady : QueueCall → Bool
  | .join | .settlePump _ _ => false
  | _ => true

theorem perform_steady {thread : ThreadId} {store after : QueueStore}
    {input : QueueCall} {choice : QueueChoice}
    {reply : Except JsError (QueueReply input)}
    (performed : store.perform thread input choice = some (after, reply))
    (steady : isSteady input = true) :
    Steady (flags store) (flags after) := by
  cases input with
  | join => cases steady
  | settlePump pump outcome => cases steady
  | browse input =>
      obtain ⟨stores, rfl⟩ := browsed_eq_some performed
      exact .of_eq rfl
  | download controller input => exact .of_eq (flags_download performed)
  | turn operation =>
      simp only [QueueStore.perform] at performed
      split at performed
      · cases performed
        exact .of_eq rfl
      · cases performed
  | beginInitialize =>
      simp only [QueueStore.perform] at performed
      split at performed <;> cases performed <;> exact .of_eq rfl
  | awaitInitialized =>
      simp only [QueueStore.perform] at performed
      split at performed <;> cases performed
      exact .of_eq rfl
  | refreshed records completedBytes =>
      cases performed
      exact .of_eq (flags_refreshed _ _ _)
  | beginDownload next =>
      cases performed
      unfold QueueStore.beginDownload
      split <;> exact .of_eq rfl
  | downloadFailed code =>
      cases performed
      refine ⟨fun paused => ?_, .inr, rfl⟩
      simp only [flags] at paused
      simp [flags, QueueStore.downloadFailed, paused]
  | finishStart pump =>
      obtain ⟨outcome, _, same⟩ := Option.map_eq_some_iff.mp performed
      cases same
      exact .of_eq rfl
  | awaitPump pump =>
      obtain ⟨outcome, _, same⟩ := Option.map_eq_some_iff.mp performed
      cases same
      exact .of_eq rfl
  | never => cases performed
  | pause =>
      cases performed
      exact .pausing rfl rfl
  | abortActive =>
      simp only [QueueStore.perform] at performed
      split at performed
      · cases performed
        exact .pausing rfl rfl
      · cases performed
        exact .of_eq rfl
  | offline =>
      cases performed
      exact .pausing rfl rfl
  | online =>
      cases performed
      refine ⟨fun paused => paused, fun still => ?_, rfl⟩
      rcases still with offline | clearing
      · cases offline
      · exact .inr (.inr clearing)
  | cancelActive =>
      cases performed
      exact .pausing rfl rfl
  | inBatch videoId =>
      simp only [QueueStore.perform] at performed
      split at performed <;> cases performed <;> exact .of_eq rfl
  | beginClear =>
      cases performed
      exact .pausing rfl rfl
  | cleared =>
      cases performed
      exact .pausing rfl rfl
  | endClear =>
      cases performed
      exact .pausing rfl rfl
  | _ =>
      cases performed
      exact .of_eq rfl

def Leaving (settled : List (Nat × Except JsError Unit))
    (phases : ThreadId → StartPhase) (pump : Nat) : Prop :=
  (pump, .ok ()) ∈ settled ∨ ∃ thread, phases thread = .leaving pump

/-- Whoever waits for a pump that is leaving finds the queue paused, or has no
record queued. -/
structure Heard (flags : Flags) (starts : List PendingStart)
    (phases : ThreadId → StartPhase) : Prop where
  quiet : flags.onLine = false ∨ flags.clearing = true → flags.paused = true
  heard : ∀ start ∈ starts, ∀ pump, start.pump = some pump →
    Leaving flags.pumps.settled phases pump →
      flags.paused = true ∨ start.queued = []
  own : ∀ thread, phases thread ≠ .idle →
    ∃ start ∈ starts, start.thread = thread
  waits : ∀ thread pump, (phases thread).pump = some pump →
    ∀ start ∈ starts, start.thread = thread → start.pump = some pump

def Queued (stores : Stores) (starts : List PendingStart) : Prop :=
  ∀ start ∈ starts, ∀ videoId ∈ start.queued, videoId ∈ queuedIds stores

theorem queued_kept (stores : Stores) (starts : List PendingStart) :
    Queued stores (starts.map (·.keep (queuedIds stores))) := by
  intro start member videoId queued
  obtain ⟨earlier, _, rfl⟩ := List.mem_map.mp member
  simpa using (List.mem_filter.mp queued).2

theorem Queued.nil {stores : Stores} {starts : List PendingStart}
    (queued : Queued stores starts)
    (empty : stores.library.rows.any (·.status = .queued) = false) :
    ∀ start ∈ starts, start.queued = [] := by
  intro start member
  apply List.eq_nil_iff_forall_not_mem.mpr
  intro videoId listed
  obtain ⟨record, here, _⟩ := List.mem_map.mp (queued start member videoId listed)
  obtain ⟨present, waiting⟩ := List.mem_filter.mp here
  exact List.any_eq_false.mp empty record present waiting

section

variable {before after : Flags} {starts : List PendingStart}
variable {phases : ThreadId → StartPhase}

theorem leaving_update {settled : List (Nat × Except JsError Unit)}
    {thread : ThreadId} {phase : StartPhase} {pump : Nat}
    (leaving : Leaving settled (Function.update phases thread phase) pump) :
    Leaving settled phases pump ∨ phase = .leaving pump := by
  rcases leaving with settled | ⟨other, there⟩
  · exact .inl (.inl settled)
  · by_cases same : other = thread
    · subst same
      rw [Function.update_self] at there
      exact .inr there
    · rw [Function.update_of_ne same] at there
      exact .inl (.inr ⟨other, there⟩)

theorem Heard.steady (kept : Heard before starts phases)
    (steady : Steady before after) : Heard after starts phases where
  quiet := fun still => by
    rcases steady.quiet still with paused | earlier
    · exact paused
    · exact steady.paused (kept.quiet earlier)
  heard := fun start member pump waits leaving => by
    rw [steady.pumps] at leaving
    exact (kept.heard start member pump waits leaving).imp_left steady.paused
  own := kept.own
  waits := kept.waits

theorem Heard.kept (heard : Heard before starts phases)
    (queued : List UUID) :
    Heard before (starts.map (·.keep queued)) phases where
  quiet := heard.quiet
  heard := by
    intro start member pump waits leaving
    obtain ⟨earlier, listed, rfl⟩ := List.mem_map.mp member
    refine (heard.heard earlier listed pump waits leaving).imp_right ?_
    intro nothing
    simp [PendingStart.keep, nothing]
  own := by
    intro thread busy
    obtain ⟨start, member, same⟩ := heard.own thread busy
    exact ⟨_, List.mem_map_of_mem member, same⟩
  waits := by
    intro thread pump waiting start member same
    obtain ⟨earlier, listed, rfl⟩ := List.mem_map.mp member
    exact heard.waits thread pump waiting earlier listed same

/-- A pump goes on, or is leaving while nothing is queued or it is paused. -/
theorem Heard.moves (heard : Heard before starts phases) {thread : ThreadId}
    {phase : StartPhase} (busy : phases thread ≠ .idle)
    (same : phase.pump = (phases thread).pump)
    (leaves : ∀ pump, phase = .leaving pump →
      before.paused = true ∨ ∀ start ∈ starts, start.queued = []) :
    Heard before starts (Function.update phases thread phase) where
  quiet := heard.quiet
  heard := by
    intro start member pump waits leaving
    rcases leaving_update leaving with earlier | here
    · exact heard.heard start member pump waits earlier
    · exact (leaves pump here).imp_right fun empty => empty start member
  own := by
    intro other active
    by_cases here : other = thread
    · subst here
      exact heard.own other busy
    · rw [Function.update_of_ne here] at active
      exact heard.own other active
  waits := by
    intro other pump waiting start member own
    by_cases here : other = thread
    · subst here
      rw [Function.update_self, same] at waiting
      exact heard.waits other pump waiting start member own
    · rw [Function.update_of_ne here] at waiting
      exact heard.waits other pump waiting start member own

theorem Heard.idles (heard : Heard before starts phases) (thread : ThreadId)
    {rest : List PendingStart} (fewer : ∀ start ∈ rest, start ∈ starts)
    (others : ∀ start ∈ starts, start.thread ≠ thread → start ∈ rest) :
    Heard before rest (Function.update phases thread .idle) where
  quiet := heard.quiet
  heard := by
    intro start member pump waits leaving
    rcases leaving_update leaving with earlier | here
    · exact heard.heard start (fewer start member) pump waits earlier
    · cases here
  own := by
    intro other active
    by_cases here : other = thread
    · subst here
      rw [Function.update_self] at active
      exact absurd rfl active
    · rw [Function.update_of_ne here] at active
      obtain ⟨start, member, own⟩ := heard.own other active
      exact ⟨start, others start member (own ▸ here), own⟩
  waits := by
    intro other pump waiting start member own
    by_cases here : other = thread
    · subst here
      rw [Function.update_self] at waiting
      cases waiting
    · rw [Function.update_of_ne here] at waiting
      exact heard.waits other pump waiting start (fewer start member) own

theorem Heard.reset (heard : Heard before starts phases)
    (thread : ThreadId) :
    Heard before starts (Function.update phases thread .idle) :=
  heard.idles thread (fun _ member => member) fun _ member _ => member

theorem Heard.resolves (heard : Heard before starts phases)
    (thread : ThreadId) :
    Heard before (resolved thread starts)
      (Function.update phases thread .idle) :=
  heard.idles thread (fun _ member => (List.mem_filter.mp member).1)
    fun _ member other => List.mem_filter.mpr ⟨member, by simpa using other⟩

theorem Heard.calls (heard : Heard before starts phases) (thread : ThreadId)
    (queued : List UUID) :
    Heard before (called thread queued starts)
      (Function.update phases thread .called) where
  quiet := heard.quiet
  heard := by
    intro start member pump waits leaving
    rcases List.mem_cons.mp member with rfl | listed
    · cases waits
    · rcases leaving_update leaving with earlier | here
      · exact heard.heard start (List.mem_filter.mp listed).1 pump waits
          earlier
      · cases here
  own := by
    intro other active
    by_cases here : other = thread
    · subst here
      exact ⟨_, List.mem_cons_self, rfl⟩
    · rw [Function.update_of_ne here] at active
      obtain ⟨start, member, own⟩ := heard.own other active
      refine ⟨start, List.mem_cons_of_mem _ (List.mem_filter.mpr ?_), own⟩
      exact ⟨member, by simpa using own ▸ here⟩
  waits := by
    intro other pump waiting start member own
    by_cases here : other = thread
    · subst here
      rw [Function.update_self] at waiting
      cases waiting
    · rw [Function.update_of_ne here] at waiting
      rcases List.mem_cons.mp member with rfl | listed
      · exact absurd own.symm here
      · exact heard.waits other pump waiting start
          (List.mem_filter.mp listed).1 own

theorem joins_thread (thread : ThreadId) (pump : Nat) (start : PendingStart) :
    (joins thread pump start).thread = start.thread := by
  unfold joins
  split <;> rfl

theorem joins_queued (thread : ThreadId) (pump : Nat) (start : PendingStart) :
    (joins thread pump start).queued = start.queued := by
  unfold joins
  split <;> rfl

theorem Heard.joins (heard : Heard before starts phases) {thread : ThreadId}
    {pump : Nat} {phase : StartPhase} (busy : phases thread ≠ .idle)
    (waiting : phase.pump = some pump) (stays : phase ≠ .leaving pump)
    (attended : ∀ start ∈ starts, ∀ awaited,
      (joins thread pump start).pump = some awaited →
      Leaving before.pumps.settled phases awaited → start.queued = [])
    (settled : after.pumps.settled = before.pumps.settled)
    (runs : after.onLine = true ∧ after.clearing = false) :
    Heard after (starts.map (joins thread pump))
      (Function.update phases thread phase) where
  quiet := by
    intro still
    rw [runs.1, runs.2] at still
    rcases still with offline | clearing
    · cases offline
    · cases clearing
  heard := by
    intro start member awaited waits leaving
    obtain ⟨earlier, listed, rfl⟩ := List.mem_map.mp member
    rw [settled] at leaving
    rw [joins_queued]
    right
    rcases leaving_update leaving with before | here
    · exact attended earlier listed awaited waits before
    · subst here
      cases waiting
      exact absurd rfl stays
  own := by
    intro other active
    have listed : ∃ start ∈ starts, start.thread = other := by
      by_cases here : other = thread
      · subst here
        exact heard.own other busy
      · rw [Function.update_of_ne here] at active
        exact heard.own other active
    obtain ⟨start, member, own⟩ := listed
    exact ⟨_, List.mem_map_of_mem member, (joins_thread _ _ _).trans own⟩
  waits := by
    intro other awaited waits start member own
    obtain ⟨earlier, listed, rfl⟩ := List.mem_map.mp member
    rw [joins_thread] at own
    by_cases here : other = thread
    · subst here
      rw [Function.update_self, waiting] at waits
      rw [QueueStarts.joins, if_pos own]
      exact waits
    · rw [Function.update_of_ne here] at waits
      rw [QueueStarts.joins, if_neg (own ▸ here)]
      exact heard.waits other awaited waits earlier listed own

structure Numbered (pumps : Pumps) (phases : ThreadId → StartPhase) :
    Prop where
  promised : ∀ pump, pumps.promise = some pump → pump < pumps.count
  running : ∀ thread pump, (phases thread).pump = some pump →
    pump < pumps.count
  settled : ∀ entry ∈ pumps.settled, entry.1 < pumps.count

theorem Numbered.update {pumps : Pumps} (numbered : Numbered pumps phases)
    {thread : ThreadId} {phase : StartPhase}
    (below : ∀ pump, phase.pump = some pump → pump < pumps.count) :
    Numbered pumps (Function.update phases thread phase) where
  promised := numbered.promised
  running := by
    intro other pump here
    by_cases same : other = thread
    · subst same
      rw [Function.update_self] at here
      exact below pump here
    · rw [Function.update_of_ne same] at here
      exact numbered.running other pump here
  settled := numbered.settled

theorem Numbered.unleaving {pumps : Pumps} (numbered : Numbered pumps phases) :
    ¬ Leaving pumps.settled phases pumps.count := by
  intro leaving
  rcases leaving with settled | ⟨thread, there⟩
  · exact absurd (numbered.settled _ settled) (Nat.lt_irrefl _)
  · have here : (phases thread).pump = some pumps.count := by
      rw [there]
      rfl
    exact absurd (numbered.running _ _ here) (Nat.lt_irrefl _)

theorem Heard.settles (heard : Heard before starts phases)
    {thread : ThreadId} {pump : Nat} {outcome : Except JsError Unit}
    (runs : (phases thread).runs pump)
    (left : outcome = .ok () → phases thread = .leaving pump) :
    Heard { before with
        pumps := {
          promise := none
          count := before.pumps.count
          settled := (pump, outcome) :: before.pumps.settled } } starts
      (Function.update phases thread (.waiting pump)) := by
  have same : (phases thread).pump = some pump := by
    rcases runs with here | here | here <;> rw [here] <;> rfl
  have busy : phases thread ≠ .idle := by
    intro idle
    rw [idle] at same
    cases same
  have moved : Heard before starts
      (Function.update phases thread (.waiting pump)) :=
    heard.moves busy same.symm nofun
  refine ⟨moved.quiet, ?_, moved.own, moved.waits⟩
  intro start member awaited waits leaving
  rcases leaving with settled | there
  · rcases List.mem_cons.mp settled with first | earlier
    · cases first
      exact heard.heard start member _ waits (.inr ⟨thread, left rfl⟩)
    · exact heard.heard start member awaited waits (.inl earlier)
  · exact moved.heard start member awaited waits (.inr there)

end

section

variable {thread : ThreadId} {store after : QueueStore}
variable {starts : List PendingStart} {phases : ThreadId → StartPhase}
variable {choice : QueueChoice}

theorem isLeaving_of_leaving (heard : Heard (flags store) starts phases)
    {pump : Nat} (leaving : Leaving store.settled phases pump) :
    isLeaving (store, starts) phases pump = true := by
  simp only [isLeaving, Bool.or_eq_true, List.any_eq_true, Bool.and_eq_true,
    decide_eq_true_eq]
  rcases leaving with settled | ⟨other, there⟩
  · exact .inl ⟨_, settled, rfl, rfl⟩
  · have busy : phases other ≠ .idle := by
      rw [there]
      nofun
    obtain ⟨start, member, own⟩ := heard.own other busy
    exact .inr ⟨start, member, own ▸ there⟩

theorem attended (heard : Heard (flags store) starts phases)
    (guard : attends thread (store, starts) phases .join)
    (online : store.onLine = true) (open_ : store.clearing = false)
    {pump : Nat} (joined : store.pumpPromise = some pump ∨
      store.pumpPromise = none ∧ ¬ Leaving store.settled phases pump) :
    ∀ start ∈ starts, ∀ awaited,
      (joins thread pump start).pump = some awaited →
      Leaving store.settled phases awaited → start.queued = [] := by
  intro start member awaited waits leaving
  by_contra queued
  have left := isLeaving_of_leaving heard leaving
  simp only [attends, overlooks, online, open_, Bool.not_false,
    Bool.true_and, List.any_eq_false] at guard
  apply guard start member
  simp only [Bool.and_eq_true, decide_eq_true_eq]
  refine ⟨queued, ?_⟩
  by_cases own : start.thread = thread
  · rw [if_pos own]
    rw [joins, if_pos own] at waits
    cases waits
    rcases joined with here | ⟨_, fresh⟩
    · rw [here]
      exact left
    · exact absurd leaving fresh
  · rw [if_neg own]
    rw [joins, if_neg own] at waits
    rw [waits]
    exact left

/-- What holds of the queue, its starts and their pumps in every state. -/
structure Attended (store : QueueStore) (starts : List PendingStart)
    (phases : ThreadId → StartPhase) : Prop where
  heard : Heard (flags store) starts phases
  numbered : Numbered (flags store).pumps phases

theorem Attended.steady (kept : Attended store starts phases)
    (steady : Steady (flags store) (flags after)) :
    Attended after starts phases where
  heard := kept.heard.steady steady
  numbered := by
    rw [steady.pumps]
    exact kept.numbered

theorem Attended.unmoved (kept : Attended store starts phases)
    (steady : Steady (flags store) (flags after)) :
    Attended after starts
      (Function.update phases thread (phases thread)) := by
  rw [Function.update_eq_self]
  exact kept.steady steady

theorem Attended.moves (kept : Attended store starts phases)
    {phase : StartPhase} (busy : phases thread ≠ .idle)
    (same : phase.pump = (phases thread).pump)
    (leaves : ∀ pump, phase = .leaving pump →
      store.snapshot.paused = true ∨ ∀ start ∈ starts, start.queued = []) :
    Attended store starts (Function.update phases thread phase) where
  heard := kept.heard.moves busy same leaves
  numbered := kept.numbered.update fun pump here =>
    kept.numbered.running thread pump (same ▸ here)

theorem Attended.reads (kept : Attended store starts phases)
    (queued : Queued store.stores starts) (rows : List StoredVideo)
    (listed : rows = store.stores.library.rows) :
    Attended store starts (Function.update phases thread
      (advanceStart (phases thread) (.browse .getAllVideos) (.ok rows))) := by
  cases here : phases thread with
  | reading pump =>
      simp only [advanceStart]
      have busy : phases thread ≠ .idle := by
        rw [here]
        nofun
      split
      · refine kept.moves busy ?_ nofun
        rw [here]
        rfl
      · rename_i empty
        refine kept.moves busy ?_ fun _ _ => .inr ?_
        · rw [here]
          rfl
        · apply queued.nil
          rw [← listed]
          simpa using empty
  | _ =>
      simp only [advanceStart]
      rw [← here]
      exact kept.unmoved (.of_eq rfl)

theorem Attended.joins (kept : Attended store starts phases)
    (busy : phases thread = .called)
    (guard : attends thread (store, starts) phases .join) :
    Attended store.join.1
      (noteStart thread store .join (.ok store.join.2) starts)
      (Function.update phases thread
        (advanceStart (phases thread) .join (.ok store.join.2))) := by
  have active : phases thread ≠ .idle := by
    rw [busy]
    nofun
  unfold QueueStore.join
  split
  · exact ⟨kept.heard.resolves thread, kept.numbered.update nofun⟩
  · rename_i open_
    rw [Bool.not_eq_true] at open_
    split
    · rename_i offline
      refine ⟨?_, kept.numbered.update nofun⟩
      exact (kept.heard.resolves thread).steady (.pausing rfl rfl)
    · rename_i online
      have online : store.onLine = true := by simpa using online
      dsimp only
      split
      · rename_i pump promised
        refine ⟨?_, kept.numbered.update fun other same => ?_⟩
        · exact kept.heard.joins active rfl nofun
            (attended kept.heard guard online open_ (.inl promised)) rfl
            ⟨online, open_⟩
        · cases same
          exact kept.numbered.promised _ promised
      · rename_i absent
        have fresh : ¬ Leaving store.settled phases store.pumps :=
          kept.numbered.unleaving
        refine ⟨?_, ?_⟩
        · exact kept.heard.joins active rfl nofun
            (attended kept.heard guard online open_ (.inr ⟨absent, fresh⟩))
            rfl ⟨online, open_⟩
        · have grown : Numbered ⟨some store.pumps, store.pumps + 1,
              store.settled⟩ phases := by
            refine ⟨?_, fun other pump here => ?_, fun entry member => ?_⟩
            · intro pump same
              cases same
              exact Nat.lt_succ_self _
            · exact Nat.lt_succ_of_lt (kept.numbered.running other pump here)
            · exact Nat.lt_succ_of_lt (kept.numbered.settled entry member)
          refine grown.update fun pump same => ?_
          cases same
          exact Nat.lt_succ_self _

theorem Attended.settles (kept : Attended store starts phases) {pump : Nat}
    {outcome : Except JsError Unit} (runs : (phases thread).runs pump)
    (left : outcome = .ok () → phases thread = .leaving pump) :
    Attended { store with
        pumpPromise := none
        settled := (pump, outcome) :: store.settled } starts
      (Function.update phases thread (.waiting pump)) where
  heard := kept.heard.settles runs left
  numbered := by
    have below : pump < store.pumps := by
      refine kept.numbered.running thread pump ?_
      rcases runs with here | here | here <;> rw [here] <;> rfl
    have settled : Numbered ⟨none, store.pumps,
        (pump, outcome) :: store.settled⟩ phases := by
      refine ⟨nofun, kept.numbered.running, fun entry member => ?_⟩
      rcases List.mem_cons.mp member with rfl | earlier
      · exact below
      · exact kept.numbered.settled entry earlier
    refine settled.update fun other same => ?_
    cases same
    exact below

/-- A pump that begins no download, or fails a test, leaves a paused queue. -/
theorem Attended.tests (kept : Attended store starts phases) {pump : Nat}
    {phase : StartPhase} (works : phases thread = .working pump)
    (same : phase.pump = some pump)
    (leaves : ∀ pump, phase = .leaving pump →
      store.snapshot.paused = true) :
    Attended store starts (Function.update phases thread phase) := by
  refine kept.moves ?_ ?_ fun other left => .inl (leaves other left)
  · rw [works]
    nofun
  · rw [works]
    exact same

theorem perform_attended {input : QueueCall}
    {reply : Except JsError (QueueReply input)}
    (kept : Attended store starts phases)
    (queued : Queued store.stores starts)
    (permitted : permitsStart (phases thread) input)
    (guard : attends thread (store, starts) phases input)
    (performed : store.perform thread input choice = some (after, reply)) :
    Attended after (noteStart thread store input reply starts)
      (Function.update phases thread
        (advanceStart (phases thread) input reply)) := by
  cases input with
  | callStart =>
      cases performed
      exact ⟨kept.heard.calls thread _, kept.numbered.update nofun⟩
  | join =>
      cases performed
      exact kept.joins permitted guard
  | finishStart pump =>
      have steady := perform_steady performed rfl
      refine Attended.steady ?_ steady
      exact ⟨kept.heard.resolves thread, kept.numbered.update nofun⟩
  | settlePump pump outcome =>
      cases performed
      exact kept.settles permitted.1 permitted.2
  | pumpTest =>
      cases performed
      obtain ⟨pump, works⟩ := permitted
      simp only [advanceStart, works]
      refine kept.tests works ?_ fun other left => ?_
      · split <;> rfl
      · split at left
        · cases left
        · rename_i failed
          by_contra running
          simp only [Bool.not_eq_true] at running
          apply failed
          rw [running]
          by_contra offline
          have down : (flags store).onLine = false := by
            simpa [flags] using offline
          have paused : store.snapshot.paused = true :=
            kept.heard.quiet (.inl down)
          rw [running] at paused
          cases paused
  | beginDownload next =>
      obtain ⟨pump, works⟩ := permitted
      have steady := perform_steady performed rfl
      cases performed
      refine Attended.steady ?_ steady
      simp only [advanceStart, works, QueueStore.beginDownload]
      split
      · rename_i clearing
        exact kept.tests works rfl fun _ _ => kept.heard.quiet (.inr clearing)
      · exact kept.tests works rfl nofun
  | browse input =>
      have steady := perform_steady performed rfl
      refine Attended.steady ?_ steady
      cases input with
      | getAllVideos =>
          cases reply with
          | error error => exact kept.unmoved (.of_eq rfl)
          | ok rows =>
              refine kept.reads queued rows ?_
              cases choice <;> cases performed
              rfl
      | _ => exact kept.unmoved (.of_eq rfl)
  | _ => exact kept.unmoved (perform_steady performed rfl)

end

structure Watched (state : QueueStore × List PendingStart)
    (phases : ThreadId → StartPhase) : Prop where
  attended : Attended state.1 state.2 phases
  queued : Queued state.1.stores state.2

theorem Watched.reset {state : QueueStore × List PendingStart}
    {phases : ThreadId → StartPhase} (watched : Watched state phases)
    (thread : ThreadId) :
    Watched state (Function.update phases thread .idle) :=
  ⟨⟨watched.attended.heard.reset thread,
    watched.attended.numbered.update nofun⟩, watched.queued⟩

theorem Watched.step {thread : ThreadId}
    {state after : QueueStore × List PendingStart}
    {phases : ThreadId → StartPhase} {input : QueueCall}
    {choice : QueueChoice} {reply : Except JsError (QueueReply input)}
    (watched : Watched state phases)
    (permitted : permitsStart (phases thread) input)
    (guard : attends thread state phases input)
    (performed : noting QueueStore.perform observe thread state input choice =
      some (after, reply)) :
    input ≠ .never ∧ Watched after (Function.update phases thread
      (advanceStart (phases thread) input reply)) := by
  obtain ⟨done, noted⟩ := noting_eq_some performed
  have kept := perform_attended watched.attended watched.queued permitted
    guard done
  constructor
  · intro never
    subst never
    cases done
  · refine ⟨⟨?_, kept.numbered⟩, ?_⟩
    · rw [noted]
      exact kept.heard.kept _
    · rw [noted]
      exact queued_kept _ _

theorem mem_settled {store : QueueStore} {pump : Nat}
    (resolved : (store.outcomeOf pump).any (·.toBool) = true) :
    (pump, .ok ()) ∈ store.settled := by
  unfold QueueStore.outcomeOf at resolved
  cases found : store.settled.find? (·.1 = pump) with
  | none => simp [found] at resolved
  | some entry =>
      obtain ⟨number, outcome⟩ := entry
      have same : number = pump := by simpa using List.find?_some found
      subst same
      rw [found] at resolved
      cases outcome with
      | ok _ => exact List.mem_of_find?_eq_some found
      | error error => cases resolved

theorem Watched.woken {thread : ThreadId}
    {state : QueueStore × List PendingStart}
    {phases : ThreadId → StartPhase} {input : QueueCall}
    (watched : Watched state phases)
    (permitted : permitsStart (phases thread) input) :
    Woken thread state phases input := by
  intro resolved running start member own
  simp only [isRunning, Bool.and_eq_true, Bool.not_eq_true'] at running
  obtain ⟨⟨unpaused, online⟩, open_⟩ := running
  cases input with
  | join => simp [resolves, online, open_] at resolved
  | finishStart pump =>
      have waits : start.pump = some pump := by
        refine watched.attended.heard.waits thread pump ?_ start member own
        rw [show phases thread = .waiting pump from permitted]
        rfl
      rcases watched.attended.heard.heard start member pump waits
        (.inl (mem_settled resolved)) with paused | empty
      · rw [show (flags state.1).paused = false from unpaused] at paused
        cases paused
      · exact empty
  | _ => cases resolved

theorem fresh_watched (stores : Stores) (onLine : Bool) :
    Watched (.fresh stores onLine, []) fun _ => .idle :=
  ⟨⟨⟨fun _ => rfl, nofun, fun _ busy => absurd rfl busy, nofun⟩,
    ⟨nofun, nofun, nofun⟩⟩, nofun⟩

/-- Where every start that resumes the queue attends to the records of those
that wait for a pump that is leaving. -/
theorem starts_lose_no_wakeup (stores : Stores) (onLine : Bool)
    (labels : List (Label QueueJob QueueChoice))
    (meets : Meets startMachine.next (Machine.condition attends)
      (startMachine.initial (.fresh stores onLine, [])) labels) :
    Meets startMachine.next (Machine.condition Woken)
      (startMachine.initial (.fresh stores onLine, [])) labels := by
  refine Machine.sound_calls Watched (fun _ => True) program_follows
    (fun _ _ thread watched => watched.reset thread) ?_ ?_
    (Machine.sound_initial (fresh_watched stores onLine)) meets
  · intro thread state phases input choice after reply watched permitted guard
      performed
    exact watched.step permitted guard performed
  · intro thread state phases input watched permitted
    exact watched.woken permitted

def sampleStart : Config QueueCall QueueReply JsError StartPhase
    (QueueStore × List PendingStart) :=
  startMachine.initial (.fresh ⟨.empty, .empty⟩ true, [])

def joiningLabels : List QueueLabel :=
  .spawn 1 (.enqueue sampleVideo) :: takes 1 11 ++
    .spawn 0 (.start 2) :: takes 0 12 ++
    .spawn 2 (.start 2) :: takes 2 4 ++ takes 0 22 ++ takes 2 1

theorem joining_start_is_woken :
    Meets startMachine.next (Machine.condition Woken) sampleStart
        joiningLabels ∧
      ((run startMachine.next sampleStart joiningLabels).map fun config =>
        (config.shared.1.stores.library.rows.map (·.status),
          isRunning config.shared.1, config.shared.2)) =
        some ([.failed], true, []) :=
  ⟨starts_lose_no_wakeup ⟨.empty, .empty⟩ true joiningLabels
    (by decide +kernel), by decide +kernel⟩

/-- The pump has read an empty queue when the record is added, and the start
that is called for it joins the pump. -/
def lateLabels : List QueueLabel :=
  .spawn 0 (.start 2) :: takes 0 10 ++
    .spawn 1 (.enqueue sampleVideo) :: takes 1 11 ++
    .spawn 2 (.start 2) :: takes 2 4 ++ takes 0 3 ++ takes 2 1

theorem late_start_loses_wakeup :
    ¬ Meets startMachine.next (Machine.condition Woken) sampleStart
      lateLabels := by
  decide +kernel

end OfflineReels.Offline.QueueStarts
