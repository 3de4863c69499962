import OfflineReels.Offline.PumpWork

namespace OfflineReels.Offline.JoinedStarts

open OfflineReels.Foundation
open OfflineReels.Foundation.Program
open OfflineReels.Instagram
open OfflineReels.Offline.OfflineDownloadQueue
open OfflineReels.Offline.DownloadMarks
open OfflineReels.Offline.PumpRounds
open OfflineReels.Offline.PumpWork
open OfflineReels.Offline.QueueAttempts (AttemptsQueued Ready Steers
  browsed_kept download_kept respondsSmoothly sampleIdle)
open OfflineReels.Offline.QueueStarts (StartPhase advanceStart permitsStart
  isRunning resolves)

/-! A start attempts what was queued at its call, whichever start has set the
pump going that it waits for. -/

/-- What is noted of one start: the records that were queued when it was called,
and the downloads since then, with the one that ran then.  Noted throughout are
the download that runs and the thread that runs the pump. -/
structure Starting where
  owed : Finset UUID
  attempted : List StoredVideo
  current : Option StoredVideo
  runner : Option ThreadId

def Starting.due (notes : Starting) : Finset UUID :=
  notes.owed.filter fun videoId =>
    ∀ attempted ∈ notes.attempted, attempted.id ≠ videoId

def observe (start : ThreadId) :
    Observer QueueCall QueueReply JsError QueueStore Starting :=
  fun thread before input reply _ notes =>
    match input, reply with
    | .callStart, _ =>
        if thread = start then
          { notes with
            owed := queued before.stores
            attempted := notes.current.toList }
        else notes
    | .join, .ok (.created _) => { notes with runner := some thread }
    | .beginDownload next, .ok (some _) =>
        { notes with
          attempted := next :: notes.attempted
          current := some next }
    | .endDownload _ _, _ => { notes with current := none }
    | _, _ => notes

abbrev joinMachine (start : ThreadId) :=
  queueMachine workProtocol (.idle, .apart) (observe start)

/-! What a start that is under way may meet -/

def isAtWork (notes : Starting) (phases : ThreadId → WorkPhase) (pump : Nat) :
    Bool :=
  notes.runner.any fun thread =>
    (phases thread).2 ≠ .spoiled &&
      ((phases thread).1 = .reading pump || (phases thread).1 = .working pump)

/-- A start joins a queue that is online and not cleared, and no pump that is
leaving. -/
def joinsAtWork (start thread : ThreadId) (state : QueueStore × Starting)
    (phases : ThreadId → WorkPhase) : QueueCall → Bool
  | .join => thread ≠ start || (state.1.onLine && !state.1.clearing &&
      state.1.pumpPromise.all (isAtWork state.2 phases))
  | _ => true

/-- Nobody but the pump takes a record of the start out of the queue.  Once the
start waits, nobody else pauses, aborts or clears, the network stays online, and
the pump is answered calmly. -/
def isTended (start thread : ThreadId) (notes : Starting)
    (phases : ThreadId → WorkPhase) (input : QueueCall) (after : QueueStore)
    (reply : Except JsError (QueueReply input)) : Bool :=
  let waits := (phases start).1.pump.isSome
  match (phases thread).2 with
  | .between | .under _ =>
      !waits || isCalm (phases thread).2 input reply
  | .apart | .spoiled =>
      notes.due ⊆ queued after.stores && (!waits || isRunning after)

/-- Asked of the steps while a record of the start is due. -/
def tends (start : ThreadId) :
    Machine.StepCondition QueueCall WorkPhase (QueueStore × Starting)
      QueueChoice where
  call thread state phases input choice :=
    (phases start).1 = .idle ∨ state.2.due = ∅ ∨
      (joinsAtWork start thread state phases input = true ∧
        ((state.1.perform thread input choice).all fun (after, reply) =>
          isTended start thread state.2 phases input after reply) = true)
  crash thread state phases :=
    (phases start).1.pump = none ∨ state.2.due = ∅ ∨ thread = start ∨
      (phases thread).2 = .apart

/-- The start resolves after each of its records was attempted, and nothing
pauses the queue while one is due. -/
def Attempts (start : ThreadId) :
    Machine.CallCondition QueueCall WorkPhase (QueueStore × Starting) :=
  fun thread state phases input =>
    (thread = start → resolves state.1 input = true → state.2.due = ∅) ∧
      ((phases start).1.pump.isSome = true → state.2.due = ∅ ∨
        isRunning state.1 = true)

/-! Who runs the pump -/

section

variable {start thread : ThreadId} {store after : QueueStore}
variable {notes : Starting} {phases : ThreadId → WorkPhase}
variable {input : QueueCall} {choice : QueueChoice}
variable {reply : Except JsError (QueueReply input)}

/-- At most one thread runs a pump, the one whose promise is set. -/
structure Manned (store : QueueStore) (notes : Starting)
    (phases : ThreadId → WorkPhase) : Prop where
  runs : ∀ thread pump, (phases thread).1.runs pump →
    store.pumpPromise = some pump ∧ notes.runner = some thread
  works : ∀ thread, (phases thread).2 ≠ .apart ↔
    ∃ pump, (phases thread).1.runs pump
  current : ∀ thread next, (phases thread).2 = .under next →
    notes.current = some next
  promised : ∀ pump, store.pumpPromise = some pump →
    pump < store.pumps ∧ ∀ entry ∈ store.settled, entry.1 ≠ pump
  settled : ∀ entry ∈ store.settled, entry.1 < store.pumps

structure Pumpless (before after : QueueStore) : Prop where
  promise : after.pumpPromise = before.pumpPromise
  pumps : after.pumps = before.pumps
  settled : after.settled = before.settled

theorem pumpless_of_steady {before after : QueueStore}
    (steady : QueueStarts.Steady (QueueStarts.flags before)
      (QueueStarts.flags after)) : Pumpless before after where
  promise := congrArg QueueStarts.Pumps.promise steady.pumps
  pumps := congrArg QueueStarts.Pumps.count steady.pumps
  settled := congrArg QueueStarts.Pumps.settled steady.pumps

theorem Manned.sole (manned : Manned store notes phases) {other : ThreadId}
    {pump number : Nat} (runs : (phases thread).1.runs pump)
    (also : (phases other).1.runs number) : other = thread := by
  have first := (manned.runs thread pump runs).2
  have second := (manned.runs other number also).2
  rw [first] at second
  exact (Option.some.inj second).symm

theorem Manned.moves (manned : Manned store notes phases)
    {later : Starting} {phase : WorkPhase} (pumpless : Pumpless store after)
    (runner : later.runner = notes.runner)
    (runs : ∀ pump, phase.1.runs pump → (phases thread).1.runs pump)
    (works : phase.2 ≠ .apart ↔ ∃ pump, phase.1.runs pump)
    (current : ∀ next, phase.2 = .under next → later.current = some next)
    (others : ∀ other next, other ≠ thread →
      (phases other).2 = .under next → later.current = some next) :
    Manned after later (Function.update phases thread phase) where
  runs other pump there := by
    rw [pumpless.promise, runner]
    by_cases same : other = thread
    · subst same
      rw [Function.update_self] at there
      exact manned.runs other pump (runs pump there)
    · rw [Function.update_of_ne same] at there
      exact manned.runs other pump there
  works other := by
    by_cases same : other = thread
    · subst same
      rw [Function.update_self]
      exact works
    · rw [Function.update_of_ne same]
      exact manned.works other
  current other next there := by
    by_cases same : other = thread
    · subst same
      rw [Function.update_self] at there
      exact current next there
    · rw [Function.update_of_ne same] at there
      exact others other next same there
  promised := by
    rw [pumpless.promise, pumpless.pumps, pumpless.settled]
    exact manned.promised
  settled := by
    rw [pumpless.pumps, pumpless.settled]
    exact manned.settled

theorem not_runs {phase : StartPhase}
    (apart : phase = .idle ∨ phase = .called ∨ ∃ pump, phase = .waiting pump)
    (pump : Nat) : ¬ phase.runs pump := by
  rintro (here | here | here) <;>
    rcases apart with other | other | ⟨_, other⟩ <;>
    rw [here] at other <;> cases other

theorem Manned.apart (manned : Manned store notes phases)
    (apart : (phases thread).1 = .idle ∨ (phases thread).1 = .called ∨
      ∃ pump, (phases thread).1 = .waiting pump) :
    (phases thread).2 = .apart := by
  by_contra works
  obtain ⟨pump, runs⟩ := (manned.works thread).mp works
  exact not_runs apart pump runs

theorem runs_reading (pump number : Nat) :
    (StartPhase.reading pump).runs number ↔ pump = number := by
  simp [StartPhase.runs]

theorem runs_working (pump number : Nat) :
    (StartPhase.working pump).runs number ↔ pump = number := by
  simp [StartPhase.runs]

theorem runs_leaving (pump number : Nat) :
    (StartPhase.leaving pump).runs number ↔ pump = number := by
  simp [StartPhase.runs]

theorem runs_advance {phase : StartPhase} (permitted : permitsStart phase input)
    (steady : QueueStarts.isSteady input = true) (pump : Nat) :
    (advanceStart phase input reply).runs pump ↔ phase.runs pump := by
  cases input with
  | join => cases steady
  | settlePump number outcome => cases steady
  | callStart =>
      have idle : phase = .idle := permitted
      subst idle
      simp [advanceStart, StartPhase.runs]
  | finishStart number =>
      have waits : phase = .waiting number := permitted
      subst waits
      simp [advanceStart, StartPhase.runs]
  | browse input =>
      cases input with
      | getAllVideos =>
          cases reply with
          | error error => exact Iff.rfl
          | ok records =>
              cases phase with
              | reading number =>
                  simp only [advanceStart]
                  split
                  · rw [runs_working, runs_reading]
                  · rw [runs_leaving, runs_reading]
              | _ => exact Iff.rfl
      | _ => exact Iff.rfl
  | beginDownload next =>
      obtain ⟨number, works⟩ := permitted
      subst works
      cases reply with
      | error error => exact Iff.rfl
      | ok begun =>
          cases begun with
          | none =>
              simp only [advanceStart]
              rw [runs_leaving, runs_working]
          | some controller => exact Iff.rfl
  | pumpTest =>
      obtain ⟨number, works⟩ := permitted
      subst works
      cases reply with
      | error error => exact Iff.rfl
      | ok again =>
          simp only [advanceStart]
          split
          · rw [runs_working, runs_reading]
          · rw [runs_working, runs_leaving]
  | _ => exact Iff.rfl

def isIdle : QueueCall → Bool
  | .join | .settlePump _ _ | .beginDownload _ | .endDownload _ _ => false
  | _ => true

theorem advanceWork_idle (work : Work) (idle : isIdle input = true) :
    advanceWork work input reply =
      if isCalm work input reply then work else .spoiled := by
  cases input with
  | join => cases idle
  | settlePump pump outcome => cases idle
  | beginDownload next => cases idle
  | endDownload controller videoId => cases idle
  | _ => rfl

theorem runner_idle (idle : isIdle input = true) :
    (observe start thread store input reply after notes).runner =
      notes.runner := by
  cases input with
  | join => cases idle
  | callStart =>
      simp only [observe]
      split <;> rfl
  | beginDownload next => cases idle
  | _ => rfl

theorem current_idle (idle : isIdle input = true) :
    (observe start thread store input reply after notes).current =
      notes.current := by
  cases input with
  | join => cases idle
  | callStart =>
      simp only [observe]
      split <;> rfl
  | beginDownload next => cases idle
  | endDownload controller videoId => cases idle
  | _ => rfl

theorem Manned.idle (manned : Manned store notes phases)
    (permitted : permitsStart (phases thread).1 input)
    (idle : isIdle input = true)
    (performed : store.perform thread input choice = some (after, reply)) :
    Manned after (observe start thread store input reply after notes)
      (Function.update phases thread
        (advanceStart (phases thread).1 input reply,
          advanceWork (phases thread).2 input reply)) := by
  have steady : QueueStarts.isSteady input = true := by
    cases input with
    | join => cases idle
    | settlePump pump outcome => cases idle
    | _ => rfl
  have pumpless := pumpless_of_steady
    (QueueStarts.perform_steady performed steady)
  have runs : ∀ pump,
      (advanceStart (phases thread).1 input reply).runs pump ↔
        (phases thread).1.runs pump := runs_advance permitted steady
  have current : (observe start thread store input reply after notes).current =
      notes.current := current_idle idle
  refine manned.moves pumpless (runner_idle idle)
    (fun pump => (runs pump).mp) ?_ ?_ ?_
  · simp only [runs]
    rw [← manned.works thread, advanceWork_idle _ idle]
    split
    · exact Iff.rfl
    · rename_i spoils
      refine iff_of_true (by simp) fun apart => ?_
      rw [apart] at spoils
      exact spoils rfl
  · intro next under
    rw [current]
    dsimp only at under
    rw [advanceWork_idle _ idle] at under
    split at under
    · exact manned.current thread next under
    · cases under
  · intro other next _ there
    rw [current]
    exact manned.current other next there

theorem Manned.alone (manned : Manned store notes phases) {other : ThreadId}
    {pump : Nat} (runs : (phases thread).1.runs pump)
    (apart : other ≠ thread) : (phases other).2 = .apart := by
  by_contra works
  obtain ⟨number, also⟩ := (manned.works other).mp works
  exact apart (manned.sole runs also)

theorem Manned.downloads (manned : Manned store notes phases)
    {later : Starting} {phase : WorkPhase} {pump : Nat}
    (pumpless : Pumpless store after) (runner : later.runner = notes.runner)
    (runs : (phases thread).1.runs pump) (same : phase.1 = (phases thread).1)
    (works : phase.2 ≠ .apart)
    (current : ∀ next, phase.2 = .under next → later.current = some next) :
    Manned after later (Function.update phases thread phase) := by
  refine manned.moves pumpless runner ?_ ?_ current ?_
  · intro number
    rw [same]
    exact id
  · refine iff_of_true works ⟨pump, ?_⟩
    rw [same]
    exact runs
  · intro other next apart under
    rw [manned.alone runs apart] at under
    cases under

theorem Manned.beginDownload (manned : Manned store notes phases) {pump : Nat}
    (works : (phases thread).1 = .working pump) (next : StoredVideo) :
    Manned (store.beginDownload next).1
      (observe start thread store (.beginDownload next)
        (.ok (store.beginDownload next).2) (store.beginDownload next).1 notes)
      (Function.update phases thread
        (advanceStart (phases thread).1 (.beginDownload next)
            (.ok (store.beginDownload next).2),
          advanceWork (phases thread).2 (.beginDownload next)
            (.ok (store.beginDownload next).2))) := by
  have runs : (phases thread).1.runs pump := by
    rw [works, runs_working]
  have pumpless : Pumpless store (store.beginDownload next).1 := by
    unfold QueueStore.beginDownload
    split <;> exact ⟨rfl, rfl, rfl⟩
  have busy : (phases thread).2 ≠ .apart := (manned.works thread).mpr ⟨_, runs⟩
  cases begun : (store.beginDownload next).2 with
  | some controller =>
      refine manned.downloads pumpless rfl runs ?_ (by simp [advanceWork]) ?_
      · rw [works]
        rfl
      · intro other under
        cases under
        rfl
  | none =>
      have leaves : advanceStart (phases thread).1 (.beginDownload next)
          (.ok none) = .leaving pump := by
        rw [works]
        rfl
      have work : advanceWork (phases thread).2 (.beginDownload next)
          (.ok none) = (phases thread).2 := by
        cases (phases thread).2 <;> rfl
      rw [leaves, work]
      refine manned.moves pumpless rfl ?_ ?_ ?_ ?_
      · intro number left
        rw [works, runs_working]
        exact (runs_leaving pump number).mp left
      · exact iff_of_true busy ⟨pump, (runs_leaving pump pump).mpr rfl⟩
      · exact fun other => manned.current thread other
      · exact fun other next _ => manned.current other next

theorem Manned.endDownload (manned : Manned store notes phases) {pump : Nat}
    (works : (phases thread).1 = .working pump) (controller : Nat)
    (videoId : UUID) :
    Manned (store.endDownload controller videoId)
      { notes with current := none }
      (Function.update phases thread ((phases thread).1, .between)) := by
  have runs : (phases thread).1.runs pump := by
    rw [works, runs_working]
  refine manned.downloads ⟨rfl, rfl, rfl⟩ rfl runs rfl (by simp) ?_
  intro next under
  cases under

theorem Manned.joins (manned : Manned store notes phases)
    (called : (phases thread).1 = .called) :
    Manned store.join.1
      (observe start thread store .join (.ok store.join.2) store.join.1 notes)
      (Function.update phases thread
        (advanceStart (phases thread).1 .join (.ok store.join.2),
          advanceWork (phases thread).2 .join (.ok store.join.2))) := by
  have apart : (phases thread).2 = .apart :=
    manned.apart (.inr (.inl called))
  have waits {store' : QueueStore} {phase : StartPhase}
      (pumpless : Pumpless store store')
      (still : phase = .idle ∨ ∃ pump, phase = .waiting pump) :
      Manned store' notes (Function.update phases thread (phase, .apart)) := by
    have stays : ∀ pump, ¬ phase.runs pump :=
      not_runs (still.imp_right .inr)
    refine manned.moves pumpless rfl ?_ ?_ ?_ ?_
    · exact fun pump runs => absurd runs (stays pump)
    · exact iff_of_false (fun clash => clash rfl)
        fun ⟨pump, runs⟩ => stays pump runs
    · intro next under
      cases under
    · exact fun other next _ => manned.current other next
  rw [apart]
  unfold QueueStore.join
  split
  · exact waits ⟨rfl, rfl, rfl⟩ (.inl rfl)
  · split
    · exact waits ⟨rfl, rfl, rfl⟩ (.inl rfl)
    · dsimp only
      split
      · rename_i pump promised
        exact waits ⟨rfl, rfl, rfl⟩ (.inr ⟨pump, rfl⟩)
      · rename_i absent
        have nobody : ∀ other pump, ¬ (phases other).1.runs pump := by
          intro other pump runs
          have promised := (manned.runs other pump runs).1
          rw [absent] at promised
          cases promised
        have resting : ∀ other, (phases other).2 = .apart := by
          intro other
          by_contra works
          obtain ⟨pump, runs⟩ := (manned.works other).mp works
          exact nobody other pump runs
        exact {
          runs := by
            intro other pump there
            by_cases same : other = thread
            · subst same
              rw [Function.update_self] at there
              have number := (runs_reading _ _).mp there
              subst number
              exact ⟨rfl, rfl⟩
            · rw [Function.update_of_ne same] at there
              exact absurd there (nobody other pump)
          works := by
            intro other
            by_cases same : other = thread
            · subst same
              rw [Function.update_self]
              exact iff_of_true (by simp [advanceWork])
                ⟨_, (runs_reading _ _).mpr rfl⟩
            · rw [Function.update_of_ne same]
              exact manned.works other
          current := by
            intro other next there
            by_cases same : other = thread
            · subst same
              rw [Function.update_self] at there
              cases there
            · rw [Function.update_of_ne same, resting other] at there
              cases there
          promised := by
            intro pump same
            cases same
            refine ⟨Nat.lt_succ_self _, fun entry member same => ?_⟩
            have below := manned.settled entry member
            omega
          settled := fun entry member =>
            Nat.lt_succ_of_lt (manned.settled entry member) }

theorem Manned.settles (manned : Manned store notes phases) {pump : Nat}
    (runs : (phases thread).1.runs pump) (outcome : Except JsError Unit) :
    Manned { store with
        pumpPromise := none
        settled := (pump, outcome) :: store.settled } notes
      (Function.update phases thread (.waiting pump, .apart)) where
  runs other number there := by
    by_cases same : other = thread
    · subst same
      rw [Function.update_self] at there
      exact absurd there (not_runs (.inr (.inr ⟨pump, rfl⟩)) number)
    · rw [Function.update_of_ne same] at there
      exact absurd (manned.sole runs there) same
  works other := by
    by_cases same : other = thread
    · subst same
      rw [Function.update_self]
      exact iff_of_false (fun clash => clash rfl)
        fun ⟨number, there⟩ => not_runs (.inr (.inr ⟨pump, rfl⟩)) number there
    · rw [Function.update_of_ne same]
      exact manned.works other
  current other next there := by
    by_cases same : other = thread
    · subst same
      rw [Function.update_self] at there
      cases there
    · rw [Function.update_of_ne same, manned.alone runs same] at there
      cases there
  promised number same := by cases same
  settled entry member := by
    rcases List.mem_cons.mp member with same | earlier
    · subst same
      exact (manned.promised pump (manned.runs thread pump runs).1).1
    · exact manned.settled entry earlier

theorem Manned.step (manned : Manned store notes phases)
    (permitted : permitsStart (phases thread).1 input)
    (performed : store.perform thread input choice = some (after, reply)) :
    Manned after (observe start thread store input reply after notes)
      (Function.update phases thread
        (advanceStart (phases thread).1 input reply,
          advanceWork (phases thread).2 input reply)) := by
  cases input with
  | join =>
      cases performed
      exact manned.joins permitted
  | settlePump pump outcome =>
      cases performed
      exact manned.settles permitted.1 outcome
  | beginDownload next =>
      obtain ⟨pump, works⟩ := permitted
      cases performed
      exact manned.beginDownload works next
  | endDownload controller videoId =>
      obtain ⟨pump, works⟩ := permitted
      cases performed
      exact manned.endDownload works controller videoId
  | _ => exact manned.idle permitted rfl performed

theorem Manned.resets (manned : Manned store notes phases)
    (thread : ThreadId) :
    Manned store notes (Function.update phases thread (.idle, .apart)) := by
  refine manned.moves ⟨rfl, rfl, rfl⟩ rfl ?_ ?_ ?_ ?_
  · exact fun pump runs => absurd runs (not_runs (.inl rfl) pump)
  · exact iff_of_false (fun clash => clash rfl)
      fun ⟨pump, runs⟩ => not_runs (.inl rfl) pump runs
  · intro next under
    cases under
  · exact fun other next _ => manned.current other next

/-! What a call of the pump does -/

theorem isRunning_steers (steers : Steers store after) :
    isRunning after = isRunning store := by
  unfold isRunning
  rw [steers.paused, steers.onLine, steers.clearing]

theorem queued_eq_empty {stores : Stores}
    (empty : stores.library.rows.any (·.status = .queued) = false) :
    queued stores = ∅ := by
  refine Finset.eq_empty_of_forall_notMem fun videoId member => ?_
  obtain ⟨record, present, _, waits⟩ := mem_queued.mp member
  have apart := List.any_eq_false.mp empty record present
  exact apart (decide_eq_true waits)

def Busy (pump : Nat) (phase : StartPhase) : Prop :=
  phase = .reading pump ∨ phase = .working pump

/-- A pump at work that is answered calmly goes on in a queue that runs, unless
nothing is queued. -/
structure GoesOn (pump : Nat) (store after : QueueStore) (phase : WorkPhase) :
    Prop where
  running : isRunning after = true
  sound : phase.2 ≠ .spoiled
  busy : Busy pump phase.1 ∨ queued store.stores = ∅

theorem reads_on {pump : Nat} {phase : StartPhase} {rows : List StoredVideo}
    (busy : Busy pump phase) (listed : rows = store.stores.library.rows) :
    Busy pump (advanceStart phase (.browse .getAllVideos) (.ok rows)) ∨
      queued store.stores = ∅ := by
  rcases busy with here | here
  · subst here
    simp only [advanceStart]
    split
    · exact .inl (.inr rfl)
    · rename_i empty
      refine .inr (queued_eq_empty ?_)
      rw [← listed]
      simpa using empty
  · subst here
    exact .inl (.inr rfl)

theorem between_goes_on {pump : Nat} {phase : StartPhase}
    (busy : Busy pump phase) (permitted : permitsStart phase input)
    (allowed : permitsWork phase .between input)
    (calm : isCalm .between input reply = true)
    (running : isRunning store = true)
    (performed : store.perform thread input choice = some (after, reply)) :
    GoesOn pump store after
      (advanceStart phase input reply, advanceWork .between input reply) := by
  have shown := running
  simp only [isRunning, Bool.and_eq_true, Bool.not_eq_true'] at shown
  obtain ⟨⟨unpaused, online⟩, open_⟩ := shown
  have works : (∃ number, phase = .working number) → phase = .working pump := by
    intro found
    obtain ⟨number, works⟩ := found
    rcases busy with here | here
    · rw [works] at here
      cases here
    · exact here
  cases input with
  | browse input =>
      cases input with
      | getAllVideos =>
          cases reply with
          | error error => cases calm
          | ok rows =>
              have steers := Steers.of_browsed performed
              refine ⟨(isRunning_steers steers).trans running, ?_, ?_⟩
              · intro spoiled
                cases spoiled
              · exact reads_on busy (browsed_answers performed)
      | _ => exact allowed.elim
  | refreshed records completedBytes =>
      cases performed
      have steers := Steers.refreshed store records completedBytes
      refine ⟨(isRunning_steers steers).trans running, ?_, .inl busy⟩
      intro spoiled
      cases spoiled
  | pumpTest =>
      have here := works permitted
      subst here
      cases performed
      refine ⟨running, ?_, .inl (.inl ?_)⟩
      · intro spoiled
        cases spoiled
      · simp [advanceStart, unpaused, online]
  | beginDownload next =>
      have here := works permitted
      subst here
      cases performed
      have steers := Steers.beginDownload store next
      have begun : (store.beginDownload next).2 = some store.controllers := by
        simp [QueueStore.beginDownload, open_]
      rw [begun]
      refine ⟨(isRunning_steers steers).trans running, ?_, .inl (.inr rfl)⟩
      intro spoiled
      cases spoiled
  | pumpEnded =>
      cases performed
      refine ⟨running, ?_, .inl busy⟩
      intro spoiled
      cases spoiled
  | settlePump number outcome =>
      have leaves : phase = .leaving number := allowed
      subst leaves
      rcases busy with here | here <;> cases here
  | never => cases performed
  | _ => exact allowed.elim

theorem under_goes_on {pump : Nat} {phase : StartPhase} {next : StoredVideo}
    (busy : Busy pump phase)
    (allowed : permitsWork phase (.under next) input)
    (calm : isCalm (.under next) input reply = true)
    (running : isRunning store = true)
    (performed : store.perform thread input choice = some (after, reply)) :
    GoesOn pump store after (advanceStart phase input reply,
      advanceWork (.under next) input reply) := by
  have sound : advanceWork (.under next) input reply ≠ .spoiled := by
    cases input with
    | join => exact allowed.elim
    | beginDownload other => exact allowed.elim
    | settlePump number outcome => exact allowed.elim
    | endDownload controller videoId =>
        cases performed
        intro spoiled
        cases spoiled
    | _ =>
        rw [advanceWork_idle _ rfl, if_pos calm]
        intro spoiled
        cases spoiled
  have goes : Steers store after →
      advanceStart phase input reply = phase →
      GoesOn pump store after (advanceStart phase input reply,
        advanceWork (.under next) input reply) := by
    intro steers same
    refine ⟨(isRunning_steers steers).trans running, sound, .inl ?_⟩
    rw [same]
    exact busy
  cases input with
  | download controller input => exact goes (Steers.of_download performed) rfl
  | browse input =>
      cases input with
      | deleteMedia path => exact goes (Steers.of_browsed performed) rfl
      | deleteVideo videoId => exact goes (Steers.of_browsed performed) rfl
      | _ => exact allowed.elim
  | takeCancelled videoId =>
      cases performed
      exact goes ⟨rfl, rfl, rfl, rfl⟩ rfl
  | downloadFailed code =>
      have mild : isPausing code = false := allowed
      cases performed
      refine goes ⟨?_, rfl, rfl, rfl⟩ rfl
      unfold isPausing at mild
      simp [QueueStore.downloadFailed, mild]
  | endDownload controller videoId =>
      cases performed
      exact goes ⟨rfl, rfl, rfl, rfl⟩ rfl
  | _ => exact allowed.elim

/-- Between two downloads the pump takes nothing out of the queue. -/
theorem between_keeps {phase : StartPhase}
    (allowed : permitsWork phase .between input)
    (performed : store.perform thread input choice = some (after, reply)) :
    queued after.stores = queued store.stores := by
  cases input with
  | browse input =>
      cases input with
      | getAllVideos =>
          have effect := browsed_queued performed
          cases reply <;> exact effect
      | _ => exact allowed.elim
  | refreshed records completedBytes =>
      cases performed
      exact congrArg queued (refreshed_stores _ _ _)
  | beginDownload next =>
      cases performed
      exact congrArg queued (beginDownload_stores store next)
  | pumpTest | pumpEnded | settlePump number outcome =>
      cases performed
      rfl
  | never => cases performed
  | _ => exact allowed.elim

/-- A download takes nothing else out of the queue. -/
theorem under_keeps {phase : StartPhase} {next : StoredVideo}
    (allowed : permitsWork phase (.under next) input)
    (performed : store.perform thread input choice = some (after, reply)) :
    (queued store.stores).erase next.id ⊆ queued after.stores := by
  cases input with
  | download controller input => exact download_kept allowed performed
  | browse input =>
      cases input with
      | deleteMedia path =>
          have own : permitsBrowse next.id false (.deleteMedia path) := trivial
          exact browsed_kept (.inl own) performed
      | deleteVideo videoId =>
          have same : videoId = next.id := allowed
          subst same
          have own : permitsBrowse next.id false (.deleteVideo next.id) ∨
              BrowserCall.deleteVideo next.id = .deleteVideo next.id :=
            .inr rfl
          exact browsed_kept own performed
      | _ => exact allowed.elim
  | takeCancelled videoId | downloadFailed code
  | endDownload controller videoId =>
      cases performed
      exact Finset.erase_subset _ _
  | _ => exact allowed.elim

/-! The start that is watched -/

/-- What holds of a start that is under way in every state. -/
structure Tended (start : ThreadId) (state : QueueStore × Starting)
    (phases : ThreadId → WorkPhase) : Prop where
  manned : Manned state.1 state.2 phases
  begun : (phases start).1 ≠ .idle →
    ∀ next ∈ state.2.current, next ∈ state.2.attempted
  due : (phases start).1 ≠ .idle → state.2.due ⊆ queued state.1.stores
  waits : ∀ pump, (phases start).1.pump = some pump → state.2.due = ∅ ∨
    (isAtWork state.2 phases pump = true ∧ isRunning state.1 = true)

theorem isAtWork_iff {pump : Nat} : isAtWork notes phases pump = true ↔
    ∃ runner, notes.runner = some runner ∧ (phases runner).2 ≠ .spoiled ∧
      Busy pump (phases runner).1 := by
  unfold isAtWork Busy
  cases notes.runner with
  | none => simp
  | some runner => simp

theorem due_subset {earlier later : Starting} (owed : later.owed = earlier.owed)
    (attempted : earlier.attempted ⊆ later.attempted) :
    later.due ⊆ earlier.due := by
  intro videoId member
  simp only [Starting.due, Finset.mem_filter] at member ⊢
  rw [← owed]
  exact ⟨member.1, fun record begun => member.2 record (attempted begun)⟩

def isCall (start thread : ThreadId) : QueueCall → Bool
  | .callStart => thread = start
  | _ => false

theorem observe_due (other : isCall start thread input = false) :
    (observe start thread store input reply after notes).due ⊆ notes.due := by
  have same : ∀ notes : Starting, notes.due ⊆ notes.due := fun _ => subset_rfl
  cases input with
  | callStart =>
      have apart : thread ≠ start := by simpa [isCall] using other
      simp only [observe, if_neg apart]
      exact same notes
  | join =>
      cases reply with
      | error error => exact same notes
      | ok join => cases join <;> exact due_subset rfl fun _ => id
  | beginDownload next =>
      cases reply with
      | error error => exact same notes
      | ok begun =>
          cases begun with
          | none => exact same notes
          | some controller =>
              exact due_subset rfl fun _ => List.mem_cons_of_mem next
  | endDownload controller videoId => exact due_subset rfl fun _ => id
  | _ => exact same notes

theorem observe_begun (begun : isCall start thread input = false →
      ∀ next ∈ notes.current, next ∈ notes.attempted) :
    ∀ next ∈ (observe start thread store input reply after notes).current,
      next ∈ (observe start thread store input reply after notes).attempted := by
  intro next member
  cases input with
  | callStart =>
      simp only [observe] at member ⊢
      split at member
      · rename_i own
        rw [if_pos own]
        exact Option.mem_toList.mpr member
      · rename_i apart
        rw [if_neg apart]
        exact begun (decide_eq_false apart) next member
  | join =>
      cases reply with
      | error error => exact begun rfl next member
      | ok join => cases join <;> exact begun rfl next member
  | beginDownload other =>
      cases reply with
      | error error => exact begun rfl next member
      | ok first =>
          cases first with
          | none => exact begun rfl next member
          | some controller =>
              cases member
              exact List.mem_cons_self
  | endDownload controller videoId => cases member
  | _ => exact begun rfl next member

theorem idle_advance (permitted : permitsStart .idle input)
    (other : input ≠ .callStart) : advanceStart .idle input reply = .idle := by
  cases input with
  | callStart => exact absurd rfl other
  | join => cases permitted
  | finishStart pump => rfl
  | beginDownload next =>
      obtain ⟨pump, clash⟩ := permitted
      cases clash
  | pumpTest =>
      obtain ⟨pump, clash⟩ := permitted
      cases clash
  | settlePump pump outcome =>
      obtain ⟨clash | clash | clash, _⟩ := permitted <;> cases clash
  | browse input => cases input <;> cases reply <;> rfl
  | _ => rfl

theorem pump_advance {phase : StartPhase} {pump : Nat}
    (permitted : permitsStart phase input) (other : input ≠ .join)
    (waits : (advanceStart phase input reply).pump = some pump) :
    phase.pump = some pump := by
  cases input with
  | join => exact absurd rfl other
  | callStart => cases waits
  | finishStart number => cases waits
  | settlePump number outcome =>
      have same : number = pump := Option.some.inj waits
      subst same
      rcases permitted.1 with here | here | here <;> rw [here] <;> rfl
  | browse input =>
      cases input with
      | getAllVideos =>
          cases reply with
          | error error => exact waits
          | ok records =>
              cases phase with
              | reading number =>
                  simp only [advanceStart] at waits
                  split at waits <;> exact waits
              | _ => exact waits
      | _ => exact waits
  | beginDownload next =>
      obtain ⟨number, works⟩ := permitted
      subst works
      cases reply with
      | error error => exact waits
      | ok begun => cases begun <;> exact waits
  | pumpTest =>
      obtain ⟨number, works⟩ := permitted
      subst works
      cases reply with
      | error error => exact waits
      | ok again =>
          simp only [advanceStart] at waits
          split at waits <;> exact waits
  | _ => exact waits

theorem busy_runs {pump : Nat} {phase : StartPhase} (busy : Busy pump phase) :
    phase.runs pump :=
  busy.imp_right .inl

theorem idle_before (permitted : permitsStart (phases thread).1 input)
    (other : isCall start thread input = false)
    (busy : (Function.update phases thread
      (advanceStart (phases thread).1 input reply,
        advanceWork (phases thread).2 input reply) start).1 ≠ .idle) :
    (phases start).1 ≠ .idle := by
  by_cases same : start = thread
  · subst same
    rw [Function.update_self] at busy
    intro idle
    rw [idle] at permitted busy
    refine busy (idle_advance permitted fun call => ?_)
    subst call
    simp [isCall] at other
  · rw [Function.update_of_ne same] at busy
    exact busy

theorem tended_of_guard (guard : (tends start).call thread (store, notes) phases
      input choice)
    (performed : store.perform thread input choice = some (after, reply))
    (busy : (phases start).1 ≠ .idle) :
    notes.due = ∅ ∨
      (joinsAtWork start thread (store, notes) phases input = true ∧
        isTended start thread notes phases input after reply = true) := by
  rcases guard with idle | none | ⟨joins, tended⟩
  · exact absurd idle busy
  · exact .inl none
  · refine .inr ⟨joins, ?_⟩
    rw [performed] at tended
    exact tended

theorem due_erase {next : StoredVideo} (begun : next ∈ notes.attempted)
    (due : notes.due ⊆ queued store.stores) :
    notes.due ⊆ (queued store.stores).erase next.id := by
  intro videoId member
  refine Finset.mem_erase.mpr ⟨fun same => ?_, due member⟩
  simp only [Starting.due, Finset.mem_filter] at member
  exact member.2 next begun same.symm

theorem due_kept (tended : Tended start (store, notes) phases)
    (busy : (phases start).1 ≠ .idle)
    (allowed : permitsWork (phases thread).1 (phases thread).2 input)
    (kept : isTended start thread notes phases input after reply = true)
    (performed : store.perform thread input choice = some (after, reply)) :
    notes.due ⊆ queued after.stores := by
  have due := tended.due busy
  cases work : (phases thread).2 with
  | apart | spoiled =>
      simp only [isTended, work, Bool.and_eq_true, decide_eq_true_eq] at kept
      exact kept.1
  | between =>
      rw [work] at allowed
      rw [between_keeps allowed performed]
      exact due
  | under next =>
      rw [work] at allowed
      have begun := tended.begun busy next (tended.manned.current thread next work)
      exact (due_erase begun due).trans (under_keeps allowed performed)

theorem joins_at_work (manned : Manned store notes phases)
    (called : (phases thread).1 = .called)
    (joins : joinsAtWork thread thread (store, notes) phases .join = true)
    {pump : Nat}
    (waits : (advanceStart (phases thread).1 .join
      (.ok store.join.2)).pump = some pump) :
    isAtWork (observe start thread store .join (.ok store.join.2)
        store.join.1 notes)
      (Function.update phases thread
        (advanceStart (phases thread).1 .join (.ok store.join.2),
          advanceWork (phases thread).2 .join (.ok store.join.2))) pump = true ∧
      isRunning store.join.1 = true := by
  simp only [joinsAtWork, ne_eq, not_true_eq_false, decide_false,
    Bool.false_or, Bool.and_eq_true, Bool.not_eq_true'] at joins
  obtain ⟨⟨online, open_⟩, promises⟩ := joins
  have apart : (phases thread).2 = .apart := manned.apart (.inr (.inl called))
  cases promised : store.pumpPromise with
  | some number =>
      have joined : store.join.2 = .joined number := by
        simp [QueueStore.join, open_, online, promised]
      rw [joined] at waits ⊢
      have same : number = pump := Option.some.inj waits
      subst same
      rw [promised] at promises
      have working : isAtWork notes phases number = true := promises
      obtain ⟨runner, runs, sound, busy⟩ := isAtWork_iff.mp working
      have other : runner ≠ thread := by
        intro same
        subst same
        rw [called] at busy
        rcases busy with here | here <;> cases here
      refine ⟨isAtWork_iff.mpr ⟨runner, runs, ?_⟩, ?_⟩
      · rw [Function.update_of_ne other]
        exact ⟨sound, busy⟩
      · simp [QueueStore.join, isRunning, open_, online, promised]
  | none =>
      have created : store.join.2 = .created store.pumps := by
        simp [QueueStore.join, open_, online, promised]
      rw [created] at waits ⊢
      have same : store.pumps = pump := Option.some.inj waits
      subst same
      refine ⟨isAtWork_iff.mpr ⟨thread, rfl, ?_⟩, ?_⟩
      · rw [Function.update_self]
        exact ⟨by simp [advanceWork], .inl rfl⟩
      · simp [QueueStore.join, isRunning, open_, online, promised]

/-- While a pump runs, no other is set going. -/
theorem runner_kept {pump : Nat} (promised : store.pumpPromise = some pump)
    (performed : store.perform thread input choice = some (after, reply)) :
    (observe start thread store input reply after notes).runner =
      notes.runner := by
  cases input with
  | join =>
      cases performed
      unfold QueueStore.join
      split
      · rfl
      · split
        · rfl
        · simp only [promised]
          rfl
  | callStart =>
      simp only [observe]
      split <;> rfl
  | beginDownload next =>
      cases reply with
      | error error => rfl
      | ok begun => cases begun <;> rfl
  | _ => rfl

theorem waits_kept (tended : Tended start (store, notes) phases)
    (permitted : permitsStart (phases thread).1 input)
    (allowed : permitsWork (phases thread).1 (phases thread).2 input)
    (kept : isTended start thread notes phases input after reply = true)
    (performed : store.perform thread input choice = some (after, reply))
    {pump : Nat} (waited : (phases start).1.pump = some pump)
    (atWork : isAtWork notes phases pump = true)
    (running : isRunning store = true)
    (due : notes.due ⊆ queued store.stores) :
    notes.due = ∅ ∨
      (isAtWork (observe start thread store input reply after notes)
        (Function.update phases thread
          (advanceStart (phases thread).1 input reply,
            advanceWork (phases thread).2 input reply)) pump = true ∧
        isRunning after = true) := by
  obtain ⟨runner, runs, sound, busy⟩ := isAtWork_iff.mp atWork
  have manned := tended.manned
  have promised := (manned.runs runner pump (busy_runs busy)).1
  have same : (observe start thread store input reply after notes).runner =
      notes.runner := runner_kept promised performed
  by_cases own : thread = runner
  · subst own
    have works := (manned.works thread).mpr ⟨pump, busy_runs busy⟩
    have goes : GoesOn pump store after
        (advanceStart (phases thread).1 input reply,
          advanceWork (phases thread).2 input reply) := by
      cases work : (phases thread).2 with
      | apart => exact absurd work works
      | spoiled => exact absurd work sound
      | between =>
          rw [work] at allowed
          simp only [isTended, work, waited, Option.isSome_some,
            Bool.not_true, Bool.false_or] at kept
          exact between_goes_on busy permitted allowed kept running performed
      | under next =>
          rw [work] at allowed
          simp only [isTended, work, waited, Option.isSome_some,
            Bool.not_true, Bool.false_or] at kept
          exact under_goes_on busy allowed kept running performed
    rcases goes.busy with here | empty
    · refine .inr ⟨isAtWork_iff.mpr ⟨thread, same.trans runs, ?_⟩, goes.running⟩
      rw [Function.update_self]
      exact ⟨goes.sound, here⟩
    · left
      rw [empty] at due
      exact Finset.subset_empty.mp due
  · have rests : (phases thread).2 = .apart :=
      manned.alone (busy_runs busy) own
    simp only [isTended, rests, waited, Option.isSome_some, Bool.not_true,
      Bool.false_or, Bool.and_eq_true] at kept
    refine .inr ⟨isAtWork_iff.mpr ⟨runner, same.trans runs, ?_⟩, kept.2⟩
    rw [Function.update_of_ne fun clash => own clash.symm]
    exact ⟨sound, busy⟩

end

section

variable {start thread : ThreadId} {state after : QueueStore × Starting}
variable {phases : ThreadId → WorkPhase} {input : QueueCall}
variable {choice : QueueChoice} {reply : Except JsError (QueueReply input)}

theorem Tended.calls (tended : Tended start state phases)
    (permitted : permitsStart (phases thread).1 input)
    (call : isCall start thread input = true)
    (called : state.1.perform thread input choice = some (after.1, reply))
    (noted : after.2 =
      observe start thread state.1 input reply after.1 state.2) :
    Tended start after (Function.update phases thread
      (advanceStart (phases thread).1 input reply,
        advanceWork (phases thread).2 input reply)) := by
  obtain ⟨store, notes⟩ := after
  dsimp only at called noted
  subst noted
  have manned : Manned store (observe start thread state.1 input reply store
      state.2) (Function.update phases thread
        (advanceStart (phases thread).1 input reply,
          advanceWork (phases thread).2 input reply)) :=
    tended.manned.step permitted called
  cases input with
  | callStart =>
      have own : thread = start := by simpa [isCall] using call
      subst own
      cases called
      refine ⟨manned, fun _ => observe_begun fun other => ?_, fun _ => ?_, ?_⟩
      · rw [call] at other
        cases other
      · simp only [observe, if_pos]
        exact Finset.filter_subset _ _
      · intro pump waits
        rw [Function.update_self] at waits
        cases waits
  | _ => cases call

theorem Tended.step (tended : Tended start state phases)
    (permitted : workProtocol.permits (phases thread) input)
    (guard : (tends start).call thread state phases input choice)
    (performed : noting QueueStore.perform (observe start) thread state input
      choice = some (after, reply)) :
    Tended start after (Function.update phases thread
      (workProtocol.advance (phases thread) input reply)) := by
  obtain ⟨called, noted⟩ := noting_eq_some performed
  obtain ⟨starts, works⟩ := permitted
  cases first : isCall start thread input with
  | true => exact tended.calls starts first called noted
  | false =>
      obtain ⟨store, notes⟩ := after
      dsimp only at noted
      subst noted
      have fewer : (observe start thread state.1 input reply store
          state.2).due ⊆ state.2.due := observe_due first
      have settled : state.2.due = ∅ → (observe start thread state.1 input
          reply store state.2).due = ∅ := fun none =>
        Finset.subset_empty.mp (none ▸ fewer)
      refine ⟨tended.manned.step starts called, fun busy => ?_, fun busy => ?_,
        fun pump waits => ?_⟩
      · have before := idle_before starts first busy
        dsimp only
        exact observe_begun fun _ => tended.begun before
      · have before := idle_before starts first busy
        rcases tended_of_guard guard called before with none | ⟨_, kept⟩
        · rw [settled none]
          exact Finset.empty_subset _
        · exact fewer.trans (due_kept tended before works kept called)
      · have busy : (Function.update phases thread
            (advanceStart (phases thread).1 input reply,
              advanceWork (phases thread).2 input reply) start).1 ≠ .idle := by
          intro idle
          dsimp only [workProtocol] at waits
          rw [idle] at waits
          cases waits
        have before := idle_before starts first busy
        rcases tended_of_guard guard called before with none | ⟨joins, kept⟩
        · exact .inl (settled none)
        · by_cases own : start = thread ∧ input = .join
          · obtain ⟨same, join⟩ := own
            subst same join
            cases called
            dsimp only [workProtocol] at waits
            rw [Function.update_self] at waits
            exact .inr (joins_at_work tended.manned starts joins waits)
          · have waited : (phases start).1.pump = some pump := by
              by_cases same : start = thread
              · subst same
                rw [Function.update_self] at waits
                exact pump_advance starts (fun join => own ⟨rfl, join⟩) waits
              · rw [Function.update_of_ne same] at waits
                exact waits
            rcases tended.waits pump waited with none | ⟨atWork, running⟩
            · exact .inl (settled none)
            · refine (waits_kept tended starts works kept called waited atWork
                running (tended.due before)).imp_left settled

theorem Tended.resets (tended : Tended start state phases)
    (guard : (tends start).crash thread state phases) :
    Tended start state (Function.update phases thread (.idle, .apart)) := by
  have manned := tended.manned.resets thread
  by_cases same : start = thread
  · subst same
    refine ⟨manned, fun busy => ?_, fun busy => ?_, fun pump waits => ?_⟩
    · rw [Function.update_self] at busy
      exact absurd rfl busy
    · rw [Function.update_self] at busy
      exact absurd rfl busy
    · rw [Function.update_self] at waits
      cases waits
  · refine ⟨manned, ?_, ?_, fun pump waits => ?_⟩
    · rw [Function.update_of_ne same]
      exact tended.begun
    · rw [Function.update_of_ne same]
      exact tended.due
    · rw [Function.update_of_ne same] at waits
      rcases guard with idle | none | own | apart
      · rw [waits] at idle
        cases idle
      · exact .inl none
      · exact absurd own.symm same
      · refine (tended.waits pump waits).imp_right fun ⟨atWork, running⟩ => ?_
        obtain ⟨runner, runs, sound, busy⟩ := isAtWork_iff.mp atWork
        refine ⟨isAtWork_iff.mpr ⟨runner, runs, ?_⟩, running⟩
        rw [Function.update_of_ne ?_]
        · exact ⟨sound, busy⟩
        · intro own
          subst own
          exact (tended.manned.works runner).mpr ⟨pump, busy_runs busy⟩ apart

theorem Tended.unsettled (tended : Tended start state phases) {pump : Nat}
    (atWork : isAtWork state.2 phases pump = true) :
    (state.1.outcomeOf pump).any (·.toBool) = false := by
  obtain ⟨runner, _, _, busy⟩ := isAtWork_iff.mp atWork
  have promised := (tended.manned.runs runner pump (busy_runs busy)).1
  have unsettled := (tended.manned.promised pump promised).2
  by_contra settled
  rw [Bool.not_eq_false] at settled
  exact unsettled _ (QueueStarts.mem_settled settled) rfl

theorem Tended.attempts (tended : Tended start state phases)
    (permitted : workProtocol.permits (phases thread) input)
    (guard : (tends start).call thread state phases input choice) :
    Attempts start thread state phases input := by
  refine ⟨fun own resolved => ?_, fun waits => ?_⟩
  · subst own
    cases input with
    | join =>
        have called : (phases thread).1 = .called := permitted.1
        rcases guard with idle | none | ⟨joins, _⟩
        · rw [called] at idle
          cases idle
        · exact none
        · simp only [joinsAtWork, ne_eq, not_true_eq_false, decide_false,
            Bool.false_or, Bool.and_eq_true, Bool.not_eq_true'] at joins
          simp [resolves, joins.1] at resolved
    | finishStart pump =>
        have waits : (phases thread).1.pump = some pump := by
          have waiting : (phases thread).1 = .waiting pump := permitted.1
          rw [waiting]
          rfl
        rcases tended.waits pump waits with none | ⟨atWork, _⟩
        · exact none
        · have open_ := tended.unsettled atWork
          have settled : (state.1.outcomeOf pump).any (·.toBool) = true :=
            resolved
          rw [open_] at settled
          cases settled
    | _ => cases resolved
  · obtain ⟨pump, waits⟩ := Option.isSome_iff_exists.mp waits
    exact (tended.waits pump waits).imp_right And.right

end

/-! Runs -/

theorem fresh_tended (start : ThreadId) (stores : Stores) (onLine : Bool) :
    Tended start (.fresh stores onLine, ⟨∅, [], none, none⟩)
      fun _ => (.idle, .apart) where
  manned := {
    runs := fun _ pump runs => absurd runs (not_runs (.inl rfl) pump)
    works := fun _ => iff_of_false (fun clash => clash rfl)
      fun ⟨pump, runs⟩ => not_runs (.inl rfl) pump runs
    current := fun _ _ under => by cases under
    promised := fun _ clash => by cases clash
    settled := fun _ member => by cases member }
  begun busy := absurd rfl busy
  due busy := absurd rfl busy
  waits _ clash := by cases clash

theorem joined_starts_attempt (start : ThreadId) (stores : Stores)
    (onLine : Bool) (labels : List QueueLabel)
    (meets : Meets (joinMachine start).next
      (Machine.stepCondition (tends start))
      ((joinMachine start).initial
        (.fresh stores onLine, ⟨∅, [], none, none⟩)) labels) :
    Meets (joinMachine start).next (Machine.condition (Attempts start))
      ((joinMachine start).initial
        (.fresh stores onLine, ⟨∅, [], none, none⟩)) labels := by
  refine Machine.sound_step_calls (Tended start) Rested program_works
    ?_ ?_ ?_ ?_ (Machine.sound_initial (fresh_tended start stores onLine)) meets
  · intro state phases thread tended free
    refine tended.resets (.inr (.inr (.inr ?_)))
    rcases free with rests | idle
    · exact rests
    · rw [idle]
      rfl
  · exact fun state phases thread tended guard => tended.resets guard
  · intro thread state phases input choice after reply tended permitted guard
      performed
    refine ⟨fun never => ?_, tended.step permitted guard performed⟩
    subst never
    cases performed
  · exact fun thread state phases input choice tended permitted guard =>
      tended.attempts permitted guard

/-- A start that makes its pump attempts every record that was queued at its
call, and ends.  In any run in which the conditions of a start hold, it resolves
after each of its records was attempted, whichever pump it waits for, and no
download pauses the queue before. -/
theorem starts_attempt_queued (thread : ThreadId) :
    (∀ store, Ready store → ∀ allowance rounds rest after,
      (start rounds).Reaches (respondsSmoothly thread)
        (store, ⟨[], none, allowance⟩) rest after →
      AttemptsQueued store allowance rounds rest after) ∧
      ∀ (stores : Stores) (onLine : Bool) (labels : List QueueLabel),
        Meets (joinMachine thread).next (Machine.stepCondition (tends thread))
          ((joinMachine thread).initial
            (.fresh stores onLine, ⟨∅, [], none, none⟩)) labels →
        Meets (joinMachine thread).next (Machine.condition (Attempts thread))
          ((joinMachine thread).initial
            (.fresh stores onLine, ⟨∅, [], none, none⟩)) labels :=
  ⟨fun _ ready _ _ _ _ reached =>
      QueueAttempts.start_attempts ready reached,
    fun stores onLine labels meets =>
      joined_starts_attempt thread stores onLine labels meets⟩

instance (start thread : ThreadId) (state : QueueStore × Starting)
    (phases : ThreadId → WorkPhase) (input : QueueCall)
    (choice : QueueChoice) :
    Decidable ((tends start).call thread state phases input choice) :=
  inferInstanceAs (Decidable (_ ∨ _ ∨ _ ∧ _))

instance (start thread : ThreadId) (state : QueueStore × Starting)
    (phases : ThreadId → WorkPhase) :
    Decidable ((tends start).crash thread state phases) :=
  inferInstanceAs (Decidable (_ ∨ _ ∨ _ ∨ _))

def sampleJoin : Config QueueCall QueueReply JsError WorkPhase
    (QueueStore × Starting) :=
  (joinMachine 2).initial (.fresh ⟨.empty, .empty⟩ true, ⟨∅, [], none, none⟩)

def joiningDownload : List QueueLabel :=
  .spawn 1 (.enqueueMany [sampleVideo, { sampleVideo with id := 8 }]) ::
    takes 1 19 ++ .spawn 0 (.start 5) :: takes 0 13 ++
    .spawn 2 (.start 5) :: takes 2 4 ++ takes 0 41 ++ takes 2 1

/-- Both records are missing in the stream endpoint; both are attempted, by the
start that makes the pump and for the one that joins it. -/
theorem missing_records_attempted :
    (∃ outcome after, (start 5).Reaches (respondsSmoothly 0)
        (sampleIdle sampleQueued, ⟨[], none, 0⟩) (.done outcome) after ∧
      after.1.snapshot.paused = false ∧
      ∀ videoId ∈ queued (sampleIdle sampleQueued).stores,
        QueueAttempts.Attempted after videoId) ∧
      Meets (joinMachine 2).next (Machine.condition (Attempts 2)) sampleJoin
        joiningDownload ∧
      ((run (joinMachine 2).next sampleJoin joiningDownload).map fun config =>
        (config.shared.2.owed, config.shared.2.due,
          isRunning config.shared.1)) = some ({7, 8}, ∅, true) := by
  refine ⟨?_, ?_, by decide +kernel⟩
  · have ready : Ready (sampleIdle sampleQueued) :=
      ⟨rfl, rfl, rfl, fun _ failed => by cases failed⟩
    obtain ⟨outcome, after, reached, begun⟩ :=
      QueueAttempts.missing_records_reached
    have attempts := (starts_attempt_queued 0).1 _ ready 0 5 _ after reached
    exact ⟨outcome, after, reached, attempts.running begun,
      attempts.attempted outcome rfl⟩
  · exact (starts_attempt_queued 2).2 ⟨.empty, .empty⟩ true joiningDownload
      (by decide +kernel)

end OfflineReels.Offline.JoinedStarts
