import OfflineReels.Offline.ReserveController

namespace OfflineReels.Offline.ReserveController

open OfflineReels.Foundation
open OfflineReels.Foundation.Program
open OfflineReels.Instagram
open OfflineReels.Management (CatalogItem)

/-! Cancellation of reserve cycles, and the collection runs that they leave. -/

/-- A run at the server, with the cycle that it was made for. -/
structure ServerRun where
  id : UUID
  creator : Option Nat
  status : CollectionRunStatus
  deriving DecidableEq, Repr

/-- A run that is over stays so. -/
def finished (runId : UUID) (status : CollectionRunStatus) (run : ServerRun) :
    ServerRun :=
  if run.id = runId ∧ run.status.isActive then { run with status } else run

theorem finished_id (runId : UUID) (status : CollectionRunStatus)
    (run : ServerRun) : (finished runId status run).id = run.id := by
  unfold finished
  split <;> rfl

/-- The runs, and who knows of them: `starting` is set from the creation of a
run until the answer arrives.  Cycles are counted. -/
structure Ledger where
  cycle : Option Nat
  cycles : Nat
  ownedCollectionRunId : Option UUID
  starting : Bool
  runs : Table ServerRun UUID ServerRun.id
  called : List Nat
  sent : List (UUID × Option Nat)
  settled : List Nat
  returned : List Nat

structure ControllerStore extends Ledger where
  aborter : Option Bool
  requestedWhileActive : Option ReserveRequestIntent
  snapshot : ReserveSnapshot

/-- What a dependency answers, and the run that the server makes. -/
structure ControllerChoice where
  reply : (input : ControllerCall) → Except ControllerFault (ControllerReply input)
  created : Option UUID := none

namespace ControllerStore

variable (build : ReserveBuild)

def join (store : ControllerStore) (intent : ReserveRequestIntent) :
    ControllerStore × Option Nat :=
  if intent ≠ .manual ∧ ¬ build.AUTO_REFILL_ENABLED then
    ({ store with snapshot := { store.snapshot with
      state := .idle
      settings := store.snapshot.settings.map fun settings =>
        { settings with autoRefillEnabled := false } } }, none)
  else
    match store.cycle with
    | some _ =>
        ({ store with
          requestedWhileActive := store.requestedWhileActive.or (some intent) },
          none)
    | none =>
        ({ store with
          cycle := some store.cycles
          cycles := store.cycles + 1
          starting := false }, some store.cycles)

def set (store : ControllerStore) (state : ReserveState)
    (patch : ReserveSnapshotPatch) : ControllerStore :=
  { store with snapshot := {
    state := state
    settings := patch.settings.or store.snapshot.settings
    localCompletedCount :=
      patch.localCompletedCount.getD store.snapshot.localCompletedCount
    storagePercent := patch.storagePercent.getD store.snapshot.storagePercent } }

def abort (store : ControllerStore) : ControllerStore :=
  { store with aborter := store.aborter.map fun _ => true }

/-- A request that fails may have made a run all the same. -/
def startCollection (store : ControllerStore) (cycle : Nat)
    (choice : ControllerChoice) (reply : Except ControllerFault UUID) :
    Option (ControllerStore × Except ControllerFault UUID) :=
  match choice.created with
  | none =>
      match reply with
      | .ok _ => none
      | .error fault => some (store, .error fault)
  | some runId =>
      (store.runs.insert? ⟨runId, some cycle, .queued⟩).map fun runs =>
        ({ store with runs, starting := true }, reply.map fun _ => runId)

def cancelOwned (store : ControllerStore) : ControllerStore :=
  { store.abort with
    ownedCollectionRunId := none
    called := store.cycle.toList ++ store.called
    sent := (store.ownedCollectionRunId.toList.map (·, store.cycle)) ++
      store.sent }

def finishRun (store : ControllerStore) (runId : UUID)
    (status : CollectionRunStatus) : ControllerStore :=
  { store with
    runs := store.runs.map (finished runId status)
      (finished_id runId status) }

def perform (store : ControllerStore) (choice : ControllerChoice) :
    (input : ControllerCall) →
      Option (ControllerStore × Except ControllerFault (ControllerReply input))
  | .join intent =>
      some ((store.join build intent).1, .ok (store.join build intent).2)
  | .attach => some ({ store with aborter := some false }, .ok ())
  | .set state patch => some (store.set state patch, .ok ())
  | .snapshotState => some (store, .ok store.snapshot.state)
  | .signalAborted => some (store, .ok (store.aborter = some true))
  | .detach => some ({ store with aborter := none }, .ok ())
  | .endCycle cycle =>
      some ({ store with
        cycle := none
        requestedWhileActive := none
        settled := cycle :: store.settled }, .ok ())
  | .startCollection cycle count =>
      store.startCollection cycle choice
        (choice.reply (.startCollection cycle count))
  | .own runId =>
      some ({ store with
        ownedCollectionRunId := some runId
        starting := false }, .ok ())
  | .disown => some ({ store with ownedCollectionRunId := none }, .ok ())
  | .getRun runId =>
      match store.runs.find? runId, choice.reply (.getRun runId) with
      | some run, .ok _ => some (store, .ok run.status)
      | _, .error fault => some (store, .error fault)
      | none, .ok _ => some (store, .error .other)
  | .pause => some (store.abort.set .pausedByUser {}, .ok ())
  | .cancelOwned => some (store.cancelOwned, .ok store.cycle)
  | .cancelReturned cycle =>
      some ({ store with returned := cycle.toList ++ store.returned }, .ok ())
  | .createRun =>
      choice.created.bind fun runId =>
        (store.runs.insert? ⟨runId, none, .queued⟩).map fun runs =>
          ({ store with runs }, .ok ())
  | .finishRun runId status => some (store.finishRun runId status, .ok ())
  | input => some (store, choice.reply input)

end ControllerStore

/-- The cycle of a thread, whether it has asked for a run, the run that it was
told of and whether that is completed; and the cycle that a cancellation met. -/
structure CyclePhase where
  cycle : Option Nat := none
  requested : Bool := false
  run : Option UUID := none
  completed : Bool := false
  called : Option (Option Nat) := none
  deriving DecidableEq

def advanceCycle (phase : CyclePhase) (input : ControllerCall)
    (reply : Except ControllerFault (ControllerReply input)) : CyclePhase :=
  match input, reply with
  | .join _, .ok (some cycle) => { cycle := some cycle }
  | .startCollection _ _, .ok runId =>
      { phase with requested := true, run := some runId }
  | .startCollection _ _, .error _ => { phase with requested := true }
  | .getRun runId, .ok .completed =>
      if phase.run = some runId then { phase with completed := true } else phase
  | .endCycle _, _ => {}
  | .cancelOwned, .ok cycle => { phase with called := some cycle }
  | _, _ => phase

def permitsCycle (phase : CyclePhase) : ControllerCall → Prop
  | .join _ => phase = {}
  | .startCollection cycle _ =>
      phase.cycle = some cycle ∧ phase.requested = false
  | .own runId => phase.run = some runId
  | .disown => phase.completed = true
  | .endCycle cycle => phase.cycle = some cycle
  | .cancelReturned cycle => phase.called = some cycle
  | _ => True

def cycleProtocol :
    Protocol ControllerCall ControllerReply ControllerFault CyclePhase where
  permits := permitsCycle
  assumes _ input reply :=
    match input with
    | .cancelOwned => ∃ cycle, reply = .ok cycle
    | _ => True
  advance := advanceCycle

def controllerMachine (build : ReserveBuild) :
    Machine ControllerCall ControllerReply ControllerFault CyclePhase
      ControllerStore ControllerJob ControllerChoice where
  protocol := cycleProtocol
  idle := {}
  program := program build
  perform _ store input choice := ControllerStore.perform build store choice input

section

variable {α : Type}

/-- A program that does nothing to the runs. -/
def Apart (program : Controlling α) : Prop :=
  ∀ holds : CyclePhase → Prop, Leads cycleProtocol holds holds program

/-- The calls that neither make nor hand over a run. -/
def isApart : ControllerCall → Bool
  | .join _ | .startCollection _ _ | .own _ | .disown | .getRun _ | .endCycle _
  | .cancelOwned | .cancelReturned _ => false
  | _ => true

theorem apart_ask (input : ControllerCall) (apart : isApart input = true) :
    Apart (ask input) := by
  intro holds
  refine leads_perform (fun phase _ => ?_) fun phase reply kept _ => ?_
  · cases input <;> trivial
  · have still : advanceCycle phase input reply = phase := by
      cases input <;> first
        | rfl
        | cases apart
    change holds (advanceCycle phase input reply)
    rw [still]
    exact kept

theorem apart_pure (value : α) : Apart (pure value : Controlling α) :=
  fun _ => leads_pure fun _ holds => holds

theorem apart_raise (fault : ControllerFault) :
    Apart (raise fault : Controlling α) :=
  fun _ => leads_raise fun _ holds => holds

theorem Apart.bind {β : Type} {program : Controlling α}
    {next : α → Controlling β} (first : Apart program)
    (second : ∀ value, Apart (next value)) : Apart (program >>= next) :=
  fun holds => (first holds).bind (fun value => second value holds)
    fun _ kept => kept

theorem Apart.rescue {program : Controlling α}
    {selects : ControllerFault → Bool} {handler : ControllerFault → Controlling α}
    (body : Apart program) (handles : ∀ fault, Apart (handler fault)) :
    Apart (program.rescue selects handler) :=
  fun holds => (body holds).rescue (fun fault => handles fault holds)
    fun _ kept => kept

theorem apart_ite {condition : Prop} [Decidable condition]
    {first second : Controlling α} (whenTrue : Apart first)
    (whenFalse : Apart second) :
    Apart (if condition then first else second) := by
  split
  · exact whenTrue
  · exact whenFalse

theorem pollNormalization_apart (deadline : Time) (polls delay : Nat) :
    Apart (pollNormalization deadline polls delay) := by
  induction polls generalizing delay with
  | zero => exact apart_raise _
  | succ polls ih =>
      refine (apart_ask .now rfl).bind fun now => apart_ite ?_ (apart_raise _)
      refine (apart_ask .normalization rfl).bind fun status => ?_
      exact apart_ite ((apart_ask (.wait _) rfl).bind fun _ => ih _) (apart_pure _)

theorem pollActiveCollection_apart (deadline : Time) (polls delay : Nat) :
    Apart (pollActiveCollection deadline polls delay) := by
  induction polls generalizing delay with
  | zero => exact apart_raise _
  | succ polls ih =>
      refine (apart_ask .now rfl).bind fun now => apart_ite ?_ (apart_raise _)
      refine (apart_ask .getStatus rfl).bind fun active => ?_
      exact apart_ite ((apart_ask (.wait _) rfl).bind fun _ => ih _) (apart_pure _)

theorem finish_apart (settings : LocalReserveRecord) (completed : Nat) :
    Apart (finish settings completed) := by
  refine (apart_ask (.setIntent _) rfl).bind fun _ => ?_
  refine (apart_ask .isOnline rfl).bind fun online => ?_
  refine apart_ite ((apart_ask .now rfl).bind fun reportedAt => ?_) (apart_pure _)
  exact (apart_ask (.report _) rfl).rescue
    fun _ => apart_pure _

theorem download_apart (settings : LocalReserveRecord) (wanted : Int)
    (videos : List CatalogItem) : Apart (download settings wanted videos) := by
  refine (apart_ask (.set _ _) rfl).bind fun _ => ?_
  refine (apart_ask (.enqueueReserveAndStart _ _) rfl).bind fun _ => ?_
  refine (apart_ask .getSnapshot rfl).bind fun after => ?_
  refine (apart_ask .isOnline rfl).bind fun online => ?_
  exact (apart_ask (.set _ _) rfl).bind fun _ => finish_apart _ _

theorem caught_apart (error : ControllerFault) : Apart (caught error) := by
  refine (apart_ask .signalAborted rfl).bind fun aborted => ?_
  refine apart_ite ?_ (apart_ite (apart_ask (.set _ _) rfl) ?_)
  · refine (apart_ask .snapshotState rfl).bind fun state => ?_
    exact apart_ite (apart_ask (.set _ _) rfl) (apart_pure _)
  · refine (apart_ask .isOnline rfl).bind fun online => ?_
    exact apart_ask (.set _ _) rfl

end

def Within (cycle : Nat) (phase : CyclePhase) : Prop :=
  phase.cycle = some cycle

def Unasked (cycle : Nat) (phase : CyclePhase) : Prop :=
  phase.cycle = some cycle ∧ phase.requested = false

theorem Unasked.within {cycle : Nat} (phase : CyclePhase)
    (unasked : Unasked cycle phase) : Within cycle phase :=
  unasked.1

/-- A program that asks for one run at most. -/
abbrev Cycles {α : Type} (cycle : Nat) (program : Controlling α) : Prop :=
  Leads cycleProtocol (Unasked cycle) (Within cycle) program

theorem Apart.cycles {α : Type} {program : Controlling α}
    (apart : Apart program) (cycle : Nat) : Cycles cycle program :=
  (apart (Unasked cycle)).weaken (fun _ holds => holds) Unasked.within

theorem Apart.then {α β : Type} {cycle : Nat} {program : Controlling α}
    {next : α → Controlling β} (first : Apart program)
    (second : ∀ value, Cycles cycle (next value)) :
    Cycles cycle (program >>= next) := by
  rw [bind_eq_attempt]
  refine (first (Unasked cycle)).attempt fun outcome => ?_
  cases outcome with
  | ok value => exact second value
  | error fault => exact leads_done Unasked.within

theorem Cycles.then {α β : Type} {cycle : Nat} {program : Controlling α}
    {next : α → Controlling β} (first : Cycles cycle program)
    (second : ∀ value, Apart (next value)) :
    Cycles cycle (program >>= next) :=
  first.bind (fun value => second value (Within cycle)) fun _ within => within

/-- A poll that ends well has seen the run completed. -/
theorem pollCollection_follows (cycle : Nat) (runId : UUID) (deadline : Time)
    (polls delay : Nat) {phase : CyclePhase} (within : Within cycle phase)
    (own : phase.run = some runId) :
    Follows cycleProtocol phase (pollCollection runId deadline polls delay)
      fun outcome reached => Within cycle reached ∧
        ∀ value, outcome = .ok value → reached.completed = true := by
  induction polls generalizing phase delay with
  | zero => exact ⟨within, nofun⟩
  | succ polls ih =>
      refine ⟨trivial, fun reply _ => ?_⟩
      cases reply with
      | error fault => exact ⟨within, nofun⟩
      | ok now =>
          simp only [attempt_done]
          split
          · refine ⟨trivial, fun reply _ => ?_⟩
            cases reply with
            | error fault => exact ⟨within, nofun⟩
            | ok status =>
                cases status with
                | completed =>
                    have seen : advanceCycle phase (.getRun runId)
                        (.ok .completed) =
                          { phase with completed := true } := if_pos own
                    have kept : Within cycle (advanceCycle phase (.getRun runId)
                        (.ok .completed)) := by
                      rw [seen]
                      exact within
                    exact ⟨kept, fun _ _ => congrArg CyclePhase.completed seen⟩
                | failed => exact ⟨within, nofun⟩
                | cancelled => exact ⟨within, nofun⟩
                | queued =>
                    refine ⟨trivial, fun reply _ => ?_⟩
                    cases reply with
                    | error fault => exact ⟨within, nofun⟩
                    | ok _ => exact ih _ within own
                | running =>
                    refine ⟨trivial, fun reply _ => ?_⟩
                    cases reply with
                    | error fault => exact ⟨within, nofun⟩
                    | ok _ => exact ih _ within own
          · exact ⟨within, nofun⟩

theorem disowns (cycle : Nat) (runId : UUID) (deadline : Time)
    {phase : CyclePhase} (within : Within cycle phase)
    (own : phase.run = some runId) :
    Follows cycleProtocol phase (do
        pollCollection runId deadline MAX_POLLS FIRST_DELAY
        ask .disown
        ask (.set .waitingForNormalization {})
        pollNormalization deadline MAX_POLLS FIRST_DELAY)
      fun _ reached => Within cycle reached := by
  have polled := pollCollection_follows cycle runId deadline MAX_POLLS
    FIRST_DELAY within own
  refine polled.bind ?_ fun _ _ kept => kept.1
  intro _ reached ⟨kept, completed⟩
  refine ⟨completed () rfl, fun reply _ => ?_⟩
  cases reply with
  | error fault => exact kept
  | ok _ =>
      have rest : Apart (do
          ask (.set .waitingForNormalization {})
          pollNormalization deadline MAX_POLLS FIRST_DELAY) :=
        (apart_ask (.set _ _) rfl).bind fun _ => pollNormalization_apart _ _ _
      exact rest (Within cycle) reached kept

theorem collect_cycles (cycle : Nat) (deadline : Time) (deficit : Int) :
    Cycles cycle (collect cycle deadline deficit) := by
  refine (apart_ask .getStatus rfl).then fun active => ?_
  split
  · refine Apart.cycles ?_ cycle
    refine (apart_ask (.set _ _) rfl).bind fun _ => ?_
    refine (pollActiveCollection_apart _ _ _).bind fun _ => ?_
    exact (apart_ask (.set _ _) rfl).bind fun _ => pollNormalization_apart _ _ _
  · refine (apart_ask (.set _ _) rfl).then fun _ => ?_
    intro phase ⟨within, unasked⟩
    refine ⟨⟨within, unasked⟩, fun reply _ => ?_⟩
    cases reply with
    | error fault => exact within
    | ok runId =>
        refine ⟨rfl, fun reply _ => ?_⟩
        cases reply with
        | error fault => exact within
        | ok _ =>
            refine ⟨trivial, fun reply _ => ?_⟩
            cases reply with
            | error fault => exact within
            | ok _ => exact disowns cycle runId deadline within rfl

theorem candidates_cycles (cycle : Nat) (deadline : Time) (wanted : Int) :
    Cycles cycle (candidates cycle deadline wanted) := by
  refine (apart_ask .getCatalog rfl).then fun catalog => ?_
  refine (apart_ask .getSnapshot rfl).then fun projection => ?_
  dsimp only
  split
  · refine (collect_cycles _ _ _).then fun _ => ?_
    refine (apart_ask .getCatalog rfl).bind fun catalog => ?_
    exact (apart_ask .getSnapshot rfl).bind
      fun projection => apart_pure _
  · exact (apart_pure _).cycles cycle

theorem evaluate_cycles (cycle : Nat) (intent : ReserveRequestIntent)
    (deadline : Time) : Cycles cycle (evaluate cycle intent deadline) := by
  refine (apart_ask .reconcile rfl).then fun _ => ?_
  refine (apart_ask .refreshFromStorage rfl).then fun _ => ?_
  refine (apart_ask .getSnapshot rfl).then fun projection => ?_
  refine (apart_ask .estimate rfl).then fun estimate => ?_
  refine (apart_ask .now rfl).then fun now => ?_
  refine (apart_ask (.updateSettings _) rfl).then fun settings => ?_
  refine (apart_ask (.set _ _) rfl).then fun _ => ?_
  split
  · exact (apart_ask (.set _ _) rfl).cycles cycle
  · split
    · exact ((apart_ask (.set _ _) rfl).bind fun _ => finish_apart _ _).cycles cycle
    · refine (candidates_cycles _ _ _).then fun videos => ?_
      refine (apart_ask .now rfl).bind fun now => ?_
      exact apart_ite (apart_ask (.set _ _) rfl) (download_apart _ _ _)

theorem runCycle_within (build : ReserveBuild) (cycle : Nat)
    (intent : ReserveRequestIntent) :
    Cycles cycle (runCycle build cycle intent) := by
  refine (apart_ask .isAvailable rfl).then fun available => ?_
  split
  · refine (apart_ask .attach rfl).then fun _ => ?_
    refine (apart_ask .now rfl).then fun started => ?_
    have guarded : Cycles cycle
        (runGuarded build cycle intent (started + MAX_CYCLE)) := by
      refine (apart_ask .getSettings rfl).then fun settings => ?_
      split
      · exact (apart_ask (.set _ _) rfl).cycles cycle
      · refine (apart_ask (.setIntent _) rfl).then fun _ => ?_
        refine (apart_ask .initializeQueue rfl).then fun _ => ?_
        exact (apart_ask (.set _ _) rfl).then fun _ => evaluate_cycles _ _ _
    have rescued : Cycles cycle ((runGuarded build cycle intent
        (started + MAX_CYCLE)).rescue (fun _ => true) caught) :=
      guarded.rescue (fun fault => caught_apart fault (Within cycle))
        fun _ within => within
    exact rescued.ensure
      (apart_ask .detach rfl (Within cycle))
  · exact (apart_ask (.set _ _) rfl).cycles cycle

theorem program_follows (build : ReserveBuild) (job : ControllerJob) :
    Follows cycleProtocol {} (program build job) fun _ _ => True := by
  cases job with
  | request intent =>
      refine ⟨rfl, fun reply _ => ?_⟩
      cases reply with
      | error fault => trivial
      | ok joined =>
          cases joined with
          | none => trivial
          | some cycle =>
              refine (runCycle_within build cycle intent _ ⟨rfl, rfl⟩).ensure ?_
              intro outcome reached within
              refine ⟨within, fun reply _ => ?_⟩
              cases reply <;> trivial
  | cancel =>
      refine ⟨trivial, fun reply answered => ?_⟩
      obtain ⟨cycle, rfl⟩ : ∃ cycle, reply = .ok cycle := answered
      have called : Apart (do
          ask .cancelBatch
          ask (.setIntent .none)
          ask (.set .cancelled {}) : Controlling Unit) := by
        refine (apart_ask .cancelBatch rfl).bind fun _ => ?_
        refine (apart_ask (.setIntent _) rfl).bind fun _ => ?_
        exact apart_ask (.set _ _) rfl
      refine (called (fun phase => phase.called = some cycle) _ rfl).ensure ?_
      intro outcome reached kept
      refine ⟨kept, fun reply _ => ?_⟩
      cases reply <;> trivial
  | _ => exact ⟨trivial, fun _ _ => trivial⟩

def Stopped (ledger : Ledger) (run : ServerRun) : Prop :=
  run.status.isActive = false ∨ run.id ∈ ledger.sent.map (·.1)

structure Books (ledger : Ledger) : Prop where
  numbered : ∀ run ∈ ledger.runs, ∀ cycle, run.creator = some cycle →
    cycle < ledger.cycles
  current : ∀ cycle, ledger.cycle = some cycle → cycle < ledger.cycles
  callNumbered : ∀ cycle ∈ ledger.called, cycle < ledger.cycles
  /-- A run of the cycle is owned once its answer has arrived. -/
  held : ∀ run ∈ ledger.runs, run.creator.isSome → ledger.cycle = run.creator →
    ledger.starting = false → Stopped ledger run ∨
      ledger.ownedCollectionRunId = some run.id
  stopped : ∀ run ∈ ledger.runs, ∀ cycle ∈ ledger.called,
    run.creator = some cycle → Stopped ledger run
  owned : ∀ runId, ledger.ownedCollectionRunId = some runId →
    ∃ run ∈ ledger.runs, run.id = runId ∧ run.creator.isSome
  foreign : ∀ entry ∈ ledger.sent, ∃ run ∈ ledger.runs, run.id = entry.1 ∧
    ∃ creator, run.creator = some creator ∧
      ∀ cycle, entry.2 = some cycle → cycle = creator
  returned : ∀ cycle ∈ ledger.returned, cycle ∈ ledger.called

/-- What a thread knows is so. -/
structure Knows (ledger : Ledger) (phase : CyclePhase) : Prop where
  running : ∀ cycle, phase.cycle = some cycle → ledger.cycle = some cycle
  /-- A cycle makes one run, of which it is told unless the answer is out. -/
  made : ∀ run ∈ ledger.runs, run.creator.isSome → phase.cycle = run.creator →
    phase.requested = true ∧ (phase.run = some run.id ∨
      (phase.run = none ∧ ledger.starting = true))
  told : ∀ runId, phase.run = some runId → ∃ run ∈ ledger.runs,
    run.id = runId ∧ run.creator.isSome ∧ phase.cycle = run.creator
  ceased : phase.completed = true → ∃ run ∈ ledger.runs,
    phase.run = some run.id ∧ run.status.isActive = false
  called : ∀ cycle, phase.called = some (some cycle) → cycle ∈ ledger.called

structure Handed (ledger : Ledger) (phases : ThreadId → CyclePhase) : Prop where
  books : Books ledger
  knows : ∀ thread, Knows ledger (phases thread)
  single : ∀ thread other, (phases thread).cycle ≠ none →
    (phases other).cycle ≠ none → thread = other

structure Continues (before after : Table ServerRun UUID ServerRun.id) :
    Prop where
  forward : ∀ run ∈ before, ∃ later ∈ after, later.id = run.id ∧
    later.creator = run.creator ∧
      (run.status.isActive = false → later.status.isActive = false)
  backward : ∀ run ∈ after, run.creator.isSome → ∃ earlier ∈ before,
    earlier.id = run.id ∧ earlier.creator = run.creator ∧
      (earlier.status.isActive = false → run.status.isActive = false)

section

variable {ledger after : Ledger} {phases : ThreadId → CyclePhase}
variable {phase : CyclePhase} {thread : ThreadId}

theorem continues_refl (runs : Table ServerRun UUID ServerRun.id) :
    Continues runs runs where
  forward := fun run member => ⟨run, member, rfl, rfl, id⟩
  backward := fun run member _ => ⟨run, member, rfl, rfl, id⟩

theorem Knows.outside (knows : Knows ledger phase) (none : phase.cycle = none)
    (called : ∀ cycle ∈ ledger.called, cycle ∈ after.called) :
    Knows after phase := by
  have untold : phase.run = Option.none := by
    cases run : phase.run with
    | none => rfl
    | some runId =>
        obtain ⟨made, _, _, creator, same⟩ := knows.told runId run
        rw [none] at same
        rw [← same] at creator
        cases creator
  refine ⟨?_, ?_, ?_, ?_, fun cycle known => called cycle
    (knows.called cycle known)⟩
  · intro cycle known
    rw [none] at known
    cases known
  · intro run member creator same
    rw [none] at same
    rw [← same] at creator
    cases creator
  · intro runId known
    rw [untold] at known
    cases known
  · intro completed
    obtain ⟨run, _, known, _⟩ := knows.ceased completed
    rw [untold] at known
    cases known

theorem knows_idle (ledger : Ledger) : Knows ledger {} where
  running := nofun
  made := by
    intro run member creator same
    rw [← same] at creator
    cases creator
  told := nofun
  ceased := nofun
  called := nofun

theorem Knows.continues (knows : Knows ledger phase)
    (continues : Continues ledger.runs after.runs)
    (cycle : after.cycle = ledger.cycle)
    (starting : after.starting = ledger.starting)
    (called : ∀ cycle ∈ ledger.called, cycle ∈ after.called) :
    Knows after phase where
  running := fun number known => cycle.trans (knows.running number known)
  made := by
    intro run member creator same
    obtain ⟨earlier, present, identity, author, _⟩ :=
      continues.backward run member creator
    rw [← author] at creator same
    rw [← identity, starting]
    exact knows.made earlier present creator same
  told := by
    intro runId known
    obtain ⟨run, member, identity, creator, same⟩ := knows.told runId known
    obtain ⟨later, present, kept, author, _⟩ := continues.forward run member
    rw [← author] at creator same
    exact ⟨later, present, kept.trans identity, creator, same⟩
  ceased := by
    intro completed
    obtain ⟨run, member, known, ended⟩ := knows.ceased completed
    obtain ⟨later, present, kept, _, still⟩ := continues.forward run member
    exact ⟨later, present, kept ▸ known, still ended⟩
  called := fun number known => called number (knows.called number known)

theorem Handed.move (handed : Handed ledger phases) (books : Books after)
    (knows : Knows after phase)
    (others : ∀ other, other ≠ thread → Knows after (phases other))
    (single : phase.cycle ≠ none → (phases thread).cycle ≠ none ∨
      ∀ other, other ≠ thread → (phases other).cycle = none) :
    Handed after (Function.update phases thread phase) where
  books := books
  knows := by
    intro other
    by_cases same : other = thread
    · subst same
      rw [Function.update_self]
      exact knows
    · rw [Function.update_of_ne same]
      exact others other same
  single := by
    have apart : ∀ other, other ≠ thread → phase.cycle ≠ none →
        (phases other).cycle = none := by
      intro other differs within
      rcases single within with before | none
      · by_contra also
        exact differs (handed.single other thread also before)
      · exact none other differs
    intro first second firstWithin secondWithin
    by_cases same : first = thread
    · subst same
      by_cases also : second = first
      · exact also.symm
      · rw [Function.update_self] at firstWithin
        rw [Function.update_of_ne also] at secondWithin
        exact absurd (apart second also firstWithin) secondWithin
    · rw [Function.update_of_ne same] at firstWithin
      by_cases also : second = thread
      · subst also
        rw [Function.update_self] at secondWithin
        exact absurd (apart first same secondWithin) firstWithin
      · rw [Function.update_of_ne also] at secondWithin
        exact handed.single first second firstWithin secondWithin

theorem Handed.outside (handed : Handed ledger phases)
    (within : (phases thread).cycle ≠ none) {other : ThreadId}
    (differs : other ≠ thread) : (phases other).cycle = none := by
  by_contra also
  exact differs (handed.single other thread also within)

theorem Handed.reset (handed : Handed ledger phases) (thread : ThreadId) :
    Handed ledger (Function.update phases thread {}) :=
  handed.move handed.books (knows_idle ledger)
    (fun other _ => handed.knows other) fun within => absurd rfl within

theorem Handed.continues (handed : Handed ledger phases)
    (runs : Table ServerRun UUID ServerRun.id)
    (continues : Continues ledger.runs runs) :
    Handed { ledger with runs } phases where
  books := {
    numbered := by
      intro run member cycle creator
      have isSome : run.creator.isSome = true := by rw [creator]; rfl
      obtain ⟨earlier, present, _, author, _⟩ :=
        continues.backward run member isSome
      exact handed.books.numbered earlier present cycle (author.trans creator)
    current := handed.books.current
    callNumbered := handed.books.callNumbered
    held := by
      intro run member creator same idle
      obtain ⟨earlier, present, identity, author, still⟩ :=
        continues.backward run member creator
      rw [← author] at creator same
      rcases handed.books.held earlier present creator same idle with
        (ceased | sent) | owned
      · exact .inl (.inl (still ceased))
      · exact .inl (.inr (identity ▸ sent))
      · exact .inr (identity ▸ owned)
    stopped := by
      intro run member cycle called creator
      have isSome : run.creator.isSome = true := by rw [creator]; rfl
      obtain ⟨earlier, present, identity, author, still⟩ :=
        continues.backward run member isSome
      rcases handed.books.stopped earlier present cycle called
        (author.trans creator) with ceased | sent
      · exact .inl (still ceased)
      · exact .inr (identity ▸ sent)
    owned := by
      intro runId known
      obtain ⟨run, member, identity, creator⟩ := handed.books.owned runId known
      obtain ⟨later, present, kept, author, _⟩ := continues.forward run member
      exact ⟨later, present, kept.trans identity, author ▸ creator⟩
    foreign := by
      intro entry member
      obtain ⟨run, made, identity, creator, author, own⟩ :=
        handed.books.foreign entry member
      obtain ⟨later, present, kept, same, _⟩ := continues.forward run made
      exact ⟨later, present, kept.trans identity, creator, same.trans author,
        own⟩
    returned := handed.books.returned }
  knows := fun thread => (handed.knows thread).continues continues rfl rfl
    fun _ member => member
  single := handed.single

theorem Handed.started (handed : Handed ledger phases)
    (free : ledger.cycle = none) :
    Handed { ledger with
        cycle := some ledger.cycles
        cycles := ledger.cycles + 1
        starting := false }
      (Function.update phases thread { cycle := some ledger.cycles }) := by
  have outside : ∀ other, (phases other).cycle = none := by
    intro other
    cases within : (phases other).cycle with
    | none => rfl
    | some cycle =>
        have running := (handed.knows other).running cycle within
        rw [free] at running
        cases running
  have unmade : ∀ run ∈ ledger.runs, run.creator ≠ some ledger.cycles := by
    intro run member creator
    exact absurd (handed.books.numbered run member ledger.cycles creator)
      (Nat.lt_irrefl _)
  refine handed.move ?_ ?_ ?_ fun _ => .inr fun other _ => outside other
  · refine ⟨?_, ?_, ?_, ?_, handed.books.stopped, handed.books.owned,
      handed.books.foreign, handed.books.returned⟩
    · exact fun run member cycle creator =>
        Nat.lt_succ_of_lt (handed.books.numbered run member cycle creator)
    · intro cycle current
      cases current
      exact Nat.lt_succ_self _
    · exact fun cycle called =>
        Nat.lt_succ_of_lt (handed.books.callNumbered cycle called)
    · exact fun run member _ same => absurd same.symm (unmade run member)
  · refine ⟨fun cycle known => known, ?_, nofun, nofun, nofun⟩
    exact fun run member _ same => absurd same.symm (unmade run member)
  · exact fun other _ => (handed.knows other).outside (outside other)
      fun _ member => member

theorem Handed.ended (handed : Handed ledger phases) {cycle : Nat}
    (within : (phases thread).cycle = some cycle) :
    Handed { ledger with cycle := none, settled := cycle :: ledger.settled }
      (Function.update phases thread {}) := by
  have inside : (phases thread).cycle ≠ none := by
    rw [within]
    exact Option.some_ne_none cycle
  refine handed.move ?_ (knows_idle _) ?_ fun absent => absurd rfl absent
  · refine ⟨handed.books.numbered, nofun, handed.books.callNumbered, ?_,
      handed.books.stopped, handed.books.owned, handed.books.foreign,
      handed.books.returned⟩
    intro run _ creator same
    rw [← same] at creator
    cases creator
  · exact fun other differs => (handed.knows other).outside
      (handed.outside inside differs) fun _ member => member

theorem Knows.untold (knows : Knows ledger phase)
    (unasked : phase.requested = false) : phase.run = none := by
  cases run : phase.run with
  | none => rfl
  | some runId =>
      obtain ⟨made, member, _, creator, own⟩ := knows.told runId run
      have asked := knows.made made member creator own
      rw [unasked] at asked
      cases asked.1

theorem Handed.asked (handed : Handed ledger phases) {cycle : Nat}
    (within : (phases thread).cycle = some cycle)
    (unasked : (phases thread).requested = false) :
    Handed ledger (Function.update phases thread
      { phases thread with requested := true }) := by
  have inside : (phases thread).cycle ≠ none := by
    rw [within]
    exact Option.some_ne_none cycle
  refine handed.move handed.books ?_ (fun other _ => handed.knows other)
    fun _ => .inl inside
  refine ⟨(handed.knows thread).running, ?_, (handed.knows thread).told,
    (handed.knows thread).ceased, (handed.knows thread).called⟩
  intro run member creator own
  have made := (handed.knows thread).made run member creator own
  rw [unasked] at made
  cases made.1

theorem Handed.created (handed : Handed ledger phases) {cycle : Nat}
    (within : (phases thread).cycle = some cycle)
    (unasked : (phases thread).requested = false)
    (uncalled : cycle ∉ ledger.called) {runId : UUID}
    {runs : Table ServerRun UUID ServerRun.id}
    (added : ledger.runs.insert? ⟨runId, some cycle, .queued⟩ = some runs)
    {phase : CyclePhase} (same : phase.cycle = (phases thread).cycle)
    (requested : phase.requested = true)
    (told : phase.run = some runId ∨ phase.run = none)
    (completed : phase.completed = (phases thread).completed)
    (called : phase.called = (phases thread).called) :
    Handed { ledger with runs, starting := true }
      (Function.update phases thread phase) := by
  have inside : (phases thread).cycle ≠ none := by
    rw [within]
    exact Option.some_ne_none cycle
  have unmade : ∀ run ∈ ledger.runs, run.creator ≠ some cycle := by
    intro run member creator
    have made := (handed.knows thread).made run member
      (by rw [creator]; rfl) (within.trans creator.symm)
    rw [unasked] at made
    cases made.1
  have kept : ∀ run ∈ ledger.runs, run ∈ runs := fun run member =>
    (Table.mem_insert? added).mpr (.inl member)
  refine handed.move ?_ ?_ ?_ fun _ => .inl inside
  · constructor
    · intro run member number creator
      rcases (Table.mem_insert? added).mp member with present | rfl
      · exact handed.books.numbered run present number creator
      · cases creator
        exact handed.books.current cycle
          ((handed.knows thread).running cycle within)
    · exact handed.books.current
    · exact handed.books.callNumbered
    · intro run member creator running idle
      cases idle
    · intro run member number number_called creator
      rcases (Table.mem_insert? added).mp member with present | rfl
      · exact handed.books.stopped run present number number_called creator
      · cases creator
        exact absurd number_called uncalled
    · intro known owned
      obtain ⟨run, member, identity, creator⟩ := handed.books.owned known owned
      exact ⟨run, kept run member, identity, creator⟩
    · intro entry member
      obtain ⟨run, made, rest⟩ := handed.books.foreign entry member
      exact ⟨run, kept run made, rest⟩
    · exact handed.books.returned
  · constructor
    · exact fun number known =>
        (handed.knows thread).running number (same.symm.trans known)
    · intro run member creator own
      refine ⟨requested, ?_⟩
      rcases (Table.mem_insert? added).mp member with present | rfl
      · exact absurd (own.symm.trans (same.trans within)) (unmade run present)
      · exact told.imp_right fun absent => ⟨absent, rfl⟩
    · intro known run
      refine ⟨_, (Table.mem_insert? added).mpr (.inr rfl), ?_, rfl,
        same.trans within⟩
      rcases told with here | absent
      · exact Option.some.inj (here.symm.trans run)
      · rw [absent] at run
        cases run
    · intro ended
      rw [completed] at ended
      obtain ⟨run, _, known, _⟩ := (handed.knows thread).ceased ended
      rw [(handed.knows thread).untold unasked] at known
      cases known
    · intro number known
      rw [called] at known
      exact (handed.knows thread).called number known
  · exact fun other differs => (handed.knows other).outside
      (handed.outside inside differs) fun _ member => member

theorem Handed.answered (handed : Handed ledger phases) {runId : UUID}
    (told : (phases thread).run = some runId) :
    Handed { ledger with
      ownedCollectionRunId := some runId
      starting := false } (Function.update phases thread (phases thread)) := by
  obtain ⟨run, member, identity, creator, own⟩ :=
    (handed.knows thread).told runId told
  have inside : (phases thread).cycle ≠ none := by
    rw [own]
    exact Option.isSome_iff_ne_none.mp creator
  -- The only run of the cycle is the one that the thread is told of.
  have only : ∀ other ∈ ledger.runs, other.creator.isSome →
      (phases thread).cycle = other.creator → other.id = runId := by
    intro other present author same
    rcases ((handed.knows thread).made other present author same).2 with
      here | ⟨absent, _⟩
    · exact Option.some.inj (here.symm.trans told)
    · rw [absent] at told
      cases told
  have current : ledger.cycle = (phases thread).cycle := by
    obtain ⟨cycle, within⟩ := Option.ne_none_iff_exists'.mp inside
    rw [within]
    exact (handed.knows thread).running cycle within
  refine handed.move ?_ ?_ ?_ fun _ => .inl inside
  · refine ⟨handed.books.numbered, handed.books.current,
      handed.books.callNumbered, ?_, handed.books.stopped, ?_,
      handed.books.foreign, handed.books.returned⟩
    · intro other present author same _
      exact .inr (congrArg some
        (only other present author (current.symm.trans same)).symm)
    · intro known owned
      cases owned
      exact ⟨run, member, identity, creator⟩
  · refine ⟨(handed.knows thread).running, ?_, (handed.knows thread).told,
      (handed.knows thread).ceased, (handed.knows thread).called⟩
    intro other present author same
    have made := (handed.knows thread).made other present author same
    refine ⟨made.1, .inl ?_⟩
    rw [told, only other present author same]
  · exact fun other differs => (handed.knows other).outside
      (handed.outside inside differs) fun _ member => member

theorem Handed.disowned (handed : Handed ledger phases)
    (completed : (phases thread).completed = true) :
    Handed { ledger with ownedCollectionRunId := none }
      (Function.update phases thread (phases thread)) := by
  obtain ⟨run, member, told, ceased⟩ := (handed.knows thread).ceased completed
  obtain ⟨other, otherMember, identity, creator, own⟩ :=
    (handed.knows thread).told run.id told
  have same : other = run := Table.eq_of_key_eq otherMember member identity
  subst same
  have inside : (phases thread).cycle ≠ none := by
    rw [own]
    exact Option.isSome_iff_ne_none.mp creator
  have current : ledger.cycle = (phases thread).cycle := by
    obtain ⟨cycle, within⟩ := Option.ne_none_iff_exists'.mp inside
    rw [within]
    exact (handed.knows thread).running cycle within
  refine handed.move ?_ ?_ ?_ fun _ => .inl inside
  · refine ⟨handed.books.numbered, handed.books.current,
      handed.books.callNumbered, ?_, handed.books.stopped, nofun,
      handed.books.foreign, handed.books.returned⟩
    intro made present author running idle
    rcases handed.books.held made present author running idle with stopped | _
    · exact .inl stopped
    · have known := ((handed.knows thread).made made present author
        (current.symm.trans running)).2
      rcases known with here | ⟨absent, _⟩
      · have identity : made.id = other.id :=
          Option.some.inj (here.symm.trans told)
        rw [Table.eq_of_key_eq present member identity]
        exact .inl (.inl ceased)
      · rw [absent] at told
        cases told
  · exact ⟨(handed.knows thread).running, (handed.knows thread).made,
      (handed.knows thread).told, (handed.knows thread).ceased,
      (handed.knows thread).called⟩
  · exact fun other differs => (handed.knows other).outside
      (handed.outside inside differs) fun _ member => member

theorem Handed.polled (handed : Handed ledger phases) {run : ServerRun}
    (member : run ∈ ledger.runs) (told : (phases thread).run = some run.id)
    (ceased : run.status.isActive = false) :
    Handed ledger (Function.update phases thread
      { phases thread with completed := true }) := by
  refine handed.move handed.books ?_ (fun other _ => handed.knows other) .inl
  exact ⟨(handed.knows thread).running, (handed.knows thread).made,
    (handed.knows thread).told, fun _ => ⟨run, member, told, ceased⟩,
    (handed.knows thread).called⟩

theorem Handed.cancelled (handed : Handed ledger phases)
    (idle : ledger.cycle.isSome → ledger.starting = false)
    (own : ∀ run ∈ ledger.runs, ledger.ownedCollectionRunId = some run.id →
      ledger.cycle.isSome → ledger.cycle = run.creator) :
    Handed { ledger with
        ownedCollectionRunId := none
        called := ledger.cycle.toList ++ ledger.called
        sent := (ledger.ownedCollectionRunId.toList.map (·, ledger.cycle)) ++
          ledger.sent }
      (Function.update phases thread
        { phases thread with called := some ledger.cycle }) := by
  have grown : ∀ cycle ∈ ledger.called,
      cycle ∈ ledger.cycle.toList ++ ledger.called :=
    fun cycle member => List.mem_append_right _ member
  -- The run of the cycle, if it goes on, is the one that is sent now.
  have sends : ∀ run ∈ ledger.runs, ledger.cycle.isSome →
      ledger.cycle = run.creator → run.status.isActive = false ∨
        run.id ∈ ((ledger.ownedCollectionRunId.toList.map (·, ledger.cycle)) ++
          ledger.sent).map (·.1) := by
    intro run member running same
    rcases handed.books.held run member (same ▸ running) same (idle running) with
      (ceased | sent) | owned
    · exact .inl ceased
    · right
      rw [List.map_append]
      exact List.mem_append_right _ sent
    · right
      rw [List.map_append, owned]
      exact List.mem_append_left _ List.mem_cons_self
  refine handed.move ?_ ?_ ?_ .inl
  · refine ⟨handed.books.numbered, handed.books.current, ?_, ?_, ?_, nofun, ?_,
      ?_⟩
    · intro cycle called
      rcases List.mem_append.mp called with here | before
      · exact handed.books.current cycle (Option.mem_toList.mp here)
      · exact handed.books.callNumbered cycle before
    · intro run member creator running _
      exact .inl (sends run member (running ▸ creator) running)
    · intro run member cycle called creator
      rcases List.mem_append.mp called with here | before
      · have running : ledger.cycle = some cycle := Option.mem_toList.mp here
        exact sends run member (by rw [running]; rfl)
          (running.trans creator.symm)
      · exact (handed.books.stopped run member cycle before creator).imp_right
          fun sent => by
            rw [List.map_append]
            exact List.mem_append_right _ sent
    · intro entry member
      rcases List.mem_append.mp member with here | before
      · obtain ⟨runId, owned, rfl⟩ := List.mem_map.mp here
        have held := Option.mem_toList.mp owned
        obtain ⟨run, present, identity, creator⟩ :=
          handed.books.owned runId held
        obtain ⟨author, made⟩ := Option.isSome_iff_exists.mp creator
        refine ⟨run, present, identity, author, made, fun cycle running => ?_⟩
        change ledger.cycle = some cycle at running
        have same := own run present (held.trans (congrArg some identity.symm))
          (by rw [running]; rfl)
        rw [running, made] at same
        exact Option.some.inj same
      · exact handed.books.foreign entry before
    · exact fun cycle returned => grown cycle (handed.books.returned cycle returned)
  · refine ⟨(handed.knows thread).running, (handed.knows thread).made,
      (handed.knows thread).told, (handed.knows thread).ceased, ?_⟩
    intro cycle called
    exact List.mem_append_left _ (Option.mem_toList.mpr (Option.some.inj called))
  · exact fun other _ => (handed.knows other).continues (continues_refl _) rfl
      rfl grown

theorem Handed.returned (handed : Handed ledger phases) {cycle : Option Nat}
    (met : (phases thread).called = some cycle) :
    Handed { ledger with returned := cycle.toList ++ ledger.returned }
      (Function.update phases thread (phases thread)) := by
  rw [Function.update_eq_self]
  have called : ∀ number ∈ cycle.toList ++ ledger.returned,
      number ∈ ledger.called := by
    intro number member
    rcases List.mem_append.mp member with here | before
    · apply (handed.knows thread).called number
      rw [met, Option.mem_toList.mp here]
    · exact handed.books.returned number before
  refine ⟨⟨handed.books.numbered, handed.books.current,
    handed.books.callNumbered, handed.books.held, handed.books.stopped,
    handed.books.owned, handed.books.foreign, called⟩, ?_, handed.single⟩
  exact fun other => (handed.knows other).continues (continues_refl _) rfl rfl
    fun _ member => member

theorem continues_insert {runs after : Table ServerRun UUID ServerRun.id}
    {runId : UUID}
    (added : runs.insert? ⟨runId, none, .queued⟩ = some after) :
    Continues runs after where
  forward := fun run member =>
    ⟨run, (Table.mem_insert? added).mpr (.inl member), rfl, rfl, id⟩
  backward := by
    intro run member creator
    rcases (Table.mem_insert? added).mp member with present | rfl
    · exact ⟨run, present, rfl, rfl, id⟩
    · cases creator

theorem continues_finished (runs : Table ServerRun UUID ServerRun.id)
    (runId : UUID) (status : CollectionRunStatus) :
    Continues runs
      (runs.map (finished runId status) (finished_id runId status)) := by
  have creator (run : ServerRun) :
      (finished runId status run).creator = run.creator := by
    unfold finished
    split <;> rfl
  have ceased (run : ServerRun) (ended : run.status.isActive = false) :
      (finished runId status run).status.isActive = false := by
    unfold finished
    rw [if_neg (by simp [ended])]
    exact ended
  constructor
  · intro run member
    exact ⟨_, Table.mem_map.mpr ⟨run, member, rfl⟩, finished_id _ _ run,
      creator run, ceased run⟩
  · intro run member _
    obtain ⟨earlier, present, rfl⟩ := Table.mem_map.mp member
    exact ⟨earlier, present, (finished_id _ _ earlier).symm,
      (creator earlier).symm, ceased earlier⟩

end

/-- A cancellation crosses the request for a run, or meets a run that an earlier
cycle has left. -/
def crosses (store : ControllerStore) : ControllerCall → Bool
  | .startCollection cycle _ => cycle ∈ store.called
  | .cancelOwned => store.cycle.isSome && (store.starting ||
      store.runs.rows.any fun run =>
        store.ownedCollectionRunId = some run.id && store.cycle ≠ run.creator)
  | _ => false

def uncrossed : Machine.CallCondition ControllerCall CyclePhase ControllerStore :=
  fun _ store _ input => crosses store input = false

instance (thread : ThreadId) (store : ControllerStore)
    (phases : ThreadId → CyclePhase) (input : ControllerCall) :
    Decidable (uncrossed thread store phases input) :=
  inferInstanceAs (Decidable (_ = false))

section

variable {build : ReserveBuild} {store after : ControllerStore}
variable {phases : ThreadId → CyclePhase} {thread : ThreadId}

theorem perform_handed (handed : Handed store.toLedger phases)
    {input : ControllerCall} {choice : ControllerChoice}
    {reply : Except ControllerFault (ControllerReply input)}
    (permitted : permitsCycle (phases thread) input)
    (guard : uncrossed thread store phases input)
    (performed : ControllerStore.perform build store choice input =
      some (after, reply)) :
    cycleProtocol.assumes (phases thread) input reply ∧
      Handed after.toLedger (Function.update phases thread
        (advanceCycle (phases thread) input reply)) := by
  have still : Function.update phases thread (phases thread) = phases :=
    Function.update_eq_self thread phases
  cases input with
  | join intent =>
      cases performed
      refine ⟨trivial, ?_⟩
      unfold ControllerStore.join
      split
      · change Handed _ (Function.update phases thread (phases thread))
        rw [still]
        exact handed
      · cases running : store.cycle with
        | some cycle =>
            change Handed _ (Function.update phases thread (phases thread))
            rw [still]
            exact handed
        | none => exact handed.started running
  | endCycle cycle =>
      cases performed
      exact ⟨trivial, handed.ended permitted⟩
  | startCollection cycle count =>
      obtain ⟨within, unasked⟩ := permitted
      have uncalled : cycle ∉ store.called := by
        simpa [uncrossed, crosses] using guard
      simp only [ControllerStore.perform, ControllerStore.startCollection]
        at performed
      refine ⟨trivial, ?_⟩
      split at performed
      · split at performed
        · cases performed
        · cases performed
          exact handed.asked within unasked
      · rename_i runId _
        obtain ⟨runs, added, shape⟩ := Option.map_eq_some_iff.mp performed
        cases shape
        cases choice.reply (.startCollection cycle count) with
        | ok _ =>
            exact handed.created within unasked uncalled added rfl rfl
              (.inl rfl) rfl rfl
        | error fault =>
            have untold := (handed.knows thread).untold unasked
            exact handed.created within unasked uncalled added rfl rfl
              (.inr untold) rfl rfl
  | own runId =>
      cases performed
      exact ⟨trivial, handed.answered permitted⟩
  | disown =>
      cases performed
      exact ⟨trivial, handed.disowned permitted⟩
  | getRun runId =>
      refine ⟨trivial, ?_⟩
      have unchanged : Handed store.toLedger
          (Function.update phases thread (phases thread)) := still.symm ▸ handed
      simp only [ControllerStore.perform] at performed
      split at performed
      · rename_i run _ found _
        cases performed
        obtain ⟨member, identity⟩ := Table.find?_eq_some.mp found
        cases status : run.status with
        | completed =>
            simp only [advanceCycle]
            split
            · rename_i own
              rw [← identity] at own
              exact handed.polled member own (by rw [status]; rfl)
            · exact unchanged
        | _ => exact unchanged
      · cases performed
        exact unchanged
      · cases performed
        exact unchanged
  | cancelOwned =>
      cases performed
      refine ⟨⟨_, rfl⟩, handed.cancelled ?_ ?_⟩
      · intro running
        simp only [uncrossed, crosses, running, Bool.true_and,
          Bool.or_eq_false_iff] at guard
        exact guard.1
      · intro run member owned running
        simp only [uncrossed, crosses, running, Bool.true_and,
          Bool.or_eq_false_iff, List.any_eq_false] at guard
        simpa [owned] using guard.2 run member
  | cancelReturned cycle =>
      cases performed
      exact ⟨trivial, handed.returned permitted⟩
  | createRun =>
      obtain ⟨runId, drawn, inserted⟩ := Option.bind_eq_some_iff.mp performed
      obtain ⟨runs, added, shape⟩ := Option.map_eq_some_iff.mp inserted
      cases shape
      refine ⟨trivial, ?_⟩
      change Handed _ (Function.update phases thread (phases thread))
      rw [still]
      exact handed.continues runs (continues_insert added)
  | finishRun runId status =>
      cases performed
      refine ⟨trivial, ?_⟩
      change Handed _ (Function.update phases thread (phases thread))
      rw [still]
      exact handed.continues _ (continues_finished _ _ _)
  | _ =>
      cases performed
      refine ⟨trivial, ?_⟩
      change Handed _ (Function.update phases thread (phases thread))
      rw [still]
      exact handed

/-- What the cancellations of reserve cycles leave. -/
structure Lawful (before : Config ControllerCall ControllerReply ControllerFault
    CyclePhase ControllerStore) (label : Label ControllerJob ControllerChoice)
    (after : Config ControllerCall ControllerReply ControllerFault CyclePhase
      ControllerStore) : Prop where
  /-- Once the cycle has ended and a cancellation of it has returned, each run
  made for it is over or was sent a cancellation. -/
  stopped : ∀ cycle ∈ after.shared.settled, cycle ∈ after.shared.returned →
    ∀ run ∈ after.shared.runs, run.creator = some cycle →
      run.status.isActive = false ∨ run.id ∈ after.shared.sent.map (·.1)
  /-- What is cancelled was made for a cycle, and for the one that runs. -/
  foreign : ∀ entry ∈ after.shared.sent, ∃ run ∈ after.shared.runs,
    run.id = entry.1 ∧ ∃ creator, run.creator = some creator ∧
      ∀ cycle, entry.2 = some cycle → cycle = creator

theorem Handed.lawful {before after : Config ControllerCall ControllerReply
    ControllerFault CyclePhase ControllerStore}
    {label : Label ControllerJob ControllerChoice}
    (handed : Handed after.shared.toLedger after.phases) :
    Lawful before label after where
  stopped := fun cycle _ returned run member creator =>
    handed.books.stopped run member cycle
      (handed.books.returned cycle returned) creator
  foreign := handed.books.foreign

def foreignRun (run : ServerRun) : ServerRun := { run with creator := none }

theorem foreignRun_id (run : ServerRun) : (foreignRun run).id = run.id := rfl

def fresh (runs : Table ServerRun UUID ServerRun.id)
    (snapshot : ReserveSnapshot) : ControllerStore where
  cycle := none
  cycles := 0
  ownedCollectionRunId := none
  starting := false
  runs := runs.map foreignRun foreignRun_id
  called := []
  sent := []
  settled := []
  returned := []
  aborter := none
  requestedWhileActive := none
  snapshot := snapshot

theorem fresh_handed (runs : Table ServerRun UUID ServerRun.id)
    (snapshot : ReserveSnapshot) :
    Handed (fresh runs snapshot).toLedger fun _ => {} := by
  have foreign : ∀ run ∈ (fresh runs snapshot).runs, run.creator = none := by
    intro run member
    have mapped : run ∈ runs.map foreignRun foreignRun_id := member
    obtain ⟨earlier, _, rfl⟩ := Table.mem_map.mp mapped
    rfl
  refine ⟨⟨?_, nofun, nofun, ?_, nofun, nofun, nofun, nofun⟩,
    fun _ => knows_idle _, fun _ _ inside => absurd rfl inside⟩
  · intro run member cycle creator
    rw [foreign run member] at creator
    cases creator
  · intro run member creator
    rw [foreign run member] at creator
    cases creator

end

def sampleSettings : LocalReserveRecord :=
  ⟨1, false, .integer 2, .integer 1, .integer 80, none, .none, 0⟩

def sampleReply :
    (input : ControllerCall) → Except ControllerFault (ControllerReply input)
  | .isAvailable | .isOnline => .ok true
  | .getStatus => .ok false
  | .now => .ok 0
  | .getSettings | .updateSettings _ => .ok sampleSettings
  | .getSnapshot => .ok ⟨[], none⟩
  | .estimate => .ok ⟨none, none⟩
  | .getCatalog => .ok []
  | .startCollection _ _ => .ok 7
  | .getRun _ => .ok .running
  | .normalization => .ok ⟨0, 0⟩
  | .enqueueReserveAndStart _ _ => .ok 0
  | .setIntent _ | .initializeQueue | .reconcile | .refreshFromStorage
  | .wait _ | .report _ | .cancelBatch => .ok ()
  | _ => .error .other

abbrev SampleLabel : Type := Label ControllerJob ControllerChoice

def answers (thread : ThreadId) : SampleLabel :=
  .step thread ⟨sampleReply, some 7⟩

def fails (thread : ThreadId) (fault : ControllerFault) : SampleLabel :=
  .step thread ⟨fun _ => .error fault, none⟩

def requesting : List SampleLabel :=
  .spawn 0 (.request .manual) :: List.replicate 20 (answers 0)

def cancelling : List SampleLabel :=
  .spawn 1 .cancel :: List.replicate 5 (answers 1)

def sampleStart : Config ControllerCall ControllerReply ControllerFault
    CyclePhase ControllerStore :=
  (controllerMachine ⟨false, false⟩).initial
    (fresh .empty ⟨.idle, none, 0, none⟩)

def pollingLabels : List SampleLabel :=
  requesting ++ List.replicate 4 (answers 0) ++ cancelling ++
    fails 0 .aborted :: List.replicate 4 (answers 0)

/-- The cancellation comes while the answer is on its way: the cycle stops, and
its run goes on. -/
def inFlightLabels : List SampleLabel :=
  requesting ++ cancelling ++ List.replicate 3 (answers 0) ++
    fails 0 .aborted :: List.replicate 5 (answers 0)

/-- A poll fails, and the next cycle waits for the run that was left. -/
def leftLabels : List SampleLabel :=
  requesting ++ List.replicate 3 (answers 0) ++ fails 0 .other ::
    List.replicate 5 (answers 0) ++
    .spawn 0 (.request .manual) :: List.replicate 17 (answers 0) ++
    .step 0 ⟨fun
      | .getStatus => .ok true
      | _ => .error .other, none⟩ :: .spawn 1 .cancel :: [answers 1]

def lawfulLedger (ledger : Ledger) : Bool :=
  (ledger.settled.all fun cycle => cycle ∉ ledger.returned ||
    ledger.runs.rows.all fun run => run.creator ≠ some cycle ||
      (!run.status.isActive || run.id ∈ ledger.sent.map (·.1))) &&
  ledger.sent.all fun entry => ledger.runs.rows.any fun run =>
    run.id = entry.1 && run.creator.any fun creator =>
      entry.2.all fun cycle => cycle = creator

theorem Lawful.ledger {before after : Config ControllerCall ControllerReply
    ControllerFault CyclePhase ControllerStore} {label : SampleLabel}
    (lawful : Lawful before label after) :
    lawfulLedger after.shared.toLedger = true := by
  simp only [lawfulLedger, Bool.and_eq_true, List.all_eq_true,
    Bool.or_eq_true, decide_eq_true_eq, List.any_eq_true, Option.any_eq_true,
    Option.all_eq_true, Bool.not_eq_true']
  constructor
  · intro cycle settled
    by_cases returned : cycle ∈ after.shared.returned
    · right
      intro run member
      by_cases creator : run.creator = some cycle
      · exact .inr (lawful.stopped cycle settled returned run member creator)
      · exact .inl creator
    · exact .inl returned
  · intro entry member
    obtain ⟨run, made, identity, creator, author, own⟩ :=
      lawful.foreign entry member
    exact ⟨run, made, identity, creator, author, own⟩

end OfflineReels.Offline.ReserveController
