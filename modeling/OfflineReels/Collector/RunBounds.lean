import OfflineReels.Collector.CollectRules

namespace OfflineReels.Collector.RunBounds

open OfflineReels.Foundation
open OfflineReels.Foundation.Program
open OfflineReels.Instagram
open OfflineReels.Collector.CollectorEngine

/-! The limits of a collection, counted in the calls on its ports.  The phase
is the count so far, so nothing is assumed of any port. -/

abbrev PortEvent : Type := Event EngineCall EngineReply CollectorFault

/-- Counts of port calls.  A transition counts from its first input to the feed
on, not from where the engine counts it: the time may be up before any input.
It lasts until it is confirmed. -/
structure Tally where
  calls : Nat := 0
  advances : Nat := 0
  current : Nat := 0
  longest : Nat := 0
  attempted : Nat := 0
  moving : Bool := false
  confirmed : Nat := 0
  observed : Nat := 0
  committedBytes : Nat := 0
  deriving DecidableEq, Repr

def Tally.input (tally : Tally) : Tally :=
  { tally with
    attempted := tally.attempted + if tally.moving then 0 else 1
    moving := true }

def Tally.advance (tally : Tally) : Tally :=
  { tally.input with
    advances := tally.advances + 1
    current := tally.current + 1
    longest := max tally.longest (tally.current + 1) }

def Tally.confirm (tally : Tally) : Tally :=
  { tally with
    confirmed := tally.confirmed + 1
    current := 0
    moving := false }

/-- A commit counts whether or not it raises. -/
def Tally.note (tally : Tally) (request : EngineCall) : Tally :=
  let called := { tally with calls := tally.calls + 1 }
  match request with
  | .advance => called.advance
  | .nextFromAuthenticatedFeed _ _ => called.input
  | .record _ .transitionConfirmed => called.confirm
  | .pauseCurrent => { called with observed := called.observed + 1 }
  | .commitSource _ _ source _ =>
      { called with committedBytes := called.committedBytes + source.byteSize }
  | _ => called

def tally (history : List PortEvent) : Tally :=
  history.foldl (fun counted event => counted.note event.request) {}

structure Bounded (limits : CollectorLimits) (counted : Tally) : Prop where
  scrollActions : ∀ limit ∈ limits.maxScrollActions, counted.advances ≤ limit
  gestures : counted.longest ≤ 2
  transitions : ∀ limit ∈ limits.maxTransitionOperations,
    counted.attempted ≤ limit
  advances : counted.confirmed ≤ limits.maxAdvances
  observations : ∀ limit ∈ limits.maxObservations, counted.observed ≤ limit
  runBytes : ∀ limit ∈ limits.maxRunBytes, counted.committedBytes ≤ limit

structure Fits (limits : CollectorLimits) (counts : Counts) : Prop where
  advances : counts.confirmedAdvances ≤ limits.maxAdvances
  observations : ∀ limit ∈ limits.maxObservations, counts.observations ≤ limit

def tallying : Protocol EngineCall EngineReply CollectorFault Tally where
  permits := fun _ _ => True
  assumes := fun _ _ _ => True
  advance := fun counted request _ => counted.note request

def Tally.calling (counted : Tally) (calls : Nat) : Tally :=
  { counted with calls := calls }

def Idles {α : Type} (most : Nat) (program : EngineProgram α)
    (returns : α → Prop) : Prop :=
  ∀ counted, Follows tallying counted program fun outcome reached =>
    reached.calls ≤ counted.calls + most ∧
      reached = counted.calling reached.calls ∧
      ∀ value, outcome = .ok value → returns value

def isIdle : EngineCall → Bool
  | .advance => false
  | .nextFromAuthenticatedFeed _ _ => false
  | .record _ .transitionConfirmed => false
  | .pauseCurrent => false
  | .commitSource _ _ _ _ => false
  | _ => true

theorem note_idle {request : EngineCall} (idle : isIdle request = true)
    (counted : Tally) :
    counted.note request = counted.calling (counted.calls + 1) := by
  cases request with
  | record position event => cases event <;> first | rfl | cases idle
  | _ => first | rfl | cases idle

section

variable {α β Locals : Type} {first second most : Nat}
variable {returns middle : α → Prop} {after : β → Prop}

theorem idles_done {result : Except CollectorFault α}
    (holds : ∀ value, result = .ok value → returns value) :
    Idles most (done result) returns :=
  fun _ => ⟨Nat.le_add_right _ _, rfl, holds⟩

theorem idles_pure {value : α} (holds : returns value) :
    Idles most (pure value) returns := by
  apply idles_done
  intro other same
  cases same
  exact holds

theorem idles_raise {fault : CollectorFault} :
    Idles most (raise fault : EngineProgram α) returns := by
  apply idles_done
  intro value same
  cases same

theorem idles_ask {request : EngineCall} (idle : isIdle request = true)
    {returns : EngineReply request → Prop} (holds : ∀ value, returns value) :
    Idles 1 (ask request) returns := by
  intro counted
  have same := note_idle idle counted
  refine ⟨trivial, fun reply _ => ⟨?_, ?_, fun value _ => holds value⟩⟩
  · change (counted.note request).calls ≤ counted.calls + 1
    rw [same]
    exact le_rfl
  · change counted.note request =
      counted.calling (counted.note request).calls
    rw [same]
    rfl

theorem Idles.mono {program : EngineProgram α} {weaker : α → Prop}
    (idles : Idles first program returns) (fewer : first ≤ second)
    (weaken : ∀ value, returns value → weaker value) :
    Idles second program weaker := by
  intro counted
  apply (idles counted).mono
  intro outcome reached holds
  exact ⟨by omega, holds.2.1, fun value same =>
    weaken value (holds.2.2 value same)⟩

theorem Idles.attempt {program : EngineProgram α}
    {next : Except CollectorFault α → EngineProgram β}
    (body : Idles first program returns)
    (continues : ∀ outcome, (∀ value, outcome = .ok value → returns value) →
      Idles second (next outcome) after) :
    Idles (second + first) (program.attempt next) after := by
  intro counted
  apply (body counted).attempt
  intro outcome reached holds
  apply (continues outcome holds.2.2 reached).mono
  intro last ended kept
  refine ⟨by omega, ?_, kept.2.2⟩
  have same := kept.2.1
  rw [holds.2.1] at same
  exact same

theorem Idles.bind {program : EngineProgram α} {next : α → EngineProgram β}
    (body : Idles first program returns)
    (continues : ∀ value, returns value → Idles second (next value) after) :
    Idles (second + first) (program >>= next) after := by
  apply body.attempt
  intro outcome holds
  cases outcome with
  | ok value => exact continues value (holds value rfl)
  | error fault => exact idles_raise

theorem Idles.rescue {program : EngineProgram α}
    {selects : CollectorFault → Bool}
    {handler : CollectorFault → EngineProgram α}
    (body : Idles first program returns)
    (handles : ∀ fault, Idles second (handler fault) returns) :
    Idles (second + first) (program.rescue selects handler) returns := by
  apply body.attempt
  intro outcome holds
  cases outcome with
  | ok value => exact idles_done fun _ same => by cases same; exact holds _ rfl
  | error fault =>
      dsimp only
      split
      · exact handles fault
      · exact idles_raise

theorem idles_swallow {statement : EngineProgram Unit}
    (body : Idles most statement fun _ => True) :
    Idles most (swallow statement) fun _ => True := by
  have handles : ∀ fault : CollectorFault,
      Idles 0 (pure () : EngineProgram Unit) fun _ => True :=
    fun _ => idles_pure trivial
  exact (body.rescue handles).mono (by omega) fun _ holds => holds

theorem Idles.before {program : EngineProgram α}
    {next : Except CollectorFault α → EngineProgram β}
    {counted : Tally} {start base : Nat}
    {post : Except CollectorFault β → Tally → Prop}
    (idles : Idles most program returns) (within : start ≤ base)
    (continues : ∀ outcome calls, calls ≤ base + most →
      (∀ value, outcome = .ok value → returns value) →
      Follows tallying (counted.calling calls) (next outcome) post) :
    Follows tallying (counted.calling start) (program.attempt next) post := by
  apply (idles (counted.calling start)).attempt
  intro outcome reached holds
  obtain ⟨few, same, returned⟩ := holds
  rw [same]
  exact continues outcome _ (le_trans few (Nat.add_le_add_right within most))
    returned

theorem Idles.keeping {statement : EngineProgram α} {locals : Locals}
    {next : α → EngineProgram (Except (Interrupted Locals) β)}
    {counted : Tally} {start base : Nat}
    {post : Except CollectorFault (Except (Interrupted Locals) β) →
      Tally → Prop}
    (idles : Idles most statement returns) (within : start ≤ base)
    (continues : ∀ value calls, calls ≤ base + most → returns value →
      Follows tallying (counted.calling calls) (next value) post)
    (raised : ∀ fault calls, calls ≤ base + most →
      post (.ok (.error ⟨fault, locals⟩)) (counted.calling calls)) :
    Follows tallying (counted.calling start) (keeping locals statement next)
      post := by
  apply idles.before within
  intro outcome calls few returned
  cases outcome with
  | ok value => exact continues value calls few (returned value rfl)
  | error fault => exact raised fault calls few

theorem Idles.opening {program : EngineProgram α} {next : α → EngineProgram β}
    {counted : Tally} {start base : Nat}
    {post : Except CollectorFault β → Tally → Prop}
    (idles : Idles most program returns) (within : start ≤ base)
    (continues : ∀ value calls, calls ≤ base + most → returns value →
      Follows tallying (counted.calling calls) (next value) post)
    (raised : ∀ fault calls, calls ≤ base + most →
      post (.error fault) (counted.calling calls)) :
    Follows tallying (counted.calling start) (program >>= next) post := by
  rw [bind_eq_attempt]
  apply idles.before within
  intro outcome calls few returned
  cases outcome with
  | ok value => exact continues value calls few (returned value rfl)
  | error fault => exact raised fault calls few

end

theorem recorded_idles (position : Nat) (event : EventName)
    (still : event ≠ .transitionConfirmed) :
    Idles 2 (recorded position event) fun _ => True := by
  have idle : isIdle (.record position event) = true := by
    cases event <;> first | rfl | exact absurd rfl still
  have asked : Idles 1 (ask (.record position event)) fun _ => True :=
    idles_ask idle fun _ => trivial
  apply asked.attempt
  intro outcome _
  cases outcome with
  | ok value => exact idles_pure trivial
  | error fault =>
      cases fault with
      | typeError => exact idles_swallow (idles_ask rfl fun _ => trivial)
      | keyboardInterrupt => exact idles_raise
      | baseException => exact idles_raise
      | _ => exact idles_pure trivial

theorem deadlineExpired_idles (deadline : Option Int) :
    Idles 1 (deadlineExpired deadline) fun _ => True := by
  cases deadline with
  | none => exact idles_pure trivial
  | some deadline =>
      have asked : Idles 1 (ask .clock) fun _ => True :=
        idles_ask rfl fun _ => trivial
      have returns : ∀ now : Int, True →
          Idles 0 (pure (decide (deadline ≤ now)) : EngineProgram Bool)
            fun _ => True := fun _ _ => idles_pure trivial
      exact asked.bind returns

theorem requireDeadline_idles (deadline : Option Int) :
    Idles 1 (requireDeadline deadline) fun _ => True := by
  have decides : ∀ expired : Bool, True → Idles 0
      (if expired then raise .collectorDeadlineExceeded else pure () :
        EngineProgram Unit) fun _ => True := by
    intro expired _
    cases expired with
    | true => exact idles_raise
    | false => exact idles_pure trivial
  exact (deadlineExpired_idles deadline).bind decides

theorem raiseIfCancelRequested_idles (engine : CollectorEngine)
    (runId : UUID) :
    Idles 1 (raiseIfCancelRequested engine runId) fun _ => True := by
  have decides : ∀ requested : Bool, True → Idles 0
      (if requested then raise .keyboardInterrupt else pure () :
        EngineProgram Unit) fun _ => True := by
    intro requested _
    cases requested with
    | true => exact idles_raise
    | false => exact idles_pure trivial
  have asked : Idles 1 (ask (.cancellationRequested runId)) fun _ => True :=
    idles_ask rfl fun _ => trivial
  unfold raiseIfCancelRequested
  split
  · exact asked.bind decides
  · exact idles_pure trivial

theorem waitForNext_idles (shortcode : String) :
    Idles 2 (waitForNext shortcode) fun _ => True := by
  have asked : ∀ shouldStop, Idles 1
      (ask (.waitForNext shortcode shouldStop)) fun _ => True :=
    fun _ => idles_ask rfl fun _ => trivial
  exact (asked true).rescue fun _ => asked false

theorem safeFailRun_idles (runId : UUID) (reasonCode : String) :
    Idles 1 (safeFailRun runId reasonCode) fun _ => True :=
  idles_swallow (idles_ask rfl fun _ => trivial)

theorem safeCancelRun_idles (runId : UUID) :
    Idles 1 (safeCancelRun runId) fun _ => True := by
  have asked : Idles 1 (ask (.cancelRun runId "CANCELLED_BY_USER"))
      fun _ => True := idles_ask rfl fun _ => trivial
  have returns : ∀ _ : CancelRunOutcome, True →
      Idles 0 (pure () : EngineProgram Unit) fun _ => True :=
    fun _ _ => idles_pure trivial
  exact idles_swallow (asked.bind returns)

theorem cleanupTemporary_idles (path : TemporaryPath) :
    Idles 1 (cleanupTemporary path) fun _ => True :=
  idles_swallow (idles_ask rfl fun _ => trivial)

def reported (summary : CollectorSummary) : Counts where
  confirmedAdvances := summary.confirmedAdvances
  observations := summary.observations
  duplicateSkippedCount := summary.duplicateSkippedCount

def Reports (counts : Counts) (summary : CollectorSummary) : Prop :=
  reported summary = counts

def Closes (limits : CollectorLimits) (most : Nat)
    (outcome : Except CollectorFault Exit) (reached : Tally) : Prop :=
  reached.calls ≤ most ∧ Bounded limits reached ∧
    match outcome with
    | .ok (.ok summary) => Fits limits (reported summary)
    | .ok (.error interrupted) => Fits limits interrupted.locals
    | .error _ => True

theorem Bounded.calling {limits : CollectorLimits} {counted : Tally}
    (bounded : Bounded limits counted) (calls : Nat) :
    Bounded limits (counted.calling calls) where
  scrollActions := bounded.scrollActions
  gestures := bounded.gestures
  transitions := bounded.transitions
  advances := bounded.advances
  observations := bounded.observations
  runBytes := bounded.runBytes

section

variable {runId : UUID} {counts : Counts}

theorem summarize_idles (targetCount : Nat) (reason : Option String)
    (status : CollectionRunStatus) :
    Idles 1 (summarize runId targetCount counts reason status)
      (Reports counts) := by
  have asked : Idles 1 (ask (.summary runId)) fun _ => True :=
    idles_ask rfl fun _ => trivial
  have handles : ∀ fault : CollectorFault, Idles 0
      (pure (0, 0, 0, status) :
        EngineProgram (EngineReply (.summary runId))) fun _ => True :=
    fun _ => idles_pure trivial
  have read : Idles 1
      ((ask (.summary runId)).rescue CollectorFault.isException
        fun _ => pure (0, 0, 0, status)) fun _ => True := asked.rescue handles
  unfold summarize
  apply read.bind
  rintro ⟨committed, available, failed, _⟩ _
  exact idles_pure rfl

theorem failed_idles (targetCount : Nat) (stored : String)
    (reason : Option String) :
    Idles 2 (do
        safeFailRun runId stored
        summarize runId targetCount counts reason .failed)
      (Reports counts) := by
  apply (safeFailRun_idles runId stored).bind
  intro _ _
  exact summarize_idles targetCount reason .failed

theorem cancelled_idles (targetCount : Nat) (reason : Option String) :
    Idles 2 (do
        safeCancelRun runId
        summarize runId targetCount counts reason .cancelled)
      (Reports counts) := by
  apply (safeCancelRun_idles runId).bind
  intro _ _
  exact summarize_idles targetCount reason .cancelled

theorem complete_idles (request : CollectRequest) :
    Idles 3 (complete request runId counts) (Reports counts) := by
  unfold complete
  apply @Idles.attempt _ _ 1 2 fun _ => True
  · split
    · exact idles_ask rfl fun _ => trivial
    · have asked : Idles 1 (ask (.completeRun runId)) fun _ => True :=
        idles_ask rfl fun _ => trivial
      apply asked.bind
      intro _ _
      exact idles_pure trivial
  · intro outcome _
    cases outcome with
    | ok finished =>
        cases finished with
        | true =>
            exact (summarize_idles _ _ _).mono (by omega) fun _ holds => holds
        | false => exact failed_idles _ _ _
    | error fault =>
        dsimp only
        split
        · exact failed_idles _ _ _
        · exact idles_raise

theorem handleFault_idles (request : CollectRequest)
    (interrupted : Interrupted Counts) :
    Idles 2 (handleFault request runId interrupted)
      (Reports interrupted.locals) := by
  unfold handleFault
  dsimp only
  split
  · exact failed_idles _ _ _
  · exact cancelled_idles _ _
  · exact idles_raise
  · split
    · exact cancelled_idles _ _
    · exact failed_idles _ _ _

variable {limits : CollectorLimits} {counted : Tally} {most : Nat}

theorem summary_closes {program : EngineProgram CollectorSummary}
    {spent : Nat} (idles : Idles spent program (Reports counts))
    (bounded : Bounded limits counted) (fits : Fits limits counts)
    (within : counted.calls + spent ≤ most) :
    Follows tallying counted
      (keeping counts program fun summary => pure (.ok summary))
      (Closes limits most) := by
  apply idles.keeping (le_refl counted.calls)
  · intro summary calls few reports
    refine ⟨le_trans few within, bounded.calling calls, ?_⟩
    change Fits limits (reported summary)
    rw [reports]
    exact fits
  · intro fault calls few
    exact ⟨le_trans few within, bounded.calling calls, fits⟩

theorem stop_closes (request : CollectRequest) (reason : String)
    (bounded : Bounded limits counted) (fits : Fits limits counts)
    (within : counted.calls + 2 ≤ most) :
    Follows tallying counted (stop request runId counts reason)
      (Closes limits most) :=
  summary_closes (failed_idles _ _ _) bounded fits within

end

section

variable {limits : CollectorLimits} {counted : Tally}
variable {engine : CollectorEngine} {runId : UUID}

def Paid (engine : CollectorEngine) (progress : Progress) (counted : Tally)
    (most bytes : Nat) (reached : Tally) : Prop :=
  reached.calls ≤ counted.calls + most ∧
    reached = { counted with
      calls := reached.calls
      committedBytes := counted.committedBytes + bytes } ∧
    ∀ limit ∈ engine.limits.maxRunBytes,
      progress.committedBytes + bytes ≤ limit

theorem paid_nothing {progress : Progress} {calls most : Nat}
    (few : calls ≤ counted.calls + most)
    (affordable : ∀ limit ∈ engine.limits.maxRunBytes,
      progress.committedBytes ≤ limit) :
    Paid engine progress counted most 0 (counted.calling calls) :=
  ⟨few, rfl, affordable⟩

theorem Paid.mono {progress : Progress} {reached : Tally}
    {most more bytes : Nat}
    (paid : Paid engine progress counted most bytes reached)
    (fewer : most ≤ more) : Paid engine progress counted more bytes reached :=
  ⟨le_trans paid.1 (Nat.add_le_add_left fewer _), paid.2⟩

theorem Paid.calling {progress : Progress} {reached : Tally}
    {calls most bytes more : Nat}
    (paid : Paid engine progress counted most bytes reached)
    (few : calls ≤ reached.calls + more) :
    Paid engine progress counted (most + more) bytes
      (reached.calling calls) := by
  obtain ⟨within, same, affordable⟩ := paid
  refine ⟨?_, ?_, affordable⟩
  · change calls ≤ _
    omega
  · rw [same]
    rfl

theorem acquireStatements_paid (deadline : Option Int) {progress : Progress}
    (temporary : TemporaryPath)
    (affordable : ∀ limit ∈ engine.limits.maxRunBytes,
      progress.committedBytes ≤ limit) :
    Follows tallying counted
      (acquireStatements engine runId deadline progress temporary)
      fun outcome reached => ∃ bytes,
        Paid engine progress counted 20 bytes reached ∧
          ∀ value, outcome = .ok (.ok value) → value = bytes := by
  have cancel := raiseIfCancelRequested_idles engine runId
  have timely := requireDeadline_idles deadline
  have event : ∀ name, name ≠ .transitionConfirmed →
      Idles 2 (recorded progress.position name) fun _ => True :=
    recorded_idles progress.position
  -- Up to the commit a fault leaves the bytes as they were.
  have early : ∀ {calls : Nat} {locals : Acquiring} {fault : CollectorFault},
      calls ≤ counted.calls + 20 → ∃ bytes,
        Paid engine progress counted 20 bytes (counted.calling calls) ∧
          ∀ value, (.ok (.error ⟨fault, locals⟩) :
            Except CollectorFault (Except (Interrupted Acquiring) Nat)) =
              .ok (.ok value) → value = bytes := by
    intro calls locals fault few
    refine ⟨0, paid_nothing few affordable, ?_⟩
    intro value same
    cases same
  unfold acquireStatements
  apply cancel.keeping (le_refl counted.calls) _ fun _ _ few =>
    early (by omega)
  intro _ _ few _
  apply timely.keeping few _ fun _ _ few => early (by omega)
  intro _ _ few _
  have downloads : Idles 1 (ask (.download progress.candidate temporary))
      fun _ => True := idles_ask rfl fun _ => trivial
  apply downloads.keeping few _ fun _ _ few => early (by omega)
  intro _ _ few _
  apply (event .download (by decide)).keeping few _ fun _ _ few => early (by omega)
  intro _ _ few _
  apply timely.keeping few _ fun _ _ few => early (by omega)
  intro _ _ few _
  have validates : Idles 1 (ask (.validate temporary)) fun _ => True :=
    idles_ask rfl fun _ => trivial
  apply validates.keeping few _ fun _ _ few => early (by omega)
  intro source _ few _
  apply (event .validation (by decide)).keeping few _
    fun _ _ few => early (by omega)
  intro _ _ few _
  apply timely.keeping few _ fun _ _ few => early (by omega)
  intro _ _ few _
  split
  · exact early (by omega)
  rename_i within
  apply cancel.keeping few _ fun _ _ few => early (by omega)
  intro _ _ few _
  apply timely.keeping few _ fun _ _ few => early (by omega)
  intro _ _ few _
  have names : Idles 0 (ofExcept (sourceObjectKey progress.candidate.shortcode))
      fun _ => True := idles_done fun _ _ => trivial
  apply names.keeping few _ fun _ _ few => early (by omega)
  intro objectKey _ few _
  have publishes : Idles 1 (ask (.publish temporary objectKey)) fun _ => True :=
    idles_ask rfl fun _ => trivial
  apply publishes.keeping few _ fun _ _ few => early (by omega)
  intro published _ few _
  apply (event .publication (by decide)).keeping few _ fun _ _ few =>
    early (by omega)
  intro _ _ few _
  apply timely.keeping few _ fun _ _ few => early (by omega)
  intro _ calls few _
  -- From the commit on the bytes count, whatever follows.
  have paid : ∀ {reached : Nat}, reached ≤ counted.calls + 20 →
      Paid engine progress counted 20 source.byteSize
        ({ counted with
          committedBytes := counted.committedBytes + source.byteSize
          }.calling reached) := by
    intro reached few
    refine ⟨few, rfl, ?_⟩
    intro limit member
    rw [Option.mem_def.mp member, Option.any_some, decide_eq_true_eq] at within
    exact Nat.le_of_not_lt within
  refine follows_attempt.mpr ⟨trivial, fun reply _ => ?_⟩
  change Follows tallying
    ({ counted with
      committedBytes := counted.committedBytes + source.byteSize
      }.calling (calls + 1)) _ _
  have fewer : calls + 1 ≤ counted.calls + 17 := by omega
  cases reply with
  | error fault =>
      refine ⟨source.byteSize, paid (by omega), ?_⟩
      intro value same
      cases same
  | ok _ =>
      apply (event .dbCommit (by decide)).keeping fewer
      · intro _ _ few _
        apply timely.keeping few
        · intro _ _ few _
          refine ⟨source.byteSize, paid (by omega), ?_⟩
          intro value same
          cases same
          rfl
        · intro fault _ few
          refine ⟨source.byteSize, paid (by omega), ?_⟩
          intro value same
          cases same
      · intro fault _ few
        refine ⟨source.byteSize, paid (by omega), ?_⟩
        intro value same
        cases same

theorem compensate_idles (acquiring : Acquiring) :
    Idles 1 (compensate acquiring) fun _ => True := by
  unfold compensate
  split
  · exact idles_pure trivial
  · rename_i objectKey _
    have asked : Idles 1 (ask (.delete objectKey)) fun _ => True :=
      idles_ask rfl fun _ => trivial
    have deleted : Idles 1
        (do ask (.delete objectKey); return false : EngineProgram Bool)
        fun _ => True := by
      apply asked.bind
      intro _ _
      exact idles_pure trivial
    apply deleted.rescue
    intro fault
    exact idles_pure trivial

theorem handleAcquisitionFault_idles {candidate : ReelCandidate}
    (interrupted : Interrupted Acquiring) :
    Idles 2 (handleAcquisitionFault runId candidate interrupted)
      fun outcome => ∀ bytes, outcome ≠ .ok bytes := by
  have compensated := compensate_idles interrupted.locals
  have refuses : ∀ reason : String, Idles 0
      (pure (.error reason) : EngineProgram (Except String Nat))
      fun outcome => ∀ bytes, outcome ≠ .ok bytes :=
    fun _ => idles_pure fun _ same => by cases same
  unfold handleAcquisitionFault
  dsimp only
  split
  · apply compensated.bind
    intro _ _
    exact idles_raise
  · exact idles_raise
  · apply compensated.bind
    intro failed _
    split
    · exact (refuses _).mono (by omega) fun _ holds => holds
    · have asked : ∀ reason attempted, Idles 1
          (ask (.recordFailure runId candidate reason attempted))
          fun _ => True := fun _ _ => idles_ask rfl fun _ => trivial
      apply (idles_swallow (asked _ _)).bind
      intro _ _
      exact refuses _

theorem acquire_paid (deadline : Option Int) {progress : Progress}
    (affordable : ∀ limit ∈ engine.limits.maxRunBytes,
      progress.committedBytes ≤ limit) :
    Follows tallying counted (acquire engine runId deadline progress)
      fun outcome reached => ∃ bytes,
        Paid engine progress counted 24 bytes reached ∧
          ∀ value, outcome = .ok (.ok value) → value = bytes := by
  have named : Idles 1 (ask (.temporaryPath progress.candidate.shortcode))
      fun _ => True := idles_ask rfl fun _ => trivial
  unfold acquire
  apply named.opening (le_refl counted.calls)
  · intro temporary calls few _
    refine Follows.ensure (?_ : Follows tallying (counted.calling calls) _
      fun outcome reached => ∃ bytes,
        Paid engine progress (counted.calling calls) 22 bytes reached ∧
          ∀ value, outcome = .ok (.ok value) → value = bytes) ?_
    · apply (acquireStatements_paid deadline temporary affordable).bind
      · intro outcome reached holds
        obtain ⟨bytes, paid, same⟩ := holds
        cases outcome with
        | ok value =>
            refine ⟨bytes, paid.mono (by omega), ?_⟩
            intro other returned
            cases returned
            exact same value rfl
        | error interrupted =>
            apply (handleAcquisitionFault_idles interrupted reached).mono
            intro outcome last handled
            obtain ⟨few, unpaid, refused⟩ := handled
            refine ⟨bytes, unpaid ▸ paid.calling few, ?_⟩
            intro value returned
            exact absurd rfl (refused _ returned value)
      · intro fault reached holds
        obtain ⟨bytes, paid, _⟩ := holds
        refine ⟨bytes, paid.mono (by omega), ?_⟩
        intro value same
        cases same
    · intro outcome reached holds
      obtain ⟨bytes, paid, returned⟩ := holds
      apply (cleanupTemporary_idles temporary reached).mono
      intro cleaned last handled
      obtain ⟨fewer, unpaid, _⟩ := handled
      have kept : Paid engine progress counted 24 bytes last := by
        rw [unpaid]
        obtain ⟨within, same, affordable⟩ := paid.calling fewer
        refine ⟨?_, same, affordable⟩
        change last.calls ≤ _
        change last.calls ≤ calls + 23 at within
        omega
      cases cleaned with
      | ok _ => exact ⟨bytes, kept, returned⟩
      | error fault =>
          refine ⟨bytes, kept, ?_⟩
          intro value same
          cases same
  · intro fault calls few
    refine ⟨0, paid_nothing (by omega) affordable, ?_⟩
    intro value same
    cases same

theorem process_paid (deadline : Option Int) {progress : Progress}
    (owned : Bool) (status : Option ReelPipelineStatus)
    (affordable : ∀ limit ∈ engine.limits.maxRunBytes,
      progress.committedBytes ≤ limit) :
    Follows tallying counted
      (process engine runId deadline progress owned status)
      fun outcome reached => ∃ bytes,
        Paid engine progress counted 24 bytes reached ∧
          ∀ processed, outcome = .ok (.ok processed) →
            processed = { progress with
              committedBytes := progress.committedBytes + bytes } := by
  have still : ∀ {program : EngineProgram (Except String Progress)},
      Idles 24 program (fun outcome => ∀ processed, outcome = .ok processed →
        processed = progress) →
      Follows tallying counted program fun outcome reached => ∃ bytes,
        Paid engine progress counted 24 bytes reached ∧
          ∀ processed, outcome = .ok (.ok processed) →
            processed = { progress with
              committedBytes := progress.committedBytes + bytes } := by
    intro program idles
    apply (idles counted).mono
    intro outcome reached holds
    obtain ⟨few, same, returned⟩ := holds
    refine ⟨0, ?_, fun processed made => returned _ made processed rfl⟩
    rw [same]
    exact paid_nothing few affordable
  have returns : Idles 0
      (pure (.ok progress) : EngineProgram (Except String Progress))
      fun outcome => ∀ processed, outcome = .ok processed →
        processed = progress := by
    apply idles_pure
    intro processed same
    cases same
    rfl
  unfold process
  split
  · apply still
    have skipped :=
      recorded_idles progress.position .duplicateSkipped (by decide)
    apply (skipped.bind fun _ _ => returns).mono (by omega)
    exact fun _ holds => holds
  split
  · apply still
    have asked : Idles 1 (ask (.commitAvailable runId progress.candidate))
        fun _ => True := idles_ask rfl fun _ => trivial
    have committed : Idles 1
        (do
          ask (.commitAvailable runId progress.candidate)
          return true : EngineProgram Bool) fun _ => True := by
      apply asked.bind
      intro _ _
      exact idles_pure trivial
    have tried : Idles 1
        ((do
          ask (.commitAvailable runId progress.candidate)
          return true : EngineProgram Bool).rescue
            CollectorFault.isException fun _ => pure false)
        fun _ => True := by
      apply committed.rescue
      intro fault
      exact idles_pure trivial
    have decided : ∀ stored : Bool, True → Idles 2
        (if stored then do
            recorded progress.position .dbCommit
            return .ok progress
          else return .error "DATABASE_WRITE_FAILED" :
          EngineProgram (Except String Progress))
        fun outcome => ∀ processed, outcome = .ok processed →
          processed = progress := by
      intro stored _
      cases stored with
      | true =>
          apply (recorded_idles progress.position .dbCommit (by decide)).bind
          intro _ _
          exact returns
      | false =>
          apply idles_pure
          intro processed same
          cases same
    exact (tried.bind decided).mono (by omega) fun _ holds => holds
  · apply (acquire_paid deadline affordable).bind
    · intro outcome reached holds
      obtain ⟨bytes, paid, returned⟩ := holds
      cases outcome with
      | ok value =>
          refine ⟨bytes, paid, fun processed same => ?_⟩
          cases same
          rw [returned value rfl]
      | error reason =>
          refine ⟨bytes, paid, fun processed same => ?_⟩
          cases same
    · intro fault reached holds
      obtain ⟨bytes, paid, _⟩ := holds
      refine ⟨bytes, paid, fun processed same => ?_⟩
      cases same

end

def Tally.under (counted : Tally) (made : Nat) (moved : Bool) (calls : Nat) :
    Tally :=
  { counted with
    calls := calls
    advances := counted.advances + made
    current := made
    longest := max counted.longest made
    attempted := counted.attempted + if moved then 1 else 0
    moving := moved }

theorem under_start {counted : Tally} (still : counted.current = 0)
    (settled : counted.moving = false) (calls : Nat) :
    counted.under 0 false calls = counted.calling calls := by
  obtain ⟨_, advances, current, longest, attempted, moving, _, _, _⟩ := counted
  cases still
  cases settled
  simp [Tally.under, Tally.calling]

theorem under_input (counted : Tally) (made : Nat) (moved : Bool)
    (calls : Nat) :
    (counted.under made moved calls).input =
      counted.under made true calls := by
  cases moved <;> rfl

theorem under_advance (counted : Tally) (made : Nat) (moved : Bool)
    (calls : Nat) :
    (counted.under made moved calls).note .advance =
      counted.under (made + 1) true (calls + 1) := by
  change (counted.under made moved (calls + 1)).advance = _
  unfold Tally.advance
  rw [under_input]
  have most : max (max counted.longest made) (made + 1) =
      max counted.longest (made + 1) := by omega
  simp [Tally.under, most, Nat.add_assoc]

def Moves (counted : Tally) (remaining : Option Nat) (most : Nat)
    (outcome : Except CollectorFault Transition) (reached : Tally) : Prop :=
  ∃ made moved, reached = counted.under made moved reached.calls ∧
    reached.calls ≤ most ∧ made ≤ 2 ∧ (∀ limit ∈ remaining, made ≤ limit) ∧
    ∀ transition, outcome = .ok transition →
      transition.nextCandidate.isSome = true →
        made ≤ transition.consumedScrollActions

section

variable {counted : Tally} {remaining : Option Nat}

theorem Moves.mono {most more : Nat}
    {outcome : Except CollectorFault Transition} {reached : Tally}
    (moves : Moves counted remaining most outcome reached)
    (fewer : most ≤ more) : Moves counted remaining more outcome reached := by
  obtain ⟨made, moved, same, few, rest⟩ := moves
  exact ⟨made, moved, same, le_trans few fewer, rest⟩

theorem moves_none {made most calls consumed : Nat} {moved : Bool}
    (few : calls ≤ most) (twice : made ≤ 2)
    (within : ∀ limit ∈ remaining, made ≤ limit) (reason : Option String) :
    Moves counted remaining most (.ok ⟨none, consumed, reason⟩)
      (counted.under made moved calls) := by
  refine ⟨made, moved, rfl, few, twice, within, ?_⟩
  intro transition same found
  cases same
  cases found

theorem moves_error {made most calls : Nat} {moved : Bool}
    (few : calls ≤ most) (twice : made ≤ 2)
    (within : ∀ limit ∈ remaining, made ≤ limit) (fault : CollectorFault) :
    Moves counted remaining most (.error fault)
      (counted.under made moved calls) := by
  refine ⟨made, moved, rfl, few, twice, within, ?_⟩
  intro transition same
  cases same

theorem gesture_moves {made start : Nat} {moved : Bool}
    (deadline : Option Int) :
    Follows tallying (counted.under made moved start)
      ((do
        requireDeadline deadline
        ask .advance
        return true : EngineProgram Bool).rescue
          (fun fault => fault = .collectorDeadlineExceeded)
          fun _ => pure false)
      fun outcome reached => reached.calls ≤ start + 2 ∧
        (reached = counted.under (made + 1) true reached.calls ∨
          outcome ≠ .ok true ∧
            reached = counted.under made moved reached.calls) := by
  have advanced : Follows tallying (counted.under made moved start)
      (do
        requireDeadline deadline
        ask .advance
        return true : EngineProgram Bool)
      fun outcome reached => reached.calls ≤ start + 2 ∧
        (reached = counted.under (made + 1) true reached.calls ∨
          (∃ fault, outcome = .error fault) ∧
            reached = counted.under made moved reached.calls) := by
    change Follows tallying ((counted.under made moved start).calling start)
      _ _
    apply (requireDeadline_idles deadline).opening (le_refl start)
    · intro _ calls few _
      refine follows_bind.mpr ⟨trivial, fun reply _ => ?_⟩
      have noted : tallying.advance
          ((counted.under made moved start).calling calls) .advance reply =
          counted.under (made + 1) true (calls + 1) :=
        under_advance counted made moved calls
      have fewer : calls + 1 ≤ start + 2 := by omega
      rw [noted]
      cases reply with
      | ok _ => exact And.intro fewer (.inl rfl)
      | error fault => exact And.intro fewer (.inl rfl)
    · intro fault calls few
      have fewer : calls ≤ start + 2 := by omega
      exact And.intro fewer (.inr ⟨⟨fault, rfl⟩, rfl⟩)
  apply advanced.rescue
  · intro value reached holds
    refine ⟨holds.1, holds.2.imp_right ?_⟩
    intro raised
    obtain ⟨⟨fault, same⟩, _⟩ := raised
    cases same
  · intro fault reached holds _
    refine ⟨holds.1, holds.2.imp_right fun raised => ⟨?_, raised.2⟩⟩
    intro same
    cases same
  · intro fault reached holds _
    refine ⟨holds.1, holds.2.imp_right fun raised => ⟨?_, raised.2⟩⟩
    intro same
    cases same

theorem gestureAttempts_moves (position : Nat) (previous : String)
    (deadline : Option Int) (left : Nat) {made start : Nat} {moved : Bool}
    (total : made + left = 2)
    (within : ∀ limit ∈ remaining, made ≤ limit) :
    Follows tallying (counted.under made moved start)
      (gestureAttempts position previous deadline remaining
        (List.range' (made + 1) left))
      (Moves counted remaining (start + 7 * left)) := by
  induction left generalizing made moved start with
  | zero => exact moves_none (by omega) (by omega) within _
  | succ left ih =>
      rw [List.range'_succ]
      unfold gestureAttempts
      split
      · exact moves_none (by omega) (by omega) within _
      rename_i allowed
      have further : ∀ limit ∈ remaining, made + 1 ≤ limit := by
        intro limit member
        rw [Option.mem_def.mp member, Option.any_some, decide_eq_true_eq]
          at allowed
        exact Nat.le_of_not_lt allowed
      apply (gesture_moves deadline).bind
      · intro tried reached holds
        obtain ⟨few, reaches⟩ := holds
        cases tried with
        | false =>
            rcases reaches with same | ⟨_, same⟩
            · rw [same]
              exact moves_none (by omega) (by omega) further _
            · rw [same]
              exact moves_none (by omega) (by omega) within _
        | true =>
            rcases reaches with same | ⟨refused, _⟩
            · rw [same]
              have named : (if made + 1 = 1 then EventName.advance
                  else .advanceRetry) ≠ .transitionConfirmed := by
                split <;> decide
              rw [if_pos rfl]
              change Follows tallying
                ((counted.under (made + 1) true reached.calls).calling
                  reached.calls) _ _
              apply (recorded_idles position _ named).opening few
              · intro _ _ few _
                apply (waitForNext_idles previous).opening few
                · intro found _ few _
                  cases found with
                  | some next =>
                      refine ⟨made + 1, true, rfl, ?_, by omega, further, ?_⟩
                      · exact le_trans few (by omega)
                      · intro transition same _
                        cases same
                        exact le_refl (made + 1)
                  | none =>
                      apply (deadlineExpired_idles deadline).opening few
                      · intro expired calls few _
                        cases expired with
                        | true =>
                            exact moves_none (by omega) (by omega) further _
                        | false =>
                            have later :=
                              @ih (made + 1) calls true (by omega) further
                            apply later.mono
                            intro outcome last moves
                            exact moves.mono (by omega)
                      · intro fault _ few
                        exact moves_error (by omega) (by omega) further _
                · intro fault _ few
                  exact moves_error (by omega) (by omega) further _
              · intro fault _ few
                exact moves_error (by omega) (by omega) further _
            · exact absurd rfl refused
      · intro fault reached holds
        rcases holds.2 with same | ⟨_, same⟩
        · rw [same]
          exact moves_error (by omega) (by omega) further _
        · rw [same]
          exact moves_error (by omega) (by omega) within _

theorem nextFromAuthenticatedFeed_moves (position : Nat) (previous : String)
    {start : Nat} :
    Follows tallying (counted.under 0 false start)
      (nextFromAuthenticatedFeed position previous)
      (Moves counted remaining (start + 4)) := by
  have within : ∀ limit ∈ remaining, 0 ≤ limit := fun _ _ => Nat.zero_le _
  have asked : ∀ {moved : Bool} {calls : Nat} (shouldStop : Bool),
      calls ≤ start + 1 →
      Follows tallying (counted.under 0 moved calls)
        (ask (.nextFromAuthenticatedFeed previous shouldStop))
        fun _ reached => reached.calls ≤ calls + 1 ∧
          reached = counted.under 0 true reached.calls := by
    intro moved calls shouldStop few
    refine ⟨trivial, fun reply _ => ?_⟩
    have noted : tallying.advance (counted.under 0 moved calls)
        (.nextFromAuthenticatedFeed previous shouldStop) reply =
        counted.under 0 true (calls + 1) :=
      under_input counted 0 moved (calls + 1)
    rw [noted]
    exact And.intro (le_refl (calls + 1)) rfl
  have fed : Follows tallying (counted.under 0 false start)
      ((ask (.nextFromAuthenticatedFeed previous true)).rescue isTypeError
        fun _ => ask (.nextFromAuthenticatedFeed previous false))
      fun _ reached => reached.calls ≤ start + 2 ∧
        reached = counted.under 0 true reached.calls := by
    apply (asked true (by omega)).rescue
    · intro _ reached holds
      exact ⟨by omega, holds.2⟩
    · intro _ reached holds _
      obtain ⟨few, same⟩ := holds
      rw [same]
      apply (asked false few).mono
      intro _ last kept
      exact ⟨by omega, kept.2⟩
    · intro _ reached holds _
      exact ⟨by omega, holds.2⟩
  unfold nextFromAuthenticatedFeed
  apply fed.bind
  · intro found reached holds
    obtain ⟨few, same⟩ := holds
    rw [same]
    cases found with
    | none => exact moves_none (by omega) (by omega) within _
    | some candidate =>
        change Follows tallying
          ((counted.under 0 true reached.calls).calling reached.calls) _ _
        apply (recorded_idles position .feedSourceAdvance (by decide)).opening
          few
        · intro _ _ few _
          refine ⟨0, true, rfl, few, by omega, within, ?_⟩
          intro transition _ _
          exact Nat.zero_le _
        · intro fault _ few
          exact moves_error few (by omega) within _
  · intro fault reached holds
    rw [holds.2]
    exact moves_error (by omega) (by omega) within _

theorem confirmTransition_moves (engine : CollectorEngine) (position : Nat)
    (previous : String) (deadline : Option Int) {start : Nat} :
    Follows tallying (counted.under 0 false start)
      (confirmTransition engine position previous deadline remaining)
      (Moves counted remaining (start + 14)) := by
  unfold confirmTransition
  split
  · apply (nextFromAuthenticatedFeed_moves position previous).mono
    intro outcome reached moves
    exact moves.mono (by omega)
  · exact gestureAttempts_moves position previous deadline 2 rfl
      fun _ _ => Nat.zero_le _

end

structure Abides (limits : CollectorLimits) (progress : Progress)
    (counted : Tally) : Prop where
  bounded : Bounded limits counted
  still : counted.current = 0
  settled : counted.moving = false
  scrolled : counted.advances ≤ progress.scrollActions
  attempted : counted.attempted ≤ progress.transitionOperations
  confirmed : counted.confirmed ≤ progress.confirmedAdvances
  observed : counted.observed ≤ progress.observations
  paid : counted.committedBytes ≤ progress.committedBytes
  affordable : ∀ limit ∈ limits.maxRunBytes, progress.committedBytes ≤ limit
  fits : Fits limits (Counts.ofProgress progress)

theorem Abides.calling {limits : CollectorLimits} {progress : Progress}
    {counted : Tally} (abides : Abides limits progress counted)
    (calls : Nat) : Abides limits progress (counted.calling calls) where
  bounded := abides.bounded.calling calls
  still := abides.still
  settled := abides.settled
  scrolled := abides.scrolled
  attempted := abides.attempted
  confirmed := abides.confirmed
  observed := abides.observed
  paid := abides.paid
  affordable := abides.affordable
  fits := abides.fits

theorem abides_start (limits : CollectorLimits) (candidate : ReelCandidate)
    (calls : Nat) :
    Abides limits (startingProgress candidate) (Tally.calling {} calls) where
  bounded :=
    { scrollActions := fun _ _ => Nat.zero_le _
      gestures := Nat.zero_le _
      transitions := fun _ _ => Nat.zero_le _
      advances := Nat.zero_le _
      observations := fun _ _ => Nat.zero_le _
      runBytes := fun _ _ => Nat.zero_le _ }
  still := rfl
  settled := rfl
  scrolled := Nat.zero_le _
  attempted := Nat.zero_le _
  confirmed := Nat.zero_le _
  observed := Nat.zero_le _
  paid := Nat.zero_le _
  affordable := fun _ _ => Nat.zero_le _
  fits := ⟨Nat.zero_le _, fun _ _ => Nat.zero_le _⟩

theorem recorded_confirms (position : Nat) {counted : Tally} {start : Nat} :
    Follows tallying (counted.calling start)
      (recorded position .transitionConfirmed)
      fun _ reached => ∃ calls, calls ≤ start + 2 ∧
        reached = counted.confirm.calling calls := by
  refine follows_attempt.mpr ⟨trivial, fun reply _ => ?_⟩
  change Follows tallying (counted.confirm.calling (start + 1)) _ _
  have rests : ∀ {program : EngineProgram Unit},
      Idles 1 program (fun _ => True) →
      Follows tallying (counted.confirm.calling (start + 1)) program
        fun _ reached => ∃ calls, calls ≤ start + 2 ∧
          reached = counted.confirm.calling calls := by
    intro program idles
    apply (idles _).mono
    intro _ reached holds
    exact ⟨reached.calls, holds.1, holds.2.1⟩
  cases reply with
  | ok _ => exact rests (idles_pure trivial)
  | error fault =>
      cases fault with
      | typeError => exact rests (idles_swallow (idles_ask rfl fun _ => trivial))
      | keyboardInterrupt => exact rests idles_raise
      | baseException => exact rests idles_raise
      | _ => exact rests (idles_pure trivial)

section

variable {engine : CollectorEngine} {request : CollectRequest}
variable {runId : UUID} {deadline : Option Int} {progress : Progress}
variable {counted : Tally} {most : Nat}

theorem Abides.under (abides : Abides engine.limits progress counted)
    {made calls : Nat} {moved : Bool} (twice : made ≤ 2)
    (within : ∀ limit ∈
      engine.limits.maxScrollActions.map (· - progress.scrollActions),
      made ≤ limit)
    (allowed : engine.limits.maxTransitionOperations.any
      (· ≤ progress.transitionOperations) = false) :
    Bounded engine.limits (counted.under made moved calls) where
  scrollActions := by
    intro limit member
    have left := within (limit - progress.scrollActions)
      (by rw [Option.mem_def.mp member]; rfl)
    have before := abides.bounded.scrollActions limit member
    have scrolled := abides.scrolled
    change counted.advances + made ≤ limit
    omega
  gestures := by
    have before := abides.bounded.gestures
    change max counted.longest made ≤ 2
    omega
  transitions := by
    intro limit member
    rw [Option.mem_def.mp member, Option.any_some, decide_eq_false_iff_not]
      at allowed
    have attempted := abides.attempted
    change counted.attempted + (if moved then 1 else 0) ≤ limit
    split <;> omega
  advances := abides.bounded.advances
  observations := abides.bounded.observations
  runBytes := abides.bounded.runBytes

theorem coolDown_idles :
    Idles 5 (coolDown engine deadline progress) fun _ => True := by
  have expired := deadlineExpired_idles deadline
  have slept : Idles 1 (ask (.sleep engine.limits.cooldownSeconds))
      fun _ => True := idles_ask rfl fun _ => trivial
  unfold coolDown
  split
  · apply (requireDeadline_idles deadline).bind
    intro _ _
    apply (recorded_idles progress.position .cooldown (by decide)).bind
    intro _ _
    apply slept.bind
    intro _ _
    exact expired
  · exact expired.mono (by omega) fun _ holds => holds

theorem Abides.advancing (abides : Abides engine.limits progress counted)
    (room : progress.confirmedAdvances < engine.limits.maxAdvances)
    {made start calls : Nat} {moved : Bool} {transition : Transition}
    (candidate : ReelCandidate)
    (bounded : Bounded engine.limits (counted.under made moved start))
    (consumed : made ≤ transition.consumedScrollActions) :
    Abides engine.limits (advancing progress transition candidate)
      ((counted.under made moved start).confirm.calling calls) where
  bounded :=
    { scrollActions := bounded.scrollActions
      gestures := bounded.gestures
      transitions := bounded.transitions
      advances := le_trans (Nat.succ_le_succ abides.confirmed) room
      observations := bounded.observations
      runBytes := bounded.runBytes }
  still := rfl
  settled := rfl
  scrolled := Nat.add_le_add abides.scrolled consumed
  attempted := by
    have attempted := abides.attempted
    change counted.attempted + (if moved then 1 else 0) ≤
      progress.transitionOperations + 1
    split <;> omega
  confirmed := Nat.succ_le_succ abides.confirmed
  observed := abides.observed
  paid := abides.paid
  affordable := abides.affordable
  fits := ⟨room, abides.fits.observations⟩

theorem advanceTo_closes {continued : Progress → EngineProgram Exit}
    (abides : Abides engine.limits progress counted)
    (room : progress.confirmedAdvances < engine.limits.maxAdvances)
    (within : counted.calls + 23 ≤ most)
    (continues : ∀ advanced reached,
      advanced.confirmedAdvances = progress.confirmedAdvances + 1 →
      Abides engine.limits advanced reached →
      reached.calls ≤ counted.calls + 22 →
      Follows tallying reached (continued advanced)
        (Closes engine.limits most)) :
    Follows tallying counted
      (advanceTo engine request runId deadline progress continued)
      (Closes engine.limits most) := by
  have fits := abides.fits
  have stopped : ∀ {reached : Tally} (reason : String),
      Bounded engine.limits reached → reached.calls + 2 ≤ most →
      Follows tallying reached
        (stop request runId (Counts.ofProgress progress) reason)
        (Closes engine.limits most) :=
    fun reason bounded few => stop_closes request reason bounded fits few
  unfold advanceTo
  dsimp only
  split
  · exact stopped _ abides.bounded (by omega)
  rename_i allowed
  rw [Bool.not_eq_true] at allowed
  apply coolDown_idles.keeping (le_refl counted.calls)
  · intro expired calls few _
    split
    · exact stopped _ (abides.bounded.calling calls)
        (by change calls + 2 ≤ most; omega)
    have moves : Follows tallying (counted.calling calls)
        (do
          raiseIfCancelRequested engine runId
          confirmTransition engine progress.position
            progress.candidate.shortcode deadline
            (engine.limits.maxScrollActions.map (· - progress.scrollActions)))
        fun outcome reached =>
          Moves counted
            (engine.limits.maxScrollActions.map (· - progress.scrollActions))
            (counted.calls + 20) outcome reached := by
      apply (raiseIfCancelRequested_idles engine runId).opening few
      · intro _ start fewer _
        rw [← under_start abides.still abides.settled]
        apply (confirmTransition_moves engine _ _ deadline).mono
        intro outcome reached moves
        exact moves.mono (by omega)
      · intro fault start fewer
        rw [← under_start abides.still abides.settled]
        exact moves_error (by omega) (by omega) (fun _ _ => Nat.zero_le _) fault
    apply moves.attempt
    intro outcome reached moved
    obtain ⟨made, moving, same, fewer, twice, left, consumed⟩ := moved
    have bounded : Bounded engine.limits reached := by
      rw [same]
      exact abides.under twice left allowed
    have leaves : ∀ (calls : Nat) (reason : String),
        calls + 2 ≤ most →
        Follows tallying (reached.calling calls)
          (stop request runId (Counts.ofProgress progress) reason)
          (Closes engine.limits most) :=
      fun calls reason few => stopped reason (bounded.calling calls) few
    cases outcome with
    | error fault => exact ⟨by omega, bounded, fits⟩
    | ok transition =>
        dsimp only
        cases found : transition.nextCandidate with
        | none =>
            dsimp only
            split
            · exact leaves reached.calls _ (by omega)
            · change Follows tallying (reached.calling reached.calls) _ _
              apply (deadlineExpired_idles deadline).keeping fewer
              · intro late calls few _
                exact leaves calls _ (by omega)
              · intro fault calls few
                exact ⟨by change calls ≤ most; omega, bounded.calling calls,
                  fits⟩
        | some nextCandidate =>
            dsimp only
            cases valid : validateCandidate nextCandidate with
            | error fault => exact leaves reached.calls _ (by omega)
            | ok candidate =>
                dsimp only
                split
                · exact leaves reached.calls _ (by omega)
                have made_consumed := consumed transition rfl
                  (by rw [found]; rfl)
                have abiding : ∀ calls, Abides engine.limits
                    (advancing progress transition candidate)
                    (reached.confirm.calling calls) := by
                  intro calls
                  rw [same] at bounded ⊢
                  exact abides.advancing room candidate bounded made_consumed
                change Follows tallying (reached.calling reached.calls) _ _
                apply (recorded_confirms progress.position).attempt
                intro outcome last confirms
                obtain ⟨calls, few, rfl⟩ := confirms
                have abiding := abiding calls
                cases outcome with
                | error fault =>
                    refine ⟨?_, abiding.bounded, abiding.fits⟩
                    change calls ≤ most
                    omega
                | ok _ =>
                    apply continues _ _ rfl abiding
                    change calls ≤ counted.calls + 22
                    omega
  · intro fault calls few
    exact ⟨by change calls ≤ most; omega, abides.bounded.calling calls, fits⟩

theorem detect_observes {start : Nat} :
    Follows tallying (counted.calling start) (detect progress)
      fun _ reached => ∃ calls seen, calls ≤ start + 6 ∧ seen ≤ 1 ∧
        reached = { counted with
          calls := calls
          observed := counted.observed + seen } := by
  have paused : ∀ calls, calls ≤ start + 2 →
      Follows tallying (counted.calling calls)
        (do
          ask .pauseCurrent
          recorded progress.position .pause
          ask (.reelStatus progress.candidate.shortcode))
        fun _ reached => ∃ calls seen, calls ≤ start + 6 ∧ seen ≤ 1 ∧
          reached = { counted with
            calls := calls
            observed := counted.observed + seen } := by
    intro calls few
    refine follows_attempt.mpr ⟨trivial, fun reply _ => ?_⟩
    have few : calls + 1 ≤ start + 3 := by omega
    change Follows tallying
      ({ counted with observed := counted.observed + 1 }.calling (calls + 1))
      _ _
    cases reply with
    | error fault => exact ⟨calls + 1, 1, by omega, le_refl 1, rfl⟩
    | ok _ =>
        apply (recorded_idles progress.position .pause (by decide)).opening few
        · intro _ calls few _
          have read : Idles 1 (ask (.reelStatus progress.candidate.shortcode))
              fun _ => True := idles_ask rfl fun _ => trivial
          apply (read _).mono
          intro _ reached holds
          refine ⟨reached.calls, 1, ?_, le_refl 1, holds.2.1⟩
          exact le_trans holds.1 (Nat.add_le_add_right few 1)
        · intro fault calls few
          exact ⟨calls, 1, by omega, le_refl 1, rfl⟩
  unfold detect
  apply (recorded_idles progress.position .detect (by decide)).opening
    (le_refl start)
  · intro _ calls few _
    exact paused calls few
  · intro fault calls few
    exact ⟨calls, 0, by omega, Nat.zero_le 1, rfl⟩

theorem queryOwned_idles :
    Idles 1 (queryOwned request progress) fun _ => True := by
  unfold queryOwned
  split
  · exact idles_ask rfl fun _ => trivial
  · exact idles_pure trivial

theorem Abides.processing (abides : Abides engine.limits progress counted)
    (within : engine.limits.maxObservations.any
      (· ≤ progress.observations) = false)
    {seen bytes calls : Nat} {owned : Bool} (once : seen ≤ 1)
    (affordable : ∀ limit ∈ engine.limits.maxRunBytes,
      progress.committedBytes + bytes ≤ limit) :
    Abides engine.limits
      { processing (detecting (observing progress)) owned with
        committedBytes := progress.committedBytes + bytes }
      { counted with
        calls := calls
        observed := counted.observed + seen
        committedBytes := counted.committedBytes + bytes } where
  bounded :=
    { scrollActions := abides.bounded.scrollActions
      gestures := abides.bounded.gestures
      transitions := abides.bounded.transitions
      advances := abides.bounded.advances
      observations := by
        intro limit member
        rw [Option.mem_def.mp member, Option.any_some,
          decide_eq_false_iff_not] at within
        have observed := abides.observed
        change counted.observed + seen ≤ limit
        omega
      runBytes := by
        intro limit member
        exact le_trans (Nat.add_le_add_right abides.paid bytes)
          (affordable limit member) }
  still := abides.still
  settled := abides.settled
  scrolled := abides.scrolled
  attempted := abides.attempted
  confirmed := abides.confirmed
  observed := Nat.add_le_add abides.observed once
  paid := Nat.add_le_add_right abides.paid bytes
  affordable := affordable
  fits :=
    { advances := abides.fits.advances
      observations := by
        intro limit member
        rw [Option.mem_def.mp member, Option.any_some,
          decide_eq_false_iff_not] at within
        exact Nat.lt_of_not_le within }

theorem observation_closes {continued : Progress → EngineProgram Exit}
    (abides : Abides engine.limits progress counted)
    (room : counted.calls + 37 ≤ most)
    (continues : ∀ processed reached,
      processed.confirmedAdvances = progress.confirmedAdvances →
      Abides engine.limits processed reached →
      reached.calls ≤ counted.calls + 35 →
      Follows tallying reached (continued processed)
        (Closes engine.limits most)) :
    Follows tallying counted
      (observation engine request runId deadline progress continued)
      (Closes engine.limits most) := by
  have opened : Idles 2
      (do
        raiseIfCancelRequested engine runId
        deadlineExpired deadline) fun _ => True := by
    apply (raiseIfCancelRequested_idles engine runId).bind
    intro _ _
    exact deadlineExpired_idles deadline
  unfold observation
  apply opened.keeping (le_refl counted.calls)
  · intro expired calls few _
    split
    · apply stop_closes request _ (abides.bounded.calling calls) abides.fits
      change calls + 2 ≤ most
      omega
    split
    · apply stop_closes request _ (abides.bounded.calling calls) abides.fits
      change calls + 2 ≤ most
      omega
    rename_i within
    rw [Bool.not_eq_true] at within
    have fits : ∀ duplicates, Fits engine.limits
        ⟨progress.confirmedAdvances, progress.observations + 1,
          duplicates⟩ := by
      intro duplicates
      refine ⟨abides.fits.advances, fun limit member => ?_⟩
      rw [Option.mem_def.mp member, Option.any_some, decide_eq_false_iff_not]
        at within
      exact Nat.lt_of_not_le within
    apply queryOwned_idles.keeping few
    · intro owned calls few _
      dsimp only
      split
      · apply stop_closes request _ (abides.bounded.calling calls) (fits _)
        change calls + 2 ≤ most
        omega
      apply detect_observes.attempt
      intro outcome reached observed
      obtain ⟨calls, seen, few, once, rfl⟩ := observed
      have abiding : ∀ bytes calls, (∀ limit ∈ engine.limits.maxRunBytes,
          progress.committedBytes + bytes ≤ limit) → _ :=
        fun bytes calls affordable => @Abides.processing engine progress
          counted abides within seen bytes calls owned once affordable
      cases outcome with
      | error fault =>
          refine ⟨?_, (abiding 0 calls abides.affordable).bounded, fits _⟩
          change calls ≤ most
          omega
      | ok status =>
          dsimp only
          refine Follows.attempt
            (process_paid deadline owned status abides.affordable) ?_
          intro outcome reached holds
          obtain ⟨bytes, ⟨fewer, same, affordable⟩, returned⟩ := holds
          have fewer : reached.calls ≤ counted.calls + 33 := by
            change reached.calls ≤ calls + 24 at fewer
            omega
          have abiding : Abides engine.limits
              { processing (detecting (observing progress)) owned with
                committedBytes := progress.committedBytes + bytes }
              reached := by
            rw [same]
            exact abiding bytes reached.calls affordable
          have bounded := abiding.bounded
          cases outcome with
          | error fault => exact ⟨by omega, bounded, fits _⟩
          | ok processed =>
              cases processed with
              | error reason =>
                  exact stop_closes request _ bounded (fits _) (by omega)
              | ok processed =>
                  obtain rfl := returned processed rfl
                  have counts : Idles 1 (ask (.summary runId)) fun _ => True :=
                    idles_ask rfl fun _ => trivial
                  change Follows tallying (reached.calling reached.calls) _ _
                  apply counts.keeping fewer
                  · intro stored calls few _
                    split
                    · apply summary_closes (complete_idles request)
                        (bounded.calling calls) (fits _)
                      change calls + 3 ≤ most
                      omega
                    apply (deadlineExpired_idles deadline).keeping few
                    · intro late calls few _
                      cases late with
                      | true =>
                          apply stop_closes request _ (bounded.calling calls)
                            (fits _)
                          change calls + 2 ≤ most
                          omega
                      | false =>
                          exact continues _ _ rfl (abiding.calling calls) few
                    · intro fault calls few
                      exact ⟨by change calls ≤ most; omega,
                        bounded.calling calls, fits _⟩
                  · intro fault calls few
                    exact ⟨by change calls ≤ most; omega,
                      bounded.calling calls, fits _⟩
    · intro fault calls few
      exact ⟨by change calls ≤ most; omega, abides.bounded.calling calls,
        fits _⟩
  · intro fault calls few
    exact ⟨by change calls ≤ most; omega, abides.bounded.calling calls,
      abides.fits⟩

/-- What is left of the advances bounds the passes. -/
theorem loop_closes (remaining : Nat)
    (abides : Abides engine.limits progress counted)
    (left : progress.confirmedAdvances + remaining ≤ engine.limits.maxAdvances)
    (room : counted.calls + 57 * remaining + 37 ≤ most) :
    Follows tallying counted
      (loop engine request runId deadline remaining progress)
      (Closes engine.limits most) := by
  induction remaining generalizing progress counted with
  | zero =>
      apply observation_closes abides (by omega)
      intro processed reached _ abiding few
      exact stop_closes request _ abiding.bounded abiding.fits (by omega)
  | succ remaining ih =>
      apply observation_closes abides (by omega)
      intro processed reached same abiding few
      apply advanceTo_closes abiding (by omega) (by omega)
      intro advanced last further moved fewer
      exact ih moved (by omega) (by omega)

theorem firstCandidate_idles :
    Idles 2 (firstCandidate engine runId) fun _ => True := by
  have asked : Idles 1 (ask .current) fun _ => True :=
    idles_ask rfl fun _ => trivial
  apply (raiseIfCancelRequested_idles engine runId).bind
  intro _ _
  apply asked.bind
  intro _ _
  exact idles_done fun _ _ => trivial

end

def Keeps (limits : CollectorLimits) (most : Nat)
    (outcome : Except CollectorFault CollectorSummary) (reached : Tally) :
    Prop :=
  reached.calls ≤ most ∧ Bounded limits reached ∧
    ∀ summary, outcome = .ok summary → Fits limits (reported summary)

section

variable {engine : CollectorEngine} {request : CollectRequest}

theorem collectRun_keeps (runId : UUID) (deadline : Option Int)
    {calls : Nat} :
    Follows tallying (Tally.calling {} calls)
      (collectRun engine request runId deadline)
      (Keeps engine.limits (calls + (57 * engine.limits.maxAdvances + 42))) := by
  have left : Follows tallying (Tally.calling {} calls)
      (keeping ⟨0, 0, 0⟩ (firstCandidate engine runId) fun candidate =>
        loop engine request runId deadline engine.limits.maxAdvances
          (startingProgress candidate))
      (Closes engine.limits
        (calls + (57 * engine.limits.maxAdvances + 39))) := by
    apply firstCandidate_idles.keeping (le_refl calls)
    · intro candidate calls' few _
      have start := abides_start engine.limits candidate calls'
      apply loop_closes engine.limits.maxAdvances start
      · exact le_of_eq (Nat.zero_add _)
      · change calls' + _ + 37 ≤ _
        omega
    · intro fault calls' few
      have start := abides_start engine.limits ⟨"", ""⟩ calls'
      refine ⟨?_, start.bounded, start.fits⟩
      change calls' ≤ _
      omega
  unfold collectRun
  refine Follows.ensure (?_ : Follows tallying (Tally.calling {} calls) _
    (Keeps engine.limits
      (calls + (57 * engine.limits.maxAdvances + 41)))) ?_
  · apply left.bind
    · intro exit reached closes
      obtain ⟨few, bounded, fits⟩ := closes
      cases exit with
      | ok summary =>
          refine ⟨by omega, bounded, fun other same => ?_⟩
          cases same
          exact fits
      | error interrupted =>
          apply (handleFault_idles request interrupted reached).mono
          intro outcome last handled
          obtain ⟨fewer, same, reports⟩ := handled
          refine ⟨by omega, same ▸ bounded.calling last.calls, ?_⟩
          intro summary returned
          have counts : reported summary = interrupted.locals :=
            reports summary returned
          rw [counts]
          exact fits
    · intro fault reached closes
      refine ⟨by have few := closes.1; omega, closes.2.1, ?_⟩
      intro summary same
      cases same
  · intro outcome reached kept
    obtain ⟨few, bounded, fits⟩ := kept
    have closes : Idles 1 (swallow (ask .close)) fun _ => True :=
      idles_swallow (idles_ask rfl fun _ => trivial)
    apply (closes reached).mono
    intro cleaned last handled
    obtain ⟨fewer, same, _⟩ := handled
    have bounded : Bounded engine.limits last := same ▸ bounded.calling last.calls
    cases cleaned with
    | ok _ => exact ⟨by omega, bounded, fits⟩
    | error fault =>
        refine ⟨by omega, bounded, fun summary clash => ?_⟩
        cases clash

theorem collect_keeps (engine : CollectorEngine) (request : CollectRequest) :
    Follows tallying {} (engine.collect request)
      (Keeps engine.limits (57 * engine.limits.maxAdvances + 44)) := by
  have nothing : ∀ (fault : CollectorFault) (calls : Nat), calls ≤ 2 →
      Keeps engine.limits (57 * engine.limits.maxAdvances + 44)
        (.error fault) (Tally.calling {} calls) := by
    intro fault calls few
    have start := abides_start engine.limits ⟨"", ""⟩ calls
    refine ⟨by change calls ≤ _; omega, start.bounded, fun _ clash => ?_⟩
    cases clash
  have obtained : Idles 1 (obtainRun request) fun _ => True := by
    unfold obtainRun
    split
    · exact idles_pure trivial
    · exact idles_ask rfl fun _ => trivial
  have dated : Idles 1 (startDeadline engine.limits) fun _ => True := by
    unfold startDeadline
    split
    · exact idles_pure trivial
    · have asked : Idles 1 (ask .clock) fun _ => True :=
        idles_ask rfl fun _ => trivial
      apply asked.bind
      intro _ _
      exact idles_pure trivial
  unfold collect
  split
  · change Follows tallying (Tally.calling {} 0) _ _
    apply obtained.opening (le_refl 0)
    · intro runId _ few _
      apply dated.opening few
      · intro deadline calls few _
        apply (collectRun_keeps runId deadline).mono
        intro outcome reached kept
        exact ⟨by have fewer := kept.1; omega, kept.2⟩
      · intro fault calls few
        exact nothing fault calls few
    · intro fault calls few
      exact nothing fault calls (by omega)
  · exact nothing .valueError 0 (by omega)

end

/-! The source loops for ever, and leaves the loop once the confirmed advances have
reached their limit.  `loop` counts the advances that are left instead. -/

/-- One pass of the source's loop, with what the next pass does. -/
def pass (engine : CollectorEngine) (request : CollectRequest)
    (runId : UUID) (deadline : Option Int) (progress : Progress)
    (again : Progress → EngineProgram Exit) : EngineProgram Exit :=
  observation engine request runId deadline progress fun processed =>
    if engine.limits.maxAdvances ≤ processed.confirmedAdvances then
      stop request runId (Counts.ofProgress processed) "ADVANCE_LIMIT_REACHED"
    else advanceTo engine request runId deadline processed again

def whileTrue (engine : CollectorEngine) (request : CollectRequest)
    (runId : UUID) (deadline : Option Int) (progress : Progress) :
    EngineProgram Exit :=
  loop engine request runId deadline
    (engine.limits.maxAdvances - progress.confirmedAdvances) progress

def anything : Protocol EngineCall EngineReply CollectorFault Unit where
  permits := fun _ _ => True
  assumes := fun _ _ _ => True
  advance := fun _ _ _ => ()

theorem attempt_agrees {α β : Type} {program : EngineProgram α}
    {possible : Except CollectorFault α → Prop}
    (follows : Follows anything () program fun outcome _ => possible outcome)
    {first second : Except CollectorFault α → EngineProgram β}
    (agree : ∀ outcome, possible outcome → first outcome = second outcome) :
    program.attempt first = program.attempt second := by
  induction program with
  | done result => exact agree result follows
  | call request resume ih =>
      rw [attempt_call, attempt_call]
      congr 1
      funext reply
      exact ih reply (follows.2 reply trivial)

section

variable {engine : CollectorEngine} {request : CollectRequest}
variable {runId : UUID} {deadline : Option Int} {progress : Progress}

theorem anything_yields {α : Type} (program : EngineProgram α) :
    Yields anything (fun _ => True) () program fun _ _ => True := by
  apply (follows_any (fun _ _ => trivial) program ()).mono
  intro outcome _ _
  cases outcome <;> trivial

theorem process_kept (owned : Bool) (status : Option ReelPipelineStatus) :
    Follows anything () (process engine runId deadline progress owned status)
      fun outcome _ => ∀ processed, outcome = .ok (.ok processed) →
        processed.confirmedAdvances = progress.confirmedAdvances := by
  have recording : RecordingSteady anything fun _ => True :=
    fun _ _ phase _ => follows_any (fun _ _ => trivial) _ phase
  have acquires : Settles anything (fun _ => True) ()
      (acquire engine runId deadline progress) fun _ _ => True := by
    apply (anything_yields _).mono
    intro outcome _ _
    cases outcome <;> trivial
  have settles : Settles anything (fun _ => True) ()
      (process engine runId deadline progress owned status)
      fun processed _ => True ∧
        ∃ bytes, processed = { progress with committedBytes := bytes } :=
    process_settles deadline progress owned status recording
      (fun _ _ => trivial) (fun _ => trivial)
      (fun _ _ => anything_yields _) fun _ _ => acquires
  apply Follows.mono settles
  intro outcome _ holds processed same
  rw [same] at holds
  obtain ⟨_, bytes, rfl⟩ := holds
  rfl

theorem observation_agrees {first second : Progress → EngineProgram Exit}
    (agree : ∀ processed,
      processed.confirmedAdvances = progress.confirmedAdvances →
      first processed = second processed) :
    observation engine request runId deadline progress first =
      observation engine request runId deadline progress second := by
  unfold observation
  apply congrArg (keeping _ _)
  funext expired
  split
  · rfl
  split
  · rfl
  apply congrArg (keeping _ _)
  funext owned
  dsimp only
  split
  · rfl
  apply congrArg (keeping _ _)
  funext status
  apply attempt_agrees (process_kept owned status)
  intro outcome kept
  cases outcome with
  | error fault => rfl
  | ok processed =>
      cases processed with
      | error reason => rfl
      | ok processed =>
          have same := agree processed (kept processed rfl)
          dsimp only
          rw [same]

theorem advanceTo_agrees {first second : Progress → EngineProgram Exit}
    (agree : ∀ advanced,
      advanced.confirmedAdvances = progress.confirmedAdvances + 1 →
      first advanced = second advanced) :
    advanceTo engine request runId deadline progress first =
      advanceTo engine request runId deadline progress second := by
  unfold advanceTo
  dsimp only
  split
  · rfl
  apply congrArg (keeping _ _)
  funext expired
  split
  · rfl
  apply congrArg (keeping _ _)
  funext transition
  split
  · rfl
  split
  · rfl
  split
  · rfl
  apply congrArg (keeping _ _)
  funext _
  exact agree _ rfl

/-- The loop goes through the passes of the source. -/
theorem whileTrue_eq
    (within : progress.confirmedAdvances ≤ engine.limits.maxAdvances) :
    whileTrue engine request runId deadline progress =
      pass engine request runId deadline progress
        (whileTrue engine request runId deadline) := by
  unfold whileTrue pass
  cases left : engine.limits.maxAdvances - progress.confirmedAdvances with
  | zero =>
      apply observation_agrees
      intro processed same
      rw [if_pos (by omega)]
  | succ remaining =>
      apply observation_agrees
      intro processed same
      rw [if_neg (by omega)]
      apply advanceTo_agrees
      intro advanced further
      have fewer : engine.limits.maxAdvances - advanced.confirmedAdvances =
          remaining := by omega
      rw [fewer]

end

structure Grows (before after : Tally) : Prop where
  calls : before.calls ≤ after.calls
  advances : before.advances ≤ after.advances
  longest : before.longest ≤ after.longest
  attempted : before.attempted ≤ after.attempted
  confirmed : before.confirmed ≤ after.confirmed
  observed : before.observed ≤ after.observed
  committedBytes : before.committedBytes ≤ after.committedBytes

theorem grows_calling (counted : Tally) :
    Grows counted (counted.calling (counted.calls + 1)) := by
  constructor <;> simp [Tally.calling]

theorem note_grows (counted : Tally) (request : EngineCall) :
    Grows counted (counted.note request) := by
  cases idle : isIdle request with
  | true =>
      rw [note_idle idle]
      exact grows_calling counted
  | false =>
      cases request with
      | record position event =>
          cases event with
          | transitionConfirmed =>
              constructor <;> simp [Tally.note, Tally.confirm]
          | _ => cases idle
      | advance =>
          constructor <;> simp [Tally.note, Tally.advance, Tally.input]
      | nextFromAuthenticatedFeed _ _ =>
          constructor <;> simp [Tally.note, Tally.input]
      | pauseCurrent => constructor <;> simp [Tally.note]
      | commitSource _ _ _ _ => constructor <;> simp [Tally.note]
      | _ => cases idle

theorem Bounded.before {limits : CollectorLimits} {before after : Tally}
    (bounded : Bounded limits after) (grows : Grows before after) :
    Bounded limits before where
  scrollActions := fun limit member =>
    le_trans grows.advances (bounded.scrollActions limit member)
  gestures := le_trans grows.longest bounded.gestures
  transitions := fun limit member =>
    le_trans grows.attempted (bounded.transitions limit member)
  advances := le_trans grows.confirmed bounded.advances
  observations := fun limit member =>
    le_trans grows.observed (bounded.observations limit member)
  runBytes := fun limit member =>
    le_trans grows.committedBytes (bounded.runBytes limit member)

theorem bounded_of_follows {limits : CollectorLimits} {most : Nat}
    {program : EngineProgram CollectorSummary} {counted : Tally}
    (follows : Follows tallying counted program (Keeps limits most)) :
    counted.calls ≤ most ∧ Bounded limits counted := by
  induction program generalizing counted with
  | done result => exact ⟨follows.1, follows.2.1⟩
  | call request resume ih =>
      obtain ⟨few, bounded⟩ :=
        ih (.error .otherException) (follows.2 _ trivial)
      have grows := note_grows counted request
      exact ⟨le_trans grows.calls few, bounded.before grows⟩

theorem tally_append (history : List PortEvent) (event : PortEvent) :
    tally (history ++ [event]) = (tally history).note event.request := by
  unfold tally
  rw [List.foldl_append]
  rfl

theorem note_calls (counted : Tally) (request : EngineCall) :
    (counted.note request).calls = counted.calls + 1 := by
  cases request with
  | record position event => cases event <;> rfl
  | _ => rfl

theorem foldl_calls (history : List PortEvent) (counted : Tally) :
    (history.foldl (fun counted event => counted.note event.request)
      counted).calls = counted.calls + history.length := by
  induction history generalizing counted with
  | nil => rfl
  | cons event rest ih =>
      rw [List.foldl_cons, ih, note_calls, List.length_cons]
      omega

theorem tally_calls (history : List PortEvent) :
    (tally history).calls = history.length := by
  unfold tally
  rw [foldl_calls]
  exact Nat.zero_add _

/-- Whatever the ports answer, a collection makes no more calls than this, and
at no point has it gone past a limit that is set. -/
theorem collection_bounded (engine : CollectorEngine)
    (request : CollectRequest) {rest : EngineProgram CollectorSummary}
    {history : List PortEvent}
    (reached : (engine.collect request).Reaches Records [] rest history) :
    history.length ≤ 57 * engine.limits.maxAdvances + 44 ∧
      Bounded engine.limits (tally history) ∧
      ∀ summary, rest = .done (.ok summary) →
        Fits engine.limits (reported summary) := by
  have answers : ∀ (counted : Tally) (history : List PortEvent)
      (input : EngineCall) reply (after : List PortEvent),
      counted = tally history → tallying.permits counted input →
      Records history input reply after →
      tallying.assumes counted input reply ∧
        tallying.advance counted input reply = tally after := by
    intro counted history input reply after same _ recorded
    rw [recorded, tally_append, same]
    exact ⟨trivial, rfl⟩
  obtain ⟨_, follows, rfl⟩ :=
    Follows.reaches answers (collect_keeps engine request) rfl reached
  obtain ⟨few, bounded⟩ := bounded_of_follows follows
  rw [tally_calls] at few
  refine ⟨few, bounded, fun summary ended => ?_⟩
  rw [ended] at follows
  exact follows.2.2 summary rfl

def repeatedReel : ReelCandidate :=
  ⟨"A", "https://www.instagram.com/reel/A/"⟩

def repeatedReply :
    (request : EngineCall) → Except CollectorFault (EngineReply request)
  | .current => .ok repeatedReel
  | .accountHasDurableReel _ _ => .ok true
  | .pauseCurrent => .ok ()
  | .reelStatus _ => .ok none
  | .summary _ => .ok (0, 0, 0, .running)
  | .advance => .ok ()
  | .waitForNext _ _ => .ok (some repeatedReel)
  | _ => .error .otherException

def repeating (history : List PortEvent) (request : EngineCall) :
    Except CollectorFault (EngineReply request) × List PortEvent :=
  (repeatedReply request, history ++ [⟨request, repeatedReply request⟩])

def repeatingEngine : CollectorEngine :=
  ⟨{ maxAdvances := 3, maxScrollActions := some 3 }, false, false⟩

def repeatingRequest : CollectRequest := ⟨1, .manual, 2, some 5, some 7⟩

def repeatedRun : Except CollectorFault CollectorSummary × List PortEvent :=
  (repeatingEngine.collect repeatingRequest).play repeating []

theorem repeated_run_bounded :
    (repeatedRun.1.toOption.map (·.stopReasonCode) =
        some (some "ADVANCE_LIMIT_REACHED") ∧
      (tally repeatedRun.2).advances = 3) ∧
    repeatedRun.2.length ≤ 57 * 3 + 44 ∧
      Bounded repeatingEngine.limits (tally repeatedRun.2) ∧
      ∀ summary, (Program.done repeatedRun.1 : EngineProgram _) =
        .done (.ok summary) → Fits repeatingEngine.limits (reported summary) :=
  ⟨by decide +kernel, collection_bounded repeatingEngine repeatingRequest
    (reaches_play (fun _ _ => rfl) .start)⟩

end OfflineReels.Collector.RunBounds
