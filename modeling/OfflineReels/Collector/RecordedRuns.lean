import OfflineReels.Collector.CollectRules
import OfflineReels.Collector.Transcripts

namespace OfflineReels.Collector.RecordedRuns

open OfflineReels.Foundation
open OfflineReels.Foundation.Program
open OfflineReels.Instagram
open OfflineReels.Collector.CollectorEngine
open OfflineReels.Collector.Verification

/-! What a collection records and commits, watched call by call. -/

/-- The acquisitions of a run, as long as each commit was acknowledged. -/
structure Tally where
  runId : UUID
  committed : Nat
  available : Nat
  deriving DecidableEq, Repr

def Tally.add (tally : Tally) : Acquisition → Tally
  | .skipped => tally
  | .available => { tally with available := tally.available + 1 }
  | .committed => { tally with committed := tally.committed + 1 }

structure Watch where
  recordings : List TranscriptEvent
  tally : Option Tally

namespace Watch

def initial (claimedRunId : Option UUID) : Watch where
  recordings := []
  tally := claimedRunId.map (⟨·, 0, 0⟩)

def append (watch : Watch) (position : Nat) (events : List EventName) :
    Watch :=
  { watch with recordings := watch.recordings ++ events.map (⟨position, ·⟩) }

def counted (watch : Watch) (runId : UUID) (acquisition : Acquisition) :
    Watch :=
  { watch with tally := watch.tally.bind fun tally =>
      if tally.runId = runId then some (tally.add acquisition) else none }

def uncertain (watch : Watch) : Watch := { watch with tally := none }

def advance (watch : Watch) :
    (request : EngineCall) → Except CollectorFault (EngineReply request) →
      Watch
  | .record position event, _ =>
      watch.append position [SafeEventTranscript.renamed event]
  | .createRun _ _ _, .ok runId => { watch with tally := some ⟨runId, 0, 0⟩ }
  | .createRun _ _ _, .error _ => watch.uncertain
  | .commitSource runId _ _ _, .ok _ => watch.counted runId .committed
  | .commitSource _ _ _ _, .error _ => watch.uncertain
  | .commitAvailable runId _, .ok _ => watch.counted runId .available
  | .commitAvailable _ _, .error _ => watch.uncertain
  | .recordFailure _ _ _ _, _ => watch.uncertain
  | .failRun _ _, _ => watch.uncertain
  | .cancelRun _ _, _ => watch.uncertain
  | _, _ => watch

/-- The recorder never raises, and a summary counts what was committed. -/
def assumes (watch : Watch) :
    (request : EngineCall) → Except CollectorFault (EngineReply request) →
      Prop
  | .record _ _, reply => reply = .ok ()
  | .summary runId, .ok (committed, available, _) =>
      ∀ tally, watch.tally = some tally → tally.runId = runId →
        committed = tally.committed ∧ available = tally.available
  | _, _ => True

end Watch

def protocol : Protocol EngineCall EngineReply CollectorFault Watch where
  permits := fun _ _ => True
  assumes := Watch.assumes
  advance := Watch.advance

variable {watch : Watch} {Locals α β : Type}

def Returns (watch : Watch) (program : EngineProgram α)
    (post : α → Watch → Prop) : Prop :=
  Yields protocol (fun _ => True) watch program post

theorem returns_any (watch : Watch) (program : EngineProgram α) :
    Returns watch program fun _ _ => True := by
  refine (follows_any (fun _ _ => trivial) program watch).mono ?_
  intro outcome reached _
  cases outcome <;> trivial

theorem ask_returns (watch : Watch) (request : EngineCall) :
    Returns watch (ask request) fun value reached =>
      reached = watch.advance request (.ok value) ∧
        watch.assumes request (.ok value) :=
  yields_perform trivial (fun _ assumed => ⟨rfl, assumed⟩)
    fun _ _ => trivial

theorem silent_steady (steady : Watch → Prop) :
    SilentSteady protocol steady := by
  intro request silent
  cases request <;> first
    | exact leads_perform (fun _ _ => trivial) fun _ _ kept _ => kept
    | cases silent

theorem silently {program : EngineProgram α} {steady : Watch → Prop}
    (leads : Leads protocol steady steady program) (holds : steady watch) :
    Returns watch program fun _ reached => steady reached :=
  (leads.yields holds).weaken fun _ _ => trivial

theorem recorded_returns (watch : Watch) (position : Nat)
    (event : EventName) :
    Returns watch (recorded position event) fun _ reached =>
      reached = watch.append position [SafeEventTranscript.renamed event] := by
  refine ⟨trivial, fun reply assumed => ?_⟩
  have recorded : reply = .ok () := assumed
  subst recorded
  rfl

theorem Watch.append_append (watch : Watch) (position : Nat)
    (earlier later : List EventName) :
    (watch.append position earlier).append position later =
      watch.append position (earlier ++ later) := by
  simp [Watch.append]

section

variable (position : Nat) (previousShortcode : String) (deadline : Option Int)
variable (remainingScrollActions : Option Nat)

def gestureEvent (attempt : Nat) : EventName :=
  if attempt = 1 then .advance else .advanceRetry

theorem attempt_returns {attempt : Nat} {later : List Nat}
    {post : Transition → Watch → Prop}
    (failed : ∀ consumed reason reached, post ⟨none, consumed, reason⟩ reached)
    (moved : ∀ candidate, post ⟨some candidate, attempt, none⟩
      (watch.append position
        [SafeEventTranscript.renamed (gestureEvent attempt)]))
    (retries : Returns
      (watch.append position
        [SafeEventTranscript.renamed (gestureEvent attempt)])
      (gestureAttempts position previousShortcode deadline
        remainingScrollActions later) post) :
    Returns watch
      (gestureAttempts position previousShortcode deadline
        remainingScrollActions (attempt :: later)) post := by
  unfold gestureAttempts
  split
  · exact failed _ _ _
  have advanced : Returns watch
      (do
        requireDeadline deadline
        ask .advance
        return true : EngineProgram Bool)
      fun value reached => value = true → reached = watch := by
    have silent := silent_steady fun reached => reached = watch
    refine (silently ((requireDeadline_leads silent.quiet deadline).bind
      (fun _ => (silent .advance rfl).bind
        (fun _ => leads_pure fun _ kept => kept) fun _ kept => kept)
      fun _ kept => kept) rfl).mono ?_
    intro value reached same _
    exact same
  have tried : Returns watch
      ((do
        requireDeadline deadline
        ask .advance
        return true : EngineProgram Bool).rescue
          (fun fault => fault = .collectorDeadlineExceeded)
          fun _ => pure false)
      fun value reached => value = true → reached = watch :=
    Yields.rescue advanced fun _ _ _ impossible => by cases impossible
  refine Yields.bind tried fun value reached same => ?_
  cases value with
  | false => exact failed _ _ _
  | true =>
      obtain rfl := same rfl
      refine Yields.bind (recorded_returns reached position _) ?_
      intro _ told here
      have silent := silent_steady fun after => after = told
      refine Yields.bind
        (silently (waitForNext_leads silent previousShortcode) rfl) ?_
      intro candidate after same
      subst after
      subst told
      cases candidate with
      | some candidate => exact moved candidate
      | none =>
          refine Yields.bind
            (silently (deadlineExpired_leads silent.quiet deadline) rfl) ?_
          intro expired after same
          subst after
          cases expired with
          | true => exact failed _ _ _
          | false => exact retries

def Moved (engine : CollectorEngine) (watch : Watch)
    (transition : Transition) (reached : Watch) : Prop :=
  transition.nextCandidate.isSome = true →
    ∃ move : Move, (move = .feedSource ↔ engine.authenticatedFeed = true) ∧
      reached = watch.append position move.events

theorem confirmTransition_returns (engine : CollectorEngine) :
    Returns watch
      (confirmTransition engine position previousShortcode deadline
        remainingScrollActions) (Moved position engine watch) := by
  unfold confirmTransition
  split
  · rename_i authenticated
    have silent := silent_steady fun reached => reached = watch
    have asked : Leads protocol (fun reached => reached = watch)
        (fun reached => reached = watch)
        ((ask (.nextFromAuthenticatedFeed previousShortcode true)).rescue
          isTypeError fun _ =>
            ask (.nextFromAuthenticatedFeed previousShortcode false)) :=
      (silent _ rfl).rescue (fun _ => silent _ rfl) fun _ kept => kept
    refine Yields.bind (silently asked rfl) fun candidate reached same => ?_
    subst reached
    cases candidate with
    | none => exact nofun
    | some candidate =>
        refine Yields.bind (recorded_returns watch position _) ?_
        intro _ reached told _
        exact ⟨.feedSource, iff_of_true rfl authenticated, told⟩
  · rename_i gestures
    have gesture : ∀ move : Move, move ≠ .feedSource →
        (move = .feedSource ↔ engine.authenticatedFeed = true) :=
      fun move different => iff_of_false different gestures
    refine attempt_returns position previousShortcode deadline
      remainingScrollActions (fun _ _ _ => nofun)
      (fun _ _ => ⟨.gesture, gesture _ nofun, rfl⟩) ?_
    refine attempt_returns position previousShortcode deadline
      remainingScrollActions (fun _ _ _ => nofun) ?_ nofun
    intro candidate _
    refine ⟨.retriedGesture, gesture _ nofun, ?_⟩
    rw [Watch.append_append]
    rfl

end

section

variable {runId : UUID}

def Watch.acquired (watch : Watch) (position : Nat) (tally : Tally)
    (acquisition : Acquisition) : Watch where
  recordings := (watch.append position acquisition.events).recordings
  tally := some (tally.add acquisition)

def Finishes {ε : Type} (watch : Watch)
    (program : EngineProgram (Except ε α)) (post : α → Watch → Prop) : Prop :=
  Settles protocol (fun _ => True) watch program post

theorem acquireStatements_finishes (engine : CollectorEngine)
    (deadline : Option Int) (progress : Progress) (temporary : TemporaryPath)
    {tally : Tally} (certain : watch.tally = some tally)
    (owner : tally.runId = runId) :
    Finishes watch
      (acquireStatements engine runId deadline progress temporary)
      fun _ reached =>
        reached = watch.acquired progress.position tally .committed := by
  have quiet := fun reached : Watch =>
    (silent_steady fun after => after = reached).quiet
  have cancel : ∀ reached, Returns reached
      (raiseIfCancelRequested engine runId) fun _ after => after = reached :=
    fun reached => silently
      (raiseIfCancelRequested_leads (quiet reached) engine runId) rfl
  have timely : ∀ reached, Returns reached
      (requireDeadline deadline) fun _ after => after = reached :=
    fun reached => silently (requireDeadline_leads (quiet reached) deadline) rfl
  have event := fun reached =>
    recorded_returns reached progress.position
  have named : ∀ reached, Returns reached
      (ofExcept (sourceObjectKey progress.candidate.shortcode))
      fun _ after => after = reached :=
    fun reached => silently ofExcept_leads rfl
  unfold acquireStatements
  refine keeping_settles (cancel _) ?_
  rintro _ _ rfl
  refine keeping_settles (timely _) ?_
  rintro _ _ rfl
  refine keeping_settles (ask_returns _ _) ?_
  rintro _ _ ⟨rfl, _⟩
  refine keeping_settles (event _ _) ?_
  rintro _ _ rfl
  refine keeping_settles (timely _) ?_
  rintro _ _ rfl
  refine keeping_settles (ask_returns _ _) ?_
  rintro validated _ ⟨rfl, _⟩
  refine keeping_settles (event _ _) ?_
  rintro _ _ rfl
  refine keeping_settles (timely _) ?_
  rintro _ _ rfl
  split
  · trivial
  refine keeping_settles (cancel _) ?_
  rintro _ _ rfl
  refine keeping_settles (timely _) ?_
  rintro _ _ rfl
  refine keeping_settles (named _) ?_
  rintro objectKey _ rfl
  refine keeping_settles (ask_returns _ _) ?_
  rintro published _ ⟨rfl, _⟩
  refine keeping_settles (event _ _) ?_
  rintro _ _ rfl
  refine keeping_settles (timely _) ?_
  rintro _ _ rfl
  refine keeping_settles (ask_returns _ _) ?_
  rintro _ _ ⟨rfl, _⟩
  refine keeping_settles (event _ _) ?_
  rintro _ _ rfl
  refine keeping_settles (timely _) ?_
  rintro _ _ rfl
  refine settles_ok ?_
  simp [Watch.advance, Watch.append, Watch.counted, Watch.acquired,
    SafeEventTranscript.renamed, Acquisition.events, certain, owner]

theorem handled_returns (runId : UUID) (candidate : ReelCandidate)
    (interrupted : Interrupted Acquiring) (watch : Watch) :
    Returns watch (handleAcquisitionFault runId candidate interrupted)
      fun outcome _ => ∀ bytes, outcome ≠ .ok bytes := by
  unfold handleAcquisitionFault
  dsimp only
  split
  · exact Yields.bind (returns_any _ _) fun _ _ _ => trivial
  · trivial
  · refine Yields.bind (returns_any _ _) fun failed reached _ => ?_
    split
    · exact nofun
    · exact Yields.bind (returns_any _ _) fun _ _ _ => nofun

theorem acquire_finishes (engine : CollectorEngine) (deadline : Option Int)
    (progress : Progress) {tally : Tally}
    (certain : watch.tally = some tally) (owner : tally.runId = runId) :
    Finishes watch (acquire engine runId deadline progress)
      fun _ reached =>
        reached = watch.acquired progress.position tally .committed := by
  unfold acquire
  refine Yields.bind (ask_returns watch (.temporaryPath _)) ?_
  rintro temporary watch ⟨rfl, _⟩
  have statements := acquireStatements_finishes engine deadline progress
    temporary certain owner
  refine Yields.ensure (Yields.bind statements
    fun outcome reached holds => ?_) ?_ ?_
  · cases outcome with
    | ok bytes => exact holds
    | error interrupted =>
        refine (handled_returns runId progress.candidate interrupted
          reached).mono fun value after refused => ?_
        cases value with
        | ok bytes => exact absurd rfl (refused bytes)
        | error reason => trivial
  · intro outcome reached holds
    have cleaned : Leads protocol (fun after => after = reached)
        (fun after => after = reached)
        (swallow (ask (.cleanupTemporary temporary))) :=
      swallow_leads (leads_perform (fun _ _ => trivial) fun _ _ kept _ => kept)
    refine Yields.mono (silently cleaned rfl) fun _ after same => ?_
    subst after
    exact holds
  · intro reached _
    exact (returns_any _ _)

theorem process_finishes (engine : CollectorEngine) (deadline : Option Int)
    (progress : Progress) (accountOwned : Bool)
    (status : Option ReelPipelineStatus) {tally : Tally}
    (certain : watch.tally = some tally) (owner : tally.runId = runId) :
    Finishes watch
      (process engine runId deadline progress accountOwned status)
      fun processed reached =>
        processed.position = progress.position ∧
        processed.observations = progress.observations ∧
        ∃ acquisition : Acquisition,
          (acquisition = .skipped → accountOwned = true) ∧
          reached = watch.acquired progress.position tally acquisition := by
  unfold process
  split
  · rename_i owned
    refine Yields.bind (recorded_returns _ _ _) ?_
    rintro _ _ rfl
    refine ⟨rfl, rfl, .skipped, fun _ => owned, ?_⟩
    simp [Watch.append, Watch.acquired, SafeEventTranscript.renamed,
      Acquisition.events, Tally.add, certain]
  split
  · have available : Returns watch
        ((do
          ask (.commitAvailable runId progress.candidate)
          return true : EngineProgram Bool).rescue
            CollectorFault.isException fun _ => pure false)
        fun committed reached => committed = true →
          reached = watch.counted runId .available := by
      refine Yields.rescue ?_ fun _ _ _ clash => by cases clash
      exact Yields.bind (ask_returns _ _) fun _ _ holds _ => holds.1
    refine Yields.bind available fun committed reached holds => ?_
    cases committed with
    | false => trivial
    | true =>
        obtain rfl := holds rfl
        refine Yields.bind (recorded_returns _ _ _) ?_
        rintro _ _ rfl
        refine ⟨rfl, rfl, .available, (fun clash => by cases clash), ?_⟩
        simp [Watch.append, Watch.counted, Watch.acquired,
          SafeEventTranscript.renamed, Acquisition.events, certain, owner]
  · refine Yields.bind (acquire_finishes engine deadline progress certain
      owner) fun outcome reached holds => ?_
    cases outcome with
    | error reason => trivial
    | ok bytes => exact ⟨rfl, rfl, .committed, (fun clash => by cases clash),
        holds⟩

end

def Tally.total (tally : Tally) : Nat := tally.committed + tally.available

def tallyOf (runId : UUID) (acquisitions : List Acquisition) : Tally where
  runId := runId
  committed := acquisitions.count .committed
  available := acquisitions.count .available

theorem tallyOf_append (runId : UUID) (earlier : List Acquisition)
    (acquisition : Acquisition) :
    tallyOf runId (earlier ++ [acquisition]) =
      (tallyOf runId earlier).add acquisition := by
  cases acquisition <;> simp [tallyOf, Tally.add]

theorem total_of_unskipped (runId : UUID) {acquisitions : List Acquisition}
    (unskipped : .skipped ∉ acquisitions) :
    (tallyOf runId acquisitions).total = acquisitions.length := by
  induction acquisitions with
  | nil => rfl
  | cons acquisition later ih =>
      rw [List.mem_cons, not_or] at unskipped
      have rest := ih unskipped.2
      simp only [Tally.total, tallyOf] at rest ⊢
      cases acquisition with
      | skipped => exact absurd rfl unskipped.1
      | available =>
          simp
          omega
      | committed =>
          simp
          omega

structure Saw (engine : CollectorEngine) (request : CollectRequest)
    (runId : UUID) (walk : Walk) (watch : Watch) : Prop where
  recordings : watch.recordings = walk.transcript
  tally : watch.tally = some (tallyOf runId walk.acquisitions)
  moves : ∀ pass ∈ walk.passes,
    (pass.move = .feedSource ↔ engine.authenticatedFeed = true)
  unskipped : request.desiredAccountTotal = none →
    .skipped ∉ walk.acquisitions
  short : (tallyOf runId (walk.passes.map (·.acquisition))).total <
    request.targetCount
  limited : ∀ limit, engine.limits.maxObservations = some limit →
    walk.passes.length < limit

structure Passed (engine : CollectorEngine) (request : CollectRequest)
    (runId : UUID) (passes : List Pass) (progress : Progress)
    (watch : Watch) : Prop where
  recordings : watch.recordings = written 1 (passes.map Pass.events)
  tally : watch.tally =
    some (tallyOf runId (passes.map (·.acquisition)))
  moves : ∀ pass ∈ passes,
    (pass.move = .feedSource ↔ engine.authenticatedFeed = true)
  unskipped : request.desiredAccountTotal = none →
    .skipped ∉ passes.map (·.acquisition)
  short : (tallyOf runId (passes.map (·.acquisition))).total <
    request.targetCount
  position : progress.position = passes.length + 1
  observations : progress.observations = passes.length

def Completes (engine : CollectorEngine) (request : CollectRequest)
    (runId : UUID) (summary : CollectorSummary) (watch : Watch) : Prop :=
  summary.status = .completed →
    ∃ walk, Saw engine request runId walk watch ∧
      summary.runId = runId ∧
      summary.observations = walk.passes.length + 1 ∧
      request.targetCount ≤ (tallyOf runId walk.acquisitions).total

def Ends (walk : Walk) (progress : Progress) : Prop :=
  progress.position = walk.passes.length + 1 ∧
    progress.observations = walk.passes.length + 1

def Short (engine : CollectorEngine) (request : CollectRequest)
    (runId : UUID) (progress : Progress) (watch : Watch) : Prop :=
  ∃ walk, Saw engine request runId walk watch ∧ Ends walk progress ∧
    (tallyOf runId walk.acquisitions).total < request.targetCount

def Limited (engine : CollectorEngine) (progress : Progress) : Prop :=
  ∀ limit, engine.limits.maxObservations = some limit →
    progress.observations < limit

section

variable {engine : CollectorEngine} {request : CollectRequest} {runId : UUID}

theorem endRules : EndRules protocol (fun _ => True) runId where
  quiet := (silent_steady _).quiet
  fails := fun _ => leads_perform (fun _ _ => trivial) fun _ _ _ _ => trivial
  cancels := fun _ => leads_perform (fun _ _ => trivial) fun _ _ _ _ => trivial

def completion (request : CollectRequest) (runId : UUID) : EngineProgram Bool :=
  match request.desiredAccountTotal with
  | some desiredTotal =>
      ask (.completeIfAccountDurableTotal runId desiredTotal)
  | none => do
      ask (.completeRun runId)
      return true

theorem completion_returns (watch : Watch) :
    Returns watch (completion request runId)
      fun _ reached => reached = watch := by
  unfold completion
  split
  · exact (ask_returns _ _).mono fun _ _ holds => holds.1
  · exact Yields.bind (ask_returns _ _) fun _ _ holds => holds.1

theorem complete_returns (watch : Watch) (counts : Counts) :
    Returns watch (complete request runId counts)
      fun summary reached => summary.status = .completed →
        reached = watch ∧ summary.runId = runId ∧
          summary.observations = counts.observations := by
  have refused : ∀ reached stored reason, Returns reached
      (do
        safeFailRun runId stored
        summarize runId request.targetCount counts reason .failed)
      fun summary after => summary.status = .completed →
        after = watch ∧ summary.runId = runId ∧
          summary.observations = counts.observations := by
    intro reached stored reason
    refine (failed_yields endRules _ _ _ _ trivial).mono ?_
    intro summary after unfinished done
    exact absurd done unfinished.2
  refine Follows.attempt (completion_returns watch) ?_
  intro outcome reached holds
  cases outcome with
  | ok finished =>
      subst holds
      cases finished with
      | true =>
          have quiet := (silent_steady fun after => after = reached).quiet
          refine ((summarize_yields quiet runId _ counts none .completed
            rfl).weaken fun _ _ => trivial).mono ?_
          intro summary after shape _
          exact ⟨shape.1, shape.2.1, shape.2.2.2⟩
      | false => exact refused _ _ _
  | error fault =>
      dsimp only
      split
      · exact refused _ _ _
      · trivial

theorem Saw.passed {walk : Walk} {progress advanced : Progress}
    (saw : Saw engine request runId walk watch)
    (here : progress.position = walk.passes.length + 1)
    (short : (tallyOf runId walk.acquisitions).total < request.targetCount)
    {move : Move}
    (fits : move = .feedSource ↔ engine.authenticatedFeed = true)
    (position : advanced.position = progress.position + 1)
    (observations : advanced.observations = walk.passes.length + 1) :
    Passed engine request runId (walk.passes ++ [⟨walk.last, move⟩]) advanced
      (watch.append progress.position
        ([.cooldown] ++ move.events ++ [.transitionConfirmed])) where
  recordings := by
    simp only [Watch.append, saw.recordings, Walk.transcript, here,
      List.map_append, List.map_cons, List.map_nil, written_append, written,
      List.append_nil, List.length_map, List.append_assoc]
    simp [Pass.events, Nat.add_comm]
  tally := by
    simpa [Watch.append, Walk.acquisitions] using saw.tally
  moves := by
    intro pass member
    rcases List.mem_append.mp member with earlier | latest
    · exact saw.moves pass earlier
    · rw [List.mem_singleton.mp latest]
      exact fits
  unskipped := by
    intro unlimited
    simpa [Walk.acquisitions] using saw.unskipped unlimited
  short := by simpa [Walk.acquisitions] using short
  position := by simp [position, here]
  observations := by simp [observations]

theorem Passed.saw {passes : List Pass} {progress : Progress}
    (passed : Passed engine request runId passes progress watch)
    {acquisition : Acquisition}
    (unskipped : request.desiredAccountTotal = none → acquisition ≠ .skipped)
    (limited : Limited engine progress) :
    Saw engine request runId ⟨passes, acquisition⟩
      ((watch.append progress.position [.detect, .pause]).acquired
        progress.position (tallyOf runId (passes.map (·.acquisition)))
        acquisition) where
  recordings := by
    simp only [Watch.acquired, Watch.append, passed.recordings,
      passed.position, Walk.transcript, written_append, written,
      List.length_map, List.append_nil, List.append_assoc]
    simp [observed, Nat.add_comm]
  tally := by
    rw [Walk.acquisitions, tallyOf_append]
    rfl
  moves := passed.moves
  unskipped := by
    intro unlimited
    have earlier := passed.unskipped unlimited
    have latest := unskipped unlimited
    simp only [Walk.acquisitions, List.mem_append, List.mem_singleton, not_or]
    exact ⟨earlier, latest.symm⟩
  short := passed.short
  limited := by
    intro limit bound
    have below := limited limit bound
    rwa [passed.observations] at below

theorem detect_returns (watch : Watch) (progress : Progress) :
    Returns watch (detect progress) fun _ reached =>
      reached = watch.append progress.position [.detect, .pause] := by
  have silent := fun reached : Watch => silent_steady fun after =>
    after = reached
  refine Yields.bind (recorded_returns _ _ _) ?_
  rintro _ _ rfl
  refine Yields.bind (silently (silent _ .pauseCurrent rfl) rfl) ?_
  rintro _ _ rfl
  refine Yields.bind (recorded_returns _ _ _) ?_
  rintro _ _ rfl
  rw [Watch.append_append]
  exact silently (silent _ (.reelStatus _) rfl) rfl

theorem coolDown_returns (cooling : engine.limits.cooldownSeconds ≠ 0)
    (deadline : Option Int) (progress : Progress) :
    Returns watch (coolDown engine deadline progress) fun _ reached =>
      reached = watch.append progress.position [.cooldown] := by
  have quiet := fun reached : Watch =>
    (silent_steady fun after => after = reached).quiet
  unfold coolDown
  rw [if_pos cooling]
  refine Yields.bind
    (silently (requireDeadline_leads (quiet _) deadline) rfl) ?_
  rintro _ _ rfl
  refine Yields.bind (recorded_returns _ _ _) ?_
  rintro _ _ rfl
  refine Yields.bind (silently (quiet _ (.sleep _) rfl) rfl) ?_
  rintro _ _ rfl
  exact silently (deadlineExpired_leads (quiet _) deadline) rfl

theorem starting_passed (positive : 0 < request.targetCount)
    (candidate : ReelCandidate) :
    Passed engine request runId [] (startingProgress candidate)
      (Watch.initial (some runId)) where
  recordings := rfl
  tally := rfl
  moves := nofun
  unskipped := fun _ => List.not_mem_nil
  short := positive
  position := rfl
  observations := rfl

def walking (engine : CollectorEngine) (request : CollectRequest)
    (runId : UUID) : CollectStates Watch where
  started := fun watch => watch = Watch.initial (some runId)
  watching := fun progress watch =>
    ∃ passes, Passed engine request runId passes progress watch
  owning := fun progress owned watch =>
    (∃ passes, Passed engine request runId passes progress watch) ∧
      Limited engine progress ∧
      (request.desiredAccountTotal = none → owned = false)
  detected := fun progress owned _ watch => ∃ passes before,
    Passed engine request runId passes progress before ∧
      Limited engine progress ∧
      (request.desiredAccountTotal = none → owned = false) ∧
      watch = before.append progress.position [.detect, .pause]
  acquired := fun counts progress watch => ∃ walk,
    Saw engine request runId walk watch ∧ Ends walk progress ∧
      counts.observations = walk.passes.length + 1
  enough := fun counts watch => ∃ walk,
    Saw engine request runId walk watch ∧
      counts.observations = walk.passes.length + 1 ∧
      request.targetCount ≤ (tallyOf runId walk.acquisitions).total
  short := Short engine request runId
  cooled := fun progress watch => ∃ before,
    Short engine request runId progress before ∧
      watch = before.append progress.position [.cooldown]
  moved := fun progress transition watch => ∃ before,
    Short engine request runId progress before ∧
      Moved progress.position engine
        (before.append progress.position [.cooldown]) transition watch
  ended := fun _ => True
  done := Completes engine request runId

theorem walking_rules (cooling : engine.limits.cooldownSeconds ≠ 0)
    (positive : 0 < request.targetCount) :
    CollectRules protocol (walking engine request runId) engine request
      runId where
  endings := endRules
  starts := by
    intro watch start
    have silent := silent_steady fun reached => reached = watch
    have opened : Leads protocol (fun reached => reached = watch)
        (fun reached => reached = watch) (firstCandidate engine runId) :=
      (raiseIfCancelRequested_leads silent.quiet engine runId).bind
        (fun _ => (silent .current rfl).bind (fun _ => ofExcept_leads)
          fun _ kept => kept) fun _ kept => kept
    refine Yields.mono (silently opened rfl) fun candidate reached same => ?_
    subst reached
    subst start
    exact ⟨[], starting_passed positive candidate⟩
  watchingQuiet := fun _ => (silent_steady _).quiet
  watchingEnds := fun _ _ _ => trivial
  owns := by
    intro progress watch passed within
    have limited : Limited engine progress := by
      intro limit bound
      simpa [bound] using within
    unfold queryOwned
    split
    · rename_i desiredTotal limit
      have asked := silent_steady (fun reached => reached = watch)
        (.accountHasDurableReel request.accountId progress.candidate.shortcode)
        rfl
      refine Yields.mono (silently asked rfl) fun owned reached same => ?_
      subst reached
      refine ⟨passed, limited, fun unlimited => ?_⟩
      rw [limit] at unlimited
      cases unlimited
    · exact ⟨passed, limited, fun _ => rfl⟩
  owningEnds := fun _ _ _ _ => trivial
  detects := by
    intro progress owned watch holds fresh
    obtain ⟨⟨passes, passed⟩, limited, unowned⟩ := holds
    refine Yields.mono (detect_returns watch progress) ?_
    intro status reached same
    exact ⟨passes, watch, passed, limited, unowned, same⟩
  processes := by
    intro deadline progress owned status watch holds
    obtain ⟨passes, before, passed, limited, unowned, rfl⟩ := holds
    refine Settles.mono (process_finishes engine deadline _ owned status
      passed.tally rfl) fun processed reached holds => ?_
    obtain ⟨position, observations, acquisition, skips, rfl⟩ := holds
    have unskipped : request.desiredAccountTotal = none →
        acquisition ≠ .skipped := by
      intro unlimited skipped
      have owns := skips skipped
      rw [unowned unlimited] at owns
      cases owns
    have counted : progress.observations + 1 = passes.length + 1 :=
      congrArg (· + 1) passed.observations
    refine ⟨⟨passes, acquisition⟩, passed.saw unskipped limited, ?_, counted⟩
    exact ⟨position.trans passed.position, observations.trans counted⟩
  counts := by
    intro counts progress watch holds
    obtain ⟨walk, saw, ends, observed⟩ := holds
    refine Yields.mono (ask_returns watch (.summary runId)) ?_
    intro stored reached answered
    obtain ⟨same, counted⟩ := answered
    obtain ⟨committed, available⟩ := counted _ saw.tally rfl
    have total : stored.1 + stored.2.1 =
        (tallyOf runId walk.acquisitions).total := by
      rw [Tally.total, committed, available]
    have still : reached = watch := same
    subst still
    split
    · rename_i reaches
      exact ⟨walk, saw, observed, total ▸ reaches⟩
    · rename_i missing
      exact ⟨walk, saw, ends, total ▸ Nat.lt_of_not_le missing⟩
  completes := by
    intro counts watch holds
    obtain ⟨walk, saw, observed, reaches⟩ := holds
    refine Yields.mono (complete_returns watch counts) ?_
    intro summary reached shape completed
    obtain ⟨rfl, owner, counted⟩ := shape completed
    exact ⟨walk, saw, owner, counted.trans observed, reaches⟩
  shortQuiet := fun _ => (silent_steady _).quiet
  shortEnds := fun _ _ _ => trivial
  cools := by
    intro deadline progress watch short
    refine Yields.mono (coolDown_returns cooling deadline progress) ?_
    intro expired reached same
    exact ⟨watch, short, same⟩
  cooledQuiet := fun _ => (silent_steady _).quiet
  cooledEnds := fun _ _ _ => trivial
  moves := by
    intro deadline progress watch cooled
    obtain ⟨before, short, rfl⟩ := cooled
    refine Yields.mono (confirmTransition_returns progress.position _ deadline
      _ engine) ?_
    intro transition reached moved
    exact ⟨before, short, moved⟩
  movedEnds := fun _ _ _ _ => trivial
  confirms := by
    intro progress transition candidate watch holds found _ _
    obtain ⟨before, ⟨walk, saw, ends, short⟩, moved⟩ := holds
    obtain ⟨move, fits, rfl⟩ := moved (by rw [found]; rfl)
    refine Yields.mono (recorded_returns _ _ _) fun _ reached told => ?_
    subst told
    rw [Watch.append_append, Watch.append_append]
    exact ⟨_, saw.passed ends.1 short fits rfl ends.2⟩
  finishes := fun _ _ _ unfinished completed => absurd completed unfinished
  doneEnds := fun _ _ _ => trivial
  doneQuiet := fun _ => (silent_steady _).quiet

end

theorem accepted_target {limits : CollectorLimits} {request : CollectRequest}
    (accepted : argumentsAccepted limits request = true) :
    0 < request.targetCount ∧ request.targetCount ≤ limits.maxTarget := by
  simp only [argumentsAccepted, Bool.and_eq_true, decide_eq_true_eq]
    at accepted
  omega

theorem collect_returns {engine : CollectorEngine} (request : CollectRequest)
    (cooling : engine.limits.cooldownSeconds ≠ 0) :
    Returns (Watch.initial request.claimedRunId) (engine.collect request)
      fun summary watch =>
        argumentsAccepted engine.limits request = true ∧
          Completes engine request summary.runId summary watch := by
  have obtained : Returns (Watch.initial request.claimedRunId)
      (obtainRun request) fun runId reached =>
        reached = Watch.initial (some runId) := by
    unfold obtainRun
    split
    · rename_i runId claimed
      rw [claimed]
      exact yields_pure rfl
    · rename_i created
      rw [created]
      exact (ask_returns _ _).mono fun _ _ holds => holds.1
  refine Yields.mono (collect_yields (walking engine request) engine request
    (fun _ => (silent_steady _).quiet)
    (fun _ accepted => walking_rules cooling (accepted_target accepted).1)
    (fun _ _ _ => trivial) obtained trivial fun _ _ _ => trivial) ?_
  intro summary watch holds
  obtain ⟨accepted, runId, completes⟩ := holds
  refine ⟨accepted, fun completed => ?_⟩
  obtain ⟨walk, saw, rfl, rest⟩ := completes completed
  exact ⟨walk, saw, rfl, rest⟩

end OfflineReels.Collector.RecordedRuns
