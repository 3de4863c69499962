import OfflineReels.Collector.Canonical

namespace OfflineReels.Collector

open OfflineReels.Foundation
open OfflineReels.Instagram

/-! Sequential Collector orchestration. -/

structure CollectorLimits where
  maxTarget : Nat := 5
  maxAdvances : Nat := 10
  maxTransitionOperations : Option Nat := none
  maxScrollActions : Option Nat := none
  maxRunBytes : Option Nat := none
  cooldownSeconds : Int := 0
  deadlineSeconds : Option Int := none
  maxObservations : Option Nat := none
  deriving DecidableEq, Repr

structure CollectorSummary where
  runId : UUID
  status : CollectionRunStatus
  targetCount : Nat
  sourceCommittedCount : Nat
  alreadyAvailableCount : Nat
  failedCount : Nat
  confirmedAdvances : Nat
  stopReasonCode : Option String
  observations : Nat
  duplicateSkippedCount : Nat
  deriving DecidableEq, Repr

/-- The limits, and which optional methods the feed and the persistence have. -/
structure CollectorEngine where
  limits : CollectorLimits
  authenticatedFeed : Bool
  cancellationProbe : Bool
  deriving DecidableEq, Repr

/-- One call of `collect`. -/
structure CollectRequest where
  accountId : UUID
  trigger : CollectionTrigger
  targetCount : Nat
  desiredAccountTotal : Option Nat
  claimedRunId : Option UUID
  deriving DecidableEq, Repr

/-- The local variables of the collection loop. -/
structure Progress where
  candidate : ReelCandidate
  position : Nat
  confirmedAdvances : Nat
  transitionOperations : Nat
  scrollActions : Nat
  committedBytes : Nat
  seen : List String
  duplicateSkippedCount : Nat
  observations : Nat
  deriving DecidableEq, Repr

structure Interrupted (Locals : Type) where
  fault : CollectorFault
  locals : Locals

/-- Run a statement; a fault keeps the local variables for the handlers. -/
def keeping {Locals α β : Type} (locals : Locals) (statement : EngineProgram α)
    (next : α → EngineProgram (Except (Interrupted Locals) β)) :
    EngineProgram (Except (Interrupted Locals) β) :=
  statement.attempt fun
    | .ok value => next value
    | .error fault => pure (.error ⟨fault, locals⟩)

def ofExcept {α : Type} (outcome : Except CollectorFault α) :
    EngineProgram α :=
  .done outcome

/-- `except Exception: pass` -/
def swallow (statement : EngineProgram Unit) : EngineProgram Unit :=
  statement.rescue CollectorFault.isException fun _ => pure ()

namespace CollectorEngine

open Program

def recorded (position : Nat) (event : EventName) : EngineProgram Unit :=
  (ask (.record position event)).attempt fun
    | .ok _ => pure ()
    | .error .typeError => swallow (ask (.recordEvent event))
    | .error fault => if fault.isException then pure () else raise fault

def deadlineExpired (deadline : Option Int) : EngineProgram Bool :=
  match deadline with
  | none => pure false
  | some deadline => do
      let now ← ask .clock
      return decide (deadline ≤ now)

def requireDeadline (deadline : Option Int) : EngineProgram Unit := do
  if ← deadlineExpired deadline then raise .collectorDeadlineExceeded
  else pure ()

def raiseIfCancelRequested (engine : CollectorEngine) (runId : UUID) :
    EngineProgram Unit :=
  if engine.cancellationProbe then do
    if ← ask (.cancellationRequested runId) then raise .keyboardInterrupt
    else pure ()
  else pure ()

def isTypeError (fault : CollectorFault) : Bool := fault = .typeError

def waitForNext (shortcode : String) :
    EngineProgram (Option ReelCandidate) :=
  (ask (.waitForNext shortcode true)).rescue isTypeError
    fun _ => ask (.waitForNext shortcode false)

def safeExceptionCode : CollectorFault → Option String
  | .coded value => some value
  | _ => none

def cleanupTemporary (path : TemporaryPath) : EngineProgram Unit :=
  swallow (ask (.cleanupTemporary path))

def safeFailRun (runId : UUID) (reasonCode : String) : EngineProgram Unit :=
  swallow (ask (.failRun runId reasonCode))

def safeCancelRun (runId : UUID) : EngineProgram Unit :=
  swallow do
    let _ ← ask (.cancelRun runId "CANCELLED_BY_USER")
    pure ()

structure Counts where
  confirmedAdvances : Nat
  observations : Nat
  duplicateSkippedCount : Nat

def Counts.ofProgress (progress : Progress) : Counts where
  confirmedAdvances := progress.confirmedAdvances
  observations := progress.observations
  duplicateSkippedCount := progress.duplicateSkippedCount

/-- `_summary`; the expected status replaces the one that was read. -/
def summarize (runId : UUID) (targetCount : Nat) (counts : Counts)
    (reason : Option String) (expectedStatus : CollectionRunStatus) :
    EngineProgram CollectorSummary := do
  let (committed, available, failed, _) ←
    (ask (.summary runId)).rescue CollectorFault.isException
      fun _ => pure (0, 0, 0, expectedStatus)
  return {
    runId := runId
    status := expectedStatus
    targetCount := targetCount
    sourceCommittedCount := committed
    alreadyAvailableCount := available
    failedCount := failed
    confirmedAdvances := counts.confirmedAdvances
    stopReasonCode := reason
    observations := counts.observations
    duplicateSkippedCount := counts.duplicateSkippedCount }

structure Transition where
  nextCandidate : Option ReelCandidate
  consumedScrollActions : Nat
  reason : Option String
  deriving DecidableEq, Repr

def nextFromAuthenticatedFeed (position : Nat) (previousShortcode : String) :
    EngineProgram Transition := do
  let nextCandidate ←
    (ask (.nextFromAuthenticatedFeed previousShortcode true)).rescue
      isTypeError
      fun _ => ask (.nextFromAuthenticatedFeed previousShortcode false)
  match nextCandidate with
  | some candidate =>
      recorded position .feedSourceAdvance
      return ⟨some candidate, 0, none⟩
  | none => return ⟨none, 0, some "AUTHENTICATED_FEED_EXHAUSTED"⟩

/-- The gesture attempts that are left; the source loops over `(1, 2)`. -/
def gestureAttempts (position : Nat) (previousShortcode : String)
    (deadline : Option Int) (remainingScrollActions : Option Nat) :
    List Nat → EngineProgram Transition
  | [] => return ⟨none, 2, some "TRANSITION_FAILED"⟩
  | attempt :: later => do
      if remainingScrollActions.any (· < attempt) then
        return ⟨none, attempt - 1, some "ADVANCE_LIMIT_REACHED"⟩
      else
        let advanced : EngineProgram Bool := do
          requireDeadline deadline
          ask .advance
          return true
        if ← advanced.rescue (fun fault => fault = .collectorDeadlineExceeded)
            fun _ => pure false then
          recorded position (if attempt = 1 then .advance else .advanceRetry)
          match ← waitForNext previousShortcode with
          | some candidate => return ⟨some candidate, attempt, none⟩
          | none =>
              if ← deadlineExpired deadline then
                return ⟨none, attempt, some "TOTAL_TIMEOUT_REACHED"⟩
              else
                gestureAttempts position previousShortcode deadline
                  remainingScrollActions later
        else return ⟨none, attempt - 1, some "TOTAL_TIMEOUT_REACHED"⟩

def confirmTransition (engine : CollectorEngine) (position : Nat)
    (previousShortcode : String) (deadline : Option Int)
    (remainingScrollActions : Option Nat) : EngineProgram Transition :=
  if engine.authenticatedFeed then
    nextFromAuthenticatedFeed position previousShortcode
  else
    gestureAttempts position previousShortcode deadline remainingScrollActions
      [1, 2]

inductive Stage
  | download
  | validation
  | publication
  | database
  deriving DecidableEq, Repr

/-- The local variables that the handlers of an acquisition read. -/
structure Acquiring where
  stage : Stage
  downloadAttempted : Bool
  published : Option PublishedSource
  dbCommitted : Bool
  reason : Option String
  deriving DecidableEq, Repr

def Acquiring.initial : Acquiring where
  stage := .download
  downloadAttempted := false
  published := none
  dbCommitted := false
  reason := none

def Acquiring.compensated (acquiring : Acquiring) : Option SourceObjectKey :=
  if acquiring.dbCommitted then none
  else
    match acquiring.published with
    | some published =>
        if published.createdByAttempt then some published.objectKey else none
    | none => none

def acquireStatements (engine : CollectorEngine) (runId : UUID)
    (deadline : Option Int) (progress : Progress) (temporary : TemporaryPath) :
    EngineProgram (Except (Interrupted Acquiring) Nat) :=
  let starting := Acquiring.initial
  keeping starting (raiseIfCancelRequested engine runId) fun _ =>
  keeping starting (requireDeadline deadline) fun _ =>
  let downloading := { starting with downloadAttempted := true }
  keeping downloading (ask (.download progress.candidate temporary)) fun _ =>
  keeping downloading (recorded progress.position .download) fun _ =>
  keeping downloading (requireDeadline deadline) fun _ =>
  let validating := { downloading with stage := .validation }
  keeping validating (ask (.validate temporary)) fun validated =>
  keeping validating (recorded progress.position .validation) fun _ =>
  keeping validating (requireDeadline deadline) fun _ =>
  if engine.limits.maxRunBytes.any fun limit =>
      limit < progress.committedBytes + validated.byteSize then
    pure (.error ⟨.collectorLimitExceeded,
      { validating with reason := some "RUN_BYTE_LIMIT_EXCEEDED" }⟩)
  else
  let publishing := { validating with stage := .publication }
  keeping publishing (raiseIfCancelRequested engine runId) fun _ =>
  keeping publishing (requireDeadline deadline) fun _ =>
  keeping publishing (ofExcept (sourceObjectKey progress.candidate.shortcode))
    fun objectKey =>
  keeping publishing (ask (.publish temporary objectKey)) fun published =>
  let storing := { publishing with published := some published }
  keeping storing (recorded progress.position .publication) fun _ =>
  keeping storing (requireDeadline deadline) fun _ =>
  let committing := { storing with stage := .database }
  keeping committing (ask (.commitSource runId progress.candidate validated
    published.objectKey)) fun _ =>
  let committed := { committing with dbCommitted := true }
  keeping committed (recorded progress.position .dbCommit) fun _ =>
  keeping committed (requireDeadline deadline) fun _ =>
  pure (.ok validated.byteSize)

/-- Whether the compensation failed. -/
def compensate (acquiring : Acquiring) : EngineProgram Bool :=
  match acquiring.compensated with
  | none => pure false
  | some objectKey =>
      (do ask (.delete objectKey); return false : EngineProgram Bool).rescue
        CollectorFault.isException fun _ => pure true

def failureReason (fault : CollectorFault) (acquiring : Acquiring)
    (compensationFailed : Bool) : String :=
  if fault = .collectorDeadlineExceeded then "TOTAL_TIMEOUT_REACHED"
  else
    match acquiring.reason, safeExceptionCode fault with
    | some reason, _ => reason
    | none, some code => code
    | none, none =>
        if acquiring.published.isSome then
          if compensationFailed then
            "DATABASE_WRITE_FAILED_COMPENSATION_FAILED"
          else "DATABASE_WRITE_FAILED"
        else
          match acquiring.stage with
          | .validation => "VALIDATION_FAILED"
          | .publication => "STORAGE_FAILED"
          | _ => "DOWNLOAD_FAILED"

def handleAcquisitionFault (runId : UUID) (candidate : ReelCandidate)
    (interrupted : Interrupted Acquiring) :
    EngineProgram (Except String Nat) := do
  let acquiring := interrupted.locals
  match interrupted.fault with
  | .keyboardInterrupt =>
      let _ ← compensate acquiring
      raise .keyboardInterrupt
  | .baseException => raise .baseException
  | fault =>
      let compensationFailed ← compensate acquiring
      let reason := failureReason fault acquiring compensationFailed
      if acquiring.dbCommitted then pure (.error reason)
      else
        swallow (ask (.recordFailure runId candidate reason
          acquiring.downloadAttempted))
        pure (.error reason)

/-- The committed bytes, or the reason to stop. -/
def acquire (engine : CollectorEngine) (runId : UUID)
    (deadline : Option Int) (progress : Progress) :
    EngineProgram (Except String Nat) := do
  let temporary ← ask (.temporaryPath progress.candidate.shortcode)
  ensure
    (do
      match ← acquireStatements engine runId deadline progress temporary with
      | .ok bytes => return .ok bytes
      | .error interrupted =>
          handleAcquisitionFault runId progress.candidate interrupted)
    (cleanupTemporary temporary)

/-- What one observation does with a Reel that was detected and paused. -/
def process (engine : CollectorEngine) (runId : UUID)
    (deadline : Option Int) (progress : Progress) (accountOwned : Bool)
    (status : Option ReelPipelineStatus) :
    EngineProgram (Except String Progress) := do
  if accountOwned then
    recorded progress.position .duplicateSkipped
    return .ok progress
  else if status.any (· ∈ [.sourceReady, .normalizing, .ready]) then
    let committed ←
      (do
        ask (.commitAvailable runId progress.candidate)
        return true : EngineProgram Bool).rescue
          CollectorFault.isException fun _ => pure false
    if committed then
      recorded progress.position .dbCommit
      return .ok progress
    else return .error "DATABASE_WRITE_FAILED"
  else
    match ← acquire engine runId deadline progress with
    | .ok bytes =>
        return .ok { progress with
          committedBytes := progress.committedBytes + bytes }
    | .error reason => return .error reason

abbrev Exit : Type := Except (Interrupted Counts) CollectorSummary

def stop (request : CollectRequest) (runId : UUID) (counts : Counts)
    (reason : String) : EngineProgram Exit :=
  keeping counts
    (do
      safeFailRun runId reason
      summarize runId request.targetCount counts (some reason) .failed)
    fun summary => pure (.ok summary)

def complete (request : CollectRequest) (runId : UUID) (counts : Counts) :
    EngineProgram CollectorSummary :=
  let completed : EngineProgram Bool :=
    match request.desiredAccountTotal with
    | some desiredTotal =>
        ask (.completeIfAccountDurableTotal runId desiredTotal)
    | none => do
        ask (.completeRun runId)
        return true
  completed.attempt fun
    | .ok true =>
        summarize runId request.targetCount counts none .completed
    | .ok false => do
        safeFailRun runId "FINAL_DURABLE_TOTAL_MISMATCH"
        summarize runId request.targetCount counts
          (some "FINAL_DURABLE_TOTAL_MISMATCH") .failed
    | .error fault =>
        if fault.isException then do
          safeFailRun runId "DATABASE_WRITE_FAILED"
          summarize runId request.targetCount counts
            (some "DATABASE_WRITE_FAILED") .failed
        else raise fault

/-- From the check of the advance limits to the next candidate. -/
def advanceTo (engine : CollectorEngine) (request : CollectRequest)
    (runId : UUID) (deadline : Option Int) (progress : Progress)
    (continued : Progress → EngineProgram Exit) : EngineProgram Exit :=
  let counts := Counts.ofProgress progress
  if engine.limits.maxTransitionOperations.any
      (· ≤ progress.transitionOperations) then
    stop request runId counts "ADVANCE_LIMIT_REACHED"
  else
  keeping counts
    (do
      if engine.limits.cooldownSeconds ≠ 0 then
        requireDeadline deadline
        recorded progress.position .cooldown
        ask (.sleep engine.limits.cooldownSeconds)
      deadlineExpired deadline)
    fun expired =>
  if expired then stop request runId counts "TOTAL_TIMEOUT_REACHED"
  else
  keeping counts
    (do
      raiseIfCancelRequested engine runId
      confirmTransition engine progress.position progress.candidate.shortcode
        deadline
        (engine.limits.maxScrollActions.map (· - progress.scrollActions)))
    fun transition =>
  match transition.nextCandidate with
  | none =>
      match transition.reason with
      | some reason => stop request runId counts reason
      | none =>
          keeping counts (deadlineExpired deadline) fun late =>
            stop request runId counts
              (if late then "TOTAL_TIMEOUT_REACHED" else "TRANSITION_FAILED")
  | some nextCandidate =>
      match validateCandidate nextCandidate with
      | .error _ => stop request runId counts "INVALID_REEL_CANDIDATE"
      | .ok candidate =>
          if request.desiredAccountTotal.isNone &&
              candidate.shortcode ∈ progress.seen then
            stop request runId counts "DUPLICATE_REEL"
          else
            let advanced := { progress with
              candidate := candidate
              transitionOperations := progress.transitionOperations + 1
              scrollActions :=
                progress.scrollActions + transition.consumedScrollActions
              confirmedAdvances := progress.confirmedAdvances + 1 }
            keeping (Counts.ofProgress advanced)
              (recorded progress.position .transitionConfirmed) fun _ =>
            continued { advanced with position := progress.position + 1 }

/-- One pass of `while True` up to the decision how to go on. -/
def observation (engine : CollectorEngine) (request : CollectRequest)
    (runId : UUID) (deadline : Option Int) (progress : Progress)
    (continued : Progress → EngineProgram Exit) : EngineProgram Exit :=
  let before := Counts.ofProgress progress
  keeping before
    (do
      raiseIfCancelRequested engine runId
      deadlineExpired deadline)
    fun expired =>
  if expired then stop request runId before "TOTAL_TIMEOUT_REACHED"
  else if engine.limits.maxObservations.any (· ≤ progress.observations) then
    stop request runId before "OBSERVATION_LIMIT_REACHED"
  else
  let observing := { progress with observations := progress.observations + 1 }
  let counts := Counts.ofProgress observing
  keeping counts
    (match request.desiredAccountTotal with
    | some _ => ask (.accountHasDurableReel request.accountId
        progress.candidate.shortcode)
    | none => pure false)
    fun accountOwned =>
  if request.desiredAccountTotal.isNone &&
      progress.candidate.shortcode ∈ progress.seen then
    stop request runId counts "DUPLICATE_REEL"
  else
  let detected := { observing with
    seen := progress.candidate.shortcode :: progress.seen }
  keeping counts
    (do
      recorded progress.position .detect
      ask .pauseCurrent
      recorded progress.position .pause
      ask (.reelStatus progress.candidate.shortcode))
    fun status =>
  let processed := { detected with
    duplicateSkippedCount := progress.duplicateSkippedCount +
      if accountOwned then 1 else 0 }
  let counts := Counts.ofProgress processed
  keeping counts
    (process engine runId deadline processed accountOwned status)
    fun outcome =>
  match outcome with
  | .error reason => stop request runId counts reason
  | .ok processed =>
      keeping counts (ask (.summary runId)) fun stored =>
      if request.targetCount ≤ stored.1 + stored.2.1 then
        keeping counts (complete request runId counts) fun summary =>
          pure (.ok summary)
      else
      keeping counts (deadlineExpired deadline) fun expired =>
      if expired then stop request runId counts "TOTAL_TIMEOUT_REACHED"
      else continued processed

/-- The loop ends because every further pass is a confirmed advance. -/
def loop (engine : CollectorEngine) (request : CollectRequest) (runId : UUID)
    (deadline : Option Int) : Nat → Progress → EngineProgram Exit
  | 0, progress =>
      observation engine request runId deadline progress fun processed =>
        stop request runId (Counts.ofProgress processed)
          "ADVANCE_LIMIT_REACHED"
  | remaining + 1, progress =>
      observation engine request runId deadline progress fun processed =>
        advanceTo engine request runId deadline processed fun advanced =>
          loop engine request runId deadline remaining advanced

/-- The handlers of the outer `try`. -/
def handleFault (request : CollectRequest) (runId : UUID)
    (interrupted : Interrupted Counts) : EngineProgram CollectorSummary :=
  let summarized := summarize runId request.targetCount interrupted.locals
  match interrupted.fault with
  | .invalidReelCandidate => do
      safeFailRun runId "INVALID_REEL_CANDIDATE"
      summarized (some "INVALID_REEL_CANDIDATE") .failed
  | .keyboardInterrupt => do
      safeCancelRun runId
      summarized (some "CANCELLED_BY_USER") .cancelled
  | .baseException => raise .baseException
  | fault => do
      let safeReason := (safeExceptionCode fault).getD "COLLECTOR_FAILED"
      if safeReason = "BROWSER_CLOSED" then
        safeCancelRun runId
        summarized (some safeReason) .cancelled
      else
        safeFailRun runId safeReason
        summarized (some safeReason) .failed

def argumentsAccepted (limits : CollectorLimits) (request : CollectRequest) :
    Bool :=
  (1 ≤ request.targetCount && request.targetCount ≤ limits.maxTarget) &&
    limits.maxRunBytes.all (1 ≤ ·) &&
    0 ≤ limits.cooldownSeconds &&
    limits.maxTransitionOperations.all (1 ≤ ·) &&
    limits.maxScrollActions.all (1 ≤ ·) &&
    limits.deadlineSeconds.all (0 < ·) &&
    limits.maxObservations.all (1 ≤ ·) &&
    request.desiredAccountTotal.all (request.targetCount ≤ ·)

def startingProgress (candidate : ReelCandidate) : Progress where
  candidate := candidate
  position := 1
  confirmedAdvances := 0
  transitionOperations := 0
  scrollActions := 0
  committedBytes := 0
  seen := []
  duplicateSkippedCount := 0
  observations := 0

/-- The outer `try` with its handlers, for a run that exists. -/
def collectRun (engine : CollectorEngine) (request : CollectRequest)
    (runId : UUID) (deadline : Option Int) : EngineProgram CollectorSummary :=
  ensure
    (do
      let exit ← keeping ⟨0, 0, 0⟩
        (do
          raiseIfCancelRequested engine runId
          let candidate ← ask .current
          ofExcept (validateCandidate candidate))
        fun candidate =>
          loop engine request runId deadline engine.limits.maxAdvances
            (startingProgress candidate)
      match exit with
      | .ok summary => return summary
      | .error interrupted => handleFault request runId interrupted)
    (swallow (ask .close))

def obtainRun (request : CollectRequest) : EngineProgram UUID :=
  match request.claimedRunId with
  | some runId => pure runId
  | none =>
      ask (.createRun request.accountId request.trigger request.targetCount)

def startDeadline (limits : CollectorLimits) : EngineProgram (Option Int) :=
  match limits.deadlineSeconds with
  | none => pure none
  | some seconds => do
      let now ← ask .clock
      return some (now + seconds)

def collect (engine : CollectorEngine) (request : CollectRequest) :
    EngineProgram CollectorSummary := do
  if argumentsAccepted engine.limits request then
    let runId ← obtainRun request
    let deadline ← startDeadline engine.limits
    collectRun engine request runId deadline
  else raise .valueError

end CollectorEngine

end OfflineReels.Collector
