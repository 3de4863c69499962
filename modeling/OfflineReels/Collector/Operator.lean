import OfflineReels.Collector.SourceStorage

namespace OfflineReels.Collector

open OfflineReels.Foundation
open OfflineReels.Instagram

/-! The operator's composition: limits, transcript and the life of a claimed
run. -/

def MEBIBYTE : Nat := 1024 * 1024

def STAGE_3B_TARGET : Nat := 3

def STAGE_3B_MAX_BYTES : Nat := 300 * MEBIBYTE

def STAGE_3C1_DESIRED_TOTAL : Nat := 10

def STAGE_3C1_MAX_NEW_BYTES : Nat := 700 * MEBIBYTE

def STAGE_3C1_MAX_OBSERVATIONS : Nat := 30

def STAGE_3C1_MAX_TRANSITIONS : Nat := 29

def STAGE_3C1_MAX_WHEELS : Nat := 58

/-- Half a second. -/
def minimumCooldown : Int := 500000

structure CollectorRuntimeSettings where
  workspaceRoot : Nat
  maximumReelBytes : Nat
  maximumRunBytes : Nat
  cooldownSeconds : Int
  operatorDeadlineSeconds : Int
  deriving DecidableEq, Repr

def stage3BLimits (runtime : CollectorRuntimeSettings) : CollectorLimits where
  maxTarget := STAGE_3B_TARGET
  maxAdvances := STAGE_3B_TARGET - 1
  maxTransitionOperations := some (STAGE_3B_TARGET - 1)
  maxScrollActions := some 4
  maxRunBytes := some (min runtime.maximumRunBytes STAGE_3B_MAX_BYTES)
  cooldownSeconds := max runtime.cooldownSeconds minimumCooldown
  deadlineSeconds := some runtime.operatorDeadlineSeconds

def stage3C1Limits (runtime : CollectorRuntimeSettings) : CollectorLimits where
  maxTarget := STAGE_3C1_DESIRED_TOTAL
  maxAdvances := STAGE_3C1_MAX_TRANSITIONS
  maxTransitionOperations := some STAGE_3C1_MAX_TRANSITIONS
  maxScrollActions := some STAGE_3C1_MAX_WHEELS
  maxObservations := some STAGE_3C1_MAX_OBSERVATIONS
  maxRunBytes := some STAGE_3C1_MAX_NEW_BYTES
  cooldownSeconds := max runtime.cooldownSeconds minimumCooldown
  deadlineSeconds := some 3600000000

structure StageResult where
  summary : Option CollectorSummary
  reason : Option String
  deriving DecidableEq, Repr

namespace Operator

open Program

def collectWith (storage : SourceStorage) (engine : CollectorEngine)
    (request : CollectRequest) : WorldProgram CollectorSummary :=
  (engine.collect request).handle storage.adapter

def failClaimedRun (claim : Option InstagramCollectionRun)
    (reasonCode : String) : WorldProgram Unit :=
  match claim with
  | none => pure ()
  | some run => invoke (.engine (.failRun run.id reasonCode))

/-- The account status that a reason code stands for. -/
def safeAccountState (code : String) : Option AccountStatus :=
  if code ∈ ["AUTH_REQUIRED", "SESSION_COOKIE_MISSING",
      "DIRECT_DOWNLOAD_AUTH_REQUIRED", "CHECKPOINT_REQUIRED"] then
    some .reauthRequired
  else if code = "TEMPORARILY_LIMITED" then some .temporarilyLimited
  else none

def setSafeAccountState (accountId : UUID) (code : String) :
    WorldProgram Unit :=
  match safeAccountState code with
  | none => pure ()
  | some status =>
      (invoke (.setAccountStatus accountId status (some code))).rescue
        CollectorFault.isException fun _ => pure ()

def applyStopReason (accountId : UUID) (summary : CollectorSummary) :
    WorldProgram Unit :=
  match summary.stopReasonCode with
  | some code => setSafeAccountState accountId code
  | none => pure ()

def verifyCompleted (summary : CollectorSummary) : WorldProgram StageResult :=
  if summary.status = .completed then do
    if ← invoke (.verifyRun summary.runId) then
      return ⟨some summary, none⟩
    else return ⟨some summary, some "POST_RUN_VERIFICATION_FAILED"⟩
  else return ⟨some summary, none⟩

/-- From the open feed to the verified summary. -/
def superviseRun (storage : SourceStorage) (engine : CollectorEngine)
    (accountId : UUID) (claim : Option InstagramCollectionRun) :
    WorldProgram StageResult := do
  if ← invoke .waitReady then
    let _ ← invoke (.engine .current)
    invoke (.setAccountStatus accountId .connected none)
    if ← invoke .confirm then
      invoke .captureRunBaseline
      let summary ← collectWith storage engine {
        accountId := accountId
        trigger := .manual
        targetCount := STAGE_3B_TARGET
        desiredAccountTotal := none
        claimedRunId := claim.map (·.id) }
      applyStopReason accountId summary
      verifyCompleted summary
    else
      match claim with
      | none => return ⟨none, some "USER_CANCELLED"⟩
      | some run =>
          let _ ← invoke (.engine (.cancelRun run.id "USER_CANCELLED"))
          return ⟨none, some "USER_CANCELLED"⟩
  else
    failClaimedRun claim "OPERATOR_TIMEOUT"
    return ⟨none, some "OPERATOR_TIMEOUT"⟩

def handleFault (accountId : UUID) (claim : Option InstagramCollectionRun) :
    CollectorFault → WorldProgram StageResult
  | .coded value => do
      failClaimedRun claim value
      setSafeAccountState accountId value
      return ⟨none, some value⟩
  | fault =>
      if fault.isException then do
        failClaimedRun claim "COLLECTOR_FAILED"
        raise fault
      else raise fault

def withHandlers (accountId : UUID) (claim : Option InstagramCollectionRun)
    (statement : WorldProgram StageResult) : WorldProgram StageResult :=
  statement.attempt fun
    | .ok result => pure result
    | .error fault => handleFault accountId claim fault

/-- The `try` of `run_stage_3b`; the feed is closed once it was opened. -/
def runClaimed (storage : SourceStorage) (engine : CollectorEngine)
    (accountId : UUID) (existingFeed : Bool)
    (claim : Option InstagramCollectionRun) : WorldProgram StageResult :=
  let opened : WorldProgram Unit :=
    if existingFeed then pure () else invoke (.openFeed accountId)
  opened.attempt fun
    | .error fault => handleFault accountId claim fault
    | .ok _ =>
        ensure
          (withHandlers accountId claim
            (superviseRun storage engine accountId claim))
          ((invoke (.engine .close)).rescue CollectorFault.isException
            fun _ => pure ())

/-- Without a claimed run, an active run of the account is in the way. -/
def activeRunBlocks (accountId : UUID) (claim : Option InstagramCollectionRun) :
    WorldProgram Bool :=
  if claim.isNone then invoke (.activeRunExists accountId) else pure false

def connectAccount (accountId : UUID) : WorldProgram Unit := do
  let currentStatus ← invoke (.accountStatus accountId)
  if currentStatus = .connected then pure ()
  else invoke (.setAccountStatus accountId .connecting none)

/-- `run_stage_3b` from its claim on. -/
def afterClaim (storage : SourceStorage) (engine : CollectorEngine)
    (accountId : UUID) (existingFeed : Bool)
    (claim : Option InstagramCollectionRun) : WorldProgram StageResult := do
  if claim.any fun run => run.targetCount ≠ STAGE_3B_TARGET then
    failClaimedRun claim "UNSUPPORTED_TARGET"
    return ⟨none, some "COLLECTOR_DISABLED"⟩
  else
    if ← activeRunBlocks accountId claim then raise (.coded "ACTIVE_RUN_EXISTS")
    else
      connectAccount accountId
      runClaimed storage engine accountId existingFeed claim

def runStage3B (storage : SourceStorage) (engine : CollectorEngine)
    (accountId : UUID) (existingFeed : Bool) : WorldProgram StageResult := do
  invoke (.ensureAccount accountId)
  let claim ← invoke (.claimQueuedRun accountId)
  afterClaim storage engine accountId existingFeed claim

end Operator

structure TranscriptEvent where
  position : Nat
  event : EventName
  deriving DecidableEq, Repr

namespace SafeEventTranscript

def allowed : List EventName :=
  [.detect, .pause, .download, .validation, .publish, .dbCommit, .cooldown,
    .feedSourceAdvance, .advance, .advanceRetry, .transitionConfirmed,
    .duplicateSkipped]

def renamed (event : EventName) : EventName :=
  if event = .publication then .publish else event

def record (events : List TranscriptEvent) (position : Nat)
    (event : EventName) : List TranscriptEvent :=
  if renamed event ∈ allowed ∧ events.length < 256 then
    events ++ [⟨position, renamed event⟩]
  else events

end SafeEventTranscript

end OfflineReels.Collector
