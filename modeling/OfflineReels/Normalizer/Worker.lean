import OfflineReels.Foundation.Program
import OfflineReels.Normalizer.JobLifecycle

namespace OfflineReels.Normalizer

open OfflineReels.Foundation
open OfflineReels.Foundation.Program
open OfflineReels.Instagram
open OfflineReels.Media

/-! The worker that publishes sources as canonical videos, call by call.  The
steps that the other parties take on the two stores are calls of the same
interface. -/

/-- Keys of the bucket that sources, staged outputs and videos share. -/
inductive StorageKey
  | source (objectKey : SourceObjectKey)
  | staging (stagingPrefix : StagingPrefix) (name : String)
  | video (objectKey : VideoObjectKey)
  deriving DecidableEq, Repr

structure ObjectMetadata where
  byteSize : Nat
  contentType : String
  deriving DecidableEq, Repr

inductive WorkerFault
  | workerCancelled
  | storageObjectNotFound
  | sourceHashMismatch
  | sourceSizeMismatch
  | media (error : MediaError)
  | finalObjectConflict
  | sqlAlchemyError
  | otherException
  | baseException
  deriving DecidableEq, Repr

/-- What an `except Exception` catches. -/
def WorkerFault.isException (fault : WorkerFault) : Bool :=
  fault ≠ .baseException

/-- The reason of a failed attempt and whether it may be tried again. -/
def classifyError : WorkerFault → ReasonCode × Bool
  | .storageObjectNotFound => (.sourceMissing, true)
  | .sourceHashMismatch => (.sourceHashMismatch, false)
  | .sourceSizeMismatch => (.sourceSizeMismatch, false)
  | .media .probe | .media .probeTimeout => (.ffprobeFailed, false)
  | .media .decode | .media .decodeTimeout => (.fullDecodeFailed, false)
  | .media .compatibility => (.incompatibleOutput, false)
  | .media .normalizationCommand | .media .normalizationTimeout =>
      (.normalizationFailed, false)
  | .finalObjectConflict => (.finalObjectConflict, false)
  | .sqlAlchemyError => (.postgresCommitFailure, true)
  | .workerCancelled => (.workerCancelled, true)
  | .otherException | .baseException => (.minioTransientFailure, true)

/-- The constraints and the connection raise errors of the database driver. -/
def databaseFault : DatabaseError → WorkerFault
  | .integrityError | .operationalError => .sqlAlchemyError
  | .valueError | .lookupError | .invalidStateTransition | .runtimeError =>
      .otherException

def CommitFault.toWorkerFault : CommitFault → WorkerFault
  | .workerCancelled => .workerCancelled
  | .finalObjectConflict => .finalObjectConflict
  | .valueError => .otherException
  | .database error => databaseFault error

inductive WorkerCall
  | isCancelled
  | emit (claimed : ClaimedNormalizationJob) (event : String)
      (reason : Option ReasonCode)
  | claim (workerId : String) (leaseSeconds : Nat)
  | recoverStale
  | finishFailure (workerId : String) (claimed : ClaimedNormalizationJob)
      (reason : ReasonCode) (retryable : Bool)
  | commitReady (workerId : String) (claimed : ClaimedNormalizationJob)
      (output : NormalizedOutput)
  | sourceCleaned (reelId : UUID)
  | cleanupPending
  | cleanupReconciled (reelId : UUID)
  | videoReferenced (objectKey : VideoObjectKey)
  | stat (key : StorageKey)
  | download (key : StorageKey)
  | upload (key : StorageKey) (content : Bytes) (contentType : String)
  | copy (key destination : StorageKey)
  | remove (key : StorageKey)
  | listPrefix (stagingPrefix : StagingPrefix)
  | temporaryDirectory
  | closeTemporaryDirectory
  | hashFile (content : Bytes)
  | probeMedia (content : Bytes)
  | validateDecode (content : Bytes)
  | normalizeVideo (content : Bytes)
  | closeNormalized
  | publishSource (objectKey : SourceObjectKey) (content : Bytes)
  | deleteSource (objectKey : SourceObjectKey)
  | commitSource (runId : UUID) (candidate : Collector.ReelCandidate)
      (source : Collector.ValidatedSource)
  | recordFailure (runId : UUID) (candidate : Collector.ReelCandidate)
      (reasonCode : String) (downloadAttempted : Bool)
  | otherTransaction (transaction : JobLifecycle.OtherTransaction)

@[reducible] def WorkerReply : WorkerCall → Type
  | .isCancelled => Bool
  | .claim _ _ => Option ClaimedNormalizationJob
  | .recoverStale => Nat × List StagingPrefix
  | .cleanupPending => List InstagramReel
  | .cleanupReconciled _ => Bool
  | .videoReferenced _ => Bool
  | .stat _ => ObjectMetadata
  | .download _ => Bytes
  | .listPrefix _ => List StorageKey
  | .hashFile _ => Digest × Nat
  | .probeMedia _ => MediaProbe
  | .normalizeVideo _ => NormalizedMedia
  | _ => Unit

abbrev WorkerProgram : Type → Type :=
  Program WorkerCall WorkerReply WorkerFault

namespace WorkerProgram

def invoke (request : WorkerCall) : WorkerProgram (WorkerReply request) :=
  Program.perform request

/-- `except Exception` -/
def orElse {α : Type} (program : WorkerProgram α)
    (handler : WorkerFault → WorkerProgram α) : WorkerProgram α :=
  program.rescue WorkerFault.isException handler

end WorkerProgram

structure ReconcileResult where
  staleRecovered : Nat
  sourcesCleaned : Nat
  deriving DecidableEq, Repr

structure InstagramNormalizerWorker where
  workerId : String
  leaseSeconds : Nat
  deriving DecidableEq, Repr

/-- The catalog contract requires AAC; generic seed normalization may not. -/
def isWorkerCanonical (probe : MediaProbe) : Bool :=
  !probe.audioCodecs.isEmpty && isCanonicalMedia probe

namespace InstagramNormalizerWorker

open WorkerProgram

def raiseIfCancelled : WorkerProgram Unit := do
  if ← invoke .isCancelled then raise .workerCancelled
  else return ()

def emit (claimed : ClaimedNormalizationJob) (event : String)
    (reason : Option ReasonCode) : WorkerProgram Unit :=
  invoke (.emit claimed event reason)

def claim (worker : InstagramNormalizerWorker) :
    WorkerProgram (Option ClaimedNormalizationJob) := do
  raiseIfCancelled
  invoke (.claim worker.workerId worker.leaseSeconds)

def removeAll : List StorageKey → WorkerProgram Unit
  | [] => pure ()
  | key :: rest => do
      invoke (.remove key)
      removeAll rest

def cleanupStaging (stagingPrefix : StagingPrefix) : WorkerProgram Unit :=
  orElse (invoke (.listPrefix stagingPrefix) >>= removeAll) fun _ => pure ()

def compensateFinalIfUnreferenced (finalKey : VideoObjectKey)
    (createdFinal : Bool) : WorkerProgram Unit :=
  if !createdFinal then pure ()
  else
    orElse (do
      if ← invoke (.videoReferenced finalKey) then return ()
      else invoke (.remove (.video finalKey)))
      fun _ => pure ()

def downloadAndVerifySource (claimed : ClaimedNormalizationJob) :
    WorkerProgram Bytes := do
  let metadata ← invoke (.stat (.source claimed.sourceObjectKey))
  if metadata.byteSize ≠ claimed.sourceByteSize then raise .sourceSizeMismatch
  else
    let content ← invoke (.download (.source claimed.sourceObjectKey))
    let (actualSha256, actualSize) ← invoke (.hashFile content)
    if actualSize ≠ claimed.sourceByteSize then raise .sourceSizeMismatch
    else if actualSha256 ≠ claimed.sourceSha256 then raise .sourceHashMismatch
    else
      let _ ← invoke (.probeMedia content)
      return content

/-- `with tempfile.TemporaryDirectory(...)` -/
def withTemporaryDirectory {α : Type} (body : WorkerProgram α) :
    WorkerProgram α := do
  invoke .temporaryDirectory
  body.ensure (invoke .closeTemporaryDirectory)

def verifyFinal (finalKey : VideoObjectKey) (expectedSha256 : Digest)
    (expectedSize : Nat) : WorkerProgram Unit :=
  withTemporaryDirectory do
    let content ← invoke (.download (.video finalKey))
    let (actualSha256, actualSize) ← invoke (.hashFile content)
    if actualSha256 ≠ expectedSha256 ∨ actualSize ≠ expectedSize then
      raise .finalObjectConflict
    else
      let probe ← invoke (.probeMedia content)
      invoke (.validateDecode content)
      if isWorkerCanonical probe then return ()
      else raise .finalObjectConflict

/-- Whether this attempt created the final object. -/
def publishFinal (stagingKey : StorageKey) (finalKey : VideoObjectKey)
    (output : Bytes) : WorkerProgram Bool := do
  let (outputSha256, outputSize) ← invoke (.hashFile output)
  (invoke (.stat (.video finalKey))).attempt fun
    | .error .storageObjectNotFound => do
        invoke (.copy stagingKey (.video finalKey))
        orElse (verifyFinal finalKey outputSha256 outputSize) fun fault => do
          compensateFinalIfUnreferenced finalKey true
          raise fault
        return true
    | .error fault => raise fault
    | .ok existing =>
        if existing.byteSize ≠ outputSize then raise .finalObjectConflict
        else do
          verifyFinal finalKey outputSha256 outputSize
          return false

/-- Remove a source and go on: an object that is missing already is as good as
removed, and one that could not be removed is left for later. -/
def afterSourceRemoval {α : Type} (objectKey : SourceObjectKey)
    (removed left : WorkerProgram α) : WorkerProgram α :=
  (invoke (.remove (.source objectKey))).attempt fun
    | .ok _ | .error .storageObjectNotFound => removed
    | .error fault => if fault.isException then left else raise fault

def cleanupSourceAfterCommit (claimed : ClaimedNormalizationJob) :
    WorkerProgram Unit :=
  afterSourceRemoval claimed.sourceObjectKey
    (invoke (.sourceCleaned claimed.reelId)) (pure ())

def outputOf (normalized : NormalizedMedia) (outputSha256 : Digest)
    (outputSize : Nat) : NormalizedOutput where
  finalKey := ⟨outputSha256⟩
  sha256 := outputSha256
  size := outputSize
  strategy := normalized.strategy
  originalCodec := normalized.originalProbe.videoCodec
  probe := normalized.probe

def commitOutput (worker : InstagramNormalizerWorker)
    (claimed : ClaimedNormalizationJob) (output : NormalizedOutput)
    (createdFinal : Bool) : WorkerProgram Unit :=
  orElse (invoke (.commitReady worker.workerId claimed output)) fun fault => do
    compensateFinalIfUnreferenced output.finalKey createdFinal
    raise fault

def publishNormalized (worker : InstagramNormalizerWorker)
    (claimed : ClaimedNormalizationJob) (normalized : NormalizedMedia) :
    WorkerProgram Unit := do
  emit claimed normalized.strategy.value none
  raiseIfCancelled
  if !isWorkerCanonical normalized.probe then raise (.media .compatibility)
  else
    let (outputSha256, outputSize) ← invoke (.hashFile normalized.output)
    let output := outputOf normalized outputSha256 outputSize
    let stagingKey := .staging claimed.stagingPrefix "canonical.mp4"
    invoke (.upload stagingKey normalized.output "video/mp4")
    emit claimed "normalized" none
    let createdFinal ←
      publishFinal stagingKey output.finalKey normalized.output
    emit claimed "final_published" none
    raiseIfCancelled
    commitOutput worker claimed output createdFinal
    emit claimed "db_committed" none
    cleanupSourceAfterCommit claimed
    emit claimed "completed" none

def process (worker : InstagramNormalizerWorker)
    (claimed : ClaimedNormalizationJob) : WorkerProgram Unit := do
  raiseIfCancelled
  withTemporaryDirectory do
    let source ← downloadAndVerifySource claimed
    emit claimed "source_verified" none
    raiseIfCancelled
    let normalized ← invoke (.normalizeVideo source)
    (publishNormalized worker claimed normalized).ensure
      (invoke .closeNormalized)

/-- A lease and the reconciler are safer than hiding a database failure. -/
def finishFailure (worker : InstagramNormalizerWorker)
    (claimed : ClaimedNormalizationJob) (reason : ReasonCode)
    (retryable : Bool) : WorkerProgram Unit :=
  (invoke (.finishFailure worker.workerId claimed reason retryable)).rescue
    (· = .sqlAlchemyError) fun _ => pure ()

def handleFault (worker : InstagramNormalizerWorker)
    (claimed : ClaimedNormalizationJob) : WorkerFault → WorkerProgram Unit
  | .workerCancelled => do
      worker.finishFailure claimed .workerCancelled true
      emit claimed "failed" (some .workerCancelled)
  | fault =>
      if fault.isException then do
        let (reason, retryable) := classifyError fault
        worker.finishFailure claimed reason retryable
        emit claimed "failed" (some reason)
      else raise fault

def attemptClaimed (worker : InstagramNormalizerWorker)
    (claimed : ClaimedNormalizationJob) : WorkerProgram Unit :=
  ((worker.process claimed).attempt fun
    | .ok _ => pure ()
    | .error fault => worker.handleFault claimed fault).ensure
      (cleanupStaging claimed.stagingPrefix)

def runOnce (worker : InstagramNormalizerWorker) : WorkerProgram Bool := do
  if ← invoke .isCancelled then return false
  else
    match ← worker.claim with
    | none => return false
    | some claimed =>
        emit claimed "claimed" none
        worker.attemptClaimed claimed
        return true

def cleanupRows : List InstagramReel → Nat → WorkerProgram Nat
  | [], cleaned => pure cleaned
  | reel :: rest, cleaned =>
      match reel.sourceObjectKey with
      | none => cleanupRows rest cleaned
      | some objectKey =>
          afterSourceRemoval objectKey
            (do
              if ← invoke (.cleanupReconciled reel.id) then
                cleanupRows rest (cleaned + 1)
              else cleanupRows rest cleaned)
            (cleanupRows rest cleaned)

def reconcileSourceCleanup : WorkerProgram Nat := do
  let rows ← invoke .cleanupPending
  cleanupRows rows 0

def cleanupPrefixes : List StagingPrefix → WorkerProgram Unit
  | [] => pure ()
  | stagingPrefix :: rest => do
      cleanupStaging stagingPrefix
      cleanupPrefixes rest

/-- Recover expired claims and retry only post-commit source cleanup. -/
def reconcile : WorkerProgram ReconcileResult := do
  let (recovered, stalePrefixes) ← invoke .recoverStale
  cleanupPrefixes stalePrefixes
  let cleaned ← reconcileSourceCleanup
  return ⟨recovered, cleaned⟩

end InstagramNormalizerWorker

end OfflineReels.Normalizer
