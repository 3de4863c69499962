import OfflineReels.Foundation.Program
import OfflineReels.Instagram.Database

namespace OfflineReels.Collector

open OfflineReels.Foundation
open OfflineReels.Instagram

/-! Value objects of the Collector and the calls it makes on its ports. -/

structure ReelCandidate where
  shortcode : String
  canonicalUrl : String
  deriving DecidableEq, Repr

structure ValidatedSource where
  sha256 : Digest
  byteSize : Nat
  contentType : String
  deriving DecidableEq, Repr

structure PublishedSource where
  objectKey : SourceObjectKey
  createdByAttempt : Bool
  deriving DecidableEq, Repr

inductive CancelRunOutcome
  | cancelled
  | notFound
  | alreadyTerminal
  deriving DecidableEq, Repr

/-- `<workspace root>/temporary/<shortcode>.part` -/
structure TemporaryPath where
  workspaceRoot : Nat
  shortcode : String
  deriving DecidableEq, Repr

inductive EventName
  | detect
  | pause
  | duplicateSkipped
  | download
  | validation
  | publication
  | publish
  | dbCommit
  | cooldown
  | feedSourceAdvance
  | advance
  | advanceRetry
  | transitionConfirmed
  deriving DecidableEq, Repr

/-- What a call raises.  `coded` is an exception whose `code` has a text value,
`notFound` the answer of the object store for a missing object, and
`baseException` one that no handler of the Collector selects. -/
inductive CollectorFault
  | keyboardInterrupt
  | baseException
  | valueError
  | typeError
  | invalidReelCandidate
  | collectorLimitExceeded
  | collectorDeadlineExceeded
  | coded (value : String)
  | notFound
  | otherException
  deriving DecidableEq, Repr

/-- Whether `except Exception` selects the fault. -/
def CollectorFault.isException : CollectorFault → Bool
  | .keyboardInterrupt | .baseException => false
  | _ => true

inductive EngineCall
  | createRun (accountId : UUID) (trigger : CollectionTrigger)
      (targetCount : Nat)
  | cancellationRequested (runId : UUID)
  | accountHasDurableReel (accountId : UUID) (shortcode : String)
  | reelStatus (shortcode : String)
  | commitAvailable (runId : UUID) (candidate : ReelCandidate)
  | commitSource (runId : UUID) (candidate : ReelCandidate)
      (source : ValidatedSource) (objectKey : SourceObjectKey)
  | recordFailure (runId : UUID) (candidate : ReelCandidate)
      (reasonCode : String) (downloadAttempted : Bool)
  | summary (runId : UUID)
  | completeRun (runId : UUID)
  | completeIfAccountDurableTotal (runId : UUID) (desiredTotal : Nat)
  | failRun (runId : UUID) (reasonCode : String)
  | cancelRun (runId : UUID) (reasonCode : String)
  | current
  | pauseCurrent
  | nextFromAuthenticatedFeed (shortcode : String) (shouldStop : Bool)
  | advance
  | waitForNext (shortcode : String) (shouldStop : Bool)
  | close
  | download (candidate : ReelCandidate) (path : TemporaryPath)
  | validate (path : TemporaryPath)
  | temporaryPath (shortcode : String)
  | publish (path : TemporaryPath) (objectKey : SourceObjectKey)
  | delete (objectKey : SourceObjectKey)
  | cleanupTemporary (path : TemporaryPath)
  | clock
  | sleep (seconds : Int)
  | record (position : Nat) (event : EventName)
  | recordEvent (event : EventName)

abbrev EngineReply : EngineCall → Type
  | .createRun _ _ _ => UUID
  | .cancellationRequested _ => Bool
  | .accountHasDurableReel _ _ => Bool
  | .reelStatus _ => Option ReelPipelineStatus
  | .summary _ => Nat × Nat × Nat × CollectionRunStatus
  | .completeIfAccountDurableTotal _ _ => Bool
  | .cancelRun _ _ => CancelRunOutcome
  | .current => ReelCandidate
  | .nextFromAuthenticatedFeed _ _ => Option ReelCandidate
  | .waitForNext _ _ => Option ReelCandidate
  | .validate _ => ValidatedSource
  | .temporaryPath _ => TemporaryPath
  | .publish _ _ => PublishedSource
  | .clock => Int
  | _ => Unit

abbrev EngineProgram : Type → Type :=
  Program EngineCall EngineReply CollectorFault

def ask (request : EngineCall) : EngineProgram (EngineReply request) :=
  Program.perform request

end OfflineReels.Collector
