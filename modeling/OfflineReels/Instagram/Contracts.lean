import Mathlib.Logic.Basic

namespace OfflineReels.Instagram

/-! Durable statuses, outcomes and reason codes, and the transition policy. -/

abbrev UUID : Type := Nat

/-- Instants and durations in microseconds. -/
abbrev Time : Type := Nat

abbrev Bytes : Type := List UInt8

/-- The SHA-256 digest of a text, taken as injective: it is represented by the
text it was computed from. -/
structure Sha256 (Text : Type) : Type where
  preimage : Text
  deriving DecidableEq, Repr

abbrev Digest : Type := Sha256 Bytes

def sha256 (content : Bytes) : Digest := ⟨content⟩

theorem sha256_injective : Function.Injective sha256 := by
  intro first second same
  exact congrArg Sha256.preimage same

inductive AccountStatus
  | disconnected
  | connecting
  | connected
  | reauthRequired
  | temporarilyLimited
  deriving DecidableEq, Repr

inductive CollectionRunStatus
  | queued
  | running
  | completed
  | cancelled
  | failed
  deriving DecidableEq, Repr

def CollectionRunStatus.isActive : CollectionRunStatus → Bool
  | .queued | .running => true
  | .completed | .cancelled | .failed => false

inductive CollectionTrigger
  | manual
  | automatic
  deriving DecidableEq, Repr

inductive ReelPipelineStatus
  | discovered
  | downloading
  | sourceReady
  | normalizing
  | ready
  | failed
  deriving DecidableEq, Repr

/-- The statuses of a Reel whose source is durable. -/
def ReelPipelineStatus.isDurable : ReelPipelineStatus → Bool
  | .sourceReady | .normalizing | .ready => true
  | .discovered | .downloading | .failed => false

inductive NormalizationJobStatus
  | pending
  | running
  | completed
  | failed
  deriving DecidableEq, Repr

def NormalizationJobStatus.isActive : NormalizationJobStatus → Bool
  | .pending | .running => true
  | .completed | .failed => false

inductive RunItemOutcome
  | sourceCommitted
  | alreadyAvailable
  | failed
  deriving DecidableEq, Repr

inductive DownloadAuthMode
  | sessionFirst
  deriving DecidableEq, Repr

inductive ReasonCode
  | authRequired
  | checkpointRequired
  | temporarilyLimited
  | downloadFailed
  | validationFailed
  | normalizationFailed
  | storageFailed
  | cancelledByUser
  | loginExpired
  | loginCancelled
  | sourceMissing
  | sourceHashMismatch
  | sourceSizeMismatch
  | invalidMedia
  | ffprobeFailed
  | fullDecodeFailed
  | incompatibleOutput
  | minioTransientFailure
  | finalObjectConflict
  | postgresCommitFailure
  | workerCancelled
  | staleLeaseRecovered
  | retryExhausted
  deriving DecidableEq, Repr

namespace ReasonCode

/-- The text that is stored for a reason code. -/
def value : ReasonCode → String
  | authRequired => "AUTH_REQUIRED"
  | checkpointRequired => "CHECKPOINT_REQUIRED"
  | temporarilyLimited => "TEMPORARILY_LIMITED"
  | downloadFailed => "DOWNLOAD_FAILED"
  | validationFailed => "VALIDATION_FAILED"
  | normalizationFailed => "NORMALIZATION_FAILED"
  | storageFailed => "STORAGE_FAILED"
  | cancelledByUser => "CANCELLED_BY_USER"
  | loginExpired => "LOGIN_EXPIRED"
  | loginCancelled => "LOGIN_CANCELLED"
  | sourceMissing => "SOURCE_MISSING"
  | sourceHashMismatch => "SOURCE_HASH_MISMATCH"
  | sourceSizeMismatch => "SOURCE_SIZE_MISMATCH"
  | invalidMedia => "INVALID_MEDIA"
  | ffprobeFailed => "FFPROBE_FAILED"
  | fullDecodeFailed => "FULL_DECODE_FAILED"
  | incompatibleOutput => "INCOMPATIBLE_OUTPUT"
  | minioTransientFailure => "MINIO_TRANSIENT_FAILURE"
  | finalObjectConflict => "FINAL_OBJECT_CONFLICT"
  | postgresCommitFailure => "POSTGRES_COMMIT_FAILURE"
  | workerCancelled => "WORKER_CANCELLED"
  | staleLeaseRecovered => "STALE_LEASE_RECOVERED"
  | retryExhausted => "RETRY_EXHAUSTED"

end ReasonCode

def ACCOUNT_TRANSITIONS : AccountStatus → List AccountStatus
  | .disconnected => [.connecting]
  | .connecting =>
      [.connected, .disconnected, .reauthRequired, .temporarilyLimited]
  | .connected => [.disconnected, .reauthRequired, .temporarilyLimited]
  | .reauthRequired => [.connecting, .disconnected]
  | .temporarilyLimited => [.connecting, .disconnected]

def COLLECTION_RUN_TRANSITIONS :
    CollectionRunStatus → List CollectionRunStatus
  | .queued => [.running, .cancelled, .failed]
  | .running => [.completed, .cancelled, .failed]
  | .completed => []
  | .cancelled => []
  | .failed => []

def REEL_PIPELINE_TRANSITIONS : ReelPipelineStatus → List ReelPipelineStatus
  | .discovered => [.downloading, .failed]
  | .downloading => [.sourceReady, .failed]
  | .sourceReady => [.normalizing, .failed]
  | .normalizing => [.sourceReady, .ready, .failed]
  | .ready => []
  | .failed => [.downloading]

def NORMALIZATION_JOB_TRANSITIONS :
    NormalizationJobStatus → List NormalizationJobStatus
  | .pending => [.running, .failed]
  | .running => [.completed, .failed]
  | .completed => []
  | .failed => []

variable {Status : Type} [DecidableEq Status]

/-- Whether a non-noop domain transition is allowed by the policy. -/
def isTransitionAllowed (policy : Status → List Status)
    (current target : Status) : Bool :=
  current ≠ target && target ∈ policy current

/-- A status change made of allowed transitions. -/
inductive TransitionPath (policy : Status → List Status) :
    Status → Status → Prop
  | stay (status : Status) : TransitionPath policy status status
  | move {current middle target : Status} :
      isTransitionAllowed policy current middle = true →
      TransitionPath policy middle target →
      TransitionPath policy current target

namespace TransitionPath

variable {policy : Status → List Status}

theorem single {current target : Status}
    (allowed : isTransitionAllowed policy current target = true) :
    TransitionPath policy current target :=
  .move allowed (.stay target)

theorem two {current middle target : Status}
    (first : isTransitionAllowed policy current middle = true)
    (second : isTransitionAllowed policy middle target = true) :
    TransitionPath policy current target :=
  .move first (single second)

theorem trans {first second third : Status}
    (left : TransitionPath policy first second)
    (right : TransitionPath policy second third) :
    TransitionPath policy first third := by
  induction left with
  | stay status => exact right
  | move allowed _ ih => exact .move allowed (ih right)

/-- A status without outgoing transitions is never left. -/
theorem eq_of_terminal {current target : Status}
    (path : TransitionPath policy current target)
    (terminal : policy current = []) : target = current := by
  cases path with
  | stay => rfl
  | move allowed rest => simp [isTransitionAllowed, terminal] at allowed

end TransitionPath

end OfflineReels.Instagram
