import OfflineReels.Foundation.Table
import OfflineReels.Instagram.Contracts

namespace OfflineReels.Instagram

open OfflineReels.Foundation

/-! Rows of the durable tables, with the columns the services read or write,
and writes that enforce the declared constraints. -/

/-- `instagram-sources/<shortcode>.mp4` -/
structure SourceObjectKey where
  shortcode : String
  deriving DecidableEq, Repr

/-- `instagram-normalizer-staging/<job id>/<attempt>` -/
structure StagingPrefix where
  jobId : UUID
  attempt : Nat
  deriving DecidableEq, Repr

/-- `videos/<sha256>.mp4` -/
structure VideoObjectKey where
  contentSha256 : Digest
  deriving DecidableEq, Repr

structure InstagramAccount where
  id : UUID
  status : AccountStatus
  lastConnectedAt : Option Time
  reauthRequiredAt : Option Time
  reasonCode : Option String
  deriving DecidableEq, Repr

structure InstagramReel where
  id : UUID
  shortcode : String
  canonicalUrl : String
  pipelineStatus : ReelPipelineStatus
  sourceObjectKey : Option SourceObjectKey
  sourceSha256 : Option Digest
  sourceByteSize : Option Nat
  videoId : Option UUID
  failureReasonCode : Option String
  discoveredAt : Option Time
  sourceReadyAt : Option Time
  readyAt : Option Time
  failedAt : Option Time
  sourceCleanupPending : Bool
  deriving DecidableEq, Repr

structure InstagramReelView where
  id : UUID
  accountId : UUID
  reelId : UUID
  deviceUuid : Option UUID
  viewedAt : Time
  deriving DecidableEq, Repr

structure InstagramCollectionRun where
  id : UUID
  accountId : UUID
  trigger : CollectionTrigger
  status : CollectionRunStatus
  targetCount : Nat
  sourceCommittedCount : Nat
  alreadyAvailableCount : Nat
  failedCount : Nat
  stopReasonCode : Option String
  startedAt : Option Time
  completedAt : Option Time
  cancelRequestedAt : Option Time
  createdAt : Time
  deriving DecidableEq, Repr

structure InstagramCollectionRunItem where
  id : UUID
  runId : UUID
  reelId : UUID
  position : Nat
  outcome : RunItemOutcome
  downloadAuthMode : Option DownloadAuthMode
  reasonCode : Option String
  completedAt : Option Time
  deriving DecidableEq, Repr

structure InstagramNormalizationJob where
  id : UUID
  reelId : UUID
  status : NormalizationJobStatus
  attemptCount : Nat
  reasonCode : Option String
  completedAt : Option Time
  claimedAt : Option Time
  leaseExpiresAt : Option Time
  workerId : Option String
  stagingPrefix : Option StagingPrefix
  createdAt : Time
  deriving DecidableEq, Repr

structure Video where
  id : UUID
  title : String
  objectKey : VideoObjectKey
  contentType : String
  byteSize : Nat
  normalizationStrategy : Option String
  originalVideoCodec : Option String
  normalizedVideoCodec : Option String
  width : Option Nat
  height : Option Nat
  durationMs : Option Int
  fileSizeBytes : Option Nat
  hasAudio : Option Bool
  normalizedAt : Option Time
  contentSha256 : Option Digest
  createdAt : Time
  deriving DecidableEq, Repr

structure Database where
  accounts : Table InstagramAccount UUID InstagramAccount.id
  runs : Table InstagramCollectionRun UUID InstagramCollectionRun.id
  items : Table InstagramCollectionRunItem UUID InstagramCollectionRunItem.id
  reels : Table InstagramReel UUID InstagramReel.id
  jobs : Table InstagramNormalizationJob UUID InstagramNormalizationJob.id
  videos : Table Video UUID Video.id
  views : Table InstagramReelView UUID InstagramReelView.id

/-- What a transaction raises; it is rolled back then. -/
inductive DatabaseError
  | integrityError
  | valueError
  | lookupError
  | invalidStateTransition
  | runtimeError
  | operationalError
  deriving DecidableEq, Repr

theorem bind_eq_ok {ε α β : Type} {first : Except ε α}
    {next : α → Except ε β} {result : β}
    (succeeded : (first >>= next) = .ok result) :
    ∃ value, first = .ok value ∧ next value = .ok result := by
  cases first with
  | error error => cases succeeded
  | ok value => exact ⟨value, rfl, succeeded⟩

theorem bind_eq_error {ε α β : Type} {first : Except ε α}
    {next : α → Except ε β} {error : ε}
    (failed : (first >>= next) = .error error) :
    first = .error error ∨
      ∃ value, first = .ok value ∧ next value = .error error := by
  cases first with
  | error raised =>
      cases failed
      exact .inl rfl
  | ok value => exact .inr ⟨value, rfl, failed⟩

theorem map_eq_ok {ε α β : Type} {outcome : Except ε α} {change : α → β}
    {result : β} (succeeded : outcome.map change = .ok result) :
    ∃ value, outcome = .ok value ∧ change value = result := by
  cases outcome with
  | error error => cases succeeded
  | ok value => exact ⟨value, rfl, Except.ok.inj succeeded⟩

/-- Raise unless the policy allows the change of status. -/
def requireTransition {Status : Type} [DecidableEq Status]
    (policy : Status → List Status) (current target : Status) :
    Except DatabaseError Unit :=
  if isTransitionAllowed policy current target then .ok ()
  else .error .invalidStateTransition

/-- The first row in an order given by a comparison. -/
def firstBy {Row : Type} (before : Row → Row → Bool) : List Row → Option Row
  | [] => none
  | row :: rest =>
      match firstBy before rest with
      | none => some row
      | some other => if before other row then some other else some row

theorem mem_of_firstBy {Row : Type} {before : Row → Row → Bool}
    {rows : List Row} {first : Row} (found : firstBy before rows = some first) :
    first ∈ rows := by
  induction rows generalizing first with
  | nil => cases found
  | cons row rest ih =>
      unfold firstBy at found
      cases remaining : firstBy before rest with
      | none =>
          rw [remaining] at found
          cases found
          exact List.mem_cons_self
      | some other =>
          rw [remaining] at found
          dsimp only at found
          split at found
          · cases found
            exact List.mem_cons_of_mem row (ih remaining)
          · cases found
            exact List.mem_cons_self

namespace Database

def empty : Database where
  accounts := .empty
  runs := .empty
  items := .empty
  reels := .empty
  jobs := .empty
  videos := .empty
  views := .empty

end Database

namespace InstagramReel

def satisfiesChecks (reel : InstagramReel) : Bool :=
  reel.sourceByteSize.all (0 < ·) &&
    (!reel.pipelineStatus.isDurable ||
      (reel.sourceObjectKey.isSome && reel.sourceSha256.isSome &&
        reel.sourceByteSize.isSome)) &&
    (reel.pipelineStatus ≠ .ready || reel.videoId.isSome)

/-- The unique columns; a null value is equal to no other. -/
def conflictsWith (reel other : InstagramReel) : Bool :=
  reel.id ≠ other.id &&
    (reel.shortcode = other.shortcode ||
      reel.canonicalUrl = other.canonicalUrl ||
      (reel.sourceObjectKey.isSome &&
        reel.sourceObjectKey = other.sourceObjectKey) ||
      (reel.videoId.isSome && reel.videoId = other.videoId))

end InstagramReel

/-- `uq_instagram_normalization_jobs_active_reel` -/
def InstagramNormalizationJob.conflictsWith
    (job other : InstagramNormalizationJob) : Bool :=
  job.id ≠ other.id && job.reelId = other.reelId &&
    job.status.isActive && other.status.isActive

namespace InstagramCollectionRun

def itemCount (run : InstagramCollectionRun) : Nat :=
  run.sourceCommittedCount + run.alreadyAvailableCount + run.failedCount

def satisfiesChecks (run : InstagramCollectionRun) : Bool :=
  0 < run.targetCount && run.itemCount ≤ run.targetCount

/-- `uq_instagram_collection_runs_active_account` -/
def conflictsWith (run other : InstagramCollectionRun) : Bool :=
  run.id ≠ other.id && run.accountId = other.accountId &&
    run.status.isActive && other.status.isActive

end InstagramCollectionRun

namespace InstagramCollectionRunItem

def satisfiesChecks (item : InstagramCollectionRunItem) : Bool :=
  0 < item.position &&
    match item.outcome with
    | .sourceCommitted => item.downloadAuthMode.isSome
    | .alreadyAvailable => item.downloadAuthMode.isNone
    | .failed => true

def conflictsWith (item other : InstagramCollectionRunItem) : Bool :=
  item.id ≠ other.id && item.runId = other.runId &&
    (item.position = other.position || item.reelId = other.reelId)

end InstagramCollectionRunItem

/-- `uq_instagram_reel_views_account_reel` -/
def InstagramReelView.conflictsWith (view other : InstagramReelView) : Bool :=
  view.id ≠ other.id && view.accountId = other.accountId &&
    view.reelId = other.reelId

namespace Video

def satisfiesChecks (video : Video) : Bool :=
  0 < video.byteSize

def conflictsWith (video other : Video) : Bool :=
  video.id ≠ other.id &&
    (video.objectKey = other.objectKey ||
      (video.contentSha256.isSome &&
        video.contentSha256 = other.contentSha256))

end Video

/-- The outcome of a write: refused unless the constraints hold. -/
def constrained (holds : Bool) (database : Database) :
    Except DatabaseError Database :=
  if holds then .ok database else .error .integrityError

theorem constrained_eq_ok {holds : Bool} {database after : Database} :
    constrained holds database = .ok after ↔
      holds = true ∧ after = database := by
  cases holds with
  | false => simp [constrained]
  | true => simp [constrained, eq_comm]

namespace Database

def insertAccount (database : Database) (account : InstagramAccount) :
    Except DatabaseError Database :=
  match database.accounts.insert? account with
  | none => .error .integrityError
  | some accounts => .ok { database with accounts }

def writeAccount (database : Database) (account : InstagramAccount) :
    Database :=
  { database with accounts := database.accounts.put account }

def insertReel (database : Database) (reel : InstagramReel) :
    Except DatabaseError Database :=
  match database.reels.insert? reel with
  | none => .error .integrityError
  | some reels =>
      constrained (reel.satisfiesChecks &&
        database.reels.rows.all fun other => !reel.conflictsWith other)
        { database with reels }

def writeReel (database : Database) (reel : InstagramReel) :
    Except DatabaseError Database :=
  constrained (reel.satisfiesChecks &&
    database.reels.rows.all fun other => !reel.conflictsWith other)
    { database with reels := database.reels.put reel }

def insertJob (database : Database) (job : InstagramNormalizationJob) :
    Except DatabaseError Database :=
  match database.jobs.insert? job with
  | none => .error .integrityError
  | some jobs =>
      constrained (database.jobs.rows.all fun other => !job.conflictsWith other)
        { database with jobs }

def writeJob (database : Database) (job : InstagramNormalizationJob) :
    Except DatabaseError Database :=
  constrained (database.jobs.rows.all fun other => !job.conflictsWith other)
    { database with jobs := database.jobs.put job }

def insertRun (database : Database) (run : InstagramCollectionRun) :
    Except DatabaseError Database :=
  match database.runs.insert? run with
  | none => .error .integrityError
  | some runs =>
      constrained (run.satisfiesChecks &&
        database.runs.rows.all fun other => !run.conflictsWith other)
        { database with runs }

def writeRun (database : Database) (run : InstagramCollectionRun) :
    Except DatabaseError Database :=
  constrained (run.satisfiesChecks &&
    database.runs.rows.all fun other => !run.conflictsWith other)
    { database with runs := database.runs.put run }

def insertItem (database : Database) (item : InstagramCollectionRunItem) :
    Except DatabaseError Database :=
  match database.items.insert? item with
  | none => .error .integrityError
  | some items =>
      constrained (item.satisfiesChecks &&
        database.items.rows.all fun other => !item.conflictsWith other)
        { database with items }

def insertView (database : Database) (view : InstagramReelView) :
    Except DatabaseError Database :=
  match database.views.insert? view with
  | none => .error .integrityError
  | some views =>
      constrained
        (database.views.rows.all fun other => !view.conflictsWith other)
        { database with views }

def insertVideo (database : Database) (video : Video) :
    Except DatabaseError Database :=
  match database.videos.insert? video with
  | none => .error .integrityError
  | some videos =>
      constrained (video.satisfiesChecks &&
        database.videos.rows.all fun other => !video.conflictsWith other)
        { database with videos }

theorem insertReel_eq_ok {database after : Database} {reel : InstagramReel}
    (inserted : database.insertReel reel = .ok after) :
    ∃ reels, database.reels.insert? reel = some reels ∧
      reel.satisfiesChecks = true ∧
      (∀ other ∈ database.reels, reel.conflictsWith other = false) ∧
      after = { database with reels } := by
  unfold insertReel at inserted
  split at inserted
  · cases inserted
  · rename_i reels shape
    simp only [constrained_eq_ok, Bool.and_eq_true, List.all_eq_true,
      Bool.not_eq_true'] at inserted
    obtain ⟨⟨checks, unique⟩, rfl⟩ := inserted
    exact ⟨reels, shape, checks, unique, rfl⟩

theorem constrained_eq_error {holds : Bool} {database : Database} :
    constrained holds database = .error .integrityError ↔ holds = false := by
  cases holds with
  | false => simp [constrained]
  | true => simp [constrained]

theorem writeReel_eq_ok {database after : Database} {reel : InstagramReel}
    (written : database.writeReel reel = .ok after) :
    reel.satisfiesChecks = true ∧
      (∀ other ∈ database.reels, reel.conflictsWith other = false) ∧
      after = { database with reels := database.reels.put reel } := by
  simp only [writeReel, constrained_eq_ok, Bool.and_eq_true, List.all_eq_true,
    Bool.not_eq_true'] at written
  obtain ⟨⟨checks, unique⟩, rfl⟩ := written
  exact ⟨checks, unique, rfl⟩

theorem insertJob_eq_ok {database after : Database}
    {job : InstagramNormalizationJob}
    (inserted : database.insertJob job = .ok after) :
    ∃ jobs, database.jobs.insert? job = some jobs ∧
      (∀ other ∈ database.jobs, job.conflictsWith other = false) ∧
      after = { database with jobs } := by
  unfold insertJob at inserted
  split at inserted
  · cases inserted
  · rename_i jobs shape
    simp only [constrained_eq_ok, List.all_eq_true, Bool.not_eq_true'] at inserted
    obtain ⟨unique, rfl⟩ := inserted
    exact ⟨jobs, shape, unique, rfl⟩

theorem writeJob_eq_ok {database after : Database}
    {job : InstagramNormalizationJob}
    (written : database.writeJob job = .ok after) :
    (∀ other ∈ database.jobs, job.conflictsWith other = false) ∧
      after = { database with jobs := database.jobs.put job } := by
  simp only [writeJob, constrained_eq_ok, List.all_eq_true,
    Bool.not_eq_true'] at written
  exact written

theorem insertRun_eq_ok {database after : Database}
    {run : InstagramCollectionRun}
    (inserted : database.insertRun run = .ok after) :
    ∃ runs, database.runs.insert? run = some runs ∧
      run.satisfiesChecks = true ∧
      (∀ other ∈ database.runs, run.conflictsWith other = false) ∧
      after = { database with runs } := by
  unfold insertRun at inserted
  split at inserted
  · cases inserted
  · rename_i runs shape
    simp only [constrained_eq_ok, Bool.and_eq_true, List.all_eq_true,
      Bool.not_eq_true'] at inserted
    obtain ⟨⟨checks, unique⟩, rfl⟩ := inserted
    exact ⟨runs, shape, checks, unique, rfl⟩

theorem insertRun_refused_iff {database : Database}
    {run : InstagramCollectionRun}
    (fresh : ∀ other ∈ database.runs, other.id ≠ run.id) :
    database.insertRun run = .error .integrityError ↔
      run.satisfiesChecks = false ∨
        ∃ other ∈ database.runs, run.conflictsWith other = true := by
  obtain ⟨runs, inserted⟩ := Table.insert?_of_absent run fresh
  unfold insertRun
  rw [inserted]
  dsimp only
  rw [constrained_eq_error, Bool.and_eq_false_iff, List.all_eq_false]
  simp only [Bool.not_eq_true', Bool.not_eq_false]
  exact Iff.rfl

theorem writeRun_eq_ok {database after : Database}
    {run : InstagramCollectionRun}
    (written : database.writeRun run = .ok after) :
    run.satisfiesChecks = true ∧
      (∀ other ∈ database.runs, run.conflictsWith other = false) ∧
      after = { database with runs := database.runs.put run } := by
  simp only [writeRun, constrained_eq_ok, Bool.and_eq_true, List.all_eq_true,
    Bool.not_eq_true'] at written
  obtain ⟨⟨checks, unique⟩, rfl⟩ := written
  exact ⟨checks, unique, rfl⟩

theorem insertItem_eq_ok {database after : Database}
    {item : InstagramCollectionRunItem}
    (inserted : database.insertItem item = .ok after) :
    ∃ items, database.items.insert? item = some items ∧
      item.satisfiesChecks = true ∧
      (∀ other ∈ database.items, item.conflictsWith other = false) ∧
      after = { database with items } := by
  unfold insertItem at inserted
  split at inserted
  · cases inserted
  · rename_i items shape
    simp only [constrained_eq_ok, Bool.and_eq_true, List.all_eq_true,
      Bool.not_eq_true'] at inserted
    obtain ⟨⟨checks, unique⟩, rfl⟩ := inserted
    exact ⟨items, shape, checks, unique, rfl⟩

theorem insertVideo_eq_ok {database after : Database} {video : Video}
    (inserted : database.insertVideo video = .ok after) :
    ∃ videos, database.videos.insert? video = some videos ∧
      video.satisfiesChecks = true ∧
      (∀ other ∈ database.videos, video.conflictsWith other = false) ∧
      after = { database with videos } := by
  unfold insertVideo at inserted
  split at inserted
  · cases inserted
  · rename_i videos shape
    simp only [constrained_eq_ok, Bool.and_eq_true, List.all_eq_true,
      Bool.not_eq_true'] at inserted
    obtain ⟨⟨checks, unique⟩, rfl⟩ := inserted
    exact ⟨videos, shape, checks, unique, rfl⟩

end Database

end OfflineReels.Instagram
