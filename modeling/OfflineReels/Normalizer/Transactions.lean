import OfflineReels.Collector.Persistence
import OfflineReels.Media.Contracts
import OfflineReels.Videos.Repository

namespace OfflineReels.Normalizer

open OfflineReels.Foundation
open OfflineReels.Instagram
open OfflineReels.Media

/-! The transactions of the normalizer worker. -/

def MAX_NORMALIZATION_ATTEMPTS : Nat := 3
def LEASE_SECONDS : Nat := 30 * 60

structure ClaimedNormalizationJob where
  jobId : UUID
  reelId : UUID
  shortcode : String
  sourceObjectKey : SourceObjectKey
  sourceSha256 : Digest
  sourceByteSize : Nat
  attemptCount : Nat
  stagingPrefix : StagingPrefix
  deriving DecidableEq, Repr

/-- What `_commit_ready` raises; the transaction is rolled back. -/
inductive CommitFault
  | workerCancelled
  | finalObjectConflict
  | valueError
  | database (error : DatabaseError)
  deriving DecidableEq, Repr

/-- The durable fields of a source that `_required` asks for. -/
def requiredSource (reel : InstagramReel) :
    Except DatabaseError (SourceObjectKey × Digest × Nat) :=
  match reel.sourceObjectKey, reel.sourceSha256, reel.sourceByteSize with
  | some key, some digest, some size => .ok (key, digest, size)
  | _, _, _ => .error .valueError

def queuedBefore (first second : InstagramNormalizationJob × InstagramReel) :
    Bool :=
  first.1.createdAt < second.1.createdAt ||
    (first.1.createdAt = second.1.createdAt && first.1.id < second.1.id)

/-- The waiting jobs with their Reels; rows locked elsewhere are skipped. -/
def claimable (database : Database) (locked : List UUID) :
    List (InstagramNormalizationJob × InstagramReel) :=
  database.jobs.rows.flatMap fun job =>
    (database.reels.rows.filter fun reel =>
      job.reelId = reel.id && job.status = .pending &&
        reel.pipelineStatus = .sourceReady &&
        job.id ∉ locked && reel.id ∉ locked).map fun reel => (job, reel)

def exhaustedJob (job : InstagramNormalizationJob) (now : Time) :
    InstagramNormalizationJob :=
  { job with
    status := .failed
    reasonCode := some ReasonCode.retryExhausted.value
    completedAt := some now }

def failedReel (reel : InstagramReel) (now : Time) (reason : ReasonCode) :
    InstagramReel :=
  { reel with
    pipelineStatus := .failed
    failureReasonCode := some reason.value
    failedAt := some now }

def claimedJob (job : InstagramNormalizationJob) (now : Time)
    (workerId : String) (leaseSeconds : Nat) : InstagramNormalizationJob :=
  { job with
    status := .running
    attemptCount := job.attemptCount + 1
    claimedAt := some now
    leaseExpiresAt := some (now + leaseSeconds * 1000000)
    workerId := some workerId
    stagingPrefix := some ⟨job.id, job.attemptCount + 1⟩ }

def claimedBy (job : InstagramNormalizationJob) (reel : InstagramReel) :
    SourceObjectKey × Digest × Nat → ClaimedNormalizationJob
  | (key, digest, size) =>
      { jobId := job.id
        reelId := reel.id
        shortcode := reel.shortcode
        sourceObjectKey := key
        sourceSha256 := digest
        sourceByteSize := size
        attemptCount := job.attemptCount + 1
        stagingPrefix := ⟨job.id, job.attemptCount + 1⟩ }

def claim (database : Database) (now : Time) (locked : List UUID)
    (workerId : String) (leaseSeconds : Nat) :
    Except DatabaseError (Database × Option ClaimedNormalizationJob) :=
  match firstBy queuedBefore (claimable database locked) with
  | none => .ok (database, none)
  | some (job, reel) =>
      if job.attemptCount + 1 > MAX_NORMALIZATION_ATTEMPTS then do
        let database ← database.writeReel (failedReel reel now .retryExhausted)
        let database ← database.writeJob (exhaustedJob job now)
        return (database, none)
      else do
        let source ← requiredSource reel
        let database ←
          database.writeReel { reel with pipelineStatus := .normalizing }
        let database ←
          database.writeJob (claimedJob job now workerId leaseSeconds)
        return (database, some (claimedBy job reel source))

def isOwnedRunning (workerId : String) (job : InstagramNormalizationJob) :
    Bool :=
  job.status = .running && job.workerId = some workerId

def failedJob (job : InstagramNormalizationJob) (now : Time)
    (reason : ReasonCode) : InstagramNormalizationJob :=
  { job with
    status := .failed
    reasonCode := some reason.value
    completedAt := some now
    leaseExpiresAt := none
    workerId := none }

/-- The failed job and its Reel are written; a new job takes the attempts over
when the Reel is to be tried again. -/
def endAttempt (database : Database) (now : Time)
    (job : InstagramNormalizationJob) (reel : InstagramReel)
    (next : Option UUID) : Except DatabaseError Database := do
  let database ← database.writeReel reel
  let database ← database.writeJob job
  match next with
  | none => return database
  | some jobId =>
      database.insertJob
        (Collector.Persistence.pendingJob now jobId reel.id job.attemptCount)

def finishFailure (database : Database) (now : Time) (workerId : String)
    (newJob : UUID) (claimed : ClaimedNormalizationJob) (reason : ReasonCode)
    (retryable : Bool) : Except DatabaseError Database :=
  match database.jobs.find? claimed.jobId,
      database.reels.find? claimed.reelId with
  | some job, some reel =>
      if !isOwnedRunning workerId job then .ok database
      else if retryable && job.attemptCount < MAX_NORMALIZATION_ATTEMPTS then
        endAttempt database now (failedJob job now reason)
          { reel with
            pipelineStatus := .sourceReady
            failureReasonCode := some reason.value }
          (some newJob)
      else
        endAttempt database now (failedJob job now reason)
          (failedReel reel now (if retryable then .retryExhausted else reason))
          none
  | _, _ => .ok database

def isStale (job : InstagramNormalizationJob) (now : Time) : Bool :=
  job.status = .running && job.leaseExpiresAt.any (· < now)

/-- One expired claim; a job without its Reel is left alone. -/
def recoverJob (database : Database) (now : Time) (newJobs : UUID → UUID)
    (job : InstagramNormalizationJob) : Except DatabaseError Database :=
  match database.reels.find? job.reelId with
  | none => .ok database
  | some reel =>
      if job.attemptCount < MAX_NORMALIZATION_ATTEMPTS then
        endAttempt database now (failedJob job now .staleLeaseRecovered)
          { reel with pipelineStatus := .sourceReady }
          (some (newJobs job.id))
      else
        endAttempt database now (failedJob job now .staleLeaseRecovered)
          (failedReel reel now .retryExhausted) none

def staleJobs (database : Database) (now : Time) (locked : List UUID) :
    List InstagramNormalizationJob :=
  database.jobs.rows.filter fun job => isStale job now && job.id ∉ locked

def recovered (database : Database) (now : Time) (locked : List UUID) :
    List InstagramNormalizationJob :=
  (staleJobs database now locked).filter fun job =>
    (database.reels.find? job.reelId).isSome

/-- The first transaction of `reconcile`, with the staging prefixes to clean. -/
def recoverStale (database : Database) (now : Time) (locked : List UUID)
    (newJobs : UUID → UUID) :
    Except DatabaseError (Database × List StagingPrefix) :=
  ((staleJobs database now locked).foldlM
    (fun database job => recoverJob database now newJobs job) database).map
    fun after => (after,
      (recovered database now locked).filterMap (·.stagingPrefix))

structure NormalizedOutput where
  finalKey : VideoObjectKey
  sha256 : Digest
  size : Nat
  strategy : NormalizationStrategy
  originalCodec : String
  probe : MediaProbe
  deriving DecidableEq, Repr

def videoOf (now createdAt : Time) (videoId : UUID)
    (claimed : ClaimedNormalizationJob) (output : NormalizedOutput)
    (duration : Int) : Video where
  id := videoId
  title := "Instagram Reel " ++ claimed.shortcode
  objectKey := output.finalKey
  contentType := "video/mp4"
  byteSize := output.size
  normalizationStrategy := some output.strategy.value
  originalVideoCodec := some output.originalCodec.toLower
  normalizedVideoCodec := some output.probe.videoCodec.toLower
  width := output.probe.width
  height := output.probe.height
  durationMs := some (durationMilliseconds duration)
  fileSizeBytes := some output.size
  hasAudio := some !output.probe.audioCodecs.isEmpty
  normalizedAt := some now
  contentSha256 := some output.sha256
  createdAt := createdAt

def readyReel (reel : InstagramReel) (now : Time) (videoId : UUID) :
    InstagramReel :=
  { reel with
    videoId := some videoId
    pipelineStatus := .ready
    readyAt := some now
    failureReasonCode := none
    sourceCleanupPending := true }

def completedJob (job : InstagramNormalizationJob) (now : Time) :
    InstagramNormalizationJob :=
  { job with
    status := .completed
    reasonCode := none
    completedAt := some now
    leaseExpiresAt := none
    workerId := none }

def orFault {α : Type} : Except DatabaseError α → Except CommitFault α
  | .ok value => .ok value
  | .error error => .error (.database error)

theorem orFault_eq_ok {α : Type} {outcome : Except DatabaseError α}
    {value : α} : orFault outcome = .ok value ↔ outcome = .ok value := by
  cases outcome <;> simp [orFault]

/-- The row that was upserted has to be this output. -/
def requireVideo (output : NormalizedOutput) (video : Video) :
    Except CommitFault Unit :=
  if (video.contentSha256 ≠ none ∧ video.contentSha256 ≠ some output.sha256) ∨
      video.byteSize ≠ output.size then
    .error .finalObjectConflict
  else .ok ()

def publishReady (database : Database) (now createdAt : Time) (videoId : UUID)
    (claimed : ClaimedNormalizationJob) (output : NormalizedOutput)
    (job : InstagramNormalizationJob) (reel : InstagramReel)
    (duration : Int) : Except CommitFault Database := do
  let (database, result) ← orFault (Videos.upsert database
    (videoOf now createdAt videoId claimed output duration))
  requireVideo output result.video
  let database ← orFault
    (database.writeReel (readyReel reel now result.video.id))
  orFault (database.writeJob (completedJob job now))

def commitReady (database : Database) (now createdAt : Time)
    (videoId : UUID) (workerId : String) (claimed : ClaimedNormalizationJob)
    (output : NormalizedOutput) : Except CommitFault Database :=
  match database.jobs.find? claimed.jobId,
      database.reels.find? claimed.reelId with
  | some job, some reel =>
      if !isOwnedRunning workerId job then .error .workerCancelled
      else
        match output.probe.duration with
        | none => .error .valueError
        | some duration =>
            publishReady database now createdAt videoId claimed output job reel
              duration
  | _, _ => .error .workerCancelled

/-- After the source of a committed Reel was removed. -/
def sourceCleaned (database : Database) (reelId : UUID) :
    Except DatabaseError Database :=
  match database.reels.find? reelId with
  | none => .ok database
  | some reel =>
      if reel.pipelineStatus = .ready then
        database.writeReel { reel with sourceCleanupPending := false }
      else .ok database

/-- The Reels whose sources `reconcile` still has to remove. -/
def cleanupPending (database : Database) : List InstagramReel :=
  database.reels.rows.filter fun reel =>
    reel.pipelineStatus = .ready && reel.sourceCleanupPending

def cleanupReconciled (database : Database) (reelId : UUID) :
    Except DatabaseError (Database × Bool) :=
  match database.reels.find? reelId with
  | none => .ok (database, false)
  | some reel =>
      if reel.sourceCleanupPending then
        (database.writeReel { reel with sourceCleanupPending := false }).map
          fun database => (database, true)
      else .ok (database, false)

theorem mem_claimable {database : Database} {locked : List UUID}
    {job : InstagramNormalizationJob} {reel : InstagramReel}
    (selected : (job, reel) ∈ claimable database locked) :
    job ∈ database.jobs ∧ reel ∈ database.reels ∧ job.reelId = reel.id ∧
      job.status = .pending ∧ reel.pipelineStatus = .sourceReady := by
  simp only [claimable, List.mem_flatMap, List.mem_map, List.mem_filter,
    Bool.and_eq_true, decide_eq_true_eq] at selected
  obtain ⟨row, member, found, ⟨foundMember, tests⟩, same⟩ := selected
  obtain ⟨⟨⟨⟨ofReel, pending⟩, waiting⟩, _⟩, _⟩ := tests
  cases same
  exact ⟨member, foundMember, ofReel, pending, waiting⟩

theorem claim_eq_ok {database after : Database} {now : Time}
    {locked : List UUID} {workerId : String} {leaseSeconds : Nat}
    {result : Option ClaimedNormalizationJob}
    (succeeded : claim database now locked workerId leaseSeconds =
      .ok (after, result)) :
    (after = database ∧ result = none) ∨
      ∃ job reel, (job, reel) ∈ claimable database locked ∧
        ((MAX_NORMALIZATION_ATTEMPTS < job.attemptCount + 1 ∧ result = none ∧
            after = { database with
              reels := database.reels.put (failedReel reel now .retryExhausted)
              jobs := database.jobs.put (exhaustedJob job now) }) ∨
          (job.attemptCount + 1 ≤ MAX_NORMALIZATION_ATTEMPTS ∧
            (∃ source, requiredSource reel = .ok source ∧
              result = some (claimedBy job reel source)) ∧
            after = { database with
              reels := database.reels.put
                { reel with pipelineStatus := .normalizing }
              jobs := database.jobs.put
                (claimedJob job now workerId leaseSeconds) })) := by
  unfold claim at succeeded
  split at succeeded
  · cases succeeded
    exact .inl ⟨rfl, rfl⟩
  · rename_i job reel found
    refine .inr ⟨job, reel, mem_of_firstBy found, ?_⟩
    split at succeeded
    · rename_i exhausted
      obtain ⟨middle, stored, succeeded⟩ := bind_eq_ok succeeded
      obtain ⟨last, ended, succeeded⟩ := bind_eq_ok succeeded
      obtain ⟨_, _, rfl⟩ := Database.writeReel_eq_ok stored
      obtain ⟨_, rfl⟩ := Database.writeJob_eq_ok ended
      cases succeeded
      exact .inl ⟨exhausted, rfl, rfl⟩
    · rename_i within
      obtain ⟨source, required, succeeded⟩ := bind_eq_ok succeeded
      obtain ⟨middle, stored, succeeded⟩ := bind_eq_ok succeeded
      obtain ⟨last, ended, succeeded⟩ := bind_eq_ok succeeded
      obtain ⟨_, _, rfl⟩ := Database.writeReel_eq_ok stored
      obtain ⟨_, rfl⟩ := Database.writeJob_eq_ok ended
      cases succeeded
      exact .inr ⟨Nat.not_lt.mp within, ⟨source, required, rfl⟩, rfl⟩

theorem endAttempt_eq_ok {database after : Database} {now : Time}
    {job : InstagramNormalizationJob} {reel : InstagramReel}
    {next : Option UUID}
    (succeeded : endAttempt database now job reel next = .ok after) :
    (next = none ∧ after = { database with
        reels := database.reels.put reel
        jobs := database.jobs.put job }) ∨
      ∃ jobId jobs, next = some jobId ∧
        (database.jobs.put job).insert?
          (Collector.Persistence.pendingJob now jobId reel.id
            job.attemptCount) = some jobs ∧
        after = { database with
          reels := database.reels.put reel
          jobs := jobs } := by
  obtain ⟨middle, stored, succeeded⟩ := bind_eq_ok succeeded
  obtain ⟨last, ended, succeeded⟩ := bind_eq_ok succeeded
  obtain ⟨_, _, rfl⟩ := Database.writeReel_eq_ok stored
  obtain ⟨_, rfl⟩ := Database.writeJob_eq_ok ended
  cases next with
  | none =>
      cases succeeded
      exact .inl ⟨rfl, rfl⟩
  | some jobId =>
      obtain ⟨jobs, shape, _, rfl⟩ := Database.insertJob_eq_ok succeeded
      exact .inr ⟨jobId, jobs, rfl, shape, rfl⟩

theorem isOwnedRunning_running {workerId : String}
    {job : InstagramNormalizationJob}
    (owned : isOwnedRunning workerId job = true) : job.status = .running := by
  simp only [isOwnedRunning, Bool.and_eq_true, decide_eq_true_eq] at owned
  exact owned.1

structure ReadyCommitted (database : Database) (now createdAt : Time)
    (videoId : UUID) (workerId : String) (claimed : ClaimedNormalizationJob)
    (output : NormalizedOutput) (after : Database) : Prop where
  rows : ∃ job reel duration upserted result,
    database.jobs.find? claimed.jobId = some job ∧
    database.reels.find? claimed.reelId = some reel ∧
    isOwnedRunning workerId job = true ∧
    Videos.upsert database
      (videoOf now createdAt videoId claimed output duration) =
        .ok (upserted, result) ∧
    result.video.byteSize = output.size ∧
    after = { upserted with
      reels := database.reels.put (readyReel reel now result.video.id)
      jobs := database.jobs.put (completedJob job now) }

theorem commitReady_eq_ok {database after : Database} {now createdAt : Time}
    {videoId : UUID} {workerId : String} {claimed : ClaimedNormalizationJob}
    {output : NormalizedOutput}
    (succeeded : commitReady database now createdAt videoId workerId claimed
      output = .ok after) :
    ReadyCommitted database now createdAt videoId workerId claimed output
      after := by
  unfold commitReady at succeeded
  split at succeeded
  · rename_i job reel jobFound reelFound
    split at succeeded
    · cases succeeded
    · rename_i owned
      split at succeeded
      · cases succeeded
      · rename_i duration known
        obtain ⟨⟨upserted, result⟩, stored, succeeded⟩ := bind_eq_ok succeeded
        obtain ⟨_, required, succeeded⟩ := bind_eq_ok succeeded
        obtain ⟨middle, written, ended⟩ := bind_eq_ok succeeded
        have upsertedOk := orFault_eq_ok.mp stored
        obtain ⟨videos, rfl⟩ := Videos.upsert_keeps upsertedOk
        obtain ⟨_, _, rfl⟩ :=
          Database.writeReel_eq_ok (orFault_eq_ok.mp written)
        obtain ⟨_, rfl⟩ := Database.writeJob_eq_ok (orFault_eq_ok.mp ended)
        have size : result.video.byteSize = output.size := by
          unfold requireVideo at required
          split at required
          · cases required
          · rename_i fitting
            exact not_not.mp (not_or.mp fitting).2
        refine ⟨job, reel, duration, _, result, jobFound, reelFound, ?_,
          upsertedOk, size, rfl⟩
        simpa using owned
  · cases succeeded

theorem commitReady_of_ended {database : Database} {now createdAt : Time}
    {videoId : UUID} {workerId : String} {claimed : ClaimedNormalizationJob}
    {output : NormalizedOutput} {job : InstagramNormalizationJob}
    (found : database.jobs.find? claimed.jobId = some job)
    (ended : job.status ≠ .running) :
    commitReady database now createdAt videoId workerId claimed output =
      .error .workerCancelled := by
  unfold commitReady
  rw [found]
  cases database.reels.find? claimed.reelId with
  | none => rfl
  | some reel =>
      have unowned : isOwnedRunning workerId job = false := by
        simp [isOwnedRunning, ended]
      simp [unowned]

theorem finishFailure_of_ended {database : Database} {now : Time}
    {workerId : String} {newJob : UUID} {claimed : ClaimedNormalizationJob}
    {reason : ReasonCode} {retryable : Bool} {job : InstagramNormalizationJob}
    (found : database.jobs.find? claimed.jobId = some job)
    (ended : job.status ≠ .running) :
    finishFailure database now workerId newJob claimed reason retryable =
      .ok database := by
  unfold finishFailure
  rw [found]
  cases database.reels.find? claimed.reelId with
  | none => rfl
  | some reel =>
      have unowned : isOwnedRunning workerId job = false := by
        simp [isOwnedRunning, ended]
      simp [unowned]

end OfflineReels.Normalizer
