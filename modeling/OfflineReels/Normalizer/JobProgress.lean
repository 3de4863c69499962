import OfflineReels.Normalizer.JobInvariant

namespace OfflineReels.Normalizer

open OfflineReels.Foundation
open OfflineReels.Instagram
open OfflineReels.Collector

/-! Every transaction on Reels and jobs makes progress. -/

variable {database after : Database} {now : Time}

theorem claim_progress (fit : JobsFit database.reels database.jobs)
    {locked : List UUID} {workerId : String} {leaseSeconds : Nat}
    {result : Option ClaimedNormalizationJob}
    (succeeded : claim database now locked workerId leaseSeconds =
      .ok (after, result)) :
    Progress database after := by
  rcases claim_eq_ok succeeded with ⟨rfl, _⟩ | ⟨job, reel, selected, claimed⟩
  · exact .of_same fit rfl rfl
  obtain ⟨member, reelMember, ofReel, pending, waiting⟩ :=
    mem_claimable selected
  have isActive : job.status.isActive = true := by
    rw [pending]
    rfl
  rcases claimed with ⟨_, _, rfl⟩ | ⟨within, _, rfl⟩
  · refine progress_of_job fit reelMember rfl member ofReel isActive rfl ?_ rfl
      ?_ ?_ nofun
    · exact ⟨(fit.attempts job member).1, nofun⟩
    · rw [waiting]
      exact .single rfl
    · rw [pending]
      exact .single rfl
  · refine progress_of_job fit reelMember rfl member ofReel isActive rfl ?_ rfl
      ?_ ?_ nofun
    · exact ⟨within, nofun⟩
    · rw [waiting]
      exact .single rfl
    · rw [pending]
      exact .single rfl

section

variable {job ended next : InstagramNormalizationJob}
variable {reel written : InstagramReel}

variable (ended) in
theorem progress_of_retry (fit : JobsFit database.reels database.jobs)
    (reelMember : reel ∈ database.reels) (same : written.id = reel.id)
    (member : job ∈ database.jobs)
    (only : OnlyJob database.jobs reel.id job)
    (identical : jobIdentity ended = jobIdentity job)
    (inactive : ended.status.isActive = false) (within : WithinAttempts ended)
    (jobPath : TransitionPath NORMALIZATION_JOB_TRANSITIONS job.status
      ended.status)
    (waits : written.pipelineStatus = .sourceReady)
    (path : TransitionPath REEL_PIPELINE_TRANSITIONS reel.pipelineStatus
      .sourceReady)
    (nextOf : next.reelId = reel.id) (pending : next.status = .pending)
    (nextWithin : WithinAttempts next) {jobs : JobTable}
    (shape : (database.jobs.put ended).insert? next = some jobs) :
    Progress database { database with
      reels := database.reels.put written
      jobs := jobs } where
  fit := by
    have sameKey : ended.id = job.id := jobIdentity_keyed ended job identical
    have sameOwner : ended.reelId = job.reelId := congrArg Prod.snd identical
    have nextActive : next.status.isActive = true := by
      rw [pending]
      rfl
    refine fit.rewrite reelMember same ?_ ?_ ?_ ?_
    · intro other differs
      rw [Table.mem_insert?_of_other (·.reelId) shape (nextOf ▸ differs)]
      exact Table.mem_put_of_other (·.reelId) member sameKey sameOwner
        (only.owned ▸ differs)
    · simp only [Fits, waits, expectedJob, same]
      have vacant := only.vacate sameKey inactive
      exact ⟨next, vacant.occupy shape nextOf nextActive, pending⟩
    · intro other otherMember _
      rcases (Table.mem_insert? shape).mp otherMember with present | rfl
      · rcases Table.mem_put.mp present with ⟨rfl, _⟩ | ⟨stayed, _⟩
        · exact within
        · exact fit.attempts other stayed
      · exact nextWithin
    · rw [waits]
      exact fun clash => by cases clash
  reels := by
    refine .of_put (fun _ _ equal => equal) reelMember same ?_
    rw [waits]
    exact path
  jobs := by
    refine (StatusMoves.of_put jobIdentity_keyed member identical jobPath).trans
      jobIdentity_keyed (.of_insert shape ?_)
    rw [pending]
    exact .stay _

end

def Continues (job : InstagramNormalizationJob) (written : InstagramReel) :
    Option UUID → Prop
  | none => written.pipelineStatus = .failed
  | some _ => job.attemptCount < MAX_NORMALIZATION_ATTEMPTS ∧
      written.pipelineStatus = .sourceReady

theorem endAttempt_progress (fit : JobsFit database.reels database.jobs)
    {job : InstagramNormalizationJob} {reel written : InstagramReel}
    {next : Option UUID} {reason : ReasonCode}
    (succeeded : endAttempt database now (failedJob job now reason) written
      next = .ok after)
    (reelMember : reel ∈ database.reels) (same : written.id = reel.id)
    (member : job ∈ database.jobs) (ofReel : job.reelId = reel.id)
    (running : job.status = .running) (continues : Continues job written next) :
    Progress database after ∧ failedJob job now reason ∈ after.jobs ∧
      ∀ other ∈ database.jobs, other.id ≠ job.id → other ∈ after.jobs := by
  have isActive : job.status.isActive = true := by
    rw [running]
    rfl
  have only := (fit.onlyJob reelMember member ofReel isActive).1
  have normalizing := fit.normalizing reelMember member ofReel running
  have within : WithinAttempts (failedJob job now reason) :=
    ⟨(fit.attempts job member).1, nofun⟩
  have jobPath : TransitionPath NORMALIZATION_JOB_TRANSITIONS job.status
      (failedJob job now reason).status := by
    rw [running]
    exact .single rfl
  have stored : failedJob job now reason ∈
      database.jobs.put (failedJob job now reason) :=
    Table.mem_put.mpr (.inl ⟨rfl, job, member, rfl⟩)
  have others : ∀ other ∈ database.jobs, other.id ≠ job.id →
      other ∈ database.jobs.put (failedJob job now reason) :=
    fun other otherMember differs =>
      Table.mem_put.mpr (.inr ⟨otherMember, differs⟩)
  rcases endAttempt_eq_ok succeeded with ⟨rfl, rfl⟩ |
    ⟨jobId, jobs, rfl, shape, rfl⟩
  · refine ⟨progress_of_job fit reelMember same member ofReel isActive rfl
      within ?_ ?_ jobPath ?_, stored, others⟩
    · rw [continues]
      rfl
    · rw [normalizing, continues]
      exact .single rfl
    · rw [continues]
      nofun
  · obtain ⟨retryable, waits⟩ := continues
    refine ⟨progress_of_retry (failedJob job now reason) fit reelMember same
      member only rfl rfl within jobPath waits ?_ same rfl ?_ shape, ?_, ?_⟩
    · rw [normalizing]
      exact .single rfl
    · exact ⟨(fit.attempts job member).1, fun _ => retryable⟩
    · exact (Table.mem_insert? shape).mpr (.inl stored)
    · intro other otherMember differs
      exact (Table.mem_insert? shape).mpr
        (.inl (others other otherMember differs))

def Issued (jobs : JobTable) (claimed : ClaimedNormalizationJob) : Prop :=
  ∃ job ∈ jobs, job.id = claimed.jobId ∧ job.reelId = claimed.reelId

theorem Issued.later {jobs later : JobTable} {claimed : ClaimedNormalizationJob}
    (issued : Issued jobs claimed) (moves : JobMoves jobs later) :
    Issued later claimed := by
  obtain ⟨job, member, sameJob, sameReel⟩ := issued
  obtain ⟨next, nextMember, identical, _⟩ := moves.moved job member
  have sameKey : next.id = job.id := congrArg Prod.fst identical
  have sameOwner : next.reelId = job.reelId := congrArg Prod.snd identical
  exact ⟨next, nextMember, sameKey.trans sameJob, sameOwner.trans sameReel⟩

theorem Issued.rows {claimed : ClaimedNormalizationJob}
    (issued : Issued database.jobs claimed)
    {job : InstagramNormalizationJob} {reel : InstagramReel}
    (jobFound : database.jobs.find? claimed.jobId = some job)
    (reelFound : database.reels.find? claimed.reelId = some reel) :
    job ∈ database.jobs ∧ reel ∈ database.reels ∧ job.reelId = reel.id := by
  obtain ⟨member, jobKey⟩ := Table.find?_eq_some.mp jobFound
  obtain ⟨reelMember, reelKey⟩ := Table.find?_eq_some.mp reelFound
  obtain ⟨row, rowMember, sameJob, sameReel⟩ := issued
  obtain rfl : row = job :=
    Table.eq_of_key_eq rowMember member (sameJob.trans jobKey.symm)
  exact ⟨member, reelMember, sameReel.trans reelKey.symm⟩

theorem finishFailure_progress (fit : JobsFit database.reels database.jobs)
    {workerId : String} {newJob : UUID} {claimed : ClaimedNormalizationJob}
    {reason : ReasonCode} {retryable : Bool}
    (issued : Issued database.jobs claimed)
    (succeeded : finishFailure database now workerId newJob claimed reason
      retryable = .ok after) :
    Progress database after := by
  unfold finishFailure at succeeded
  split at succeeded
  · rename_i job reel jobFound reelFound
    obtain ⟨member, reelMember, ofReel⟩ := issued.rows jobFound reelFound
    split at succeeded
    · cases succeeded
      exact .of_same fit rfl rfl
    · rename_i owned
      have running : job.status = .running :=
        isOwnedRunning_running (by simpa using owned)
      split at succeeded
      · rename_i retries
        simp only [Bool.and_eq_true, decide_eq_true_eq] at retries
        exact (endAttempt_progress fit succeeded reelMember rfl member ofReel
          running ⟨retries.2, rfl⟩).1
      · exact (endAttempt_progress fit succeeded reelMember rfl member ofReel
          running rfl).1
  · cases succeeded
    exact .of_same fit rfl rfl

theorem commitReady_progress (fit : JobsFit database.reels database.jobs)
    {createdAt : Time} {videoId : UUID} {workerId : String}
    {claimed : ClaimedNormalizationJob} {output : NormalizedOutput}
    (issued : Issued database.jobs claimed)
    (succeeded : commitReady database now createdAt videoId workerId claimed
      output = .ok after) :
    Progress database after := by
  obtain ⟨job, reel, duration, upserted, result, jobFound, reelFound, owned,
    stored, _, rfl⟩ := (commitReady_eq_ok succeeded).rows
  obtain ⟨member, reelMember, ofReel⟩ := issued.rows jobFound reelFound
  have running := isOwnedRunning_running owned
  have isActive : job.status.isActive = true := by
    rw [running]
    rfl
  have normalizing := fit.normalizing reelMember member ofReel running
  have progress : Progress database { database with
      reels := database.reels.put (readyReel reel now result.video.id)
      jobs := database.jobs.put (completedJob job now) } := by
    refine progress_of_job fit reelMember rfl member ofReel isActive rfl ?_ rfl
      ?_ ?_ fun _ => rfl
    · exact ⟨(fit.attempts job member).1, nofun⟩
    · rw [normalizing]
      exact .single rfl
    · rw [running]
      exact .single rfl
  exact progress.extend rfl rfl

theorem sourceCleaned_progress (fit : JobsFit database.reels database.jobs)
    {reelId : UUID} (succeeded : sourceCleaned database reelId = .ok after) :
    Progress database after := by
  unfold sourceCleaned at succeeded
  split at succeeded
  · cases succeeded
    exact .of_same fit rfl rfl
  · rename_i reel found
    have member := (Table.find?_eq_some.mp found).1
    split at succeeded
    · obtain ⟨_, _, rfl⟩ := Database.writeReel_eq_ok succeeded
      exact progress_of_reel fit member rfl rfl (.stay _) (fit.ready reel member)
    · cases succeeded
      exact .of_same fit rfl rfl

theorem cleanupReconciled_progress (fit : JobsFit database.reels database.jobs)
    {reelId : UUID} {cleaned : Bool}
    (succeeded : cleanupReconciled database reelId = .ok (after, cleaned)) :
    Progress database after := by
  unfold cleanupReconciled at succeeded
  split at succeeded
  · cases succeeded
    exact .of_same fit rfl rfl
  · rename_i reel found
    have member := (Table.find?_eq_some.mp found).1
    split at succeeded
    · obtain ⟨next, written, shape⟩ := map_eq_ok succeeded
      cases shape
      obtain ⟨_, _, rfl⟩ := Database.writeReel_eq_ok written
      exact progress_of_reel fit member rfl rfl (.stay _) (fit.ready reel member)
    · cases succeeded
      exact .of_same fit rfl rfl

theorem recoverJob_progress (fit : JobsFit database.reels database.jobs)
    {newJobs : UUID → UUID} {job : InstagramNormalizationJob}
    (member : job ∈ database.jobs) (running : job.status = .running)
    (succeeded : recoverJob database now newJobs job = .ok after) :
    Progress database after ∧
      (∃ later ∈ after.jobs, later.id = job.id ∧ later.status = .failed) ∧
      ∀ other ∈ database.jobs, other.id ≠ job.id → other ∈ after.jobs := by
  have ended : ∀ {written : InstagramReel} {next : Option UUID},
      endAttempt database now (failedJob job now .staleLeaseRecovered) written
        next = .ok after →
      (∃ reel ∈ database.reels, written.id = reel.id ∧ job.reelId = reel.id) →
      Continues job written next →
      Progress database after ∧
        (∃ later ∈ after.jobs, later.id = job.id ∧ later.status = .failed) ∧
        ∀ other ∈ database.jobs, other.id ≠ job.id → other ∈ after.jobs := by
    rintro written next stopped ⟨reel, reelMember, same, ofReel⟩ continues
    obtain ⟨progress, stored, others⟩ := endAttempt_progress fit stopped
      reelMember same member ofReel running continues
    exact ⟨progress, ⟨_, stored, rfl, rfl⟩, others⟩
  unfold recoverJob at succeeded
  split at succeeded
  · rename_i missing
    obtain ⟨reel, reelMember, owns⟩ := fit.known job member
    exact absurd owns (Table.find?_eq_none.mp missing reel reelMember)
  · rename_i reel found
    obtain ⟨reelMember, owns⟩ := Table.find?_eq_some.mp found
    split at succeeded
    · rename_i retryable
      exact ended succeeded ⟨reel, reelMember, rfl, owns.symm⟩ ⟨retryable, rfl⟩
    · exact ended succeeded ⟨reel, reelMember, rfl, owns.symm⟩ rfl

theorem failed_later {jobs later : JobTable} {jobId : UUID}
    (moves : JobMoves jobs later)
    (failed : ∃ job ∈ jobs, job.id = jobId ∧ job.status = .failed) :
    ∃ job ∈ later, job.id = jobId ∧ job.status = .failed := by
  obtain ⟨job, member, rfl, ended⟩ := failed
  obtain ⟨next, nextMember, identical, path⟩ := moves.moved job member
  rw [ended] at path
  exact ⟨next, nextMember, congrArg Prod.fst identical,
    path.eq_of_terminal rfl⟩

theorem staleJobs_running {locked : List UUID} {job : InstagramNormalizationJob}
    (selected : job ∈ staleJobs database now locked) :
    job ∈ database.jobs ∧ job.status = .running := by
  simp only [staleJobs, isStale, List.mem_filter, Bool.and_eq_true,
    decide_eq_true_eq] at selected
  exact ⟨selected.1, selected.2.1.1⟩

theorem nodup_staleJobs (database : Database) (now : Time)
    (locked : List UUID) :
    ((staleJobs database now locked).map (·.id)).Nodup :=
  database.jobs.keysNodup.sublist (List.filter_sublist.map _)

theorem recoverAll_progress {newJobs : UUID → UUID}
    (stale : List InstagramNormalizationJob)
    (fit : JobsFit database.reels database.jobs)
    (members : ∀ job ∈ stale, job ∈ database.jobs ∧ job.status = .running)
    (distinct : (stale.map (·.id)).Nodup)
    (succeeded : stale.foldlM (fun database job =>
      recoverJob database now newJobs job) database = .ok after) :
    Progress database after ∧ ∀ job ∈ stale,
      ∃ later ∈ after.jobs, later.id = job.id ∧ later.status = .failed := by
  induction stale generalizing database with
  | nil =>
      cases succeeded
      exact ⟨.of_same fit rfl rfl, nofun⟩
  | cons job rest ih =>
      rw [List.foldlM_cons] at succeeded
      obtain ⟨middle, first, succeeded⟩ := bind_eq_ok succeeded
      obtain ⟨member, running⟩ := members job List.mem_cons_self
      obtain ⟨progress, failed, others⟩ :=
        recoverJob_progress fit member running first
      rw [List.map_cons, List.nodup_cons] at distinct
      obtain ⟨fresh, distinct⟩ := distinct
      have remaining : ∀ other ∈ rest,
          other ∈ middle.jobs ∧ other.status = .running := by
        intro other otherMember
        obtain ⟨present, active⟩ := members other (.tail job otherMember)
        refine ⟨others other present ?_, active⟩
        intro same
        exact fresh (List.mem_map.mpr ⟨other, otherMember, same⟩)
      obtain ⟨restProgress, restFailed⟩ :=
        ih progress.fit remaining distinct succeeded
      refine ⟨progress.trans restProgress, ?_⟩
      intro other otherMember
      rcases List.mem_cons.mp otherMember with rfl | inRest
      · exact failed_later restProgress.jobs failed
      · exact restFailed other inRest

theorem recoverStale_progress (fit : JobsFit database.reels database.jobs)
    {locked : List UUID} {newJobs : UUID → UUID}
    {prefixes : List StagingPrefix}
    (succeeded : recoverStale database now locked newJobs =
      .ok (after, prefixes)) :
    Progress database after ∧ ∀ job ∈ recovered database now locked,
      ∃ later ∈ after.jobs, later.id = job.id ∧ later.status = .failed := by
  obtain ⟨next, folded, shape⟩ := map_eq_ok succeeded
  cases shape
  obtain ⟨progress, failed⟩ := recoverAll_progress _ fit
    (fun _ => staleJobs_running) (nodup_staleJobs _ _ _) folded
  exact ⟨progress, fun job selected =>
    failed job (List.mem_filter.mp selected).1⟩

theorem discover_progress (fit : JobsFit database.reels database.jobs)
    {reelId : UUID} {candidate : ReelCandidate} {reel : InstagramReel}
    (succeeded : Persistence.discover database now reelId candidate =
      .ok (after, reel)) :
    Progress database after ∧ reel ∈ after.reels := by
  rcases Persistence.discover_eq_ok succeeded with ⟨rfl, member, _⟩ |
    ⟨discovered, _, reels, shape, rfl⟩
  · exact ⟨.of_same fit rfl rfl, member⟩
  · have isDiscovered : reel.pipelineStatus = .discovered := by
      rw [discovered]
      rfl
    have added := (fit.insertReel shape isDiscovered).2
    refine ⟨⟨added, .of_insert shape ?_, .refl _⟩, ?_⟩
    · rw [isDiscovered]
      exact .stay _
    · exact (Table.mem_insert? shape).mpr (.inr rfl)

theorem acceptsSource_idle {status : ReelPipelineStatus}
    (accepts : Persistence.acceptsSource status = true) :
    expectedJob status = none ∧
      TransitionPath REEL_PIPELINE_TRANSITIONS status .sourceReady := by
  have downloading_ready : isTransitionAllowed REEL_PIPELINE_TRANSITIONS
      .downloading .sourceReady = true := rfl
  have discovered_downloading : isTransitionAllowed REEL_PIPELINE_TRANSITIONS
      .discovered .downloading = true := rfl
  have failed_downloading : isTransitionAllowed REEL_PIPELINE_TRANSITIONS
      .failed .downloading = true := rfl
  cases status with
  | discovered => exact ⟨rfl, .two discovered_downloading downloading_ready⟩
  | downloading => exact ⟨rfl, .single downloading_ready⟩
  | failed => exact ⟨rfl, .two failed_downloading downloading_ready⟩
  | sourceReady => cases accepts
  | normalizing => cases accepts
  | ready => cases accepts

theorem commitSource_progress (fit : JobsFit database.reels database.jobs)
    {ids : NewIdentifiers} {runId : UUID} {candidate : ReelCandidate}
    {source : ValidatedSource} {objectKey : SourceObjectKey}
    (succeeded : Persistence.commitSource database now ids runId candidate
      source objectKey = .ok after) :
    Progress database after := by
  obtain ⟨discovered, reel, written, jobs, found, accepts, rfl, _, shape, _,
    added⟩ := Persistence.commitSource_eq_ok succeeded
  obtain ⟨progress, member⟩ := discover_progress fit found
  obtain ⟨idle, path⟩ := acceptsSource_idle accepts
  have sameJobs : discovered.jobs = database.jobs := by
    rcases Persistence.discover_eq_ok found with ⟨rfl, _⟩ | ⟨_, _, _, _, rfl⟩ <;>
      rfl
  rw [← sameJobs] at shape
  have within : WithinAttempts
      (Persistence.pendingJob now ids.job reel.id 0) :=
    ⟨Nat.zero_le _, fun _ => Nat.zero_lt_succ 2⟩
  have committed : Progress discovered { discovered with
      reels := discovered.reels.put
        (Persistence.withSource reel now source objectKey)
      jobs := jobs } :=
    progress_of_pending (Persistence.withSource reel now source objectKey)
      progress.fit member rfl (progress.fit.noJob member idle) rfl rfl within
      shape rfl path
  exact (progress.trans committed).extend added.reels added.jobs

theorem recordFailure_progress (fit : JobsFit database.reels database.jobs)
    {ids : NewIdentifiers} {runId : UUID} {candidate : ReelCandidate}
    {reasonCode : String} {downloadAttempted : Bool}
    (succeeded : Persistence.recordFailure database now ids runId candidate
      reasonCode downloadAttempted = .ok after) :
    Progress database after := by
  obtain ⟨discovered, reel, written, found, outcome, added⟩ :=
    Persistence.recordFailure_eq_ok succeeded
  obtain ⟨progress, member⟩ := discover_progress fit found
  have stored : Progress discovered written := by
    rcases outcome with ⟨unfinished, rfl⟩ | ⟨_, _, rfl⟩
    · rcases unfinished with status | status
      · refine progress_of_reel progress.fit member rfl ?_ ?_ nofun
        · rw [status]
          rfl
        · rw [status]
          exact .single rfl
      · refine progress_of_reel progress.fit member rfl ?_ ?_ nofun
        · rw [status]
          rfl
        · rw [status]
          exact .single rfl
    · exact .of_same progress.fit rfl rfl
  exact (progress.trans stored).extend added.reels added.jobs

end OfflineReels.Normalizer
