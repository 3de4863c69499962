import OfflineReels.Foundation.Transition
import OfflineReels.Normalizer.JobProgress

namespace OfflineReels.Normalizer.JobLifecycle

open OfflineReels.Foundation
open OfflineReels.Instagram
open OfflineReels.Collector

/-! Workers, the reconciler and the Collector on one database, transaction by
transaction. -/

structure HeldClaim where
  workerId : String
  claimed : ClaimedNormalizationJob
  deriving DecidableEq, Repr

/-- A transaction of the other services. -/
structure OtherTransaction where
  perform : Database → Except DatabaseError Database
  keeps : ∀ before after, perform before = .ok after →
    after.reels = before.reels ∧ after.jobs = before.jobs

structure State where
  database : Database
  held : List HeldClaim
  /-- The jobs whose claims `reconcile` has recovered. -/
  recovered : List UUID

def initial : State := ⟨.empty, [], []⟩

/-- The clocks of the parties are read freely. -/
inductive Action
  | claim (now : Time) (locked : List UUID) (workerId : String)
      (leaseSeconds : Nat)
  | commitReady (holder : HeldClaim) (now createdAt : Time) (videoId : UUID)
      (output : NormalizedOutput)
  | finishFailure (holder : HeldClaim) (now : Time) (newJob : UUID)
      (reason : ReasonCode) (retryable : Bool)
  | sourceCleaned (holder : HeldClaim)
  | crash (holder : HeldClaim)
  | recoverStale (now : Time) (locked : List UUID) (newJobs : UUID → UUID)
  | cleanupReconciled (reelId : UUID)
  | commitSource (now : Time) (ids : NewIdentifiers) (runId : UUID)
      (candidate : ReelCandidate) (source : ValidatedSource)
      (objectKey : SourceObjectKey)
  | recordFailure (now : Time) (ids : NewIdentifiers) (runId : UUID)
      (candidate : ReelCandidate) (reasonCode : String)
      (downloadAttempted : Bool)
  | other (transaction : OtherTransaction)

/-- A transaction that raises is rolled back. -/
def State.commit {Fault : Type} (state : State) :
    Except Fault Database → State
  | .ok database => { state with database }
  | .error _ => state

def next (state : State) : Action → Option State
  | .claim now locked workerId leaseSeconds =>
      match Normalizer.claim state.database now locked workerId leaseSeconds with
      | .error _ => some state
      | .ok (database, none) => some { state with database }
      | .ok (database, some claimed) =>
          some { state with
            database
            held := ⟨workerId, claimed⟩ :: state.held }
  | .commitReady holder now createdAt videoId output =>
      if holder ∈ state.held then
        some (state.commit (Normalizer.commitReady state.database now createdAt
          videoId holder.workerId holder.claimed output))
      else none
  | .finishFailure holder now newJob reason retryable =>
      if holder ∈ state.held then
        some (state.commit (Normalizer.finishFailure state.database now
          holder.workerId newJob holder.claimed reason retryable))
      else none
  | .sourceCleaned holder =>
      if holder ∈ state.held then
        some (state.commit
          (Normalizer.sourceCleaned state.database holder.claimed.reelId))
      else none
  | .crash holder => some { state with held := state.held.erase holder }
  | .recoverStale now locked newJobs =>
      match Normalizer.recoverStale state.database now locked newJobs with
      | .error _ => some state
      | .ok (database, _) =>
          some { state with
            database
            recovered := (Normalizer.recovered state.database now locked).map
              (·.id) ++ state.recovered }
  | .cleanupReconciled reelId =>
      some (state.commit
        ((Normalizer.cleanupReconciled state.database reelId).map (·.1)))
  | .commitSource now ids runId candidate source objectKey =>
      some (state.commit (Persistence.commitSource state.database now ids runId
        candidate source objectKey))
  | .recordFailure now ids runId candidate reasonCode downloadAttempted =>
      some (state.commit (Persistence.recordFailure state.database now ids runId
        candidate reasonCode downloadAttempted))
  | .other transaction =>
      some (state.commit (transaction.perform state.database))

def jobCount (database : Database) (reel : InstagramReel)
    (status : NormalizationJobStatus) : Nat :=
  (database.jobs.rows.filter fun job =>
    job.reelId = reel.id && job.status = status).length

structure Matches (database : Database) : Prop where
  normalizing : ∀ reel ∈ database.reels, reel.pipelineStatus = .normalizing ↔
    jobCount database reel .running = 1 ∧ jobCount database reel .pending = 0
  sourceReady : ∀ reel ∈ database.reels, reel.pipelineStatus = .sourceReady ↔
    jobCount database reel .pending = 1 ∧ jobCount database reel .running = 0
  inactive : ∀ reel ∈ database.reels,
    reel.pipelineStatus ∈
        [ReelPipelineStatus.ready, .failed, .discovered, .downloading] →
      jobCount database reel .pending = 0 ∧ jobCount database reel .running = 0
  attempts : ∀ job ∈ database.jobs,
    job.attemptCount ≤ MAX_NORMALIZATION_ATTEMPTS
  ready : ∀ reel ∈ database.reels, reel.pipelineStatus = .ready →
    reel.videoId.isSome = true

/-- The claim that a worker's step on its job uses. -/
def Action.holder? : Action → Option HeldClaim
  | .commitReady holder _ _ _ _ => some holder
  | .finishFailure holder _ _ _ _ => some holder
  | _ => none

structure Lawful (before : State) (action : Action) (after : State) : Prop where
  reels : ReelMoves before.database.reels after.database.reels
  jobs : JobMoves before.database.jobs after.database.jobs
  ready : ∀ reel ∈ before.database.reels, reel.pipelineStatus = .ready →
    ∃ later ∈ after.database.reels, later.id = reel.id ∧
      later.pipelineStatus = .ready
  recovered : ∀ holder, action.holder? = some holder →
    holder.claimed.jobId ∈ before.recovered →
    after.database = before.database

section

variable {database : Database} {reel : InstagramReel}

theorem jobCount_of_noJob (vacant : NoJob database.jobs reel.id)
    {status : NormalizationJobStatus} (isActive : status.isActive = true) :
    jobCount database reel status = 0 := by
  apply Table.Vacant.length_filter vacant
  intro job selected
  simp only [Bool.and_eq_true, decide_eq_true_eq] at selected
  exact ⟨selected.1, selected.2 ▸ isActive⟩

theorem jobCount_of_onlyJob {job : InstagramNormalizationJob}
    (only : OnlyJob database.jobs reel.id job)
    {status : NormalizationJobStatus} (isActive : status.isActive = true) :
    jobCount database reel status = if job.status = status then 1 else 0 := by
  have selects : ∀ other : InstagramNormalizationJob,
      (decide (other.reelId = reel.id) && decide (other.status = status)) = true →
        other.reelId = reel.id ∧ other.status.isActive = true := by
    intro other selected
    simp only [Bool.and_eq_true, decide_eq_true_eq] at selected
    exact ⟨selected.1, selected.2 ▸ isActive⟩
  have owned : job.reelId = reel.id := only.owned
  split
  · rename_i same
    exact only.length_filter (by simp [owned, same]) selects
  · rename_i differs
    exact only.length_filter_zero (by simp [differs]) selects

theorem jobCount_of_fits (fits : Fits database.jobs reel)
    (status : NormalizationJobStatus) (isActive : status.isActive = true) :
    jobCount database reel status =
      if expectedJob reel.pipelineStatus = some status then 1 else 0 := by
  unfold Fits at fits
  cases expected : expectedJob reel.pipelineStatus with
  | none =>
      rw [expected] at fits
      simpa using jobCount_of_noJob fits isActive
  | some active =>
      rw [expected] at fits
      obtain ⟨job, only, running⟩ := fits
      rw [jobCount_of_onlyJob only isActive, running]
      simp

end

theorem matches_of_fit {database : Database}
    (fit : JobsFit database.reels database.jobs) : Matches database := by
  have pending := fun reel member =>
    jobCount_of_fits (fit.fits reel member) .pending rfl
  have running := fun reel member =>
    jobCount_of_fits (fit.fits reel member) .running rfl
  constructor
  · intro reel member
    rw [pending reel member, running reel member]
    cases reel.pipelineStatus <;> simp [expectedJob]
  · intro reel member
    rw [pending reel member, running reel member]
    cases reel.pipelineStatus <;> simp [expectedJob]
  · intro reel member idle
    rw [pending reel member, running reel member]
    cases status : reel.pipelineStatus <;> simp [status, expectedJob] at idle ⊢
  · exact fun job member => (fit.attempts job member).1
  · exact fit.ready

structure Invariant (state : State) : Prop where
  fit : JobsFit state.database.reels state.database.jobs
  held : ∀ holder ∈ state.held, Issued state.database.jobs holder.claimed
  recovered : ∀ jobId ∈ state.recovered, ∃ job ∈ state.database.jobs,
    job.id = jobId ∧ job.status = .failed

theorem initial_invariant : Invariant initial where
  fit := .empty
  held := nofun
  recovered := nofun

theorem Invariant.advance {state : State} (invariant : Invariant state)
    {database : Database} (progress : Progress state.database database) :
    Invariant { state with database } where
  fit := progress.fit
  held := fun holder member => (invariant.held holder member).later progress.jobs
  recovered := fun jobId member =>
    failed_later progress.jobs (invariant.recovered jobId member)

theorem lawful_of_progress {before after : State} {action : Action}
    (progress : Progress before.database after.database)
    (recovered : ∀ holder, action.holder? = some holder →
      holder.claimed.jobId ∈ before.recovered →
      after.database = before.database) :
    Lawful before action after where
  reels := progress.reels
  jobs := progress.jobs
  ready := by
    intro reel member isReady
    obtain ⟨later, laterMember, same, path⟩ := progress.reels.moved reel member
    rw [isReady] at path
    exact ⟨later, laterMember, same, path.eq_of_terminal rfl⟩
  recovered := recovered

theorem commit_step {Fault : Type} {state : State} {action : Action}
    (invariant : Invariant state) (outcome : Except Fault Database)
    (progress : ∀ database, outcome = .ok database →
      Progress state.database database)
    (recovered : ∀ holder, action.holder? = some holder →
      holder.claimed.jobId ∈ state.recovered →
      (state.commit outcome).database = state.database) :
    Invariant (state.commit outcome) ∧
      Lawful state action (state.commit outcome) := by
  cases outcome with
  | error error =>
      exact ⟨invariant,
        lawful_of_progress (.of_same invariant.fit rfl rfl) recovered⟩
  | ok database =>
      have made := progress database rfl
      exact ⟨invariant.advance made, lawful_of_progress made recovered⟩

theorem ended_of_recovered {state : State} (invariant : Invariant state)
    {jobId : UUID} (member : jobId ∈ state.recovered) :
    ∃ job, state.database.jobs.find? jobId = some job ∧
      job.status ≠ .running := by
  obtain ⟨job, present, rfl, failed⟩ := invariant.recovered jobId member
  refine ⟨job, Table.find?_eq_some.mpr ⟨present, rfl⟩, ?_⟩
  rw [failed]
  nofun

theorem claim_issued {database after : Database} {now : Time}
    {locked : List UUID} {workerId : String} {leaseSeconds : Nat}
    {claimed : ClaimedNormalizationJob}
    (succeeded : Normalizer.claim database now locked workerId leaseSeconds =
      .ok (after, some claimed)) :
    Issued after.jobs claimed := by
  rcases claim_eq_ok succeeded with ⟨_, impossible⟩ |
    ⟨job, reel, selected, ⟨_, impossible, _⟩ | ⟨_, ⟨source, _, shape⟩, rfl⟩⟩
  · cases impossible
  · cases impossible
  · cases shape
    obtain ⟨member, _, ofReel, _, _⟩ := mem_claimable selected
    have present : claimedJob job now workerId leaseSeconds ∈
        database.jobs.put (claimedJob job now workerId leaseSeconds) :=
      Table.mem_put.mpr (.inl ⟨rfl, job, member, rfl⟩)
    exact ⟨_, present, rfl, ofReel⟩

theorem step_kept {state after : State} {action : Action}
    (invariant : Invariant state)
    (stepped : next state action = some after) :
    Invariant after ∧ Lawful state action after := by
  have fit := invariant.fit
  cases action with
  | claim now locked workerId leaseSeconds =>
      simp only [next] at stepped
      split at stepped
      · cases stepped
        exact ⟨invariant, lawful_of_progress (.of_same fit rfl rfl) nofun⟩
      · rename_i database claimed
        cases stepped
        have progress := claim_progress fit claimed
        exact ⟨invariant.advance progress, lawful_of_progress progress nofun⟩
      · rename_i database claimed succeeded
        cases stepped
        have progress := claim_progress fit succeeded
        have advanced := invariant.advance progress
        refine ⟨⟨advanced.fit, ?_, advanced.recovered⟩,
          lawful_of_progress progress nofun⟩
        intro holder member
        rcases List.mem_cons.mp member with rfl | held
        · exact claim_issued succeeded
        · exact advanced.held holder held
  | commitReady holder now createdAt videoId output =>
      simp only [next] at stepped
      split at stepped
      · rename_i held
        cases stepped
        have issued := invariant.held holder held
        refine commit_step invariant _
          (fun database => commitReady_progress fit issued) ?_
        rintro _ ⟨⟩ member
        obtain ⟨job, found, ended⟩ := ended_of_recovered invariant member
        rw [commitReady_of_ended found ended]
        rfl
      · cases stepped
  | finishFailure holder now newJob reason retryable =>
      simp only [next] at stepped
      split at stepped
      · rename_i held
        cases stepped
        have issued := invariant.held holder held
        refine commit_step invariant _
          (fun database => finishFailure_progress fit issued) ?_
        rintro _ ⟨⟩ member
        obtain ⟨job, found, ended⟩ := ended_of_recovered invariant member
        rw [finishFailure_of_ended found ended]
        rfl
      · cases stepped
  | sourceCleaned holder =>
      simp only [next] at stepped
      split at stepped
      · cases stepped
        exact commit_step invariant _
          (fun database => sourceCleaned_progress fit) nofun
      · cases stepped
  | crash holder =>
      cases stepped
      refine ⟨⟨fit, ?_, invariant.recovered⟩,
        lawful_of_progress (.of_same fit rfl rfl) nofun⟩
      intro other member
      exact invariant.held other (List.mem_of_mem_erase member)
  | recoverStale now locked newJobs =>
      simp only [next] at stepped
      split at stepped
      · cases stepped
        exact ⟨invariant, lawful_of_progress (.of_same fit rfl rfl) nofun⟩
      · rename_i database prefixes succeeded
        cases stepped
        obtain ⟨progress, failed⟩ := recoverStale_progress fit succeeded
        have advanced := invariant.advance progress
        refine ⟨⟨advanced.fit, advanced.held, ?_⟩,
          lawful_of_progress progress nofun⟩
        intro jobId member
        rcases List.mem_append.mp member with fresh | earlier
        · obtain ⟨job, selected, rfl⟩ := List.mem_map.mp fresh
          exact failed job selected
        · exact advanced.recovered jobId earlier
  | cleanupReconciled reelId =>
      cases stepped
      refine commit_step invariant _ ?_ nofun
      intro database cleaned
      obtain ⟨⟨reached, flag⟩, succeeded, rfl⟩ := map_eq_ok cleaned
      exact cleanupReconciled_progress fit succeeded
  | commitSource now ids runId candidate source objectKey =>
      cases stepped
      exact commit_step invariant _
        (fun database => commitSource_progress fit) nofun
  | recordFailure now ids runId candidate reasonCode downloadAttempted =>
      cases stepped
      exact commit_step invariant _
        (fun database => recordFailure_progress fit) nofun
  | other transaction =>
      cases stepped
      refine commit_step invariant _ ?_ nofun
      intro database performed
      obtain ⟨reels, jobs⟩ := transaction.keeps _ _ performed
      exact .of_same fit reels jobs

/-- In every state that is reached from the empty database Reels and jobs match,
and every step on the way was lawful. -/
theorem reels_match_jobs {actions : List Action} {state : State}
    (ran : run next initial actions = some state) :
    Matches state.database ∧ Along next Lawful initial actions := by
  have kept : ∀ before action after, Invariant before → True →
      next before action = some after →
      Invariant after ∧ Lawful before action after :=
    fun _ _ _ invariant _ stepped => step_kept invariant stepped
  have unconditional : Meets next (fun _ _ => True) initial actions :=
    meets_true initial actions
  constructor
  · have reached : Invariant state := run_invariant
      (fun before action after invariant holds stepped =>
        (kept before action after invariant holds stepped).1)
      initial_invariant unconditional ran
    exact matches_of_fit reached.fit
  · exact along_of_invariant kept initial_invariant unconditional

def registerAccount (accountId : UUID) : OtherTransaction where
  perform := fun database => Persistence.ensureAccount database accountId
  keeps := by
    intro before after registered
    obtain ⟨accounts, rfl⟩ := Persistence.ensureAccount_eq_ok registered
    exact ⟨rfl, rfl⟩

def startRun (now : Time) (runId accountId : UUID) (targetCount : Nat) :
    OtherTransaction where
  perform := fun database =>
    Persistence.createRun database now runId accountId .manual targetCount
  keeps := by
    intro before after created
    unfold Persistence.createRun at created
    split at created
    · cases created
    · obtain ⟨runs, _, _, _, rfl⟩ := Database.insertRun_eq_ok created
      exact ⟨rfl, rfl⟩

def heldClaim (workerId : String) (jobId : UUID) (attempt : Nat) :
    HeldClaim where
  workerId := workerId
  claimed :=
    { jobId := jobId
      reelId := 2
      shortcode := "A"
      sourceObjectKey := ⟨"A"⟩
      sourceSha256 := sha256 [0]
      sourceByteSize := 1
      attemptCount := attempt
      stagingPrefix := ⟨jobId, attempt⟩ }

def canonicalOutput : NormalizedOutput where
  finalKey := ⟨sha256 [1]⟩
  sha256 := sha256 [1]
  size := 1
  strategy := .passthrough
  originalCodec := "h264"
  probe :=
    { videoCodec := "h264"
      pixelFormat := some "yuv420p"
      audioCodecs := ["aac"]
      duration := some 1000000
      width := some 1
      height := some 1
      containerFormats := ["mp4"] }

/-- The first worker wakes up after its claim was recovered, and the second one
publishes the Reel. -/
def recoveredThenReady : List Action :=
  [.other (registerAccount 1), .other (startRun 0 7 1 1),
    .commitSource 0 ⟨2, 3, 4⟩ 7 ⟨"A", "https://www.instagram.com/reel/A/"⟩
      ⟨sha256 [0], 1, "video/mp4"⟩ ⟨"A"⟩,
    .claim 1 [] "first" 1, .recoverStale 2000000 [] (fun _ => 5),
    .claim 2000001 [] "second" LEASE_SECONDS,
    .commitReady (heldClaim "first" 3 1) 2000002 2000002 8 canonicalOutput,
    .finishFailure (heldClaim "first" 3 1) 2000002 9 .workerCancelled true,
    .commitReady (heldClaim "second" 5 2) 2000003 2000003 8 canonicalOutput]

theorem reels_match_jobs_recovered :
    ∃ state, run next initial recoveredThenReady = some state ∧
      state.recovered = [3] ∧
      state.database.reels.rows.map (·.pipelineStatus) = [.ready] ∧
      Matches state.database ∧
      Along next Lawful initial recoveredThenReady := by
  have reached : ∃ state, run next initial recoveredThenReady = some state ∧
      state.recovered = [3] ∧
      state.database.reels.rows.map (·.pipelineStatus) = [.ready] :=
    ⟨_, rfl, rfl, rfl⟩
  obtain ⟨state, ran, recovered, ready⟩ := reached
  exact ⟨state, ran, recovered, ready, reels_match_jobs ran⟩

end OfflineReels.Normalizer.JobLifecycle
