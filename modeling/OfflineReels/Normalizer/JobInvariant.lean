import OfflineReels.Foundation.Slot
import OfflineReels.Instagram.StatusMoves
import OfflineReels.Normalizer.Transactions

namespace OfflineReels.Normalizer

open OfflineReels.Foundation
open OfflineReels.Instagram
open OfflineReels.Collector

/-! The status of a Reel and its jobs encode one state.  Every transaction that
writes either of them keeps them together. -/

/-- The status of the active job that a Reel of this status has. -/
def expectedJob : ReelPipelineStatus → Option NormalizationJobStatus
  | .sourceReady => some .pending
  | .normalizing => some .running
  | .discovered | .downloading | .ready | .failed => none

abbrev JobTable : Type :=
  Table InstagramNormalizationJob UUID InstagramNormalizationJob.id

abbrev ReelTable : Type := Table InstagramReel UUID InstagramReel.id

abbrev NoJob (jobs : JobTable) (reelId : UUID) : Prop :=
  Table.Vacant (·.reelId) (·.status.isActive) jobs reelId

abbrev OnlyJob (jobs : JobTable) (reelId : UUID)
    (job : InstagramNormalizationJob) : Prop :=
  Table.Occupied (·.reelId) (·.status.isActive) jobs reelId job

def Fits (jobs : JobTable) (reel : InstagramReel) : Prop :=
  match expectedJob reel.pipelineStatus with
  | none => NoJob jobs reel.id
  | some status => ∃ job, OnlyJob jobs reel.id job ∧ job.status = status

theorem Fits.of_members {jobs after : JobTable} {reel : InstagramReel}
    (fits : Fits jobs reel)
    (same : ∀ job : InstagramNormalizationJob, job.reelId = reel.id →
      (job ∈ after ↔ job ∈ jobs)) : Fits after reel := by
  unfold Fits at fits ⊢
  cases expected : expectedJob reel.pipelineStatus with
  | none =>
      rw [expected] at fits
      exact fits.of_members same
  | some status =>
      rw [expected] at fits
      obtain ⟨job, occupied, running⟩ := fits
      exact ⟨job, occupied.of_members same, running⟩

def WithinAttempts (job : InstagramNormalizationJob) : Prop :=
  job.attemptCount ≤ MAX_NORMALIZATION_ATTEMPTS ∧
    (job.status = .pending → job.attemptCount < MAX_NORMALIZATION_ATTEMPTS)

structure JobsFit (reels : ReelTable) (jobs : JobTable) : Prop where
  fits : ∀ reel ∈ reels, Fits jobs reel
  known : ∀ job ∈ jobs, ∃ reel ∈ reels, reel.id = job.reelId
  attempts : ∀ job ∈ jobs, WithinAttempts job
  ready : ∀ reel ∈ reels, reel.pipelineStatus = .ready →
    reel.videoId.isSome = true

abbrev ReelMoves (before after : ReelTable) : Prop :=
  StatusMoves InstagramReel.id InstagramReel.pipelineStatus
    REEL_PIPELINE_TRANSITIONS .discovered before after

def jobIdentity (job : InstagramNormalizationJob) : UUID × UUID :=
  (job.id, job.reelId)

abbrev JobMoves (before after : JobTable) : Prop :=
  StatusMoves jobIdentity InstagramNormalizationJob.status
    NORMALIZATION_JOB_TRANSITIONS .pending before after

theorem jobIdentity_keyed (job other : InstagramNormalizationJob)
    (same : jobIdentity job = jobIdentity other) : job.id = other.id :=
  congrArg Prod.fst same

/-- What a transaction does to Reels and jobs. -/
structure Progress (before after : Database) : Prop where
  fit : JobsFit after.reels after.jobs
  reels : ReelMoves before.reels after.reels
  jobs : JobMoves before.jobs after.jobs

theorem Progress.trans {first second third : Database}
    (left : Progress first second) (right : Progress second third) :
    Progress first third where
  fit := right.fit
  reels := left.reels.trans (fun _ _ same => same) right.reels
  jobs := left.jobs.trans jobIdentity_keyed right.jobs

theorem Progress.of_same {before after : Database}
    (fit : JobsFit before.reels before.jobs)
    (reels : after.reels = before.reels) (jobs : after.jobs = before.jobs) :
    Progress before after where
  fit := by
    rw [reels, jobs]
    exact fit
  reels := by
    rw [reels]
    exact .refl _
  jobs := by
    rw [jobs]
    exact .refl _

theorem Progress.extend {before middle after : Database}
    (progress : Progress before middle) (reels : after.reels = middle.reels)
    (jobs : after.jobs = middle.jobs) : Progress before after :=
  progress.trans (.of_same progress.fit reels jobs)

namespace JobsFit

variable {reels : ReelTable} {jobs after : JobTable}

theorem empty : JobsFit .empty .empty where
  fits := fun reel member => absurd member (Table.not_mem_empty reel)
  known := fun job member => absurd member (Table.not_mem_empty job)
  attempts := fun job member => absurd member (Table.not_mem_empty job)
  ready := fun reel member => absurd member (Table.not_mem_empty reel)

theorem onlyJob (fit : JobsFit reels jobs) {reel : InstagramReel}
    {job : InstagramNormalizationJob} (reelMember : reel ∈ reels)
    (member : job ∈ jobs) (ofReel : job.reelId = reel.id)
    (isActive : job.status.isActive = true) :
    OnlyJob jobs reel.id job ∧
      expectedJob reel.pipelineStatus = some job.status := by
  have fits := fit.fits reel reelMember
  unfold Fits at fits
  split at fits
  · have inactive : job.status.isActive = false := fits job member ofReel
    rw [isActive] at inactive
    cases inactive
  · rename_i status expected
    obtain ⟨only, occupied, rfl⟩ := fits
    obtain rfl := occupied.only job member ofReel isActive
    exact ⟨occupied, expected⟩

theorem normalizing (fit : JobsFit reels jobs) {reel : InstagramReel}
    {job : InstagramNormalizationJob} (reelMember : reel ∈ reels)
    (member : job ∈ jobs) (ofReel : job.reelId = reel.id)
    (running : job.status = .running) :
    reel.pipelineStatus = .normalizing := by
  have isActive : job.status.isActive = true := by
    rw [running]
    rfl
  have expected := (fit.onlyJob reelMember member ofReel isActive).2
  rw [running] at expected
  cases status : reel.pipelineStatus <;> rw [status] at expected <;>
    first
      | rfl
      | cases expected

theorem noJob (fit : JobsFit reels jobs) {reel : InstagramReel}
    (member : reel ∈ reels) (idle : expectedJob reel.pipelineStatus = none) :
    NoJob jobs reel.id := by
  have fits := fit.fits reel member
  simp only [Fits, idle] at fits
  exact fits

theorem rewrite (fit : JobsFit reels jobs) {reel written : InstagramReel}
    (member : reel ∈ reels) (same : written.id = reel.id)
    (isolated : ∀ job, job.reelId ≠ reel.id → (job ∈ after ↔ job ∈ jobs))
    (fits : Fits after written)
    (attempts : ∀ job ∈ after, job.reelId = reel.id → WithinAttempts job)
    (ready : written.pipelineStatus = .ready → written.videoId.isSome = true) :
    JobsFit (reels.put written) after where
  fits := by
    intro row rowMember
    rcases Table.mem_put.mp rowMember with ⟨rfl, _⟩ | ⟨present, differs⟩
    · exact fits
    · have others : ∀ job : InstagramNormalizationJob, job.reelId = row.id →
          (job ∈ after ↔ job ∈ jobs) := by
        intro job ofRow
        apply isolated job
        rw [ofRow, ← same]
        exact differs
      exact (fit.fits row present).of_members others
  known := by
    intro job jobMember
    have existing : ∃ row ∈ reels, row.id = job.reelId := by
      by_cases ofReel : job.reelId = reel.id
      · exact ⟨reel, member, ofReel.symm⟩
      · exact fit.known job ((isolated job ofReel).mp jobMember)
    obtain ⟨row, rowMember, owns⟩ := existing
    by_cases rewritten : row.id = written.id
    · exact ⟨written, Table.mem_put.mpr (.inl ⟨rfl, row, rowMember, rewritten⟩),
        rewritten ▸ owns⟩
    · exact ⟨row, Table.mem_put.mpr (.inr ⟨rowMember, rewritten⟩), owns⟩
  attempts := by
    intro job jobMember
    by_cases ofReel : job.reelId = reel.id
    · exact attempts job jobMember ofReel
    · exact fit.attempts job ((isolated job ofReel).mp jobMember)
  ready := by
    intro row rowMember
    rcases Table.mem_put.mp rowMember with ⟨rfl, _⟩ | ⟨present, _⟩
    · exact ready
    · exact fit.ready row present

theorem insertReel (fit : JobsFit reels jobs) {reel : InstagramReel}
    {added : ReelTable} (shape : reels.insert? reel = some added)
    (discovered : reel.pipelineStatus = .discovered) :
    NoJob jobs reel.id ∧ JobsFit added jobs := by
  have unknown : ∀ job ∈ jobs, job.reelId ≠ reel.id := by
    intro job member ofReel
    obtain ⟨row, rowMember, owns⟩ := fit.known job member
    exact (Table.insert?_eq_some shape).1 row rowMember (owns.trans ofReel)
  have vacant : NoJob jobs reel.id :=
    fun job member ofReel => absurd ofReel (unknown job member)
  refine ⟨vacant, ?_, ?_, fit.attempts, ?_⟩
  · intro row rowMember
    rcases (Table.mem_insert? shape).mp rowMember with present | rfl
    · exact fit.fits row present
    · simp only [Fits, discovered, expectedJob]
      exact vacant
  · intro job member
    obtain ⟨row, rowMember, owns⟩ := fit.known job member
    exact ⟨row, (Table.mem_insert? shape).mpr (.inl rowMember), owns⟩
  · intro row rowMember isReady
    rcases (Table.mem_insert? shape).mp rowMember with present | rfl
    · exact fit.ready row present isReady
    · rw [discovered] at isReady
      cases isReady

end JobsFit

section

variable {before : Database} {reel written : InstagramReel}
variable {job next : InstagramNormalizationJob}

theorem progress_of_reel (fit : JobsFit before.reels before.jobs)
    (member : reel ∈ before.reels) (same : written.id = reel.id)
    (expected : expectedJob written.pipelineStatus =
      expectedJob reel.pipelineStatus)
    (path : TransitionPath REEL_PIPELINE_TRANSITIONS reel.pipelineStatus
      written.pipelineStatus)
    (ready : written.pipelineStatus = .ready → written.videoId.isSome = true) :
    Progress before { before with reels := before.reels.put written } where
  fit := by
    refine fit.rewrite member same (fun job _ => Iff.rfl) ?_
      (fun job jobMember _ => fit.attempts job jobMember) ready
    have fits := fit.fits reel member
    unfold Fits at fits ⊢
    rw [expected, same]
    exact fits
  reels := .of_put (fun _ _ equal => equal) member same path
  jobs := .refl _

theorem progress_of_job (fit : JobsFit before.reels before.jobs)
    (member : reel ∈ before.reels) (same : written.id = reel.id)
    (jobMember : job ∈ before.jobs) (ofReel : job.reelId = reel.id)
    (isActive : job.status.isActive = true)
    (identical : jobIdentity next = jobIdentity job)
    (within : WithinAttempts next)
    (expected : expectedJob written.pipelineStatus =
      if next.status.isActive then some next.status else none)
    (path : TransitionPath REEL_PIPELINE_TRANSITIONS reel.pipelineStatus
      written.pipelineStatus)
    (jobPath : TransitionPath NORMALIZATION_JOB_TRANSITIONS job.status
      next.status)
    (ready : written.pipelineStatus = .ready → written.videoId.isSome = true) :
    Progress before { before with
      reels := before.reels.put written
      jobs := before.jobs.put next } := by
  have only := (fit.onlyJob member jobMember ofReel isActive).1
  have sameKey : next.id = job.id := jobIdentity_keyed next job identical
  have sameOwner : next.reelId = job.reelId := congrArg Prod.snd identical
  constructor
  · refine fit.rewrite member same ?_ ?_ ?_ ready
    · intro other differs
      refine Table.mem_put_of_other (·.reelId) jobMember sameKey sameOwner ?_
      rw [ofReel]
      exact differs
    · unfold Fits
      rw [expected, same]
      cases stays : next.status.isActive with
      | false => exact only.vacate sameKey stays
      | true =>
          exact ⟨next, only.replace sameKey (sameOwner.trans ofReel) stays, rfl⟩
    · intro other otherMember _
      rcases Table.mem_put.mp otherMember with ⟨rfl, _⟩ | ⟨present, _⟩
      · exact within
      · exact fit.attempts other present
  · exact .of_put (fun _ _ equal => equal) member same path
  · exact .of_put jobIdentity_keyed jobMember identical jobPath

variable (written) in
theorem progress_of_pending (fit : JobsFit before.reels before.jobs)
    (member : reel ∈ before.reels) (same : written.id = reel.id)
    (vacant : NoJob before.jobs reel.id) (ofReel : next.reelId = reel.id)
    (pending : next.status = .pending) (within : WithinAttempts next)
    {jobs : JobTable} (shape : before.jobs.insert? next = some jobs)
    (waiting : written.pipelineStatus = .sourceReady)
    (path : TransitionPath REEL_PIPELINE_TRANSITIONS reel.pipelineStatus
      .sourceReady) :
    Progress before { before with
      reels := before.reels.put written
      jobs := jobs } where
  fit := by
    refine fit.rewrite member same ?_ ?_ ?_ ?_
    · intro other differs
      refine Table.mem_insert?_of_other (·.reelId) shape ?_
      rw [ofReel]
      exact differs
    · simp only [Fits, waiting, expectedJob, same]
      refine ⟨next, vacant.occupy shape ofReel ?_, pending⟩
      rw [pending]
      rfl
    · intro other otherMember _
      rcases (Table.mem_insert? shape).mp otherMember with present | rfl
      · exact fit.attempts other present
      · exact within
    · intro isReady
      rw [waiting] at isReady
      cases isReady
  reels := by
    refine .of_put (fun _ _ equal => equal) member same ?_
    rw [waiting]
    exact path
  jobs := by
    refine .of_insert shape ?_
    rw [pending]
    exact .stay _

end

end OfflineReels.Normalizer
