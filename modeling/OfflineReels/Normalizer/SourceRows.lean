import OfflineReels.Normalizer.JobProgress

namespace OfflineReels.Normalizer

open OfflineReels.Foundation
open OfflineReels.Instagram
open OfflineReels.Collector

/-! What the transactions do to the sources that the Reels name: a published
Reel stays published, and only a cleanup clears the mark of a source that has
to be removed. -/

structure Sourced (reels : ReelTable) : Prop where
  keyed : ∀ reel ∈ reels, ∀ objectKey, reel.sourceObjectKey = some objectKey →
    objectKey = ⟨reel.shortcode⟩
  named : ∀ reel ∈ reels, reel.pipelineStatus = .ready →
    reel.sourceObjectKey.isSome = true
  distinct : ∀ reel ∈ reels, ∀ other ∈ reels,
    reel.shortcode = other.shortcode → reel = other

namespace Sourced

variable {reels : ReelTable}

theorem empty : Sourced .empty where
  keyed := fun reel member => absurd member (Table.not_mem_empty reel)
  named := fun reel member => absurd member (Table.not_mem_empty reel)
  distinct := fun reel member => absurd member (Table.not_mem_empty reel)

/-- No two Reels share a source. -/
theorem owner (sourced : Sourced reels) {reel other : InstagramReel}
    (member : reel ∈ reels) (otherMember : other ∈ reels)
    {objectKey : SourceObjectKey}
    (ofReel : reel.sourceObjectKey = some objectKey)
    (ofOther : other.sourceObjectKey = some objectKey) : reel = other := by
  apply sourced.distinct reel member other otherMember
  have first := sourced.keyed reel member objectKey ofReel
  have second := sourced.keyed other otherMember objectKey ofOther
  exact congrArg SourceObjectKey.shortcode (first.symm.trans second)

end Sourced

/-- One row is rewritten.  Its mark may be cleared when it is released. -/
structure RowKept (released : Option UUID) (reel written : InstagramReel) :
    Prop where
  id : written.id = reel.id
  shortcode : written.shortcode = reel.shortcode
  source : written.sourceObjectKey = reel.sourceObjectKey ∨
    written.sourceObjectKey = some ⟨reel.shortcode⟩
  named : written.pipelineStatus = .ready →
    written.sourceObjectKey.isSome = true
  ready : reel.pipelineStatus = .ready → written.pipelineStatus = .ready
  cleaned : written.pipelineStatus = .ready →
    written.sourceCleanupPending = false →
    reel.pipelineStatus = .ready ∧
      written.sourceObjectKey = reel.sourceObjectKey ∧
      (reel.sourceCleanupPending = false ∨ released = some reel.id)

theorem RowKept.of_unready {released : Option UUID}
    {reel written : InstagramReel} (id : written.id = reel.id)
    (shortcode : written.shortcode = reel.shortcode)
    (source : written.sourceObjectKey = reel.sourceObjectKey ∨
      written.sourceObjectKey = some ⟨reel.shortcode⟩)
    (unready : reel.pipelineStatus ≠ .ready)
    (stays : written.pipelineStatus ≠ .ready) :
    RowKept released reel written where
  id := id
  shortcode := shortcode
  source := source
  named := fun isReady => absurd isReady stays
  ready := fun isReady => absurd isReady unready
  cleaned := fun isReady => absurd isReady stays

structure SourcesKept (released : Option UUID) (before after : ReelTable) :
    Prop where
  kept : ∀ reel ∈ before, ∃ later ∈ after, later.id = reel.id ∧
    (∀ objectKey, reel.sourceObjectKey = some objectKey →
      later.sourceObjectKey = some objectKey) ∧
    (reel.pipelineStatus = .ready → later.pipelineStatus = .ready)
  cleaned : ∀ later ∈ after, later.pipelineStatus = .ready →
    later.sourceCleanupPending = false →
    ∃ reel ∈ before, reel.id = later.id ∧ reel.pipelineStatus = .ready ∧
      later.sourceObjectKey = reel.sourceObjectKey ∧
      (reel.sourceCleanupPending = false ∨ released = some reel.id)
  sourced : Sourced after

namespace SourcesKept

variable {released : Option UUID} {first second third : ReelTable}

theorem refl (sourced : Sourced first) : SourcesKept released first first where
  kept := fun reel member =>
    ⟨reel, member, rfl, fun _ named => named, fun isReady => isReady⟩
  cleaned := fun later member isReady clean =>
    ⟨later, member, rfl, isReady, rfl, .inl clean⟩
  sourced := sourced

theorem of_same (sourced : Sourced first) (same : second = first) :
    SourcesKept released first second := by
  rw [same]
  exact .refl sourced

theorem trans (left : SourcesKept none first second)
    (right : SourcesKept none second third) :
    SourcesKept none first third where
  kept := by
    intro reel member
    obtain ⟨middle, middleMember, same, named, isReady⟩ := left.kept reel member
    obtain ⟨later, laterMember, again, kept, stays⟩ :=
      right.kept middle middleMember
    exact ⟨later, laterMember, again.trans same,
      fun objectKey owns => kept objectKey (named objectKey owns),
      fun published => stays (isReady published)⟩
  cleaned := by
    intro later member isReady clean
    obtain ⟨middle, middleMember, same, middleReady, named, marked⟩ :=
      right.cleaned later member isReady clean
    have middleClean : middle.sourceCleanupPending = false :=
      marked.resolve_right nofun
    obtain ⟨reel, reelMember, again, reelReady, kept, cleaned⟩ :=
      left.cleaned middle middleMember middleReady middleClean
    exact ⟨reel, reelMember, again.trans same, reelReady, named.trans kept,
      cleaned⟩
  sourced := right.sourced

theorem of_put (sourced : Sourced first) {reel written : InstagramReel}
    (member : reel ∈ first) (row : RowKept released reel written) :
    SourcesKept released first (first.put written) where
  kept := by
    intro other otherMember
    by_cases rewritten : other.id = written.id
    · obtain rfl : other = reel :=
        Table.eq_of_key_eq otherMember member (rewritten.trans row.id)
      have present : written ∈ first.put written :=
        Table.mem_put.mpr (.inl ⟨rfl, other, otherMember, rewritten⟩)
      refine ⟨written, present, row.id, ?_, row.ready⟩
      intro objectKey named
      rcases row.source with same | fresh
      · exact same.trans named
      · rw [fresh, sourced.keyed other otherMember objectKey named]
    · exact ⟨other, Table.mem_put.mpr (.inr ⟨otherMember, rewritten⟩), rfl,
        fun _ named => named, fun isReady => isReady⟩
  cleaned := by
    intro later laterMember isReady clean
    rcases Table.mem_put.mp laterMember with ⟨rfl, _⟩ | ⟨present, _⟩
    · obtain ⟨reelReady, named, marked⟩ := row.cleaned isReady clean
      exact ⟨reel, member, row.id.symm, reelReady, named, marked⟩
    · exact ⟨later, present, rfl, isReady, rfl, .inl clean⟩
  sourced := by
    have came : ∀ later ∈ first.put written, ∃ other ∈ first,
        later.id = other.id ∧ later.shortcode = other.shortcode := by
      intro later laterMember
      rcases Table.mem_put.mp laterMember with ⟨rfl, _⟩ | ⟨present, _⟩
      · exact ⟨reel, member, row.id, row.shortcode⟩
      · exact ⟨later, present, rfl, rfl⟩
    constructor
    · intro later laterMember objectKey named
      rcases Table.mem_put.mp laterMember with ⟨rfl, _⟩ | ⟨present, _⟩
      · rw [row.shortcode]
        rcases row.source with same | fresh
        · exact sourced.keyed reel member objectKey (same.symm.trans named)
        · exact Option.some.inj (named.symm.trans fresh)
      · exact sourced.keyed later present objectKey named
    · intro later laterMember isReady
      rcases Table.mem_put.mp laterMember with ⟨rfl, _⟩ | ⟨present, _⟩
      · exact row.named isReady
      · exact sourced.named later present isReady
    · intro later laterMember other otherMember same
      obtain ⟨left, leftMember, leftId, leftCode⟩ := came later laterMember
      obtain ⟨right, rightMember, rightId, rightCode⟩ := came other otherMember
      have equal := sourced.distinct left leftMember right rightMember
        (leftCode.symm.trans (same.trans rightCode))
      exact Table.eq_of_key_eq laterMember otherMember
        (leftId.trans (equal ▸ rightId.symm))

theorem of_insert (sourced : Sourced first) {reel : InstagramReel}
    (shape : first.insert? reel = some second)
    (bare : reel.sourceObjectKey = none)
    (unready : reel.pipelineStatus ≠ .ready)
    (fresh : ∀ other ∈ first, other.shortcode ≠ reel.shortcode) :
    SourcesKept released first second where
  kept := fun other member =>
    ⟨other, (Table.mem_insert? shape).mpr (.inl member), rfl,
      fun _ named => named, fun isReady => isReady⟩
  cleaned := by
    intro later member isReady clean
    rcases (Table.mem_insert? shape).mp member with present | rfl
    · exact ⟨later, present, rfl, isReady, rfl, .inl clean⟩
    · exact absurd isReady unready
  sourced := by
    constructor
    · intro later member objectKey named
      rcases (Table.mem_insert? shape).mp member with present | rfl
      · exact sourced.keyed later present objectKey named
      · rw [bare] at named
        cases named
    · intro later member isReady
      rcases (Table.mem_insert? shape).mp member with present | rfl
      · exact sourced.named later present isReady
      · exact absurd isReady unready
    · intro later member other otherMember same
      rcases (Table.mem_insert? shape).mp member with present | rfl
      · rcases (Table.mem_insert? shape).mp otherMember with there | rfl
        · exact sourced.distinct later present other there same
        · exact absurd same (fresh later present)
      · rcases (Table.mem_insert? shape).mp otherMember with there | rfl
        · exact absurd same.symm (fresh other there)
        · rfl

end SourcesKept

def IsPublished (reels : ReelTable) (reelId : UUID)
    (objectKey : SourceObjectKey) : Prop :=
  ∃ reel ∈ reels, reel.id = reelId ∧ reel.pipelineStatus = .ready ∧
    reel.sourceObjectKey = some objectKey

def NamesSource (reels : ReelTable) (claimed : ClaimedNormalizationJob) :
    Prop :=
  ∃ reel ∈ reels, reel.id = claimed.reelId ∧
    reel.sourceObjectKey = some claimed.sourceObjectKey

namespace SourcesKept

variable {released : Option UUID} {first second : ReelTable}

theorem isPublished (kept : SourcesKept released first second) {reelId : UUID}
    {objectKey : SourceObjectKey}
    (published : IsPublished first reelId objectKey) :
    IsPublished second reelId objectKey := by
  obtain ⟨reel, member, same, isReady, named⟩ := published
  obtain ⟨later, laterMember, again, keeps, stays⟩ := kept.kept reel member
  exact ⟨later, laterMember, again.trans same, stays isReady,
    keeps objectKey named⟩

theorem namesSource (kept : SourcesKept released first second)
    {claimed : ClaimedNormalizationJob} (names : NamesSource first claimed) :
    NamesSource second claimed := by
  obtain ⟨reel, member, same, named⟩ := names
  obtain ⟨later, laterMember, again, keeps, _⟩ := kept.kept reel member
  exact ⟨later, laterMember, again.trans same, keeps _ named⟩

end SourcesKept

variable {database after : Database} {now : Time}

theorem claim_sources (sourced : Sourced database.reels)
    {locked : List UUID} {workerId : String} {leaseSeconds : Nat}
    {result : Option ClaimedNormalizationJob}
    (succeeded : claim database now locked workerId leaseSeconds =
      .ok (after, result)) :
    SourcesKept none database.reels after.reels := by
  rcases claim_eq_ok succeeded with ⟨rfl, _⟩ | ⟨job, reel, selected, claimed⟩
  · exact .refl sourced
  obtain ⟨_, member, _, _, waiting⟩ := mem_claimable selected
  have unready : reel.pipelineStatus ≠ .ready := by
    rw [waiting]
    nofun
  rcases claimed with ⟨_, _, rfl⟩ | ⟨_, _, rfl⟩
  · exact .of_put sourced member
      (.of_unready rfl rfl (.inl rfl) unready nofun)
  · exact .of_put sourced member
      (.of_unready rfl rfl (.inl rfl) unready nofun)

theorem claim_source {locked : List UUID} {workerId : String}
    {leaseSeconds : Nat} {claimed : ClaimedNormalizationJob}
    (succeeded : claim database now locked workerId leaseSeconds =
      .ok (after, some claimed)) :
    NamesSource after.reels claimed := by
  rcases claim_eq_ok succeeded with ⟨_, impossible⟩ |
    ⟨job, reel, selected, ⟨_, impossible, _⟩ |
      ⟨_, ⟨source, required, shape⟩, rfl⟩⟩
  · cases impossible
  · cases impossible
  · cases shape
    obtain ⟨_, member, _⟩ := mem_claimable selected
    refine ⟨{ reel with pipelineStatus := .normalizing },
      Table.mem_put.mpr (.inl ⟨rfl, reel, member, rfl⟩), rfl, ?_⟩
    unfold requiredSource at required
    split at required
    · rename_i objectKey _ _ named _ _
      cases required
      exact named
    · cases required

theorem endAttempt_sources (fit : JobsFit database.reels database.jobs)
    (sourced : Sourced database.reels) {job ended : InstagramNormalizationJob}
    {reel written : InstagramReel} {next : Option UUID}
    (succeeded : endAttempt database now ended written next = .ok after)
    (reelMember : reel ∈ database.reels) (member : job ∈ database.jobs)
    (ofReel : job.reelId = reel.id) (running : job.status = .running)
    (same : written.id = reel.id) (code : written.shortcode = reel.shortcode)
    (source : written.sourceObjectKey = reel.sourceObjectKey)
    (unpublished : written.pipelineStatus ≠ .ready) :
    SourcesKept none database.reels after.reels := by
  have normalizing := fit.normalizing reelMember member ofReel running
  have unready : reel.pipelineStatus ≠ .ready := by
    rw [normalizing]
    nofun
  have put : SourcesKept none database.reels (database.reels.put written) :=
    .of_put sourced reelMember
      (.of_unready same code (.inl source) unready unpublished)
  rcases endAttempt_eq_ok succeeded with ⟨_, rfl⟩ | ⟨_, _, _, _, rfl⟩
  · exact put
  · exact put

theorem finishFailure_sources (fit : JobsFit database.reels database.jobs)
    (sourced : Sourced database.reels) {workerId : String} {newJob : UUID}
    {claimed : ClaimedNormalizationJob} {reason : ReasonCode}
    {retryable : Bool} (issued : Issued database.jobs claimed)
    (succeeded : finishFailure database now workerId newJob claimed reason
      retryable = .ok after) :
    SourcesKept none database.reels after.reels := by
  unfold finishFailure at succeeded
  split at succeeded
  · rename_i job reel jobFound reelFound
    obtain ⟨member, reelMember, ofReel⟩ := issued.rows jobFound reelFound
    split at succeeded
    · cases succeeded
      exact .refl sourced
    · rename_i owned
      have running : job.status = .running :=
        isOwnedRunning_running (by simpa using owned)
      split at succeeded
      · exact endAttempt_sources fit sourced succeeded reelMember member ofReel
          running rfl rfl rfl nofun
      · exact endAttempt_sources fit sourced succeeded reelMember member ofReel
          running rfl rfl rfl nofun
  · cases succeeded
    exact .refl sourced

theorem recoverJob_sources (fit : JobsFit database.reels database.jobs)
    (sourced : Sourced database.reels) {newJobs : UUID → UUID}
    {job : InstagramNormalizationJob} (member : job ∈ database.jobs)
    (running : job.status = .running)
    (succeeded : recoverJob database now newJobs job = .ok after) :
    SourcesKept none database.reels after.reels := by
  unfold recoverJob at succeeded
  split at succeeded
  · cases succeeded
    exact .refl sourced
  · rename_i reel found
    obtain ⟨reelMember, owns⟩ := Table.find?_eq_some.mp found
    split at succeeded
    · exact endAttempt_sources fit sourced succeeded reelMember member
        owns.symm running rfl rfl rfl nofun
    · exact endAttempt_sources fit sourced succeeded reelMember member
        owns.symm running rfl rfl rfl nofun

theorem recoverAll_sources {newJobs : UUID → UUID}
    (stale : List InstagramNormalizationJob)
    (fit : JobsFit database.reels database.jobs)
    (sourced : Sourced database.reels)
    (members : ∀ job ∈ stale, job ∈ database.jobs ∧ job.status = .running)
    (distinct : (stale.map (·.id)).Nodup)
    (succeeded : stale.foldlM (fun database job =>
      recoverJob database now newJobs job) database = .ok after) :
    SourcesKept none database.reels after.reels := by
  induction stale generalizing database with
  | nil =>
      cases succeeded
      exact .refl sourced
  | cons job rest ih =>
      rw [List.foldlM_cons] at succeeded
      obtain ⟨middle, first, succeeded⟩ := bind_eq_ok succeeded
      obtain ⟨member, running⟩ := members job List.mem_cons_self
      obtain ⟨progress, _, others⟩ :=
        recoverJob_progress fit member running first
      have kept := recoverJob_sources fit sourced member running first
      rw [List.map_cons, List.nodup_cons] at distinct
      obtain ⟨fresh, distinct⟩ := distinct
      have remaining : ∀ other ∈ rest,
          other ∈ middle.jobs ∧ other.status = .running := by
        intro other otherMember
        obtain ⟨present, active⟩ := members other (.tail job otherMember)
        refine ⟨others other present ?_, active⟩
        intro same
        exact fresh (List.mem_map.mpr ⟨other, otherMember, same⟩)
      exact kept.trans
        (ih progress.fit kept.sourced remaining distinct succeeded)

theorem recoverStale_sources (fit : JobsFit database.reels database.jobs)
    (sourced : Sourced database.reels) {locked : List UUID}
    {newJobs : UUID → UUID} {prefixes : List StagingPrefix}
    (succeeded : recoverStale database now locked newJobs =
      .ok (after, prefixes)) :
    SourcesKept none database.reels after.reels := by
  obtain ⟨next, folded, shape⟩ := map_eq_ok succeeded
  cases shape
  exact recoverAll_sources _ fit sourced (fun _ => staleJobs_running)
    (nodup_staleJobs _ _ _) folded

theorem commitReady_sources (sourced : Sourced database.reels)
    {createdAt : Time} {videoId : UUID} {workerId : String}
    {claimed : ClaimedNormalizationJob} {output : NormalizedOutput}
    (names : NamesSource database.reels claimed)
    (succeeded : commitReady database now createdAt videoId workerId claimed
      output = .ok after) :
    SourcesKept none database.reels after.reels ∧
      IsPublished after.reels claimed.reelId claimed.sourceObjectKey := by
  obtain ⟨job, reel, duration, upserted, result, _, reelFound, _, _, _, rfl⟩ :=
    (commitReady_eq_ok succeeded).rows
  obtain ⟨reelMember, owns⟩ := Table.find?_eq_some.mp reelFound
  have named : reel.sourceObjectKey = some claimed.sourceObjectKey := by
    obtain ⟨other, otherMember, same, named⟩ := names
    rw [Table.eq_of_key_eq reelMember otherMember (owns.trans same.symm)]
    exact named
  have row : RowKept none reel (readyReel reel now result.video.id) :=
    { id := rfl
      shortcode := rfl
      source := .inl rfl
      named := fun _ => Option.isSome_iff_exists.mpr ⟨_, named⟩
      ready := fun _ => rfl
      cleaned := nofun }
  exact ⟨.of_put sourced reelMember row, readyReel reel now result.video.id,
    Table.mem_put.mpr (.inl ⟨rfl, reel, reelMember, rfl⟩), owns, rfl, named⟩

theorem rowKept_unmarked (sourced : Sourced database.reels)
    {reel : InstagramReel} (member : reel ∈ database.reels) :
    RowKept (some reel.id) reel
      { reel with sourceCleanupPending := false } where
  id := rfl
  shortcode := rfl
  source := .inl rfl
  named := sourced.named reel member
  ready := fun isReady => isReady
  cleaned := fun isReady _ => ⟨isReady, rfl, .inr rfl⟩

theorem sourceCleaned_sources (sourced : Sourced database.reels)
    {reelId : UUID} (succeeded : sourceCleaned database reelId = .ok after) :
    SourcesKept (some reelId) database.reels after.reels := by
  unfold sourceCleaned at succeeded
  split at succeeded
  · cases succeeded
    exact .refl sourced
  · rename_i reel found
    obtain ⟨member, rfl⟩ := Table.find?_eq_some.mp found
    split at succeeded
    · obtain ⟨_, _, rfl⟩ := Database.writeReel_eq_ok succeeded
      exact .of_put sourced member (rowKept_unmarked sourced member)
    · cases succeeded
      exact .refl sourced

theorem cleanupReconciled_sources (sourced : Sourced database.reels)
    {reelId : UUID} {cleaned : Bool}
    (succeeded : cleanupReconciled database reelId = .ok (after, cleaned)) :
    SourcesKept (some reelId) database.reels after.reels := by
  unfold cleanupReconciled at succeeded
  split at succeeded
  · cases succeeded
    exact .refl sourced
  · rename_i reel found
    obtain ⟨member, rfl⟩ := Table.find?_eq_some.mp found
    split at succeeded
    · obtain ⟨next, written, shape⟩ := map_eq_ok succeeded
      cases shape
      obtain ⟨_, _, rfl⟩ := Database.writeReel_eq_ok written
      exact .of_put sourced member (rowKept_unmarked sourced member)
    · cases succeeded
      exact .refl sourced

theorem discover_sources (sourced : Sourced database.reels) {reelId : UUID}
    {candidate : ReelCandidate} {reel : InstagramReel}
    (succeeded : Persistence.discover database now reelId candidate =
      .ok (after, reel)) :
    SourcesKept none database.reels after.reels ∧ reel ∈ after.reels ∧
      reel.shortcode = candidate.shortcode := by
  rcases Persistence.discover_eq_ok succeeded with ⟨rfl, member, named⟩ |
    ⟨rfl, fresh, reels, shape, rfl⟩
  · exact ⟨.refl sourced, member, named⟩
  · refine ⟨.of_insert sourced shape rfl nofun fresh, ?_, rfl⟩
    exact (Table.mem_insert? shape).mpr (.inr rfl)

theorem commitSource_sources (sourced : Sourced database.reels)
    {ids : NewIdentifiers} {runId : UUID} {candidate : ReelCandidate}
    {source : ValidatedSource}
    (succeeded : Persistence.commitSource database now ids runId candidate
      source ⟨candidate.shortcode⟩ = .ok after) :
    SourcesKept none database.reels after.reels := by
  obtain ⟨discovered, reel, written, jobs, found, accepts, rfl, _, _, _,
    added⟩ := Persistence.commitSource_eq_ok succeeded
  obtain ⟨kept, member, named⟩ := discover_sources sourced found
  have unready : reel.pipelineStatus ≠ .ready := by
    intro isReady
    rw [isReady] at accepts
    cases accepts
  have row : RowKept none reel
      (Persistence.withSource reel now source ⟨candidate.shortcode⟩) :=
    .of_unready rfl rfl (.inr (by rw [named]; rfl)) unready nofun
  rw [added.reels]
  exact kept.trans (.of_put kept.sourced member row)

theorem recordFailure_sources (sourced : Sourced database.reels)
    {ids : NewIdentifiers} {runId : UUID} {candidate : ReelCandidate}
    {reasonCode : String} {downloadAttempted : Bool}
    (succeeded : Persistence.recordFailure database now ids runId candidate
      reasonCode downloadAttempted = .ok after) :
    SourcesKept none database.reels after.reels := by
  obtain ⟨discovered, reel, written, found, outcome, added⟩ :=
    Persistence.recordFailure_eq_ok succeeded
  obtain ⟨kept, member, _⟩ := discover_sources sourced found
  rw [added.reels]
  rcases outcome with ⟨unfinished, rfl⟩ | ⟨_, _, rfl⟩
  · have unready : reel.pipelineStatus ≠ .ready := by
      rcases unfinished with status | status <;>
        · rw [status]
          nofun
    exact kept.trans (.of_put kept.sourced member
      (.of_unready rfl rfl (.inl rfl) unready nofun))
  · exact kept

end OfflineReels.Normalizer
