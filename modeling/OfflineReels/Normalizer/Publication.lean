import Mathlib.Algebra.GroupWithZero.Nat
import Mathlib.Algebra.Order.BigOperators.Group.List
import Mathlib.Algebra.Order.Group.Nat
import OfflineReels.Instagram.Consistency
import OfflineReels.Normalizer.Stores

namespace OfflineReels.Normalizer.Publication

open OfflineReels.Foundation
open OfflineReels.Foundation.Program
open OfflineReels.Instagram
open OfflineReels.Media
open InstagramNormalizerWorker

/-! An attempt whose calls all succeed.  Whether its Reel gets ready is decided
by what the catalog and the bucket already have under the output's key. -/

structure Tools where
  probe : Bytes → MediaProbe
  normalize : Bytes → NormalizedMedia

/-- The media tools, and when and past which locks a job is claimed. -/
structure Setting where
  tools : Tools
  claimedAt : Time
  locked : List UUID

structure IsFresh (database : Database) (videoId : UUID) : Prop where
  video : ∀ video ∈ database.videos, video.id ≠ videoId
  reel : ∀ reel ∈ database.reels, reel.videoId ≠ some videoId

namespace Setting

/-- Nobody cancels the worker, and the tools say the same of the same bytes. -/
def Honest (setting : Setting) (stores : Stores) (draw : WorkerDraw) :
    WorkerCall → Prop
  | .isCancelled => draw.answer = false
  | .claim _ _ => draw.now = setting.claimedAt ∧ draw.locked = setting.locked
  | .commitReady _ _ _ => IsFresh stores.database draw.videoId
  | .probeMedia content => draw.probe = setting.tools.probe content
  | .normalizeVideo content =>
      draw.normalized = setting.tools.normalize content
  | _ => True

/-- No call is refused, no answer is lost and no other party writes. -/
def Answers (setting : Setting) (stores : Stores) (request : WorkerCall)
    (reply : Except WorkerFault (WorkerReply request)) (after : Stores) :
    Prop :=
  ∃ draw, setting.Honest stores draw request ∧
    stores.effect draw request = (after, reply)

end Setting

def Ready (database : Database) (reelId : UUID) : Prop :=
  ∃ reel, database.reels.find? reelId = some reel ∧
    reel.pipelineStatus = .ready

instance (database : Database) (reelId : UUID) :
    Decidable (Ready database reelId) :=
  decidable_of_iff
    (∃ reel ∈ database.reels.find? reelId, reel.pipelineStatus = .ready)
    Iff.rfl

/-- The source of the claim is as it was committed, and its normalization is
canonical and is probed as such. -/
structure Verified (setting : Setting) (stores : Stores)
    (claimed : ClaimedNormalizationJob) (normalized : NormalizedMedia) :
    Prop where
  source : ∃ object,
    stores.objects.find? (.source claimed.sourceObjectKey) = some object ∧
      object.content.length = claimed.sourceByteSize ∧
      sha256 object.content = claimed.sourceSha256 ∧
      setting.tools.normalize object.content = normalized
  canonical : isWorkerCanonical normalized.probe = true
  probed : setting.tools.probe normalized.output = normalized.probe
  present : 0 < normalized.output.length

def videoUnder (database : Database) (objectKey : VideoObjectKey) :
    Option Video :=
  database.videos.rows.find? fun video => video.objectKey = objectKey

/-- The row under the output's key describes the output and is linked to no
other Reel; without such a row the content is that of no other video. -/
def Linkable (database : Database) (reelId : UUID) (output : Bytes) : Prop :=
  match videoUnder database ⟨sha256 output⟩ with
  | none =>
      ∀ video ∈ database.videos, video.contentSha256 ≠ some (sha256 output)
  | some video =>
      (video.contentSha256 = none ∨
          video.contentSha256 = some (sha256 output)) ∧
        video.byteSize = output.length ∧
        ∀ reel ∈ database.reels, reel.videoId = some video.id →
          reel.id = reelId

/-- An object that is stored under the output's key is the output. -/
def Intact (objects : Bucket) (output : Bytes) : Prop :=
  ∀ object, objects.find? (.video ⟨sha256 output⟩) = some object →
    object.content = output

def Publishable (stores : Stores) (reelId : UUID) (output : Bytes) : Prop :=
  Intact stores.objects output ∧ Linkable stores.database reelId output

structure Held (workerId : String) (claimed : ClaimedNormalizationJob)
    (database : Database) : Prop where
  consistent : database.ReelsConsistent
  job : ∃ job, database.jobs.find? claimed.jobId = some job ∧
    isOwnedRunning workerId job = true
  reel : ∃ reel source, database.reels.find? claimed.reelId = some reel ∧
    reel.pipelineStatus = .normalizing ∧ requiredSource reel = .ok source

theorem claim_held {database after : Database} {now : Time}
    {locked : List UUID} {workerId : String} {leaseSeconds : Nat}
    {claimed : ClaimedNormalizationJob}
    (consistent : database.ReelsConsistent)
    (claims : claim database now locked workerId leaseSeconds =
      .ok (after, some claimed)) : Held workerId claimed after := by
  unfold claim at claims
  split at claims
  · cases claims
  · rename_i job reel found
    obtain ⟨member, reelMember, _⟩ := mem_claimable (mem_of_firstBy found)
    split at claims
    · obtain ⟨middle, _, claims⟩ := bind_eq_ok claims
      obtain ⟨last, _, claims⟩ := bind_eq_ok claims
      cases claims
    · obtain ⟨source, required, claims⟩ := bind_eq_ok claims
      obtain ⟨middle, stored, claims⟩ := bind_eq_ok claims
      obtain ⟨last, ended, claims⟩ := bind_eq_ok claims
      have kept := consistent.writeReel stored
      obtain ⟨_, _, rfl⟩ := Database.writeReel_eq_ok stored
      obtain ⟨_, rfl⟩ := Database.writeJob_eq_ok ended
      cases claims
      have jobFound : database.jobs.find? job.id = some job :=
        Table.find?_eq_some.mpr ⟨member, rfl⟩
      have reelFound : database.reels.find? reel.id = some reel :=
        Table.find?_eq_some.mpr ⟨reelMember, rfl⟩
      exact ⟨⟨kept.checks, kept.unique⟩,
        ⟨_, Table.find?_put_self jobFound rfl, by
          simp [isOwnedRunning, claimedJob]⟩,
        ⟨_, source, Table.find?_put_self reelFound rfl, rfl, required⟩⟩

theorem linkable_put {database : Database} {reel written : InstagramReel}
    {reelId : UUID} {output : Bytes} (member : reel ∈ database.reels)
    (same : written.id = reel.id) (link : written.videoId = reel.videoId) :
    Linkable { database with reels := database.reels.put written } reelId
        output ↔ Linkable database reelId output := by
  unfold Linkable videoUnder
  dsimp only
  split
  · exact Iff.rfl
  · rename_i video _
    refine and_congr_right fun _ => and_congr_right fun _ => ?_
    constructor
    · intro alone row rowMember linked
      by_cases here : row.id = written.id
      · have row_eq : row = reel :=
          Table.eq_of_key_eq rowMember member (here.trans same)
        subst row_eq
        have chosen := alone written
          (Table.mem_put.mpr (.inl ⟨rfl, row, member, here⟩))
          (link.trans linked)
        exact here.trans chosen
      · exact alone row (Table.mem_put.mpr (.inr ⟨rowMember, here⟩)) linked
    · intro alone row rowMember linked
      rcases Table.mem_put.mp rowMember with ⟨rfl, _⟩ | ⟨present, _⟩
      · exact same.trans (alone reel member (link.symm.trans linked))
      · exact alone row present linked

theorem claim_linkable {database after : Database} {now : Time}
    {locked : List UUID} {workerId : String} {leaseSeconds : Nat}
    {result : Option ClaimedNormalizationJob} {reelId : UUID} {output : Bytes}
    (claims : claim database now locked workerId leaseSeconds =
      .ok (after, result)) :
    Linkable after reelId output ↔ Linkable database reelId output := by
  rcases claim_eq_ok claims with ⟨rfl, _⟩ | ⟨job, reel, selected, rest⟩
  · rfl
  · obtain ⟨_, member, _⟩ := mem_claimable selected
    rcases rest with ⟨_, _, rfl⟩ | ⟨_, _, rfl⟩
    · have same : (failedReel reel now .retryExhausted).id = reel.id := rfl
      exact linkable_put member same rfl
    · exact linkable_put member rfl rfl

theorem duration_of_canonical {probe : MediaProbe}
    (canonical : isWorkerCanonical probe = true) :
    ∃ duration, probe.duration = some duration := by
  simp only [isWorkerCanonical, isCanonicalMedia, selectNormalizationStrategy,
    Bool.and_eq_true] at canonical
  cases stored : probe.duration with
  | some duration => exact ⟨duration, rfl⟩
  | none => simp [hasRequiredVideoMetadata, stored] at canonical

section

variable {workerId : String} {claimed : ClaimedNormalizationJob}
variable {database : Database} {reel : InstagramReel}
variable {source : SourceObjectKey × Digest × Nat}

theorem requiredSource_eq_ok (required : requiredSource reel = .ok source) :
    reel.sourceObjectKey.isSome = true ∧ reel.sourceSha256.isSome = true ∧
      reel.sourceByteSize.isSome = true := by
  unfold requiredSource at required
  split at required
  · rename_i key digest size
    simp [key, digest, size]
  · cases required

theorem readyReel_satisfiesChecks (consistent : database.ReelsConsistent)
    (member : reel ∈ database.reels)
    (required : requiredSource reel = .ok source) (now : Time)
    (videoId : UUID) :
    (readyReel reel now videoId).satisfiesChecks = true := by
  have checks := consistent.checks reel member
  obtain ⟨key, digest, size⟩ := requiredSource_eq_ok required
  simp only [InstagramReel.satisfiesChecks, Bool.and_eq_true] at checks
  simp [InstagramReel.satisfiesChecks, readyReel, checks.1.1, key, digest, size]

theorem readyReel_conflictsWith (consistent : database.ReelsConsistent)
    (member : reel ∈ database.reels) (now : Time) (videoId : UUID)
    {other : InstagramReel} (otherMember : other ∈ database.reels) :
    (readyReel reel now videoId).conflictsWith other = true ↔
      reel.id ≠ other.id ∧ other.videoId = some videoId := by
  have unique := consistent.unique reel member other otherMember
  by_cases same : reel.id = other.id
  · simp [InstagramReel.conflictsWith, readyReel, same]
  · simp only [InstagramReel.conflictsWith, same, ne_eq, not_false_eq_true,
      decide_true, Bool.true_and, Bool.or_eq_false_iff, Bool.and_eq_false_iff,
      decide_eq_false_iff_not] at unique
    obtain ⟨⟨⟨shortcode, url⟩, source⟩, _⟩ := unique
    rcases source with absent | differ
    · simp [InstagramReel.conflictsWith, readyReel, same, shortcode, url,
        absent, @eq_comm _ (some videoId)]
    · simp [InstagramReel.conflictsWith, readyReel, same, shortcode, url,
        differ, @eq_comm _ (some videoId)]

theorem writeReel_ready (consistent : database.ReelsConsistent)
    (member : reel ∈ database.reels)
    (required : requiredSource reel = .ok source) (now : Time)
    {videoId : UUID} (unlinked : ∀ other ∈ database.reels,
      other.videoId = some videoId → other.id = reel.id) :
    database.writeReel (readyReel reel now videoId) =
      .ok { database with
        reels := database.reels.put (readyReel reel now videoId) } := by
  apply constrained_eq_ok.mpr
  refine ⟨?_, rfl⟩
  rw [readyReel_satisfiesChecks consistent member required, Bool.true_and,
    List.all_eq_true]
  intro other otherMember
  rw [Bool.not_eq_true', ← Bool.not_eq_true,
    readyReel_conflictsWith consistent member now videoId otherMember]
  rintro ⟨differ, linked⟩
  exact differ (unlinked other otherMember linked).symm

theorem writeJob_completed (job : InstagramNormalizationJob) (now : Time) :
    database.writeJob (completedJob job now) =
      .ok { database with jobs := database.jobs.put (completedJob job now) } := by
  apply constrained_eq_ok.mpr
  refine ⟨List.all_eq_true.mpr fun other _ => ?_, rfl⟩
  simp [InstagramNormalizationJob.conflictsWith, completedJob,
    NormalizationJobStatus.isActive]

end

def publishedOutput (normalized : NormalizedMedia) : NormalizedOutput :=
  outputOf normalized (sha256 normalized.output) normalized.output.length

structure Done (claimed : ClaimedNormalizationJob) (database : Database) :
    Prop where
  ready : Ready database claimed.reelId
  ended : ∃ job, database.jobs.find? claimed.jobId = some job ∧
    job.status ≠ .running

section

variable {database : Database} {normalized : NormalizedMedia}
variable {claimed : ClaimedNormalizationJob} {videoId : UUID}

theorem upsert_existing {video : Video}
    (found : videoUnder database ⟨sha256 normalized.output⟩ = some video)
    (now createdAt : Time) (duration : Int) :
    Videos.upsert database (videoOf now createdAt videoId claimed
        (publishedOutput normalized) duration) =
      .ok (database, ⟨video, false⟩) := by
  have stored : (database.videos.rows.find? fun other =>
      other.objectKey = (videoOf now createdAt videoId claimed
        (publishedOutput normalized) duration).objectKey) = some video := found
  rw [Videos.upsert, stored]

theorem not_under (absent : videoUnder database ⟨sha256 normalized.output⟩ = none)
    {video : Video} (member : video ∈ database.videos) :
    video.objectKey ≠ ⟨sha256 normalized.output⟩ := by
  simpa using List.find?_eq_none.mp absent video member

theorem upsert_new (claimed : ClaimedNormalizationJob)
    (absent : videoUnder database ⟨sha256 normalized.output⟩ = none)
    (unseen : ∀ video ∈ database.videos,
      video.contentSha256 ≠ some (sha256 normalized.output))
    (fresh : IsFresh database videoId) (present : 0 < normalized.output.length)
    (now createdAt : Time) (duration : Int) :
    ∃ videos, Videos.upsert database (videoOf now createdAt videoId claimed
        (publishedOutput normalized) duration) =
      .ok ({ database with videos }, ⟨videoOf now createdAt videoId claimed
        (publishedOutput normalized) duration, true⟩) := by
  generalize shape : videoOf now createdAt videoId claimed
    (publishedOutput normalized) duration = video
  have missing : (database.videos.rows.find? fun other =>
      other.objectKey = video.objectKey) = none := by
    subst shape
    exact absent
  have unused : ∀ other ∈ database.videos, other.id ≠ video.id := by
    subst shape
    exact fresh.video
  obtain ⟨videos, inserted⟩ := Table.insert?_of_absent video unused
  have stored : database.insertVideo video = .ok { database with videos } := by
    simp only [Database.insertVideo, inserted, constrained_eq_ok,
      Bool.and_eq_true, List.all_eq_true]
    refine ⟨⟨?_, fun other member => ?_⟩, trivial⟩
    · subst shape
      exact decide_eq_true present
    · have otherKey := not_under absent member
      have otherContent := unseen other member
      subst shape
      simp [Video.conflictsWith, videoOf, publishedOutput, outputOf,
        otherKey.symm, otherContent.symm]
  refine ⟨videos, ?_⟩
  rw [Videos.upsert, missing]
  simp only [stored]
  rfl

theorem upsert_duplicate
    (absent : videoUnder database ⟨sha256 normalized.output⟩ = none)
    {other : Video} (member : other ∈ database.videos)
    (seen : other.contentSha256 = some (sha256 normalized.output))
    (fresh : IsFresh database videoId) (now createdAt : Time)
    (duration : Int) :
    Videos.upsert database (videoOf now createdAt videoId claimed
        (publishedOutput normalized) duration) = .error .integrityError := by
  generalize shape : videoOf now createdAt videoId claimed
    (publishedOutput normalized) duration = video
  have missing : (database.videos.rows.find? fun other =>
      other.objectKey = video.objectKey) = none := by
    subst shape
    exact absent
  have clash : video.conflictsWith other = true := by
    have different := fresh.video other member
    subst shape
    simp [Video.conflictsWith, videoOf, publishedOutput, outputOf, seen,
      different.symm]
  have refused : (database.videos.rows.all fun other =>
      !video.conflictsWith other) = false := by
    rw [List.all_eq_false]
    exact ⟨other, member, by simp [clash]⟩
  rw [Videos.upsert, missing]
  dsimp only
  rw [Database.insertVideo]
  cases database.videos.insert? video with
  | none => rfl
  | some videos =>
      dsimp only
      rw [refused, Bool.and_false]
      rfl

theorem link_ready {workerId : String}
    (held : Held workerId claimed database) {job : InstagramNormalizationJob}
    {reel : InstagramReel}
    (jobFound : database.jobs.find? claimed.jobId = some job)
    (reelFound : database.reels.find? claimed.reelId = some reel)
    (videos : Table Video UUID Video.id) (now : Time)
    (unlinked : ∀ other ∈ database.reels, other.videoId = some videoId →
      other.id = claimed.reelId) :
    ∃ written after,
      { database with videos }.writeReel (readyReel reel now videoId) =
          .ok written ∧
        written.writeJob (completedJob job now) = .ok after ∧
        Done claimed after := by
  obtain ⟨row, source, rowFound, _, required⟩ := held.reel
  cases rowFound.symm.trans reelFound
  obtain ⟨member, same⟩ := Table.find?_eq_some.mp reelFound
  have consistent : { database with videos }.ReelsConsistent :=
    ⟨held.consistent.checks, held.consistent.unique⟩
  refine ⟨_, _, writeReel_ready consistent member required now
    (fun other otherMember linked =>
      (unlinked other otherMember linked).trans same.symm),
    writeJob_completed job now, ?_, ?_⟩
  · exact ⟨_, Table.find?_put_self reelFound same, rfl⟩
  · exact ⟨_, Table.find?_put_self jobFound
      (Table.find?_eq_some.mp jobFound).2, by simp [completedJob]⟩

theorem publishReady_eq_ok {output : NormalizedOutput}
    {job : InstagramNormalizationJob} {reel : InstagramReel}
    {upserted written after : Database} {result : Videos.VideoUpsertResult}
    {now createdAt : Time} {duration : Int}
    (stored : Videos.upsert database
      (videoOf now createdAt videoId claimed output duration) =
        .ok (upserted, result))
    (required : requireVideo output result.video = .ok ())
    (linked : upserted.writeReel (readyReel reel now result.video.id) =
      .ok written)
    (ended : written.writeJob (completedJob job now) = .ok after) :
    publishReady database now createdAt videoId claimed output job reel
      duration = .ok after := by
  rw [publishReady, stored]
  dsimp only [orFault, bind, Except.bind]
  rw [required]
  dsimp only
  rw [linked]
  dsimp only
  rw [ended]

theorem commitReady_linkable {workerId : String}
    (held : Held workerId claimed database) (fresh : IsFresh database videoId)
    (canonical : isWorkerCanonical normalized.probe = true)
    (present : 0 < normalized.output.length)
    (linkable : Linkable database claimed.reelId normalized.output)
    (now createdAt : Time) :
    ∃ after, commitReady database now createdAt videoId workerId claimed
        (publishedOutput normalized) = .ok after ∧ Done claimed after := by
  obtain ⟨job, jobFound, owned⟩ := held.job
  obtain ⟨reel, source, reelFound, normalizing, required⟩ := held.reel
  obtain ⟨duration, known⟩ := duration_of_canonical canonical
  have probed : (publishedOutput normalized).probe.duration = some duration :=
    known
  rw [commitReady, jobFound, reelFound]
  dsimp only
  rw [owned, probed]
  simp only [Bool.not_true, Bool.false_eq_true, if_false]
  unfold Linkable at linkable
  cases under : videoUnder database ⟨sha256 normalized.output⟩ with
  | none =>
      rw [under] at linkable
      obtain ⟨videos, stored⟩ := upsert_new claimed under linkable fresh
        present now createdAt duration
      obtain ⟨written, after, linked, ended, done⟩ := link_ready held jobFound
        reelFound videos now fun other member linked =>
          absurd linked (fresh.reel other member)
      refine ⟨after, publishReady_eq_ok stored ?_ linked ended, done⟩
      simp [requireVideo, videoOf, publishedOutput, outputOf]
  | some video =>
      rw [under] at linkable
      obtain ⟨content, size, alone⟩ := linkable
      obtain ⟨written, after, linked, ended, done⟩ := link_ready held jobFound
        reelFound database.videos now alone
      refine ⟨after, publishReady_eq_ok (upsert_existing under now createdAt
        duration) ?_ linked ended, done⟩
      rcases content with unknown | known
      · simp [requireVideo, unknown, size, publishedOutput, outputOf]
      · simp [requireVideo, known, size, publishedOutput, outputOf]

theorem commitReady_unlinkable {workerId : String}
    (held : Held workerId claimed database) (fresh : IsFresh database videoId)
    (unlinkable : ¬Linkable database claimed.reelId normalized.output)
    (now createdAt : Time) :
    ∃ fault, commitReady database now createdAt videoId workerId claimed
        (publishedOutput normalized) = .error fault := by
  cases outcome : commitReady database now createdAt videoId workerId claimed
      (publishedOutput normalized) with
  | error fault => exact ⟨fault, rfl⟩
  | ok after =>
      obtain ⟨job, jobFound, owned⟩ := held.job
      obtain ⟨reel, source, reelFound, normalizing, required⟩ := held.reel
      obtain ⟨member, same⟩ := Table.find?_eq_some.mp reelFound
      rw [commitReady, jobFound, reelFound] at outcome
      dsimp only at outcome
      rw [owned] at outcome
      simp only [Bool.not_true, Bool.false_eq_true, if_false] at outcome
      split at outcome
      · cases outcome
      · rename_i duration known
        obtain ⟨⟨upserted, result⟩, stored, outcome⟩ := bind_eq_ok outcome
        obtain ⟨_, fitting, outcome⟩ := bind_eq_ok outcome
        obtain ⟨written, linked, _⟩ := bind_eq_ok outcome
        have stored := orFault_eq_ok.mp stored
        obtain ⟨_, unique, _⟩ :=
          Database.writeReel_eq_ok (orFault_eq_ok.mp linked)
        apply absurd _ unlinkable
        unfold Linkable
        cases under : videoUnder database ⟨sha256 normalized.output⟩ with
        | none =>
            intro video present seen
            rw [upsert_duplicate under present seen fresh] at stored
            cases stored
        | some video =>
            rw [upsert_existing under] at stored
            cases stored
            unfold requireVideo at fitting
            split at fitting
            · cases fitting
            · rename_i conforms
              obtain ⟨content, size⟩ := not_or.mp conforms
              refine ⟨Classical.not_and_iff_not_or_not.mp content |>.imp
                not_not.mp not_not.mp, not_not.mp size, ?_⟩
              intro other otherMember link
              by_contra different
              have clash := (readyReel_conflictsWith held.consistent member now
                video.id otherMember).mpr
                  ⟨fun here => different (here.symm.trans same), link⟩
              rw [unique other otherMember] at clash
              cases clash

end

section

variable {setting : Setting} {stores : Stores}

theorem attains_invoke {request : WorkerCall}
    {post : Except WorkerFault (WorkerReply request) → Stores → Prop}
    (answers : ∀ draw, setting.Honest stores draw request →
      post (stores.effect draw request).2 (stores.effect draw request).1) :
    Attains setting.Answers (WorkerProgram.invoke request) stores post := by
  apply attains_perform
  rintro reply after ⟨draw, honest, answered⟩
  have holds := answers draw honest
  rw [answered] at holds
  exact holds

theorem attains_emit {claimed : ClaimedNormalizationJob} {event : String}
    {reason : Option ReasonCode} {post : Except WorkerFault Unit → Stores → Prop}
    (holds : post (.ok ()) stores) :
    Attains setting.Answers (emit claimed event reason) stores post :=
  attains_invoke fun _ _ => holds

theorem attains_raiseIfCancelled
    {post : Except WorkerFault Unit → Stores → Prop}
    (holds : post (.ok ()) stores) :
    Attains setting.Answers raiseIfCancelled stores post := by
  apply attains_bind
  apply attains_invoke
  intro draw silent
  have answer : draw.answer = false := silent
  simp only [Stores.effect, Stores.read, answer]
  exact attains_done holds

theorem attains_withTemporaryDirectory {α : Type} {body : WorkerProgram α}
    {post : Except WorkerFault α → Stores → Prop}
    (attained : Attains setting.Answers body stores post) :
    Attains setting.Answers (withTemporaryDirectory body) stores post := by
  apply attains_bind
  apply attains_invoke
  intro _ _
  apply attains_ensure
  refine Attains.mono attained fun reached middle holds => ?_
  exact attains_invoke fun _ _ => holds

def Quiet {α : Type} (database : Database) (outcome : Except WorkerFault α)
    (after : Stores) : Prop :=
  (∀ fault, outcome = .error fault → fault.isException = true) ∧
    after.database = database

theorem Quiet.ok {α : Type} {value : α} {database : Database} {after : Stores}
    (same : after.database = database) : Quiet database (.ok value) after :=
  ⟨fun fault raised => (by cases raised), same⟩

theorem Quiet.error {α : Type} {raised : WorkerFault} {database : Database}
    {after : Stores} (handled : raised.isException = true)
    (same : after.database = database) :
    Quiet database (.error raised : Except WorkerFault α) after :=
  ⟨fun fault shape => (by cases shape; exact handled), same⟩

theorem attains_remove {key : StorageKey} :
    Attains setting.Answers (WorkerProgram.invoke (.remove key)) stores
      (Quiet stores.database) := by
  apply attains_invoke
  intro draw _
  simp only [Stores.effect, Stores.remove]
  split
  · exact Quiet.error rfl rfl
  · exact Quiet.ok rfl

theorem attains_removeAll {keys : List StorageKey} :
    Attains setting.Answers (removeAll keys) stores
      (Quiet stores.database) := by
  induction keys generalizing stores with
  | nil => exact attains_done (Quiet.ok rfl)
  | cons key rest ih =>
      apply attains_bind
      refine Attains.mono attains_remove fun reached middle holds => ?_
      obtain ⟨handled, same⟩ := holds
      cases reached with
      | ok _ => exact same ▸ ih
      | error fault => exact Quiet.error (handled fault rfl) same

theorem attains_orElse_pure {program : WorkerProgram Unit}
    {database : Database}
    (attained : Attains setting.Answers program stores (Quiet database)) :
    Attains setting.Answers (WorkerProgram.orElse program fun _ => pure ())
      stores fun outcome after =>
        outcome = .ok () ∧ after.database = database := by
  apply attains_rescue
  refine Attains.mono attained fun reached middle holds => ?_
  obtain ⟨handled, same⟩ := holds
  cases reached with
  | ok _ => exact ⟨rfl, same⟩
  | error fault =>
      dsimp only
      rw [if_pos (handled fault rfl)]
      exact attains_done ⟨rfl, same⟩

theorem attains_cleanupStaging {stagingPrefix : StagingPrefix} :
    Attains setting.Answers (cleanupStaging stagingPrefix) stores
      fun outcome after =>
        outcome = .ok () ∧ after.database = stores.database := by
  apply attains_orElse_pure
  apply attains_bind
  apply attains_invoke
  intro _ _
  exact attains_removeAll

theorem attains_compensate {finalKey : VideoObjectKey} {created : Bool} :
    Attains setting.Answers (compensateFinalIfUnreferenced finalKey created)
      stores fun outcome after =>
        outcome = .ok () ∧ after.database = stores.database := by
  unfold compensateFinalIfUnreferenced
  split
  · exact attains_done ⟨rfl, rfl⟩
  · apply attains_orElse_pure
    apply attains_bind
    apply attains_invoke
    intro _ _
    dsimp only [Stores.effect, Stores.read]
    split
    · exact attains_done (Quiet.ok rfl)
    · exact attains_remove

variable {output : Bytes}

theorem attains_verifyFinal {object : StorageObject}
    (stored : stores.objects.find? (.video ⟨sha256 output⟩) = some object)
    (canonical : isWorkerCanonical (setting.tools.probe output) = true) :
    Attains setting.Answers
      (verifyFinal ⟨sha256 output⟩ (sha256 output) output.length) stores
      fun outcome after => after.database = stores.database ∧
        ((object.content = output ∧ outcome = .ok ()) ∨
          (object.content ≠ output ∧
            outcome = .error .finalObjectConflict)) := by
  apply attains_withTemporaryDirectory
  apply attains_bind
  apply attains_invoke
  intro _ _
  simp only [Stores.effect, Stores.withObject, stored, Stores.read]
  apply attains_bind
  apply attains_invoke
  intro _ _
  simp only [Stores.effect, Stores.read]
  by_cases same : object.content = output
  · rw [if_neg (by simp [same])]
    apply attains_bind
    apply attains_invoke
    intro draw probed
    simp only [Stores.effect, Stores.read]
    apply attains_bind
    apply attains_invoke
    intro _ _
    simp only [Stores.effect, Stores.read]
    have probe : draw.probe = setting.tools.probe object.content := probed
    rw [probe, same, if_pos canonical]
    exact attains_done ⟨rfl, .inl ⟨rfl, rfl⟩⟩
  · rw [if_pos (.inl fun digest => same (sha256_injective digest))]
    exact attains_done ⟨rfl, .inr ⟨same, rfl⟩⟩

theorem attains_publishFinal {stagingKey : StorageKey} {staged : StorageObject}
    (uploaded : stores.objects.find? stagingKey = some staged)
    (content : staged.content = output)
    (canonical : isWorkerCanonical (setting.tools.probe output) = true) :
    Attains setting.Answers
      (publishFinal stagingKey ⟨sha256 output⟩ output) stores
      fun outcome after => after.database = stores.database ∧
        ((Intact stores.objects output ∧ ∃ created, outcome = .ok created) ∨
          (¬Intact stores.objects output ∧
            outcome = .error .finalObjectConflict)) := by
  apply attains_bind
  apply attains_invoke
  intro _ _
  simp only [Stores.effect, Stores.read]
  apply attains_attempt
  apply attains_invoke
  intro _ _
  simp only [Stores.effect, Stores.withObject]
  cases present : stores.objects.find? (.video ⟨sha256 output⟩) with
  | none =>
      have intact : Intact stores.objects output := fun object found => by
        rw [present] at found
        cases found
      dsimp only
      apply attains_bind
      apply attains_invoke
      intro _ _
      simp only [Stores.effect, Stores.withObject, uploaded]
      apply attains_bind
      apply attains_rescue
      have stored : (stores.writeObject
          { staged with key := .video ⟨sha256 output⟩ }).objects.find?
            (.video ⟨sha256 output⟩) =
              some { staged with key := .video ⟨sha256 output⟩ } :=
        Table.find?_upsert_self
      refine Attains.mono (attains_verifyFinal stored canonical)
        fun reached middle holds => ?_
      obtain ⟨same, ⟨_, rfl⟩ | ⟨differ, _⟩⟩ := holds
      · exact attains_done ⟨same, .inl ⟨intact, true, rfl⟩⟩
      · exact absurd content differ
  | some object =>
      have intact_iff : Intact stores.objects output ↔
          object.content = output := by
        constructor
        · intro intact
          exact intact object present
        · intro same other found
          cases found.symm.trans present
          exact same
      dsimp only [Stores.read]
      split
      · rename_i longer
        refine attains_done ⟨rfl, .inr ⟨fun intact => ?_, rfl⟩⟩
        exact longer (by rw [intact_iff.mp intact])
      · apply attains_bind
        refine Attains.mono (attains_verifyFinal present canonical)
          fun reached middle holds => ?_
        obtain ⟨same, ⟨equal, rfl⟩ | ⟨differ, rfl⟩⟩ := holds
        · exact attains_done ⟨same, .inl ⟨intact_iff.mpr equal, false, rfl⟩⟩
        · exact ⟨same, .inr ⟨fun intact => differ (intact_iff.mp intact), rfl⟩⟩

end

theorem Held.not_ready {workerId : String} {claimed : ClaimedNormalizationJob}
    {database : Database} (held : Held workerId claimed database) :
    ¬Ready database claimed.reelId := by
  rintro ⟨other, otherFound, ready⟩
  obtain ⟨reel, _, found, normalizing, _⟩ := held.reel
  cases found.symm.trans otherFound
  rw [normalizing] at ready
  cases ready

theorem toWorkerFault_isException (fault : CommitFault) :
    fault.toWorkerFault.isException = true := by
  cases fault with
  | database error => cases error <;> rfl
  | workerCancelled => rfl
  | finalObjectConflict => rfl
  | valueError => rfl

theorem databaseFault_isException (error : DatabaseError) :
    (databaseFault error).isException = true := by
  cases error <;> rfl

theorem sourceCleaned_done {claimed : ClaimedNormalizationJob}
    {database after : Database} (done : Done claimed database)
    (cleaned : sourceCleaned database claimed.reelId = .ok after) :
    Done claimed after := by
  unfold sourceCleaned at cleaned
  split at cleaned
  · cases cleaned
    exact done
  · rename_i reel found
    split at cleaned
    · rename_i ready
      obtain ⟨_, _, rfl⟩ := Database.writeReel_eq_ok cleaned
      exact ⟨⟨_, Table.find?_put_self found
        (Table.find?_eq_some.mp found).2, ready⟩, done.ended⟩
    · cases cleaned
      exact done

theorem constrained_error {holds : Bool} {database : Database}
    {error : DatabaseError} (failed : constrained holds database = .error error) :
    error = .integrityError := by
  cases holds with
  | false =>
      cases failed
      rfl
  | true => cases failed

theorem endAttempt_error {database : Database} {now : Time}
    {job : InstagramNormalizationJob} {reel : InstagramReel}
    {next : Option UUID} {error : DatabaseError}
    (failed : endAttempt database now job reel next = .error error) :
    error = .integrityError := by
  rcases bind_eq_error failed with failed | ⟨middle, _, failed⟩
  · exact constrained_error failed
  rcases bind_eq_error failed with failed | ⟨last, _, failed⟩
  · exact constrained_error failed
  cases next with
  | none => cases failed
  | some jobId =>
      dsimp only at failed
      unfold Database.insertJob at failed
      split at failed
      · cases failed
        rfl
      · exact constrained_error failed

theorem finishFailure_error {database : Database} {now : Time}
    {workerId : String} {newJob : UUID} {claimed : ClaimedNormalizationJob}
    {reason : ReasonCode} {retryable : Bool} {error : DatabaseError}
    (failed : finishFailure database now workerId newJob claimed reason
      retryable = .error error) : error = .integrityError := by
  unfold finishFailure at failed
  split at failed
  · split at failed
    · cases failed
    · split at failed
      · exact endAttempt_error failed
      · exact endAttempt_error failed
  · cases failed

theorem endAttempt_not_ready {database after : Database} {now : Time}
    {job : InstagramNormalizationJob} {reel written : InstagramReel}
    {next : Option UUID} {reelId : UUID}
    (found : database.reels.find? reelId = some reel)
    (ended : endAttempt database now job written next = .ok after)
    (same : written.id = reel.id)
    (unready : written.pipelineStatus ≠ .ready) : ¬Ready after reelId := by
  have here : written.id = reelId :=
    same.trans (Table.find?_eq_some.mp found).2
  have stored : (database.reels.put written).find? reelId = some written :=
    Table.find?_put_self found here
  have reels : after.reels = database.reels.put written := by
    rcases endAttempt_eq_ok ended with ⟨_, rfl⟩ | ⟨_, _, _, _, rfl⟩
    · rfl
    · rfl
  rintro ⟨row, rowFound, ready⟩
  rw [reels, stored] at rowFound
  cases rowFound
  exact unready ready

theorem finishFailure_not_ready {database after : Database} {now : Time}
    {workerId : String} {newJob : UUID} {claimed : ClaimedNormalizationJob}
    {reason : ReasonCode} {retryable : Bool}
    (unready : ¬Ready database claimed.reelId)
    (finished : finishFailure database now workerId newJob claimed reason
      retryable = .ok after) : ¬Ready after claimed.reelId := by
  unfold finishFailure at finished
  split at finished
  · rename_i job reel jobFound reelFound
    split at finished
    · cases finished
      exact unready
    · split at finished
      · exact endAttempt_not_ready reelFound finished rfl
          fun ready => by cases ready
      · exact endAttempt_not_ready reelFound finished rfl
          fun ready => by cases ready
  · cases finished
    exact unready

def Settled (publishable : Prop) (claimed : ClaimedNormalizationJob)
    (database : Database) : Prop :=
  (publishable ∧ Done claimed database) ∨
    (¬publishable ∧ ¬Ready database claimed.reelId)

theorem Settled.iff {publishable : Prop} {claimed : ClaimedNormalizationJob}
    {database : Database} (settled : Settled publishable claimed database) :
    Ready database claimed.reelId ↔ publishable := by
  rcases settled with ⟨holds, done⟩ | ⟨fails, unready⟩
  · exact iff_of_true done.ready holds
  · exact iff_of_false unready fails

theorem Settled.finishFailure {publishable : Prop}
    {claimed : ClaimedNormalizationJob} {database after : Database}
    {now : Time} {workerId : String} {newJob : UUID} {reason : ReasonCode}
    {retryable : Bool} (settled : Settled publishable claimed database)
    (finished : Normalizer.finishFailure database now workerId newJob claimed
      reason retryable = .ok after) : Settled publishable claimed after := by
  rcases settled with ⟨holds, done⟩ | ⟨fails, unready⟩
  · obtain ⟨job, found, ended⟩ := done.ended
    rw [finishFailure_of_ended found ended] at finished
    cases finished
    exact .inl ⟨holds, done⟩
  · exact .inr ⟨fails, finishFailure_not_ready unready finished⟩

section

variable {setting : Setting} {stores : Stores}
variable {worker : InstagramNormalizerWorker}
variable {claimed : ClaimedNormalizationJob} {normalized : NormalizedMedia}

theorem attains_commitOutput {created : Bool}
    (held : Held worker.workerId claimed stores.database)
    (canonical : isWorkerCanonical normalized.probe = true)
    (present : 0 < normalized.output.length) :
    Attains setting.Answers
      (commitOutput worker claimed (publishedOutput normalized) created) stores
      fun outcome after =>
        (Linkable stores.database claimed.reelId normalized.output ∧
            outcome = .ok () ∧ Done claimed after.database) ∨
          (¬Linkable stores.database claimed.reelId normalized.output ∧
            (∃ fault, outcome = .error fault ∧ fault.isException = true) ∧
            after.database = stores.database) := by
  apply attains_rescue
  apply attains_invoke
  intro draw fresh
  by_cases linkable :
      Linkable stores.database claimed.reelId normalized.output
  · obtain ⟨after, committed, done⟩ := commitReady_linkable held fresh canonical
      present linkable draw.now draw.createdAt
    simp only [Stores.effect, committed, Stores.commitOutput]
    exact .inl ⟨linkable, trivial, done⟩
  · obtain ⟨fault, refused⟩ := commitReady_unlinkable held fresh linkable
      draw.now draw.createdAt
    simp only [Stores.effect, refused, Stores.commitOutput]
    rw [if_pos (toWorkerFault_isException fault)]
    apply attains_bind
    refine Attains.mono attains_compensate fun reached middle holds => ?_
    obtain ⟨rfl, same⟩ := holds
    exact attains_done (.inr ⟨linkable,
      ⟨_, rfl, toWorkerFault_isException fault⟩, same⟩)

theorem attains_cleanupSource (done : Done claimed stores.database) :
    Attains setting.Answers (cleanupSourceAfterCommit claimed) stores
      fun outcome after =>
        (∀ fault, outcome = .error fault → fault.isException = true) ∧
          Done claimed after.database := by
  have cleaning : ∀ middle : Stores, middle.database = stores.database →
      Attains setting.Answers
        (WorkerProgram.invoke (.sourceCleaned claimed.reelId)) middle
        fun outcome after =>
          (∀ fault, outcome = .error fault → fault.isException = true) ∧
            Done claimed after.database := by
    intro middle same
    apply attains_invoke
    intro _ _
    dsimp only [Stores.effect]
    cases cleaned : sourceCleaned middle.database claimed.reelId with
    | ok database =>
        have kept := sourceCleaned_done (same ▸ done) cleaned
        exact ⟨fun fault raised => (by cases raised), kept⟩
    | error error =>
        exact ⟨fun fault raised =>
          (by cases raised; exact databaseFault_isException error),
          same ▸ done⟩
  apply attains_attempt
  refine Attains.mono attains_remove fun reached middle holds => ?_
  obtain ⟨handled, same⟩ := holds
  split
  · exact cleaning middle same
  · exact cleaning middle same
  · rename_i fault _
    rw [if_pos (handled fault rfl)]
    exact attains_done ⟨fun _ raised => (by cases raised), same ▸ done⟩

theorem attains_publishNormalized
    (held : Held worker.workerId claimed stores.database)
    (canonical : isWorkerCanonical normalized.probe = true)
    (probed : setting.tools.probe normalized.output = normalized.probe)
    (present : 0 < normalized.output.length) :
    Attains setting.Answers (publishNormalized worker claimed normalized) stores
      fun outcome after =>
        (∀ fault, outcome = .error fault → fault.isException = true) ∧
          Settled (Publishable stores claimed.reelId normalized.output) claimed
            after.database := by
  have ready : isWorkerCanonical (setting.tools.probe normalized.output) = true :=
    probed ▸ canonical
  apply attains_bind
  apply attains_emit
  apply attains_bind
  apply attains_raiseIfCancelled
  dsimp only
  rw [if_neg (by simp [canonical])]
  apply attains_bind
  apply attains_invoke
  intro _ _
  dsimp only [Stores.effect, Stores.read]
  apply attains_bind
  apply attains_invoke
  intro _ _
  dsimp only [Stores.effect]
  generalize uploaded : stores.writeObject
    ⟨.staging claimed.stagingPrefix "canonical.mp4", normalized.output,
      "video/mp4"⟩ = middle
  have staged : middle.objects.find?
      (.staging claimed.stagingPrefix "canonical.mp4") =
        some ⟨.staging claimed.stagingPrefix "canonical.mp4",
          normalized.output, "video/mp4"⟩ := by
    subst uploaded
    exact Table.find?_upsert_self
  have intact : Intact middle.objects normalized.output ↔
      Intact stores.objects normalized.output := by
    subst uploaded
    unfold Intact
    rw [show (stores.writeObject _).objects.find? _ = _ from
      Table.find?_upsert_other (by simp)]
  have rows : middle.database = stores.database := by
    subst uploaded
    rfl
  apply attains_bind
  apply attains_emit
  apply attains_bind
  refine Attains.mono (attains_publishFinal staged rfl ready)
    fun reached later holds => ?_
  obtain ⟨same, ⟨stored, created, rfl⟩ | ⟨clash, rfl⟩⟩ := holds
  · have heldLater : Held worker.workerId claimed later.database :=
      (same.trans rows).symm ▸ held
    apply attains_bind
    apply attains_emit
    apply attains_bind
    apply attains_raiseIfCancelled
    apply attains_bind
    refine Attains.mono (attains_commitOutput heldLater canonical present)
      fun reached last holds => ?_
    rw [same, rows] at holds
    rcases holds with ⟨linkable, rfl, done⟩ |
      ⟨unlinkable, ⟨fault, rfl, handled⟩, unchanged⟩
    · have publishable : Publishable stores claimed.reelId normalized.output :=
        ⟨intact.mp stored, linkable⟩
      apply attains_bind
      apply attains_emit
      apply attains_bind
      refine Attains.mono (attains_cleanupSource done)
        fun cleaned final holds => ?_
      obtain ⟨handled, done⟩ := holds
      cases cleaned with
      | ok _ =>
          apply attains_emit
          exact ⟨fun fault raised => (by cases raised),
            .inl ⟨publishable, done⟩⟩
      | error fault =>
          exact ⟨fun _ raised => handled _ (by cases raised; rfl),
            .inl ⟨publishable, done⟩⟩
    · refine ⟨fun _ raised => (by cases raised; exact handled),
        .inr ⟨fun publishable => unlinkable publishable.2, ?_⟩⟩
      rw [unchanged]
      exact held.not_ready
  · refine ⟨fun fault raised => (by cases raised; rfl),
      .inr ⟨fun publishable => clash (intact.mpr publishable.1), ?_⟩⟩
    rw [same, rows]
    exact held.not_ready

theorem attains_downloadAndVerifySource {object : StorageObject}
    (stored : stores.objects.find? (.source claimed.sourceObjectKey) =
      some object)
    (size : object.content.length = claimed.sourceByteSize)
    (digest : sha256 object.content = claimed.sourceSha256) :
    Attains setting.Answers (downloadAndVerifySource claimed) stores
      fun outcome after => outcome = .ok object.content ∧ after = stores := by
  apply attains_bind
  apply attains_invoke
  intro _ _
  simp only [Stores.effect, Stores.withObject, stored, Stores.read]
  rw [if_neg (not_not.mpr size)]
  apply attains_bind
  apply attains_invoke
  intro _ _
  simp only [Stores.effect, Stores.withObject, stored, Stores.read]
  apply attains_bind
  apply attains_invoke
  intro _ _
  simp only [Stores.effect, Stores.read]
  rw [if_neg (not_not.mpr size), if_neg (not_not.mpr digest)]
  apply attains_bind
  apply attains_invoke
  intro _ _
  exact attains_done ⟨rfl, rfl⟩

theorem attains_process
    (held : Held worker.workerId claimed stores.database)
    (verified : Verified setting stores claimed normalized) :
    Attains setting.Answers (worker.process claimed) stores
      fun outcome after =>
        (∀ fault, outcome = .error fault → fault.isException = true) ∧
          Settled (Publishable stores claimed.reelId normalized.output) claimed
            after.database := by
  obtain ⟨object, stored, size, digest, normalizes⟩ := verified.source
  apply attains_bind
  apply attains_raiseIfCancelled
  apply attains_withTemporaryDirectory
  apply attains_bind
  refine Attains.mono (attains_downloadAndVerifySource stored size digest)
    fun reached middle holds => ?_
  obtain ⟨rfl, rfl⟩ := holds
  apply attains_bind
  apply attains_emit
  apply attains_bind
  apply attains_raiseIfCancelled
  apply attains_bind
  apply attains_invoke
  intro draw honest
  have produced : draw.normalized = normalized := honest.trans normalizes
  simp only [Stores.effect, Stores.read, produced]
  apply attains_ensure
  refine Attains.mono (attains_publishNormalized held verified.canonical
    verified.probed verified.present) fun reached later holds => ?_
  exact attains_invoke fun _ _ => holds

theorem attains_finishFailure {publishable : Prop} {reason : ReasonCode}
    {retryable : Bool}
    (settled : Settled publishable claimed stores.database) :
    Attains setting.Answers (worker.finishFailure claimed reason retryable)
      stores fun outcome after => outcome = .ok () ∧
        Settled publishable claimed after.database := by
  apply attains_rescue
  apply attains_invoke
  intro draw _
  dsimp only [Stores.effect]
  cases finished : Normalizer.finishFailure stores.database draw.now
      worker.workerId draw.newJob claimed reason retryable with
  | ok database => exact ⟨rfl, settled.finishFailure finished⟩
  | error error =>
      cases finishFailure_error finished
      exact attains_done ⟨rfl, settled⟩

theorem attains_handleFault {publishable : Prop} {fault : WorkerFault}
    (handled : fault.isException = true)
    (settled : Settled publishable claimed stores.database) :
    Attains setting.Answers (worker.handleFault claimed fault) stores
      fun outcome after => outcome = .ok () ∧
        Settled publishable claimed after.database := by
  unfold handleFault
  split
  · apply attains_bind
    refine Attains.mono (attains_finishFailure settled)
      fun reached middle holds => ?_
    obtain ⟨rfl, kept⟩ := holds
    exact attains_emit ⟨rfl, kept⟩
  · rw [if_pos handled]
    apply attains_bind
    refine Attains.mono (attains_finishFailure settled)
      fun reached middle holds => ?_
    obtain ⟨rfl, kept⟩ := holds
    exact attains_emit ⟨rfl, kept⟩

def faultHandled (worker : InstagramNormalizerWorker)
    (claimed : ClaimedNormalizationJob) : Except WorkerFault Unit →
    WorkerProgram Unit
  | .ok _ => pure ()
  | .error fault => worker.handleFault claimed fault

theorem attains_attemptClaimed
    (held : Held worker.workerId claimed stores.database)
    (verified : Verified setting stores claimed normalized) :
    Attains setting.Answers (worker.attemptClaimed claimed) stores
      fun outcome after => outcome = .ok () ∧
        Settled (Publishable stores claimed.reelId normalized.output) claimed
          after.database := by
  have handled : Attains setting.Answers
      ((worker.process claimed).attempt (faultHandled worker claimed)) stores
      fun outcome after => outcome = .ok () ∧
        Settled (Publishable stores claimed.reelId normalized.output) claimed
          after.database := by
    apply attains_attempt
    refine Attains.mono (attains_process held verified)
      fun reached middle holds => ?_
    obtain ⟨handled, settled⟩ := holds
    cases reached with
    | ok _ => exact attains_done ⟨rfl, settled⟩
    | error fault => exact attains_handleFault (handled fault rfl) settled
  apply attains_ensure
  refine Attains.mono handled fun reached middle holds => ?_
  obtain ⟨rfl, settled⟩ := holds
  refine Attains.mono attains_cleanupStaging fun cleaned after holds => ?_
  obtain ⟨rfl, same⟩ := holds
  exact ⟨rfl, same.symm ▸ settled⟩

end

def unusedId (database : Database) : UUID :=
  (database.videos.rows.map (·.id)).sum +
    (database.reels.rows.filterMap (·.videoId)).sum + 1

theorem unusedId_isFresh (database : Database) :
    IsFresh database (unusedId database) := by
  constructor
  · intro video member same
    have bound : video.id ≤ (database.videos.rows.map (·.id)).sum :=
      List.le_sum_of_mem (List.mem_map.mpr ⟨video, member, rfl⟩)
    rw [same, unusedId, Nat.add_assoc] at bound
    exact Nat.not_le_of_lt (Nat.lt_add_of_pos_right (Nat.succ_pos _)) bound
  · intro reel member linked
    have bound : unusedId database ≤
        (database.reels.rows.filterMap (·.videoId)).sum :=
      List.le_sum_of_mem (List.mem_filterMap.mpr ⟨reel, member, linked⟩)
    rw [unusedId, Nat.add_comm (List.sum _), Nat.add_assoc] at bound
    exact Nat.not_le_of_lt (Nat.lt_add_of_pos_right (Nat.succ_pos _)) bound

def honestDraw (setting : Setting) (stores : Stores) :
    WorkerCall → WorkerDraw
  | .claim _ _ => { now := setting.claimedAt, locked := setting.locked }
  | .commitReady _ _ _ => { videoId := unusedId stores.database }
  | .probeMedia content => { probe := setting.tools.probe content }
  | .normalizeVideo content =>
      { normalized := setting.tools.normalize content }
  | _ => {}

theorem honestDraw_honest (setting : Setting) (stores : Stores)
    (request : WorkerCall) :
    setting.Honest stores (honestDraw setting stores request) request := by
  cases request with
  | isCancelled => rfl
  | claim workerId leaseSeconds => exact ⟨rfl, rfl⟩
  | commitReady workerId claimed output => exact unusedId_isFresh _
  | probeMedia content => rfl
  | normalizeVideo content => rfl
  | _ => trivial

def respond (setting : Setting) (stores : Stores) (request : WorkerCall) :
    Except WorkerFault (WorkerReply request) × Stores :=
  (stores.effect (honestDraw setting stores request) request).swap

theorem respond_answers (setting : Setting) (stores : Stores)
    (request : WorkerCall) :
    setting.Answers stores request (respond setting stores request).1
      (respond setting stores request).2 :=
  ⟨honestDraw setting stores request, honestDraw_honest setting stores request,
    rfl⟩

/-- The attempt can be made, and it gets its Reel ready exactly if what is
stored under the output's key allows for it. -/
theorem ready_iff_publishable {setting : Setting}
    {worker : InstagramNormalizerWorker} {stores : Stores}
    {database : Database} {claimed : ClaimedNormalizationJob}
    {normalized : NormalizedMedia}
    (consistent : stores.database.ReelsConsistent)
    (claims : claim stores.database setting.claimedAt setting.locked
      worker.workerId worker.leaseSeconds = .ok (database, some claimed))
    (verified : Verified setting stores claimed normalized) :
    (∃ outcome after, worker.runOnce.Plays setting.Answers stores outcome
        after) ∧
      ∀ outcome after, worker.runOnce.Plays setting.Answers stores outcome
          after → outcome = .ok true ∧
        (Ready after.database claimed.reelId ↔
          Publishable stores claimed.reelId normalized.output) := by
  refine ⟨⟨_, _, plays_play (respond_answers setting) worker.runOnce stores⟩,
    fun outcome after played => ?_⟩
  have held := claim_held consistent claims
  have attained : Attains setting.Answers worker.runOnce stores
      fun outcome after => outcome = .ok true ∧
        Settled (Publishable { stores with database } claimed.reelId
          normalized.output) claimed after.database := by
    apply attains_bind
    apply attains_invoke
    intro draw silent
    have answer : draw.answer = false := silent
    simp only [Stores.effect, Stores.read, answer, Bool.false_eq_true, if_false]
    apply attains_bind
    apply attains_bind
    apply attains_raiseIfCancelled
    apply attains_invoke
    rintro draw ⟨now, locked⟩
    simp only [Stores.effect, now, locked, claims, Stores.transaction]
    apply attains_bind
    apply attains_emit
    apply attains_bind
    refine Attains.mono (attains_attemptClaimed held
      ⟨verified.source, verified.canonical, verified.probed,
        verified.present⟩) fun reached middle holds => ?_
    obtain ⟨rfl, settled⟩ := holds
    exact attains_done ⟨rfl, settled⟩
  obtain ⟨ends, settled⟩ := attained outcome after played
  refine ⟨ends, settled.iff.trans ?_⟩
  exact and_congr Iff.rfl (claim_linkable claims)

def sharedVideo : Video :=
  videoOf 0 0 8 (JobLifecycle.heldClaim "first" 3 1).claimed
    JobLifecycle.canonicalOutput 1000000

def waitingReel : InstagramReel where
  id := 2
  shortcode := "A"
  canonicalUrl := "https://www.instagram.com/reel/A/"
  pipelineStatus := .sourceReady
  sourceObjectKey := some ⟨"A"⟩
  sourceSha256 := some (sha256 [0])
  sourceByteSize := some 1
  videoId := none
  failureReasonCode := none
  discoveredAt := some 0
  sourceReadyAt := some 0
  readyAt := none
  failedAt := none
  sourceCleanupPending := false

def publishedReel : InstagramReel :=
  readyReel { waitingReel with
    id := 6
    shortcode := "B"
    canonicalUrl := "https://www.instagram.com/reel/B/"
    sourceObjectKey := some ⟨"B"⟩ } 0 8

theorem waitingReel_keyed :
    ([waitingReel].map InstagramReel.id).Nodup := by decide

theorem sampleJobs_keyed :
    ([Collector.Persistence.pendingJob 0 3 2 0].map
      InstagramNormalizationJob.id).Nodup := by decide

def sampleStores (reels : Table InstagramReel UUID InstagramReel.id) :
    Stores where
  database :=
    { Database.empty with
      reels := reels
      jobs := ⟨[Collector.Persistence.pendingJob 0 3 2 0], sampleJobs_keyed⟩
      videos := ⟨[sharedVideo], by decide⟩ }
  objects := ⟨[⟨.source ⟨"A"⟩, [0], "video/mp4"⟩,
    ⟨.video ⟨sha256 [1]⟩, [1], "video/mp4"⟩], by decide⟩

def seededStores : Stores := sampleStores ⟨[waitingReel], waitingReel_keyed⟩

def publishedStores : Stores :=
  sampleStores ⟨[publishedReel, waitingReel], by decide⟩

def sampleSetting : Setting where
  tools :=
    { probe := fun _ => JobLifecycle.canonicalOutput.probe
      normalize := fun _ => ⟨[1], .passthrough,
        JobLifecycle.canonicalOutput.probe,
        JobLifecycle.canonicalOutput.probe⟩ }
  claimedAt := 0
  locked := []

def sampleWorker : InstagramNormalizerWorker := ⟨"first", LEASE_SECONDS⟩

def sampleClaim (stores : Stores) :
    Except DatabaseError (Database × Option ClaimedNormalizationJob) :=
  claim stores.database sampleSetting.claimedAt sampleSetting.locked
    sampleWorker.workerId sampleWorker.leaseSeconds

theorem sample_verified {stores : Stores}
    (objects : stores.objects = seededStores.objects) :
    Verified sampleSetting stores (JobLifecycle.heldClaim "first" 3 1).claimed
      (sampleSetting.tools.normalize [0]) where
  source := ⟨⟨.source ⟨"A"⟩, [0], "video/mp4"⟩, by rw [objects]; rfl, rfl, rfl,
    rfl⟩
  canonical := by decide +kernel
  probed := rfl
  present := by decide

theorem seeded_ready :
    ∃ outcome after, sampleWorker.runOnce.Plays sampleSetting.Answers
        seededStores outcome after ∧
      outcome = .ok true ∧ Ready after.database 2 := by
  have claims : ∃ database, sampleClaim seededStores =
      .ok (database, some (JobLifecycle.heldClaim "first" 3 1).claimed) :=
    ⟨_, rfl⟩
  obtain ⟨database, claims⟩ := claims
  obtain ⟨⟨outcome, after, played⟩, settles⟩ :=
    ready_iff_publishable ⟨by decide, by decide⟩ claims (sample_verified rfl)
  obtain ⟨ends, ready⟩ := settles outcome after played
  refine ⟨outcome, after, played, ends, ready.mpr ⟨?_, ?_⟩⟩
  · intro object found
    cases found
    rfl
  · exact ⟨.inr rfl, rfl, by decide⟩

/-- The job of the second Reel is claimed, its source is intact and its output
is canonical; linking the Video again is refused, which the worker takes for a
failure of the database. -/
theorem duplicate_content_unready :
    publishedStores.database.ReelsConsistent ∧
      (∃ database, sampleClaim publishedStores =
        .ok (database, some (JobLifecycle.heldClaim "first" 3 1).claimed)) ∧
      Verified sampleSetting publishedStores
        (JobLifecycle.heldClaim "first" 3 1).claimed
        (sampleSetting.tools.normalize [0]) ∧
      ∃ outcome after, sampleWorker.runOnce.Plays sampleSetting.Answers
          publishedStores outcome after ∧
        outcome = .ok true ∧ ¬Ready after.database 2 ∧
        (after.database.reels.find? 2).bind (·.failureReasonCode) =
          some ReasonCode.postgresCommitFailure.value := by
  refine ⟨⟨by decide, by decide⟩, ⟨_, rfl⟩, sample_verified rfl, _, _,
    plays_play (respond_answers sampleSetting) sampleWorker.runOnce
      publishedStores, ?_⟩
  decide +kernel

end OfflineReels.Normalizer.Publication
