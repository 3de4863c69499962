import OfflineReels.Normalizer.SourceRemoval

namespace OfflineReels.Normalizer.SourceRemoval

open OfflineReels.Foundation
open OfflineReels.Foundation.Program
open OfflineReels.Instagram
open OfflineReels.Collector

/-! What holds of the stores while threads know what they know. -/

def Absent (objects : Bucket) (objectKey : SourceObjectKey) : Prop :=
  ∀ object ∈ objects, object.key ≠ .source objectKey

structure StoresSound (stores : Stores) : Prop where
  fit : JobsFit stores.database.reels stores.database.jobs
  sourced : Sourced stores.database.reels
  clean : ∀ reel ∈ stores.database.reels, reel.pipelineStatus = .ready →
    reel.sourceCleanupPending = false →
    ∀ objectKey, reel.sourceObjectKey = some objectKey →
      Absent stores.objects objectKey

structure Knows (stores : Stores) (phase : Phase) : Prop where
  claim : ∀ claimed, phase.claim = some claimed →
    Issued stores.database.jobs claimed ∧
      NamesSource stores.database.reels claimed
  ready : ∀ reelId objectKey, (reelId, objectKey) ∈ phase.ready →
    IsPublished stores.database.reels reelId objectKey
  absent : ∀ objectKey ∈ phase.absent, Absent stores.objects objectKey ∧
    ∃ reelId, IsPublished stores.database.reels reelId objectKey

theorem knows_idle (stores : Stores) : Knows stores idle where
  claim := nofun
  ready := fun _ _ member => absurd member List.not_mem_nil
  absent := fun _ member => absurd member List.not_mem_nil

structure Advances (before after : Stores) : Prop where
  sound : StoresSound after
  jobs : JobMoves before.database.jobs after.database.jobs
  published : ∀ reelId objectKey,
    IsPublished before.database.reels reelId objectKey →
    IsPublished after.database.reels reelId objectKey
  names : ∀ claimed, NamesSource before.database.reels claimed →
    NamesSource after.database.reels claimed
  absent : ∀ objectKey, Absent before.objects objectKey →
    (∃ reelId, IsPublished before.database.reels reelId objectKey) →
    Absent after.objects objectKey

theorem Knows.later {before after : Stores} {phase : Phase}
    (knows : Knows before phase) (advances : Advances before after) :
    Knows after phase where
  claim := by
    intro claimed holds
    obtain ⟨issued, names⟩ := knows.claim claimed holds
    exact ⟨issued.later advances.jobs, advances.names claimed names⟩
  ready := fun reelId objectKey member =>
    advances.published reelId objectKey (knows.ready reelId objectKey member)
  absent := by
    intro objectKey member
    obtain ⟨gone, reelId, published⟩ := knows.absent objectKey member
    exact ⟨advances.absent objectKey gone ⟨reelId, published⟩, reelId,
      advances.published reelId objectKey published⟩

section

variable {stores : Stores} (sound : StoresSound stores)

include sound

theorem advances_refl : Advances stores stores where
  sound := sound
  jobs := .refl _
  published := fun _ _ published => published
  names := fun _ names => names
  absent := fun _ gone _ => gone

theorem advances_of_database {database : Database} {released : Option UUID}
    (progress : Progress stores.database database)
    (kept : SourcesKept released stores.database.reels database.reels)
    (gone : ∀ reel ∈ stores.database.reels, released = some reel.id →
      ∀ objectKey, reel.sourceObjectKey = some objectKey →
        Absent stores.objects objectKey) :
    Advances stores { stores with database } where
  sound := by
    refine ⟨progress.fit, kept.sourced, ?_⟩
    intro later member isReady cleaned objectKey named
    obtain ⟨reel, reelMember, _, reelReady, same, marked⟩ :=
      kept.cleaned later member isReady cleaned
    rw [same] at named
    rcases marked with unmarked | freed
    · exact sound.clean reel reelMember reelReady unmarked objectKey named
    · exact gone reel reelMember freed objectKey named
  jobs := progress.jobs
  published := fun _ _ published => kept.isPublished published
  names := fun _ names => kept.namesSource names
  absent := fun _ gone _ => gone

theorem advances_of_commit {outcome : Except DatabaseError Database}
    (committed : ∀ database, outcome = .ok database →
      Progress stores.database database ∧
        SourcesKept none stores.database.reels database.reels) :
    Advances stores (stores.commit outcome).1 := by
  rcases stores.commit_cases outcome with ⟨_, _, shape⟩ |
    ⟨database, succeeded, shape⟩
  · rw [shape]
    exact advances_refl sound
  · rw [shape]
    obtain ⟨progress, kept⟩ := committed database succeeded
    exact advances_of_database sound progress kept
      fun _ _ freed => nomatch freed

theorem advances_of_transaction {α : Type}
    {outcome : Except DatabaseError (Database × α)}
    (committed : ∀ database value, outcome = .ok (database, value) →
      Progress stores.database database ∧
        SourcesKept none stores.database.reels database.reels) :
    Advances stores (stores.transaction outcome).1 := by
  rcases stores.transaction_cases outcome with ⟨_, _, shape⟩ |
    ⟨database, value, succeeded, shape⟩
  · rw [shape]
    exact advances_refl sound
  · rw [shape]
    obtain ⟨progress, kept⟩ := committed database value succeeded
    exact advances_of_database sound progress kept
      fun _ _ freed => nomatch freed

theorem advances_of_objects {objects : Bucket}
    (absent : ∀ objectKey, Absent stores.objects objectKey →
      (∃ reelId, IsPublished stores.database.reels reelId objectKey) →
      Absent objects objectKey) :
    Advances stores { stores with objects } where
  sound := by
    refine ⟨sound.fit, sound.sourced, ?_⟩
    intro reel member isReady cleaned objectKey named
    exact absent objectKey
      (sound.clean reel member isReady cleaned objectKey named)
      ⟨reel.id, reel, member, rfl, isReady, named⟩
  jobs := .refl _
  published := fun _ _ published => published
  names := fun _ names => names
  absent := absent

theorem advances_of_write {object : StorageObject}
    (other : ∀ objectKey, object.key = .source objectKey →
      ∀ reelId, ¬ IsPublished stores.database.reels reelId objectKey) :
    Advances stores (stores.writeObject object) := by
  refine advances_of_objects sound ?_
  intro objectKey gone ⟨reelId, published⟩ present member same
  rcases Table.mem_upsert.mp member with rfl | ⟨earlier, _⟩
  · exact other objectKey same reelId published
  · exact gone present earlier same

theorem advances_of_remove (key : StorageKey) :
    Advances stores (stores.removeObject key) := by
  refine advances_of_objects sound ?_
  intro objectKey gone _ object member
  exact gone object (Table.mem_filter.mp member).1

theorem advances_of_withObject {α : Type} {key : StorageKey}
    {answer : StorageObject → Stores.Effect α}
    (answers : ∀ object, Advances stores (answer object).1) :
    Advances stores (stores.withObject key answer).1 := by
  unfold Stores.withObject
  split
  · exact answers _
  · exact advances_refl sound

end

def publishedSource? : WorkerCall → Option SourceObjectKey
  | .publishSource objectKey _ => some objectKey
  | _ => none

def removedSource? : WorkerCall → Option SourceObjectKey
  | .remove (.source objectKey) => some objectKey
  | _ => none

/-- The Collector does not store the source of a published Reel again. -/
def Unrepublished (_ : ThreadId) (stores : Stores) (_ : ThreadId → Phase)
    (request : WorkerCall) : Prop :=
  ∀ objectKey ∈ publishedSource? request, ∀ reel ∈ stores.database.reels,
    reel.sourceObjectKey = some objectKey → reel.pipelineStatus ≠ .ready

instance (thread : ThreadId) (stores : Stores) (phases : ThreadId → Phase)
    (request : WorkerCall) :
    Decidable (Unrepublished thread stores phases request) :=
  inferInstanceAs (Decidable (∀ objectKey ∈ publishedSource? request,
    ∀ reel ∈ stores.database.reels,
      reel.sourceObjectKey = some objectKey → reel.pipelineStatus ≠ .ready))

/-- A source is removed while the Reel that names it, and no other, is
published. -/
def RemovalGated (_ : ThreadId) (stores : Stores) (_ : ThreadId → Phase)
    (request : WorkerCall) : Prop :=
  ∀ objectKey ∈ removedSource? request,
    (∃ reel ∈ stores.database.reels,
      reel.sourceObjectKey = some objectKey) ∧
    ∀ reel ∈ stores.database.reels, reel.sourceObjectKey = some objectKey →
      reel.pipelineStatus = .ready

section

variable {stores : Stores} {phase : Phase} (knows : Knows stores phase)

include knows

theorem released_absent {reelId : UUID} (removed : phase.isRemoved reelId) :
    ∀ reel ∈ stores.database.reels, some reelId = some reel.id →
      ∀ objectKey, reel.sourceObjectKey = some objectKey →
        Absent stores.objects objectKey := by
  intro reel member same objectKey named
  obtain ⟨gone, goneMember, ready⟩ := removed
  obtain ⟨other, otherMember, owns, _, ofOther⟩ :=
    knows.ready reelId gone ready
  obtain rfl : other = reel := Table.eq_of_key_eq otherMember member
    (owns.trans (Option.some.inj same))
  obtain rfl : gone = objectKey := Option.some.inj (ofOther.symm.trans named)
  exact (knows.absent gone goneMember).1

theorem effect_advances (sound : StoresSound stores) {request : WorkerCall}
    (draw : WorkerDraw)
    (permitted : permits phase request)
    (fresh : ∀ thread phases, Unrepublished thread stores phases request) :
    Advances stores (stores.effect draw request).1 := by
  have fit := sound.fit
  have sourced := sound.sourced
  cases request with
  | claim workerId leaseSeconds =>
      exact advances_of_transaction sound fun _ _ succeeded =>
        ⟨claim_progress fit succeeded, claim_sources sourced succeeded⟩
  | recoverStale =>
      refine advances_of_transaction sound fun database value succeeded => ?_
      obtain ⟨⟨next, prefixes⟩, recovered, shape⟩ := map_eq_ok succeeded
      cases shape
      exact ⟨(recoverStale_progress fit recovered).1,
        recoverStale_sources fit sourced recovered⟩
  | finishFailure workerId claimed reason retryable =>
      have issued := (knows.claim claimed permitted).1
      exact advances_of_commit sound fun _ succeeded =>
        ⟨finishFailure_progress fit issued succeeded,
          finishFailure_sources fit sourced issued succeeded⟩
  | commitReady workerId claimed output =>
      obtain ⟨issued, names⟩ := knows.claim claimed permitted
      simp only [Stores.effect, Stores.commitOutput]
      split
      · rename_i database succeeded
        exact advances_of_database sound
          (commitReady_progress fit issued succeeded)
          (commitReady_sources sourced names succeeded).1
          fun _ _ freed => nomatch freed
      · exact advances_refl sound
  | sourceCleaned reelId =>
      simp only [Stores.effect]
      rcases stores.commit_cases
          (Normalizer.sourceCleaned stores.database reelId) with
        ⟨_, _, shape⟩ | ⟨database, succeeded, shape⟩
      · rw [shape]
        exact advances_refl sound
      · rw [shape]
        exact advances_of_database sound
          (sourceCleaned_progress fit succeeded)
          (sourceCleaned_sources sourced succeeded)
          (released_absent knows permitted)
  | cleanupReconciled reelId =>
      simp only [Stores.effect]
      rcases stores.transaction_cases
          (Normalizer.cleanupReconciled stores.database reelId) with
        ⟨_, _, shape⟩ | ⟨database, cleaned, succeeded, shape⟩
      · rw [shape]
        exact advances_refl sound
      · rw [shape]
        exact advances_of_database sound
          (cleanupReconciled_progress fit succeeded)
          (cleanupReconciled_sources sourced succeeded)
          (released_absent knows permitted)
  | commitSource runId candidate source =>
      exact advances_of_commit sound fun _ succeeded =>
        ⟨commitSource_progress fit succeeded,
          commitSource_sources sourced succeeded⟩
  | recordFailure runId candidate reasonCode downloadAttempted =>
      exact advances_of_commit sound fun _ succeeded =>
        ⟨recordFailure_progress fit succeeded,
          recordFailure_sources sourced succeeded⟩
  | otherTransaction transaction =>
      refine advances_of_commit sound fun database succeeded => ?_
      obtain ⟨reels, jobs⟩ := transaction.keeps _ _ succeeded
      exact ⟨.of_same fit reels jobs, .of_same sourced reels⟩
  | upload key content contentType =>
      refine advances_of_write sound fun objectKey same => ?_
      change isSource key = false at permitted
      rw [show key = .source objectKey from same] at permitted
      cases permitted
  | copy key destination =>
      refine advances_of_withObject sound fun object => ?_
      refine advances_of_write sound fun objectKey same => ?_
      change isSource destination = false at permitted
      rw [show destination = .source objectKey from same] at permitted
      cases permitted
  | publishSource objectKey content =>
      refine advances_of_write sound fun other same => ?_
      cases same
      intro reelId ⟨reel, member, _, isReady, named⟩
      exact fresh 0 (fun _ => idle) objectKey rfl reel member named isReady
  | remove key =>
      simp only [Stores.effect, Stores.remove]
      split
      · exact advances_refl sound
      · exact advances_of_remove sound key
  | deleteSource objectKey => exact advances_of_remove sound _
  | stat key => exact advances_of_withObject sound fun _ => advances_refl sound
  | download key =>
      exact advances_of_withObject sound fun _ => advances_refl sound
  | _ => exact advances_refl sound

end

section

variable {before after : Stores} {phase : Phase}

theorem effect_assumed (request : WorkerCall) (draw : WorkerDraw) :
    assumes phase request (before.effect draw request).2 := by
  cases request with
  | listPrefix stagingPrefix =>
      intro key member
      have staged := (List.mem_filter.mp member).2
      cases key with
      | source objectKey => cases staged
      | _ => rfl
  | _ => trivial

theorem Knows.publish {reelId : UUID} {objectKey : SourceObjectKey}
    (knows : Knows after phase)
    (published : IsPublished after.database.reels reelId objectKey) :
    Knows after { phase with
      ready := (reelId, objectKey) :: phase.ready } where
  claim := knows.claim
  ready := by
    intro other otherKey member
    rcases List.mem_cons.mp member with same | earlier
    · cases same
      exact published
    · exact knows.ready other otherKey earlier
  absent := knows.absent

theorem effect_learned {request : WorkerCall} (draw : WorkerDraw)
    (sound : StoresSound before) (knows : Knows before phase)
    (permitted : permits phase request)
    (later : Knows (before.effect draw request).1 phase) :
    Knows (before.effect draw request).1
      (advance phase request (before.effect draw request).2) := by
  cases request with
  | claim workerId leaseSeconds =>
      simp only [Stores.effect] at later ⊢
      rcases before.transaction_cases (Normalizer.claim before.database
          draw.now draw.locked workerId leaseSeconds) with
        ⟨_, _, shape⟩ | ⟨database, claimed, succeeded, shape⟩
      · rw [shape] at later ⊢
        exact later
      · rw [shape] at later ⊢
        cases claimed with
        | none => exact later
        | some held =>
            refine ⟨?_, later.ready, later.absent⟩
            intro claimed same
            cases same
            exact ⟨JobLifecycle.claim_issued succeeded, claim_source succeeded⟩
  | commitReady workerId claimed output =>
      obtain ⟨_, names⟩ := knows.claim claimed permitted
      simp only [Stores.effect, Stores.commitOutput] at later ⊢
      cases committed : Normalizer.commitReady before.database draw.now
          draw.createdAt draw.videoId workerId claimed output with
      | error fault =>
          rw [committed] at later
          exact later
      | ok database =>
          rw [committed] at later
          exact later.publish
            (commitReady_sources sound.sourced names committed).2
  | cleanupPending =>
      refine ⟨later.claim, ?_, later.absent⟩
      intro reelId objectKey member
      rcases List.mem_append.mp member with fresh | earlier
      · obtain ⟨reel, selected, same, named⟩ := mem_namedSources.mp fresh
        obtain ⟨present, tests⟩ := List.mem_filter.mp selected
        simp only [Bool.and_eq_true, decide_eq_true_eq] at tests
        exact ⟨reel, present, same, tests.1, named⟩
      · exact later.ready reelId objectKey earlier
  | remove key =>
      cases key with
      | source objectKey =>
          obtain ⟨reelId, member⟩ := permitted
          have published := later.ready reelId objectKey member
          have learned : ∀ {stores : Stores}, Knows stores phase →
              IsPublished stores.database.reels reelId objectKey →
              Absent stores.objects objectKey → Knows stores
                { phase with absent := objectKey :: phase.absent } := by
            intro stores known owned gone
            refine ⟨known.claim, known.ready, ?_⟩
            intro other otherMember
            rcases List.mem_cons.mp otherMember with rfl | earlier
            · exact ⟨gone, reelId, owned⟩
            · exact known.absent other earlier
          simp only [Stores.effect, Stores.remove] at later published ⊢
          by_cases missing : (draw.reportsMissing &&
              (before.objects.find? (.source objectKey)).isNone) = true
          · rw [if_pos missing] at later published ⊢
            refine learned later published ?_
            rw [Bool.and_eq_true, Option.isNone_iff_eq_none] at missing
            exact Table.find?_eq_none.mp missing.2
          · rw [if_neg missing] at later published ⊢
            refine learned later published ?_
            intro object present
            simpa using (Table.mem_filter.mp present).2
      | _ => exact later
  | _ => exact later

theorem advance_of_error {request : WorkerCall} {fault : WorkerFault}
    (other : fault ≠ .storageObjectNotFound) :
    advance phase request (.error fault) = phase := by
  cases request with
  | remove key =>
      cases key with
      | source objectKey =>
          cases fault with
          | storageObjectNotFound => exact absurd rfl other
          | _ => rfl
      | _ => rfl
  | _ => rfl

theorem assumes_of_error (request : WorkerCall) (fault : WorkerFault) :
    assumes phase request (.error fault) := by
  cases request <;> trivial

theorem perform_advances {request : WorkerCall} {choice : WorkerChoice}
    {reply : Except WorkerFault (WorkerReply request)}
    (sound : StoresSound before) (knows : Knows before phase)
    (permitted : permits phase request)
    (fresh : ∀ thread phases, Unrepublished thread before phases request)
    (performed : before.perform request choice = some (after, reply)) :
    assumes phase request reply ∧ Advances before after ∧
      Knows after (advance phase request reply) := by
  rcases Stores.perform_cases performed with ⟨rfl, fault, other, rfl⟩ |
    ⟨draw, rfl, rfl | ⟨fault, other, rfl⟩⟩
  · rw [advance_of_error other]
    exact ⟨assumes_of_error request fault, advances_refl sound, knows⟩
  · have advances := effect_advances knows sound draw permitted fresh
    exact ⟨effect_assumed request draw, advances,
      effect_learned draw sound knows permitted (knows.later advances)⟩
  · have advances := effect_advances knows sound draw permitted fresh
    rw [advance_of_error other]
    exact ⟨assumes_of_error request fault, advances, knows.later advances⟩

end

structure Invariant (stores : Stores) (phases : ThreadId → Phase) : Prop where
  sound : StoresSound stores
  knows : ∀ thread, Knows stores (phases thread)

theorem Invariant.update {stores : Stores} {phases : ThreadId → Phase}
    {thread : ThreadId} {phase : Phase} (sound : StoresSound stores)
    (knows : ∀ other, Knows stores (phases other))
    (learned : Knows stores phase) :
    Invariant stores (Function.update phases thread phase) where
  sound := sound
  knows := by
    intro other
    by_cases same : other = thread
    · rw [same, Function.update_self]
      exact learned
    · rw [Function.update_of_ne same]
      exact knows other

theorem invariant_resets (stores : Stores) (phases : ThreadId → Phase)
    (thread : ThreadId) (invariant : Invariant stores phases) :
    Invariant stores (Function.update phases thread idle) :=
  .update invariant.sound invariant.knows (knows_idle stores)

theorem invariant_steps (thread : ThreadId) (stores : Stores)
    (phases : ThreadId → Phase) (request : WorkerCall) (choice : WorkerChoice)
    (after : Stores) (reply : Except WorkerFault (WorkerReply request))
    (invariant : Invariant stores phases)
    (permitted : permits (phases thread) request)
    (fresh : Unrepublished thread stores phases request)
    (performed : stores.perform request choice = some (after, reply)) :
    assumes (phases thread) request reply ∧
      Invariant after (Function.update phases thread
        (advance (phases thread) request reply)) := by
  obtain ⟨assumed, advances, learned⟩ := perform_advances invariant.sound
    (invariant.knows thread) permitted (fun _ _ => fresh) performed
  exact ⟨assumed, .update advances.sound
    (fun other => (invariant.knows other).later advances) learned⟩

/-- Only what a thread has seen published is removed by it. -/
theorem removal_gated (thread : ThreadId) (stores : Stores)
    (phases : ThreadId → Phase) (request : WorkerCall)
    (invariant : Invariant stores phases)
    (permitted : permits (phases thread) request) :
    RemovalGated thread stores phases request := by
  intro objectKey removes
  cases request with
  | remove key =>
      cases key with
      | source other =>
          cases removes
          obtain ⟨reelId, member⟩ := permitted
          obtain ⟨reel, present, _, isReady, named⟩ :=
            (invariant.knows thread).ready reelId objectKey member
          refine ⟨⟨reel, present, named⟩, ?_⟩
          intro second secondMember ofSecond
          rw [invariant.sound.sourced.owner secondMember present ofSecond named]
          exact isReady
      | _ => cases removes
  | _ => cases removes

/-- Every published Reel names a source; when its mark is cleared the source is
gone, so a source that is left is found by the next reconciliation. -/
def SourcesAccounted (stores : Stores) : Prop :=
  ∀ reel ∈ stores.database.reels, reel.pipelineStatus = .ready →
    ∃ objectKey, reel.sourceObjectKey = some objectKey ∧
      (reel.sourceCleanupPending = false →
        Absent stores.objects objectKey) ∧
      (¬ Absent stores.objects objectKey →
        reel ∈ cleanupPending stores.database)

theorem StoresSound.accounted {stores : Stores} (sound : StoresSound stores) :
    SourcesAccounted stores := by
  intro reel member isReady
  obtain ⟨objectKey, named⟩ :=
    Option.isSome_iff_exists.mp (sound.sourced.named reel member isReady)
  have clean := fun unmarked =>
    sound.clean reel member isReady unmarked objectKey named
  refine ⟨objectKey, named, clean, ?_⟩
  intro left
  refine List.mem_filter.mpr ⟨member, ?_⟩
  cases marked : reel.sourceCleanupPending with
  | false => exact absurd (clean marked) left
  | true => simp [isReady]

def initial (objects : Bucket) :
    Config WorkerCall WorkerReply WorkerFault Phase Stores :=
  machine.initial ⟨.empty, objects⟩

theorem initial_sound (objects : Bucket) :
    Machine.Sound machine Invariant (fun _ => True) (initial objects) := by
  refine Machine.sound_initial ⟨⟨.empty, .empty, ?_⟩, fun _ => knows_idle _⟩
  exact fun reel member => absurd member (Table.not_mem_empty reel)

/-- As long as the Collector stores no source of a published Reel again, in
every interleaving each removal is gated and every source accounted for. -/
theorem sources_gated {objects : Bucket}
    {labels : List (Label WorkerJob WorkerChoice)}
    (fresh : Meets machine.next (Machine.condition Unrepublished)
      (initial objects) labels) :
    Meets machine.next (Machine.condition RemovalGated) (initial objects)
        labels ∧
      ∀ config, run machine.next (initial objects) labels = some config →
        SourcesAccounted config.shared := by
  have programs : ∀ job, (machine.program job).Follows machine.protocol
      machine.idle fun _ _ => True := program_follows
  constructor
  · exact Machine.sound_calls Invariant (fun _ => True) programs
      invariant_resets invariant_steps removal_gated (initial_sound objects)
      fresh
  · intro config ran
    have sound : Machine.Sound machine Invariant (fun _ => True) config :=
      Machine.sound_run Invariant (fun _ => True) programs invariant_resets
        invariant_steps (initial_sound objects) fresh ran
    exact sound.holds.sound.accounted

def canonicalDraw : WorkerDraw where
  now := 2
  createdAt := 2
  videoId := 8
  ids := ⟨2, 3, 4⟩
  probe := JobLifecycle.canonicalOutput.probe
  normalized := ⟨[1], .passthrough, JobLifecycle.canonicalOutput.probe,
    JobLifecycle.canonicalOutput.probe⟩

def returning (thread : ThreadId) (calls : Nat) :
    List (Label WorkerJob WorkerChoice) :=
  List.replicate calls (.step thread (.returns canonicalDraw))

/-- A Reel is collected, and the worker stops right after its commit; the
reconciler finds the source that is left. -/
def crashedThenReconciled : List (Label WorkerJob WorkerChoice) :=
  [.spawn 0 (.otherTransaction (JobLifecycle.registerAccount 1))] ++
    returning 0 1 ++
  [.spawn 0 (.otherTransaction (JobLifecycle.startRun 0 7 1 1))] ++
    returning 0 1 ++
  [.spawn 0 (.publishSource ⟨"A"⟩ [0])] ++ returning 0 1 ++
  [.spawn 0 (.commitSource 7 ⟨"A", "https://www.instagram.com/reel/A/"⟩
    ⟨sha256 [0], 1, "video/mp4"⟩)] ++ returning 0 1 ++
  [.spawn 1 (.runOnce ⟨"first", LEASE_SECONDS⟩)] ++ returning 1 30 ++
  [.crash 1, .spawn 2 .reconcile] ++ returning 2 4

theorem sources_gated_reconciled :
    Meets machine.next (Machine.condition RemovalGated) (initial .empty)
        crashedThenReconciled ∧
      ∃ config, run machine.next (initial .empty) crashedThenReconciled =
          some config ∧
        config.shared.database.reels.rows.map
            (fun reel => (reel.pipelineStatus, reel.sourceCleanupPending)) =
          [(.ready, false)] ∧
        SourcesAccounted config.shared := by
  have fresh : Meets machine.next (Machine.condition Unrepublished)
      (initial .empty) crashedThenReconciled := by
    decide +kernel
  have reached : (run machine.next (initial .empty) crashedThenReconciled).map
      (fun config => config.shared.database.reels.rows.map fun reel =>
        (reel.pipelineStatus, reel.sourceCleanupPending)) =
      some [(.ready, false)] := by
    decide +kernel
  obtain ⟨config, ran, rows⟩ := Option.map_eq_some_iff.mp reached
  obtain ⟨gated, accounted⟩ := sources_gated fresh
  exact ⟨gated, config, ran, rows, accounted config ran⟩

end OfflineReels.Normalizer.SourceRemoval
