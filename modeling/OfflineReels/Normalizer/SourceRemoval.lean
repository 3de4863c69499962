import OfflineReels.Normalizer.SourceRows
import OfflineReels.Normalizer.Stores

namespace OfflineReels.Normalizer.SourceRemoval

open OfflineReels.Foundation
open OfflineReels.Foundation.Program
open OfflineReels.Instagram
open OfflineReels.Collector

/-! The normalizer removes a source only when its Reel is published, and the
mark of a Reel is cleared only when its source is gone. -/

structure Phase where
  claim : Option ClaimedNormalizationJob
  /-- Reels that were seen published, with their sources. -/
  ready : List (UUID × SourceObjectKey)
  absent : List SourceObjectKey

def idle : Phase := ⟨none, [], []⟩

def Phase.isReady (phase : Phase) (objectKey : SourceObjectKey) : Prop :=
  ∃ reelId, (reelId, objectKey) ∈ phase.ready

def Phase.isRemoved (phase : Phase) (reelId : UUID) : Prop :=
  ∃ objectKey ∈ phase.absent, (reelId, objectKey) ∈ phase.ready

def isSource : StorageKey → Bool
  | .source _ => true
  | _ => false

def permits (phase : Phase) : WorkerCall → Prop
  | .finishFailure _ claimed _ _ => phase.claim = some claimed
  | .commitReady _ claimed _ => phase.claim = some claimed
  | .remove (.source objectKey) => phase.isReady objectKey
  | .sourceCleaned reelId => phase.isRemoved reelId
  | .cleanupReconciled reelId => phase.isRemoved reelId
  | .upload key _ _ => isSource key = false
  | .copy _ destination => isSource destination = false
  | _ => True

def assumes (_ : Phase) :
    (request : WorkerCall) → Except WorkerFault (WorkerReply request) → Prop
  | .listPrefix _, .ok keys => ∀ key ∈ keys, isSource key = false
  | _, _ => True

def namedSources (rows : List InstagramReel) :
    List (UUID × SourceObjectKey) :=
  rows.filterMap fun reel => reel.sourceObjectKey.map (reel.id, ·)

def advance (phase : Phase) :
    (request : WorkerCall) → Except WorkerFault (WorkerReply request) → Phase
  | .claim _ _, .ok (some claimed) => { phase with claim := some claimed }
  | .commitReady _ claimed _, .ok _ =>
      { phase with
        ready := (claimed.reelId, claimed.sourceObjectKey) :: phase.ready }
  | .cleanupPending, .ok rows =>
      { phase with ready := namedSources rows ++ phase.ready }
  | .remove (.source objectKey), .ok _ =>
      { phase with absent := objectKey :: phase.absent }
  | .remove (.source objectKey), .error .storageObjectNotFound =>
      { phase with absent := objectKey :: phase.absent }
  | _, _ => phase

def protocol : Protocol WorkerCall WorkerReply WorkerFault Phase :=
  ⟨permits, assumes, advance⟩

def machine : Machine WorkerCall WorkerReply WorkerFault Phase Stores WorkerJob
    WorkerChoice :=
  normalizerMachine protocol idle

abbrev Keeping {α : Type} (holds : Phase → Prop) (program : WorkerProgram α) :
    Prop :=
  Leads protocol holds holds program

def isQuiet : WorkerCall → Bool
  | .claim _ _ => false
  | .finishFailure _ _ _ _ => false
  | .commitReady _ _ _ => false
  | .sourceCleaned _ => false
  | .cleanupPending => false
  | .cleanupReconciled _ => false
  | .upload key _ _ => !isSource key
  | .copy _ destination => !isSource destination
  | .remove key => !isSource key
  | _ => true

theorem quiet_permits {request : WorkerCall} (quiet : isQuiet request = true)
    (phase : Phase) : permits phase request := by
  cases request with
  | remove key => cases key <;> trivial
  | upload key content contentType =>
      change isSource key = false
      simpa [isQuiet] using quiet
  | copy key destination =>
      change isSource destination = false
      simpa [isQuiet] using quiet
  | _ => trivial

theorem quiet_advance {request : WorkerCall} (quiet : isQuiet request = true)
    (phase : Phase) (reply : Except WorkerFault (WorkerReply request)) :
    advance phase request reply = phase := by
  cases request with
  | remove key => cases key <;> first | rfl | cases quiet
  | _ => first | rfl | cases quiet

section

variable {holds : Phase → Prop}

theorem keeping_quiet {request : WorkerCall}
    (quiet : isQuiet request = true) :
    Keeping holds (WorkerProgram.invoke request) := by
  refine leads_perform (fun phase _ => quiet_permits quiet phase) ?_
  intro phase reply held _
  rw [show protocol.advance phase request reply = phase from
    quiet_advance quiet phase reply]
  exact held

theorem keeping_pure {α : Type} (value : α) :
    Keeping holds (pure value : WorkerProgram α) :=
  leads_pure fun _ held => held

theorem keeping_raise {α : Type} (fault : WorkerFault) :
    Keeping holds (raise fault : WorkerProgram α) :=
  leads_raise fun _ held => held

theorem keeping_bind {α β : Type} {program : WorkerProgram α}
    {next : α → WorkerProgram β} (first : Keeping holds program)
    (second : ∀ value, Keeping holds (next value)) :
    Keeping holds (program >>= next) :=
  Leads.bind first second fun _ held => held

theorem keeping_orElse {α : Type} {program : WorkerProgram α}
    {handler : WorkerFault → WorkerProgram α} (body : Keeping holds program)
    (handles : ∀ fault, Keeping holds (handler fault)) :
    Keeping holds (program.orElse handler) :=
  Leads.rescue body handles fun _ held => held

open InstagramNormalizerWorker

theorem raiseIfCancelled_keeps : Keeping holds raiseIfCancelled := by
  refine keeping_bind (keeping_quiet rfl) fun cancelled => ?_
  split
  · exact keeping_raise _
  · exact keeping_pure _

theorem emit_keeps (claimed : ClaimedNormalizationJob) (event : String)
    (reason : Option ReasonCode) : Keeping holds (emit claimed event reason) :=
  keeping_quiet rfl

theorem removeAll_keeps {keys : List StorageKey}
    (others : ∀ key ∈ keys, isSource key = false) :
    Keeping holds (removeAll keys) := by
  induction keys with
  | nil => exact keeping_pure _
  | cons key rest ih =>
      obtain ⟨other, remaining⟩ := List.forall_mem_cons.mp others
      refine keeping_bind (keeping_quiet ?_) fun _ => ih remaining
      simp [isQuiet, other]

theorem cleanupStaging_keeps (stagingPrefix : StagingPrefix) :
    Keeping holds (cleanupStaging stagingPrefix) := by
  refine keeping_orElse ?_ fun _ => keeping_pure _
  intro phase held
  rw [follows_bind]
  refine ⟨trivial, fun reply assumed => ?_⟩
  cases reply with
  | ok keys => exact removeAll_keeps assumed phase held
  | error fault => exact held

theorem compensate_keeps (finalKey : VideoObjectKey) (createdFinal : Bool) :
    Keeping holds
      (compensateFinalIfUnreferenced finalKey createdFinal) := by
  unfold compensateFinalIfUnreferenced
  split
  · exact keeping_pure _
  · refine keeping_orElse ?_ fun _ => keeping_pure _
    refine keeping_bind (keeping_quiet rfl) fun referenced => ?_
    split
    · exact keeping_pure _
    · exact keeping_quiet rfl

theorem downloadAndVerifySource_keeps (claimed : ClaimedNormalizationJob) :
    Keeping holds (downloadAndVerifySource claimed) := by
  refine keeping_bind (keeping_quiet rfl) fun metadata => ?_
  split
  · exact keeping_raise _
  · refine keeping_bind (keeping_quiet rfl) fun content => ?_
    refine keeping_bind (keeping_quiet rfl) fun ⟨sha256, size⟩ => ?_
    dsimp only
    split
    · exact keeping_raise _
    · split
      · exact keeping_raise _
      · exact keeping_bind (keeping_quiet rfl) fun _ => keeping_pure _

theorem withTemporaryDirectory_keeps {α : Type} {body : WorkerProgram α}
    (inside : Keeping holds body) :
    Keeping holds (withTemporaryDirectory body) :=
  keeping_bind (keeping_quiet rfl) fun _ => inside.ensure (keeping_quiet rfl)

theorem verifyFinal_keeps (finalKey : VideoObjectKey)
    (expectedSha256 : Digest) (expectedSize : Nat) :
    Keeping holds (verifyFinal finalKey expectedSha256 expectedSize) := by
  refine withTemporaryDirectory_keeps ?_
  refine keeping_bind (keeping_quiet rfl) fun content => ?_
  refine keeping_bind (keeping_quiet rfl) fun ⟨sha256, size⟩ => ?_
  dsimp only
  split
  · exact keeping_raise _
  · refine keeping_bind (keeping_quiet rfl) fun probe => ?_
    refine keeping_bind (keeping_quiet rfl) fun _ => ?_
    split
    · exact keeping_pure _
    · exact keeping_raise _

theorem publishFinal_keeps (stagingKey : StorageKey)
    (finalKey : VideoObjectKey) (output : Bytes) :
    Keeping holds (publishFinal stagingKey finalKey output) := by
  refine keeping_bind (keeping_quiet rfl) fun hashed => ?_
  refine Leads.attempt (keeping_quiet rfl) fun existing => ?_
  split
  · refine keeping_bind (keeping_quiet rfl) fun _ => ?_
    refine keeping_bind ?_ fun _ => keeping_pure _
    refine keeping_orElse (verifyFinal_keeps finalKey _ _) fun fault => ?_
    exact keeping_bind (compensate_keeps finalKey true)
      fun _ => keeping_raise _
  · exact keeping_raise _
  · split
    · exact keeping_raise _
    · exact keeping_bind (verifyFinal_keeps finalKey _ _)
        fun _ => keeping_pure _

end

def Holding (claimed : ClaimedNormalizationJob) (phase : Phase) : Prop :=
  phase.claim = some claimed

def Published (claimed : ClaimedNormalizationJob) (phase : Phase) : Prop :=
  Holding claimed phase ∧
    (claimed.reelId, claimed.sourceObjectKey) ∈ phase.ready

/-- After the removal the source is known to be absent. -/
theorem afterSourceRemoval_leads {α : Type} {objectKey : SourceObjectKey}
    {removed left : WorkerProgram α} {before after : Phase → Prop}
    (ready : ∀ phase, before phase → phase.isReady objectKey)
    (goes : ∀ phase, before phase →
      Follows protocol { phase with absent := objectKey :: phase.absent }
        removed fun _ reached => after reached)
    (stays : Leads protocol before after left)
    (weaken : ∀ phase, before phase → after phase) :
    Leads protocol before after
      (InstagramNormalizerWorker.afterSourceRemoval objectKey removed left) := by
  intro phase held
  unfold InstagramNormalizerWorker.afterSourceRemoval
  rw [follows_attempt]
  refine ⟨ready phase held, fun reply _ => ?_⟩
  cases reply with
  | ok _ => exact goes phase held
  | error fault =>
      cases fault with
      | storageObjectNotFound => exact goes phase held
      | baseException => exact weaken phase held
      | _ => exact stays phase held

section

variable {claimed : ClaimedNormalizationJob}
variable (worker : InstagramNormalizerWorker)

theorem cleanupSourceAfterCommit_leads :
    Leads protocol (Published claimed) (Holding claimed)
      (InstagramNormalizerWorker.cleanupSourceAfterCommit claimed) := by
  refine afterSourceRemoval_leads ?_ ?_ ?_ ?_
  · exact fun phase published => ⟨_, published.2⟩
  · intro phase published
    refine ⟨⟨_, List.mem_cons_self, published.2⟩, fun reply _ => ?_⟩
    exact published.1
  · exact leads_pure fun _ published => published.1
  · exact fun _ published => published.1

theorem commitOutput_yields (output : NormalizedOutput) (createdFinal : Bool)
    {phase : Phase} (held : Holding claimed phase) :
    Yields protocol (Holding claimed) phase
      (worker.commitOutput claimed output createdFinal)
      fun _ reached => Published claimed reached := by
  unfold InstagramNormalizerWorker.commitOutput
  refine Yields.rescue ?_ ?_
  · refine yields_perform held ?_ ?_
    · exact fun _ _ => ⟨held, List.mem_cons_self⟩
    · exact fun _ _ => held
  · intro fault reached holding
    refine Yields.bind ?_ fun _ later kept => yields_raise kept
    exact (compensate_keeps output.finalKey createdFinal).yields holding

theorem publishNormalized_keeps (normalized : Media.NormalizedMedia) :
    Keeping (Holding claimed)
      (worker.publishNormalized claimed normalized) := by
  refine keeping_bind (emit_keeps claimed _ _) fun _ => ?_
  refine keeping_bind raiseIfCancelled_keeps fun _ => ?_
  split
  · exact keeping_raise _
  · refine keeping_bind (keeping_quiet rfl) fun hashed => ?_
    refine keeping_bind (keeping_quiet rfl) fun _ => ?_
    refine keeping_bind (emit_keeps claimed _ _) fun _ => ?_
    refine keeping_bind (publishFinal_keeps _ _ _) fun createdFinal => ?_
    refine keeping_bind (emit_keeps claimed _ _) fun _ => ?_
    refine keeping_bind raiseIfCancelled_keeps fun _ => ?_
    refine leads_of_yields fun phase held => ?_
    refine Yields.bind (commitOutput_yields worker _ createdFinal held) ?_
    intro _ reached published
    refine Leads.yields ?_ published
    have emitted : Leads protocol (Published claimed) (Published claimed)
        (InstagramNormalizerWorker.emit claimed "db_committed" none) :=
      emit_keeps claimed _ _
    refine emitted.bind (fun _ => ?_) fun _ kept => kept.1
    exact cleanupSourceAfterCommit_leads.bind
      (fun _ => emit_keeps claimed _ _) fun _ kept => kept

theorem process_keeps :
    Keeping (Holding claimed) (worker.process claimed) := by
  refine keeping_bind raiseIfCancelled_keeps fun _ => ?_
  refine withTemporaryDirectory_keeps ?_
  refine keeping_bind (downloadAndVerifySource_keeps claimed) fun source => ?_
  refine keeping_bind (emit_keeps claimed _ _) fun _ => ?_
  refine keeping_bind raiseIfCancelled_keeps fun _ => ?_
  refine keeping_bind (keeping_quiet rfl) fun normalized => ?_
  exact (publishNormalized_keeps worker normalized).ensure (keeping_quiet rfl)

theorem finishFailure_keeps (reason : ReasonCode) (retryable : Bool) :
    Keeping (Holding claimed)
      (worker.finishFailure claimed reason retryable) := by
  refine Leads.rescue ?_ (fun _ => keeping_pure ()) fun _ held => held
  exact leads_perform (fun _ held => held) fun _ _ held _ => held

theorem handleFault_keeps (fault : WorkerFault) :
    Keeping (Holding claimed) (worker.handleFault claimed fault) := by
  unfold InstagramNormalizerWorker.handleFault
  split
  · exact keeping_bind (finishFailure_keeps worker _ _)
      fun _ => emit_keeps claimed _ _
  · split
    · exact keeping_bind (finishFailure_keeps worker _ _)
        fun _ => emit_keeps claimed _ _
    · exact keeping_raise _

theorem attemptClaimed_keeps :
    Keeping (Holding claimed) (worker.attemptClaimed claimed) := by
  refine Leads.ensure ?_ (cleanupStaging_keeps claimed.stagingPrefix)
  refine (process_keeps worker).attempt fun outcome => ?_
  cases outcome with
  | ok _ => exact keeping_pure _
  | error fault => exact handleFault_keeps worker fault

end

theorem claim_yields (worker : InstagramNormalizerWorker) (phase : Phase) :
    Yields protocol (fun _ => True) phase worker.claim
      fun claimed reached => ∀ held, claimed = some held →
        Holding held reached := by
  have first : Yields protocol (fun _ => True) phase
      InstagramNormalizerWorker.raiseIfCancelled fun _ _ => True := by
    have keeps : Keeping (fun _ => True)
        InstagramNormalizerWorker.raiseIfCancelled := raiseIfCancelled_keeps
    exact keeps.yields trivial
  refine first.bind fun _ reached _ => ?_
  refine yields_perform trivial ?_ fun _ _ => trivial
  intro claimed _ held same
  subst same
  rfl

theorem runOnce_follows (worker : InstagramNormalizerWorker) (phase : Phase) :
    Follows protocol phase worker.runOnce fun _ _ => True := by
  unfold InstagramNormalizerWorker.runOnce
  rw [follows_bind]
  refine ⟨trivial, fun reply _ => ?_⟩
  cases reply with
  | error fault => trivial
  | ok cancelled =>
      simp only [follows_done]
      split
      · trivial
      · refine Follows.bind (claim_yields worker _) ?_ fun _ _ _ => trivial
        intro claimed reached knows
        cases claimed with
        | none => trivial
        | some held =>
            have emitted : Keeping (Holding held)
                (InstagramNormalizerWorker.emit held "claimed" none) :=
              emit_keeps held _ _
            have rest : Keeping (Holding held) (do
                InstagramNormalizerWorker.emit held "claimed" none
                worker.attemptClaimed held
                return true) :=
              keeping_bind emitted fun _ =>
                keeping_bind (attemptClaimed_keeps worker)
                  fun _ => keeping_pure _
            exact (rest reached (knows held rfl)).mono fun _ _ _ => trivial

def Seen (rows : List InstagramReel) (phase : Phase) : Prop :=
  ∀ reel ∈ rows, ∀ objectKey, reel.sourceObjectKey = some objectKey →
    (reel.id, objectKey) ∈ phase.ready

theorem mem_namedSources {rows : List InstagramReel} {reelId : UUID}
    {objectKey : SourceObjectKey} :
    (reelId, objectKey) ∈ namedSources rows ↔
      ∃ reel ∈ rows, reel.id = reelId ∧
        reel.sourceObjectKey = some objectKey := by
  simp only [namedSources, List.mem_filterMap, Option.map_eq_some_iff,
    Prod.mk.injEq]
  constructor
  · intro ⟨reel, member, _, named, same, rfl⟩
    exact ⟨reel, member, same, named⟩
  · intro ⟨reel, member, same, named⟩
    exact ⟨reel, member, objectKey, named, same, rfl⟩

theorem cleanupRows_leads (rows : List InstagramReel) (cleaned : Nat) :
    Leads protocol (Seen rows) (fun _ => True)
      (InstagramNormalizerWorker.cleanupRows rows cleaned) := by
  induction rows generalizing cleaned with
  | nil => exact leads_pure fun _ _ => trivial
  | cons reel rest ih =>
      have later : ∀ phase, Seen (reel :: rest) phase → Seen rest phase :=
        fun phase seen other member => seen other (.tail reel member)
      have resumes : ∀ count, Leads protocol (Seen (reel :: rest))
          (fun _ => True)
          (InstagramNormalizerWorker.cleanupRows rest count) :=
        fun count => (ih count).weaken later fun _ _ => trivial
      unfold InstagramNormalizerWorker.cleanupRows
      split
      · exact resumes cleaned
      · rename_i objectKey named
        refine afterSourceRemoval_leads ?_ ?_ (resumes cleaned)
          fun _ _ => trivial
        · exact fun phase seen =>
            ⟨reel.id, seen reel List.mem_cons_self objectKey named⟩
        · intro phase seen
          have ready := seen reel List.mem_cons_self objectKey named
          rw [follows_bind]
          refine ⟨⟨objectKey, List.mem_cons_self, ready⟩, fun reply _ => ?_⟩
          cases reply with
          | error fault => trivial
          | ok flagged =>
              simp only [follows_done]
              split
              · exact ih (cleaned + 1) _ (later phase seen)
              · exact ih cleaned _ (later phase seen)

theorem cleanupPrefixes_keeps {holds : Phase → Prop}
    (prefixes : List StagingPrefix) :
    Keeping holds (InstagramNormalizerWorker.cleanupPrefixes prefixes) := by
  induction prefixes with
  | nil => exact keeping_pure _
  | cons stagingPrefix rest ih =>
      exact keeping_bind (cleanupStaging_keeps stagingPrefix) fun _ => ih

theorem reconcileSourceCleanup_leads :
    Leads protocol (fun _ => True) (fun _ => True)
      InstagramNormalizerWorker.reconcileSourceCleanup := by
  intro phase _
  unfold InstagramNormalizerWorker.reconcileSourceCleanup
  rw [follows_bind]
  refine ⟨trivial, fun reply _ => ?_⟩
  cases reply with
  | error fault => trivial
  | ok rows =>
      refine cleanupRows_leads rows 0 _ ?_
      intro reel member objectKey named
      exact List.mem_append_left _
        (mem_namedSources.mpr ⟨reel, member, rfl, named⟩)

theorem reconcile_leads :
    Leads protocol (fun _ => True) (fun _ => True)
      InstagramNormalizerWorker.reconcile :=
  keeping_bind (keeping_quiet rfl) fun _ =>
    keeping_bind (cleanupPrefixes_keeps _) fun _ =>
      keeping_bind reconcileSourceCleanup_leads fun _ => keeping_pure _

theorem unitProgram_leads {α : Type} {program : WorkerProgram α}
    (leads : Leads protocol (fun _ => True) (fun _ => True) program) :
    Leads protocol (fun _ => True) (fun _ => True)
      (WorkerJob.unitProgram program) := by
  refine leads.attempt fun outcome => ?_
  cases outcome with
  | ok _ => exact keeping_pure _
  | error fault => exact keeping_raise _

theorem program_follows (job : WorkerJob) :
    Follows protocol idle job.program fun _ _ => True := by
  cases job with
  | runOnce worker =>
      exact unitProgram_leads (fun phase _ => runOnce_follows worker phase)
        idle trivial
  | reconcile => exact unitProgram_leads reconcile_leads idle trivial
  | _ => exact ⟨trivial, fun _ _ => trivial⟩

end OfflineReels.Normalizer.SourceRemoval
