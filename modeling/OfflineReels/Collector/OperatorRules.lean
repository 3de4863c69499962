import OfflineReels.Collector.EngineRules
import OfflineReels.Collector.Operator

namespace OfflineReels.Collector

open OfflineReels.Foundation
open OfflineReels.Foundation.Program
open OfflineReels.Instagram

/-! Rules for the source storage and for the operator's supervision of a run,
under a protocol. -/

variable {Phase : Type}
variable {protocol : Protocol WorldCall WorldReply CollectorFault Phase}
variable {steady working ended : Phase → Prop}

def CallSteady (protocol : Protocol WorldCall WorldReply CollectorFault Phase)
    (steady : Phase → Prop) (request : WorldCall) : Prop :=
  Leads protocol steady steady (invoke request)

def isStorageCall : WorldCall → Bool
  | .fileSize _ => true
  | .fileSha256 _ => true
  | .unlink _ => true
  | .statObject _ => true
  | .getObject _ => true
  | .fputObject _ _ _ => true
  | .removeObject _ => true
  | _ => false

namespace SourceStorage

theorem orStorageFailed_leads {α : Type} {before after : Phase → Prop}
    {statement : WorldProgram α} (body : Leads protocol before after statement) :
    Leads protocol before after (orStorageFailed statement) :=
  body.rescue (fun _ => leads_raise fun _ kept => kept) fun _ kept => kept

theorem temporaryPath_leads (storage : SourceStorage) (shortcode : String) :
    Leads protocol steady steady (storage.temporaryPath shortcode) := by
  unfold temporaryPath
  split
  · exact leads_pure fun _ kept => kept
  · exact leads_raise fun _ kept => kept

theorem validatedKey_leads (objectKey : SourceObjectKey) :
    Leads protocol steady steady (validatedKey objectKey) := by
  unfold validatedKey
  split
  · exact leads_pure fun _ kept => kept
  · exact leads_raise fun _ kept => kept

theorem validatedTemporaryPath_leads (storage : SourceStorage)
    (path : TemporaryPath) :
    Leads protocol steady steady (storage.validatedTemporaryPath path) := by
  unfold validatedTemporaryPath
  split
  · exact leads_pure fun _ kept => kept
  · exact leads_raise fun _ kept => kept

section

variable (stored : ∀ request, isStorageCall request = true →
  CallSteady protocol steady request)

include stored

theorem existingMatches_leads (objectKey : SourceObjectKey)
    (path : TemporaryPath) (stat : ObjectStat) :
    Leads protocol steady steady (existingMatches objectKey path stat) := by
  unfold existingMatches
  refine Leads.bind (stored (.fileSize path) rfl) (fun size => ?_)
    fun _ kept => kept
  split
  · exact leads_pure fun _ kept => kept
  split
  · exact leads_pure fun _ kept => kept
  refine Leads.bind (stored (.fileSha256 path) rfl) (fun _ => ?_)
    fun _ kept => kept
  exact (orStorageFailed_leads (stored (.getObject objectKey) rfl)).bind
    (fun _ => leads_pure fun _ kept => kept) fun _ kept => kept

theorem publish_leads (storage : SourceStorage) (path : TemporaryPath)
    (objectKey : SourceObjectKey) :
    Leads protocol steady steady (storage.publish path objectKey) := by
  unfold publish
  refine (validatedKey_leads objectKey).bind (fun _ => ?_) fun _ kept => kept
  refine (validatedTemporaryPath_leads storage path).bind (fun _ => ?_)
    fun _ kept => kept
  refine Leads.bind (stored (.fileSize path) rfl) (fun size => ?_)
    fun _ kept => kept
  split
  · exact leads_raise fun _ kept => kept
  refine Leads.bind ?_ (fun stat => ?_) fun _ kept => kept
  · refine Leads.attempt (stored (.statObject objectKey) rfl) fun outcome => ?_
    split
    · exact leads_pure fun _ kept => kept
    · exact leads_pure fun _ kept => kept
    · split
      · exact leads_raise fun _ kept => kept
      · exact leads_raise fun _ kept => kept
  · cases stat with
    | some stat =>
        refine (existingMatches_leads stored objectKey path stat).bind
          (fun same => ?_) fun _ kept => kept
        cases same with
        | true => exact leads_pure fun _ kept => kept
        | false => exact leads_raise fun _ kept => kept
    | none =>
        exact (orStorageFailed_leads
          (stored (.fputObject objectKey path "video/mp4") rfl)).bind
          (fun _ => leads_pure fun _ kept => kept) fun _ kept => kept

theorem delete_leads (objectKey : SourceObjectKey) :
    Leads protocol steady steady (delete objectKey) :=
  (validatedKey_leads objectKey).bind
    (fun _ => orStorageFailed_leads (stored (.removeObject objectKey) rfl))
    fun _ kept => kept

theorem cleanupTemporary_leads (storage : SourceStorage)
    (path : TemporaryPath) :
    Leads protocol steady steady (storage.cleanupTemporary path) :=
  (validatedTemporaryPath_leads storage path).bind
    (fun _ => stored (.unlink path) rfl) fun _ kept => kept

end

end SourceStorage

def isSupervision : WorldCall → Bool
  | .openFeed _ => true
  | .waitReady => true
  | .confirm => true
  | .captureRunBaseline => true
  | .verifyRun _ => true
  | .setAccountStatus _ _ _ => true
  | .engine .current => true
  | .engine .close => true
  | _ => false

namespace Operator

/-- What a protocol has to say about the calls of `run_stage_3b` after the
claim. -/
structure StageRules
    (protocol : Protocol WorldCall WorldReply CollectorFault Phase)
    (working ended : Phase → Prop) (storage : SourceStorage)
    (engine : CollectorEngine) (accountId : UUID)
    (claim : Option InstagramCollectionRun) : Prop where
  weaken : ∀ phase, working phase → ended phase
  supervises : ∀ request, isSupervision request = true →
    CallSteady protocol working request
  supervisesEnded : ∀ request, isSupervision request = true →
    CallSteady protocol ended request
  collects : Leads protocol working ended (collectWith storage engine {
    accountId := accountId
    trigger := .manual
    targetCount := STAGE_3B_TARGET
    desiredAccountTotal := none
    claimedRunId := claim.map (·.id) })
  fails : ∀ reasonCode, Leads protocol ended ended
    (failClaimedRun claim reasonCode)
  cancels : ∀ run, claim = some run → Leads protocol working ended
    (invoke (.engine (.cancelRun run.id "USER_CANCELLED")))

section

variable {storage : SourceStorage} {engine : CollectorEngine}
variable {accountId : UUID} {claim : Option InstagramCollectionRun}
variable (rules : StageRules protocol working ended storage engine accountId
  claim)

include rules

theorem setSafeAccountState_leads (code : String) :
    Leads protocol ended ended (setSafeAccountState accountId code) := by
  unfold setSafeAccountState
  split
  · exact leads_pure fun _ kept => kept
  · exact Leads.rescue (rules.supervisesEnded (.setAccountStatus _ _ _) rfl)
      (fun _ => leads_pure fun _ kept => kept) fun _ kept => kept

theorem applyStopReason_leads (summary : CollectorSummary) :
    Leads protocol ended ended (applyStopReason accountId summary) := by
  unfold applyStopReason
  split
  · exact setSafeAccountState_leads rules _
  · exact leads_pure fun _ kept => kept

theorem verifyCompleted_leads (summary : CollectorSummary) :
    Leads protocol ended ended (verifyCompleted summary) := by
  unfold verifyCompleted
  split
  · refine Leads.bind (rules.supervisesEnded (.verifyRun _) rfl)
      (fun verified => ?_) fun _ kept => kept
    split
    · exact leads_pure fun _ kept => kept
    · exact leads_pure fun _ kept => kept
  · exact leads_pure fun _ kept => kept

theorem superviseRun_leads :
    Leads protocol working ended
      (superviseRun storage engine accountId claim) := by
  unfold superviseRun
  refine Leads.bind (rules.supervises .waitReady rfl) (fun ready => ?_)
    rules.weaken
  cases ready with
  | false =>
      exact ((rules.fails _).bind (fun _ => leads_pure fun _ kept => kept)
        fun _ kept => kept).weaken rules.weaken fun _ kept => kept
  | true =>
      refine Leads.bind (rules.supervises (.engine .current) rfl) (fun _ => ?_)
        rules.weaken
      refine Leads.bind (rules.supervises (.setAccountStatus _ _ _) rfl)
        (fun _ => ?_) rules.weaken
      refine Leads.bind (rules.supervises .confirm rfl) (fun confirmed => ?_)
        rules.weaken
      cases confirmed with
      | false =>
          split
          · rename_i declined
            cases declined
          · split
            · exact leads_pure rules.weaken
            · rename_i run
              exact (rules.cancels run rfl).bind
                (fun _ => leads_pure fun _ kept => kept) fun _ kept => kept
      | true =>
          refine Leads.bind (rules.supervises .captureRunBaseline rfl)
            (fun _ => ?_) rules.weaken
          refine rules.collects.bind (fun summary => ?_) fun _ kept => kept
          exact (applyStopReason_leads rules summary).bind
            (fun _ => verifyCompleted_leads rules summary) fun _ kept => kept

theorem handleFault_leads (fault : CollectorFault) :
    Leads protocol ended ended (handleFault accountId claim fault) := by
  have failed : ∀ code, Leads protocol ended ended
      (do
        failClaimedRun claim code
        setSafeAccountState accountId code
        return ⟨none, some code⟩ : WorldProgram StageResult) :=
    fun code => (rules.fails code).bind
      (fun _ => (setSafeAccountState_leads rules code).bind
        (fun _ => leads_pure fun _ kept => kept) fun _ kept => kept)
      fun _ kept => kept
  unfold handleFault
  split
  · exact failed _
  · split
    · exact (rules.fails _).bind (fun _ => leads_raise fun _ kept => kept)
        fun _ kept => kept
    · exact leads_raise fun _ kept => kept

theorem runClaimed_leads (existingFeed : Bool) :
    Leads protocol working ended
      (runClaimed storage engine accountId existingFeed claim) := by
  have opened : Leads protocol working working
      (if existingFeed then pure () else invoke (.openFeed accountId) :
        WorldProgram Unit) := by
    split
    · exact leads_pure fun _ kept => kept
    · exact rules.supervises (.openFeed accountId) rfl
  have supervised : Leads protocol working ended
      (withHandlers accountId claim
        (superviseRun storage engine accountId claim)) := by
    refine (superviseRun_leads rules).attempt fun outcome => ?_
    cases outcome with
    | ok result => exact leads_pure fun _ kept => kept
    | error fault => exact handleFault_leads rules fault
  refine opened.attempt fun outcome => ?_
  cases outcome with
  | error fault =>
      exact (handleFault_leads rules fault).weaken rules.weaken
        fun _ kept => kept
  | ok _ =>
      exact supervised.ensure
        (Leads.rescue (rules.supervisesEnded (.engine .close) rfl)
          (fun _ => leads_pure fun _ kept => kept) fun _ kept => kept)

end

end Operator

end OfflineReels.Collector
