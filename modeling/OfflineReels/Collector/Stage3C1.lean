import OfflineReels.Collector.World
import OfflineReels.Management.LoginLifecycle

namespace OfflineReels.Collector

open OfflineReels.Foundation
open OfflineReels.Foundation.Program
open OfflineReels.Instagram

/-! The continuation of Stage 3C.1, beside the calls of Stage 3B and of the
login service. -/

def STAGE_3C1_INITIAL_MINIMUM : Nat := 3

structure DurableReelSnapshot where
  reelId : UUID
  objectKey : SourceObjectKey
  sha256 : Digest
  byteSize : Nat
  deriving DecidableEq

structure ObjectSnapshot where
  byteSize : Nat
  sha256 : Digest
  contentType : String
  deriving DecidableEq

inductive StageCall
  | world (request : WorldCall)
  | accountDurableCount (accountId : UUID)
  | accountDurableBaseline (accountId : UUID)
  | snapshotObject (objectKey : SourceObjectKey)
  | verifyStage3C1
  | loginSession (operation : Management.LoginLifecycle.Operation)

@[reducible] def StageReply : StageCall → Type
  | .world request => WorldReply request
  | .accountDurableCount _ => Nat
  | .accountDurableBaseline _ => List DurableReelSnapshot
  | .snapshotObject _ => ObjectSnapshot
  | .verifyStage3C1 => Bool
  | .loginSession _ => Unit

abbrev StageProgram (α : Type) : Type :=
  Program StageCall StageReply CollectorFault α

def stage (request : StageCall) : StageProgram (StageReply request) :=
  perform request

/-- A program of the Collector among the stage calls. -/
def staged {α : Type} (program : WorldProgram α) : StageProgram α :=
  program.handle fun request => stage (.world request)

structure Stage3C1Plan where
  accountId : UUID
  initialDurableCount : Nat
  desiredTotal : Nat
  remaining : Nat
  baseline : List DurableReelSnapshot
  deriving DecidableEq

structure Stage3C1Result where
  summary : Option CollectorSummary
  plan : Stage3C1Plan
  reason : Option String
  deriving DecidableEq

namespace Stage3C1

def disabled : CollectorFault := .coded "COLLECTOR_DISABLED"

/-- Every durable source is in the store as it was recorded. -/
def checkBaseline : List DurableReelSnapshot → StageProgram Unit
  | [] => pure ()
  | item :: rest => do
      let remote : ObjectSnapshot ← (stage (.snapshotObject item.objectKey)).rescue
        CollectorFault.isException fun _ => raise disabled
      if remote.byteSize ≠ item.byteSize ∨ remote.sha256 ≠ item.sha256 ∨
          remote.contentType ≠ "video/mp4" then
        raise disabled
      else checkBaseline rest

def prepareStage3C1 (accountId : UUID) (desiredTotal : Nat) :
    StageProgram Stage3C1Plan :=
  if desiredTotal ≠ STAGE_3C1_DESIRED_TOTAL then raise disabled
  else do
    let initial ← stage (.accountDurableCount accountId)
    let baseline ← stage (.accountDurableBaseline accountId)
    if initial ≠ baseline.length ∨ initial < STAGE_3C1_INITIAL_MINIMUM ∨
        initial > desiredTotal then
      raise disabled
    else
      checkBaseline baseline
      return ⟨accountId, initial, desiredTotal, desiredTotal - initial,
        baseline⟩

def verified (summary : Option CollectorSummary) (plan : Stage3C1Plan)
    (reason : Option String) : StageProgram Stage3C1Result := do
  if ← stage .verifyStage3C1 then return ⟨summary, plan, reason⟩
  else return ⟨summary, plan, some "POST_RUN_VERIFICATION_FAILED"⟩

/-- From the open feed on; what is raised here has no handler. -/
def supervise (storage : SourceStorage) (engine : CollectorEngine)
    (plan : Stage3C1Plan) : StageProgram Stage3C1Result := do
  if ← stage (.world .waitReady) then
    let _ ← stage (.world (.engine .current))
    stage (.world (.setAccountStatus plan.accountId .connected none))
    if ← stage (.world .confirm) then
      let summary ← staged (Operator.collectWith storage engine {
        accountId := plan.accountId
        trigger := .manual
        targetCount := plan.remaining
        desiredAccountTotal := some STAGE_3C1_DESIRED_TOTAL
        claimedRunId := none })
      if summary.status = .completed then
        verified (some summary) plan summary.stopReasonCode
      else return ⟨some summary, plan, summary.stopReasonCode⟩
    else return ⟨none, plan, some "USER_CANCELLED"⟩
  else return ⟨none, plan, some "OPERATOR_TIMEOUT"⟩

/-- The `try` of `run_stage3c1`. -/
def continueRun (storage : SourceStorage) (engine : CollectorEngine)
    (plan : Stage3C1Plan) : StageProgram Stage3C1Result :=
  (stage (.world (.openFeed plan.accountId))).attempt fun
    | .error fault => raise fault
    | .ok _ =>
        ensure (supervise storage engine plan)
          ((stage (.world (.engine .close))).rescue CollectorFault.isException
            fun _ => pure ())

def runStage3C1 (storage : SourceStorage) (engine : CollectorEngine)
    (accountId : UUID) (desiredTotal : Nat) : StageProgram Stage3C1Result := do
  stage (.world (.ensureAccount accountId))
  if ← stage (.world (.activeRunExists accountId)) then
    raise (.coded "ACTIVE_RUN_EXISTS")
  else
    let plan ← prepareStage3C1 accountId desiredTotal
    if plan.remaining = 0 then verified none plan none
    else
      staged (Operator.connectAccount accountId)
      continueRun storage engine plan

end Stage3C1

structure Premises where
  work : Management.Workspace
  objects : SourceObjectKey → Option StoredObject
  files : TemporaryPath → Option Bytes

/-- The snapshots of the durable Reels, each once. -/
def durableBaseline (database : Database) (accountId : UUID) :
    List DurableReelSnapshot :=
  ((Persistence.acquiredReels database accountId).filterMap fun reel =>
    match reel.sourceObjectKey, reel.sourceSha256, reel.sourceByteSize with
    | some objectKey, some sha256, some byteSize =>
        some ⟨reel.id, objectKey, sha256, byteSize⟩
    | _, _, _ => none).dedup

namespace Premises

def world (premises : Premises) : World where
  database := premises.work.database
  objects := premises.objects
  files := premises.files

def withWorld (premises : Premises) (world : World) : Premises where
  work := { premises.work with database := world.database }
  objects := world.objects
  files := world.files

def answered {α : Type} (premises : Premises) (choice : Choice)
    (answer : Draw → Except CollectorFault α) :
    Premises × Except CollectorFault α :=
  match choice with
  | .returns draw => (premises, answer draw)
  | .refused fault | .lost _ fault => (premises, .error fault)

/-- The login service has no operation that sets a status at will. -/
def signIn (premises : Premises) (choice : Choice)
    (operation : Management.LoginLifecycle.Operation) :
    Option (Premises × Except CollectorFault Unit) :=
  match operation with
  | .setAccountStatus .. => none
  | _ =>
      match choice with
      | .refused fault => some (premises, .error fault)
      | .returns _ =>
          (Management.LoginLifecycle.next premises.work operation).map
            fun work => ({ premises with work }, .ok ())
      | .lost _ fault =>
          (Management.LoginLifecycle.next premises.work operation).map
            fun work => ({ premises with work }, .error fault)

def perform (premises : Premises) (choice : Choice) :
    (request : StageCall) →
      Option (Premises × Except CollectorFault (StageReply request))
  | .world request =>
      (premises.world.perform request choice).map fun (world, reply) =>
        (premises.withWorld world, reply)
  | .accountDurableCount accountId =>
      some (premises.answered choice fun _ => .ok
        (Persistence.accountDurableCount premises.work.database accountId))
  | .accountDurableBaseline accountId =>
      some (premises.answered choice fun _ => .ok
        (durableBaseline premises.work.database accountId))
  | .snapshotObject objectKey =>
      some (premises.answered choice fun _ =>
        match premises.objects objectKey with
        | some object => .ok ⟨object.content.length, sha256 object.content,
            object.contentType⟩
        | none => .error .notFound)
  | .verifyStage3C1 =>
      some (premises.answered choice fun draw => .ok draw.answer)
  | .loginSession operation => premises.signIn choice operation

end Premises

end OfflineReels.Collector
