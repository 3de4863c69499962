import OfflineReels.Collector.Engine
import OfflineReels.Management.CollectionRuns

namespace OfflineReels.Collector

open OfflineReels.Foundation
open OfflineReels.Instagram

/-! The source storage over an object store, call by call.  The calls of the
engine on its other ports, and the transactions of the other actors, are calls
of the same interface. -/

structure ObjectStat where
  size : Nat
  contentType : String
  deriving DecidableEq, Repr

inductive WorldCall
  | engine (request : EngineCall)
  | fileSize (path : TemporaryPath)
  | fileSha256 (path : TemporaryPath)
  | unlink (path : TemporaryPath)
  | statObject (objectKey : SourceObjectKey)
  | getObject (objectKey : SourceObjectKey)
  | fputObject (objectKey : SourceObjectKey) (path : TemporaryPath)
      (contentType : String)
  | removeObject (objectKey : SourceObjectKey)
  | ensureAccount (accountId : UUID)
  | accountStatus (accountId : UUID)
  | setAccountStatus (accountId : UUID) (status : AccountStatus)
      (reasonCode : Option String)
  | claimQueuedRun (accountId : UUID)
  | activeRunExists (accountId : UUID)
  | openFeed (accountId : UUID)
  | waitReady
  | confirm
  | captureRunBaseline
  | verifyRun (runId : UUID)
  | createCollectionRun (accountId : UUID) (target : Nat)
  | cancelCollectionRun (accountId runId : UUID)

abbrev WorldReply : WorldCall → Type
  | .engine request => EngineReply request
  | .fileSize _ => Nat
  | .fileSha256 _ => Digest
  | .statObject _ => ObjectStat
  | .getObject _ => Bytes
  | .accountStatus _ => AccountStatus
  | .claimQueuedRun _ => Option InstagramCollectionRun
  | .activeRunExists _ => Bool
  | .waitReady => Bool
  | .confirm => Bool
  | .verifyRun _ => Bool
  | .createCollectionRun _ _ => Nat × Management.RunResponse
  | .cancelCollectionRun _ _ => Nat × Management.RunResponse
  | _ => Unit

abbrev WorldProgram : Type → Type :=
  Program WorldCall WorldReply CollectorFault

def invoke (request : WorldCall) : WorldProgram (WorldReply request) :=
  Program.perform request

/-- `MinioCollectorSourceStorage` -/
structure SourceStorage where
  workspaceRoot : Nat
  maximumBytes : Nat
  deriving DecidableEq, Repr

namespace SourceStorage

open Program

def storageFailed : CollectorFault := .coded "STORAGE_FAILED"

def objectConflict : CollectorFault := .coded "STORAGE_OBJECT_CONFLICT"

/-- `except Exception as error: raise CollectorRuntimeError(STORAGE_FAILED)` -/
def orStorageFailed {α : Type} (statement : WorldProgram α) : WorldProgram α :=
  statement.rescue CollectorFault.isException fun _ => raise storageFailed

def temporaryPath (storage : SourceStorage) (shortcode : String) :
    WorldProgram TemporaryPath :=
  match sourceObjectKey shortcode with
  | .ok objectKey => pure ⟨storage.workspaceRoot, objectKey.shortcode⟩
  | .error fault => raise fault

def validatedKey (objectKey : SourceObjectKey) : WorldProgram Unit :=
  match sourceObjectKey objectKey.shortcode with
  | .ok _ => pure ()
  | .error fault => raise fault

def validatedTemporaryPath (storage : SourceStorage) (path : TemporaryPath) :
    WorldProgram Unit :=
  if path.workspaceRoot = storage.workspaceRoot then pure ()
  else raise storageFailed

def existingMatches (objectKey : SourceObjectKey) (path : TemporaryPath)
    (stat : ObjectStat) : WorldProgram Bool := do
  let size ← invoke (.fileSize path)
  if stat.size ≠ size then return false
  else if stat.contentType ≠ "video/mp4" then return false
  else
    let localDigest ← invoke (.fileSha256 path)
    let content ← orStorageFailed (invoke (.getObject objectKey))
    return decide (sha256 content = localDigest)

def publish (storage : SourceStorage) (path : TemporaryPath)
    (objectKey : SourceObjectKey) : WorldProgram PublishedSource := do
  validatedKey objectKey
  validatedTemporaryPath storage path
  let size ← invoke (.fileSize path)
  if size = 0 ∨ storage.maximumBytes < size then raise storageFailed
  else
    let stat ← (invoke (.statObject objectKey)).attempt fun
      | .ok stat => pure (some stat)
      | .error .notFound => pure none
      | .error fault =>
          if fault.isException then raise storageFailed else raise fault
    match stat with
    | some stat =>
        if ← existingMatches objectKey path stat then
          return ⟨objectKey, false⟩
        else raise objectConflict
    | none =>
        orStorageFailed (invoke (.fputObject objectKey path "video/mp4"))
        return ⟨objectKey, true⟩

def delete (objectKey : SourceObjectKey) : WorldProgram Unit := do
  validatedKey objectKey
  orStorageFailed (invoke (.removeObject objectKey))

def cleanupTemporary (storage : SourceStorage) (path : TemporaryPath) :
    WorldProgram Unit := do
  validatedTemporaryPath storage path
  invoke (.unlink path)

/-- The calls of the engine, with the storage port replaced by its code. -/
def adapter (storage : SourceStorage) :
    (request : EngineCall) → WorldProgram (EngineReply request)
  | .temporaryPath shortcode => storage.temporaryPath shortcode
  | .publish path objectKey => storage.publish path objectKey
  | .delete objectKey => delete objectKey
  | .cleanupTemporary path => storage.cleanupTemporary path
  | request => invoke (.engine request)

end SourceStorage

end OfflineReels.Collector
