import OfflineReels.Foundation.Interleaving
import OfflineReels.Normalizer.Worker

namespace OfflineReels.Normalizer

open OfflineReels.Foundation
open OfflineReels.Instagram
open OfflineReels.Media
open OfflineReels.Collector

/-! The database and the bucket that workers, reconcilers and the Collector
share, and the effect of each call on them. -/

structure StorageObject where
  key : StorageKey
  content : Bytes
  contentType : String
  deriving DecidableEq, Repr

abbrev Bucket : Type := Table StorageObject StorageKey StorageObject.key

def StorageKey.isStagedUnder (stagingPrefix : StagingPrefix) :
    StorageKey → Bool
  | .staging other _ => other = stagingPrefix
  | _ => false

structure Stores where
  database : Database
  objects : Bucket

/-- What the outside decides about one call that takes effect. -/
structure WorkerDraw where
  now : Time := 0
  createdAt : Time := 0
  locked : List UUID := []
  videoId : UUID := 0
  newJob : UUID := 0
  newJobs : UUID → UUID := id
  ids : NewIdentifiers := ⟨0, 0, 0⟩
  answer : Bool := false
  /-- Whether the store reports the removal of an object it does not have. -/
  reportsMissing : Bool := false
  probe : MediaProbe := ⟨"", none, [], none, none, none, none, none, []⟩
  normalized : NormalizedMedia :=
    ⟨[], .passthrough, ⟨"", none, [], none, none, none, none, none, []⟩,
      ⟨"", none, [], none, none, none, none, none, []⟩⟩

/-- A call takes effect and returns, is refused without effect, or takes effect
and its answer is lost. -/
inductive WorkerChoice
  | returns (draw : WorkerDraw)
  | refused (fault : WorkerFault)
  | lost (draw : WorkerDraw) (fault : WorkerFault)

namespace Stores

abbrev Effect (α : Type) : Type := Stores × Except WorkerFault α

def read {α : Type} (stores : Stores) (value : α) : Effect α :=
  (stores, .ok value)

def transaction {α : Type} (stores : Stores)
    (outcome : Except DatabaseError (Database × α)) : Effect α :=
  match outcome with
  | .ok (database, value) => ({ stores with database }, .ok value)
  | .error error => (stores, .error (databaseFault error))

def commit (stores : Stores) (outcome : Except DatabaseError Database) :
    Effect Unit :=
  stores.transaction (outcome.map fun database => (database, ()))

def commitOutput (stores : Stores) (outcome : Except CommitFault Database) :
    Effect Unit :=
  match outcome with
  | .ok database => ({ stores with database }, .ok ())
  | .error fault => (stores, .error fault.toWorkerFault)

def writeObject (stores : Stores) (object : StorageObject) : Stores :=
  { stores with objects := stores.objects.upsert object }

def removeObject (stores : Stores) (key : StorageKey) : Stores :=
  { stores with objects := stores.objects.filter (·.key ≠ key) }

def withObject {α : Type} (stores : Stores) (key : StorageKey)
    (answer : StorageObject → Effect α) : Effect α :=
  match stores.objects.find? key with
  | some object => answer object
  | none => (stores, .error .storageObjectNotFound)

/-- Most stores do not say that there was nothing to remove. -/
def remove (stores : Stores) (draw : WorkerDraw) (key : StorageKey) :
    Effect Unit :=
  if draw.reportsMissing && (stores.objects.find? key).isNone then
    (stores, .error .storageObjectNotFound)
  else (stores.removeObject key, .ok ())

def effect (stores : Stores) (draw : WorkerDraw) :
    (request : WorkerCall) → Effect (WorkerReply request)
  | .isCancelled => stores.read draw.answer
  | .emit _ _ _ => stores.read ()
  | .claim workerId leaseSeconds =>
      stores.transaction (Normalizer.claim stores.database draw.now draw.locked
        workerId leaseSeconds)
  | .recoverStale =>
      stores.transaction ((Normalizer.recoverStale stores.database draw.now
        draw.locked draw.newJobs).map fun (database, stalePrefixes) =>
          (database, (recovered stores.database draw.now draw.locked).length,
            stalePrefixes))
  | .finishFailure workerId claimed reason retryable =>
      stores.commit (Normalizer.finishFailure stores.database draw.now workerId
        draw.newJob claimed reason retryable)
  | .commitReady workerId claimed output =>
      stores.commitOutput (Normalizer.commitReady stores.database draw.now
        draw.createdAt draw.videoId workerId claimed output)
  | .sourceCleaned reelId =>
      stores.commit (Normalizer.sourceCleaned stores.database reelId)
  | .cleanupPending => stores.read (Normalizer.cleanupPending stores.database)
  | .cleanupReconciled reelId =>
      stores.transaction (Normalizer.cleanupReconciled stores.database reelId)
  | .videoReferenced objectKey =>
      stores.read (stores.database.videos.rows.any (·.objectKey = objectKey))
  | .stat key =>
      stores.withObject key fun object =>
        stores.read ⟨object.content.length, object.contentType⟩
  | .download key =>
      stores.withObject key fun object => stores.read object.content
  | .upload key content contentType =>
      (stores.writeObject ⟨key, content, contentType⟩, .ok ())
  | .copy key destination =>
      stores.withObject key fun object =>
        (stores.writeObject { object with key := destination }, .ok ())
  | .remove key => stores.remove draw key
  | .listPrefix stagingPrefix =>
      stores.read ((stores.objects.rows.map (·.key)).filter
        (·.isStagedUnder stagingPrefix))
  | .temporaryDirectory => stores.read ()
  | .closeTemporaryDirectory => stores.read ()
  | .hashFile content => stores.read (sha256 content, content.length)
  | .probeMedia _ => stores.read draw.probe
  | .validateDecode _ => stores.read ()
  | .normalizeVideo _ => stores.read draw.normalized
  | .closeNormalized => stores.read ()
  | .publishSource objectKey content =>
      (stores.writeObject ⟨.source objectKey, content, "video/mp4"⟩, .ok ())
  | .deleteSource objectKey => (stores.removeObject (.source objectKey), .ok ())
  | .commitSource runId candidate source =>
      stores.commit (Persistence.commitSource stores.database draw.now draw.ids
        runId candidate source ⟨candidate.shortcode⟩)
  | .recordFailure runId candidate reasonCode downloadAttempted =>
      stores.commit (Persistence.recordFailure stores.database draw.now draw.ids
        runId candidate reasonCode downloadAttempted)
  | .otherTransaction transaction =>
      stores.commit (transaction.perform stores.database)

/-- A store that refuses a call does not answer that the object is missing. -/
def perform (stores : Stores) (request : WorkerCall) :
    WorkerChoice → Option (Effect (WorkerReply request))
  | .returns draw => some (stores.effect draw request)
  | .refused fault =>
      if fault = .storageObjectNotFound then none
      else some (stores, .error fault)
  | .lost draw fault =>
      if fault = .storageObjectNotFound then none
      else some ((stores.effect draw request).1, .error fault)

theorem perform_cases {stores after : Stores} {request : WorkerCall}
    {choice : WorkerChoice} {reply : Except WorkerFault (WorkerReply request)}
    (performed : stores.perform request choice = some (after, reply)) :
    (after = stores ∧
        ∃ fault, fault ≠ .storageObjectNotFound ∧ reply = .error fault) ∨
      ∃ draw, after = (stores.effect draw request).1 ∧
        (reply = (stores.effect draw request).2 ∨
          ∃ fault, fault ≠ .storageObjectNotFound ∧ reply = .error fault) := by
  cases choice with
  | returns draw =>
      have shape := Option.some.inj performed
      exact .inr ⟨draw, (congrArg Prod.fst shape).symm,
        .inl (congrArg Prod.snd shape).symm⟩
  | refused fault =>
      simp only [perform] at performed
      split at performed
      · cases performed
      · rename_i different
        cases performed
        exact .inl ⟨rfl, fault, different, rfl⟩
  | lost draw fault =>
      simp only [perform] at performed
      split at performed
      · cases performed
      · rename_i different
        cases performed
        exact .inr ⟨draw, rfl, .inr ⟨fault, different, rfl⟩⟩

theorem transaction_cases {α : Type} (stores : Stores)
    (outcome : Except DatabaseError (Database × α)) :
    (∃ fault, fault ≠ .storageObjectNotFound ∧
        stores.transaction outcome = (stores, .error fault)) ∨
      ∃ database value, outcome = .ok (database, value) ∧
        stores.transaction outcome = ({ stores with database }, .ok value) := by
  cases outcome with
  | error error =>
      refine .inl ⟨databaseFault error, ?_, rfl⟩
      cases error <;> nofun
  | ok result => exact .inr ⟨result.1, result.2, rfl, rfl⟩

theorem commit_cases (stores : Stores)
    (outcome : Except DatabaseError Database) :
    (∃ fault, fault ≠ .storageObjectNotFound ∧
        stores.commit outcome = (stores, .error fault)) ∨
      ∃ database, outcome = .ok database ∧
        stores.commit outcome = ({ stores with database }, .ok ()) := by
  cases outcome with
  | error error =>
      refine .inl ⟨databaseFault error, ?_, rfl⟩
      cases error <;> nofun
  | ok database => exact .inr ⟨database, rfl, rfl⟩

end Stores

/-! Workers and reconcilers run whole programs; the other parties take single
steps. -/

inductive WorkerJob
  | runOnce (worker : InstagramNormalizerWorker)
  | reconcile
  | publishSource (objectKey : SourceObjectKey) (content : Bytes)
  | deleteSource (objectKey : SourceObjectKey)
  | commitSource (runId : UUID) (candidate : ReelCandidate)
      (source : ValidatedSource)
  | recordFailure (runId : UUID) (candidate : ReelCandidate)
      (reasonCode : String) (downloadAttempted : Bool)
  | otherTransaction (transaction : JobLifecycle.OtherTransaction)

namespace WorkerJob

open WorkerProgram

def unitProgram {α : Type} (program : WorkerProgram α) : WorkerProgram Unit :=
  program.attempt fun
    | .ok _ => pure ()
    | .error fault => Program.raise fault

def program : WorkerJob → WorkerProgram Unit
  | .runOnce worker => unitProgram worker.runOnce
  | .reconcile => unitProgram InstagramNormalizerWorker.reconcile
  | .publishSource objectKey content =>
      invoke (.publishSource objectKey content)
  | .deleteSource objectKey => invoke (.deleteSource objectKey)
  | .commitSource runId candidate source =>
      invoke (.commitSource runId candidate source)
  | .recordFailure runId candidate reasonCode downloadAttempted =>
      invoke (.recordFailure runId candidate reasonCode downloadAttempted)
  | .otherTransaction transaction => invoke (.otherTransaction transaction)

end WorkerJob

def normalizerMachine {Phase : Type}
    (protocol : Protocol WorkerCall WorkerReply WorkerFault Phase)
    (idle : Phase) :
    Machine WorkerCall WorkerReply WorkerFault Phase Stores WorkerJob
      WorkerChoice where
  protocol := protocol
  idle := idle
  program := WorkerJob.program
  perform := fun _ stores request choice => stores.perform request choice

end OfflineReels.Normalizer
