import OfflineReels.Collector.Operator
import OfflineReels.Collector.Persistence
import OfflineReels.Foundation.Interleaving

namespace OfflineReels.Collector

open OfflineReels.Foundation
open OfflineReels.Instagram

/-! The database, the object store and the temporary files that concurrent
Collector runs share, and the effect of each call on them. -/

structure StoredObject where
  content : Bytes
  contentType : String
  deriving DecidableEq, Repr

structure World where
  database : Database
  objects : SourceObjectKey → Option StoredObject
  files : TemporaryPath → Option Bytes

/-- What the outside decides about one call that takes effect. -/
structure Draw where
  now : Time := 0
  runId : UUID := 0
  ids : NewIdentifiers := ⟨0, 0, 0⟩
  locked : List UUID := []
  content : Bytes := []
  candidate : ReelCandidate := ⟨"", ""⟩
  nextCandidate : Option ReelCandidate := none
  clock : Int := 0
  answer : Bool := true
  deriving DecidableEq, Repr

/-- A call takes effect and returns, is refused without effect, or takes effect
and its answer is lost. -/
inductive Choice
  | returns (draw : Draw)
  | refused (fault : CollectorFault)
  | lost (draw : Draw) (fault : CollectorFault)
  deriving DecidableEq, Repr

def isPersistence : EngineCall → Bool
  | .createRun _ _ _ => true
  | .cancellationRequested _ => true
  | .accountHasDurableReel _ _ => true
  | .reelStatus _ => true
  | .commitAvailable _ _ => true
  | .commitSource _ _ _ _ => true
  | .recordFailure _ _ _ _ => true
  | .summary _ => true
  | .completeRun _ => true
  | .completeIfAccountDurableTotal _ _ => true
  | .failRun _ _ => true
  | .cancelRun _ _ => true
  | _ => false

namespace World

abbrev Effect (α : Type) : Type := World × Except CollectorFault α

def read {α : Type} (world : World) (value : α) : Effect α :=
  (world, .ok value)

def raised {α : Type} (world : World) (fault : CollectorFault) : Effect α :=
  (world, .error fault)

def transaction {ε α : Type} (world : World)
    (outcome : Except ε (Database × α)) : Effect α :=
  match outcome with
  | .ok (database, value) => ({ world with database }, .ok value)
  | .error _ => (world, .error .otherException)

def commit {ε : Type} (world : World) (outcome : Except ε Database) :
    Effect Unit :=
  world.transaction (outcome.map fun database => (database, ()))

def setFile (world : World) (path : TemporaryPath) (content : Option Bytes) :
    World :=
  { world with files := Function.update world.files path content }

def setObject (world : World) (objectKey : SourceObjectKey)
    (object : Option StoredObject) : World :=
  { world with objects := Function.update world.objects objectKey object }

/-- The calls of the engine that are one step.  The storage port is replaced
by its own calls, so its four calls never take effect here. -/
def engineEffect (world : World) (draw : Draw) :
    (request : EngineCall) → Effect (EngineReply request)
  | .createRun accountId trigger targetCount =>
      world.transaction ((Persistence.createRun world.database draw.now
        draw.runId accountId trigger targetCount).map fun database =>
          (database, draw.runId))
  | .cancellationRequested runId =>
      world.read (Persistence.cancellationRequested world.database runId)
  | .accountHasDurableReel accountId shortcode =>
      world.read
        (Persistence.accountHasDurableReel world.database accountId shortcode)
  | .reelStatus shortcode =>
      world.read (Persistence.reelStatus world.database shortcode)
  | .commitAvailable runId candidate =>
      world.commit (Persistence.commitAvailable world.database draw.now
        draw.ids runId candidate)
  | .commitSource runId candidate source objectKey =>
      world.commit (Persistence.commitSource world.database draw.now draw.ids
        runId candidate source objectKey)
  | .recordFailure runId candidate reasonCode downloadAttempted =>
      world.commit (Persistence.recordFailure world.database draw.now draw.ids
        runId candidate reasonCode downloadAttempted)
  | .summary runId =>
      world.transaction ((Persistence.summary world.database runId).map
        fun counts => (world.database, counts))
  | .completeRun runId =>
      world.commit (Persistence.completeRun world.database draw.now runId)
  | .completeIfAccountDurableTotal runId desiredTotal =>
      world.transaction (Persistence.completeIfAccountDurableTotal
        world.database draw.now runId desiredTotal)
  | .failRun runId reasonCode =>
      world.commit
        (Persistence.failRun world.database draw.now runId reasonCode)
  | .cancelRun runId reasonCode =>
      world.transaction
        (Persistence.cancelRun world.database draw.now runId reasonCode)
  | .current => world.read draw.candidate
  | .nextFromAuthenticatedFeed _ _ => world.read draw.nextCandidate
  | .waitForNext _ _ => world.read draw.nextCandidate
  | .download _ path => (world.setFile path (some draw.content), .ok ())
  | .validate path =>
      match world.files path with
      | some (first :: rest) =>
          world.read ⟨sha256 (first :: rest), (first :: rest).length,
            "video/mp4"⟩
      | _ => world.raised (.coded "VALIDATION_FAILED")
  | .clock => world.read draw.clock
  | .temporaryPath _ => world.raised .otherException
  | .publish _ _ => world.raised .otherException
  | .delete _ => world.raised .otherException
  | .cleanupTemporary _ => world.raised .otherException
  | .pauseCurrent => world.read ()
  | .advance => world.read ()
  | .close => world.read ()
  | .sleep _ => world.read ()
  | .record _ _ => world.read ()
  | .recordEvent _ => world.read ()

def effect (world : World) (draw : Draw) :
    (request : WorldCall) → Effect (WorldReply request)
  | .engine request => world.engineEffect draw request
  | .fileSize path =>
      match world.files path with
      | some content => world.read content.length
      | none => world.raised .otherException
  | .fileSha256 path =>
      match world.files path with
      | some content => world.read (sha256 content)
      | none => world.raised .otherException
  | .unlink path => (world.setFile path none, .ok ())
  | .statObject objectKey =>
      match world.objects objectKey with
      | some object => world.read ⟨object.content.length, object.contentType⟩
      | none => world.raised .notFound
  | .getObject objectKey =>
      match world.objects objectKey with
      | some object => world.read object.content
      | none => world.raised .notFound
  | .fputObject objectKey path contentType =>
      match world.files path with
      | some content =>
          (world.setObject objectKey (some ⟨content, contentType⟩), .ok ())
      | none => world.raised .otherException
  | .removeObject objectKey => (world.setObject objectKey none, .ok ())
  | .ensureAccount accountId =>
      world.commit (Persistence.ensureAccount world.database accountId)
  | .accountStatus accountId =>
      world.read (Persistence.accountStatus world.database accountId)
  | .setAccountStatus accountId status reasonCode =>
      world.commit (Persistence.setAccountStatus world.database draw.now
        accountId status reasonCode)
  | .claimQueuedRun accountId =>
      world.transaction (Persistence.claimQueuedRun world.database draw.now
        draw.locked accountId)
  | .activeRunExists accountId =>
      world.read (Persistence.activeRunExists world.database accountId)
  | .openFeed _ => world.read ()
  | .waitReady => world.read draw.answer
  | .confirm => world.read draw.answer
  | .captureRunBaseline => world.read ()
  | .verifyRun _ => world.read draw.answer
  | .createCollectionRun accountId target =>
      world.transaction (Management.createCollectionRun world.database draw.now
        draw.runId accountId target)
  | .cancelCollectionRun accountId runId =>
      world.transaction (Management.cancelCollectionRun world.database draw.now
        accountId runId)

/-- A store that refuses a call does not answer that the object is missing. -/
def perform (world : World) (request : WorldCall) :
    Choice → Option (Effect (WorldReply request))
  | .returns draw => some (world.effect draw request)
  | .refused fault =>
      if fault = .notFound then none else some (world, .error fault)
  | .lost draw fault =>
      if fault = .notFound then none
      else some ((world.effect draw request).1, .error fault)

theorem perform_cases {world after : World} {request : WorldCall}
    {choice : Choice} {reply : Except CollectorFault (WorldReply request)}
    (performed : world.perform request choice = some (after, reply)) :
    (after = world ∧ ∃ fault, fault ≠ .notFound ∧ reply = .error fault) ∨
      ∃ draw, after = (world.effect draw request).1 ∧
        (reply = (world.effect draw request).2 ∨
          ∃ fault, fault ≠ .notFound ∧ reply = .error fault) := by
  cases choice with
  | returns draw =>
      have shape := Option.some.inj performed
      exact Or.inr ⟨draw, (congrArg Prod.fst shape).symm,
        Or.inl (congrArg Prod.snd shape).symm⟩
  | refused fault =>
      simp only [perform] at performed
      split at performed
      · cases performed
      · rename_i different
        cases performed
        exact Or.inl ⟨rfl, fault, different, rfl⟩
  | lost draw fault =>
      simp only [perform] at performed
      split at performed
      · cases performed
      · rename_i different
        cases performed
        exact Or.inr ⟨draw, rfl, Or.inr ⟨fault, different, rfl⟩⟩

theorem transaction_cases {ε α : Type} (world : World)
    (outcome : Except ε (Database × α)) :
    (∃ fault, world.transaction outcome = (world, .error fault)) ∨
      ∃ database value, outcome = .ok (database, value) ∧
        world.transaction outcome = ({ world with database }, .ok value) := by
  cases outcome with
  | error error => exact Or.inl ⟨_, rfl⟩
  | ok result => exact Or.inr ⟨result.1, result.2, rfl, rfl⟩

theorem commit_cases {ε : Type} (world : World) (outcome : Except ε Database) :
    (∃ fault, world.commit outcome = (world, .error fault)) ∨
      ∃ database, outcome = .ok database ∧
        world.commit outcome = ({ world with database }, .ok ()) := by
  cases outcome with
  | error error => exact Or.inl ⟨_, rfl⟩
  | ok database => exact Or.inr ⟨database, rfl, rfl⟩

theorem perform_eq_ok {world reached : World} {request : WorldCall}
    {choice : Choice} {value : WorldReply request}
    (performed : world.perform request choice = some (reached, .ok value)) :
    ∃ draw, reached = (world.effect draw request).1 ∧
      (world.effect draw request).2 = .ok value := by
  rcases World.perform_cases performed with
    ⟨_, fault, _, failed⟩ | ⟨draw, rfl, returned | ⟨fault, _, failed⟩⟩
  · cases failed
  · exact ⟨draw, rfl, returned.symm⟩
  · cases failed

theorem commit_eq_ok {ε : Type} {world : World} {outcome : Except ε Database}
    (returned : (world.commit outcome).2 = .ok ()) :
    outcome = .ok (world.commit outcome).1.database := by
  rcases world.commit_cases outcome with ⟨_, shape⟩ | ⟨_, succeeded, shape⟩
  · rw [shape] at returned
    cases returned
  · rw [shape]
    exact succeeded

def writesRuns : WorldCall → Bool
  | .engine (.createRun _ _ _) => true
  | .engine (.commitAvailable _ _) => true
  | .engine (.commitSource _ _ _ _) => true
  | .engine (.recordFailure _ _ _ _) => true
  | .engine (.completeRun _) => true
  | .engine (.completeIfAccountDurableTotal _ _) => true
  | .engine (.failRun _ _) => true
  | .engine (.cancelRun _ _) => true
  | .claimQueuedRun _ => true
  | .createCollectionRun _ _ => true
  | .cancelCollectionRun _ _ => true
  | _ => false

private theorem summary_keeps (world : World) (runId : UUID) :
    (world.transaction ((Persistence.summary world.database runId).map
      fun counts => (world.database, counts))).1 = world := by
  rcases world.transaction_cases ((Persistence.summary world.database
      runId).map fun counts => (world.database, counts)) with
    ⟨_, shape⟩ | ⟨_, _, outcome, shape⟩
  · rw [shape]
  · obtain ⟨_, _, same⟩ := map_eq_ok outcome
    cases same
    rw [shape]

theorem effect_keeps_runs (world : World) (draw : Draw) (request : WorldCall)
    (other : writesRuns request = false) :
    (world.effect draw request).1.database.runs = world.database.runs ∧
      (world.effect draw request).1.database.items = world.database.items := by
  cases request with
  | engine request =>
      cases request with
      | summary runId =>
          simp only [effect, engineEffect, summary_keeps, and_self]
      | validate path =>
          simp only [effect, engineEffect]
          split <;> exact ⟨rfl, rfl⟩
      | _ => first
          | exact ⟨rfl, rfl⟩
          | cases other
  | ensureAccount accountId =>
      simp only [effect]
      rcases world.commit_cases
          (Persistence.ensureAccount world.database accountId) with
        ⟨_, shape⟩ | ⟨_, outcome, shape⟩
      · rw [shape]
        exact ⟨rfl, rfl⟩
      · rw [shape]
        obtain ⟨_, rfl⟩ := Persistence.ensureAccount_eq_ok outcome
        exact ⟨rfl, rfl⟩
  | setAccountStatus accountId status reasonCode =>
      simp only [effect]
      rcases world.commit_cases (Persistence.setAccountStatus world.database
          draw.now accountId status reasonCode) with
        ⟨_, shape⟩ | ⟨_, outcome, shape⟩
      · rw [shape]
        exact ⟨rfl, rfl⟩
      · rw [shape]
        obtain ⟨_, rfl⟩ := Persistence.setAccountStatus_eq_ok outcome
        exact ⟨rfl, rfl⟩
  | _ => first
      | exact ⟨rfl, rfl⟩
      | (simp only [effect]; split <;> exact ⟨rfl, rfl⟩)
      | cases other

def writesAccounts : WorldCall → Bool
  | .ensureAccount _ => true
  | .setAccountStatus _ _ _ => true
  | _ => false

theorem transaction_keeps {ε α β : Type} {world : World}
    {outcome : Except ε (Database × α)} {column : Database → β}
    (kept : ∀ database value, outcome = .ok (database, value) →
      column database = column world.database) :
    column (world.transaction outcome).1.database = column world.database := by
  rcases world.transaction_cases outcome with
    ⟨_, shape⟩ | ⟨database, value, succeeded, shape⟩
  · rw [shape]
  · rw [shape]
    exact kept database value succeeded

theorem commit_keeps {ε β : Type} {world : World}
    {outcome : Except ε Database} {column : Database → β}
    (kept : ∀ database, outcome = .ok database →
      column database = column world.database) :
    column (world.commit outcome).1.database = column world.database := by
  refine transaction_keeps fun database value succeeded => ?_
  obtain ⟨written, outcome, shape⟩ := map_eq_ok succeeded
  cases shape
  exact kept database outcome

theorem engineEffect_keeps_accounts (world : World) (draw : Draw)
    (request : EngineCall) :
    (world.engineEffect draw request).1.database.accounts =
      world.database.accounts := by
  cases request with
  | createRun accountId trigger targetCount =>
      refine transaction_keeps fun database value succeeded => ?_
      obtain ⟨written, created, shape⟩ := map_eq_ok succeeded
      cases shape
      unfold Persistence.createRun at created
      split at created
      · cases created
      · obtain ⟨_, _, _, _, rfl⟩ := Database.insertRun_eq_ok created
        rfl
  | commitAvailable runId candidate =>
      exact commit_keeps fun _ succeeded =>
        Persistence.commitAvailable_keeps_accounts succeeded
  | commitSource runId candidate source objectKey =>
      exact commit_keeps fun _ succeeded =>
        Persistence.commitSource_keeps_accounts succeeded
  | recordFailure runId candidate reasonCode downloadAttempted =>
      exact commit_keeps fun _ succeeded =>
        Persistence.recordFailure_keeps_accounts succeeded
  | summary runId => simp only [engineEffect, summary_keeps]
  | completeRun runId =>
      refine commit_keeps fun _ succeeded => ?_
      rcases Persistence.completeRun_eq_ok succeeded with
        rfl | ⟨_, _, written⟩
      · rfl
      · exact Persistence.writeRun_keeps_accounts written
  | completeIfAccountDurableTotal runId desiredTotal =>
      refine transaction_keeps fun _ _ succeeded => ?_
      rcases Persistence.completeIfAccountDurableTotal_eq_ok succeeded with
        ⟨rfl, _⟩ | ⟨_, _, _, _, written⟩
      · rfl
      · exact Persistence.writeRun_keeps_accounts written
  | failRun runId reasonCode =>
      refine commit_keeps fun _ succeeded => ?_
      rcases Persistence.failRun_eq_ok succeeded with
        rfl | ⟨_, _, _, written⟩
      · rfl
      · exact Persistence.writeRun_keeps_accounts written
  | cancelRun runId reasonCode =>
      refine transaction_keeps fun _ _ succeeded => ?_
      rcases Persistence.cancelRun_eq_ok succeeded with
        rfl | ⟨_, _, _, written⟩
      · rfl
      · exact Persistence.writeRun_keeps_accounts written
  | validate path =>
      simp only [engineEffect]
      split <;> rfl
  | _ => rfl

theorem effect_keeps_accounts (world : World) (draw : Draw)
    (request : WorldCall) (other : writesAccounts request = false) :
    (world.effect draw request).1.database.accounts =
      world.database.accounts := by
  cases request with
  | engine request => exact engineEffect_keeps_accounts world draw request
  | claimQueuedRun accountId =>
      refine transaction_keeps fun _ _ succeeded => ?_
      rcases Persistence.claimQueuedRun_eq_ok succeeded with
        ⟨rfl, _⟩ | ⟨_, _, _, _, _, written⟩
      · rfl
      · exact Persistence.writeRun_keeps_accounts written
  | createCollectionRun accountId target =>
      refine transaction_keeps fun _ _ succeeded => ?_
      obtain ⟨_, _, _, _, rfl⟩ := Database.insertRun_eq_ok
        (Management.createCollectionRun_eq_ok succeeded)
      rfl
  | cancelCollectionRun accountId runId =>
      refine transaction_keeps fun _ _ succeeded => ?_
      rcases Management.cancelCollectionRun_eq_ok succeeded with
        rfl | ⟨_, _, _, _, written⟩
      · rfl
      · exact Persistence.writeRun_keeps_accounts written
  | _ => first
      | rfl
      | (simp only [effect]; split <;> rfl)
      | cases other

end World

/-! A run is collected by the process that created or claimed it. -/

inductive Job
  | collect (storage : SourceStorage) (engine : CollectorEngine)
      (accountId : UUID) (trigger : CollectionTrigger) (targetCount : Nat)
      (desiredAccountTotal : Option Nat)
  | runStage3B (storage : SourceStorage) (engine : CollectorEngine)
      (accountId : UUID) (existingFeed : Bool)
  | createCollectionRun (accountId : UUID) (target : Nat)
  | cancelCollectionRun (accountId runId : UUID)
  | cancelRun (runId : UUID)

def unitProgram {α : Type} (program : WorldProgram α) : WorldProgram Unit :=
  program.attempt fun
    | .ok _ => pure ()
    | .error fault => Program.raise fault

def Job.program : Job → WorldProgram Unit
  | .collect storage engine accountId trigger targetCount
      desiredAccountTotal =>
      unitProgram (Operator.collectWith storage engine {
        accountId, trigger, targetCount, desiredAccountTotal
        claimedRunId := none })
  | .runStage3B storage engine accountId existingFeed =>
      unitProgram (Operator.runStage3B storage engine accountId existingFeed)
  | .createCollectionRun accountId target =>
      unitProgram (invoke (.createCollectionRun accountId target))
  | .cancelCollectionRun accountId runId =>
      unitProgram (invoke (.cancelCollectionRun accountId runId))
  | .cancelRun runId =>
      unitProgram (invoke (.engine (.cancelRun runId "CANCELLED_BY_USER")))

def connectedAccount : InstagramAccount where
  id := 1
  status := .connected
  lastConnectedAt := some 0
  reauthRequiredAt := none
  reasonCode := none

end OfflineReels.Collector
