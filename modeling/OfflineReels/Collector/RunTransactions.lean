import OfflineReels.Collector.World

namespace OfflineReels.Collector.RunTransactions

open OfflineReels.Foundation
open OfflineReels.Foundation.Program
open OfflineReels.Instagram

/-! The transactions that end a run, statement by statement.  Each reads the
row of the run without a lock, and updates it when it commits; what others
commit in between it does not look at.  The transactions that add an item stay
one step: of a run they read and write the counters alone, and no other process
writes those.  A row is locked from its selection on by the claim and by the
control plane. -/

/-- The columns that are set. -/
inductive RunUpdate
  | failed (reasonCode : String)
  | cancelled (reasonCode : String)
  | completed
  deriving DecidableEq, Repr

def RunUpdate.apply (now : Time) (run : InstagramCollectionRun) :
    RunUpdate → InstagramCollectionRun
  | .failed reasonCode =>
      { run with
        status := .failed
        stopReasonCode := some reasonCode
        completedAt := some now }
  | .cancelled reasonCode =>
      { run with
        status := .cancelled
        stopReasonCode := some reasonCode
        completedAt := some now }
  | .completed =>
      { run with
        status := .completed
        completedAt := some now }

@[simp] theorem RunUpdate.apply_id (now : Time) (run : InstagramCollectionRun)
    (update : RunUpdate) : (update.apply now run).id = run.id := by
  cases update <;> rfl

inductive RunCall
  | world (request : WorldCall)
  | selectRun (runId : UUID)
  | accountDurableCount (accountId : UUID)
  | updateRun (runId : UUID) (update : RunUpdate)

abbrev RunReply : RunCall → Type
  | .world request => WorldReply request
  | .selectRun _ => Option InstagramCollectionRun
  | .accountDurableCount _ => Nat
  | .updateRun _ _ => Unit

abbrev RunProgram : Type → Type :=
  Program RunCall RunReply CollectorFault

def execute (request : RunCall) : RunProgram (RunReply request) :=
  Program.perform request

def failRun (runId : UUID) (reasonCode : String) : RunProgram Unit := do
  let run : Option InstagramCollectionRun ← execute (.selectRun runId)
  match run with
  | none => pure ()
  | some run =>
      if run.status = .running then
        execute (.updateRun runId (.failed reasonCode))
      else pure ()

def cancelRun (runId : UUID) (reasonCode : String) :
    RunProgram CancelRunOutcome := do
  let run : Option InstagramCollectionRun ← execute (.selectRun runId)
  match run with
  | none => pure .notFound
  | some run =>
      if run.status = .queued ∨ run.status = .running then
        execute (.updateRun runId (.cancelled reasonCode))
        return .cancelled
      else pure .alreadyTerminal

/-- The status of the run is not looked at here. -/
def completeRun (runId : UUID) : RunProgram Unit := do
  let run : Option InstagramCollectionRun ← execute (.selectRun runId)
  match run with
  | none => pure ()
  | some _ => execute (.updateRun runId .completed)

def completeIfAccountDurableTotal (runId : UUID) (desiredTotal : Nat) :
    RunProgram Bool := do
  let run : Option InstagramCollectionRun ← execute (.selectRun runId)
  match run with
  | none => pure false
  | some run =>
      if run.status ≠ .running then pure false
      else do
        let count : Nat ← execute (.accountDurableCount run.accountId)
        if count ≠ desiredTotal then pure false
        else do
          execute (.updateRun runId .completed)
          return true

def isSplit : WorldCall → Bool
  | .engine (.failRun _ _) | .engine (.cancelRun _ _)
  | .engine (.completeRun _) | .engine (.completeIfAccountDurableTotal _ _) =>
      true
  | _ => false

def transaction : (request : WorldCall) → RunProgram (WorldReply request)
  | .engine (.failRun runId reasonCode) => failRun runId reasonCode
  | .engine (.cancelRun runId reasonCode) => cancelRun runId reasonCode
  | .engine (.completeRun runId) => completeRun runId
  | .engine (.completeIfAccountDurableTotal runId desiredTotal) =>
      completeIfAccountDurableTotal runId desiredTotal
  | request => execute (.world request)

theorem transaction_unsplit {request : WorldCall}
    (unsplit : isSplit request = false) :
    transaction request = execute (.world request) := by
  cases request with
  | engine request =>
      cases request <;> first
        | rfl
        | cases unsplit
  | _ => rfl

/-- A row that is gone is not updated. -/
def updateRun (database : Database) (now : Time) (runId : UUID)
    (update : RunUpdate) : Except DatabaseError Database :=
  match database.runs.find? runId with
  | none => .error .lookupError
  | some run => database.writeRun (update.apply now run)

theorem updateRun_eq_ok {database after : Database} {now : Time}
    {runId : UUID} {update : RunUpdate}
    (updated : updateRun database now runId update = .ok after) :
    ∃ run, database.runs.find? runId = some run ∧
      database.writeRun (update.apply now run) = .ok after := by
  unfold updateRun at updated
  split at updated
  · cases updated
  · rename_i run found
    exact ⟨run, found, updated⟩

def effect (world : World) (draw : Draw) :
    (request : RunCall) → World.Effect (RunReply request)
  | .world request => world.effect draw request
  | .selectRun runId => world.read (world.database.runs.find? runId)
  | .accountDurableCount accountId =>
      world.read (Persistence.accountDurableCount world.database accountId)
  | .updateRun runId update =>
      world.commit (updateRun world.database draw.now runId update)

/-- A statement that is refused has no effect; the answer of a commit may be
lost. -/
def perform (world : World) :
    (request : RunCall) → Choice → Option (World.Effect (RunReply request))
  | .world request, choice => world.perform request choice
  | request, .returns draw => some (effect world draw request)
  | _, .refused fault => some (world, .error fault)
  | request, .lost draw fault =>
      some ((effect world draw request).1, .error fault)

def respond (draw : Draw) (world : World) (request : RunCall) :
    Except CollectorFault (RunReply request) × World :=
  ((effect world draw request).2, (effect world draw request).1)

section

variable {draw : Draw} {world : World} {runId : UUID}
variable {run : InstagramCollectionRun}

theorem play_selectRun :
    (execute (.selectRun runId)).play (respond draw) world =
      (.ok (world.database.runs.find? runId), world) := rfl

theorem play_updateRun (found : world.database.runs.find? runId = some run)
    (update : RunUpdate) :
    (execute (.updateRun runId update)).play (respond draw) world =
      ((world.commit (world.database.writeRun
          (update.apply draw.now run))).2,
        (world.commit (world.database.writeRun
          (update.apply draw.now run))).1) := by
  change ((world.commit (updateRun _ _ _ _)).2,
    (world.commit (updateRun _ _ _ _)).1) = _
  unfold updateRun
  rw [found]

theorem play_updateRun_bind {α : Type}
    (found : world.database.runs.find? runId = some run)
    (update : RunUpdate) (value : α) :
    ((do
        execute (.updateRun runId update)
        return value : RunProgram α)).play (respond draw) world =
      ((world.transaction ((world.database.writeRun
          (update.apply draw.now run)).map fun database =>
            (database, value))).2,
        (world.transaction ((world.database.writeRun
          (update.apply draw.now run)).map fun database =>
            (database, value))).1) := by
  rw [play_bind, play_updateRun found]
  cases world.database.writeRun (update.apply draw.now run) with
  | error fault => rfl
  | ok database => rfl

end

/-- Undisturbed, the statements do what the transaction does in one step. -/
theorem transaction_play (draw : Draw) (world : World) (request : WorldCall) :
    (transaction request).play (respond draw) world =
      ((world.effect draw request).2, (world.effect draw request).1) := by
  cases request with
  | engine request =>
      cases request with
      | failRun runId reasonCode =>
          simp only [transaction, failRun, World.effect, World.engineEffect,
            Persistence.failRun]
          rw [play_bind, play_selectRun]
          dsimp only
          cases found : world.database.runs.find? runId with
          | none => rfl
          | some run =>
              dsimp only
              split
              · exact play_updateRun found (.failed reasonCode)
              · rfl
      | cancelRun runId reasonCode =>
          simp only [transaction, cancelRun, World.effect, World.engineEffect,
            Persistence.cancelRun]
          rw [play_bind, play_selectRun]
          dsimp only
          cases found : world.database.runs.find? runId with
          | none => rfl
          | some run =>
              dsimp only
              split
              · exact play_updateRun_bind found (.cancelled reasonCode) _
              · rfl
      | completeRun runId =>
          simp only [transaction, completeRun, World.effect,
            World.engineEffect, Persistence.completeRun]
          rw [play_bind, play_selectRun]
          dsimp only
          cases found : world.database.runs.find? runId with
          | none => rfl
          | some run => exact play_updateRun found .completed
      | completeIfAccountDurableTotal runId desiredTotal =>
          simp only [transaction, completeIfAccountDurableTotal, World.effect,
            World.engineEffect, Persistence.completeIfAccountDurableTotal]
          rw [play_bind, play_selectRun]
          dsimp only
          cases found : world.database.runs.find? runId with
          | none => rfl
          | some run =>
              dsimp only
              split
              · rfl
              · rw [play_bind]
                change Program.play _ (if Persistence.accountDurableCount _ _ ≠
                  _ then _ else _) _ = _
                split
                · rfl
                · exact play_updateRun_bind found .completed true
      | _ => rfl
  | _ => rfl

end OfflineReels.Collector.RunTransactions
