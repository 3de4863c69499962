import OfflineReels.Instagram.Database

namespace OfflineReels.Management

open OfflineReels.Foundation
open OfflineReels.Instagram

/-! The commands of the control plane on collection runs, as the bodies of
their transactions. -/

structure ManagementError where
  statusCode : Nat
  code : String
  message : String
  deriving DecidableEq, Repr

inductive ActionFault
  | management (error : ManagementError)
  | database (error : DatabaseError)
  deriving DecidableEq, Repr

def ofDatabase {α : Type} : Except DatabaseError α → Except ActionFault α
  | .ok value => .ok value
  | .error error => .error (.database error)

theorem ofDatabase_eq_ok {α : Type} {outcome : Except DatabaseError α}
    {value : α} : ofDatabase outcome = .ok value ↔ outcome = .ok value := by
  cases outcome <;> simp [ofDatabase]

structure SerializedRun where
  id : UUID
  status : CollectionRunStatus
  target : Nat
  sourceCommittedCount : Nat
  alreadyAvailableCount : Nat
  failedCount : Nat
  cancelRequested : Bool
  reasonCode : Option String
  deriving DecidableEq, Repr

def serializeRun (item : InstagramCollectionRun) : SerializedRun where
  id := item.id
  status := item.status
  target := item.targetCount
  sourceCommittedCount := item.sourceCommittedCount
  alreadyAvailableCount := item.alreadyAvailableCount
  failedCount := item.failedCount
  cancelRequested := item.cancelRequestedAt.isSome
  reasonCode := item.stopReasonCode

structure RunResponse where
  collectionRun : SerializedRun
  alreadyCompleted : Option Bool
  deriving DecidableEq, Repr

def runNotFound : ManagementError :=
  ⟨404, "run_not_found", "Задача сбора не найдена."⟩

def queuedRun (now : Time) (runId accountId : UUID) (target : Nat) :
    InstagramCollectionRun where
  id := runId
  accountId := accountId
  trigger := .manual
  status := .queued
  targetCount := target
  sourceCommittedCount := 0
  alreadyAvailableCount := 0
  failedCount := 0
  stopReasonCode := none
  startedAt := none
  completedAt := none
  cancelRequestedAt := none
  createdAt := now

def createCollectionRun (database : Database) (now : Time)
    (runId accountId : UUID) (target : Nat) :
    Except ActionFault (Database × Nat × RunResponse) :=
  match database.accounts.find? accountId with
  | none => .error (.management
      ⟨409, "account_not_connected", "Instagram не подключён."⟩)
  | some account =>
      if account.status = .reauthRequired then
        .error (.management
          ⟨409, "reauth_required", "Instagram не подключён."⟩)
      else if account.status ≠ .connected then
        .error (.management
          ⟨409, "account_not_connected", "Instagram не подключён."⟩)
      else if database.runs.rows.any fun run =>
          run.accountId = accountId && run.status.isActive then
        .error (.management
          ⟨409, "active_run_exists", "Уже выполняется сбор."⟩)
      else
        let item := queuedRun now runId accountId target
        (ofDatabase (database.insertRun item)).map fun database =>
          (database, 201, ⟨serializeRun item, none⟩)

/-- A queued run is cancelled at once, a running one is asked to stop. -/
def cancelRequested (item : InstagramCollectionRun) (now : Time) :
    InstagramCollectionRun :=
  if item.status = .queued then
    { item with
      cancelRequestedAt := some now
      status := .cancelled
      stopReasonCode := some "CANCELLED_BY_USER"
      completedAt := some now }
  else { item with cancelRequestedAt := some now }

def cancelCollectionRun (database : Database) (now : Time)
    (accountId runId : UUID) :
    Except ActionFault (Database × Nat × RunResponse) :=
  match database.runs.find? runId with
  | none => .error (.management runNotFound)
  | some item =>
      if item.accountId ≠ accountId then .error (.management runNotFound)
      else if item.status.isActive then
        let item := cancelRequested item now
        (ofDatabase (database.writeRun item)).map fun database =>
          (database, 200, ⟨serializeRun item, some false⟩)
      else .ok (database, 200, ⟨serializeRun item, some true⟩)

theorem createCollectionRun_eq_ok {database after : Database} {now : Time}
    {runId accountId : UUID} {target : Nat} {response : Nat × RunResponse}
    (created : createCollectionRun database now runId accountId target =
      .ok (after, response)) :
    database.insertRun (queuedRun now runId accountId target) = .ok after := by
  unfold createCollectionRun at created
  split at created
  · cases created
  · split at created
    · cases created
    · split at created
      · cases created
      · split at created
        · cases created
        · obtain ⟨next, inserted, shape⟩ := map_eq_ok created
          cases shape
          exact ofDatabase_eq_ok.mp inserted

theorem cancelCollectionRun_eq_ok {database after : Database} {now : Time}
    {accountId runId : UUID} {response : Nat × RunResponse}
    (cancelled : cancelCollectionRun database now accountId runId =
      .ok (after, response)) :
    after = database ∨
      ∃ item, database.runs.find? runId = some item ∧
        item.accountId = accountId ∧ item.status.isActive = true ∧
        database.writeRun (cancelRequested item now) = .ok after := by
  unfold cancelCollectionRun at cancelled
  split at cancelled
  · cases cancelled
  · rename_i item found
    split at cancelled
    · cases cancelled
    · rename_i owned
      split at cancelled
      · rename_i active
        right
        obtain ⟨next, written, shape⟩ := map_eq_ok cancelled
        cases shape
        exact ⟨item, found, not_not.mp owned, active,
          ofDatabase_eq_ok.mp written⟩
      · left
        simp only [Except.ok.injEq, Prod.mk.injEq] at cancelled
        exact cancelled.1.symm

end OfflineReels.Management
