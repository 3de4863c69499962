import OfflineReels.Management.LoginSessions

namespace OfflineReels.Management

open OfflineReels.Foundation
open OfflineReels.Instagram

/-! The idempotent commands of the control plane. -/

/-- What one execution of a command draws: the clock, the identifier and the
launch token of a new row, and the rows of new views. -/
structure CommandDraw where
  now : Time
  id : UUID
  token : String
  views : UUID → NewView

/-- The parameters of the path and the body of a request. -/
inductive Command
  | revokeCurrentSession
  | createLoginSession
  | cancelLoginSession (loginSessionId : UUID)
  | createCollectionRun (payload : TargetRequest)
  | cancelCollectionRun (runId : UUID)
  | syncViewedReels (payload : ViewedReelSyncRequest)
  | updateCollectionSettings (payload : SettingsRequest)
  | updateReserveSettings (payload : ReserveSettingsRequest)
  | reportReserve (payload : ReserveReportRequest)
  deriving DecidableEq

namespace Command

/-- The name that scopes the keys of a command. -/
def operation : Command → String
  | revokeCurrentSession => "revoke_current_session"
  | createLoginSession => "create_login"
  | cancelLoginSession _ => "cancel_login"
  | createCollectionRun _ => "create_collection_run"
  | cancelCollectionRun _ => "cancel_collection_run"
  | syncViewedReels _ => "sync_viewed_reels"
  | updateCollectionSettings _ => "update_collection_settings"
  | updateReserveSettings _ => "update_reserve_settings"
  | reportReserve _ => "report_reserve"

def emptyTarget : TargetRequest := ⟨1, by decide⟩

def body : Command → JsonDocument
  | revokeCurrentSession => SettingsRequest.modelDump ⟨false, 1, by decide⟩
  | createLoginSession => emptyTarget.modelDump
  | cancelLoginSession _ => emptyTarget.modelDump
  | createCollectionRun payload => payload.modelDump
  | cancelCollectionRun _ => emptyTarget.modelDump
  | syncViewedReels payload => payload.modelDump
  | updateCollectionSettings payload => payload.modelDump
  | updateReserveSettings payload => payload.modelDump
  | reportReserve payload => payload.modelDump

/-- The identifier in the path of a request. -/
def pathId : Command → Option UUID
  | cancelLoginSession loginSessionId => some loginSessionId
  | cancelCollectionRun runId => some runId
  | _ => none

/-- The body and the path together determine the command. -/
theorem eq_of_body_of_pathId {first second : Command}
    (operation : first.operation = second.operation)
    (body : first.body = second.body) (pathId : first.pathId = second.pathId) :
    first = second := by
  cases first <;> cases second <;> simp [Command.operation] at operation
  case revokeCurrentSession.revokeCurrentSession => rfl
  case createLoginSession.createLoginSession => rfl
  case cancelLoginSession.cancelLoginSession => simpa [Command.pathId] using pathId
  case cancelCollectionRun.cancelCollectionRun =>
    simpa [Command.pathId] using pathId
  case createCollectionRun.createCollectionRun first second =>
    rw [TargetRequest.modelDump_injective body]
  case syncViewedReels.syncViewedReels first second =>
    rw [ViewedReelSyncRequest.modelDump_injective body]
  case updateCollectionSettings.updateCollectionSettings first second =>
    rw [SettingsRequest.modelDump_injective body]
  case updateReserveSettings.updateReserveSettings first second =>
    rw [ReserveSettingsRequest.modelDump_injective body]
  case reportReserve.reportReserve first second =>
    rw [ReserveReportRequest.modelDump_injective body]

end Command

/-- The body of a command's transaction. -/
abbrev Action (State : Type) : Type :=
  State → Except ActionFault (State × Nat × ResponseBody)

def revokeLocked (sessionId : UUID) (now : Time) : Action ControlPlane :=
  fun plane =>
    match plane.sessions.find? sessionId with
    | some item =>
        if item.revokedAt.isNone then
          .ok ({ plane with
            sessions := plane.sessions.put { item with revokedAt := some now } },
            200, .revoked)
        else .ok (plane, 200, .revoked)
    | none => .ok (plane, 200, .revoked)

/-- The default lifetime is asked for, and no check of a connected profile. -/
def createLoginSession (draw : CommandDraw) (accountId : UUID) :
    Action Workspace := fun work =>
  match LoginSessions.createInTransaction work draw.now draw.id draw.token
      accountId LoginSessions.DEFAULT_LOGIN_TTL false with
  | .ok (work, created) =>
      .ok (work, 201, .loginSession
        ⟨created.sessionId, .pending, created.expiresAt, none⟩
        (some created.launchToken))
  | .error (.database error) => .error (.database error)
  | .error fault =>
      if fault = LoginSessions.activeExists then
        .error (.management ⟨409, "active_login_exists",
          "Уже есть активная сессия входа."⟩)
      else
        .error (.management ⟨409, "reauth_required",
          "Сейчас нельзя начать вход в Instagram."⟩)

def loginNotFound : ManagementError :=
  ⟨404, "login_not_found", "Сессия входа не найдена."⟩

def serializeLogin (item : InstagramLoginSession) : LoginView where
  id := item.id
  status := item.status
  expiresAt := item.expiresAt
  reasonCode := item.reasonCode

/-- The row is read again after it was changed. -/
def cancelLoginSession (draw : CommandDraw) (accountId : UUID)
    (loginSessionId : UUID) : Action Workspace := fun work =>
  match work.logins.find? loginSessionId with
  | none => .error (.management loginNotFound)
  | some item =>
      if item.accountId ≠ accountId then .error (.management loginNotFound)
      else
        match LoginSessions.cancelInTransaction work draw.now
            loginSessionId with
        | .error (.database error) => .error (.database error)
        | .error (.loginSession _) => .error (.management loginNotFound)
        | .ok (work, current) =>
            let item := (work.logins.find? loginSessionId).getD item
            .ok (work, 200, .loginSession
              { serializeLogin item with status := current } none)

/-- A command on the collection tables alone. -/
def inDatabase {Response : Type} (respond : Response → ResponseBody)
    (action : Database → Except ActionFault (Database × Nat × Response)) :
    Action Workspace := fun work =>
  (action work.database).map fun (database, status, response) =>
    ({ work with database }, status, respond response)

def updateCollectionSettings (accountId : UUID) (payload : SettingsRequest) :
    Action Workspace := fun work =>
  let item : InstagramCollectionSettings :=
    ⟨accountId, payload.enabled, payload.targetReserve⟩
  let response :=
    ResponseBody.collectionSettings payload.enabled payload.targetReserve
  match work.settings.find? accountId with
  | some _ =>
      .ok ({ work with settings := work.settings.put item }, 200, response)
  | none =>
      if (work.database.accounts.find? accountId).isNone then
        .error (.database .integrityError)
      else
        match work.settings.insert? item with
        | none => .error (.database .integrityError)
        | some settings => .ok ({ work with settings }, 200, response)

def serializeReserveDevice (item : ManagementReserveDevice) : ReserveView where
  autoRefillEnabled := item.autoRefillEnabled
  localCompletedCount := item.localCompletedCount
  desiredCount := item.desiredCount
  lowWatermark := item.lowWatermark
  quotaThreshold := item.quotaThreshold
  reportedAt := item.reportedAt

def reportedDevice (id accountId : UUID) (payload : ReserveReportRequest) :
    ManagementReserveDevice where
  id := id
  accountId := accountId
  deviceUuid := payload.deviceUuid
  autoRefillEnabled := payload.autoRefillEnabled
  localCompletedCount := payload.localCompletedCount
  desiredCount := payload.desiredCount
  lowWatermark := payload.lowWatermark
  quotaThreshold := payload.quotaThreshold
  reportedAt := payload.reportedAt

/-- A late tab must not overwrite a newer successful reconciliation report. -/
def upsertReserveDevice (newId accountId : UUID)
    (payload : ReserveReportRequest) : Action Workspace := fun work =>
  if (work.database.accounts.find? accountId).isNone then
    .error (.management
      ⟨401, "unauthorized", "Сессия управления недоступна."⟩)
  else
    match work.reserves.rows.find? fun item =>
        item.accountId = accountId && item.deviceUuid = payload.deviceUuid with
    | none =>
        let item := reportedDevice newId accountId payload
        match work.reserves.insert? item with
        | none => .error (.database .integrityError)
        | some reserves =>
            .ok ({ work with reserves }, 200,
              .reserve (serializeReserveDevice item))
    | some item =>
        if item.reportedAt ≤ payload.reportedAt then
          let item := reportedDevice item.id accountId payload
          .ok ({ work with reserves := work.reserves.put item }, 200,
            .reserve (serializeReserveDevice item))
        else .ok (work, 200, .reserve (serializeReserveDevice item))

/-- The settings alone are a report of nothing, made now. -/
def settingsReport (payload : ReserveSettingsRequest) (now : Time) :
    ReserveReportRequest :=
  { payload with
    localCompletedCount := 0
    reportedAt := now
    localBounds := Nat.zero_le 1000 }

def inWorkspace (action : Action Workspace) : Action ControlPlane :=
  fun plane => (action plane.work).map fun (work, status, response) =>
    ({ plane with work }, status, response)

def Command.action (command : Command) (draw : CommandDraw)
    (session : ManagementDeviceSession) : Action ControlPlane :=
  let accountId := session.accountId
  match command with
  | revokeCurrentSession => revokeLocked session.id draw.now
  | createLoginSession =>
      inWorkspace (Management.createLoginSession draw accountId)
  | cancelLoginSession loginSessionId =>
      inWorkspace
        (Management.cancelLoginSession draw accountId loginSessionId)
  | createCollectionRun payload =>
      inWorkspace (inDatabase .collectionRun fun database =>
        Management.createCollectionRun database draw.now draw.id accountId
          payload.target)
  | cancelCollectionRun runId =>
      inWorkspace (inDatabase .collectionRun fun database =>
        Management.cancelCollectionRun database draw.now accountId runId)
  | syncViewedReels payload =>
      inWorkspace (inDatabase .confirmedVideoIds fun database =>
        Management.syncViewedReels database draw.views accountId payload)
  | updateCollectionSettings payload =>
      inWorkspace (Management.updateCollectionSettings accountId payload)
  | updateReserveSettings payload =>
      inWorkspace (upsertReserveDevice draw.id accountId
        (settingsReport payload draw.now))
  | reportReserve payload =>
      inWorkspace (upsertReserveDevice draw.id accountId payload)

theorem Command.action_keeps {command : Command} {draw : CommandDraw}
    {session : ManagementDeviceSession} {plane after : ControlPlane}
    {response : Nat × ResponseBody}
    (succeeded : command.action draw session plane = .ok (after, response)) :
    after.records = plane.records ∧
      ∀ sessionId, (∃ row ∈ after.sessions, row.id = sessionId) ↔
        ∃ row ∈ plane.sessions, row.id = sessionId := by
  have inside : ∀ action : Action Workspace,
      inWorkspace action plane = .ok (after, response) →
      after.records = plane.records ∧
        ∀ sessionId, (∃ row ∈ after.sessions, row.id = sessionId) ↔
          ∃ row ∈ plane.sessions, row.id = sessionId := by
    intro action performed
    obtain ⟨⟨work, status, body⟩, _, shape⟩ := map_eq_ok performed
    cases shape
    exact ⟨rfl, fun _ => Iff.rfl⟩
  cases command with
  | revokeCurrentSession =>
      simp only [Command.action, revokeLocked] at succeeded
      split at succeeded
      · rename_i item found
        split at succeeded
        · cases succeeded
          exact ⟨rfl, fun sessionId => Table.exists_key_put⟩
        · cases succeeded
          exact ⟨rfl, fun _ => Iff.rfl⟩
      · cases succeeded
        exact ⟨rfl, fun _ => Iff.rfl⟩
  | createLoginSession => exact inside _ succeeded
  | cancelLoginSession loginSessionId => exact inside _ succeeded
  | createCollectionRun payload => exact inside _ succeeded
  | cancelCollectionRun runId => exact inside _ succeeded
  | syncViewedReels payload => exact inside _ succeeded
  | updateCollectionSettings payload => exact inside _ succeeded
  | updateReserveSettings payload => exact inside _ succeeded
  | reportReserve payload => exact inside _ succeeded

end OfflineReels.Management
