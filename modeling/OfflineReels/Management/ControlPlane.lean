import OfflineReels.Management.Catalog

namespace OfflineReels.Management

open OfflineReels.Foundation
open OfflineReels.Instagram

/-! The rows of the management control plane and the bodies of its requests. -/

inductive LoginSessionStatus
  | pending
  | active
  | completed
  | expired
  | cancelled
  deriving DecidableEq, Repr

def LoginSessionStatus.isOpen : LoginSessionStatus → Bool
  | .pending | .active => true
  | .completed | .expired | .cancelled => false

structure InstagramLoginSession where
  id : UUID
  accountId : UUID
  status : LoginSessionStatus
  priorAccountStatus : AccountStatus
  launchTokenHash : Sha256 String
  reasonCode : Option String
  expiresAt : Time
  closedAt : Option Time
  deriving DecidableEq, Repr

structure InstagramCollectionSettings where
  accountId : UUID
  enabled : Bool
  targetReserve : Nat
  deriving DecidableEq, Repr

structure ManagementReserveDevice where
  id : UUID
  accountId : UUID
  deviceUuid : UUID
  autoRefillEnabled : Bool
  localCompletedCount : Nat
  desiredCount : Nat
  lowWatermark : Nat
  quotaThreshold : Nat
  reportedAt : Time
  deriving DecidableEq, Repr

structure ManagementDeviceSession where
  id : UUID
  accountId : UUID
  expiresAt : Time
  revokedAt : Option Time
  deriving DecidableEq, Repr

structure ManagementPairingChallenge where
  id : UUID
  expiresAt : Time
  deriving DecidableEq, Repr

structure ManagementRateLimit where
  scopeHash : Sha256 String
  windowStartedAt : Time
  requestCount : Nat
  deriving DecidableEq, Repr

structure TargetRequest where
  target : Nat
  bounds : 1 ≤ target ∧ target ≤ 10
  deriving DecidableEq

structure SettingsRequest where
  enabled : Bool
  targetReserve : Nat
  bounds : 1 ≤ targetReserve ∧ targetReserve ≤ 10
  deriving DecidableEq

structure ReserveSettingsRequest where
  deviceUuid : UUID
  autoRefillEnabled : Bool
  desiredCount : Nat
  lowWatermark : Nat
  quotaThreshold : Nat
  desiredBounds : 1 ≤ desiredCount ∧ desiredCount ≤ 100
  lowBounds : lowWatermark ≤ 99
  quotaBounds : 50 ≤ quotaThreshold ∧ quotaThreshold ≤ 95
  belowDesired : lowWatermark < desiredCount
  deriving DecidableEq

structure ReserveReportRequest extends ReserveSettingsRequest where
  localCompletedCount : Nat
  reportedAt : Time
  localBounds : localCompletedCount ≤ 1000
  deriving DecidableEq

/-- A value of a serialized request body. -/
inductive JsonValue
  | boolean (value : Bool)
  | integer (value : Nat)
  | uuid (value : UUID)
  | instant (value : Time)
  | videoEvents (videoIds : List UUID)
  deriving DecidableEq, Repr

/-- `json.dumps(.., sort_keys=True)`, as the list of its fields. -/
abbrev JsonDocument : Type := List (String × JsonValue)

def TargetRequest.modelDump (payload : TargetRequest) : JsonDocument :=
  [("target", .integer payload.target)]

def SettingsRequest.modelDump (payload : SettingsRequest) : JsonDocument :=
  [("enabled", .boolean payload.enabled),
    ("target_reserve", .integer payload.targetReserve)]

def ReserveSettingsRequest.modelDump (payload : ReserveSettingsRequest) :
    JsonDocument :=
  [("auto_refill_enabled", .boolean payload.autoRefillEnabled),
    ("desired_count", .integer payload.desiredCount),
    ("device_uuid", .uuid payload.deviceUuid),
    ("low_watermark", .integer payload.lowWatermark),
    ("quota_threshold", .integer payload.quotaThreshold)]

def ReserveReportRequest.modelDump (payload : ReserveReportRequest) :
    JsonDocument :=
  [("auto_refill_enabled", .boolean payload.autoRefillEnabled),
    ("desired_count", .integer payload.desiredCount),
    ("device_uuid", .uuid payload.deviceUuid),
    ("local_completed_count", .integer payload.localCompletedCount),
    ("low_watermark", .integer payload.lowWatermark),
    ("quota_threshold", .integer payload.quotaThreshold),
    ("reported_at", .instant payload.reportedAt)]

def ViewedReelSyncRequest.modelDump (payload : ViewedReelSyncRequest) :
    JsonDocument :=
  [("device_uuid", .uuid payload.deviceUuid),
    ("events", .videoEvents payload.events)]

/-! A body is determined by its document. -/

theorem TargetRequest.modelDump_injective :
    Function.Injective TargetRequest.modelDump := by
  rintro ⟨target, _⟩ ⟨other, _⟩ same
  simpa [TargetRequest.modelDump] using same

theorem SettingsRequest.modelDump_injective :
    Function.Injective SettingsRequest.modelDump := by
  rintro ⟨enabled, reserve, _⟩ ⟨otherEnabled, otherReserve, _⟩ same
  simpa [SettingsRequest.modelDump] using same

theorem ReserveSettingsRequest.modelDump_injective :
    Function.Injective ReserveSettingsRequest.modelDump := by
  intro first second same
  cases first
  cases second
  simp only [ReserveSettingsRequest.modelDump, List.cons.injEq, Prod.mk.injEq,
    JsonValue.boolean.injEq, JsonValue.integer.injEq, JsonValue.uuid.injEq,
    true_and, and_true] at same
  obtain ⟨rfl, rfl, rfl, rfl, rfl⟩ := same
  rfl

theorem ReserveReportRequest.modelDump_injective :
    Function.Injective ReserveReportRequest.modelDump := by
  rintro ⟨⟨_, _, _, _, _, _, _, _, _⟩, _, _, _⟩ ⟨⟨_, _, _, _, _, _, _, _, _⟩,
    _, _, _⟩ same
  simp only [ReserveReportRequest.modelDump, List.cons.injEq, Prod.mk.injEq,
    JsonValue.boolean.injEq, JsonValue.integer.injEq, JsonValue.uuid.injEq,
    JsonValue.instant.injEq, true_and, and_true] at same
  obtain ⟨rfl, rfl, rfl, rfl, rfl, rfl, rfl⟩ := same
  rfl

theorem ViewedReelSyncRequest.modelDump_injective :
    Function.Injective ViewedReelSyncRequest.modelDump := by
  rintro ⟨device, events, _, _, _⟩ ⟨otherDevice, otherEvents, _, _, _⟩ same
  simpa [ViewedReelSyncRequest.modelDump] using same

structure LoginView where
  id : UUID
  status : LoginSessionStatus
  expiresAt : Time
  reasonCode : Option String
  deriving DecidableEq, Repr

structure ReserveView where
  autoRefillEnabled : Bool
  localCompletedCount : Nat
  desiredCount : Nat
  lowWatermark : Nat
  quotaThreshold : Nat
  reportedAt : Time
  deriving DecidableEq, Repr

inductive ResponseBody
  | revoked
  | loginSession (view : LoginView) (launchToken : Option String)
  | collectionRun (response : RunResponse)
  | confirmedVideoIds (videoIds : List UUID)
  | collectionSettings (enabled : Bool) (targetReserve : Nat)
  | reserve (view : ReserveView)
  deriving DecidableEq, Repr

/-- The launch token is never stored. -/
def ResponseBody.persisted : ResponseBody → ResponseBody
  | .loginSession view _ => .loginSession view none
  | body => body

structure ManagementIdempotencyRecord where
  id : UUID
  sessionId : UUID
  operation : String
  keyHash : Sha256 String
  requestFingerprint : Sha256 JsonDocument
  responseStatus : Nat
  responseBody : ResponseBody
  expiresAt : Time
  deriving DecidableEq, Repr

/-- The tables that the commands work on. -/
structure Workspace where
  database : Database
  logins : Table InstagramLoginSession UUID InstagramLoginSession.id
  settings :
    Table InstagramCollectionSettings UUID InstagramCollectionSettings.accountId
  reserves : Table ManagementReserveDevice UUID ManagementReserveDevice.id

structure ControlPlane where
  work : Workspace
  sessions : Table ManagementDeviceSession UUID ManagementDeviceSession.id
  records : Table ManagementIdempotencyRecord UUID ManagementIdempotencyRecord.id
  challenges :
    Table ManagementPairingChallenge UUID ManagementPairingChallenge.id
  rateLimits :
    Table ManagementRateLimit (Sha256 String) ManagementRateLimit.scopeHash

/-- `uq_management_idempotency_scope` -/
def ManagementIdempotencyRecord.conflictsWith
    (record other : ManagementIdempotencyRecord) : Bool :=
  record.id ≠ other.id && record.sessionId = other.sessionId &&
    record.operation = other.operation && record.keyHash = other.keyHash

/-- The open session of an account is unique, and so is a launch token. -/
def InstagramLoginSession.conflictsWith
    (login other : InstagramLoginSession) : Bool :=
  login.id ≠ other.id &&
    ((login.accountId = other.accountId && login.status.isOpen &&
        other.status.isOpen) ||
      login.launchTokenHash = other.launchTokenHash)

/-- A record needs its session, and is unique in its scope. -/
def ControlPlane.insertRecord (plane : ControlPlane)
    (record : ManagementIdempotencyRecord) :
    Except DatabaseError ControlPlane :=
  match plane.records.insert? record with
  | none => .error .integrityError
  | some records =>
      if (plane.sessions.find? record.sessionId).isSome &&
          plane.records.rows.all fun other => !record.conflictsWith other then
        .ok { plane with records }
      else .error .integrityError

theorem ControlPlane.insertRecord_eq_ok {plane after : ControlPlane}
    {record : ManagementIdempotencyRecord}
    (inserted : plane.insertRecord record = .ok after) :
    ∃ records, plane.records.insert? record = some records ∧
      (plane.sessions.find? record.sessionId).isSome = true ∧
      (∀ other ∈ plane.records, record.conflictsWith other = false) ∧
      after = { plane with records } := by
  unfold ControlPlane.insertRecord at inserted
  split at inserted
  · cases inserted
  · rename_i records shape
    split at inserted
    · rename_i holds
      simp only [Bool.and_eq_true, List.all_eq_true,
        Bool.not_eq_true'] at holds
      cases inserted
      exact ⟨records, shape, holds.1, holds.2, rfl⟩
    · cases inserted

namespace Workspace

def insertLogin (work : Workspace) (login : InstagramLoginSession) :
    Except DatabaseError Workspace :=
  match work.logins.insert? login with
  | none => .error .integrityError
  | some logins =>
      if work.logins.rows.all fun other => !login.conflictsWith other then
        .ok { work with logins }
      else .error .integrityError

def writeLogin (work : Workspace) (login : InstagramLoginSession) :
    Workspace :=
  { work with logins := work.logins.put login }

def writeAccount (work : Workspace) (account : InstagramAccount) : Workspace :=
  { work with database := work.database.writeAccount account }

end Workspace

end OfflineReels.Management
