import OfflineReels.Management.Commands

namespace OfflineReels.Management

open OfflineReels.Foundation
open OfflineReels.Instagram

/-! The shared helper that makes a command idempotent in its session. -/

/-- 24 hours -/
def IDEMPOTENCY_TTL : Time := 24 * 60 * 60 * 1000000

def MAX_KEY_LENGTH : Nat := 128

/-- A request that has passed the session, origin and CSRF checks. -/
structure MutationRequest where
  session : ManagementDeviceSession
  key : Option String
  command : Command
  deriving DecidableEq

inductive Answer
  | response (status : Nat) (body : ResponseBody) (replayed : Bool)
  | error (error : ManagementError)
  | raised (error : DatabaseError)
  deriving DecidableEq, Repr

def idempotencyRequired : ManagementError :=
  ⟨400, "idempotency_required",
    "Нужен корректный ключ идемпотентности."⟩

def idempotencyConflict : ManagementError :=
  ⟨409, "idempotency_conflict",
    "Ключ использован с другим запросом."⟩

def serviceUnavailable : ManagementError :=
  ⟨503, "service_unavailable", "Сервис временно недоступен."⟩

def idempotencyKey (value : Option String) : Except ManagementError String :=
  match value with
  | none => .error idempotencyRequired
  | some key =>
      if 8 ≤ key.length ∧ key.length ≤ MAX_KEY_LENGTH ∧
          key.toList.all (·.toNat < 128) then .ok key
      else .error idempotencyRequired

theorem idempotencyKey_eq_ok {value : Option String} {key : String}
    (valid : idempotencyKey value = .ok key) : value = some key := by
  unfold idempotencyKey at valid
  split at valid
  · cases valid
  · split at valid
    · cases valid
      rfl
    · cases valid

/-- Expired rows go, and with a session its records. -/
def ControlPlane.cleanupExpired (plane : ControlPlane) (current : Time) :
    ControlPlane :=
  { plane with
    records := plane.records.filter fun record =>
      current < record.expiresAt && plane.sessions.rows.any fun session =>
        session.id = record.sessionId && current < session.expiresAt
    challenges := plane.challenges.filter fun challenge =>
      current < challenge.expiresAt
    sessions := plane.sessions.filter fun session =>
      current < session.expiresAt
    rateLimits := plane.rateLimits.filter fun limit =>
      current < limit.windowStartedAt + 60 * 1000000 }

def ControlPlane.findRecord (plane : ControlPlane) (request : MutationRequest)
    (key : String) : Option ManagementIdempotencyRecord :=
  plane.records.rows.find? fun record =>
    record.sessionId = request.session.id &&
      record.operation = request.command.operation && record.keyHash = ⟨key⟩

def recordOf (recordId : UUID) (request : MutationRequest) (key : String)
    (now : Time) (status : Nat) (result : ResponseBody) :
    ManagementIdempotencyRecord where
  id := recordId
  sessionId := request.session.id
  operation := request.command.operation
  keyHash := ⟨key⟩
  requestFingerprint := ⟨request.command.body⟩
  responseStatus := status
  responseBody := result.persisted
  expiresAt := now + IDEMPOTENCY_TTL

/-- The transaction of `_idempotent`; the last component tells a replay. -/
def idempotent (plane : ControlPlane) (request : MutationRequest)
    (key : String) (now : Time) (draw : CommandDraw) (recordId : UUID) :
    Except ActionFault (ControlPlane × Nat × ResponseBody × Bool) :=
  let plane := plane.cleanupExpired now
  match plane.findRecord request key with
  | some existing =>
      if existing.requestFingerprint ≠ ⟨request.command.body⟩ then
        .error (.management idempotencyConflict)
      else
        .ok (plane, existing.responseStatus, existing.responseBody, true)
  | none => do
      let (plane, status, result) ←
        request.command.action draw request.session plane
      let plane ← ofDatabase
        (plane.insertRecord (recordOf recordId request key now status result))
      return (plane, status, result, false)

/-- The answer after the transaction was rolled back by an integrity error. -/
def afterIntegrityError (plane : ControlPlane) (request : MutationRequest)
    (key : String) : Answer :=
  match plane.findRecord request key with
  | some existing =>
      if existing.requestFingerprint = ⟨request.command.body⟩ then
        .response existing.responseStatus existing.responseBody true
      else .error serviceUnavailable
  | none => .error serviceUnavailable

theorem idempotent_of_found {plane : ControlPlane} {request : MutationRequest}
    {key : String} {now : Time} {draw : CommandDraw} {recordId : UUID}
    {existing : ManagementIdempotencyRecord}
    (found : (plane.cleanupExpired now).findRecord request key = some existing) :
    idempotent plane request key now draw recordId =
      if existing.requestFingerprint ≠ ⟨request.command.body⟩ then
        .error (.management idempotencyConflict)
      else .ok (plane.cleanupExpired now, existing.responseStatus,
        existing.responseBody, true) := by
  unfold idempotent
  dsimp only
  rw [found]

theorem idempotent_eq_ok {plane after : ControlPlane}
    {request : MutationRequest} {key : String} {now : Time}
    {draw : CommandDraw} {recordId : UUID} {status : Nat}
    {body : ResponseBody} {replayed : Bool}
    (succeeded : idempotent plane request key now draw recordId =
      .ok (after, status, body, replayed)) :
    (replayed = true ∧ after = plane.cleanupExpired now) ∨
      (replayed = false ∧
        (plane.cleanupExpired now).findRecord request key = none ∧
        ∃ acted records,
          request.command.action draw request.session
            (plane.cleanupExpired now) = .ok (acted, status, body) ∧
          acted.records.insert? (recordOf recordId request key now status
            body) = some records ∧
          (acted.sessions.find? request.session.id).isSome = true ∧
          (∀ other ∈ acted.records, (recordOf recordId request key now status
            body).conflictsWith other = false) ∧
          after = { acted with records }) := by
  unfold idempotent at succeeded
  dsimp only at succeeded
  split at succeeded
  · split at succeeded
    · cases succeeded
    · cases succeeded
      exact .inl ⟨rfl, rfl⟩
  · rename_i absent
    obtain ⟨⟨acted, status, body⟩, performed, succeeded⟩ :=
      bind_eq_ok succeeded
    obtain ⟨stored, inserted, succeeded⟩ := bind_eq_ok succeeded
    obtain ⟨records, shape, present, unique, rfl⟩ :=
      ControlPlane.insertRecord_eq_ok (ofDatabase_eq_ok.mp inserted)
    cases succeeded
    exact .inr ⟨rfl, absent, acted, records, performed, shape, present, unique,
      rfl⟩

end OfflineReels.Management
