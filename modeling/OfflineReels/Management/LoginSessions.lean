import OfflineReels.Collector.Persistence
import OfflineReels.Management.ControlPlane

namespace OfflineReels.Management.LoginSessions

open OfflineReels.Foundation
open OfflineReels.Instagram

/-! The durable state machine of a remote login, in a transaction of the
caller. -/

/-- 15 minutes -/
def DEFAULT_LOGIN_TTL : Time := 15 * 60 * 1000000

inductive LoginFault
  | loginSession (message : String)
  | database (error : DatabaseError)
  deriving DecidableEq, Repr

structure CreatedLoginSession where
  sessionId : UUID
  accountId : UUID
  expiresAt : Time
  launchToken : String
  deriving DecidableEq, Repr

def orLoginFault {α : Type} : Except DatabaseError α → Except LoginFault α
  | .ok value => .ok value
  | .error error => .error (.database error)

def activeExists : LoginFault :=
  .loginSession "An active login session already exists."

/-- The account gets back the status it had before the login. -/
def restoreAccount (work : Workspace) (item : InstagramLoginSession) :
    Except DatabaseError Workspace :=
  match work.database.accounts.find? item.accountId with
  | none => .error .runtimeError
  | some account =>
      let restored := { account with
        status := item.priorAccountStatus
        reasonCode := item.reasonCode }
      if account.status = item.priorAccountStatus then
        .ok (work.writeAccount restored)
      else
        (requireTransition ACCOUNT_TRANSITIONS account.status
          item.priorAccountStatus).map fun _ => work.writeAccount restored

def closed (item : InstagramLoginSession) (now : Time)
    (status : LoginSessionStatus) (reason : ReasonCode) :
    InstagramLoginSession :=
  { item with
    status := status
    reasonCode := some reason.value
    closedAt := some now }

def expireLocked (work : Workspace) (now : Time)
    (item : InstagramLoginSession) :
    Except DatabaseError (Workspace × InstagramLoginSession) :=
  if item.status.isOpen && item.expiresAt ≤ now then
    let expired := closed item now .expired .loginExpired
    (restoreAccount (work.writeLogin expired) expired).map
      fun work => (work, expired)
  else .ok (work, item)

/-- Expire what has run out; answer whether a session is still open. -/
def expireAll (now : Time) :
    List InstagramLoginSession → Workspace →
      Except DatabaseError (Workspace × Bool)
  | [], work => .ok (work, false)
  | item :: rest, work => do
      let (work, item) ← expireLocked work now item
      let (work, others) ← expireAll now rest work
      return (work, item.status.isOpen || others)

/-- The account starts to connect, unless it is connected already. -/
def beginLogin (work : Workspace) (account : InstagramAccount)
    (allowConnectedProfileCheck : Bool) : Except LoginFault Workspace :=
  let allowed := [AccountStatus.disconnected, .reauthRequired] ++
    if allowConnectedProfileCheck then [.connected] else []
  if account.status ∉ allowed then
    .error (.loginSession "Account cannot start a login session now.")
  else if account.status = .connected then .ok work
  else
    (orLoginFault (requireTransition ACCOUNT_TRANSITIONS account.status
      .connecting)).map fun _ =>
        work.writeAccount { account with status := .connecting }

def openLogin (work : Workspace) (now : Time) (sessionId : UUID)
    (token : String) (accountId : UUID) (ttl : Time)
    (allowConnectedProfileCheck : Bool) :
    Except LoginFault (Workspace × CreatedLoginSession) :=
  match work.database.accounts.find? accountId with
  | none => .error (.database .lookupError)
  | some account => do
      let work ← beginLogin work account allowConnectedProfileCheck
      let work ← orLoginFault (work.insertLogin {
        id := sessionId
        accountId := accountId
        status := .pending
        priorAccountStatus := account.status
        launchTokenHash := ⟨token⟩
        reasonCode := none
        expiresAt := now + ttl
        closedAt := none })
      return (work, ⟨sessionId, accountId, now + ttl, token⟩)

def createInTransaction (work : Workspace) (now : Time) (sessionId : UUID)
    (token : String) (accountId : UUID) (ttl : Time)
    (allowConnectedProfileCheck : Bool) :
    Except LoginFault (Workspace × CreatedLoginSession) :=
  if ttl = 0 ∨ ttl > DEFAULT_LOGIN_TTL then
    .error (.loginSession "Invalid login-session lifetime.")
  else do
    let (work, stillOpen) ← orLoginFault (expireAll now
      (work.logins.rows.filter fun item =>
        item.accountId = accountId && item.status.isOpen) work)
    if stillOpen then .error activeExists
    else do
      let database ← orLoginFault
        (Collector.Persistence.ensureAccount work.database accountId)
      openLogin { work with database } now sessionId token accountId ttl
        allowConnectedProfileCheck

/-- A session that is closed already keeps its status. -/
def cancelInTransaction (work : Workspace) (now : Time) (sessionId : UUID) :
    Except LoginFault (Workspace × LoginSessionStatus) :=
  match work.logins.find? sessionId with
  | none => .error (.loginSession "Login session was not found.")
  | some item => do
      let (work, item) ← orLoginFault (expireLocked work now item)
      if !item.status.isOpen then .ok (work, item.status)
      else
        let cancelled := closed item now .cancelled .loginCancelled
        (orLoginFault (restoreAccount (work.writeLogin cancelled)
          cancelled)).map fun work => (work, .cancelled)

/-- The transaction of its own. -/
def create (work : Workspace) (now : Time) (sessionId : UUID) (token : String)
    (accountId : UUID) (ttl : Time) (allowConnectedProfileCheck : Bool) :
    Except LoginFault (Workspace × CreatedLoginSession) :=
  match createInTransaction work now sessionId token accountId ttl
      allowConnectedProfileCheck with
  | .error (.database .integrityError) => .error activeExists
  | outcome => outcome

def linkUnavailable : LoginFault :=
  .loginSession "Login link is unavailable."

/-- A link opens its session once. -/
def activate (work : Workspace) (now : Time) (sessionId : UUID)
    (token : String) : Except LoginFault (Workspace × LoginSessionStatus) :=
  match work.logins.find? sessionId with
  | none => .error linkUnavailable
  | some item =>
      if item.launchTokenHash ≠ ⟨token⟩ then .error linkUnavailable
      else do
        let (work, item) ← orLoginFault (expireLocked work now item)
        if item.status ≠ .pending then .error linkUnavailable
        else .ok (work.writeLogin { item with status := .active }, .active)

def status (work : Workspace) (now : Time) (sessionId : UUID) :
    Except LoginFault (Workspace × Option LoginSessionStatus) :=
  match work.logins.find? sessionId with
  | none => .ok (work, none)
  | some item =>
      (orLoginFault (expireLocked work now item)).map fun (work, item) =>
        (work, some item.status)

/-- The account of an active session is connected, unless it is already. -/
def connectAccount (work : Workspace) (now : Time)
    (item : InstagramLoginSession) : Except DatabaseError Workspace :=
  match work.database.accounts.find? item.accountId with
  | none => .error .runtimeError
  | some account =>
      let connected := { account with
        status := .connected
        reasonCode := none
        lastConnectedAt := some now }
      if account.status = .connected then .ok (work.writeAccount connected)
      else
        (requireTransition ACCOUNT_TRANSITIONS account.status
          .connected).map fun _ => work.writeAccount connected

def complete (work : Workspace) (now : Time) (sessionId : UUID) :
    Except LoginFault (Workspace × LoginSessionStatus) :=
  match work.logins.find? sessionId with
  | none => .error (.loginSession "Login session was not found.")
  | some item => do
      let (work, item) ← orLoginFault (expireLocked work now item)
      if item.status ≠ .active then .ok (work, item.status)
      else
        (orLoginFault (connectAccount work now item)).map fun work =>
          (work.writeLogin { item with
            status := .completed
            closedAt := some now }, .completed)

theorem orLoginFault_eq_ok {α : Type} {outcome : Except DatabaseError α}
    {value : α} : orLoginFault outcome = .ok value ↔ outcome = .ok value := by
  cases outcome <;> simp [orLoginFault]

theorem restoreAccount_eq_ok {work after : Workspace}
    {item : InstagramLoginSession}
    (succeeded : restoreAccount work item = .ok after) :
    ∃ account, work.database.accounts.find? item.accountId = some account ∧
      after = work.writeAccount { account with
        status := item.priorAccountStatus
        reasonCode := item.reasonCode } := by
  unfold restoreAccount at succeeded
  split at succeeded
  · cases succeeded
  · rename_i account found
    dsimp only at succeeded
    split at succeeded
    · cases succeeded
      exact ⟨account, found, rfl⟩
    · obtain ⟨_, _, rfl⟩ := map_eq_ok succeeded
      exact ⟨account, found, rfl⟩

theorem expireLocked_eq_ok {work after : Workspace} {now : Time}
    {item left : InstagramLoginSession}
    (succeeded : expireLocked work now item = .ok (after, left)) :
    (item.status.isOpen = true ∧ item.expiresAt ≤ now ∧
        left = closed item now .expired .loginExpired ∧
        restoreAccount (work.writeLogin left) left = .ok after) ∨
      ((item.status.isOpen = true → now < item.expiresAt) ∧ left = item ∧
        after = work) := by
  unfold expireLocked at succeeded
  split at succeeded
  · rename_i due
    simp only [Bool.and_eq_true, decide_eq_true_eq] at due
    obtain ⟨restored, performed, shape⟩ := map_eq_ok succeeded
    cases shape
    exact .inl ⟨due.1, due.2, rfl, performed⟩
  · rename_i early
    simp only [Bool.and_eq_true, decide_eq_true_eq, not_and, not_le] at early
    cases succeeded
    exact .inr ⟨early, rfl, rfl⟩

theorem beginLogin_eq_ok {work after : Workspace} {account : InstagramAccount}
    {allowConnectedProfileCheck : Bool}
    (succeeded : beginLogin work account allowConnectedProfileCheck =
      .ok after) :
    (account.status = .connected ∧ after = work) ∨
      (account.status ∈ [AccountStatus.disconnected, .reauthRequired] ∧
        after = work.writeAccount { account with status := .connecting }) := by
  simp only [beginLogin] at succeeded
  generalize listed : [AccountStatus.disconnected, .reauthRequired] ++
    (if allowConnectedProfileCheck then [AccountStatus.connected] else []) =
      allowed at succeeded
  by_cases refused : account.status ∉ allowed
  · rw [if_pos refused] at succeeded
    cases succeeded
  · rw [if_neg refused] at succeeded
    by_cases connected : account.status = .connected
    · rw [if_pos connected] at succeeded
      cases succeeded
      exact .inl ⟨connected, rfl⟩
    · rw [if_neg connected] at succeeded
      obtain ⟨_, _, rfl⟩ := map_eq_ok succeeded
      right
      refine ⟨?_, rfl⟩
      rw [not_not, ← listed] at refused
      rcases List.mem_append.mp refused with begins | checks
      · exact begins
      · cases allowConnectedProfileCheck with
        | true => exact absurd (List.mem_singleton.mp checks) connected
        | false => cases checks

theorem restoreAccount_reserves {work after : Workspace}
    {item : InstagramLoginSession}
    (succeeded : restoreAccount work item = .ok after) :
    after.reserves = work.reserves := by
  obtain ⟨account, _, rfl⟩ := restoreAccount_eq_ok succeeded
  rfl

theorem expireLocked_reserves {work after : Workspace} {now : Time}
    {item left : InstagramLoginSession}
    (succeeded : expireLocked work now item = .ok (after, left)) :
    after.reserves = work.reserves := by
  rcases expireLocked_eq_ok succeeded with
    ⟨_, _, _, restored⟩ | ⟨_, _, rfl⟩
  · have kept := restoreAccount_reserves restored
    exact kept
  · rfl

theorem expireAll_reserves {now : Time} {items : List InstagramLoginSession}
    {work after : Workspace} {stillOpen : Bool}
    (succeeded : expireAll now items work = .ok (after, stillOpen)) :
    after.reserves = work.reserves := by
  induction items generalizing work after stillOpen with
  | nil =>
      cases succeeded
      rfl
  | cons item rest ih =>
      obtain ⟨⟨expired, left⟩, first, succeeded⟩ := bind_eq_ok succeeded
      obtain ⟨⟨others, stays⟩, remaining, succeeded⟩ := bind_eq_ok succeeded
      cases succeeded
      exact (ih remaining).trans (expireLocked_reserves first)

theorem beginLogin_reserves {work after : Workspace}
    {account : InstagramAccount} {allowConnectedProfileCheck : Bool}
    (succeeded : beginLogin work account allowConnectedProfileCheck =
      .ok after) : after.reserves = work.reserves := by
  rcases beginLogin_eq_ok succeeded with ⟨_, rfl⟩ | ⟨_, rfl⟩
  · rfl
  · rfl

theorem insertLogin_eq_ok {work after : Workspace}
    {login : InstagramLoginSession}
    (inserted : work.insertLogin login = .ok after) :
    ∃ logins, work.logins.insert? login = some logins ∧
      (∀ other ∈ work.logins, login.conflictsWith other = false) ∧
      after = { work with logins } := by
  unfold Workspace.insertLogin at inserted
  split at inserted
  · cases inserted
  · rename_i logins shape
    split at inserted
    · rename_i unique
      simp only [List.all_eq_true, Bool.not_eq_true'] at unique
      cases inserted
      exact ⟨logins, shape, unique, rfl⟩
    · cases inserted

theorem openLogin_reserves {work after : Workspace} {now : Time}
    {sessionId : UUID} {token : String} {accountId : UUID} {ttl : Time}
    {allowConnectedProfileCheck : Bool} {created : CreatedLoginSession}
    (succeeded : openLogin work now sessionId token accountId ttl
      allowConnectedProfileCheck = .ok (after, created)) :
    after.reserves = work.reserves := by
  unfold openLogin at succeeded
  split at succeeded
  · cases succeeded
  · obtain ⟨begun, began, succeeded⟩ := bind_eq_ok succeeded
    obtain ⟨opened, inserted, succeeded⟩ := bind_eq_ok succeeded
    obtain ⟨_, _, _, rfl⟩ := insertLogin_eq_ok (orLoginFault_eq_ok.mp inserted)
    cases succeeded
    have kept := beginLogin_reserves began
    exact kept

theorem createInTransaction_reserves {work after : Workspace} {now : Time}
    {sessionId : UUID} {token : String} {accountId : UUID} {ttl : Time}
    {allowConnectedProfileCheck : Bool} {created : CreatedLoginSession}
    (succeeded : createInTransaction work now sessionId token accountId ttl
      allowConnectedProfileCheck = .ok (after, created)) :
    after.reserves = work.reserves := by
  unfold createInTransaction at succeeded
  split at succeeded
  · cases succeeded
  · obtain ⟨⟨expired, stillOpen⟩, swept, succeeded⟩ := bind_eq_ok succeeded
    dsimp only at succeeded
    split at succeeded
    · cases succeeded
    · obtain ⟨database, _, succeeded⟩ := bind_eq_ok succeeded
      have kept := expireAll_reserves (orLoginFault_eq_ok.mp swept)
      rw [openLogin_reserves succeeded]
      exact kept

theorem cancelInTransaction_reserves {work after : Workspace} {now : Time}
    {sessionId : UUID} {status : LoginSessionStatus}
    (succeeded : cancelInTransaction work now sessionId =
      .ok (after, status)) : after.reserves = work.reserves := by
  unfold cancelInTransaction at succeeded
  split at succeeded
  · cases succeeded
  · obtain ⟨⟨expired, left⟩, swept, succeeded⟩ := bind_eq_ok succeeded
    have kept := expireLocked_reserves (orLoginFault_eq_ok.mp swept)
    dsimp only at succeeded
    split at succeeded
    · cases succeeded
      exact kept
    · obtain ⟨restored, performed, shape⟩ := map_eq_ok succeeded
      cases shape
      exact (restoreAccount_reserves (orLoginFault_eq_ok.mp performed)).trans
        kept

end OfflineReels.Management.LoginSessions
