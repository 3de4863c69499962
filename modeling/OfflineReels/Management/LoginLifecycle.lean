import OfflineReels.Foundation.Transition
import OfflineReels.Management.LoginSessions

namespace OfflineReels.Management.LoginLifecycle

open OfflineReels.Foundation
open OfflineReels.Instagram
open LoginSessions

/-! The login sessions of the accounts while the Collector moves the accounts. -/

inductive Operation
  | create (now : Time) (sessionId : UUID) (token : String) (accountId : UUID)
      (ttl : Time) (allowConnectedProfileCheck : Bool)
  | activate (now : Time) (sessionId : UUID) (token : String)
  | status (now : Time) (sessionId : UUID)
  | cancel (now : Time) (sessionId : UUID)
  | complete (now : Time) (sessionId : UUID)
  | setAccountStatus (now : Time) (accountId : UUID) (status : AccountStatus)
      (reasonCode : Option String)
  deriving DecidableEq

def perform (work : Workspace) : Operation → Except LoginFault Workspace
  | .create now sessionId token accountId ttl allowConnectedProfileCheck =>
      (create work now sessionId token accountId ttl
        allowConnectedProfileCheck).map (·.1)
  | .activate now sessionId token =>
      (activate work now sessionId token).map (·.1)
  | .status now sessionId => (status work now sessionId).map (·.1)
  | .cancel now sessionId => (cancelInTransaction work now sessionId).map (·.1)
  | .complete now sessionId => (complete work now sessionId).map (·.1)
  | .setAccountStatus now accountId status reasonCode =>
      (orLoginFault (Collector.Persistence.setAccountStatus work.database now
        accountId status reasonCode)).map fun database =>
          { work with database }

/-- A transaction that raises is rolled back. -/
def next (work : Workspace) (operation : Operation) : Option Workspace :=
  match perform work operation with
  | .ok after => some after
  | .error _ => some work

def Operation.closes : Operation → Bool
  | .create .. | .status .. | .cancel .. | .complete .. => true
  | .activate .. | .setAccountStatus .. => false

def ClosedIn (work : Workspace) (sessionId : UUID) : Prop :=
  ∃ item ∈ work.logins, item.id = sessionId ∧ item.status.isOpen = false

structure Holds (work : Workspace) (operation : Operation)
    (after : Workspace) : Prop where
  legal : operation.closes = true →
    perform work operation ≠ .error (.database .invalidStateTransition)
  /-- A session can be cancelled at any time. -/
  cancelled : ∀ now sessionId, operation = .cancel now sessionId →
    ∀ item ∈ work.logins, item.id = sessionId → ClosedIn after sessionId
  /-- A session that has run out is closed when it is looked at. -/
  expired : ∀ now sessionId, operation = .status now sessionId →
    ∀ item ∈ work.logins, item.id = sessionId → item.expiresAt ≤ now →
      item.status.isOpen = true → ClosedIn after sessionId
  /-- A session that has run out does not stand in the way of another. -/
  unblocked : ∀ now sessionId token accountId ttl allowed,
    operation = .create now sessionId token accountId ttl allowed →
    (∀ item ∈ work.logins, item.accountId = accountId →
      item.status.isOpen = true → item.expiresAt ≤ now) →
    createInTransaction work now sessionId token accountId ttl allowed ≠
      .error activeExists

/-- From which statuses an account gets to another one, or has it already. -/
def LeadsTo (current : AccountStatus) : AccountStatus → Prop
  | .disconnected => True
  | .connecting => current ≠ .connected
  | target =>
      current = target ∨ current = .connecting ∨ current = .connected

instance (current : AccountStatus) :
    ∀ target, Decidable (LeadsTo current target)
  | .disconnected => .isTrue trivial
  | .connecting => inferInstanceAs (Decidable (_ ≠ _))
  | .connected => inferInstanceAs (Decidable (_ ∨ _ ∨ _))
  | .reauthRequired => inferInstanceAs (Decidable (_ ∨ _ ∨ _))
  | .temporarilyLimited => inferInstanceAs (Decidable (_ ∨ _ ∨ _))

theorem leadsTo_iff (current target : AccountStatus) :
    LeadsTo current target ↔ current = target ∨
      isTransitionAllowed ACCOUNT_TRANSITIONS current target = true := by
  cases target <;> cases current <;> decide

/-- The account may be moved to a status. -/
def Movable (work : Workspace) (accountId : UUID) (target : AccountStatus) :
    Prop :=
  ∀ account ∈ work.database.accounts.find? accountId,
    LeadsTo account.status target

instance (work : Workspace) (accountId : UUID) (target : AccountStatus) :
    Decidable (Movable work accountId target) :=
  inferInstanceAs (Decidable (∀ _ ∈ _, LeadsTo _ _))

/-- The account of a session may get back the status from before it. -/
def Restorable (work : Workspace) (item : InstagramLoginSession) : Prop :=
  Movable work item.accountId item.priorAccountStatus

instance (work : Workspace) (item : InstagramLoginSession) :
    Decidable (Restorable work item) :=
  inferInstanceAs (Decidable (Movable _ _ _))

/-- A session that the operation closes leaves an account that may move. -/
def Settled (work : Workspace) : Operation → Prop
  | .create now _ _ accountId ttl _ =>
      ttl ≠ 0 ∧ ttl ≤ DEFAULT_LOGIN_TTL →
      ∀ item ∈ work.logins, item.accountId = accountId →
        item.status.isOpen = true → item.expiresAt ≤ now → Restorable work item
  | .status now sessionId =>
      ∀ item ∈ work.logins, item.id = sessionId → item.status.isOpen = true →
        item.expiresAt ≤ now → Restorable work item
  | .cancel _ sessionId =>
      ∀ item ∈ work.logins, item.id = sessionId → item.status.isOpen = true →
        Restorable work item
  | .complete now sessionId =>
      ∀ item ∈ work.logins, item.id = sessionId →
        (item.status.isOpen = true → item.expiresAt ≤ now →
          Restorable work item) ∧
        (item.status = .active → now < item.expiresAt →
          Movable work item.accountId .connected)
  | .activate .. | .setAccountStatus .. => True

instance (work : Workspace) : ∀ operation, Decidable (Settled work operation)
  | .create now _ _ accountId _ _ =>
      inferInstanceAs (Decidable (_ → ∀ item ∈ work.logins,
        item.accountId = accountId → item.status.isOpen = true →
          item.expiresAt ≤ now → Restorable work item))
  | .status now sessionId =>
      inferInstanceAs (Decidable (∀ item ∈ work.logins, item.id = sessionId →
        item.status.isOpen = true → item.expiresAt ≤ now →
          Restorable work item))
  | .cancel _ sessionId =>
      inferInstanceAs (Decidable (∀ item ∈ work.logins, item.id = sessionId →
        item.status.isOpen = true → Restorable work item))
  | .complete now sessionId =>
      inferInstanceAs (Decidable (∀ item ∈ work.logins, item.id = sessionId →
        (item.status.isOpen = true → item.expiresAt ≤ now →
          Restorable work item) ∧
        (item.status = .active → now < item.expiresAt →
          Movable work item.accountId .connected)))
  | .activate .. => .isTrue trivial
  | .setAccountStatus .. => .isTrue trivial

section

variable {work after : Workspace} {item : InstagramLoginSession}

theorem requireTransition_eq {current target : AccountStatus} :
    requireTransition ACCOUNT_TRANSITIONS current target =
      if isTransitionAllowed ACCOUNT_TRANSITIONS current target = true then
        .ok ()
      else .error .invalidStateTransition := rfl

theorem restoreAccount_cases
    (owned : ∃ account ∈ work.database.accounts, account.id = item.accountId) :
    (Restorable work item ∧ ∃ after, restoreAccount work item = .ok after) ∨
      (¬ Restorable work item ∧
        restoreAccount work item = .error .invalidStateTransition) := by
  obtain ⟨account, member, same⟩ := owned
  have found : work.database.accounts.find? item.accountId = some account :=
    Table.find?_eq_some.mpr ⟨member, same⟩
  simp only [Restorable, Movable, leadsTo_iff, restoreAccount, found,
    Option.mem_def, Option.some.injEq, forall_eq', requireTransition_eq]
  by_cases stays : account.status = item.priorAccountStatus
  · rw [if_pos stays]
    exact .inl ⟨.inl stays, _, rfl⟩
  · rw [if_neg stays]
    by_cases allowed : isTransitionAllowed ACCOUNT_TRANSITIONS account.status
        item.priorAccountStatus = true
    · rw [if_pos allowed]
      exact .inl ⟨.inr allowed, _, rfl⟩
    · rw [if_neg allowed]
      exact .inr ⟨fun movable => movable.elim stays allowed, rfl⟩

theorem connectAccount_eq_ok {now : Time}
    (connected : connectAccount work now item = .ok after) :
    ∃ account, after = work.writeAccount account := by
  unfold connectAccount at connected
  split at connected
  · cases connected
  · dsimp only at connected
    split at connected
    · cases connected
      exact ⟨_, rfl⟩
    · obtain ⟨_, _, rfl⟩ := map_eq_ok connected
      exact ⟨_, rfl⟩

theorem connectAccount_cases {now : Time}
    (owned : ∃ account ∈ work.database.accounts, account.id = item.accountId) :
    (Movable work item.accountId .connected ∧
        ∃ after, connectAccount work now item = .ok after) ∨
      (¬ Movable work item.accountId .connected ∧
        connectAccount work now item = .error .invalidStateTransition) := by
  obtain ⟨account, member, same⟩ := owned
  have found : work.database.accounts.find? item.accountId = some account :=
    Table.find?_eq_some.mpr ⟨member, same⟩
  simp only [Movable, leadsTo_iff, connectAccount, found, Option.mem_def,
    Option.some.injEq, forall_eq', requireTransition_eq]
  by_cases stays : account.status = .connected
  · rw [if_pos stays]
    exact .inl ⟨.inl stays, _, rfl⟩
  · rw [if_neg stays]
    by_cases allowed : isTransitionAllowed ACCOUNT_TRANSITIONS account.status
        .connected = true
    · rw [if_pos allowed]
      exact .inl ⟨.inr allowed, _, rfl⟩
    · rw [if_neg allowed]
      exact .inr ⟨fun movable => movable.elim stays allowed, rfl⟩

end

theorem conflictsWith_symmetric (login other : InstagramLoginSession) :
    login.conflictsWith other = other.conflictsWith login := by
  rw [Bool.eq_iff_iff]
  simp only [InstagramLoginSession.conflictsWith, Bool.and_eq_true,
    Bool.or_eq_true, decide_eq_true_eq]
  constructor
  · rintro ⟨apart, ⟨⟨same, first⟩, second⟩ | hash⟩
    · exact ⟨Ne.symm apart, .inl ⟨⟨same.symm, second⟩, first⟩⟩
    · exact ⟨Ne.symm apart, .inr hash.symm⟩
  · rintro ⟨apart, ⟨⟨same, first⟩, second⟩ | hash⟩
    · exact ⟨Ne.symm apart, .inl ⟨⟨same.symm, second⟩, first⟩⟩
    · exact ⟨Ne.symm apart, .inr hash.symm⟩

theorem conflictsWith_irreflexive (login : InstagramLoginSession) :
    login.conflictsWith login = false := by
  simp [InstagramLoginSession.conflictsWith]

/-- The unique indexes of the sessions, and the reference to the account. -/
structure Wellformed (work : Workspace) : Prop where
  unique : work.logins.Unique InstagramLoginSession.conflictsWith
  owned : ∀ item ∈ work.logins,
    ∃ account ∈ work.database.accounts, account.id = item.accountId

namespace Wellformed

variable {work after : Workspace}

theorem writeLogin (wellformed : Wellformed work)
    {item written : InstagramLoginSession} (member : item ∈ work.logins)
    (identity : written.id = item.id) (account : written.accountId = item.accountId)
    (token : written.launchTokenHash = item.launchTokenHash)
    (opens : written.status.isOpen = true → item.status.isOpen = true) :
    Wellformed (work.writeLogin written) where
  unique := by
    refine wellformed.unique.put conflictsWith_symmetric
      conflictsWith_irreflexive ?_
    intro other present
    have free := wellformed.unique item member other present
    rw [Bool.eq_false_iff] at free ⊢
    intro conflict
    apply free
    simp only [InstagramLoginSession.conflictsWith, Bool.and_eq_true,
      Bool.or_eq_true, decide_eq_true_eq, identity, account, token] at conflict ⊢
    obtain ⟨apart, ⟨⟨same, here⟩, there⟩ | hash⟩ := conflict
    · exact ⟨apart, .inl ⟨⟨same, opens here⟩, there⟩⟩
    · exact ⟨apart, .inr hash⟩
  owned := by
    intro login present
    rcases Table.mem_put.mp present with ⟨rfl, _⟩ | ⟨other, _⟩
    · rw [account]
      exact wellformed.owned item member
    · exact wellformed.owned login other

theorem writeAccount (wellformed : Wellformed work)
    (account : InstagramAccount) : Wellformed (work.writeAccount account) where
  unique := wellformed.unique
  owned := fun item member =>
    Table.exists_key_put.mpr (wellformed.owned item member)

theorem restoreAccount (wellformed : Wellformed work)
    {item : InstagramLoginSession}
    (restored : LoginSessions.restoreAccount work item = .ok after) :
    Wellformed after := by
  obtain ⟨account, _, rfl⟩ := restoreAccount_eq_ok restored
  exact wellformed.writeAccount _

theorem openOnce (wellformed : Wellformed work)
    {first second : InstagramLoginSession} (firstMember : first ∈ work.logins)
    (secondMember : second ∈ work.logins)
    (account : first.accountId = second.accountId)
    (firstOpen : first.status.isOpen = true)
    (secondOpen : second.status.isOpen = true) : first = second := by
  have free := wellformed.unique first firstMember second secondMember
  by_contra different
  have apart : first.id ≠ second.id := fun same =>
    different (Table.eq_of_key_eq firstMember secondMember same)
  simp [InstagramLoginSession.conflictsWith, apart, account, firstOpen,
    secondOpen] at free

end Wellformed

/-- The error that no closing operation is to raise. -/
abbrev illegal : LoginFault := .database .invalidStateTransition

section

variable {work : Workspace} {item : InstagramLoginSession}

theorem closing_cases (wellformed : Wellformed work)
    (member : item ∈ work.logins) (now : Time) {status : LoginSessionStatus}
    {reason : ReasonCode} (shut : status.isOpen = false) :
    (Restorable work item ∧ ∃ after, restoreAccount
        (work.writeLogin (closed item now status reason))
        (closed item now status reason) = .ok after ∧
        Wellformed after ∧ ClosedIn after item.id) ∨
      (¬ Restorable work item ∧ restoreAccount
        (work.writeLogin (closed item now status reason))
        (closed item now status reason) = .error .invalidStateTransition) := by
  have written : Wellformed (work.writeLogin (closed item now status reason)) :=
    wellformed.writeLogin member rfl rfl rfl fun isOpen => by
      have stays : status.isOpen = true := isOpen
      rw [shut] at stays
      cases stays
  have outcome := @restoreAccount_cases
    (work.writeLogin (closed item now status reason))
    (closed item now status reason) (wellformed.owned item member)
  rcases outcome with ⟨movable, after, restored⟩ | ⟨stuck, refused⟩
  · refine .inl ⟨movable, after, restored, written.restoreAccount restored, ?_⟩
    obtain ⟨account, _, rfl⟩ := restoreAccount_eq_ok restored
    exact ⟨closed item now status reason,
      Table.mem_put.mpr (.inl ⟨rfl, item, member, rfl⟩), rfl, shut⟩
  · exact .inr ⟨stuck, refused⟩

theorem expireLocked_cases (wellformed : Wellformed work)
    (member : item ∈ work.logins) (now : Time) :
    ((item.status.isOpen = true ∧ item.expiresAt ≤ now) ∧
        ((Restorable work item ∧ ∃ after, expireLocked work now item =
            .ok (after, closed item now .expired .loginExpired) ∧
            Wellformed after ∧ ClosedIn after item.id) ∨
          (¬ Restorable work item ∧
            expireLocked work now item = .error .invalidStateTransition))) ∨
      ((item.status.isOpen = true → now < item.expiresAt) ∧
        expireLocked work now item = .ok (work, item)) := by
  by_cases due : item.status.isOpen = true ∧ item.expiresAt ≤ now
  · left
    refine ⟨due, ?_⟩
    have expires : expireLocked work now item =
        (restoreAccount
          (work.writeLogin (closed item now .expired .loginExpired))
          (closed item now .expired .loginExpired)).map fun work =>
            (work, closed item now .expired .loginExpired) := by
      unfold expireLocked
      rw [if_pos (by simp [due.1, due.2])]
    rw [expires]
    have shut : LoginSessionStatus.expired.isOpen = false := rfl
    rcases closing_cases wellformed member now shut with
      ⟨movable, after, restored, kept, gone⟩ | ⟨stuck, refused⟩
    · refine .inl ⟨movable, after, ?_, kept, gone⟩
      rw [restored]
      rfl
    · refine .inr ⟨stuck, ?_⟩
      rw [refused]
      rfl
  · right
    refine ⟨fun isOpen => not_le.mp fun late => due ⟨isOpen, late⟩, ?_⟩
    unfold expireLocked
    rw [if_neg (by simpa using due)]

theorem status_cases (wellformed : Wellformed work)
    (member : item ∈ work.logins) (now : Time) :
    ((item.status.isOpen = true ∧ item.expiresAt ≤ now) ∧
        ((Restorable work item ∧ ∃ after, perform work (.status now item.id) =
            .ok after ∧ Wellformed after ∧ ClosedIn after item.id) ∨
          (¬ Restorable work item ∧
            perform work (.status now item.id) = .error illegal))) ∨
      ((item.status.isOpen = true → now < item.expiresAt) ∧
        perform work (.status now item.id) = .ok work) := by
  have found := Table.find?_eq_some.mpr ⟨member, rfl⟩
  simp only [perform, status, found]
  rcases expireLocked_cases wellformed member now with
    ⟨due, ⟨restorable, after, expired, kept, gone⟩ | ⟨stuck, refused⟩⟩ |
    ⟨early, untouched⟩
  · rw [expired]
    exact .inl ⟨due, .inl ⟨restorable, after, rfl, kept, gone⟩⟩
  · rw [refused]
    exact .inl ⟨due, .inr ⟨stuck, rfl⟩⟩
  · rw [untouched]
    exact .inr ⟨early, rfl⟩

theorem cancel_cases (wellformed : Wellformed work)
    (member : item ∈ work.logins) (now : Time) :
    (item.status.isOpen = true ∧
        ((Restorable work item ∧ ∃ after, perform work (.cancel now item.id) =
            .ok after ∧ Wellformed after ∧ ClosedIn after item.id) ∨
          (¬ Restorable work item ∧
            perform work (.cancel now item.id) = .error illegal))) ∨
      (item.status.isOpen = false ∧
        perform work (.cancel now item.id) = .ok work) := by
  have found := Table.find?_eq_some.mpr ⟨member, rfl⟩
  simp only [perform, cancelInTransaction, found]
  rcases expireLocked_cases wellformed member now with
    ⟨due, ⟨restorable, after, expired, kept, gone⟩ | ⟨stuck, refused⟩⟩ |
    ⟨early, untouched⟩
  · rw [expired]
    exact .inl ⟨due.1, .inl ⟨restorable, after, rfl, kept, gone⟩⟩
  · rw [refused]
    exact .inl ⟨due.1, .inr ⟨stuck, rfl⟩⟩
  · rw [untouched]
    simp only [orLoginFault, bind, Except.bind]
    cases isOpen : item.status.isOpen with
    | true =>
        have shut : LoginSessionStatus.cancelled.isOpen = false := rfl
        rcases closing_cases wellformed member now shut with
          ⟨restorable, after, restored, kept, gone⟩ | ⟨stuck, refused⟩
        · rw [restored]
          exact .inl ⟨rfl, .inl ⟨restorable, after, rfl, kept, gone⟩⟩
        · rw [refused]
          exact .inl ⟨rfl, .inr ⟨stuck, rfl⟩⟩
    | false => exact .inr ⟨rfl, rfl⟩

theorem complete_cases (wellformed : Wellformed work)
    (member : item ∈ work.logins) (now : Time) :
    ((item.status.isOpen = true ∧ item.expiresAt ≤ now) ∧
        ((Restorable work item ∧ ∃ after, perform work (.complete now item.id) =
            .ok after ∧ Wellformed after) ∨
          (¬ Restorable work item ∧
            perform work (.complete now item.id) = .error illegal))) ∨
      ((item.status = .active ∧ now < item.expiresAt) ∧
        ((Movable work item.accountId .connected ∧ ∃ after,
            perform work (.complete now item.id) = .ok after ∧
            Wellformed after) ∨
          (¬ Movable work item.accountId .connected ∧
            perform work (.complete now item.id) = .error illegal))) ∨
      ((item.status.isOpen = true → now < item.expiresAt) ∧
        item.status ≠ .active ∧
        perform work (.complete now item.id) = .ok work) := by
  have found := Table.find?_eq_some.mpr ⟨member, rfl⟩
  simp only [perform, complete, found]
  rcases expireLocked_cases wellformed member now with
    ⟨due, ⟨restorable, after, expired, kept, _⟩ | ⟨stuck, refused⟩⟩ |
    ⟨early, untouched⟩
  · rw [expired]
    exact .inl ⟨due, .inl ⟨restorable, after, rfl, kept⟩⟩
  · rw [refused]
    exact .inl ⟨due, .inr ⟨stuck, rfl⟩⟩
  · rw [untouched]
    simp only [orLoginFault, bind, Except.bind]
    by_cases active : item.status = .active
    · rw [if_neg (not_not.mpr active)]
      have early := early (by rw [active]; rfl)
      rcases connectAccount_cases (wellformed.owned item member) with
        ⟨movable, after, connected⟩ | ⟨stuck, refused⟩
      · refine .inr (.inl ⟨⟨active, early⟩, .inl ⟨movable, ?_⟩⟩)
        rw [connected]
        refine ⟨_, rfl, ?_⟩
        obtain ⟨account, rfl⟩ := connectAccount_eq_ok connected
        exact (wellformed.writeAccount account).writeLogin member rfl rfl rfl
          fun clash => by cases clash
      · refine .inr (.inl ⟨⟨active, early⟩, .inr ⟨stuck, ?_⟩⟩)
        rw [refused]
        rfl
    · rw [if_pos active]
      exact .inr (.inr ⟨early, active, rfl⟩)

end

section

variable {work : Workspace}

def DueRestorable (work : Workspace) (now : Time) (accountId : UUID) : Prop :=
  ∀ item ∈ work.logins, item.accountId = accountId →
    item.status.isOpen = true → item.expiresAt ≤ now → Restorable work item

theorem openOf_cases (wellformed : Wellformed work) (accountId : UUID) :
    ((work.logins.rows.filter fun item =>
        item.accountId = accountId && item.status.isOpen) = [] ∧
        ∀ item ∈ work.logins, item.accountId = accountId →
          item.status.isOpen = false) ∨
      ∃ item ∈ work.logins, item.accountId = accountId ∧
        item.status.isOpen = true ∧
        (work.logins.rows.filter fun item =>
          item.accountId = accountId && item.status.isOpen) = [item] ∧
        ∀ other ∈ work.logins, other.accountId = accountId →
          other.status.isOpen = true → other = item := by
  by_cases some : ∃ item ∈ work.logins, item.accountId = accountId ∧
      item.status.isOpen = true
  · right
    obtain ⟨item, member, owner, isOpen⟩ := some
    have only : ∀ other ∈ work.logins, other.accountId = accountId →
        other.status.isOpen = true → other = item :=
      fun other present here opened =>
        wellformed.openOnce present member (here.trans owner.symm) opened isOpen
    refine ⟨item, member, owner, isOpen, ?_, only⟩
    have passes : item ∈ work.logins.rows.filter fun item =>
        item.accountId = accountId && item.status.isOpen :=
      List.mem_filter.mpr ⟨member, by simp [owner, isOpen]⟩
    have single : (work.logins.rows.filter fun item =>
        item.accountId = accountId && item.status.isOpen).length = 1 := by
      refine Table.length_filter_eq_one member (by simp [owner, isOpen]) ?_
      intro other present test
      simp only [Bool.and_eq_true, decide_eq_true_eq] at test
      exact only other present test.1 test.2
    obtain ⟨first, shape⟩ := List.length_eq_one_iff.mp single
    rw [shape] at passes ⊢
    rw [List.mem_singleton.mp passes]
  · left
    simp only [not_exists, not_and, Bool.not_eq_true] at some
    refine ⟨?_, some⟩
    rw [List.filter_eq_nil_iff]
    intro item member test
    simp only [Bool.and_eq_true, decide_eq_true_eq] at test
    have shut := some item member test.1
    rw [test.2] at shut
    cases shut

theorem expireAll_cases (wellformed : Wellformed work) (now : Time)
    (accountId : UUID) :
    (DueRestorable work now accountId ∧ ∃ after, expireAll now
        (work.logins.rows.filter fun item =>
          item.accountId = accountId && item.status.isOpen) work =
          .ok (after, false) ∧ Wellformed after) ∨
      (¬ DueRestorable work now accountId ∧ expireAll now
        (work.logins.rows.filter fun item =>
          item.accountId = accountId && item.status.isOpen) work =
          .error .invalidStateTransition) ∨
      (DueRestorable work now accountId ∧ expireAll now
        (work.logins.rows.filter fun item =>
          item.accountId = accountId && item.status.isOpen) work =
          .ok (work, true) ∧
        ∃ item ∈ work.logins, item.accountId = accountId ∧
          item.status.isOpen = true ∧ now < item.expiresAt) := by
  rcases openOf_cases wellformed accountId with ⟨empty, shut⟩ |
    ⟨item, member, owner, isOpen, single, only⟩
  · rw [empty]
    refine .inl ⟨fun item member owner isOpen => ?_, work, rfl, wellformed⟩
    rw [shut item member owner] at isOpen
    cases isOpen
  · rw [single]
    simp only [expireAll, bind, Except.bind, pure, Except.pure]
    rcases expireLocked_cases wellformed member now with
      ⟨due, ⟨restorable, after, expired, kept, _⟩ | ⟨stuck, refused⟩⟩ |
      ⟨early, untouched⟩
    · rw [expired]
      refine .inl ⟨fun other present here opened _ => ?_, after, rfl, kept⟩
      rw [only other present here opened]
      exact restorable
    · rw [refused]
      exact .inr (.inl ⟨fun all => stuck (all item member owner isOpen due.2),
        rfl⟩)
    · rw [untouched]
      refine .inr (.inr ⟨fun other present here opened due => ?_, ?_, item,
        member, owner, isOpen, early isOpen⟩)
      · rw [only other present here opened] at due
        exact absurd due (early isOpen).not_ge
      · simp [isOpen]

/-- A fault that is neither an illegal transition nor about an open session. -/
structure Ordinary (fault : LoginFault) : Prop where
  legal : fault ≠ illegal
  free : fault ≠ activeExists

theorem ordinary_integrity {error : DatabaseError}
    (same : error = .integrityError) : Ordinary (.database error) := by
  rw [same]
  exact ⟨nofun, nofun⟩

theorem orLoginFault_eq_error {α : Type} {outcome : Except DatabaseError α}
    {fault : LoginFault} (failed : orLoginFault outcome = .error fault) :
    ∃ error, outcome = .error error ∧ fault = .database error := by
  cases outcome with
  | error error =>
      cases failed
      exact ⟨error, rfl, rfl⟩
  | ok value => cases failed

theorem beginLogin_error {account : InstagramAccount} {allowed : Bool}
    {fault : LoginFault}
    (refused : beginLogin work account allowed = .error fault) :
    Ordinary fault := by
  revert refused
  unfold beginLogin
  cases allowed <;> cases account.status <;>
    simp [orLoginFault, requireTransition, isTransitionAllowed,
      ACCOUNT_TRANSITIONS, Except.map] <;>
    rintro rfl <;> exact ⟨(fun clash => by cases clash), by decide⟩

theorem insertLogin_error {login : InstagramLoginSession}
    {error : DatabaseError} (refused : work.insertLogin login = .error error) :
    error = .integrityError := by
  unfold Workspace.insertLogin at refused
  split at refused
  · cases refused
    rfl
  · split at refused
    · cases refused
    · cases refused
      rfl

theorem ensureAccount_error {database : Database} {accountId : UUID}
    {error : DatabaseError}
    (refused : Collector.Persistence.ensureAccount database accountId =
      .error error) : error = .integrityError := by
  unfold Collector.Persistence.ensureAccount at refused
  split at refused
  · cases refused
  · unfold Database.insertAccount at refused
    split at refused
    · cases refused
      rfl
    · cases refused

theorem openLogin_error {now : Time} {sessionId : UUID} {token : String}
    {accountId : UUID} {ttl : Time} {allowed : Bool} {fault : LoginFault}
    (refused : openLogin work now sessionId token accountId ttl allowed =
      .error fault) : Ordinary fault := by
  unfold openLogin at refused
  split at refused
  · cases refused
    exact ⟨nofun, nofun⟩
  · rcases bind_eq_error refused with refused | ⟨begun, _, refused⟩
    · exact beginLogin_error refused
    · rcases bind_eq_error refused with refused | ⟨opened, _, refused⟩
      · obtain ⟨error, failed, rfl⟩ := orLoginFault_eq_error refused
        exact ordinary_integrity (insertLogin_error failed)
      · cases refused

theorem openLogin_kept (wellformed : Wellformed work) {now : Time}
    {sessionId : UUID} {token : String} {accountId : UUID} {ttl : Time}
    {allowed : Bool} {after : Workspace} {created : CreatedLoginSession}
    (opened : openLogin work now sessionId token accountId ttl allowed =
      .ok (after, created)) : Wellformed after := by
  unfold openLogin at opened
  split at opened
  · cases opened
  · rename_i account found
    obtain ⟨begun, began, opened⟩ := bind_eq_ok opened
    obtain ⟨inserted, insertion, opened⟩ := bind_eq_ok opened
    cases opened
    have kept : Wellformed begun ∧
        ∃ row ∈ begun.database.accounts, row.id = accountId := by
      have present := Table.find?_eq_some.mp found
      rcases beginLogin_eq_ok began with ⟨_, rfl⟩ | ⟨_, rfl⟩
      · exact ⟨wellformed, account, present⟩
      · exact ⟨wellformed.writeAccount _,
          Table.exists_key_put.mpr ⟨account, present⟩⟩
    obtain ⟨logins, inserts, free, rfl⟩ :=
      insertLogin_eq_ok (orLoginFault_eq_ok.mp insertion)
    refine ⟨kept.1.unique.insert? conflictsWith_symmetric
      conflictsWith_irreflexive inserts free, ?_⟩
    intro item member
    rcases (Table.mem_insert? inserts).mp member with present | rfl
    · exact kept.1.owned item present
    · exact kept.2

theorem ensureAccount_kept (wellformed : Wellformed work) {accountId : UUID}
    {database : Database}
    (ensured : Collector.Persistence.ensureAccount work.database accountId =
      .ok database) : Wellformed { work with database } := by
  refine ⟨wellformed.unique, fun item member => ?_⟩
  obtain ⟨account, present, same⟩ := wellformed.owned item member
  unfold Collector.Persistence.ensureAccount at ensured
  split at ensured
  · cases ensured
    exact ⟨account, present, same⟩
  · unfold Database.insertAccount at ensured
    split at ensured
    · cases ensured
    · rename_i accounts inserts
      cases ensured
      exact ⟨account, (Table.mem_insert? inserts).mpr (.inl present), same⟩

theorem createInTransaction_cases (wellformed : Wellformed work) {now : Time}
    {sessionId : UUID} {token : String} {accountId : UUID} {ttl : Time}
    {allowed : Bool} (lifetime : ttl ≠ 0 ∧ ttl ≤ DEFAULT_LOGIN_TTL) :
    (¬ DueRestorable work now accountId ∧ createInTransaction work now sessionId
        token accountId ttl allowed = .error illegal) ∨
      (DueRestorable work now accountId ∧
        ((∃ after, createInTransaction work now sessionId token accountId ttl
            allowed = .ok after ∧ Wellformed after.1) ∨
          (∃ fault, Ordinary fault ∧ createInTransaction work now sessionId
            token accountId ttl allowed = .error fault) ∨
          (createInTransaction work now sessionId token accountId ttl allowed =
              .error activeExists ∧
            ∃ item ∈ work.logins, item.accountId = accountId ∧
              item.status.isOpen = true ∧ now < item.expiresAt))) := by
  have guard : ¬ (ttl = 0 ∨ ttl > DEFAULT_LOGIN_TTL) := by
    rintro (zero | long)
    · exact lifetime.1 zero
    · exact absurd lifetime.2 long.not_ge
  unfold createInTransaction
  rw [if_neg guard]
  rcases expireAll_cases wellformed now accountId with
    ⟨restorable, swept, expired, kept⟩ | ⟨stuck, refused⟩ |
    ⟨restorable, waits, stands⟩
  · right
    refine ⟨restorable, ?_⟩
    rw [expired]
    generalize outcome : (orLoginFault
      (Collector.Persistence.ensureAccount swept.database accountId) >>=
        fun database => openLogin { swept with database } now sessionId token
          accountId ttl allowed) = result
    have same : (orLoginFault (.ok (swept, false)) >>= fun
        expired =>
          if expired.2 = true then .error activeExists
          else orLoginFault (Collector.Persistence.ensureAccount
            expired.1.database accountId) >>= fun database =>
              openLogin { expired.1 with database } now sessionId token
                accountId ttl allowed) = result := outcome
    cases result with
    | error fault =>
        refine .inr (.inl ⟨fault, ?_, same⟩)
        rcases bind_eq_error outcome with refused | ⟨database, _, refused⟩
        · obtain ⟨error, failed, rfl⟩ := orLoginFault_eq_error refused
          exact ordinary_integrity (ensureAccount_error failed)
        · exact openLogin_error refused
    | ok created =>
        refine .inl ⟨created, same, ?_⟩
        obtain ⟨database, ensured, opened⟩ := bind_eq_ok outcome
        exact openLogin_kept
          (ensureAccount_kept kept (orLoginFault_eq_ok.mp ensured)) opened
  · rw [refused]
    exact .inl ⟨stuck, rfl⟩
  · rw [waits]
    exact .inr ⟨restorable, .inr (.inr ⟨rfl, stands⟩)⟩

theorem activate_kept (wellformed : Wellformed work) {now : Time}
    {sessionId : UUID} {token : String} {after : Workspace}
    {status : LoginSessionStatus}
    (activated : activate work now sessionId token = .ok (after, status)) :
    Wellformed after := by
  unfold activate at activated
  split at activated
  · cases activated
  · rename_i item found
    have member := (Table.find?_eq_some.mp found).1
    split at activated
    · cases activated
    · obtain ⟨⟨expired, left⟩, swept, activated⟩ := bind_eq_ok activated
      dsimp only at activated
      split at activated
      · cases activated
      · rename_i waiting
        rw [not_not] at waiting
        cases activated
        rcases expireLocked_eq_ok (orLoginFault_eq_ok.mp swept) with
          ⟨_, _, rfl, _⟩ | ⟨_, rfl, rfl⟩
        · cases waiting
        · exact wellformed.writeLogin member rfl rfl rfl fun _ => by
            rw [waiting]
            rfl

theorem setAccountStatus_kept (wellformed : Wellformed work) {now : Time}
    {accountId : UUID} {status : AccountStatus} {reasonCode : Option String}
    {database : Database}
    (written : Collector.Persistence.setAccountStatus work.database now
      accountId status reasonCode = .ok database) :
    Wellformed { work with database } := by
  unfold Collector.Persistence.setAccountStatus at written
  obtain ⟨ensured, present, written⟩ := bind_eq_ok written
  have kept := ensureAccount_kept wellformed present
  cases found : ensured.accounts.find? accountId with
  | none =>
      simp only [found] at written
      cases written
  | some account =>
      simp only [found] at written
      have result : database = ensured.writeAccount
          (Collector.Persistence.withStatus account now status reasonCode) := by
        split at written
        · obtain ⟨_, _, written⟩ := bind_eq_ok written
          cases written
          rfl
        · cases written
          rfl
      rw [result]
      exact kept.writeAccount _

theorem wellformed_perform (wellformed : Wellformed work)
    {operation : Operation} {after : Workspace}
    (performed : perform work operation = .ok after) : Wellformed after := by
  have absent : ∀ sessionId, work.logins.find? sessionId = none →
      ∀ item ∈ work.logins, item.id ≠ sessionId := fun sessionId none =>
    Table.find?_eq_none.mp none
  cases operation with
  | create now sessionId token accountId ttl allowed =>
      obtain ⟨created, opened, rfl⟩ := map_eq_ok performed
      have direct : createInTransaction work now sessionId token accountId ttl
          allowed = .ok created := by
        unfold create at opened
        split at opened
        · cases opened
        · exact opened
      by_cases lifetime : ttl = 0 ∨ ttl > DEFAULT_LOGIN_TTL
      · unfold createInTransaction at direct
        rw [if_pos lifetime] at direct
        cases direct
      · simp only [not_or, not_lt] at lifetime
        rcases createInTransaction_cases wellformed lifetime with
          ⟨_, refused⟩ | ⟨_, ⟨after, succeeded, kept⟩ | ⟨_, _, refused⟩ |
            ⟨refused, _⟩⟩
        · rw [direct] at refused
          cases refused
        · rw [direct] at succeeded
          cases succeeded
          exact kept
        · rw [direct] at refused
          cases refused
        · rw [direct] at refused
          cases refused
  | activate now sessionId token =>
      obtain ⟨⟨after, status⟩, activated, rfl⟩ := map_eq_ok performed
      exact activate_kept wellformed activated
  | status now sessionId =>
      cases found : work.logins.find? sessionId with
      | none =>
          simp only [perform, status, found] at performed
          cases performed
          exact wellformed
      | some item =>
          obtain ⟨member, rfl⟩ := Table.find?_eq_some.mp found
          rcases status_cases wellformed member now with
            ⟨_, ⟨_, after, closes, kept, _⟩ | ⟨_, refused⟩⟩ | ⟨_, stays⟩
          · rw [performed] at closes
            cases closes
            exact kept
          · rw [performed] at refused
            cases refused
          · rw [performed] at stays
            cases stays
            exact wellformed
  | cancel now sessionId =>
      cases found : work.logins.find? sessionId with
      | none =>
          simp only [perform, cancelInTransaction, found] at performed
          cases performed
      | some item =>
          obtain ⟨member, rfl⟩ := Table.find?_eq_some.mp found
          rcases cancel_cases wellformed member now with
            ⟨_, ⟨_, after, closes, kept, _⟩ | ⟨_, refused⟩⟩ | ⟨_, stays⟩
          · rw [performed] at closes
            cases closes
            exact kept
          · rw [performed] at refused
            cases refused
          · rw [performed] at stays
            cases stays
            exact wellformed
  | complete now sessionId =>
      cases found : work.logins.find? sessionId with
      | none =>
          simp only [perform, complete, found] at performed
          cases performed
      | some item =>
          obtain ⟨member, rfl⟩ := Table.find?_eq_some.mp found
          rcases complete_cases wellformed member now with
            ⟨_, ⟨_, after, closes, kept⟩ | ⟨_, refused⟩⟩ |
            ⟨_, ⟨_, after, completes, kept⟩ | ⟨_, refused⟩⟩ | ⟨_, _, stays⟩
          · rw [performed] at closes
            cases closes
            exact kept
          · rw [performed] at refused
            cases refused
          · rw [performed] at completes
            cases completes
            exact kept
          · rw [performed] at refused
            cases refused
          · rw [performed] at stays
            cases stays
            exact wellformed
  | setAccountStatus now accountId status reasonCode =>
      obtain ⟨database, written, rfl⟩ := map_eq_ok performed
      exact setAccountStatus_kept wellformed (orLoginFault_eq_ok.mp written)

theorem addressed_legal_iff {operation : Operation} {sessionId : UUID}
    {asks : InstagramLoginSession → Prop}
    (settled : Settled work operation ↔
      ∀ item ∈ work.logins, item.id = sessionId → asks item)
    (missing : work.logins.find? sessionId = none →
      perform work operation ≠ .error illegal)
    (each : ∀ item ∈ work.logins, item.id = sessionId →
      (perform work operation ≠ .error illegal ↔ asks item)) :
    perform work operation ≠ .error illegal ↔ Settled work operation := by
  rw [settled]
  cases found : work.logins.find? sessionId with
  | none =>
      exact ⟨fun _ item member same =>
        absurd same (Table.find?_eq_none.mp found item member),
        fun _ => missing found⟩
  | some item =>
      obtain ⟨member, same⟩ := Table.find?_eq_some.mp found
      rw [each item member same]
      constructor
      · intro asked other present here
        rw [Table.eq_of_key_eq present member (here.trans same.symm)]
        exact asked
      · intro all
        exact all item member same

theorem status_legal_iff (wellformed : Wellformed work) (now : Time)
    (sessionId : UUID) :
    perform work (.status now sessionId) ≠ .error illegal ↔
      Settled work (.status now sessionId) := by
  apply addressed_legal_iff Iff.rfl
  · intro missing
    simp only [perform, status, missing]
    exact fun clash => by cases clash
  · intro item member same
    subst same
    rcases status_cases wellformed member now with
      ⟨due, ⟨restorable, after, closes, _⟩ | ⟨stuck, refused⟩⟩ |
      ⟨early, stays⟩
    · rw [closes]
      exact ⟨fun _ _ _ => restorable, fun _ clash => by cases clash⟩
    · exact ⟨fun legal => absurd refused legal,
        fun asked => absurd (asked due.1 due.2) stuck⟩
    · rw [stays]
      exact ⟨fun _ isOpen due => absurd due (early isOpen).not_ge,
        fun _ clash => by cases clash⟩

theorem cancel_legal_iff (wellformed : Wellformed work) (now : Time)
    (sessionId : UUID) :
    perform work (.cancel now sessionId) ≠ .error illegal ↔
      Settled work (.cancel now sessionId) := by
  apply addressed_legal_iff Iff.rfl
  · intro missing
    simp only [perform, cancelInTransaction, missing]
    exact fun clash => by cases clash
  · intro item member same
    subst same
    rcases cancel_cases wellformed member now with
      ⟨isOpen, ⟨restorable, after, closes, _⟩ | ⟨stuck, refused⟩⟩ |
      ⟨shut, stays⟩
    · rw [closes]
      exact ⟨fun _ _ => restorable, fun _ clash => by cases clash⟩
    · exact ⟨fun legal => absurd refused legal,
        fun asked => absurd (asked isOpen) stuck⟩
    · rw [stays, shut]
      exact ⟨fun _ => fun open_ => (by cases open_),
        fun _ clash => by cases clash⟩

theorem complete_legal_iff (wellformed : Wellformed work) (now : Time)
    (sessionId : UUID) :
    perform work (.complete now sessionId) ≠ .error illegal ↔
      Settled work (.complete now sessionId) := by
  apply addressed_legal_iff Iff.rfl
  · intro missing
    simp only [perform, complete, missing]
    exact fun clash => by cases clash
  · intro item member same
    subst same
    rcases complete_cases wellformed member now with
      ⟨due, ⟨restorable, after, closes, _⟩ | ⟨stuck, refused⟩⟩ |
      ⟨⟨active, early⟩, ⟨movable, after, completes, _⟩ | ⟨stuck, refused⟩⟩ |
      ⟨early, idle, stays⟩
    · rw [closes]
      exact ⟨fun _ => ⟨fun _ _ => restorable,
        fun _ early => absurd due.2 early.not_ge⟩,
        fun _ clash => by cases clash⟩
    · exact ⟨fun legal => absurd refused legal,
        fun asked => absurd (asked.1 due.1 due.2) stuck⟩
    · rw [completes]
      exact ⟨fun _ => ⟨fun _ due => absurd due early.not_ge,
        fun _ _ => movable⟩, fun _ clash => by cases clash⟩
    · exact ⟨fun legal => absurd refused legal,
        fun asked => absurd (asked.2 active early) stuck⟩
    · rw [stays]
      exact ⟨fun _ => ⟨fun isOpen due => absurd due (early isOpen).not_ge,
        fun active => absurd active idle⟩, fun _ clash => by cases clash⟩

theorem create_legal_iff (wellformed : Wellformed work) (now : Time)
    (sessionId : UUID) (token : String) (accountId : UUID) (ttl : Time)
    (allowed : Bool) :
    perform work (.create now sessionId token accountId ttl allowed) ≠
        .error illegal ↔
      Settled work (.create now sessionId token accountId ttl allowed) := by
  simp only [perform, create, Settled]
  by_cases lifetime : ttl ≠ 0 ∧ ttl ≤ DEFAULT_LOGIN_TTL
  · rcases createInTransaction_cases wellformed lifetime with
      ⟨stuck, refused⟩ | ⟨restorable, ⟨after, succeeded, _⟩ |
        ⟨fault, ordinary, refused⟩ | ⟨refused, _⟩⟩
    · rw [refused]
      exact ⟨fun legal => absurd rfl legal,
        fun settled => absurd (settled lifetime) stuck⟩
    · rw [succeeded]
      exact ⟨fun _ _ => restorable, nofun⟩
    · rw [refused]
      refine ⟨fun _ _ => restorable, fun _ raised => ?_⟩
      split at raised
      · cases raised
      · cases raised
        exact ordinary.legal rfl
    · rw [refused]
      exact ⟨fun _ _ => restorable, nofun⟩
  · have refused : ttl = 0 ∨ ttl > DEFAULT_LOGIN_TTL := by
      by_contra valid
      simp only [not_or, not_lt] at valid
      exact lifetime valid
    simp only [createInTransaction, if_pos refused]
    exact ⟨fun _ valid => absurd valid lifetime, nofun⟩

theorem legal_iff (wellformed : Wellformed work) (operation : Operation) :
    (operation.closes = true → perform work operation ≠ .error illegal) ↔
      Settled work operation := by
  cases operation with
  | create now sessionId token accountId ttl allowed =>
      rw [← create_legal_iff wellformed]
      exact ⟨fun legal => legal rfl, fun legal _ => legal⟩
  | activate => exact ⟨fun _ => trivial, nofun⟩
  | status now sessionId =>
      rw [← status_legal_iff wellformed]
      exact ⟨fun legal => legal rfl, fun legal _ => legal⟩
  | cancel now sessionId =>
      rw [← cancel_legal_iff wellformed]
      exact ⟨fun legal => legal rfl, fun legal _ => legal⟩
  | complete now sessionId =>
      rw [← complete_legal_iff wellformed]
      exact ⟨fun legal => legal rfl, fun legal _ => legal⟩
  | setAccountStatus => exact ⟨fun _ => trivial, nofun⟩

theorem holds_of_settled (wellformed : Wellformed work) {operation : Operation}
    {after : Workspace} (stepped : next work operation = some after)
    (settled : Settled work operation) : Holds work operation after where
  legal := (legal_iff wellformed operation).mpr settled
  cancelled := by
    intro now sessionId same item member here
    subst same
    subst here
    rcases cancel_cases wellformed member now with
      ⟨_, ⟨_, left, closes, _, gone⟩ | ⟨_, refused⟩⟩ | ⟨shut, stays⟩
    · rw [next, closes] at stepped
      cases stepped
      exact gone
    · exact absurd refused ((cancel_legal_iff wellformed now item.id).mpr
        settled)
    · rw [next, stays] at stepped
      cases stepped
      exact ⟨item, member, rfl, shut⟩
  expired := by
    intro now sessionId same item member here due isOpen
    subst same
    subst here
    rcases status_cases wellformed member now with
      ⟨_, ⟨_, left, closes, _, gone⟩ | ⟨_, refused⟩⟩ | ⟨early, _⟩
    · rw [next, closes] at stepped
      cases stepped
      exact gone
    · exact absurd refused ((status_legal_iff wellformed now item.id).mpr
        settled)
    · exact absurd due (early isOpen).not_ge
  unblocked := by
    intro now sessionId token accountId ttl allowed same out
    subst same
    by_cases lifetime : ttl = 0 ∨ ttl > DEFAULT_LOGIN_TTL
    · unfold createInTransaction
      rw [if_pos lifetime]
      exact fun raised => absurd (Except.error.inj raised) (by decide)
    · simp only [not_or, not_lt] at lifetime
      rcases createInTransaction_cases wellformed lifetime with
        ⟨_, refused⟩ | ⟨_, ⟨left, succeeded, _⟩ | ⟨fault, ordinary, refused⟩ |
          ⟨_, item, member, owner, isOpen, early⟩⟩
      · rw [refused]
        exact nofun
      · rw [succeeded]
        exact nofun
      · rw [refused]
        exact fun raised => ordinary.free (Except.error.inj raised)
      · exact absurd (out item member owner isOpen) early.not_ge

end

/-- Whatever the Collector makes of the accounts between the operations, no
closing operation raises an illegal transition, and what is due is closed,
exactly if each account may move where its session leads back to. -/
theorem logins_close (work : Workspace) (wellformed : Wellformed work)
    (operations : List Operation) :
    Along next Holds work operations ↔ Meets next Settled work operations := by
  have exact : ∀ work operation after, Wellformed work →
      next work operation = some after →
      (Holds work operation after ↔ Settled work operation) ∧
        (Settled work operation → Wellformed after) := by
    intro work operation after wellformed stepped
    refine ⟨⟨fun holds => (legal_iff wellformed operation).mp holds.legal,
      holds_of_settled wellformed stepped⟩, fun _ => ?_⟩
    unfold next at stepped
    split at stepped
    · rename_i performed
      cases stepped
      exact wellformed_perform wellformed performed
    · cases stepped
      exact wellformed
  exact along_iff_meets exact wellformed

def reauthWorkspace : Workspace where
  database := { Database.empty with
    accounts := ⟨[⟨1, .reauthRequired, none, none, none⟩], by decide⟩ }
  logins := .empty
  settings := .empty
  reserves := .empty

theorem reauthWorkspace_wellformed : Wellformed reauthWorkspace :=
  ⟨fun _ member => absurd member (Table.not_mem_empty _),
    fun _ member => absurd member (Table.not_mem_empty _)⟩

def openLoginSession : Operation := .create 0 7 "token" 1 100 false

/-- The Collector meets a limit while a session that began with
`reauth_required` is open: neither cancelling it nor, when it has run out, another
session is possible. -/
def limitedDuringLogin : List Operation :=
  [openLoginSession, .setAccountStatus 1 1 .connected none,
    .setAccountStatus 2 1 .temporarilyLimited none]

theorem limited_login_stays_open :
    Wellformed reauthWorkspace ∧
      ¬ Along next Holds reauthWorkspace
        (limitedDuringLogin ++ [.cancel 3 7]) ∧
      ∃ work, run next reauthWorkspace limitedDuringLogin = some work ∧
        perform work (.cancel 3 7) = .error illegal ∧
        perform work (.status 200 7) = .error illegal ∧
        perform work (.create 200 8 "other" 1 100 false) = .error illegal := by
  refine ⟨reauthWorkspace_wellformed, ?_, _, rfl, by rfl, by rfl, by rfl⟩
  intro along
  obtain ⟨_, along⟩ := along _ rfl
  obtain ⟨_, along⟩ := along _ rfl
  obtain ⟨_, along⟩ := along _ rfl
  obtain ⟨holds, _⟩ := along _ rfl
  exact holds.legal rfl (by rfl)

/-- A session during which the account stays connecting is cancelled. -/
theorem logins_close_uninterrupted :
    Along next Holds reauthWorkspace
      [openLoginSession, .activate 1 7 "token", .cancel 3 7] :=
  (logins_close reauthWorkspace reauthWorkspace_wellformed _).mpr (by decide)

end OfflineReels.Management.LoginLifecycle
