import OfflineReels.Management.LoginLifecycle

namespace OfflineReels.Management.LoginMachine

open OfflineReels.Foundation
open OfflineReels.Instagram
open LoginSessions LoginLifecycle

/-! The machine of the login sessions of one account, which nothing else
moves. -/

def statusOf (work : Workspace) (accountId : UUID) : AccountStatus :=
  Collector.Persistence.accountStatus work.database accountId

def OfService : Operation → Prop
  | .setAccountStatus .. => False
  | _ => True

instance : ∀ operation, Decidable (OfService operation)
  | .setAccountStatus .. => .isFalse id
  | .create .. | .activate .. | .status .. | .cancel .. | .complete .. =>
      .isTrue trivial

/-- The steps of a session; one that has ended stays as it is. -/
def Follows : LoginSessionStatus → LoginSessionStatus → Prop
  | .pending, after =>
      after ∈ [LoginSessionStatus.pending, .active, .expired, .cancelled]
  | .active, after =>
      after ∈ [LoginSessionStatus.active, .completed, .expired, .cancelled]
  | before, after => after = before

instance : ∀ before after, Decidable (Follows before after)
  | .pending, _ => inferInstanceAs (Decidable (_ ∈ _))
  | .active, _ => inferInstanceAs (Decidable (_ ∈ _))
  | .completed, _ | .expired, _ | .cancelled, _ =>
      inferInstanceAs (Decidable (_ = _))

def Rewritten (item left : InstagramLoginSession) : Prop :=
  left.id = item.id ∧ left.accountId = item.accountId ∧
    left.priorAccountStatus = item.priorAccountStatus

/-- One session ends without a login, and its account gets its status back. -/
structure Shut (work after : Workspace) (item left : InstagramLoginSession) :
    Prop where
  member : item ∈ work.logins
  isOpen : item.status.isOpen = true
  same : Rewritten item left
  ended : left.status = .expired ∨ left.status = .cancelled
  logins : after.logins = work.logins.put left
  statuses : statusOf after =
    Function.update (statusOf work) item.accountId item.priorAccountStatus

structure Activated (work after : Workspace)
    (item left : InstagramLoginSession) : Prop where
  member : item ∈ work.logins
  pending : item.status = .pending
  same : Rewritten item left
  active : left.status = .active
  logins : after.logins = work.logins.put left
  statuses : statusOf after = statusOf work

structure Completed (work after : Workspace)
    (item left : InstagramLoginSession) : Prop where
  member : item ∈ work.logins
  active : item.status = .active
  same : Rewritten item left
  completed : left.status = .completed
  logins : after.logins = work.logins.put left
  statuses : statusOf after =
    Function.update (statusOf work) item.accountId .connected

structure Opened (work after : Workspace) (opened : InstagramLoginSession) :
    Prop where
  absent : ∀ item ∈ work.logins, item.id ≠ opened.id
  pending : opened.status = .pending
  prior : opened.priorAccountStatus = statusOf work opened.accountId
  logins : ∀ item, item ∈ after.logins ↔ item ∈ work.logins ∨ item = opened
  statuses :
    (opened.priorAccountStatus = .connected ∧ statusOf after = statusOf work) ∨
      (opened.priorAccountStatus ∈
          [AccountStatus.disconnected, .reauthRequired] ∧
        statusOf after =
          Function.update (statusOf work) opened.accountId .connecting)

structure Idle (work after : Workspace) : Prop where
  logins : after.logins = work.logins
  statuses : statusOf after = statusOf work

theorem statusOf_writeAccount {work : Workspace}
    {account written : InstagramAccount} {accountId : UUID}
    (found : work.database.accounts.find? accountId = some account)
    (same : written.id = accountId) :
    statusOf (work.writeAccount written) =
      Function.update (statusOf work) accountId written.status := by
  funext other
  unfold statusOf
  by_cases here : other = accountId
  · subst here
    rw [Function.update_self]
    exact Collector.Persistence.accountStatus_found
      (Table.find?_put_self found same)
  · have apart : written.id ≠ other := fun clash => here (clash.symm.trans same)
    rw [Function.update_of_ne here]
    exact Collector.Persistence.accountStatus_congr
      (Table.find?_put_other apart)

theorem statusOf_ensureAccount {work : Workspace} {accountId : UUID}
    {database : Database}
    (ensured : Collector.Persistence.ensureAccount work.database accountId =
      .ok database) : statusOf { work with database } = statusOf work := by
  unfold Collector.Persistence.ensureAccount at ensured
  split at ensured
  · cases ensured
    rfl
  · rename_i absent
    unfold Database.insertAccount at ensured
    split at ensured
    · cases ensured
    · rename_i accounts inserted
      cases ensured
      funext other
      unfold statusOf
      by_cases here : other = accountId
      · subst here
        have fresh : ({ work.database with accounts } :
            Database).accounts.find? other =
              some (Collector.Persistence.disconnectedAccount other) :=
          Table.find?_insert?_self inserted
        rw [Collector.Persistence.accountStatus_absent absent,
          Collector.Persistence.accountStatus_found fresh]
        rfl
      · have kept : ({ work.database with accounts } :
            Database).accounts.find? other =
              work.database.accounts.find? other :=
          Table.find?_insert?_other inserted here
        exact Collector.Persistence.accountStatus_congr kept

theorem idle_refl (work : Workspace) : Idle work work := ⟨rfl, rfl⟩

section

variable {work after : Workspace} {item : InstagramLoginSession}

theorem shut_of_restored {now : Time} {status : LoginSessionStatus}
    {reason : ReasonCode} (member : item ∈ work.logins)
    (isOpen : item.status.isOpen = true)
    (ended : status = .expired ∨ status = .cancelled)
    (restored : restoreAccount
      (work.writeLogin (closed item now status reason))
      (closed item now status reason) = .ok after) :
    Shut work after item (closed item now status reason) := by
  obtain ⟨account, found, rfl⟩ := restoreAccount_eq_ok restored
  exact {
    member := member
    isOpen := isOpen
    same := ⟨rfl, rfl, rfl⟩
    ended := ended
    logins := rfl
    statuses := statusOf_writeAccount found
      (Table.find?_eq_some.mp found).2 }

theorem expireLocked_effect {now : Time} {left : InstagramLoginSession}
    (member : item ∈ work.logins)
    (expired : expireLocked work now item = .ok (after, left)) :
    (Shut work after item left ∧ left.status = .expired) ∨
      (after = work ∧ left = item) := by
  rcases expireLocked_eq_ok expired with
    ⟨isOpen, _, rfl, restored⟩ | ⟨_, same, rfl⟩
  · exact .inl ⟨shut_of_restored member isOpen (.inl rfl) restored, rfl⟩
  · exact .inr ⟨rfl, same⟩

theorem status_effect {now : Time} {sessionId : UUID}
    {answer : Option LoginSessionStatus}
    (succeeded : status work now sessionId = .ok (after, answer)) :
    Idle work after ∨ ∃ item left, Shut work after item left := by
  unfold status at succeeded
  split at succeeded
  · cases succeeded
    exact .inl (idle_refl work)
  · rename_i item found
    have member := (Table.find?_eq_some.mp found).1
    obtain ⟨⟨swept, left⟩, expired, shape⟩ := map_eq_ok succeeded
    cases shape
    rcases expireLocked_effect member (orLoginFault_eq_ok.mp expired) with
      ⟨shut, _⟩ | ⟨rfl, _⟩
    · exact .inr ⟨item, left, shut⟩
    · exact .inl (idle_refl _)

theorem cancel_effect {now : Time} {sessionId : UUID}
    {answer : LoginSessionStatus}
    (succeeded : cancelInTransaction work now sessionId =
      .ok (after, answer)) :
    Idle work after ∨ ∃ item left, Shut work after item left := by
  unfold cancelInTransaction at succeeded
  split at succeeded
  · cases succeeded
  · rename_i item found
    have member := (Table.find?_eq_some.mp found).1
    obtain ⟨⟨swept, left⟩, expired, rest⟩ := bind_eq_ok succeeded
    dsimp only at rest
    rcases expireLocked_effect member (orLoginFault_eq_ok.mp expired) with
      ⟨shut, ended⟩ | ⟨rfl, rfl⟩
    · rw [ended] at rest
      cases rest
      exact .inr ⟨item, left, shut⟩
    · split at rest
      · cases rest
        exact .inl (idle_refl _)
      · rename_i isOpen
        obtain ⟨restored, performed, shape⟩ := map_eq_ok rest
        cases shape
        exact .inr ⟨_, _, shut_of_restored member (by simpa using isOpen)
          (.inr rfl) (orLoginFault_eq_ok.mp performed)⟩

theorem activate_effect {now : Time} {sessionId : UUID} {token : String}
    {answer : LoginSessionStatus}
    (succeeded : activate work now sessionId token = .ok (after, answer)) :
    ∃ item left, item.id = sessionId ∧ Activated work after item left := by
  unfold activate at succeeded
  split at succeeded
  · cases succeeded
  · rename_i item found
    obtain ⟨member, here⟩ := Table.find?_eq_some.mp found
    split at succeeded
    · cases succeeded
    · obtain ⟨⟨swept, left⟩, expired, rest⟩ := bind_eq_ok succeeded
      dsimp only at rest
      split at rest
      · cases rest
      · rename_i waiting
        rw [not_not] at waiting
        cases rest
        rcases expireLocked_effect member (orLoginFault_eq_ok.mp expired) with
          ⟨_, ended⟩ | ⟨rfl, rfl⟩
        · rw [ended] at waiting
          cases waiting
        · exact ⟨left, { left with status := .active }, here, {
            member := member
            pending := waiting
            same := ⟨rfl, rfl, rfl⟩
            active := rfl
            logins := rfl
            statuses := rfl }⟩

theorem connectAccount_effect {now : Time}
    (connected : connectAccount work now item = .ok after) :
    after.logins = work.logins ∧ statusOf after =
      Function.update (statusOf work) item.accountId .connected := by
  unfold connectAccount at connected
  split at connected
  · cases connected
  · rename_i account found
    have here := (Table.find?_eq_some.mp found).2
    dsimp only at connected
    split at connected
    · cases connected
      exact ⟨rfl, statusOf_writeAccount found here⟩
    · obtain ⟨_, _, rfl⟩ := map_eq_ok connected
      exact ⟨rfl, statusOf_writeAccount found here⟩

theorem complete_effect {now : Time} {sessionId : UUID}
    {answer : LoginSessionStatus}
    (succeeded : complete work now sessionId = .ok (after, answer)) :
    Idle work after ∨ (∃ item left, Shut work after item left) ∨
      ∃ item left, Completed work after item left := by
  unfold complete at succeeded
  split at succeeded
  · cases succeeded
  · rename_i item found
    have member := (Table.find?_eq_some.mp found).1
    obtain ⟨⟨swept, left⟩, expired, rest⟩ := bind_eq_ok succeeded
    dsimp only at rest
    rcases expireLocked_effect member (orLoginFault_eq_ok.mp expired) with
      ⟨shut, ended⟩ | ⟨rfl, rfl⟩
    · rw [ended] at rest
      cases rest
      exact .inr (.inl ⟨item, left, shut⟩)
    · split at rest
      · cases rest
        exact .inl (idle_refl _)
      · rename_i active
        rw [not_not] at active
        obtain ⟨connected, performed, shape⟩ := map_eq_ok rest
        cases shape
        obtain ⟨logins, statuses⟩ :=
          connectAccount_effect (orLoginFault_eq_ok.mp performed)
        refine .inr (.inr ⟨left, { left with
            status := .completed
            closedAt := some now }, {
          member := member
          active := active
          same := ⟨rfl, rfl, rfl⟩
          completed := rfl
          logins := ?_
          statuses := statuses }⟩)
        rw [← logins]
        rfl

theorem openLogin_effect {now : Time} {sessionId : UUID} {token : String}
    {accountId : UUID} {ttl : Time} {allowed : Bool}
    {created : CreatedLoginSession}
    (succeeded : openLogin work now sessionId token accountId ttl allowed =
      .ok (after, created)) :
    ∃ opened, opened.accountId = accountId ∧ Opened work after opened := by
  unfold openLogin at succeeded
  split at succeeded
  · cases succeeded
  · rename_i account found
    obtain ⟨begun, began, succeeded⟩ := bind_eq_ok succeeded
    obtain ⟨inserted, insertion, succeeded⟩ := bind_eq_ok succeeded
    cases succeeded
    obtain ⟨logins, inserts, _, rfl⟩ :=
      insertLogin_eq_ok (orLoginFault_eq_ok.mp insertion)
    have status : statusOf work accountId = account.status := by
      unfold statusOf Collector.Persistence.accountStatus
      rw [found]
    have sameLogins : begun.logins = work.logins := by
      rcases beginLogin_eq_ok began with ⟨_, rfl⟩ | ⟨_, rfl⟩
      · rfl
      · rfl
    refine ⟨⟨sessionId, accountId, .pending, account.status, ⟨token⟩, none,
      now + ttl, none⟩, rfl, {
      absent := ?_
      pending := rfl
      prior := status.symm
      logins := ?_
      statuses := ?_ }⟩
    · rw [← sameLogins]
      exact (Table.insert?_eq_some inserts).1
    · intro item
      rw [← sameLogins]
      exact Table.mem_insert? inserts
    · rcases beginLogin_eq_ok began with ⟨connected, rfl⟩ | ⟨begins, rfl⟩
      · exact .inl ⟨connected, rfl⟩
      · exact .inr ⟨begins, statusOf_writeAccount found
          (Table.find?_eq_some.mp found).2⟩

theorem create_effect (wellformed : Wellformed work) {now : Time}
    {sessionId : UUID} {token : String} {accountId : UUID} {ttl : Time}
    {allowed : Bool} {created : CreatedLoginSession}
    (succeeded : createInTransaction work now sessionId token accountId ttl
      allowed = .ok (after, created)) :
    ∃ middle opened, (Idle work middle ∨ ∃ item left,
        item.accountId = accountId ∧ Shut work middle item left) ∧
      opened.accountId = accountId ∧ Opened middle after opened := by
  unfold createInTransaction at succeeded
  split at succeeded
  · cases succeeded
  · obtain ⟨⟨swept, stillOpen⟩, expired, succeeded⟩ := bind_eq_ok succeeded
    dsimp only at succeeded
    split at succeeded
    · cases succeeded
    · obtain ⟨database, ensured, succeeded⟩ := bind_eq_ok succeeded
      have same := statusOf_ensureAccount (orLoginFault_eq_ok.mp ensured)
      have effect := openLogin_effect succeeded
      obtain ⟨opened, owner, effect⟩ := effect
      refine ⟨{ swept with database }, opened, ?_, owner, effect⟩
      have expired := orLoginFault_eq_ok.mp expired
      rcases openOf_cases wellformed accountId with ⟨empty, _⟩ |
        ⟨item, member, here, _, single, _⟩
      · rw [empty] at expired
        cases expired
        exact .inl ⟨rfl, same⟩
      · rw [single] at expired
        obtain ⟨⟨first, left⟩, expires, expired⟩ := bind_eq_ok expired
        cases expired
        rcases expireLocked_effect member expires with ⟨shut, _⟩ | ⟨rfl, _⟩
        · exact .inr ⟨item, left, here, { shut with
            logins := shut.logins
            statuses := same.trans shut.statuses }⟩
        · exact .inl ⟨rfl, same⟩

end

/-- An open session has its account connecting, or it began in a connected one
that still is; without one the account is not connecting. -/
structure Coupled (work : Workspace) (accountId : UUID) : Prop where
  began : ∀ item ∈ work.logins, item.accountId = accountId →
    item.status.isOpen = true →
      (item.priorAccountStatus ∈
          [AccountStatus.disconnected, .reauthRequired] ∧
        statusOf work accountId = .connecting) ∨
        (item.priorAccountStatus = .connected ∧
          statusOf work accountId = .connected)
  resting : (∀ item ∈ work.logins, item.accountId = accountId →
    item.status.isOpen = false) → statusOf work accountId ≠ .connecting

/-- The account connects exactly while a session is open that did not begin in
a connected one. -/
theorem Coupled.connecting_iff {work : Workspace} {accountId : UUID}
    (coupled : Coupled work accountId) :
    statusOf work accountId = .connecting ↔
      ∃ item ∈ work.logins, item.accountId = accountId ∧
        item.status.isOpen = true ∧ item.priorAccountStatus ≠ .connected := by
  constructor
  · intro connecting
    by_contra none
    refine coupled.resting (fun item member owner => ?_) connecting
    cases isOpen : item.status.isOpen with
    | false => rfl
    | true =>
        rcases coupled.began item member owner isOpen with
          ⟨begun, _⟩ | ⟨_, connected⟩
        · refine absurd ⟨item, member, owner, isOpen, fun prior => ?_⟩ none
          rw [prior] at begun
          exact absurd begun (by decide)
        · rw [connected] at connecting
          cases connecting
  · intro ⟨item, member, owner, isOpen, prior⟩
    rcases coupled.began item member owner isOpen with
      ⟨_, connecting⟩ | ⟨connected, _⟩
    · exact connecting
    · exact absurd connected prior

section

variable {work after : Workspace} {item left : InstagramLoginSession}

theorem rewritten_cases (logins : after.logins = work.logins.put left)
    (member : item ∈ work.logins) (same : left.id = item.id)
    {before kept : InstagramLoginSession} (present : before ∈ work.logins)
    (remains : kept ∈ after.logins) (identity : kept.id = before.id) :
    (before = item ∧ kept = left) ∨ (kept.id ≠ left.id ∧ kept = before) := by
  rw [logins] at remains
  rcases Table.mem_put.mp remains with ⟨rfl, _⟩ | ⟨old, apart⟩
  · have here : before = item :=
      Table.eq_of_key_eq present member (identity.symm.trans same)
    exact .inl ⟨here, rfl⟩
  · exact .inr ⟨apart, Table.eq_of_key_eq old present identity⟩

theorem origin_of_put (logins : after.logins = work.logins.put left)
    {kept : InstagramLoginSession} (remains : kept ∈ after.logins) :
    ∃ before ∈ work.logins, before.id = kept.id := by
  rw [logins] at remains
  exact Table.exists_key_put.mp ⟨kept, remains, rfl⟩

theorem kept_of_put (logins : after.logins = work.logins.put left)
    (member : item ∈ work.logins) (same : left.id = item.id)
    {before : InstagramLoginSession} (present : before ∈ work.logins) :
    (before = item ∧ left ∈ after.logins) ∨ before ∈ after.logins := by
  rw [logins]
  by_cases here : before.id = left.id
  · have equal : before = item :=
      Table.eq_of_key_eq present member (here.trans same)
    exact .inl ⟨equal, Table.mem_put.mpr (.inl ⟨rfl, before, present, here⟩)⟩
  · exact .inr (Table.mem_put.mpr (.inr ⟨present, here⟩))

theorem follows_refl (status : LoginSessionStatus) :
    Follows status status := by
  cases status <;> decide

theorem rewritten_refl (item : InstagramLoginSession) : Rewritten item item :=
  ⟨rfl, rfl, rfl⟩

def Proceeds (work after : Workspace) : Prop :=
  ∀ item ∈ work.logins, ∃ left ∈ after.logins, Rewritten item left ∧
    Follows item.status left.status

theorem proceeds_put (logins : after.logins = work.logins.put left)
    (member : item ∈ work.logins) (same : Rewritten item left)
    (follows : Follows item.status left.status) : Proceeds work after := by
  intro before present
  rcases kept_of_put logins member same.1 present with
    ⟨rfl, remains⟩ | remains
  · exact ⟨left, remains, same, follows⟩
  · exact ⟨before, remains, rewritten_refl before, follows_refl before.status⟩

theorem Idle.proceeds (idle : Idle work after) : Proceeds work after := by
  intro item member
  rw [idle.logins]
  exact ⟨item, member, rewritten_refl item, follows_refl item.status⟩

theorem Shut.follows (shut : Shut work after item left) :
    Follows item.status left.status := by
  have isOpen := shut.isOpen
  rcases shut.ended with ended | ended
  · rw [ended]
    revert isOpen
    cases item.status <;> decide
  · rw [ended]
    revert isOpen
    cases item.status <;> decide

theorem Shut.proceeds (shut : Shut work after item left) :
    Proceeds work after :=
  proceeds_put shut.logins shut.member shut.same shut.follows

theorem Activated.proceeds (activated : Activated work after item left) :
    Proceeds work after :=
  proceeds_put activated.logins activated.member activated.same (by
    rw [activated.pending, activated.active]
    decide)

theorem Completed.proceeds (completed : Completed work after item left) :
    Proceeds work after :=
  proceeds_put completed.logins completed.member completed.same (by
    rw [completed.active, completed.completed]
    decide)

theorem Idle.coupled (idle : Idle work after) {accountId : UUID}
    (coupled : Coupled work accountId) : Coupled after accountId where
  began := by
    rw [idle.logins, idle.statuses]
    exact coupled.began
  resting := by
    rw [idle.logins, idle.statuses]
    exact coupled.resting

theorem coupled_of_other (logins : after.logins = work.logins.put left)
    (member : item ∈ work.logins) (same : Rewritten item left)
    {accountId : UUID} (other : item.accountId ≠ accountId)
    (status : statusOf after accountId = statusOf work accountId)
    (coupled : Coupled work accountId) : Coupled after accountId := by
  have before : ∀ kept, kept.accountId = accountId →
      (kept ∈ after.logins ↔ kept ∈ work.logins) := by
    intro kept owner
    rw [logins, Table.mem_put]
    constructor
    · intro remains
      rcases remains with ⟨rfl, _⟩ | ⟨present, _⟩
      · exact absurd (same.2.1.symm.trans owner) other
      · exact present
    · intro present
      refine .inr ⟨present, fun clash => ?_⟩
      have here : kept = item :=
        Table.eq_of_key_eq present member (clash.trans same.1)
      exact other (here ▸ owner)
  constructor
  · intro kept remains owner isOpen
    rw [status]
    exact coupled.began kept ((before kept owner).mp remains) owner isOpen
  · intro closed
    rw [status]
    exact coupled.resting fun kept present owner =>
      closed kept ((before kept owner).mpr present) owner

theorem coupled_of_ended (wellformed : Wellformed work)
    (logins : after.logins = work.logins.put left)
    (member : item ∈ work.logins) (isOpen : item.status.isOpen = true)
    (same : Rewritten item left) (ended : left.status.isOpen = false)
    (status : statusOf after item.accountId ≠ .connecting) :
    Coupled after item.accountId where
  began := by
    intro kept remains owner opens
    rw [logins] at remains
    rcases Table.mem_put.mp remains with ⟨rfl, _⟩ | ⟨present, apart⟩
    · rw [ended] at opens
      cases opens
    · have here := wellformed.openOnce present member owner opens isOpen
      rw [here] at apart
      exact absurd same.1.symm apart
  resting := fun _ => status

theorem Shut.coupled (wellformed : Wellformed work)
    (shut : Shut work after item left) {accountId : UUID}
    (coupled : Coupled work accountId) : Coupled after accountId := by
  by_cases here : item.accountId = accountId
  · subst here
    refine coupled_of_ended wellformed shut.logins shut.member shut.isOpen
      shut.same ?_ ?_
    · rcases shut.ended with ended | ended
      · rw [ended]
        rfl
      · rw [ended]
        rfl
    · rw [shut.statuses, Function.update_self]
      rcases coupled.began item shut.member rfl shut.isOpen with
        ⟨begun, _⟩ | ⟨prior, _⟩
      · intro connecting
        rw [connecting] at begun
        exact absurd begun (by decide)
      · rw [prior]
        decide
  · refine coupled_of_other shut.logins shut.member shut.same here ?_ coupled
    rw [shut.statuses, Function.update_of_ne (Ne.symm here)]

theorem Completed.coupled (wellformed : Wellformed work)
    (completed : Completed work after item left) {accountId : UUID}
    (coupled : Coupled work accountId) : Coupled after accountId := by
  by_cases here : item.accountId = accountId
  · subst here
    refine coupled_of_ended wellformed completed.logins completed.member ?_
      completed.same ?_ ?_
    · rw [completed.active]
      rfl
    · rw [completed.completed]
      rfl
    · rw [completed.statuses, Function.update_self]
      decide
  · refine coupled_of_other completed.logins completed.member completed.same
      here ?_ coupled
    rw [completed.statuses, Function.update_of_ne (Ne.symm here)]

theorem Activated.coupled (activated : Activated work after item left)
    {accountId : UUID} (coupled : Coupled work accountId) :
    Coupled after accountId where
  began := by
    intro kept remains owner opens
    rw [activated.statuses]
    rw [activated.logins] at remains
    rcases Table.mem_put.mp remains with ⟨rfl, _⟩ | ⟨present, _⟩
    · rw [activated.same.2.2]
      refine coupled.began item activated.member
        (activated.same.2.1.symm.trans owner) ?_
      rw [activated.pending]
      rfl
    · exact coupled.began kept present owner opens
  resting := by
    intro closed
    rw [activated.statuses]
    refine coupled.resting fun before present owner => ?_
    rcases kept_of_put activated.logins activated.member activated.same.1
      present with ⟨rfl, remains⟩ | remains
    · have shut := closed left remains (activated.same.2.1.trans owner)
      rw [activated.active] at shut
      cases shut
    · exact closed before remains owner

theorem Opened.coupled {opened : InstagramLoginSession}
    (wellformed : Wellformed after) (opens : Opened work after opened)
    {accountId : UUID} (coupled : Coupled work accountId) :
    Coupled after accountId := by
  have present : opened ∈ after.logins := (opens.logins opened).mpr (.inr rfl)
  have isOpen : opened.status.isOpen = true := by
    rw [opens.pending]
    rfl
  by_cases here : opened.accountId = accountId
  · subst here
    constructor
    · intro item member owner running
      have same := wellformed.openOnce member present owner running isOpen
      rw [same]
      rcases opens.statuses with ⟨prior, kept⟩ | ⟨begun, connecting⟩
      · rw [kept, ← opens.prior]
        exact .inr ⟨prior, prior⟩
      · rw [connecting, Function.update_self]
        exact .inl ⟨begun, rfl⟩
    · intro closed
      have shut := closed opened present rfl
      rw [isOpen] at shut
      cases shut
  · have status : statusOf after accountId = statusOf work accountId := by
      rcases opens.statuses with ⟨_, kept⟩ | ⟨_, connecting⟩
      · rw [kept]
      · rw [connecting, Function.update_of_ne (Ne.symm here)]
    constructor
    · intro item member owner running
      rw [status]
      rcases (opens.logins item).mp member with before | rfl
      · exact coupled.began item before owner running
      · exact absurd owner here
    · intro closed
      rw [status]
      exact coupled.resting fun item before owner =>
        closed item ((opens.logins item).mpr (.inl before)) owner

end

/-- What a transaction can do, whether it commits or raises. -/
inductive Effect (work after : Workspace) : Prop
  | idle (idle : Idle work after)
  | shut (item left : InstagramLoginSession)
      (shut : Shut work after item left)
  | activated (item left : InstagramLoginSession)
      (activated : Activated work after item left)
  | completed (item left : InstagramLoginSession)
      (completed : Completed work after item left)
  | opened (middle : Workspace) (opened : InstagramLoginSession)
      (before : Idle work middle ∨ ∃ item left,
        item.accountId = opened.accountId ∧ Shut work middle item left)
      (opens : Opened middle after opened)

theorem create_eq_ok {work : Workspace} {now : Time} {sessionId : UUID}
    {token : String} {accountId : UUID} {ttl : Time} {allowed : Bool}
    {created : Workspace × CreatedLoginSession}
    (succeeded : create work now sessionId token accountId ttl allowed =
      .ok created) :
    createInTransaction work now sessionId token accountId ttl allowed =
      .ok created := by
  unfold create at succeeded
  split at succeeded
  · cases succeeded
  · exact succeeded

theorem next_effect {work after : Workspace} {operation : Operation}
    (wellformed : Wellformed work) (ofService : OfService operation)
    (stepped : next work operation = some after) : Effect work after := by
  unfold next at stepped
  split at stepped
  · rename_i performed
    cases stepped
    cases operation with
    | create now sessionId token accountId ttl allowed =>
        obtain ⟨⟨after, created⟩, succeeded, rfl⟩ := map_eq_ok performed
        obtain ⟨middle, opened, before, rfl, opens⟩ :=
          create_effect wellformed (create_eq_ok succeeded)
        exact .opened middle opened before opens
    | activate now sessionId token =>
        obtain ⟨⟨after, answer⟩, succeeded, rfl⟩ := map_eq_ok performed
        obtain ⟨item, left, _, activated⟩ := activate_effect succeeded
        exact .activated item left activated
    | status now sessionId =>
        obtain ⟨⟨after, answer⟩, succeeded, rfl⟩ := map_eq_ok performed
        rcases status_effect succeeded with idle | ⟨item, left, shut⟩
        · exact .idle idle
        · exact .shut item left shut
    | cancel now sessionId =>
        obtain ⟨⟨after, answer⟩, succeeded, rfl⟩ := map_eq_ok performed
        rcases cancel_effect succeeded with idle | ⟨item, left, shut⟩
        · exact .idle idle
        · exact .shut item left shut
    | complete now sessionId =>
        obtain ⟨⟨after, answer⟩, succeeded, rfl⟩ := map_eq_ok performed
        rcases complete_effect succeeded with
          idle | ⟨item, left, shut⟩ | ⟨item, left, completed⟩
        · exact .idle idle
        · exact .shut item left shut
        · exact .completed item left completed
    | setAccountStatus now accountId status reasonCode =>
        exact absurd ofService id
  · cases stepped
    exact .idle (idle_refl work)

theorem next_wellformed {work after : Workspace} {operation : Operation}
    (wellformed : Wellformed work)
    (stepped : next work operation = some after) : Wellformed after := by
  unfold next at stepped
  split at stepped
  · rename_i performed
    cases stepped
    exact wellformed_perform wellformed performed
  · cases stepped
    exact wellformed

/-- What is to hold of every step. -/
structure Lawful (accountId : UUID) (work after : Workspace) : Prop where
  /-- At most one session of the account is open. -/
  once : ∀ first ∈ after.logins, ∀ second ∈ after.logins,
    first.accountId = accountId → second.accountId = accountId →
    first.status.isOpen = true → second.status.isOpen = true → first = second
  proceeds : Proceeds work after
  /-- A new session is pending. -/
  begins : ∀ left ∈ after.logins,
    (∀ item ∈ work.logins, item.id ≠ left.id) → left.status = .pending
  connecting : statusOf after accountId = .connecting ↔
    ∃ item ∈ after.logins, item.accountId = accountId ∧
      item.status.isOpen = true ∧ item.priorAccountStatus ≠ .connected
  /-- An account gets the recorded status back, unless a session is opened at
  once, which then begins in that status. -/
  restored : ∀ item ∈ work.logins, item.accountId = accountId →
    item.status.isOpen = true → ∀ left ∈ after.logins, left.id = item.id →
    left.status = .expired ∨ left.status = .cancelled →
      statusOf after accountId = item.priorAccountStatus ∨
        ∃ opened ∈ after.logins, opened.accountId = accountId ∧
          (∀ before ∈ work.logins, before.id ≠ opened.id) ∧
          opened.priorAccountStatus = item.priorAccountStatus
  completed : ∀ item ∈ work.logins, item.accountId = accountId →
    item.status.isOpen = true → ∀ left ∈ after.logins, left.id = item.id →
    left.status = .completed → statusOf after accountId = .connected

section

variable {work after : Workspace} {item left : InstagramLoginSession}

theorem Effect.proceeds (effect : Effect work after) :
    Proceeds work after := by
  cases effect with
  | idle idle => exact idle.proceeds
  | shut item left shut => exact shut.proceeds
  | activated item left activated => exact activated.proceeds
  | completed item left completed => exact completed.proceeds
  | opened middle opened before opens =>
      have first : Proceeds work middle := by
        rcases before with idle | ⟨item, left, _, shut⟩
        · exact idle.proceeds
        · exact shut.proceeds
      intro item member
      obtain ⟨left, present, same, follows⟩ := first item member
      exact ⟨left, (opens.logins left).mpr (.inl present), same, follows⟩

theorem Effect.origin (effect : Effect work after)
    (present : left ∈ after.logins) :
    (∃ before ∈ work.logins, before.id = left.id) ∨ left.status = .pending := by
  cases effect with
  | idle idle =>
      rw [idle.logins] at present
      exact .inl ⟨left, present, rfl⟩
  | shut item _ shut => exact .inl (origin_of_put shut.logins present)
  | activated item _ activated =>
      exact .inl (origin_of_put activated.logins present)
  | completed item _ completed =>
      exact .inl (origin_of_put completed.logins present)
  | opened middle opened before opens =>
      rcases (opens.logins left).mp present with middle | rfl
      · left
        rcases before with idle | ⟨item, _, _, shut⟩
        · rw [idle.logins] at middle
          exact ⟨_, middle, rfl⟩
        · exact origin_of_put shut.logins middle
      · exact .inr opens.pending

theorem Effect.coupled (effect : Effect work after)
    (wellformed : Wellformed work) (kept : Wellformed after) {accountId : UUID}
    (coupled : Coupled work accountId) : Coupled after accountId := by
  cases effect with
  | idle idle => exact idle.coupled coupled
  | shut item left shut => exact shut.coupled wellformed coupled
  | activated item left activated => exact activated.coupled coupled
  | completed item left completed =>
      exact completed.coupled wellformed coupled
  | opened middle opened before opens =>
      refine opens.coupled kept ?_
      rcases before with idle | ⟨item, left, _, shut⟩
      · exact idle.coupled coupled
      · exact shut.coupled wellformed coupled

theorem Shut.ends (shut : Shut work after item left)
    {before kept : InstagramLoginSession} (present : before ∈ work.logins)
    (isOpen : before.status.isOpen = true) (remains : kept ∈ after.logins)
    (identity : kept.id = before.id) :
    (before = item ∧ kept = left) ∨ kept.status.isOpen = true := by
  rcases rewritten_cases shut.logins shut.member shut.same.1 present remains
    identity with ends | ⟨_, rfl⟩
  · exact .inl ends
  · exact .inr isOpen

theorem Effect.ends (effect : Effect work after)
    (present : item ∈ work.logins) (isOpen : item.status.isOpen = true)
    (remains : left ∈ after.logins) (identity : left.id = item.id) :
    left.status.isOpen = true ∨
      (left.status = .completed ∧
        statusOf after item.accountId = .connected) ∨
      ((left.status = .expired ∨ left.status = .cancelled) ∧
        (statusOf after item.accountId = item.priorAccountStatus ∨
          ∃ opened ∈ after.logins, opened.accountId = item.accountId ∧
            (∀ before ∈ work.logins, before.id ≠ opened.id) ∧
            opened.priorAccountStatus = item.priorAccountStatus)) := by
  cases effect with
  | idle idle =>
      rw [idle.logins] at remains
      rw [Table.eq_of_key_eq remains present identity]
      exact .inl isOpen
  | shut _ _ shut =>
      rcases shut.ends present isOpen remains identity with
        ⟨rfl, rfl⟩ | stays
      · refine .inr (.inr ⟨shut.ended, .inl ?_⟩)
        rw [shut.statuses, Function.update_self]
      · exact .inl stays
  | activated _ _ activated =>
      left
      rcases rewritten_cases activated.logins activated.member
        activated.same.1 present remains identity with ⟨_, rfl⟩ | ⟨_, rfl⟩
      · rw [activated.active]
        rfl
      · exact isOpen
  | completed _ _ completed =>
      rcases rewritten_cases completed.logins completed.member
        completed.same.1 present remains identity with ⟨rfl, rfl⟩ | ⟨_, rfl⟩
      · refine .inr (.inl ⟨completed.completed, ?_⟩)
        rw [completed.statuses, Function.update_self]
      · exact .inl isOpen
  | opened middle opened before opens =>
      have inMiddle : left ∈ middle.logins := by
        rcases (opens.logins left).mp remains with middle | rfl
        · exact middle
        · have proceeds : Proceeds work middle := by
            rcases before with idle | ⟨_, _, _, shut⟩
            · exact idle.proceeds
            · exact shut.proceeds
          obtain ⟨kept, there, same, _⟩ := proceeds item present
          exact absurd (same.1.trans identity.symm) (opens.absent kept there)
      rcases before with idle | ⟨_, _, owner, shut⟩
      · rw [idle.logins] at inMiddle
        rw [Table.eq_of_key_eq inMiddle present identity]
        exact .inl isOpen
      · rcases shut.ends present isOpen inMiddle identity with
          ⟨rfl, rfl⟩ | stays
        · refine .inr (.inr ⟨shut.ended, .inr ⟨opened, ?_, owner.symm, ?_, ?_⟩⟩)
          · exact (opens.logins opened).mpr (.inr rfl)
          · intro before there
            obtain ⟨kept, remains, same, _⟩ := shut.proceeds before there
            exact same.1 ▸ opens.absent kept remains
          · rw [opens.prior, shut.statuses, ← owner, Function.update_self]
        · exact .inl stays

/-- Every step of the service is lawful and keeps the invariant. -/
theorem next_lawful {accountId : UUID} {operation : Operation}
    (wellformed : Wellformed work) (coupled : Coupled work accountId)
    (ofService : OfService operation)
    (stepped : next work operation = some after) :
    (Wellformed after ∧ Coupled after accountId) ∧
      Lawful accountId work after := by
  have effect := next_effect wellformed ofService stepped
  have kept := next_wellformed wellformed stepped
  have still := effect.coupled wellformed kept coupled
  refine ⟨⟨kept, still⟩, {
    once := ?_
    proceeds := effect.proceeds
    begins := ?_
    connecting := still.connecting_iff
    restored := ?_
    completed := ?_ }⟩
  · intro first firstMember second secondMember firstOwner secondOwner
    exact kept.openOnce firstMember secondMember
      (firstOwner.trans secondOwner.symm)
  · intro left present fresh
    rcases effect.origin present with ⟨before, there, same⟩ | pending
    · exact absurd same (fresh before there)
    · exact pending
  · intro item member owner isOpen left present same ended
    subst owner
    rcases effect.ends member isOpen present same with
      stays | ⟨completed, _⟩ | ⟨_, restored⟩
    · rcases ended with ended | ended
      · rw [ended] at stays
        cases stays
      · rw [ended] at stays
        cases stays
    · rcases ended with ended | ended
      · rw [ended] at completed
        cases completed
      · rw [ended] at completed
        cases completed
    · exact restored
  · intro item member owner isOpen left present same completed
    subst owner
    rcases effect.ends member isOpen present same with
      stays | ⟨_, connected⟩ | ⟨ended, _⟩
    · rw [completed] at stays
      cases stays
    · exact connected
    · rcases ended with ended | ended
      · rw [completed] at ended
        cases ended
      · rw [completed] at ended
        cases ended

end

def activates (sessionId : UUID) (work : Workspace) : Operation → Bool
  | .activate now other token =>
      other = sessionId && (activate work now other token).isOk
  | _ => false

def activations (sessionId : UUID) : Workspace → List Operation → Nat
  | _, [] => 0
  | work, operation :: rest =>
      (if activates sessionId work operation then 1 else 0) +
        match next work operation with
        | none => 0
        | some after => activations sessionId after rest

def Spent (work : Workspace) (sessionId : UUID) : Prop :=
  ∃ item ∈ work.logins, item.id = sessionId ∧ item.status ≠ .pending

section

variable {work after : Workspace} {sessionId : UUID} {operation : Operation}

theorem Spent.proceeds (spent : Spent work sessionId)
    (proceeds : Proceeds work after) : Spent after sessionId := by
  obtain ⟨item, member, here, used⟩ := spent
  obtain ⟨left, present, same, follows⟩ := proceeds item member
  refine ⟨left, present, same.1.trans here, fun pending => ?_⟩
  rw [pending] at follows
  revert used follows
  cases item.status <;> decide

theorem activates_spends (success : activates sessionId work operation = true)
    (stepped : next work operation = some after) :
    ¬ Spent work sessionId ∧ Spent after sessionId := by
  cases operation with
  | activate now other token =>
      simp only [activates, Bool.and_eq_true, decide_eq_true_eq] at success
      obtain ⟨rfl, succeeded⟩ := success
      cases outcome : activate work now other token with
      | error fault =>
          rw [outcome] at succeeded
          cases succeeded
      | ok result =>
          obtain ⟨reached, answer⟩ := result
          have same : reached = after := by
            simp only [next, perform, outcome] at stepped
            exact Option.some.inj stepped
          subst same
          obtain ⟨item, left, here, activated⟩ := activate_effect outcome
          constructor
          · intro already
            obtain ⟨used, member, identity, spent⟩ := already
            rw [Table.eq_of_key_eq member activated.member
              (identity.trans here.symm)] at spent
            exact spent activated.pending
          · refine ⟨left, ?_, activated.same.1.trans here, ?_⟩
            · rw [activated.logins]
              exact Table.mem_put.mpr (.inl ⟨rfl, item, activated.member,
                activated.same.1.symm⟩)
            · rw [activated.active]
              decide
  | _ => cases success

theorem activations_spent (wellformed : Wellformed work)
    (spent : Spent work sessionId) {operations : List Operation}
    (ofService : ∀ operation ∈ operations, OfService operation) :
    activations sessionId work operations = 0 := by
  induction operations generalizing work with
  | nil => rfl
  | cons operation rest ih =>
      have first := ofService operation List.mem_cons_self
      have others : ∀ operation ∈ rest, OfService operation :=
        fun other member => ofService other (List.mem_cons_of_mem _ member)
      unfold activations
      cases stepped : next work operation with
      | none =>
          unfold next at stepped
          split at stepped <;> cases stepped
      | some after =>
          have idle : activates sessionId work operation = false := by
            rw [← Bool.not_eq_true]
            exact fun success => (activates_spends success stepped).1 spent
          have proceeds :=
            (next_effect wellformed first stepped).proceeds
          simp only [idle, Bool.false_eq_true, if_false]
          rw [ih (next_wellformed wellformed stepped)
            (spent.proceeds proceeds) others]

theorem activations_le_one (wellformed : Wellformed work)
    (sessionId : UUID) {operations : List Operation}
    (ofService : ∀ operation ∈ operations, OfService operation) :
    activations sessionId work operations ≤ 1 := by
  induction operations generalizing work with
  | nil => exact Nat.zero_le 1
  | cons operation rest ih =>
      have others : ∀ operation ∈ rest, OfService operation :=
        fun other member => ofService other (List.mem_cons_of_mem _ member)
      unfold activations
      cases stepped : next work operation with
      | none =>
          dsimp only
          split <;> omega
      | some after =>
          have kept := next_wellformed wellformed stepped
          cases success : activates sessionId work operation with
          | false =>
              simp only [Bool.false_eq_true, if_false, Nat.zero_add]
              exact ih kept others
          | true =>
              have spent := (activates_spends success stepped).2
              simp only [if_true, activations_spent kept spent others]
              exact Nat.le_refl 1

end

end OfflineReels.Management.LoginMachine
