import OfflineReels.Management.LoginMachine

namespace OfflineReels.Management.LoginExpiry

open OfflineReels.Foundation
open OfflineReels.Instagram
open LoginSessions LoginLifecycle LoginMachine

/-! Whether the expiry of a session outlives the operation that finds it. -/

def clock : Operation → Time
  | .create now .. | .activate now .. | .status now .. | .cancel now ..
  | .complete now .. | .setAccountStatus now .. => now

def Addresses (item : InstagramLoginSession) : Operation → Prop
  | .create _ _ _ accountId _ _ => item.accountId = accountId
  | .activate _ sessionId token =>
      item.id = sessionId ∧ item.launchTokenHash = ⟨token⟩
  | .status _ sessionId | .cancel _ sessionId | .complete _ sessionId =>
      item.id = sessionId
  | .setAccountStatus .. => False

instance (item : InstagramLoginSession) :
    ∀ operation, Decidable (Addresses item operation)
  | .create .. | .status .. | .cancel .. | .complete .. =>
      inferInstanceAs (Decidable (_ = _))
  | .activate .. => inferInstanceAs (Decidable (_ ∧ _))
  | .setAccountStatus .. => .isFalse id

def Finds (work : Workspace) (operation : Operation)
    (item : InstagramLoginSession) : Prop :=
  item ∈ work.logins ∧ Addresses item operation ∧
    item.status.isOpen = true ∧ item.expiresAt ≤ clock operation

def Restored (work after : Workspace) (item : InstagramLoginSession) : Prop :=
  statusOf after item.accountId = item.priorAccountStatus ∨
    ∃ opened ∈ after.logins, opened.accountId = item.accountId ∧
      (∀ before ∈ work.logins, before.id ≠ opened.id) ∧
      opened.priorAccountStatus = item.priorAccountStatus

structure Expired (work after : Workspace) (item : InstagramLoginSession) :
    Prop where
  stored : ∃ left ∈ after.logins, Rewritten item left ∧ left.status = .expired
  restored : Restored work after item

/-- Whatever the operation answers or raises, the expiry is stored. -/
def Durable (work : Workspace) (operation : Operation) (after : Workspace) :
    Prop :=
  ∀ item, Finds work operation item → Expired work after item

/-- The statuses in which a login may begin. -/
def startable (allowConnectedProfileCheck : Bool) : List AccountStatus :=
  [.disconnected, .reauthRequired] ++
    if allowConnectedProfileCheck then [.connected] else []

def Fresh (work : Workspace) (sessionId : UUID) (token : String) : Prop :=
  ∀ other ∈ work.logins,
    other.id ≠ sessionId ∧ other.launchTokenHash ≠ ⟨token⟩

instance (work : Workspace) (sessionId : UUID) (token : String) :
    Decidable (Fresh work sessionId token) :=
  inferInstanceAs (Decidable (∀ other ∈ work.logins, _ ∧ _))

def Returns (work : Workspace) (item : InstagramLoginSession) :
    Operation → Prop
  | .create _ sessionId token _ ttl allowed =>
      (ttl ≠ 0 ∧ ttl ≤ DEFAULT_LOGIN_TTL) ∧ Restorable work item ∧
        item.priorAccountStatus ∈ startable allowed ∧
        Fresh work sessionId token
  | .activate .. => False
  | .status .. | .cancel .. | .complete .. => Restorable work item
  | .setAccountStatus .. => True

instance (work : Workspace) (item : InstagramLoginSession) :
    ∀ operation, Decidable (Returns work item operation)
  | .create .. => inferInstanceAs (Decidable (_ ∧ _))
  | .activate .. => .isFalse id
  | .status .. | .cancel .. | .complete .. =>
      inferInstanceAs (Decidable (Restorable _ _))
  | .setAccountStatus .. => .isTrue trivial

/-- No operation that finds a session out of time raises. -/
def Undisturbed (work : Workspace) (operation : Operation) : Prop :=
  ∀ item ∈ work.logins, Addresses item operation →
    item.status.isOpen = true → item.expiresAt ≤ clock operation →
      Returns work item operation

instance (work : Workspace) (operation : Operation) :
    Decidable (Undisturbed work operation) :=
  inferInstanceAs (Decidable (∀ item ∈ work.logins, _ → _ → _ → _))

section

variable {work after : Workspace} {item left : InstagramLoginSession}

theorem not_expired_of_same (member : item ∈ work.logins)
    (isOpen : item.status.isOpen = true) : ¬ Expired work work item := by
  intro expired
  obtain ⟨left, present, same, ended⟩ := expired.stored
  rw [Table.eq_of_key_eq present member same.1] at ended
  rw [ended] at isOpen
  cases isOpen

theorem expired_of_shut (shut : Shut work after item left)
    (ended : left.status = .expired) : Expired work after item where
  stored := by
    refine ⟨left, ?_, shut.same, ended⟩
    rw [shut.logins]
    exact Table.mem_put.mpr (.inl ⟨rfl, item, shut.member, shut.same.1.symm⟩)
  restored := by
    left
    rw [shut.statuses, Function.update_self]

theorem not_restorable_raises (wellformed : Wellformed work)
    (member : item ∈ work.logins) {now : Time}
    (isOpen : item.status.isOpen = true) (due : item.expiresAt ≤ now)
    (stuck : ¬ Restorable work item) :
    expireLocked work now item = .error .invalidStateTransition := by
  rcases expireLocked_cases wellformed member now with
    ⟨_, ⟨restorable, _⟩ | ⟨_, refused⟩⟩ | ⟨early, _⟩
  · exact absurd restorable stuck
  · exact refused
  · exact absurd due (early isOpen).not_ge

theorem restorable_expires (wellformed : Wellformed work)
    (member : item ∈ work.logins) {now : Time}
    (isOpen : item.status.isOpen = true) (due : item.expiresAt ≤ now)
    (restorable : Restorable work item) :
    ∃ after, expireLocked work now item =
        .ok (after, closed item now .expired .loginExpired) ∧
      Wellformed after ∧
      Shut work after item (closed item now .expired .loginExpired) := by
  rcases expireLocked_cases wellformed member now with
    ⟨_, ⟨_, after, expired, kept, _⟩ | ⟨stuck, _⟩⟩ | ⟨early, _⟩
  · rcases expireLocked_effect member expired with ⟨shut, _⟩ | ⟨_, same⟩
    · exact ⟨after, expired, kept, shut⟩
    · have ended := congrArg InstagramLoginSession.status same
      rw [← ended] at isOpen
      cases isOpen
  · exact absurd restorable stuck
  · exact absurd due (early isOpen).not_ge

end

section

variable {work : Workspace} {item : InstagramLoginSession} {now : Time}

theorem closing_expired_iff (wellformed : Wellformed work)
    (member : item ∈ work.logins) (isOpen : item.status.isOpen = true)
    (due : item.expiresAt ≤ now) {operation : Operation}
    (closes : ∀ after, expireLocked work now item =
        .ok (after, closed item now .expired .loginExpired) →
      next work operation = some after)
    (raises : expireLocked work now item = .error .invalidStateTransition →
      next work operation = some work)
    {after : Workspace} (stepped : next work operation = some after) :
    Expired work after item ↔ Restorable work item := by
  constructor
  · intro expired
    by_contra stuck
    have refused := not_restorable_raises wellformed member isOpen due stuck
    rw [raises refused] at stepped
    cases stepped
    exact not_expired_of_same member isOpen expired
  · intro restorable
    obtain ⟨reached, expired, _, shut⟩ :=
      restorable_expires wellformed member isOpen due restorable
    rw [closes reached expired] at stepped
    cases stepped
    exact expired_of_shut shut rfl

theorem looked_at_expired_iff (wellformed : Wellformed work)
    (member : item ∈ work.logins) (isOpen : item.status.isOpen = true)
    (due : item.expiresAt ≤ now) {operation : Operation}
    (looks : operation = .status now item.id ∨
      operation = .cancel now item.id ∨ operation = .complete now item.id)
    {after : Workspace} (stepped : next work operation = some after) :
    Expired work after item ↔ Restorable work item := by
  have found := Table.find?_eq_some.mpr ⟨member, rfl⟩
  rcases looks with rfl | rfl | rfl
  all_goals
    apply closing_expired_iff wellformed member isOpen due _ _ stepped
    · intro reached expired
      simp only [next, perform, status, cancelInTransaction, complete, found,
        expired]
      rfl
    · intro refused
      simp only [next, perform, status, cancelInTransaction, complete, found,
        refused]
      rfl

/-- The link of a session that has run out is refused, and the refusal takes
the expiry back. -/
theorem activate_keeps_open (wellformed : Wellformed work)
    (member : item ∈ work.logins) (isOpen : item.status.isOpen = true)
    (due : item.expiresAt ≤ now) {token : String}
    (right : item.launchTokenHash = ⟨token⟩) :
    next work (.activate now item.id token) = some work := by
  have found := Table.find?_eq_some.mpr ⟨member, rfl⟩
  have raised : ∃ fault, activate work now item.id token = .error fault := by
    unfold activate
    rw [found]
    dsimp only
    rw [if_neg (not_not.mpr right)]
    rcases expireLocked_cases wellformed member now with
      ⟨_, ⟨_, after, expired, _⟩ | ⟨_, refused⟩⟩ | ⟨early, _⟩
    · rw [expired]
      exact ⟨linkUnavailable, rfl⟩
    · rw [refused]
      exact ⟨illegal, rfl⟩
    · exact absurd due (early isOpen).not_ge
  obtain ⟨fault, refused⟩ := raised
  simp only [next, perform, refused]
  rfl

end

section

variable {work after : Workspace}

theorem beginLogin_startable {account : InstagramAccount} {allowed : Bool}
    (startable : account.status ∈ startable allowed) :
    ∃ begun, beginLogin work account allowed = .ok begun ∧
      begun.logins = work.logins := by
  have listed : ¬ (account.status ∉ LoginExpiry.startable allowed) :=
    not_not.mpr startable
  unfold LoginExpiry.startable at listed
  unfold beginLogin
  dsimp only
  rw [if_neg listed]
  by_cases connected : account.status = .connected
  · rw [if_pos connected]
    exact ⟨work, rfl, rfl⟩
  · rw [if_neg connected]
    have moves : requireTransition ACCOUNT_TRANSITIONS account.status
        .connecting = .ok () := by
      revert connected startable
      cases account.status <;> cases allowed <;> decide
    rw [moves]
    exact ⟨_, rfl, rfl⟩

theorem beginLogin_refused {account : InstagramAccount} {allowed : Bool}
    (refused : account.status ∉ startable allowed) :
    ∃ fault, beginLogin work account allowed = .error fault := by
  unfold startable at refused
  unfold beginLogin
  dsimp only
  rw [if_pos refused]
  exact ⟨_, rfl⟩

theorem insertLogin_ok_iff {login : InstagramLoginSession}
    (shut : ∀ other ∈ work.logins, other.accountId = login.accountId →
      other.status.isOpen = false) :
    (∃ after, work.insertLogin login = .ok after) ↔
      ∀ other ∈ work.logins, other.id ≠ login.id ∧
        other.launchTokenHash ≠ login.launchTokenHash := by
  constructor
  · intro ⟨after, inserted⟩ other member
    obtain ⟨logins, inserts, free, _⟩ := insertLogin_eq_ok inserted
    have apart := (Table.insert?_eq_some inserts).1 other member
    refine ⟨apart, fun same => ?_⟩
    have unlike := free other member
    simp [InstagramLoginSession.conflictsWith, Ne.symm apart, same] at unlike
  · intro fresh
    obtain ⟨logins, inserts⟩ := Table.insert?_of_absent login
      fun other member => (fresh other member).1
    refine ⟨{ work with logins }, ?_⟩
    unfold Workspace.insertLogin
    rw [inserts]
    refine if_pos ?_
    rw [List.all_eq_true]
    intro other member
    have unlike := (fresh other member).2
    have ended : login.accountId = other.accountId →
        other.status.isOpen = false := fun same => shut other member same.symm
    rw [Bool.not_eq_true', Bool.eq_false_iff]
    intro conflict
    simp only [InstagramLoginSession.conflictsWith, Bool.and_eq_true,
      Bool.or_eq_true, decide_eq_true_eq] at conflict
    rcases conflict with ⟨_, ⟨⟨same, _⟩, isOpen⟩ | hash⟩
    · rw [ended same] at isOpen
      cases isOpen
    · exact unlike hash.symm

theorem openLogin_ok_iff {now : Time} {sessionId : UUID} {token : String}
    {accountId : UUID} {ttl : Time} {allowed : Bool}
    {account : InstagramAccount}
    (found : work.database.accounts.find? accountId = some account)
    (shut : ∀ other ∈ work.logins, other.accountId = accountId →
      other.status.isOpen = false) :
    (∃ result, openLogin work now sessionId token accountId ttl allowed =
        .ok result) ↔
      account.status ∈ startable allowed ∧ Fresh work sessionId token := by
  unfold openLogin
  rw [found]
  dsimp only
  by_cases starts : account.status ∈ startable allowed
  · obtain ⟨begun, began, logins⟩ := beginLogin_startable starts
    have inserts := @insertLogin_ok_iff begun
      ⟨sessionId, accountId, .pending, account.status, ⟨token⟩, none, now + ttl,
        none⟩ (by rw [logins]; exact shut)
    rw [logins] at inserts
    rw [began]
    simp only [starts, true_and]
    refine Iff.trans ?_ inserts
    constructor
    · intro success
      obtain ⟨result, opened⟩ := success
      obtain ⟨_, same, opened⟩ := bind_eq_ok opened
      cases same
      obtain ⟨inserted, insertion, _⟩ := bind_eq_ok opened
      exact ⟨inserted, orLoginFault_eq_ok.mp insertion⟩
    · intro success
      obtain ⟨inserted, insertion⟩ := success
      refine ⟨(inserted, ⟨sessionId, accountId, now + ttl, token⟩), ?_⟩
      simp only [bind, Except.bind, insertion, orLoginFault, pure, Except.pure]
  · obtain ⟨fault, refused⟩ := @beginLogin_refused work account allowed starts
    rw [refused]
    constructor
    · intro success
      obtain ⟨_, clash⟩ := success
      cases clash
    · intro both
      exact absurd both.1 starts

end

section

variable {work : Workspace} {item : InstagramLoginSession} {now : Time}

theorem expireAll_due (wellformed : Wellformed work)
    (member : item ∈ work.logins) (isOpen : item.status.isOpen = true) :
    expireAll now (work.logins.rows.filter fun other =>
        other.accountId = item.accountId && other.status.isOpen) work =
      (expireLocked work now item).map fun (after, left) =>
        (after, left.status.isOpen) := by
  rcases openOf_cases wellformed item.accountId with ⟨_, shut⟩ |
    ⟨only, onlyMember, owner, onlyOpen, single, _⟩
  · have ended := shut item member rfl
    rw [isOpen] at ended
    cases ended
  · have same := wellformed.openOnce onlyMember member owner onlyOpen isOpen
    subst same
    rw [single]
    simp only [expireAll, bind, Except.bind, pure, Except.pure]
    cases expireLocked work now only with
    | error error => rfl
    | ok result => simp [Except.map]

theorem shut_after (wellformed : Wellformed work) {swept : Workspace}
    {left : InstagramLoginSession} (shut : Shut work swept item left) :
    ∀ other ∈ swept.logins, other.accountId = item.accountId →
      other.status.isOpen = false := by
  intro other present owner
  rw [shut.logins] at present
  rcases Table.mem_put.mp present with ⟨rfl, _⟩ | ⟨before, apart⟩
  · rcases shut.ended with ended | ended
    · rw [ended]
      rfl
    · rw [ended]
      rfl
  · rw [← Bool.not_eq_true]
    intro stays
    have same := wellformed.openOnce before shut.member owner stays shut.isOpen
    subst same
    exact apart shut.same.1.symm

theorem fresh_swept {swept : Workspace} (shut : Shut work swept item
      (closed item now .expired .loginExpired))
    {sessionId : UUID} {token : String} :
    Fresh swept sessionId token ↔ Fresh work sessionId token := by
  constructor
  · intro fresh other member
    rcases kept_of_put shut.logins shut.member shut.same.1 member with
      ⟨same, stays⟩ | stays
    · subst same
      exact fresh (closed other now .expired .loginExpired) stays
    · exact fresh other stays
  · intro fresh other present
    rw [shut.logins] at present
    rcases Table.mem_put.mp present with ⟨rfl, _⟩ | ⟨before, _⟩
    · exact fresh item shut.member
    · exact fresh other before

section

variable {sessionId : UUID} {token : String} {ttl : Time} {allowed : Bool}

theorem create_rolled_back {accountId : UUID}
    (raised : ∃ fault, createInTransaction work now sessionId token accountId
      ttl allowed = .error fault) :
    next work (.create now sessionId token accountId ttl allowed) =
      some work := by
  obtain ⟨fault, refused⟩ := raised
  simp only [next, perform, create, refused]
  split
  · rename_i after succeeded
    split at succeeded <;> cases succeeded
  · rfl

theorem create_committed {accountId : UUID} {after : Workspace}
    {created : CreatedLoginSession}
    (succeeded : createInTransaction work now sessionId token accountId
      ttl allowed = .ok (after, created)) :
    next work (.create now sessionId token accountId ttl allowed) =
      some after := by
  simp only [next, perform, create, succeeded]
  rfl

theorem createInTransaction_swept (wellformed : Wellformed work)
    (member : item ∈ work.logins) (isOpen : item.status.isOpen = true)
    (lifetime : ttl ≠ 0 ∧ ttl ≤ DEFAULT_LOGIN_TTL) {swept : Workspace}
    (expires : expireLocked work now item =
      .ok (swept, closed item now .expired .loginExpired))
    {account : InstagramAccount}
    (found : swept.database.accounts.find? item.accountId = some account) :
    createInTransaction work now sessionId token item.accountId ttl allowed =
      openLogin swept now sessionId token item.accountId ttl allowed := by
  have guard : ¬ (ttl = 0 ∨ ttl > DEFAULT_LOGIN_TTL) := by
    intro refused
    rcases refused with zero | long
    · exact lifetime.1 zero
    · exact absurd lifetime.2 long.not_ge
  have present : Collector.Persistence.ensureAccount swept.database
      item.accountId = .ok swept.database := by
    unfold Collector.Persistence.ensureAccount
    rw [found]
  unfold createInTransaction
  rw [if_neg guard, expireAll_due wellformed member isOpen, expires]
  have ended : (closed item now .expired .loginExpired).status.isOpen =
      false := rfl
  simp only [Except.map, orLoginFault, bind, Except.bind, ended,
    Bool.false_eq_true, if_false, present]

theorem createInTransaction_stuck (wellformed : Wellformed work)
    (member : item ∈ work.logins) (isOpen : item.status.isOpen = true)
    (refused : expireLocked work now item = .error .invalidStateTransition) :
    ∃ fault, createInTransaction work now sessionId token item.accountId ttl
      allowed = .error fault := by
  unfold createInTransaction
  split
  · exact ⟨_, rfl⟩
  · rw [expireAll_due wellformed member isOpen, refused]
    exact ⟨_, rfl⟩

/-- The session that begins takes over the status of the one that ended. -/
theorem expired_of_opened {swept after : Workspace}
    {left opened : InstagramLoginSession} (shut : Shut work swept item left)
    (ended : left.status = .expired) (opens : Opened swept after opened)
    (owner : opened.accountId = item.accountId) :
    Expired work after item where
  stored := by
    obtain ⟨kept, present, same, ended⟩ := (expired_of_shut shut ended).stored
    exact ⟨kept, (opens.logins kept).mpr (.inl present), same, ended⟩
  restored := by
    refine .inr ⟨opened, (opens.logins opened).mpr (.inr rfl), owner, ?_, ?_⟩
    · intro before present
      obtain ⟨kept, remains, same, _⟩ := shut.proceeds before present
      exact same.1 ▸ opens.absent kept remains
    · rw [opens.prior, owner, shut.statuses, Function.update_self]

theorem create_expired_iff (wellformed : Wellformed work)
    (member : item ∈ work.logins) (isOpen : item.status.isOpen = true)
    (due : item.expiresAt ≤ now) {after : Workspace}
    (stepped : next work (.create now sessionId token item.accountId ttl
      allowed) = some after) :
    Expired work after item ↔
      Returns work item (.create now sessionId token item.accountId ttl
        allowed) := by
  have raises (fails : ∃ fault, createInTransaction work now sessionId token
      item.accountId ttl allowed = .error fault) :
      ¬ Expired work after item := by
    rw [create_rolled_back fails] at stepped
    cases stepped
    exact not_expired_of_same member isOpen
  by_cases lifetime : ttl ≠ 0 ∧ ttl ≤ DEFAULT_LOGIN_TTL
  · by_cases restorable : Restorable work item
    · obtain ⟨swept, expires, kept, shut⟩ :=
        restorable_expires wellformed member isOpen due restorable
      obtain ⟨account, present, same⟩ :=
        kept.owned (closed item now .expired .loginExpired) (by
          rw [shut.logins]
          exact Table.mem_put.mpr (.inl ⟨rfl, item, member, rfl⟩))
      have found : swept.database.accounts.find? item.accountId =
          some account := Table.find?_eq_some.mpr ⟨present, same⟩
      have status : account.status = item.priorAccountStatus := by
        have restored := congrFun shut.statuses item.accountId
        rw [Function.update_self] at restored
        rw [← restored]
        unfold statusOf Collector.Persistence.accountStatus
        rw [found]
      have outcome := @createInTransaction_swept work item now sessionId token
        ttl allowed wellformed member isOpen lifetime swept expires account
        found
      have opens := @openLogin_ok_iff swept now sessionId token item.accountId
        ttl allowed account found (shut_after wellformed shut)
      rw [status, fresh_swept shut] at opens
      rw [← outcome] at opens
      constructor
      · intro expired
        cases result : createInTransaction work now sessionId token
            item.accountId ttl allowed with
        | error fault => exact absurd expired (raises ⟨fault, result⟩)
        | ok created => exact ⟨lifetime, restorable, opens.mp ⟨created, result⟩⟩
      · intro ⟨_, _, free⟩
        obtain ⟨⟨reached, created⟩, succeeded⟩ := opens.mpr free
        rw [create_committed succeeded] at stepped
        cases stepped
        rw [outcome] at succeeded
        obtain ⟨opened, owner, effect⟩ := openLogin_effect succeeded
        exact expired_of_opened shut rfl effect owner
    · refine ⟨fun expired => absurd expired (raises ?_),
        fun returns => absurd returns.2.1 restorable⟩
      exact createInTransaction_stuck wellformed member isOpen
        (not_restorable_raises wellformed member isOpen due restorable)
  · refine ⟨fun expired => absurd expired (raises ?_),
      fun returns => absurd returns.1 lifetime⟩
    have refused : ttl = 0 ∨ ttl > DEFAULT_LOGIN_TTL := by
      by_contra valid
      simp only [not_or, not_lt] at valid
      exact lifetime valid
    unfold createInTransaction
    rw [if_pos refused]
    exact ⟨_, rfl⟩

end

end

theorem expired_iff_returns {work after : Workspace} {operation : Operation}
    {item : InstagramLoginSession} (wellformed : Wellformed work)
    (finds : Finds work operation item)
    (stepped : next work operation = some after) :
    Expired work after item ↔ Returns work item operation := by
  obtain ⟨member, addressed, isOpen, due⟩ := finds
  cases operation with
  | create now sessionId token accountId ttl allowed =>
      cases addressed
      exact create_expired_iff wellformed member isOpen due stepped
  | activate now sessionId token =>
      obtain ⟨rfl, right⟩ := addressed
      have stays : next work (.activate now item.id token) = some work :=
        activate_keeps_open wellformed member isOpen due right
      rw [stays] at stepped
      cases stepped
      exact ⟨fun expired => absurd expired (not_expired_of_same member isOpen),
        nofun⟩
  | status now sessionId =>
      cases addressed
      exact looked_at_expired_iff wellformed member isOpen due (.inl rfl)
        stepped
  | cancel now sessionId =>
      cases addressed
      exact looked_at_expired_iff wellformed member isOpen due (.inr (.inl rfl))
        stepped
  | complete now sessionId =>
      cases addressed
      exact looked_at_expired_iff wellformed member isOpen due (.inr (.inr rfl))
        stepped
  | setAccountStatus => cases addressed

theorem durable_iff {work after : Workspace} {operation : Operation}
    (wellformed : Wellformed work)
    (stepped : next work operation = some after) :
    Durable work operation after ↔ Undisturbed work operation := by
  constructor
  · intro durable item member addressed isOpen due
    have finds : Finds work operation item := ⟨member, addressed, isOpen, due⟩
    exact (expired_iff_returns wellformed finds stepped).mp
      (durable item finds)
  · intro undisturbed item finds
    have ⟨member, addressed, isOpen, due⟩ := finds
    exact (expired_iff_returns wellformed finds stepped).mpr
      (undisturbed item member addressed isOpen due)

/-- The expiries of a run are all stored exactly if no operation raises where
it finds a session out of time. -/
theorem expiries_durable_iff (work : Workspace) (wellformed : Wellformed work)
    (operations : List Operation) :
    Along next Durable work operations ↔
      Meets next Undisturbed work operations := by
  refine along_iff_meets ?_ wellformed
  intro before operation after wellformed stepped
  exact ⟨durable_iff wellformed stepped,
    fun _ => next_wellformed wellformed stepped⟩

/-- A session is looked at in time, and once its time has run out. -/
theorem looked_at_durable :
    Along next Durable reauthWorkspace
        [openLoginSession, .status 5 7, .status 200 7] ∧
      (run next reauthWorkspace
        [openLoginSession, .status 5 7, .status 200 7]).map
          (fun work => (work.logins.rows.map (·.status), statusOf work 1)) =
        some ([.expired], .reauthRequired) :=
  ⟨(expiries_durable_iff reauthWorkspace reauthWorkspace_wellformed _).mpr
    (by decide), by decide⟩

/-- The right link, followed too late, leaves the session pending. -/
theorem late_link_keeps_pending :
    Wellformed reauthWorkspace ∧
      (run next reauthWorkspace
        [openLoginSession, .activate 200 7 "token"]).map
          (fun work => (work.logins.rows.map (·.status), statusOf work 1)) =
        some ([.pending], .connecting) ∧
      ¬ Along next Durable reauthWorkspace
        [openLoginSession, .activate 200 7 "token"] := by
  refine ⟨reauthWorkspace_wellformed, by decide, ?_⟩
  intro along
  obtain ⟨_, along⟩ := along _ rfl
  obtain ⟨durable, _⟩ := along _ rfl
  have addressed : Addresses
      ⟨7, 1, .pending, .reauthRequired, ⟨"token"⟩, none, 100, none⟩
      (.activate 200 7 "token") := ⟨rfl, rfl⟩
  have expired := durable _ ⟨List.mem_singleton_self _, addressed, rfl,
    show 100 ≤ 200 by decide⟩
  obtain ⟨left, present, _, ended⟩ := expired.stored
  rw [List.mem_singleton.mp present] at ended
  cases ended

end OfflineReels.Management.LoginExpiry
