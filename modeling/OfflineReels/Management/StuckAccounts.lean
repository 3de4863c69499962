import OfflineReels.Management.ConnectingAccounts

namespace OfflineReels.Management.StuckAccounts

open OfflineReels.Foundation
open OfflineReels.Instagram
open OfflineReels.Collector
open LoginSessions LoginLifecycle LoginMachine ConnectingAccounts

/-! Accounts that are connecting although no session is open and no stage is
at work. -/

def Opens (work : Workspace) (accountId : UUID) : Prop :=
  ∃ item ∈ work.logins, item.accountId = accountId ∧ item.status.isOpen = true

structure Stuck (work : Workspace) (accountId : UUID) : Prop where
  connecting : statusOf work accountId = .connecting
  unopened : ¬ Opens work accountId

def Begun (work : Workspace) (accountId : UUID) : Prop :=
  ∀ item ∈ work.logins, item.accountId = accountId →
    item.status.isOpen = true → item.priorAccountStatus ≠ .connecting

section

variable {work after : Workspace} {item left : InstagramLoginSession}
variable {accountId : UUID}

theorem opens_of_other (logins : after.logins = work.logins.put left)
    (member : item ∈ work.logins) (same : Rewritten item left)
    (other : item.accountId ≠ accountId) (opens : Opens work accountId) :
    Opens after accountId := by
  obtain ⟨before, present, owner, isOpen⟩ := opens
  rcases kept_of_put logins member same.1 present with ⟨rfl, _⟩ | remains
  · exact absurd owner other
  · exact ⟨before, remains, owner, isOpen⟩

theorem Shut.stuck (shut : Shut work after item left)
    (begun : Begun work accountId) (stuck : Stuck after accountId) :
    Stuck work accountId := by
  by_cases here : item.accountId = accountId
  · have connecting := stuck.connecting
    rw [shut.statuses, here, Function.update_self] at connecting
    exact absurd connecting (begun item shut.member here shut.isOpen)
  · constructor
    · rw [← stuck.connecting, shut.statuses,
        Function.update_of_ne (Ne.symm here)]
    · exact fun opens => stuck.unopened
        (opens_of_other shut.logins shut.member shut.same here opens)

theorem Completed.stuck (completed : Completed work after item left)
    (stuck : Stuck after accountId) : Stuck work accountId := by
  by_cases here : item.accountId = accountId
  · have connecting := stuck.connecting
    rw [completed.statuses, here, Function.update_self] at connecting
    cases connecting
  · constructor
    · rw [← stuck.connecting, completed.statuses,
        Function.update_of_ne (Ne.symm here)]
    · exact fun opens => stuck.unopened (opens_of_other completed.logins
        completed.member completed.same here opens)

theorem Activated.stuck (activated : Activated work after item left)
    (stuck : Stuck after accountId) : Stuck work accountId := by
  constructor
  · rw [← stuck.connecting, activated.statuses]
  · intro ⟨before, present, owner, isOpen⟩
    rcases kept_of_put activated.logins activated.member activated.same.1
      present with ⟨rfl, remains⟩ | remains
    · refine stuck.unopened ⟨left, remains,
        activated.same.2.1.trans owner, ?_⟩
      rw [activated.active]
      rfl
    · exact stuck.unopened ⟨before, remains, owner, isOpen⟩

theorem Opened.stuck {opened : InstagramLoginSession}
    (opens : Opened work after opened) (stuck : Stuck after accountId) :
    Stuck work accountId := by
  by_cases here : opened.accountId = accountId
  · refine absurd ⟨opened, ?_, here, ?_⟩ stuck.unopened
    · exact (opens.logins opened).mpr (.inr rfl)
    · rw [opens.pending]
      rfl
  · constructor
    · rw [← stuck.connecting]
      rcases opens.statuses with ⟨_, kept⟩ | ⟨_, connecting⟩
      · rw [kept]
      · rw [connecting, Function.update_of_ne (Ne.symm here)]
    · intro ⟨before, present, owner, isOpen⟩
      exact stuck.unopened
        ⟨before, (opens.logins before).mpr (.inl present), owner, isOpen⟩

theorem Idle.stuck (idle : Idle work after) (stuck : Stuck after accountId) :
    Stuck work accountId := by
  obtain ⟨connecting, unopened⟩ := stuck
  rw [idle.statuses] at connecting
  refine ⟨connecting, fun opens => unopened ?_⟩
  unfold Opens
  rw [idle.logins]
  exact opens

theorem Effect.stuck (effect : Effect work after)
    (begun : Begun work accountId) (stuck : Stuck after accountId) :
    Stuck work accountId := by
  cases effect with
  | idle idle => exact Idle.stuck idle stuck
  | shut item left shut => exact Shut.stuck shut begun stuck
  | activated item left activated => exact Activated.stuck activated stuck
  | completed item left completed => exact Completed.stuck completed stuck
  | opened middle opened before opens =>
      have between := Opened.stuck opens stuck
      rcases before with idle | ⟨item, left, _, shut⟩
      · exact Idle.stuck idle between
      · exact Shut.stuck shut begun between

theorem begun_put (logins : after.logins = work.logins.put left)
    (member : item ∈ work.logins) (same : Rewritten item left)
    (opens : left.status.isOpen = true → item.status.isOpen = true)
    (begun : Begun work accountId) : Begun after accountId := by
  intro kept remains owner isOpen
  rw [logins] at remains
  rcases Table.mem_put.mp remains with ⟨rfl, _⟩ | ⟨present, _⟩
  · rw [same.2.2]
    exact begun item member (same.2.1.symm.trans owner) (opens isOpen)
  · exact begun kept present owner isOpen

theorem Shut.begun (shut : Shut work after item left)
    (begun : Begun work accountId) : Begun after accountId :=
  begun_put shut.logins shut.member shut.same (fun _ => shut.isOpen) begun

theorem Idle.begun (idle : Idle work after) (begun : Begun work accountId) :
    Begun after accountId := by
  unfold Begun
  rw [idle.logins]
  exact begun

theorem Effect.begun (effect : Effect work after)
    (begun : Begun work accountId) : Begun after accountId := by
  cases effect with
  | idle idle => exact Idle.begun idle begun
  | shut item left shut => exact Shut.begun shut begun
  | activated item left activated =>
      refine begun_put activated.logins activated.member activated.same
        (fun _ => ?_) begun
      rw [activated.pending]
      rfl
  | completed item left completed =>
      refine begun_put completed.logins completed.member completed.same
        (fun _ => ?_) begun
      rw [completed.active]
      rfl
  | opened middle opened before opens =>
      have between : Begun middle accountId := by
        rcases before with idle | ⟨item, left, _, shut⟩
        · exact Idle.begun idle begun
        · exact Shut.begun shut begun
      intro kept remains owner isOpen
      rcases (opens.logins kept).mp remains with present | rfl
      · exact between kept present owner isOpen
      · rcases opens.statuses with ⟨prior, _⟩ | ⟨prior, _⟩
        · rw [prior]
          decide
        · intro connecting
          rw [connecting] at prior
          exact absurd prior (by decide)

end

theorem ensureAccount_succeeds (database : Database) (accountId : UUID) :
    ∃ after, Collector.Persistence.ensureAccount database accountId =
      .ok after := by
  unfold Collector.Persistence.ensureAccount
  split
  · exact ⟨database, rfl⟩
  · rename_i absent
    obtain ⟨accounts, inserted⟩ := Table.insert?_of_absent
      (Collector.Persistence.disconnectedAccount accountId)
      (Table.find?_eq_none.mp absent)
    refine ⟨{ database with accounts }, ?_⟩
    unfold Database.insertAccount
    rw [inserted]

theorem ensureAccount_present {work : Workspace} {accountId : UUID}
    {database : Database}
    (ensured : Collector.Persistence.ensureAccount work.database accountId =
      .ok database) :
    ∃ account, database.accounts.find? accountId = some account ∧
      account.status = statusOf work accountId := by
  have same := congrFun (statusOf_ensureAccount ensured) accountId
  cases found : database.accounts.find? accountId with
  | some account =>
      refine ⟨account, rfl, ?_⟩
      rw [← same]
      exact (Collector.Persistence.accountStatus_found found).symm
  | none =>
      unfold Collector.Persistence.ensureAccount at ensured
      split at ensured
      · rename_i account present
        cases ensured
        rw [found] at present
        cases present
      · unfold Database.insertAccount at ensured
        split at ensured
        · cases ensured
        · rename_i accounts inserted
          cases ensured
          exact absurd rfl (Table.find?_eq_none.mp found
            (Collector.Persistence.disconnectedAccount accountId)
            ((Table.mem_insert? inserted).mpr (.inr rfl)))

theorem beginLogin_succeeds (work : Workspace) {account : InstagramAccount}
    (resting : account.status ≠ .connecting)
    (unlimited : account.status ≠ .temporarilyLimited) :
    ∃ begun, beginLogin work account true = .ok begun ∧
      begun.logins = work.logins := by
  unfold beginLogin
  cases shape : account.status with
  | disconnected => exact ⟨_, rfl, rfl⟩
  | connecting => exact absurd shape resting
  | connected => exact ⟨_, rfl, rfl⟩
  | reauthRequired => exact ⟨_, rfl, rfl⟩
  | temporarilyLimited => exact absurd shape unlimited

theorem create_succeeds {work : Workspace} {accountId : UUID}
    (unopened : ¬ Opens work accountId)
    (resting : statusOf work accountId ≠ .connecting)
    (unlimited : statusOf work accountId ≠ .temporarilyLimited) (now : Time)
    {sessionId : UUID} {token : String} {ttl : Time}
    (lifetime : ttl ≠ 0 ∧ ttl ≤ DEFAULT_LOGIN_TTL)
    (fresh : ∀ item ∈ work.logins,
      item.id ≠ sessionId ∧ item.launchTokenHash ≠ ⟨token⟩) :
    ∃ created, create work now sessionId token accountId ttl true =
      .ok created := by
  have closed : work.logins.rows.filter (fun item =>
      item.accountId = accountId && item.status.isOpen) = [] := by
    rw [List.filter_eq_nil_iff]
    intro item member here
    simp only [Bool.and_eq_true, decide_eq_true_eq] at here
    exact unopened ⟨item, member, here⟩
  have guard : ¬ (ttl = 0 ∨ ttl > DEFAULT_LOGIN_TTL) := by
    intro outside
    rcases outside with zero | long
    · exact lifetime.1 zero
    · exact absurd lifetime.2 long.not_ge
  obtain ⟨database, ensured⟩ := ensureAccount_succeeds work.database accountId
  obtain ⟨account, found, status⟩ := ensureAccount_present ensured
  rw [← status] at resting unlimited
  obtain ⟨begun, began, same⟩ :=
    beginLogin_succeeds { work with database } resting unlimited
  have free : ∀ item ∈ begun.logins, item.id ≠ sessionId :=
    same ▸ fun item member => (fresh item member).1
  have inserts : ∀ login : InstagramLoginSession, login.id = sessionId →
      login.accountId = accountId → login.launchTokenHash = ⟨token⟩ →
      ∃ after, begun.insertLogin login = .ok after := by
    intro login identity owner hash
    obtain ⟨logins, inserted⟩ :=
      Table.insert?_of_absent login (identity ▸ free)
    refine ⟨{ begun with logins }, ?_⟩
    have apart : (begun.logins.rows.all fun other =>
        !login.conflictsWith other) = true := by
      rw [List.all_eq_true]
      intro other member
      rw [same] at member
      have others := fresh other member
      have shut : ¬ (other.accountId = accountId ∧
          other.status.isOpen = true) :=
        fun opens => unopened ⟨other, member, opens⟩
      simp only [InstagramLoginSession.conflictsWith, owner, hash,
        Bool.not_eq_true', Bool.eq_false_iff]
      intro conflict
      simp only [Bool.and_eq_true, Bool.or_eq_true, decide_eq_true_eq]
        at conflict
      rcases conflict.2 with taken | taken
      · exact shut ⟨taken.1.1.symm, taken.2⟩
      · exact others.2 taken.symm
    unfold Workspace.insertLogin
    rw [inserted]
    simp only [apart, if_true]
  obtain ⟨after, inserted⟩ := inserts {
    id := sessionId
    accountId := accountId
    status := .pending
    priorAccountStatus := account.status
    launchTokenHash := ⟨token⟩
    reasonCode := none
    expiresAt := now + ttl
    closedAt := none } rfl rfl rfl
  refine ⟨(after, ⟨sessionId, accountId, now + ttl, token⟩), ?_⟩
  have direct : createInTransaction work now sessionId token accountId ttl true =
      .ok (after, ⟨sessionId, accountId, now + ttl, token⟩) := by
    unfold createInTransaction
    rw [if_neg guard, closed]
    simp only [expireAll, orLoginFault, bind, Except.bind, Bool.false_eq_true,
      if_false, ensured, openLogin, found, began, inserted, pure, Except.pure]
  unfold create
  rw [direct]

theorem statusOf_accounts {work after : Workspace}
    (same : after.database.accounts = work.database.accounts) :
    statusOf after = statusOf work := by
  funext accountId
  unfold statusOf Collector.Persistence.accountStatus
  rw [same]

theorem setAccountStatus_statuses {work : Workspace} {now : Time}
    {accountId : UUID} {status : AccountStatus} {reasonCode : Option String}
    {database : Database}
    (written : Collector.Persistence.setAccountStatus work.database now
      accountId status reasonCode = .ok database) :
    statusOf { work with database } =
      Function.update (statusOf work) accountId status := by
  obtain ⟨ensured, present, written⟩ := bind_eq_ok written
  have same := statusOf_ensureAccount present
  obtain ⟨account, found, _⟩ := ensureAccount_present present
  rw [found] at written
  dsimp only at written
  have result : database = ensured.writeAccount
      (Collector.Persistence.withStatus account now status reasonCode) := by
    split at written
    · obtain ⟨_, _, written⟩ := bind_eq_ok written
      cases written
      rfl
    · cases written
      rfl
  have here := (Table.find?_eq_some.mp found).2
  have identity : (Collector.Persistence.withStatus account now status
      reasonCode).id = accountId := by
    unfold Collector.Persistence.withStatus
    split <;> exact here
  have value : (Collector.Persistence.withStatus account now status
      reasonCode).status = status := by
    unfold Collector.Persistence.withStatus
    split <;> rfl
  rw [← same, ← value, result]
  have row : Workspace.database { work with database := ensured } =
      ensured := rfl
  rw [← row] at found
  exact statusOf_writeAccount found identity

theorem setAccountStatus_refused {work : Workspace} {now : Time}
    {accountId : UUID} {status : AccountStatus} {reasonCode : Option String}
    {error : DatabaseError} (settles : status ≠ .connecting)
    (refused : Collector.Persistence.setAccountStatus work.database now
      accountId status reasonCode = .error error) :
    statusOf work accountId ≠ .connecting := by
  intro connecting
  rcases bind_eq_error refused with failed | ⟨ensured, present, refused⟩
  · obtain ⟨database, ensured⟩ :=
      ensureAccount_succeeds work.database accountId
    rw [ensured] at failed
    cases failed
  · obtain ⟨account, found, same⟩ := ensureAccount_present present
    rw [found] at refused
    dsimp only at refused
    rw [same, connecting] at refused
    revert refused settles
    cases status <;> simp [requireTransition, isTransitionAllowed,
      ACCOUNT_TRANSITIONS, bind, Except.bind, pure, Except.pure]

structure Written (work after : Workspace) : Prop where
  logins : after.logins = work.logins
  wellformed : Wellformed work → Wellformed after

section

variable {premises after : Premises} {choice : Choice} {request : WorldCall}
variable {reply : Except CollectorFault (WorldReply request)}

theorem perform_world
    (performed : premises.perform choice (.world request) =
      some (after, reply)) :
    ∃ world, premises.world.perform request choice = some (world, reply) ∧
      after = premises.withWorld world := by
  obtain ⟨⟨world, answer⟩, happened, shape⟩ :=
    Option.map_eq_some_iff.mp performed
  cases shape
  exact ⟨world, happened, rfl⟩

theorem perform_keeps
    (performed : premises.perform choice (.world request) =
      some (after, reply))
    (other : ∀ accountId status reasonCode,
      request ≠ .setAccountStatus accountId status reasonCode) :
    Written premises.work after.work ∧
      statusOf after.work = statusOf premises.work := by
  obtain ⟨world, happened, rfl⟩ := perform_world performed
  rcases World.perform_cases happened with ⟨rfl, _⟩ | ⟨draw, rfl, _⟩
  · exact ⟨⟨rfl, id⟩, rfl⟩
  · by_cases accounts : World.writesAccounts request = true
    · cases request with
      | ensureAccount accountId =>
          rcases premises.world.commit_cases
              (Collector.Persistence.ensureAccount premises.work.database
                accountId) with
            ⟨_, shape⟩ | ⟨database, ensured, shape⟩
          · have unchanged : (premises.world.effect draw
                (.ensureAccount accountId)).1 = premises.world :=
              congrArg Prod.fst shape
            rw [unchanged]
            exact ⟨⟨rfl, id⟩, rfl⟩
          · have changed : (premises.world.effect draw
                (.ensureAccount accountId)).1 =
                { premises.world with database } :=
              congrArg Prod.fst shape
            rw [changed]
            exact ⟨⟨rfl, fun wellformed =>
              ensureAccount_kept wellformed ensured⟩,
              statusOf_ensureAccount ensured⟩
      | setAccountStatus accountId status reasonCode =>
          exact absurd rfl (other accountId status reasonCode)
      | _ => cases accounts
    · rw [Bool.not_eq_true] at accounts
      have same := premises.world.effect_keeps_accounts draw request accounts
      refine ⟨⟨rfl, fun wellformed => ?_⟩, statusOf_accounts same⟩
      refine ⟨wellformed.unique, fun item member => ?_⟩
      obtain ⟨account, present, owner⟩ := wellformed.owned item member
      exact ⟨account, same ▸ present, owner⟩

theorem perform_setAccountStatus {accountId : UUID} {status : AccountStatus}
    {reasonCode : Option String} {reply : Except CollectorFault Unit}
    (performed : premises.perform choice
      (.world (.setAccountStatus accountId status reasonCode)) =
        some (after, reply)) :
    Written premises.work after.work ∧
      ((statusOf after.work =
            Function.update (statusOf premises.work) accountId status ∧
          (reply = .ok () ∨ ∃ draw fault, choice = .lost draw fault)) ∨
        (after.work = premises.work ∧ reply ≠ .ok () ∧
          ((∃ fault, choice = .refused fault) ∨
            (status ≠ .connecting →
              statusOf premises.work accountId ≠ .connecting)))) := by
  obtain ⟨world, happened, rfl⟩ := perform_world performed
  clear performed
  have effect (draw : Draw) :
      Written premises.work (premises.withWorld (premises.world.effect draw
          (.setAccountStatus accountId status reasonCode)).1).work ∧
        ((statusOf (premises.withWorld (premises.world.effect draw
            (.setAccountStatus accountId status reasonCode)).1).work =
              Function.update (statusOf premises.work) accountId status ∧
            (premises.world.effect draw
              (.setAccountStatus accountId status reasonCode)).2 = .ok ()) ∨
          ((premises.withWorld (premises.world.effect draw
              (.setAccountStatus accountId status reasonCode)).1).work =
              premises.work ∧
            (premises.world.effect draw
              (.setAccountStatus accountId status reasonCode)).2 ≠ .ok () ∧
            (status ≠ .connecting →
              statusOf premises.work accountId ≠ .connecting))) := by
    have committed : premises.world.effect draw
        (.setAccountStatus accountId status reasonCode) =
          premises.world.commit (Collector.Persistence.setAccountStatus
            premises.work.database draw.now accountId status reasonCode) := rfl
    rw [committed]
    cases outcome : Collector.Persistence.setAccountStatus
        premises.work.database draw.now accountId status reasonCode with
    | error error =>
        exact ⟨⟨rfl, id⟩, .inr ⟨rfl, (fun clash => by cases clash), fun settles =>
          setAccountStatus_refused settles outcome⟩⟩
    | ok database =>
        exact ⟨⟨rfl, fun wellformed => setAccountStatus_kept wellformed
          outcome⟩, .inl ⟨setAccountStatus_statuses outcome, rfl⟩⟩
  cases choice with
  | returns draw =>
      have shape := Option.some.inj happened
      obtain rfl := congrArg Prod.fst shape
      obtain rfl := congrArg Prod.snd shape
      obtain ⟨written, ⟨changed, returned⟩ | ⟨same, failed, resting⟩⟩ :=
        effect draw
      · exact ⟨written, .inl ⟨changed, .inl returned⟩⟩
      · exact ⟨written, .inr ⟨same, failed, .inr resting⟩⟩
  | refused fault =>
      simp only [World.perform] at happened
      split at happened
      · cases happened
      · cases happened
        exact ⟨⟨rfl, id⟩, .inr ⟨rfl, (fun clash => by cases clash),
          .inl ⟨fault, rfl⟩⟩⟩
  | lost draw fault =>
      simp only [World.perform] at happened
      split at happened
      · cases happened
      · cases happened
        obtain ⟨written, ⟨changed, _⟩ | ⟨same, _, resting⟩⟩ := effect draw
        · exact ⟨written, .inl ⟨changed, .inr ⟨draw, fault, rfl⟩⟩⟩
        · exact ⟨written, .inr ⟨same, (fun clash => by cases clash),
            .inr resting⟩⟩

end

def leaves (accountId : UUID) (handles : Bool) (choice : Choice) :
    (request : StageCall) → Except CollectorFault (StageReply request) → Bool
  | .world (.setAccountStatus other status _), _ =>
      match choice with
      | .refused _ => other = accountId && status ≠ .connecting
      | _ => false
  | .world request, reply => abandons handles request reply
  | _, _ => false

def connectsUnseen (accountId : UUID) : StageCall → Choice → Bool
  | .world (.setAccountStatus other .connecting _), .lost _ _ =>
      other = accountId
  | _, _ => false

def Excused (accountId : UUID) (thread : ThreadId)
    (premises : Premises) (phases : ThreadId → StagePhase) : Prop :=
  Opens premises.work accountId ∨
    ∃ other, other ≠ thread ∧ (phases other).owing = true

/-- No stage that has made the account connecting leaves it so. -/
def settlesAccounts (accountId : UUID) :
    Machine.StepCondition StageCall StagePhase Premises Choice where
  call thread premises phases request choice :=
    (∀ outcome ∈ premises.perform choice request,
      (phases thread).owing = true →
        leaves accountId (phases thread).handles choice request outcome.2 =
          true →
        statusOf premises.work accountId ≠ .connecting ∨
          Excused accountId thread premises phases) ∧
    (connectsUnseen accountId request choice = true →
      Excused accountId thread premises phases)
  crash thread premises phases :=
    (phases thread).owing = true →
      statusOf premises.work accountId ≠ .connecting ∨
        Excused accountId thread premises phases

structure Holds (accountId : UUID) (premises : Premises)
    (phases : ThreadId → StagePhase) : Prop where
  wellformed : Wellformed premises.work
  begun : Begun premises.work accountId
  covered : Stuck premises.work accountId →
    ∃ thread, (phases thread).owing = true

section

variable {accountId : UUID} {premises after : Premises}
variable {phases : ThreadId → StagePhase} {thread : ThreadId}

theorem Holds.covered_update (holds : Holds accountId premises phases)
    {phase : StagePhase}
    (stuck : Stuck after.work accountId → Stuck premises.work accountId)
    (owes : (phases thread).owing = true → phase.owing = true ∨
      statusOf premises.work accountId ≠ .connecting ∨
        Excused accountId thread premises phases) :
    Stuck after.work accountId →
      ∃ other, (Function.update phases thread phase other).owing = true := by
  intro stays
  have before := stuck stays
  obtain ⟨other, owing⟩ := holds.covered before
  by_cases same : other = thread
  · subst same
    rcases owes owing with still | resting | opens | ⟨another, apart, owing⟩
    · exact ⟨other, by rwa [Function.update_self]⟩
    · exact absurd before.connecting resting
    · exact absurd opens before.unopened
    · exact ⟨another, by rwa [Function.update_of_ne apart]⟩
  · exact ⟨other, by rwa [Function.update_of_ne same]⟩

theorem Holds.reset (holds : Holds accountId premises phases)
    (owes : (phases thread).owing = true →
      statusOf premises.work accountId ≠ .connecting ∨
        Excused accountId thread premises phases) :
    Holds accountId premises (Function.update phases thread {}) where
  wellformed := holds.wellformed
  begun := holds.begun
  covered := holds.covered_update id fun owing => .inr (owes owing)

theorem Written.begun (written : Written premises.work after.work)
    (begun : Begun premises.work accountId) : Begun after.work accountId := by
  unfold Begun
  rw [written.logins]
  exact begun

theorem Written.stuck (written : Written premises.work after.work)
    (same : statusOf after.work accountId = statusOf premises.work accountId)
    (stuck : Stuck after.work accountId) : Stuck premises.work accountId := by
  obtain ⟨connecting, unopened⟩ := stuck
  refine ⟨same ▸ connecting, fun opens => unopened ?_⟩
  unfold Opens
  rw [written.logins]
  exact opens

theorem advanceWorld_owing {phase : StagePhase} {request : WorldCall}
    (other : ∀ target status reasonCode,
      request ≠ .setAccountStatus target status reasonCode)
    {reply : Except CollectorFault (WorldReply request)}
    (owing : phase.owing = true) :
    (advanceWorld accountId phase request reply).owing = true ∨
      abandons phase.handles request reply = true := by
  cases request with
  | setAccountStatus target status reasonCode =>
      exact absurd rfl (other target status reasonCode)
  | claimQueuedRun target => exact .inl owing
  | _ =>
      unfold advanceWorld
      dsimp only
      split
      · rename_i abandoned
        exact .inr abandoned
      · exact .inl owing

theorem Holds.other_account (holds : Holds accountId premises phases)
    {choice : Choice} {target : UUID} {status : AccountStatus}
    {reasonCode : Option String} {reply : Except CollectorFault Unit}
    (performed : premises.perform choice
      (.world (.setAccountStatus target status reasonCode)) =
        some (after, reply)) (other : target ≠ accountId) :
    Holds accountId after (Function.update phases thread
      (advanceWorld accountId (phases thread)
        (.setAccountStatus target status reasonCode) reply)) := by
  obtain ⟨written, changed⟩ := perform_setAccountStatus performed
  have same : statusOf after.work accountId =
      statusOf premises.work accountId := by
    rcases changed with ⟨changed, _⟩ | ⟨unchanged, _⟩
    · rw [changed, Function.update_of_ne (Ne.symm other)]
    · rw [unchanged]
  have still : advanceWorld accountId (phases thread)
      (.setAccountStatus target status reasonCode) reply = phases thread := by
    simp [advanceWorld, other]
  rw [still]
  exact {
    wellformed := written.wellformed holds.wellformed
    begun := written.begun holds.begun
    covered := holds.covered_update (written.stuck same) .inl }

theorem Holds.connects (holds : Holds accountId premises phases)
    {choice : Choice} {reasonCode : Option String}
    {reply : Except CollectorFault Unit}
    (performed : premises.perform choice
      (.world (.setAccountStatus accountId .connecting reasonCode)) =
        some (after, reply))
    (seen : connectsUnseen accountId
        (.world (.setAccountStatus accountId .connecting reasonCode)) choice =
        true → Excused accountId thread premises phases) :
    Holds accountId after (Function.update phases thread
      (advanceWorld accountId (phases thread)
        (.setAccountStatus accountId .connecting reasonCode) reply)) := by
  obtain ⟨written, changed⟩ := perform_setAccountStatus performed
  refine ⟨written.wellformed holds.wellformed, written.begun holds.begun, ?_⟩
  have advanced : ∀ fault, advanceWorld accountId (phases thread)
      (.setAccountStatus accountId .connecting reasonCode) (.error fault) =
        phases thread := by
    intro fault
    simp [advanceWorld]
  rcases changed with
    ⟨changed, rfl | ⟨draw, fault, rfl⟩⟩ | ⟨unchanged, failed, _⟩
  · intro _
    refine ⟨thread, ?_⟩
    rw [Function.update_self]
    simp [advanceWorld]
  · intro stuck
    rcases seen (by simp [connectsUnseen]) with
      ⟨item, member, opens⟩ | ⟨another, apart, owing⟩
    · refine absurd ⟨item, ?_, opens⟩ stuck.unopened
      rw [written.logins]
      exact member
    · exact ⟨another, by rwa [Function.update_of_ne apart]⟩
  · cases reply with
    | ok value => exact absurd rfl failed
    | error fault =>
        rw [advanced]
        exact holds.covered_update (unchanged ▸ id) .inl

theorem Holds.settles (holds : Holds accountId premises phases)
    {choice : Choice} {status : AccountStatus} {reasonCode : Option String}
    {reply : Except CollectorFault Unit} (settles : status ≠ .connecting)
    (performed : premises.perform choice
      (.world (.setAccountStatus accountId status reasonCode)) =
        some (after, reply))
    (kept : (phases thread).owing = true →
      leaves accountId (phases thread).handles choice
        (.world (.setAccountStatus accountId status reasonCode)) reply =
          true →
      statusOf premises.work accountId ≠ .connecting ∨
        Excused accountId thread premises phases) :
    Holds accountId after (Function.update phases thread
      (advanceWorld accountId (phases thread)
        (.setAccountStatus accountId status reasonCode) reply)) := by
  obtain ⟨written, changed⟩ := perform_setAccountStatus performed
  refine ⟨written.wellformed holds.wellformed, written.begun holds.begun, ?_⟩
  rcases changed with
    ⟨changed, _⟩ | ⟨unchanged, _, ⟨fault, rfl⟩ | resting⟩
  · intro stuck
    have connecting := stuck.connecting
    rw [changed, Function.update_self] at connecting
    exact absurd connecting settles
  · refine holds.covered_update (unchanged ▸ id) fun owing => .inr ?_
    exact kept owing (by simp [leaves, settles])
  · intro stuck
    rw [unchanged] at stuck
    exact absurd stuck.connecting (resting settles)

theorem Holds.world (holds : Holds accountId premises phases)
    {choice : Choice} {request : WorldCall}
    {reply : Except CollectorFault (WorldReply request)}
    (performed : premises.perform choice (.world request) =
      some (after, reply))
    (other : ∀ target status reasonCode,
      request ≠ .setAccountStatus target status reasonCode)
    (kept : (phases thread).owing = true →
      leaves accountId (phases thread).handles choice (.world request) reply =
        true →
      statusOf premises.work accountId ≠ .connecting ∨
        Excused accountId thread premises phases) :
    Holds accountId after (Function.update phases thread
      (advanceWorld accountId (phases thread) request reply)) := by
  obtain ⟨written, same⟩ := perform_keeps performed other
  refine {
    wellformed := written.wellformed holds.wellformed
    begun := written.begun holds.begun
    covered := holds.covered_update
      (written.stuck (congrFun same accountId)) fun owing => ?_ }
  rcases advanceWorld_owing other owing with still | abandoned
  · exact .inl still
  · refine .inr (kept owing ?_)
    cases request with
    | setAccountStatus target status reasonCode =>
        exact absurd rfl (other target status reasonCode)
    | _ => exact abandoned

theorem Holds.signIn (holds : Holds accountId premises phases)
    {choice : Choice} {operation : Operation}
    {reply : Except CollectorFault Unit}
    (performed : premises.signIn choice operation = some (after, reply)) :
    Holds accountId after (Function.update phases thread (phases thread)) := by
  have stepped : after = premises ∨ (OfService operation ∧
      next premises.work operation = some after.work) := by
    unfold Premises.signIn at performed
    cases operation with
    | setAccountStatus => cases performed
    | _ =>
        cases choice with
        | refused fault =>
            cases performed
            exact .inl rfl
        | returns draw =>
            obtain ⟨work, moved, shape⟩ := Option.map_eq_some_iff.mp performed
            cases shape
            exact .inr ⟨trivial, moved⟩
        | lost draw fault =>
            obtain ⟨work, moved, shape⟩ := Option.map_eq_some_iff.mp performed
            cases shape
            exact .inr ⟨trivial, moved⟩
  rcases stepped with rfl | ⟨ofService, moved⟩
  · rwa [Function.update_eq_self]
  · have effect := next_effect holds.wellformed ofService moved
    exact {
      wellformed := next_wellformed holds.wellformed moved
      begun := Effect.begun effect holds.begun
      covered := holds.covered_update (Effect.stuck effect holds.begun) .inl }

theorem answered_keeps {α : Type} {choice : Choice}
    {answer : Draw → Except CollectorFault α}
    {reply : Except CollectorFault α}
    (performed : some (premises.answered choice answer) = some (after, reply)) :
    after = premises := by
  have shape := congrArg Prod.fst (Option.some.inj performed)
  cases choice <;> exact shape.symm

theorem Holds.step (holds : Holds accountId premises phases)
    {request : StageCall} {choice : Choice}
    {reply : Except CollectorFault (StageReply request)}
    (guard : (settlesAccounts accountId).call thread premises phases request
      choice)
    (performed : premises.perform choice request = some (after, reply)) :
    Holds accountId after (Function.update phases thread
      ((stageProtocol accountId).advance (phases thread) request reply)) := by
  obtain ⟨kept, seen⟩ := guard
  have kept := kept (after, reply) performed
  cases request with
  | world request =>
      by_cases status : ∃ target status reasonCode,
          request = .setAccountStatus target status reasonCode
      · obtain ⟨target, status, reasonCode, rfl⟩ := status
        by_cases own : target = accountId
        · subst own
          by_cases connecting : status = .connecting
          · subst connecting
            exact holds.connects performed seen
          · exact holds.settles connecting performed kept
        · exact holds.other_account performed own
      · refine holds.world performed ?_ kept
        exact fun target written reasonCode same =>
          status ⟨target, written, reasonCode, same⟩
  | loginSession operation => exact holds.signIn performed
  | _ =>
      obtain rfl := answered_keeps performed
      have still := holds
      rwa [← Function.update_eq_self thread phases] at still

end

/-- In every run in which no stage leaves the account connecting: when no
session is open and no stage is at work, the account is not connecting, and
unless it is limited a session can be created. -/
theorem accounts_settle (accountId : UUID) (premises : Premises)
    (wellformed : Wellformed premises.work)
    (begun : Begun premises.work accountId)
    (unstuck : ¬ Stuck premises.work accountId)
    (labels : List (Label StageJob Choice))
    (meets : Meets (accountMachine accountId).next
      (Machine.stepCondition (settlesAccounts accountId))
      ((accountMachine accountId).initial premises) labels)
    (final : Config StageCall StageReply CollectorFault StagePhase Premises)
    (ran : run (accountMachine accountId).next
      ((accountMachine accountId).initial premises) labels = some final)
    (resting : ∀ thread request resume,
      final.threads thread = some (.call request resume) →
        ofStage request = false)
    (unopened : ¬ Opens final.shared.work accountId) :
    statusOf final.shared.work accountId ≠ .connecting ∧
      (statusOf final.shared.work accountId ≠ .temporarilyLimited →
        ∀ now sessionId token ttl, ttl ≠ 0 ∧ ttl ≤ DEFAULT_LOGIN_TTL →
          (∀ item ∈ final.shared.work.logins,
            item.id ≠ sessionId ∧ item.launchTokenHash ≠ ⟨token⟩) →
          ∃ created, create final.shared.work now sessionId token accountId
            ttl true = .ok created) := by
  have initially : Machine.Sound (accountMachine accountId) (Holds accountId)
      Calm ((accountMachine accountId).initial premises) :=
    Machine.sound_initial
      ⟨wellformed, begun, fun stuck => absurd stuck unstuck⟩
  have sound : Machine.Sound (accountMachine accountId) (Holds accountId)
      Calm final := by
    refine run_invariant ?_ initially meets ran
    refine Machine.sound_next_steps program_calm ?_ ?_ ?_
    · intro shared phases thread holds free
      refine holds.reset fun owing => ?_
      rcases free with calm | idle
      · rw [calm] at owing
        cases owing
      · rw [idle] at owing
        cases owing
    · exact fun shared phases thread holds owes => holds.reset owes
    · exact fun thread shared phases request choice after reply holds _ guard
        performed => ⟨trivial, holds.step guard performed⟩
  have calm : ∀ thread, (final.phases thread).owing = false := by
    intro thread
    cases running : final.threads thread with
    | none =>
        rw [sound.absent thread running]
        rfl
    | some program =>
        have follows := sound.follows thread program running
        cases program with
        | done result => exact follows
        | call request resume =>
            have outside := resting thread request resume running
            rcases follows.1 with stage | calm
            · rw [outside] at stage
              cases stage
            · exact calm
  have rests : statusOf final.shared.work accountId ≠ .connecting := by
    intro connecting
    obtain ⟨thread, owing⟩ := sound.holds.covered ⟨connecting, unopened⟩
    rw [calm thread] at owing
    cases owing
  refine ⟨rests, fun unlimited now sessionId token ttl lifetime fresh => ?_⟩
  exact create_succeeds unopened rests unlimited now lifetime fresh

def reauthPremises : Premises where
  work := reauthWorkspace
  objects := fun _ => none
  files := fun _ => none

def stage3B : StageJob :=
  .runStage3B ⟨0, 1⟩ ⟨stage3BLimits ⟨0, 1, 3, 1, 60⟩, true, true⟩ 1
    false

def untilReady : List (Label StageJob Choice) :=
  .spawn 0 stage3B :: List.replicate 6 (.step 0 (.returns {}))

def declined : List (Label StageJob Choice) :=
  untilReady ++ List.replicate 3 (.step 0 (.returns {})) ++
    [.step 0 (.returns { answer := false }), .step 0 (.returns {}),
      .spawn 0 (.loginSession (.create 5 7 "token" 1 100 true)),
      .step 0 (.returns {}), .spawn 0 (.loginSession (.cancel 6 7)),
      .step 0 (.returns {})]

def unanswered : List (Label StageJob Choice) :=
  untilReady ++ [.step 0 (.returns { answer := false }),
    .step 0 (.returns {})]

def rests (status : AccountStatus)
    (final : Config StageCall StageReply CollectorFault StagePhase Premises) :
    Bool :=
  (match final.threads 0 with
    | some (.done _) => true
    | _ => false) &&
    (final.shared.work.logins.rows.all fun item => !item.status.isOpen) &&
    statusOf final.shared.work 1 = status

theorem rests_of_alone {labels : List (Label StageJob Choice)}
    {final : Config StageCall StageReply CollectorFault StagePhase Premises}
    {status : AccountStatus}
    (alone : ∀ thread job, .spawn thread job ∈ labels → thread = 0)
    (ran : run (accountMachine 1).next
      ((accountMachine 1).initial reauthPremises) labels = some final)
    (checked : rests status final = true) :
    (∀ thread request resume,
        final.threads thread ≠ some (.call request resume)) ∧
      ¬ Opens final.shared.work 1 ∧ statusOf final.shared.work 1 = status := by
  simp only [rests, Bool.and_eq_true, decide_eq_true_eq, List.all_eq_true]
    at checked
  obtain ⟨⟨done, closed⟩, here⟩ := checked
  refine ⟨?_, ?_, here⟩
  · intro thread request resume running
    by_cases first : thread = 0
    · rw [← first, running] at done
      cases done
    · have absent := Machine.run_absent
        (rfl : ((accountMachine 1).initial reauthPremises).threads thread =
          none) (fun job member => first (alone thread job member)) ran
      rw [absent] at running
      cases running
  · intro ⟨item, member, _, isOpen⟩
    have shut := closed item member
    rw [isOpen] at shut
    cases shut

theorem reauth_begun : Begun reauthPremises.work 1 :=
  fun _ member => absurd member (Table.not_mem_empty _)

theorem reauth_unstuck : ¬ Stuck reauthPremises.work 1 :=
  fun stuck => nomatch (stuck.connecting : AccountStatus.reauthRequired = _)

theorem alone_of_first {labels : List (Label StageJob Choice)}
    (first : labels.all fun
      | .spawn thread _ => thread = 0
      | _ => true) (thread : ThreadId) (job : StageJob)
    (member : .spawn thread job ∈ labels) : thread = 0 := by
  simpa using List.all_eq_true.mp first _ member

def refusal : Except LoginFault (Workspace × CreatedLoginSession) →
    Option LoginFault
  | .ok _ => none
  | .error fault => some fault

/-- The operator's deadline passes: the account is left connecting, with no
session and no stage, and no session can be created for it. -/
theorem unanswered_stage_strands :
    Wellformed reauthPremises.work ∧ Begun reauthPremises.work 1 ∧
      ¬ Stuck reauthPremises.work 1 ∧
      ∃ final, run (accountMachine 1).next
          ((accountMachine 1).initial reauthPremises) unanswered =
            some final ∧
        (∀ thread request resume,
          final.threads thread ≠ some (.call request resume)) ∧
        ¬ Opens final.shared.work 1 ∧
        statusOf final.shared.work 1 = .connecting ∧
        create final.shared.work 9 7 "token" 1 100 true = .error
          (.loginSession "Account cannot start a login session now.") := by
  refine ⟨reauthWorkspace_wellformed, reauth_begun, reauth_unstuck, ?_⟩
  have left : ((run (accountMachine 1).next
      ((accountMachine 1).initial reauthPremises) unanswered).any fun final =>
        rests .connecting final &&
          refusal (create final.shared.work 9 7 "token" 1 100 true) =
            some (.loginSession
              "Account cannot start a login session now.")) = true := by
    decide +kernel
  obtain ⟨final, ran, checked⟩ := (Option.any_eq_true _ _).mp left
  simp only [Bool.and_eq_true, decide_eq_true_eq] at checked
  obtain ⟨checked, refused⟩ := checked
  obtain ⟨returned, unopened, connecting⟩ :=
    rests_of_alone (alone_of_first (by decide)) ran checked
  refine ⟨final, ran, returned, unopened, connecting, ?_⟩
  cases created : create final.shared.work 9 7 "token" 1 100 true with
  | ok after =>
      rw [created] at refused
      cases refused
  | error fault =>
      rw [created] at refused
      exact congrArg Except.error (Option.some.inj refused)

def settlesAlone (accountId : UUID) :
    Machine.StepCondition StageCall StagePhase Premises Choice where
  call thread premises phases request choice :=
    (∀ outcome ∈ premises.perform choice request,
      (phases thread).owing = true →
        leaves accountId (phases thread).handles choice request outcome.2 =
          false) ∧
    connectsUnseen accountId request choice = false
  crash thread _ phases := (phases thread).owing = false

theorem settlesAlone_settles {accountId : UUID}
    {config : Config StageCall StageReply CollectorFault StagePhase Premises}
    {label : Label StageJob Choice}
    (holds : Machine.stepCondition (settlesAlone accountId) config label) :
    Machine.stepCondition (settlesAccounts accountId) config label := by
  refine Machine.stepCondition_mono ?_ ?_ holds
  · intro thread premises phases request choice ⟨kept, seen⟩
    constructor
    · intro outcome performed owing left
      rw [kept outcome performed owing] at left
      cases left
    · intro unseen
      rw [seen] at unseen
      cases unseen
  · intro thread premises phases calm owing
    rw [calm] at owing
    cases owing

instance (accountId : UUID) (thread : ThreadId) (premises : Premises)
    (phases : ThreadId → StagePhase) (request : StageCall) (choice : Choice) :
    Decidable ((settlesAlone accountId).call thread premises phases request
      choice) :=
  inferInstanceAs (Decidable ((∀ outcome ∈ premises.perform choice request,
    (phases thread).owing = true →
      leaves accountId (phases thread).handles choice request outcome.2 =
        false) ∧
    connectsUnseen accountId request choice = false))

instance (accountId : UUID) (thread : ThreadId) (premises : Premises)
    (phases : ThreadId → StagePhase) :
    Decidable ((settlesAlone accountId).crash thread premises phases) :=
  inferInstanceAs (Decidable ((phases thread).owing = false))

theorem accounts_settle_declined :
    ∃ final, run (accountMachine 1).next
        ((accountMachine 1).initial reauthPremises) declined = some final ∧
      statusOf final.shared.work 1 ≠ .connecting ∧
      (statusOf final.shared.work 1 ≠ .temporarilyLimited →
        ∀ now sessionId token ttl, ttl ≠ 0 ∧ ttl ≤ DEFAULT_LOGIN_TTL →
          (∀ item ∈ final.shared.work.logins,
            item.id ≠ sessionId ∧ item.launchTokenHash ≠ ⟨token⟩) →
          ∃ created, create final.shared.work now sessionId token 1 ttl true =
            .ok created) := by
  have meets : Meets (accountMachine 1).next
      (Machine.stepCondition (settlesAlone 1))
      ((accountMachine 1).initial reauthPremises) declined := by
    decide +kernel
  have left : ((run (accountMachine 1).next
      ((accountMachine 1).initial reauthPremises) declined).any
        (rests .connected)) = true := by
    decide +kernel
  obtain ⟨final, ran, checked⟩ := (Option.any_eq_true _ _).mp left
  obtain ⟨returned, unopened, _⟩ :=
    rests_of_alone (alone_of_first (by decide)) ran checked
  exact ⟨final, ran, accounts_settle 1 reauthPremises
    reauthWorkspace_wellformed reauth_begun reauth_unstuck declined
    (Along.mono (fun _ _ _ => settlesAlone_settles) meets) final ran
    (fun thread request resume running =>
      absurd running (returned thread request resume)) unopened⟩

end OfflineReels.Management.StuckAccounts
