import OfflineReels.Gateway.Relay

namespace OfflineReels.Gateway.ViewerAccess

open OfflineReels.Foundation
open OfflineReels.Instagram
open OfflineReels.Management

/-! The access of the viewers over whole runs of the gateway. -/

def Granted (gateway : LoginGateway) (now : Time) : Grant → Prop
  | .login sessionId => ∃ work, LoginSessions.status gateway.work now
      sessionId = .ok (work, some .active)
  | .handoff sessionId =>
      (HandoffStore.state gateway.handoffs now sessionId).2 = some .active

/-- A message is forwarded only while its session is active. -/
def Holds (before : LoginGateway) (_ : Event) (after : LoginGateway) : Prop :=
  after.forwarded = before.forwarded ∨
    ∃ forwarded relay, after.forwarded = before.forwarded ++ [forwarded] ∧
      before.relays[forwarded.relay]? = some relay ∧
      Granted before forwarded.time relay.grant

def operationTime : LoginLifecycle.Operation → Time
  | .create now .. | .activate now .. | .status now _ | .cancel now _
  | .complete now _ | .setAccountStatus now .. => now

def HandoffOperation.time : HandoffOperation → Time
  | .create now .. | .activate now .. | .state now _ | .resolve now .. => now

def Event.time : Event → Option Time
  | .login operation => some (operationTime operation)
  | .handoff operation => some (HandoffOperation.time operation)
  | .connect now .. | .receiveClient _ now _ | .receiveUpstream _ now _ =>
      some now
  | .accepted _ | .connected _ | .sent .. | .ended _ | .lost _ => none

def operationEnds : LoginLifecycle.Operation → Option UUID
  | .cancel _ sessionId | .complete _ sessionId => some sessionId
  | .create .. | .activate .. | .status .. | .setAccountStatus .. => none

def HandoffOperation.ends : HandoffOperation → Option UUID
  | .resolve _ sessionId _ => some sessionId
  | .create .. | .activate .. | .state .. => none

def endedLogin (gateway : LoginGateway) : Event → Option UUID
  | .login operation =>
      if (LoginLifecycle.perform gateway.work operation).toBool then
        operationEnds operation
      else none
  | _ => none

def endedHandoff : Event → Option UUID
  | .handoff operation => HandoffOperation.ends operation
  | _ => none

def Ends (gateway : LoginGateway) (event : Event) : Grant → Prop
  | .login sessionId => endedLogin gateway event = some sessionId
  | .handoff sessionId => endedHandoff event = some sessionId

instance (gateway : LoginGateway) (event : Event) :
    (grant : Grant) → Decidable (Ends gateway event grant)
  | .login _ => inferInstanceAs (Decidable (_ = _))
  | .handoff _ => inferInstanceAs (Decidable (_ = _))

def Lasting (gateway : LoginGateway) (now : Time) : Grant → Prop
  | .login sessionId => ∀ item ∈ gateway.work.logins,
      item.id = sessionId → now < item.expiresAt
  | .handoff sessionId => ∀ handoff ∈ gateway.handoffs,
      handoff.id = sessionId → handoff.expiresAt.any (now < ·) = true

instance (gateway : LoginGateway) (now : Time) :
    (grant : Grant) → Decidable (Lasting gateway now grant)
  | .login sessionId => inferInstanceAs (Decidable (∀ item ∈ gateway.work.logins,
      item.id = sessionId → now < item.expiresAt))
  | .handoff sessionId => inferInstanceAs (Decidable (∀ handoff ∈
      gateway.handoffs, handoff.id = sessionId →
        handoff.expiresAt.any (now < ·) = true))

/-- No session is cancelled, completed, resolved or runs out while a relay of
it is open. -/
def Attended (gateway : LoginGateway) (event : Event) : Prop :=
  ∀ relay ∈ gateway.relays, relay.isOpen = true →
    (∀ now ∈ Event.time event, Lasting gateway now relay.grant) ∧
      ¬ Ends gateway event relay.grant

instance (gateway : LoginGateway) (event : Event) :
    Decidable (Attended gateway event) :=
  inferInstanceAs (Decidable (∀ relay ∈ gateway.relays, relay.isOpen = true →
    (∀ now ∈ Event.time event, Lasting gateway now relay.grant) ∧
      ¬ Ends gateway event relay.grant))

section

variable {Row : Type} {key : Row → UUID} {active : Row → Prop}
variable {expiry : Row → Option Time} {now : Time} {ended : Option UUID}

def Carries (active : Row → Prop) (expiry : Row → Option Time) (now : Time)
    (ended : Option UUID) (before after : Table Row UUID key) : Prop :=
  ∀ row ∈ before, ∃ left ∈ after, key left = key row ∧
    expiry left = expiry row ∧
    (ended ≠ some (key row) → (expiry row).any (now < ·) = true →
      active row → active left) ∧
    (ended = some (key row) → ¬ active left)

theorem carries_refl (table : Table Row UUID key) :
    Carries active expiry now none table table :=
  fun row member => ⟨row, member, rfl, rfl, fun _ _ live => live, nofun⟩

theorem carries_trans {first second third : Table Row UUID key}
    (before : Carries active expiry now none first second)
    (after : Carries active expiry now ended second third) :
    Carries active expiry now ended first third := by
  intro row member
  obtain ⟨middle, present, sameKey, sameExpiry, stays, _⟩ := before row member
  obtain ⟨left, kept, leftKey, leftExpiry, leftStays, gone⟩ :=
    after middle present
  rw [sameKey] at leftKey leftStays gone
  rw [sameExpiry] at leftExpiry leftStays
  refine ⟨left, kept, leftKey, leftExpiry, fun other lasts live => ?_, gone⟩
  exact leftStays other lasts (stays nofun lasts live)

theorem carries_put {table : Table Row UUID key} {row written : Row}
    (member : row ∈ table) (sameKey : key written = key row)
    (sameExpiry : expiry written = expiry row)
    (stays : ended = none → (expiry row).any (now < ·) = true → active row →
      active written)
    (gone : ∀ identifier, ended = some identifier → identifier = key row ∧
      ¬ active written) :
    Carries active expiry now ended table (table.put written) := by
  intro other present
  by_cases same : key other = key row
  · obtain rfl := Table.eq_of_key_eq present member same
    refine ⟨written, Table.mem_put.mpr (.inl ⟨rfl, other, present,
      sameKey.symm⟩), sameKey, sameExpiry, fun lives => ?_, fun ends =>
        (gone _ ends).2⟩
    cases ended with
    | none => exact stays rfl
    | some identifier =>
        exact absurd (congrArg some (gone identifier rfl).1) lives
  · refine ⟨other, Table.mem_put.mpr (.inr ⟨present, ?_⟩), rfl, rfl,
      fun _ _ live => live, fun ends => absurd (gone _ ends).1 same⟩
    rw [sameKey]
    exact same

theorem carries_insert {table after : Table Row UUID key} {row : Row}
    (inserted : table.insert? row = some after) :
    Carries active expiry now none table after := by
  intro other member
  exact ⟨other, (Table.mem_insert? inserted).mpr (.inl member), rfl, rfl,
    fun _ _ live => live, nofun⟩

theorem carries_end {before after : Table Row UUID key} {identifier : UUID}
    (carried : Carries active expiry now none before after)
    (gone : ∀ row ∈ after, key row = identifier → ¬ active row) :
    Carries active expiry now (some identifier) before after := by
  intro row member
  obtain ⟨left, kept, sameKey, sameExpiry, stays, _⟩ := carried row member
  refine ⟨left, kept, sameKey, sameExpiry, fun _ => stays nofun, fun ends => ?_⟩
  exact gone left kept (sameKey.trans (Option.some.inj ends).symm)

end

section

variable {work after : Workspace} {now : Time}

abbrev LoginCarries (now : Time) (ended : Option UUID)
    (work after : Workspace) : Prop :=
  Carries (fun item : InstagramLoginSession => item.status = .active)
    (fun item => some item.expiresAt) now ended work.logins after.logins

theorem restoreAccount_logins {item : InstagramLoginSession}
    (restored : LoginSessions.restoreAccount work item = .ok after) :
    after.logins = work.logins := by
  obtain ⟨account, _, rfl⟩ := LoginSessions.restoreAccount_eq_ok restored
  rfl

theorem expireLocked_carries {item left : InstagramLoginSession}
    (member : item ∈ work.logins)
    (expired : LoginSessions.expireLocked work now item = .ok (after, left)) :
    LoginCarries now none work after ∧ left ∈ after.logins ∧
      left.id = item.id ∧ left.expiresAt = item.expiresAt := by
  rcases LoginSessions.expireLocked_eq_ok expired with
    ⟨_, due, rfl, restored⟩ | ⟨_, rfl, rfl⟩
  · have logins := restoreAccount_logins restored
    refine ⟨?_, ?_, rfl, rfl⟩
    · unfold LoginCarries
      rw [logins]
      refine carries_put member rfl rfl (fun _ lasts => ?_) nofun
      simp only [Option.any_some, decide_eq_true_eq] at lasts
      exact absurd due lasts.not_ge
    · rw [logins]
      exact Table.mem_put.mpr (.inl ⟨rfl, item, member, rfl⟩)
  · exact ⟨carries_refl _, member, rfl, rfl⟩

theorem expireAll_carries {items : List InstagramLoginSession}
    {stillOpen : Bool} (members : ∀ item ∈ items, item ∈ work.logins)
    (unique : (items.map (·.id)).Nodup)
    (expired : LoginSessions.expireAll now items work =
      .ok (after, stillOpen)) : LoginCarries now none work after := by
  induction items generalizing work after stillOpen with
  | nil =>
      cases expired
      exact carries_refl _
  | cons item rest ih =>
      obtain ⟨⟨middle, left⟩, first, expired⟩ := bind_eq_ok expired
      obtain ⟨⟨last, others⟩, remaining, expired⟩ := bind_eq_ok expired
      cases expired
      obtain ⟨carried, _, _, _⟩ :=
        expireLocked_carries (members item List.mem_cons_self) first
      simp only [List.map_cons, List.nodup_cons] at unique
      refine carries_trans carried (ih ?_ unique.2 remaining)
      intro other present
      have before := members other (List.mem_cons_of_mem _ present)
      have apart : other.id ≠ item.id := fun same =>
        unique.1 (List.mem_map.mpr ⟨other, present, same⟩)
      rcases LoginSessions.expireLocked_eq_ok first with
        ⟨_, _, rfl, restored⟩ | ⟨_, _, rfl⟩
      · rw [restoreAccount_logins restored]
        exact Table.mem_put.mpr (.inr ⟨before, apart⟩)
      · exact before

theorem beginLogin_logins {account : InstagramAccount} {allowed : Bool}
    (begun : LoginSessions.beginLogin work account allowed = .ok after) :
    after.logins = work.logins := by
  rcases LoginSessions.beginLogin_eq_ok begun with ⟨_, rfl⟩ | ⟨_, rfl⟩
  · rfl
  · rfl

theorem openLogin_carries {sessionId : UUID} {token : String}
    {accountId : UUID} {ttl : Time} {allowed : Bool}
    {created : LoginSessions.CreatedLoginSession}
    (opened : LoginSessions.openLogin work now sessionId token accountId ttl
      allowed = .ok (after, created)) : LoginCarries now none work after := by
  unfold LoginSessions.openLogin at opened
  split at opened
  · cases opened
  · obtain ⟨begun, began, opened⟩ := bind_eq_ok opened
    obtain ⟨inserted, insertion, opened⟩ := bind_eq_ok opened
    cases opened
    obtain ⟨logins, inserts, _, rfl⟩ := LoginSessions.insertLogin_eq_ok
      (LoginSessions.orLoginFault_eq_ok.mp insertion)
    unfold LoginCarries
    rw [← beginLogin_logins began]
    exact carries_insert inserts

theorem createInTransaction_carries {sessionId : UUID} {token : String}
    {accountId : UUID} {ttl : Time} {allowed : Bool}
    {created : LoginSessions.CreatedLoginSession}
    (succeeded : LoginSessions.createInTransaction work now sessionId token
      accountId ttl allowed = .ok (after, created)) :
    LoginCarries now none work after := by
  unfold LoginSessions.createInTransaction at succeeded
  split at succeeded
  · cases succeeded
  · obtain ⟨⟨middle, stillOpen⟩, swept, succeeded⟩ := bind_eq_ok succeeded
    have members : ∀ item ∈ work.logins.rows.filter (fun item =>
        item.accountId = accountId && item.status.isOpen),
        item ∈ work.logins := fun item listed => (List.mem_filter.mp listed).1
    have unique := (work.logins.keysNodup).sublist
      ((List.filter_sublist (p := fun item =>
        item.accountId = accountId && item.status.isOpen)).map
          InstagramLoginSession.id)
    have carried := expireAll_carries members unique
      (LoginSessions.orLoginFault_eq_ok.mp swept)
    dsimp only at succeeded
    split at succeeded
    · cases succeeded
    · obtain ⟨database, _, succeeded⟩ := bind_eq_ok succeeded
      have opened : LoginCarries now none { middle with database } after :=
        openLogin_carries succeeded
      exact carries_trans carried opened

theorem activate_carries {sessionId : UUID} {token : String}
    {status : LoginSessionStatus}
    (succeeded : LoginSessions.activate work now sessionId token =
      .ok (after, status)) : LoginCarries now none work after := by
  unfold LoginSessions.activate at succeeded
  split at succeeded
  · cases succeeded
  · rename_i item found
    split at succeeded
    · cases succeeded
    · obtain ⟨⟨middle, left⟩, expired, succeeded⟩ := bind_eq_ok succeeded
      obtain ⟨carried, present, _, _⟩ := expireLocked_carries
        (Table.find?_eq_some.mp found).1
        (LoginSessions.orLoginFault_eq_ok.mp expired)
      dsimp only at succeeded
      split at succeeded
      · cases succeeded
      · cases succeeded
        refine carries_trans carried ?_
        exact carries_put present rfl rfl (fun _ _ _ => rfl) nofun

theorem status_carries {sessionId : UUID} {status : Option LoginSessionStatus}
    (succeeded : LoginSessions.status work now sessionId =
      .ok (after, status)) : LoginCarries now none work after := by
  unfold LoginSessions.status at succeeded
  split at succeeded
  · cases succeeded
    exact carries_refl _
  · rename_i item found
    obtain ⟨⟨middle, left⟩, expired, shape⟩ := map_eq_ok succeeded
    cases shape
    exact (expireLocked_carries (Table.find?_eq_some.mp found).1
      (LoginSessions.orLoginFault_eq_ok.mp expired)).1

theorem only_row {item : InstagramLoginSession} (member : item ∈ work.logins)
    {sessionId : UUID} (here : item.id = sessionId)
    (gone : item.status ≠ .active) :
    ∀ row ∈ work.logins, row.id = sessionId → ¬ row.status = .active := by
  intro row present same
  rw [Table.eq_of_key_eq present member (same.trans here.symm)]
  exact gone

theorem cancel_carries {sessionId : UUID} {status : LoginSessionStatus}
    (succeeded : LoginSessions.cancelInTransaction work now sessionId =
      .ok (after, status)) : LoginCarries now (some sessionId) work after := by
  unfold LoginSessions.cancelInTransaction at succeeded
  split at succeeded
  · cases succeeded
  · rename_i item found
    obtain ⟨member, here⟩ := Table.find?_eq_some.mp found
    obtain ⟨⟨middle, left⟩, expired, succeeded⟩ := bind_eq_ok succeeded
    obtain ⟨carried, present, identity, _⟩ := expireLocked_carries member
      (LoginSessions.orLoginFault_eq_ok.mp expired)
    have same : left.id = sessionId := identity.trans here
    dsimp only at succeeded
    split at succeeded
    · rename_i shut
      cases succeeded
      refine carries_end carried (only_row present same fun live => ?_)
      rw [live] at shut
      cases shut
    · obtain ⟨restored, performed, shape⟩ := map_eq_ok succeeded
      cases shape
      refine carries_trans carried ?_
      rw [restoreAccount_logins
        (LoginSessions.orLoginFault_eq_ok.mp performed)]
      refine carries_put present rfl rfl nofun fun identifier ends => ?_
      exact ⟨(Option.some.inj ends).symm.trans same.symm, nofun⟩

theorem complete_carries {sessionId : UUID} {status : LoginSessionStatus}
    (succeeded : LoginSessions.complete work now sessionId =
      .ok (after, status)) : LoginCarries now (some sessionId) work after := by
  unfold LoginSessions.complete at succeeded
  split at succeeded
  · cases succeeded
  · rename_i item found
    obtain ⟨member, here⟩ := Table.find?_eq_some.mp found
    obtain ⟨⟨middle, left⟩, expired, succeeded⟩ := bind_eq_ok succeeded
    obtain ⟨carried, present, identity, _⟩ := expireLocked_carries member
      (LoginSessions.orLoginFault_eq_ok.mp expired)
    have same : left.id = sessionId := identity.trans here
    dsimp only at succeeded
    split at succeeded
    · rename_i shut
      cases succeeded
      exact carries_end carried (only_row present same shut)
    · obtain ⟨connected, performed, shape⟩ := map_eq_ok succeeded
      cases shape
      obtain ⟨account, rfl⟩ := LoginLifecycle.connectAccount_eq_ok
        (LoginSessions.orLoginFault_eq_ok.mp performed)
      refine carries_trans carried ?_
      refine carries_put present rfl rfl nofun fun identifier ends => ?_
      exact ⟨(Option.some.inj ends).symm.trans same.symm, nofun⟩

theorem perform_carries {operation : LoginLifecycle.Operation}
    (performed : LoginLifecycle.perform work operation = .ok after) :
    LoginCarries (operationTime operation) (operationEnds operation) work
      after := by
  cases operation with
  | create now sessionId token accountId ttl allowed =>
      obtain ⟨⟨created, _⟩, succeeded, rfl⟩ := map_eq_ok performed
      unfold LoginSessions.create at succeeded
      split at succeeded
      · cases succeeded
      · exact createInTransaction_carries succeeded
  | activate now sessionId token =>
      obtain ⟨⟨activated, _⟩, succeeded, rfl⟩ := map_eq_ok performed
      exact activate_carries succeeded
  | status now sessionId =>
      obtain ⟨⟨left, _⟩, succeeded, rfl⟩ := map_eq_ok performed
      exact status_carries succeeded
  | cancel now sessionId =>
      obtain ⟨⟨left, _⟩, succeeded, rfl⟩ := map_eq_ok performed
      exact cancel_carries succeeded
  | complete now sessionId =>
      obtain ⟨⟨left, _⟩, succeeded, rfl⟩ := map_eq_ok performed
      exact complete_carries succeeded
  | setAccountStatus now accountId status reasonCode =>
      obtain ⟨database, _, rfl⟩ := map_eq_ok performed
      exact carries_refl _

end

section

variable {store : HandoffStore} {now : Time}

abbrev HandoffCarries (now : Time) (ended : Option UUID)
    (store after : HandoffStore) : Prop :=
  Carries (fun handoff : Handoff => handoff.state = .active)
    Handoff.expiresAt now ended store after

theorem expire_state (handoff : Handoff) :
    (HandoffStore.expire now handoff).id = handoff.id ∧
      (HandoffStore.expire now handoff).expiresAt = handoff.expiresAt ∧
      ((HandoffStore.expire now handoff).state = .active ↔
        handoff.state = .active ∧
          handoff.expiresAt.any (now < ·) = true) := by
  unfold HandoffStore.expire
  cases terminal : handoff.state.isTerminal with
  | true =>
      refine ⟨rfl, rfl, fun live => ?_, fun live => ?_⟩
      · rw [if_pos rfl] at live
        rw [live] at terminal
        cases terminal
      · rw [live.1] at terminal
        cases terminal
  | false =>
      rw [if_neg Bool.false_ne_true]
      by_cases lasts : handoff.expiresAt.any (now < ·) = true
      · rw [if_pos lasts]
        exact ⟨rfl, rfl, fun live => ⟨live, lasts⟩, fun live => live.1⟩
      · rw [if_neg lasts]
        exact ⟨rfl, rfl, nofun, fun live => absurd live.2 lasts⟩

theorem expire_active {handoff : Handoff} (active : handoff.state = .active) :
    (HandoffStore.expire now handoff).state = .active ∨
      (HandoffStore.expire now handoff).state = .expired := by
  unfold HandoffStore.expire
  have lives : handoff.state.isTerminal = false := by
    rw [active]
    rfl
  rw [lives, if_neg Bool.false_ne_true]
  split
  · exact .inl active
  · exact .inr rfl

theorem expired_carries {handoff : Handoff} (member : handoff ∈ store) :
    HandoffCarries now none store
      (if (HandoffStore.expire now handoff).state = .expired then
        store.put (HandoffStore.expire now handoff) else store) := by
  obtain ⟨identity, expiry, live⟩ := @expire_state now handoff
  split
  · exact carries_put member identity expiry
      (fun _ lasts active => live.mpr ⟨active, lasts⟩) nofun
  · exact carries_refl _

theorem handoff_carries (operation : HandoffOperation) :
    HandoffCarries (HandoffOperation.time operation)
      (HandoffOperation.ends operation) store (operation.perform store) := by
  cases operation with
  | create now sessionId token ttl =>
      change HandoffCarries now none store
        ((HandoffStore.create store now sessionId token ttl).getD store)
      unfold HandoffStore.create
      split
      · exact carries_refl _
      · cases inserted : store.insert?
            ⟨sessionId, .pending, ⟨token⟩, some (now + ttl)⟩ with
        | none => exact carries_refl _
        | some after => exact carries_insert inserted
  | activate now sessionId token =>
      change HandoffCarries now none store
        (HandoffStore.activate store now sessionId token).1
      unfold HandoffStore.activate
      split
      · exact carries_refl _
      · rename_i handoff found
        split
        · exact carries_refl _
        · split
          · exact carries_refl _
          · exact carries_put (Table.find?_eq_some.mp found).1 rfl rfl
              (fun _ _ _ => rfl) nofun
  | state now sessionId =>
      change HandoffCarries now none store
        (HandoffStore.state store now sessionId).1
      unfold HandoffStore.state
      split
      · exact carries_refl _
      · rename_i handoff found
        exact expired_carries (Table.find?_eq_some.mp found).1
  | resolve now sessionId confirmed =>
      change HandoffCarries now (some sessionId) store
        (HandoffStore.resolve store now sessionId confirmed).1
      unfold HandoffStore.resolve
      split
      · rename_i absent
        refine carries_end (carries_refl _) fun row present same => ?_
        exact absurd same (Table.find?_eq_none.mp absent row present)
      · rename_i handoff found
        obtain ⟨member, here⟩ := Table.find?_eq_some.mp found
        obtain ⟨identity, expiry, live⟩ := @expire_state now handoff
        dsimp only
        split
        · rename_i shut
          refine carries_end (expired_carries member) fun row present same => ?_
          split at present
          · rcases Table.mem_put.mp present with ⟨rfl, _⟩ | ⟨_, apart⟩
            · exact shut
            · exact absurd (same.trans (here.symm.trans identity.symm)) apart
          · rename_i kept
            obtain rfl := Table.eq_of_key_eq present member
              (same.trans here.symm)
            intro active
            rcases expire_active active with live | gone
            · exact shut live
            · exact kept gone
        · refine carries_put member identity expiry nofun
            fun identifier ends => ⟨?_, ?_⟩
          · exact (Option.some.inj ends).symm.trans here.symm
          · cases confirmed with
            | true => exact nofun
            | false => exact nofun

end

section

variable {gateway after : LoginGateway} {now : Time} {grant : Grant}

def Standing (gateway : LoginGateway) : Grant → Prop
  | .login sessionId => ∃ item ∈ gateway.work.logins,
      item.id = sessionId ∧ item.status = .active
  | .handoff sessionId => ∃ handoff ∈ gateway.handoffs,
      handoff.id = sessionId ∧ handoff.state = .active

theorem status_of_found {sessionId : UUID} {work : Workspace}
    {item : InstagramLoginSession}
    (found : work.logins.find? sessionId = some item) :
    LoginSessions.status work now sessionId =
      (LoginSessions.orLoginFault (LoginSessions.expireLocked work now
        item)).map fun (work, item) => (work, some item.status) := by
  unfold LoginSessions.status
  rw [found]

theorem granted_login_iff {sessionId : UUID} :
    Granted gateway now (.login sessionId) ↔
      ∃ item ∈ gateway.work.logins, item.id = sessionId ∧
        item.status = .active ∧ now < item.expiresAt := by
  cases found : gateway.work.logins.find? sessionId with
  | none =>
      constructor
      · rintro ⟨work, answered⟩
        unfold LoginSessions.status at answered
        rw [found] at answered
        cases answered
      · rintro ⟨item, member, here, _⟩
        exact absurd here (Table.find?_eq_none.mp found item member)
  | some item =>
      obtain ⟨member, here⟩ := Table.find?_eq_some.mp found
      constructor
      · rintro ⟨work, answered⟩
        rw [status_of_found found] at answered
        obtain ⟨⟨middle, left⟩, expired, shape⟩ := map_eq_ok answered
        have active : left.status = .active := by
          injection shape with _ same
          exact Option.some.inj same
        rcases LoginSessions.expireLocked_eq_ok
          (LoginSessions.orLoginFault_eq_ok.mp expired) with
          ⟨_, _, rfl, _⟩ | ⟨early, rfl, _⟩
        · cases active
        · exact ⟨left, member, here, active, early (by rw [active]; rfl)⟩
      · rintro ⟨other, present, same, active, early⟩
        obtain rfl := Table.eq_of_key_eq present member
          (same.trans here.symm)
        refine ⟨gateway.work, ?_⟩
        have stays : LoginSessions.expireLocked gateway.work now other =
            .ok (gateway.work, other) := by
          unfold LoginSessions.expireLocked
          rw [if_neg]
          simp [early]
        rw [status_of_found found, stays, ← active]
        rfl

theorem answer_of_found {sessionId : UUID} {store : HandoffStore}
    {handoff : Handoff} (found : store.find? sessionId = some handoff) :
    (HandoffStore.state store now sessionId).2 =
      some (HandoffStore.expire now handoff).state := by
  unfold HandoffStore.state
  rw [found]

theorem answer_of_absent {sessionId : UUID} {store : HandoffStore}
    (absent : store.find? sessionId = none) :
    (HandoffStore.state store now sessionId).2 = none := by
  unfold HandoffStore.state
  rw [absent]

theorem granted_handoff_iff {sessionId : UUID} :
    Granted gateway now (.handoff sessionId) ↔
      ∃ handoff ∈ gateway.handoffs, handoff.id = sessionId ∧
        handoff.state = .active ∧
        handoff.expiresAt.any (now < ·) = true := by
  change (HandoffStore.state gateway.handoffs now sessionId).2 =
    some .active ↔ _
  cases found : Table.find? gateway.handoffs sessionId with
  | none =>
      rw [answer_of_absent found]
      constructor
      · intro answered
        cases answered
      · rintro ⟨handoff, member, here, _⟩
        exact absurd here (Table.find?_eq_none.mp found handoff member)
  | some handoff =>
      obtain ⟨member, here⟩ := Table.find?_eq_some.mp found
      obtain ⟨_, _, live⟩ := @expire_state now handoff
      rw [answer_of_found found]
      constructor
      · intro answered
        obtain ⟨active, lasts⟩ := live.mp (Option.some.inj answered)
        exact ⟨handoff, member, here, active, lasts⟩
      · rintro ⟨other, present, same, active, lasts⟩
        obtain rfl := Table.eq_of_key_eq present member
          (same.trans here.symm)
        exact congrArg some (live.mpr ⟨active, lasts⟩)

theorem granted_iff : Granted gateway now grant ↔
    Standing gateway grant ∧ Lasting gateway now grant := by
  cases grant with
  | login sessionId =>
      rw [granted_login_iff]
      constructor
      · rintro ⟨item, member, here, active, early⟩
        refine ⟨⟨item, member, here, active⟩, fun other present same => ?_⟩
        rw [Table.eq_of_key_eq present member (same.trans here.symm)]
        exact early
      · rintro ⟨⟨item, member, here, active⟩, lasts⟩
        exact ⟨item, member, here, active, lasts item member here⟩
  | handoff sessionId =>
      rw [granted_handoff_iff]
      constructor
      · rintro ⟨handoff, member, here, active, early⟩
        refine ⟨⟨handoff, member, here, active⟩, fun other present same => ?_⟩
        rw [Table.eq_of_key_eq present member (same.trans here.symm)]
        exact early
      · rintro ⟨⟨handoff, member, here, active⟩, lasts⟩
        exact ⟨handoff, member, here, active, lasts handoff member here⟩

end

structure RelayStep (gateway : LoginGateway) (event : Event) (number : Nat)
    (relay left : Relay) (forwarded : List Forwarded) : Prop where
  plain : endedLogin gateway event = none ∧ endedHandoff event = none
  found : gateway.relays[number]? = some relay
  grant : left.grant = relay.grant
  opened : relay.isOpen = true
  stays : (Event.time event).isSome = true → left.isOpen = true
  traffic : forwarded = gateway.forwarded ∨ ∃ source frame,
    ∃ now ∈ Event.time event,
      forwarded = gateway.forwarded ++ [⟨number, source, frame, now⟩]

inductive Effect (gateway : LoginGateway) : Event → LoginGateway → Prop
  | login {operation : LoginLifecycle.Operation} {work : Workspace}
      (performed : LoginLifecycle.next gateway.work operation = some work) :
      Effect gateway (.login operation) { gateway with work }
  | handoff (operation : HandoffOperation) :
      Effect gateway (.handoff operation)
        { gateway with handoffs := operation.perform gateway.handoffs }
  | refused (now : Time) (grant : Grant) (request : WebSocketRequest) :
      Effect gateway (.connect now grant request) gateway
  | loginLooked {now : Time} {sessionId : UUID} {request : WebSocketRequest}
      {work : Workspace} {status : Option LoginSessionStatus}
      (looked : LoginSessions.status gateway.work now sessionId =
        .ok (work, status)) (inactive : status ≠ some .active) :
      Effect gateway (.connect now (.login sessionId) request)
        { gateway with work }
  | loginEntered {now : Time} {sessionId : UUID} {request : WebSocketRequest}
      {work : Workspace}
      (looked : LoginSessions.status gateway.work now sessionId =
        .ok (work, some .active)) :
      Effect gateway (.connect now (.login sessionId) request)
        ({ gateway with work }.addRelay (.login sessionId))
  | handoffLooked {now : Time} {sessionId : UUID} {request : WebSocketRequest}
      (inactive : (HandoffStore.state gateway.handoffs now sessionId).2 ≠
        some .active) :
      Effect gateway (.connect now (.handoff sessionId) request)
        { gateway with
          handoffs := (HandoffStore.state gateway.handoffs now sessionId).1 }
  | handoffEntered {now : Time} {sessionId : UUID} {request : WebSocketRequest}
      (active : (HandoffStore.state gateway.handoffs now sessionId).2 =
        some .active) :
      Effect gateway (.connect now (.handoff sessionId) request)
        ({ gateway with
          handoffs := (HandoffStore.state gateway.handoffs now sessionId).1
          }.addRelay (.handoff sessionId))
  | relay {event : Event} {number : Nat} {relay left : Relay}
      {forwarded : List Forwarded}
      (step : RelayStep gateway event number relay left forwarded) :
      Effect gateway event { gateway with
        relays := gateway.relays.set number left
        forwarded }
  | closed {event : Event} {number : Nat} {relay : Relay}
      (plain : endedLogin gateway event = none ∧ endedHandoff event = none)
      (found : gateway.relays[number]? = some relay)
      (untimed : Event.time event = none) :
      Effect gateway event { gateway with
        relays := gateway.relays.set number { relay with stage := .closed } }
  /-- A message that carries nothing. -/
  | ignored {event : Event} (number : Nat) (now : Time)
      (same : event = .receiveClient number now .empty) :
      Effect gateway event gateway

section

variable {settings : LoginGatewaySettings} {gateway after : LoginGateway}
variable {event : Event}

theorem task_stage {relay : Relay} {source : Side} {task : TaskState}
    (here : relay.task source = some task) :
    ∃ client upstream, relay.stage = .relaying client upstream := by
  unfold Relay.task at here
  split at here
  · rename_i client upstream stage
    exact ⟨client, upstream, stage⟩
  · rename_i client upstream stage
    exact ⟨client, upstream, stage⟩
  · cases here

theorem open_of_task {relay : Relay} {source : Side} {task : TaskState}
    (here : relay.task source = some task) : relay.isOpen = true := by
  obtain ⟨client, upstream, stage⟩ := task_stage here
  simp [Relay.isOpen, stage]

theorem setTask_kept {relay : Relay} {source : Side} {task : TaskState}
    (here : relay.task source = some task) (other : TaskState) :
    (relay.setTask source other).grant = relay.grant ∧
      (relay.setTask source other).isOpen = true := by
  obtain ⟨client, upstream, stage⟩ := task_stage here
  cases source with
  | client => simp [Relay.setTask, stage, Relay.isOpen]
  | upstream => simp [Relay.setTask, stage, Relay.isOpen]

theorem connect_effect {now : Time} {grant : Grant}
    {request : WebSocketRequest}
    (stepped : next settings gateway (.connect now grant request) =
      some after) : Effect gateway (.connect now grant request) after := by
  cases grant with
  | login sessionId =>
      obtain rfl := Option.some.inj stepped
      unfold LoginGateway.websockify
      split
      · split
        · rename_i work status looked
          dsimp only
          split
          · rename_i active
            rw [active] at looked
            exact .loginEntered looked
          · rename_i inactive
            exact .loginLooked looked inactive
        · exact .refused ..
      · exact .refused ..
  | handoff sessionId =>
      obtain rfl := Option.some.inj stepped
      unfold LoginGateway.handoffWebsockify
      split
      · dsimp only
        split
        · rename_i active
          exact .handoffEntered active
        · rename_i inactive
          exact .handoffLooked inactive
      · exact .refused ..

theorem task_step {number : Nat} {relay : Relay} {source : Side}
    {forwarded : List Forwarded} {before : TaskState}
    (plain : endedLogin gateway event = none ∧ endedHandoff event = none)
    (found : gateway.relays[number]? = some relay)
    (here : relay.task source = some before) (task : TaskState)
    (traffic : forwarded = gateway.forwarded ∨ ∃ source frame,
      ∃ now ∈ Event.time event,
        forwarded = gateway.forwarded ++ [⟨number, source, frame, now⟩]) :
    RelayStep gateway event number relay (relay.setTask source task)
      forwarded where
  plain := plain
  found := found
  grant := (setTask_kept here task).1
  opened := open_of_task here
  stays := fun _ => (setTask_kept here task).2
  traffic := traffic

theorem onRelay_eq_some {number : Nat} {ready : Relay → Bool}
    {change : Relay → LoginGateway}
    (stepped : gateway.onRelay number ready change = some after) :
    ∃ relay, gateway.relays[number]? = some relay ∧ ready relay = true ∧
      after = change relay := by
  unfold LoginGateway.onRelay at stepped
  split at stepped
  · rename_i relay found
    split at stepped
    · rename_i passes
      exact ⟨relay, found, passes, (Option.some.inj stepped).symm⟩
    · cases stepped
  · cases stepped

theorem effect_of_next (stepped : next settings gateway event = some after) :
    Effect gateway event after := by
  cases event with
  | login operation =>
      obtain ⟨work, performed, rfl⟩ := Option.map_eq_some_iff.mp stepped
      exact .login performed
  | handoff operation =>
      obtain rfl := Option.some.inj stepped
      exact .handoff operation
  | connect now grant request => exact connect_effect stepped
  | accepted number =>
      obtain ⟨relay, found, ready, rfl⟩ := onRelay_eq_some stepped
      have stage : relay.stage = .accepting := of_decide_eq_true ready
      exact .relay ⟨⟨rfl, rfl⟩, found, rfl, by simp [Relay.isOpen, stage],
        nofun, .inl rfl⟩
  | connected number =>
      obtain ⟨relay, found, ready, rfl⟩ := onRelay_eq_some stepped
      have stage : relay.stage = .connecting := of_decide_eq_true ready
      exact .relay ⟨⟨rfl, rfl⟩, found, rfl, by simp [Relay.isOpen, stage],
        nofun, .inl rfl⟩
  | receiveClient number now message =>
      obtain ⟨relay, found, ready, rfl⟩ := onRelay_eq_some stepped
      have here := of_decide_eq_true ready
      cases message with
      | disconnect =>
          exact .relay (task_step ⟨rfl, rfl⟩ found here .done (.inl rfl))
      | bytes data =>
          exact .relay (task_step ⟨rfl, rfl⟩ found here .sending
            (.inr ⟨_, _, now, rfl, rfl⟩))
      | text data =>
          exact .relay (task_step ⟨rfl, rfl⟩ found here .sending
            (.inr ⟨_, _, now, rfl, rfl⟩))
      | empty => exact .ignored number now rfl
  | receiveUpstream number now frame =>
      obtain ⟨relay, found, ready, rfl⟩ := onRelay_eq_some stepped
      have here := of_decide_eq_true ready
      cases frame with
      | none => exact .relay (task_step ⟨rfl, rfl⟩ found here .done (.inl rfl))
      | some frame =>
          exact .relay (task_step ⟨rfl, rfl⟩ found here .sending
            (.inr ⟨_, _, now, rfl, rfl⟩))
  | sent number source delivered =>
      obtain ⟨relay, found, ready, rfl⟩ := onRelay_eq_some stepped
      have here := of_decide_eq_true ready
      exact .relay (task_step ⟨rfl, rfl⟩ found here _ (.inl rfl))
  | ended number =>
      obtain ⟨relay, found, ready, rfl⟩ := onRelay_eq_some stepped
      exact .closed ⟨rfl, rfl⟩ found rfl
  | lost number =>
      obtain ⟨relay, found, ready, rfl⟩ := onRelay_eq_some stepped
      exact .closed ⟨rfl, rfl⟩ found rfl

theorem login_carried {operation : LoginLifecycle.Operation}
    {work : Workspace}
    (performed : LoginLifecycle.next gateway.work operation = some work) :
    LoginCarries (operationTime operation)
      (endedLogin gateway (.login operation)) gateway.work work := by
  simp only [LoginLifecycle.next, endedLogin] at performed ⊢
  cases outcome : LoginLifecycle.perform gateway.work operation with
  | ok done =>
      rw [outcome] at performed
      cases performed
      exact perform_carries outcome
  | error fault =>
      rw [outcome] at performed
      cases performed
      exact carries_refl _

theorem sessions_carried (effect : Effect gateway event after) (now : Time)
    (timed : ∀ time ∈ Event.time event, now = time) :
    LoginCarries now (endedLogin gateway event) gateway.work after.work ∧
      HandoffCarries now (endedHandoff event) gateway.handoffs
        after.handoffs := by
  cases effect with
  | @login operation work performed =>
      obtain rfl : now = operationTime operation := timed _ rfl
      exact ⟨login_carried performed, carries_refl _⟩
  | handoff operation =>
      obtain rfl : now = HandoffOperation.time operation := timed _ rfl
      exact ⟨carries_refl _, handoff_carries operation⟩
  | refused time grant request => exact ⟨carries_refl _, carries_refl _⟩
  | @loginLooked time sessionId request work status looked inactive =>
      obtain rfl : now = time := timed _ rfl
      exact ⟨status_carries looked, carries_refl _⟩
  | @loginEntered time sessionId request work looked =>
      obtain rfl : now = time := timed _ rfl
      exact ⟨status_carries looked, carries_refl _⟩
  | @handoffLooked time sessionId request inactive =>
      obtain rfl : now = time := timed _ rfl
      exact ⟨carries_refl _, handoff_carries (.state now sessionId)⟩
  | @handoffEntered time sessionId request active =>
      obtain rfl : now = time := timed _ rfl
      exact ⟨carries_refl _, handoff_carries (.state now sessionId)⟩
  | relay step =>
      rw [step.plain.1, step.plain.2]
      exact ⟨carries_refl _, carries_refl _⟩
  | closed plain found untimed =>
      rw [plain.1, plain.2]
      exact ⟨carries_refl _, carries_refl _⟩
  | ignored number time same =>
      subst same
      exact ⟨carries_refl _, carries_refl _⟩

theorem standing_untimed (effect : Effect gateway event after) {grant : Grant}
    (untimed : Event.time event = none) (standing : Standing gateway grant) :
    Standing after grant := by
  cases effect with
  | relay step =>
      cases grant with
      | login sessionId => exact standing
      | handoff sessionId => exact standing
  | closed plain found still =>
      cases grant with
      | login sessionId => exact standing
      | handoff sessionId => exact standing
  | ignored number now same =>
      cases same
      cases untimed
  | _ => cases untimed

theorem standing_kept (effect : Effect gateway event after) {grant : Grant}
    (standing : Standing gateway grant)
    (lasting : ∀ now ∈ Event.time event, Lasting gateway now grant)
    (continued : ¬ Ends gateway event grant) : Standing after grant := by
  cases timed : Event.time event with
  | none => exact standing_untimed effect timed standing
  | some now =>
      have lasts := lasting now timed
      obtain ⟨logins, handoffs⟩ := sessions_carried effect now
        fun time here => Option.some.inj (timed.symm.trans here)
      cases grant with
      | login sessionId =>
          obtain ⟨item, member, rfl, active⟩ := standing
          obtain ⟨left, kept, identity, _, stays, _⟩ := logins item member
          refine ⟨left, kept, identity, stays continued ?_ active⟩
          exact decide_eq_true (lasts item member rfl)
      | handoff sessionId =>
          obtain ⟨handoff, member, rfl, active⟩ := standing
          obtain ⟨left, kept, identity, _, stays, _⟩ :=
            handoffs handoff member
          exact ⟨left, kept, identity,
            stays continued (lasts handoff member rfl) active⟩

theorem grant_lost (effect : Effect gateway event after) {grant : Grant}
    {now later : Time} (timed : Event.time event = some now)
    (follows : now ≤ later) (standing : Standing gateway grant)
    (lost : ¬ Lasting gateway now grant ∨ Ends gateway event grant) :
    ¬ Granted after later grant := by
  obtain ⟨logins, handoffs⟩ := sessions_carried effect now
    fun time here => Option.some.inj (timed.symm.trans here)
  rw [granted_iff]
  rintro ⟨standing', lasting⟩
  cases grant with
  | login sessionId =>
      obtain ⟨item, member, rfl, active⟩ := standing
      obtain ⟨left, kept, identity, expiry, _, gone⟩ := logins item member
      rcases lost with out | ended
      · apply out
        intro other present same
        rw [Table.eq_of_key_eq present member same]
        have early := lasting left kept identity
        rw [Option.some.inj expiry] at early
        exact follows.trans_lt early
      · obtain ⟨other, present, same, live⟩ := standing'
        rw [Table.eq_of_key_eq present kept (same.trans identity.symm)] at live
        exact gone ended live
  | handoff sessionId =>
      obtain ⟨handoff, member, rfl, active⟩ := standing
      obtain ⟨left, kept, identity, expiry, _, gone⟩ := handoffs handoff member
      rcases lost with out | ended
      · apply out
        intro other present same
        rw [Table.eq_of_key_eq present member same]
        have early := lasting left kept identity
        rw [expiry] at early
        obtain ⟨expires, found, early⟩ := (Option.any_eq_true _ _).mp early
        refine (Option.any_eq_true _ _).mpr ⟨expires, found, ?_⟩
        exact decide_eq_true (follows.trans_lt (of_decide_eq_true early))
      · obtain ⟨other, present, same, live⟩ := standing'
        rw [Table.eq_of_key_eq present kept (same.trans identity.symm)] at live
        exact gone ended live

def Admitted (gateway : LoginGateway) : Prop :=
  ∀ relay ∈ gateway.relays, relay.isOpen = true →
    Standing gateway relay.grant

theorem relays_before (effect : Effect gateway event after) {relay : Relay}
    (member : relay ∈ after.relays) (isOpen : relay.isOpen = true) :
    (∃ before ∈ gateway.relays, before.grant = relay.grant ∧
        before.isOpen = true) ∨
      ∃ now request, event = .connect now relay.grant request ∧
        Granted gateway now relay.grant := by
  cases effect with
  | login _ => exact .inl ⟨relay, member, rfl, isOpen⟩
  | handoff _ => exact .inl ⟨relay, member, rfl, isOpen⟩
  | refused => exact .inl ⟨relay, member, rfl, isOpen⟩
  | loginLooked _ _ => exact .inl ⟨relay, member, rfl, isOpen⟩
  | handoffLooked _ => exact .inl ⟨relay, member, rfl, isOpen⟩
  | ignored _ _ _ => exact .inl ⟨relay, member, rfl, isOpen⟩
  | @loginEntered now sessionId request work looked =>
      rcases List.mem_append.mp member with present | new
      · exact .inl ⟨relay, present, rfl, isOpen⟩
      · obtain rfl := List.mem_singleton.mp new
        exact .inr ⟨now, request, rfl, work, looked⟩
  | @handoffEntered now sessionId request active =>
      rcases List.mem_append.mp member with present | new
      · exact .inl ⟨relay, present, rfl, isOpen⟩
      · obtain rfl := List.mem_singleton.mp new
        exact .inr ⟨now, request, rfl, active⟩
  | @relay _ number before left forwarded step =>
      rcases List.mem_or_eq_of_mem_set member with present | rfl
      · exact .inl ⟨relay, present, rfl, isOpen⟩
      · exact .inl ⟨before, List.mem_of_getElem? step.found, step.grant.symm,
          step.opened⟩
  | @closed _ number before plain found untimed =>
      rcases List.mem_or_eq_of_mem_set member with present | rfl
      · exact .inl ⟨relay, present, rfl, isOpen⟩
      · cases isOpen

theorem relays_after (effect : Effect gateway event after) {relay : Relay}
    (member : relay ∈ gateway.relays) (isOpen : relay.isOpen = true)
    (timed : (Event.time event).isSome = true) :
    ∃ left ∈ after.relays, left.grant = relay.grant ∧
      left.isOpen = true := by
  cases effect with
  | login _ => exact ⟨relay, member, rfl, isOpen⟩
  | handoff _ => exact ⟨relay, member, rfl, isOpen⟩
  | refused => exact ⟨relay, member, rfl, isOpen⟩
  | loginLooked _ _ => exact ⟨relay, member, rfl, isOpen⟩
  | handoffLooked _ => exact ⟨relay, member, rfl, isOpen⟩
  | ignored _ _ _ => exact ⟨relay, member, rfl, isOpen⟩
  | loginEntered _ =>
      exact ⟨relay, List.mem_append_left _ member, rfl, isOpen⟩
  | handoffEntered _ =>
      exact ⟨relay, List.mem_append_left _ member, rfl, isOpen⟩
  | @relay _ number before left forwarded step =>
      obtain ⟨place, found⟩ := List.mem_iff_getElem?.mp member
      by_cases here : number = place
      · subst here
        obtain rfl := Option.some.inj (step.found.symm.trans found)
        have written : (gateway.relays.set number left)[number]? =
            some left := by
          rw [List.getElem?_set_self', found]
          rfl
        exact ⟨left, List.mem_of_getElem? written, step.grant,
          step.stays timed⟩
      · have kept : (gateway.relays.set number left)[place]? =
            some relay := by
          rw [List.getElem?_set_ne here, found]
        exact ⟨relay, List.mem_of_getElem? kept, rfl, isOpen⟩
  | closed plain found untimed =>
      rw [untimed] at timed
      cases timed

theorem admitted_kept (effect : Effect gateway event after)
    (admitted : Admitted gateway) (attended : Attended gateway event) :
    Admitted after := by
  intro relay member isOpen
  rcases relays_before effect member isOpen with
    ⟨before, present, same, wasOpen⟩ | ⟨now, request, rfl, granted⟩
  · obtain ⟨lasting, continued⟩ := attended before present wasOpen
    rw [same] at lasting continued
    have standing := admitted before present wasOpen
    rw [same] at standing
    exact standing_kept effect standing lasting continued
  · obtain ⟨standing, lasting⟩ := granted_iff.mp granted
    refine standing_kept effect standing (fun time here => ?_) ?_
    · obtain rfl := Option.some.inj here
      exact lasting
    · cases relay.grant with
      | login sessionId => exact nofun
      | handoff sessionId => exact nofun

theorem holds_attended (effect : Effect gateway event after)
    (admitted : Admitted gateway) (attended : Attended gateway event) :
    Holds gateway event after := by
  cases effect with
  | @relay _ number before left forwarded step =>
      rcases step.traffic with same | ⟨source, frame, now, timed, sent⟩
      · exact .inl same
      · refine .inr ⟨_, before, sent, step.found, ?_⟩
        have member := List.mem_of_getElem? step.found
        exact granted_iff.mpr ⟨admitted before member step.opened,
          (attended before member step.opened).1 now timed⟩
  | _ => exact .inl rfl

theorem timed_of_ends {grant : Grant} (ended : Ends gateway event grant) :
    (Event.time event).isSome = true := by
  cases event with
  | login operation => rfl
  | handoff operation => rfl
  | _ =>
      cases grant with
      | login sessionId => cases ended
      | handoff sessionId => cases ended

theorem neglected_lost (effect : Effect gateway event after)
    (admitted : Admitted gateway) (neglected : ¬ Attended gateway event) :
    ∃ relay ∈ after.relays, relay.isOpen = true ∧
      ∀ now ∈ Event.time event, ∀ later, now ≤ later →
        ¬ Granted after later relay.grant := by
  unfold Attended at neglected
  simp only [not_forall, not_and_or, not_not] at neglected
  obtain ⟨relay, member, isOpen, lost⟩ := neglected
  have lost : ∃ now, Event.time event = some now ∧
      (¬ Lasting gateway now relay.grant ∨ Ends gateway event relay.grant) := by
    rcases lost with ⟨now, timed, out⟩ | ended
    · exact ⟨now, timed, .inl out⟩
    · obtain ⟨now, timed⟩ :=
        Option.isSome_iff_exists.mp (timed_of_ends ended)
      exact ⟨now, timed, .inr ended⟩
  obtain ⟨now, timed, lost⟩ := lost
  obtain ⟨left, kept, same, stays⟩ := relays_after effect member isOpen (by
    rw [timed]
    rfl)
  refine ⟨left, kept, stays, fun time here later follows => ?_⟩
  obtain rfl := Option.some.inj (timed.symm.trans here)
  rw [same]
  exact grant_lost effect timed follows (admitted relay member isOpen) lost

def arrival (number : Nat) (now : Time) : Side → Frame → Event
  | .client, .bytes data => .receiveClient number now (.bytes data)
  | .client, .text data => .receiveClient number now (.text data)
  | .upstream, frame => .receiveUpstream number now (some frame)

/-- A relay forwards whatever arrives. -/
theorem arrival_forwarded {number : Nat} {relay : Relay} {source : Side}
    (found : gateway.relays[number]? = some relay)
    (receives : relay.task source = some .receiving) (frame : Frame)
    (now : Time) :
    next settings gateway (arrival number now source frame) =
      some (gateway.forward number relay source frame now) := by
  cases source with
  | client =>
      cases frame with
      | bytes data =>
          simp [arrival, next, LoginGateway.onRelay, found, receives,
            LoginGateway.receiveClient]
      | text data =>
          simp [arrival, next, LoginGateway.onRelay, found, receives,
            LoginGateway.receiveClient]
  | upstream =>
      simp [arrival, next, LoginGateway.onRelay, found, receives,
        LoginGateway.receiveUpstream]

theorem not_holds_forward {number : Nat} {relay : Relay} {source : Side}
    (found : gateway.relays[number]? = some relay) {frame : Frame} {now : Time}
    (lost : ¬ Granted gateway now relay.grant) :
    ¬ Holds gateway event
      (gateway.forward number relay source frame now) := by
  rintro (same | ⟨forwarded, other, sent, here, granted⟩)
  · have longer : gateway.forwarded ++ [⟨number, source, frame, now⟩] =
        gateway.forwarded := same
    simp at longer
  · have entry : gateway.forwarded ++ [⟨number, source, frame, now⟩] =
        gateway.forwarded ++ [forwarded] := sent
    obtain rfl := List.singleton_inj.mp (List.append_cancel_left entry)
    obtain rfl := Option.some.inj (found.symm.trans here)
    exact lost granted

end

/-- While every session outlives its relays, each message is forwarded while its
session is active. Once a session ends before a relay of it, the relay is left
open without its grant, and forwards what arrives. -/
theorem viewers_attended {settings : LoginGatewaySettings}
    {gateway : LoginGateway} {events : List Event}
    (started : gateway.relays = []) :
    (Meets (next settings) Attended gateway events →
        Along (next settings) Holds gateway events ∧
          ∀ middle, run (next settings) gateway events = some middle →
            ∀ event after, next settings middle event = some after →
              ¬ Attended middle event →
              ∃ relay ∈ after.relays, relay.isOpen = true ∧
                ∀ now ∈ Event.time event, ∀ later, now ≤ later →
                  ¬ Granted after later relay.grant) ∧
      ∀ middle, run (next settings) gateway events = some middle →
        ∀ number relay source now frame,
          middle.relays[number]? = some relay →
          relay.task source = some .receiving →
          ¬ Granted middle now relay.grant →
          ∃ after, next settings middle (arrival number now source frame) =
              some after ∧
            ¬ Holds middle (arrival number now source frame) after := by
  have initially : Admitted gateway := by
    intro relay member
    rw [started] at member
    exact absurd member List.not_mem_nil
  have kept : ∀ before event after, Admitted before →
      Attended before event → next settings before event = some after →
      Admitted after := fun before event after admitted attended stepped =>
    admitted_kept (effect_of_next stepped) admitted attended
  refine ⟨fun meets => ⟨?_, fun middle ran event after stepped neglected => ?_⟩,
    fun middle _ number relay source now frame found receives lost =>
      ⟨_, arrival_forwarded found receives frame now,
        not_holds_forward found lost⟩⟩
  · have holds : ∀ before event after, Admitted before →
        Attended before event → next settings before event = some after →
        Admitted after ∧ Holds before event after :=
      fun before event after admitted attended stepped =>
        ⟨kept before event after admitted attended stepped,
          holds_attended (effect_of_next stepped) admitted attended⟩
    exact along_of_invariant holds initially meets
  · exact neglected_lost (effect_of_next stepped)
      (run_invariant kept initially meets ran) neglected

def viewerSettings : LoginGatewaySettings :=
  ⟨"https://login.example/", "secret"⟩

def viewerRequest (sessionId : UUID) : WebSocketRequest where
  host := "login.example"
  origin := "https://login.example"
  loginGatewaySession := some (signSession sessionId viewerSettings)
  handoffGatewaySession := some (signSession sessionId viewerSettings)

def idleGateway : LoginGateway where
  work := LoginLifecycle.reauthWorkspace
  handoffs := .empty
  relays := []
  forwarded := []

def loginViewer : List Event :=
  [.login (.create 0 7 "token" 1 100 false), .login (.activate 1 7 "token"),
    .connect 2 (.login 7) (viewerRequest 7), .accepted 0, .connected 0]

def handoffViewer : List Event :=
  [.handoff (.create 0 7 "token" 100), .handoff (.activate 1 7 "token"),
    .connect 2 (.handoff 7) (viewerRequest 7), .accepted 0, .connected 0]

/-- A message goes through the relay of a session that was cancelled, and of a
handoff that was confirmed. -/
theorem ended_viewers_forward :
    let frame : Frame := .bytes [7]
    let cancelled := loginViewer ++ [.login (.cancel 4 7)]
    let confirmed := handoffViewer ++ [.handoff (.resolve 4 7 true)]
    ¬ Along (next viewerSettings) Holds idleGateway
        (cancelled ++ [arrival 0 5 .client frame]) ∧
      ¬ Along (next viewerSettings) Holds idleGateway
        (confirmed ++ [arrival 0 5 .upstream frame]) := by
  constructor
  · intro along
    have last := along.of_append_right rfl
    obtain ⟨holds, _⟩ := last _ (arrival_forwarded rfl rfl _ _)
    refine not_holds_forward rfl ?_ holds
    rw [granted_login_iff]
    decide +kernel
  · intro along
    have last := along.of_append_right rfl
    obtain ⟨holds, _⟩ := last _ (arrival_forwarded rfl rfl _ _)
    refine not_holds_forward rfl ?_ holds
    rw [granted_handoff_iff]
    decide +kernel

/-- The relay is lost before the session is cancelled. -/
theorem viewers_attended_disconnected :
    Along (next viewerSettings) Holds idleGateway
      (loginViewer ++ [arrival 0 3 .client (.bytes [7]), .lost 0,
        .login (.cancel 4 7)]) :=
  ((viewers_attended rfl).1 (by decide +kernel)).1

end OfflineReels.Gateway.ViewerAccess
