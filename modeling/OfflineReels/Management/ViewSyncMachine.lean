import OfflineReels.Management.ViewSync

namespace OfflineReels.Management.ViewSync

open OfflineReels.Foundation
open OfflineReels.Foundation.Program
open OfflineReels.Instagram

/-! Concurrent view synchronizations of any number of sessions. -/

/-- What a transaction knows: its account, the Reels of which it sees a view,
whether it has written one, a stored response, and whether it may have committed
one. -/
structure SyncPhase where
  account : Option UUID := none
  seen : List UUID := []
  wrote : Bool := false
  stored : Option ManagementIdempotencyRecord := none
  committed : Bool := false
  deriving DecidableEq

/-- An answer that confirms the batch, of which every Reel is viewed. -/
structure Confirms (database : Database) (accountId : UUID)
    (payload : ViewedReelSyncRequest) (status : Nat) (body : ResponseBody) :
    Prop where
  status : status = 200
  body : body = .confirmedVideoIds (payload.events.insertionSort (· ≤ ·))
  viewed : ∀ videoId ∈ payload.events, ∃ reel ∈ database.reels,
    reel.videoId = some videoId ∧ Viewed database accountId reel

def Backed (owner : UUID → UUID) (database : Database)
    (record : ManagementIdempotencyRecord) : Prop :=
  ∀ payload, record.operation = (Command.syncViewedReels payload).operation →
    record.requestFingerprint = ⟨(Command.syncViewedReels payload).body⟩ →
    Confirms database (owner record.sessionId) payload record.responseStatus
      record.responseBody

def Earned (owner : UUID → UUID) (base : Database) (phase : SyncPhase)
    (record : ManagementIdempotencyRecord) : Prop :=
  phase.account = some (owner record.sessionId) ∧
    ∀ payload, record.operation = (Command.syncViewedReels payload).operation →
      record.requestFingerprint = ⟨(Command.syncViewedReels payload).body⟩ →
      record.responseStatus = 200 ∧
        record.responseBody =
          .confirmedVideoIds (payload.events.insertionSort (· ≤ ·)) ∧
        ∀ videoId ∈ payload.events, ∃ reel ∈ base.reels,
          reel.videoId = some videoId ∧ reel.id ∈ phase.seen

structure Answers (record : ManagementIdempotencyRecord)
    (request : MutationRequest) (status : Nat) (body : ResponseBody) :
    Prop where
  session : record.sessionId = request.session.id
  operation : record.operation = request.command.operation
  fingerprint : record.requestFingerprint = ⟨request.command.body⟩
  status : record.responseStatus = status
  body : record.responseBody = body

def advanceSync (phase : SyncPhase) (request : ViewCall)
    (reply : Except ActionFault (ViewReply request)) : SyncPhase :=
  match request, reply with
  | .begin request _ _, .ok existing =>
      { account := some request.session.accountId, stored := existing }
  | .begin _ _ _, .error _ => {}
  | .viewed _ reelId, .ok true => { phase with seen := reelId :: phase.seen }
  | .insertView _ reelId _, .ok _ =>
      { phase with seen := reelId :: phase.seen, wrote := true }
  | .insertView _ reelId _, .error (.database .integrityError) =>
      { phase with seen := reelId :: phase.seen, wrote := true }
  | .insertView _ _ _, .error _ => { phase with wrote := true }
  | .commit _ (some record), .ok _ =>
      { phase with stored := some record, committed := true }
  | .commit _ (some _), .error (.database error) =>
      if error = .integrityError then { phase with account := none }
      else { phase with account := none, committed := true }
  | .rollback, _ => { phase with account := none, seen := [] }
  | .findRecord _ _, .ok existing => { phase with stored := existing }
  | _, _ => phase

def permitsSync (owner : UUID → UUID) (base : Database) (phase : SyncPhase) :
    ViewCall → Prop
  | .begin _ _ _ => phase.committed = false
  | .viewed accountId _ => phase.account = some accountId
  | .insertView accountId _ _ => phase.account = some accountId
  | .commit _ (some record) => Earned owner base phase record
  | .commit _ none => phase.account.isSome = true ∧ phase.wrote = false
  | .respond request (.response status body _) =>
      request.session.accountId = owner request.session.id ∧
        ∃ record, phase.stored = some record ∧
          Answers record request status body
  | .respond _ (.error _) => phase.committed = false
  | _ => True

def assumesSync (base : Database) :
    (request : ViewCall) → Except ActionFault (ViewReply request) → Prop
  | .begin request _ _, reply =>
      (∀ error, reply ≠ .error (.management error)) ∧
        ∀ record, reply = .ok (some record) →
          record.sessionId = request.session.id ∧
            record.operation = request.command.operation
  | .findRecord request _, reply =>
      (∀ error, reply ≠ .error (.management error)) ∧
        ∀ record, reply = .ok (some record) →
          record.sessionId = request.session.id ∧
            record.operation = request.command.operation
  | .ownedReels accountId videoIds, reply =>
      (∀ error, reply ≠ .error (.management error)) ∧
        ∀ owned, reply = .ok owned →
          owned = accountOwnedReelsByVideo base accountId videoIds
  | _, reply => ∀ error, reply ≠ .error (.management error)

def syncProtocol (owner : UUID → UUID) (base : Database) :
    Protocol ViewCall ViewReply ActionFault SyncPhase where
  permits := permitsSync owner base
  assumes _ := assumesSync base
  advance := advanceSync

def syncMachine (owner : UUID → UUID) (base : Database) :
    Machine ViewCall ViewReply ActionFault SyncPhase ViewStore
      (ViewSyncRequest owner) Choice where
  protocol := syncProtocol owner base
  idle := {}
  program := ViewSyncRequest.program
  perform := ViewStore.perform

section

variable {owner : UUID → UUID} {base : Database}

open ViewSyncRequest

def Grows (accountId : UUID) (before after : SyncPhase) : Prop :=
  after.account = some accountId ∧ after.committed = false ∧
    ∀ reelId ∈ before.seen, reelId ∈ after.seen

theorem Grows.trans {accountId : UUID} {first second third : SyncPhase}
    (before : Grows accountId first second)
    (after : Grows accountId second third) : Grows accountId first third :=
  ⟨after.1, after.2.1, fun reelId member =>
    after.2.2 reelId (before.2.2 reelId member)⟩

theorem Grows.refl {accountId : UUID} {phase : SyncPhase}
    (account : phase.account = some accountId)
    (uncommitted : phase.committed = false) : Grows accountId phase phase :=
  ⟨account, uncommitted, fun _ member => member⟩

theorem Grows.see {accountId : UUID} {phase : SyncPhase} (reelId : UUID)
    (wrote : Bool) (account : phase.account = some accountId)
    (uncommitted : phase.committed = false) :
    Grows accountId phase
      { phase with seen := reelId :: phase.seen, wrote := wrote } :=
  ⟨account, uncommitted, fun _ member => List.mem_cons_of_mem _ member⟩

theorem Grows.write {accountId : UUID} {phase : SyncPhase}
    (account : phase.account = some accountId)
    (uncommitted : phase.committed = false) :
    Grows accountId phase { phase with wrote := true } :=
  ⟨account, uncommitted, fun _ member => member⟩

theorem insertFirst_sees (sync : ViewSyncRequest owner) (reel : InstagramReel)
    {phase : SyncPhase}
    (account : phase.account = some sync.session.accountId)
    (uncommitted : phase.committed = false) :
    Follows (syncProtocol owner base) phase (sync.insertFirst reel)
      fun outcome reached => Grows sync.session.accountId phase reached ∧
        ∀ value, outcome = .ok value → reel.id ∈ reached.seen := by
  refine ⟨account, fun reply _ => ?_⟩
  have sees := Grows.see reel.id true account uncommitted
  cases reply with
  | ok value => exact ⟨sees, fun _ _ => List.mem_cons_self⟩
  | error fault =>
      cases fault with
      | management error => exact ⟨.write account uncommitted, nofun⟩
      | database error =>
          cases error with
          | integrityError => exact ⟨sees, fun _ _ => List.mem_cons_self⟩
          | _ => exact ⟨.write account uncommitted, nofun⟩

theorem recordViews_sees (sync : ViewSyncRequest owner)
    (owned : List (UUID × InstagramReel)) (videoIds : List UUID)
    {phase : SyncPhase}
    (account : phase.account = some sync.session.accountId)
    (uncommitted : phase.committed = false) :
    Follows (syncProtocol owner base) phase (sync.recordViews owned videoIds)
      fun outcome reached => Grows sync.session.accountId phase reached ∧
        ∀ value, outcome = .ok value → ∀ videoId ∈ videoIds,
          ∃ reel, ownedReel owned videoId = some reel ∧
            reel.id ∈ reached.seen := by
  induction videoIds generalizing phase with
  | nil => exact ⟨.refl account uncommitted, fun _ _ _ none => nomatch none⟩
  | cons videoId rest ih =>
      unfold recordViews
      cases found : ownedReel owned videoId with
      | none => exact ⟨.refl account uncommitted, nofun⟩
      | some reel =>
          -- The rest of the batch, once the view of this Reel is seen.
          have continues : ∀ middle, Grows sync.session.accountId phase middle →
              reel.id ∈ middle.seen →
              Follows (syncProtocol owner base) middle
                (sync.recordViews owned rest)
                fun outcome reached =>
                  Grows sync.session.accountId phase reached ∧
                    ∀ value, outcome = .ok value → ∀ other ∈ videoId :: rest,
                      ∃ reel, ownedReel owned other = some reel ∧
                        reel.id ∈ reached.seen := by
            intro middle grown here
            refine (ih grown.1 grown.2.1).mono ?_
            intro outcome reached ⟨grows, sees⟩
            refine ⟨grown.trans grows, fun value returned other member => ?_⟩
            rcases List.mem_cons.mp member with rfl | member
            · exact ⟨reel, found, grows.2.2 reel.id here⟩
            · exact sees value returned other member
          refine ⟨account, fun reply _ => ?_⟩
          cases reply with
          | error fault => exact ⟨.refl account uncommitted, nofun⟩
          | ok viewed =>
              cases viewed with
              | true =>
                  exact continues _ (.see reel.id phase.wrote account uncommitted)
                    List.mem_cons_self
              | false =>
                  refine (insertFirst_sees sync reel account
                    uncommitted).bind ?_ ?_
                  · intro value middle ⟨grown, sees⟩
                    exact continues middle grown (sees value rfl)
                  · exact fun fault middle grown => ⟨grown.1, nofun⟩

theorem ownedReel_eq_some {database : Database} {accountId : UUID}
    {videoIds : List UUID} {videoId : UUID} {reel : InstagramReel}
    (found : ownedReel (accountOwnedReelsByVideo database accountId videoIds)
      videoId = some reel) :
    reel ∈ database.reels ∧ reel.videoId = some videoId := by
  unfold ownedReel at found
  have entry : (videoId, reel) ∈
      accountOwnedReelsByVideo database accountId videoIds := by
    obtain ⟨before, rest, shape, _⟩ := List.lookup_eq_some_iff.mp found
    rw [← List.mem_reverse, shape]
    exact List.mem_append_right before List.mem_cons_self
  simp only [accountOwnedReelsByVideo, List.mem_filterMap,
    List.mem_filter] at entry
  obtain ⟨⟨⟨row, item⟩, run⟩, ⟨joined, _⟩, shape⟩ := entry
  simp only [mem_innerJoin] at joined
  obtain ⟨identifier, named, same⟩ := Option.map_eq_some_iff.mp shape
  cases same
  exact ⟨joined.1.1, named⟩

theorem action_sees (sync : ViewSyncRequest owner) {phase : SyncPhase}
    (account : phase.account = some sync.session.accountId)
    (uncommitted : phase.committed = false) :
    Follows (syncProtocol owner base) phase sync.action
      fun outcome reached => Grows sync.session.accountId phase reached ∧
        ∀ result, outcome = .ok result →
          result = (200, .confirmedVideoIds
            (sync.payload.events.insertionSort (· ≤ ·))) ∧
          ∀ videoId ∈ sync.payload.events, ∃ reel ∈ base.reels,
            reel.videoId = some videoId ∧ reel.id ∈ reached.seen := by
  have stays := Grows.refl account uncommitted
  refine ⟨trivial, fun reply assumed => ?_⟩
  cases reply with
  | error fault => exact ⟨stays, nofun⟩
  | ok owned =>
      obtain rfl := assumed.2 owned rfl
      simp only [attempt_done]
      split
      · refine (recordViews_sees sync _ sync.requested account
          uncommitted).bind ?_ fun _ _ grown => ⟨grown.1, nofun⟩
        intro value reached ⟨grown, sees⟩
        refine ⟨grown, fun result returned => ?_⟩
        cases returned
        have sorted : sync.requested.insertionSort (· ≤ ·) =
            sync.payload.events.insertionSort (· ≤ ·) :=
          (((List.perm_insertionSort _ _).trans sync.permuted).trans
            (List.perm_insertionSort _ _).symm).eq_of_sortedLE
            List.sortedLE_insertionSort List.sortedLE_insertionSort
        refine ⟨by rw [sorted], fun videoId member => ?_⟩
        obtain ⟨reel, found, here⟩ :=
          sees value rfl videoId (sync.permuted.mem_iff.mpr member)
        obtain ⟨present, named⟩ := ownedReel_eq_some found
        exact ⟨reel, present, named, here⟩
      · exact ⟨stays, nofun⟩

theorem earned_record (sync : ViewSyncRequest owner) {phase : SyncPhase}
    (account : phase.account = some sync.session.accountId) (key : String)
    (now : Time)
    (sees : ∀ videoId ∈ sync.payload.events, ∃ reel ∈ base.reels,
      reel.videoId = some videoId ∧ reel.id ∈ phase.seen) :
    Earned owner base phase (recordOf sync.recordId sync.request key now 200
      (.confirmedVideoIds (sync.payload.events.insertionSort (· ≤ ·)))) := by
  refine ⟨account.trans (congrArg some sync.owned), fun payload _ same => ?_⟩
  have body : (Command.syncViewedReels sync.payload).body =
      (Command.syncViewedReels payload).body :=
    congrArg Sha256.preimage same
  obtain rfl := ViewedReelSyncRequest.modelDump_injective body
  exact ⟨rfl, rfl, sees⟩

theorem answers_record (sync : ViewSyncRequest owner) (key : String)
    (now : Time) (status : Nat) (videoIds : List UUID) :
    Answers (recordOf sync.recordId sync.request key now status
      (.confirmedVideoIds videoIds)) sync.request status
        (.confirmedVideoIds videoIds) :=
  ⟨rfl, rfl, rfl, rfl, rfl⟩

def Settles (owner : UUID → UUID) (base : Database)
    (sync : ViewSyncRequest owner) (outcome : Except ActionFault Answer)
    (phase : SyncPhase) : Prop :=
  match outcome with
  | .ok answer => permitsSync owner base phase (.respond sync.request answer)
  | .error (.management _) => phase.committed = false
  | .error (.database .integrityError) => phase.committed = false
  | .error (.database _) => True

theorem settles_of_uncommitted (sync : ViewSyncRequest owner)
    {phase : SyncPhase} (uncommitted : phase.committed = false)
    (fault : ActionFault) : Settles owner base sync (.error fault) phase := by
  cases fault with
  | management error => exact uncommitted
  | database error => cases error <;> first
      | exact uncommitted
      | exact trivial

theorem commit_settles (sync : ViewSyncRequest owner) {phase : SyncPhase}
    (uncommitted : phase.committed = false) {now : Time} (key : String)
    (earned : Earned owner base phase (recordOf sync.recordId sync.request key
      now 200 (.confirmedVideoIds
        (sync.payload.events.insertionSort (· ≤ ·))))) :
    Follows (syncProtocol owner base) phase
      (do
        execute (.commit now (some (recordOf sync.recordId sync.request key now
          200 (.confirmedVideoIds
            (sync.payload.events.insertionSort (· ≤ ·))))))
        return .response 200 (.confirmedVideoIds
          (sync.payload.events.insertionSort (· ≤ ·))) false)
      (Settles owner base sync) := by
  refine ⟨earned, fun reply assumed => ?_⟩
  have ordinary : ∀ error, reply ≠ .error (.management error) := assumed
  cases reply with
  | ok value =>
      exact ⟨sync.owned, _, rfl, answers_record sync key now 200 _⟩
  | error fault =>
      cases fault with
      | management error => exact absurd rfl (ordinary error)
      | database error =>
          cases error with
          | integrityError => exact uncommitted
          | _ => exact trivial

theorem transact_settles (sync : ViewSyncRequest owner) (key : String)
    (now : Time) :
    Follows (syncProtocol owner base) {} (sync.transact key now)
      (Settles owner base sync) := by
  refine ⟨rfl, fun reply assumed => ?_⟩
  cases reply with
  | error fault => exact settles_of_uncommitted sync rfl fault
  | ok existing =>
      cases existing with
      | some existing =>
          obtain ⟨session, operation⟩ := assumed.2 existing rfl
          simp only [attempt_done]
          split
          · exact rfl
          · rename_i same
            rw [not_not] at same
            refine ⟨⟨rfl, rfl⟩, fun reply _ => ?_⟩
            cases reply with
            | error fault => exact settles_of_uncommitted sync rfl fault
            | ok value =>
                exact ⟨sync.owned, existing, rfl, session, operation, same,
                  rfl, rfl⟩
      | none =>
          refine (action_sees sync rfl rfl).bind ?_ ?_
          · intro result reached ⟨grown, sees⟩
            obtain ⟨rfl, seen⟩ := sees result rfl
            exact commit_settles sync grown.2.1 key
              (earned_record sync grown.1 key now seen)
          · exact fun fault reached grown =>
              settles_of_uncommitted sync grown.1.2.1 fault

theorem recover_settles (sync : ViewSyncRequest owner) (key : String)
    {phase : SyncPhase} (uncommitted : phase.committed = false) :
    Follows (syncProtocol owner base) phase (sync.recover key)
      (Settles owner base sync) := by
  refine ⟨trivial, fun reply assumed => ?_⟩
  cases reply with
  | error fault => exact settles_of_uncommitted sync uncommitted fault
  | ok existing =>
      cases existing with
      | none => exact uncommitted
      | some existing =>
          obtain ⟨session, operation⟩ := assumed.2 existing rfl
          simp only [attempt_done]
          split
          · rename_i same
            exact ⟨sync.owned, existing, rfl, session, operation, same, rfl,
              rfl⟩
          · exact uncommitted

theorem settle_settles (sync : ViewSyncRequest owner) (key : String)
    {fault : ActionFault} {phase : SyncPhase}
    (settled : Settles owner base sync (.error fault) phase) :
    Follows (syncProtocol owner base) phase (sync.settle key fault)
      (Settles owner base sync) := by
  cases fault with
  | management error => exact settled
  | database error =>
      cases error with
      | integrityError => exact recover_settles sync key settled
      | _ => exact trivial

theorem idempotent_answers (sync : ViewSyncRequest owner) :
    Follows (syncProtocol owner base) {} sync.idempotent
      fun outcome reached => permitsSync owner base reached
        (.respond sync.request (answered outcome)) := by
  have answers : ∀ outcome reached, Settles owner base sync outcome reached →
      permitsSync owner base reached
        (.respond sync.request (answered outcome)) := by
    intro outcome reached settled
    cases outcome with
    | ok answer => exact settled
    | error fault =>
        cases fault with
        | management error => exact settled
        | database error => exact trivial
  unfold ViewSyncRequest.idempotent
  split
  · exact rfl
  · rename_i key _
    refine ⟨trivial, fun reply _ => ?_⟩
    cases reply with
    | error fault =>
        exact answers _ _ (settles_of_uncommitted sync rfl fault)
    | ok now =>
        refine (transact_settles sync key now).attempt ?_
        intro outcome reached settled
        cases outcome with
        | ok answer => exact answers _ _ settled
        | error fault =>
            refine ⟨trivial, fun reply assumed => ?_⟩
            have ordinary : ∀ error, reply ≠ .error (.management error) :=
              assumed
            cases reply with
            | error raised =>
                cases raised with
                | management error => exact absurd rfl (ordinary error)
                | database error => exact trivial
            | ok value =>
                have kept : Settles owner base sync (.error fault)
                    { reached with account := none, seen := [] } := by
                  cases fault with
                  | management error => exact settled
                  | database error => cases error <;> exact settled
                exact (settle_settles sync key kept).mono answers

theorem program_follows (sync : ViewSyncRequest owner) :
    Follows (syncProtocol owner base) {} sync.program fun _ _ => True :=
  (idempotent_answers sync).attempt fun _ _ permitted =>
    ⟨permitted, fun _ _ => trivial⟩

end

structure Synced (owner : UUID → UUID) (base : Database) (store : ViewStore)
    (phases : ThreadId → SyncPhase) : Prop where
  /-- Only views are written. -/
  rest : store.database = { base with views := store.database.views }
  unique : store.database.views.Unique InstagramReelView.conflictsWith
  /-- A view that a transaction has seen is there, and not another's. -/
  seen : ∀ thread accountId, (phases thread).account = some accountId →
    ∀ reelId ∈ (phases thread).seen, ∃ view ∈ store.database.views,
      view.accountId = accountId ∧ view.reelId = reelId ∧
        store.seenBy thread view = true
  /-- The views of an open transaction are of its account. -/
  written : ∀ view ∈ store.database.views, ∀ thread,
    store.writers view.id = some thread →
      (phases thread).account = none ∨
        ((phases thread).account = some view.accountId ∧
          (phases thread).wrote = true)
  records : ∀ record ∈ store.plane.records,
    Backed owner store.committed record
  stored : ∀ thread record, (phases thread).stored = some record →
    Backed owner store.committed record
  answers : ∀ answer ∈ store.answers, ∀ payload status body replayed,
    answer.1.command = .syncViewedReels payload →
    answer.2 = .response status body replayed →
    Confirms store.committed answer.1.session.accountId payload status body

structure Extends (before after : ViewStore) : Prop where
  reels : after.database.reels = before.database.reels
  views : ∀ view ∈ before.committed.views, view ∈ after.committed.views

theorem Extends.viewed {before after : ViewStore}
    (extended : Extends before after) {accountId : UUID} {reel : InstagramReel}
    (viewed : Viewed before.committed accountId reel) :
    Viewed after.committed accountId reel := by
  obtain ⟨view, member, owned⟩ := viewed
  exact ⟨view, extended.views view member, owned⟩

theorem Extends.confirms {before after : ViewStore}
    (extended : Extends before after) {accountId : UUID}
    {payload : ViewedReelSyncRequest} {status : Nat} {body : ResponseBody}
    (confirms : Confirms before.committed accountId payload status body) :
    Confirms after.committed accountId payload status body where
  status := confirms.status
  body := confirms.body
  viewed := by
    intro videoId member
    obtain ⟨reel, present, named, viewed⟩ := confirms.viewed videoId member
    refine ⟨reel, ?_, named, extended.viewed viewed⟩
    have same : after.committed.reels = before.committed.reels := extended.reels
    rw [same]
    exact present

theorem Extends.backed {before after : ViewStore}
    (extended : Extends before after) {owner : UUID → UUID}
    {record : ManagementIdempotencyRecord}
    (backed : Backed owner before.committed record) :
    Backed owner after.committed record :=
  fun payload operation fingerprint =>
    extended.confirms (backed payload operation fingerprint)

theorem mem_committed {store : ViewStore} {view : InstagramReelView} :
    view ∈ store.committed.views ↔
      view ∈ store.database.views ∧ store.writers view.id = none := by
  unfold ViewStore.committed
  rw [Table.mem_filter, decide_eq_true_eq]

structure Moves (thread : ThreadId) (before after : ViewStore) : Prop where
  rest : ∃ views, after.database = { before.database with views }
  unique : before.database.views.Unique InstagramReelView.conflictsWith →
    after.database.views.Unique InstagramReelView.conflictsWith
  committed : ∀ view ∈ before.committed.views, view ∈ after.committed.views
  others : ∀ view ∈ before.database.views, ∀ other, other ≠ thread →
    before.seenBy other view = true →
      view ∈ after.database.views ∧ after.seenBy other view = true
  origin : ∀ view ∈ after.database.views, ∀ other, other ≠ thread →
    after.writers view.id = some other →
      view ∈ before.database.views ∧ before.writers view.id = some other

theorem Moves.extends {thread : ThreadId} {before after : ViewStore}
    (moves : Moves thread before after) : Extends before after where
  reels := by
    obtain ⟨views, same⟩ := moves.rest
    rw [same]
  views := moves.committed

section

variable {store after : ViewStore} {thread : ThreadId}

theorem seenBy_iff {view : InstagramReelView} :
    store.seenBy thread view = true ↔
      store.writers view.id = none ∨ store.writers view.id = some thread := by
  unfold ViewStore.seenBy
  rw [Bool.or_eq_true, decide_eq_true_eq, decide_eq_true_eq]

theorem moves_refl (store : ViewStore) (thread : ThreadId) :
    Moves thread store store where
  rest := ⟨store.database.views, rfl⟩
  unique := id
  committed := fun _ member => member
  others := fun _ member _ _ seen => ⟨member, seen⟩
  origin := fun _ member _ _ writer => ⟨member, writer⟩

theorem released_none {view : InstagramReelView}
    (free : store.seenBy thread view = true) :
    store.released thread view.id = none := by
  rw [seenBy_iff] at free
  unfold ViewStore.released
  rcases free with none | own
  · simp [none]
  · simp [own]

theorem released_other {viewId : UUID} {other : ThreadId}
    (apart : other ≠ thread) :
    store.released thread viewId = some other ↔
      store.writers viewId = some other := by
  unfold ViewStore.released
  split
  · rename_i own
    rw [own]
    simp [Ne.symm apart]
  · exact Iff.rfl

theorem seenBy_other {view : InstagramReelView} {other : ThreadId}
    (apart : other ≠ thread) (seen : store.seenBy other view = true) :
    store.writers view.id ≠ some thread ∧
      store.released thread view.id = store.writers view.id := by
  have foreign : store.writers view.id ≠ some thread := by
    rw [seenBy_iff] at seen
    intro own
    rcases seen with none | theirs
    · rw [none] at own
      cases own
    · rw [theirs] at own
      exact apart (Option.some.inj own)
  exact ⟨foreign, if_neg foreign⟩

theorem moves_rollback (store : ViewStore) (thread : ThreadId) :
    Moves thread store (store.rollback thread) where
  rest := ⟨_, rfl⟩
  unique := by
    intro unique first firstMember second secondMember
    exact unique first (Table.mem_filter.mp firstMember).1 second
      (Table.mem_filter.mp secondMember).1
  committed := by
    intro view member
    obtain ⟨present, free⟩ := mem_committed.mp member
    refine mem_committed.mpr ⟨Table.mem_filter.mpr ⟨present, ?_⟩, ?_⟩
    · simp [free]
    · exact released_none (by simp [ViewStore.seenBy, free])
  others := by
    intro view present other apart seen
    obtain ⟨foreign, same⟩ := seenBy_other apart seen
    refine ⟨Table.mem_filter.mpr ⟨present, by simpa using foreign⟩, ?_⟩
    rw [seenBy_iff] at seen ⊢
    change store.released thread view.id = none ∨
      store.released thread view.id = some other
    rw [same]
    exact seen
  origin := by
    intro view member other apart writer
    exact ⟨(Table.mem_filter.mp member).1, (released_other apart).mp writer⟩

theorem commit_cases (store : ViewStore) (thread : ThreadId) (now : Time)
    (stored : Option ManagementIdempotencyRecord) :
    (∃ error record, stored = some record ∧
        store.commit thread now stored =
          (store.rollback thread, .error (.database error))) ∨
      ∃ plane, store.commit thread now stored =
          ({ store with plane, writers := store.released thread }, .ok ()) ∧
        plane.work = store.plane.work ∧
        ∀ record ∈ plane.records, record ∈ store.plane.records ∨
          stored = some record := by
  have cleaned : ∀ record ∈ (store.plane.cleanupExpired now).records,
      record ∈ store.plane.records :=
    fun _ member => (Table.mem_filter.mp member).1
  cases stored with
  | none =>
      exact .inr ⟨_, rfl, rfl, fun record member =>
        .inl (cleaned record member)⟩
  | some record =>
      unfold ViewStore.commit
      cases inserted : (store.plane.cleanupExpired now).insertRecord record with
      | error error =>
          exact .inl ⟨error, record, rfl, by simp [inserted]⟩
      | ok plane =>
          refine .inr ⟨plane, by simp [inserted], ?_⟩
          obtain ⟨records, added, _, _, rfl⟩ :=
            ControlPlane.insertRecord_eq_ok inserted
          refine ⟨rfl, fun other member => ?_⟩
          rcases (Table.mem_insert? added).mp member with before | rfl
          · exact .inl (cleaned other before)
          · exact .inr rfl

theorem moves_commit {plane : ControlPlane} (store : ViewStore)
    (thread : ThreadId) (same : plane.work = store.plane.work) :
    Moves thread store
      { store with plane, writers := store.released thread } where
  rest := ⟨store.database.views, congrArg Workspace.database same⟩
  unique := by
    intro unique
    change plane.work.database.views.Unique _
    rw [same]
    exact unique
  committed := by
    intro view member
    obtain ⟨present, free⟩ := mem_committed.mp member
    refine mem_committed.mpr ⟨?_, ?_⟩
    · change view ∈ plane.work.database.views
      rw [same]
      exact present
    · exact released_none (by simp [ViewStore.seenBy, free])
  others := by
    intro view present other apart seen
    obtain ⟨_, kept⟩ := seenBy_other apart seen
    constructor
    · change view ∈ plane.work.database.views
      rw [same]
      exact present
    · rw [seenBy_iff] at seen ⊢
      change store.released thread view.id = none ∨
        store.released thread view.id = some other
      rw [kept]
      exact seen
  origin := by
    intro view member other apart writer
    have present : view ∈ plane.work.database.views := member
    rw [same] at present
    exact ⟨present, (released_other apart).mp writer⟩

theorem insertView_eq_some {draw : Draw} {accountId reelId deviceUuid : UUID}
    {reply : Except ActionFault Unit}
    (inserted : store.insertView thread draw accountId reelId deviceUuid =
      some (after, reply)) :
    (after = store ∧ reply = .error (.database .integrityError) ∧
        ∃ view ∈ store.database.views, view.accountId = accountId ∧
          view.reelId = reelId ∧ store.seenBy thread view = true) ∨
      ∃ view views, view.id = draw.viewId ∧ view.accountId = accountId ∧
        view.reelId = reelId ∧
        (∀ row ∈ store.database.views, row.id ≠ draw.viewId) ∧
        (∀ row ∈ store.database.views, view.conflictsWith row = false) ∧
        store.database.views.insert? view = some views ∧ reply = .ok () ∧
        after = { store.withViews views with
          writers := Function.update store.writers draw.viewId
            (some thread) } := by
  unfold ViewStore.insertView at inserted
  dsimp only at inserted
  split at inserted
  · cases inserted
  · rename_i fresh
    simp only [Bool.not_eq_true, List.any_eq_false, decide_eq_true_eq]
      at fresh
    split at inserted
    · rename_i row found
      split at inserted
      · rename_i seen
        cases inserted
        have collides := List.find?_some found
        simp only [InstagramReelView.conflictsWith, Bool.and_eq_true,
          decide_eq_true_eq] at collides
        exact .inl ⟨rfl, rfl, row, List.mem_of_find?_eq_some found,
          collides.1.2.symm, collides.2.symm, seen⟩
      · cases inserted
    · rename_i free
      split at inserted
      · cases inserted
      · rename_i views added
        cases inserted
        refine .inr ⟨_, views, rfl, rfl, rfl, fresh, ?_, added, rfl, rfl⟩
        intro row member
        simpa using List.find?_eq_none.mp free row member

theorem moves_insert {view : InstagramReelView}
    {views : Table InstagramReelView UUID InstagramReelView.id}
    (fresh : ∀ row ∈ store.database.views, row.id ≠ view.id)
    (free : ∀ row ∈ store.database.views, view.conflictsWith row = false)
    (added : store.database.views.insert? view = some views) :
    Moves thread store { store.withViews views with
      writers := Function.update store.writers view.id (some thread) } where
  rest := ⟨views, rfl⟩
  unique := by
    intro unique
    refine unique.insert? ?_ ?_ added free
    · intro row other
      simp [InstagramReelView.conflictsWith, eq_comm]
    · intro row
      simp [InstagramReelView.conflictsWith]
  committed := by
    intro row member
    obtain ⟨present, none⟩ := mem_committed.mp member
    refine mem_committed.mpr ⟨(Table.mem_insert? added).mpr (.inl present), ?_⟩
    exact (Function.update_of_ne (fresh row present) _ _).trans none
  others := by
    intro row present other apart seen
    refine ⟨(Table.mem_insert? added).mpr (.inl present), ?_⟩
    rw [seenBy_iff] at seen ⊢
    dsimp only
    rw [Function.update_of_ne (fresh row present)]
    exact seen
  origin := by
    intro row member other apart writer
    dsimp only at writer
    by_cases same : row.id = view.id
    · rw [same, Function.update_self] at writer
      exact absurd (Option.some.inj writer).symm apart
    · rw [Function.update_of_ne same] at writer
      rcases (Table.mem_insert? added).mp member with present | rfl
      · exact ⟨present, writer⟩
      · exact absurd rfl same

end

section

variable {owner : UUID → UUID} {base : Database} {store after : ViewStore}
variable {phases : ThreadId → SyncPhase} {thread : ThreadId}

theorem Synced.move (synced : Synced owner base store phases)
    (moves : Moves thread store after) {phase : SyncPhase}
    (seen : ∀ accountId, phase.account = some accountId →
      ∀ reelId ∈ phase.seen, ∃ view ∈ after.database.views,
        view.accountId = accountId ∧ view.reelId = reelId ∧
          after.seenBy thread view = true)
    (written : ∀ view ∈ after.database.views,
      after.writers view.id = some thread → phase.account = none ∨
        (phase.account = some view.accountId ∧ phase.wrote = true))
    (records : ∀ record ∈ after.plane.records, record ∈ store.plane.records ∨
      Backed owner after.committed record)
    (stored : ∀ record, phase.stored = some record →
      Backed owner after.committed record)
    (answers : ∀ answer ∈ after.answers, answer ∈ store.answers ∨
      ∀ payload status body replayed,
        answer.1.command = .syncViewedReels payload →
        answer.2 = .response status body replayed →
        Confirms after.committed answer.1.session.accountId payload status
          body) :
    Synced owner base after (Function.update phases thread phase) where
  rest := by
    obtain ⟨views, same⟩ := moves.rest
    rw [same, synced.rest]
  unique := moves.unique synced.unique
  seen := by
    intro other accountId account reelId member
    by_cases here : other = thread
    · subst here
      rw [Function.update_self] at account member
      exact seen accountId account reelId member
    · rw [Function.update_of_ne here] at account member
      obtain ⟨view, present, owned, same, visible⟩ :=
        synced.seen other accountId account reelId member
      obtain ⟨stays, still⟩ := moves.others view present other here visible
      exact ⟨view, stays, owned, same, still⟩
  written := by
    intro view present other writer
    by_cases here : other = thread
    · subst here
      rw [Function.update_self]
      exact written view present writer
    · rw [Function.update_of_ne here]
      obtain ⟨before, wrote⟩ := moves.origin view present other here writer
      exact synced.written view before other wrote
  records := by
    intro record member
    rcases records record member with before | backed
    · exact moves.extends.backed (synced.records record before)
    · exact backed
  stored := by
    intro other record known
    by_cases here : other = thread
    · subst here
      rw [Function.update_self] at known
      exact stored record known
    · rw [Function.update_of_ne here] at known
      exact moves.extends.backed (synced.stored other record known)
  answers := by
    intro answer member
    rcases answers answer member with before | confirms
    · intro payload status body replayed command response
      exact moves.extends.confirms
        (synced.answers answer before payload status body replayed command
          response)
    · exact confirms

theorem Synced.learn (synced : Synced owner base store phases)
    {phase : SyncPhase}
    (account : phase.account = (phases thread).account ∨
      phase.account = none)
    (wrote : (phases thread).wrote = true →
      phase.account = none ∨ phase.wrote = true)
    (seen : ∀ accountId, phase.account = some accountId →
      ∀ reelId ∈ phase.seen, reelId ∈ (phases thread).seen ∨
        ∃ view ∈ store.database.views, view.accountId = accountId ∧
          view.reelId = reelId ∧ store.seenBy thread view = true)
    (stored : ∀ record, phase.stored = some record →
      (phases thread).stored = some record ∨
        Backed owner store.committed record) :
    Synced owner base store (Function.update phases thread phase) := by
  refine synced.move (moves_refl store thread) ?_ ?_
    (fun _ member => .inl member) ?_ (fun _ member => .inl member)
  · intro accountId known reelId member
    rcases seen accountId known reelId member with before | there
    · refine synced.seen thread accountId ?_ reelId before
      rcases account with same | gone
      · rw [← same]
        exact known
      · rw [gone] at known
        cases known
    · exact there
  · intro view present writer
    rcases account with same | gone
    · rcases synced.written view present thread writer with
        gone | ⟨owned, written⟩
      · exact .inl (same.trans gone)
      · exact (wrote written).imp_right fun still =>
          ⟨same.trans owned, still⟩
    · exact .inl gone
  · intro record known
    rcases stored record known with before | backed
    · exact synced.stored thread record before
    · exact backed

theorem Synced.rolledBack (synced : Synced owner base store phases)
    {phase : SyncPhase} (seen : phase.account = none ∨ phase.seen = [])
    (stored : ∀ record, phase.stored = some record →
      Backed owner store.committed record) :
    Synced owner base (store.rollback thread)
      (Function.update phases thread phase) := by
  have moves := moves_rollback store thread
  refine synced.move moves ?_ ?_ (fun _ member => .inl member) ?_
    (fun _ member => .inl member)
  · intro accountId account reelId member
    rcases seen with gone | none
    · rw [gone] at account
      cases account
    · rw [none] at member
      cases member
  · intro view member writer
    have released : store.released thread view.id = some thread := writer
    unfold ViewStore.released at released
    split at released
    · cases released
    · rename_i foreign
      exact absurd released foreign
  · exact fun record known => moves.extends.backed (stored record known)

theorem Synced.backed (synced : Synced owner base store phases)
    {plane : ControlPlane} (same : plane.work = store.plane.work)
    {record : ManagementIdempotencyRecord}
    (earned : Earned owner base (phases thread) record) :
    Backed owner (ViewStore.committed
      { store with plane, writers := store.released thread }) record := by
  intro payload operation fingerprint
  obtain ⟨status, body, sees⟩ := earned.2 payload operation fingerprint
  refine ⟨status, body, fun videoId member => ?_⟩
  obtain ⟨reel, present, named, here⟩ := sees videoId member
  obtain ⟨view, there, owned, ofReel, visible⟩ :=
    synced.seen thread (owner record.sessionId) earned.1 reel.id here
  refine ⟨reel, ?_, named, view, ?_, owned, ofReel⟩
  · change reel ∈ plane.work.database.reels
    rw [same]
    change reel ∈ store.database.reels
    rw [synced.rest]
    exact present
  · refine mem_committed.mpr ⟨?_, released_none visible⟩
    change view ∈ plane.work.database.views
    rw [same]
    exact there

theorem Synced.committed (synced : Synced owner base store phases)
    {plane : ControlPlane} (same : plane.work = store.plane.work)
    {written : Option ManagementIdempotencyRecord}
    (earned : ∀ record, written = some record →
      Earned owner base (phases thread) record)
    (records : ∀ record ∈ plane.records, record ∈ store.plane.records ∨
      written = some record) {phase : SyncPhase}
    (account : phase.account = (phases thread).account ∨
      phase.account = none)
    (seen : phase.seen = (phases thread).seen)
    (stored : ∀ record, phase.stored = some record →
      (phases thread).stored = some record ∨ written = some record) :
    Synced owner base { store with plane, writers := store.released thread }
      (Function.update phases thread phase) := by
  have moves := moves_commit store thread same
  refine synced.move moves ?_ ?_ ?_ ?_ (fun _ member => .inl member)
  · intro accountId known reelId member
    have before : (phases thread).account = some accountId := by
      rcases account with same | gone
      · rw [← same]
        exact known
      · rw [gone] at known
        cases known
    rw [seen] at member
    obtain ⟨view, present, owned, ofReel, visible⟩ :=
      synced.seen thread accountId before reelId member
    refine ⟨view, ?_, owned, ofReel,
      seenBy_iff.mpr (.inl (released_none visible))⟩
    change view ∈ plane.work.database.views
    rw [same]
    exact present
  · intro view member writer
    have released : store.released thread view.id = some thread := writer
    unfold ViewStore.released at released
    split at released
    · cases released
    · rename_i foreign
      exact absurd released foreign
  · intro record member
    rcases records record member with before | new
    · exact .inl before
    · exact .inr (synced.backed same (earned record new))
  · intro record known
    rcases stored record known with before | new
    · exact moves.extends.backed (synced.stored thread record before)
    · exact synced.backed same (earned record new)

theorem Synced.inserted (synced : Synced owner base store phases)
    {view : InstagramReelView}
    {views : Table InstagramReelView UUID InstagramReelView.id}
    (fresh : ∀ row ∈ store.database.views, row.id ≠ view.id)
    (free : ∀ row ∈ store.database.views, view.conflictsWith row = false)
    (added : store.database.views.insert? view = some views)
    (owned : (phases thread).account = some view.accountId)
    {phase : SyncPhase} (account : phase.account = (phases thread).account)
    (wrote : phase.wrote = true)
    (seen : ∀ reelId ∈ phase.seen, reelId ∈ (phases thread).seen ∨
      reelId = view.reelId)
    (stored : phase.stored = (phases thread).stored) :
    Synced owner base { store.withViews views with
        writers := Function.update store.writers view.id (some thread) }
      (Function.update phases thread phase) := by
  have moves := @moves_insert store thread view views fresh free added
  refine synced.move moves ?_ ?_ (fun _ member => .inl member) ?_
    (fun _ member => .inl member)
  · intro accountId known reelId member
    have here : view.accountId = accountId := by
      rw [account, owned] at known
      exact Option.some.inj known
    rcases seen reelId member with before | rfl
    · rw [account] at known
      obtain ⟨row, present, ofAccount, ofReel, visible⟩ :=
        synced.seen thread accountId known reelId before
      refine ⟨row, (Table.mem_insert? added).mpr (.inl present), ofAccount,
        ofReel, ?_⟩
      rw [seenBy_iff] at visible ⊢
      dsimp only
      rw [Function.update_of_ne (fresh row present)]
      exact visible
    · refine ⟨view, (Table.mem_insert? added).mpr (.inr rfl), here, rfl, ?_⟩
      rw [seenBy_iff]
      exact .inr (Function.update_self _ _ _)
  · intro row member writer
    rcases (Table.mem_insert? added).mp member with present | rfl
    · dsimp only at writer
      rw [Function.update_of_ne (fresh row present)] at writer
      rw [account]
      exact (synced.written row present thread writer).imp_right
        fun ⟨owned, _⟩ => ⟨owned, wrote⟩
    · exact .inr ⟨account.trans owned, wrote⟩
  · intro record known
    rw [stored] at known
    exact moves.extends.backed (synced.stored thread record known)

theorem Synced.responded (synced : Synced owner base store phases)
    {request : MutationRequest} {answer : Answer}
    (permitted : permitsSync owner base (phases thread)
      (.respond request answer)) :
    Synced owner base
      { store with answers := (request, answer) :: store.answers }
      (Function.update phases thread (phases thread)) := by
  have moves : Moves thread store
      { store with answers := (request, answer) :: store.answers } := by
    obtain ⟨rest, unique, committed, others, origin⟩ := moves_refl store thread
    exact ⟨rest, unique, committed, others, origin⟩
  refine synced.move moves (synced.seen thread)
    (fun view present writer => synced.written view present thread writer)
    (fun _ member => .inl member) (synced.stored thread) ?_
  intro entry member
  rcases List.mem_cons.mp member with rfl | before
  · right
    intro payload status body replayed command response
    dsimp only at command response
    subst response
    obtain ⟨owned, record, known, answers⟩ := permitted
    have confirms := synced.stored thread record known payload
      (answers.operation.trans (congrArg Command.operation command))
      (answers.fingerprint.trans (by rw [command]))
    rw [answers.session, ← owned, answers.status, answers.body] at confirms
    exact confirms
  · exact .inl before

theorem findRecord_eq_some {plane : ControlPlane} {request : MutationRequest}
    {key : String} {record : ManagementIdempotencyRecord}
    (found : plane.findRecord request key = some record) :
    record ∈ plane.records ∧ record.sessionId = request.session.id ∧
      record.operation = request.command.operation := by
  have matched := List.find?_some found
  simp only [Bool.and_eq_true, decide_eq_true_eq] at matched
  exact ⟨List.mem_of_find?_eq_some found, matched.1.1, matched.1.2⟩

theorem advance_refused (phase : SyncPhase) (request : ViewCall)
    {error : DatabaseError} (ordinary : error ≠ .integrityError) :
    ((advanceSync phase request (.error (.database error))).account =
        phase.account ∨
      (advanceSync phase request (.error (.database error))).account = none) ∧
    (phase.wrote = true → (advanceSync phase request
      (.error (.database error))).account = none ∨ (advanceSync phase request
        (.error (.database error))).wrote = true) ∧
    (∀ reelId ∈ (advanceSync phase request (.error (.database error))).seen,
      reelId ∈ phase.seen) ∧
    ∀ record, (advanceSync phase request (.error (.database error))).stored =
      some record → phase.stored = some record := by
  cases request with
  | commit now stored =>
      cases stored with
      | none =>
          exact ⟨.inl rfl, .inr, fun _ member => member, fun _ known => known⟩
      | some record =>
          have shape : advanceSync phase (.commit now (some record))
              (.error (.database error)) =
                { phase with account := none, committed := true } :=
            if_neg ordinary
          rw [shape]
          exact ⟨.inr rfl, .inr, fun _ member => member, fun _ known => known⟩
  | begin request key now => exact ⟨.inr rfl, fun _ => .inl rfl, nofun, nofun⟩
  | rollback =>
      exact ⟨.inr rfl, fun _ => .inl rfl, nofun, fun _ known => known⟩
  | insertView accountId reelId deviceUuid =>
      cases error with
      | integrityError => exact absurd rfl ordinary
      | _ => exact ⟨.inl rfl, fun _ => .inr rfl, fun _ member => member,
          fun _ known => known⟩
  | _ =>
      exact ⟨.inl rfl, .inr, fun _ member => member, fun _ known => known⟩

theorem assumes_refused (request : ViewCall) (error : DatabaseError) :
    assumesSync base request (.error (.database error)) := by
  cases request with
  | begin => exact ⟨nofun, nofun⟩
  | findRecord => exact ⟨nofun, nofun⟩
  | ownedReels => exact ⟨nofun, nofun⟩
  | _ => exact nofun

theorem Synced.refused (synced : Synced owner base store phases)
    (request : ViewCall) {error : DatabaseError}
    (ordinary : error ≠ .integrityError) :
    Synced owner base store (Function.update phases thread
      (advanceSync (phases thread) request (.error (.database error)))) := by
  obtain ⟨account, wrote, seen, stored⟩ :=
    advance_refused (phases thread) request ordinary
  exact synced.learn account wrote
    (fun _ _ reelId member => .inl (seen reelId member))
    fun record known => .inl (stored record known)

/-- The answer to a call that takes effect is lost. -/
theorem Synced.lost (synced : Synced owner base store phases)
    {request : ViewCall} {draw : Draw} {error : DatabaseError}
    (ordinary : error ≠ .integrityError)
    (permitted : permitsSync owner base (phases thread) request)
    {reply : Except ActionFault (ViewReply request)}
    (happened : store.effect thread draw request = some (after, reply)) :
    Synced owner base after (Function.update phases thread
      (advanceSync (phases thread) request (.error (.database error)))) := by
  cases request with
  | begin request key now =>
      cases happened
      exact synced.rolledBack (.inl rfl) nofun
  | rollback =>
      cases happened
      exact synced.rolledBack (.inl rfl) (synced.stored thread)
  | insertView accountId reelId deviceUuid =>
      have still : advanceSync (phases thread)
          (.insertView accountId reelId deviceUuid)
          (.error (.database error)) =
            { phases thread with wrote := true } := by
        cases error with
        | integrityError => exact absurd rfl ordinary
        | _ => rfl
      rcases insertView_eq_some happened with
        ⟨rfl, _, _⟩ | ⟨view, views, identity, ofAccount, _, fresh, free,
          added, _, rfl⟩
      · exact synced.refused _ ordinary
      · rw [still]
        rw [← identity] at fresh ⊢
        exact synced.inserted fresh free added
          (permitted.trans (congrArg some ofAccount.symm)) rfl rfl
          (fun _ member => .inl member) rfl
  | commit now written =>
      have shape := Option.some.inj happened
      rcases commit_cases store thread now written with
        ⟨failed, record, rfl, committed⟩ | ⟨plane, committed, same, records⟩
      · rw [committed] at shape
        cases shape
        simp only [advanceSync, if_neg ordinary]
        exact synced.rolledBack (.inl rfl) (synced.stored thread)
      · rw [committed] at shape
        cases shape
        cases written with
        | none =>
            exact synced.committed same
              (fun _ equal => by cases equal) records
              (.inl rfl) rfl
              fun _ known => .inl known
        | some record =>
            simp only [advanceSync, if_neg ordinary]
            exact synced.committed same
              (fun _ equal => by cases equal; exact permitted) records
              (.inr rfl) rfl fun _ known => .inl known
  | respond request answer =>
      cases happened
      exact synced.responded permitted
  | _ =>
      cases happened
      exact synced.refused _ ordinary

theorem Synced.returned (synced : Synced owner base store phases)
    {request : ViewCall} {draw : Draw}
    (permitted : permitsSync owner base (phases thread) request)
    {reply : Except ActionFault (ViewReply request)}
    (happened : store.effect thread draw request = some (after, reply)) :
    assumesSync base request reply ∧
      Synced owner base after (Function.update phases thread
        (advanceSync (phases thread) request reply)) := by
  cases request with
  | now =>
      cases happened
      exact ⟨nofun, synced.learn (.inl rfl) .inr
        (fun _ _ _ member => .inl member) fun _ known => .inl known⟩
  | begin request key now =>
      cases happened
      refine ⟨⟨nofun, fun record found => ?_⟩, ?_⟩
      · exact (findRecord_eq_some (Except.ok.inj found)).2
      · refine synced.rolledBack (.inr rfl) fun record known => ?_
        have member := (findRecord_eq_some known).1
        exact synced.records record (Table.mem_filter.mp member).1
  | ownedReels accountId videoIds =>
      cases happened
      refine ⟨⟨nofun, fun owned found => ?_⟩, synced.learn (.inl rfl) .inr
        (fun _ _ _ member => .inl member) fun _ known => .inl known⟩
      rw [← Except.ok.inj found, synced.rest]
      rfl
  | viewed accountId reelId =>
      cases happened
      refine ⟨nofun, ?_⟩
      generalize found : (store.database.views.rows.any fun view =>
        view.accountId = accountId && view.reelId = reelId &&
          store.seenBy thread view) = viewed
      cases viewed with
      | false =>
          exact synced.learn (.inl rfl) .inr
            (fun _ _ _ member => .inl member) fun _ known => .inl known
      | true =>
          refine synced.learn (.inl rfl) .inr ?_ fun _ known => .inl known
          intro other account reel member
          rcases List.mem_cons.mp member with rfl | before
          · have same : accountId = other :=
              Option.some.inj (permitted.symm.trans account)
            obtain ⟨view, present, matched⟩ := List.any_eq_true.mp found
            simp only [Bool.and_eq_true, decide_eq_true_eq] at matched
            exact .inr ⟨view, present, matched.1.1.trans same, matched.1.2,
              matched.2⟩
          · exact .inl before
  | insertView accountId reelId deviceUuid =>
      rcases insertView_eq_some happened with
        ⟨rfl, rfl, view, present, ofAccount, ofReel, visible⟩ |
          ⟨view, views, identity, ofAccount, ofReel, fresh, free, added, rfl,
            rfl⟩
      · refine ⟨nofun, synced.learn (.inl rfl) (fun _ => .inr rfl) ?_
          fun _ known => .inl known⟩
        intro account known reel member
        rcases List.mem_cons.mp member with rfl | before
        · have same : accountId = account :=
            Option.some.inj (permitted.symm.trans known)
          exact .inr ⟨view, present, ofAccount.trans same, ofReel, visible⟩
        · exact .inl before
      · refine ⟨nofun, ?_⟩
        rw [← identity] at fresh ⊢
        refine synced.inserted fresh free added
          (permitted.trans (congrArg some ofAccount.symm)) rfl rfl ?_ rfl
        intro reel member
        rcases List.mem_cons.mp member with rfl | before
        · exact .inr ofReel.symm
        · exact .inl before
  | commit now written =>
      have shape := Option.some.inj happened
      rcases commit_cases store thread now written with
        ⟨failed, record, rfl, committed⟩ | ⟨plane, committed, same, records⟩
      · rw [committed] at shape
        cases shape
        refine ⟨nofun, ?_⟩
        by_cases collides : failed = .integrityError
        · subst collides
          exact synced.rolledBack (.inl rfl) (synced.stored thread)
        · simp only [advanceSync, if_neg collides]
          exact synced.rolledBack (.inl rfl) (synced.stored thread)
      · rw [committed] at shape
        cases shape
        refine ⟨nofun, ?_⟩
        cases written with
        | none =>
            exact synced.committed same
              (fun _ equal => by cases equal) records
              (.inl rfl) rfl fun _ known => .inl known
        | some record =>
            exact synced.committed same
              (fun _ equal => by cases equal; exact permitted) records
              (.inl rfl) rfl fun _ known => .inr known
  | rollback =>
      cases happened
      exact ⟨nofun, synced.rolledBack (.inl rfl) (synced.stored thread)⟩
  | findRecord request key =>
      cases happened
      refine ⟨⟨nofun, fun record found => ?_⟩, ?_⟩
      · exact (findRecord_eq_some (Except.ok.inj found)).2
      · refine synced.learn (.inl rfl) .inr
          (fun _ _ _ member => .inl member) ?_
        intro record known
        exact .inr (synced.records record (findRecord_eq_some known).1)
  | respond request answer =>
      cases happened
      exact ⟨nofun, synced.responded permitted⟩

end

end OfflineReels.Management.ViewSync
