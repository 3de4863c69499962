import OfflineReels.Instagram.Consistency
import OfflineReels.Management.ViewSyncMachine

namespace OfflineReels.Management.ViewSync

open OfflineReels.Foundation
open OfflineReels.Instagram

/-! What every run of concurrent view synchronizations does to the views and to
the catalogs. -/

abbrev SyncConfig : Type :=
  Config ViewCall ViewReply ActionFault SyncPhase ViewStore

abbrev SyncLabel (owner : UUID → UUID) : Type :=
  Label (ViewSyncRequest owner) Choice

def CommitsFor (owner : UUID → UUID) (config : SyncConfig)
    (label : SyncLabel owner) (accountId : UUID) : Prop :=
  ∃ thread choice now record resume, label = .step thread choice ∧
    config.threads thread = some (.call (.commit now (some record)) resume) ∧
    owner record.sessionId = accountId

structure Lawful (owner : UUID → UUID) (before : SyncConfig)
    (label : SyncLabel owner) (after : SyncConfig) : Prop where
  /-- One view of a Reel for each account. -/
  once : ∀ view ∈ after.shared.committed.views,
    ∀ other ∈ after.shared.committed.views,
      view.accountId = other.accountId → view.reelId = other.reelId →
        view = other
  /-- A view stays with its time and device. -/
  kept : ∀ view ∈ before.shared.committed.views,
    view ∈ after.shared.committed.views
  added : ∀ view ∈ after.shared.committed.views,
    view ∈ before.shared.committed.views ∨
      CommitsFor owner before label view.accountId
  catalogs : ∀ accountId, ¬ CommitsFor owner before label accountId →
    ∀ limit, accountCatalog after.shared.committed accountId limit =
      accountCatalog before.shared.committed accountId limit
  records : ∀ record ∈ after.shared.plane.records,
    Backed owner after.shared.committed record
  /-- A success names the batch, none of which is listed any more. -/
  confirmed : ∀ answer ∈ after.shared.answers,
    ∀ payload status body replayed,
      answer.1.command = .syncViewedReels payload →
      answer.2 = .response status body replayed →
        status = 200 ∧
        body = .confirmedVideoIds (payload.events.insertionSort (· ≤ ·)) ∧
        ∀ limit, ∀ item ∈ accountCatalog after.shared.committed
          answer.1.session.accountId limit, item.id ∉ payload.events

def Rejects (thread : ThreadId) (config : SyncConfig) : Prop :=
  ∃ request error resume,
    config.threads thread = some (.call (.respond request (.error error)) resume)

def Undisturbed {owner : UUID → UUID} (thread : ThreadId) :
    SyncLabel owner → Prop
  | .spawn other _ => other ≠ thread
  | .step _ _ => True
  | .crash other => other ≠ thread

section

variable {owner : UUID → UUID} {base : Database} {store after : ViewStore}
variable {phases : ThreadId → SyncPhase} {thread : ThreadId}

theorem perform_effect {request : ViewCall} {choice : Choice}
    {reply : Except ActionFault (ViewReply request)}
    (performed : store.perform thread request choice = some (after, reply)) :
    (∃ error, error ≠ .integrityError ∧ after = store ∧
        reply = .error (.database error)) ∨
      ∃ draw replied, store.effect thread draw request = some (after, replied) ∧
        (reply = replied ∨ ∃ error, error ≠ .integrityError ∧
          reply = .error (.database error)) := by
  cases choice with
  | returns draw => exact .inr ⟨draw, reply, performed, .inl rfl⟩
  | refused error =>
      simp only [ViewStore.perform] at performed
      split at performed
      · cases performed
      · rename_i ordinary
        cases performed
        exact .inl ⟨error, ordinary, rfl, rfl⟩
  | lost draw error =>
      simp only [ViewStore.perform] at performed
      split at performed
      · cases performed
      · rename_i ordinary
        obtain ⟨⟨reached, replied⟩, happened, same⟩ :=
          Option.map_eq_some_iff.mp performed
        cases same
        exact .inr ⟨draw, replied, happened, .inr ⟨error, ordinary, rfl⟩⟩

theorem perform_synced (synced : Synced owner base store phases)
    {request : ViewCall} {choice : Choice}
    {reply : Except ActionFault (ViewReply request)}
    (permitted : permitsSync owner base (phases thread) request)
    (performed : store.perform thread request choice = some (after, reply)) :
    assumesSync base request reply ∧
      Synced owner base after (Function.update phases thread
        (advanceSync (phases thread) request reply)) := by
  rcases perform_effect performed with
    ⟨error, ordinary, rfl, rfl⟩ | ⟨draw, replied, happened, shape⟩
  · exact ⟨assumes_refused request error, synced.refused request ordinary⟩
  · rcases shape with rfl | ⟨error, ordinary, rfl⟩
    · exact synced.returned permitted happened
    · exact ⟨assumes_refused request error,
        synced.lost ordinary permitted happened⟩

theorem rollback_committed {view : InstagramReelView}
    (member : view ∈ (store.rollback thread).committed.views) :
    view ∈ store.committed.views := by
  obtain ⟨present, released⟩ := mem_committed.mp member
  obtain ⟨there, foreign⟩ := Table.mem_filter.mp present
  rw [decide_eq_true_eq] at foreign
  change store.released thread view.id = none at released
  unfold ViewStore.released at released
  rw [if_neg foreign] at released
  exact mem_committed.mpr ⟨there, released⟩

theorem released_committed (synced : Synced owner base store phases)
    {plane : ControlPlane} (same : plane.work = store.plane.work)
    {view : InstagramReelView}
    (member : view ∈ (ViewStore.committed
      { store with plane, writers := store.released thread }).views) :
    view ∈ store.committed.views ∨ (phases thread).account = none ∨
      ((phases thread).account = some view.accountId ∧
        (phases thread).wrote = true) := by
  obtain ⟨present, released⟩ := mem_committed.mp member
  change view ∈ plane.work.database.views at present
  rw [same] at present
  change store.released thread view.id = none at released
  unfold ViewStore.released at released
  split at released
  · rename_i own
    exact .inr (synced.written view present thread own)
  · exact .inl (mem_committed.mpr ⟨present, released⟩)

theorem effect_keeps {request : ViewCall} {draw : Draw}
    {reply : Except ActionFault (ViewReply request)}
    (happened : store.effect thread draw request = some (after, reply))
    {view : InstagramReelView} (member : view ∈ store.committed.views) :
    view ∈ after.committed.views := by
  cases request with
  | begin request key now =>
      cases happened
      exact (moves_rollback store thread).committed view member
  | rollback =>
      cases happened
      exact (moves_rollback store thread).committed view member
  | insertView accountId reelId deviceUuid =>
      rcases insertView_eq_some happened with
        ⟨rfl, _, _⟩ | ⟨row, views, identity, _, _, fresh, free, added, _, rfl⟩
      · exact member
      · rw [← identity] at fresh ⊢
        have moves := @moves_insert store thread row views fresh free added
        exact moves.committed view member
  | commit now written =>
      have shape := Option.some.inj happened
      rcases commit_cases store thread now written with
        ⟨_, _, _, committed⟩ | ⟨plane, committed, same, _⟩
      · rw [committed] at shape
        cases shape
        exact (moves_rollback store thread).committed view member
      · rw [committed] at shape
        cases shape
        exact (moves_commit store thread same).committed view member
  | _ =>
      cases happened
      exact member

theorem effect_committed (synced : Synced owner base store phases)
    {request : ViewCall} {draw : Draw}
    {reply : Except ActionFault (ViewReply request)}
    (permitted : permitsSync owner base (phases thread) request)
    (happened : store.effect thread draw request = some (after, reply))
    {view : InstagramReelView} (member : view ∈ after.committed.views) :
    view ∈ store.committed.views ∨ ∃ now record,
      request = .commit now (some record) ∧
        view.accountId = owner record.sessionId ∧
        (∃ value, reply = .ok value) := by
  cases request with
  | begin request key now =>
      cases happened
      exact .inl (rollback_committed member)
  | rollback =>
      cases happened
      exact .inl (rollback_committed member)
  | insertView accountId reelId deviceUuid =>
      rcases insertView_eq_some happened with
        ⟨rfl, _, _⟩ | ⟨row, views, identity, _, _, _, _, added, _, rfl⟩
      · exact .inl member
      · left
        obtain ⟨present, free⟩ := mem_committed.mp member
        dsimp only at free
        by_cases same : view.id = draw.viewId
        · rw [same, Function.update_self] at free
          cases free
        · rw [Function.update_of_ne same] at free
          rcases (Table.mem_insert? added).mp present with before | rfl
          · exact mem_committed.mpr ⟨before, free⟩
          · exact absurd identity same
  | commit now written =>
      have shape := Option.some.inj happened
      rcases commit_cases store thread now written with
        ⟨failed, record, rfl, committed⟩ | ⟨plane, committed, same, records⟩
      · rw [committed] at shape
        cases shape
        exact .inl (rollback_committed member)
      · rw [committed] at shape
        cases shape
        rcases released_committed synced same member with
          before | gone | ⟨owned, wrote⟩
        · exact .inl before
        · cases written with
          | none =>
              have account := permitted.1
              rw [gone] at account
              cases account
          | some record =>
              have account := permitted.1
              rw [gone] at account
              cases account
        · cases written with
          | none =>
              rw [permitted.2] at wrote
              cases wrote
          | some record =>
              refine .inr ⟨now, record, rfl, ?_, (), rfl⟩
              exact Option.some.inj (owned.symm.trans permitted.1)
  | _ =>
      cases happened
      exact .inl member

theorem advance_committed {request : ViewCall}
    (permitted : permitsSync owner base (phases thread) request)
    (reply : Except ActionFault (ViewReply request))
    (committed : (phases thread).committed = true) :
    (advanceSync (phases thread) request reply).committed = true := by
  cases request with
  | begin request key now =>
      have uncommitted : (phases thread).committed = false := permitted
      rw [uncommitted] at committed
      cases committed
  | commit now written =>
      cases written with
      | none => exact committed
      | some record =>
          cases reply with
          | ok value => rfl
          | error fault =>
              cases fault with
              | management error => exact committed
              | database error =>
                  simp only [advanceSync]
                  split
                  · exact committed
                  · rfl
  | viewed accountId reelId =>
      cases reply with
      | ok viewed => cases viewed <;> exact committed
      | error fault => exact committed
  | insertView accountId reelId deviceUuid =>
      cases reply with
      | ok value => exact committed
      | error fault =>
          cases fault with
          | management error => exact committed
          | database error => cases error <;> exact committed
  | findRecord request key => cases reply <;> exact committed
  | _ => exact committed

theorem Synced.tables (synced : Synced owner base store phases) :
    store.committed.videos = base.videos ∧
      store.committed.reels = base.reels ∧
      store.committed.items = base.items ∧
      store.committed.runs = base.runs := by
  change store.database.videos = _ ∧ store.database.reels = _ ∧
    store.database.items = _ ∧ store.database.runs = _
  rw [synced.rest]
  exact ⟨rfl, rfl, rfl, rfl⟩

theorem accountCatalog_of_views {after : ViewStore}
    (before : Synced owner base store phases) {reached : ThreadId → SyncPhase}
    (synced : Synced owner base after reached) {accountId : UUID}
    (same : ∀ view, view.accountId = accountId →
      (view ∈ after.committed.views ↔ view ∈ store.committed.views))
    (limit : Int) :
    accountCatalog after.committed accountId limit =
      accountCatalog store.committed accountId limit := by
  obtain ⟨videos, reels, items, runs⟩ := before.tables
  obtain ⟨sameVideos, sameReels, sameItems, sameRuns⟩ := synced.tables
  have rows : catalogRows after.committed accountId =
      catalogRows store.committed accountId := by
    apply catalogRows_of_viewed
    · exact sameVideos.trans videos.symm
    · exact sameReels.trans reels.symm
    · exact sameItems.trans items.symm
    · exact sameRuns.trans runs.symm
    · intro reel
      constructor
      · intro ⟨view, member, owned, ofReel⟩
        exact ⟨view, (same view owned).mp member, owned, ofReel⟩
      · intro ⟨view, member, owned, ofReel⟩
        exact ⟨view, (same view owned).mpr member, owned, ofReel⟩
  unfold accountCatalog
  rw [rows]

/-- A batch that is confirmed is not listed. -/
theorem Confirms.unlisted (synced : Synced owner base store phases)
    (consistent : base.ReelsConsistent) {accountId : UUID}
    {payload : ViewedReelSyncRequest} {status : Nat} {body : ResponseBody}
    (confirms : Confirms store.committed accountId payload status body)
    {limit : Int} {item : CatalogItem}
    (listed : item ∈ accountCatalog store.committed accountId limit) :
    item.id ∉ payload.events := by
  intro requested
  obtain ⟨video, selected, rfl⟩ := catalogRows_of_listed listed
  obtain ⟨_, other, otherPresent, otherNamed, _, _, unviewed⟩ :=
    mem_catalogRows.mp selected
  obtain ⟨reel, present, named, viewed⟩ := confirms.viewed video.id requested
  rw [synced.tables.2.1] at present otherPresent
  have same : reel = other :=
    consistent.eq_of_videoId present otherPresent named otherNamed
  rw [← same] at unviewed
  exact unviewed viewed

theorem Synced.lawful (consistent : base.ReelsConsistent)
    {before reached : SyncConfig} {label : SyncLabel owner}
    (held : Synced owner base before.shared before.phases)
    (synced : Synced owner base reached.shared reached.phases)
    (kept : ∀ view ∈ before.shared.committed.views,
      view ∈ reached.shared.committed.views)
    (added : ∀ view ∈ reached.shared.committed.views,
      view ∈ before.shared.committed.views ∨
        CommitsFor owner before label view.accountId) :
    Lawful owner before label reached where
  once := by
    intro view member other otherMember sameAccount sameReel
    obtain ⟨present, _⟩ := mem_committed.mp member
    obtain ⟨otherPresent, _⟩ := mem_committed.mp otherMember
    have unique := synced.unique view present other otherPresent
    simp only [InstagramReelView.conflictsWith, sameAccount, sameReel,
      decide_true, Bool.and_true, decide_eq_false_iff_not, not_not] at unique
    exact Table.eq_of_key_eq present otherPresent unique
  kept := kept
  added := added
  catalogs := by
    intro accountId other limit
    refine accountCatalog_of_views held synced (fun view owned => ?_) limit
    refine ⟨fun member => ?_, kept view⟩
    rcases added view member with before | commits
    · exact before
    · rw [owned] at commits
      exact absurd commits other
  records := synced.records
  confirmed := by
    intro answer member payload status body replayed command response
    have confirms := synced.answers answer member payload status body replayed
      command response
    exact ⟨confirms.status, confirms.body, fun limit item listed =>
      confirms.unlisted synced consistent listed⟩

abbrev Holds (owner : UUID → UUID) (base : Database) : SyncConfig → Prop :=
  Machine.Sound (syncMachine owner base) (Synced owner base) fun _ => True

theorem Synced.reset (synced : Synced owner base store phases)
    (thread : ThreadId) :
    Synced owner base store (Function.update phases thread {}) :=
  synced.learn (.inr rfl) (fun _ => .inl rfl) nofun nofun

theorem next_holds {before reached : SyncConfig} {label : SyncLabel owner}
    (holds : Holds owner base before)
    (stepped : (syncMachine owner base).next before label = some reached) :
    Holds owner base reached := by
  have met : Machine.condition (fun _ _ _ _ => True) before label := by
    cases label with
    | step thread choice => exact fun _ _ _ => trivial
    | _ => trivial
  exact Machine.sound_next (fun sync => program_follows sync)
    (fun _ _ thread synced => synced.reset thread)
    (fun _ _ _ _ _ _ _ synced permitted _ performed =>
      perform_synced synced permitted performed)
    before label reached holds met stepped

theorem next_lawful (consistent : base.ReelsConsistent)
    {before reached : SyncConfig} {label : SyncLabel owner}
    (holds : Holds owner base before)
    (stepped : (syncMachine owner base).next before label = some reached) :
    Holds owner base reached ∧ Lawful owner before label reached := by
  have held := next_holds holds stepped
  refine ⟨held, ?_⟩
  cases label with
  | spawn thread sync =>
      obtain rfl := Machine.next_spawn_eq_some stepped
      exact holds.holds.lawful consistent held.holds (fun _ member => member)
        fun _ member => .inl member
  | crash thread =>
      cases stepped
      exact holds.holds.lawful consistent held.holds (fun _ member => member)
        fun _ member => .inl member
  | step thread choice =>
      obtain ⟨request, resume, shared, reply, running, performed, rfl⟩ :=
        Machine.next_step_eq_some stepped
      obtain ⟨permitted, _⟩ := holds.follows thread _ running
      have permitted : permitsSync owner base (before.phases thread) request :=
        permitted
      have effect := perform_effect performed
      refine holds.holds.lawful consistent held.holds ?_ ?_
      · intro view member
        rcases effect with ⟨_, _, rfl, _⟩ | ⟨draw, replied, happened, _⟩
        · exact member
        · exact effect_keeps happened member
      · intro view member
        rcases effect with ⟨_, _, rfl, _⟩ | ⟨draw, replied, happened, _⟩
        · exact .inl member
        · refine (effect_committed holds.holds permitted happened
            member).imp_right ?_
          intro ⟨now, record, commits, owned, _⟩
          subst commits
          exact ⟨thread, choice, now, record, resume, rfl, running, owned.symm⟩

theorem next_marks {before reached : SyncConfig} {thread : ThreadId}
    {choice : Choice} (holds : Holds owner base before)
    (stepped : (syncMachine owner base).next before (.step thread choice) =
      some reached)
    {view : InstagramReelView} (member : view ∈ reached.shared.committed.views) :
    view ∈ before.shared.committed.views ∨
      (reached.phases thread).committed = true := by
  obtain ⟨request, resume, shared, reply, running, performed, rfl⟩ :=
    Machine.next_step_eq_some stepped
  obtain ⟨permitted, _⟩ := holds.follows thread _ running
  have permitted : permitsSync owner base (before.phases thread) request :=
    permitted
  rcases perform_effect performed with
    ⟨_, _, rfl, _⟩ | ⟨draw, replied, happened, shape⟩
  · exact .inl member
  · refine (effect_committed holds.holds permitted happened member).imp_right ?_
    intro ⟨now, record, commits, _, value, succeeded⟩
    subst commits
    simp only [Function.update_self]
    rcases shape with rfl | ⟨error, ordinary, rfl⟩
    · rw [succeeded]
      rfl
    · change (advanceSync _ _ _).committed = true
      simp only [advanceSync, if_neg ordinary]

theorem next_marked {before reached : SyncConfig} {label : SyncLabel owner}
    {thread : ThreadId} (holds : Holds owner base before)
    (undisturbed : Undisturbed thread label)
    (stepped : (syncMachine owner base).next before label = some reached)
    (marked : (before.phases thread).committed = true) :
    (reached.phases thread).committed = true := by
  cases label with
  | spawn spawned sync =>
      obtain rfl := Machine.next_spawn_eq_some stepped
      simp only [Function.update_of_ne undisturbed.symm]
      exact marked
  | crash crashed =>
      cases stepped
      simp only [Function.update_of_ne undisturbed.symm]
      exact marked
  | step stepping choice =>
      obtain ⟨request, resume, shared, reply, running, _, rfl⟩ :=
        Machine.next_step_eq_some stepped
      by_cases same : thread = stepping
      · subst same
        obtain ⟨permitted, _⟩ := holds.follows thread _ running
        simp only [Function.update_self]
        exact advance_committed permitted reply marked
      · simp only [Function.update_of_ne same]
        exact marked

theorem run_marked {before reached : SyncConfig}
    {labels : List (SyncLabel owner)} {thread : ThreadId}
    (holds : Holds owner base before)
    (undisturbed : ∀ label ∈ labels, Undisturbed thread label)
    (ran : run (syncMachine owner base).next before labels = some reached)
    (marked : (before.phases thread).committed = true) :
    Holds owner base reached ∧ (reached.phases thread).committed = true := by
  induction labels generalizing before with
  | nil =>
      cases ran
      exact ⟨holds, marked⟩
  | cons label rest ih =>
      obtain ⟨middle, stepped, ran⟩ := run_cons_eq_some ran
      exact ih (next_holds holds stepped)
        (fun other member => undisturbed other (List.mem_cons_of_mem _ member))
        ran (next_marked holds (undisturbed label List.mem_cons_self) stepped
          marked)

/-- No step of a request that is rejected later has committed a view. -/
theorem rejected_commits_nothing {before middle reached : SyncConfig}
    {labels : List (SyncLabel owner)} {thread : ThreadId} {choice : Choice}
    (holds : Holds owner base before)
    (stepped : (syncMachine owner base).next before (.step thread choice) =
      some middle)
    (undisturbed : ∀ label ∈ labels, Undisturbed thread label)
    (ran : run (syncMachine owner base).next middle labels = some reached)
    (rejects : Rejects thread reached)
    {view : InstagramReelView} (member : view ∈ middle.shared.committed.views) :
    view ∈ before.shared.committed.views := by
  rcases next_marks holds stepped member with present | marked
  · exact present
  · obtain ⟨held, still⟩ :=
      run_marked (next_holds holds stepped) undisturbed ran marked
    obtain ⟨request, error, resume, running⟩ := rejects
    obtain ⟨permitted, _⟩ := held.follows thread _ running
    have uncommitted : (reached.phases thread).committed = false := permitted
    rw [uncommitted] at still
    cases still

end

/-- For a stored view and response that are in order at first: whatever requests
are made, in whatever order their calls are, and wherever they fail. -/
theorem views_synchronized (owner : UUID → UUID) (plane : ControlPlane)
    (consistent : plane.work.database.ReelsConsistent)
    (unique : plane.work.database.views.Unique InstagramReelView.conflictsWith)
    (backed : ∀ record ∈ plane.records,
      Backed owner plane.work.database record)
    (labels : List (SyncLabel owner)) :
    Along (syncMachine owner plane.work.database).next (Lawful owner)
        ((syncMachine owner plane.work.database).initial
          ⟨plane, fun _ => none, []⟩) labels ∧
      ∀ earlier thread choice later before middle reached,
        run (syncMachine owner plane.work.database).next
            ((syncMachine owner plane.work.database).initial
              ⟨plane, fun _ => none, []⟩) earlier = some before →
        (syncMachine owner plane.work.database).next before
          (.step thread choice) = some middle →
        (∀ label ∈ later, Undisturbed thread label) →
        run (syncMachine owner plane.work.database).next middle later =
          some reached →
        Rejects thread reached →
        ∀ view ∈ middle.shared.committed.views,
          view ∈ before.shared.committed.views := by
  have whole : ViewStore.committed ⟨plane, fun _ => none, []⟩ =
      plane.work.database := by
    have all : plane.work.database.views.filter (fun _ => true) =
        plane.work.database.views := by
      simp only [Table.filter, List.filter_true]
    simp only [ViewStore.committed, ViewStore.database, decide_true, all]
  have synced : Synced owner plane.work.database ⟨plane, fun _ => none, []⟩
      fun _ => {} := by
    refine ⟨rfl, unique, ?_, ?_, ?_, ?_, ?_⟩
    · intro thread accountId account
      cases account
    · intro view member thread writer
      cases writer
    · rw [whole]
      exact backed
    · intro thread record known
      cases known
    · intro answer member
      cases member
  have initially : Holds owner plane.work.database
      ((syncMachine owner plane.work.database).initial
        ⟨plane, fun _ => none, []⟩) := Machine.sound_initial synced
  constructor
  · exact along_of_invariant
      (fun _ _ _ holds _ stepped => next_lawful consistent holds stepped)
      initially (meets_true _ _)
  · intro earlier thread choice later before middle reached ran stepped
      undisturbed continues rejects view member
    have holds : Holds owner plane.work.database before :=
      run_invariant (fun _ _ _ held _ step => next_holds held step) initially
        (meets_true _ _) ran
    exact rejected_commits_nothing holds stepped undisturbed continues rejects
      member

def samplePlane : ControlPlane where
  work := {
    database := { Database.empty with
      runs := ⟨[⟨5, 1, .manual, .completed, 1, 1, 0, 0, none, none, none, none,
        0⟩], by decide⟩
      items := ⟨[⟨6, 5, 7, 1, .sourceCommitted, none, none, none⟩], by decide⟩
      reels := ⟨[⟨7, "a", "a", .ready, some ⟨"a"⟩, some ⟨[]⟩, some 1, some 8,
        none, none, none, none, none, false⟩], by decide⟩
      videos := ⟨[⟨8, "a", ⟨⟨[]⟩⟩, "video/mp4", 1, none, none, none, none, none,
        none, none, none, none, none, 0⟩], by decide⟩ }
    logins := .empty
    settings := .empty
    reserves := .empty }
  sessions := ⟨[⟨2, 1, 100, none⟩, ⟨3, 1, 100, none⟩], by decide⟩
  records := .empty
  challenges := .empty
  rateLimits := .empty

def sampleSync (sessionId deviceUuid : UUID) : ViewSyncRequest fun _ => 1 where
  session := ⟨sessionId, 1, 100, none⟩
  key := some "view-sync"
  payload := ⟨deviceUuid, [8], by decide, by decide, by decide⟩
  requested := [8]
  recordId := sessionId
  permuted := .refl _
  owned := rfl

def sampleLabels : List (SyncLabel fun _ => 1) :=
  let act (thread : ThreadId) : SyncLabel fun _ => 1 :=
    .step thread (.returns ⟨thread + 20, thread + 30⟩)
  [.spawn 0 (sampleSync 2 40), .spawn 1 (sampleSync 3 41), act 0, act 1, act 0,
    act 1, act 0, act 1, act 0, act 1, act 0, act 0, act 1, act 1, act 0, act 1]

/-- Both devices are answered, and the view of the first one stays. -/
theorem views_synchronized_devices :
    (Along (syncMachine (fun _ => 1) samplePlane.work.database).next
        (Lawful fun _ => 1)
        ((syncMachine (fun _ => 1) samplePlane.work.database).initial
          ⟨samplePlane, fun _ => none, []⟩) sampleLabels) ∧
      ((run (syncMachine (fun _ => 1) samplePlane.work.database).next
        ((syncMachine (fun _ => 1) samplePlane.work.database).initial
          ⟨samplePlane, fun _ => none, []⟩) sampleLabels).map fun config =>
            (config.shared.committed.views.rows.map (·.deviceUuid),
              config.shared.answers.map (·.2))) =
        some ([some 40], [.response 200 (.confirmedVideoIds [8]) false,
          .response 200 (.confirmedVideoIds [8]) false]) :=
  ⟨(views_synchronized (fun _ => 1) samplePlane ⟨by decide, by decide⟩
    (by unfold Table.Unique; decide)
    (fun record member => absurd member (Table.not_mem_empty record))
    sampleLabels).1, by decide +kernel⟩

end OfflineReels.Management.ViewSync
