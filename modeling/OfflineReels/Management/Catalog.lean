import Mathlib.Data.List.Sort
import OfflineReels.Foundation.Join
import OfflineReels.Management.CollectionRuns

namespace OfflineReels.Management

open OfflineReels.Foundation
open OfflineReels.Instagram

/-! What an account may see and mark as viewed. -/

structure CatalogItem where
  id : UUID
  title : String
  contentType : String
  byteSize : Nat
  createdAt : Time
  deriving DecidableEq, Repr

def catalogItem (video : Video) : CatalogItem where
  id := video.id
  title := video.title
  contentType := video.contentType
  byteSize := video.byteSize
  createdAt := video.createdAt

/-- `ORDER BY videos.created_at DESC, videos.id DESC` -/
def newestFirst (first second : Video) : Prop :=
  second.createdAt < first.createdAt ∨
    (second.createdAt = first.createdAt ∧ second.id ≤ first.id)

instance : DecidableRel newestFirst :=
  fun _ _ => inferInstanceAs (Decidable (_ ∨ _))

/-- The videos selected before they are ordered, one for every joined row. -/
def catalogRows (database : Database) (accountId : UUID) : List Video :=
  let reels := innerJoin database.videos.rows database.reels.rows
    fun video reel => reel.videoId = some video.id
  let items := innerJoin reels database.items.rows
    fun (_, reel) item => item.reelId = reel.id
  let runs := innerJoin items database.runs.rows
    fun (_, item) run => run.id = item.runId
  let views := outerJoin runs database.views.rows
    fun (((_, reel), _), _) view =>
      view.reelId = reel.id && view.accountId = accountId
  (views.filter fun ((((_, reel), _), run), view) =>
    run.accountId = accountId && reel.pipelineStatus = .ready &&
      view.isNone).map fun ((((video, _), _), _), _) => video

def effectiveLimit (limit : Int) : Nat :=
  (min (max 1 limit) 200).toNat

def accountCatalog (database : Database) (accountId : UUID) (limit : Int) :
    List CatalogItem :=
  ((((catalogRows database accountId).insertionSort newestFirst).take
    (effectiveLimit limit)).eraseDups).map catalogItem

def MAX_VIEW_SYNC_BATCH : Nat := 50

structure ViewedReelSyncRequest where
  deviceUuid : UUID
  events : List UUID
  nonempty : 1 ≤ events.length
  bounded : events.length ≤ MAX_VIEW_SYNC_BATCH
  unique : events.Nodup
  deriving DecidableEq

/-- Only ready Reels that this account previously collected; ownership comes
from the collection-run item. -/
def accountOwnedReelsByVideo (database : Database) (accountId : UUID)
    (videoIds : List UUID) : List (UUID × InstagramReel) :=
  let items := innerJoin database.reels.rows database.items.rows
    fun reel item => item.reelId = reel.id
  let runs := innerJoin items database.runs.rows
    fun (_, item) run => run.id = item.runId
  let rows := runs.filter fun ((reel, _), run) =>
    run.accountId = accountId && reel.pipelineStatus = .ready &&
      videoIds.any fun videoId => reel.videoId = some videoId
  rows.filterMap fun ((reel, _), _) =>
    reel.videoId.map fun videoId => (videoId, reel)

/-- The entry of a video; a later row replaces an earlier one. -/
def ownedReel (owned : List (UUID × InstagramReel)) (videoId : UUID) :
    Option InstagramReel :=
  owned.reverse.lookup videoId

def invalidViewEvent : ManagementError :=
  ⟨400, "invalid_view_event", "Некорректное событие просмотра."⟩

/-- The identifier and the server time drawn for a new view. -/
structure NewView where
  id : UUID
  viewedAt : Time
  deriving DecidableEq, Repr

/-- The first view of a Reel is kept; a colliding insert is swallowed. -/
def recordView (database : Database) (drawn : NewView) (accountId : UUID)
    (deviceUuid : UUID) (reel : InstagramReel) : Database :=
  if database.views.rows.any fun view =>
      view.accountId = accountId && view.reelId = reel.id then database
  else
    match database.insertView {
      id := drawn.id
      accountId := accountId
      reelId := reel.id
      deviceUuid := some deviceUuid
      viewedAt := drawn.viewedAt } with
    | .ok database => database
    | .error _ => database

def syncViewedReels (database : Database) (drawn : UUID → NewView)
    (accountId : UUID) (payload : ViewedReelSyncRequest) :
    Except ActionFault (Database × Nat × List UUID) :=
  let requested := payload.events
  let owned := accountOwnedReelsByVideo database accountId requested
  let known := owned.map (·.1)
  if requested.all (· ∈ known) && known.all (· ∈ requested) then
    .ok (requested.foldl (fun database videoId =>
        match ownedReel owned videoId with
        | none => database
        | some reel =>
            recordView database (drawn videoId) accountId payload.deviceUuid
              reel) database,
      200, requested.insertionSort (· ≤ ·))
  else .error (.management invalidViewEvent)

def HoldsItem (database : Database) (accountId : UUID) (reel : InstagramReel)
    (outcomes : List RunItemOutcome) : Prop :=
  ∃ item ∈ database.items, item.reelId = reel.id ∧ item.outcome ∈ outcomes ∧
    ∃ run ∈ database.runs, run.id = item.runId ∧ run.accountId = accountId

def Viewed (database : Database) (accountId : UUID) (reel : InstagramReel) :
    Prop :=
  ∃ view ∈ database.views, view.accountId = accountId ∧ view.reelId = reel.id

/-- The joins ask for a run item, whatever its outcome. -/
def everyOutcome : List RunItemOutcome :=
  [.sourceCommitted, .alreadyAvailable, .failed]

theorem mem_everyOutcome (outcome : RunItemOutcome) :
    outcome ∈ everyOutcome := by
  cases outcome <;> decide

theorem mem_catalogRows {database : Database} {accountId : UUID}
    {video : Video} :
    video ∈ catalogRows database accountId ↔
      video ∈ database.videos ∧ ∃ reel ∈ database.reels,
        reel.videoId = some video.id ∧ reel.pipelineStatus = .ready ∧
          HoldsItem database accountId reel everyOutcome ∧
          ¬ Viewed database accountId reel := by
  simp only [catalogRows, List.mem_map, List.mem_filter]
  constructor
  · rintro ⟨⟨⟨⟨⟨found, reel⟩, item⟩, run⟩, view⟩, ⟨joined, selected⟩, rfl⟩
    simp only [Bool.and_eq_true, decide_eq_true_eq,
      Option.isNone_iff_eq_none] at selected
    obtain ⟨⟨owned, ready⟩, rfl⟩ := selected
    rw [mem_outerJoin_none] at joined
    simp only [mem_innerJoin, decide_eq_true_eq, Bool.and_eq_false_iff,
      decide_eq_false_iff_not] at joined
    obtain ⟨⟨⟨⟨videoMember, reelMember, same⟩, itemMember, ofReel⟩,
      runMember, ofItem⟩, unviewed⟩ := joined
    refine ⟨videoMember, reel, reelMember, same, ready, ?_, ?_⟩
    · exact ⟨item, itemMember, ofReel, mem_everyOutcome item.outcome, run,
        runMember, ofItem, owned⟩
    · rintro ⟨view, viewMember, ofAccount, viewed⟩
      rcases unviewed view viewMember with differs | differs
      · exact differs viewed
      · exact differs ofAccount
  · rintro ⟨videoMember, reel, reelMember, same, ready,
      ⟨item, itemMember, ofReel, _, run, runMember, ofItem, owned⟩, unviewed⟩
    refine ⟨((((video, reel), item), run), none), ⟨?_, ?_⟩, rfl⟩
    · rw [mem_outerJoin_none]
      simp only [mem_innerJoin, decide_eq_true_eq, Bool.and_eq_false_iff,
        decide_eq_false_iff_not]
      refine ⟨⟨⟨⟨videoMember, reelMember, same⟩, itemMember, ofReel⟩,
        runMember, ofItem⟩, ?_⟩
      intro view viewMember
      by_cases viewed : view.reelId = reel.id
      · right
        intro ofAccount
        exact unviewed ⟨view, viewMember, ofAccount, viewed⟩
      · exact .inl viewed
    · simp [owned, ready]

theorem unviewed_iff {database : Database} {accountId : UUID}
    {reel : InstagramReel} :
    (database.views.rows.all fun view => !(view.reelId = reel.id &&
      view.accountId = accountId)) = true ↔ ¬ Viewed database accountId reel := by
  simp only [List.all_eq_true, Bool.not_eq_true', Bool.and_eq_false_iff,
    decide_eq_false_iff_not]
  constructor
  · intro none viewed
    obtain ⟨view, member, owner, same⟩ := viewed
    rcases none view member with apart | apart
    · exact apart same
    · exact apart owner
  · intro none view member
    by_cases same : view.reelId = reel.id
    · exact .inr fun owner => none ⟨view, member, owner, same⟩
    · exact .inl same

def joinedRuns (database : Database) : List
    (((Video × InstagramReel) × InstagramCollectionRunItem) ×
      InstagramCollectionRun) :=
  innerJoin (innerJoin (innerJoin database.videos.rows
      database.reels.rows fun video reel => reel.videoId = some video.id)
    database.items.rows fun row item => item.reelId = row.2.id)
    database.runs.rows fun row run => run.id = row.2.runId

/-- The outer join selects what the account has not viewed. -/
theorem catalogRows_eq (database : Database) (accountId : UUID) :
    catalogRows database accountId =
      ((joinedRuns database).filter fun row =>
        (row.2.accountId = accountId && row.1.1.2.pipelineStatus = .ready) &&
          database.views.rows.all fun view =>
            !(view.reelId = row.1.1.2.id && view.accountId = accountId)).map
        fun row => row.1.1.1 := by
  have joined := filter_outerJoin_none (joinedRuns database)
    database.views.rows
    (fun row view => view.reelId = row.1.1.2.id && view.accountId = accountId)
    (fun row => row.2.accountId = accountId &&
      row.1.1.2.pipelineStatus = .ready)
  have rows := congrArg (List.map fun row => row.1.1.1.1) joined
  rw [List.map_map] at rows
  exact rows

theorem catalogRows_of_viewed {database after : Database} {accountId : UUID}
    (videos : after.videos = database.videos)
    (reels : after.reels = database.reels)
    (items : after.items = database.items) (runs : after.runs = database.runs)
    (viewed : ∀ reel, Viewed after accountId reel ↔
      Viewed database accountId reel) :
    catalogRows after accountId = catalogRows database accountId := by
  have joined : joinedRuns after = joinedRuns database := by
    unfold joinedRuns
    rw [videos, reels, items, runs]
  rw [catalogRows_eq after, catalogRows_eq database, joined]
  refine congrArg _ (List.filter_congr fun row _ => ?_)
  have equal : (after.views.rows.all fun view =>
      !(view.reelId = row.1.1.2.id && view.accountId = accountId)) =
      database.views.rows.all fun view =>
        !(view.reelId = row.1.1.2.id && view.accountId = accountId) := by
    rw [Bool.eq_iff_iff, unviewed_iff, unviewed_iff, viewed]
  rw [equal]

theorem mem_accountCatalog {database : Database} {accountId : UUID}
    {limit : Int} {item : CatalogItem}
    (covers : (catalogRows database accountId).length ≤ effectiveLimit limit) :
    item ∈ accountCatalog database accountId limit ↔
      ∃ video ∈ catalogRows database accountId, catalogItem video = item := by
  have whole : ((catalogRows database accountId).insertionSort newestFirst).take
      (effectiveLimit limit) =
      (catalogRows database accountId).insertionSort newestFirst := by
    apply List.take_of_length_le
    rw [List.length_insertionSort]
    exact covers
  simp only [accountCatalog, whole, List.mem_map, List.mem_eraseDups,
    List.mem_insertionSort]

theorem catalogRows_of_listed {database : Database} {accountId : UUID}
    {limit : Int} {item : CatalogItem}
    (listed : item ∈ accountCatalog database accountId limit) :
    ∃ video ∈ catalogRows database accountId, catalogItem video = item := by
  simp only [accountCatalog, List.mem_map, List.mem_eraseDups] at listed
  obtain ⟨video, member, same⟩ := listed
  exact ⟨video, (List.mem_insertionSort _).mp (List.mem_of_mem_take member),
    same⟩

theorem mem_accountOwnedReelsByVideo {database : Database} {accountId : UUID}
    {videoIds : List UUID} {videoId : UUID} :
    videoId ∈ (accountOwnedReelsByVideo database accountId videoIds).map (·.1) ↔
      videoId ∈ videoIds ∧ ∃ reel ∈ database.reels,
        reel.videoId = some videoId ∧ reel.pipelineStatus = .ready ∧
          HoldsItem database accountId reel everyOutcome := by
  simp only [accountOwnedReelsByVideo, List.mem_map, List.mem_filterMap,
    List.mem_filter]
  constructor
  · rintro ⟨entry, ⟨⟨⟨reel, item⟩, run⟩, ⟨joined, selected⟩, shape⟩, rfl⟩
    simp only [mem_innerJoin, decide_eq_true_eq] at joined
    obtain ⟨⟨reelMember, itemMember, ofReel⟩, runMember, ofItem⟩ := joined
    simp only [Bool.and_eq_true, decide_eq_true_eq,
      List.any_eq_true] at selected
    obtain ⟨⟨owned, ready⟩, requested, isRequested, same⟩ := selected
    simp only [same, Option.map_some, Option.some.injEq] at shape
    subst shape
    exact ⟨isRequested, reel, reelMember, same, ready, item, itemMember, ofReel,
      mem_everyOutcome item.outcome, run, runMember, ofItem, owned⟩
  · rintro ⟨isRequested, reel, reelMember, same, ready, item, itemMember,
      ofReel, _, run, runMember, ofItem, owned⟩
    refine ⟨(videoId, reel), ⟨((reel, item), run), ⟨?_, ?_⟩, ?_⟩, rfl⟩
    · simp only [mem_innerJoin, decide_eq_true_eq]
      exact ⟨⟨reelMember, itemMember, ofReel⟩, runMember, ofItem⟩
    · simp only [owned, ready, decide_true, Bool.and_self, Bool.true_and,
        List.any_eq_true, decide_eq_true_eq]
      exact ⟨videoId, isRequested, same⟩
    · simp [same]

/-- The batches that are accepted. -/
def Accepts (database : Database) (drawn : UUID → NewView) (accountId : UUID)
    (payload : ViewedReelSyncRequest) : Prop :=
  ∃ after confirmed,
    syncViewedReels database drawn accountId payload =
      .ok (after, 200, confirmed)

theorem accepts_iff {database : Database} {drawn : UUID → NewView}
    {accountId : UUID} {payload : ViewedReelSyncRequest} :
    Accepts database drawn accountId payload ↔
      ∀ videoId ∈ payload.events, ∃ reel ∈ database.reels,
        reel.videoId = some videoId ∧ reel.pipelineStatus = .ready ∧
          HoldsItem database accountId reel everyOutcome := by
  have known := @mem_accountOwnedReelsByVideo database accountId payload.events
  unfold Accepts syncViewedReels
  constructor
  · rintro ⟨after, confirmed, accepted⟩ videoId requested
    dsimp only at accepted
    split at accepted
    · rename_i complete
      simp only [Bool.and_eq_true, List.all_eq_true,
        decide_eq_true_eq] at complete
      exact (known.mp (complete.1 videoId requested)).2
    · cases accepted
  · intro owned
    refine ⟨_, _, if_pos ?_⟩
    simp only [Bool.and_eq_true, List.all_eq_true, decide_eq_true_eq]
    constructor
    · intro videoId requested
      exact known.mpr ⟨requested, owned videoId requested⟩
    · intro videoId present
      exact (known.mp present).1

theorem recordView_keeps (database : Database) (drawn : NewView)
    (accountId deviceUuid : UUID) (reel : InstagramReel) :
    ∃ views, recordView database drawn accountId deviceUuid reel =
      { database with views } := by
  unfold recordView
  split
  · exact ⟨database.views, rfl⟩
  · split
    · rename_i inserted
      unfold Database.insertView at inserted
      split at inserted
      · cases inserted
      · obtain ⟨_, rfl⟩ := constrained_eq_ok.mp inserted
        exact ⟨_, rfl⟩
    · exact ⟨database.views, rfl⟩

theorem syncViewedReels_eq_ok {database after : Database}
    {drawn : UUID → NewView} {accountId : UUID}
    {payload : ViewedReelSyncRequest} {status : Nat} {confirmed : List UUID}
    (accepted : syncViewedReels database drawn accountId payload =
      .ok (after, status, confirmed)) :
    status = 200 ∧ confirmed = payload.events.insertionSort (· ≤ ·) ∧
      ∃ views, after = { database with views } := by
  unfold syncViewedReels at accepted
  dsimp only at accepted
  split at accepted
  · cases accepted
    refine ⟨rfl, rfl, ?_⟩
    generalize accountOwnedReelsByVideo database accountId payload.events =
      owned
    generalize payload.events = events
    have kept : ∀ start : Database, ∃ views,
        events.foldl (fun database videoId =>
          match ownedReel owned videoId with
          | none => database
          | some reel => recordView database (drawn videoId) accountId
              payload.deviceUuid reel) start = { start with views } := by
      induction events with
      | nil => exact fun start => ⟨start.views, rfl⟩
      | cons videoId rest ih =>
          intro start
          rw [List.foldl_cons]
          split
          · exact ih start
          · rename_i reel _
            obtain ⟨views, first⟩ := recordView_keeps start (drawn videoId)
              accountId payload.deviceUuid reel
            rw [first]
            obtain ⟨final, last⟩ := ih { start with views }
            exact ⟨final, last⟩
    exact kept database
  · cases accepted

end OfflineReels.Management
