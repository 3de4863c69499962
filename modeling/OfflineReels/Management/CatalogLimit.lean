import Mathlib.Data.List.Dedup
import OfflineReels.Foundation.Distinct
import OfflineReels.Management.Ownership

namespace OfflineReels.Management

open OfflineReels.Foundation
open OfflineReels.Instagram

/-! What the limit of the account catalog leaves of its videos. -/

/-- A ready Reel with the video is reached by a run item of the account, and the
account has not viewed it. -/
def Eligible (database : Database) (accountId : UUID) (video : Video) : Prop :=
  video ∈ database.videos ∧ ∃ reel ∈ database.reels,
    reel.videoId = some video.id ∧ reel.pipelineStatus = .ready ∧
      HoldsItem database accountId reel everyOutcome ∧
      ¬ Viewed database accountId reel

/-- The distinct eligible videos, the newest first. -/
structure Lists (database : Database) (accountId : UUID)
    (videos : List Video) : Prop where
  ordered : videos.Pairwise newestFirst
  distinct : videos.Nodup
  members : ∀ video, video ∈ videos ↔ Eligible database accountId video

def eligibleVideos (database : Database) (accountId : UUID) : List Video :=
  (catalogRows database accountId).dedup.insertionSort newestFirst

def LeadsTo (database : Database) (accountId : UUID) (video : Video)
    (item : InstagramCollectionRunItem) : Prop :=
  (∃ run ∈ database.runs, run.id = item.runId ∧ run.accountId = accountId) ∧
    ∃ reel ∈ database.reels, reel.id = item.reelId ∧
      reel.videoId = some video.id ∧ reel.pipelineStatus = .ready ∧
        ¬ Viewed database accountId reel

instance (database : Database) (accountId : UUID) (reel : InstagramReel) :
    Decidable (Viewed database accountId reel) :=
  inferInstanceAs (Decidable (∃ view ∈ database.views, _))

instance (database : Database) (accountId : UUID) (video : Video) :
    DecidablePred (LeadsTo database accountId video) :=
  fun _ => inferInstanceAs (Decidable (_ ∧ _))

def itemsOf (database : Database) (accountId : UUID) (video : Video) : Nat :=
  (database.items.rows.filter (LeadsTo database accountId video)).length

def rowsOf (database : Database) (accountId : UUID) (video : Video) : Nat :=
  (catalogRows database accountId).count video

theorem nodup_joinedRuns (database : Database) :
    (joinedRuns database).Nodup :=
  nodup_innerJoin _ (nodup_innerJoin _ (nodup_innerJoin _
    database.videos.nodup database.reels.nodup) database.items.nodup)
    database.runs.nodup

theorem mem_joinedRuns {database : Database} {video : Video}
    {reel : InstagramReel} {item : InstagramCollectionRunItem}
    {run : InstagramCollectionRun} :
    (((video, reel), item), run) ∈ joinedRuns database ↔
      (((video ∈ database.videos ∧ reel ∈ database.reels ∧
        reel.videoId = some video.id) ∧ item ∈ database.items ∧
        item.reelId = reel.id) ∧ run ∈ database.runs ∧
        run.id = item.runId) := by
  simp only [joinedRuns, mem_innerJoin, decide_eq_true_eq, Table.mem_def]

theorem rowsOf_eq {database : Database} {accountId : UUID} {video : Video}
    (member : video ∈ database.videos) :
    rowsOf database accountId video = itemsOf database accountId video := by
  unfold rowsOf itemsOf
  rw [catalogRows_eq, List.count, List.countP_map, List.countP_filter,
    List.countP_eq_length_filter, ← List.length_map fun row => row.1.2]
  apply List.Perm.length_eq
  have selects : ∀ row ∈ joinedRuns database,
      ((((fun other => other == video) ∘ fun row => row.1.1.1) row &&
        ((row.2.accountId = accountId && row.1.1.2.pipelineStatus = .ready) &&
          database.views.rows.all fun view =>
            !(view.reelId = row.1.1.2.id && view.accountId = accountId))) =
        true ↔ row.1.1.1 = video ∧ row.2.accountId = accountId ∧
          row.1.1.2.pipelineStatus = .ready ∧
          ¬ Viewed database accountId row.1.1.2) := by
    intro row _
    rw [Bool.and_eq_true, Bool.and_eq_true, unviewed_iff, Bool.and_eq_true,
      decide_eq_true_eq, decide_eq_true_eq, Function.comp_apply, beq_iff_eq,
      and_assoc]
  rw [List.perm_ext_iff_of_nodup]
  · intro item
    simp only [List.mem_map, List.mem_filter, decide_eq_true_eq]
    constructor
    · intro found
      obtain ⟨row, ⟨joined, selected⟩, rfl⟩ := found
      obtain ⟨same, owned, ready, unviewed⟩ := (selects row joined).mp selected
      obtain ⟨⟨⟨other, reel⟩, item⟩, run⟩ := row
      obtain ⟨⟨⟨_, reelMember, linked⟩, itemMember, ofReel⟩, runMember,
        ofRun⟩ := mem_joinedRuns.mp joined
      dsimp only at same owned ready unviewed
      subst same
      exact ⟨itemMember, ⟨run, runMember, ofRun, owned⟩, reel, reelMember,
        ofReel.symm, linked, ready, unviewed⟩
    · intro found
      obtain ⟨itemMember, ⟨run, runMember, ofRun, owned⟩, reel, reelMember,
        ofReel, linked, ready, unviewed⟩ := found
      have joined : (((video, reel), item), run) ∈ joinedRuns database :=
        mem_joinedRuns.mpr ⟨⟨⟨member, reelMember, linked⟩, itemMember,
          ofReel.symm⟩, runMember, ofRun⟩
      exact ⟨_, ⟨joined, (selects _ joined).mpr
        ⟨rfl, owned, ready, unviewed⟩⟩, rfl⟩
  · -- An item belongs to one run and to one Reel.
    apply List.Nodup.map_on _ ((nodup_joinedRuns database).filter _)
    intro first firstMember second secondMember same
    obtain ⟨joined, selected⟩ := List.mem_filter.mp firstMember
    obtain ⟨other, chosen⟩ := List.mem_filter.mp secondMember
    have firstVideo := ((selects first joined).mp selected).1
    have secondVideo := ((selects second other).mp chosen).1
    obtain ⟨⟨⟨left, reel⟩, item⟩, run⟩ := first
    obtain ⟨⟨⟨right, partner⟩, again⟩, twin⟩ := second
    obtain ⟨⟨⟨_, reelMember, _⟩, _, ofReel⟩, runMember, ofRun⟩ :=
      mem_joinedRuns.mp joined
    obtain ⟨⟨⟨_, partnerMember, _⟩, _, ofPartner⟩, twinMember, ofTwin⟩ :=
      mem_joinedRuns.mp other
    dsimp only at same firstVideo secondVideo
    subst same
    subst firstVideo
    subst secondVideo
    have oneReel := Table.eq_of_key_eq reelMember partnerMember
      (ofReel.symm.trans ofPartner)
    have oneRun := Table.eq_of_key_eq runMember twinMember
      (ofRun.trans ofTwin.symm)
    rw [oneReel, oneRun]
  · exact database.items.nodup.filter _

theorem newestFirst_refl (video : Video) : newestFirst video video :=
  .inr ⟨rfl, Nat.le_refl _⟩

theorem newestFirst_total (first second : Video) :
    newestFirst first second ∨ newestFirst second first := by
  unfold newestFirst
  grind

theorem newestFirst_trans {first second third : Video}
    (left : newestFirst first second) (right : newestFirst second third) :
    newestFirst first third := by
  unfold newestFirst at *
  grind

instance : Std.Total newestFirst := ⟨newestFirst_total⟩

instance : IsTrans Video newestFirst :=
  ⟨fun _ _ _ left right => newestFirst_trans left right⟩

theorem newestFirst_same_id {first second : Video}
    (left : newestFirst first second) (right : newestFirst second first) :
    first.id = second.id := by
  unfold newestFirst at *
  grind

theorem newestFirst_antisymm {database : Database} {first second : Video}
    (firstMember : first ∈ database.videos)
    (secondMember : second ∈ database.videos)
    (left : newestFirst first second) (right : newestFirst second first) :
    first = second :=
  Table.eq_of_key_eq firstMember secondMember
    (newestFirst_same_id left right)

theorem pairwise_newestFirst (videos : List Video) :
    (videos.insertionSort newestFirst).Pairwise newestFirst :=
  List.pairwise_insertionSort newestFirst videos

section

variable {database : Database} {accountId : UUID} {videos : List Video}

theorem eligibleVideos_lists (database : Database) (accountId : UUID) :
    Lists database accountId (eligibleVideos database accountId) where
  ordered := pairwise_newestFirst _
  distinct :=
    (List.perm_insertionSort newestFirst _).nodup_iff.mpr (List.nodup_dedup _)
  members := fun video => by
    rw [eligibleVideos, List.mem_insertionSort, List.mem_dedup]
    exact mem_catalogRows

theorem catalogRows_blocks (lists : Lists database accountId videos) :
    (catalogRows database accountId).insertionSort newestFirst =
      blocks (rowsOf database accountId) videos := by
  have member {video : Video}
      (listed : video ∈
        (catalogRows database accountId).insertionSort newestFirst) :
      video ∈ database.videos :=
    (mem_catalogRows.mp ((List.mem_insertionSort _).mp listed)).1
  have counted : rowsOf database accountId =
      (((catalogRows database accountId).insertionSort newestFirst).count ·) := by
    funext video
    exact ((List.perm_insertionSort newestFirst _).count_eq video).symm
  rw [counted]
  refine eq_blocks newestFirst_refl ?_ (pairwise_newestFirst _) lists.ordered
    lists.distinct fun video => ?_
  · intro left leftMember right rightMember
    exact newestFirst_antisymm (member leftMember) (member rightMember)
  · rw [lists.members, List.mem_insertionSort]
    exact mem_catalogRows.symm

theorem rowsOf_pos (lists : Lists database accountId videos) :
    ∀ video ∈ videos, 0 < rowsOf database accountId video := by
  intro video member
  exact List.count_pos_iff.mpr
    (mem_catalogRows.mpr ((lists.members video).mp member))

/-- The catalog is a beginning of the eligible videos. -/
theorem accountCatalog_eq (lists : Lists database accountId videos)
    (limit : Int) :
    accountCatalog database accountId limit =
      (videos.take (reached (rowsOf database accountId) videos
        (effectiveLimit limit))).map catalogItem := by
  rw [accountCatalog, catalogRows_blocks lists,
    eraseDups_take_blocks (rowsOf_pos lists) lists.distinct]

theorem take_eq_of_map {first second : Nat}
    (same : (videos.take first).map catalogItem =
      (videos.take second).map catalogItem) :
    videos.take first = videos.take second := by
  have lengths := congrArg List.length same
  simp only [List.length_map, List.length_take] at lengths
  rw [List.take_eq_take_iff]
  exact lengths

/-- The catalog has as many videos as the limit allows if those before the last
of them have fewer items than the limit. -/
theorem accountCatalog_complete_iff (lists : Lists database accountId videos)
    (limit : Int) (positive : 1 ≤ limit) (bounded : limit ≤ 200) :
    accountCatalog database accountId limit =
        (videos.take limit.toNat).map catalogItem ↔
      (((videos.take limit.toNat).dropLast).map
        (itemsOf database accountId)).sum < limit.toNat := by
  have counted : (((videos.take limit.toNat).dropLast).map
      (itemsOf database accountId)) =
      (((videos.take limit.toNat).dropLast).map (rowsOf database accountId)) := by
    apply List.map_congr_left
    intro video member
    have listed := List.mem_of_mem_take (List.dropLast_subset _ member)
    exact (rowsOf_eq ((lists.members video).mp listed).1).symm
  rw [counted]
  have exact_ : effectiveLimit limit = limit.toNat := by
    unfold effectiveLimit
    congr 1
    omega
  have reachedAll := take_reached (rowsOf_pos lists) (Nat.le_refl limit.toNat)
  rw [accountCatalog_eq lists, exact_]
  constructor
  · intro same
    rcases reachedAll.mp (take_eq_of_map same) with empty | fewer
    · rw [empty]
      change 0 < limit.toNat
      omega
    · exact fewer
  · intro fewer
    rw [reachedAll.mpr (.inr fewer)]

end

def laterReel : InstagramReel :=
  { sharedReel with
    id := 2
    shortcode := "B"
    videoId := some 3 }

def olderVideo : Video :=
  { sharedVideo with
    id := 3
    objectKey := ⟨sha256 [2]⟩
    contentSha256 := some (sha256 [2])
    createdAt := 3 }

def repeatedDatabase : Database where
  accounts := .empty
  runs := ⟨[finishedRun 1 1 .sourceCommitted, finishedRun 2 1 .sourceCommitted,
    finishedRun 3 1 .alreadyAvailable], by decide⟩
  items := ⟨[finishedItem 1 .sourceCommitted none none,
    { finishedItem 2 .sourceCommitted none none with reelId := 2 },
    finishedItem 3 .alreadyAvailable none none], by decide⟩
  reels := ⟨[sharedReel, laterReel], by decide⟩
  jobs := .empty
  videos := ⟨[sharedVideo, olderVideo], by decide⟩
  views := .empty

theorem repeated_catalog_complete :
    (accountCatalog repeatedDatabase 1 3 =
        ((eligibleVideos repeatedDatabase 1).take 3).map catalogItem ↔
      (((eligibleVideos repeatedDatabase 1).take 3).dropLast.map
        (itemsOf repeatedDatabase 1)).sum < 3) ∧
      (accountCatalog repeatedDatabase 1 3).map (·.id) = [2, 3] :=
  ⟨accountCatalog_complete_iff (eligibleVideos_lists repeatedDatabase 1) 3
    (by decide) (by decide), by decide +kernel⟩

/-- With a limit of two the older video is missing. -/
theorem repeated_catalog_short :
    ¬ accountCatalog repeatedDatabase 1 2 =
      ((eligibleVideos repeatedDatabase 1).take 2).map catalogItem := by
  decide +kernel

end OfflineReels.Management
