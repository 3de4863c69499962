import OfflineReels.Collector.Persistence
import OfflineReels.Instagram.Consistency
import OfflineReels.Management.Catalog

namespace OfflineReels.Management

open OfflineReels.Foundation
open OfflineReels.Instagram
open OfflineReels.Collector

/-! Ownership of a Reel, as the Collector and as the control plane know it. -/

theorem accountHasDurableReel_iff {database : Database}
    (consistent : database.ReelsConsistent) {accountId : UUID}
    {reel : InstagramReel} (member : reel ∈ database.reels)
    (ready : reel.pipelineStatus = .ready) :
    Persistence.accountHasDurableReel database accountId reel.shortcode = true ↔
      HoldsItem database accountId reel acquisitionOutcomes := by
  simp only [Persistence.accountHasDurableReel, Persistence.acquiredReels,
    List.any_eq_true, List.mem_flatMap, List.mem_filterMap, decide_eq_true_eq]
  constructor
  · rintro ⟨found, ⟨other, otherMember, item, itemMember, run, runMember,
      selected⟩, same⟩
    split at selected
    · rename_i acquired
      cases selected
      obtain rfl : found = reel :=
        consistent.eq_of_shortcode otherMember member same
      simp only [Persistence.isAcquisition, Bool.and_eq_true,
        decide_eq_true_eq] at acquired
      obtain ⟨⟨⟨⟨⟨⟨⟨ofReel, ofItem⟩, owned⟩, outcome⟩, _⟩, _⟩, _⟩, _⟩ :=
        acquired
      exact ⟨item, itemMember, ofReel, outcome, run, runMember, ofItem, owned⟩
    · cases selected
  · rintro ⟨item, itemMember, ofReel, outcome, run, runMember, ofItem, owned⟩
    have durable : reel.pipelineStatus.isDurable = true := by rw [ready]; rfl
    obtain ⟨key, digest, size⟩ := InstagramReel.satisfiesChecks_durable
      (consistent.checks reel member) durable
    refine ⟨reel, ⟨reel, member, item, itemMember, run, runMember, ?_⟩, rfl⟩
    rw [if_pos]
    simp only [Persistence.isAcquisition, ofReel, ofItem, owned, outcome, key,
      digest, size, ready, decide_true, Bool.and_true, Bool.and_self]
    decide

/-- A ready Reel with this video that the account durably acquired. -/
def OwnsReady (database : Database) (accountId videoId : UUID)
    (reel : InstagramReel) : Prop :=
  reel.videoId = some videoId ∧ reel.pipelineStatus = .ready ∧
    Persistence.accountHasDurableReel database accountId reel.shortcode = true

/-- The catalog and the view synchronization follow the Collector's notion of
ownership. -/
structure Agrees (database : Database) (accountId : UUID) : Prop where
  catalog : ∀ limit : Int,
    (catalogRows database accountId).length ≤ effectiveLimit limit →
    ∀ item, item ∈ accountCatalog database accountId limit ↔
      ∃ video ∈ database.videos, catalogItem video = item ∧
        ∃ reel ∈ database.reels, OwnsReady database accountId video.id reel ∧
          ¬ Viewed database accountId reel
  views : ∀ (drawn : UUID → NewView) (payload : ViewedReelSyncRequest),
    Accepts database drawn accountId payload ↔
      ∀ videoId ∈ payload.events, ∃ reel ∈ database.reels,
        OwnsReady database accountId videoId reel
  failed : ∀ reel ∈ database.reels,
    ¬ HoldsItem database accountId reel acquisitionOutcomes →
    ∀ videoId, reel.videoId = some videoId →
      (∀ limit, ∀ item ∈ accountCatalog database accountId limit,
        item.id ≠ videoId) ∧
      ∀ (drawn : UUID → NewView) (payload : ViewedReelSyncRequest),
        videoId ∈ payload.events →
          ¬ Accepts database drawn accountId payload

/-- Every ready Reel that a run item of the account names, is also named by one
whose outcome is an acquisition. -/
def EveryItemAcquired (database : Database) (accountId : UUID) : Prop :=
  ∀ reel ∈ database.reels, reel.pipelineStatus = .ready →
    HoldsItem database accountId reel everyOutcome →
      HoldsItem database accountId reel acquisitionOutcomes

theorem HoldsItem.weaken {database : Database} {accountId : UUID}
    {reel : InstagramReel} {outcomes : List RunItemOutcome}
    (holds : HoldsItem database accountId reel outcomes) :
    HoldsItem database accountId reel everyOutcome := by
  obtain ⟨item, member, ofReel, _, owned⟩ := holds
  exact ⟨item, member, ofReel, mem_everyOutcome item.outcome, owned⟩

/-- Every listed video belongs to a ready Reel that some item names. -/
theorem named_of_listed {database : Database} {accountId : UUID} {limit : Int}
    {item : CatalogItem}
    (listed : item ∈ accountCatalog database accountId limit) :
    ∃ reel ∈ database.reels, reel.videoId = some item.id ∧
      reel.pipelineStatus = .ready ∧
      HoldsItem database accountId reel everyOutcome := by
  simp only [accountCatalog, List.mem_map, List.mem_eraseDups] at listed
  obtain ⟨video, taken, rfl⟩ := listed
  have selected := (List.mem_insertionSort _).mp (List.mem_of_mem_take taken)
  obtain ⟨_, reel, member, same, ready, holds, _⟩ := mem_catalogRows.mp selected
  exact ⟨reel, member, same, ready, holds⟩

section

variable {database : Database} {accountId : UUID}

theorem ownsReady_iff (consistent : database.ReelsConsistent)
    (acquired : EveryItemAcquired database accountId) {reel : InstagramReel}
    (member : reel ∈ database.reels) {videoId : UUID} :
    OwnsReady database accountId videoId reel ↔
      reel.videoId = some videoId ∧ reel.pipelineStatus = .ready ∧
        HoldsItem database accountId reel everyOutcome := by
  constructor
  · rintro ⟨same, ready, durable⟩
    have holds := (accountHasDurableReel_iff consistent member ready).mp durable
    exact ⟨same, ready, holds.weaken⟩
  · rintro ⟨same, ready, holds⟩
    have durable := acquired reel member ready holds
    exact ⟨same, ready,
      (accountHasDurableReel_iff consistent member ready).mpr durable⟩

theorem agrees_of_acquired (consistent : database.ReelsConsistent)
    (acquired : EveryItemAcquired database accountId) :
    Agrees database accountId where
  catalog := by
    intro limit covers item
    rw [mem_accountCatalog covers]
    constructor
    · rintro ⟨video, selected, rfl⟩
      obtain ⟨videoMember, reel, member, same, ready, holds, unviewed⟩ :=
        mem_catalogRows.mp selected
      have owns := (ownsReady_iff consistent acquired member).mpr
        ⟨same, ready, holds⟩
      exact ⟨video, videoMember, rfl, reel, member, owns, unviewed⟩
    · rintro ⟨video, videoMember, rfl, reel, member, owns, unviewed⟩
      obtain ⟨same, ready, holds⟩ :=
        (ownsReady_iff consistent acquired member).mp owns
      exact ⟨video, mem_catalogRows.mpr
        ⟨videoMember, reel, member, same, ready, holds, unviewed⟩, rfl⟩
  views := by
    intro drawn payload
    rw [accepts_iff]
    refine forall₂_congr fun videoId _ => exists_congr fun reel => ?_
    exact and_congr_right fun member =>
      (ownsReady_iff consistent acquired member).symm
  failed := by
    intro reel member unacquired videoId named
    -- a ready Reel with this video is this one, and no item acquired it
    have unnamed : ∀ other ∈ database.reels, other.videoId = some videoId →
        other.pipelineStatus = .ready →
        ¬ HoldsItem database accountId other everyOutcome := by
      intro other otherMember same ready holds
      obtain rfl := consistent.eq_of_videoId otherMember member same named
      exact unacquired (acquired other otherMember ready holds)
    constructor
    · rintro limit item listed rfl
      obtain ⟨other, otherMember, same, ready, holds⟩ := named_of_listed listed
      exact unnamed other otherMember same ready holds
    · intro drawn payload requested accepted
      obtain ⟨other, otherMember, same, ready, holds⟩ :=
        accepts_iff.mp accepted videoId requested
      exact unnamed other otherMember same ready holds

def singleView (deviceUuid videoId : UUID) : ViewedReelSyncRequest where
  deviceUuid := deviceUuid
  events := [videoId]
  nonempty := Nat.le_refl 1
  bounded := by
    simp [MAX_VIEW_SYNC_BATCH]
  unique := List.nodup_singleton videoId

theorem acquired_of_agrees (consistent : database.ReelsConsistent)
    (agrees : Agrees database accountId) :
    EveryItemAcquired database accountId := by
  intro reel member ready holds
  obtain ⟨videoId, named⟩ := Option.isSome_iff_exists.mp
    (InstagramReel.satisfiesChecks_ready (consistent.checks reel member) ready)
  have accepted : Accepts database (fun _ => ⟨0, 0⟩) accountId
      (singleView 0 videoId) := by
    rw [accepts_iff]
    intro requested isRequested
    obtain rfl := List.mem_singleton.mp isRequested
    exact ⟨reel, member, named, ready, holds⟩
  obtain ⟨other, otherMember, same, otherReady, durable⟩ :=
    (agrees.views _ _).mp accepted videoId (List.mem_singleton.mpr rfl)
  obtain rfl := consistent.eq_of_videoId otherMember member same named
  exact (accountHasDurableReel_iff consistent member ready).mp durable

/-- The two notions agree exactly when no ready Reel is known to the account
through failed items alone. -/
theorem agrees_iff (consistent : database.ReelsConsistent) :
    Agrees database accountId ↔ EveryItemAcquired database accountId :=
  ⟨acquired_of_agrees consistent, agrees_of_acquired consistent⟩

end

def sharedReel : InstagramReel where
  id := 1
  shortcode := "A"
  canonicalUrl := "https://www.instagram.com/reel/A/"
  pipelineStatus := .ready
  sourceObjectKey := some ⟨"A"⟩
  sourceSha256 := some (sha256 [0])
  sourceByteSize := some 1
  videoId := some 2
  failureReasonCode := none
  discoveredAt := some 0
  sourceReadyAt := some 3
  readyAt := some 4
  failedAt := some 1
  sourceCleanupPending := false

def sharedVideo : Video where
  id := 2
  title := "A"
  objectKey := ⟨sha256 [1]⟩
  contentType := "video/mp4"
  byteSize := 1
  normalizationStrategy := none
  originalVideoCodec := none
  normalizedVideoCodec := none
  width := none
  height := none
  durationMs := none
  fileSizeBytes := none
  hasAudio := none
  normalizedAt := none
  contentSha256 := some (sha256 [1])
  createdAt := 4

def finishedRun (runId accountId : UUID) (outcome : RunItemOutcome) :
    InstagramCollectionRun :=
  Persistence.counted {
    id := runId
    accountId := accountId
    trigger := .manual
    status := .completed
    targetCount := 1
    sourceCommittedCount := 0
    alreadyAvailableCount := 0
    failedCount := 0
    stopReasonCode := none
    startedAt := some 0
    completedAt := some 1
    cancelRequestedAt := none
    createdAt := 0 } outcome

def finishedItem (runId : UUID) (outcome : RunItemOutcome)
    (authMode : Option DownloadAuthMode) (reasonCode : Option String) :
    InstagramCollectionRunItem where
  id := runId
  runId := runId
  reelId := 1
  position := 1
  outcome := outcome
  downloadAuthMode := authMode
  reasonCode := reasonCode
  completedAt := some 1

def sharedDatabase : Database where
  accounts := .empty
  runs := ⟨[finishedRun 1 1 .failed, finishedRun 2 2 .sourceCommitted],
    by decide⟩
  items := ⟨[finishedItem 1 .failed none (some "DOWNLOAD_FAILED"),
    finishedItem 2 .sourceCommitted (some .sessionFirst) none], by decide⟩
  reels := ⟨[sharedReel], by decide⟩
  jobs := .empty
  videos := ⟨[sharedVideo], by decide⟩
  views := .empty

theorem sharedDatabase_consistent : sharedDatabase.ReelsConsistent :=
  ⟨by decide, by decide⟩

/-- The failed item lists the video in the catalog of account 1, and its view
is accepted. -/
theorem failed_item_grants :
    sharedDatabase.ReelsConsistent ∧
      accountCatalog sharedDatabase 1 200 = [catalogItem sharedVideo] ∧
      Accepts sharedDatabase (fun _ => ⟨5, 5⟩) 1 (singleView 9 2) ∧
      ¬ Agrees sharedDatabase 1 := by
  refine ⟨sharedDatabase_consistent, by decide, ⟨_, _, rfl⟩, ?_⟩
  intro agrees
  obtain ⟨unlisted, _⟩ := agrees.failed sharedReel (by decide)
    (by unfold HoldsItem; decide) 2 rfl
  exact unlisted 200 (catalogItem sharedVideo) (by decide) rfl

/-- For account 2 the notions agree. -/
theorem agrees_of_second_account : Agrees sharedDatabase 2 :=
  (agrees_iff sharedDatabase_consistent).mpr (by
    unfold EveryItemAcquired HoldsItem
    decide)

end OfflineReels.Management
