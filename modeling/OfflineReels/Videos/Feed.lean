import OfflineReels.Foundation.Keyset
import OfflineReels.Foundation.Transition
import OfflineReels.Management.CatalogLimit
import OfflineReels.Videos.Cursor

namespace OfflineReels.Videos

open OfflineReels.Foundation
open OfflineReels.Instagram
open OfflineReels.Management

/-! The pages of the video feed, and a client that follows their cursors. -/

def cursorOf (video : Video) : VideoCursor where
  createdAt := video.createdAt
  id := video.id

def isBefore (cursor : VideoCursor) (video : Video) : Bool :=
  video.createdAt < cursor.createdAt ||
    (video.createdAt = cursor.createdAt && video.id < cursor.id)

def isSelected (before : Option VideoCursor) (video : Video) : Bool :=
  match before with
  | none => true
  | some cursor => isBefore cursor video

/-- The rows of the statement before the limit. -/
def feedRows (database : Database) (before : Option VideoCursor) : List Video :=
  (database.videos.rows.filter (isSelected before)).insertionSort newestFirst

def VideoRepository.list (database : Database) (limit : Nat)
    (before : Option VideoCursor) : List Video :=
  (feedRows database before).take limit

structure VideoListPage where
  items : List Video
  hasNextPage : Bool
  deriving DecidableEq, Repr

def VideoService.list (database : Database) (limit : Nat)
    (cursor : Option VideoCursor) : VideoListPage :=
  let rows := VideoRepository.list database (limit + 1) cursor
  { items := rows.take limit
    hasNextPage := limit < rows.length }

structure VideoListResponse where
  items : List Video
  nextCursor : Option (List Char)
  deriving DecidableEq, Repr

inductive FeedError
  | unprocessable
  | invalidCursor
  deriving DecidableEq, Repr

section

variable (hmac : Bytes → Bytes → Vector UInt8 32) (secret : List Char)

def decodedCursor : Option (List Char) → Except FeedError (Option VideoCursor)
  | none => .ok none
  | some cursor =>
      match decodeVideoCursor hmac cursor secret with
      | none => .error .invalidCursor
      | some decoded => .ok (some decoded)

/-- `GET /videos` -/
def listVideos (database : Database) (limit : Int)
    (cursor : Option (List Char)) : Except FeedError VideoListResponse := do
  if limit < 1 ∨ 30 < limit then
    throw .unprocessable
  let decoded ← decodedCursor hmac secret cursor
  let page := VideoService.list database limit.toNat decoded
  let nextCursor :=
    if page.hasNextPage then
      page.items.getLast?.map fun last =>
        encodeVideoCursor hmac (cursorOf last) secret
    else none
  return { items := page.items, nextCursor }

end

structure PageLimit where
  value : Int
  positive : 1 ≤ value
  bounded : value ≤ 30

inductive WalkStatus
  | ready (cursor : Option (List Char))
  | finished
  | failed (error : FeedError)
  deriving DecidableEq, Repr

structure FeedWalk where
  database : Database
  status : WalkStatus
  visited : List Video
  requests : Nat

inductive WalkLabel
  | request (limit : PageLimit)
  | insert (video : Video)

def startWalk (database : Database) : FeedWalk where
  database := database
  status := .ready none
  visited := []
  requests := 0

def nextStatus : Option (List Char) → WalkStatus
  | none => .finished
  | some cursor => .ready (some cursor)

section

variable (hmac : Bytes → Bytes → Vector UInt8 32) (secret : List Char)

/-- Between two pages the video is newer than the cursor. -/
def isInsertable (status : WalkStatus) (video : Video) : Bool :=
  match status with
  | .ready none => false
  | .ready (some cursor) =>
      (decodeVideoCursor hmac cursor secret).any fun decoded =>
        !isBefore decoded video
  | _ => true

def walkStep (walk : FeedWalk) : WalkLabel → Option FeedWalk
  | .request limit =>
      match walk.status with
      | .ready cursor =>
          match listVideos hmac secret walk.database limit.value cursor with
          | .error error =>
              some { walk with
                status := .failed error
                requests := walk.requests + 1 }
          | .ok response =>
              some { walk with
                status := nextStatus response.nextCursor
                visited := walk.visited ++ response.items
                requests := walk.requests + 1 }
      | _ => none
  | .insert video =>
      if isInsertable hmac secret walk.status video then
        match walk.database.insertVideo video with
        | .ok database => some { walk with database }
        | .error _ => none
      else none

end

/-- The values that the columns of a video can have. -/
def Representable (video : Video) : Prop :=
  video.createdAt < endOfTime ∧ video.id < 2 ^ 128

instance (video : Video) : Decidable (Representable video) :=
  inferInstanceAs (Decidable (_ ∧ _))

/-- Every video of the catalog once, the newest first. -/
structure Visits (catalog : Database) (videos : List Video) : Prop where
  ordered : videos.Pairwise newestFirst
  distinct : videos.Nodup
  members : ∀ video, video ∈ videos ↔ video ∈ catalog.videos

/-- What holds of a walk that began at the catalog. -/
structure Exhaustive (catalog : Database) (walk : FeedWalk) : Prop where
  visits : ∃ remaining, Visits catalog (walk.visited ++ remaining)
  complete : walk.status = .finished → Visits catalog walk.visited
  answered : ∀ error, walk.status ≠ .failed error
  bounded : walk.requests ≤ max 1 catalog.videos.rows.length
  continues : walk.status ≠ .finished →
    walk.requests < max 1 catalog.videos.rows.length

section

variable {database : Database}

def Follows (first second : Video) : Prop := isBefore (cursorOf first) second

theorem isBefore_iff {cursor : VideoCursor} {video : Video} :
    isBefore cursor video = true ↔
      video.createdAt < cursor.createdAt ∨
        (video.createdAt = cursor.createdAt ∧ video.id < cursor.id) := by
  simp [isBefore]

theorem follows_of_newestFirst {first second : Video}
    (order : newestFirst first second) (different : first.id ≠ second.id) :
    Follows first second := by
  simp only [newestFirst] at order
  simp only [Follows, isBefore_iff, cursorOf]
  grind

theorem follows_asymm (first second : Video) (order : Follows first second) :
    ¬ Follows second first := by
  simp only [Follows, isBefore_iff, cursorOf] at *
  grind

theorem isBefore_trans {cursor : VideoCursor} {first second : Video}
    (before : isBefore cursor first = true) (order : Follows first second) :
    isBefore cursor second = true := by
  simp only [Follows, isBefore_iff, cursorOf] at *
  grind

theorem mem_feedRows {before : Option VideoCursor} {video : Video} :
    video ∈ feedRows database before ↔
      video ∈ database.videos ∧ isSelected before video = true := by
  rw [feedRows, List.mem_insertionSort, List.mem_filter]
  exact Iff.rfl

theorem feedRows_ordered (database : Database) (before : Option VideoCursor) :
    (feedRows database before).Pairwise newestFirst :=
  pairwise_newestFirst _

theorem feedRows_follows (database : Database) (before : Option VideoCursor) :
    (feedRows database before).Pairwise Follows := by
  have nodup : (feedRows database before).Nodup :=
    (List.perm_insertionSort newestFirst _).nodup_iff.mpr
      (database.videos.nodup.filter _)
  refine List.Pairwise.imp_of_mem ?_ (nodup.and (feedRows_ordered _ _))
  intro first second firstMember secondMember ⟨different, order⟩
  refine follows_of_newestFirst order fun same => different ?_
  exact Table.eq_of_key_eq (mem_feedRows.mp firstMember).1
    (mem_feedRows.mp secondMember).1 same

theorem feedRows_next {before : Option VideoCursor} {size : Nat} {last : Video}
    (page : ((feedRows database before).take size).getLast? = some last) :
    feedRows database (some (cursorOf last)) =
      (feedRows database before).drop size := by
  have ordered := feedRows_follows database before
  have lastMember : last ∈ feedRows database before :=
    List.mem_of_mem_take (List.mem_of_getLast? page)
  refine eq_of_members follows_asymm (feedRows_follows _ _)
    (ordered.sublist (List.drop_sublist _ _)) fun video => ?_
  rw [mem_feedRows]
  constructor
  · intro ⟨present, follows⟩
    refine (mem_drop_iff follows_asymm ordered page ?_).mpr follows
    refine mem_feedRows.mpr ⟨present, ?_⟩
    have selected := (mem_feedRows.mp lastMember).2
    cases before with
    | none => rfl
    | some cursor => exact isBefore_trans selected follows
  · intro behind
    have member := List.mem_of_mem_drop behind
    exact ⟨(mem_feedRows.mp member).1,
      (mem_drop_iff follows_asymm ordered page member).mp behind⟩

theorem feedRows_insert {after : Database} {video : Video}
    {cursor : VideoCursor} (inserted : database.insertVideo video = .ok after)
    (newer : isBefore cursor video = false) :
    feedRows after (some cursor) = feedRows database (some cursor) := by
  obtain ⟨videos, added, _, _, rfl⟩ := Database.insertVideo_eq_ok inserted
  refine eq_of_members follows_asymm (feedRows_follows _ _)
    (feedRows_follows _ _) fun other => ?_
  simp only [mem_feedRows, Table.mem_insert? added]
  constructor
  · intro ⟨known, selected⟩
    rcases known with present | same
    · exact ⟨present, selected⟩
    · subst same
      exact absurd selected (by simp [isSelected, newer])
  · intro ⟨present, selected⟩
    exact ⟨.inl present, selected⟩

theorem visits_iff {catalog : Database} {videos : List Video}
    (same : videos = feedRows catalog none) : Visits catalog videos where
  ordered := same ▸ feedRows_ordered catalog none
  distinct := same ▸ nodup_of_ordered follows_asymm (feedRows_follows catalog none)
  members := fun video => by
    rw [same, mem_feedRows]
    exact and_iff_left rfl

theorem length_feedRows (catalog : Database) :
    (feedRows catalog none).length = catalog.videos.rows.length := by
  have all : catalog.videos.rows.filter (isSelected none) =
      catalog.videos.rows :=
    List.filter_eq_self.mpr fun _ _ => rfl
  rw [feedRows, all, List.length_insertionSort]

end

section

variable {hmac : Bytes → Bytes → Vector UInt8 32} {secret : List Char}

/-- The look-ahead row only tells that there is a next page. -/
theorem listVideos_eq (database : Database) (limit : PageLimit)
    {cursor : Option (List Char)} {before : Option VideoCursor}
    (decoded : decodedCursor hmac secret cursor = .ok before) :
    listVideos hmac secret database limit.value cursor = .ok {
      items := (feedRows database before).take limit.value.toNat
      nextCursor :=
        if limit.value.toNat < (feedRows database before).length then
          ((feedRows database before).take limit.value.toNat).getLast?.map
            fun last => encodeVideoCursor hmac (cursorOf last) secret
        else none } := by
  have accepted : ¬ (limit.value < 1 ∨ 30 < limit.value) := by
    have := limit.positive
    have := limit.bounded
    omega
  have items : ((feedRows database before).take
      (limit.value.toNat + 1)).take limit.value.toNat =
        (feedRows database before).take limit.value.toNat := by
    rw [List.take_take, Nat.min_eq_left (Nat.le_succ _)]
  have more : limit.value.toNat <
      ((feedRows database before).take (limit.value.toNat + 1)).length ↔
        limit.value.toNat < (feedRows database before).length := by
    rw [List.length_take]
    omega
  simp only [listVideos, accepted, if_false, decoded, bind, Except.bind]
  simp only [VideoService.list, VideoRepository.list, items, more,
    decide_eq_true_eq]
  rfl

theorem decodedCursor_encode {video : Video} (known : Representable video) :
    decodedCursor hmac secret
      (some (encodeVideoCursor hmac (cursorOf video) secret)) =
        .ok (some (cursorOf video)) := by
  obtain ⟨dated, fits⟩ := known
  have read := decodeVideoCursor_encodeVideoCursor hmac secret
    (show (cursorOf video).createdAt < endOfTime from dated)
    (show (cursorOf video).id < 2 ^ 128 from fits)
  simp only [decodedCursor, read]

/-- What has been visited and what the cursor selects make up all the rows. -/
inductive Progress (hmac : Bytes → Bytes → Vector UInt8 32)
    (secret : List Char) (all : List Video) (walk : FeedWalk) : Prop
  | between (cursor : Option (List Char)) (before : Option VideoCursor)
      (ready : walk.status = .ready cursor)
      (decoded : decodedCursor hmac secret cursor = .ok before)
      (joined : walk.visited ++ feedRows walk.database before = all)
      (counted : walk.requests ≤ walk.visited.length)
      (left : walk.requests = 0 ∨ feedRows walk.database before ≠ [])
  | finished (ended : walk.status = .finished) (visited : walk.visited = all)
      (counted : walk.requests ≤ max 1 all.length)

variable {all : List Video}

theorem progress_request (known : ∀ video ∈ all, Representable video)
    {walk after : FeedWalk} {limit : PageLimit}
    (progress : Progress hmac secret all walk)
    (stepped : walkStep hmac secret walk (.request limit) = some after) :
    Progress hmac secret all after := by
  cases progress with
  | finished ended visited counted =>
      simp only [walkStep, ended] at stepped
      cases stepped
  | between cursor before ready decoded joined counted left =>
      have positive := limit.positive
      simp only [walkStep, ready, listVideos_eq walk.database limit decoded,
        Option.some.injEq] at stepped
      subst stepped
      by_cases more : limit.value.toNat <
          (feedRows walk.database before).length
      · cases page : ((feedRows walk.database before).take
            limit.value.toNat).getLast? with
        | none =>
            rw [List.getLast?_eq_none_iff, List.take_eq_nil_iff] at page
            rcases page with zero | empty
            · omega
            · rw [empty] at more
              cases more
        | some last =>
            have member : last ∈ feedRows walk.database before :=
              List.mem_of_mem_take (List.mem_of_getLast? page)
            have inAll : last ∈ all :=
              joined ▸ List.mem_append_right _ member
            have next := feedRows_next page
            refine .between _ (some (cursorOf last)) ?_
              (decodedCursor_encode (known last inAll)) ?_ ?_ (.inr ?_)
            · simp only [more, if_true, Option.map_some, nextStatus]
            · rw [next, List.append_assoc, List.take_append_drop, joined]
            · simp only [List.length_append, List.length_take]
              omega
            · rw [next]
              intro empty
              have := List.drop_eq_nil_iff.mp empty
              omega
      · have whole : (feedRows walk.database before).take limit.value.toNat =
            feedRows walk.database before :=
          List.take_of_length_le (Nat.le_of_not_lt more)
        have lengths := congrArg List.length joined
        rw [List.length_append] at lengths
        refine .finished ?_ ?_ ?_
        · simp only [more, if_false, nextStatus]
        · simp only [whole, joined]
        · rcases left with first | remaining
          · simp only [first]
            omega
          · have := List.length_pos_iff.mpr remaining
            dsimp only
            omega

theorem progress_insert {walk after : FeedWalk} {video : Video}
    (progress : Progress hmac secret all walk)
    (stepped : walkStep hmac secret walk (.insert video) = some after) :
    Progress hmac secret all after := by
  simp only [walkStep] at stepped
  split at stepped
  · rename_i insertable
    split at stepped
    · rename_i database inserted
      cases stepped
      cases progress with
      | finished ended visited counted => exact .finished ended visited counted
      | between cursor before ready decoded joined counted left =>
          rw [ready] at insertable
          cases cursor with
          | none => cases insertable
          | some text =>
              simp only [decodedCursor] at decoded
              simp only [isInsertable] at insertable
              cases read : decodeVideoCursor hmac text secret with
              | none =>
                  rw [read] at decoded
                  cases decoded
              | some selected =>
                  rw [read] at decoded insertable
                  cases decoded
                  have newer : isBefore selected video = false := by
                    simpa using insertable
                  have same := feedRows_insert inserted newer
                  refine .between (some text) (some selected) ready
                    (by simp only [decodedCursor, read]) ?_ counted ?_
                  · rw [same]
                    exact joined
                  · rw [same]
                    exact left
    · cases stepped
  · cases stepped

theorem progress_step (known : ∀ video ∈ all, Representable video)
    (walk : FeedWalk) (label : WalkLabel) (after : FeedWalk)
    (progress : Progress hmac secret all walk)
    (stepped : walkStep hmac secret walk label = some after) :
    Progress hmac secret all after := by
  cases label with
  | request limit => exact progress_request known progress stepped
  | insert video => exact progress_insert progress stepped

theorem exhaustive_of_progress {catalog : Database} {walk : FeedWalk}
    (progress : Progress hmac secret (feedRows catalog none) walk) :
    Exhaustive catalog walk := by
  have length := length_feedRows catalog
  cases progress with
  | finished ended visited counted =>
      exact {
        visits := ⟨[], visits_iff (by rw [List.append_nil, visited])⟩
        complete := fun _ => visits_iff visited
        answered := by simp [ended]
        bounded := length ▸ counted
        continues := fun walking => absurd ended walking }
  | between cursor before ready decoded joined counted left =>
      have lengths := congrArg List.length joined
      rw [List.length_append, length] at lengths
      have few : walk.requests < max 1 catalog.videos.rows.length := by
        rcases left with first | remaining
        · omega
        · have := List.length_pos_iff.mpr remaining
          omega
      exact {
        visits := ⟨_, visits_iff joined⟩
        complete := fun ended => by
          rw [ready] at ended
          cases ended
        answered := by simp [ready]
        bounded := Nat.le_of_lt few
        continues := fun _ => few }

theorem progress_start (catalog : Database) :
    Progress hmac secret (feedRows catalog none) (startWalk catalog) :=
  .between none none rfl rfl rfl (Nat.le_refl 0) (.inl rfl)

end

/-- Whatever limits are asked for and whatever newer videos are added between
the pages, the cursors lead through the whole catalog. -/
theorem pages_exhaust_catalog (hmac : Bytes → Bytes → Vector UInt8 32)
    (secret : List Char) (catalog : Database) (walk : FeedWalk)
    (labels : List WalkLabel)
    (known : ∀ video ∈ catalog.videos, Representable video)
    (walked : run (walkStep hmac secret) (startWalk catalog) labels =
      some walk) :
    Exhaustive catalog walk := by
  have selected : ∀ video ∈ feedRows catalog none, Representable video :=
    fun video member => known video (mem_feedRows.mp member).1
  have progress : Progress hmac secret (feedRows catalog none) walk :=
    run_invariant
      (fun before label after progress _ stepped =>
        progress_step selected before label after progress stepped)
      (progress_start catalog) (meets_true _ _) walked
  exact exhaustive_of_progress progress

def tiedVideo : Video :=
  { sharedVideo with
    id := 3
    objectKey := ⟨sha256 [2]⟩
    contentSha256 := some (sha256 [2]) }

def newerVideo : Video :=
  { sharedVideo with
    id := 1
    objectKey := ⟨sha256 [3]⟩
    contentSha256 := some (sha256 [3])
    createdAt := 5 }

def tiedDatabase : Database :=
  { repeatedDatabase with
    reels := .empty
    videos := ⟨[sharedVideo, tiedVideo], by decide⟩ }

def tiedDigest : Vector UInt8 32 :=
  #v[6, 104, 143, 99, 177, 109, 37, 153, 33, 39, 89, 146, 32, 234, 10, 81, 54,
    57, 210, 196, 178, 94, 111, 92, 116, 190, 74, 141, 77, 141, 89, 162]

def tiedLabels : List WalkLabel :=
  [.request ⟨1, by decide, by decide⟩, .insert newerVideo,
    .request ⟨30, by decide, by decide⟩]

theorem tied_pages :
    (run (walkStep (fun _ _ => tiedDigest) "secret".toList)
        (startWalk tiedDatabase) tiedLabels).map
          (fun walk => (walk.status, walk.visited.map (·.id))) =
        some (.finished, [3, 2]) ∧
      ∀ walk, run (walkStep (fun _ _ => tiedDigest) "secret".toList)
        (startWalk tiedDatabase) tiedLabels = some walk →
          Exhaustive tiedDatabase walk :=
  ⟨by decide +kernel, fun walk walked =>
    pages_exhaust_catalog (fun _ _ => tiedDigest) "secret".toList tiedDatabase
      walk tiedLabels (by decide) walked⟩

end OfflineReels.Videos
