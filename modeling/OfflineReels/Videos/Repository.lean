import OfflineReels.Instagram.Database

namespace OfflineReels.Videos

open OfflineReels.Foundation
open OfflineReels.Instagram

structure VideoUpsertResult where
  video : Video
  created : Bool
  deriving DecidableEq, Repr

/-- Insert unless the object key is taken; the stored row is answered. -/
def upsert (database : Database) (video : Video) :
    Except DatabaseError (Database × VideoUpsertResult) :=
  match database.videos.rows.find? fun other =>
      other.objectKey = video.objectKey with
  | some existing => .ok (database, ⟨existing, false⟩)
  | none =>
      (database.insertVideo video).map fun database =>
        (database, ⟨video, true⟩)

theorem upsert_eq_ok {database after : Database} {video : Video}
    {result : VideoUpsertResult}
    (succeeded : upsert database video = .ok (after, result)) :
    (after = database ∧ result.video ∈ database.videos ∧
        result.video.objectKey = video.objectKey ∧ result.created = false) ∨
      (result = ⟨video, true⟩ ∧ ∃ videos,
        database.videos.insert? video = some videos ∧
        after = { database with videos }) := by
  unfold upsert at succeeded
  split at succeeded
  · rename_i existing found
    cases succeeded
    left
    exact ⟨rfl, List.mem_of_find?_eq_some found,
      by simpa using List.find?_some found, rfl⟩
  · obtain ⟨next, inserted, shape⟩ := map_eq_ok succeeded
    cases shape
    obtain ⟨videos, rows, _, _, rfl⟩ := Database.insertVideo_eq_ok inserted
    exact .inr ⟨rfl, videos, rows, rfl⟩

theorem upsert_keeps {database after : Database} {video : Video}
    {result : VideoUpsertResult}
    (succeeded : upsert database video = .ok (after, result)) :
    ∃ videos, after = { database with videos } := by
  rcases upsert_eq_ok succeeded with ⟨rfl, _⟩ | ⟨_, videos, _, rfl⟩
  · exact ⟨after.videos, rfl⟩
  · exact ⟨videos, rfl⟩

end OfflineReels.Videos
