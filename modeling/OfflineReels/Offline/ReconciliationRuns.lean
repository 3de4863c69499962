import OfflineReels.Offline.MediaKey
import OfflineReels.Offline.Reconciliation

namespace OfflineReels.Offline.ReconciliationRuns

open OfflineReels.Foundation
open OfflineReels.Foundation.Program
open OfflineReels.Instagram
open OfflineReels.Videos (uuidText readUuid_uuidText)

/-! Reconciliation on its own, with a storage that answers.  IndexedDB has each
record under the text of its identifier, which the check of a record normalizes
without keeping the normal form. -/

structure LibraryRow where
  id : List Char
  record : StoredVideo
  normalizes : normalizeVideoId id = some (uuidText record.id)
  fits : record.id < 2 ^ 128

def IsNormal (row : LibraryRow) : Prop := normalizeVideoId row.id = some row.id

instance (row : LibraryRow) : Decidable (IsNormal row) :=
  inferInstanceAs (Decidable (_ = _))

abbrev TextLibrary : Type := Table LibraryRow (List Char) (·.id)

/-- An identifier has 128 bits. -/
structure Storage where
  library : TextLibrary
  media : MediaCache
  identified : ∀ row ∈ media, ∀ videoId, row.1 = .media ⟨videoId⟩ →
    videoId < 2 ^ 128

structure State where
  storage : Storage
  /-- How often the clock was read. -/
  reads : Nat

def Storage.getVideo (storage : Storage) (videoId : UUID) : Option StoredVideo :=
  (storage.library.find? (uuidText videoId)).map (·.record)

def normalRow (record : StoredVideo) : Option LibraryRow :=
  if accepted : normalizeVideoId (uuidText record.id) =
      some (uuidText record.id) ∧ record.id < 2 ^ 128 then
    some ⟨uuidText record.id, record, accepted.1, accepted.2⟩
  else none

def Storage.putRow (storage : Storage) (row : LibraryRow) : Storage :=
  { storage with library := storage.library.upsert row }

def Storage.deleteMedia (storage : Storage) (path : MediaPath) : Storage where
  library := storage.library
  media := storage.media.filter (·.1 ≠ .media path)
  identified := fun row member =>
    storage.identified row (Table.mem_filter.mp member).1

def respond (clock : Nat → Time) (state : State) :
    (request : BrowserCall) → Except JsError (BrowserReply request) × State
  | .getVideo videoId => (.ok (state.storage.getVideo videoId), state)
  | .putVideo record =>
      match normalRow record with
      | some row => (.ok (), { state with storage := state.storage.putRow row })
      | none => (.error (.offlineStorage .invalidVideoId), state)
  | .matchMedia path =>
      (.ok ((state.storage.media.find? (.media path)).map (·.2)), state)
  | .deleteMedia path =>
      (.ok (state.storage.media.find? (.media path)).isSome,
        { state with storage := state.storage.deleteMedia path })
  | .mediaKeys => (.ok (state.storage.media.rows.map (·.1)), state)
  | .now => (.ok (clock state.reads), { state with reads := state.reads + 1 })
  | _ => (.error .other, state)

def sortRows (rows : List LibraryRow) : List LibraryRow :=
  rows.insertionSort fun left right => sortByUpdatedAt left.record right.record

def listed (row : LibraryRow) : Listed (List Char) := ⟨row.id, row.record⟩

/-- `reconcileOfflineLibrary`, from the listing of the library on. -/
def reconcile (clock : Nat → Time) (state : State) :
    Except JsError (ReconciliationSummary (List Char)) × State :=
  (reconcileListed uuidText
    ((sortRows state.storage.library.rows).map listed)).play (respond clock) state

/-! What is to be settled. -/

def mediaOf (storage : Storage) (videoId : UUID) : Option CachedMedia :=
  (storage.media.find? (.media ⟨videoId⟩)).map (·.2)

def HasMedia (storage : Storage) (record : OfflineVideoRecord) : Prop :=
  ∃ media, mediaOf storage record.id = some media ∧
    isAllowedVideoContentType media.contentType = true ∧
    media.byteSize = record.byteSize

def Broken (storage : Storage) (record : OfflineVideoRecord) : Prop :=
  record.status = .downloading ∨
    (record.status = .completed ∧ ¬ HasMedia storage record)

structure Settled (storage : Storage) : Prop where
  idle : ∀ row ∈ storage.library, row.record.status ≠ .downloading
  complete : ∀ row ∈ storage.library, row.record.status = .completed →
    HasMedia storage row.record.toOfflineVideoRecord
  owned : ∀ videoId, (mediaOf storage videoId).isSome = true ↔
    ∃ row ∈ storage.library, row.record.id = videoId ∧
      row.record.status = .completed

structure Spared (before after : Storage) : Prop where
  records : ∀ row ∈ before.library,
    ¬ Broken before row.record.toOfflineVideoRecord → row ∈ after.library
  foreign : ∀ url, after.media.find? (.other url) =
    before.media.find? (.other url)

/-! The effect of each operation. -/

section

variable {clock : Nat → Time} {state : State}

theorem text_of_normal {row : LibraryRow} (normal : IsNormal row) :
    row.id = uuidText row.record.id :=
  Option.some.inj (normal.symm.trans row.normalizes)

theorem play_deleteCachedVideo (videoId : UUID) :
    (deleteCachedVideo videoId).play (respond clock) state =
      (.ok (state.storage.media.find? (.media ⟨videoId⟩)).isSome,
        { state with storage := state.storage.deleteMedia ⟨videoId⟩ }) := rfl

theorem play_listCachedVideoIds :
    listCachedVideoIds.play (respond clock) state =
      (.ok (canonicalIds (state.storage.media.rows.map (·.1))), state) := rfl

theorem failedPatch_accepted (record : StoredVideo) (code : OfflineErrorCode)
    (failedAt now : Time) :
    assertOfflineVideoRecord (applyPatch record.toOfflineVideoRecord
      (failedPatch code failedAt) now) = .ok () := by
  have accepted := assertOfflineVideoRecord_eq_ok.mp record.accepted
  obtain ⟨title, contentType, size, _, viewed, attempts, _, _, _⟩ := accepted
  have short : ¬ 500 < utf16Length (failedMessage code).toList := by
    unfold failedMessage
    split <;> decide
  rw [assertOfflineVideoRecord_eq_ok]
  exact ⟨title, contentType, size, by simp [applyPatch, failedPatch], viewed,
    attempts, by simp [applyPatch, failedPatch],
    by simpa [applyPatch, failedPatch] using short,
    by simp [applyPatch, failedPatch]⟩

def failed (row : LibraryRow) (code : OfflineErrorCode)
    (failedAt now : Time) : LibraryRow where
  id := row.id
  record := ⟨_, failedPatch_accepted row.record code failedAt now⟩
  normalizes := row.normalizes
  fits := row.fits

theorem normalRow_of {row : LibraryRow} (normal : IsNormal row) :
    normalRow row.record = some row := by
  have text := text_of_normal normal
  have accepted : normalizeVideoId (uuidText row.record.id) =
      some (uuidText row.record.id) ∧ row.record.id < 2 ^ 128 := by
    constructor
    · rw [← text]
      exact normal
    · exact row.fits
  unfold normalRow
  rw [dif_pos accepted]
  obtain ⟨id, record, normalizes, fits⟩ := row
  dsimp only at text
  subst text
  rfl

theorem play_writePatched {patch : OfflineVideoPatch}
    {existing stored : StoredVideo} {row : LibraryRow}
    (accepted : accept (applyPatch existing.toOfflineVideoRecord patch
      (clock state.reads)) = .ok stored)
    (rowed : normalRow stored = some row) :
    (writePatched patch (some existing)).play (respond clock) state =
      (.ok (some stored), { storage := state.storage.putRow row
                            reads := state.reads + 1 }) := by
  have taken (here : State) : (orThrow (.ok stored) : Browsing StoredVideo).play
      (respond clock) here = (.ok stored, here) := rfl
  unfold writePatched
  rw [play_bind, play_browse]
  simp only [respond]
  rw [accepted, play_bind, taken]
  dsimp only
  rw [play_bind, play_browse]
  simp only [respond, rowed]
  rfl

theorem play_markFailed {row : LibraryRow} (code : OfflineErrorCode)
    (normal : IsNormal row)
    (found : state.storage.library.find? row.id = some row) :
    (markFailed row.record.id code).play (respond clock) state =
      (.ok (some (failed row code (clock state.reads)
          (clock (state.reads + 1))).record),
        { storage := state.storage.putRow (failed row code
            (clock state.reads) (clock (state.reads + 1)))
          reads := state.reads + 2 }) := by
  have got : state.storage.getVideo row.record.id = some row.record := by
    unfold Storage.getVideo
    rw [← text_of_normal normal, found]
    rfl
  have still : IsNormal (failed row code (clock state.reads)
    (clock (state.reads + 1))) := normal
  have rowed := normalRow_of still
  unfold markFailed
  rw [play_bind, play_browse]
  simp only [respond]
  unfold updateOfflineVideo
  rw [play_withOfflineDatabase, play_bind, play_browse]
  simp only [respond, got]
  have written := @play_writePatched clock { state with reads := state.reads + 1 }
    _ _ _ _ (accept_of (failedPatch_accepted row.record code
      (clock state.reads) (clock (state.reads + 1)))) rowed
  rw [written]
  rfl

theorem play_validateCachedVideo (record : StoredVideo) :
    (validateCachedVideo record.id record.cachedMetadata).play
        (respond clock) state =
      (.ok (if record.cacheKey = some ⟨record.id⟩ then
          validation record.cachedMetadata (mediaOf state.storage record.id)
        else .cacheKeyMismatch), state) := by
  have allowed := (assertOfflineVideoRecord_eq_ok.mp record.accepted).2.1
  unfold validateCachedVideo
  by_cases own : record.cacheKey = some ⟨record.id⟩
  · rw [if_neg (by simpa [OfflineVideoRecord.cachedMetadata, getMediaCacheKey]
      using own), if_neg (by
        simpa [OfflineVideoRecord.cachedMetadata] using allowed), if_pos own]
    rfl
  · rw [if_pos (by simpa [OfflineVideoRecord.cachedMetadata, getMediaCacheKey]
      using own), if_neg own]
    rfl

theorem cacheKey_of_completed {record : StoredVideo}
    (completed : record.status = .completed) :
    record.cacheKey = some ⟨record.id⟩ := by
  obtain ⟨_, _, _, _, _, _, own, _, complete⟩ :=
    assertOfflineVideoRecord_eq_ok.mp record.accepted
  cases key : record.cacheKey with
  | none => exact absurd ⟨completed, .inl (by rw [key]; rfl)⟩ complete
  | some path =>
      rw [key] at own
      simpa using own

theorem validation_valid {storage : Storage} {record : OfflineVideoRecord}
    {byteSize : Nat}
    (valid : validation record.cachedMetadata (mediaOf storage record.id) =
      .valid byteSize) : HasMedia storage record := by
  unfold validation at valid
  split at valid
  · cases valid
  · rename_i media found
    split at valid
    · cases valid
    · rename_i allowed
      split at valid
      · cases valid
      · rename_i size
        exact ⟨media, found, not_not.mp allowed, not_not.mp size⟩

theorem validation_of_hasMedia {storage : Storage}
    {record : OfflineVideoRecord} (media : HasMedia storage record) :
    validation record.cachedMetadata (mediaOf storage record.id) =
      .valid record.byteSize := by
  obtain ⟨cached, found, allowed, size⟩ := media
  rw [found]
  simp [validation, allowed, size, OfflineVideoRecord.cachedMetadata]

/-! One row. -/

structure Handled (before after : Storage) (row : LibraryRow) : Prop where
  others : ∀ text, text ≠ row.id →
    after.library.find? text = before.library.find? text
  fails : Broken before row.record.toOfflineVideoRecord →
    ∃ written, after.library.find? row.id = some written ∧
      IsNormal written ∧ written.record.status = .failed
  stays : ¬ Broken before row.record.toOfflineVideoRecord → after = before
  media : ∀ key, key ≠ .media ⟨row.record.id⟩ →
    after.media.find? key = before.media.find? key

theorem handled_failed {row : LibraryRow} {code : OfflineErrorCode}
    {failedAt now : Time} {storage cleared : Storage} (normal : IsNormal row)
    (broken : Broken storage row.record.toOfflineVideoRecord)
    (library : cleared.library = storage.library)
    (others : ∀ key, key ≠ .media ⟨row.record.id⟩ →
      cleared.media.find? key = storage.media.find? key) :
    Handled storage (cleared.putRow (failed row code failedAt now)) row where
  others := by
    intro text apart
    rw [← library]
    exact Table.find?_upsert_other (fun same => apart same.symm)
  fails := by
    intro _
    exact ⟨_, Table.find?_upsert_self, normal, rfl⟩
  stays := fun sound => absurd broken sound
  media := others

theorem find?_deleteMedia_other {storage : Storage} {videoId : UUID}
    {key : CacheKey} (apart : key ≠ .media ⟨videoId⟩) :
    (storage.deleteMedia ⟨videoId⟩).media.find? key =
      storage.media.find? key := by
  apply Table.find?_filter_kept
  intro row _ here
  rw [decide_eq_true_eq, here]
  exact apart

def Handles (clock : Nat → Time) (state : State) (row : LibraryRow)
    (valid : List (List Char)) (program : Browsing (Reconciled (List Char))) :
    Prop :=
  ∃ summary noted after,
    program.play (respond clock) state = (.ok (summary, noted), after) ∧
    Handled state.storage after.storage row ∧
    ∀ text, text ∈ noted ↔ text ∈ valid ∨
      (text = row.id ∧ row.record.status = .completed ∧
        HasMedia state.storage row.record.toOfflineVideoRecord)

def cleared (state : State) (videoId : UUID) : State :=
  { state with storage := state.storage.deleteMedia ⟨videoId⟩ }

theorem play_removeMedia (videoId : UUID) (key : List Char)
    (summary : ReconciliationSummary (List Char)) :
    (removeMedia videoId key summary).play (respond clock) state =
      (.ok summary, cleared state videoId) := rfl

theorem handles_reconcileCompleted {row : LibraryRow} (normal : IsNormal row)
    (found : state.storage.library.find? row.id = some row)
    (completed : row.record.status = .completed)
    (summary : ReconciliationSummary (List Char)) (valid : List (List Char)) :
    Handles clock state row valid
      (reconcileCompleted (listed row) summary valid) := by
  unfold reconcileCompleted Handles listed
  dsimp only
  rw [play_bind, play_validateCachedVideo,
    if_pos (cacheKey_of_completed completed)]
  dsimp only
  cases seen : validation row.record.cachedMetadata
      (mediaOf state.storage row.record.id) with
  | valid byteSize =>
      have media := validation_valid seen
      have sound : ¬ Broken state.storage row.record.toOfflineVideoRecord := by
        intro broken
        rcases broken with downloading | ⟨_, absent⟩
        · rw [completed] at downloading
          cases downloading
        · exact absent media
      refine ⟨_, _, state, rfl, ?_, ?_⟩
      · exact {
          others := fun _ _ => rfl
          fails := fun broken => absurd broken sound
          stays := fun _ => rfl
          media := fun _ _ => rfl }
      · intro text
        rw [List.mem_cons, or_comm]
        simp [completed, media]
  | missing =>
      have absent : ¬ HasMedia state.storage row.record.toOfflineVideoRecord := by
        intro media
        rw [validation_of_hasMedia media] at seen
        cases seen
      dsimp only
      rw [play_bind, play_markFailed _ normal found]
      refine ⟨_, _, _, rfl, ?_, ?_⟩
      · exact handled_failed normal (.inr ⟨completed, absent⟩) rfl
          fun _ _ => rfl
      · intro text
        simp [absent]
  | cacheKeyMismatch | invalidContentType | sizeMismatch =>
      have absent : ¬ HasMedia state.storage row.record.toOfflineVideoRecord := by
        intro media
        rw [validation_of_hasMedia media] at seen
        cases seen
      dsimp only
      have kept : (cleared state row.record.id).storage.library.find? row.id =
          some row := found
      rw [play_bind, play_removeMedia]
      dsimp only
      rw [play_bind, play_markFailed _ normal kept]
      refine ⟨_, _, _, rfl, ?_, ?_⟩
      · exact handled_failed normal (.inr ⟨completed, absent⟩) rfl
          fun _ => find?_deleteMedia_other
      · intro text
        simp [absent]

variable (clock) in
theorem handles_reconcileRecord {row : LibraryRow} (normal : IsNormal row)
    (found : state.storage.library.find? row.id = some row)
    (summary : ReconciliationSummary (List Char)) (valid : List (List Char)) :
    Handles clock state row valid
      (reconcileRecord (listed row) summary valid) := by
  unfold reconcileRecord
  cases status : row.record.status with
  | downloading =>
      dsimp only [listed]
      rw [status]
      unfold Handles
      have kept : (cleared state row.record.id).storage.library.find? row.id =
          some row := found
      dsimp only
      rw [play_bind, play_removeMedia]
      dsimp only
      rw [play_bind, play_markFailed _ normal kept]
      refine ⟨_, _, _, rfl, ?_, ?_⟩
      · exact handled_failed normal (.inl status) rfl
          fun _ => find?_deleteMedia_other
      · intro text
        simp [status]
  | completed =>
      dsimp only [listed]
      rw [status]
      exact handles_reconcileCompleted normal found status summary valid
  | queued | failed | deleted =>
      dsimp only [listed]
      rw [status]
      refine ⟨_, _, state, rfl, ?_, ?_⟩
      · exact {
          others := fun _ _ => rfl
          fails := by
            intro broken
            rcases broken with downloading | ⟨completed, _⟩
            · rw [status] at downloading
              cases downloading
            · rw [status] at completed
              cases completed
          stays := fun _ => rfl
          media := fun _ _ => rfl }
      · intro text
        simp [status]

/-! All rows. -/

theorem media_ne {first second : UUID} (apart : first ≠ second) :
    CacheKey.media ⟨first⟩ ≠ .media ⟨second⟩ := by
  intro clash
  injection clash with paths
  injection paths with same
  exact apart same

theorem id_ne {first second : LibraryRow} (normal : IsNormal first)
    (other : IsNormal second) (apart : first.id ≠ second.id) :
    first.record.id ≠ second.record.id := by
  intro same
  apply apart
  rw [text_of_normal normal, text_of_normal other, same]

theorem mediaOf_congr {first second : Storage} {videoId : UUID}
    (same : first.media.find? (.media ⟨videoId⟩) =
      second.media.find? (.media ⟨videoId⟩)) :
    mediaOf first videoId = mediaOf second videoId := by
  unfold mediaOf
  rw [same]

theorem hasMedia_congr {first second : Storage} {record : OfflineVideoRecord}
    (same : mediaOf first record.id = mediaOf second record.id) :
    HasMedia first record ↔ HasMedia second record := by
  unfold HasMedia
  rw [same]

theorem broken_congr {first second : Storage} {record : OfflineVideoRecord}
    (same : mediaOf first record.id = mediaOf second record.id) :
    Broken first record ↔ Broken second record := by
  unfold Broken
  rw [hasMedia_congr same]

structure Passed (before after : Storage) (rows : List LibraryRow) :
    Prop where
  others : ∀ text, (∀ row ∈ rows, row.id ≠ text) →
    after.library.find? text = before.library.find? text
  fails : ∀ row ∈ rows, Broken before row.record.toOfflineVideoRecord →
    ∃ written, after.library.find? row.id = some written ∧
      IsNormal written ∧ written.record.status = .failed
  stays : ∀ row ∈ rows, ¬ Broken before row.record.toOfflineVideoRecord →
    after.library.find? row.id = some row
  still : (∀ row ∈ rows, ¬ Broken before row.record.toOfflineVideoRecord) →
    after = before
  media : ∀ key, (∀ row ∈ rows, key ≠ .media ⟨row.record.id⟩ ∨
      ¬ Broken before row.record.toOfflineVideoRecord) →
    after.media.find? key = before.media.find? key

theorem Passed.nil (storage : Storage) : Passed storage storage [] where
  others := fun _ _ => rfl
  fails := fun _ member => absurd member List.not_mem_nil
  stays := fun _ member => absurd member List.not_mem_nil
  still := fun _ => rfl
  media := fun _ _ => rfl

theorem Passed.cons {before middle after : Storage} {row : LibraryRow}
    {rows : List LibraryRow} (apart : ∀ other ∈ rows, other.id ≠ row.id)
    (distinct : ∀ other ∈ rows, other.record.id ≠ row.record.id)
    (held : before.library.find? row.id = some row)
    (handled : Handled before middle row)
    (passed : Passed middle after rows) :
    Passed before after (row :: rows) := by
  have same : ∀ other ∈ rows, mediaOf middle other.record.id =
      mediaOf before other.record.id := by
    intro other member
    apply mediaOf_congr
    exact handled.media _ (media_ne (distinct other member))
  have own : after.library.find? row.id =
      middle.library.find? row.id := passed.others _ apart
  exact {
    others := by
      intro text none
      rw [passed.others text fun other member =>
        none other (List.mem_cons_of_mem _ member)]
      exact handled.others text fun clash =>
        none row List.mem_cons_self clash.symm
    fails := by
      intro other member broken
      rcases List.mem_cons.mp member with rfl | later
      · rw [own]
        exact handled.fails broken
      · exact passed.fails other later ((broken_congr (same other later)).mpr
          broken)
    stays := by
      intro other member sound
      rcases List.mem_cons.mp member with rfl | later
      · rw [own, handled.stays sound, held]
      · exact passed.stays other later fun broken =>
          sound ((broken_congr (same other later)).mp broken)
    still := by
      intro sound
      have first := handled.stays (sound row List.mem_cons_self)
      rw [passed.still, first]
      intro other member broken
      exact sound other (List.mem_cons_of_mem _ member)
        ((broken_congr (same other member)).mp broken)
    media := by
      intro key free
      have later : after.media.find? key = middle.media.find? key := by
        apply passed.media
        intro other member
        rw [broken_congr (same other member)]
        exact free other (List.mem_cons_of_mem _ member)
      rw [later]
      rcases free row List.mem_cons_self with other | sound
      · exact handled.media key other
      · rw [handled.stays sound] }

variable (clock) in
theorem play_reconcileRecords {rows : List LibraryRow}
    (normal : ∀ row ∈ rows, IsNormal row)
    (apart : (rows.map fun row => row.id).Nodup)
    (held : ∀ row ∈ rows, state.storage.library.find? row.id = some row)
    (summary : ReconciliationSummary (List Char)) (valid : List (List Char)) :
    ∃ summary' noted after,
      (reconcileRecords (rows.map listed) (summary, valid)).play
        (respond clock) state = (.ok (summary', noted), after) ∧
      Passed state.storage after.storage rows ∧
      ∀ text, text ∈ noted ↔ text ∈ valid ∨
        ∃ row ∈ rows, row.id = text ∧ row.record.status = .completed ∧
          HasMedia state.storage row.record.toOfflineVideoRecord := by
  induction rows generalizing state summary valid with
  | nil =>
      refine ⟨summary, valid, state, rfl, .nil _, ?_⟩
      intro text
      simp
  | cons row rest ih =>
      rw [List.map_cons, List.nodup_cons] at apart
      have texts : ∀ other ∈ rest, other.id ≠ row.id := by
        intro other member same
        exact apart.1 (List.mem_map.mpr ⟨other, member, same⟩)
      have own := normal row List.mem_cons_self
      have others : ∀ other ∈ rest, IsNormal other := fun other member =>
        normal other (List.mem_cons_of_mem _ member)
      have distinct : ∀ other ∈ rest, other.record.id ≠ row.record.id :=
        fun other member => id_ne (others other member) own (texts other member)
      have here := held row List.mem_cons_self
      obtain ⟨first, noted, middle, played, handled, found⟩ :=
        handles_reconcileRecord clock own here summary valid
      have later : ∀ other ∈ rest,
          middle.storage.library.find? other.id = some other := by
        intro other member
        rw [handled.others other.id (texts other member)]
        exact held other (List.mem_cons_of_mem _ member)
      obtain ⟨last, all, after, onward, passed, listed⟩ :=
        ih others apart.2 later first noted
      refine ⟨last, all, after, ?_, .cons texts distinct here handled passed,
        ?_⟩
      · rw [List.map_cons, reconcileRecords, play_attempt, played]
        exact onward
      · intro text
        rw [listed, found]
        constructor
        · rintro ((before | ⟨rfl, completed, media⟩) |
            ⟨other, member, same, completed, media⟩)
          · exact .inl before
          · exact .inr ⟨row, List.mem_cons_self, rfl, completed, media⟩
          · have kept := handled.media _ (media_ne (distinct other member))
            exact .inr ⟨other, List.mem_cons_of_mem _ member, same, completed,
              (hasMedia_congr (mediaOf_congr kept)).mp media⟩
        · rintro (before | ⟨other, member, same, completed, media⟩)
          · exact .inl (.inl before)
          · rcases List.mem_cons.mp member with rfl | further
            · exact .inl (.inr ⟨same.symm, completed, media⟩)
            · have kept := handled.media _ (media_ne (distinct other further))
              exact .inr ⟨other, further, same, completed,
                (hasMedia_congr (mediaOf_congr kept)).mpr media⟩

/-! Orphans. -/

variable (clock state) in
theorem play_removeOrphans (valid : List (List Char)) (videoIds : List UUID)
    (summary : ReconciliationSummary (List Char)) :
    ∃ summary' after,
      (removeOrphans uuidText valid videoIds summary).play
        (respond clock) state = (.ok summary', after) ∧
      after.storage.library = state.storage.library ∧
      (∀ key, (∀ videoId ∈ videoIds, uuidText videoId ∉ valid →
          key ≠ .media ⟨videoId⟩) →
        after.storage.media.find? key = state.storage.media.find? key) ∧
      (∀ videoId ∈ videoIds, uuidText videoId ∉ valid →
        after.storage.media.find? (.media ⟨videoId⟩) = none) ∧
      ((∀ videoId ∈ videoIds, uuidText videoId ∈ valid) → after = state) := by
  induction videoIds generalizing state summary with
  | nil =>
      exact ⟨summary, state, rfl, rfl, fun _ _ => rfl,
        fun _ member => absurd member List.not_mem_nil, fun _ => rfl⟩
  | cons videoId rest ih =>
      by_cases known : uuidText videoId ∈ valid
      · obtain ⟨last, after, played, library, kept, removed, still⟩ :=
          @ih state summary
        refine ⟨last, after, ?_, library, ?_, ?_, ?_⟩
        · rw [removeOrphans, if_pos known]
          exact played
        · intro key free
          exact kept key fun other member =>
            free other (List.mem_cons_of_mem _ member)
        · intro other member unknown
          rcases List.mem_cons.mp member with rfl | later
          · exact absurd known unknown
          · exact removed other later unknown
        · intro all
          exact still fun other member =>
            all other (List.mem_cons_of_mem _ member)
      · obtain ⟨last, after, played, library, kept, removed, still⟩ :=
          @ih (cleared state videoId)
            { summary with
              orphanCacheEntriesDeleted := summary.orphanCacheEntriesDeleted +
                if (state.storage.media.find? (.media ⟨videoId⟩)).isSome then 1
                else 0 }
        have gone : (cleared state videoId).storage.media.find?
            (.media ⟨videoId⟩) = none := by
          apply Table.find?_filter_dropped
          intro row _ here
          rw [decide_eq_false_iff_not, not_not]
          exact here
        refine ⟨last, after, ?_, library, ?_, ?_, ?_⟩
        · rw [removeOrphans, if_neg known, play_attempt,
            play_deleteCachedVideo]
          exact played
        · intro key free
          rw [kept key fun other member =>
            free other (List.mem_cons_of_mem _ member)]
          exact find?_deleteMedia_other (free videoId List.mem_cons_self known)
        · intro other member unknown
          by_cases listed : other ∈ rest
          · exact removed other listed unknown
          · obtain rfl := (List.mem_cons.mp member).resolve_right listed
            rw [kept _ fun further member _ clash => ?_]
            · exact gone
            · cases clash
              exact listed member
        · intro all
          exact absurd (all videoId List.mem_cons_self) known

/-! The whole library. -/

theorem mem_canonicalIds {keys : List CacheKey} {videoId : UUID} :
    videoId ∈ canonicalIds keys ↔ .media ⟨videoId⟩ ∈ keys := by
  unfold canonicalIds
  rw [List.mem_insertionSort, List.mem_filterMap]
  constructor
  · rintro ⟨key, member, same⟩
    cases key with
    | media path =>
        cases same
        exact member
    | other url => cases same
  · intro member
    exact ⟨_, member, rfl⟩

theorem mem_mediaKeys {media : MediaCache} {key : CacheKey} :
    key ∈ media.rows.map (·.1) ↔ (media.find? key).isSome = true := by
  constructor
  · intro member
    obtain ⟨row, listed, same⟩ := List.mem_map.mp member
    rw [Table.find?_eq_some.mpr ⟨listed, same⟩]
    rfl
  · intro found
    obtain ⟨row, found⟩ := Option.isSome_iff_exists.mp found
    obtain ⟨listed, same⟩ := Table.find?_eq_some.mp found
    exact List.mem_map.mpr ⟨row, listed, same⟩

theorem eq_of_uuidText {first second : UUID} (fits : first < 2 ^ 128)
    (other : second < 2 ^ 128) (same : uuidText first = uuidText second) :
    first = second := by
  have read := readUuid_uuidText fits
  rw [same, readUuid_uuidText other] at read
  exact (Option.some.inj read).symm

theorem fits_of_cached {storage : Storage} {videoId : UUID}
    (cached : (storage.media.find? (.media ⟨videoId⟩)).isSome = true) :
    videoId < 2 ^ 128 := by
  obtain ⟨row, found⟩ := Option.isSome_iff_exists.mp cached
  obtain ⟨member, same⟩ := Table.find?_eq_some.mp found
  exact storage.identified row member videoId same

def Complete (storage : Storage) (videoId : UUID) : Prop :=
  ∃ row ∈ storage.library, row.record.id = videoId ∧
    row.record.status = .completed ∧
    HasMedia storage row.record.toOfflineVideoRecord

structure Reconciles (before after : Storage) : Prop where
  fails : ∀ row ∈ before.library,
    Broken before row.record.toOfflineVideoRecord →
      ∃ written, after.library.find? row.id = some written ∧
        IsNormal written ∧ written.record.status = .failed
  stays : ∀ row ∈ before.library,
    ¬ Broken before row.record.toOfflineVideoRecord →
      after.library.find? row.id = some row
  absent : ∀ text, before.library.find? text = none →
    after.library.find? text = none
  foreign : ∀ url, after.media.find? (.other url) =
    before.media.find? (.other url)
  kept : ∀ videoId, Complete before videoId →
    after.media.find? (.media ⟨videoId⟩) =
      before.media.find? (.media ⟨videoId⟩)
  removed : ∀ videoId, ¬ Complete before videoId →
    after.media.find? (.media ⟨videoId⟩) = none
  still : (∀ row ∈ before.library,
      ¬ Broken before row.record.toOfflineVideoRecord) →
    (∀ videoId, (mediaOf before videoId).isSome = true →
      Complete before videoId) → after = before

theorem mem_sortRows {rows : List LibraryRow} {row : LibraryRow} :
    row ∈ sortRows rows ↔ row ∈ rows :=
  List.mem_insertionSort _

theorem sound_of_complete {storage : Storage} {row : LibraryRow}
    (normal : ∀ row ∈ storage.library, IsNormal row)
    (member : row ∈ storage.library)
    (complete : Complete storage row.record.id) :
    ¬ Broken storage row.record.toOfflineVideoRecord := by
  obtain ⟨other, present, same, completed, media⟩ := complete
  have texts : other.id = row.id := by
    rw [text_of_normal (normal other present),
      text_of_normal (normal row member), same]
  obtain rfl := Table.eq_of_key_eq present member texts
  intro broken
  rcases broken with downloading | ⟨_, absent⟩
  · rw [completed] at downloading
    cases downloading
  · exact absent media

theorem play_reconcile (clock : Nat → Time) {state : State}
    (normal : ∀ row ∈ state.storage.library, IsNormal row) :
    ∃ summary after, reconcile clock state = (.ok summary, after) ∧
      Reconciles state.storage after.storage := by
  have sorted : ∀ row, row ∈ sortRows state.storage.library.rows ↔
      row ∈ state.storage.library := fun _ => mem_sortRows
  have apart : ((sortRows state.storage.library.rows).map
      fun row => row.id).Nodup :=
    ((List.perm_insertionSort _ _).map _).nodup_iff.mpr
      state.storage.library.keysNodup
  have held : ∀ row ∈ sortRows state.storage.library.rows,
      state.storage.library.find? row.id = some row := fun row member =>
    Table.find?_eq_some.mpr ⟨(sorted row).mp member, rfl⟩
  obtain ⟨first, noted, middle, played, passed, found⟩ :=
    play_reconcileRecords clock
      (fun row member => normal row ((sorted row).mp member)) apart held
      emptySummary []
  obtain ⟨last, after, swept, library, others, orphans, still⟩ :=
    play_removeOrphans clock middle noted
      (canonicalIds (middle.storage.media.rows.map (·.1))) first
  have complete : ∀ videoId < 2 ^ 128, uuidText videoId ∈ noted ↔
      Complete state.storage videoId := by
    intro videoId fits
    rw [found]
    constructor
    · intro member
      rcases member with absent | ⟨row, member, same, completed, media⟩
      · cases absent
      · have present := (sorted row).mp member
        rw [text_of_normal (normal row present)] at same
        exact ⟨row, present, eq_of_uuidText row.fits fits same, completed,
          media⟩
    · intro whole
      obtain ⟨row, present, rfl, completed, media⟩ := whole
      exact .inr ⟨row, (sorted row).mpr present,
        text_of_normal (normal row present), completed, media⟩
  refine ⟨last, after, ?_, ?_⟩
  · unfold reconcile reconcileListed
    rw [play_bind, played]
    dsimp only
    rw [play_attempt, play_listCachedVideoIds]
    exact swept
  · exact {
      fails := by
        intro row member broken
        rw [library]
        exact passed.fails row ((sorted row).mpr member) broken
      stays := by
        intro row member whole
        rw [library]
        exact passed.stays row ((sorted row).mpr member) whole
      absent := by
        intro text none
        rw [library, passed.others, none]
        intro row member
        exact Table.find?_eq_none.mp none row ((sorted row).mp member)
      foreign := by
        intro url
        rw [others _ fun _ _ _ clash => by cases clash]
        exact passed.media _ fun _ _ => .inl fun clash => by cases clash
      kept := by
        intro videoId whole
        have fits : videoId < 2 ^ 128 := by
          obtain ⟨row, _, rfl, _⟩ := whole
          exact row.fits
        have valid := (complete videoId fits).mpr whole
        rw [others]
        · apply passed.media
          intro row member
          by_cases here : row.record.id = videoId
          · subst here
            exact .inr (sound_of_complete normal ((sorted row).mp member) whole)
          · exact .inl (media_ne fun same => here same.symm)
        · intro other _ unknown
          apply media_ne
          intro same
          subst same
          exact unknown valid
      removed := by
        intro videoId partly
        by_cases present : (middle.storage.media.find?
            (.media ⟨videoId⟩)).isSome = true
        · have unknown : uuidText videoId ∉ noted := fun member =>
            partly ((complete videoId (fits_of_cached present)).mp member)
          exact orphans videoId (mem_canonicalIds.mpr
            (mem_mediaKeys.mpr present)) unknown
        · rw [others]
          · simpa using present
          · intro other listed _
            apply media_ne
            intro same
            subst same
            exact present (mem_mediaKeys.mp (mem_canonicalIds.mp listed))
      still := by
        intro whole owned
        have same : middle.storage = state.storage :=
          passed.still fun row member => whole row ((sorted row).mp member)
        rw [still, same]
        intro videoId member
        rw [mem_canonicalIds, mem_mediaKeys] at member
        apply (complete videoId (fits_of_cached member)).mpr
        apply owned
        rw [same] at member
        unfold mediaOf
        rwa [Option.isSome_map] }

end

/-! Main result. -/

namespace Reconciles

variable {before after : Storage}

theorem row_cases (reconciles : Reconciles before after)
    {row : LibraryRow} (member : row ∈ after.library) :
    (row ∈ before.library ∧
      ¬ Broken before row.record.toOfflineVideoRecord) ∨
      (IsNormal row ∧ row.record.status = .failed) := by
  have here := Table.find?_eq_some.mpr ⟨member, rfl⟩
  cases found : before.library.find? row.id with
  | none =>
      rw [reconciles.absent _ found] at here
      cases here
  | some old =>
      obtain ⟨present, same⟩ := Table.find?_eq_some.mp found
      by_cases broken : Broken before old.record.toOfflineVideoRecord
      · obtain ⟨written, now, failed⟩ := reconciles.fails old present broken
        rw [same, here] at now
        obtain rfl := Option.some.inj now
        exact .inr failed
      · have now := reconciles.stays old present broken
        rw [same, here] at now
        obtain rfl := Option.some.inj now
        exact .inl ⟨present, broken⟩

theorem normal (reconciles : Reconciles before after)
    (normal : ∀ row ∈ before.library, IsNormal row) :
    ∀ row ∈ after.library, IsNormal row := by
  intro row member
  rcases reconciles.row_cases member with ⟨present, _⟩ | ⟨written, _⟩
  · exact normal row present
  · exact written

theorem hasMedia (reconciles : Reconciles before after) {row : LibraryRow}
    (member : row ∈ before.library) (completed : row.record.status = .completed)
    (media : HasMedia before row.record.toOfflineVideoRecord) :
    HasMedia after row.record.toOfflineVideoRecord := by
  apply (hasMedia_congr (mediaOf_congr _)).mpr media
  exact reconciles.kept row.record.id ⟨row, member, rfl, completed, media⟩

theorem settled (reconciles : Reconciles before after) : Settled after where
  idle := by
    intro row member downloading
    rcases reconciles.row_cases member with ⟨_, sound⟩ | ⟨_, failed⟩
    · exact sound (.inl downloading)
    · rw [failed] at downloading
      cases downloading
  complete := by
    intro row member completed
    rcases reconciles.row_cases member with ⟨present, sound⟩ | ⟨_, failed⟩
    · apply reconciles.hasMedia present completed
      by_contra absent
      exact sound (.inr ⟨completed, absent⟩)
    · rw [failed] at completed
      cases completed
  owned := by
    intro videoId
    constructor
    · intro found
      by_contra none
      have gone : (mediaOf after videoId).isSome = false := by
        unfold mediaOf
        rw [reconciles.removed]
        · rfl
        · intro whole
          obtain ⟨row, member, same, completed, media⟩ := whole
          have sound : ¬ Broken before row.record.toOfflineVideoRecord := by
            intro broken
            rcases broken with downloading | ⟨_, absent⟩
            · rw [completed] at downloading
              cases downloading
            · exact absent media
          have now := reconciles.stays row member sound
          exact none ⟨row, (Table.find?_eq_some.mp now).1, same, completed⟩
      rw [found] at gone
      cases gone
    · intro owner
      obtain ⟨row, member, rfl, completed⟩ := owner
      rcases reconciles.row_cases member with ⟨present, sound⟩ | ⟨_, failed⟩
      · have media : HasMedia before row.record.toOfflineVideoRecord := by
          by_contra absent
          exact sound (.inr ⟨completed, absent⟩)
        obtain ⟨cached, found, _⟩ :=
          reconciles.hasMedia present completed media
        rw [found]
        rfl
      · rw [failed] at completed
        cases completed

theorem spared (reconciles : Reconciles before after) :
    Spared before after where
  records := fun row member sound =>
    (Table.find?_eq_some.mp (reconciles.stays row member sound)).1
  foreign := reconciles.foreign

/-- Once settled, the storage stays as it is. -/
theorem fixed {last : Storage} (settled : Settled before)
    (reconciles : Reconciles before last) : last = before := by
  apply reconciles.still
  · intro row member broken
    rcases broken with downloading | ⟨completed, absent⟩
    · exact settled.idle row member downloading
    · exact absent (settled.complete row member completed)
  · intro videoId present
    obtain ⟨row, member, same, completed⟩ :=
      (settled.owned videoId).mp present
    exact ⟨row, member, same, completed,
      settled.complete row member completed⟩

end Reconciles

/-- A run and one right after it: the storage is settled, and stays. -/
def Settles (clock later : Nat → Time) (state : State) : Prop :=
  ∃ summary after again last,
    reconcile clock state = (.ok summary, after) ∧
    Settled after.storage ∧ Spared state.storage after.storage ∧
    reconcile later after = (.ok again, last) ∧ last.storage = after.storage

/-- Whatever the library and the cache hold at first, as long as every record
is stored under the normal form of its identifier. -/
theorem reconciliation_settles (clock later : Nat → Time) (state : State)
    (normal : ∀ row ∈ state.storage.library, IsNormal row) :
    Settles clock later state := by
  obtain ⟨summary, after, played, reconciles⟩ := play_reconcile clock normal
  obtain ⟨again, last, replayed, twice⟩ :=
    play_reconcile later (reconciles.normal normal)
  exact ⟨summary, after, again, last, played, reconciles.settled,
    reconciles.spared, replayed, twice.fixed reconciles.settled⟩

/-! A download that was interrupted. -/

def sampleId : UUID := 0x0000000a000040008000000000000001

def interruptedVideo : StoredVideo where
  id := sampleId
  title := "A"
  contentType := "video/mp4"
  byteSize := 10
  createdAt := 0
  status := .downloading
  downloadedBytes := 4
  downloadedAt := none
  cacheKey := none
  lastErrorCode := none
  lastErrorMessage := none
  failedAt := none
  lastWatchedAt := none
  viewedAt := none
  deleteAfter := none
  deletionState := none
  viewSyncState := none
  viewSyncAttempts := none
  lastViewReasonCode := none
  updatedAt := 0
  accepted := by decide +kernel

def interrupted (id : List Char)
    (normalizes : normalizeVideoId id = some (uuidText sampleId)) : State where
  storage := {
    library := ⟨[⟨id, interruptedVideo, normalizes, by decide⟩], by simp⟩
    media := ⟨[(.media ⟨sampleId⟩, ⟨"video/mp4", 4⟩)], by simp⟩
    identified := by
      intro row member videoId same
      rw [List.mem_singleton.mp member] at same
      cases same
      decide }
  reads := 0

def normalInterrupted : State :=
  interrupted "0000000a-0000-4000-8000-000000000001".toList
    (by decide +kernel)

def capitalInterrupted : State :=
  interrupted "0000000A-0000-4000-8000-000000000001".toList
    (by decide +kernel)

theorem sample_reconciliation_settles :
    Settles (fun _ => 0) (fun _ => 1) normalInterrupted :=
  reconciliation_settles (fun _ => 0) (fun _ => 1) normalInterrupted
    (by decide +kernel)

/-- The record is looked for under the normal form, and stays as it was. -/
theorem capital_record_downloading :
    ¬ Settles (fun _ => 0) (fun _ => 1) capitalInterrupted := by
  intro settles
  obtain ⟨summary, after, _, _, played, settled, _⟩ := settles
  have left : ∃ row ∈ (reconcile (fun _ => 0)
      capitalInterrupted).2.storage.library,
        row.record.status = .downloading := by
    decide +kernel
  rw [played] at left
  obtain ⟨row, member, downloading⟩ := left
  exact settled.idle row member downloading

end OfflineReels.Offline.ReconciliationRuns
