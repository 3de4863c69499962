import OfflineReels.Offline.Browser

namespace OfflineReels.Offline

open OfflineReels.Foundation
open OfflineReels.Foundation.Program
open OfflineReels.Instagram

/-! The repository of the offline library.  An update reads and writes in two
transactions; the first view and a clear are one each. -/

def throwOffline {α : Type} (code : OfflineErrorCode) : Browsing α :=
  raise (.offlineStorage code)

def orThrow {α : Type} : Except OfflineErrorCode α → Browsing α
  | .ok value => pure value
  | .error code => throwOffline code

/-- What the database raises reaches the caller as a storage error. -/
def withOfflineDatabase {α : Type} (operation : Browsing α) : Browsing α :=
  operation.attempt fun
    | .ok value => pure value
    | .error error =>
        throwOffline (toOfflineStorageError error .unknownError)

section

variable {State : Type} {respond : State → (request : BrowserCall) →
  Except JsError (BrowserReply request) × State}

theorem play_browse (request : BrowserCall) (state : State) :
    (browse request).play respond state = respond state request := rfl

theorem play_withOfflineDatabase {α : Type} (operation : Browsing α)
    (state : State) :
    (withOfflineDatabase operation).play respond state =
      match operation.play respond state with
      | (.ok value, after) => (.ok value, after)
      | (.error error, after) =>
          (.error (.offlineStorage
            (toOfflineStorageError error .unknownError)), after) := by
  rw [withOfflineDatabase, play_attempt]
  generalize operation.play respond state = played
  obtain ⟨outcome, after⟩ := played
  cases outcome with
  | ok value => rfl
  | error error => rfl

end

def getOfflineVideo (videoId : UUID) : Browsing (Option StoredVideo) :=
  withOfflineDatabase (browse (.getVideo videoId))

def listOfflineVideos : Browsing (List StoredVideo) := do
  let records : List StoredVideo ←
    withOfflineDatabase (browse .getAllVideos)
  return sortRecords records

def putOfflineVideo (record : OfflineVideoRecord) : Browsing Unit := do
  let stored ← orThrow (accept record)
  withOfflineDatabase (browse (.putVideo stored))

def writePatched (patch : OfflineVideoPatch) :
    Option StoredVideo → Browsing (Option StoredVideo)
  | none => pure none
  | some existing => do
      let now : Time ← browse .now
      let updated ←
        orThrow (accept (applyPatch existing.toOfflineVideoRecord patch now))
      let _ : Unit ← browse (.putVideo updated)
      return some updated

/-- Another transaction may come between the read and the write. -/
def updateOfflineVideo (videoId : UUID) (patch : OfflineVideoPatch) :
    Browsing (Option StoredVideo) :=
  withOfflineDatabase do
    let existing : Option StoredVideo ← browse (.getVideo videoId)
    writePatched patch existing

def markOfflineVideoViewed (videoId : UUID) (viewedAt : Time) :
    Browsing (Option ViewedOfflineVideo) :=
  withOfflineDatabase (browse (.markVideoViewed videoId viewedAt))

def deleteOfflineVideo (videoId : UUID) : Browsing Unit :=
  withOfflineDatabase (browse (.deleteVideo videoId))

def clearOfflineVideos (preserveViewed : Bool) : Browsing Unit :=
  withOfflineDatabase (browse (.clearVideos preserveViewed))

end OfflineReels.Offline
