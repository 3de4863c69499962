import OfflineReels.Foundation.Interleaving
import OfflineReels.Management.Idempotency

namespace OfflineReels.Management.ViewSync

open OfflineReels.Foundation
open OfflineReels.Foundation.Program
open OfflineReels.Instagram

/-! View synchronization, statement by statement.  The advisory lock and the
row locks only rule out interleavings, and are left out. -/

inductive ViewCall
  | now
  | begin (request : MutationRequest) (key : String) (now : Time)
  | ownedReels (accountId : UUID) (videoIds : List UUID)
  | viewed (accountId reelId : UUID)
  | insertView (accountId reelId deviceUuid : UUID)
  | commit (now : Time) (stored : Option ManagementIdempotencyRecord)
  | rollback
  | findRecord (request : MutationRequest) (key : String)
  | respond (request : MutationRequest) (answer : Answer)

@[reducible] def ViewReply : ViewCall → Type
  | .now => Time
  | .begin _ _ _ => Option ManagementIdempotencyRecord
  | .ownedReels _ _ => List (UUID × InstagramReel)
  | .viewed _ _ => Bool
  | .insertView _ _ _ => Unit
  | .commit _ _ => Unit
  | .rollback => Unit
  | .findRecord _ _ => Option ManagementIdempotencyRecord
  | .respond _ _ => Unit

abbrev ViewProgram (α : Type) : Type := Program ViewCall ViewReply ActionFault α

def execute (request : ViewCall) : ViewProgram (ViewReply request) :=
  perform request

/-- A request of a session, each of which belongs to one account; the events
are gone through in the order of a set. -/
structure ViewSyncRequest (owner : UUID → UUID) where
  session : ManagementDeviceSession
  key : Option String
  payload : ViewedReelSyncRequest
  requested : List UUID
  recordId : UUID
  permuted : requested.Perm payload.events
  owned : session.accountId = owner session.id

variable {owner : UUID → UUID}

namespace ViewSyncRequest

def request (sync : ViewSyncRequest owner) : MutationRequest where
  session := sync.session
  key := sync.key
  command := .syncViewedReels sync.payload

def isIntegrityError : ActionFault → Bool
  | .database .integrityError => true
  | _ => false

/-- The insert in its savepoint; a collision is passed over. -/
def insertFirst (sync : ViewSyncRequest owner) (reel : InstagramReel) :
    ViewProgram Unit :=
  (execute (.insertView sync.session.accountId reel.id
    sync.payload.deviceUuid)).rescue isIntegrityError fun _ => pure ()

def recordViews (sync : ViewSyncRequest owner)
    (owned : List (UUID × InstagramReel)) : List UUID → ViewProgram Unit
  | [] => pure ()
  | videoId :: rest =>
      match ownedReel owned videoId with
      | none => raise (.database .lookupError)
      | some reel => do
          if ← execute (.viewed sync.session.accountId reel.id) then
            sync.recordViews owned rest
          else
            sync.insertFirst reel
            sync.recordViews owned rest

def action (sync : ViewSyncRequest owner) :
    ViewProgram (Nat × ResponseBody) := do
  let owned ← execute (.ownedReels sync.session.accountId sync.requested)
  let known := owned.map (·.1)
  if sync.requested.all (· ∈ known) && known.all (· ∈ sync.requested) then
    sync.recordViews owned sync.requested
    return (200, .confirmedVideoIds (sync.requested.insertionSort (· ≤ ·)))
  else raise (.management invalidViewEvent)

/-- The transaction of `_idempotent`. -/
def transact (sync : ViewSyncRequest owner) (key : String) (now : Time) :
    ViewProgram Answer := do
  let existing ← execute (.begin sync.request key now)
  match existing with
  | some existing =>
      if existing.requestFingerprint ≠ ⟨sync.request.command.body⟩ then
        raise (.management idempotencyConflict)
      else
        execute (.commit now none)
        return .response existing.responseStatus existing.responseBody true
  | none =>
      let (status, result) ← sync.action
      execute (.commit now
        (some (recordOf sync.recordId sync.request key now status result)))
      return .response status result false

/-- After an integrity error the record of another transaction is looked up. -/
def recover (sync : ViewSyncRequest owner) (key : String) :
    ViewProgram Answer := do
  let existing ← execute (.findRecord sync.request key)
  match existing with
  | some existing =>
      if existing.requestFingerprint = ⟨sync.request.command.body⟩ then
        return .response existing.responseStatus existing.responseBody true
      else return .error serviceUnavailable
  | none => return .error serviceUnavailable

def settle (sync : ViewSyncRequest owner) (key : String) :
    ActionFault → ViewProgram Answer
  | .management error => pure (.error error)
  | .database .integrityError => sync.recover key
  | .database error => pure (.raised error)

def idempotent (sync : ViewSyncRequest owner) : ViewProgram Answer :=
  match idempotencyKey sync.key with
  | .error error => pure (.error error)
  | .ok key => do
      let now ← execute .now
      (sync.transact key now).attempt fun
        | .ok answer => pure answer
        | .error fault => do
            execute .rollback
            sync.settle key fault

/-- What is raised elsewhere becomes the answer of the server. -/
def answered : Except ActionFault Answer → Answer
  | .ok answer => answer
  | .error (.management error) => .error error
  | .error (.database error) => .raised error

def program (sync : ViewSyncRequest owner) : ViewProgram Unit :=
  sync.idempotent.attempt fun outcome =>
    execute (.respond sync.request (answered outcome))

end ViewSyncRequest

/-- The views of open transactions are in the table, each seen by its writer
alone; what was answered is kept. -/
structure ViewStore where
  plane : ControlPlane
  writers : UUID → Option ThreadId
  answers : List (MutationRequest × Answer)

/-- What the outside decides about one call that takes effect. -/
structure Draw where
  now : Time := 0
  viewId : UUID := 0
  deriving DecidableEq, Repr

/-- A call takes effect and returns, is refused without effect, or takes effect
and its answer is lost. -/
inductive Choice
  | returns (draw : Draw)
  | refused (error : DatabaseError)
  | lost (draw : Draw) (error : DatabaseError)
  deriving DecidableEq, Repr

namespace ViewStore

abbrev database (store : ViewStore) : Database := store.plane.work.database

def withViews (store : ViewStore)
    (views : Table InstagramReelView UUID InstagramReelView.id) : ViewStore :=
  { store with
    plane := { store.plane with
      work := { store.plane.work with
        database := { store.plane.work.database with views } } } }

def seenBy (store : ViewStore) (thread : ThreadId) (view : InstagramReelView) :
    Bool :=
  store.writers view.id = none || store.writers view.id = some thread

def committed (store : ViewStore) : Database :=
  { store.database with
    views := store.database.views.filter fun view =>
      store.writers view.id = none }

def released (store : ViewStore) (thread : ThreadId) :
    UUID → Option ThreadId :=
  fun viewId =>
    if store.writers viewId = some thread then none else store.writers viewId

def rollback (store : ViewStore) (thread : ThreadId) : ViewStore :=
  { store.withViews (store.database.views.filter fun view =>
      store.writers view.id ≠ some thread) with
    writers := store.released thread }

/-- Nothing answers until the transaction of a colliding row has ended. -/
def insertView (store : ViewStore) (thread : ThreadId) (draw : Draw)
    (accountId reelId deviceUuid : UUID) :
    Option (ViewStore × Except ActionFault Unit) :=
  let view : InstagramReelView :=
    ⟨draw.viewId, accountId, reelId, some deviceUuid, draw.now⟩
  if store.database.views.rows.any fun row => row.id = draw.viewId then none
  else
    match store.database.views.rows.find? fun row => view.conflictsWith row with
    | some row =>
        if store.seenBy thread row then
          some (store, .error (.database .integrityError))
        else none
    | none =>
        match store.database.views.insert? view with
        | none => none
        | some views =>
            some ({ store.withViews views with
              writers := Function.update store.writers draw.viewId
                (some thread) }, .ok ())

/-- A record that is refused rolls the transaction back. -/
def commit (store : ViewStore) (thread : ThreadId) (now : Time)
    (stored : Option ManagementIdempotencyRecord) :
    ViewStore × Except ActionFault Unit :=
  let plane := store.plane.cleanupExpired now
  match stored with
  | none => ({ store with plane, writers := store.released thread }, .ok ())
  | some record =>
      match plane.insertRecord record with
      | .ok plane =>
          ({ store with plane, writers := store.released thread }, .ok ())
      | .error error => (store.rollback thread, .error (.database error))

/-- A transaction that its worker left open is dropped when the next begins. -/
def effect (store : ViewStore) (thread : ThreadId) (draw : Draw) :
    (request : ViewCall) →
      Option (ViewStore × Except ActionFault (ViewReply request))
  | .now => some (store, .ok draw.now)
  | .begin request key now =>
      some (store.rollback thread,
        .ok ((store.plane.cleanupExpired now).findRecord request key))
  | .ownedReels accountId videoIds =>
      some (store,
        .ok (accountOwnedReelsByVideo store.database accountId videoIds))
  | .viewed accountId reelId =>
      some (store, .ok (store.database.views.rows.any fun view =>
        view.accountId = accountId && view.reelId = reelId &&
          store.seenBy thread view))
  | .insertView accountId reelId deviceUuid =>
      store.insertView thread draw accountId reelId deviceUuid
  | .commit now stored => some (store.commit thread now stored)
  | .rollback => some (store.rollback thread, .ok ())
  | .findRecord request key =>
      some (store, .ok (store.plane.findRecord request key))
  | .respond request answer =>
      some ({ store with answers := (request, answer) :: store.answers },
        .ok ())

/-- An integrity error is raised by a collision alone. -/
def perform (thread : ThreadId) (store : ViewStore) (request : ViewCall) :
    Choice → Option (ViewStore × Except ActionFault (ViewReply request))
  | .returns draw => store.effect thread draw request
  | .refused error =>
      if error = .integrityError then none
      else some (store, .error (.database error))
  | .lost draw error =>
      if error = .integrityError then none
      else (store.effect thread draw request).map fun (after, _) =>
        (after, .error (.database error))

end ViewStore

end OfflineReels.Management.ViewSync
