import OfflineReels.Foundation.Interleaving
import OfflineReels.Offline.Browser

namespace OfflineReels.Offline

open OfflineReels.Foundation
open OfflineReels.Foundation.Program
open OfflineReels.Instagram

/-! The record of the local reserve and the two ways to get at it.  A read and
a write of the record are transactions of their own. -/

/-- A number of the language, of which only the whole ones are told apart. -/
inductive JsNumber
  | integer (value : Int)
  | other
  deriving DecidableEq, Repr

inductive ReserveCycleIntent
  | none
  | manual
  | auto
  deriving DecidableEq, Repr

/-- The only record of its store, under the key `primary`. -/
@[ext] structure LocalReserveRecord where
  deviceId : UUID
  autoRefillEnabled : Bool
  desiredCount : JsNumber
  lowWatermark : JsNumber
  maxStoragePercent : JsNumber
  lastSuccessfulReconciliationAt : Option Time
  pendingCycle : ReserveCycleIntent
  updatedAt : Time
  deriving DecidableEq, Repr

/-- The fields that a caller may change, absent where it leaves them. -/
structure LocalReservePatch where
  autoRefillEnabled : Option Bool := none
  desiredCount : Option JsNumber := none
  lowWatermark : Option JsNumber := none
  maxStoragePercent : Option JsNumber := none
  lastSuccessfulReconciliationAt : Option (Option Time) := none
  pendingCycle : Option ReserveCycleIntent := none
  deriving DecidableEq, Repr

/-- What the build decides. -/
structure ReserveBuild where
  AUTO_REFILL_ENABLED : Bool
  STAGE9_FIXTURE : Bool
  deriving DecidableEq, Repr

namespace ReserveBuild

variable (build : ReserveBuild)

def DEFAULT_DESIRED_RESERVE : Int := if build.STAGE9_FIXTURE then 3 else 20

def DEFAULT_LOW_WATERMARK : Int := 8

def DEFAULT_MAX_STORAGE_PERCENT : Int := 80

def defaultRecord (deviceId : UUID) (now : Time) : LocalReserveRecord where
  deviceId := deviceId
  autoRefillEnabled := false
  desiredCount := .integer build.DEFAULT_DESIRED_RESERVE
  lowWatermark := .integer DEFAULT_LOW_WATERMARK
  maxStoragePercent := .integer DEFAULT_MAX_STORAGE_PERCENT
  lastSuccessfulReconciliationAt := none
  pendingCycle := .none
  updatedAt := now

def visible (existing : LocalReserveRecord) : LocalReserveRecord :=
  if build.AUTO_REFILL_ENABLED then existing
  else { existing with autoRefillEnabled := false, pendingCycle := .none }

def patched (current : LocalReserveRecord) (patch : LocalReservePatch)
    (now : Time) : LocalReserveRecord where
  deviceId := current.deviceId
  autoRefillEnabled :=
    if build.AUTO_REFILL_ENABLED then
      patch.autoRefillEnabled.getD current.autoRefillEnabled
    else false
  desiredCount := patch.desiredCount.getD current.desiredCount
  lowWatermark := patch.lowWatermark.getD current.lowWatermark
  maxStoragePercent := patch.maxStoragePercent.getD current.maxStoragePercent
  lastSuccessfulReconciliationAt :=
    patch.lastSuccessfulReconciliationAt.getD
      current.lastSuccessfulReconciliationAt
  pendingCycle :=
    if build.AUTO_REFILL_ENABLED then
      patch.pendingCycle.getD current.pendingCycle
    else .none
  updatedAt := now

end ReserveBuild

/-- The identifiers that are made here are well formed. -/
def assertRecord (record : LocalReserveRecord) : Except JsError Unit :=
  match record.desiredCount, record.lowWatermark, record.maxStoragePercent with
  | .integer desired, .integer watermark, .integer percent =>
      if desired < 1 ∨ desired > 100 then .error .typeError
      else if watermark < 0 ∨ watermark ≥ desired then .error .typeError
      else if percent < 50 ∨ percent > 95 then .error .typeError
      else .ok ()
  | _, _, _ => .error .typeError

/-- A write names the patch that it is made for; `answer` is the call that
resolves for its caller. -/
inductive ReserveCall
  | get
  | randomUUID
  | now
  | put (patch : LocalReservePatch) (record : LocalReserveRecord)
  | answer (record : LocalReserveRecord)

@[reducible] def ReserveReply : ReserveCall → Type
  | .get => Option LocalReserveRecord
  | .randomUUID => UUID
  | .now => Time
  | .put _ _ => Unit
  | .answer _ => Unit

abbrev ReserveProgram (α : Type) : Type :=
  Program ReserveCall ReserveReply JsError α

namespace ReserveRepository

def transact (call : ReserveCall) : ReserveProgram (ReserveReply call) :=
  perform call

def withOfflineDatabase {α : Type} (operation : ReserveProgram α) :
    ReserveProgram α :=
  operation.attempt fun
    | .ok value => pure value
    | .error error =>
        raise (.offlineStorage (toOfflineStorageError error .unknownError))

variable (build : ReserveBuild)

def defaults : ReserveProgram LocalReserveRecord := do
  let deviceId ← transact .randomUUID
  let now ← transact .now
  pure (build.defaultRecord deviceId now)

def getLocalReserve : ReserveProgram LocalReserveRecord :=
  withOfflineDatabase do
    match ← transact .get with
    | some existing => pure (build.visible existing)
    | none =>
        let created ← defaults build
        transact (.put {} created)
        pure created

def current : ReserveProgram LocalReserveRecord := do
  match ← transact .get with
  | some existing => pure existing
  | none => defaults build

def updateLocalReserve (patch : LocalReservePatch) :
    ReserveProgram LocalReserveRecord :=
  withOfflineDatabase do
    let current ← current build
    let now ← transact .now
    let next := build.patched current patch now
    match assertRecord next with
    | .error error => raise error
    | .ok () =>
        transact (.put patch next)
        pure next

def setReserveCycleIntent (intent : ReserveCycleIntent) :
    ReserveProgram LocalReserveRecord :=
  updateLocalReserve build { pendingCycle := some intent }

end ReserveRepository

namespace LocalReservePatch

def onto (patch : LocalReservePatch) (record : LocalReserveRecord) :
    LocalReserveRecord where
  deviceId := record.deviceId
  autoRefillEnabled := patch.autoRefillEnabled.getD record.autoRefillEnabled
  desiredCount := patch.desiredCount.getD record.desiredCount
  lowWatermark := patch.lowWatermark.getD record.lowWatermark
  maxStoragePercent := patch.maxStoragePercent.getD record.maxStoragePercent
  lastSuccessfulReconciliationAt :=
    patch.lastSuccessfulReconciliationAt.getD
      record.lastSuccessfulReconciliationAt
  pendingCycle := patch.pendingCycle.getD record.pendingCycle
  updatedAt := record.updatedAt

/-- Both patches, the later one first where they meet. -/
def atop (later earlier : LocalReservePatch) : LocalReservePatch where
  autoRefillEnabled := later.autoRefillEnabled.or earlier.autoRefillEnabled
  desiredCount := later.desiredCount.or earlier.desiredCount
  lowWatermark := later.lowWatermark.or earlier.lowWatermark
  maxStoragePercent := later.maxStoragePercent.or earlier.maxStoragePercent
  lastSuccessfulReconciliationAt :=
    later.lastSuccessfulReconciliationAt.or
      earlier.lastSuccessfulReconciliationAt
  pendingCycle := later.pendingCycle.or earlier.pendingCycle

theorem onto_atop (later earlier : LocalReservePatch)
    (record : LocalReserveRecord) :
    (later.atop earlier).onto record = later.onto (earlier.onto record) := by
  simp [atop, onto, Option.getD_or]

@[simp] theorem onto_empty (record : LocalReserveRecord) :
    onto {} record = record := rfl

end LocalReservePatch

def ReserveBuild.allowed (build : ReserveBuild) (patch : LocalReservePatch) :
    LocalReservePatch :=
  if build.AUTO_REFILL_ENABLED then patch
  else { patch with
    autoRefillEnabled := patch.autoRefillEnabled.map fun _ => false
    pendingCycle := patch.pendingCycle.map fun _ => .none }

/-- The stored record, with all patches that were written and the identities
that were written or answered. -/
structure ReserveStore where
  record : Option LocalReserveRecord
  patched : LocalReservePatch
  devices : List UUID

/-- What the outside decides about one step of a call. -/
structure ReserveChoice where
  deviceId : UUID := 0
  now : Time := 0
  fault : Option JsError := none

def ReserveChoice.reply {α : Type} (choice : ReserveChoice) (value : α) :
    Except JsError α :=
  match choice.fault with
  | some error => .error error
  | none => .ok value

inductive ReserveJob
  | get
  | update (patch : LocalReservePatch)

namespace ReserveRepository

variable (build : ReserveBuild)

def program : ReserveJob → ReserveProgram Unit
  | .get => do
      let record ← getLocalReserve build
      transact (.answer record)
  | .update patch => do
      let record ← updateLocalReserve build patch
      transact (.answer record)

def write (store : ReserveStore) (patch : LocalReservePatch)
    (record : LocalReserveRecord) : ReserveStore where
  record := some record
  patched := (build.allowed patch).atop store.patched
  devices := record.deviceId :: store.devices

/-- A write that fails ends its call as a crash does. -/
def perform (store : ReserveStore) (choice : ReserveChoice) :
    (call : ReserveCall) → ReserveStore × Except JsError (ReserveReply call)
  | .get => (store, choice.reply store.record)
  | .randomUUID => (store, choice.reply choice.deviceId)
  | .now => (store, .ok choice.now)
  | .put patch record => (write build store patch record, .ok ())
  | .answer record =>
      ({ store with devices := record.deviceId :: store.devices }, .ok ())

/-- What a call knows of the record; where it found none, the identity that it
drew. -/
inductive ReservePhase
  | unread
  | read (existing : LocalReserveRecord)
  | missing
  | drew (deviceId : UUID)
  | wrote (deviceId : UUID)

/-- The record that a call goes on with, stored or new. -/
def Base (phase : ReservePhase) (base : LocalReserveRecord) : Prop :=
  match phase with
  | .read existing => base = existing
  | .drew deviceId => ∃ now, base = build.defaultRecord deviceId now
  | _ => False

def reserveProtocol :
    Protocol ReserveCall ReserveReply JsError ReservePhase where
  permits phase call :=
    match call with
    | .put patch record => ∃ base, Base build phase base ∧
        record = build.patched base patch record.updatedAt
    | .answer record =>
        (∃ existing, phase = .read existing ∧
          existing.deviceId = record.deviceId) ∨
          phase = .wrote record.deviceId
    | _ => True
  assumes _ _ _ := True
  advance phase call reply :=
    match call, reply with
    | .get, .ok (some existing) => .read existing
    | .get, .ok none => .missing
    | .randomUUID, .ok deviceId =>
        match phase with
        | .missing => .drew deviceId
        | _ => phase
    | .put _ record, .ok _ => .wrote record.deviceId
    | _, _ => phase

def reserveMachine : Machine ReserveCall ReserveReply JsError ReservePhase
    ReserveStore ReserveJob ReserveChoice where
  protocol := reserveProtocol build
  idle := .unread
  program := program build
  perform _ store call choice := some (perform build store choice call)

theorem defaults_follows :
    Follows (reserveProtocol build) .missing (defaults build)
      fun outcome reached => ∀ record, outcome = .ok record →
        Base build reached record ∧
          ∃ deviceId now, record = build.defaultRecord deviceId now := by
  refine ⟨trivial, fun reply _ => ?_⟩
  cases reply with
  | error error => exact nofun
  | ok deviceId =>
      refine ⟨trivial, fun reply _ => ?_⟩
      cases reply with
      | error error => exact nofun
      | ok now =>
          intro record same
          cases same
          exact ⟨⟨now, rfl⟩, deviceId, now, rfl⟩

theorem current_follows :
    Follows (reserveProtocol build) .unread (current build)
      fun outcome reached => ∀ base, outcome = .ok base →
        Base build reached base := by
  refine ⟨trivial, fun reply _ => ?_⟩
  cases reply with
  | error error => exact nofun
  | ok found =>
      cases found with
      | some existing =>
          intro base same
          cases same
          rfl
      | none =>
          refine (defaults_follows build).mono ?_
          intro outcome reached made base returned
          exact (made base returned).1

def Answers (record : LocalReserveRecord) (phase : ReservePhase) : Prop :=
  (reserveProtocol build).permits phase (.answer record)

theorem withOfflineDatabase_follows
    {operation : ReserveProgram LocalReserveRecord} {phase : ReservePhase}
    (follows : Follows (reserveProtocol build) phase operation
      fun outcome reached => ∀ record, outcome = .ok record →
        Answers build record reached) :
    Follows (reserveProtocol build) phase (withOfflineDatabase operation)
      fun outcome reached => ∀ record, outcome = .ok record →
        Answers build record reached := by
  refine follows.attempt fun outcome reached answers => ?_
  cases outcome with
  | error error => exact nofun
  | ok record => exact answers

theorem put_follows {phase : ReservePhase}
    {base record : LocalReserveRecord} {patch : LocalReservePatch}
    (same : Base build phase base)
    (shape : record = build.patched base patch record.updatedAt) :
    Follows (reserveProtocol build) phase
      (do transact (.put patch record); pure record)
      fun outcome reached => ∀ record, outcome = .ok record →
        Answers build record reached := by
  refine ⟨⟨base, same, shape⟩, fun reply _ => ?_⟩
  cases reply with
  | error error => exact nofun
  | ok _ =>
      intro other same
      cases same
      exact .inr rfl

theorem visible_deviceId (existing : LocalReserveRecord) :
    (build.visible existing).deviceId = existing.deviceId := by
  unfold ReserveBuild.visible
  split <;> rfl

theorem defaultRecord_patched (deviceId : UUID) (now : Time) :
    build.defaultRecord deviceId now =
      build.patched (build.defaultRecord deviceId now) {} now := by
  simp [ReserveBuild.patched, ReserveBuild.defaultRecord]

theorem getLocalReserve_follows :
    Follows (reserveProtocol build) .unread (getLocalReserve build)
      fun outcome reached => ∀ record, outcome = .ok record →
        Answers build record reached := by
  refine withOfflineDatabase_follows build ⟨trivial, fun reply _ => ?_⟩
  cases reply with
  | error error => exact nofun
  | ok found =>
      cases found with
      | some existing =>
          intro record same
          cases same
          exact .inl ⟨existing, rfl, (visible_deviceId build existing).symm⟩
      | none =>
          refine (defaults_follows build).bind ?_ fun _ _ _ => nofun
          intro created reached made
          obtain ⟨same, deviceId, now, rfl⟩ := made created rfl
          exact put_follows build same
            (defaultRecord_patched build deviceId now)

theorem updateLocalReserve_follows (patch : LocalReservePatch) :
    Follows (reserveProtocol build) .unread (updateLocalReserve build patch)
      fun outcome reached => ∀ record, outcome = .ok record →
        Answers build record reached := by
  refine withOfflineDatabase_follows build ?_
  refine (current_follows build).bind ?_ fun _ _ _ => nofun
  intro base reached read
  have same := read base rfl
  refine ⟨trivial, fun reply _ => ?_⟩
  cases reply with
  | error error => exact nofun
  | ok now =>
      simp only [attempt_done]
      split
      · exact nofun
      · exact put_follows build same rfl

theorem program_follows (job : ReserveJob) :
    Follows (reserveProtocol build) .unread (program build job)
      fun _ _ => True := by
  cases job with
  | get =>
      refine (getLocalReserve_follows build).bind ?_ fun _ _ _ => trivial
      exact fun record reached answers => ⟨answers record rfl, fun _ _ => trivial⟩
  | update patch =>
      refine (updateLocalReserve_follows build patch).bind ?_
        fun _ _ _ => trivial
      exact fun record reached answers => ⟨answers record rfl, fun _ _ => trivial⟩

/-- A field that no patch has set holds its default. -/
structure Grown (patches : LocalReservePatch) (record : LocalReserveRecord) :
    Prop where
  plain : patches.onto record =
    patches.onto (build.defaultRecord record.deviceId record.updatedAt)
  off : build.AUTO_REFILL_ENABLED = false →
    record.autoRefillEnabled = false ∧ record.pendingCycle = .none

structure Holds (store : ReserveStore) (phases : ThreadId → ReservePhase) :
    Prop where
  grown : ∀ record, store.record = some record →
    Grown build store.patched record
  unused : store.record = none → store.patched = {}
  carried : ∀ record, store.record = some record →
    store.patched.onto record = record
  identity : ∀ device ∈ store.devices,
    store.record.map LocalReserveRecord.deviceId = some device
  listed : ∀ record, store.record = some record →
    record.deviceId ∈ store.devices
  known : ∀ thread existing, phases thread = .read existing →
    Grown build store.patched existing ∧ existing.deviceId ∈ store.devices
  written : ∀ thread device, phases thread = .wrote device →
    device ∈ store.devices

/-- What is to hold after each step: there is one identity, that of the stored
record, and no patch is lost. -/
structure Lawful (store : ReserveStore) : Prop where
  identity : ∀ device ∈ store.devices,
    store.record.map LocalReserveRecord.deviceId = some device
  carried : ∀ record, store.record = some record →
    store.patched.onto record = record

/-- Two records have the same identity, and the same in each field that a patch
leaves. -/
structure Agree (patch : LocalReservePatch) (left right : LocalReserveRecord) :
    Prop where
  deviceId : left.deviceId = right.deviceId
  autoRefillEnabled : patch.autoRefillEnabled = none →
    left.autoRefillEnabled = right.autoRefillEnabled
  desiredCount : patch.desiredCount = none →
    left.desiredCount = right.desiredCount
  lowWatermark : patch.lowWatermark = none →
    left.lowWatermark = right.lowWatermark
  maxStoragePercent : patch.maxStoragePercent = none →
    left.maxStoragePercent = right.maxStoragePercent
  lastSuccessfulReconciliationAt :
    patch.lastSuccessfulReconciliationAt = none →
      left.lastSuccessfulReconciliationAt = right.lastSuccessfulReconciliationAt
  pendingCycle : patch.pendingCycle = none →
    left.pendingCycle = right.pendingCycle

/-- Where a record is stored by the time of a write, it is still the one that
the call has read, or differs from it in what the patch sets only.  A call that
found none has the default record with the identity that it drew. -/
def Current (store : ReserveStore) (phase : ReservePhase) :
    ReserveCall → Prop
  | .put patch _ => ∀ stored, store.record = some stored →
      ∀ base, Base build phase base → Agree patch base stored
  | _ => True

/-- With its default where no patch set it and the patches carried by what is
stored, a field keeps them exactly if it is set or read as it is stored. -/
theorem field_kept {α : Type} {later earlier : Option α}
    {base stored start : α} (baseGrown : earlier.getD base = earlier.getD start)
    (grown : earlier.getD stored = earlier.getD start)
    (carried : earlier.getD stored = stored) :
    (later.or earlier).getD (later.getD base) = later.getD base ↔
      later.getD base = later.getD stored := by
  cases later with
  | some value => exact iff_of_true rfl rfl
  | none =>
      have same : earlier.getD base = stored :=
        baseGrown.trans (grown.symm.trans carried)
      simp only [Option.none_or, Option.getD_none, same]
      exact eq_comm

theorem field_dropped {α β : Type} {later : Option β} {earlier : Option α}
    {stored fixed : α} (off : stored = fixed)
    (carried : earlier.getD stored = stored) :
    ((later.map fun _ => fixed).or earlier).getD fixed = fixed := by
  subst off
  cases later with
  | some value => rfl
  | none => exact carried

theorem put_carried {patches patch : LocalReservePatch}
    {base stored : LocalReserveRecord} {now : Time}
    (baseGrown : Grown build patches base)
    (grown : Grown build patches stored)
    (carried : patches.onto stored = stored) :
    ((build.patched base patch now).deviceId = stored.deviceId ∧
        ((build.allowed patch).atop patches).onto
          (build.patched base patch now) = build.patched base patch now) ↔
      build.patched base patch now = build.patched stored patch now := by
  have fields := LocalReserveRecord.ext_iff.mp carried
  have left := LocalReserveRecord.ext_iff.mp baseGrown.plain
  have right := LocalReserveRecord.ext_iff.mp grown.plain
  simp only [LocalReservePatch.onto] at fields left right
  obtain ⟨_, autoLeft, desiredLeft, watermarkLeft, storageLeft, lastLeft,
    cycleLeft, _⟩ := left
  obtain ⟨_, autoRight, desiredRight, watermarkRight, storageRight, lastRight,
    cycleRight, _⟩ := right
  obtain ⟨_, auto, desired, watermark, storage, last, cycle, _⟩ := fields
  have keptDesired := @field_kept _ patch.desiredCount _ _ _ _
    desiredLeft desiredRight desired
  have keptWatermark := @field_kept _ patch.lowWatermark _ _ _ _
    watermarkLeft watermarkRight watermark
  have keptStorage := @field_kept _ patch.maxStoragePercent _ _ _ _
    storageLeft storageRight storage
  have keptLast := @field_kept _ patch.lastSuccessfulReconciliationAt _ _ _ _
    lastLeft lastRight last
  rw [LocalReserveRecord.ext_iff, LocalReserveRecord.ext_iff]
  cases enabled : build.AUTO_REFILL_ENABLED with
  | true =>
      have keptAuto := @field_kept _ patch.autoRefillEnabled _ _ _ _
        autoLeft autoRight auto
      have keptCycle := @field_kept _ patch.pendingCycle _ _ _ _
        cycleLeft cycleRight cycle
      simp only [ReserveBuild.patched, ReserveBuild.allowed, enabled, if_true,
        LocalReservePatch.onto, LocalReservePatch.atop, keptAuto, keptDesired,
        keptWatermark, keptStorage, keptLast, keptCycle, true_and]
  | false =>
      obtain ⟨noAuto, noCycle⟩ := grown.off enabled
      have droppedAuto :=
        @field_dropped _ _ patch.autoRefillEnabled _ _ _ noAuto auto
      have droppedCycle :=
        @field_dropped _ _ patch.pendingCycle _ _ _ noCycle cycle
      simp only [ReserveBuild.patched, ReserveBuild.allowed, enabled,
        Bool.false_eq_true, if_false, LocalReservePatch.onto,
        LocalReservePatch.atop, droppedAuto, keptDesired, keptWatermark,
        keptStorage, keptLast, droppedCycle, true_and]

/-- A patch makes a field the same of both records exactly if it sets it or they
agree in it. -/
theorem getD_eq_getD_iff {α : Type} (patch : Option α) (left right : α) :
    patch.getD left = patch.getD right ↔ (patch = none → left = right) := by
  cases patch with
  | none => simp
  | some value => simp

theorem patched_eq_iff {patches patch : LocalReservePatch}
    {base stored : LocalReserveRecord} {now : Time}
    (baseGrown : Grown build patches base)
    (grown : Grown build patches stored) :
    build.patched base patch now = build.patched stored patch now ↔
      Agree patch base stored := by
  rw [LocalReserveRecord.ext_iff]
  simp only [ReserveBuild.patched, getD_eq_getD_iff]
  cases enabled : build.AUTO_REFILL_ENABLED with
  | true =>
      simp only [if_true, getD_eq_getD_iff]
      constructor
      · intro fields
        obtain ⟨device, auto, desired, watermark, storage, last, cycle, _⟩ :=
          fields
        exact ⟨device, auto, desired, watermark, storage, last, cycle⟩
      · intro agree
        exact ⟨agree.deviceId, agree.autoRefillEnabled, agree.desiredCount,
          agree.lowWatermark, agree.maxStoragePercent,
          agree.lastSuccessfulReconciliationAt, agree.pendingCycle, trivial⟩
  | false =>
      -- both records have the refill off already
      obtain ⟨baseAuto, baseCycle⟩ := baseGrown.off enabled
      obtain ⟨auto, cycle⟩ := grown.off enabled
      simp only [Bool.false_eq_true, if_false]
      constructor
      · intro fields
        obtain ⟨device, _, desired, watermark, storage, last, _, _⟩ := fields
        exact ⟨device, fun _ => baseAuto.trans auto.symm, desired, watermark,
          storage, last, fun _ => baseCycle.trans cycle.symm⟩
      · intro agree
        exact ⟨agree.deviceId, trivial, agree.desiredCount,
          agree.lowWatermark, agree.maxStoragePercent,
          agree.lastSuccessfulReconciliationAt, trivial, trivial⟩

theorem base_agree {build : ReserveBuild} {phase : ReservePhase}
    {patch : LocalReservePatch} {base other stored : LocalReserveRecord}
    (same : Base build phase base) (goesOn : Base build phase other)
    (agree : Agree patch base stored) : Agree patch other stored := by
  cases phase with
  | read existing =>
      cases same
      cases goesOn
      exact agree
  | drew deviceId =>
      obtain ⟨now, rfl⟩ := same
      obtain ⟨later, rfl⟩ := goesOn
      exact ⟨agree.deviceId, agree.autoRefillEnabled, agree.desiredCount,
        agree.lowWatermark, agree.maxStoragePercent,
        agree.lastSuccessfulReconciliationAt, agree.pendingCycle⟩
  | unread => exact same.elim
  | missing => exact same.elim
  | wrote deviceId => exact same.elim

theorem field_grown {α : Type} {later earlier : Option α} {base start : α}
    (grown : earlier.getD base = earlier.getD start) :
    (later.or earlier).getD (later.getD base) =
      (later.or earlier).getD start := by
  cases later with
  | some value => rfl
  | none => exact grown

theorem grown_default (patches : LocalReservePatch) (deviceId : UUID)
    (now : Time) : Grown build patches (build.defaultRecord deviceId now) where
  plain := rfl
  off _ := ⟨rfl, rfl⟩

variable {build}

theorem Grown.atop {patches : LocalReservePatch} {record : LocalReserveRecord}
    (grown : Grown build patches record) (later : LocalReservePatch) :
    Grown build (later.atop patches) record where
  plain := by
    rw [LocalReservePatch.onto_atop, LocalReservePatch.onto_atop, grown.plain]
  off := grown.off

theorem Grown.patched {patches : LocalReservePatch}
    {base : LocalReserveRecord} (grown : Grown build patches base)
    (patch : LocalReservePatch) (now : Time) :
    Grown build ((build.allowed patch).atop patches)
      (build.patched base patch now) where
  plain := by
    have fields := LocalReserveRecord.ext_iff.mp grown.plain
    simp only [LocalReservePatch.onto] at fields
    obtain ⟨_, auto, desired, watermark, storage, last, cycle, _⟩ := fields
    have grownDesired := @field_grown _ patch.desiredCount _ _ _ desired
    have grownWatermark := @field_grown _ patch.lowWatermark _ _ _ watermark
    have grownStorage := @field_grown _ patch.maxStoragePercent _ _ _ storage
    have grownLast :=
      @field_grown _ patch.lastSuccessfulReconciliationAt _ _ _ last
    cases enabled : build.AUTO_REFILL_ENABLED with
    | true =>
        have grownAuto := @field_grown _ patch.autoRefillEnabled _ _ _ auto
        have grownCycle := @field_grown _ patch.pendingCycle _ _ _ cycle
        simp only [ReserveBuild.patched, ReserveBuild.allowed, enabled,
          if_true, LocalReservePatch.onto, LocalReservePatch.atop, grownAuto,
          grownDesired, grownWatermark, grownStorage, grownLast, grownCycle,
          ReserveBuild.defaultRecord]
    | false =>
        simp only [ReserveBuild.patched, ReserveBuild.allowed, enabled,
          Bool.false_eq_true, if_false, LocalReservePatch.onto,
          LocalReservePatch.atop, grownDesired, grownWatermark, grownStorage,
          grownLast, ReserveBuild.defaultRecord]
  off := by
    intro disabled
    simp only [ReserveBuild.patched, disabled, Bool.false_eq_true, if_false]
    exact ⟨trivial, trivial⟩

theorem Holds.base {store : ReserveStore} {phases : ThreadId → ReservePhase}
    (holds : Holds build store phases) {thread : ThreadId}
    {base : LocalReserveRecord} (same : Base build (phases thread) base) :
    Grown build store.patched base := by
  cases phase : phases thread with
  | read existing =>
      rw [phase] at same
      cases same
      exact (holds.known thread base phase).1
  | drew deviceId =>
      rw [phase] at same
      obtain ⟨now, rfl⟩ := same
      exact grown_default build store.patched deviceId now
  | unread => rw [phase] at same; exact same.elim
  | missing => rw [phase] at same; exact same.elim
  | wrote deviceId => rw [phase] at same; exact same.elim

/-- A write is lawful exactly if it makes of what is stored what it makes of
what the call has to go on. -/
theorem write_lawful {store : ReserveStore} {phases : ThreadId → ReservePhase}
    (holds : Holds build store phases) {patch : LocalReservePatch}
    {base record : LocalReserveRecord}
    (grown : Grown build store.patched base)
    (shape : record = build.patched base patch record.updatedAt) :
    Lawful (write build store patch record) ↔
      ∀ stored, store.record = some stored →
        record = build.patched stored patch record.updatedAt := by
  constructor
  · intro lawful stored present
    rw [shape]
    refine (put_carried build grown (holds.grown stored present)
      (holds.carried stored present)).mp ⟨?_, ?_⟩
    · rw [← shape]
      have listed := List.mem_cons_of_mem record.deviceId
        (holds.listed stored present)
      exact Option.some.inj (lawful.identity stored.deviceId listed)
    · rw [← shape]
      exact lawful.carried record rfl
  · intro current
    constructor
    · intro device member
      change some record.deviceId = some device
      rcases List.mem_cons.mp member with same | before
      · rw [same]
      · have known := holds.identity device before
        cases present : store.record with
        | none =>
            rw [present] at known
            cases known
        | some stored =>
            rw [present] at known
            rw [current stored present]
            exact known
    · intro written same
      cases same
      change ((build.allowed patch).atop store.patched).onto record = record
      cases present : store.record with
      | none =>
          have unused := holds.unused present
          rw [unused] at grown ⊢
          have same : build.patched base patch record.updatedAt =
              build.patched base patch record.updatedAt := rfl
          have kept := ((put_carried build grown grown rfl).mpr same).2
          rw [← shape] at kept
          exact kept
      | some stored =>
          have kept := ((put_carried build grown (holds.grown stored present)
            (holds.carried stored present)).mpr
              (shape.symm.trans (current stored present))).2
          rw [← shape] at kept
          exact kept

theorem put_lawful {store : ReserveStore} {phases : ThreadId → ReservePhase}
    (holds : Holds build store phases) {thread : ThreadId}
    {patch : LocalReservePatch} {base record : LocalReserveRecord}
    (same : Base build (phases thread) base)
    (shape : record = build.patched base patch record.updatedAt) :
    Lawful (write build store patch record) ↔
      Current build store (phases thread) (.put patch record) := by
  have grown := holds.base same
  rw [write_lawful holds grown shape]
  constructor
  · intro stays stored present other goesOn
    have still := stays stored present
    rw [shape] at still
    have agree := (patched_eq_iff build grown
      (holds.grown stored present)).mp still
    exact base_agree same goesOn agree
  · intro current stored present
    rw [shape]
    exact (patched_eq_iff build grown (holds.grown stored present)).mpr
      (current stored present base same)

theorem Holds.put {store : ReserveStore} {phases : ThreadId → ReservePhase}
    (holds : Holds build store phases) {thread : ThreadId}
    {patch : LocalReservePatch} {base record : LocalReserveRecord}
    (grown : Grown build store.patched base)
    (shape : record = build.patched base patch record.updatedAt)
    (lawful : Lawful (write build store patch record)) :
    Holds build (write build store patch record)
      (Function.update phases thread (.wrote record.deviceId)) where
  grown := by
    intro written same
    cases same
    rw [shape]
    exact grown.patched patch record.updatedAt
  unused := nofun
  carried := lawful.carried
  identity := lawful.identity
  listed := by
    intro written same
    cases same
    exact List.mem_cons_self
  known := by
    intro other existing phase
    by_cases same : other = thread
    · subst same
      rw [Function.update_self] at phase
      cases phase
    · rw [Function.update_of_ne same] at phase
      obtain ⟨before, listed⟩ := holds.known other existing phase
      exact ⟨before.atop _, List.mem_cons_of_mem _ listed⟩
  written := by
    intro other device phase
    by_cases same : other = thread
    · subst same
      rw [Function.update_self] at phase
      cases phase
      exact List.mem_cons_self
    · rw [Function.update_of_ne same] at phase
      exact List.mem_cons_of_mem _ (holds.written other device phase)

theorem Holds.lawful {store : ReserveStore} {phases : ThreadId → ReservePhase}
    (holds : Holds build store phases) : Lawful store where
  identity := holds.identity
  carried := holds.carried

theorem Holds.update {store : ReserveStore} {phases : ThreadId → ReservePhase}
    (holds : Holds build store phases) (thread : ThreadId)
    {phase : ReservePhase}
    (known : ∀ existing, phase = .read existing →
      Grown build store.patched existing ∧ existing.deviceId ∈ store.devices)
    (written : ∀ device, phase = .wrote device → device ∈ store.devices) :
    Holds build store (Function.update phases thread phase) :=
  { holds with
    known := by
      intro other existing reached
      by_cases same : other = thread
      · subst same
        rw [Function.update_self] at reached
        exact known existing reached
      · rw [Function.update_of_ne same] at reached
        exact holds.known other existing reached
    written := by
      intro other device reached
      by_cases same : other = thread
      · subst same
        rw [Function.update_self] at reached
        exact written device reached
      · rw [Function.update_of_ne same] at reached
        exact holds.written other device reached }

theorem Holds.answer {store : ReserveStore} {phases : ThreadId → ReservePhase}
    (holds : Holds build store phases) {thread : ThreadId}
    {record : LocalReserveRecord}
    (answers : Answers build record (phases thread)) :
    Holds build { store with
      devices := record.deviceId :: store.devices } phases := by
  have listed : record.deviceId ∈ store.devices := by
    rcases answers with ⟨existing, phase, same⟩ | phase
    · exact same ▸ (holds.known thread existing phase).2
    · exact holds.written thread record.deviceId phase
  exact {
    grown := holds.grown
    unused := holds.unused
    carried := holds.carried
    identity := by
      intro device member
      rcases List.mem_cons.mp member with rfl | before
      · exact holds.identity _ listed
      · exact holds.identity device before
    listed := fun stored present =>
      List.mem_cons_of_mem _ (holds.listed stored present)
    known := fun other existing phase =>
      ⟨(holds.known other existing phase).1,
        List.mem_cons_of_mem _ (holds.known other existing phase).2⟩
    written := fun other device phase =>
      List.mem_cons_of_mem _ (holds.written other device phase) }

theorem advance_randomUUID_read (build : ReserveBuild) {phase : ReservePhase}
    {reply : Except JsError UUID} {existing : LocalReserveRecord}
    (advanced : (reserveProtocol build).advance phase .randomUUID reply =
      .read existing) : phase = .read existing := by
  cases reply with
  | error error => exact advanced
  | ok deviceId =>
      cases phase with
      | missing => cases advanced
      | unread => cases advanced
      | read other => exact advanced
      | drew other => cases advanced
      | wrote other => cases advanced

theorem advance_randomUUID_wrote (build : ReserveBuild) {phase : ReservePhase}
    {reply : Except JsError UUID} {device : UUID}
    (advanced : (reserveProtocol build).advance phase .randomUUID reply =
      .wrote device) : phase = .wrote device := by
  cases reply with
  | error error => exact advanced
  | ok deviceId =>
      cases phase with
      | missing => cases advanced
      | unread => cases advanced
      | read other => cases advanced
      | drew other => cases advanced
      | wrote other => exact advanced

abbrev guard (build : ReserveBuild) :
    Machine.CallCondition ReserveCall ReservePhase ReserveStore :=
  fun thread store phases call => Current build store (phases thread) call

/-- A call is lawful exactly if it is made on the stored record, and keeps the
invariant then. -/
theorem perform_exact {store after : ReserveStore}
    {phases : ThreadId → ReservePhase} {thread : ThreadId} {call : ReserveCall}
    {choice : ReserveChoice} {reply : Except JsError (ReserveReply call)}
    (holds : Holds build store phases)
    (permitted : (reserveProtocol build).permits (phases thread) call)
    (performed : some (perform build store choice call) =
      some (after, reply)) :
    (Lawful after ↔ Current build store (phases thread) call) ∧
      (Current build store (phases thread) call → Holds build after
        (Function.update phases thread
          ((reserveProtocol build).advance (phases thread) call reply))) := by
  have same := Option.some.inj performed
  cases call with
  | get =>
      obtain ⟨rfl, rfl⟩ := Prod.mk.inj same
      refine ⟨iff_of_true holds.lawful trivial, fun _ => ?_⟩
      unfold ReserveChoice.reply
      cases choice.fault with
      | some error =>
          exact holds.update thread
            (fun existing phase => holds.known thread existing phase)
            fun device phase => holds.written thread device phase
      | none =>
          cases present : store.record with
          | none => exact holds.update thread nofun nofun
          | some stored =>
              refine holds.update thread (fun existing phase => ?_) nofun
              cases phase
              exact ⟨holds.grown stored present, holds.listed stored present⟩
  | randomUUID =>
      obtain ⟨rfl, rfl⟩ := Prod.mk.inj same
      refine ⟨iff_of_true holds.lawful trivial, fun _ => ?_⟩
      exact holds.update thread
        (fun existing phase =>
          holds.known thread existing (advance_randomUUID_read build phase))
        fun device phase =>
          holds.written thread device (advance_randomUUID_wrote build phase)
  | now =>
      obtain ⟨rfl, rfl⟩ := Prod.mk.inj same
      refine ⟨iff_of_true holds.lawful trivial, fun _ => ?_⟩
      exact holds.update thread
        (fun existing phase => holds.known thread existing phase)
        fun device phase => holds.written thread device phase
  | put patch record =>
      obtain ⟨rfl, rfl⟩ := Prod.mk.inj same
      obtain ⟨base, same, shape⟩ := permitted
      have exact' := put_lawful holds same shape
      exact ⟨exact', fun current =>
        holds.put (holds.base same) shape (exact'.mpr current)⟩
  | answer record =>
      obtain ⟨rfl, rfl⟩ := Prod.mk.inj same
      have answered := holds.answer permitted
      refine ⟨iff_of_true answered.lawful trivial, fun _ => ?_⟩
      exact answered.update thread
        (fun existing phase => answered.known thread existing phase)
        fun device phase => answered.written thread device phase

abbrev Config : Type :=
  Foundation.Config ReserveCall ReserveReply JsError ReservePhase ReserveStore

abbrev Consistent (build : ReserveBuild) (config : Config) : Prop :=
  Machine.Sound (reserveMachine build) (Holds build) (fun _ => True) config

theorem consistent_next (config : Config)
    (label : Label ReserveJob ReserveChoice) (after : Config)
    (consistent : Consistent build config)
    (meets : Machine.condition (guard build) config label)
    (stepped : (reserveMachine build).next config label = some after) :
    Consistent build after := by
  have resets : ∀ store phases thread, Holds build store phases →
      Holds build store
        (Function.update phases thread (reserveMachine build).idle) :=
    fun _ _ thread holds => holds.update thread
      (fun _ phase => nomatch phase) fun _ phase => nomatch phase
  exact Machine.sound_next (program_follows build) resets
    (fun _ _ _ _ _ _ _ holds permitted current performed =>
      ⟨trivial, (perform_exact holds permitted performed).2 current⟩)
    config label after consistent meets stepped

theorem next_lawful {config after : Config}
    {label : Label ReserveJob ReserveChoice}
    (consistent : Consistent build config)
    (stepped : (reserveMachine build).next config label = some after) :
    Lawful after.shared ↔ Machine.condition (guard build) config label := by
  apply consistent.relates_iff (fun _ store => Lawful store)
    consistent.holds.lawful
  · intro thread call choice store reply permitted performed
    exact (perform_exact consistent.holds permitted performed).1
  · exact stepped

def unused : ReserveStore := ⟨none, {}, []⟩

def production : ReserveBuild := ⟨false, false⟩

def twoIdentities : List (Label ReserveJob ReserveChoice) :=
  [.spawn 0 .get, .spawn 1 .get, .step 0 {}, .step 1 {},
    .step 0 { deviceId := 7 }, .step 0 {}, .step 0 {}, .step 0 {},
    .step 1 { deviceId := 8 }, .step 1 {}, .step 1 {}, .step 1 {}]

def lostUpdate : List (Label ReserveJob ReserveChoice) :=
  [.spawn 0 .get, .step 0 {}, .step 0 { deviceId := 7 }, .step 0 {},
    .step 0 {}, .step 0 {},
    .spawn 0 (.update { desiredCount := some (.integer 30) }),
    .spawn 1 (.update { maxStoragePercent := some (.integer 70) }),
    .step 0 {}, .step 1 {}, .step 0 {}, .step 0 {}, .step 0 {},
    .step 1 {}, .step 1 {}, .step 1 {}]

end ReserveRepository

end OfflineReels.Offline
