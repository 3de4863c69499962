import OfflineReels.Foundation.Transition
import OfflineReels.Management.Idempotency

namespace OfflineReels.Management.IdempotentCommands

open OfflineReels.Foundation
open OfflineReels.Instagram

/-! Interleaved requests on one control plane, and what each is answered. -/

/-- An effect that was committed, with the response to its request. -/
structure Effect where
  request : MutationRequest
  now : Time
  status : Nat
  body : ResponseBody
  deriving DecidableEq

structure State where
  plane : ControlPlane
  /-- Requests whose transaction was rolled back by an integrity error. -/
  waiting : List MutationRequest
  effects : List Effect
  /-- The latest time that expired rows were removed at. -/
  latest : Time
  /-- The sessions there have been. -/
  known : List UUID

def initial (plane : ControlPlane) : State where
  plane := plane
  waiting := []
  effects := []
  latest := 0
  known := plane.sessions.rows.map (·.id)

/-- A transaction of the other services. -/
structure OtherTransaction where
  perform : ControlPlane → ControlPlane
  records : ∀ plane, (perform plane).records = plane.records
  sessions : ∀ plane sessionId,
    (∃ row ∈ (perform plane).sessions, row.id = sessionId) ↔
      ∃ row ∈ plane.sessions, row.id = sessionId

/-- The database may refuse a transaction that would have succeeded. -/
inductive Label
  | mutate (request : MutationRequest) (now : Time) (draw : CommandDraw)
      (recordId : UUID) (refused : Option DatabaseError)
  | recover (request : MutationRequest)
  | cleanup (now : Time)
  | pair (session : ManagementDeviceSession)
  | other (transaction : OtherTransaction)

def settle (state : State) (request : MutationRequest) (now : Time) :
    Except ActionFault (ControlPlane × Nat × ResponseBody × Bool) →
      State × Option Answer
  | .ok (plane, status, body, true) =>
      ({ state with plane, latest := max state.latest now },
        some (.response status body true))
  | .ok (plane, status, body, false) =>
      ({ state with
          plane
          latest := max state.latest now
          effects := ⟨request, now, status, body⟩ :: state.effects },
        some (.response status body false))
  | .error (.management error) => (state, some (.error error))
  | .error (.database .integrityError) =>
      ({ state with waiting := request :: state.waiting }, none)
  | .error (.database error) => (state, some (.raised error))

def respond (state : State) : Label → Option (State × Option Answer)
  | .mutate request now draw recordId refused =>
      match idempotencyKey request.key with
      | .error error => some (state, some (.error error))
      | .ok key =>
          some (settle state request now (match refused with
            | some error => .error (.database error)
            | none => idempotent state.plane request key now draw recordId))
  | .recover request =>
      match idempotencyKey request.key with
      | .error _ => none
      | .ok key =>
          if request ∈ state.waiting then
            some ({ state with waiting := state.waiting.erase request },
              some (afterIntegrityError state.plane request key))
          else none
  | .cleanup now =>
      some ({ state with
        plane := state.plane.cleanupExpired now
        latest := max state.latest now }, none)
  | .pair session =>
      if session.id ∈ state.known then none
      else
        (state.plane.sessions.insert? session).map fun sessions =>
          ({ state with
            plane := { state.plane with sessions }
            known := session.id :: state.known }, none)
  | .other transaction =>
      some ({ state with plane := transaction.perform state.plane }, none)

def next (state : State) (label : Label) : Option State :=
  (respond state label).map (·.1)

def answer (state : State) (label : Label) : Option Answer :=
  (respond state label).bind (·.2)

/-- The requests use one key of one session for one operation. -/
def SameKey (first second : MutationRequest) : Prop :=
  first.session.id = second.session.id ∧
    first.command.operation = second.command.operation ∧
    first.key = second.key

instance (first second : MutationRequest) : Decidable (SameKey first second) :=
  inferInstanceAs (Decidable (_ ∧ _ ∧ _))

def Effect.expiresAt (effect : Effect) : Time := effect.now + IDEMPOTENCY_TTL

def SessionAlive (state : State) (request : MutationRequest) (now : Time) :
    Prop :=
  ∃ row ∈ state.plane.sessions,
    row.id = request.session.id ∧ now < row.expiresAt

structure MutationHolds (before : State) (request : MutationRequest)
    (now : Time) (refused : Option DatabaseError) (answer : Option Answer)
    (after : State) : Prop where
  /-- Only a committed effect changes more than expired rows. -/
  effect : (after.effects = before.effects ∧
      (after.plane = before.plane ∨
        after.plane = before.plane.cleanupExpired now)) ∨
    ∃ effect, effect.request = request ∧ effect.now = now ∧
      after.effects = effect :: before.effects ∧
      answer = some (.response effect.status effect.body false)
  /-- An effect is committed again only after its key has expired. -/
  once : ∀ effect ∈ before.effects, SameKey effect.request request →
    after.effects ≠ before.effects →
    effect.expiresAt ≤ max before.latest now
  replayed : ∀ effect ∈ before.effects, SameKey effect.request request →
    max before.latest now < effect.expiresAt → refused = none →
    SessionAlive before request now →
    request.command = effect.request.command →
    answer = some (.response effect.status effect.body.persisted true)
  conflict : ∀ effect ∈ before.effects, SameKey effect.request request →
    max before.latest now < effect.expiresAt → refused = none →
    SessionAlive before request now →
    request.command ≠ effect.request.command →
    answer = some (.error idempotencyConflict) ∧ after.plane = before.plane

/-- A rolled back request changes nothing.  It gets the stored response too, or
is refused if that is the response to another one. -/
structure RecoveryHolds (before : State) (request : MutationRequest)
    (answer : Option Answer) (after : State) : Prop where
  unchanged : after.plane = before.plane
  effects : after.effects = before.effects
  replayed : ∀ effect ∈ before.effects, SameKey effect.request request →
    before.latest < effect.expiresAt →
    (∃ row ∈ before.plane.sessions, row.id = request.session.id) →
    request.command = effect.request.command →
    answer = some (.response effect.status effect.body.persisted true)
  conflict : ∀ effect ∈ before.effects, SameKey effect.request request →
    before.latest < effect.expiresAt →
    (∃ row ∈ before.plane.sessions, row.id = request.session.id) →
    request.command ≠ effect.request.command →
    answer = some (.error idempotencyConflict)

def Holds (before : State) (label : Label) (after : State) : Prop :=
  match label with
  | .mutate request now _ _ refused =>
      MutationHolds before request now refused (answer before label) after
  | .recover request =>
      RecoveryHolds before request (answer before label) after
  | _ => after.effects = before.effects

/-- A live key is not used again with another identifier in the path, and a
rolled back request does not find its key used by another one. -/
def SameRequest (state : State) : Label → Prop
  | .mutate request now _ _ _ =>
      ∀ effect ∈ state.effects, SameKey effect.request request →
        max state.latest now < effect.expiresAt →
        request.command.pathId = effect.request.command.pathId
  | .recover request =>
      ∀ effect ∈ state.effects, SameKey effect.request request →
        state.latest < effect.expiresAt →
        request.command = effect.request.command
  | _ => True

instance (state : State) : ∀ label, Decidable (SameRequest state label)
  | .mutate request now _ _ _ =>
      inferInstanceAs (Decidable (∀ effect ∈ state.effects,
        SameKey effect.request request →
          max state.latest now < effect.expiresAt →
          request.command.pathId = effect.request.command.pathId))
  | .recover request =>
      inferInstanceAs (Decidable (∀ effect ∈ state.effects,
        SameKey effect.request request →
          state.latest < effect.expiresAt →
          request.command = effect.request.command))
  | .cleanup _ => .isTrue trivial
  | .pair _ => .isTrue trivial
  | .other _ => .isTrue trivial

/-- The record that was stored with an effect. -/
structure Records (effect : Effect) (record : ManagementIdempotencyRecord) :
    Prop where
  session : record.sessionId = effect.request.session.id
  operation : record.operation = effect.request.command.operation
  key : effect.request.key = some record.keyHash.preimage
  fingerprint : record.requestFingerprint = ⟨effect.request.command.body⟩
  status : record.responseStatus = effect.status
  body : record.responseBody = effect.body.persisted
  expires : record.expiresAt = effect.expiresAt

def Kept (plane : ControlPlane) (latest : Time) (effect : Effect) : Prop :=
  effect.expiresAt ≤ latest ∨ (∃ record ∈ plane.records, Records effect record) ∨
    ∀ row ∈ plane.sessions, row.id ≠ effect.request.session.id

structure Invariant (plane : ControlPlane) (latest : Time)
    (effects : List Effect) (known : List UUID) : Prop where
  kept : ∀ effect ∈ effects, Kept plane latest effect
  issued : ∀ effect ∈ effects, effect.request.session.id ∈ known
  keyed : ∀ effect ∈ effects, ∃ key,
    idempotencyKey effect.request.key = .ok key
  known : ∀ row ∈ plane.sessions, row.id ∈ known
  unique : ∀ record ∈ plane.records, ∀ other ∈ plane.records,
    record.conflictsWith other = false

abbrev Invariant.Of (state : State) : Prop :=
  Invariant state.plane state.latest state.effects state.known

section

variable {plane after : ControlPlane} {latest : Time} {effects : List Effect}
variable {known : List UUID}

theorem Invariant.keep (invariant : Invariant plane latest effects known)
    (records : after.records = plane.records)
    (sessions : ∀ sessionId, (∃ row ∈ after.sessions, row.id = sessionId) →
      ∃ row ∈ plane.sessions, row.id = sessionId) :
    Invariant after latest effects known where
  kept := by
    intro effect member
    rcases invariant.kept effect member with expired | stored | gone
    · exact .inl expired
    · right
      left
      rw [records]
      exact stored
    · right
      right
      intro row rowMember same
      obtain ⟨other, otherMember, equal⟩ := sessions _ ⟨row, rowMember, same⟩
      exact gone other otherMember equal
  issued := invariant.issued
  keyed := invariant.keyed
  known := by
    intro row member
    obtain ⟨other, otherMember, same⟩ := sessions row.id ⟨row, member, rfl⟩
    rw [← same]
    exact invariant.known other otherMember
  unique := by
    rw [records]
    exact invariant.unique

theorem Invariant.cleanup (invariant : Invariant plane latest effects known)
    (current : Time) :
    Invariant (plane.cleanupExpired current) (max latest current) effects
      known where
  kept := by
    intro effect member
    rcases invariant.kept effect member with expired | ⟨record, stored, records⟩ |
      gone
    · exact .inl (expired.trans (le_max_left latest current))
    · by_cases expires : record.expiresAt ≤ current
      · left
        rw [← records.expires]
        exact expires.trans (le_max_right latest current)
      · cases alive : plane.sessions.rows.any fun session =>
            session.id = record.sessionId && current < session.expiresAt with
        | true =>
            right
            left
            refine ⟨record, Table.mem_filter.mpr ⟨stored, ?_⟩, records⟩
            simp only [alive, Nat.not_le.mp expires, decide_true, Bool.and_self]
        | false =>
            right
            right
            intro row rowMember same
            obtain ⟨present, lives⟩ := Table.mem_filter.mp rowMember
            have dead := List.any_eq_false.mp alive row present
            rw [records.session, same] at dead
            simp only [decide_true, Bool.true_and] at dead
            exact dead lives
    · right
      right
      intro row rowMember
      exact gone row (Table.mem_filter.mp rowMember).1
  issued := invariant.issued
  keyed := invariant.keyed
  known := fun row member => invariant.known row (Table.mem_filter.mp member).1
  unique := fun record member other otherMember => invariant.unique record
    (Table.mem_filter.mp member).1 other (Table.mem_filter.mp otherMember).1

theorem Invariant.record (invariant : Invariant plane latest effects known)
    {recordId : UUID} {request : MutationRequest} {key : String} {now : Time}
    {status : Nat} {body : ResponseBody}
    {records : Table ManagementIdempotencyRecord UUID
      ManagementIdempotencyRecord.id}
    (valid : idempotencyKey request.key = .ok key)
    (shape : plane.records.insert? (recordOf recordId request key now status
      body) = some records)
    (present : (plane.sessions.find? request.session.id).isSome = true)
    (fresh : ∀ other ∈ plane.records, (recordOf recordId request key now status
      body).conflictsWith other = false) :
    Invariant { plane with records } latest
      (⟨request, now, status, body⟩ :: effects) known where
  kept := by
    intro effect member
    rcases List.mem_cons.mp member with rfl | earlier
    · right
      left
      exact ⟨_, (Table.mem_insert? shape).mpr (.inr rfl), rfl, rfl,
        idempotencyKey_eq_ok valid, rfl, rfl, rfl, rfl⟩
    · rcases invariant.kept effect earlier with expired | ⟨record, stored, same⟩ |
        gone
      · exact .inl expired
      · right
        left
        exact ⟨record, (Table.mem_insert? shape).mpr (.inl stored), same⟩
      · exact .inr (.inr gone)
  issued := by
    intro effect member
    rcases List.mem_cons.mp member with rfl | earlier
    · obtain ⟨row, found⟩ := Option.isSome_iff_exists.mp present
      obtain ⟨rowMember, same⟩ := Table.find?_eq_some.mp found
      rw [← same]
      exact invariant.known row rowMember
    · exact invariant.issued effect earlier
  keyed := by
    intro effect member
    rcases List.mem_cons.mp member with rfl | earlier
    · exact ⟨key, valid⟩
    · exact invariant.keyed effect earlier
  known := invariant.known
  unique := by
    have symmetric : ∀ record other : ManagementIdempotencyRecord,
        record.conflictsWith other = other.conflictsWith record := by
      intro record other
      simp only [ManagementIdempotencyRecord.conflictsWith, ne_comm, eq_comm]
    intro record member other otherMember
    rcases (Table.mem_insert? shape).mp member with stored | rfl
    · rcases (Table.mem_insert? shape).mp otherMember with second | rfl
      · exact invariant.unique record stored other second
      · rw [symmetric]
        exact fresh record stored
    · rcases (Table.mem_insert? shape).mp otherMember with second | rfl
      · exact fresh other second
      · simp [ManagementIdempotencyRecord.conflictsWith]

theorem Invariant.pair (invariant : Invariant plane latest effects known)
    {session : ManagementDeviceSession}
    {sessions : Table ManagementDeviceSession UUID ManagementDeviceSession.id}
    (fresh : session.id ∉ known)
    (shape : plane.sessions.insert? session = some sessions) :
    Invariant { plane with sessions } latest effects (session.id :: known) where
  kept := by
    intro effect member
    rcases invariant.kept effect member with expired | stored | gone
    · exact .inl expired
    · exact .inr (.inl stored)
    · right
      right
      intro row rowMember same
      rcases (Table.mem_insert? shape).mp rowMember with present | rfl
      · exact gone row present same
      · rw [same] at fresh
        exact fresh (invariant.issued effect member)
  issued := fun effect member =>
    List.mem_cons_of_mem _ (invariant.issued effect member)
  keyed := invariant.keyed
  known := by
    intro row member
    rcases (Table.mem_insert? shape).mp member with present | rfl
    · exact List.mem_cons_of_mem _ (invariant.known row present)
    · exact List.mem_cons_self
  unique := invariant.unique

theorem findRecord_of_kept (invariant : Invariant plane latest effects known)
    {effect : Effect} {request : MutationRequest} {key : String}
    (member : effect ∈ effects) (same : SameKey effect.request request)
    (valid : request.key = some key) (live : latest < effect.expiresAt)
    (present : ∃ row ∈ plane.sessions, row.id = request.session.id) :
    ∃ record, plane.findRecord request key = some record ∧
      Records effect record := by
  rcases invariant.kept effect member with expired | ⟨record, stored, records⟩ |
    gone
  · exact absurd live (Nat.not_lt.mpr expired)
  · have inScope : (record.sessionId = request.session.id ∧
        record.operation = request.command.operation) ∧
          record.keyHash = ⟨key⟩ := by
      refine ⟨⟨records.session.trans same.1, records.operation.trans same.2.1⟩, ?_⟩
      have keys := records.key
      rw [same.2.2, valid, Option.some.injEq] at keys
      rw [keys]
    cases found : plane.findRecord request key with
    | none =>
        have absent := List.find?_eq_none.mp found record stored
        simp [inScope] at absent
    | some other =>
        have otherMember : other ∈ plane.records := List.mem_of_find?_eq_some found
        have otherScope := List.find?_some found
        simp only [Bool.and_eq_true, decide_eq_true_eq] at otherScope
        have unique := invariant.unique other otherMember record stored
        simp only [ManagementIdempotencyRecord.conflictsWith, otherScope, inScope,
          decide_true, Bool.and_true, decide_eq_false_iff_not, not_not] at unique
        obtain rfl := Table.eq_of_key_eq otherMember stored unique
        exact ⟨other, rfl, records⟩
  · obtain ⟨row, rowMember, owns⟩ := present
    exact absurd (owns.trans same.1.symm) (gone row rowMember)

end

section

variable {state : State} {request : MutationRequest} {key : String}
variable {now : Time} {draw : CommandDraw} {recordId : UUID}

theorem idempotent_of_live (invariant : Invariant.Of state) {effect : Effect}
    (member : effect ∈ state.effects) (same : SameKey effect.request request)
    (valid : request.key = some key)
    (live : max state.latest now < effect.expiresAt)
    (alive : SessionAlive state request now) :
    idempotent state.plane request key now draw recordId =
      if effect.request.command.body ≠ request.command.body then
        .error (.management idempotencyConflict)
      else .ok (state.plane.cleanupExpired now, effect.status,
        effect.body.persisted, true) := by
  obtain ⟨row, rowMember, owns, unexpired⟩ := alive
  have present : ∃ row ∈ (state.plane.cleanupExpired now).sessions,
      row.id = request.session.id :=
    ⟨row, Table.mem_filter.mpr ⟨rowMember, decide_eq_true unexpired⟩, owns⟩
  obtain ⟨record, found, records⟩ := findRecord_of_kept
    (invariant.cleanup now) member same valid live present
  rw [idempotent_of_found found, records.fingerprint, records.status,
    records.body]
  simp only [ne_eq, Sha256.mk.injEq]

/-- A command takes effect only when no effect for its key is live. -/
theorem expired_of_effect (invariant : Invariant.Of state) {effect : Effect}
    (member : effect ∈ state.effects) (same : SameKey effect.request request)
    (valid : request.key = some key)
    (absent : (state.plane.cleanupExpired now).findRecord request key = none)
    (present : ∃ row ∈ (state.plane.cleanupExpired now).sessions,
      row.id = request.session.id) :
    effect.expiresAt ≤ max state.latest now := by
  by_contra live
  obtain ⟨record, found, _⟩ := findRecord_of_kept (invariant.cleanup now) member
    same valid (Nat.not_le.mp live) present
  rw [absent] at found
  cases found

theorem settle_error_keeps (fault : ActionFault) :
    (settle state request now (.error fault)).1.plane = state.plane ∧
      (settle state request now (.error fault)).1.effects = state.effects ∧
      (settle state request now (.error fault)).1.latest = state.latest ∧
      (settle state request now (.error fault)).1.known = state.known := by
  cases fault with
  | management error => exact ⟨rfl, rfl, rfl, rfl⟩
  | database error => cases error <;> exact ⟨rfl, rfl, rfl, rfl⟩

theorem settle_error (invariant : Invariant.Of state) (fault : ActionFault)
    {refused : Option DatabaseError}
    (replayed : ∀ effect ∈ state.effects, SameKey effect.request request →
      max state.latest now < effect.expiresAt → refused = none →
      SessionAlive state request now →
      request.command ≠ effect.request.command ∧
        fault = .management idempotencyConflict) :
    Invariant.Of (settle state request now (.error fault)).1 ∧
      MutationHolds state request now refused
        (settle state request now (.error fault)).2
        (settle state request now (.error fault)).1 := by
  obtain ⟨plane, effects, latest, known⟩ :=
    @settle_error_keeps state request now fault
  refine ⟨?_, ?_, ?_, ?_, ?_⟩
  · unfold Invariant.Of
    rw [plane, effects, latest, known]
    exact invariant
  · exact .inl ⟨effects, .inl plane⟩
  · intro effect member same changed
    exact absurd effects changed
  · intro effect member same live unrefused alive command
    exact absurd command
      (replayed effect member same live unrefused alive).1
  · intro effect member same live unrefused alive command
    obtain ⟨_, rfl⟩ := replayed effect member same live unrefused alive
    exact ⟨rfl, plane⟩

theorem settle_replay (invariant : Invariant.Of state) {status : Nat}
    {body : ResponseBody}
    (stored : ∀ effect ∈ state.effects, SameKey effect.request request →
      max state.latest now < effect.expiresAt →
      SessionAlive state request now →
      request.command = effect.request.command ∧ status = effect.status ∧
        body = effect.body.persisted) :
    Invariant.Of (settle state request now
        (.ok (state.plane.cleanupExpired now, status, body, true))).1 ∧
      MutationHolds state request now none
        (some (.response status body true))
        (settle state request now
          (.ok (state.plane.cleanupExpired now, status, body, true))).1 := by
  refine ⟨invariant.cleanup now, .inl ⟨rfl, .inr rfl⟩, ?_, ?_, ?_⟩
  · intro effect member same changed
    exact absurd rfl changed
  · intro effect member same live _ alive _
    obtain ⟨_, rfl, rfl⟩ := stored effect member same live alive
    rfl
  · intro effect member same live _ alive command
    exact absurd (stored effect member same live alive).1 command

theorem settle_effect (invariant : Invariant.Of state)
    (valid : idempotencyKey request.key = .ok key) {after : ControlPlane}
    {status : Nat} {body : ResponseBody}
    (succeeded : idempotent state.plane request key now draw recordId =
      .ok (after, status, body, false)) :
    Invariant.Of (settle state request now
        (.ok (after, status, body, false))).1 ∧
      MutationHolds state request now none
        (some (.response status body false))
        (settle state request now (.ok (after, status, body, false))).1 := by
  rcases idempotent_eq_ok succeeded with ⟨impossible, _⟩ |
    ⟨_, absent, acted, records, performed, shape, found, fresh, rfl⟩
  · cases impossible
  obtain ⟨sameRecords, sameSessions⟩ := Command.action_keeps performed
  have present : ∃ row ∈ (state.plane.cleanupExpired now).sessions,
      row.id = request.session.id := by
    obtain ⟨row, isFound⟩ := Option.isSome_iff_exists.mp found
    exact (sameSessions _).mp ⟨row, Table.find?_eq_some.mp isFound⟩
  have once : ∀ effect ∈ state.effects, SameKey effect.request request →
      effect.expiresAt ≤ max state.latest now :=
    fun effect member same =>
      expired_of_effect invariant member same (idempotencyKey_eq_ok valid) absent
        present
  refine ⟨?_, ?_, ?_, ?_, ?_⟩
  · exact ((invariant.cleanup now).keep sameRecords
      fun sessionId => (sameSessions sessionId).mp).record valid shape found fresh
  · exact .inr ⟨⟨request, now, status, body⟩, rfl, rfl, rfl, rfl⟩
  · exact fun effect member same _ => once effect member same
  · intro effect member same live _ _ _
    exact absurd live (Nat.not_lt.mpr (once effect member same))
  · intro effect member same live _ _ _
    exact absurd live (Nat.not_lt.mpr (once effect member same))

theorem settle_idempotent (invariant : Invariant.Of state)
    (valid : idempotencyKey request.key = .ok key)
    (samePath : ∀ effect ∈ state.effects, SameKey effect.request request →
      max state.latest now < effect.expiresAt →
      request.command.pathId = effect.request.command.pathId) :
    Invariant.Of (settle state request now
        (idempotent state.plane request key now draw recordId)).1 ∧
      MutationHolds state request now none
        (settle state request now
          (idempotent state.plane request key now draw recordId)).2
        (settle state request now
          (idempotent state.plane request key now draw recordId)).1 := by
  have decided : ∀ effect ∈ state.effects, SameKey effect.request request →
      max state.latest now < effect.expiresAt →
      SessionAlive state request now →
      idempotent state.plane request key now draw recordId =
        if effect.request.command.body ≠ request.command.body then
          .error (.management idempotencyConflict)
        else .ok (state.plane.cleanupExpired now, effect.status,
          effect.body.persisted, true) :=
    fun effect member same live alive =>
      idempotent_of_live invariant member same (idempotencyKey_eq_ok valid) live
        alive
  cases outcome : idempotent state.plane request key now draw recordId with
  | error fault =>
      refine settle_error invariant fault ?_
      intro effect member same live _ alive
      have known := decided effect member same live alive
      rw [outcome] at known
      split at known
      · rename_i differs
        cases known
        exact ⟨fun equal => differs (congrArg Command.body equal.symm), rfl⟩
      · cases known
  | ok result =>
      obtain ⟨after, status, body, replayed⟩ := result
      cases replayed with
      | false => exact settle_effect invariant valid outcome
      | true =>
          rcases idempotent_eq_ok outcome with ⟨_, rfl⟩ | ⟨impossible, _⟩
          · refine settle_replay invariant ?_
            intro effect member same live alive
            have known := decided effect member same live alive
            rw [outcome] at known
            split at known
            · cases known
            · rename_i matching
              cases known
              exact ⟨Command.eq_of_body_of_pathId same.2.1.symm
                (not_not.mp matching).symm (samePath effect member same live),
                rfl, rfl⟩
          · cases impossible

end

theorem step_kept {state after : State} {label : Label}
    (invariant : Invariant.Of state) (meets : SameRequest state label)
    (stepped : next state label = some after) :
    Invariant.Of after ∧ Holds state label after := by
  cases label with
  | mutate request now draw recordId refused =>
      cases valid : idempotencyKey request.key with
      | error error =>
          simp only [next, respond, valid, Option.map_some,
            Option.some.injEq] at stepped
          subst stepped
          have unused : ∀ effect ∈ state.effects,
              ¬ SameKey effect.request request := by
            intro effect member same
            obtain ⟨key, accepted⟩ := invariant.keyed effect member
            rw [same.2.2, valid] at accepted
            cases accepted
          refine ⟨invariant, .inl ⟨rfl, .inl rfl⟩, ?_, ?_, ?_⟩
          · exact fun effect member same => absurd same (unused effect member)
          · exact fun effect member same => absurd same (unused effect member)
          · exact fun effect member same => absurd same (unused effect member)
      | ok key =>
          simp only [next, respond, valid, Option.map_some,
            Option.some.injEq] at stepped
          subst stepped
          simp only [Holds, answer, respond, valid, Option.bind_some]
          cases refused with
          | some error =>
              refine settle_error invariant _ ?_
              intro effect member same live unrefused
              cases unrefused
          | none => exact settle_idempotent invariant valid meets
  | recover request =>
      simp only [next, respond] at stepped
      cases valid : idempotencyKey request.key with
      | error error =>
          rw [valid] at stepped
          cases stepped
      | ok key =>
          rw [valid] at stepped
          dsimp only at stepped
          split at stepped
          · rename_i waits
            cases stepped
            refine ⟨invariant, rfl, rfl, ?_, ?_⟩
            · intro effect member same live present command
              obtain ⟨record, found, records⟩ := findRecord_of_kept invariant
                member same (idempotencyKey_eq_ok valid) live present
              have matching :
                  record.requestFingerprint = ⟨request.command.body⟩ := by
                rw [records.fingerprint, command]
              simp only [answer, respond, valid, waits, if_true,
                Option.bind_some, afterIntegrityError, found, matching,
                records.status, records.body]
            · intro effect member same live _ differs
              exact absurd (meets effect member same live) differs
          · cases stepped
  | cleanup now =>
      cases stepped
      exact ⟨invariant.cleanup now, rfl⟩
  | pair session =>
      simp only [next, respond] at stepped
      split at stepped
      · cases stepped
      · rename_i fresh
        simp only [Option.map_map, Option.map_eq_some_iff] at stepped
        obtain ⟨sessions, shape, rfl⟩ := stepped
        exact ⟨invariant.pair fresh shape, rfl⟩
  | other transaction =>
      cases stepped
      refine ⟨invariant.keep (transaction.records state.plane) ?_, rfl⟩
      exact fun sessionId => (transaction.sessions state.plane sessionId).mp

def UniqueRecords (plane : ControlPlane) : Prop :=
  ∀ record ∈ plane.records, ∀ other ∈ plane.records,
    record.conflictsWith other = false

instance (plane : ControlPlane) : Decidable (UniqueRecords plane) :=
  inferInstanceAs (Decidable (∀ record ∈ plane.records,
    ∀ other ∈ plane.records, record.conflictsWith other = false))

/-- Whatever the interleaving, a key commits one effect, a repeated request gets
the stored response and a different one is refused, as long as no live key is
used again with another identifier in the path and no rolled back request finds
its key used by another one. -/
theorem commands_idempotent (plane : ControlPlane)
    (unique : UniqueRecords plane) (labels : List Label)
    (meets : Meets next SameRequest (initial plane) labels) :
    Along next Holds (initial plane) labels := by
  have initially : Invariant.Of (initial plane) :=
    { kept := fun effect member => absurd member List.not_mem_nil
      issued := fun effect member => absurd member List.not_mem_nil
      keyed := fun effect member => absurd member List.not_mem_nil
      known := fun row member => List.mem_map.mpr ⟨row, member, rfl⟩
      unique := unique }
  have kept : ∀ state label after, Invariant.Of state →
      SameRequest state label → next state label = some after →
      Invariant.Of after ∧ Holds state label after :=
    fun _ _ _ invariant meets stepped => step_kept invariant meets stepped
  exact along_of_invariant kept initially meets

def pairedSession : ManagementDeviceSession := ⟨1, 1, 1000, none⟩

def collectionRun (runId : UUID) (status : CollectionRunStatus) :
    InstagramCollectionRun :=
  { queuedRun 0 runId 1 1 with status := status }

def pairedPlane : ControlPlane where
  work :=
    { database := { Database.empty with
        runs := ⟨[collectionRun 2 .completed, collectionRun 3 .running],
          by decide⟩ }
      logins := .empty
      settings := ⟨[⟨1, true, 5⟩], by decide⟩
      reserves := .empty }
  sessions := ⟨[pairedSession], by decide⟩
  records := .empty
  challenges := .empty
  rateLimits := .empty

def cancelRun (runId : UUID) : MutationRequest where
  session := pairedSession
  key := some "cancel-key-1"
  command := .cancelCollectionRun runId

def emptyDraw : CommandDraw := ⟨5, 9, "", fun _ => ⟨0, 0⟩⟩

def changeTarget (target : SettingsRequest) : MutationRequest where
  session := pairedSession
  key := some "settings-key-1"
  command := .updateCollectionSettings target

/-- The request for run 3 is answered with what was stored for run 2; a request
that the database refused at first finds its key used and is answered 503. -/
theorem keys_used_by_others :
    ¬ Along next Holds (initial pairedPlane)
        [.mutate (cancelRun 2) 5 emptyDraw 10 none,
          .mutate (cancelRun 3) 6 emptyDraw 11 none] ∧
      ¬ Along next Holds (initial pairedPlane)
        [.mutate (changeTarget ⟨true, 5, by decide⟩) 5 emptyDraw 10
            (some .integrityError),
          .mutate (changeTarget ⟨true, 6, by decide⟩) 6 emptyDraw 11 none,
          .recover (changeTarget ⟨true, 5, by decide⟩)] := by
  constructor
  · intro along
    obtain ⟨_, rest⟩ := along _ rfl
    obtain ⟨holds, _⟩ := rest _ rfl
    obtain ⟨refused, _⟩ := holds.conflict _ List.mem_cons_self
      ⟨rfl, rfl, rfl⟩ (by decide) rfl
      ⟨pairedSession, by decide, rfl, by decide⟩ (by decide)
    revert refused
    decide
  · intro along
    obtain ⟨_, rest⟩ := along _ rfl
    obtain ⟨_, rest⟩ := rest _ rfl
    obtain ⟨holds, _⟩ := rest _ rfl
    have refused := holds.conflict _ List.mem_cons_self ⟨rfl, rfl, rfl⟩
      (by decide) ⟨pairedSession, by decide, rfl⟩ (by decide)
    revert refused
    decide

/-- The repeated request for run 3 is answered as the first one. -/
theorem commands_idempotent_repeated :
    Along next Holds (initial pairedPlane)
      [.mutate (cancelRun 3) 5 emptyDraw 10 none,
        .mutate (cancelRun 3) 6 emptyDraw 11 none] := by
  exact commands_idempotent pairedPlane (by decide) _ (by decide)

end OfflineReels.Management.IdempotentCommands
