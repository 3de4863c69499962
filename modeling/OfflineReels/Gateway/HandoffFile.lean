import OfflineReels.Foundation.Interleaving
import OfflineReels.Gateway.HandoffState

namespace OfflineReels.Gateway

open OfflineReels.Foundation
open OfflineReels.Foundation.Program
open OfflineReels.Instagram

/-! The calls of the handoff store on its files.  The gateway and the Collector
share the directory without a lock, so that each read, each look at the clock
and each replacement of a file is a step of its own. -/

inductive HandoffCall
  | read (sessionId : UUID)
  | now
  | replace (handoff : Handoff)

/-- A file that is missing or cannot be read is `none`. -/
@[reducible] def HandoffReply : HandoffCall → Type
  | .read _ => Option Handoff
  | .now => Time
  | .replace _ => Unit

abbrev HandoffProgram (α : Type) : Type :=
  Program HandoffCall HandoffReply Empty α

def request (call : HandoffCall) : HandoffProgram (HandoffReply call) :=
  perform call

namespace HandoffStateStore

def load (sessionId : UUID) : HandoffProgram (Option Handoff) :=
  request (.read sessionId)

def write (handoff : Handoff) : HandoffProgram Unit :=
  request (.replace handoff)

def expire (handoff : Handoff) : HandoffProgram Handoff :=
  if handoff.state.isTerminal then pure handoff
  else
    match handoff.expiresAt with
    | none => pure { handoff with state := .expired }
    | some expiresAt => do
        let now ← request .now
        if expiresAt ≤ now then pure { handoff with state := .expired }
        else pure handoff

def activate (sessionId : UUID) (token : String) :
    HandoffProgram (Option HandoffState) := do
  match ← load sessionId with
  | none => pure none
  | some handoff =>
      if handoff.tokenHash ≠ ⟨token⟩ then pure none
      else
        let left ← expire handoff
        if left.state ≠ .pending then pure none
        else
          write { left with state := .active }
          pure (some .active)

def state (sessionId : UUID) : HandoffProgram (Option HandoffState) := do
  match ← load sessionId with
  | none => pure none
  | some handoff =>
      let left ← expire handoff
      if left.state = .expired then
        write left
        pure (some left.state)
      else pure (some left.state)

def resolve (sessionId : UUID) (confirmed : Bool) :
    HandoffProgram (Option HandoffState) := do
  match ← load sessionId with
  | none => pure none
  | some handoff =>
      let left ← expire handoff
      if left.state ≠ .active then
        if left.state = .expired then
          write left
          pure (some left.state)
        else pure (some left.state)
      else
        let resolved := if confirmed then .confirmed else .cancelled
        write { left with state := resolved }
        pure (some resolved)

end HandoffStateStore

namespace HandoffStore

def respond (now : Time) (store : HandoffStore) :
    (request : HandoffCall) →
      Except Empty (HandoffReply request) × HandoffStore
  | .read sessionId => (.ok (store.find? sessionId), store)
  | .now => (.ok now, store)
  | .replace handoff => (.ok (), store.upsert handoff)

variable (now : Time) (store : HandoffStore)

theorem play_expire (handoff : Handoff) :
    (HandoffStateStore.expire handoff).play (respond now) store =
      (.ok (expire now handoff), store) := by
  unfold HandoffStateStore.expire expire
  split
  · rfl
  · split
    · rename_i absent
      rw [absent]
      rfl
    · rename_i expiresAt present
      rw [present, play_bind]
      change (if expiresAt ≤ now then pure _ else pure handoff :
        HandoffProgram Handoff).play (respond now) store = _
      by_cases past : expiresAt ≤ now
      · have late : ¬ now < expiresAt := Nat.not_lt.mpr past
        simp only [past, if_true, Option.any_some, late, decide_false]
        rfl
      · have early : now < expiresAt := Nat.lt_of_not_le past
        simp only [past, if_false, Option.any_some, early, decide_true]
        rfl

theorem upsert_of_found {sessionId : UUID} {handoff written : Handoff}
    (found : store.find? sessionId = some handoff)
    (same : written.id = sessionId) :
    store.upsert written = store.put written := by
  obtain ⟨member, here⟩ := Table.find?_eq_some.mp found
  unfold Table.upsert
  cases inserted : store.insert? written with
  | none => rfl
  | some after =>
      have absent := (Table.insert?_eq_some inserted).1 handoff member
      exact absurd (here.trans same.symm) absent

theorem expire_cases (handoff : Handoff) :
    expire now handoff = handoff ∨
      (handoff.state.isTerminal = false ∧
        expire now handoff = { handoff with state := .expired }) := by
  unfold expire
  cases ended : handoff.state.isTerminal with
  | true => exact .inl rfl
  | false =>
      simp only [Bool.false_eq_true, if_false]
      split
      · exact .inl rfl
      · exact .inr ⟨trivial, rfl⟩

theorem expire_id (handoff : Handoff) :
    (expire now handoff).id = handoff.id := by
  rcases expire_cases now handoff with same | ⟨_, left⟩
  · rw [same]
  · rw [left]

theorem expire_of_state {handoff : Handoff} {state : HandoffState}
    (left : (expire now handoff).state = state) (open' : state ≠ .expired) :
    expire now handoff = handoff := by
  rcases expire_cases now handoff with same | ⟨_, expired⟩
  · exact same
  · rw [expired] at left
    exact absurd left.symm open'

theorem play_load (sessionId : UUID) :
    (HandoffStateStore.load sessionId).play (respond now) store =
      (.ok (store.find? sessionId), store) := rfl

theorem play_write (handoff : Handoff) :
    (HandoffStateStore.write handoff).play (respond now) store =
      (.ok (), store.upsert handoff) := rfl

/-- Without interruption the calls are the operations of the store. -/
theorem play_activate (sessionId : UUID) (token : String) :
    (HandoffStateStore.activate sessionId token).play (respond now) store =
      (.ok (store.activate now sessionId token).2,
        (store.activate now sessionId token).1) := by
  unfold HandoffStateStore.activate activate
  rw [play_bind, play_load]
  cases found : store.find? sessionId with
  | none => rfl
  | some handoff =>
      dsimp only
      split
      · rfl
      · rw [play_bind, play_expire]
        dsimp only
        split
        · rfl
        · rename_i ready
          have here := (Table.find?_eq_some.mp found).2
          have state : (expire now handoff).state = .pending :=
            Decidable.not_not.mp ready
          have kept := expire_of_state now state (by decide)
          have written : store.upsert { handoff with state := .active } =
              store.put { handoff with state := .active } :=
            upsert_of_found store found here
          rw [play_bind, play_write, kept, written]
          rfl

theorem play_state (sessionId : UUID) :
    (HandoffStateStore.state sessionId).play (respond now) store =
      (.ok (store.state now sessionId).2, (store.state now sessionId).1) := by
  unfold HandoffStateStore.state state
  rw [play_bind, play_load]
  cases found : store.find? sessionId with
  | none => rfl
  | some handoff =>
      have here := (Table.find?_eq_some.mp found).2
      dsimp only
      rw [play_bind, play_expire]
      dsimp only
      split
      · rw [play_bind, play_write, upsert_of_found store found
          ((expire_id now handoff).trans here)]
        rfl
      · rfl

theorem play_resolve (sessionId : UUID) (confirmed : Bool) :
    (HandoffStateStore.resolve sessionId confirmed).play (respond now) store =
      (.ok (store.resolve now sessionId confirmed).2,
        (store.resolve now sessionId confirmed).1) := by
  unfold HandoffStateStore.resolve resolve
  rw [play_bind, play_load]
  cases found : store.find? sessionId with
  | none => rfl
  | some handoff =>
      have here := (Table.find?_eq_some.mp found).2
      have left := (expire_id now handoff).trans here
      dsimp only
      rw [play_bind, play_expire]
      dsimp only
      split
      · split
        · rw [play_bind, play_write, upsert_of_found store found left]
          rfl
        · rfl
      · have written (resolved : HandoffState) :
            store.upsert { expire now handoff with state := resolved } =
              store.put { expire now handoff with state := resolved } :=
          upsert_of_found store found left
        rw [play_bind, play_write, written]
        rfl

end HandoffStore

inductive HandoffJob
  | activate (sessionId : UUID) (token : String)
  | state (sessionId : UUID)
  | resolve (sessionId : UUID) (confirmed : Bool)

def HandoffJob.program : HandoffJob → HandoffProgram Unit
  | .activate sessionId token => do
      let _ ← HandoffStateStore.activate sessionId token
  | .state sessionId => do
      let _ ← HandoffStateStore.state sessionId
  | .resolve sessionId confirmed => do
      let _ ← HandoffStateStore.resolve sessionId confirmed

/-- What the outside decides about one step of a call. -/
structure HandoffChoice where
  readable : Bool := true
  now : Time := 0

/-- The files, and the handoffs that an activation wrote as active, the latest
first. -/
structure HandoffFiles where
  store : HandoffStore
  activated : List UUID

namespace HandoffFiles

def replace (files : HandoffFiles) (handoff : Handoff) : HandoffFiles where
  store := files.store.upsert handoff
  activated :=
    if handoff.state = .active then handoff.id :: files.activated
    else files.activated

def perform (files : HandoffFiles) (choice : HandoffChoice) :
    (call : HandoffCall) → HandoffFiles × Except Empty (HandoffReply call)
  | .read sessionId =>
      (files, .ok (if choice.readable then files.store.find? sessionId
        else none))
  | .now => (files, .ok choice.now)
  | .replace handoff => (files.replace handoff, .ok ())

end HandoffFiles

structure Reading where
  held : Handoff
  now : Option Time

def Reading.past (reading : Reading) : Bool :=
  match reading.held.expiresAt with
  | none => true
  | some expiresAt => reading.now.any (expiresAt ≤ ·)

def Reading.left (reading : Reading) : Handoff :=
  if reading.held.state.isTerminal then reading.held
  else if reading.past then { reading.held with state := .expired }
  else reading.held

structure WritesFor (reading : Reading) (handoff : Handoff) : Prop where
  shape : handoff = { reading.held with state := handoff.state }
  kind : (reading.left.state = .pending ∧ handoff.state = .active) ∨
    (reading.left.state = .expired ∧ handoff.state = .expired) ∨
    (reading.left.state = .active ∧
      (handoff.state = .confirmed ∨ handoff.state = .cancelled))

/-- The phase is what the call has read. -/
def handoffProtocol :
    Protocol HandoffCall HandoffReply Empty (Option Reading) where
  permits phase call :=
    match call with
    | .replace handoff =>
        ∃ reading, phase = some reading ∧ WritesFor reading handoff
    | _ => True
  assumes _ _ _ := True
  advance phase call reply :=
    match call, reply with
    | .read _, .ok found => found.map (⟨·, none⟩)
    | .now, .ok now => phase.map ({ · with now := some now })
    | .replace _, _ => none

def handoffMachine : Machine HandoffCall HandoffReply Empty (Option Reading)
    HandoffFiles HandoffJob HandoffChoice where
  protocol := handoffProtocol
  idle := none
  program := HandoffJob.program
  perform _ files call choice := some (files.perform choice call)

namespace HandoffFile

/-! The calls follow the protocol. -/

section

variable {reading : Reading}

theorem left_cases (reading : Reading) :
    (reading.left.state = reading.held.state ∧
      (reading.held.state.isTerminal = false → reading.past = false)) ∨
      (reading.left.state = .expired ∧
        reading.held.state.isTerminal = false ∧ reading.past = true) := by
  unfold Reading.left
  cases ended : reading.held.state.isTerminal with
  | true => exact .inl ⟨rfl, fun open' => by cases open'⟩
  | false =>
      cases past : reading.past with
      | true => exact .inr ⟨rfl, rfl, rfl⟩
      | false => exact .inl ⟨rfl, fun _ => rfl⟩

theorem left_eq (reading : Reading) :
    reading.left = { reading.held with state := reading.left.state } := by
  unfold Reading.left
  split
  · rfl
  · split
    · rfl
    · rfl

def Looked (handoff : Handoff) (outcome : Except Empty Handoff)
    (phase : Option Reading) : Prop :=
  ∃ reading, phase = some reading ∧ reading.held = handoff ∧
    ∀ left, outcome = .ok left → left = reading.left

theorem expire_follows (handoff : Handoff) :
    Follows handoffProtocol (some ⟨handoff, none⟩)
      (HandoffStateStore.expire handoff) (Looked handoff) := by
  unfold HandoffStateStore.expire
  cases ended : handoff.state.isTerminal with
  | true =>
      refine ⟨_, rfl, rfl, fun left same => ?_⟩
      cases same
      simp [Reading.left, ended]
  | false =>
      cases lifetime : handoff.expiresAt with
      | none =>
          refine ⟨_, rfl, rfl, fun left same => ?_⟩
          cases same
          simp [Reading.left, Reading.past, ended, lifetime]
      | some expiresAt =>
          refine ⟨trivial, fun reply _ => ?_⟩
          cases reply with
          | error fault => exact nomatch fault
          | ok now =>
              have seen : (⟨handoff, some now⟩ : Reading).past =
                  decide (expiresAt ≤ now) := by
                simp [Reading.past, lifetime]
              simp only [attempt_done]
              split
              · rename_i expired
                refine ⟨⟨handoff, some now⟩, rfl, rfl, fun left same => ?_⟩
                cases same
                simp [Reading.left, ended, seen, expired, lifetime]
              · rename_i early
                refine ⟨⟨handoff, some now⟩, rfl, rfl, fun left same => ?_⟩
                cases same
                simp [Reading.left, ended, seen, early]

theorem load_follows (sessionId : UUID) {phase : Option Reading} :
    Follows handoffProtocol phase (HandoffStateStore.load sessionId)
      fun outcome phase => ∃ found, outcome = .ok found ∧
        phase = found.map (⟨·, none⟩) :=
  ⟨trivial, fun reply _ => match reply with
    | .ok found => ⟨found, rfl, rfl⟩
    | .error fault => nomatch fault⟩

theorem write_follows {handoff : Handoff} (writes : WritesFor reading handoff)
    {α : Type} (value : α) :
    Follows handoffProtocol (some reading)
      (do HandoffStateStore.write handoff; pure value) fun _ _ => True :=
  ⟨⟨reading, rfl, writes⟩, fun reply _ => match reply with
    | .ok _ => trivial
    | .error fault => nomatch fault⟩

theorem loaded_follows {α : Type} (sessionId : UUID)
    {next : Option Handoff → HandoffProgram α}
    (absent : Follows handoffProtocol none (next none) fun _ _ => True)
    (present : ∀ held, Follows handoffProtocol (some ⟨held, none⟩)
      (next (some held)) fun _ _ => True) :
    Follows handoffProtocol none (HandoffStateStore.load sessionId >>= next)
      fun _ _ => True := by
  refine (load_follows sessionId).bind ?_ fun _ _ _ => trivial
  intro found phase loaded
  obtain ⟨_, same, rfl⟩ := loaded
  cases same
  cases found with
  | none => exact absent
  | some held => exact present held

theorem left_follows {α : Type} (held : Handoff)
    {next : Handoff → HandoffProgram α}
    (continues : ∀ reading, reading.held = held →
      Follows handoffProtocol (some reading) (next reading.left)
        fun _ _ => True) :
    Follows handoffProtocol (some ⟨held, none⟩)
      (HandoffStateStore.expire held >>= next) fun _ _ => True := by
  refine (expire_follows held).bind ?_ fun _ _ _ => trivial
  intro left phase looked
  obtain ⟨reading, rfl, same, shape⟩ := looked
  rw [shape left rfl]
  exact continues reading same

theorem expired_writes (expired : reading.left.state = .expired) :
    WritesFor reading reading.left where
  shape := left_eq reading
  kind := .inr (.inl ⟨expired, expired⟩)

theorem state_writes {state : HandoffState}
    (kind : (reading.left.state = .pending ∧ state = .active) ∨
      (reading.left.state = .expired ∧ state = .expired) ∨
      (reading.left.state = .active ∧
        (state = .confirmed ∨ state = .cancelled))) :
    WritesFor reading { reading.left with state } where
  shape := by
    rw [left_eq reading]
  kind := kind

end

theorem discarded_follows {α : Type} {program : HandoffProgram α}
    (follows : Follows handoffProtocol none program fun _ _ => True) :
    Follows handoffProtocol none (do let _ ← program) fun _ _ => True :=
  follows.bind (fun _ _ _ => trivial) fun _ _ _ => trivial

theorem program_follows (job : HandoffJob) :
    Follows handoffProtocol none job.program fun _ _ => True := by
  cases job with
  | activate sessionId token =>
      refine discarded_follows (loaded_follows sessionId trivial ?_)
      intro held
      dsimp only
      split
      · trivial
      · refine left_follows held fun reading _ => ?_
        split
        · trivial
        · rename_i ready
          exact write_follows (state_writes
            (.inl ⟨Decidable.not_not.mp ready, rfl⟩)) _
  | state sessionId =>
      refine discarded_follows (loaded_follows sessionId trivial ?_)
      intro held
      refine left_follows held fun reading _ => ?_
      split
      · rename_i expired
        exact write_follows (expired_writes expired) _
      · trivial
  | resolve sessionId confirmed =>
      refine discarded_follows (loaded_follows sessionId trivial ?_)
      intro held
      refine left_follows held fun reading _ => ?_
      split
      · split
        · rename_i expired
          exact write_follows (expired_writes expired) _
        · trivial
      · rename_i active
        refine write_follows (state_writes (.inr (.inr
          ⟨Decidable.not_not.mp active, ?_⟩))) _
        cases confirmed with
        | true => exact .inl rfl
        | false => exact .inr rfl

/-! The shared files. -/

structure Moved (files : HandoffFiles) (held row : Handoff) : Prop where
  pending : held.state = .pending → row.state = .pending ∨
    row.state.isTerminal = true ∨ held.id ∈ files.activated
  active : held.state = .active → row.state = .active ∨
    row.state.isTerminal = true
  ended : held.state.isTerminal = true → row.state = held.state

/-- A handoff that was read is stored with another state at most. -/
structure Fresh (files : HandoffFiles) (reading : Reading) : Prop where
  stored : ∃ row ∈ files.store, row = { reading.held with state := row.state } ∧
    Moved files reading.held row

structure Holds (files : HandoffFiles)
    (phases : ThreadId → Option Reading) : Prop where
  fresh : ∀ thread reading, phases thread = some reading → Fresh files reading
  left : ∀ row ∈ files.store, row.id ∈ files.activated →
    row.state ≠ .pending
  once : files.activated.Nodup

/-- What each step is to satisfy: a handoff that has ended stays as it is, and
none is activated twice. -/
structure Lawful (before after : HandoffFiles) : Prop where
  absorbs : ∀ row ∈ before.store, row.state.isTerminal = true →
    row ∈ after.store
  once : after.activated.Nodup

/-- Changes since the reading that do no harm: a call that found the lifetime
over meets a handoff that was activated or has expired, and a decision meets the
same decision. -/
def Harmless (reading : Reading) (stored decision : HandoffState) : Prop :=
  if reading.past then stored = .active ∨ stored = .expired
  else reading.held.state = .active ∧ stored = decision

/-- When a call comes to replace the file, it has the state that the call has
read, or one that does no harm. -/
def Current (files : HandoffFiles) (phase : Option Reading) : HandoffCall → Prop
  | .replace handoff => ∀ reading, phase = some reading →
      ∀ row ∈ files.store, row.id = handoff.id →
        row.state = reading.held.state ∨
          Harmless reading row.state handoff.state
  | _ => True

/-- The states that the written one may replace. -/
def Suits (stored written : HandoffState) : Prop :=
  if written = .active then stored = .pending
  else stored.isTerminal = true → stored = written

theorem suits_iff {files : HandoffFiles} {reading : Reading}
    {row handoff : Handoff} (moved : Moved files reading.held row)
    (writes : WritesFor reading handoff) :
    (row.state = reading.held.state ∨
      Harmless reading row.state handoff.state) ↔
      Suits row.state handoff.state := by
  unfold Harmless Suits
  rcases writes.kind with ⟨left, written⟩ | ⟨left, written⟩ | ⟨left, written⟩
  · -- An activation: the handoff was pending, and in time.
    rcases left_cases reading with ⟨same, early⟩ | ⟨expired, _⟩
    · rw [left] at same
      have inTime := early (by rw [← same]; rfl)
      simp [inTime, written, ← same]
    · rw [left] at expired
      cases expired
  · -- The lifetime is over, or the handoff had expired before.
    rcases left_cases reading with ⟨same, _⟩ | ⟨_, nonterminal, expired⟩
    · rw [left] at same
      have still := moved.ended (by rw [← same]; rfl)
      rw [← same] at still
      simp [still, written, ← same]
    · have states : row.state = .pending →
          reading.held.state = .pending := by
        intro waiting
        cases held : reading.held.state with
        | pending => rfl
        | active =>
            rcases moved.active held with active | ended
            · rw [waiting] at active
              cases active
            · rw [waiting] at ended
              cases ended
        | confirmed | cancelled | expired | disconnected =>
            rw [held] at nonterminal
            cases nonterminal
      simp only [expired, if_true, written]
      constructor
      · intro current ended
        rcases current with same | active | expired
        · rw [same, nonterminal] at ended
          cases ended
        · rw [active] at ended
          cases ended
        · exact expired
      · intro suits
        cases stored : row.state with
        | pending => exact .inl (states stored).symm
        | active => exact .inr (.inl rfl)
        | confirmed | cancelled | expired | disconnected =>
            have expired := suits (by rw [stored]; rfl)
            rw [stored] at expired
            exact .inr (.inr expired)
  · -- A decision: the handoff was active, and in time.
    rcases left_cases reading with ⟨same, early⟩ | ⟨expired, _⟩
    · rw [left] at same
      have inTime := early (by rw [← same]; rfl)
      have inactive : handoff.state ≠ .active := by
        rcases written with confirmed | cancelled
        · rw [confirmed]
          decide
        · rw [cancelled]
          decide
      simp only [inTime, ← same, if_neg inactive, Bool.false_eq_true, if_false,
        true_and]
      constructor
      · intro current ended
        rcases current with active | decided
        · rw [active] at ended
          cases ended
        · exact decided
      · intro suits
        rcases moved.active same.symm with active | ended
        · exact .inl active
        · exact .inr (suits ended)
    · rw [left] at expired
      cases expired

theorem replace_lawful {files : HandoffFiles} {reading : Reading}
    {handoff : Handoff} {phases : ThreadId → Option Reading}
    (holds : Holds files phases) (fresh : Fresh files reading)
    (writes : WritesFor reading handoff) :
    Lawful files (files.replace handoff) ↔
      Current files (some reading) (.replace handoff) := by
  obtain ⟨row, member, payload, moved⟩ := fresh.stored
  have sameId : row.id = handoff.id := by
    rw [payload, writes.shape]
  have current_iff : Current files (some reading) (.replace handoff) ↔
      Suits row.state handoff.state := by
    rw [← suits_iff moved writes]
    constructor
    · intro current
      exact current reading rfl row member sameId
    · intro suits other same found present here
      cases same
      obtain rfl : found = row :=
        Table.eq_of_key_eq present member (here.trans sameId.symm)
      exact suits
  have written : handoff = { row with state := handoff.state } := by
    rw [payload]
    exact writes.shape
  rw [current_iff]
  unfold Suits
  constructor
  · intro lawful
    have ended : row.state.isTerminal = true → row.state = handoff.state := by
      intro terminal
      rcases Table.mem_upsert.mp (lawful.absorbs row member terminal) with
        equal | ⟨_, different⟩
      · rw [equal]
      · exact absurd sameId different
    split
    · rename_i active
      have pending : reading.held.state = .pending := by
        rcases writes.kind with ⟨left, _⟩ | ⟨_, other⟩ | ⟨_, other | other⟩
        · rcases left_cases reading with ⟨same, _⟩ | ⟨expired, _⟩
          · rw [← same, left]
          · rw [left] at expired
            cases expired
        all_goals
          rw [active] at other
          cases other
      rcases moved.pending pending with still | terminal | before
      · exact still
      · have equal := ended terminal
        rw [equal, active] at terminal
        cases terminal
      · have nodup := lawful.once
        unfold HandoffFiles.replace at nodup
        rw [if_pos active] at nodup
        have sameHeld : reading.held.id = handoff.id := by
          rw [writes.shape]
        exact absurd (sameHeld ▸ before) (List.nodup_cons.mp nodup).1
    · exact ended
  · intro suits
    constructor
    · intro other present terminal
      refine Table.mem_upsert.mpr ?_
      by_cases same : other.id = handoff.id
      · obtain rfl : other = row :=
          Table.eq_of_key_eq present member (same.trans sameId.symm)
        left
        split at suits
        · rw [suits] at terminal
          cases terminal
        · rw [written, ← suits terminal]
      · exact .inr ⟨present, same⟩
    · unfold HandoffFiles.replace
      split
      · rename_i active
        rw [if_pos active] at suits
        refine List.nodup_cons.mpr ⟨fun before => ?_, holds.once⟩
        exact holds.left row member (sameId ▸ before) suits
      · exact holds.once

theorem Fresh.replace {files : HandoffFiles} {reading other : Reading}
    {handoff : Handoff} (fresh : Fresh files reading)
    (beside : Fresh files other) (writes : WritesFor reading handoff)
    (current : Current files (some reading) (.replace handoff)) :
    Fresh (files.replace handoff) other := by
  obtain ⟨row, member, payload, moved⟩ := fresh.stored
  obtain ⟨stored, present, same, others⟩ := beside.stored
  have sameId : row.id = handoff.id := by
    rw [payload, writes.shape]
  have otherId : stored.id = other.held.id := by
    rw [same]
  by_cases here : stored.id = handoff.id
  · obtain rfl : stored = row :=
      Table.eq_of_key_eq present member (here.trans sameId.symm)
    have suits := (suits_iff moved writes).mp (current reading rfl stored member
      sameId)
    have written : handoff = { other.held with state := handoff.state } := by
      have first : ({ stored with state := handoff.state } : Handoff) =
          { reading.held with state := handoff.state } :=
        congrArg (fun row : Handoff => { row with state := handoff.state })
          payload
      have second : ({ stored with state := handoff.state } : Handoff) =
          { other.held with state := handoff.state } :=
        congrArg (fun row : Handoff => { row with state := handoff.state }) same
      exact writes.shape.trans (first.symm.trans second)
    have kinds : handoff.state = .active ∨ handoff.state.isTerminal = true := by
      rcases writes.kind with ⟨_, state⟩ | ⟨_, state⟩ | ⟨_, state | state⟩
      · exact .inl state
      all_goals
        rw [state]
        exact .inr rfl
    refine ⟨handoff, Table.mem_upsert.mpr (.inl rfl), written, ?_, ?_, ?_⟩
    · intro _
      rcases kinds with active | terminal
      · right; right
        unfold HandoffFiles.replace
        rw [if_pos active, ← otherId, here]
        exact List.mem_cons_self
      · exact .inr (.inl terminal)
    · intro _
      exact kinds
    · intro ended
      have still := others.ended ended
      unfold Suits at suits
      split at suits
      · rw [← still, suits] at ended
        cases ended
      · rw [← suits (still.symm ▸ ended), still]
  · refine ⟨stored, Table.mem_upsert.mpr (.inr ⟨present, here⟩), same, ?_,
      others.active, others.ended⟩
    intro pending
    refine (others.pending pending).imp_right (Or.imp_right fun before => ?_)
    unfold HandoffFiles.replace
    split
    · exact List.mem_cons_of_mem _ before
    · exact before

theorem Holds.replace {files : HandoffFiles} {reading : Reading}
    {handoff : Handoff} {phases : ThreadId → Option Reading}
    (holds : Holds files phases) {thread : ThreadId}
    (fresh : Fresh files reading) (writes : WritesFor reading handoff)
    (current : Current files (some reading) (.replace handoff)) :
    Holds (files.replace handoff)
      (Function.update phases thread none) where
  fresh := by
    intro other beside phase
    by_cases same : other = thread
    · subst same
      rw [Function.update_self] at phase
      cases phase
    · rw [Function.update_of_ne same] at phase
      exact fresh.replace (holds.fresh other beside phase) writes current
  left := by
    intro row member activated pending
    rcases Table.mem_upsert.mp member with rfl | ⟨present, different⟩
    · rcases writes.kind with ⟨_, state⟩ | ⟨_, state⟩ | ⟨_, state | state⟩
      all_goals
        rw [state] at pending
        cases pending
    · refine holds.left row present ?_ pending
      unfold HandoffFiles.replace at activated
      split at activated
      · rcases List.mem_cons.mp activated with same | before
        · exact absurd same different
        · exact before
      · exact activated
  once := ((replace_lawful holds fresh writes).mpr current).once

theorem holds_update {files : HandoffFiles}
    {phases : ThreadId → Option Reading} (holds : Holds files phases)
    (thread : ThreadId) {phase : Option Reading}
    (fresh : ∀ reading, phase = some reading → Fresh files reading) :
    Holds files (Function.update phases thread phase) where
  fresh := by
    intro other reading here
    by_cases same : other = thread
    · subst same
      rw [Function.update_self] at here
      exact fresh reading here
    · rw [Function.update_of_ne same] at here
      exact holds.fresh other reading here
  left := holds.left
  once := holds.once

theorem fresh_of_find? {files : HandoffFiles} {sessionId : UUID}
    {held : Handoff} (found : files.store.find? sessionId = some held) :
    Fresh files ⟨held, none⟩ where
  stored := ⟨held, (Table.find?_eq_some.mp found).1, rfl, .inl, .inl,
    fun _ => rfl⟩

abbrev guard : Machine.CallCondition HandoffCall (Option Reading)
    HandoffFiles :=
  fun thread files phases call => Current files (phases thread) call

theorem perform_holds {files after : HandoffFiles}
    {phases : ThreadId → Option Reading} {thread : ThreadId}
    {call : HandoffCall} {choice : HandoffChoice}
    {reply : Except Empty (HandoffReply call)} (holds : Holds files phases)
    (permitted : handoffProtocol.permits (phases thread) call)
    (current : Current files (phases thread) call)
    (performed : some (files.perform choice call) = some (after, reply)) :
    Holds after (Function.update phases thread
      (handoffProtocol.advance (phases thread) call reply)) := by
  cases call with
  | read sessionId =>
      cases performed
      refine holds_update holds thread fun reading found => ?_
      simp only [handoffProtocol] at found
      split at found
      · obtain ⟨held, stored, rfl⟩ := Option.map_eq_some_iff.mp found
        exact fresh_of_find? stored
      · cases found
  | now =>
      cases performed
      refine holds_update holds thread fun reading looked => ?_
      obtain ⟨before, phase, rfl⟩ := Option.map_eq_some_iff.mp looked
      exact ⟨(holds.fresh thread before phase).stored⟩
  | replace handoff =>
      cases performed
      obtain ⟨reading, phase, writes⟩ := permitted
      rw [phase] at current
      exact holds.replace (holds.fresh thread reading phase) writes current

abbrev Config : Type :=
  Foundation.Config HandoffCall HandoffReply Empty (Option Reading)
    HandoffFiles

abbrev Consistent (config : Config) : Prop :=
  Machine.Sound handoffMachine Holds (fun _ => True) config

theorem consistent_next (config : Config)
    (label : Label HandoffJob HandoffChoice) (after : Config)
    (consistent : Consistent config)
    (meets : Machine.condition guard config label)
    (stepped : handoffMachine.next config label = some after) :
    Consistent after := by
  have resets : ∀ files phases thread, Holds files phases →
      Holds files (Function.update phases thread handoffMachine.idle) :=
    fun _ _ thread holds => holds_update holds thread fun _ held => nomatch held
  exact Machine.sound_next program_follows resets
    (fun _ _ _ _ _ _ _ holds permitted current performed =>
      ⟨trivial, perform_holds holds permitted current performed⟩)
    config label after consistent meets stepped

theorem lawful_refl {files : HandoffFiles}
    {phases : ThreadId → Option Reading} (holds : Holds files phases) :
    Lawful files files where
  absorbs _ member _ := member
  once := holds.once

theorem lawful_iff_current {files after : HandoffFiles}
    {phases : ThreadId → Option Reading} {thread : ThreadId}
    {call : HandoffCall} {choice : HandoffChoice}
    {reply : Except Empty (HandoffReply call)} (holds : Holds files phases)
    (permitted : handoffProtocol.permits (phases thread) call)
    (performed : some (files.perform choice call) = some (after, reply)) :
    Lawful files after ↔ Current files (phases thread) call := by
  cases call with
  | read sessionId =>
      cases performed
      exact iff_of_true (lawful_refl holds) trivial
  | now =>
      cases performed
      exact iff_of_true (lawful_refl holds) trivial
  | replace handoff =>
      cases performed
      obtain ⟨reading, phase, writes⟩ := permitted
      rw [phase]
      exact replace_lawful holds (holds.fresh thread reading phase) writes

/-- One step is lawful if and only if the file it may replace has not moved
on. -/
theorem next_lawful {config after : Config}
    {label : Label HandoffJob HandoffChoice} (consistent : Consistent config)
    (stepped : handoffMachine.next config label = some after) :
    Lawful config.shared after.shared ↔
      Machine.condition guard config label := by
  apply consistent.relates_iff Lawful (lawful_refl consistent.holds)
  · intro thread call choice files reply permitted performed
    exact lawful_iff_current consistent.holds permitted performed
  · exact stepped

/-- From any stored handoffs: the handoffs that have ended stay as they are and
none is activated twice, in exactly the runs in which no call replaces a file
whose state was changed, to some harm, after the call read it. -/
theorem handoffs_lawful (store : HandoffStore)
    (labels : List (Label HandoffJob HandoffChoice)) :
    Along handoffMachine.next
        (fun before _ after => Lawful before.shared after.shared)
        (handoffMachine.initial ⟨store, []⟩) labels ↔
      Meets handoffMachine.next (Machine.condition guard)
        (handoffMachine.initial ⟨store, []⟩) labels := by
  have initially : Consistent (handoffMachine.initial ⟨store, []⟩) :=
    Machine.sound_initial {
      fresh := nofun
      left := fun _ _ activated => absurd activated List.not_mem_nil
      once := List.nodup_nil }
  refine along_iff_meets ?_ initially
  intro config label after consistent stepped
  exact ⟨next_lawful consistent stepped, fun meets =>
    consistent_next config label after consistent meets stepped⟩

def waiting : HandoffFiles where
  store := ⟨[⟨1, .pending, ⟨"token"⟩, some 100⟩], List.nodup_singleton _⟩
  activated := []

def confirmedThenExpired : List (Label HandoffJob HandoffChoice) :=
  [.spawn 0 (.activate 1 "token"), .step 0 {}, .step 0 { now := 1 }, .step 0 {},
    .spawn 0 (.resolve 1 true), .step 0 {}, .step 0 { now := 99 },
    .spawn 1 (.state 1), .step 1 {}, .step 0 {}, .step 1 { now := 100 },
    .step 1 {}]

def activatedTwice : List (Label HandoffJob HandoffChoice) :=
  [.spawn 0 (.activate 1 "token"), .spawn 1 (.activate 1 "token"),
    .step 0 {}, .step 1 {}, .step 0 { now := 1 }, .step 1 { now := 1 },
    .step 0 {}, .step 1 {}]

theorem ended_handoffs_change :
    ¬ Along handoffMachine.next
        (fun before _ after => ∀ row ∈ before.shared.store,
          row.state.isTerminal = true → row ∈ after.shared.store)
        (handoffMachine.initial waiting) confirmedThenExpired ∧
      ¬ Along handoffMachine.next
        (fun _ _ after => after.shared.activated.Nodup)
        (handoffMachine.initial waiting) activatedTwice := by
  decide +kernel

end HandoffFile

end OfflineReels.Gateway
