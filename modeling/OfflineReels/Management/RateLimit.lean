import OfflineReels.Foundation.FixedWindow
import OfflineReels.Foundation.Transition
import OfflineReels.Management.Idempotency

namespace OfflineReels.Management

open OfflineReels.Foundation
open OfflineReels.Instagram

/-! The shared rate limiter: requests in transactions of their own, which wait
for each other on the row of a scope. -/

abbrev RateLimits :=
  Table ManagementRateLimit (Sha256 String) ManagementRateLimit.scopeHash

/-- One minute -/
def RATE_WINDOW : Time := 60 * 1000000

def rateLimited : ManagementError :=
  ⟨429, "rate_limited",
    "Слишком много запросов. Повторите позже."⟩

/-- What a request makes of the row it has locked. -/
def countRequest (item : ManagementRateLimit) (now : Time) (limit : Nat) :
    Except ManagementError ManagementRateLimit :=
  if item.windowStartedAt + RATE_WINDOW ≤ now then
    .ok { item with windowStartedAt := now, requestCount := 1 }
  else if limit ≤ item.requestCount then .error rateLimited
  else .ok { item with requestCount := item.requestCount + 1 }

/-- The part of the cleanup that is about this table. -/
def cleanupRateLimits (rows : RateLimits) (current : Time) : RateLimits :=
  rows.filter fun row => current < row.windowStartedAt + RATE_WINDOW

abbrev RequestId : Type := Nat

/-- Where a request is; a transaction has one time, that of its start. -/
inductive Stage
  | starting (attempt : Nat)
  | selecting (attempt : Nat) (now : Time)
  | inserting (attempt : Nat) (now : Time)
  | finished (outcome : Except ManagementError Unit)

structure RateRequest where
  scope : String
  stage : Stage

/-- What a request is refused after. -/
structure Refusal where
  scope : String
  counted : Nat
  deriving DecidableEq, Repr

/-- The window of a row that a cleanup removed, and the reading of the clock
that the cleanup went by. -/
structure Removal where
  scopeHash : Sha256 String
  window : Time
  current : Time
  deriving DecidableEq, Repr

/-- The table, the requests, and what an observer notes of them. -/
structure RateState where
  clock : Time
  rows : RateLimits
  requests : RequestId → Option RateRequest
  accepted : List (Arrival String)
  refused : List Refusal
  removed : List Removal

inductive RateEvent
  | arrive (id : RequestId) (scope : String)
  | start (id : RequestId)
  | select (id : RequestId)
  | insert (id : RequestId)
  | abort (id : RequestId)
  | cleanup (current : Time)
  | tick (elapsed : Time)
  deriving DecidableEq, Repr

namespace RateState

def initial (clock : Time) : RateState where
  clock := clock
  rows := Table.empty
  requests := fun _ => none
  accepted := []
  refused := []
  removed := []

def move (state : RateState) (id : RequestId) (scope : String)
    (stage : Stage) : RateState :=
  { state with
    requests := Function.update state.requests id (some ⟨scope, stage⟩) }

def accept (state : RateState) (id : RequestId) (scope : String) (now : Time)
    (window : Time) (rows : RateLimits) : RateState :=
  { state.move id scope (.finished (.ok ())) with
    rows := rows
    accepted := ⟨scope, now, window⟩ :: state.accepted }

def refuse (state : RateState) (id : RequestId) (scope : String) : RateState :=
  { state.move id scope (.finished (.error rateLimited)) with
    refused := ⟨scope, countNow state.accepted scope⟩ :: state.refused }

/-- The transaction of a request on the row it has locked. -/
def settle (state : RateState) (id : RequestId) (scope : String) (now : Time) :
    Except ManagementError ManagementRateLimit → RateState
  | .ok counted =>
      state.accept id scope now counted.windowStartedAt
        (state.rows.put counted)
  | .error _ => state.refuse id scope

section

variable (limits : String → Nat)

def arrive (state : RateState) (id : RequestId) (scope : String) :
    Option RateState :=
  match state.requests id with
  | none => some (state.move id scope (.starting 0))
  | some _ => none

def start (state : RateState) (id : RequestId) : Option RateState :=
  match state.requests id with
  | some ⟨scope, .starting attempt⟩ =>
      some (state.move id scope (.selecting attempt state.clock))
  | _ => none

/-- The row is locked, changed and committed; where there is none, the request
goes on to add it. -/
def select (state : RateState) (id : RequestId) : Option RateState :=
  match state.requests id with
  | some ⟨scope, .selecting attempt now⟩ =>
      match state.rows.find? ⟨scope⟩ with
      | none => some (state.move id scope (.inserting attempt now))
      | some item =>
          some (state.settle id scope now
            (countRequest item now (limits scope)))
  | _ => none

/-- A collision is tried again once. -/
def insert (state : RateState) (id : RequestId) : Option RateState :=
  match state.requests id with
  | some ⟨scope, .inserting attempt now⟩ =>
      match state.rows.insert? ⟨⟨scope⟩, now, 1⟩ with
      | some rows => some (state.accept id scope now now rows)
      | none =>
          if attempt = 0 then some (state.move id scope (.starting 1))
          else some (state.refuse id scope)
  | _ => none

/-- The rows that are gone after a cleanup. -/
def removals (before after : RateLimits) (current : Time) : List Removal :=
  (before.rows.filter (· ∉ after.rows)).map fun row =>
    ⟨row.scopeHash, row.windowStartedAt, current⟩

def cleanup (state : RateState) (current : Time) : Option RateState :=
  if current ≤ state.clock then
    let rows := cleanupRateLimits state.rows current
    some { state with
      rows := rows
      removed := removals state.rows rows current ++ state.removed }
  else none

/-- One action on the database, or the clock moves. -/
def next (state : RateState) : RateEvent → Option RateState
  | .arrive id scope => state.arrive id scope
  | .start id => state.start id
  | .select id => state.select limits id
  | .insert id => state.insert id
  | .abort id =>
      some { state with requests := Function.update state.requests id none }
  | .cleanup current => state.cleanup current
  | .tick elapsed => some { state with clock := state.clock + elapsed }

/-- A request is counted in no window that began after it, and does not collide
when it tries again.  One that adds a row has read the clock no earlier than the
cleanups that removed the rows of its scope, or a minute after the starts of
these. -/
def isOrderly (state : RateState) : RateEvent → Bool
  | .select id =>
      match state.requests id with
      | some ⟨scope, .selecting _ now⟩ =>
          match state.rows.find? ⟨scope⟩ with
          | some item =>
              limits scope ≤ item.requestCount || item.windowStartedAt ≤ now
          | none => true
      | _ => true
  | .insert id =>
      match state.requests id with
      | some ⟨scope, .inserting attempt now⟩ =>
          match state.rows.find? ⟨scope⟩ with
          | some _ => attempt = 0
          | none => state.removed.all fun removal =>
              removal.scopeHash ≠ ⟨scope⟩ || removal.current ≤ now ||
                removal.window + RATE_WINDOW ≤ now
      | _ => true
  | _ => true

def Orderly (state : RateState) (event : RateEvent) : Prop :=
  state.isOrderly limits event = true

instance (state : RateState) (event : RateEvent) :
    Decidable (Orderly limits state event) :=
  inferInstanceAs (Decidable (_ = true))

/-- The windows and the minutes are within the limits, and nobody is refused
before the current window is full. -/
structure Limited (state : RateState) : Prop where
  window : ∀ scope start,
    countIn state.accepted scope start ≤ limits scope
  minute : ∀ scope start,
    countBetween state.accepted scope start RATE_WINDOW ≤ 2 * limits scope
  refusal : ∀ refusal ∈ state.refused,
    limits refusal.scope ≤ refusal.counted

end

/-- A refusal leaves the counters. -/
def Silent (before : RateState) (_ : RateEvent) (after : RateState) : Prop :=
  after.refused ≠ before.refused → after.rows = before.rows

end RateState

namespace RateState

section

variable (limits : String → Nat)

structure Consistent (state : RateState) : Prop where
  windowed : Windowed RATE_WINDOW limits state.accepted
  row : ∀ scope item, state.rows.find? ⟨scope⟩ = some item →
    currentWindow state.accepted scope = some item.windowStartedAt ∧
      item.requestCount = countIn state.accepted scope item.windowStartedAt
  gone : ∀ scope, state.rows.find? ⟨scope⟩ = none →
    ∀ arrival ∈ state.accepted, arrival.key = scope →
      ∃ removal ∈ state.removed, removal.scopeHash = ⟨scope⟩ ∧
        arrival.window ≤ removal.window
  elapsed : ∀ removal ∈ state.removed,
    removal.window + RATE_WINDOW ≤ removal.current
  refusal : ∀ refusal ∈ state.refused,
    limits refusal.scope ≤ refusal.counted

variable {limits} {state : RateState}

theorem consistent_initial (clock : Time) :
    Consistent limits (initial clock) where
  windowed := windowed_nil
  row := fun scope item found => by
    obtain ⟨member, _⟩ := Table.find?_eq_some.mp found
    exact absurd member (Table.not_mem_empty _)
  gone := fun _ _ arrival member => absurd member List.not_mem_nil
  elapsed := fun removal member => absurd member List.not_mem_nil
  refusal := nofun

theorem Consistent.limited (consistent : Consistent limits state) :
    Limited limits state where
  window := consistent.windowed.limited
  minute := consistent.windowed.countBetween_le
  refusal := consistent.refusal

theorem Consistent.move (consistent : Consistent limits state)
    (id : RequestId) (scope : String) (stage : Stage) :
    Consistent limits (state.move id scope stage) :=
  ⟨consistent.windowed, consistent.row, consistent.gone, consistent.elapsed,
    consistent.refusal⟩

theorem Consistent.latest (consistent : Consistent limits state)
    {scope : String} {item : ManagementRateLimit}
    (found : state.rows.find? ⟨scope⟩ = some item) :
    ∀ arrival ∈ state.accepted, arrival.key = scope →
      arrival.window ≤ item.windowStartedAt := by
  intro arrival member same
  exact consistent.windowed.latest arrival member item.windowStartedAt
    (same ▸ (consistent.row scope item found).1)

theorem mem_removals {rows : RateLimits} {current : Time} {removal : Removal} :
    removal ∈ removals rows (cleanupRateLimits rows current) current ↔
      ∃ row ∈ rows, row.windowStartedAt + RATE_WINDOW ≤ current ∧
        removal = ⟨row.scopeHash, row.windowStartedAt, current⟩ := by
  have left (row : ManagementRateLimit) :
      (row ∈ rows.rows ∧ row ∉ (cleanupRateLimits rows current).rows) ↔
        row ∈ rows ∧ row.windowStartedAt + RATE_WINDOW ≤ current := by
    have kept : row ∈ (cleanupRateLimits rows current).rows ↔
        row ∈ rows ∧ current < row.windowStartedAt + RATE_WINDOW :=
      Table.mem_filter.trans (and_congr_right fun _ => decide_eq_true_iff)
    rw [kept]
    constructor
    · intro both
      exact ⟨both.1, Nat.le_of_not_lt fun early => both.2 ⟨both.1, early⟩⟩
    · intro both
      exact ⟨both.1, fun stays => absurd both.2 (Nat.not_le_of_lt stays.2)⟩
  simp only [removals, List.mem_map, List.mem_filter, decide_eq_true_eq, left]
  constructor
  · intro given
    obtain ⟨row, both, rfl⟩ := given
    exact ⟨row, both.1, both.2, rfl⟩
  · intro given
    obtain ⟨row, member, elapsed, rfl⟩ := given
    exact ⟨row, ⟨member, elapsed⟩, rfl⟩

theorem Consistent.cleanup (consistent : Consistent limits state)
    (current : Time) :
    Consistent limits
      { state with
        rows := cleanupRateLimits state.rows current
        removed := removals state.rows (cleanupRateLimits state.rows current)
          current ++ state.removed } where
  windowed := consistent.windowed
  row := fun scope item found => by
    obtain ⟨member, here⟩ := Table.find?_eq_some.mp found
    have before := (Table.mem_filter.mp member).1
    exact consistent.row scope item (Table.find?_eq_some.mpr ⟨before, here⟩)
  gone := by
    intro scope absent arrival member same
    cases found : state.rows.find? ⟨scope⟩ with
    | none =>
        obtain ⟨removal, noted, both⟩ :=
          consistent.gone scope found arrival member same
        exact ⟨removal, List.mem_append_right _ noted, both⟩
    | some item =>
        obtain ⟨present, here⟩ := Table.find?_eq_some.mp found
        have elapsed : item.windowStartedAt + RATE_WINDOW ≤ current := by
          by_contra early
          have stays : item ∈ cleanupRateLimits state.rows current :=
            Table.mem_filter.mpr
              ⟨present, decide_eq_true (Nat.lt_of_not_le early)⟩
          exact Table.find?_eq_none.mp absent item stays here
        refine ⟨⟨item.scopeHash, item.windowStartedAt, current⟩, ?_, here,
          consistent.latest found arrival member same⟩
        exact List.mem_append_left _ (mem_removals.mpr
          ⟨item, present, elapsed, rfl⟩)
  elapsed := by
    intro removal member
    rcases List.mem_append.mp member with new | old
    · obtain ⟨row, _, elapsed, rfl⟩ := mem_removals.mp new
      exact elapsed
    · exact consistent.elapsed removal old
  refusal := consistent.refusal

theorem Consistent.accept (consistent : Consistent limits state)
    {id : RequestId}
    {scope : String} {now : Time} {counted : ManagementRateLimit}
    {rows : RateLimits}
    (windowed : Windowed RATE_WINDOW limits
      (⟨scope, now, counted.windowStartedAt⟩ :: state.accepted))
    (here : rows.find? ⟨scope⟩ = some counted)
    (elsewhere : ∀ other, other ≠ ⟨scope⟩ →
      rows.find? other = state.rows.find? other)
    (count : counted.requestCount =
      countIn state.accepted scope counted.windowStartedAt + 1) :
    Consistent limits
      (state.accept id scope now counted.windowStartedAt rows) where
  windowed := windowed
  row := by
    intro other item found
    simp only [RateState.accept] at found ⊢
    by_cases same : scope = other
    · subst same
      rw [here] at found
      cases found
      exact ⟨currentWindow_cons_self, by simp [countIn_cons, count]⟩
    · rw [elsewhere _ fun clash => same (Sha256.mk.inj clash).symm] at found
      rw [currentWindow_cons_other same, countIn_cons,
        if_neg fun clash => same clash.1]
      exact consistent.row other item found
  gone := by
    intro other absent arrival member same
    simp only [RateState.accept] at absent member
    have apart : other ≠ scope := by
      intro equal
      rw [equal, here] at absent
      cases absent
    rw [elsewhere _ fun clash => apart (Sha256.mk.inj clash)] at absent
    rcases List.mem_cons.mp member with rfl | earlier
    · exact absurd same.symm apart
    · exact consistent.gone other absent arrival earlier same
  elapsed := consistent.elapsed
  refusal := consistent.refusal

theorem Consistent.refuse (consistent : Consistent limits state)
    {id : RequestId} {scope : String}
    (full : limits scope ≤ countNow state.accepted scope) :
    Consistent limits (state.refuse id scope) where
  windowed := consistent.windowed
  row := consistent.row
  gone := consistent.gone
  elapsed := consistent.elapsed
  refusal := by
    intro refusal member
    rcases List.mem_cons.mp member with rfl | earlier
    · exact full
    · exact consistent.refusal refusal earlier

theorem Consistent.countNow_eq (consistent : Consistent limits state)
    {scope : String} {item : ManagementRateLimit}
    (found : state.rows.find? ⟨scope⟩ = some item) :
    countNow state.accepted scope = item.requestCount := by
  obtain ⟨current, count⟩ := consistent.row scope item found
  rw [countNow, current, count]

theorem Consistent.ended (consistent : Consistent limits state)
    {scope : String} {item : ManagementRateLimit} {now : Time}
    (found : state.rows.find? ⟨scope⟩ = some item)
    (expired : item.windowStartedAt + RATE_WINDOW ≤ now) :
    ∀ arrival ∈ state.accepted, arrival.key = scope →
      arrival.window + RATE_WINDOW ≤ now := by
  intro arrival member same
  have latest := consistent.latest found arrival member same
  exact Nat.le_trans (Nat.add_le_add_right latest _) expired

theorem find?_put {rows : RateLimits} {item : ManagementRateLimit}
    {scopeHash : Sha256 String}
    (found : rows.find? scopeHash = some item)
    (counted : ManagementRateLimit)
    (same : counted.scopeHash = item.scopeHash) :
    (rows.put counted).find? scopeHash = some counted ∧
      ∀ other, other ≠ scopeHash →
        (rows.put counted).find? other = rows.find? other := by
  have here : counted.scopeHash = scopeHash :=
    same.trans (Table.find?_eq_some.mp found).2
  refine ⟨Table.find?_put_self found here, fun other apart => ?_⟩
  exact Table.find?_put_other fun clash => apart (clash.symm.trans here)

theorem Consistent.count (consistent : Consistent limits state)
    {id : RequestId} {scope : String} {now : Time}
    {item counted : ManagementRateLimit} (positive : 0 < limits scope)
    (found : state.rows.find? ⟨scope⟩ = some item)
    (orderly : item.requestCount < limits scope → item.windowStartedAt ≤ now)
    (counts : countRequest item now (limits scope) = .ok counted) :
    Consistent limits
      (state.accept id scope now counted.windowStartedAt
        (state.rows.put counted)) := by
  unfold countRequest at counts
  split at counts
  · rename_i expired
    cases counts
    obtain ⟨here, elsewhere⟩ := find?_put found
      { item with windowStartedAt := now, requestCount := 1 } rfl
    have ended := consistent.ended found expired
    refine consistent.accept ?_ here elsewhere ?_
    · exact consistent.windowed.opened (by decide) positive rfl ended
    · rw [countIn_fresh (by decide) ended]
  · rename_i running
    split at counts
    · cases counts
    · rename_i room
      cases counts
      obtain ⟨here, elsewhere⟩ := find?_put found
        { item with requestCount := item.requestCount + 1 } rfl
      obtain ⟨current, count⟩ := consistent.row scope item found
      refine consistent.accept ?_ here elsewhere ?_
      · refine consistent.windowed.counted current ?_ ?_ ?_
        · rw [← count]
          exact Nat.lt_of_not_le room
        · exact orderly (Nat.lt_of_not_le room)
        · exact Nat.lt_of_not_le running
      · exact congrArg (· + 1) count

theorem Consistent.insert (consistent : Consistent limits state)
    {id : RequestId} {scope : String} {now : Time} {rows : RateLimits}
    (positive : 0 < limits scope)
    (ended : ∀ arrival ∈ state.accepted, arrival.key = scope →
      arrival.window + RATE_WINDOW ≤ now)
    (inserted : state.rows.insert? ⟨⟨scope⟩, now, 1⟩ = some rows) :
    Consistent limits (state.accept id scope now now rows) := by
  refine consistent.accept ?_
    (Table.find?_insert?_self inserted)
    (fun _ => Table.find?_insert?_other inserted) ?_
  · exact consistent.windowed.opened (by decide) positive rfl ended
  · rw [countIn_fresh (by decide) ended]

theorem countRequest_error {item : ManagementRateLimit} {now : Time}
    {limit : Nat} {error : ManagementError}
    (refused : countRequest item now limit = .error error) :
    limit ≤ item.requestCount := by
  unfold countRequest at refused
  split at refused
  · cases refused
  · split at refused
    · assumption
    · cases refused

theorem orderly_select {id : RequestId} {scope : String} {attempt : Nat}
    {now : Time} {item : ManagementRateLimit}
    (orderly : Orderly limits state (.select id))
    (asked : state.requests id = some ⟨scope, .selecting attempt now⟩)
    (found : state.rows.find? ⟨scope⟩ = some item)
    (room : item.requestCount < limits scope) : item.windowStartedAt ≤ now := by
  simp only [Orderly, isOrderly, asked, found, Bool.or_eq_true,
    decide_eq_true_eq] at orderly
  exact orderly.resolve_left (Nat.not_le_of_lt room)

theorem orderly_insert {id : RequestId} {scope : String} {attempt : Nat}
    {now : Time} (orderly : Orderly limits state (.insert id))
    (asked : state.requests id = some ⟨scope, .inserting attempt now⟩)
    (absent : state.rows.find? ⟨scope⟩ = none) :
    ∀ removal ∈ state.removed, removal.scopeHash = ⟨scope⟩ →
      removal.current ≤ now ∨ removal.window + RATE_WINDOW ≤ now := by
  simp only [Orderly, isOrderly, asked, absent, List.all_eq_true,
    Bool.or_eq_true, decide_eq_true_eq] at orderly
  intro removal member same
  rcases orderly removal member with (apart | after) | late
  · exact absurd same apart
  · exact .inl after
  · exact .inr late

theorem Consistent.ended_of_absent (consistent : Consistent limits state)
    {scope : String} {now : Time}
    (absent : state.rows.find? ⟨scope⟩ = none)
    (removed : ∀ removal ∈ state.removed, removal.scopeHash = ⟨scope⟩ →
      removal.current ≤ now ∨ removal.window + RATE_WINDOW ≤ now) :
    ∀ arrival ∈ state.accepted, arrival.key = scope →
      arrival.window + RATE_WINDOW ≤ now := by
  intro arrival member same
  obtain ⟨removal, noted, here, latest⟩ :=
    consistent.gone scope absent arrival member same
  have within : arrival.window + RATE_WINDOW ≤ removal.window + RATE_WINDOW :=
    Nat.add_le_add_right latest RATE_WINDOW
  rcases removed removal noted here with after | late
  · exact within.trans ((consistent.elapsed removal noted).trans after)
  · exact within.trans late

theorem orderly_retry {id : RequestId} {scope : String} {attempt : Nat}
    {now : Time} {item : ManagementRateLimit}
    (orderly : Orderly limits state (.insert id))
    (asked : state.requests id = some ⟨scope, .inserting attempt now⟩)
    (found : state.rows.find? ⟨scope⟩ = some item) :
    attempt = 0 := by
  simpa only [Orderly, isOrderly, asked, found, decide_eq_true_eq]
    using orderly

theorem consistent_select (positive : ∀ scope, 0 < limits scope) {id : RequestId}
    {after : RateState} (consistent : Consistent limits state)
    (orderly : Orderly limits state (.select id))
    (stepped : state.select limits id = some after) :
    Consistent limits after ∧
      Silent state (.select id) after := by
  unfold select at stepped
  split at stepped
  · rename_i scope attempt now asked
    split at stepped
    · cases stepped
      exact ⟨consistent.move id scope _, fun _ => rfl⟩
    · rename_i item found
      cases stepped
      cases counts : countRequest item now (limits scope) with
      | ok counted =>
          have room := orderly_select orderly asked found
          exact ⟨consistent.count (positive scope) found room
            counts, fun clash => absurd rfl clash⟩
      | error refused =>
          refine ⟨consistent.refuse ?_, fun _ => rfl⟩
          rw [consistent.countNow_eq found]
          exact countRequest_error counts
  · cases stepped

theorem consistent_insert (positive : ∀ scope, 0 < limits scope) {id : RequestId}
    {after : RateState} (consistent : Consistent limits state)
    (orderly : Orderly limits state (.insert id))
    (stepped : state.insert id = some after) :
    Consistent limits after ∧
      Silent state (.insert id) after := by
  unfold insert at stepped
  split at stepped
  · rename_i scope attempt now asked
    split at stepped
    · rename_i rows inserted
      cases stepped
      have absent : state.rows.find? ⟨scope⟩ = none :=
        Table.find?_eq_none.mpr (Table.insert?_eq_some inserted).1
      have ended := consistent.ended_of_absent absent
        (orderly_insert orderly asked absent)
      exact ⟨consistent.insert (positive scope) ended inserted,
        fun clash => absurd rfl clash⟩
    · rename_i refused
      obtain ⟨item, member, same⟩ := Table.insert?_eq_none refused
      have found : state.rows.find? ⟨scope⟩ = some item :=
        Table.find?_eq_some.mpr ⟨member, same⟩
      rw [if_pos (orderly_retry orderly asked found)] at stepped
      cases stepped
      exact ⟨consistent.move id scope _, fun _ => rfl⟩
  · cases stepped

theorem consistent_next (positive : ∀ scope, 0 < limits scope) (state : RateState)
    (event : RateEvent) (after : RateState)
    (consistent : Consistent limits state)
    (orderly : Orderly limits state event)
    (stepped : state.next limits event = some after) :
    Consistent limits after ∧ Silent state event after := by
  cases event with
  | arrive id scope =>
      simp only [next, arrive] at stepped
      split at stepped <;> cases stepped
      exact ⟨consistent.move id scope _, fun _ => rfl⟩
  | start id =>
      simp only [next, start] at stepped
      split at stepped <;> cases stepped
      exact ⟨consistent.move id _ _, fun _ => rfl⟩
  | select id =>
      exact consistent_select positive consistent orderly stepped
  | insert id =>
      exact consistent_insert positive consistent orderly stepped
  | abort id =>
      simp only [next, Option.some.injEq] at stepped
      subst stepped
      exact ⟨⟨consistent.windowed, consistent.row, consistent.gone,
        consistent.elapsed, consistent.refusal⟩, fun _ => rfl⟩
  | cleanup current =>
      simp only [next, cleanup] at stepped
      split at stepped <;> cases stepped
      exact ⟨consistent.cleanup current, fun clash => absurd rfl clash⟩
  | tick elapsed =>
      simp only [next, Option.some.injEq] at stepped
      subst stepped
      exact ⟨⟨consistent.windowed, consistent.row, consistent.gone,
        consistent.elapsed, consistent.refusal⟩, fun _ => rfl⟩

end

def opening (id : RequestId) : List RateEvent :=
  [.start id, .select id, .insert id]

/-- One request opens a window, a second one is over the limit of one, and a
third one comes when the window has been removed. -/
def sharedTestRun : List RateEvent :=
  .arrive 0 "shared-test" :: opening 0 ++
    [.arrive 1 "shared-test", .start 1, .select 1, .tick RATE_WINDOW,
      .cleanup RATE_WINDOW, .arrive 2 "shared-test"] ++ opening 2

def collidingRun : List RateEvent :=
  [.arrive 0 "pairing", .arrive 1 "pairing", .start 0, .start 1, .select 0,
    .select 1, .insert 0, .insert 1, .tick RATE_WINDOW, .start 1,
    .cleanup RATE_WINDOW, .select 1, .arrive 2 "pairing"] ++ opening 2 ++
    [.insert 1]

def waitingRun : List RateEvent :=
  (List.range 21).map (.arrive · "pairing") ++ opening 0 ++
    (List.range' 1 9).flatMap (fun id => [.start id, .select id]) ++
    .tick 20000000 :: (List.range' 10 10).map .start ++
    .tick 20000000 :: .start 20 :: .tick 20000000 :: .cleanup RATE_WINDOW ::
    .select 10 :: .insert 10 :: (List.range' 11 9).map .select ++
    [.tick 20000000, .cleanup 80000000, .select 20, .insert 20]

end RateState

end OfflineReels.Management
