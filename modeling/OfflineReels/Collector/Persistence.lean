import OfflineReels.Collector.Contracts

namespace OfflineReels.Collector

open OfflineReels.Foundation
open OfflineReels.Instagram

/-! The Collector's transactions.  Each maps the database before to the
database after, or to the error that rolls it back; the time and the new row
identifiers are drawn outside. -/

/-- The identifiers of the rows that one transaction may insert. -/
structure NewIdentifiers where
  reel : UUID
  job : UUID
  item : UUID
  deriving DecidableEq, Repr

def acquisitionOutcomes : List RunItemOutcome :=
  [.sourceCommitted, .alreadyAvailable]

def durableStatuses : List ReelPipelineStatus :=
  [.sourceReady, .normalizing, .ready]

theorem mem_durableStatuses {status : ReelPipelineStatus} :
    status ∈ durableStatuses ↔ status.isDurable = true := by
  cases status <;> decide

namespace Persistence

def disconnectedAccount (accountId : UUID) : InstagramAccount where
  id := accountId
  status := .disconnected
  lastConnectedAt := none
  reauthRequiredAt := none
  reasonCode := none

def ensureAccount (database : Database) (accountId : UUID) :
    Except DatabaseError Database :=
  match database.accounts.find? accountId with
  | some _ => .ok database
  | none => database.insertAccount (disconnectedAccount accountId)

/-- The row with a new status; the same status is no transition. -/
def withStatus (account : InstagramAccount) (now : Time)
    (status : AccountStatus) (reasonCode : Option String) :
    InstagramAccount :=
  let written := { account with status := status, reasonCode := reasonCode }
  match status with
  | .connected => { written with lastConnectedAt := some now }
  | .reauthRequired => { written with reauthRequiredAt := some now }
  | _ => written

def setAccountStatus (database : Database) (now : Time) (accountId : UUID)
    (status : AccountStatus) (reasonCode : Option String) :
    Except DatabaseError Database := do
  let database ← ensureAccount database accountId
  match database.accounts.find? accountId with
  | none => throw .lookupError
  | some account =>
      if account.status ≠ status then
        requireTransition ACCOUNT_TRANSITIONS account.status status
      return database.writeAccount (withStatus account now status reasonCode)

def accountStatus (database : Database) (accountId : UUID) : AccountStatus :=
  match database.accounts.find? accountId with
  | none => .disconnected
  | some account => account.status

theorem accountStatus_found {database : Database} {accountId : UUID}
    {account : InstagramAccount}
    (found : database.accounts.find? accountId = some account) :
    accountStatus database accountId = account.status := by
  rw [accountStatus, found]

theorem accountStatus_absent {database : Database} {accountId : UUID}
    (absent : database.accounts.find? accountId = none) :
    accountStatus database accountId = .disconnected := by
  rw [accountStatus, absent]

theorem accountStatus_congr {first second : Database} {accountId : UUID}
    (same : first.accounts.find? accountId =
      second.accounts.find? accountId) :
    accountStatus first accountId = accountStatus second accountId := by
  rw [accountStatus, accountStatus, same]

def createRun (database : Database) (now : Time) (runId accountId : UUID)
    (trigger : CollectionTrigger) (targetCount : Nat) :
    Except DatabaseError Database :=
  if (database.accounts.find? accountId).isNone then .error .integrityError
  else database.insertRun {
    id := runId
    accountId := accountId
    trigger := trigger
    status := .running
    targetCount := targetCount
    sourceCommittedCount := 0
    alreadyAvailableCount := 0
    failedCount := 0
    stopReasonCode := none
    startedAt := some now
    completedAt := none
    cancelRequestedAt := none
    createdAt := now }

def createdBefore (first second : InstagramCollectionRun) : Bool :=
  first.createdAt < second.createdAt ||
    (first.createdAt = second.createdAt && first.id < second.id)

/-- Rows locked by another transaction are skipped. -/
def claimQueuedRun (database : Database) (now : Time)
    (locked : List UUID) (accountId : UUID) :
    Except DatabaseError (Database × Option InstagramCollectionRun) :=
  match firstBy createdBefore (database.runs.rows.filter fun run =>
      run.accountId = accountId && run.status = .queued &&
        run.cancelRequestedAt.isNone && run.id ∉ locked) with
  | none => .ok (database, none)
  | some run =>
      let claimed := { run with status := .running, startedAt := some now }
      (database.writeRun claimed).map fun database => (database, some claimed)

def cancellationRequested (database : Database) (runId : UUID) : Bool :=
  match database.runs.find? runId with
  | none => true
  | some run => run.cancelRequestedAt.isSome

def activeRunExists (database : Database) (accountId : UUID) : Bool :=
  database.runs.rows.any fun run =>
    run.accountId = accountId && run.status.isActive

def failRun (database : Database) (now : Time) (runId : UUID)
    (reasonCode : String) : Except DatabaseError Database :=
  match database.runs.find? runId with
  | none => .ok database
  | some run =>
      if run.status = .running then
        database.writeRun { run with
          status := .failed
          stopReasonCode := some reasonCode
          completedAt := some now }
      else .ok database

def cancelRun (database : Database) (now : Time) (runId : UUID)
    (reasonCode : String) :
    Except DatabaseError (Database × CancelRunOutcome) :=
  match database.runs.find? runId with
  | none => .ok (database, .notFound)
  | some run =>
      if run.status = .queued ∨ run.status = .running then
        (database.writeRun { run with
          status := .cancelled
          stopReasonCode := some reasonCode
          completedAt := some now }).map fun database => (database, .cancelled)
      else .ok (database, .alreadyTerminal)

/-- The status of the run is not looked at here. -/
def completeRun (database : Database) (now : Time) (runId : UUID) :
    Except DatabaseError Database :=
  match database.runs.find? runId with
  | none => .ok database
  | some run =>
      database.writeRun { run with
        status := .completed
        completedAt := some now }

def summary (database : Database) (runId : UUID) :
    Except DatabaseError (Nat × Nat × Nat × CollectionRunStatus) :=
  match database.runs.find? runId with
  | none => .error .lookupError
  | some run =>
      .ok (run.sourceCommittedCount, run.alreadyAvailableCount,
        run.failedCount, run.status)

def reelByShortcode (database : Database) (shortcode : String) :
    Option InstagramReel :=
  database.reels.rows.find? fun reel => reel.shortcode = shortcode

def reelStatus (database : Database) (shortcode : String) :
    Option ReelPipelineStatus :=
  (reelByShortcode database shortcode).map (·.pipelineStatus)

/-- The join of reels, items and runs that the ownership queries select from. -/
def isAcquisition (accountId : UUID) (reel : InstagramReel)
    (item : InstagramCollectionRunItem) (run : InstagramCollectionRun) : Bool :=
  item.reelId = reel.id && run.id = item.runId && run.accountId = accountId &&
    item.outcome ∈ acquisitionOutcomes &&
    reel.pipelineStatus ∈ durableStatuses &&
    reel.sourceObjectKey.isSome && reel.sourceSha256.isSome &&
    reel.sourceByteSize.isSome

def acquiredReels (database : Database) (accountId : UUID) :
    List InstagramReel :=
  database.reels.rows.flatMap fun reel =>
    database.items.rows.flatMap fun item =>
      database.runs.rows.filterMap fun run =>
        if isAcquisition accountId reel item run then some reel else none

def accountDurableCount (database : Database) (accountId : UUID) : Nat :=
  ((acquiredReels database accountId).map (·.id)).dedup.length

def accountHasDurableReel (database : Database) (accountId : UUID)
    (shortcode : String) : Bool :=
  (acquiredReels database accountId).any fun reel => reel.shortcode = shortcode

def completeIfAccountDurableTotal (database : Database) (now : Time)
    (runId : UUID) (desiredTotal : Nat) :
    Except DatabaseError (Database × Bool) :=
  match database.runs.find? runId with
  | none => .ok (database, false)
  | some run =>
      if run.status ≠ .running then .ok (database, false)
      else if accountDurableCount database run.accountId ≠ desiredTotal then
        .ok (database, false)
      else
        (database.writeRun { run with
          status := .completed
          completedAt := some now }).map fun database => (database, true)

def counted (run : InstagramCollectionRun) :
    RunItemOutcome → InstagramCollectionRun
  | .sourceCommitted =>
      { run with sourceCommittedCount := run.sourceCommittedCount + 1 }
  | .alreadyAvailable =>
      { run with alreadyAvailableCount := run.alreadyAvailableCount + 1 }
  | .failed => { run with failedCount := run.failedCount + 1 }

def addItem (database : Database) (now : Time) (itemId runId : UUID)
    (reel : InstagramReel) (outcome : RunItemOutcome)
    (authMode : Option DownloadAuthMode) (reasonCode : Option String) :
    Except DatabaseError Database := do
  match database.runs.find? runId with
  | none => throw .lookupError
  | some run =>
      let database ← database.insertItem {
        id := itemId
        runId := runId
        reelId := reel.id
        position := run.itemCount + 1
        outcome := outcome
        downloadAuthMode := authMode
        reasonCode := reasonCode
        completedAt := some now }
      database.writeRun (counted run outcome)

def discoveredReel (now : Time) (reelId : UUID) (candidate : ReelCandidate) :
    InstagramReel where
  id := reelId
  shortcode := candidate.shortcode
  canonicalUrl := candidate.canonicalUrl
  pipelineStatus := .discovered
  sourceObjectKey := none
  sourceSha256 := none
  sourceByteSize := none
  videoId := none
  failureReasonCode := none
  discoveredAt := some now
  sourceReadyAt := none
  readyAt := none
  failedAt := none
  sourceCleanupPending := false

/-- The Reel of a candidate, inserted as discovered when there is none. -/
def discover (database : Database) (now : Time) (reelId : UUID)
    (candidate : ReelCandidate) :
    Except DatabaseError (Database × InstagramReel) :=
  match reelByShortcode database candidate.shortcode with
  | some reel => .ok (database, reel)
  | none =>
      let reel := discoveredReel now reelId candidate
      (database.insertReel reel).map fun database => (database, reel)

def commitAvailable (database : Database) (now : Time) (ids : NewIdentifiers)
    (runId : UUID) (candidate : ReelCandidate) :
    Except DatabaseError Database :=
  match reelByShortcode database candidate.shortcode with
  | none => .error .valueError
  | some reel =>
      if reel.pipelineStatus ∈ durableStatuses then
        addItem database now ids.item runId reel .alreadyAvailable none none
      else .error .valueError

/-- The status a Reel is brought to before its source is committed. -/
def beginDownload (status : ReelPipelineStatus) :
    Except DatabaseError ReelPipelineStatus := do
  match status with
  | .failed =>
      requireTransition REEL_PIPELINE_TRANSITIONS .failed .downloading
      return .downloading
  | .discovered =>
      requireTransition REEL_PIPELINE_TRANSITIONS .discovered .downloading
      return .downloading
  | .downloading => return .downloading
  | _ => throw .valueError

def pendingJob (now : Time) (jobId reelId : UUID) (attemptCount : Nat) :
    InstagramNormalizationJob where
  id := jobId
  reelId := reelId
  status := .pending
  attemptCount := attemptCount
  reasonCode := none
  completedAt := none
  claimedAt := none
  leaseExpiresAt := none
  workerId := none
  stagingPrefix := none
  createdAt := now

def withSource (reel : InstagramReel) (now : Time) (source : ValidatedSource)
    (objectKey : SourceObjectKey) : InstagramReel :=
  { reel with
    pipelineStatus := .sourceReady
    sourceObjectKey := some objectKey
    sourceSha256 := some source.sha256
    sourceByteSize := some source.byteSize
    sourceReadyAt := some now
    failureReasonCode := none }

def commitSource (database : Database) (now : Time) (ids : NewIdentifiers)
    (runId : UUID) (candidate : ReelCandidate) (source : ValidatedSource)
    (objectKey : SourceObjectKey) : Except DatabaseError Database := do
  let (database, reel) ← discover database now ids.reel candidate
  let status ← beginDownload reel.pipelineStatus
  requireTransition REEL_PIPELINE_TRANSITIONS status .sourceReady
  let database ← database.writeReel (withSource reel now source objectKey)
  let database ← database.insertJob (pendingJob now ids.job reel.id 0)
  addItem database now ids.item runId reel .sourceCommitted
    (some .sessionFirst) none

def asFailed (reel : InstagramReel) (now : Time) (reasonCode : String) :
    InstagramReel :=
  { reel with
    pipelineStatus := .failed
    failedAt := some now
    failureReasonCode := some reasonCode }

/-- An unfinished Reel fails; any other keeps its status. -/
def failUnfinished (database : Database) (now : Time) (reel : InstagramReel)
    (reasonCode : String) : Except DatabaseError Database :=
  if reel.pipelineStatus = .discovered ∨ reel.pipelineStatus = .downloading
  then database.writeReel (asFailed reel now reasonCode)
  else .ok database

def recordFailure (database : Database) (now : Time) (ids : NewIdentifiers)
    (runId : UUID) (candidate : ReelCandidate) (reasonCode : String)
    (downloadAttempted : Bool) : Except DatabaseError Database := do
  let (database, reel) ← discover database now ids.reel candidate
  let database ← failUnfinished database now reel reasonCode
  addItem database now ids.item runId reel .failed
    (if downloadAttempted then some .sessionFirst else none) (some reasonCode)

theorem ensureAccount_eq_ok {database after : Database} {accountId : UUID}
    (succeeded : ensureAccount database accountId = .ok after) :
    ∃ accounts, after = { database with accounts } := by
  unfold ensureAccount at succeeded
  split at succeeded
  · cases succeeded
    exact ⟨database.accounts, rfl⟩
  · unfold Database.insertAccount at succeeded
    split at succeeded
    · cases succeeded
    · cases succeeded
      exact ⟨_, rfl⟩

theorem setAccountStatus_eq_ok {database after : Database} {now : Time}
    {accountId : UUID} {status : AccountStatus} {reasonCode : Option String}
    (succeeded : setAccountStatus database now accountId status reasonCode =
      .ok after) :
    ∃ accounts, after = { database with accounts } := by
  obtain ⟨ensured, present, succeeded⟩ := bind_eq_ok succeeded
  obtain ⟨accounts, rfl⟩ := ensureAccount_eq_ok present
  split at succeeded
  · cases succeeded
  · split at succeeded
    · obtain ⟨_, _, succeeded⟩ := bind_eq_ok succeeded
      cases succeeded
      exact ⟨_, rfl⟩
    · cases succeeded
      exact ⟨_, rfl⟩

theorem claimQueuedRun_eq_ok {database after : Database} {now : Time}
    {locked : List UUID} {accountId : UUID}
    {claimed : Option InstagramCollectionRun}
    (succeeded : claimQueuedRun database now locked accountId =
      .ok (after, claimed)) :
    (after = database ∧ claimed = none) ∨
      ∃ run ∈ database.runs, run.status = .queued ∧
        run.accountId = accountId ∧
        claimed = some { run with status := .running, startedAt := some now } ∧
        database.writeRun { run with
          status := .running, startedAt := some now } = .ok after := by
  unfold claimQueuedRun at succeeded
  split at succeeded
  · cases succeeded
    exact Or.inl ⟨rfl, rfl⟩
  · rename_i run found
    right
    have selected := List.mem_filter.mp (mem_of_firstBy found)
    simp only [Bool.and_eq_true, decide_eq_true_eq] at selected
    obtain ⟨next, written, shape⟩ := map_eq_ok succeeded
    cases shape
    exact ⟨run, selected.1, selected.2.1.1.2, selected.2.1.1.1, rfl, written⟩

theorem failRun_eq_ok {database after : Database} {now : Time} {runId : UUID}
    {reasonCode : String}
    (succeeded : failRun database now runId reasonCode = .ok after) :
    after = database ∨
      ∃ run, database.runs.find? runId = some run ∧ run.status = .running ∧
        database.writeRun { run with
          status := .failed
          stopReasonCode := some reasonCode
          completedAt := some now } = .ok after := by
  unfold failRun at succeeded
  split at succeeded
  · cases succeeded
    exact Or.inl rfl
  · rename_i run found
    split at succeeded
    · rename_i running
      exact Or.inr ⟨run, found, running, succeeded⟩
    · cases succeeded
      exact Or.inl rfl

theorem cancelRun_eq_ok {database after : Database} {now : Time}
    {runId : UUID} {reasonCode : String} {outcome : CancelRunOutcome}
    (succeeded : cancelRun database now runId reasonCode =
      .ok (after, outcome)) :
    after = database ∨
      ∃ run, database.runs.find? runId = some run ∧
        run.status.isActive = true ∧
        database.writeRun { run with
          status := .cancelled
          stopReasonCode := some reasonCode
          completedAt := some now } = .ok after := by
  unfold cancelRun at succeeded
  split at succeeded
  · cases succeeded
    exact Or.inl rfl
  · rename_i run found
    split at succeeded
    · rename_i active
      obtain ⟨next, written, shape⟩ := map_eq_ok succeeded
      cases shape
      refine Or.inr ⟨run, found, ?_, written⟩
      rcases active with queued | running
      · rw [queued]
        rfl
      · rw [running]
        rfl
    · cases succeeded
      exact Or.inl rfl

theorem completeRun_eq_ok {database after : Database} {now : Time}
    {runId : UUID} (succeeded : completeRun database now runId = .ok after) :
    after = database ∨
      ∃ run, database.runs.find? runId = some run ∧
        database.writeRun { run with
          status := .completed
          completedAt := some now } = .ok after := by
  unfold completeRun at succeeded
  split at succeeded
  · cases succeeded
    exact Or.inl rfl
  · rename_i run found
    exact Or.inr ⟨run, found, succeeded⟩

theorem completeIfAccountDurableTotal_eq_ok {database after : Database}
    {now : Time} {runId : UUID} {desiredTotal : Nat} {completed : Bool}
    (succeeded : completeIfAccountDurableTotal database now runId
      desiredTotal = .ok (after, completed)) :
    (after = database ∧ completed = false) ∨
      ∃ run, database.runs.find? runId = some run ∧ run.status = .running ∧
        completed = true ∧
        database.writeRun { run with
          status := .completed
          completedAt := some now } = .ok after := by
  unfold completeIfAccountDurableTotal at succeeded
  split at succeeded
  · cases succeeded
    exact Or.inl ⟨rfl, rfl⟩
  · rename_i run found
    split at succeeded
    · cases succeeded
      exact Or.inl ⟨rfl, rfl⟩
    · rename_i running
      split at succeeded
      · cases succeeded
        exact Or.inl ⟨rfl, rfl⟩
      · obtain ⟨next, written, shape⟩ := map_eq_ok succeeded
        cases shape
        exact Or.inr ⟨run, found, not_not.mp running, rfl, written⟩

theorem reelByShortcode_eq_some {database : Database} {shortcode : String}
    {reel : InstagramReel}
    (found : reelByShortcode database shortcode = some reel) :
    reel ∈ database.reels ∧ reel.shortcode = shortcode :=
  ⟨List.mem_of_find?_eq_some found, by simpa using List.find?_some found⟩

theorem reelByShortcode_eq_none {database : Database} {shortcode : String}
    (missing : reelByShortcode database shortcode = none) :
    ∀ reel ∈ database.reels, reel.shortcode ≠ shortcode := by
  intro reel member same
  simpa [same] using List.find?_eq_none.mp missing reel member

structure ItemAdded (database : Database) (now : Time) (itemId runId : UUID)
    (reel : InstagramReel) (outcome : RunItemOutcome)
    (after : Database) : Prop where
  reels : after.reels = database.reels
  jobs : after.jobs = database.jobs
  videos : after.videos = database.videos
  rows : ∃ run items item, database.runs.find? runId = some run ∧
    after.items = items ∧ database.items.insert? item = some items ∧
    item.id = itemId ∧ item.runId = runId ∧ item.reelId = reel.id ∧
    item.outcome = outcome ∧
    after.runs = database.runs.put (counted run outcome)

theorem addItem_eq_ok {database after : Database} {now : Time}
    {itemId runId : UUID} {reel : InstagramReel} {outcome : RunItemOutcome}
    {authMode : Option DownloadAuthMode} {reasonCode : Option String}
    (succeeded : addItem database now itemId runId reel outcome authMode
      reasonCode = .ok after) :
    ItemAdded database now itemId runId reel outcome after := by
  unfold addItem at succeeded
  split at succeeded
  · cases succeeded
  · rename_i run found
    obtain ⟨middle, inserted, written⟩ := bind_eq_ok succeeded
    obtain ⟨items, shape, _, _, rfl⟩ := Database.insertItem_eq_ok inserted
    obtain ⟨_, _, rfl⟩ := Database.writeRun_eq_ok written
    exact ⟨rfl, rfl, rfl, run, items, _, found, rfl, shape, rfl, rfl, rfl,
      rfl, rfl⟩

theorem discover_eq_ok {database after : Database} {now : Time}
    {reelId : UUID} {candidate : ReelCandidate} {reel : InstagramReel}
    (succeeded : discover database now reelId candidate = .ok (after, reel)) :
    (after = database ∧ reel ∈ database.reels ∧
        reel.shortcode = candidate.shortcode) ∨
      (reel = discoveredReel now reelId candidate ∧
        (∀ other ∈ database.reels, other.shortcode ≠ candidate.shortcode) ∧
        ∃ reels, database.reels.insert? reel = some reels ∧
          after = { database with reels }) := by
  unfold discover at succeeded
  split at succeeded
  · rename_i found shape
    cases succeeded
    exact Or.inl ⟨rfl, reelByShortcode_eq_some shape⟩
  · rename_i missing
    obtain ⟨next, inserted, shape⟩ := map_eq_ok succeeded
    cases shape
    obtain ⟨reels, rows, _, _, rfl⟩ := Database.insertReel_eq_ok inserted
    exact Or.inr ⟨rfl, reelByShortcode_eq_none missing, reels, rows, rfl⟩

theorem discover_keeps_runs {database after : Database} {now : Time}
    {reelId : UUID} {candidate : ReelCandidate} {reel : InstagramReel}
    (succeeded : discover database now reelId candidate = .ok (after, reel)) :
    after.runs = database.runs ∧ after.items = database.items := by
  rcases discover_eq_ok succeeded with ⟨rfl, _⟩ | ⟨_, _, _, _, rfl⟩ <;>
    exact ⟨rfl, rfl⟩

theorem commitAvailable_eq_ok {database after : Database} {now : Time}
    {ids : NewIdentifiers} {runId : UUID} {candidate : ReelCandidate}
    (succeeded : commitAvailable database now ids runId candidate =
      .ok after) :
    ∃ reel ∈ database.reels, reel.pipelineStatus.isDurable = true ∧
      ItemAdded database now ids.item runId reel .alreadyAvailable after := by
  unfold commitAvailable at succeeded
  split at succeeded
  · cases succeeded
  · rename_i reel found
    split at succeeded
    · rename_i durable
      exact ⟨reel, (reelByShortcode_eq_some found).1,
        mem_durableStatuses.mp durable, addItem_eq_ok succeeded⟩
    · cases succeeded

/-- The statuses from which a source can be committed. -/
def acceptsSource : ReelPipelineStatus → Bool
  | .discovered | .downloading | .failed => true
  | .sourceReady | .normalizing | .ready => false

theorem beginDownload_eq_ok {status reached : ReelPipelineStatus}
    (succeeded : beginDownload status = .ok reached) :
    reached = .downloading ∧ acceptsSource status = true := by
  cases status <;> simp_all [beginDownload, requireTransition,
    isTransitionAllowed, REEL_PIPELINE_TRANSITIONS, acceptsSource, pure,
    Except.pure, bind, Except.bind]

theorem commitSource_eq_ok {database after : Database} {now : Time}
    {ids : NewIdentifiers} {runId : UUID} {candidate : ReelCandidate}
    {source : ValidatedSource} {objectKey : SourceObjectKey}
    (succeeded : commitSource database now ids runId candidate source
      objectKey = .ok after) :
    ∃ discovered reel written jobs,
      discover database now ids.reel candidate = .ok (discovered, reel) ∧
      acceptsSource reel.pipelineStatus = true ∧
      written = { discovered with
        reels := discovered.reels.put (withSource reel now source objectKey) } ∧
      (∀ other ∈ discovered.reels,
        (withSource reel now source objectKey).conflictsWith other = false) ∧
      database.jobs.insert? (pendingJob now ids.job reel.id 0) = some jobs ∧
      (∀ other ∈ database.jobs, (pendingJob now ids.job reel.id 0).conflictsWith
        other = false) ∧
      ItemAdded { written with jobs } now ids.item runId reel .sourceCommitted
        after := by
  obtain ⟨⟨discovered, reel⟩, found, succeeded⟩ := bind_eq_ok succeeded
  obtain ⟨status, begun, succeeded⟩ := bind_eq_ok succeeded
  obtain ⟨_, _, succeeded⟩ := bind_eq_ok succeeded
  obtain ⟨written, stored, succeeded⟩ := bind_eq_ok succeeded
  obtain ⟨queued, inserted, added⟩ := bind_eq_ok succeeded
  obtain ⟨_, unique, rfl⟩ := Database.writeReel_eq_ok stored
  obtain ⟨jobs, shape, single, rfl⟩ := Database.insertJob_eq_ok inserted
  have sameJobs : discovered.jobs = database.jobs := by
    rcases discover_eq_ok found with ⟨rfl, _⟩ | ⟨_, _, _, _, rfl⟩ <;> rfl
  rw [← sameJobs]
  exact ⟨discovered, reel, _, jobs, found, (beginDownload_eq_ok begun).2, rfl,
    unique, shape, single, addItem_eq_ok added⟩

theorem recordFailure_eq_ok {database after : Database} {now : Time}
    {ids : NewIdentifiers} {runId : UUID} {candidate : ReelCandidate}
    {reasonCode : String} {downloadAttempted : Bool}
    (succeeded : recordFailure database now ids runId candidate reasonCode
      downloadAttempted = .ok after) :
    ∃ discovered reel written,
      discover database now ids.reel candidate = .ok (discovered, reel) ∧
      (((reel.pipelineStatus = .discovered ∨
            reel.pipelineStatus = .downloading) ∧
          written = { discovered with
            reels := discovered.reels.put (asFailed reel now reasonCode) }) ∨
        (reel.pipelineStatus ≠ .discovered ∧
          reel.pipelineStatus ≠ .downloading ∧ written = discovered)) ∧
      ItemAdded written now ids.item runId reel .failed after := by
  obtain ⟨⟨discovered, reel⟩, found, succeeded⟩ := bind_eq_ok succeeded
  obtain ⟨written, stored, added⟩ := bind_eq_ok succeeded
  refine ⟨discovered, reel, written, found, ?_, addItem_eq_ok added⟩
  unfold failUnfinished at stored
  split at stored
  · rename_i unfinished
    obtain ⟨_, _, rfl⟩ := Database.writeReel_eq_ok stored
    exact Or.inl ⟨unfinished, rfl⟩
  · rename_i finished
    cases stored
    rw [not_or] at finished
    exact Or.inr ⟨finished.1, finished.2, rfl⟩

theorem writeRun_keeps_accounts {database after : Database}
    {run : InstagramCollectionRun}
    (written : database.writeRun run = .ok after) :
    after.accounts = database.accounts := by
  obtain ⟨_, _, rfl⟩ := Database.writeRun_eq_ok written
  rfl

theorem addItem_keeps_accounts {database after : Database} {now : Time}
    {itemId runId : UUID} {reel : InstagramReel} {outcome : RunItemOutcome}
    {authMode : Option DownloadAuthMode} {reasonCode : Option String}
    (succeeded : addItem database now itemId runId reel outcome authMode
      reasonCode = .ok after) : after.accounts = database.accounts := by
  unfold addItem at succeeded
  split at succeeded
  · cases succeeded
  · obtain ⟨middle, inserted, written⟩ := bind_eq_ok succeeded
    obtain ⟨_, _, _, _, rfl⟩ := Database.insertItem_eq_ok inserted
    have kept := writeRun_keeps_accounts written
    exact kept

theorem discover_keeps_accounts {database after : Database} {now : Time}
    {reelId : UUID} {candidate : ReelCandidate} {reel : InstagramReel}
    (succeeded : discover database now reelId candidate = .ok (after, reel)) :
    after.accounts = database.accounts := by
  rcases discover_eq_ok succeeded with ⟨rfl, _⟩ | ⟨_, _, _, _, rfl⟩
  · rfl
  · rfl

theorem commitAvailable_keeps_accounts {database after : Database}
    {now : Time} {ids : NewIdentifiers} {runId : UUID}
    {candidate : ReelCandidate}
    (succeeded : commitAvailable database now ids runId candidate =
      .ok after) : after.accounts = database.accounts := by
  unfold commitAvailable at succeeded
  split at succeeded
  · cases succeeded
  · split at succeeded
    · exact addItem_keeps_accounts succeeded
    · cases succeeded

theorem commitSource_keeps_accounts {database after : Database} {now : Time}
    {ids : NewIdentifiers} {runId : UUID} {candidate : ReelCandidate}
    {source : ValidatedSource} {objectKey : SourceObjectKey}
    (succeeded : commitSource database now ids runId candidate source
      objectKey = .ok after) : after.accounts = database.accounts := by
  obtain ⟨⟨discovered, reel⟩, found, succeeded⟩ := bind_eq_ok succeeded
  obtain ⟨status, _, succeeded⟩ := bind_eq_ok succeeded
  obtain ⟨_, _, succeeded⟩ := bind_eq_ok succeeded
  obtain ⟨written, stored, succeeded⟩ := bind_eq_ok succeeded
  obtain ⟨queued, inserted, added⟩ := bind_eq_ok succeeded
  obtain ⟨_, _, rfl⟩ := Database.writeReel_eq_ok stored
  obtain ⟨_, _, _, rfl⟩ := Database.insertJob_eq_ok inserted
  have kept := addItem_keeps_accounts added
  have same := discover_keeps_accounts found
  exact kept.trans same

theorem recordFailure_keeps_accounts {database after : Database} {now : Time}
    {ids : NewIdentifiers} {runId : UUID} {candidate : ReelCandidate}
    {reasonCode : String} {downloadAttempted : Bool}
    (succeeded : recordFailure database now ids runId candidate reasonCode
      downloadAttempted = .ok after) : after.accounts = database.accounts := by
  obtain ⟨⟨discovered, reel⟩, found, succeeded⟩ := bind_eq_ok succeeded
  obtain ⟨written, stored, added⟩ := bind_eq_ok succeeded
  have kept : written.accounts = discovered.accounts := by
    unfold failUnfinished at stored
    split at stored
    · obtain ⟨_, _, rfl⟩ := Database.writeReel_eq_ok stored
      rfl
    · cases stored
      rfl
  exact (addItem_keeps_accounts added).trans
    (kept.trans (discover_keeps_accounts found))

end Persistence

end OfflineReels.Collector
