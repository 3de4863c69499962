import OfflineReels.Collector.RunLedger
import OfflineReels.Collector.TranscriptAcceptance
import OfflineReels.Instagram.Consistency

namespace OfflineReels.Collector.RunAccounting

open OfflineReels.Foundation
open OfflineReels.Foundation.Program
open OfflineReels.Instagram
open OfflineReels.Collector.RunLedger

/-! The rows of a run and its items against what the engine entered. -/

def itemsOf (database : Database) (runId : UUID) :
    List InstagramCollectionRunItem :=
  database.items.rows.filter fun item => item.runId = runId

def outcomes (database : Database) (runId : UUID) : List RunItemOutcome :=
  (itemsOf database runId).map (·.outcome)

/-- The counters of a run and its items agree, within the target. -/
structure Accounted (database : Database) (runId : UUID)
    (targetCount : Nat) : Prop where
  counters : ∃ run ∈ database.runs, run.id = runId ∧
    run.targetCount = targetCount ∧
    run.sourceCommittedCount =
      (outcomes database runId).count .sourceCommitted ∧
    run.alreadyAvailableCount =
      (outcomes database runId).count .alreadyAvailable ∧
    run.failedCount = (outcomes database runId).count .failed ∧
    run.failedCount ≤ 1 ∧ run.itemCount ≤ targetCount
  positions : (itemsOf database runId).map (·.position) =
    List.range' 1 (itemsOf database runId).length
  reels : ((itemsOf database runId).map (·.reelId)).Nodup

/-- The constraints that the database keeps under every write. -/
structure Consistent (database : Database) : Prop where
  reels : database.ReelsConsistent
  checks : ∀ run ∈ database.runs, run.satisfiesChecks = true
  runs : database.runs.Unique InstagramCollectionRun.conflictsWith
  owners : ∀ item ∈ database.items, ∃ run ∈ database.runs,
    run.id = item.runId

/-- The run of the collection, once there is one, and the shortcodes that it
has asked the database about. -/
structure Session where
  database : Database
  run : Option UUID
  met : List String

def meets : EngineCall → Option String
  | .accountHasDurableReel _ shortcode => some shortcode
  | .reelStatus shortcode => some shortcode
  | .commitAvailable _ candidate => some candidate.shortcode
  | .commitSource _ candidate _ _ => some candidate.shortcode
  | .recordFailure _ candidate _ _ => some candidate.shortcode
  | _ => none

/-- What other processes leave: the run, its items and the Reels it met. -/
structure Others (session : Session) (current : Database) : Prop where
  consistent : Consistent session.database → Consistent current
  run : ∀ runId, session.run = some runId →
    current.runs.find? runId = session.database.runs.find? runId ∧
      itemsOf current runId = itemsOf session.database runId
  reels : ∀ reel : InstagramReel, reel.shortcode ∈ session.met →
    (reel ∈ current.reels ↔ reel ∈ session.database.reels)

/-- A transaction is refused without effect or answers by its effect; any other
port answers as it likes. -/
def Answers (database : Database) (input : EngineCall)
    (reply : Except CollectorFault (EngineReply input))
    (after : Database) : Prop :=
  if isPersistence input then
    (after = database ∧ ∃ fault, reply = .error fault) ∨
      ∃ (world : World) (draw : Draw) (reached : World),
        world.database = database ∧
        world.engineEffect draw input = (reached, reply) ∧
        reached.database = after
  else after = database

def created (session : Session) :
    (input : EngineCall) → Except CollectorFault (EngineReply input) →
      Option UUID
  | .createRun _ _ _, .ok runId => some runId
  | _, _ => session.run

def Responds (session : Session) (input : EngineCall)
    (reply : Except CollectorFault (EngineReply input))
    (after : Session) : Prop :=
  (∃ current, Others session current ∧
    Answers current input reply after.database) ∧
  after.run = created session input reply ∧
  after.met = session.met ++ (meets input).toList

structure NewItem where
  runId : UUID
  reel : InstagramReel
  outcome : RunItemOutcome
  authMode : Option DownloadAuthMode
  reasonCode : Option String

section

variable (database : Database) (now : Time) (ids : NewIdentifiers)

/-! The statements before the item: the database they leave, and the item. -/

def beforeAvailable (runId : UUID) (candidate : ReelCandidate) :
    Except DatabaseError (Database × NewItem) :=
  match Persistence.reelByShortcode database candidate.shortcode with
  | none => .error .valueError
  | some reel =>
      if reel.pipelineStatus ∈ durableStatuses then
        .ok (database, ⟨runId, reel, .alreadyAvailable, none, none⟩)
      else .error .valueError

def beforeSource (runId : UUID) (candidate : ReelCandidate)
    (source : ValidatedSource) (objectKey : SourceObjectKey) :
    Except DatabaseError (Database × NewItem) := do
  let (database, reel) ←
    Persistence.discover database now ids.reel candidate
  let status ← Persistence.beginDownload reel.pipelineStatus
  requireTransition REEL_PIPELINE_TRANSITIONS status .sourceReady
  let database ← database.writeReel
    (Persistence.withSource reel now source objectKey)
  let database ← database.insertJob
    (Persistence.pendingJob now ids.job reel.id 0)
  return (database,
    ⟨runId, reel, .sourceCommitted, some .sessionFirst, none⟩)

def beforeFailure (runId : UUID) (candidate : ReelCandidate)
    (reasonCode : String) (attempted : Bool) :
    Except DatabaseError (Database × NewItem) := do
  let (database, reel) ←
    Persistence.discover database now ids.reel candidate
  let database ← Persistence.failUnfinished database now reel reasonCode
  return (database, ⟨runId, reel, .failed,
    if attempted then some .sessionFirst else none, some reasonCode⟩)

def beforeItem : EngineCall →
    Option (Except DatabaseError (Database × NewItem))
  | .commitAvailable runId candidate =>
      some (beforeAvailable database runId candidate)
  | .commitSource runId candidate source objectKey =>
      some (beforeSource database now ids runId candidate source objectKey)
  | .recordFailure runId candidate reasonCode attempted =>
      some (beforeFailure database now ids runId candidate reasonCode
        attempted)
  | _ => none

end

def addNew (database : Database) (now : Time) (itemId : UUID)
    (new : NewItem) : Except DatabaseError Database :=
  Persistence.addItem database now itemId new.runId new.reel new.outcome
    new.authMode new.reasonCode

/-- A constraint of the runs or the items refuses the write.  The creation of a
run comes before its accounting; what refuses it is said below. -/
def Fires (database : Database) (draw : Draw) : EngineCall → Prop
  | .completeRun runId =>
      Persistence.completeRun database draw.now runId = .error .integrityError
  | .completeIfAccountDurableTotal runId desiredTotal =>
      Persistence.completeIfAccountDurableTotal database draw.now runId
        desiredTotal = .error .integrityError
  | .failRun runId reasonCode =>
      Persistence.failRun database draw.now runId reasonCode =
        .error .integrityError
  | .cancelRun runId reasonCode =>
      Persistence.cancelRun database draw.now runId reasonCode =
        .error .integrityError
  | input => ∃ prior new,
      beforeItem database draw.now draw.ids input = some (.ok (prior, new)) ∧
        addNew prior draw.now draw.ids.item new = .error .integrityError

/-- Only a missing account or another active run of it refuses a new run. -/
theorem createRun_refused_iff {database : Database} {now : Time}
    {runId accountId : UUID} {trigger : CollectionTrigger} {targetCount : Nat}
    (fresh : ∀ run ∈ database.runs, run.id ≠ runId)
    (positive : 0 < targetCount) :
    Persistence.createRun database now runId accountId trigger targetCount =
        .error .integrityError ↔
      database.accounts.find? accountId = none ∨
        ∃ run ∈ database.runs, run.accountId = accountId ∧
          run.status.isActive = true := by
  unfold Persistence.createRun
  cases found : database.accounts.find? accountId with
  | none => simp
  | some account =>
      simp only [Option.isNone_some, Bool.false_eq_true, if_false, false_or,
        reduceCtorEq]
      rw [Database.insertRun_refused_iff fresh]
      constructor
      · intro refused
        rcases refused with checks | ⟨other, member, conflicts⟩
        · simp [InstagramCollectionRun.satisfiesChecks,
            InstagramCollectionRun.itemCount, positive] at checks
        · simp only [InstagramCollectionRun.conflictsWith, Bool.and_eq_true,
            decide_eq_true_eq] at conflicts
          exact ⟨other, member, conflicts.1.1.2.symm, conflicts.2⟩
      · intro occupied
        obtain ⟨other, member, owner, active⟩ := occupied
        refine .inr ⟨other, member, ?_⟩
        have apart := fresh other member
        have running : CollectionRunStatus.running.isActive = true := rfl
        simp [InstagramCollectionRun.conflictsWith, owner, active, running,
          Ne.symm apart]

section

variable (database : Database) (now : Time) (ids : NewIdentifiers)
variable (runId : UUID) (candidate : ReelCandidate)

theorem commitAvailable_eq :
    Persistence.commitAvailable database now ids runId candidate =
      beforeAvailable database runId candidate >>= fun (database, new) =>
        addNew database now ids.item new := by
  unfold Persistence.commitAvailable beforeAvailable
  cases Persistence.reelByShortcode database candidate.shortcode with
  | none => rfl
  | some reel =>
      by_cases durable : reel.pipelineStatus ∈ durableStatuses
      · simp only [if_pos durable]
        rfl
      · simp only [if_neg durable]
        rfl

theorem commitSource_eq (source : ValidatedSource)
    (objectKey : SourceObjectKey) :
    Persistence.commitSource database now ids runId candidate source
        objectKey =
      beforeSource database now ids runId candidate source objectKey >>=
        fun (database, new) => addNew database now ids.item new := by
  unfold Persistence.commitSource beforeSource
  simp only [bind_assoc]
  rfl

theorem recordFailure_eq (reasonCode : String) (attempted : Bool) :
    Persistence.recordFailure database now ids runId candidate reasonCode
        attempted =
      beforeFailure database now ids runId candidate reasonCode attempted >>=
        fun (database, new) => addNew database now ids.item new := by
  unfold Persistence.recordFailure beforeFailure
  simp only [bind_assoc]
  rfl

end

structure Stores (database : Database) (shortcode : String)
    (reel : InstagramReel) (after : Database) : Prop where
  runs : after.runs = database.runs
  items : after.items = database.items
  reels : database.ReelsConsistent → after.ReelsConsistent
  member : reel ∈ after.reels
  named : reel.shortcode = shortcode
  others : ∀ other ∈ database.reels, other.shortcode ≠ shortcode →
    other ∈ after.reels

theorem discover_stores {database after : Database} {now : Time}
    {reelId : UUID} {candidate : ReelCandidate} {reel : InstagramReel}
    (succeeded : Persistence.discover database now reelId candidate =
      .ok (after, reel)) :
    Stores database candidate.shortcode reel after := by
  unfold Persistence.discover at succeeded
  split at succeeded
  · rename_i found shape
    cases succeeded
    obtain ⟨member, named⟩ := Persistence.reelByShortcode_eq_some shape
    exact ⟨rfl, rfl, fun kept => kept, member, named,
      fun _ present _ => present⟩
  · obtain ⟨next, inserted, shape⟩ := map_eq_ok succeeded
    cases shape
    have consistent := fun kept : database.ReelsConsistent =>
      kept.insertReel inserted
    obtain ⟨reels, rows, _, _, rfl⟩ := Database.insertReel_eq_ok inserted
    exact ⟨rfl, rfl, consistent, (Table.mem_insert? rows).mpr (.inr rfl), rfl,
      fun _ present _ => (Table.mem_insert? rows).mpr (.inl present)⟩

theorem Stores.writeReel {database middle after : Database}
    {shortcode : String} {reel written : InstagramReel}
    (stores : Stores database shortcode reel middle)
    (stored : middle.writeReel written = .ok after)
    (id : written.id = reel.id)
    (named : written.shortcode = reel.shortcode) :
    Stores database shortcode written after := by
  have consistent := fun kept : database.ReelsConsistent =>
    (stores.reels kept).writeReel stored
  obtain ⟨_, _, rfl⟩ := Database.writeReel_eq_ok stored
  refine ⟨stores.runs, stores.items, consistent,
    Table.mem_put.mpr (.inl ⟨rfl, reel, stores.member, id.symm⟩),
    named.trans stores.named, ?_⟩
  intro other present different
  have still := stores.others other present different
  refine Table.mem_put.mpr (.inr ⟨still, fun same => different ?_⟩)
  rw [Table.eq_of_key_eq still stores.member (same.trans id)]
  exact stores.named

theorem Stores.insertJob {database middle after : Database}
    {shortcode : String} {reel : InstagramReel}
    {job : InstagramNormalizationJob}
    (stores : Stores database shortcode reel middle)
    (inserted : middle.insertJob job = .ok after) :
    Stores database shortcode reel after := by
  obtain ⟨_, _, _, rfl⟩ := Database.insertJob_eq_ok inserted
  exact ⟨stores.runs, stores.items,
    fun kept => ⟨(stores.reels kept).checks, (stores.reels kept).unique⟩,
    stores.member, stores.named, stores.others⟩

/-- The item is one of the Reel that is stored; unless it failed, the Reel is
durable. -/
structure Prepared (database : Database) (runId : UUID) (shortcode : String)
    (outcome : RunItemOutcome) (prior : Database) (new : NewItem) :
    Prop where
  owner : new.runId = runId
  kind : new.outcome = outcome
  stored : ∃ reel, Stores database shortcode reel prior ∧
    reel.id = new.reel.id ∧
    (outcome ≠ .failed → reel.pipelineStatus.isDurable = true)
  mode : ∀ row : InstagramCollectionRunItem, row.outcome = new.outcome →
    row.downloadAuthMode = new.authMode → 0 < row.position →
    row.satisfiesChecks = true

section

variable {database prior : Database} {now : Time} {ids : NewIdentifiers}
variable {runId : UUID} {candidate : ReelCandidate} {new : NewItem}

theorem beforeAvailable_prepared
    (succeeded : beforeAvailable database runId candidate =
      .ok (prior, new)) :
    Prepared database runId candidate.shortcode .alreadyAvailable prior
      new := by
  unfold beforeAvailable at succeeded
  split at succeeded
  · cases succeeded
  · rename_i reel found
    split at succeeded
    · rename_i durable
      cases succeeded
      obtain ⟨member, named⟩ := Persistence.reelByShortcode_eq_some found
      refine ⟨rfl, rfl, ⟨reel, ⟨rfl, rfl, fun kept => kept, member, named,
        fun _ present _ => present⟩, rfl,
        fun _ => mem_durableStatuses.mp durable⟩, ?_⟩
      intro row outcome mode positive
      simp [InstagramCollectionRunItem.satisfiesChecks, outcome, mode,
        positive]
    · cases succeeded

theorem beforeSource_prepared {source : ValidatedSource}
    {objectKey : SourceObjectKey}
    (succeeded : beforeSource database now ids runId candidate source
      objectKey = .ok (prior, new)) :
    Prepared database runId candidate.shortcode .sourceCommitted prior
      new := by
  obtain ⟨⟨discovered, reel⟩, found, succeeded⟩ := bind_eq_ok succeeded
  obtain ⟨_, _, succeeded⟩ := bind_eq_ok succeeded
  obtain ⟨_, _, succeeded⟩ := bind_eq_ok succeeded
  obtain ⟨written, stored, succeeded⟩ := bind_eq_ok succeeded
  obtain ⟨queued, inserted, succeeded⟩ := bind_eq_ok succeeded
  cases succeeded
  have stores := ((discover_stores found).writeReel stored rfl rfl).insertJob
    inserted
  refine ⟨rfl, rfl, ⟨_, stores, rfl, fun _ => rfl⟩, ?_⟩
  intro row outcome mode positive
  simp [InstagramCollectionRunItem.satisfiesChecks, outcome, mode, positive]

theorem beforeFailure_prepared {reasonCode : String} {attempted : Bool}
    (succeeded : beforeFailure database now ids runId candidate reasonCode
      attempted = .ok (prior, new)) :
    Prepared database runId candidate.shortcode .failed prior new := by
  obtain ⟨⟨discovered, reel⟩, found, succeeded⟩ := bind_eq_ok succeeded
  obtain ⟨written, stored, succeeded⟩ := bind_eq_ok succeeded
  cases succeeded
  have stores := discover_stores found
  refine ⟨rfl, rfl, ?_, ?_⟩
  · unfold Persistence.failUnfinished at stored
    split at stored
    · exact ⟨_, stores.writeReel stored rfl rfl, rfl, nofun⟩
    · cases stored
      exact ⟨reel, stores, rfl, nofun⟩
  · intro row outcome mode positive
    simp [InstagramCollectionRunItem.satisfiesChecks, outcome, positive]

end

def countOf (entries : List Entry) (outcome : RunItemOutcome) : Nat :=
  (entries.map (·.outcome)).count outcome

theorem countOf_add (entries : List Entry) (shortcode : String)
    (added outcome : RunItemOutcome) :
    countOf (entries ++ [⟨shortcode, added⟩]) outcome =
      countOf entries outcome + if added = outcome then 1 else 0 := by
  simp [countOf, List.count_singleton]

theorem countOf_total (entries : List Entry) :
    countOf entries .sourceCommitted + countOf entries .alreadyAvailable +
      countOf entries .failed = entries.length := by
  induction entries with
  | nil => rfl
  | cons entry later ih =>
      simp only [countOf, List.map_cons, List.count_cons,
        List.length_cons] at ih ⊢
      cases entry.outcome <;> simp <;> omega

def Backs (database : Database) (item : InstagramCollectionRunItem)
    (entry : Entry) : Prop :=
  item.outcome = entry.outcome ∧
    ∃ reel ∈ database.reels, reel.shortcode = entry.shortcode ∧
      item.reelId = reel.id ∧
      (entry.outcome ≠ .failed → reel.pipelineStatus.isDurable = true)

structure Books (request : CollectRequest) (runId : UUID)
    (entries : List Entry) (database : Database) : Prop where
  run : ∃ run, database.runs.find? runId = some run ∧
    run.accountId = request.accountId ∧
    run.targetCount = request.targetCount ∧
    run.sourceCommittedCount = countOf entries .sourceCommitted ∧
    run.alreadyAvailableCount = countOf entries .alreadyAvailable ∧
    run.failedCount = countOf entries .failed
  positions : (itemsOf database runId).map (·.position) =
    List.range' 1 entries.length
  rows : List.Forall₂ (Backs database) (itemsOf database runId) entries

theorem forall₂_exists {α β : Type} {relation : α → β → Prop}
    {left : List α} {right : List β}
    (related : List.Forall₂ relation left right) {value : α}
    (member : value ∈ left) : ∃ other ∈ right, relation value other := by
  induction related with
  | nil => cases member
  | cons head _ ih =>
      rcases List.mem_cons.mp member with rfl | later
      · exact ⟨_, List.mem_cons_self, head⟩
      · obtain ⟨other, present, holds⟩ := ih later
        exact ⟨other, List.mem_cons_of_mem _ present, holds⟩

section

variable {request : CollectRequest} {runId : UUID} {entries : List Entry}
variable {database after : Database}

theorem Books.keep (books : Books request runId entries database)
    (run : ∃ written, after.runs.find? runId = some written ∧
      ∀ run, database.runs.find? runId = some run →
        written.accountId = run.accountId ∧
        written.targetCount = run.targetCount ∧
        written.sourceCommittedCount = run.sourceCommittedCount ∧
        written.alreadyAvailableCount = run.alreadyAvailableCount ∧
        written.failedCount = run.failedCount)
    (items : itemsOf after runId = itemsOf database runId)
    (reels : ∀ entry ∈ entries, ∀ reel ∈ database.reels,
      reel.shortcode = entry.shortcode → reel ∈ after.reels) :
    Books request runId entries after where
  run := by
    obtain ⟨row, found, account, target, committed, available, failed⟩ :=
      books.run
    obtain ⟨written, present, same⟩ := run
    obtain ⟨account', target', committed', available', failed'⟩ :=
      same row found
    exact ⟨written, present, account'.trans account, target'.trans target,
      committed'.trans committed, available'.trans available,
      failed'.trans failed⟩
  positions := by
    rw [items]
    exact books.positions
  rows := by
    rw [items]
    have listed := (List.forall₂_and_left entries _).mpr
      ⟨fun entry member => member, books.rows.flip⟩
    refine (listed.imp fun entry item backed => ?_).flip
    obtain ⟨member, outcome, reel, present, named, identified, durable⟩ :=
      backed
    exact ⟨outcome, reel, reels entry member reel present named, named,
      identified, durable⟩

theorem Books.outcomes (books : Books request runId entries database) :
    outcomes database runId = entries.map (·.outcome) := by
  have related := books.rows
  clear books
  unfold RunAccounting.outcomes
  generalize itemsOf database runId = items at related
  induction related with
  | nil => rfl
  | cons head _ ih =>
      rw [List.map_cons, List.map_cons, ih, head.1]

theorem Books.length (books : Books request runId entries database) :
    (itemsOf database runId).length = entries.length :=
  books.rows.length_eq

theorem Books.reelIds (books : Books request runId entries database)
    (nodup : (entries.map (·.shortcode)).Nodup) :
    ((itemsOf database runId).map (·.reelId)).Nodup := by
  have related := books.rows
  clear books
  generalize itemsOf database runId = items at related
  induction related with
  | nil => exact List.nodup_nil
  | cons head tail ih =>
      rw [List.map_cons, List.nodup_cons] at nodup ⊢
      refine ⟨fun repeated => nodup.1 ?_, ih nodup.2⟩
      obtain ⟨other, member, same⟩ := List.mem_map.mp repeated
      obtain ⟨entry, present, _, second, stored, named, identified, _⟩ :=
        forall₂_exists tail member
      obtain ⟨_, reel, here, called, row, _⟩ := head
      have equal : second = reel := Table.eq_of_key_eq stored here
        (identified.symm.trans (same.trans row))
      rw [← called, ← equal, named]
      exact List.mem_map.mpr ⟨entry, present, rfl⟩

theorem Books.accounted (books : Books request runId entries database)
    (nodup : (entries.map (·.shortcode)).Nodup)
    (within : entries.length ≤ request.targetCount)
    (single : countOf entries .failed ≤ 1) :
    Accounted database runId request.targetCount where
  counters := by
    obtain ⟨run, found, _, target, committed, available, failed⟩ := books.run
    obtain ⟨member, here⟩ := Table.find?_eq_some.mp found
    refine ⟨run, member, here, target, ?_, ?_, ?_, ?_, ?_⟩
    · rw [books.outcomes, committed]
      rfl
    · rw [books.outcomes, available]
      rfl
    · rw [books.outcomes, failed]
      rfl
    · rw [failed]
      exact single
    · unfold InstagramCollectionRun.itemCount
      rw [committed, available, failed, countOf_total]
      exact within
  positions := by
    rw [books.length]
    exact books.positions
  reels := books.reelIds nodup

theorem Books.owned (books : Books request runId entries database)
    (consistent : Consistent database) {entry : Entry}
    (member : entry ∈ entries) (acquired : entry.outcome ≠ .failed) :
    Persistence.accountHasDurableReel database request.accountId
      entry.shortcode = true := by
  obtain ⟨item, present, outcome, reel, stored, named, identified, durable⟩ :=
    forall₂_exists books.rows.flip member
  obtain ⟨run, found, account, _⟩ := books.run
  obtain ⟨runMember, here⟩ := Table.find?_eq_some.mp found
  obtain ⟨itemMember, owner⟩ := List.mem_filter.mp present
  have sources := InstagramReel.satisfiesChecks_durable
    (consistent.reels.checks reel stored) (durable acquired)
  have acquisition : Persistence.isAcquisition request.accountId reel item
      run = true := by
    have lasting := mem_durableStatuses.mpr (durable acquired)
    have kept : item.outcome ∈ acquisitionOutcomes := by
      rw [outcome]
      cases shape : entry.outcome with
      | failed => exact absurd shape acquired
      | sourceCommitted => decide
      | alreadyAvailable => decide
    have same : run.id = item.runId :=
      here.trans (of_decide_eq_true owner).symm
    simp [Persistence.isAcquisition, identified, same, account, kept, lasting,
      sources.1, sources.2.1, sources.2.2]
  unfold Persistence.accountHasDurableReel
  rw [List.any_eq_true]
  refine ⟨reel, ?_, decide_eq_true named⟩
  unfold Persistence.acquiredReels
  refine List.mem_flatMap.mpr ⟨reel, stored, ?_⟩
  refine List.mem_flatMap.mpr ⟨item, itemMember, ?_⟩
  refine List.mem_filterMap.mpr ⟨run, runMember, ?_⟩
  rw [if_pos acquisition]

end

def NewItem.row (new : NewItem) (now : Time) (itemId : UUID)
    (run : InstagramCollectionRun) : InstagramCollectionRunItem where
  id := itemId
  runId := new.runId
  reelId := new.reel.id
  position := run.itemCount + 1
  outcome := new.outcome
  downloadAuthMode := new.authMode
  reasonCode := new.reasonCode
  completedAt := some now

theorem conflictsWith_of_same {run written other : InstagramCollectionRun}
    (id : written.id = run.id) (account : written.accountId = run.accountId)
    (status : written.status = run.status) :
    written.conflictsWith other = run.conflictsWith other := by
  simp [InstagramCollectionRun.conflictsWith, id, account, status]

theorem conflictsWith_comm (run other : InstagramCollectionRun) :
    run.conflictsWith other = other.conflictsWith run := by
  simp only [InstagramCollectionRun.conflictsWith]
  rw [Bool.eq_iff_iff]
  simp only [Bool.and_eq_true, decide_eq_true_eq]
  constructor
  · rintro ⟨⟨⟨differ, account⟩, active⟩, second⟩
    exact ⟨⟨⟨differ.symm, account.symm⟩, second⟩, active⟩
  · rintro ⟨⟨⟨differ, account⟩, active⟩, second⟩
    exact ⟨⟨⟨differ.symm, account.symm⟩, second⟩, active⟩

theorem conflictsWith_self (run : InstagramCollectionRun) :
    run.conflictsWith run = false := by
  simp [InstagramCollectionRun.conflictsWith]

theorem Consistent.writeRun {database after : Database}
    {written : InstagramCollectionRun} (consistent : Consistent database)
    (stored : database.writeRun written = .ok after) : Consistent after := by
  obtain ⟨checks, free, rfl⟩ := Database.writeRun_eq_ok stored
  refine ⟨⟨consistent.reels.checks, consistent.reels.unique⟩, ?_,
    consistent.runs.put conflictsWith_comm conflictsWith_self free, ?_⟩
  · intro run member
    rcases Table.mem_put.mp member with ⟨rfl, _⟩ | ⟨present, _⟩
    · exact checks
    · exact consistent.checks run present
  · intro item member
    exact Table.exists_key_put.mpr (consistent.owners item member)

theorem counted_fields (run : InstagramCollectionRun)
    (outcome : RunItemOutcome) :
    (Persistence.counted run outcome).id = run.id ∧
      (Persistence.counted run outcome).accountId = run.accountId ∧
      (Persistence.counted run outcome).status = run.status ∧
      (Persistence.counted run outcome).targetCount = run.targetCount := by
  cases outcome <;> exact ⟨rfl, rfl, rfl, rfl⟩

section

variable {request : CollectRequest} {runId : UUID} {entries : List Entry}
variable {database prior after : Database} {now : Time} {itemId : UUID}
variable {shortcode : String} {outcome : RunItemOutcome} {new : NewItem}

theorem addNew_eq_ok (succeeded : addNew prior now itemId new = .ok after) :
    ∃ run middle items, prior.runs.find? new.runId = some run ∧
      prior.items.insert? (new.row now itemId run) = some items ∧
      middle = { prior with items } ∧
      middle.writeRun (Persistence.counted run new.outcome) = .ok after := by
  unfold addNew Persistence.addItem at succeeded
  split at succeeded
  · cases succeeded
  · rename_i run found
    obtain ⟨middle, inserted, written⟩ := bind_eq_ok succeeded
    obtain ⟨items, rows, _, _, shape⟩ := Database.insertItem_eq_ok inserted
    exact ⟨run, middle, items, found, rows, shape, written⟩

theorem itemsOf_insert {items : Table InstagramCollectionRunItem UUID (·.id)}
    {row : InstagramCollectionRunItem} (owner : row.runId = runId)
    (inserted : database.items.insert? row = some items) :
    itemsOf { database with items } runId = itemsOf database runId ++ [row] := by
  unfold itemsOf
  rw [(Table.insert?_eq_some inserted).2, List.filter_append]
  simp [owner]

theorem Prepared.books
    (prepared : Prepared database runId shortcode outcome prior new)
    (books : Books request runId entries database)
    (unlisted : ∀ entry ∈ entries, entry.shortcode ≠ shortcode) :
    Books request runId entries prior := by
  obtain ⟨reel, stores, _⟩ := prepared.stored
  obtain ⟨run, found, _⟩ := books.run
  refine books.keep ⟨run, ?_, ?_⟩ ?_ ?_
  · rw [stores.runs]
    exact found
  · intro other present
    rw [found] at present
    cases present
    exact ⟨rfl, rfl, rfl, rfl, rfl⟩
  · unfold itemsOf
    rw [stores.items]
  · intro entry member other present named
    refine stores.others other present ?_
    rw [named]
    exact unlisted entry member

theorem Prepared.add
    (prepared : Prepared database runId shortcode outcome prior new)
    (books : Books request runId entries database)
    (unlisted : ∀ entry ∈ entries, entry.shortcode ≠ shortcode)
    (succeeded : addNew prior now itemId new = .ok after) :
    Books request runId (entries ++ [⟨shortcode, outcome⟩]) after := by
  have before := prepared.books books unlisted
  obtain ⟨reel, stores, identified, durable⟩ := prepared.stored
  obtain ⟨run, middle, items, found, inserted, rfl, written⟩ :=
    addNew_eq_ok succeeded
  obtain ⟨_, _, rfl⟩ := Database.writeRun_eq_ok written
  rw [prepared.owner] at found
  obtain ⟨row, present, account, target, committed, available, failed⟩ :=
    before.run
  rw [found] at present
  cases present
  have fields := counted_fields run new.outcome
  have here := (Table.find?_eq_some.mp found).2
  have rows : itemsOf { prior with
      items := items
      runs := prior.runs.put (Persistence.counted run new.outcome) } runId =
      itemsOf prior runId ++ [new.row now itemId run] :=
    itemsOf_insert prepared.owner inserted
  have total : run.itemCount = entries.length := by
    rw [InstagramCollectionRun.itemCount, committed, available, failed,
      countOf_total]
  refine ⟨⟨Persistence.counted run new.outcome, ?_, ?_, ?_, ?_⟩, ?_, ?_⟩
  · exact Table.find?_put_self found (fields.1.trans here)
  · exact fields.2.1.trans account
  · exact fields.2.2.2.trans target
  · rw [countOf_add, countOf_add, countOf_add, prepared.kind]
    cases outcome <;>
      simp [Persistence.counted, committed, available, failed]
  · rw [rows, List.map_append, before.positions, List.length_append]
    simp [NewItem.row, total, List.range'_concat, Nat.add_comm]
  · rw [rows]
    refine List.rel_append ?_ ?_
    · exact before.rows.imp fun _ _ backs => backs
    · refine .cons ⟨prepared.kind, reel, stores.member, stores.named,
        identified.symm, durable⟩ .nil

theorem Prepared.consistent
    (prepared : Prepared database runId shortcode outcome prior new)
    (consistent : Consistent database) : Consistent prior := by
  obtain ⟨reel, stores, _⟩ := prepared.stored
  refine ⟨stores.reels consistent.reels, ?_, ?_, ?_⟩
  · rw [stores.runs]
    exact consistent.checks
  · rw [stores.runs]
    exact consistent.runs
  · rw [stores.runs, stores.items]
    exact consistent.owners

theorem Consistent.add (consistent : Consistent prior)
    (succeeded : addNew prior now itemId new = .ok after) :
    Consistent after := by
  obtain ⟨run, middle, items, found, inserted, rfl, written⟩ :=
    addNew_eq_ok succeeded
  refine Consistent.writeRun ?_ written
  refine ⟨⟨consistent.reels.checks, consistent.reels.unique⟩,
    consistent.checks, consistent.runs, ?_⟩
  intro item member
  rcases (Table.mem_insert? inserted).mp member with present | rfl
  · exact consistent.owners item present
  · obtain ⟨stored, here⟩ := Table.find?_eq_some.mp found
    exact ⟨run, stored, here⟩

theorem Books.itemCount (books : Books request runId entries database)
    {run : InstagramCollectionRun}
    (found : database.runs.find? runId = some run) :
    run.itemCount = entries.length := by
  obtain ⟨row, present, _, _, committed, available, failed⟩ := books.run
  rw [found] at present
  cases present
  rw [InstagramCollectionRun.itemCount, committed, available, failed,
    countOf_total]

theorem Prepared.row_free
    (prepared : Prepared database runId shortcode outcome prior new)
    (before : Books request runId entries prior)
    (unlisted : ∀ entry ∈ entries, entry.shortcode ≠ shortcode)
    {run : InstagramCollectionRun}
    (found : prior.runs.find? runId = some run) :
    ∀ other ∈ prior.items.rows,
      (new.row now itemId run).conflictsWith other = false := by
  intro other present
  by_cases owner : other.runId = runId
  · have listed : other ∈ itemsOf prior runId :=
      List.mem_filter.mpr ⟨present, decide_eq_true owner⟩
    have position : other.position ≤ entries.length := by
      have within : other.position ∈ List.range' 1 entries.length := by
        rw [← before.positions]
        exact List.mem_map.mpr ⟨other, listed, rfl⟩
      have bounds := List.mem_range'_1.mp within
      omega
    obtain ⟨reel, stores, identified, _⟩ := prepared.stored
    obtain ⟨entry, member, _, second, stored, named, same, _⟩ :=
      forall₂_exists before.rows listed
    have apart : new.reel.id ≠ other.reelId := by
      intro equal
      have rows : second = reel := Table.eq_of_key_eq stored stores.member
        (same.symm.trans (equal.symm.trans identified.symm))
      exact unlisted entry member (named.symm.trans (rows ▸ stores.named))
    have later : run.itemCount + 1 ≠ other.position := by
      rw [before.itemCount found]
      omega
    simp [InstagramCollectionRunItem.conflictsWith, NewItem.row, apart, later]
  · have different : new.runId ≠ other.runId :=
      fun same => owner (same.symm.trans prepared.owner)
    simp [InstagramCollectionRunItem.conflictsWith, NewItem.row, different]

theorem counted_checks {run : InstagramCollectionRun}
    (checks : run.satisfiesChecks = true)
    (short : run.itemCount < run.targetCount) :
    (Persistence.counted run outcome).satisfiesChecks = true := by
  have more : (Persistence.counted run outcome).itemCount =
      run.itemCount + 1 := by
    cases outcome <;>
      simp only [Persistence.counted, InstagramCollectionRun.itemCount] <;>
      omega
  simp only [InstagramCollectionRun.satisfiesChecks, Bool.and_eq_true,
    decide_eq_true_eq] at checks ⊢
  rw [more, (counted_fields run outcome).2.2.2]
  exact ⟨checks.1, short⟩

theorem Prepared.accepted
    (prepared : Prepared database runId shortcode outcome prior new)
    (consistent : Consistent database)
    (books : Books request runId entries database)
    (unlisted : ∀ entry ∈ entries, entry.shortcode ≠ shortcode)
    (short : entries.length < request.targetCount)
    (fresh : ∀ item ∈ prior.items, item.id ≠ itemId) :
    ∃ after, addNew prior now itemId new = .ok after := by
  have before := prepared.books books unlisted
  have kept := prepared.consistent consistent
  obtain ⟨run, found, _, target, _⟩ := before.run
  obtain ⟨member, _⟩ := Table.find?_eq_some.mp found
  have total := before.itemCount found
  have fields := counted_fields run new.outcome
  obtain ⟨items, inserted⟩ :=
    Table.insert?_of_absent (new.row now itemId run) fresh
  have stored : prior.insertItem (new.row now itemId run) =
      .ok { prior with items } := by
    have checks := prepared.mode (new.row now itemId run) rfl rfl
      (Nat.succ_pos _)
    have free : ∀ other ∈ prior.items.rows,
        (new.row now itemId run).conflictsWith other = false :=
      prepared.row_free before unlisted found
    simp only [Database.insertItem, inserted, constrained_eq_ok, checks,
      Bool.true_and, List.all_eq_true, Bool.not_eq_true', and_true]
    exact free
  have counters : ({ prior with items } : Database).writeRun
      (Persistence.counted run new.outcome) = .ok { prior with
        items := items
        runs := prior.runs.put (Persistence.counted run new.outcome) } := by
    have below : run.itemCount < run.targetCount := by
      rw [total, target]
      exact short
    have checks : (Persistence.counted run new.outcome).satisfiesChecks =
        true := counted_checks (kept.checks run member) below
    have single : ∀ other ∈ prior.runs.rows,
        (Persistence.counted run new.outcome).conflictsWith other = false := by
      intro other present
      rw [conflictsWith_of_same fields.1 fields.2.1 fields.2.2.1]
      exact kept.runs run member other present
    simp only [Database.writeRun, constrained_eq_ok, checks, Bool.true_and,
      List.all_eq_true, Bool.not_eq_true', and_true]
    exact single
  refine ⟨{ prior with
    items := items
    runs := prior.runs.put (Persistence.counted run new.outcome) }, ?_⟩
  unfold addNew Persistence.addItem
  rw [prepared.owner, found]
  unfold NewItem.row at stored
  rw [prepared.owner] at stored
  dsimp only
  rw [stored]
  exact counters

end

def WritesStatus (database after : Database) : Prop :=
  after = database ∨ ∃ run written,
    database.runs.find? run.id = some run ∧
      database.writeRun written = .ok after ∧ written.id = run.id ∧
      written.accountId = run.accountId ∧
      written.targetCount = run.targetCount ∧
      written.sourceCommittedCount = run.sourceCommittedCount ∧
      written.alreadyAvailableCount = run.alreadyAvailableCount ∧
      written.failedCount = run.failedCount

theorem WritesStatus.consistent {database after : Database}
    (writes : WritesStatus database after)
    (consistent : Consistent database) : Consistent after := by
  rcases writes with rfl | ⟨run, written, _, stored, _⟩
  · exact consistent
  · exact consistent.writeRun stored

theorem WritesStatus.books {request : CollectRequest} {runId : UUID}
    {entries : List Entry} {database after : Database}
    (writes : WritesStatus database after)
    (books : Books request runId entries database) :
    Books request runId entries after := by
  rcases writes with rfl | ⟨run, written, found, stored, id, account,
    target, committed, available, failed⟩
  · exact books
  · obtain ⟨_, _, rfl⟩ := Database.writeRun_eq_ok stored
    obtain ⟨row, present, _⟩ := books.run
    refine books.keep ?_ rfl fun _ _ _ member _ => member
    by_cases here : run.id = runId
    · subst here
      refine ⟨written, Table.find?_put_self found id, fun other same => ?_⟩
      rw [found] at same
      cases same
      exact ⟨account, target, committed, available, failed⟩
    · refine ⟨row, ?_, fun other same => ?_⟩
      · rw [Table.find?_put_other (fun same => here (id.symm.trans same))]
        exact present
      · rw [present] at same
        cases same
        exact ⟨rfl, rfl, rfl, rfl, rfl⟩

section

variable {database after : Database} {now : Time} {runId : UUID}

theorem found_self {run : InstagramCollectionRun}
    (found : database.runs.find? runId = some run) :
    database.runs.find? run.id = some run := by
  rw [(Table.find?_eq_some.mp found).2]
  exact found

theorem completeRun_writes
    (succeeded : Persistence.completeRun database now runId = .ok after) :
    WritesStatus database after := by
  rcases Persistence.completeRun_eq_ok succeeded with rfl | ⟨run, found, stored⟩
  · exact .inl rfl
  · exact .inr ⟨run, _, found_self found, stored, rfl, rfl, rfl, rfl, rfl, rfl⟩

theorem completeTotal_writes {desiredTotal : Nat} {completed : Bool}
    (succeeded : Persistence.completeIfAccountDurableTotal database now runId
      desiredTotal = .ok (after, completed)) :
    WritesStatus database after := by
  rcases Persistence.completeIfAccountDurableTotal_eq_ok succeeded with
    ⟨rfl, _⟩ | ⟨run, found, _, _, stored⟩
  · exact .inl rfl
  · exact .inr ⟨run, _, found_self found, stored, rfl, rfl, rfl, rfl, rfl, rfl⟩

theorem failRun_writes {reasonCode : String}
    (succeeded : Persistence.failRun database now runId reasonCode =
      .ok after) :
    WritesStatus database after := by
  rcases Persistence.failRun_eq_ok succeeded with rfl | ⟨run, found, _, stored⟩
  · exact .inl rfl
  · exact .inr ⟨run, _, found_self found, stored, rfl, rfl, rfl, rfl, rfl, rfl⟩

theorem cancelRun_writes {reasonCode : String} {outcome : CancelRunOutcome}
    (succeeded : Persistence.cancelRun database now runId reasonCode =
      .ok (after, outcome)) :
    WritesStatus database after := by
  rcases Persistence.cancelRun_eq_ok succeeded with rfl | ⟨run, found, _, stored⟩
  · exact .inl rfl
  · exact .inr ⟨run, _, found_self found, stored, rfl, rfl, rfl, rfl, rfl, rfl⟩

theorem Consistent.accepts_ended (consistent : Consistent database)
    {run written : InstagramCollectionRun}
    (found : database.runs.find? runId = some run)
    (refused : database.writeRun written = .error .integrityError)
    (ended : written.status.isActive = false)
    (same : written.satisfiesChecks = run.satisfiesChecks) : False := by
  have checks := consistent.checks run (Table.find?_eq_some.mp found).1
  have free : ∀ other ∈ database.runs.rows,
      written.conflictsWith other = false := by
    intro other _
    simp [InstagramCollectionRun.conflictsWith, ended]
  have stored : database.writeRun written =
      .ok { database with runs := database.runs.put written } := by
    simp only [Database.writeRun, constrained_eq_ok, same, checks,
      Bool.true_and, List.all_eq_true, Bool.not_eq_true', and_true]
    exact free
  rw [stored] at refused
  cases refused

end

structure Watches (request : CollectRequest) (ledger : Ledger)
    (session : Session) : Prop where
  consistent : Consistent session.database
  run : session.run = ledger.run
  books : ∀ runId, ledger.run = some runId →
    Books request runId ledger.entries session.database
  met : ∀ entry ∈ ledger.entries, entry.shortcode ∈ session.met
  nodup : (ledger.entries.map (·.shortcode)).Nodup
  within : ledger.entries.length ≤ request.targetCount
  single : countOf ledger.entries .failed ≤ 1

section

variable {request : CollectRequest} {ledger : Ledger}
variable {session after : Session} {current : Database} {runId : UUID}

theorem Watches.others (watched : Watches request ledger session)
    (others : Others session current) :
    Watches request ledger { session with database := current } where
  consistent := others.consistent watched.consistent
  run := watched.run
  books := by
    intro runId here
    have books := watched.books runId here
    obtain ⟨found, items⟩ := others.run runId (watched.run.trans here)
    obtain ⟨row, present, _⟩ := books.run
    refine books.keep ⟨row, found.trans present, fun other same => ?_⟩ items ?_
    · rw [present] at same
      cases same
      exact ⟨rfl, rfl, rfl, rfl, rfl⟩
    · intro entry member reel stored named
      refine (others.reels reel ?_).mpr stored
      rw [named]
      exact watched.met entry member
  met := watched.met
  nodup := watched.nodup
  within := watched.within
  single := watched.single

theorem Watches.keep
    (watched : Watches request ledger { session with database := current })
    (run : after.run = session.run)
    (met : ∀ shortcode ∈ session.met, shortcode ∈ after.met)
    (consistent : Consistent after.database)
    (books : ∀ runId, ledger.run = some runId →
      Books request runId ledger.entries after.database) :
    Watches request ledger after where
  consistent := consistent
  run := run.trans watched.run
  books := books
  met := fun entry member => met _ (watched.met entry member)
  nodup := watched.nodup
  within := watched.within
  single := watched.single

theorem Watches.add {prior : Database} {now : Time} {itemId : UUID}
    {shortcode : String} {outcome : RunItemOutcome} {new : NewItem}
    (watched : Watches request ledger { session with database := current })
    (room : Room request runId shortcode ledger)
    (prepared : Prepared current runId shortcode outcome prior new)
    (succeeded : addNew prior now itemId new = .ok after.database)
    (run : after.run = session.run)
    (met : after.met = session.met ++ [shortcode]) :
    Watches request (ledger.add shortcode outcome) after where
  consistent := (prepared.consistent watched.consistent).add succeeded
  run := run.trans watched.run
  books := by
    intro owner here
    have same : owner = runId := by
      have equal := here.symm.trans room.run
      cases equal
      rfl
    subst same
    exact prepared.add (watched.books owner room.run) room.unlisted succeeded
  met := by
    intro entry member
    rw [met]
    rcases List.mem_append.mp member with earlier | latest
    · exact List.mem_append_left _ (watched.met entry earlier)
    · rw [List.mem_singleton.mp latest]
      exact List.mem_append_right _ (List.mem_singleton_self _)
  nodup := by
    rw [Ledger.add, List.map_append, List.nodup_append]
    refine ⟨watched.nodup, List.nodup_singleton _, ?_⟩
    intro first firstMember second secondMember same
    obtain ⟨entry, present, rfl⟩ := List.mem_map.mp firstMember
    have named : second = shortcode := List.mem_singleton.mp secondMember
    exact room.unlisted entry present (same.trans named)
  within := by
    rw [Ledger.add, List.length_append]
    exact room.short
  single := by
    have none : countOf ledger.entries .failed = 0 := by
      rw [countOf, List.count_eq_zero]
      intro member
      obtain ⟨entry, present, failed⟩ := List.mem_map.mp member
      exact room.unfailed entry present failed
    rw [Ledger.add, countOf_add, none]
    split <;> simp

end

theorem transaction_answers {α : Type} {database after : Database}
    {reply : Except CollectorFault α}
    (outcome : Database → Draw → Except DatabaseError (Database × α))
    (answered : (after = database ∧ ∃ fault, reply = .error fault) ∨
      ∃ (world : World) (draw : Draw) (reached : World),
        world.database = database ∧
        world.transaction (outcome world.database draw) = (reached, reply) ∧
        reached.database = after) :
    (after = database ∧ ∃ fault, reply = .error fault) ∨
      ∃ draw value, outcome database draw = .ok (after, value) ∧
        reply = .ok value := by
  rcases answered with refused | ⟨world, draw, reached, rfl, effect, rfl⟩
  · exact .inl refused
  rcases world.transaction_cases (outcome world.database draw) with
    ⟨fault, shape⟩ | ⟨database, value, succeeded, shape⟩
  · rw [shape] at effect
    cases effect
    exact .inl ⟨rfl, fault, rfl⟩
  · rw [shape] at effect
    cases effect
    exact .inr ⟨draw, value, succeeded, rfl⟩

theorem commit_answers {database after : Database}
    {reply : Except CollectorFault Unit}
    (outcome : Database → Draw → Except DatabaseError Database)
    (answered : (after = database ∧ ∃ fault, reply = .error fault) ∨
      ∃ (world : World) (draw : Draw) (reached : World),
        world.database = database ∧
        world.commit (outcome world.database draw) = (reached, reply) ∧
        reached.database = after) :
    (after = database ∧ ∃ fault, reply = .error fault) ∨
      ∃ draw, outcome database draw = .ok after ∧ reply = .ok () := by
  rcases transaction_answers (fun database draw =>
      (outcome database draw).map fun database => (database, ())) answered with
    refused | ⟨draw, value, succeeded, returned⟩
  · exact .inl refused
  · obtain ⟨stored, committed, shape⟩ := map_eq_ok succeeded
    cases shape
    exact .inr ⟨draw, committed, returned⟩

theorem createRun_books {request : CollectRequest} {database after : Database}
    {now : Time} {runId : UUID} {trigger : CollectionTrigger}
    (consistent : Consistent database)
    (succeeded : Persistence.createRun database now runId request.accountId
      trigger request.targetCount = .ok after) :
    Consistent after ∧ Books request runId [] after := by
  unfold Persistence.createRun at succeeded
  split at succeeded
  · cases succeeded
  obtain ⟨runs, inserted, checks, free, rfl⟩ :=
    Database.insertRun_eq_ok succeeded
  have absent := (Table.insert?_eq_some inserted).1
  constructor
  · refine ⟨⟨consistent.reels.checks, consistent.reels.unique⟩, ?_,
      consistent.runs.insert? conflictsWith_comm conflictsWith_self inserted
        free, ?_⟩
    · intro run member
      rcases (Table.mem_insert? inserted).mp member with present | rfl
      · exact consistent.checks run present
      · exact checks
    · intro item member
      obtain ⟨run, present, owner⟩ := consistent.owners item member
      exact ⟨run, (Table.mem_insert? inserted).mpr (.inl present), owner⟩
  · have unused : itemsOf database runId = [] := by
      refine List.filter_eq_nil_iff.mpr fun item member owner => ?_
      obtain ⟨run, present, same⟩ := consistent.owners item member
      exact absent run present (same.trans (of_decide_eq_true owner))
    refine ⟨⟨_, Table.find?_eq_some.mpr
      ⟨(Table.mem_insert? inserted).mpr (.inr rfl), rfl⟩, rfl, rfl, rfl, rfl,
      rfl⟩, ?_, ?_⟩
    · exact (congrArg (List.map (·.position)) unused).trans rfl
    · have rows : List.Forall₂ (Backs { database with runs })
          (itemsOf database runId) [] := by
        rw [unused]
        exact .nil
      exact rows

theorem summary_eq_ok {database : Database} {request : CollectRequest}
    {runId : UUID} {entries : List Entry}
    {counted : Nat × Nat × Nat × CollectionRunStatus}
    (books : Books request runId entries database)
    (read : Persistence.summary database runId = .ok counted) :
    counted.1 = countOf entries .sourceCommitted ∧
      counted.2.1 = countOf entries .alreadyAvailable := by
  obtain ⟨run, found, _, _, committed, available, _⟩ := books.run
  unfold Persistence.summary at read
  rw [found] at read
  cases read
  exact ⟨committed, available⟩

section

variable {request : CollectRequest} {ledger : Ledger}
variable {session after : Session}

theorem responds_watched {input : EngineCall}
    {reply : Except CollectorFault (EngineReply input)}
    (watched : Watches request ledger session)
    (permitted : permits request ledger input)
    (responded : Responds session input reply after) :
    assumes request ledger input reply ∧
      Watches request (advance ledger input reply) after := by
  obtain ⟨⟨current, others, answered⟩, run, met⟩ := responded
  have here := watched.others others
  have wider : ∀ shortcode ∈ session.met, shortcode ∈ after.met := by
    intro shortcode member
    rw [met]
    exact List.mem_append_left _ member
  have still : after.database = current → after.run = session.run →
      Watches request ledger after := by
    intro same kept
    refine here.keep kept wider ?_ ?_
    · rw [same]
      exact here.consistent
    · rw [same]
      exact here.books
  have status : WritesStatus current after.database →
      after.run = session.run → Watches request ledger after :=
    fun writes kept => here.keep kept wider (writes.consistent here.consistent)
      fun runId owner => writes.books (here.books runId owner)
  cases input with
  | createRun accountId trigger targetCount =>
      obtain ⟨rfl, rfl, rfl⟩ := permitted
      rcases transaction_answers (fun database draw =>
          (Persistence.createRun database draw.now draw.runId
            request.accountId trigger request.targetCount).map
            fun database => (database, draw.runId)) answered with
        ⟨same, fault, rfl⟩ | ⟨draw, runId, succeeded, rfl⟩
      · exact ⟨trivial, still same run⟩
      · obtain ⟨stored, inserted, shape⟩ := map_eq_ok succeeded
        cases shape
        obtain ⟨consistent, books⟩ :=
          createRun_books here.consistent inserted
        refine ⟨trivial, consistent, run, ?_, nofun, List.nodup_nil,
          Nat.zero_le _, Nat.zero_le _⟩
        intro runId same
        cases same
        exact books
  | commitAvailable runId candidate =>
      rcases commit_answers (fun database draw =>
          Persistence.commitAvailable database draw.now draw.ids runId
            candidate) answered with
        ⟨same, fault, rfl⟩ | ⟨draw, succeeded, rfl⟩
      · exact ⟨trivial, still same run⟩
      · rw [commitAvailable_eq] at succeeded
        obtain ⟨⟨prior, new⟩, before, added⟩ := bind_eq_ok succeeded
        exact ⟨trivial, here.add permitted (beforeAvailable_prepared before)
          added run met⟩
  | commitSource runId candidate source objectKey =>
      rcases commit_answers (fun database draw =>
          Persistence.commitSource database draw.now draw.ids runId candidate
            source objectKey) answered with
        ⟨same, fault, rfl⟩ | ⟨draw, succeeded, rfl⟩
      · exact ⟨trivial, still same run⟩
      · rw [commitSource_eq] at succeeded
        obtain ⟨⟨prior, new⟩, before, added⟩ := bind_eq_ok succeeded
        exact ⟨trivial, here.add permitted (beforeSource_prepared before)
          added run met⟩
  | recordFailure runId candidate reasonCode attempted =>
      rcases commit_answers (fun database draw =>
          Persistence.recordFailure database draw.now draw.ids runId candidate
            reasonCode attempted) answered with
        ⟨same, fault, rfl⟩ | ⟨draw, succeeded, rfl⟩
      · exact ⟨trivial, still same run⟩
      · rw [recordFailure_eq] at succeeded
        obtain ⟨⟨prior, new⟩, before, added⟩ := bind_eq_ok succeeded
        exact ⟨trivial, here.add permitted (beforeFailure_prepared before)
          added run met⟩
  | completeRun runId =>
      rcases commit_answers (fun database draw =>
          Persistence.completeRun database draw.now runId) answered with
        ⟨same, fault, rfl⟩ | ⟨draw, succeeded, rfl⟩
      · exact ⟨trivial, still same run⟩
      · exact ⟨trivial, status (completeRun_writes succeeded) run⟩
  | completeIfAccountDurableTotal runId desiredTotal =>
      rcases transaction_answers (fun database draw =>
          Persistence.completeIfAccountDurableTotal database draw.now runId
            desiredTotal) answered with
        ⟨same, fault, rfl⟩ | ⟨draw, value, succeeded, rfl⟩
      · exact ⟨trivial, still same run⟩
      · exact ⟨trivial, status (completeTotal_writes succeeded) run⟩
  | failRun runId reasonCode =>
      rcases commit_answers (fun database draw =>
          Persistence.failRun database draw.now runId reasonCode) answered with
        ⟨same, fault, rfl⟩ | ⟨draw, succeeded, rfl⟩
      · exact ⟨trivial, still same run⟩
      · exact ⟨trivial, status (failRun_writes succeeded) run⟩
  | cancelRun runId reasonCode =>
      rcases transaction_answers (fun database draw =>
          Persistence.cancelRun database draw.now runId reasonCode)
          answered with
        ⟨same, fault, rfl⟩ | ⟨draw, value, succeeded, rfl⟩
      · exact ⟨trivial, still same run⟩
      · exact ⟨trivial, status (cancelRun_writes succeeded) run⟩
  | summary runId =>
      rcases transaction_answers (fun database _ =>
          (Persistence.summary database runId).map
            fun counts => (database, counts)) answered with
        ⟨same, fault, rfl⟩ | ⟨draw, counted, succeeded, rfl⟩
      · exact ⟨trivial, still same run⟩
      · obtain ⟨counts, read, shape⟩ := map_eq_ok succeeded
        injection shape with same counted
        subst counted
        refine ⟨fun owner => ?_, still same.symm run⟩
        exact summary_eq_ok (here.books runId owner) read
  | accountHasDurableReel accountId shortcode =>
      rcases answered with ⟨same, fault, rfl⟩ |
        ⟨world, draw, reached, rfl, effect, same⟩
      · exact ⟨trivial, still same run⟩
      · cases effect
        refine ⟨fun account started acquired => ?_, still same.symm run⟩
        obtain ⟨runId, owner⟩ := Option.isSome_iff_exists.mp started
        obtain ⟨entry, member, named, kept⟩ := acquired
        have owned := (here.books runId owner).owned here.consistent member
          kept
        rw [account, ← named]
        exact owned
  | reelStatus shortcode =>
      rcases answered with ⟨same, fault, rfl⟩ |
        ⟨world, draw, reached, rfl, effect, same⟩
      · exact ⟨trivial, still same run⟩
      · cases effect
        exact ⟨trivial, still same.symm run⟩
  | cancellationRequested runId =>
      rcases answered with ⟨same, fault, rfl⟩ |
        ⟨world, draw, reached, rfl, effect, same⟩
      · exact ⟨trivial, still same run⟩
      · cases effect
        exact ⟨trivial, still same.symm run⟩
  | _ => exact ⟨trivial, still answered run⟩

theorem Prepared.unfired {database prior : Database} {now : Time}
    {itemId runId : UUID} {shortcode : String} {outcome : RunItemOutcome}
    {new : NewItem}
    (prepared : Prepared database runId shortcode outcome prior new)
    (watched : Watches request ledger { session with database })
    (room : Room request runId shortcode ledger)
    (fresh : ∀ item ∈ database.items, item.id ≠ itemId) :
    addNew prior now itemId new ≠ .error .integrityError := by
  obtain ⟨reel, stores, _⟩ := prepared.stored
  have unused : ∀ item ∈ prior.items, item.id ≠ itemId := by
    rw [stores.items]
    exact fresh
  obtain ⟨added, succeeded⟩ := prepared.accepted watched.consistent
    (watched.books runId room.run) room.unlisted room.short unused
  rw [succeeded]
  exact nofun

theorem map_eq_error {ε α β : Type} {outcome : Except ε α} {change : α → β}
    {error : ε} (failed : outcome.map change = .error error) :
    outcome = .error error := by
  cases outcome with
  | ok value => cases failed
  | error other => exact congrArg Except.error (Except.error.inj failed)

theorem unfired {input : EngineCall} {current : Database} {draw : Draw}
    (watched : Watches request ledger { session with database := current })
    (permitted : permits request ledger input)
    (fresh : ∀ item ∈ current.items, item.id ≠ draw.ids.item) :
    ¬ Fires current draw input := by
  have ended := watched.consistent
  cases input with
  | commitAvailable runId candidate =>
      intro fired
      obtain ⟨prior, new, before, failed⟩ := fired
      have prepared := beforeAvailable_prepared (Option.some.inj before)
      exact prepared.unfired watched permitted fresh failed
  | commitSource runId candidate source objectKey =>
      intro fired
      obtain ⟨prior, new, before, failed⟩ := fired
      have prepared := beforeSource_prepared (Option.some.inj before)
      exact prepared.unfired watched permitted fresh failed
  | recordFailure runId candidate reasonCode attempted =>
      intro fired
      obtain ⟨prior, new, before, failed⟩ := fired
      have prepared := beforeFailure_prepared (Option.some.inj before)
      exact prepared.unfired watched permitted fresh failed
  | completeRun runId =>
      intro fired
      change Persistence.completeRun current draw.now runId =
        .error .integrityError at fired
      unfold Persistence.completeRun at fired
      split at fired
      · cases fired
      · rename_i run found
        exact ended.accepts_ended found fired rfl rfl
  | completeIfAccountDurableTotal runId desiredTotal =>
      intro fired
      change Persistence.completeIfAccountDurableTotal current draw.now runId
        desiredTotal = .error .integrityError at fired
      unfold Persistence.completeIfAccountDurableTotal at fired
      split at fired
      · cases fired
      · rename_i run found
        split at fired
        · cases fired
        · split at fired
          · cases fired
          · exact ended.accepts_ended found (map_eq_error fired) rfl rfl
  | failRun runId reasonCode =>
      intro fired
      change Persistence.failRun current draw.now runId reasonCode =
        .error .integrityError at fired
      unfold Persistence.failRun at fired
      split at fired
      · cases fired
      · rename_i run found
        split at fired
        · exact ended.accepts_ended found fired rfl rfl
        · cases fired
  | cancelRun runId reasonCode =>
      intro fired
      change Persistence.cancelRun current draw.now runId reasonCode =
        .error .integrityError at fired
      unfold Persistence.cancelRun at fired
      split at fired
      · cases fired
      · rename_i run found
        split at fired
        · exact ended.accepts_ended found (map_eq_error fired) rfl rfl
        · cases fired
  | _ =>
      intro fired
      obtain ⟨_, _, before, _⟩ := fired
      cases before

end

structure Unused (request : CollectRequest) (database : Database)
    (runId : UUID) : Prop where
  run : ∃ run, database.runs.find? runId = some run ∧
    run.accountId = request.accountId ∧
    run.targetCount = request.targetCount ∧ run.sourceCommittedCount = 0 ∧
    run.alreadyAvailableCount = 0 ∧ run.failedCount = 0
  items : itemsOf database runId = []

theorem Unused.books {request : CollectRequest} {database : Database}
    {runId : UUID} (unused : Unused request database runId) :
    Books request runId [] database where
  run := unused.run
  positions := by
    rw [unused.items]
    rfl
  rows := by
    rw [unused.items]
    exact .nil

/-- In every state a collection reaches, its run is accounted for, and no
constraint of the runs and items can refuse its next write. -/
theorem run_accounting (engine : CollectorEngine) (request : CollectRequest)
    {database : Database} (consistent : Consistent database)
    (unused : ∀ runId, request.claimedRunId = some runId →
      Unused request database runId)
    {rest : EngineProgram CollectorSummary} {session : Session}
    (reached : (engine.collect request).Reaches Responds
      ⟨database, request.claimedRunId, []⟩ rest session) :
    (∀ runId, session.run = some runId →
      Accounted session.database runId request.targetCount) ∧
    ∀ input resume, rest = .call input resume →
      ∀ current draw, Others session current →
        (∀ item ∈ current.items, item.id ≠ draw.ids.item) →
        ¬ Fires current draw input := by
  have answers : ∀ ledger session input reply after,
      Watches request ledger session →
      (bookkeeping request).permits ledger input →
      Responds session input reply after →
      (bookkeeping request).assumes ledger input reply ∧
        Watches request ((bookkeeping request).advance ledger input reply)
          after :=
    fun _ _ _ _ _ watched permitted responded =>
      responds_watched watched permitted responded
  have started : Watches request ⟨request.claimedRunId, []⟩
      ⟨database, request.claimedRunId, []⟩ :=
    ⟨consistent, rfl, fun runId claimed => (unused runId claimed).books, nofun,
      List.nodup_nil, Nat.zero_le _, Nat.zero_le _⟩
  obtain ⟨ledger, follows, watched⟩ := Follows.reaches answers
    (collect_keeps_books engine request) started reached
  constructor
  · intro runId here
    have books := watched.books runId (watched.run.symm.trans here)
    exact books.accounted watched.nodup watched.within watched.single
  · rintro input resume rfl current draw others fresh
    exact unfired (watched.others others) follows.1 fresh

open TranscriptAcceptance (sampleDatabase sampleWorld sampleDraw samplePort
  sampleEngine sampleRequest)

def respond (session : Session) (input : EngineCall) :
    Except CollectorFault (EngineReply input) × Session :=
  let reply := if isPersistence input then
      ((sampleWorld session.database).engineEffect
        (sampleDraw session.database) input).2
    else samplePort input
  (reply, {
    database := if isPersistence input then
        ((sampleWorld session.database).engineEffect
          (sampleDraw session.database) input).1.database
      else session.database
    run := created session input reply
    met := session.met ++ (meets input).toList })

theorem responds_respond (session : Session) (input : EngineCall) :
    Responds session input (respond session input).1
      (respond session input).2 := by
  refine ⟨⟨session.database, ⟨fun kept => kept, fun _ _ => ⟨rfl, rfl⟩,
    fun _ _ => Iff.rfl⟩, ?_⟩, rfl, rfl⟩
  unfold Answers respond
  by_cases persistent : isPersistence input = true
  · simp only [if_pos persistent]
    exact .inr ⟨_, _, _, rfl, rfl, rfl⟩
  · simp only [if_neg persistent]

theorem sampleDatabase_consistent : Consistent sampleDatabase :=
  ⟨⟨by decide, by decide⟩, by decide,
    fun run member => absurd member (Table.not_mem_empty run), by decide⟩

theorem three_reels_accounted :
    Accounted (((sampleEngine {} false).collect (sampleRequest 3)).play respond
      ⟨sampleDatabase, none, []⟩).2.database 1 3 :=
  (run_accounting (sampleEngine {} false) (sampleRequest 3)
    sampleDatabase_consistent nofun
    (reaches_play responds_respond .start)).1 1 (by decide +kernel)

end OfflineReels.Collector.RunAccounting
