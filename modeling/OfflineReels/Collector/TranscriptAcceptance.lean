import OfflineReels.Collector.RecordedRuns
import OfflineReels.Collector.World

namespace OfflineReels.Collector.TranscriptAcceptance

open OfflineReels.Foundation
open OfflineReels.Foundation.Program
open OfflineReels.Instagram
open OfflineReels.Collector.RecordedRuns
open OfflineReels.Collector.Verification

/-! Completed collections against the acceptors of their transcripts. -/

def counters (database : Database) (runId : UUID) : Option (Nat × Nat) :=
  (database.runs.find? runId).map fun run =>
    (run.sourceCommittedCount, run.alreadyAvailableCount)

/-- The persistence answers by its transactions; any other port as it likes. -/
def Answers (database : Database) (request : EngineCall)
    (reply : Except CollectorFault (EngineReply request))
    (after : Database) : Prop :=
  if isPersistence request then
    ∃ (world : World) (choice : Choice) (reached : World),
      world.database = database ∧
      world.perform (.engine request) choice = some (reached, reply) ∧
      reached.database = after
  else after = database

/-- The database, the transcript and the collected run, once there is one. -/
structure Session where
  database : Database
  transcript : List TranscriptEvent
  run : Option UUID

/-- Between two calls other actors may change the database, but only the run
itself counts what it acquires. -/
def Responds (session : Session) (request : EngineCall)
    (reply : Except CollectorFault (EngineReply request))
    (after : Session) : Prop :=
  (∃ current, (∀ runId, session.run = some runId →
      counters current runId = counters session.database runId) ∧
    Answers current request reply after.database) ∧
  match request, reply with
  | .record position event, reply =>
      reply = .ok () ∧ after.run = session.run ∧
        after.transcript =
          SafeEventTranscript.record session.transcript position event
  | .createRun _ _ _, .ok runId =>
      after.run = some runId ∧ after.transcript = session.transcript
  | _, _ => after.run = session.run ∧ after.transcript = session.transcript

structure Watches (watch : Watch) (session : Session) : Prop where
  transcript : session.transcript = watch.recordings.take 256
  tally : ∀ tally, watch.tally = some tally →
    session.run = some tally.runId ∧
      counters session.database tally.runId =
        some (tally.committed, tally.available)

theorem renamed_allowed (event : EventName) :
    SafeEventTranscript.renamed event ∈ SafeEventTranscript.allowed := by
  cases event <;> decide

theorem record_take (recordings : List TranscriptEvent) (position : Nat)
    (event : EventName) :
    SafeEventTranscript.record (recordings.take 256) position event =
      (recordings ++ [(⟨position, SafeEventTranscript.renamed event⟩ :
        TranscriptEvent)]).take 256 := by
  unfold SafeEventTranscript.record
  by_cases room : recordings.length < 256
  · have kept : recordings.take 256 = recordings :=
      List.take_of_length_le (Nat.le_of_lt room)
    rw [kept, if_pos ⟨renamed_allowed event, room⟩, List.take_of_length_le]
    rw [List.length_append]
    exact room
  · have full : (recordings.take 256).length = 256 := by
      rw [List.length_take]
      omega
    rw [if_neg (by rw [full]; exact fun within => absurd within.2 (by decide)),
      List.take_append_of_le_length (Nat.le_of_not_lt room)]

theorem counters_of_runs {before after : Database}
    (same : after.runs = before.runs) (runId : UUID) :
    counters after runId = counters before runId := by
  rw [counters, same]
  rfl

theorem counters_insert {before after : Database}
    {run : InstagramCollectionRun} {runs : Table InstagramCollectionRun UUID
      (·.id)} (inserted : before.runs.insert? run = some runs)
    (shape : after.runs = runs) :
    counters after run.id =
      some (run.sourceCommittedCount, run.alreadyAvailableCount) := by
  have found : after.runs.find? run.id = some run := by
    rw [shape, Table.find?_eq_some]
    exact ⟨(Table.mem_insert? inserted).mpr (Or.inr rfl), rfl⟩
  rw [counters, found]
  rfl

theorem counters_put {before after : Database}
    {run written : InstagramCollectionRun} {runId : UUID}
    (shape : after.runs = before.runs.put written)
    (found : before.runs.find? runId = some run)
    (same : written.id = run.id) :
    counters after runId =
      some (written.sourceCommittedCount, written.alreadyAvailableCount) := by
  obtain ⟨_, identified⟩ := Table.find?_eq_some.mp found
  have present : after.runs.find? runId = some written := by
    rw [shape, Table.find?_put_self found (same.trans identified)]
  rw [counters, present]
  rfl

theorem counters_put_of_other {before after : Database}
    {written : InstagramCollectionRun} {runId : UUID}
    (shape : after.runs = before.runs.put written)
    (other : written.id ≠ runId) :
    counters after runId = counters before runId := by
  rw [counters, shape, Table.find?_put_other other]
  rfl

theorem answers_quiet {database after : Database} {request : EngineCall}
    {reply : Except CollectorFault (EngineReply request)}
    (quiet : World.writesRuns (.engine request) = false)
    (answered : Answers database request reply after) (runId : UUID) :
    counters after runId = counters database runId := by
  unfold Answers at answered
  split at answered
  · obtain ⟨world, choice, reached, rfl, performed, rfl⟩ := answered
    rcases World.perform_cases performed with
      ⟨rfl, _⟩ | ⟨draw, rfl, _⟩
    · rfl
    · exact counters_of_runs
        (World.effect_keeps_runs world draw (.engine request) quiet).1 runId
  · rw [answered]

theorem summary_counters {database after : Database} {runId : UUID}
    {committed available failed : Nat} {status : CollectionRunStatus}
    (answered : Answers database (.summary runId)
      (.ok (committed, available, failed, status)) after) :
    counters database runId = some (committed, available) := by
  obtain ⟨world, choice, reached, rfl, performed, rfl⟩ := answered
  obtain ⟨draw, _, returned⟩ := World.perform_eq_ok performed
  rcases world.transaction_cases ((Persistence.summary world.database
      runId).map fun counts => (world.database, counts)) with
    ⟨_, shape⟩ | ⟨_, value, outcome, shape⟩
  · have refused := (congrArg Prod.snd shape).symm.trans returned
    cases refused
  · have same := (congrArg Prod.snd shape).symm.trans returned
    cases same
    obtain ⟨counts, read, pair⟩ := map_eq_ok outcome
    cases pair
    unfold Persistence.summary at read
    unfold counters
    split at read
    · cases read
    · rename_i found
      cases read
      rw [found]
      rfl

theorem createRun_counters {database after : Database} {accountId : UUID}
    {trigger : CollectionTrigger} {targetCount : Nat} {runId : UUID}
    (answered : Answers database (.createRun accountId trigger targetCount)
      (.ok runId) after) :
    counters after runId = some (0, 0) := by
  obtain ⟨world, choice, reached, rfl, performed, rfl⟩ := answered
  obtain ⟨draw, rfl, returned⟩ := World.perform_eq_ok performed
  rcases world.transaction_cases ((Persistence.createRun world.database
      draw.now draw.runId accountId trigger targetCount).map fun database =>
        (database, draw.runId)) with
    ⟨_, shape⟩ | ⟨next, value, outcome, shape⟩
  · have refused := (congrArg Prod.snd shape).symm.trans returned
    cases refused
  · have same := (congrArg Prod.snd shape).symm.trans returned
    cases same
    obtain ⟨created, inserted, pair⟩ := map_eq_ok outcome
    cases pair
    have reached : (world.effect draw (.engine (.createRun accountId trigger
        targetCount))).1.database = next :=
      congrArg (fun result => result.1.database) shape
    unfold Persistence.createRun at inserted
    split at inserted
    · cases inserted
    · obtain ⟨runs, rows, _, _, rfl⟩ := Database.insertRun_eq_ok inserted
      rw [reached]
      exact counters_insert rows rfl

theorem itemAdded_counters {database after : Database} {now : Time}
    {itemId runId : UUID} {reel : InstagramReel} {outcome : RunItemOutcome}
    (added : Persistence.ItemAdded database now itemId runId reel outcome
      after) {committed available : Nat}
    (counted : counters database runId = some (committed, available)) :
    counters after runId = match outcome with
      | .sourceCommitted => some (committed + 1, available)
      | .alreadyAvailable => some (committed, available + 1)
      | .failed => some (committed, available) := by
  obtain ⟨run, _, _, found, _, _, _, _, _, _, shape⟩ := added.rows
  unfold counters at counted
  rw [found] at counted
  cases counted
  have same : (Persistence.counted run outcome).id = run.id := by
    cases outcome <;> rfl
  have result := counters_put shape found same
  cases outcome <;> exact result

theorem commitSource_counters {database after : Database} {runId : UUID}
    {candidate : ReelCandidate} {source : ValidatedSource}
    {objectKey : SourceObjectKey} {committed available : Nat}
    (answered : Answers database
      (.commitSource runId candidate source objectKey) (.ok ()) after)
    (counted : counters database runId = some (committed, available)) :
    counters after runId = some (committed + 1, available) := by
  obtain ⟨world, choice, reached, rfl, performed, rfl⟩ := answered
  obtain ⟨draw, rfl, returned⟩ := World.perform_eq_ok performed
  obtain ⟨discovered, reel, written, jobs, found, _, rfl, _, _, _, added⟩ :=
    Persistence.commitSource_eq_ok (World.commit_eq_ok returned)
  have kept : counters discovered runId = some (committed, available) := by
    rw [counters_of_runs (Persistence.discover_keeps_runs found).1, counted]
  exact itemAdded_counters added kept

theorem commitAvailable_counters {database after : Database} {runId : UUID}
    {candidate : ReelCandidate} {committed available : Nat}
    (answered : Answers database (.commitAvailable runId candidate) (.ok ())
      after)
    (counted : counters database runId = some (committed, available)) :
    counters after runId = some (committed, available + 1) := by
  obtain ⟨world, choice, reached, rfl, performed, rfl⟩ := answered
  obtain ⟨draw, rfl, returned⟩ := World.perform_eq_ok performed
  obtain ⟨reel, _, _, added⟩ :=
    Persistence.commitAvailable_eq_ok (World.commit_eq_ok returned)
  exact itemAdded_counters added counted

theorem completion_counters {database after : Database} {now : Time}
    {run : InstagramCollectionRun}
    (found : database.runs.find? run.id = some run)
    (written : database.writeRun { run with
      status := .completed
      completedAt := some now } = .ok after) (runId : UUID) :
    counters after runId = counters database runId := by
  obtain ⟨_, _, same⟩ := Database.writeRun_eq_ok written
  have shape := congrArg Database.runs same
  by_cases here : run.id = runId
  · subst here
    rw [counters_put shape found rfl, counters, found]
    rfl
  · exact counters_put_of_other shape here

theorem completeRun_counters {database after : Database} {completed : UUID}
    {reply : Except CollectorFault Unit}
    (answered : Answers database (.completeRun completed) reply after)
    (runId : UUID) : counters after runId = counters database runId := by
  obtain ⟨world, choice, reached, rfl, performed, rfl⟩ := answered
  rcases World.perform_cases performed with ⟨rfl, _⟩ | ⟨draw, rfl, _⟩
  · rfl
  · rcases world.commit_cases (Persistence.completeRun world.database draw.now
      completed) with ⟨_, shape⟩ | ⟨next, outcome, shape⟩
    · exact congrArg (fun result => counters result.1.database runId) shape
    · refine (congrArg (fun result => counters result.1.database runId)
        shape).trans ?_
      rcases Persistence.completeRun_eq_ok outcome with
        rfl | ⟨run, found, written⟩
      · rfl
      · obtain ⟨_, rfl⟩ := Table.find?_eq_some.mp found
        exact completion_counters found written runId

theorem completeTotal_counters {database after : Database} {completed : UUID}
    {desiredTotal : Nat} {reply : Except CollectorFault Bool}
    (answered : Answers database
      (.completeIfAccountDurableTotal completed desiredTotal) reply after)
    (runId : UUID) : counters after runId = counters database runId := by
  obtain ⟨world, choice, reached, rfl, performed, rfl⟩ := answered
  rcases World.perform_cases performed with ⟨rfl, _⟩ | ⟨draw, rfl, _⟩
  · rfl
  · rcases world.transaction_cases (Persistence.completeIfAccountDurableTotal
      world.database draw.now completed desiredTotal) with
      ⟨_, shape⟩ | ⟨next, value, outcome, shape⟩
    · exact congrArg (fun result => counters result.1.database runId) shape
    · refine (congrArg (fun result => counters result.1.database runId)
        shape).trans ?_
      rcases Persistence.completeIfAccountDurableTotal_eq_ok outcome with
        ⟨rfl, _⟩ | ⟨run, found, _, _, written⟩
      · rfl
      · obtain ⟨_, rfl⟩ := Table.find?_eq_some.mp found
        exact completion_counters found written runId

theorem Watches.keep {watch : Watch} {session after : Session}
    (watched : Watches watch session)
    (transcript : after.transcript = session.transcript)
    (run : after.run = session.run)
    (counted : ∀ runId, session.run = some runId →
      counters after.database runId = counters session.database runId) :
    Watches watch after where
  transcript := transcript.trans watched.transcript
  tally := by
    intro tally certain
    obtain ⟨here, counts⟩ := watched.tally tally certain
    exact ⟨run.trans here, (counted _ here).trans counts⟩

theorem Watches.uncertain {watch : Watch} {session after : Session}
    (watched : Watches watch session)
    (transcript : after.transcript = session.transcript) :
    Watches watch.uncertain after where
  transcript := transcript.trans watched.transcript
  tally := nofun

theorem Watches.counted {watch : Watch} {session after : Session}
    {runId : UUID} {acquisition : Acquisition}
    (watched : Watches watch session)
    (transcript : after.transcript = session.transcript)
    (run : after.run = session.run)
    (counts : ∀ committed available, session.run = some runId →
      counters session.database runId = some (committed, available) →
      counters after.database runId =
        some (((⟨runId, committed, available⟩ : Tally).add
          acquisition).committed,
          ((⟨runId, committed, available⟩ : Tally).add
          acquisition).available)) :
    Watches (watch.counted runId acquisition) after where
  transcript := transcript.trans watched.transcript
  tally := by
    intro tally certain
    obtain ⟨before, found, added⟩ := Option.bind_eq_some_iff.mp certain
    split at added
    · rename_i owner
      subst owner
      obtain ⟨here, counted⟩ := watched.tally before found
      cases added
      have same : (before.add acquisition).runId = before.runId := by
        cases acquisition <;> rfl
      rw [same]
      exact ⟨run.trans here, counts _ _ here counted⟩
    · cases added

theorem responds_watched {watch : Watch} {session after : Session}
    {request : EngineCall} {reply : Except CollectorFault (EngineReply request)}
    (watched : Watches watch session)
    (responded : Responds session request reply after) :
    watch.assumes request reply ∧
      Watches (watch.advance request reply) after := by
  obtain ⟨⟨current, others, answered⟩, effect⟩ := responded
  have quiet : World.writesRuns (.engine request) = false → ∀ runId,
      session.run = some runId →
        counters after.database runId = counters session.database runId :=
    fun quiet runId here =>
      (answers_quiet quiet answered runId).trans (others runId here)
  cases request with
  | record position event =>
      obtain ⟨rfl, run, transcript⟩ := effect
      refine ⟨rfl, ?_, ?_⟩
      · rw [transcript, watched.transcript, record_take]
        rfl
      · intro tally certain
        obtain ⟨here, counts⟩ := watched.tally tally certain
        exact ⟨run.trans here, (quiet rfl _ here).trans counts⟩
  | createRun accountId trigger targetCount =>
      cases reply with
      | error fault => exact ⟨trivial, watched.uncertain effect.2⟩
      | ok runId =>
          refine ⟨trivial, effect.2.trans watched.transcript, ?_⟩
          intro tally certain
          cases certain
          exact ⟨effect.1, createRun_counters answered⟩
  | commitSource runId candidate source objectKey =>
      cases reply with
      | error fault => exact ⟨trivial, watched.uncertain effect.2⟩
      | ok _ =>
          refine ⟨trivial, watched.counted effect.2 effect.1 ?_⟩
          intro committed available here counts
          exact commitSource_counters answered ((others _ here).trans counts)
  | commitAvailable runId candidate =>
      cases reply with
      | error fault => exact ⟨trivial, watched.uncertain effect.2⟩
      | ok _ =>
          refine ⟨trivial, watched.counted effect.2 effect.1 ?_⟩
          intro committed available here counts
          exact commitAvailable_counters answered
            ((others _ here).trans counts)
  | recordFailure runId candidate reasonCode downloadAttempted =>
      exact ⟨trivial, watched.uncertain effect.2⟩
  | failRun runId reasonCode => exact ⟨trivial, watched.uncertain effect.2⟩
  | cancelRun runId reasonCode => exact ⟨trivial, watched.uncertain effect.2⟩
  | completeRun completed =>
      refine ⟨trivial, watched.keep effect.2 effect.1 fun runId here => ?_⟩
      exact (completeRun_counters answered runId).trans (others runId here)
  | completeIfAccountDurableTotal completed desiredTotal =>
      refine ⟨trivial, watched.keep effect.2 effect.1 fun runId here => ?_⟩
      exact (completeTotal_counters answered runId).trans (others runId here)
  | summary runId =>
      refine ⟨?_, watched.keep effect.2 effect.1 (quiet rfl)⟩
      cases reply with
      | error fault => trivial
      | ok counted =>
          obtain ⟨committed, available, failed, status⟩ := counted
          intro tally certain owner
          subst owner
          obtain ⟨here, counts⟩ := watched.tally tally certain
          have read := summary_counters answered
          rw [others _ here, counts] at read
          cases read
          exact ⟨rfl, rfl⟩
  | _ => exact ⟨trivial, watched.keep effect.2 effect.1 (quiet rfl)⟩

/-- A completed collection, from a database in which a claimed run has acquired
nothing yet. -/
structure Collected (engine : CollectorEngine) (request : CollectRequest)
    (database : Database) (summary : CollectorSummary)
    (session : Session) : Prop where
  fresh : ∀ runId, request.claimedRunId = some runId →
    counters database runId = some (0, 0)
  plays : (engine.collect request).Plays Responds
    ⟨database, [], request.claimedRunId⟩ (.ok summary) session
  completed : summary.status = .completed

/-- The walk behind the transcript of a completed collection. -/
structure WalkOf (engine : CollectorEngine) (request : CollectRequest)
    (summary : CollectorSummary) (session : Session) (walk : Walk) : Prop where
  accepted : CollectorEngine.argumentsAccepted engine.limits request = true
  transcript : session.transcript = walk.transcript.take 256
  saw : ∃ watch, Saw engine request summary.runId walk watch
  counted : counters session.database summary.runId = some
    (walk.acquisitions.count .committed, walk.acquisitions.count .available)
  observations : summary.observations = walk.passes.length + 1
  reaches : request.targetCount ≤
    (tallyOf summary.runId walk.acquisitions).total

theorem Collected.walk {engine : CollectorEngine} {request : CollectRequest}
    {database : Database} {summary : CollectorSummary} {session : Session}
    (collected : Collected engine request database summary session)
    (cooling : engine.limits.cooldownSeconds ≠ 0) :
    ∃ walk, WalkOf engine request summary session walk := by
  have started : Watches (Watch.initial request.claimedRunId)
      ⟨database, [], request.claimedRunId⟩ := by
    refine ⟨rfl, fun tally certain => ?_⟩
    obtain ⟨runId, claimed, rfl⟩ := Option.map_eq_some_iff.mp certain
    exact ⟨claimed, collected.fresh runId claimed⟩
  have answers : ∀ watch session call reply after, Watches watch session →
      protocol.permits watch call → Responds session call reply after →
      protocol.assumes watch call reply ∧
        Watches (protocol.advance watch call reply) after :=
    fun _ _ _ _ _ watched _ responded => responds_watched watched responded
  obtain ⟨watch, returned, watched⟩ := Follows.plays answers
    (collect_returns request cooling) started collected.plays
  obtain ⟨accepted, completes⟩ := returned
  obtain ⟨walk, saw, _, observations, reaches⟩ := completes collected.completed
  refine ⟨walk, accepted, ?_, ⟨watch, saw⟩, ?_, observations, reaches⟩
  · rw [watched.transcript, saw.recordings]
  · exact (watched.tally _ saw.tally).2

theorem byGesture_iff {engine : CollectorEngine} {walk : Walk}
    (moves : ∀ pass ∈ walk.passes,
      (pass.move = .feedSource ↔ engine.authenticatedFeed = true)) :
    walk.ByGesture ↔ engine.authenticatedFeed = false ∨ walk.passes = [] := by
  constructor
  · intro gestures
    cases shape : walk.passes with
    | nil => exact Or.inr rfl
    | cons pass later =>
        have member : pass ∈ walk.passes := by simp [shape]
        left
        rw [← Bool.not_eq_true]
        exact fun authenticated =>
          gestures pass member ((moves pass member).mpr authenticated)
  · intro condition pass member source
    rcases condition with gestures | empty
    · rw [(moves pass member).mp source] at gestures
      cases gestures
    · rw [empty] at member
      cases member

section

variable {runtime : CollectorRuntimeSettings} {engine : CollectorEngine}
variable {request : CollectRequest} {summary : CollectorSummary}
variable {session : Session} {walk : Walk}
variable (walked : WalkOf engine request summary session walk)

include walked

theorem WalkOf.stage3B
    (three : request.targetCount = STAGE_3B_TARGET)
    (unlimited : request.desiredAccountTotal = none)
    (sources : counters session.database summary.runId = some (3, 0)) :
    session.transcript = walk.transcript ∧ walk.passes.length = 2 ∧
      (∀ pass ∈ walk.passes, pass.acquisition = .committed) ∧
      walk.last = .committed := by
  obtain ⟨watch, saw⟩ := walked.saw
  have unskipped := saw.unskipped unlimited
  have length : walk.acquisitions.length = walk.passes.length + 1 := by
    simp [Walk.acquisitions]
  have earlier : .skipped ∉ walk.passes.map (·.acquisition) := by
    intro member
    exact unskipped (List.mem_append_left _ member)
  have reaches := walked.reaches
  rw [three, total_of_unskipped _ unskipped, length] at reaches
  have short := saw.short
  rw [three, total_of_unskipped _ earlier, List.length_map] at short
  have two : walk.passes.length = 2 := by
    simp only [STAGE_3B_TARGET] at reaches short
    omega
  have counted := walked.counted
  rw [sources] at counted
  have all : walk.acquisitions.count .committed =
      walk.acquisitions.length := by
    have three : 3 = walk.acquisitions.count .committed :=
      congrArg (fun counts => (counts.getD (0, 0)).1) counted
    omega
  have committed := List.count_eq_length.mp all
  refine ⟨?_, two, ?_, ?_⟩
  · rw [walked.transcript]
    refine List.take_of_length_le (walk.length_transcript.trans ?_)
    have bound := List.count_le_length (a := Acquisition.committed)
      (l := walk.passes.map (·.acquisition))
    rw [List.length_map] at bound
    omega
  · intro pass member
    refine (committed pass.acquisition ?_).symm
    exact List.mem_append_left _ (List.mem_map_of_mem member)
  · refine (committed walk.last ?_).symm
    exact List.mem_append_right _ List.mem_cons_self

theorem WalkOf.stage3C1 (limits : engine.limits = stage3C1Limits runtime) :
    session.transcript = walk.transcript := by
  obtain ⟨watch, saw⟩ := walked.saw
  have passes := saw.limited STAGE_3C1_MAX_OBSERVATIONS (by rw [limits]; rfl)
  have target := (accepted_target walked.accepted).2
  rw [limits] at target
  have short := saw.short
  simp only [Tally.total, tallyOf] at short
  rw [walked.transcript]
  refine List.take_of_length_le (walk.length_transcript.trans ?_)
  simp only [STAGE_3C1_MAX_OBSERVATIONS, stage3C1Limits,
    STAGE_3C1_DESIRED_TOTAL] at passes target
  omega

end

theorem cooldown_ne_zero (runtime : CollectorRuntimeSettings) :
    max runtime.cooldownSeconds minimumCooldown ≠ 0 := by
  unfold minimumCooldown
  omega

/-- Both acceptors take the transcripts of feeds that are moved by gestures,
and refuse those of an authenticated feed that has moved at all. -/
theorem transcripts_accepted_iff (runtime : CollectorRuntimeSettings)
    (engine : CollectorEngine) (request : CollectRequest)
    (database : Database) (summary : CollectorSummary) (session : Session)
    (collected : Collected engine request database summary session) :
    (engine.limits = stage3BLimits runtime →
      request.targetCount = STAGE_3B_TARGET →
      request.desiredAccountTotal = none →
      counters session.database summary.runId = some (3, 0) →
      (validateEventTranscript session.transcript .completed 3 = true ↔
        engine.authenticatedFeed = false)) ∧
    (engine.limits = stage3C1Limits runtime →
      ∀ finalPosition, finalPosition = summary.observations →
      (validateStage3C1Transcript session.transcript .completed
          (some finalPosition) = true ↔
        engine.authenticatedFeed = false ∨ finalPosition = 1)) := by
  constructor
  · intro limits three unlimited sources
    have cooling : engine.limits.cooldownSeconds ≠ 0 := by
      rw [limits]
      exact cooldown_ne_zero runtime
    obtain ⟨walk, walked⟩ := collected.walk cooling
    obtain ⟨transcript, two, committed, last⟩ :=
      walked.stage3B three unlimited sources
    obtain ⟨_, saw⟩ := walked.saw
    rw [transcript, Walk.validateStage3B two committed last,
      byGesture_iff saw.moves]
    have moved : walk.passes ≠ [] := by
      intro empty
      rw [empty] at two
      cases two
    exact or_iff_left moved
  · intro limits finalPosition observed
    have cooling : engine.limits.cooldownSeconds ≠ 0 := by
      rw [limits]
      exact cooldown_ne_zero runtime
    obtain ⟨walk, walked⟩ := collected.walk cooling
    obtain ⟨_, saw⟩ := walked.saw
    rw [observed, walked.observations, walked.stage3C1 limits,
      Walk.validateStage3C1, byGesture_iff saw.moves, Nat.add_eq_right,
      List.length_eq_zero_iff]

def candidateA : ReelCandidate := ⟨"A", "https://www.instagram.com/reel/A/"⟩

def candidateB : ReelCandidate := ⟨"B", "https://www.instagram.com/reel/B/"⟩

def candidateC : ReelCandidate := ⟨"C", "https://www.instagram.com/reel/C/"⟩

def following (shortcode : String) : Option ReelCandidate :=
  if shortcode = "A" then some candidateB
  else if shortcode = "B" then some candidateC
  else none

def sampleDraw (database : Database) : Draw where
  now := 1
  runId := 1
  ids := ⟨database.items.rows.length, database.items.rows.length,
    database.items.rows.length⟩

def samplePort : (request : EngineCall) →
    Except CollectorFault (EngineReply request)
  | .current => .ok candidateA
  | .nextFromAuthenticatedFeed shortcode _ => .ok (following shortcode)
  | .waitForNext shortcode _ => .ok (following shortcode)
  | .validate _ => .ok ⟨sha256 [1], 1, "video/mp4"⟩
  | .temporaryPath shortcode => .ok ⟨0, shortcode⟩
  | .publish _ objectKey => .ok ⟨objectKey, true⟩
  | .clock => .ok 0
  | .pauseCurrent => .ok ()
  | .advance => .ok ()
  | .close => .ok ()
  | .download _ _ => .ok ()
  | .delete _ => .ok ()
  | .cleanupTemporary _ => .ok ()
  | .sleep _ => .ok ()
  | .record _ _ => .ok ()
  | .recordEvent _ => .ok ()
  | _ => .error .otherException

def sampleWorld (database : Database) : World where
  database := database
  objects := fun _ => none
  files := fun _ => none

def respond (session : Session) (request : EngineCall) :
    Except CollectorFault (EngineReply request) × Session :=
  if isPersistence request then
    let performed := (sampleWorld session.database).effect
      (sampleDraw session.database) (.engine request)
    (performed.2, { session with
      database := performed.1.database
      run := match request, performed.2 with
        | .createRun _ _ _, .ok runId => some runId
        | _, _ => session.run })
  else
    (samplePort request, { session with
      transcript := match request with
        | .record position event =>
            SafeEventTranscript.record session.transcript position event
        | _ => session.transcript })

def sampleDatabase : Database :=
  { Database.empty with accounts := ⟨[connectedAccount], List.nodup_singleton _⟩ }

def sampleRuntime : CollectorRuntimeSettings := ⟨0, 100, 1000, 500000, 60000000⟩

def sampleEngine (limits : CollectorLimits) (authenticatedFeed : Bool) :
    CollectorEngine where
  limits := limits
  authenticatedFeed := authenticatedFeed
  cancellationProbe := true

def sampleRequest (targetCount : Nat) : CollectRequest where
  accountId := 1
  trigger := .manual
  targetCount := targetCount
  desiredAccountTotal := none
  claimedRunId := none

def sampleSession : Session := ⟨sampleDatabase, [], none⟩

theorem sample_answers (database : Database) {request : EngineCall}
    (persistent : isPersistence request = true) :
    Answers database request
      ((sampleWorld database).effect (sampleDraw database)
        (.engine request)).2
      ((sampleWorld database).effect (sampleDraw database)
        (.engine request)).1.database := by
  rw [Answers, if_pos persistent]
  exact ⟨sampleWorld database, .returns (sampleDraw database), _, rfl, rfl,
    rfl⟩

theorem responds_respond (session : Session) (request : EngineCall) :
    Responds session request (respond session request).1
      (respond session request).2 := by
  have same : ∀ runId, session.run = some runId →
      counters session.database runId = counters session.database runId :=
    fun _ _ => rfl
  cases request with
  | createRun accountId trigger targetCount =>
      refine ⟨⟨session.database, same, sample_answers _ rfl⟩, ?_⟩
      cases created : (respond session
          (.createRun accountId trigger targetCount)).1 with
      | ok runId =>
          refine ⟨?_, rfl⟩
          simp only [respond, isPersistence, if_true] at created ⊢
          rw [created]
      | error fault =>
          refine ⟨?_, rfl⟩
          simp only [respond, isPersistence, if_true] at created ⊢
          rw [created]
  | record position event =>
      exact ⟨⟨session.database, same, rfl⟩, rfl, rfl, rfl⟩
  | _ => first
      | exact ⟨⟨session.database, same, sample_answers _ rfl⟩, rfl, rfl⟩
      | exact ⟨⟨session.database, same, rfl⟩, rfl, rfl⟩

def played (limits : CollectorLimits) (authenticatedFeed : Bool) :
    Except CollectorFault CollectorSummary × Session :=
  ((sampleEngine limits authenticatedFeed).collect (sampleRequest 3)).play
    respond sampleSession

def sampleSummary : CollectorSummary where
  runId := 1
  status := .completed
  targetCount := 3
  sourceCommittedCount := 3
  alreadyAvailableCount := 0
  failedCount := 0
  confirmedAdvances := 2
  stopReasonCode := none
  observations := 3
  duplicateSkippedCount := 0

theorem played_collected (limits : CollectorLimits) (authenticatedFeed : Bool)
    (returned : (played limits authenticatedFeed).1 = .ok sampleSummary) :
    Collected (sampleEngine limits authenticatedFeed) (sampleRequest 3)
      sampleDatabase sampleSummary (played limits authenticatedFeed).2 where
  fresh := nofun
  plays := by
    have plays := plays_play responds_respond
      ((sampleEngine limits authenticatedFeed).collect (sampleRequest 3))
      sampleSession
    rw [show ((sampleEngine limits authenticatedFeed).collect
      (sampleRequest 3)).play respond sampleSession =
        played limits authenticatedFeed from rfl, returned] at plays
    exact plays
  completed := rfl

/-- An authenticated feed under the limits of stage 3B: three new Reels are
committed, the run completes, and its transcript is refused. -/
theorem authenticated_transcript_refused :
    ¬ ∀ runtime engine request database summary session,
      Collected engine request database summary session →
      engine.limits = stage3BLimits runtime →
      request.targetCount = STAGE_3B_TARGET →
      request.desiredAccountTotal = none →
      counters session.database summary.runId = some (3, 0) →
      validateEventTranscript session.transcript .completed 3 = true := by
  intro accepted
  have refused := accepted sampleRuntime _ _ _ _ _
    (played_collected (stage3BLimits sampleRuntime) true (by decide +kernel))
    rfl rfl rfl (by decide +kernel)
  revert refused
  decide +kernel

theorem transcripts_accepted_by_gesture :
    validateEventTranscript
        (played (stage3BLimits sampleRuntime) false).2.transcript
        .completed 3 = true ∧
      validateStage3C1Transcript
        (played (stage3C1Limits sampleRuntime) false).2.transcript
        .completed (some 3) = true := by
  constructor
  · exact ((transcripts_accepted_iff sampleRuntime _ _ _ _ _
      (played_collected (stage3BLimits sampleRuntime) false
        (by decide +kernel))).1 rfl rfl rfl
        (by decide +kernel)).mpr rfl
  · exact ((transcripts_accepted_iff sampleRuntime _ _ _ _ _
      (played_collected (stage3C1Limits sampleRuntime) false
        (by decide +kernel))).2 rfl 3 rfl).mpr (Or.inl rfl)

end OfflineReels.Collector.TranscriptAcceptance
