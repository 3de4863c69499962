import OfflineReels.Collector.CollectRules
import OfflineReels.Collector.World
import OfflineReels.Foundation.Obligation

namespace OfflineReels.Collector.Compensation

open OfflineReels.Foundation
open OfflineReels.Foundation.Program
open OfflineReels.Instagram
open OfflineReels.Collector.CollectorEngine

/-! What one collection, alone on the database, leaves of the objects that it
published and of its temporary files. -/

abbrev PortEvent : Type := Event EngineCall EngineReply CollectorFault

structure Situation where
  database : Database
  history : List PortEvent

/-- The calls that the database decides.  The probe for a cancellation is not
among them: it may find one at any time. -/
def isStored : EngineCall → Bool
  | .cancellationRequested _ => false
  | request => isPersistence request

def isCommitSource : EngineCall → Bool
  | .commitSource _ _ _ _ => true
  | _ => false

def worldOf (database : Database) : World :=
  ⟨database, fun _ => none, fun _ => none⟩

/-- The database takes the call; its transaction returns, or raises and is
rolled back. -/
def Takes (database : Database) (request : EngineCall)
    (reply : Except CollectorFault (EngineReply request))
    (after : Database) : Prop :=
  ∃ draw, ((worldOf database).engineEffect draw request).1.database = after ∧
    ((worldOf database).engineEffect draw request).2 = reply

/-- The call raises without its effect.  Only a commit of a source never raises
once it took effect. -/
def Refuses (database : Database) (request : EngineCall)
    (reply : Except CollectorFault (EngineReply request))
    (after : Database) : Prop :=
  (∃ fault, reply = .error fault) ∧
    (after = database ∨ isCommitSource request = false ∧
      ∃ lost, Takes database request lost after)

/-- A storage publishes an object under the key it was given. -/
def isNamed : PortEvent → Bool
  | ⟨.publish _ objectKey, .ok published⟩ => published.objectKey = objectKey
  | _ => true

/-- Answers of the ports, with any fault. -/
structure Answers (before : Situation) (request : EngineCall)
    (reply : Except CollectorFault (EngineReply request))
    (after : Situation) : Prop where
  recorded : after.history = before.history ++ [⟨request, reply⟩]
  named : isNamed ⟨request, reply⟩ = true
  stored : isStored request = true →
    Takes before.database request reply after.database ∨
      Refuses before.database request reply after.database
  apart : isStored request = false → after.database = before.database

def Holds (database : Database) (objectKey : SourceObjectKey) : Prop :=
  ∃ reel, Persistence.reelByShortcode database objectKey.shortcode =
      some reel ∧
    reel.pipelineStatus = .sourceReady ∧
    reel.sourceObjectKey = some objectKey

section

variable {database after : Database} {objectKey : SourceObjectKey}

theorem Holds.of_reels (holds : Holds database objectKey)
    (same : after.reels = database.reels) : Holds after objectKey := by
  obtain ⟨reel, found, rest⟩ := holds
  refine ⟨reel, ?_, rest⟩
  unfold Persistence.reelByShortcode at found ⊢
  rw [same]
  exact found

theorem Holds.of_put (holds : Holds database objectKey)
    {reel written : InstagramReel}
    (put : after.reels = database.reels.put written)
    (member : reel ∈ database.reels) (sameId : written.id = reel.id)
    (sameShortcode : written.shortcode = reel.shortcode)
    (unready : reel.pipelineStatus ≠ .sourceReady) :
    Holds after objectKey := by
  obtain ⟨held, found, ready, keyed⟩ := holds
  have present := (Persistence.reelByShortcode_eq_some found).1
  have other : held.id ≠ written.id := by
    intro same
    have equal := Table.eq_of_key_eq present member (same.trans sameId)
    exact unready (equal ▸ ready)
  refine ⟨held, ?_, ready, keyed⟩
  unfold Persistence.reelByShortcode at found ⊢
  rw [put, Table.firstWhere_put, found]
  · simp [other]
  · intro row rowMember same
    have equal := Table.eq_of_key_eq rowMember member (same.trans sameId)
    rw [equal, sameShortcode]

theorem Holds.of_discover (holds : Holds database objectKey)
    {now : Time} {reelId : UUID} {candidate : ReelCandidate}
    {reel : InstagramReel}
    (succeeded : Persistence.discover database now reelId candidate =
      .ok (after, reel)) :
    Holds after objectKey ∧ reel ∈ after.reels ∧
      reel.shortcode = candidate.shortcode := by
  rcases Persistence.discover_eq_ok succeeded with
    ⟨rfl, member, named⟩ | ⟨rfl, _, reels, shape, rfl⟩
  · exact ⟨holds, member, named⟩
  · refine ⟨?_, (Table.mem_insert? shape).mpr (.inr rfl), rfl⟩
    obtain ⟨held, found, rest⟩ := holds
    refine ⟨held, ?_, rest⟩
    unfold Persistence.reelByShortcode at found ⊢
    rw [(Table.insert?_eq_some shape).2, List.find?_append, found]
    rfl

theorem discover_first {now : Time} {reelId : UUID}
    {candidate : ReelCandidate} {reel : InstagramReel}
    (succeeded : Persistence.discover database now reelId candidate =
      .ok (after, reel)) :
    Persistence.reelByShortcode after candidate.shortcode = some reel := by
  unfold Persistence.discover at succeeded
  split at succeeded
  · rename_i found shape
    cases succeeded
    exact shape
  · rename_i missing
    obtain ⟨next, inserted, shape⟩ := map_eq_ok succeeded
    cases shape
    obtain ⟨reels, rows, _, _, rfl⟩ := Database.insertReel_eq_ok inserted
    unfold Persistence.reelByShortcode at missing ⊢
    rw [(Table.insert?_eq_some rows).2, List.find?_append, missing]
    simp [Persistence.discoveredReel]

theorem commitSource_keeps (holds : Holds database objectKey) {now : Time}
    {ids : NewIdentifiers} {runId : UUID} {candidate : ReelCandidate}
    {source : ValidatedSource} {committed : SourceObjectKey}
    (succeeded : Persistence.commitSource database now ids runId candidate
      source committed = .ok after) : Holds after objectKey := by
  obtain ⟨discovered, reel, written, jobs, found, accepts, rfl, _, _, _,
    added⟩ := Persistence.commitSource_eq_ok succeeded
  obtain ⟨kept, member, _⟩ := holds.of_discover found
  have unready : reel.pipelineStatus ≠ .sourceReady := by
    intro ready
    rw [ready] at accepts
    cases accepts
  exact kept.of_put added.reels member rfl rfl unready

theorem commitSource_holds {now : Time} {ids : NewIdentifiers} {runId : UUID}
    {candidate : ReelCandidate} {source : ValidatedSource}
    (succeeded : Persistence.commitSource database now ids runId candidate
      source ⟨candidate.shortcode⟩ = .ok after) :
    Holds after ⟨candidate.shortcode⟩ := by
  obtain ⟨discovered, reel, written, jobs, found, _, rfl, _, _, _, added⟩ :=
    Persistence.commitSource_eq_ok succeeded
  have first := discover_first found
  refine ⟨Persistence.withSource reel now source ⟨candidate.shortcode⟩, ?_,
    rfl, rfl⟩
  unfold Persistence.reelByShortcode at first ⊢
  rw [added.reels, Table.firstWhere_put, first]
  · simp [Persistence.withSource]
  · intro row rowMember same
    have equal := Table.eq_of_key_eq rowMember
      (List.mem_of_find?_eq_some first) same
    rw [equal]
    rfl

theorem recordFailure_holds (holds : Holds database objectKey) {now : Time}
    {ids : NewIdentifiers} {runId : UUID} {candidate : ReelCandidate}
    {reasonCode : String} {downloadAttempted : Bool}
    (succeeded : Persistence.recordFailure database now ids runId candidate
      reasonCode downloadAttempted = .ok after) : Holds after objectKey := by
  obtain ⟨discovered, reel, written, found, outcome, added⟩ :=
    Persistence.recordFailure_eq_ok succeeded
  obtain ⟨kept, member, _⟩ := holds.of_discover found
  rcases outcome with ⟨unfinished, rfl⟩ | ⟨_, _, rfl⟩
  · have unready : reel.pipelineStatus ≠ .sourceReady := by
      intro ready
      rw [ready] at unfinished
      rcases unfinished with clash | clash <;> cases clash
    exact kept.of_put added.reels member rfl rfl unready
  · exact kept.of_reels added.reels

theorem writeRun_reels {run : InstagramCollectionRun}
    (written : database.writeRun run = .ok after) :
    after.reels = database.reels := by
  obtain ⟨_, _, rfl⟩ := Database.writeRun_eq_ok written
  rfl

end

section

variable {objectKey : SourceObjectKey} {world : World}

theorem transaction_holds {ε α : Type} (holds : Holds world.database objectKey)
    {outcome : Except ε (Database × α)}
    (kept : ∀ database value, outcome = .ok (database, value) →
      Holds database objectKey) :
    Holds (world.transaction outcome).1.database objectKey := by
  rcases world.transaction_cases outcome with
    ⟨_, shape⟩ | ⟨database, value, succeeded, shape⟩
  · rw [shape]
    exact holds
  · rw [shape]
    exact kept database value succeeded

theorem commit_holds {ε : Type} (holds : Holds world.database objectKey)
    {outcome : Except ε Database}
    (kept : ∀ database, outcome = .ok database → Holds database objectKey) :
    Holds (world.commit outcome).1.database objectKey := by
  apply transaction_holds holds
  intro database value succeeded
  obtain ⟨written, outcome, shape⟩ := map_eq_ok succeeded
  cases shape
  exact kept database outcome

theorem engineEffect_holds (holds : Holds world.database objectKey)
    (draw : Draw) (request : EngineCall) :
    Holds (world.engineEffect draw request).1.database objectKey := by
  cases request with
  | createRun accountId trigger targetCount =>
      apply transaction_holds holds
      intro database value succeeded
      obtain ⟨written, created, shape⟩ := map_eq_ok succeeded
      cases shape
      unfold Persistence.createRun at created
      split at created
      · cases created
      · obtain ⟨_, _, _, _, rfl⟩ := Database.insertRun_eq_ok created
        exact holds.of_reels rfl
  | commitAvailable runId candidate =>
      apply commit_holds holds
      intro database succeeded
      obtain ⟨_, _, _, added⟩ := Persistence.commitAvailable_eq_ok succeeded
      exact holds.of_reels added.reels
  | commitSource runId candidate source committed =>
      apply commit_holds holds
      intro database succeeded
      exact commitSource_keeps holds succeeded
  | recordFailure runId candidate reasonCode downloadAttempted =>
      apply commit_holds holds
      intro database succeeded
      exact recordFailure_holds holds succeeded
  | summary runId =>
      apply transaction_holds holds
      intro database value succeeded
      obtain ⟨_, _, shape⟩ := map_eq_ok succeeded
      cases shape
      exact holds
  | completeRun runId =>
      apply commit_holds holds
      intro database succeeded
      rcases Persistence.completeRun_eq_ok succeeded with
        rfl | ⟨_, _, written⟩
      · exact holds
      · exact holds.of_reels (writeRun_reels written)
  | completeIfAccountDurableTotal runId desiredTotal =>
      apply transaction_holds holds
      intro database value succeeded
      rcases Persistence.completeIfAccountDurableTotal_eq_ok succeeded with
        ⟨rfl, _⟩ | ⟨_, _, _, _, written⟩
      · exact holds
      · exact holds.of_reels (writeRun_reels written)
  | failRun runId reasonCode =>
      apply commit_holds holds
      intro database succeeded
      rcases Persistence.failRun_eq_ok succeeded with
        rfl | ⟨_, _, _, written⟩
      · exact holds
      · exact holds.of_reels (writeRun_reels written)
  | cancelRun runId reasonCode =>
      apply transaction_holds holds
      intro database value succeeded
      rcases Persistence.cancelRun_eq_ok succeeded with
        rfl | ⟨_, _, _, written⟩
      · exact holds
      · exact holds.of_reels (writeRun_reels written)
  | validate path =>
      simp only [World.engineEffect]
      split <;> exact holds
  | _ => exact holds

theorem Takes.holds {database after : Database} {request : EngineCall}
    {reply : Except CollectorFault (EngineReply request)}
    (taken : Takes database request reply after)
    (holds : Holds database objectKey) : Holds after objectKey := by
  obtain ⟨draw, rfl, _⟩ := taken
  have held : Holds (worldOf database).database objectKey := holds
  exact engineEffect_holds held draw request

theorem Takes.commits {database after : Database} {runId : UUID}
    {candidate : ReelCandidate} {source : ValidatedSource}
    (taken : Takes database
      (.commitSource runId candidate source ⟨candidate.shortcode⟩) (.ok ())
      after) : Holds after ⟨candidate.shortcode⟩ := by
  obtain ⟨draw, rfl, answered⟩ := taken
  exact commitSource_holds (World.commit_eq_ok answered)

theorem Takes.reads {database after : Database} {shortcode : String}
    {status : Option ReelPipelineStatus}
    (taken : Takes database (.reelStatus shortcode) (.ok status) after) :
    status = Persistence.reelStatus database shortcode := by
  obtain ⟨draw, _, answered⟩ := taken
  cases answered
  rfl

theorem Answers.holds {before after : Situation} {request : EngineCall}
    {reply : Except CollectorFault (EngineReply request)}
    (answers : Answers before request reply after)
    (holds : Holds before.database objectKey) :
    Holds after.database objectKey := by
  cases stored : isStored request with
  | false =>
      rw [answers.apart stored]
      exact holds
  | true =>
      rcases answers.stored stored with taken | ⟨_, kept | ⟨_, _, taken⟩⟩
      · exact taken.holds holds
      · rw [kept]
        exact holds
      · exact taken.holds holds

end

def hands : PortEvent → Option TemporaryPath
  | ⟨.temporaryPath _, .ok path⟩ => some path
  | _ => none

def cleans (path : TemporaryPath) : PortEvent → Bool
  | ⟨.cleanupTemporary cleaned, _⟩ => cleaned = path
  | _ => false

/-- The object that a publication reports as its own creation. -/
def creates : PortEvent → Option SourceObjectKey
  | ⟨.publish _ _, .ok ⟨objectKey, true⟩⟩ => some objectKey
  | _ => none

def commits (objectKey : SourceObjectKey) : PortEvent → Bool
  | ⟨.commitSource _ _ _ committed, .ok _⟩ => committed = objectKey
  | _ => false

def deletes : PortEvent → Option SourceObjectKey
  | ⟨.delete objectKey, _⟩ => some objectKey
  | _ => none

/-- A fault that is neither an `Exception` nor a `KeyboardInterrupt`. -/
def aborts : PortEvent → Bool
  | ⟨_, .error .baseException⟩ => true
  | _ => false

def resolves (objectKey : SourceObjectKey) (event : PortEvent) : Bool :=
  commits objectKey event || deletes event = some objectKey || aborts event

def Referenced (database : Database) (objectKey : SourceObjectKey) : Prop :=
  ∃ reel ∈ database.reels, reel.pipelineStatus = .sourceReady ∧
    reel.sourceObjectKey = some objectKey

/-- Every created object is referenced or was deleted later, unless it was never
committed and a later event excuses that. -/
structure Compensated (excuses : PortEvent → Bool) (after : Situation) :
    Prop where
  objects : ∀ before event later objectKey,
    after.history = before ++ event :: later →
    creates event = some objectKey → Referenced after.database objectKey ∨
      (∃ other ∈ later, deletes other = some objectKey) ∨
      ∃ other ∈ later, excuses other = true ∧
        ∀ event ∈ after.history, commits objectKey event = false
  deletions : ∀ before event later objectKey,
    after.history = before ++ event :: later →
    deletes event = some objectKey →
      (∃ other ∈ before, creates other = some objectKey) ∧
        ∀ other ∈ after.history, commits objectKey other = false
  files : ∀ before event later path,
    after.history = before ++ event :: later →
    hands event = some path → ∃ other ∈ later, cleans path other = true

def Committed (history : List PortEvent) (objectKey : SourceObjectKey) :
    Prop :=
  ∃ event ∈ history, commits objectKey event = true

def Undeleted (history : List PortEvent) : Prop :=
  ∀ event ∈ history, deletes event = none

def Tells (history : List PortEvent) : PortEvent → Prop
  | ⟨.reelStatus shortcode, .ok status⟩ =>
      Committed history ⟨shortcode⟩ → status = some .sourceReady
  | _ => True

def Permits (history : List PortEvent) : EngineCall → Prop
  | .delete objectKey =>
      (∃ event ∈ history, creates event = some objectKey) ∧
        ¬ Committed history objectKey
  | .commitSource _ candidate _ objectKey =>
      objectKey = ⟨candidate.shortcode⟩ ∧ Undeleted history
  | _ => True

def compensating :
    Protocol EngineCall EngineReply CollectorFault (List PortEvent) where
  permits := Permits
  assumes := fun history request reply =>
    isNamed ⟨request, reply⟩ = true ∧ Tells history ⟨request, reply⟩
  advance := fun history request reply => history ++ [⟨request, reply⟩]

def Relieved (history : List PortEvent) : Prop :=
  ∀ objectKey, ¬ Owed creates resolves history objectKey

structure Quit (history : List PortEvent) : Prop where
  objects : Relieved history
  files : ∀ path, ¬ Owed hands cleans history path

structure Running (history : List PortEvent) : Prop where
  quit : Quit history
  undeleted : Undeleted history

/-- A temporary file is handed out, and at most one object is owed. -/
structure Handling (temporary : TemporaryPath) (candidate : ReelCandidate)
    (owed : Option SourceObjectKey) (committed : Bool)
    (history : List PortEvent) : Prop where
  owes : ∀ objectKey, Owed creates resolves history objectKey →
    owed = some objectKey
  handed : ∀ path, Owed hands cleans history path → path = temporary
  undeleted : Undeleted history
  uncommitted : committed = false →
    ¬ Committed history ⟨candidate.shortcode⟩
  created : ∀ objectKey, owed = some objectKey →
    objectKey = ⟨candidate.shortcode⟩ ∧
      ∃ event ∈ history, creates event = some objectKey

structure Cleaning (temporary : TemporaryPath) (history : List PortEvent) :
    Prop where
  objects : Relieved history
  handed : ∀ path, Owed hands cleans history path → path = temporary

def isCalm : EngineCall → Bool
  | .temporaryPath _ => false
  | .publish _ _ => false
  | .commitSource _ _ _ _ => false
  | .delete _ => false
  | .cleanupTemporary _ => false
  | _ => true

structure Still (event : PortEvent) : Prop where
  hands : hands event = none
  creates : creates event = none
  commits : ∀ objectKey, commits objectKey event = false
  deletes : deletes event = none

theorem still_of_calm {request : EngineCall} (calm : isCalm request = true)
    (reply : Except CollectorFault (EngineReply request)) :
    Still ⟨request, reply⟩ := by
  cases request <;> first
    | exact ⟨rfl, rfl, fun _ => rfl, rfl⟩
    | cases calm

def Stable (holds : List PortEvent → Prop) : Prop :=
  ∀ history event, Still event → holds history → holds (history ++ [event])

section

variable {history : List PortEvent} {event : PortEvent}
variable {temporary : TemporaryPath} {candidate : ReelCandidate}
variable {owed : Option SourceObjectKey} {committed : Bool}

theorem owes_still (still : Still event) {objectKey : SourceObjectKey}
    (owes : Owed creates resolves (history ++ [event]) objectKey) :
    Owed creates resolves history objectKey :=
  owed_of_append still.creates owes

theorem handed_still (still : Still event) {path : TemporaryPath}
    (owes : Owed hands cleans (history ++ [event]) path) :
    Owed hands cleans history path :=
  owed_of_append still.hands owes

theorem relieved_aborted (createsNothing : creates event = none)
    (aborted : aborts event = true) : Relieved (history ++ [event]) := by
  intro objectKey owes
  rcases owed_append.mp owes with clash | ⟨_, still⟩
  · rw [createsNothing] at clash
    cases clash
  · rw [resolves, aborted, Bool.or_true] at still
    cases still

theorem Undeleted.append (undeleted : Undeleted history)
    (keeps : deletes event = none) : Undeleted (history ++ [event]) := by
  intro other member
  rcases List.mem_append.mp member with earlier | latest
  · exact undeleted other earlier
  · rw [List.mem_singleton.mp latest]
    exact keeps

theorem committed_append {objectKey : SourceObjectKey} :
    Committed (history ++ [event]) objectKey ↔
      Committed history objectKey ∨ commits objectKey event = true := by
  unfold Committed
  simp only [List.mem_append, List.mem_singleton]
  constructor
  · intro holds
    obtain ⟨other, earlier | rfl, commits⟩ := holds
    · exact .inl ⟨other, earlier, commits⟩
    · exact .inr commits
  · intro holds
    rcases holds with ⟨other, earlier, commits⟩ | commits
    · exact ⟨other, .inl earlier, commits⟩
    · exact ⟨event, .inr rfl, commits⟩

theorem committed_still (still : Still event)
    {objectKey : SourceObjectKey} :
    Committed (history ++ [event]) objectKey ↔
      Committed history objectKey := by
  rw [committed_append, still.commits]
  simp

theorem relieved_stable : Stable Relieved := by
  intro history event still relieved objectKey owes
  exact relieved objectKey (owes_still still owes)

theorem quit_stable : Stable Quit := by
  intro history event still quit
  constructor
  · exact relieved_stable history event still quit.objects
  · intro path owes
    exact quit.files path (handed_still still owes)

theorem running_stable : Stable Running := by
  intro history event still running
  exact ⟨quit_stable _ _ still running.quit,
    running.undeleted.append still.deletes⟩

theorem handling_stable :
    Stable (Handling temporary candidate owed committed) := by
  intro history event still handling
  constructor
  · intro objectKey owes
    exact handling.owes objectKey (owes_still still owes)
  · intro path owes
    exact handling.handed path (handed_still still owes)
  · exact handling.undeleted.append still.deletes
  · intro pending
    rw [committed_still still]
    exact handling.uncommitted pending
  · intro objectKey same
    obtain ⟨named, other, member, creation⟩ := handling.created objectKey same
    exact ⟨named, other, List.mem_append_left _ member, creation⟩

theorem cleaning_stable : Stable (Cleaning temporary) := by
  intro history event still cleaning
  constructor
  · exact relieved_stable history event still cleaning.objects
  · intro path owes
    exact cleaning.handed path (handed_still still owes)

end

section

variable {α β Locals : Type} {holds : List PortEvent → Prop}
variable {history : List PortEvent}

theorem permits_calm {request : EngineCall} (calm : isCalm request = true)
    (history : List PortEvent) : Permits history request := by
  cases request <;> trivial

theorem calm_steady (stable : Stable holds) {request : EngineCall}
    (calm : isCalm request = true) : Steady compensating holds request := by
  apply leads_perform
  · intro history _
    exact permits_calm calm history
  · intro history reply kept _
    exact stable history _ (still_of_calm calm reply) kept

theorem ordinary_steady (stable : Stable holds) :
    OrdinarySteady compensating holds := by
  intro request ordinary
  apply calm_steady stable
  cases request <;> first
    | rfl
    | cases ordinary

def Calms (program : EngineProgram α) : Prop :=
  ∀ holds, Stable holds → ∀ history, holds history →
    Follows compensating history program fun outcome reached =>
      holds reached ∧ (outcome = .error .baseException → Relieved reached)

theorem calms_pure (value : α) : Calms (pure value : EngineProgram α) := by
  intro holds _ history kept
  refine ⟨kept, ?_⟩
  intro clash
  cases clash

theorem calms_raise {fault : CollectorFault} (soft : fault ≠ .baseException) :
    Calms (raise fault : EngineProgram α) := by
  intro holds _ history kept
  refine ⟨kept, ?_⟩
  intro clash
  cases clash
  exact absurd rfl soft

theorem calms_ask {request : EngineCall} (calm : isCalm request = true) :
    Calms (ask request) := by
  intro holds stable history kept
  refine ⟨permits_calm calm history, fun reply _ => ?_⟩
  have still := still_of_calm calm reply
  refine ⟨stable history _ still kept, ?_⟩
  intro same
  cases same
  exact relieved_aborted still.creates rfl

theorem Calms.attempt {program : EngineProgram α}
    {next : Except CollectorFault α → EngineProgram β} (body : Calms program)
    (passes : next (.error .baseException) = raise .baseException)
    (continues : ∀ outcome, outcome ≠ .error .baseException →
      Calms (next outcome)) : Calms (program.attempt next) := by
  intro holds stable history kept
  apply (body holds stable history kept).attempt
  intro outcome reached held
  by_cases soft : outcome = .error .baseException
  · rw [soft, passes]
    exact ⟨held.1, fun _ => held.2 soft⟩
  · exact continues outcome soft holds stable reached held.1

theorem Calms.bind {program : EngineProgram α} {next : α → EngineProgram β}
    (body : Calms program) (continues : ∀ value, Calms (next value)) :
    Calms (program >>= next) := by
  apply Calms.attempt body
  · rfl
  · intro outcome soft
    cases outcome with
    | ok value => exact continues value
    | error fault =>
        apply calms_raise
        intro clash
        rw [clash] at soft
        exact soft rfl

theorem calms_swallow {statement : EngineProgram Unit}
    (body : Calms statement) : Calms (swallow statement) := by
  apply Calms.attempt body
  · rfl
  · intro outcome soft
    cases outcome with
    | ok value => exact calms_pure value
    | error fault =>
        dsimp only
        split
        · exact calms_pure ()
        · apply calms_raise
          intro clash
          rw [clash] at soft
          exact soft rfl

theorem recorded_calms (position : Nat) (event : EventName) :
    Calms (recorded position event) := by
  have asked : Calms (ask (.record position event)) := calms_ask rfl
  apply Calms.attempt asked
  · rfl
  · intro outcome soft
    cases outcome with
    | ok value => exact calms_pure ()
    | error fault =>
        cases fault with
        | typeError => exact calms_swallow (calms_ask rfl)
        | keyboardInterrupt => exact calms_raise (by decide)
        | baseException => exact absurd rfl soft
        | _ => exact calms_pure ()

theorem requireDeadline_calms (deadline : Option Int) :
    Calms (requireDeadline deadline) := by
  have expired : Calms (deadlineExpired deadline) := by
    cases deadline with
    | none => exact calms_pure false
    | some deadline =>
        have asked : Calms (ask .clock) := calms_ask rfl
        apply asked.bind
        intro now
        exact calms_pure _
  apply expired.bind
  intro late
  cases late with
  | true => exact calms_raise (by decide)
  | false => exact calms_pure ()

theorem raiseIfCancelRequested_calms (engine : CollectorEngine)
    (runId : UUID) : Calms (raiseIfCancelRequested engine runId) := by
  unfold raiseIfCancelRequested
  split
  · have asked : Calms (ask (.cancellationRequested runId)) := calms_ask rfl
    apply asked.bind
    intro requested
    cases requested with
    | true => exact calms_raise (by decide)
    | false => exact calms_pure ()
  · exact calms_pure ()

theorem Calms.before {statement : EngineProgram α} {locals : Locals}
    {next : α → EngineProgram (Except (Interrupted Locals) β)}
    {post : Except CollectorFault (Except (Interrupted Locals) β) →
      List PortEvent → Prop}
    (calms : Calms statement) (stable : Stable holds) (kept : holds history)
    (continues : ∀ value reached, holds reached →
      Follows compensating reached (next value) post)
    (raised : ∀ fault reached, (fault = .baseException → Relieved reached) →
      holds reached → post (.ok (.error ⟨fault, locals⟩)) reached) :
    Follows compensating history (keeping locals statement next) post := by
  apply (calms holds stable history kept).attempt
  intro outcome reached held
  cases outcome with
  | ok value => exact continues value reached held.1
  | error fault =>
      apply raised fault reached _ held.1
      intro same
      exact held.2 (congrArg Except.error same)

end

section

variable {history : List PortEvent} {temporary : TemporaryPath}
variable {engine : CollectorEngine} {runId : UUID} {progress : Progress}

def Attempted (temporary : TemporaryPath) (candidate : ReelCandidate) :
    Except CollectorFault (Except (Interrupted Acquiring) Nat) →
      List PortEvent → Prop
  | .ok (.ok _), reached => Handling temporary candidate none true reached
  | .ok (.error interrupted), reached =>
      (interrupted.fault = .baseException → Relieved reached) ∧
        Handling temporary candidate interrupted.locals.compensated
          interrupted.locals.dbCommitted reached
  | .error _, _ => False

theorem Calms.holding {α : Type} {statement : EngineProgram α}
    {candidate : ReelCandidate} {locals : Acquiring}
    {owed : Option SourceObjectKey} {committed : Bool}
    {next : α → EngineProgram (Except (Interrupted Acquiring) Nat)}
    (calms : Calms statement)
    (handling : Handling temporary candidate owed committed history)
    (continues : ∀ value reached,
      Handling temporary candidate owed committed reached →
      Follows compensating reached (next value)
        (Attempted temporary candidate))
    (same : locals.compensated = owed := by rfl)
    (done : locals.dbCommitted = committed := by rfl) :
    Follows compensating history (keeping locals statement next)
      (Attempted temporary candidate) := by
  apply calms.before handling_stable handling continues
  intro fault reached soft kept
  refine ⟨soft, ?_⟩
  rw [same, done]
  exact kept

def owedBy (published : PublishedSource) : Option SourceObjectKey :=
  if published.createdByAttempt then some published.objectKey else none

theorem publish_fails {path : TemporaryPath} {candidate : ReelCandidate}
    {objectKey : SourceObjectKey} {fault : CollectorFault}
    (handling : Handling temporary candidate none false history) :
    Handling temporary candidate none false
      (history ++ [⟨.publish path objectKey, .error fault⟩]) :=
  handling_stable history _
    ⟨rfl, rfl, fun _ => rfl, rfl⟩ handling

theorem publish_owes (path : TemporaryPath) {candidate : ReelCandidate}
    {published : PublishedSource}
    (handling : Handling temporary candidate none false history)
    (named : published.objectKey = ⟨candidate.shortcode⟩) :
    Handling temporary candidate (owedBy published) false
      (history ++
        [⟨.publish path ⟨candidate.shortcode⟩, .ok published⟩]) := by
  obtain ⟨objectKey, created⟩ := published
  cases created with
  | false =>
      exact handling_stable history _
        ⟨rfl, rfl, fun _ => rfl, rfl⟩ handling
  | true =>
      constructor
      · intro key owes
        rcases owed_append.mp owes with opened | ⟨before, _⟩
        · exact opened
        · cases handling.owes key before
      · intro path owes
        rcases owed_append.mp owes with clash | ⟨before, _⟩
        · cases clash
        · exact handling.handed path before
      · exact handling.undeleted.append rfl
      · intro _ committed
        rcases committed_append.mp committed with before | clash
        · exact handling.uncommitted rfl before
        · cases clash
      · intro key same
        cases same
        exact ⟨named, _, List.mem_append_right _ List.mem_cons_self, rfl⟩

theorem commit_resolves (owner : UUID) (source : ValidatedSource)
    {candidate : ReelCandidate} {owed : Option SourceObjectKey}
    (handling : Handling temporary candidate owed false history) :
    Handling temporary candidate none true (history ++
      [⟨.commitSource owner candidate source ⟨candidate.shortcode⟩,
        .ok ()⟩]) := by
  constructor
  · intro key owes
    rcases owed_append.mp owes with clash | ⟨before, still⟩
    · cases clash
    · obtain ⟨named, _⟩ := handling.created key (handling.owes key before)
      rw [named] at still
      simp [resolves, commits] at still
  · intro path owes
    rcases owed_append.mp owes with clash | ⟨before, _⟩
    · cases clash
    · exact handling.handed path before
  · exact handling.undeleted.append rfl
  · intro clash
    cases clash
  · intro key clash
    cases clash

theorem commit_fails {candidate : ReelCandidate} {owner : UUID}
    {source : ValidatedSource} {objectKey : SourceObjectKey}
    {fault : CollectorFault} {owed : Option SourceObjectKey}
    (handling : Handling temporary candidate owed false history) :
    Handling temporary candidate owed false (history ++
      [⟨.commitSource owner candidate source objectKey, .error fault⟩]) :=
  handling_stable history _
    ⟨rfl, rfl, fun _ => rfl, rfl⟩ handling

theorem acquireStatements_attempted (deadline : Option Int)
    (handling : Handling temporary progress.candidate none false history) :
    Follows compensating history
      (acquireStatements engine runId deadline progress temporary)
      (Attempted temporary progress.candidate) := by
  have cancel := raiseIfCancelRequested_calms engine runId
  have timely := requireDeadline_calms deadline
  have event := recorded_calms progress.position
  unfold acquireStatements
  apply cancel.holding handling
  intro _ _ handling
  apply timely.holding handling
  intro _ _ handling
  have downloads : Calms (ask (.download progress.candidate temporary)) :=
    calms_ask rfl
  apply downloads.holding handling
  intro _ _ handling
  apply (event .download).holding handling
  intro _ _ handling
  apply timely.holding handling
  intro _ _ handling
  have validates : Calms (ask (.validate temporary)) := calms_ask rfl
  apply validates.holding handling
  intro source _ handling
  apply (event .validation).holding handling
  intro _ _ handling
  apply timely.holding handling
  intro _ _ handling
  split
  · refine ⟨?_, handling⟩
    intro clash
    cases clash
  apply cancel.holding handling
  intro _ _ handling
  apply timely.holding handling
  intro _ here handling
  cases shape : sourceObjectKey progress.candidate.shortcode with
  | error fault =>
      refine ⟨?_, handling⟩
      intro same
      unfold sourceObjectKey at shape
      split at shape <;> cases shape
      cases same
  | ok objectKey =>
      obtain rfl := sourceObjectKey_eq_ok shape
      refine follows_attempt.mpr ⟨trivial, fun reply assumed => ?_⟩
      cases reply with
      | error fault =>
          refine ⟨?_, publish_fails handling⟩
          intro same
          cases same
          exact relieved_aborted rfl rfl
      | ok published =>
          have named : published.objectKey = ⟨progress.candidate.shortcode⟩ :=
            of_decide_eq_true assumed.1
          have handling := publish_owes temporary handling named
          apply (event .publication).holding handling
          intro _ _ handling
          apply timely.holding handling
          intro _ _ handling
          refine follows_attempt.mpr
            ⟨⟨named, handling.undeleted⟩, fun reply assumed => ?_⟩
          cases reply with
          | error fault =>
              refine ⟨?_, commit_fails handling⟩
              intro same
              cases same
              exact relieved_aborted rfl rfl
          | ok _ =>
              rw [named]
              have handling := commit_resolves runId source handling
              apply (event .dbCommit).holding handling
              intro _ _ handling
              apply timely.holding handling
              intro _ _ handling
              exact handling

theorem Handling.cleaning {candidate : ReelCandidate} {committed : Bool}
    (handling : Handling temporary candidate none committed history) :
    Cleaning temporary history := by
  constructor
  · intro key owes
    cases handling.owes key owes
  · exact handling.handed

theorem delete_cleans {candidate : ReelCandidate} {committed : Bool}
    {objectKey : SourceObjectKey} {reply : Except CollectorFault Unit}
    (handling : Handling temporary candidate (some objectKey) committed
      history) :
    Cleaning temporary (history ++ [⟨.delete objectKey, reply⟩]) := by
  constructor
  · intro key owes
    rcases owed_append.mp owes with clash | ⟨before, still⟩
    · cases clash
    · cases handling.owes key before
      simp [resolves, deletes] at still
  · intro path owes
    rcases owed_append.mp owes with clash | ⟨before, _⟩
    · cases clash
    · exact handling.handed path before

theorem compensated_uncommitted {acquiring : Acquiring}
    {objectKey : SourceObjectKey}
    (owed : acquiring.compensated = some objectKey) :
    acquiring.dbCommitted = false := by
  cases committed : acquiring.dbCommitted with
  | false => rfl
  | true => simp [Acquiring.compensated, committed] at owed

theorem compensate_cleans {candidate : ReelCandidate} {acquiring : Acquiring}
    (handling : Handling temporary candidate acquiring.compensated
      acquiring.dbCommitted history) :
    Follows compensating history (compensate acquiring)
      fun _ => Cleaning temporary := by
  unfold compensate
  cases owed : acquiring.compensated with
  | none =>
      rw [owed] at handling
      exact handling.cleaning
  | some objectKey =>
      rw [owed] at handling
      obtain ⟨named, created⟩ := handling.created objectKey rfl
      have fresh : ¬ Committed history objectKey := by
        rw [named]
        exact handling.uncommitted (compensated_uncommitted owed)
      have deleted : Follows compensating history
          (do ask (.delete objectKey); return false : EngineProgram Bool)
          fun _ => Cleaning temporary := by
        refine follows_bind.mpr ⟨⟨created, fresh⟩, fun reply _ => ?_⟩
        cases reply with
        | ok _ => exact delete_cleans handling
        | error fault => exact delete_cleans handling
      apply deleted.rescue
      · intro _ reached kept
        exact kept
      · intro _ reached kept _
        exact kept
      · intro _ reached kept _
        exact kept

def Failed (temporary : TemporaryPath)
    (outcome : Except CollectorFault (Except String Nat))
    (reached : List PortEvent) : Prop :=
  Cleaning temporary reached ∧ ∀ bytes, outcome ≠ .ok (.ok bytes)

theorem failed_raise {fault : CollectorFault}
    (cleaning : Cleaning temporary history) :
    Failed temporary (.error fault) history := by
  refine ⟨cleaning, ?_⟩
  intro bytes clash
  cases clash

theorem failed_reason {reason : String}
    (cleaning : Cleaning temporary history) :
    Failed temporary (.ok (.error reason)) history := by
  refine ⟨cleaning, ?_⟩
  intro bytes clash
  cases clash

theorem handleAcquisitionFault_fails {candidate other : ReelCandidate}
    {interrupted : Interrupted Acquiring}
    (aborted : interrupted.fault = .baseException → Relieved history)
    (handling : Handling temporary candidate interrupted.locals.compensated
      interrupted.locals.dbCommitted history) :
    Follows compensating history
      (handleAcquisitionFault runId other interrupted)
      (Failed temporary) := by
  have compensates := compensate_cleans handling
  unfold handleAcquisitionFault
  dsimp only
  split
  · apply compensates.bind
    · intro _ reached cleaning
      exact failed_raise cleaning
    · intro fault reached cleaning
      exact failed_raise cleaning
  · rename_i same
    exact failed_raise ⟨aborted same, handling.handed⟩
  · apply compensates.bind
    · intro failed reached cleaning
      split
      · exact failed_reason cleaning
      · have records : ∀ reasonCode attempted, Calms (swallow
            (ask (.recordFailure runId other reasonCode attempted))) :=
          fun _ _ => calms_swallow (calms_ask rfl)
        apply (records _ _ _ cleaning_stable reached cleaning).bind
        · intro _ last held
          exact failed_reason held.1
        · intro fault last held
          exact failed_raise held.1
    · intro fault reached cleaning
      exact failed_raise cleaning

theorem cleanup_quits {reply : Except CollectorFault Unit}
    (cleaning : Cleaning temporary history) :
    Quit (history ++ [⟨.cleanupTemporary temporary, reply⟩]) := by
  constructor
  · intro key owes
    rcases owed_append.mp owes with clash | ⟨before, _⟩
    · cases clash
    · exact cleaning.objects key before
  · intro path owes
    rcases owed_append.mp owes with clash | ⟨before, still⟩
    · cases clash
    · cases cleaning.handed path before
      simp [cleans] at still

theorem handing_handles {candidate : ReelCandidate} {shortcode : String}
    (running : Running history)
    (fresh : ¬ Committed history ⟨candidate.shortcode⟩) :
    Handling temporary candidate none false
      (history ++ [⟨.temporaryPath shortcode, .ok temporary⟩]) := by
  constructor
  · intro key owes
    rcases owed_append.mp owes with clash | ⟨before, _⟩
    · cases clash
    · exact absurd before (running.quit.objects key)
  · intro path owes
    rcases owed_append.mp owes with opened | ⟨before, _⟩
    · cases opened
      rfl
    · exact absurd before (running.quit.files path)
  · exact running.undeleted.append rfl
  · intro _ committed
    rcases committed_append.mp committed with before | clash
    · exact fresh before
    · cases clash
  · intro key clash
    cases clash

theorem cleanupTemporary_quits (cleaning : Cleaning temporary history) :
    Follows compensating history (cleanupTemporary temporary)
      fun _ reached => Quit reached ∧
        (Undeleted history → Undeleted reached) := by
  have cleaned : Follows compensating history
      (ask (.cleanupTemporary temporary))
      fun _ reached => Quit reached ∧
        (Undeleted history → Undeleted reached) := by
    refine ⟨trivial, fun reply _ => ⟨cleanup_quits cleaning, ?_⟩⟩
    intro undeleted
    exact undeleted.append rfl
  apply cleaned.rescue
  · intro _ reached kept
    exact kept
  · intro _ reached kept _
    exact kept
  · intro _ reached kept _
    exact kept

def Bodied (temporary : TemporaryPath)
    (outcome : Except CollectorFault (Except String Nat))
    (reached : List PortEvent) : Prop :=
  Cleaning temporary reached ∧
    ∀ bytes, outcome = .ok (.ok bytes) → Undeleted reached

theorem acquire_running (deadline : Option Int) (running : Running history)
    (fresh : ¬ Committed history ⟨progress.candidate.shortcode⟩) :
    Settles compensating Quit history
      (acquire engine runId deadline progress) fun _ => Running := by
  have handed : Yields compensating Quit history
      (ask (.temporaryPath progress.candidate.shortcode))
      fun temporary reached =>
        Handling temporary progress.candidate none false reached := by
    apply yields_perform trivial
    · intro temporary _
      exact handing_handles running fresh
    · intro fault _
      exact quit_stable history _ ⟨rfl, rfl, fun _ => rfl, rfl⟩ running.quit
  unfold acquire
  apply handed.bind
  intro temporary reached handling
  refine Follows.ensure
    (?_ : Follows compensating reached _ (Bodied temporary)) ?_
  · apply (acquireStatements_attempted deadline handling).bind
    · intro outcome here attempted
      cases outcome with
      | ok bytes =>
          refine ⟨Handling.cleaning attempted, ?_⟩
          intro _ _
          exact attempted.undeleted
      | error interrupted =>
          apply (handleAcquisitionFault_fails attempted.1 attempted.2).mono
          intro outcome last kept
          refine ⟨kept.1, ?_⟩
          intro bytes same
          exact absurd same (kept.2 bytes)
    · intro fault here attempted
      exact attempted.elim
  · intro outcome here bodied
    apply (cleanupTemporary_quits bodied.1).mono
    intro cleaned last kept
    cases cleaned with
    | error fault => exact kept.1
    | ok _ =>
        cases outcome with
        | error fault => exact kept.1
        | ok acquired =>
            cases acquired with
            | error reason => exact kept.1
            | ok bytes => exact ⟨kept.1, kept.2 (bodied.2 bytes rfl)⟩

end

section

variable {engine : CollectorEngine} {request : CollectRequest} {runId : UUID}
variable {history : List PortEvent}

theorem ended_rules : EndRules compensating Quit runId where
  quiet := (ordinary_steady quit_stable).quiet
  fails := fun _ => calm_steady quit_stable rfl
  cancels := fun _ => calm_steady quit_stable rfl

def Detected (progress : Progress) (status : Option ReelPipelineStatus)
    (history : List PortEvent) : Prop :=
  Running history ∧
    (status.any (· ∈ [.sourceReady, .normalizing, .ready]) = false →
      ¬ Committed history ⟨progress.candidate.shortcode⟩)

theorem detect_tells (progress : Progress) (running : Running history) :
    Yields compensating Quit history (detect progress)
      (Detected progress) := by
  have ordinary := ordinary_steady running_stable
  have quits : ∀ reached, Running reached → Quit reached :=
    fun _ running => running.quit
  have event := recorded_leads ordinary.recording progress.position
  refine Yields.bind (((event .detect).yields running).weaken quits)
    fun _ reached running => ?_
  refine Yields.bind (((ordinary .pauseCurrent rfl).yields running).weaken
    quits) fun _ reached running => ?_
  refine Yields.bind (((event .pause).yields running).weaken quits)
    fun _ reached running => ?_
  apply yields_perform trivial
  · intro status assumed
    have still : Still
        ⟨.reelStatus progress.candidate.shortcode, .ok status⟩ :=
      still_of_calm rfl _
    refine ⟨running_stable _ _ still running, ?_⟩
    intro unready later
    have committed := (committed_still still).mp later
    have told : status = some .sourceReady := assumed.2 committed
    rw [told] at unready
    cases unready
  · intro fault _
    exact quit_stable _ _ (still_of_calm rfl _) running.quit

def compensated : CollectStates (List PortEvent) where
  started := Running
  watching := fun _ => Running
  owning := fun _ _ => Running
  detected := fun progress _ => Detected progress
  acquired := fun _ _ => Running
  enough := fun _ => Running
  short := fun _ => Running
  cooled := fun _ => Running
  moved := fun _ _ => Running
  ended := Quit
  done := fun _ => Quit

theorem compensated_rules :
    CollectRules compensating compensated engine request runId := by
  have ordinary := ordinary_steady running_stable
  have quits : ∀ reached, Running reached → Quit reached :=
    fun _ running => running.quit
  exact {
    endings := ended_rules
    starts := fun _ running => by
      refine (Leads.yields ?_ running).weaken quits
      refine (raiseIfCancelRequested_leads ordinary.quiet engine runId).bind
        (fun _ => ?_) fun _ kept => kept
      exact (ordinary .current rfl).bind (fun _ => ofExcept_leads)
        fun _ kept => kept
    watchingQuiet := fun _ => ordinary.quiet
    watchingEnds := fun _ => quits
    owns := fun _ _ running _ => by
      refine (Leads.yields ?_ running).weaken quits
      unfold queryOwned
      split
      · exact ordinary (.accountHasDurableReel _ _) rfl
      · exact leads_pure fun _ kept => kept
    owningEnds := fun _ _ => quits
    detects := fun progress _ _ running _ => detect_tells progress running
    processes := fun deadline progress owned status _ detected => by
      refine (process_settles deadline _ owned status ordinary.recording quits
        (fun _ => detected.1) ?_ ?_).mono fun _ _ kept => kept.1
      · intro _ _
        exact ((calm_steady running_stable rfl).yields detected.1).weaken quits
      · intro _ unready
        exact acquire_running deadline detected.1 (detected.2 unready)
    counts := fun _ _ _ running => by
      refine (((ordinary (.summary _) rfl).yields running).weaken quits).mono
        fun _ _ kept => ?_
      split <;> exact kept
    completes := fun counts _ running => by
      exact (complete_leads ended_rules
        (calm_steady quit_stable rfl)
        (fun _ => calm_steady quit_stable rfl) request counts).yields
          running.quit
    shortQuiet := fun _ => ordinary.quiet
    shortEnds := fun _ => quits
    cools := fun deadline progress _ running =>
      ((coolDown_leads ordinary.quiet ordinary.recording engine deadline
        progress).yields running).weaken quits
    cooledQuiet := fun _ => ordinary.quiet
    cooledEnds := fun _ => quits
    moves := fun deadline _ _ running =>
      ((confirmTransition_leads ordinary engine _ _ deadline
        _).yields running).weaken quits
    movedEnds := fun _ _ => quits
    confirms := fun progress _ _ _ running _ _ _ =>
      ((recorded_leads ordinary.recording progress.position
        _).yields running).weaken quits
    finishes := fun _ _ quit _ => quit
    doneEnds := fun _ _ quit => quit
    doneQuiet := fun _ => (ordinary_steady quit_stable).quiet }

theorem running_nil : Running [] := by
  constructor
  · exact ⟨fun _ => not_owed_nil, fun _ => not_owed_nil⟩
  · intro event member
    cases member

theorem obtainRun_running (request : CollectRequest) :
    Yields compensating Quit [] (obtainRun request) fun _ => Running := by
  unfold obtainRun
  split
  · exact yields_pure running_nil
  · exact ((calm_steady running_stable rfl).yields running_nil).weaken
      fun _ running => running.quit

/-- However a collection ends, nothing is owed. -/
theorem collect_quits (engine : CollectorEngine) (request : CollectRequest) :
    Follows compensating [] (engine.collect request) fun _ => Quit := by
  have ends : ∀ (_ : UUID) history, compensated.ended history → Quit history :=
    fun _ _ quit => quit
  have yields := collect_yields (fun _ => compensated) engine request
    (fun _ => (ordinary_steady running_stable).quiet)
    (fun _ _ => compensated_rules) ends (obtainRun_running request)
    running_nil.quit fun _ _ running => running.quit
  apply Follows.mono yields
  intro outcome reached holds
  cases outcome with
  | ok summary =>
      obtain ⟨_, _, quit⟩ := holds
      exact quit
  | error fault => exact holds

end

def Lawful (history : List PortEvent) : Prop :=
  ∀ before event later, history = before ++ event :: later →
    Permits before event.request

structure Watched (phase : List PortEvent) (situation : Situation) : Prop where
  same : situation.history = phase
  durable : ∀ objectKey, Committed phase objectKey →
    Holds situation.database objectKey
  lawful : Lawful phase

section

variable {database : Database} {history : List PortEvent}
variable {event : PortEvent} {situation after : Situation}
variable {request : EngineCall}
variable {reply : Except CollectorFault (EngineReply request)}

theorem Lawful.append (lawful : Lawful history)
    (permitted : Permits history event.request) :
    Lawful (history ++ [event]) := by
  intro before other later split
  rcases List.eq_nil_or_concat later with rfl | ⟨earlier, last, rfl⟩
  · obtain ⟨rest, same⟩ := List.append_inj' split rfl
    cases same
    cases rest
    exact permitted
  · rw [List.concat_eq_append, ← List.cons_append, ← List.append_assoc] at split
    obtain ⟨rest, _⟩ := List.append_inj' split rfl
    exact lawful before other earlier rest

theorem watched_nil (database : Database) : Watched [] ⟨database, []⟩ := by
  constructor
  · rfl
  · intro objectKey committed
    obtain ⟨event, member, _⟩ := committed
    cases member
  · intro before event later split
    cases before <;> cases split

theorem Holds.status {shortcode : String}
    (holds : Holds database ⟨shortcode⟩) :
    Persistence.reelStatus database shortcode = some .sourceReady := by
  obtain ⟨reel, found, ready, _⟩ := holds
  change Persistence.reelByShortcode database shortcode = some reel at found
  unfold Persistence.reelStatus
  rw [found, Option.map_some, ready]

theorem Holds.referenced {objectKey : SourceObjectKey}
    (holds : Holds database objectKey) : Referenced database objectKey := by
  obtain ⟨reel, found, ready, keyed⟩ := holds
  exact ⟨reel, (Persistence.reelByShortcode_eq_some found).1, ready, keyed⟩

theorem Answers.taken {value : EngineReply request}
    (answers : Answers situation request (.ok value) after)
    (stored : isStored request = true) :
    Takes situation.database request (.ok value) after.database := by
  rcases answers.stored stored with taken | ⟨⟨fault, clash⟩, _⟩
  · exact taken
  · cases clash

theorem Watched.tells
    (watched : Watched history situation)
    (answers : Answers situation request reply after) :
    Tells history ⟨request, reply⟩ := by
  cases request with
  | reelStatus shortcode =>
      cases reply with
      | error fault => trivial
      | ok status =>
          intro committed
          rw [(answers.taken rfl).reads]
          exact (watched.durable _ committed).status
  | _ => trivial

theorem Watched.advance
    (watched : Watched history situation)
    (permitted : Permits history request)
    (answers : Answers situation request reply after) :
    Watched (history ++ [⟨request, reply⟩]) after := by
  constructor
  · rw [answers.recorded, watched.same]
  · intro objectKey committed
    rcases committed_append.mp committed with earlier | committing
    · exact answers.holds (watched.durable objectKey earlier)
    · cases request with
      | commitSource owner candidate source written =>
          cases reply with
          | error fault => cases committing
          | ok value =>
              obtain ⟨named, _⟩ := permitted
              obtain rfl : written = objectKey := of_decide_eq_true committing
              subst named
              exact (answers.taken rfl).commits
      | _ => cases committing
  · exact watched.lawful.append permitted

theorem Watched.answered
    (watched : Watched history situation)
    (permitted : Permits history request)
    (answers : Answers situation request reply after) :
    compensating.assumes history request reply ∧
      Watched (compensating.advance history request reply) after := by
  exact ⟨⟨answers.named, watched.tells answers⟩,
    watched.advance permitted answers⟩

theorem delete_permits {objectKey : SourceObjectKey}
    (deletion : deletes event = some objectKey)
    (permitted : Permits history event.request) :
    (∃ other ∈ history, creates other = some objectKey) ∧
      ¬ Committed history objectKey := by
  obtain ⟨request, reply⟩ := event
  cases request with
  | delete deleted =>
      cases deletion
      exact permitted
  | _ => cases deletion

theorem commit_permits {objectKey : SourceObjectKey}
    (committing : commits objectKey event = true)
    (permitted : Permits history event.request) : Undeleted history := by
  obtain ⟨request, reply⟩ := event
  cases request with
  | commitSource owner candidate source written => exact permitted.2
  | _ => cases committing

theorem delete_not_commits {objectKey other : SourceObjectKey}
    (deletion : deletes event = some objectKey) :
    commits other event = false := by
  obtain ⟨request, reply⟩ := event
  cases request <;> first
    | rfl
    | cases deletion

theorem Lawful.uncommitted (lawful : Lawful history)
    {before later : List PortEvent} {objectKey : SourceObjectKey}
    (split : history = before ++ event :: later)
    (deletion : deletes event = some objectKey) :
    ∀ other ∈ history, commits objectKey other = false := by
  have permitted := delete_permits deletion (lawful before event later split)
  intro other member
  rw [Bool.eq_false_iff]
  intro committing
  rw [split] at member
  rcases List.mem_append.mp member with earlier | member
  · exact permitted.2 ⟨other, earlier, committing⟩
  rcases List.mem_cons.mp member with rfl | latest
  · rw [delete_not_commits deletion] at committing
    cases committing
  · obtain ⟨between, rest, shape⟩ := List.append_of_mem latest
    have undeleted : Undeleted (before ++ event :: between) := by
      apply commit_permits committing
      apply lawful _ other rest
      rw [split, shape, List.append_assoc, List.cons_append]
    have kept := undeleted event
      (List.mem_append_right _ List.mem_cons_self)
    rw [deletion] at kept
    cases kept

theorem Watched.compensated (watched : Watched history situation)
    (quit : Quit history) : Compensated aborts situation := by
  have same := watched.same
  constructor
  · intro before event later objectKey split creation
    rw [same] at split ⊢
    by_cases committed : Committed history objectKey
    · exact .inl (watched.durable objectKey committed).referenced
    obtain ⟨other, member, resolved⟩ :=
      closed_of_not_owed (quit.objects objectKey) split creation
    have fresh : ∀ event ∈ history, commits objectKey event = false := by
      intro event member
      rw [Bool.eq_false_iff]
      intro committing
      exact committed ⟨event, member, committing⟩
    have later : other ∈ history := by
      rw [split]
      exact List.mem_append_right _ (List.mem_cons_of_mem _ member)
    rw [resolves, fresh other later, Bool.false_or, Bool.or_eq_true]
      at resolved
    rcases resolved with deletion | aborted
    · exact .inr (.inl ⟨other, member, of_decide_eq_true deletion⟩)
    · exact .inr (.inr ⟨other, member, aborted, fresh⟩)
  · intro before event later objectKey split deletion
    rw [same] at split ⊢
    exact ⟨(delete_permits deletion
        (watched.lawful before event later split)).1,
      watched.lawful.uncommitted split deletion⟩
  · intro before event later path split handed
    rw [same] at split
    exact closed_of_not_owed (quit.files path) split handed

end

/-- A collection compensates whatever the ports raise, up to the faults that
neither of its handlers selects. -/
theorem collection_compensated (engine : CollectorEngine)
    (request : CollectRequest) (database : Database)
    {outcome : Except CollectorFault CollectorSummary} {after : Situation}
    (played : (engine.collect request).Plays Answers ⟨database, []⟩ outcome
      after) : Compensated aborts after := by
  have answered : ∀ (phase : List PortEvent) situation request reply middle,
      Watched phase situation → compensating.permits phase request →
      Answers situation request reply middle →
      compensating.assumes phase request reply ∧
        Watched (compensating.advance phase request reply) middle := by
    intro phase situation request reply middle watched permitted answers
    exact watched.answered permitted answers
  obtain ⟨reached, quit, watched⟩ := (collect_quits engine request).plays
    answered (watched_nil database) played
  exact watched.compensated quit

def publishedReel : ReelCandidate :=
  ⟨"A", "https://www.instagram.com/reel/A/"⟩

def refusing (fault : CollectorFault) (database : Database) :
    (request : EngineCall) → Except CollectorFault (EngineReply request)
  | .current => .ok publishedReel
  | .pauseCurrent => .ok ()
  | .record _ _ => .ok ()
  | .reelStatus shortcode => .ok (Persistence.reelStatus database shortcode)
  | .temporaryPath shortcode => .ok ⟨0, shortcode⟩
  | .download _ _ => .ok ()
  | .validate _ => .ok ⟨sha256 [1], 1, "video/mp4"⟩
  | .publish _ objectKey => .ok ⟨objectKey, true⟩
  | .commitSource _ _ _ _ => .error fault
  | .delete _ => .ok ()
  | .cleanupTemporary _ => .ok ()
  | _ => .error .otherException

def refuse (fault : CollectorFault) (situation : Situation)
    (request : EngineCall) :
    Except CollectorFault (EngineReply request) × Situation :=
  (refusing fault situation.database request,
    { situation with
      history := situation.history ++
        [⟨request, refusing fault situation.database request⟩] })

theorem refuse_answers (fault : CollectorFault) (situation : Situation)
    (request : EngineCall) :
    Answers situation request (refuse fault situation request).1
      (refuse fault situation request).2 := by
  constructor
  · rfl
  · cases request with
    | publish path objectKey => exact decide_eq_true rfl
    | _ => rfl
  · intro stored
    cases request with
    | reelStatus shortcode => exact .inl ⟨{}, rfl, rfl⟩
    | commitSource owner candidate source objectKey =>
        exact .inr ⟨⟨fault, rfl⟩, .inl rfl⟩
    | _ => first
        | exact .inr ⟨⟨.otherException, rfl⟩, .inl rfl⟩
        | cases stored
  · intro _
    rfl

def refusedRun (fault : CollectorFault) :
    Except CollectorFault CollectorSummary × Situation :=
  (CollectorEngine.collect ⟨{}, false, false⟩
    ⟨1, .manual, 2, none, some 7⟩).play (refuse fault) ⟨Database.empty, []⟩

theorem refused_run_compensated :
    (∃ event ∈ (refusedRun .keyboardInterrupt).2.history,
      deletes event = some ⟨"A"⟩) ∧
    Compensated aborts (refusedRun .keyboardInterrupt).2 :=
  ⟨by decide +kernel, collection_compensated _ _ _
    (plays_play (refuse_answers .keyboardInterrupt) _ _)⟩

/-- An object that a collection leaves behind, neither referenced nor
deleted. -/
theorem aborted_commit_leaves_object :
    ¬ ∀ (engine : CollectorEngine) (request : CollectRequest)
      (database : Database)
      (outcome : Except CollectorFault CollectorSummary) (after : Situation),
      (engine.collect request).Plays Answers ⟨database, []⟩ outcome after →
      Compensated (fun _ => false) after := by
  intro claimed
  have compensated := claimed _ _ _ _ _
    (plays_play (refuse_answers .baseException)
      (CollectorEngine.collect ⟨{}, false, false⟩
        ⟨1, .manual, 2, none, some 7⟩) ⟨Database.empty, []⟩)
  change Compensated _ (refusedRun .baseException).2 at compensated
  have created : ∃ event ∈ (refusedRun .baseException).2.history,
      creates event = some ⟨"A"⟩ := by
    decide +kernel
  obtain ⟨event, member, creation⟩ := created
  obtain ⟨before, later, split⟩ := List.append_of_mem member
  rcases compensated.objects before event later ⟨"A"⟩ split creation with
    ⟨reel, stored, _⟩ | ⟨other, deleted, deletion⟩ | ⟨_, _, clash, _⟩
  · have none : (refusedRun .baseException).2.database.reels.rows = [] := by
      rfl
    have present : reel ∈ (refusedRun .baseException).2.database.reels.rows :=
      stored
    rw [none] at present
    cases present
  · have undeleted : ∀ event ∈ (refusedRun .baseException).2.history,
        deletes event ≠ some ⟨"A"⟩ := by
      decide +kernel
    apply undeleted other _ deletion
    rw [split]
    exact List.mem_append_right _ (List.mem_cons_of_mem _ deleted)
  · cases clash

end OfflineReels.Collector.Compensation
