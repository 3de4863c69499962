import OfflineReels.Normalizer.Publication

namespace OfflineReels.Normalizer.FinalObjects

open OfflineReels.Foundation
open OfflineReels.Foundation.Program
open OfflineReels.Instagram
open OfflineReels.Media
open InstagramNormalizerWorker
open Publication (Ready)

/-! The final object that an attempt creates, and what becomes of it when the
attempt ends without publishing its Reel. -/

/-- Once the copy has returned, the object is compensated or the attempt is
left where nothing compensates it. -/
inductive Stage
  | unpublished
  | created (finalKey : VideoObjectKey)
  | interrupted (finalKey : VideoObjectKey)
  | compensating (finalKey : VideoObjectKey)
  deriving DecidableEq, Repr

namespace Stage

def finalKey? : Stage → Option VideoObjectKey
  | unpublished => none
  | created finalKey | interrupted finalKey | compensating finalKey =>
      some finalKey

def interrupt : Stage → Stage
  | created finalKey => interrupted finalKey
  | stage => stage

def compensate : Stage → Stage
  | created finalKey | interrupted finalKey => compensating finalKey
  | stage => stage

end Stage

structure Notes where
  stage : Stage := .unpublished
  reelId : Option UUID := none
  compensationFailed : Bool := false
  deriving DecidableEq, Repr

/-- The calls between the copy and the end of the commit whose faults a handler
catches, if they are exceptions. -/
def isGuarded : WorkerCall → Bool
  | .temporaryDirectory | .closeTemporaryDirectory | .download _ | .hashFile _
  | .probeMedia _ | .validateDecode _ | .commitReady _ _ _ => true
  | _ => false

namespace Notes

def interrupt (notes : Notes) : Notes :=
  { notes with stage := notes.stage.interrupt }

/-- A created object is interrupted by a callback that raises, by a worker that
is cancelled, or by a fault that no handler catches. -/
def note (notes : Notes) : (request : WorkerCall) →
    Except WorkerFault (WorkerReply request) → Notes
  | .claim _ _, .ok (some claimed) =>
      { notes with reelId := some claimed.reelId }
  | .copy _ (.video finalKey), .ok _ =>
      { notes with stage := .created finalKey }
  | .videoReferenced _, .ok _ =>
      { notes with stage := notes.stage.compensate }
  | .videoReferenced _, .error _ =>
      { notes with
        stage := notes.stage.compensate
        compensationFailed := true }
  | .remove (.video _), .error _ => { notes with compensationFailed := true }
  | .isCancelled, .ok true | .isCancelled, .error _ => notes.interrupt
  | .emit _ event _, .error _ =>
      if event = "final_published" then notes.interrupt else notes
  | request, .error fault =>
      if fault = .baseException ∧ isGuarded request = true then notes.interrupt
      else notes
  | _, .ok _ => notes

end Notes

abbrev State : Type := Stores × Notes

/-- Each call takes effect and returns, is refused, or its answer is lost. -/
def Responds (state : State) (request : WorkerCall)
    (reply : Except WorkerFault (WorkerReply request)) (after : State) : Prop :=
  (∃ choice, state.1.perform request choice = some (after.1, reply)) ∧
    after.2 = state.2.note request reply

def Referenced (database : Database) (finalKey : VideoObjectKey) : Prop :=
  ∃ video ∈ database.videos, video.objectKey = finalKey

/-- The attempt that did not get its Reel ready removed the object it created,
unless a Video names it or a call of the compensation failed. -/
def LeavesNoOrphan (after : State) : Prop :=
  ∀ reelId finalKey, after.2.reelId = some reelId →
    after.2.stage.finalKey? = some finalKey →
    ¬Ready after.1.database reelId →
      after.1.objects.find? (.video finalKey) = none ∨
        Referenced after.1.database finalKey ∨
        after.2.compensationFailed = true

def Unready (state : State) : Prop :=
  ∃ reelId, state.2.reelId = some reelId ∧ ¬Ready state.1.database reelId

structure Unpublished (state : State) : Prop where
  stage : state.2.stage = .unpublished
  whole : state.2.compensationFailed = false
  unready : Unready state

structure Stands (finalKey : VideoObjectKey) (state : State) : Prop where
  present : state.1.objects.find? (.video finalKey) ≠ none
  whole : state.2.compensationFailed = false
  unready : Unready state

structure Created (finalKey : VideoObjectKey) (state : State) : Prop where
  stage : state.2.stage = .created finalKey
  stands : Stands finalKey state

def Ended (state : State) : Prop :=
  match state.2.stage with
  | .unpublished => True
  | .created finalKey => Referenced state.1.database finalKey
  | .interrupted finalKey =>
      Referenced state.1.database finalKey ∨ Stands finalKey state
  | .compensating finalKey =>
      state.1.objects.find? (.video finalKey) = none ∨
        Referenced state.1.database finalKey ∨
        state.2.compensationFailed = true

theorem Unpublished.ended {state : State} (unpublished : Unpublished state) :
    Ended state := by
  unfold Ended
  rw [unpublished.stage]
  trivial

theorem Ended.leavesNoOrphan_iff {state : State} (ended : Ended state) :
    LeavesNoOrphan state ↔ ∀ finalKey,
      state.2.stage = .interrupted finalKey →
        Referenced state.1.database finalKey := by
  unfold Ended at ended
  constructor
  · intro clean finalKey interrupted
    rw [interrupted] at ended
    rcases ended with referenced | stands
    · exact referenced
    · obtain ⟨reelId, known, unready⟩ := stands.unready
      rcases clean reelId finalKey known (by rw [interrupted]; rfl) unready with
        absent | referenced | failed
      · exact absurd absent stands.present
      · exact referenced
      · rw [stands.whole] at failed
        cases failed
  · intro condition reelId finalKey known here unready
    cases stage : state.2.stage with
    | unpublished =>
        rw [stage] at here
        cases here
    | created key =>
        rw [stage] at here ended
        cases here
        exact .inr (.inl ended)
    | interrupted key =>
        rw [stage] at here
        cases here
        exact .inr (.inl (condition finalKey stage))
    | compensating key =>
        rw [stage] at here ended
        cases here
        exact ended

def prepares : WorkerCall → Bool
  | .isCancelled | .emit _ _ _ | .stat _ | .download _ | .upload _ _ _
  | .temporaryDirectory | .closeTemporaryDirectory | .hashFile _
  | .probeMedia _ | .validateDecode _ | .normalizeVideo _
  | .closeNormalized => true
  | _ => false

theorem perform_state {stores after : Stores} {request : WorkerCall}
    {choice : WorkerChoice} {reply : Except WorkerFault (WorkerReply request)}
    (performed : stores.perform request choice = some (after, reply)) :
    after = stores ∨ ∃ draw, after = (stores.effect draw request).1 := by
  rcases Stores.perform_cases performed with ⟨same, _⟩ | ⟨draw, effect, _⟩
  · exact .inl same
  · exact .inr ⟨draw, effect⟩

theorem withObject_state {α : Type} (stores : Stores) (key : StorageKey)
    (answer : StorageObject → α) :
    (stores.withObject key fun object =>
      stores.read (answer object)).1 = stores := by
  unfold Stores.withObject
  split
  · rfl
  · rfl

theorem prepares_database {request : WorkerCall}
    (preparing : prepares request = true) (stores : Stores)
    (draw : WorkerDraw) :
    (stores.effect draw request).1.database = stores.database := by
  cases request with
  | stat key => exact congrArg Stores.database (withObject_state stores key _)
  | download key =>
      exact congrArg Stores.database (withObject_state stores key _)
  | isCancelled => rfl
  | emit claimed event reason => rfl
  | upload key content contentType => rfl
  | temporaryDirectory => rfl
  | closeTemporaryDirectory => rfl
  | hashFile content => rfl
  | probeMedia content => rfl
  | validateDecode content => rfl
  | normalizeVideo content => rfl
  | closeNormalized => rfl
  | _ => cases preparing

theorem interrupt_unpublished {notes : Notes}
    (unpublished : notes.stage = .unpublished) : notes.interrupt = notes := by
  obtain ⟨stage, reelId, failed⟩ := notes
  cases unpublished
  rfl

theorem note_prepares {notes : Notes} {request : WorkerCall}
    (preparing : prepares request = true)
    (unpublished : notes.stage = .unpublished)
    (reply : Except WorkerFault (WorkerReply request)) :
    notes.note request reply = notes := by
  have still := interrupt_unpublished unpublished
  cases request with
  | isCancelled =>
      rcases reply with fault | answer
      · exact still
      · cases answer
        · rfl
        · exact still
  | emit claimed event reason =>
      cases reply with
      | ok _ => rfl
      | error fault => simp only [Notes.note, still, ite_self]
  | claim workerId leaseSeconds => cases preparing
  | copy key destination => cases preparing
  | remove key => cases preparing
  | videoReferenced objectKey => cases preparing
  | _ =>
      cases reply with
      | ok _ => rfl
      | error fault => simp only [Notes.note, still, ite_self]

theorem unpublished_prepares {request : WorkerCall}
    (preparing : prepares request = true) {state after : State}
    {reply : Except WorkerFault (WorkerReply request)}
    (unpublished : Unpublished state)
    (responded : Responds state request reply after) : Unpublished after := by
  obtain ⟨⟨choice, performed⟩, noted⟩ := responded
  rw [note_prepares preparing unpublished.stage] at noted
  have database : after.1.database = state.1.database := by
    rcases perform_state performed with same | ⟨draw, effect⟩
    · rw [same]
    · rw [effect]
      exact prepares_database preparing state.1 draw
  obtain ⟨reelId, known, unready⟩ := unpublished.unready
  constructor
  · rw [noted]
    exact unpublished.stage
  · rw [noted]
    exact unpublished.whole
  · refine ⟨reelId, noted ▸ known, ?_⟩
    rw [database]
    exact unready

theorem preserves_unpublished {request : WorkerCall}
    (preparing : prepares request = true) :
    Preserves Responds Unpublished (WorkerProgram.invoke request) :=
  preserves_perform fun _ _ _ here responded =>
    unpublished_prepares preparing here responded

def windsUp : WorkerCall → Bool
  | .emit _ event _ => event ≠ "final_published"
  | .remove (.video _) => false
  | .closeNormalized | .closeTemporaryDirectory | .finishFailure _ _ _ _
  | .listPrefix _ | .sourceCleaned _ | .remove _ => true
  | _ => false

/-- What later calls leave of the bucket and the catalog. -/
structure Spares (before after : Stores) : Prop where
  objects : ∀ finalKey : VideoObjectKey,
    after.objects.find? (.video finalKey) =
      before.objects.find? (.video finalKey)
  videos : after.database.videos = before.database.videos
  ready : ∀ reelId, Ready after.database reelId → Ready before.database reelId

theorem Spares.refl (stores : Stores) : Spares stores stores :=
  ⟨fun _ => rfl, rfl, fun _ ready => ready⟩

theorem ready_of_put {database : Database} {written : InstagramReel}
    {reelId : UUID} (spared : written.pipelineStatus = .ready →
      Ready database written.id)
    (ready : Ready { database with reels := database.reels.put written }
      reelId) : Ready database reelId := by
  obtain ⟨reel, found, isReady⟩ := ready
  obtain ⟨member, here⟩ := Table.find?_eq_some.mp found
  rcases Table.mem_put.mp member with ⟨rfl, _⟩ | ⟨present, _⟩
  · exact here ▸ spared isReady
  · exact ⟨reel, Table.find?_eq_some.mpr ⟨present, here⟩, isReady⟩

theorem endAttempt_spares {database after : Database} {now : Time}
    {job : InstagramNormalizationJob} {reel : InstagramReel}
    {next : Option UUID}
    (ended : endAttempt database now job reel next = .ok after)
    (unready : reel.pipelineStatus ≠ .ready) :
    after.videos = database.videos ∧
      ∀ reelId, Ready after reelId → Ready database reelId := by
  rcases endAttempt_eq_ok ended with ⟨_, rfl⟩ | ⟨_, _, _, _, rfl⟩
  · exact ⟨rfl, fun reelId ready =>
      ready_of_put (fun isReady => absurd isReady unready) ready⟩
  · exact ⟨rfl, fun reelId ready =>
      ready_of_put (fun isReady => absurd isReady unready) ready⟩

theorem finishFailure_spares {database after : Database} {now : Time}
    {workerId : String} {newJob : UUID} {claimed : ClaimedNormalizationJob}
    {reason : ReasonCode} {retryable : Bool}
    (finished : Normalizer.finishFailure database now workerId newJob claimed
      reason retryable = .ok after) :
    after.videos = database.videos ∧
      ∀ reelId, Ready after reelId → Ready database reelId := by
  unfold Normalizer.finishFailure at finished
  split at finished
  · split at finished
    · cases finished
      exact ⟨rfl, fun _ ready => ready⟩
    · split at finished
      · exact endAttempt_spares finished fun ready => by cases ready
      · exact endAttempt_spares finished fun ready => by cases ready
  · cases finished
    exact ⟨rfl, fun _ ready => ready⟩

theorem sourceCleaned_spares {database after : Database} {cleaned : UUID}
    (finished : sourceCleaned database cleaned = .ok after) :
    after.videos = database.videos ∧
      ∀ reelId, Ready after reelId → Ready database reelId := by
  unfold sourceCleaned at finished
  split at finished
  · cases finished
    exact ⟨rfl, fun _ ready => ready⟩
  · rename_i reel found
    split at finished
    · rename_i isReady
      obtain ⟨_, _, rfl⟩ := Database.writeReel_eq_ok finished
      refine ⟨rfl, fun reelId ready => ready_of_put (fun _ => ?_) ready⟩
      exact ⟨reel, (Table.find?_eq_some.mp found).2.symm ▸ found, isReady⟩
    · cases finished
      exact ⟨rfl, fun _ ready => ready⟩

theorem spares_commit {stores : Stores}
    {outcome : Except DatabaseError Database}
    (spared : ∀ database, outcome = .ok database →
      database.videos = stores.database.videos ∧
        ∀ reelId, Ready database reelId → Ready stores.database reelId) :
    Spares stores (stores.commit outcome).1 := by
  rcases stores.commit_cases outcome with ⟨_, _, shape⟩ | ⟨database, same, shape⟩
  · rw [shape]
    exact .refl stores
  · rw [shape]
    obtain ⟨videos, ready⟩ := spared database same
    exact ⟨fun _ => rfl, videos, ready⟩

theorem spares_remove {stores : Stores} (draw : WorkerDraw) {key : StorageKey}
    (other : ∀ finalKey, key ≠ .video finalKey) :
    Spares stores (stores.remove draw key).1 := by
  unfold Stores.remove
  split
  · exact .refl stores
  · refine ⟨fun finalKey => Table.find?_filter_kept fun object _ here => ?_,
      rfl, fun _ ready => ready⟩
    simpa [here] using (other finalKey).symm

theorem spares_effect {request : WorkerCall} (winding : windsUp request = true)
    (stores : Stores) (draw : WorkerDraw) :
    Spares stores (stores.effect draw request).1 := by
  cases request with
  | finishFailure workerId claimed reason retryable =>
      exact spares_commit fun database finished =>
        finishFailure_spares finished
  | sourceCleaned reelId =>
      exact spares_commit fun database finished =>
        sourceCleaned_spares finished
  | remove key =>
      cases key with
      | source objectKey => exact spares_remove draw fun _ clash => by cases clash
      | staging stagingPrefix name =>
          exact spares_remove draw fun _ clash => by cases clash
      | video finalKey => cases winding
  | emit claimed event reason => exact .refl stores
  | closeNormalized => exact .refl stores
  | closeTemporaryDirectory => exact .refl stores
  | listPrefix stagingPrefix => exact .refl stores
  | _ => cases winding

theorem note_windsUp {notes : Notes} {request : WorkerCall}
    (winding : windsUp request = true)
    (reply : Except WorkerFault (WorkerReply request)) :
    notes.note request reply = notes ∨
      notes.note request reply = notes.interrupt := by
  cases reply with
  | ok value =>
      cases request with
      | remove key => cases key <;> exact .inl rfl
      | emit claimed event reason => exact .inl rfl
      | finishFailure workerId claimed reason retryable => exact .inl rfl
      | sourceCleaned reelId => exact .inl rfl
      | closeNormalized => exact .inl rfl
      | closeTemporaryDirectory => exact .inl rfl
      | listPrefix stagingPrefix => exact .inl rfl
      | _ => cases winding
  | error fault =>
      cases request with
      | remove key =>
          cases key with
          | video finalKey => cases winding
          | source objectKey => simp [Notes.note, isGuarded]
          | staging stagingPrefix name => simp [Notes.note, isGuarded]
      | emit claimed event reason =>
          simp only [windsUp, decide_eq_true_eq] at winding
          simp [Notes.note, winding]
      | finishFailure workerId claimed reason retryable =>
          simp [Notes.note, isGuarded]
      | sourceCleaned reelId => simp [Notes.note, isGuarded]
      | closeNormalized => simp [Notes.note, isGuarded]
      | closeTemporaryDirectory =>
          simp only [Notes.note]
          split
          · exact .inr rfl
          · exact .inl rfl
      | listPrefix stagingPrefix => simp [Notes.note, isGuarded]
      | _ => cases winding

theorem Spares.referenced {before after : Stores} (spares : Spares before after)
    {finalKey : VideoObjectKey}
    (referenced : Referenced before.database finalKey) :
    Referenced after.database finalKey := by
  unfold Referenced
  rw [spares.videos]
  exact referenced

theorem Spares.stands {before after : State} (spares : Spares before.1 after.1)
    {finalKey : VideoObjectKey} (stands : Stands finalKey before)
    (reelId : after.2.reelId = before.2.reelId)
    (failed : after.2.compensationFailed = before.2.compensationFailed) :
    Stands finalKey after := by
  obtain ⟨reel, known, unready⟩ := stands.unready
  constructor
  · rw [spares.objects]
    exact stands.present
  · exact failed.trans stands.whole
  · exact ⟨reel, reelId.trans known, fun ready => unready (spares.ready _ ready)⟩

theorem Ended.later {state after : State} (ended : Ended state)
    (spares : Spares state.1 after.1) (noted : after.2 = state.2) :
    Ended after := by
  unfold Ended at ended ⊢
  rw [noted]
  split
  · trivial
  · rename_i finalKey stage
    rw [stage] at ended
    exact spares.referenced ended
  · rename_i finalKey stage
    rw [stage] at ended
    rcases ended with referenced | stands
    · exact .inl (spares.referenced referenced)
    · exact .inr (spares.stands stands (by rw [noted]) (by rw [noted]))
  · rename_i finalKey stage
    rw [stage] at ended
    rcases ended with absent | referenced | failed
    · exact .inl ((spares.objects finalKey).trans absent)
    · exact .inr (.inl (spares.referenced referenced))
    · exact .inr (.inr failed)

theorem Ended.interrupt {stores : Stores} {notes : Notes}
    (ended : Ended (stores, notes)) : Ended (stores, notes.interrupt) := by
  obtain ⟨stage, reelId, failed⟩ := notes
  cases stage with
  | unpublished => trivial
  | created finalKey => exact .inl ended
  | interrupted finalKey => exact ended
  | compensating finalKey => exact ended

theorem ended_windsUp {request : WorkerCall} (winding : windsUp request = true)
    {state after : State} {reply : Except WorkerFault (WorkerReply request)}
    (ended : Ended state) (responded : Responds state request reply after) :
    Ended after := by
  obtain ⟨stores, notes⟩ := after
  obtain ⟨⟨choice, performed⟩, noted⟩ := responded
  have spares : Spares state.1 stores := by
    rcases perform_state performed with same | ⟨draw, effect⟩
    · have kept : stores = state.1 := same
      subst kept
      exact .refl _
    · have taken : stores = (state.1.effect draw request).1 := effect
      subst taken
      exact spares_effect winding state.1 draw
  have kept : Ended (stores, state.2) := ended.later spares rfl
  have changed : notes = state.2.note request reply := noted
  subst changed
  rcases note_windsUp winding reply with same | interrupted
  · rw [same]
    exact kept
  · rw [interrupted]
    exact kept.interrupt

theorem preserves_ended {request : WorkerCall}
    (winding : windsUp request = true) :
    Preserves Responds Ended (WorkerProgram.invoke request) :=
  preserves_perform fun _ _ _ here responded =>
    ended_windsUp winding here responded

theorem preserves_emit (claimed : ClaimedNormalizationJob) {event : String}
    (reason : Option ReasonCode) (other : event ≠ "final_published") :
    Preserves Responds Ended (emit claimed event reason) :=
  preserves_ended (decide_eq_true other)

theorem preserves_removeAll {keys : List StorageKey}
    (others : ∀ key ∈ keys, ∀ finalKey, key ≠ .video finalKey) :
    Preserves Responds Ended (removeAll keys) := by
  induction keys with
  | nil => exact preserves_done _
  | cons key rest ih =>
      have winding : windsUp (.remove key) = true := by
        have other := others key List.mem_cons_self
        cases key with
        | video finalKey => exact absurd rfl (other finalKey)
        | source objectKey => rfl
        | staging stagingPrefix name => rfl
      apply (preserves_ended winding).bind
      intro _
      exact ih fun other member => others other (List.mem_cons_of_mem _ member)

theorem preserves_cleanupStaging (stagingPrefix : StagingPrefix) :
    Preserves Responds Ended (cleanupStaging stagingPrefix) := by
  apply Preserves.rescue
  · intro state here
    apply attains_bind
    apply attains_perform
    intro reply after responded
    have ended := ended_windsUp rfl here responded
    cases reply with
    | error fault => exact ended
    | ok keys =>
        apply preserves_removeAll ?_ after ended
        intro key member finalKey same
        obtain ⟨⟨choice, performed⟩, _⟩ := responded
        rcases Stores.perform_cases performed with ⟨_, fault, _, raised⟩ |
          ⟨draw, _, listed | ⟨fault, _, raised⟩⟩
        · cases raised
        · cases listed
          subst same
          obtain ⟨_, staged⟩ := List.mem_filter.mp member
          cases staged
        · cases raised
  · intro _
    exact preserves_done _

theorem preserves_cleanupSource (claimed : ClaimedNormalizationJob) :
    Preserves Responds Ended (cleanupSourceAfterCommit claimed) := by
  apply (preserves_ended rfl).attempt
  intro outcome
  split
  · exact preserves_ended rfl
  · exact preserves_ended rfl
  · split
    · exact preserves_done _
    · exact preserves_done _

theorem preserves_finishFailure (worker : InstagramNormalizerWorker)
    (claimed : ClaimedNormalizationJob) (reason : ReasonCode)
    (retryable : Bool) :
    Preserves Responds Ended
      (worker.finishFailure claimed reason retryable) :=
  (preserves_ended rfl).rescue fun _ => preserves_done _

theorem preserves_handleFault (worker : InstagramNormalizerWorker)
    (claimed : ClaimedNormalizationJob) (fault : WorkerFault) :
    Preserves Responds Ended (worker.handleFault claimed fault) := by
  unfold handleFault
  split
  · apply (preserves_finishFailure worker claimed _ _).bind
    intro _
    exact preserves_emit claimed _ (by decide)
  · split
    · apply (preserves_finishFailure worker claimed _ _).bind
      intro _
      exact preserves_emit claimed _ (by decide)
    · exact preserves_done _

def checks : WorkerCall → Bool
  | .temporaryDirectory | .closeTemporaryDirectory | .download _ | .hashFile _
  | .probeMedia _ | .validateDecode _ => true
  | _ => false

theorem checks_effect {request : WorkerCall} (checking : checks request = true)
    (stores : Stores) (draw : WorkerDraw) :
    (stores.effect draw request).1 = stores := by
  cases request with
  | download key => exact withObject_state stores key _
  | temporaryDirectory => rfl
  | closeTemporaryDirectory => rfl
  | hashFile content => rfl
  | probeMedia content => rfl
  | validateDecode content => rfl
  | _ => cases checking

theorem note_checks {request : WorkerCall} (checking : checks request = true)
    (notes : Notes) (reply : Except WorkerFault (WorkerReply request)) :
    notes.note request reply =
      match reply with
      | .ok _ => notes
      | .error fault =>
          if fault = .baseException then notes.interrupt else notes := by
  cases request with
  | download key => cases reply <;> simp [Notes.note, isGuarded]
  | temporaryDirectory => cases reply <;> simp [Notes.note, isGuarded]
  | closeTemporaryDirectory => cases reply <;> simp [Notes.note, isGuarded]
  | hashFile content => cases reply <;> simp [Notes.note, isGuarded]
  | probeMedia content => cases reply <;> simp [Notes.note, isGuarded]
  | validateDecode content => cases reply <;> simp [Notes.note, isGuarded]
  | _ => cases checking

def Checked {α : Type} (finalKey : VideoObjectKey)
    (outcome : Except WorkerFault α) (state : State) : Prop :=
  Stands finalKey state ∧
    match outcome with
    | .ok _ => state.2.stage = .created finalKey
    | .error fault =>
        state.2.stage = .interrupted finalKey ∨
          (state.2.stage = .created finalKey ∧ fault ≠ .baseException)

theorem Stands.interrupt {finalKey : VideoObjectKey} {stores : Stores}
    {notes : Notes} (stands : Stands finalKey (stores, notes)) :
    Stands finalKey (stores, notes.interrupt) :=
  ⟨stands.present, stands.whole, stands.unready⟩

theorem checked_call {request : WorkerCall} (checking : checks request = true)
    {finalKey : VideoObjectKey} {state : State}
    (created : Created finalKey state) :
    Attains Responds (WorkerProgram.invoke request) state
      (Checked finalKey) := by
  apply attains_perform
  rintro reply ⟨stores, notes⟩ ⟨⟨choice, performed⟩, noted⟩
  have same : stores = state.1 := by
    rcases perform_state performed with same | ⟨draw, effect⟩
    · exact same
    · exact effect.trans (checks_effect checking state.1 draw)
  have changed : notes = state.2.note request reply := noted
  rw [note_checks checking] at changed
  subst same
  cases reply with
  | ok value =>
      subst changed
      exact ⟨created.stands, created.stage⟩
  | error fault =>
      dsimp only at changed
      split at changed
      · subst changed
        refine ⟨created.stands.interrupt, .inl ?_⟩
        simp [Notes.interrupt, Stage.interrupt, created.stage]
      · rename_i exception
        subst changed
        exact ⟨created.stands, .inr ⟨created.stage, exception⟩⟩

theorem interrupted_close {finalKey : VideoObjectKey} {state after : State}
    {reply : Except WorkerFault Unit} (stands : Stands finalKey state)
    (stage : state.2.stage = .interrupted finalKey)
    (responded : Responds state .closeTemporaryDirectory reply after) :
    Stands finalKey after ∧ after.2.stage = .interrupted finalKey := by
  obtain ⟨stores, notes⟩ := after
  obtain ⟨⟨choice, performed⟩, noted⟩ := responded
  have same : stores = state.1 := by
    rcases perform_state performed with same | ⟨draw, effect⟩
    · exact same
    · exact effect
  subst same
  have still : state.2.interrupt.stage = .interrupted finalKey := by
    simp [Notes.interrupt, Stage.interrupt, stage]
  have changed : notes = state.2 ∨ notes = state.2.interrupt := by
    have noted : notes = state.2.note .closeTemporaryDirectory reply := noted
    rw [noted]
    exact @note_windsUp state.2 .closeTemporaryDirectory rfl reply
  rcases changed with rfl | rfl
  · exact ⟨stands, stage⟩
  · exact ⟨stands.interrupt, still⟩

theorem checked_close {α : Type} {finalKey : VideoObjectKey} {state : State}
    {outcome : Except WorkerFault α} (checked : Checked finalKey outcome state) :
    Attains Responds (WorkerProgram.invoke .closeTemporaryDirectory) state
      fun cleaned after =>
        Checked finalKey (afterCleanup outcome cleaned) after := by
  obtain ⟨stands, shape⟩ := checked
  cases outcome with
  | ok value =>
      refine (checked_call rfl ⟨shape, stands⟩).mono
        fun cleaned after holds => ?_
      cases cleaned with
      | ok _ => exact holds
      | error later => exact holds
  | error fault =>
      rcases shape with stage | ⟨stage, exception⟩
      · apply attains_perform
        intro cleaned after responded
        obtain ⟨kept, still⟩ := interrupted_close stands stage responded
        cases cleaned with
        | ok _ => exact ⟨kept, .inl still⟩
        | error later => exact ⟨kept, .inl still⟩
      · refine (checked_call rfl ⟨stage, stands⟩).mono
          fun cleaned after holds => ?_
        cases cleaned with
        | ok _ => exact ⟨holds.1, .inr ⟨holds.2, exception⟩⟩
        | error later => exact holds

theorem checked_bind {request : WorkerCall} (checking : checks request = true)
    {finalKey : VideoObjectKey} {state : State} {α : Type}
    {next : WorkerReply request → WorkerProgram α}
    (created : Created finalKey state)
    (rest : ∀ value after, Created finalKey after →
      Attains Responds (next value) after (Checked finalKey)) :
    Attains Responds (WorkerProgram.invoke request >>= next) state
      (Checked finalKey) := by
  apply attains_bind
  refine (checked_call checking created).mono fun outcome after holds => ?_
  cases outcome with
  | ok value => exact rest value after ⟨holds.2, holds.1⟩
  | error fault => exact holds

theorem attains_verifyFinal {finalKey : VideoObjectKey} {digest : Digest}
    {size : Nat} {state : State} (created : Created finalKey state) :
    Attains Responds (verifyFinal finalKey digest size) state
      (Checked finalKey) := by
  apply checked_bind rfl created
  intro _ opened created
  refine Attains.ensure ?_ fun outcome after holds => checked_close holds
  apply checked_bind rfl created
  intro content downloaded created
  apply checked_bind rfl created
  intro _ hashed created
  dsimp only
  split
  · exact attains_done ⟨created.stands, .inr ⟨created.stage, by simp⟩⟩
  · apply checked_bind rfl created
    intro probe probed created
    apply checked_bind rfl created
    intro _ validated created
    split
    · exact attains_done ⟨created.stands, created.stage⟩
    · exact attains_done ⟨created.stands, .inr ⟨created.stage, by simp⟩⟩

theorem ended_of_interrupted {finalKey : VideoObjectKey} {state : State}
    (stands : Stands finalKey state)
    (stage : state.2.stage = .interrupted finalKey) : Ended state := by
  unfold Ended
  rw [stage]
  exact .inr stands

theorem ended_of_stage {stores : Stores} {notes : Notes}
    {finalKey : VideoObjectKey}
    (settled : stores.objects.find? (.video finalKey) = none ∨
      Referenced stores.database finalKey ∨ notes.compensationFailed = true)
    (stage : notes.stage = .compensating finalKey) :
    Ended (stores, notes) := by
  unfold Ended
  rw [stage]
  exact settled

theorem attains_remove {finalKey : VideoObjectKey} {state : State}
    (stage : state.2.stage = .compensating finalKey) :
    Attains Responds (WorkerProgram.invoke (.remove (.video finalKey))) state
      fun _ after => Ended after := by
  apply attains_perform
  rintro reply ⟨stores, notes⟩ ⟨⟨choice, performed⟩, noted⟩
  have changed : notes = state.2.note (.remove (.video finalKey)) reply := noted
  subst changed
  cases reply with
  | error fault => exact ended_of_stage (.inr (.inr rfl)) stage
  | ok _ =>
      refine ended_of_stage (.inl ?_) stage
      rcases Stores.perform_cases performed with ⟨_, fault, _, raised⟩ |
        ⟨draw, effect, returned | ⟨fault, _, raised⟩⟩
      · cases raised
      · have taken : stores = (state.1.remove draw (.video finalKey)).1 := effect
        have answer : Except.ok () =
          (state.1.remove draw (.video finalKey)).2 := returned
        subst taken
        unfold Stores.remove at answer ⊢
        split
        · rename_i missing
          rw [if_pos missing] at answer
          cases answer
        · exact Table.find?_filter_dropped fun object _ here => by simp [here]
      · cases raised

theorem attains_compensate {finalKey : VideoObjectKey} {state : State}
    (here : state.2.stage = .created finalKey ∨
      state.2.stage = .interrupted finalKey) :
    Attains Responds (compensateFinalIfUnreferenced finalKey true) state
      fun _ after => Ended after := by
  have begun : state.2.stage.compensate = .compensating finalKey := by
    rcases here with stage | stage
    · rw [stage]
      rfl
    · rw [stage]
      rfl
  have compensated : Attains Responds (do
      if ← WorkerProgram.invoke (.videoReferenced finalKey) then return ()
      else WorkerProgram.invoke (.remove (.video finalKey))) state
      fun _ after => Ended after := by
    apply attains_bind
    apply attains_perform
    rintro reply ⟨stores, notes⟩ ⟨⟨choice, performed⟩, noted⟩
    have changed : notes = state.2.note (.videoReferenced finalKey) reply :=
      noted
    subst changed
    cases reply with
    | error fault => exact ended_of_stage (.inr (.inr rfl)) begun
    | ok answer =>
        rcases Stores.perform_cases performed with ⟨_, fault, _, raised⟩ |
          ⟨draw, effect, returned | ⟨fault, _, raised⟩⟩
        · cases raised
        · have same : stores = state.1 := effect
          subst same
          dsimp only
          split
          · rename_i referenced
            have listed : (state.1.database.videos.rows.any
                fun video => video.objectKey = finalKey) = true :=
              (Except.ok.inj returned).symm.trans referenced
            obtain ⟨video, member, named⟩ := List.any_eq_true.mp listed
            exact attains_done (ended_of_stage
              (.inr (.inl ⟨video, member, of_decide_eq_true named⟩)) begun)
          · exact attains_remove begun
        · cases raised
  apply attains_rescue
  refine Attains.mono compensated fun outcome after ended => ?_
  cases outcome with
  | ok _ => exact ended
  | error fault =>
      dsimp only
      split
      · exact attains_done ended
      · exact ended

theorem preserves_withTemporaryDirectory {α : Type} {body : WorkerProgram α}
    (preserved : Preserves Responds Unpublished body) :
    Preserves Responds Unpublished (withTemporaryDirectory body) :=
  (preserves_unpublished rfl).bind fun _ =>
    preserved.ensure (preserves_unpublished rfl)

theorem preserves_verifyFinal (finalKey : VideoObjectKey) (digest : Digest)
    (size : Nat) :
    Preserves Responds Unpublished (verifyFinal finalKey digest size) := by
  apply preserves_withTemporaryDirectory
  apply (preserves_unpublished rfl).bind
  intro content
  apply (preserves_unpublished rfl).bind
  intro hashed
  dsimp only
  split
  · exact preserves_done _
  · apply (preserves_unpublished rfl).bind
    intro probe
    apply (preserves_unpublished rfl).bind
    intro _
    split
    · exact preserves_done _
    · exact preserves_done _

def Published (finalKey : VideoObjectKey) (outcome : Except WorkerFault Bool)
    (state : State) : Prop :=
  match outcome with
  | .ok true => Created finalKey state
  | .ok false => Unpublished state
  | .error _ => Ended state

theorem copy_creates {stagingKey : StorageKey} {finalKey : VideoObjectKey}
    {state : State} (unpublished : Unpublished state) :
    Attains Responds
      (WorkerProgram.invoke (.copy stagingKey (.video finalKey))) state
      fun outcome after => match outcome with
        | .ok _ => Created finalKey after
        | .error _ => Ended after := by
  apply attains_perform
  rintro reply ⟨stores, notes⟩ ⟨⟨choice, performed⟩, noted⟩
  have changed : notes =
    state.2.note (.copy stagingKey (.video finalKey)) reply := noted
  subst changed
  cases reply with
  | error fault =>
      have still : state.2.note (.copy stagingKey (.video finalKey))
          (.error fault) = state.2 := by
        simp [Notes.note, isGuarded]
      dsimp only
      rw [still]
      unfold Ended
      dsimp only
      rw [unpublished.stage]
      trivial
  | ok _ =>
      obtain ⟨reelId, known, unready⟩ := unpublished.unready
      rcases Stores.perform_cases performed with ⟨_, fault, _, raised⟩ |
        ⟨draw, effect, returned | ⟨fault, _, raised⟩⟩
      · cases raised
      · have taken : stores = (state.1.withObject stagingKey fun object =>
          (state.1.writeObject { object with key := .video finalKey },
            (.ok () : Except WorkerFault Unit))).1 := effect
        have answer : Except.ok () = (state.1.withObject stagingKey fun object =>
          (state.1.writeObject { object with key := .video finalKey },
            (.ok () : Except WorkerFault Unit))).2 := returned
        unfold Stores.withObject at taken answer
        split at taken
        · rename_i object found
          subst taken
          refine ⟨rfl, ?_, unpublished.whole, reelId, known, unready⟩
          have stored : (state.1.writeObject
              { object with key := .video finalKey }).objects.find?
                (.video finalKey) = some { object with key := .video finalKey } :=
            Table.find?_upsert_self
          dsimp only
          rw [stored]
          simp
        · rename_i missing
          rw [missing] at answer
          cases answer
      · cases raised

theorem attains_publishFinal {stagingKey : StorageKey}
    {finalKey : VideoObjectKey} {output : Bytes} {state : State}
    (unpublished : Unpublished state) :
    Attains Responds (publishFinal stagingKey finalKey output) state
      (Published finalKey) := by
  apply attains_bind
  refine Attains.mono (preserves_unpublished rfl state unpublished)
    fun hashed here unpublished => ?_
  cases hashed with
  | error fault => exact unpublished.ended
  | ok answer =>
      obtain ⟨digest, size⟩ := answer
      apply attains_attempt
      refine Attains.mono (preserves_unpublished rfl here unpublished)
        fun stated there unpublished => ?_
      split
      · apply attains_bind
        refine Attains.mono (copy_creates unpublished)
          fun copied after holds => ?_
        cases copied with
        | error fault => exact holds
        | ok _ =>
            apply attains_bind
            apply attains_rescue
            refine Attains.mono (attains_verifyFinal holds)
              fun verified last checked => ?_
            obtain ⟨stands, shape⟩ := checked
            cases verified with
            | ok _ => exact attains_done ⟨shape, stands⟩
            | error fault =>
                dsimp only at shape ⊢
                split
                · apply attains_bind
                  refine Attains.mono (attains_compensate
                    (shape.symm.imp And.left id)) fun settled final ended => ?_
                  cases settled with
                  | ok _ => exact attains_done ended
                  | error later => exact ended
                · rename_i uncaught
                  exact ended_of_interrupted stands
                    (shape.resolve_right fun created =>
                      uncaught (by simp [WorkerFault.isException, created.2]))
      · exact attains_done unpublished.ended
      · split
        · exact attains_done unpublished.ended
        · apply attains_bind
          refine Attains.mono (preserves_verifyFinal _ _ _ there unpublished)
            fun verified after unpublished => ?_
          cases verified with
          | ok _ => exact attains_done unpublished
          | error fault => exact unpublished.ended

/-- The callback and the worker's cancellation are asked outside of any
handler. -/
theorem attains_finalPublished {claimed : ClaimedNormalizationJob}
    {finalKey : VideoObjectKey} {state : State}
    (created : Created finalKey state) :
    Attains Responds (emit claimed "final_published" none) state
      fun outcome after => match outcome with
        | .ok _ => Created finalKey after
        | .error _ => Ended after := by
  apply attains_perform
  rintro reply ⟨stores, notes⟩ ⟨⟨choice, performed⟩, noted⟩
  have same : stores = state.1 := by
    rcases perform_state performed with same | ⟨draw, effect⟩
    · exact same
    · exact effect
  have changed : notes =
    state.2.note (.emit claimed "final_published" none) reply := noted
  subst same
  subst changed
  cases reply with
  | ok _ => exact created
  | error fault =>
      have interrupted : state.2.interrupt.stage = .interrupted finalKey := by
        simp [Notes.interrupt, Stage.interrupt, created.stage]
      exact ended_of_interrupted created.stands.interrupt interrupted

theorem attains_raiseIfCancelled {finalKey : VideoObjectKey} {state : State}
    (created : Created finalKey state) :
    Attains Responds raiseIfCancelled state
      fun outcome after => match outcome with
        | .ok _ => Created finalKey after
        | .error _ => Ended after := by
  apply attains_bind
  apply attains_perform
  rintro reply ⟨stores, notes⟩ ⟨⟨choice, performed⟩, noted⟩
  have same : stores = state.1 := by
    rcases perform_state performed with same | ⟨draw, effect⟩
    · exact same
    · exact effect
  have changed : notes = state.2.note .isCancelled reply := noted
  subst same
  subst changed
  have interrupted : Ended (state.1, state.2.interrupt) :=
    ended_of_interrupted created.stands.interrupt
      (by simp [Notes.interrupt, Stage.interrupt, created.stage])
  rcases reply with fault | answer
  · exact interrupted
  · cases answer
    · exact attains_done created
    · exact attains_done interrupted

theorem commitReady_references {database after : Database}
    {now createdAt : Time} {videoId : UUID} {workerId : String}
    {claimed : ClaimedNormalizationJob} {output : NormalizedOutput}
    (committed : commitReady database now createdAt videoId workerId claimed
      output = .ok after) : Referenced after output.finalKey := by
  obtain ⟨job, reel, duration, upserted, result, _, _, _, stored, _, rfl⟩ :=
    commitReady_eq_ok committed
  rcases Videos.upsert_eq_ok stored with
    ⟨rfl, member, named, _⟩ | ⟨rfl, videos, inserted, rfl⟩
  · exact ⟨result.video, member, named⟩
  · exact ⟨_, (Table.mem_insert? inserted).mpr (.inr rfl), rfl⟩

theorem commitReady_effect {stores : Stores} {draw : WorkerDraw}
    {workerId : String} {claimed : ClaimedNormalizationJob}
    {output : NormalizedOutput} :
    (stores.effect draw (.commitReady workerId claimed output)).1 = stores ∧
        (∃ fault, (stores.effect draw
          (.commitReady workerId claimed output)).2 = .error fault) ∨
      Referenced (stores.effect draw
        (.commitReady workerId claimed output)).1.database output.finalKey := by
  dsimp only [Stores.effect]
  cases committed : commitReady stores.database draw.now draw.createdAt
      draw.videoId workerId claimed output with
  | ok database => exact .inr (commitReady_references committed)
  | error fault => exact .inl ⟨rfl, _, rfl⟩

theorem note_commitReady (notes : Notes) {workerId : String}
    {claimed : ClaimedNormalizationJob} {output : NormalizedOutput}
    (reply : Except WorkerFault Unit) :
    notes.note (.commitReady workerId claimed output) reply =
      match reply with
      | .ok _ => notes
      | .error fault =>
          if fault = .baseException then notes.interrupt else notes := by
  cases reply <;> simp [Notes.note, isGuarded]

/-- The answer of the commit; a lost one may have taken effect. -/
theorem attains_commitReady {workerId : String}
    {claimed : ClaimedNormalizationJob} {output : NormalizedOutput}
    {state : State} (created : Created output.finalKey state) :
    Attains Responds
      (WorkerProgram.invoke (.commitReady workerId claimed output)) state
      fun outcome after => match outcome with
        | .ok _ => Ended after
        | .error fault =>
            (fault.isException = false → Ended after) ∧
              (after.2.stage = .created output.finalKey ∨
                after.2.stage = .interrupted output.finalKey) := by
  apply attains_perform
  rintro reply ⟨stores, notes⟩ ⟨⟨choice, performed⟩, noted⟩
  have changed : notes =
    state.2.note (.commitReady workerId claimed output) reply := noted
  rw [note_commitReady] at changed
  have committed : (stores = state.1 ∧ ∃ fault, reply = .error fault) ∨
      Referenced stores.database output.finalKey := by
    rcases Stores.perform_cases performed with ⟨same, fault, _, raised⟩ |
      ⟨draw, effect, answer⟩
    · exact .inl ⟨same, fault, raised⟩
    · have taken : stores = (state.1.effect draw
        (.commitReady workerId claimed output)).1 := effect
      rw [taken]
      rcases commitReady_effect with ⟨same, fault, refused⟩ | referenced
      · rcases answer with returned | ⟨lost, _, raised⟩
        · exact .inl ⟨same, fault, returned.trans refused⟩
        · exact .inl ⟨same, lost, raised⟩
      · exact .inr referenced
  have interrupted : state.2.interrupt.stage = .interrupted output.finalKey := by
    simp [Notes.interrupt, Stage.interrupt, created.stage]
  cases reply with
  | ok _ =>
      subst changed
      rcases committed with ⟨_, fault, clash⟩ | referenced
      · cases clash
      · unfold Ended
        dsimp only
        rw [created.stage]
        exact referenced
  | error fault =>
      dsimp only at changed
      split at changed
      · subst changed
        refine ⟨fun _ => ?_, .inr interrupted⟩
        rcases committed with ⟨rfl, _⟩ | referenced
        · exact ended_of_interrupted created.stands.interrupt interrupted
        · unfold Ended
          dsimp only
          rw [interrupted]
          exact .inl referenced
      · rename_i exception
        subst changed
        refine ⟨fun uncaught => ?_, .inl created.stage⟩
        exact absurd (by simpa [WorkerFault.isException] using uncaught) exception

theorem commitReady_unpublished {workerId : String}
    {claimed : ClaimedNormalizationJob} {output : NormalizedOutput}
    {state : State} (unpublished : Unpublished state) :
    Attains Responds
      (WorkerProgram.invoke (.commitReady workerId claimed output)) state
      fun _ after => Ended after := by
  apply attains_perform
  rintro reply ⟨stores, notes⟩ ⟨⟨choice, performed⟩, noted⟩
  have changed : notes =
    state.2.note (.commitReady workerId claimed output) reply := noted
  rw [note_commitReady, interrupt_unpublished unpublished.stage] at changed
  have still : notes = state.2 := by
    rw [changed]
    cases reply with
    | ok _ => rfl
    | error fault => exact ite_self _
  subst still
  unfold Ended
  dsimp only
  rw [unpublished.stage]
  trivial

theorem attains_commitOutput {worker : InstagramNormalizerWorker}
    {claimed : ClaimedNormalizationJob} {output : NormalizedOutput}
    {created : Bool} {state : State}
    (published : Published output.finalKey (.ok created) state) :
    Attains Responds (commitOutput worker claimed output created) state
      fun _ after => Ended after := by
  apply attains_rescue
  cases created with
  | true =>
      refine Attains.mono (attains_commitReady published)
        fun outcome after holds => ?_
      cases outcome with
      | ok _ => exact holds
      | error fault =>
          obtain ⟨uncaught, stage⟩ := holds
          dsimp only
          split
          · apply attains_bind
            refine Attains.mono (attains_compensate stage)
              fun settled last ended => ?_
            cases settled with
            | ok _ => exact attains_done ended
            | error later => exact ended
          · rename_i passes
            exact uncaught (by simpa using passes)
  | false =>
      refine Attains.mono (commitReady_unpublished published)
        fun outcome after ended => ?_
      cases outcome with
      | ok _ => exact ended
      | error fault =>
          dsimp only
          split
          · apply attains_bind
            exact attains_done (attains_done ended)
          · exact ended

theorem prepare_bind {α β : Type} {program : WorkerProgram α}
    {next : α → WorkerProgram β} {state : State}
    (preserved : Preserves Responds Unpublished program)
    (unpublished : Unpublished state)
    (rest : ∀ value after, Unpublished after →
      Attains Responds (next value) after fun _ last => Ended last) :
    Attains Responds (program >>= next) state fun _ after => Ended after := by
  apply attains_bind
  refine Attains.mono (preserved state unpublished)
    fun outcome after holds => ?_
  cases outcome with
  | ok value => exact rest value after holds
  | error fault => exact holds.ended

theorem preserves_raiseIfCancelled :
    Preserves Responds Unpublished raiseIfCancelled := by
  apply (preserves_unpublished rfl).bind
  intro cancelled
  split
  · exact preserves_done _
  · exact preserves_done _

theorem attains_commit {worker : InstagramNormalizerWorker}
    {claimed : ClaimedNormalizationJob} {output : NormalizedOutput}
    {created : Bool} {state : State}
    (published : Published output.finalKey (.ok created) state) :
    Attains Responds (do
      emit claimed "final_published" none
      raiseIfCancelled
      commitOutput worker claimed output created
      emit claimed "db_committed" none
      cleanupSourceAfterCommit claimed
      emit claimed "completed" none) state fun _ after => Ended after := by
  have finishes : ∀ after : State,
      Published output.finalKey (.ok created) after →
      Attains Responds (do
        commitOutput worker claimed output created
        emit claimed "db_committed" none
        cleanupSourceAfterCommit claimed
        emit claimed "completed" none) after fun _ last => Ended last := by
    intro after published
    apply attains_bind
    refine Attains.mono (attains_commitOutput published)
      fun committed last ended => ?_
    cases committed with
    | error fault => exact ended
    | ok _ =>
        have winds : Preserves Responds Ended (do
            emit claimed "db_committed" none
            cleanupSourceAfterCommit claimed
            emit claimed "completed" none) := by
          apply (preserves_emit claimed none (by decide)).bind
          intro _
          apply (preserves_cleanupSource claimed).bind
          intro _
          exact preserves_emit claimed none (by decide)
        exact winds last ended
  cases created with
  | false =>
      apply prepare_bind (preserves_unpublished rfl) published
      intro _ emitted unpublished
      apply prepare_bind preserves_raiseIfCancelled unpublished
      intro _ probed unpublished
      exact finishes probed unpublished
  | true =>
      apply attains_bind
      refine Attains.mono (attains_finalPublished published)
        fun emitted after holds => ?_
      cases emitted with
      | error fault => exact holds
      | ok _ =>
          apply attains_bind
          refine Attains.mono (attains_raiseIfCancelled holds)
            fun probed last holds => ?_
          cases probed with
          | error fault => exact holds
          | ok _ => exact finishes last holds

theorem attains_publishNormalized {worker : InstagramNormalizerWorker}
    {claimed : ClaimedNormalizationJob} {normalized : NormalizedMedia}
    {state : State} (unpublished : Unpublished state) :
    Attains Responds (publishNormalized worker claimed normalized) state
      fun _ after => Ended after := by
  apply prepare_bind (preserves_unpublished rfl) unpublished
  intro _ emitted unpublished
  apply prepare_bind preserves_raiseIfCancelled unpublished
  intro _ probed unpublished
  split
  · exact attains_done unpublished.ended
  · apply prepare_bind (preserves_unpublished rfl) unpublished
    intro hashed here unpublished
    obtain ⟨digest, size⟩ := hashed
    apply prepare_bind (preserves_unpublished rfl) unpublished
    intro _ uploaded unpublished
    apply prepare_bind (preserves_unpublished rfl) unpublished
    intro _ reported unpublished
    apply attains_bind
    refine Attains.mono (attains_publishFinal unpublished)
      fun published after holds => ?_
    cases published with
    | error fault => exact holds
    | ok created =>
        have published : Published (outputOf normalized digest size).finalKey
          (.ok created) after := holds
        exact attains_commit published

theorem preserves_downloadAndVerifySource (claimed : ClaimedNormalizationJob) :
    Preserves Responds Unpublished (downloadAndVerifySource claimed) := by
  apply (preserves_unpublished rfl).bind
  intro metadata
  split
  · exact preserves_done _
  · apply (preserves_unpublished rfl).bind
    intro content
    apply (preserves_unpublished rfl).bind
    intro hashed
    dsimp only
    split
    · exact preserves_done _
    · split
      · exact preserves_done _
      · apply (preserves_unpublished rfl).bind
        intro _
        exact preserves_done _

theorem attains_process {worker : InstagramNormalizerWorker}
    {claimed : ClaimedNormalizationJob} {state : State}
    (unpublished : Unpublished state) :
    Attains Responds (worker.process claimed) state
      fun _ after => Ended after := by
  apply prepare_bind preserves_raiseIfCancelled unpublished
  intro _ probed unpublished
  apply prepare_bind (preserves_unpublished rfl) unpublished
  intro _ opened unpublished
  refine Attains.ensure ?_ fun outcome after ended =>
    preserves_ended rfl after ended
  apply prepare_bind (preserves_downloadAndVerifySource claimed) unpublished
  intro source downloaded unpublished
  apply prepare_bind (preserves_unpublished rfl) unpublished
  intro _ emitted unpublished
  apply prepare_bind preserves_raiseIfCancelled unpublished
  intro _ cleared unpublished
  apply prepare_bind (preserves_unpublished rfl) unpublished
  intro normalized produced unpublished
  exact Attains.ensure (attains_publishNormalized unpublished)
    fun outcome after ended => preserves_ended rfl after ended

theorem attains_attemptClaimed {worker : InstagramNormalizerWorker}
    {claimed : ClaimedNormalizationJob} {state : State}
    (unpublished : Unpublished state) :
    Attains Responds (worker.attemptClaimed claimed) state
      fun _ after => Ended after := by
  refine Attains.ensure ?_ fun outcome after ended =>
    preserves_cleanupStaging claimed.stagingPrefix after ended
  apply attains_attempt
  refine Attains.mono (attains_process unpublished) fun outcome after ended => ?_
  cases outcome with
  | ok _ => exact attains_done ended
  | error fault => exact preserves_handleFault worker claimed fault after ended

theorem claim_unready {database after : Database} {now : Time}
    {locked : List UUID} {workerId : String} {leaseSeconds : Nat}
    {claimed : ClaimedNormalizationJob}
    (claims : Normalizer.claim database now locked workerId leaseSeconds =
      .ok (after, some claimed)) : ¬Ready after claimed.reelId := by
  rcases claim_eq_ok claims with ⟨_, clash⟩ | ⟨job, reel, selected, rest⟩
  · cases clash
  · obtain ⟨_, member, _⟩ := mem_claimable selected
    rcases rest with ⟨_, clash, _⟩ | ⟨_, ⟨source, _, shape⟩, rfl⟩
    · cases clash
    · cases shape
      have found : database.reels.find? reel.id = some reel :=
        Table.find?_eq_some.mpr ⟨member, rfl⟩
      have written : (database.reels.put
          { reel with pipelineStatus := .normalizing }).find? reel.id =
            some { reel with pipelineStatus := .normalizing } :=
        Table.find?_put_self found rfl
      rintro ⟨row, rowFound, ready⟩
      cases written.symm.trans rowFound
      cases ready

theorem attains_claim {workerId : String} {leaseSeconds : Nat} {state : State}
    (stage : state.2.stage = .unpublished)
    (whole : state.2.compensationFailed = false) :
    Attains Responds (WorkerProgram.invoke (.claim workerId leaseSeconds)) state
      fun outcome after => after.2.stage = .unpublished ∧
        ∀ claimed, outcome = .ok (some claimed) → Unpublished after := by
  apply attains_perform
  rintro reply ⟨stores, notes⟩ ⟨⟨choice, performed⟩, noted⟩
  have changed : notes = state.2.note (.claim workerId leaseSeconds) reply :=
    noted
  subst changed
  rcases reply with fault | answer
  · refine ⟨?_, fun claimed clash => by cases clash⟩
    simpa [Notes.note, isGuarded] using stage
  · cases answer with
    | none => exact ⟨stage, fun claimed clash => by cases clash⟩
    | some claimed =>
        refine ⟨stage, fun _ _ => ⟨stage, whole, claimed.reelId, rfl, ?_⟩⟩
        rcases Stores.perform_cases performed with ⟨_, fault, _, raised⟩ |
          ⟨draw, effect, returned | ⟨fault, _, raised⟩⟩
        · cases raised
        · have taken : stores = (state.1.transaction (Normalizer.claim
            state.1.database draw.now draw.locked workerId leaseSeconds)).1 :=
              effect
          have answer : Except.ok (some claimed) =
            (state.1.transaction (Normalizer.claim state.1.database draw.now
              draw.locked workerId leaseSeconds)).2 := returned
          subst taken
          cases claims : Normalizer.claim state.1.database draw.now draw.locked
              workerId leaseSeconds with
          | error error =>
              rw [claims] at answer
              cases answer
          | ok result =>
              obtain ⟨database, value⟩ := result
              rw [claims] at answer
              have same : some claimed = value := Except.ok.inj answer
              subst same
              exact claim_unready claims
        · cases raised

theorem ended_of_unpublished {state : State}
    (stage : state.2.stage = .unpublished) : Ended state := by
  unfold Ended
  rw [stage]
  trivial

/-- However an attempt goes, one of the four ends is reached. -/
theorem attains_runOnce (worker : InstagramNormalizerWorker) (stores : Stores) :
    Attains Responds worker.runOnce (stores, {}) fun _ after =>
      Ended after := by
  have probed : ∀ state : State, state.2.stage = .unpublished →
      state.2.compensationFailed = false →
      Attains Responds (WorkerProgram.invoke .isCancelled) state
        fun _ after => after.2.stage = .unpublished ∧
          after.2.compensationFailed = false := by
    intro state stage whole
    apply attains_perform
    rintro reply after ⟨_, noted⟩
    rw [note_prepares rfl stage] at noted
    rw [noted]
    exact ⟨stage, whole⟩
  apply attains_bind
  refine Attains.mono (probed _ rfl rfl) fun cancelled here holds => ?_
  obtain ⟨stage, whole⟩ := holds
  cases cancelled with
  | error fault => exact ended_of_unpublished stage
  | ok answer =>
      dsimp only
      split
      · exact attains_done (ended_of_unpublished stage)
      · apply attains_bind
        apply attains_bind
        apply attains_bind
        refine Attains.mono (probed here stage whole)
          fun again there holds => ?_
        obtain ⟨stage, whole⟩ := holds
        cases again with
        | error fault => exact ended_of_unpublished stage
        | ok answer =>
            dsimp only
            split
            · exact attains_done (ended_of_unpublished stage)
            · apply attains_done
              refine Attains.mono (attains_claim stage whole)
                fun outcome after holds => ?_
              obtain ⟨stage, held⟩ := holds
              rcases outcome with fault | claimed
              · exact ended_of_unpublished stage
              · cases claimed with
                | none => exact attains_done (ended_of_unpublished stage)
                | some claimed =>
                    apply prepare_bind (preserves_unpublished rfl)
                      (held claimed rfl)
                    intro _ reported unpublished
                    apply attains_bind
                    refine Attains.mono (attains_attemptClaimed unpublished)
                      fun attempted last ended => ?_
                    cases attempted with
                    | ok _ => exact attains_done ended
                    | error fault => exact ended

/-- An attempt leaves an object that no Video names exactly if it was
interrupted between the copy and the end of the commit. -/
theorem orphan_iff_interrupted {worker : InstagramNormalizerWorker}
    {stores : Stores} {outcome : Except WorkerFault Bool} {after : State}
    (played : worker.runOnce.Plays Responds (stores, {}) outcome after) :
    LeavesNoOrphan after ↔ ∀ finalKey,
      after.2.stage = .interrupted finalKey →
        Referenced after.1.database finalKey :=
  (attains_runOnce worker stores outcome after played).leavesNoOrphan_iff

def respond (state : State) (request : WorkerCall) (choice : WorkerChoice) :
    Option (Except WorkerFault (WorkerReply request) × State) :=
  (state.1.perform request choice).map fun (stores, reply) =>
    (reply, stores, state.2.note request reply)

theorem respond_responds (state : State) (request : WorkerCall)
    (choice : WorkerChoice) (reply : Except WorkerFault (WorkerReply request))
    (after : State)
    (responded : respond state request choice = some (reply, after)) :
    Responds state request reply after := by
  obtain ⟨⟨stores, answer⟩, performed, shape⟩ :=
    Option.map_eq_some_iff.mp responded
  cases shape
  exact ⟨⟨choice, performed⟩, rfl⟩

def sampleStores : Stores where
  database :=
    { Database.empty with
      reels := ⟨[Publication.waitingReel],
        Publication.waitingReel_keyed⟩
      jobs := ⟨[Collector.Persistence.pendingJob 0 3 2 0],
        Publication.sampleJobs_keyed⟩ }
  objects := ⟨[⟨.source ⟨"A"⟩, [0], "video/mp4"⟩], by decide⟩

def sampleDraw : WorkerDraw where
  videoId := 8
  newJob := 9
  probe := JobLifecycle.canonicalOutput.probe
  normalized := ⟨[1], .passthrough, JobLifecycle.canonicalOutput.probe,
    JobLifecycle.canonicalOutput.probe⟩

def failAt (position length : Nat) : List WorkerChoice :=
  (List.range length).map fun index =>
    if index = position then .refused .otherException else .returns sampleDraw

def leftAfter (position length : Nat) :
    Option (Option (Except WorkerFault Bool) × Notes × Bool × Bool × Bool) :=
  (walk respond (failAt position length) Publication.sampleWorker.runOnce
    (sampleStores, {})).map fun (rest, after) =>
      (rest.result?, after.2,
        (after.1.objects.find? (.video ⟨sha256 [1]⟩)).isSome,
        after.1.database.videos.rows.isEmpty,
        decide (Ready after.1.database 2))

theorem plays_leftAfter {position length : Nat}
    {outcome : Except WorkerFault Bool} {notes : Notes}
    {stored named ready : Bool}
    (left : leftAfter position length =
      some (some outcome, notes, stored, named, ready)) :
    ∃ after, Publication.sampleWorker.runOnce.Plays Responds (sampleStores, {})
        outcome after ∧
      after.2 = notes ∧
      (after.1.objects.find? (.video ⟨sha256 [1]⟩)).isSome = stored ∧
      after.1.database.videos.rows.isEmpty = named ∧
      decide (Ready after.1.database 2) = ready := by
  obtain ⟨⟨rest, after⟩, walked, same⟩ := Option.map_eq_some_iff.mp left
  simp only [Prod.mk.injEq] at same
  obtain ⟨ended, noted, present, videos, state⟩ := same
  exact ⟨after, plays_walk respond_responds walked ended, noted, present,
    videos, state⟩

/-- The object that was created cannot be read back and is removed again. -/
theorem failed_check_compensated :
    ∃ after, Publication.sampleWorker.runOnce.Plays Responds (sampleStores, {})
        (.ok true) after ∧
      after.2.stage = .compensating ⟨sha256 [1]⟩ ∧ LeavesNoOrphan after := by
  have left : leftAfter 22 32 = some (some (.ok true),
      { stage := .compensating ⟨sha256 [1]⟩
        reelId := some 2
        compensationFailed := false }, false, true, false) := by
    decide +kernel
  obtain ⟨after, played, noted, _⟩ := plays_leftAfter left
  refine ⟨after, played, by rw [noted], (orphan_iff_interrupted played).mpr ?_⟩
  intro finalKey interrupted
  rw [noted] at interrupted
  cases interrupted

/-- The progress callback raises once the object is published: it stays, and
no Video names it. -/
theorem callback_leaves_orphan :
    ∃ after, Publication.sampleWorker.runOnce.Plays Responds (sampleStores, {})
        (.ok true) after ∧ ¬LeavesNoOrphan after := by
  have left : leftAfter 27 34 = some (some (.ok true),
      { stage := .interrupted ⟨sha256 [1]⟩
        reelId := some 2
        compensationFailed := false }, true, true, false) := by
    decide +kernel
  obtain ⟨after, played, noted, stored, videos, unready⟩ := plays_leftAfter left
  refine ⟨after, played, fun clean => ?_⟩
  rcases clean 2 ⟨sha256 [1]⟩ (by rw [noted]) (by rw [noted]; rfl)
    (of_decide_eq_false unready) with absent | ⟨video, member, _⟩ | failed
  · rw [absent] at stored
    cases stored
  · rw [Table.mem_def, List.isEmpty_iff.mp videos] at member
    cases member
  · rw [noted] at failed
    cases failed

end OfflineReels.Normalizer.FinalObjects
