import OfflineReels.Offline.QueueAttempts

namespace OfflineReels.Offline.PumpWork

open OfflineReels.Foundation
open OfflineReels.Foundation.Program
open OfflineReels.Instagram
open OfflineReels.Offline.OfflineDownloadQueue
open OfflineReels.Offline.DownloadMarks
open OfflineReels.Offline.PumpRounds (queued)
open OfflineReels.Offline.QueueStarts

/-! What a pump does between its calls, whoever waits for it.  Its work is
spoiled by a failing read, and by an answer after which the download may pause
the queue; a download that is over leaves the pump between two. -/

inductive Work
  | apart
  | between
  | under (next : StoredVideo)
  | spoiled
  deriving DecidableEq

/-- Nothing fails with an error that pauses, reads succeed, and no record was
viewed or deleted. -/
def isCalmBrowse : (input : BrowserCall) →
    Except JsError (BrowserReply input) → Bool
  | .getVideo requested, .ok found => found.all fun record =>
      record.id = requested && !record.isTombstone
  | .getVideo _, .error _ | .now, .error _ => false
  | _, .error error => !pauses error
  | _, .ok _ => true

/-- There is enough space as well, and nobody aborts. -/
def isCalmDownload (byteSize : Nat) : (input : DownloadCall) →
    Except JsError (DownloadReply input) → Bool
  | .browse input, reply => isCalmBrowse input reply
  | .getStorageEstimate, .ok estimate =>
      Downloader.hasEstimatedSpaceForDownload byteSize estimate
  | .getStorageEstimate, .error _ => false
  | .signalAborted, .ok aborted => !aborted
  | _, .error error => !pauses error
  | _, .ok _ => true

/-- An answer that does not spoil the work. -/
def isCalm (work : Work) (input : QueueCall)
    (reply : Except JsError (QueueReply input)) : Bool :=
  match work, input, reply with
  | .under next, .download _ input, reply =>
      isCalmDownload next.byteSize input reply
  | .under _, .browse _, .error error => !pauses error
  | .under _, _, reply | .between, _, reply => reply.toBool
  | .apart, _, _ | .spoiled, _, _ => true

/-- A pump writes its own record only, and settles once it is leaving. -/
def permitsWork (phase : StartPhase) (work : Work) (input : QueueCall) :
    Prop :=
  match work, input with
  | .between, .settlePump pump _ => phase = .leaving pump
  | .between, .browse .getAllVideos | .between, .refreshed _ _
  | .between, .pumpTest | .between, .beginDownload _ | .between, .pumpEnded
  | .between, .never => True
  | .between, _ => False
  | .under next, .download _ input => permitsDownload next.id false input
  | .under _, .browse (.deleteMedia _) | .under _, .takeCancelled _
  | .under _, .endDownload _ _ => True
  | .under next, .browse (.deleteVideo videoId) => videoId = next.id
  | .under _, .downloadFailed code => isPausing code = false
  | .under _, _ => False
  | .apart, .settlePump _ _ => False
  | _, _ => True

def advanceWork (work : Work) (input : QueueCall)
    (reply : Except JsError (QueueReply input)) : Work :=
  match input, reply with
  | .join, .ok (.created _) => .between
  | .beginDownload next, .ok (some _) => .under next
  | .endDownload _ _, .ok _ => .between
  | .settlePump _ _, _ => .apart
  | _, _ => if isCalm work input reply then work else .spoiled

abbrev WorkPhase : Type := StartPhase × Work

def workProtocol : Protocol QueueCall QueueReply JsError WorkPhase where
  permits phase input :=
    permitsStart phase.1 input ∧ permitsWork phase.1 phase.2 input
  assumes _ input _ := input ≠ .never
  advance phase input reply :=
    (advanceStart phase.1 input reply, advanceWork phase.2 input reply)

/-! The programs -/

section

variable {α : Type} {phase : StartPhase}

theorem calmBrowse_of {input : BrowserCall}
    {reply : Except JsError (BrowserReply input)}
    (calm : isCalmBrowse input reply = true) :
    assumesBrowse true true input reply := by
  cases reply with
  | ok value =>
      refine ⟨?_, fun _ error clash => by cases clash⟩
      cases input with
      | getVideo requested =>
          intro record member
          cases member
          simp only [isCalmBrowse, Option.all_some, Bool.and_eq_true,
            decide_eq_true_eq, Bool.not_eq_true'] at calm
          exact ⟨calm.1, fun _ => rfl, fun _ => calm.2⟩
      | _ => trivial
  | error error =>
      have mild : isCalmBrowse input (.error error) = !pauses error ∨
          isCalmBrowse input (.error error) = false := by
        cases input <;> first | exact .inl rfl | exact .inr rfl
      refine ⟨?_, fun _ raised same => ?_⟩
      · cases input with
        | getVideo requested => cases calm
        | now => cases calm
        | _ => trivial
      · cases same
        rcases mild with same | same
        · rw [same] at calm
          exact (Bool.not_eq_true' _).mp calm
        · rw [same] at calm
          cases calm

theorem calmDownload_of {byteSize : Nat} {input : DownloadCall}
    {reply : Except JsError (DownloadReply input)}
    (calm : isCalmDownload byteSize input reply = true) :
    assumesDownload true byteSize true input reply := by
  cases input with
  | browse input => exact calmBrowse_of calm
  | getStorageEstimate =>
      cases reply with
      | ok estimate => exact fun _ => calm
      | error error => cases calm
  | signalAborted =>
      cases reply with
      | ok aborted => exact fun _ => (Bool.not_eq_true' aborted).mp calm
      | error error =>
          intro _ raised same
          cases same
          exact (Bool.not_eq_true' _).mp calm
  | _ =>
      intro _ raised same
      subst same
      exact (Bool.not_eq_true' _).mp calm

/-- What a thread does that runs no pump, and a pump whose work is spoiled. -/
theorem quiet_works (calm : phase.calm) {work : Work}
    (unwatched : work = .apart ∨ work = .spoiled) :
    Quiet workProtocol (phase, work) := by
  intro input apart
  obtain ⟨permitted, continues⟩ := rests_exec calm input apart
  rcases unwatched with same | same
  all_goals
    subst same
    refine ⟨⟨permitted, ?_⟩, fun reply heard => ?_⟩
    · cases input with
      | settlePump pump outcome => cases apart
      | _ => trivial
    · refine Prod.ext (continues reply heard) ?_
      cases input with
      | join => cases apart
      | beginDownload next => cases apart
      | endDownload controller videoId => cases apart
      | settlePump pump outcome => cases apart
      | _ => rfl

end

/-! One download -/

section

variable {α : Type} {pump : Nat} {next : StoredVideo}

def Attempted (pump : Nat) (next : StoredVideo) (outcome : Except JsError α)
    (phase : WorkPhase) : Prop :=
  phase.1 = .working pump ∧
    (phase.2 = .spoiled ∨ phase.2 = .under next ∧ Calm outcome)

def Closed (pump : Nat) (outcome : Except JsError α) (phase : WorkPhase) :
    Prop :=
  phase.1 = .working pump ∧
    (phase.2 = .spoiled ∨ phase.2 = .between ∧ ∃ value, outcome = .ok value)

theorem quiet_spoiled (pump : Nat) :
    Quiet workProtocol (.working pump, .spoiled) :=
  quiet_works (calm_working pump) (.inr rfl)

theorem attempted_of_rests {program : QueueProgram α}
    (rests : Rests workProtocol (.working pump, .spoiled) program) :
    Follows workProtocol (.working pump, .spoiled) program
      (Attempted pump next) :=
  Follows.mono rests fun _ _ same => same ▸ ⟨rfl, .inl rfl⟩

theorem downloading_works {program : Downloading α} (controller : Nat)
    (calms : Calms (calmDownload next.id next.byteSize) program) :
    Follows workProtocol (.working pump, .under next)
      (downloading controller program) (Attempted pump next) := by
  induction program with
  | done outcome => exact ⟨rfl, .inr ⟨rfl, calms⟩⟩
  | call input resume ih =>
      obtain ⟨own, continues⟩ := calms
      refine ⟨⟨trivial, own⟩, fun reply _ => ?_⟩
      change Follows workProtocol (.working pump,
        if isCalmDownload next.byteSize input reply then .under next
        else .spoiled) (downloading controller (resume reply)) _
      cases calm : isCalmDownload next.byteSize input reply with
      | true => exact ih reply (continues reply (calmDownload_of calm))
      | false =>
          exact attempted_of_rests
            (rests_downloading (quiet_spoiled pump) controller (resume reply))

theorem advanceWork_browse {input : BrowserCall} (error : JsError) :
    advanceWork (.under next) (.browse input) (.error error) =
      if pauses error then .spoiled else .under next := by
  change (if (!pauses error) = true then Work.under next else .spoiled) = _
  cases pauses error <;> rfl

theorem deleteCachedVideo_works (videoId : UUID) :
    Follows workProtocol (.working pump, .under next)
      ((browsed (deleteCachedVideo videoId)).attempt fun _ => pure ())
      fun outcome phase => outcome = .ok () ∧ phase.1 = .working pump ∧
        (phase.2 = .spoiled ∨ phase.2 = .under next) := by
  refine ⟨⟨trivial, trivial⟩, fun reply _ => ?_⟩
  cases reply with
  | ok deleted => exact ⟨rfl, rfl, .inr rfl⟩
  | error error =>
      refine ⟨rfl, rfl, ?_⟩
      dsimp only [workProtocol]
      rw [advanceWork_browse]
      cases pauses error
      · exact .inr rfl
      · exact .inl rfl

theorem deleteOfflineVideo_works :
    Follows workProtocol (.working pump, .under next)
      (browsed (deleteOfflineVideo next.id)) (Attempted pump next) := by
  refine ⟨⟨trivial, rfl⟩, fun reply _ => ?_⟩
  cases reply with
  | ok _ => exact ⟨rfl, .inr ⟨rfl, calm_ok ()⟩⟩
  | error error =>
      refine ⟨rfl, ?_⟩
      dsimp only [workProtocol]
      rw [advanceWork_browse]
      cases stops : pauses error
      · exact .inr ⟨rfl, calm_error
          (isPausing_toOfflineStorageError stops rfl)⟩
      · exact .inl rfl

theorem attemptDownload_works (controller : Nat) :
    Follows workProtocol (.working pump, .under next)
      (attemptDownload controller next) (Attempted pump next) := by
  have quiet := quiet_spoiled pump
  have calms : Calms (calmDownload next.id next.byteSize)
      (Downloader.downloadVideoForOffline
        (videoOf next.toOfflineVideoRecord)) :=
    calms_downloadVideoForOffline (videoOf next.toOfflineVideoRecord)
  refine (downloading_works controller calms).bind ?_ ?_
  · intro completed phase ⟨works, kept⟩
    obtain ⟨here, work⟩ := phase
    cases works
    rcases kept with spoiled | ⟨under, _⟩
    · cases spoiled
      refine attempted_of_rests ((quiet (.takeCancelled next.id) rfl).bind
        fun cancelled => rests_ite ?_ (rests_pure _))
      refine Rests.bind ?_ fun _ => rests_browsed quiet _
      exact (rests_browsed quiet _).attempt fun _ => rests_pure _
    · cases under
      refine ⟨⟨trivial, trivial⟩, fun reply _ => ?_⟩
      cases reply with
      | error error => exact ⟨rfl, .inl rfl⟩
      | ok cancelled =>
          cases cancelled with
          | false => exact ⟨rfl, .inr ⟨rfl, calm_ok ()⟩⟩
          | true =>
              refine (deleteCachedVideo_works next.id).bind ?_ ?_
              · intro _ phase ⟨_, works, kept⟩
                obtain ⟨here, work⟩ := phase
                cases works
                rcases kept with spoiled | under
                · cases spoiled
                  exact attempted_of_rests (rests_browsed quiet _)
                · cases under
                  exact deleteOfflineVideo_works
              · intro _ _ ⟨failed, _⟩
                cases failed
  · intro error phase ⟨works, kept⟩
    refine ⟨works, kept.imp_right fun under => ⟨under.1, ?_⟩⟩
    exact calm_error (under.2 error rfl)

theorem listing_works {next : List StoredVideo → QueueProgram α}
    (goes : ∀ records, Follows workProtocol (.working pump, .between)
      (next records) (Closed pump)) :
    Follows workProtocol (.working pump, .between)
      (browsed listOfflineVideos >>= next) (Closed pump) := by
  refine ⟨⟨trivial, trivial⟩, fun reply _ => ?_⟩
  cases reply with
  | error error => exact ⟨rfl, .inl rfl⟩
  | ok records => exact goes (sortRecords records)

theorem refreshRecords_works :
    Follows workProtocol (.working pump, .between) refreshRecords
      (Closed pump) := by
  refine listing_works fun records => ?_
  refine ⟨⟨trivial, trivial⟩, fun reply _ => ?_⟩
  cases reply with
  | error error => exact ⟨rfl, .inl rfl⟩
  | ok rows =>
      refine ⟨⟨trivial, trivial⟩, fun reply _ => ?_⟩
      cases reply with
      | error error => exact ⟨rfl, .inl rfl⟩
      | ok _ => exact ⟨rfl, .inr ⟨rfl, (), rfl⟩⟩

theorem endDownload_works (controller : Nat) {work : Work}
    (ends : work = .spoiled ∨ work = .under next) :
    Follows workProtocol (.working pump, work) (do
        exec (.endDownload controller next.id)
        refreshRecords) (Closed pump) := by
  refine ⟨⟨⟨pump, rfl⟩, ?_⟩, fun reply _ => ?_⟩
  · rcases ends with rfl | rfl <;> trivial
  · cases reply with
    | ok _ => exact refreshRecords_works
    | error error =>
        refine ⟨rfl, .inl ?_⟩
        rcases ends with rfl | rfl <;> rfl

theorem downloadNext_works (controller : Nat) :
    Follows workProtocol (.working pump, .under next)
      (downloadNext controller next) (Closed pump) := by
  refine (attemptDownload_works controller).attempt ?_
  intro outcome phase ⟨works, kept⟩
  obtain ⟨here, work⟩ := phase
  cases works
  have ends : work = .spoiled ∨ work = .under next :=
    kept.imp_right And.left
  cases outcome with
  | ok _ => exact endDownload_works controller ends
  | error error =>
      rcases kept with spoiled | ⟨under, calm⟩
      · cases spoiled
        refine ⟨⟨trivial, trivial⟩, fun reply _ => ?_⟩
        cases reply with
        | error raised => exact ⟨rfl, .inl rfl⟩
        | ok _ => exact endDownload_works controller (.inl rfl)
      · cases under
        refine ⟨⟨trivial, calm error rfl⟩, fun reply _ => ?_⟩
        cases reply with
        | error raised => exact ⟨rfl, .inl rfl⟩
        | ok _ => exact endDownload_works controller (.inr rfl)

end

/-! The pump -/

def EndsWork (pump : Nat) (outcome : Except JsError Unit)
    (phase : WorkPhase) : Prop :=
  EndsPump pump outcome phase.1 ∧
    (phase.2 = .spoiled ∨ phase.2 = .between ∧ phase.1 = .leaving pump)

def Work.isFree (work : Work) : Prop := work = .between ∨ work = .spoiled

def isLooping : QueueCall → Bool
  | .browse .getAllVideos | .pumpTest | .pumpEnded => true
  | _ => false

section

variable {work : Work} {pump : Nat}

theorem advanceWork_ok (free : work.isFree) {input : QueueCall}
    (looping : isLooping input = true) (value : QueueReply input) :
    advanceWork work input (.ok value) = work := by
  rcases free with rfl | rfl
  all_goals
    cases input with
    | browse input => rfl
    | pumpTest => rfl
    | pumpEnded => rfl
    | _ => cases looping

theorem advanceWork_error (free : work.isFree) {input : QueueCall}
    (looping : isLooping input = true) (error : JsError) :
    advanceWork work input (.error error) = .spoiled := by
  rcases free with rfl | rfl
  all_goals
    cases input with
    | browse input => rfl
    | pumpTest => rfl
    | pumpEnded => rfl
    | _ => cases looping

theorem permits_looping (free : work.isFree) {phase : StartPhase}
    {input : QueueCall} (looping : isLooping input = true) :
    permitsWork phase work input := by
  rcases free with rfl | rfl
  all_goals
    cases input with
    | browse input =>
        cases input with
        | getAllVideos => trivial
        | _ => cases looping
    | pumpTest => trivial
    | pumpEnded => trivial
    | _ => cases looping

theorem pumpEnded_works (free : work.isFree) :
    Follows workProtocol (.leaving pump, work) (exec .pumpEnded)
      (EndsWork pump) := by
  refine ⟨⟨trivial, permits_looping free rfl⟩, fun reply _ => ?_⟩
  refine ⟨⟨.inr (.inr rfl), fun _ => rfl⟩, ?_⟩
  cases reply with
  | error error =>
      have spoiled : advanceWork work .pumpEnded (.error error) = .spoiled :=
        advanceWork_error free rfl error
      exact .inl spoiled
  | ok _ =>
      dsimp only [workProtocol]
      rw [advanceWork_ok free rfl]
      exact free.symm.imp_right fun between => ⟨between, rfl⟩

/-- A pump whose work is spoiled may settle with an error wherever it is. -/
theorem ends_spoiled {phase : StartPhase} (error : JsError)
    (runs : phase.runs pump) (spoiled : work = .spoiled) :
    EndsWork pump (.error error) (phase, work) :=
  ⟨⟨runs, fun clash => by cases clash⟩, .inl spoiled⟩

theorem pumpTest_works {rounds : Nat} (free : work.isFree)
    (continues : Follows workProtocol (.reading pump, work)
      (OfflineDownloadQueue.pump rounds) (EndsWork pump)) :
    Follows workProtocol (.working pump, work) (do
        let again : Bool ← exec .pumpTest
        if again then OfflineDownloadQueue.pump rounds else exec .pumpEnded)
      (EndsWork pump) := by
  refine ⟨⟨⟨pump, rfl⟩, permits_looping free rfl⟩, fun reply _ => ?_⟩
  cases reply with
  | error error =>
      exact ends_spoiled error (.inr (.inl rfl))
        (advanceWork_error free rfl error)
  | ok again =>
      dsimp only [workProtocol]
      rw [advanceWork_ok free rfl]
      cases again with
      | true => exact continues
      | false => exact pumpEnded_works free

theorem pump_works (rounds : Nat) (free : work.isFree) :
    Follows workProtocol (.reading pump, work)
      (OfflineDownloadQueue.pump rounds) (EndsWork pump) := by
  induction rounds generalizing work with
  | zero =>
      refine ⟨⟨trivial, ?_⟩, fun _ never => absurd rfl never⟩
      rcases free with rfl | rfl <;> trivial
  | succ rounds ih =>
      refine ⟨⟨trivial, permits_looping free rfl⟩, fun reply _ => ?_⟩
      cases reply with
      | error error =>
          have spoiled : advanceWork work (.browse .getAllVideos)
              (.error error) = .spoiled := advanceWork_error free rfl error
          exact ends_spoiled _ (.inl rfl) spoiled
      | ok rows =>
          dsimp only [workProtocol]
          rw [advanceWork_ok free rfl]
          change Follows workProtocol
            (if rows.any (·.status = .queued) then .working pump
              else .leaving pump, work)
            (pumpRound rounds
              ((sortRecords rows).find? (·.status = .queued))) _
          cases found : (sortRecords rows).find? (·.status = .queued) with
          | none =>
              rw [find?_sortRecords.mp found]
              exact pumpEnded_works free
          | some next =>
              rw [queued_of_find? found]
              refine ⟨⟨⟨pump, rfl⟩, ?_⟩, fun reply _ => ?_⟩
              · rcases free with rfl | rfl <;> trivial
              · cases reply with
                | error error =>
                    refine ends_spoiled error (.inr (.inl rfl)) ?_
                    rcases free with rfl | rfl <;> rfl
                | ok begun =>
                    cases begun with
                    | none =>
                        have same : advanceWork work (.beginDownload next)
                            (.ok none) = work := by
                          rcases free with rfl | rfl <;> rfl
                        dsimp only [workProtocol]
                        rw [same]
                        exact pumpEnded_works free
                    | some controller =>
                        refine (downloadNext_works controller).bind ?_ ?_
                        · intro _ phase ⟨works, closed⟩
                          obtain ⟨here, work⟩ := phase
                          cases works
                          have free : work.isFree :=
                            closed.symm.imp_left And.left
                          exact pumpTest_works free (ih free)
                        · intro error phase ⟨works, closed⟩
                          obtain ⟨here, work⟩ := phase
                          cases works
                          refine ends_spoiled error (.inr (.inl rfl)) ?_
                          refine closed.resolve_right ?_
                          intro ⟨_, _, clash⟩
                          cases clash

end

/-! The jobs -/

def Rested (phase : WorkPhase) : Prop := phase.2 = .apart

theorem start_works (rounds : Nat) :
    Follows workProtocol (.idle, .apart) (start rounds)
      fun _ phase => Rested phase := by
  refine ⟨⟨rfl, trivial⟩, fun reply _ => ?_⟩
  cases reply with
  | error error => rfl
  | ok _ =>
      have called : StartPhase.called.calm := fun _ clash => by cases clash
      refine (rests_initializeQueue (quiet_works called (.inl rfl))).before
        (fun _ => ?_) fun error => rfl
      refine ⟨⟨rfl, trivial⟩, fun reply _ => ?_⟩
      cases reply with
      | error error => rfl
      | ok join =>
          cases join with
          | stopped => rfl
          | joined pump => exact ⟨⟨rfl, trivial⟩, fun _ _ => rfl⟩
          | created pump =>
              refine (pump_works rounds (.inl rfl)).attempt ?_
              intro outcome phase ⟨ends, left⟩
              obtain ⟨here, work⟩ := phase
              refine ⟨⟨ends, ?_⟩, fun reply _ => ?_⟩
              · rcases left with spoiled | ⟨between, leaves⟩
                · cases spoiled
                  trivial
                · cases between
                  exact leaves
              · cases reply with
                | error error => rfl
                | ok _ => exact ⟨⟨rfl, trivial⟩, fun _ _ => rfl⟩

theorem program_works (job : QueueJob) :
    Follows workProtocol (.idle, .apart) (program job)
      fun _ phase => Rested phase :=
  have rested : Rested (.idle, .apart) := rfl
  jobs_follow (quiet_works calm_idle (.inl rfl)) rested start_works job

end OfflineReels.Offline.PumpWork
