import OfflineReels.Collector.EngineRules

namespace OfflineReels.Collector.CollectorEngine

open OfflineReels.Foundation
open OfflineReels.Foundation.Program
open OfflineReels.Instagram

/-! Rules for a whole collection.  The walk through the loop is done once, from
what a protocol has to say at each point of one pass. -/

variable {Phase : Type}
variable {protocol : Protocol EngineCall EngineReply CollectorFault Phase}

/-- The properties of phases at the points of the loop. -/
structure CollectStates (Phase : Type) where
  started : Phase → Prop
  watching : Progress → Phase → Prop
  owning : Progress → Bool → Phase → Prop
  detected : Progress → Bool → Option ReelPipelineStatus → Phase → Prop
  acquired : Counts → Progress → Phase → Prop
  enough : Counts → Phase → Prop
  short : Progress → Phase → Prop
  cooled : Progress → Phase → Prop
  moved : Progress → Transition → Phase → Prop
  ended : Phase → Prop
  done : CollectorSummary → Phase → Prop

def observing (progress : Progress) : Progress :=
  { progress with observations := progress.observations + 1 }

def detecting (progress : Progress) : Progress :=
  { progress with seen := progress.candidate.shortcode :: progress.seen }

def processing (progress : Progress) (accountOwned : Bool) : Progress :=
  { progress with
    duplicateSkippedCount := progress.duplicateSkippedCount +
      if accountOwned then 1 else 0 }

def advancing (progress : Progress) (transition : Transition)
    (candidate : ReelCandidate) : Progress :=
  { progress with
    candidate := candidate
    transitionOperations := progress.transitionOperations + 1
    scrollActions := progress.scrollActions + transition.consumedScrollActions
    confirmedAdvances := progress.confirmedAdvances + 1
    position := progress.position + 1 }

def queryOwned (request : CollectRequest) (progress : Progress) :
    EngineProgram Bool :=
  match request.desiredAccountTotal with
  | some _ => ask (.accountHasDurableReel request.accountId
      progress.candidate.shortcode)
  | none => pure false

def detect (progress : Progress) :
    EngineProgram (Option ReelPipelineStatus) := do
  recorded progress.position .detect
  ask .pauseCurrent
  recorded progress.position .pause
  ask (.reelStatus progress.candidate.shortcode)

def coolDown (engine : CollectorEngine) (deadline : Option Int)
    (progress : Progress) : EngineProgram Bool := do
  if engine.limits.cooldownSeconds ≠ 0 then
    requireDeadline deadline
    recorded progress.position .cooldown
    ask (.sleep engine.limits.cooldownSeconds)
  deadlineExpired deadline

def firstCandidate (engine : CollectorEngine) (runId : UUID) :
    EngineProgram ReelCandidate := do
  raiseIfCancelRequested engine runId
  let candidate ← ask .current
  ofExcept (validateCandidate candidate)

structure CollectRules
    (protocol : Protocol EngineCall EngineReply CollectorFault Phase)
    (states : CollectStates Phase) (engine : CollectorEngine)
    (request : CollectRequest) (runId : UUID) : Prop where
  endings : EndRules protocol states.ended runId
  starts : ∀ phase, states.started phase →
    Yields protocol states.ended phase (firstCandidate engine runId)
      fun candidate => states.watching (startingProgress candidate)
  watchingQuiet : ∀ progress, QuietSteady protocol (states.watching progress)
  watchingEnds : ∀ progress phase, states.watching progress phase →
    states.ended phase
  owns : ∀ progress phase, states.watching progress phase →
    engine.limits.maxObservations.any (· ≤ progress.observations) = false →
    Yields protocol states.ended phase (queryOwned request progress)
      (states.owning progress)
  owningEnds : ∀ progress owned phase, states.owning progress owned phase →
    states.ended phase
  detects : ∀ progress owned phase, states.owning progress owned phase →
    (request.desiredAccountTotal.isNone &&
      progress.candidate.shortcode ∈ progress.seen) = false →
    Yields protocol states.ended phase (detect progress)
      (states.detected progress owned)
  processes : ∀ deadline progress owned status phase,
    states.detected progress owned status phase →
    Settles protocol states.ended phase
      (process engine runId deadline
        (processing (detecting (observing progress)) owned) owned status)
      (states.acquired (Counts.ofProgress
        (processing (detecting (observing progress)) owned)))
  counts : ∀ counts progress phase, states.acquired counts progress phase →
    Yields protocol states.ended phase (ask (.summary runId))
      fun stored reached =>
        if request.targetCount ≤ stored.1 + stored.2.1 then
          states.enough counts reached
        else states.short progress reached
  completes : ∀ counts phase, states.enough counts phase →
    Yields protocol states.ended phase (complete request runId counts)
      states.done
  shortQuiet : ∀ progress, QuietSteady protocol (states.short progress)
  shortEnds : ∀ progress phase, states.short progress phase →
    states.ended phase
  cools : ∀ deadline progress phase, states.short progress phase →
    Yields protocol states.ended phase (coolDown engine deadline progress)
      fun _ => states.cooled progress
  cooledQuiet : ∀ progress, QuietSteady protocol (states.cooled progress)
  cooledEnds : ∀ progress phase, states.cooled progress phase →
    states.ended phase
  moves : ∀ deadline progress phase, states.cooled progress phase →
    Yields protocol states.ended phase
      (confirmTransition engine progress.position
        progress.candidate.shortcode deadline
        (engine.limits.maxScrollActions.map (· - progress.scrollActions)))
      (states.moved progress)
  movedEnds : ∀ progress transition phase,
    states.moved progress transition phase → states.ended phase
  confirms : ∀ progress transition candidate phase,
    states.moved progress transition phase →
    transition.nextCandidate = some candidate →
    validateCandidate candidate = .ok candidate →
    (request.desiredAccountTotal.isNone &&
      candidate.shortcode ∈ progress.seen) = false →
    Yields protocol states.ended phase
      (recorded progress.position .transitionConfirmed)
      fun _ => states.watching (advancing progress transition candidate)
  finishes : ∀ summary phase, states.ended phase →
    summary.status ≠ .completed → states.done summary phase
  doneEnds : ∀ summary phase, states.done summary phase → states.ended phase
  doneQuiet : ∀ summary, QuietSteady protocol (states.done summary)

section

variable {states : CollectStates Phase} {engine : CollectorEngine}
variable {request : CollectRequest} {runId : UUID}
variable (rules : CollectRules protocol states engine request runId)
variable {phase : Phase}

include rules

theorem stop_done (counts : Counts) (reason : String)
    (holds : states.ended phase) :
    Settles protocol states.ended phase (stop request runId counts reason)
      states.done :=
  (stop_settles rules.endings request counts reason holds).mono
    fun summary reached stopped =>
      rules.finishes summary reached stopped.1 stopped.2

theorem observation_done (deadline : Option Int) {progress : Progress}
    {continued : Progress → EngineProgram Exit}
    (holds : states.watching progress phase)
    (continues : ∀ processed reached, states.short processed reached →
      Settles protocol states.ended reached (continued processed)
        states.done) :
    Settles protocol states.ended phase
      (observation engine request runId deadline progress continued)
      states.done := by
  unfold observation
  have opened : Yields protocol states.ended phase
      (do
        raiseIfCancelRequested engine runId
        deadlineExpired deadline)
      fun _ => states.watching progress := by
    have quiet := rules.watchingQuiet progress
    have ends := rules.watchingEnds progress
    refine Yields.bind (((raiseIfCancelRequested_leads quiet engine
      runId).yields holds).weaken ends) fun _ _ kept => ?_
    exact ((deadlineExpired_leads quiet deadline).yields kept).weaken ends
  refine keeping_settles opened fun expired reached holds => ?_
  split
  · exact stop_done rules _ _ (rules.watchingEnds _ _ holds)
  split
  · exact stop_done rules _ _ (rules.watchingEnds _ _ holds)
  rename_i _ within
  rw [Bool.not_eq_true] at within
  refine keeping_settles (rules.owns progress reached holds within)
    fun owned reached holds => ?_
  dsimp only
  split
  · exact stop_done rules _ _ (rules.owningEnds _ _ _ holds)
  rename_i fresh
  rw [Bool.not_eq_true] at fresh
  refine keeping_settles (rules.detects progress owned reached holds fresh)
    fun status reached holds => ?_
  have processed := rules.processes deadline progress owned status reached holds
  refine keeping_settles processed fun outcome reached holds => ?_
  cases outcome with
  | error reason => exact stop_done rules _ _ holds
  | ok processed =>
      refine keeping_settles (rules.counts _ processed reached holds)
        fun stored reached holds => ?_
      by_cases enough : request.targetCount ≤ stored.1 + stored.2.1
      · rw [if_pos enough] at holds ⊢
        exact keeping_settles (rules.completes _ reached holds)
          fun _ _ done => done
      · rw [if_neg enough] at holds ⊢
        refine keeping_settles (((deadlineExpired_leads
          (rules.shortQuiet processed) deadline).yields holds).weaken
          (rules.shortEnds processed)) fun late reached holds => ?_
        cases late with
        | true => exact stop_done rules _ _ (rules.shortEnds _ _ holds)
        | false => exact continues processed reached holds

theorem advanceTo_done (deadline : Option Int) {progress : Progress}
    {continued : Progress → EngineProgram Exit}
    (holds : states.short progress phase)
    (continues : ∀ advanced reached, states.watching advanced reached →
      Settles protocol states.ended reached (continued advanced)
        states.done) :
    Settles protocol states.ended phase
      (advanceTo engine request runId deadline progress continued)
      states.done := by
  unfold advanceTo
  dsimp only
  split
  · exact stop_done rules _ _ (rules.shortEnds _ _ holds)
  refine keeping_settles (rules.cools deadline progress phase holds)
    fun expired reached holds => ?_
  split
  · exact stop_done rules _ _ (rules.cooledEnds _ _ holds)
  have moved : Yields protocol states.ended reached
      (do
        raiseIfCancelRequested engine runId
        confirmTransition engine progress.position
          progress.candidate.shortcode deadline
          (engine.limits.maxScrollActions.map (· - progress.scrollActions)))
      (states.moved progress) := by
    refine Yields.bind (((raiseIfCancelRequested_leads
      (rules.cooledQuiet progress) engine runId).yields holds).weaken
      (rules.cooledEnds progress)) fun _ reached kept => ?_
    exact rules.moves deadline progress reached kept
  refine keeping_settles moved fun transition reached holds => ?_
  have ends := rules.movedEnds progress transition reached holds
  cases found : transition.nextCandidate with
  | none =>
      dsimp only
      split
      · exact stop_done rules _ _ ends
      · exact keeping_settles ((deadlineExpired_leads rules.endings.quiet
          deadline).yields ends) fun _ _ kept => stop_done rules _ _ kept
  | some nextCandidate =>
      dsimp only
      cases valid : validateCandidate nextCandidate with
      | error fault => exact stop_done rules _ _ ends
      | ok candidate =>
          obtain ⟨rfl, _⟩ := validateCandidate_eq_ok valid
          dsimp only
          split
          · exact stop_done rules _ _ ends
          · rename_i fresh
            rw [Bool.not_eq_true] at fresh
            exact keeping_settles
              (rules.confirms progress transition candidate reached holds
                found valid fresh)
              fun _ reached kept => continues _ reached kept

theorem loop_done (deadline : Option Int) (remaining : Nat)
    {progress : Progress} (holds : states.watching progress phase) :
    Settles protocol states.ended phase
      (loop engine request runId deadline remaining progress)
      states.done := by
  induction remaining generalizing progress phase with
  | zero =>
      exact observation_done rules deadline holds fun _ _ short =>
        stop_done rules _ _ (rules.shortEnds _ _ short)
  | succ remaining ih =>
      exact observation_done rules deadline holds fun _ _ short =>
        advanceTo_done rules deadline short fun _ _ watching => ih watching

theorem collectRun_done (deadline : Option Int)
    (holds : states.started phase) :
    Yields protocol states.ended phase
      (collectRun engine request runId deadline) states.done := by
  have looped : Settles protocol states.ended phase
      (keeping ⟨0, 0, 0⟩ (firstCandidate engine runId) fun candidate =>
        loop engine request runId deadline engine.limits.maxAdvances
          (startingProgress candidate)) states.done :=
    keeping_settles (rules.starts phase holds) fun _ _ watching =>
      loop_done rules deadline _ watching
  unfold collectRun
  refine Yields.ensure (Yields.bind looped fun exit reached holds => ?_) ?_ ?_
  · cases exit with
    | ok summary => exact holds
    | error interrupted =>
        exact (handleFault_yields rules.endings request interrupted
          holds).mono fun summary reached stopped =>
            rules.finishes summary reached stopped.1 stopped.2
  · intro summary reached done
    exact ((swallow_leads (rules.doneQuiet summary .close rfl)).yields
      done).weaken (rules.doneEnds summary)
  · intro reached ended
    exact (swallow_leads (rules.endings.quiet .close rfl)).yields ended

end

theorem startDeadline_leads {steady : Phase → Prop}
    (quiet : QuietSteady protocol steady) (limits : CollectorLimits) :
    Leads protocol steady steady (startDeadline limits) := by
  unfold startDeadline
  split
  · exact leads_pure fun _ kept => kept
  · exact (quiet .clock rfl).bind (fun _ => leads_pure fun _ kept => kept)
      fun _ kept => kept

theorem collect_yields {ended : Phase → Prop}
    (states : UUID → CollectStates Phase) (engine : CollectorEngine)
    (request : CollectRequest)
    (startedQuiet : ∀ runId, QuietSteady protocol (states runId).started)
    (rules : ∀ runId, argumentsAccepted engine.limits request = true →
      CollectRules protocol (states runId) engine request runId)
    (ends : ∀ runId phase, (states runId).ended phase → ended phase)
    {phase : Phase}
    (obtains : Yields protocol ended phase (obtainRun request)
      fun runId => (states runId).started)
    (refused : ended phase)
    (startedEnds : ∀ runId phase, (states runId).started phase →
      (states runId).ended phase) :
    Yields protocol ended phase (engine.collect request)
      fun summary reached => argumentsAccepted engine.limits request = true ∧
        ∃ runId, (states runId).done summary reached := by
  unfold collect
  split
  · rename_i accepted
    refine Yields.bind obtains fun runId reached started => ?_
    have collected := rules runId accepted
    refine Yields.bind (((startDeadline_leads (startedQuiet runId)
      engine.limits).yields started).weaken fun after kept =>
        ends runId after (startedEnds runId after kept))
      fun deadline after started => ?_
    exact ((collectRun_done collected deadline started).weaken
      (ends runId)).mono fun _ _ done => ⟨accepted, runId, done⟩
  · exact refused

theorem coolDown_leads {steady : Phase → Prop}
    (quiet : QuietSteady protocol steady)
    (recording : RecordingSteady protocol steady) (engine : CollectorEngine)
    (deadline : Option Int) (progress : Progress) :
    Leads protocol steady steady (coolDown engine deadline progress) := by
  have expired := deadlineExpired_leads quiet deadline
  unfold coolDown
  split
  · refine (requireDeadline_leads quiet deadline).bind (fun _ => ?_)
      fun _ kept => kept
    refine (recorded_leads recording _ _).bind (fun _ => ?_) fun _ kept => kept
    exact (quiet (.sleep _) rfl).bind (fun _ => expired) fun _ kept => kept
  · exact expired

theorem complete_leads {working ended : Phase → Prop} {runId : UUID}
    (endings : EndRules protocol ended runId)
    (completes : Leads protocol working ended (ask (.completeRun runId)))
    (completesTotal : ∀ desiredTotal, Leads protocol working ended
      (ask (.completeIfAccountDurableTotal runId desiredTotal)))
    (request : CollectRequest) (counts : Counts) :
    Leads protocol working ended (complete request runId counts) := by
  have completed : Leads protocol working ended
      (match request.desiredAccountTotal with
        | some desiredTotal =>
            ask (.completeIfAccountDurableTotal runId desiredTotal)
        | none => do
            ask (.completeRun runId)
            return true : EngineProgram Bool) := by
    split
    · exact completesTotal _
    · exact completes.bind (fun _ => leads_pure fun _ kept => kept)
        fun _ kept => kept
  have failed : ∀ stored reason, Leads protocol ended ended
      (do
        safeFailRun runId stored
        summarize runId request.targetCount counts reason .failed) :=
    fun stored reason => leads_of_yields fun _ holds =>
      (failed_yields endings _ _ stored reason holds).mono
        fun _ _ shape => shape.1
  refine completed.attempt fun outcome => ?_
  cases outcome with
  | ok finished =>
      cases finished with
      | true =>
          exact leads_of_yields fun _ holds => (summarize_yields
            endings.quiet _ _ _ _ _ holds).mono fun _ _ shape => shape.1
      | false => exact failed _ _
  | error fault =>
      dsimp only
      split
      · exact failed _ _
      · exact leads_raise fun _ kept => kept

theorem process_settles {failed acquired : Phase → Prop} {phase : Phase}
    {engine : CollectorEngine} {runId : UUID} (deadline : Option Int)
    (progress : Progress) (accountOwned : Bool)
    (status : Option ReelPipelineStatus)
    (recording : RecordingSteady protocol acquired)
    (ends : ∀ reached, acquired reached → failed reached)
    (skips : accountOwned = true → acquired phase)
    (available : accountOwned = false →
      status.any (· ∈ [.sourceReady, .normalizing, .ready]) = true →
      Yields protocol failed phase
        (ask (.commitAvailable runId progress.candidate)) fun _ => acquired)
    (acquires : accountOwned = false →
      status.any (· ∈ [.sourceReady, .normalizing, .ready]) = false →
      Settles protocol failed phase (acquire engine runId deadline progress)
        fun _ => acquired) :
    Settles protocol failed phase
      (process engine runId deadline progress accountOwned status)
      fun processed reached => acquired reached ∧
        ∃ bytes, processed = { progress with committedBytes := bytes } := by
  have told : ∀ reached, acquired reached → ∀ event,
      Yields protocol failed reached (recorded progress.position event)
        fun _ => acquired :=
    fun _ kept event => ((recorded_leads recording progress.position
      event).yields kept).weaken ends
  unfold process
  split
  · rename_i owned
    refine Yields.bind (told phase (skips owned) _) fun _ reached kept => ?_
    exact ⟨kept, progress.committedBytes, rfl⟩
  rename_i unowned
  rw [Bool.not_eq_true] at unowned
  split
  · rename_i durable
    have committed : Yields protocol failed phase
        ((do
          ask (.commitAvailable runId progress.candidate)
          return true : EngineProgram Bool).rescue
            CollectorFault.isException fun _ => pure false)
        fun committed reached =>
          if committed then acquired reached else failed reached :=
      Yields.rescue
        (Yields.bind (available unowned durable) fun _ _ kept => kept)
        fun _ _ kept => kept
    refine Yields.bind committed fun committed reached holds => ?_
    cases committed with
    | false => exact holds
    | true =>
        refine Yields.bind (told reached holds _) fun _ after kept => ?_
        exact ⟨kept, progress.committedBytes, rfl⟩
  · rename_i missing
    rw [Bool.not_eq_true] at missing
    refine Yields.bind (acquires unowned missing) fun outcome reached kept => ?_
    cases outcome with
    | ok bytes => exact ⟨kept, _, rfl⟩
    | error reason => exact kept

/-- `working` holds while the run is worked on, `ended` from its last
transaction on. -/
structure LoopRules
    (protocol : Protocol EngineCall EngineReply CollectorFault Phase)
    (working ended : Phase → Prop) (runId : UUID) : Prop where
  weaken : ∀ phase, working phase → ended phase
  ordinary : OrdinarySteady protocol working
  quietEnded : QuietSteady protocol ended
  available : ∀ candidate,
    Steady protocol working (.commitAvailable runId candidate)
  acquires : ∀ engine deadline progress, Leads protocol working working
    (acquire engine runId deadline progress)
  completes : Leads protocol working ended (ask (.completeRun runId))
  completesTotal : ∀ desiredTotal, Leads protocol working ended
    (ask (.completeIfAccountDurableTotal runId desiredTotal))
  fails : ∀ reasonCode, Steady protocol ended (.failRun runId reasonCode)
  cancels : ∀ reasonCode, Steady protocol ended (.cancelRun runId reasonCode)

section

variable {working ended : Phase → Prop} {runId : UUID}
variable (rules : LoopRules protocol working ended runId)

include rules

theorem LoopRules.endRules : EndRules protocol ended runId where
  quiet := rules.quietEnded
  fails := rules.fails
  cancels := rules.cancels

theorem LoopRules.collectRules (engine : CollectorEngine)
    (request : CollectRequest) :
    CollectRules protocol
      ⟨working, fun _ => working, fun _ _ => working, fun _ _ _ => working,
        fun _ _ => working, fun _ => working, fun _ => working,
        fun _ => working, fun _ _ => working, ended, fun _ => ended⟩
      engine request runId where
  endings := rules.endRules
  starts := fun _ holds => by
    refine (Leads.yields ?_ holds).weaken rules.weaken
    refine (raiseIfCancelRequested_leads rules.ordinary.quiet engine
      runId).bind (fun _ => ?_) fun _ kept => kept
    exact (rules.ordinary .current rfl).bind (fun _ => ofExcept_leads)
      fun _ kept => kept
  watchingQuiet := fun _ => rules.ordinary.quiet
  watchingEnds := fun _ => rules.weaken
  owns := fun _ _ holds _ => by
    refine (Leads.yields ?_ holds).weaken rules.weaken
    unfold queryOwned
    split
    · exact rules.ordinary (.accountHasDurableReel _ _) rfl
    · exact leads_pure fun _ kept => kept
  owningEnds := fun _ _ => rules.weaken
  detects := fun progress _ _ holds _ => by
    have event := recorded_leads rules.ordinary.recording progress.position
    refine (Leads.yields ?_ holds).weaken rules.weaken
    refine (event .detect).bind (fun _ => ?_) fun _ kept => kept
    refine (rules.ordinary .pauseCurrent rfl).bind (fun _ => ?_)
      fun _ kept => kept
    exact (event .pause).bind (fun _ => rules.ordinary (.reelStatus _) rfl)
      fun _ kept => kept
  processes := fun deadline _ owned status _ holds => by
    refine (process_settles deadline _ owned status rules.ordinary.recording
      rules.weaken (fun _ => holds) ?_ ?_).mono fun _ _ kept => kept.1
    · exact fun _ _ => ((rules.available _).yields holds).weaken rules.weaken
    · intro _ _
      refine Yields.mono (((rules.acquires engine deadline _).yields
        holds).weaken rules.weaken) fun outcome reached kept => ?_
      cases outcome with
      | ok bytes => exact kept
      | error reason => exact rules.weaken reached kept
  counts := fun _ _ _ holds => by
    refine (((rules.ordinary (.summary _) rfl).yields holds).weaken
      rules.weaken).mono fun _ _ kept => ?_
    split <;> exact kept
  completes := fun counts _ holds =>
    (complete_leads rules.endRules rules.completes rules.completesTotal request
      counts).yields holds
  shortQuiet := fun _ => rules.ordinary.quiet
  shortEnds := fun _ => rules.weaken
  cools := fun deadline progress _ holds =>
    ((coolDown_leads rules.ordinary.quiet rules.ordinary.recording engine
      deadline progress).yields holds).weaken rules.weaken
  cooledQuiet := fun _ => rules.ordinary.quiet
  cooledEnds := fun _ => rules.weaken
  moves := fun deadline _ _ holds =>
    ((confirmTransition_leads rules.ordinary engine _ _ deadline
      _).yields holds).weaken rules.weaken
  movedEnds := fun _ _ => rules.weaken
  confirms := fun progress _ _ _ holds _ _ _ =>
    ((recorded_leads rules.ordinary.recording progress.position
      _).yields holds).weaken rules.weaken
  finishes := fun _ _ holds _ => holds
  doneEnds := fun _ _ holds => holds
  doneQuiet := fun _ => rules.quietEnded

end

theorem collect_leads {before after : Phase → Prop}
    (working ended : UUID → Phase → Prop) (obtained : UUID → Prop)
    (engine : CollectorEngine) (request : CollectRequest)
    (rules : ∀ runId, LoopRules protocol (working runId) (ended runId) runId)
    (obtains : ∀ phase, before phase →
      Yields protocol after phase (obtainRun request) fun runId reached =>
        obtained runId ∧ working runId reached)
    (weaken : ∀ runId phase, obtained runId → ended runId phase → after phase)
    (refused : ∀ phase, before phase → after phase) :
    Leads protocol before after (engine.collect request) := by
  refine leads_of_yields fun phase holds => ?_
  unfold collect
  split
  · refine Yields.bind (obtains phase holds) fun runId reached works => ?_
    have ends := fun phase => weaken runId phase works.1
    refine Yields.bind (((startDeadline_leads (rules runId).ordinary.quiet
      engine.limits).yields works.2).weaken fun after kept =>
        ends after ((rules runId).weaken after kept))
      fun deadline after works => ?_
    exact ((collectRun_done ((rules runId).collectRules engine request)
      deadline works).weaken ends).mono fun _ reached done =>
        ends reached done
  · exact refused phase holds

end OfflineReels.Collector.CollectorEngine
