import OfflineReels.Collector.FeedGate
import OfflineReels.Collector.FeedRuns
import OfflineReels.Collector.RunBounds

namespace OfflineReels.Collector.BrowserCollection

open OfflineReels.Foundation
open OfflineReels.Foundation.Program
open OfflineReels.Collector.CollectorEngine
open OfflineReels.Collector.FeedGate (PortEvent Gated gate isFeedInput)
open OfflineReels.Collector.PlaywrightReelsFeed
open OfflineReels.Collector.PlaywrightReelsFeed.Transitions
open OfflineReels.Collector.PlaywrightReelsFeed.Runs

/-! The Collector on the feed of a browser.  What the engine asks of its feed is
asked of the page; the other ports answer as they like. -/

structure Collection where
  feed : PlaywrightReelsFeed
  page : List PageEvent
  ports : List PortEvent

def feedProgram : (request : EngineCall) →
    Option (FeedProgram (EngineReply request))
  | .current => some current
  | .pauseCurrent => some pauseCurrent
  | .advance => some advance
  | .waitForNext shortcode shouldStop => some (waitForNext shortcode shouldStop)
  | .nextFromAuthenticatedFeed shortcode shouldStop =>
      some (nextFromAuthenticatedFeed shortcode shouldStop)
  | .close => some close
  | _ => none

/-- The call and its answer are kept, whoever answers it. -/
def Answers (state : Collection) (request : EngineCall)
    (reply : Except CollectorFault (EngineReply request))
    (after : Collection) : Prop :=
  after.ports = state.ports ++ [⟨request, reply⟩] ∧
    match feedProgram request with
    | some program => (program state.feed).Plays Records state.page
        (.ok (reply, after.feed)) after.page
    | none => after.feed = state.feed ∧ after.page = state.page

def starting (page : PageId) (limits : TransitionLimits)
    (resources : Resources) (observeFeedJson : Bool) : Collection where
  feed := init page limits resources observeFeedJson
  page := []
  ports := []

def actionOf : PortEvent → Option FeedAction
  | ⟨.current, _⟩ => some .current
  | ⟨.pauseCurrent, _⟩ => some .pauseCurrent
  | ⟨.advance, _⟩ => some .advance
  | ⟨.waitForNext shortcode shouldStop, _⟩ =>
      some (.waitForNext shortcode shouldStop)
  | ⟨.nextFromAuthenticatedFeed shortcode shouldStop, _⟩ =>
      some (.nextFromAuthenticatedFeed shortcode shouldStop)
  | ⟨.close, _⟩ => some .close
  | _ => none

section

variable {state after : Collection} {request : EngineCall}
variable {reply : Except CollectorFault (EngineReply request)}

theorem plays_returning {α β : Type} {program : FeedProgram α} {value : α → β}
    {feed after : PlaywrightReelsFeed} {earlier history : List PageEvent}
    {outcome : Except CollectorFault α}
    (played : (program feed).Plays Records earlier (.ok (outcome, after))
      history) :
    ∃ returned, ((do return value (← program) : FeedProgram β) feed).Plays
      Records earlier (.ok (returned, after)) history := by
  cases outcome with
  | ok found =>
      exact ⟨.ok (value found), plays_attempt.mpr
        ⟨_, history, played, rfl, rfl⟩⟩
  | error fault =>
      exact ⟨.error fault, plays_attempt.mpr ⟨_, history, played, rfl, rfl⟩⟩

theorem answers_action {action : FeedAction}
    (answered : Answers state request reply after)
    (acts : actionOf ⟨request, reply⟩ = some action) :
    ∃ outcome, (action.perform state.feed).Plays Records state.page
      (.ok (outcome, after.feed)) after.page := by
  obtain ⟨_, played⟩ := answered
  cases request with
  | current =>
      cases acts
      exact plays_returning played
  | pauseCurrent =>
      cases acts
      exact plays_returning played
  | advance =>
      cases acts
      exact plays_returning played
  | close =>
      cases acts
      exact plays_returning played
  | waitForNext shortcode shouldStop =>
      cases acts
      exact ⟨_, played⟩
  | nextFromAuthenticatedFeed shortcode shouldStop =>
      cases acts
      exact ⟨_, played⟩
  | _ => cases acts

theorem answers_idle (answered : Answers state request reply after)
    (idle : actionOf ⟨request, reply⟩ = none) :
    after.feed = state.feed ∧ after.page = state.page := by
  obtain ⟨_, kept⟩ := answered
  cases request with
  | current => cases idle
  | pauseCurrent => cases idle
  | advance => cases idle
  | close => cases idle
  | waitForNext shortcode shouldStop => cases idle
  | nextFromAuthenticatedFeed shortcode shouldStop => cases idle
  | _ => exact kept

end

section

variable {engine : CollectorEngine} {request : CollectRequest}
variable {start state after : Collection}
variable {rest : EngineProgram CollectorSummary}

/-- A collection is a run of its feed, with other calls in between. -/
theorem ran_of_reaches
    (reached : (engine.collect request).Reaches Answers start rest state)
    (unasked : start.ports = []) :
    Ran start.feed start.page (state.ports.filterMap actionOf) state.feed
      state.page := by
  induction reached with
  | start =>
      rw [unasked]
      exact .started
  | step reached answered ih =>
      rename_i asked resume reply here later
      rw [answered.1, List.filterMap_append]
      cases acts : actionOf ⟨asked, reply⟩ with
      | some action =>
          obtain ⟨outcome, played⟩ := answers_action answered acts
          simpa only [List.filterMap_cons, acts, List.filterMap_nil] using
            Ran.acted ih played
      | none =>
          obtain ⟨sameFeed, samePage⟩ := answers_idle answered acts
          rw [sameFeed, samePage]
          simpa only [List.filterMap_cons, acts, List.filterMap_nil,
            List.append_nil] using ih

theorem watched {Phase : Type} {watches : Phase → List PortEvent → Prop}
    {protocol : Protocol EngineCall EngineReply CollectorFault Phase}
    (answers : ∀ phase ports asked reply, watches phase ports →
      protocol.permits phase asked → protocol.assumes phase asked reply ∧
        watches (protocol.advance phase asked reply)
          (ports ++ [⟨asked, reply⟩]))
    {phase : Phase} {program : EngineProgram CollectorSummary}
    {post : Except CollectorFault CollectorSummary → Phase → Prop}
    (follows : program.Follows protocol phase post)
    (begins : watches phase start.ports)
    (reached : program.Reaches Answers start rest state) :
    ∃ here, rest.Follows protocol here post ∧ watches here state.ports := by
  have answering : ∀ phase (state : Collection) asked reply
      (after : Collection), watches phase state.ports →
      protocol.permits phase asked → Answers state asked reply after →
      protocol.assumes phase asked reply ∧
        watches (protocol.advance phase asked reply) after.ports := by
    intro phase state asked reply after seen permitted answered
    rw [answered.1]
    exact answers phase state.ports asked reply seen permitted
  exact Follows.reaches answering follows begins reached

theorem gated_of_reaches {asked : EngineCall}
    {resume : Except CollectorFault (EngineReply asked) →
      EngineProgram CollectorSummary}
    (unasked : start.ports = [])
    (reached : (engine.collect request).Reaches Answers start
      (.call asked resume) state) (feeds : isFeedInput asked = true) :
    Gated request state.ports := by
  have rules : ∀ runId, argumentsAccepted engine.limits request = true →
      CollectRules (gate request) (FeedGate.gated request runId) engine request
        runId := fun _ _ => FeedGate.gated_rules engine
  have follows := collect_yields (FeedGate.gated request) engine request
    (fun _ => FeedGate.quiet_steady FeedGate.running_stable) rules
    (fun _ _ _ => trivial) (FeedGate.obtainRun_running request) trivial
    fun _ _ _ => trivial
  have answers : ∀ (phase ports : List PortEvent) asked reply, phase = ports →
      (gate request).permits phase asked →
      (gate request).assumes phase asked reply ∧
        (gate request).advance phase asked reply =
          ports ++ [⟨asked, reply⟩] := by
    intro phase ports asked reply same _
    subst same
    exact ⟨trivial, rfl⟩
  obtain ⟨_, here, rfl⟩ := watched answers follows unasked.symm reached
  exact here.1 feeds

theorem bounded_of_reaches (unasked : start.ports = [])
    (reached : (engine.collect request).Reaches Answers start rest state) :
    RunBounds.Bounded engine.limits (RunBounds.tally state.ports) := by
  have answers : ∀ (counted : RunBounds.Tally) (ports : List PortEvent) asked
      reply, counted = RunBounds.tally ports →
      RunBounds.tallying.permits counted asked →
      RunBounds.tallying.assumes counted asked reply ∧
        RunBounds.tallying.advance counted asked reply =
          RunBounds.tally (ports ++ [⟨asked, reply⟩]) := by
    intro counted ports asked reply same _
    rw [RunBounds.tally_append, same]
    exact ⟨trivial, rfl⟩
  have begins : ({} : RunBounds.Tally) = RunBounds.tally start.ports := by
    rw [unasked]
    rfl
  obtain ⟨_, follows, rfl⟩ := watched answers
    (RunBounds.collect_keeps engine request) begins reached
  exact (RunBounds.bounded_of_follows follows).2

theorem note_advances (counted : RunBounds.Tally) (event : PortEvent) :
    (counted.note event.request).advances = counted.advances +
      ((actionOf event).toList.count .advance) := by
  obtain ⟨asked, reply⟩ := event
  cases asked with
  | record position event => cases event <;> rfl
  | _ => rfl

theorem tally_advances (ports : List PortEvent) :
    (RunBounds.tally ports).advances =
      (ports.filterMap actionOf).count .advance := by
  induction ports using List.reverseRecOn with
  | nil => rfl
  | append_singleton ports event ih =>
      rw [RunBounds.tally_append, note_advances, ih, List.filterMap_append,
        List.count_append]
      cases acts : actionOf event with
      | none => simp [acts]
      | some action => simp [acts]

theorem gestures_length {count : Nat} {inputs : List Input}
    (gestures : Gestures count inputs) : inputs.length ≤ 7 * count := by
  obtain ⟨each, length, flat, short⟩ := gestures
  have same : inputs.length = each.flatten.length := by
    rw [← flat, List.length_reverse]
  rw [same, ← length]
  clear flat same length
  induction each with
  | nil => exact Nat.zero_le _
  | cons gesture later ih =>
      have first := (short gesture List.mem_cons_self).length_le
      have rest := ih fun other member =>
        short other (List.mem_cons_of_mem _ member)
      have seven : (Advances.gestureInputs ++ Advances.wheelInputs).length =
          7 := rfl
      rw [List.flatten_cons, List.length_append, List.length_cons]
      omega

end

/-- What one call of the engine does to the page.  Inputs are sent for an
advance only, with the last Reel settled. -/
structure PageLaws (request : CollectRequest) (state : Collection)
    (asked : EngineCall) (after : Collection) : Prop where
  inputs : (traceOf after.page).inputs = (traceOf state.page).inputs ∨
    asked = .advance ∧ Gated request state.ports ∧
      Advances.Goes (Advances.allowedInputs state.feed) (traceOf state.page)
        (traceOf after.page)
  navigations : (traceOf after.page).navigations ≤
      (traceOf state.page).navigations ∨
    (traceOf after.page).navigations ≤
        (traceOf state.page).navigations + 1 ∧
      ((∃ shortcode shouldStop, asked = .waitForNext shortcode shouldStop) ∨
        isFeedInput asked = true ∧ Gated request state.ports)

/-- How far a collection can have gone. -/
structure CollectionLaws (engine : CollectorEngine) (limits : TransitionLimits)
    (state : Collection) : Prop where
  source : Operated state.feed
  gestures : Gestures (RunBounds.tally state.ports).advances
    (traceOf state.page).inputs
  inputs : ∀ limit ∈ engine.limits.maxScrollActions,
    (traceOf state.page).inputs.length ≤ 7 * limit
  retries : (RunBounds.tally state.ports).longest ≤ 2
  counted : state.feed.scrollAttempts ≤
    (RunBounds.tally state.ports).advances
  attempts : state.feed.scrollAttempts ≤ limits.maximumScrollAttempts
  navigated : (traceOf state.page).navigations ≤
    (state.ports.filterMap actionOf).countP (·.mayNavigate)

section

variable {engine : CollectorEngine} {request : CollectRequest}
variable {state after : Collection} {page : PageId}
variable {limits : TransitionLimits} {resources : Resources}
variable {observeFeedJson : Bool}

theorem run_laws_of_reaches {rest : EngineProgram CollectorSummary}
    (reached : (engine.collect request).Reaches Answers
      (starting page limits resources observeFeedJson) rest state) :
    RunLaws (init page limits resources observeFeedJson)
      (state.ports.filterMap actionOf) state.feed (traceOf state.page) :=
  run_laws_of (ran_of_reaches reached rfl)
    (init_laws page limits resources observeFeedJson)

theorem asked_advance {asked : EngineCall}
    {reply : Except CollectorFault (EngineReply asked)}
    (acts : actionOf ⟨asked, reply⟩ = some .advance) : asked = .advance := by
  cases asked with
  | advance => rfl
  | _ => cases acts

theorem asked_navigates {asked : EngineCall} {action : FeedAction}
    {reply : Except CollectorFault (EngineReply asked)}
    (acts : actionOf ⟨asked, reply⟩ = some action)
    (may : action.mayNavigate = true) :
    (∃ shortcode shouldStop, asked = .waitForNext shortcode shouldStop) ∨
      isFeedInput asked = true := by
  cases asked with
  | waitForNext shortcode shouldStop => exact .inl ⟨shortcode, shouldStop, rfl⟩
  | nextFromAuthenticatedFeed shortcode shouldStop => exact .inr rfl
  | advance => exact .inr rfl
  | current =>
      cases acts
      cases may
  | pauseCurrent =>
      cases acts
      cases may
  | close =>
      cases acts
      cases may
  | _ => cases acts

/-- Whatever the page and the other ports answer. -/
theorem page_inputs_gated {asked : EngineCall}
    {resume : Except CollectorFault (EngineReply asked) →
      EngineProgram CollectorSummary}
    {reply : Except CollectorFault (EngineReply asked)}
    (reached : (engine.collect request).Reaches Answers
      (starting page limits resources observeFeedJson) (.call asked resume)
        state)
    (answered : Answers state asked reply after) :
    PageLaws request state asked after := by
  have laws := run_laws_of_reaches reached
  cases acts : actionOf ⟨asked, reply⟩ with
  | none =>
      obtain ⟨_, samePage⟩ := answers_idle answered acts
      exact ⟨.inl (by rw [samePage]), .inl (by rw [samePage])⟩
  | some action =>
      obtain ⟨outcome, played⟩ := answers_action answered acts
      have acted := leaves_played (perform_leaves laws.operated action) played
      have gated : isFeedInput asked = true → Gated request state.ports :=
        gated_of_reaches rfl reached
      constructor
      · rcases acted.sent with same | ⟨rfl, goes⟩
        · exact .inl same
        · obtain rfl := asked_advance acts
          exact .inr ⟨rfl, gated rfl, goes⟩
      · cases may : action.mayNavigate with
        | false =>
            left
            have same := acted.navigated
            rw [may] at same
            exact same
        | true =>
            right
            have moved := acted.navigated
            rw [may] at moved
            exact ⟨moved, (asked_navigates acts may).imp id fun feeds =>
              ⟨feeds, gated feeds⟩⟩

/-- Wherever a collection has got to. -/
theorem collection_inputs_bounded {rest : EngineProgram CollectorSummary}
    (reached : (engine.collect request).Reaches Answers
      (starting page limits resources observeFeedJson) rest state) :
    CollectionLaws engine limits state := by
  have laws := run_laws_of_reaches reached
  have bounded := bounded_of_reaches rfl reached
  have advances := tally_advances state.ports
  have gestures : Gestures (RunBounds.tally state.ports).advances
      (traceOf state.page).inputs := by
    rw [advances]
    exact laws.gestures
  exact {
    source := laws.operated
    gestures
    inputs := by
      intro limit set
      have few := bounded.scrollActions limit set
      have short := gestures_length gestures
      omega
    retries := bounded.gestures
    counted := by
      rw [advances]
      exact laws.counted
    attempts := laws.attempts
    navigated := laws.navigated }

end

def sampleAnswer (state : Collection) (request : EngineCall) :
    Option (Except CollectorFault (EngineReply request) × Collection) :=
  match feedProgram request with
  | some program =>
      (take samplePage program state.feed state.page).map fun taken =>
        (taken.1, ⟨taken.2.1, taken.2.2,
          state.ports ++ [⟨request, taken.1⟩]⟩)
  | none =>
      some (RunBounds.repeatedReply request,
        { state with
          ports := state.ports ++ [⟨request, RunBounds.repeatedReply request⟩] })

def follow {α : Type} :
    Nat → EngineProgram α → Collection → Option (EngineProgram α × Collection)
  | 0, program, state => some (program, state)
  | _ + 1, .done result, state => some (.done result, state)
  | calls + 1, .call request resume, state =>
      (sampleAnswer state request).bind fun answered =>
        follow calls (resume answered.1) answered.2

def asksNext {α : Type} : EngineProgram α → Bool
  | .call (.nextFromAuthenticatedFeed shortcode shouldStop) _ =>
      shortcode = "BBB" && shouldStop
  | _ => false

def hasEnded {α : Type} : EngineProgram α → Bool
  | .done _ => true
  | .call _ _ => false

def sampleStart : Collection :=
  starting 0 sampleLimits ⟨true, true, true⟩ true

/-- The feed of a browser has a source that is authenticated. -/
def sampleEngine : CollectorEngine :=
  { RunBounds.repeatingEngine with authenticatedFeed := true }

def sampleCollection (calls : Nat) :
    Option (EngineProgram CollectorSummary × Collection) :=
  follow calls (sampleEngine.collect RunBounds.repeatingRequest) sampleStart

section

variable {state after : Collection}

theorem sampleAnswer_answers {request : EngineCall}
    {answered : Except CollectorFault (EngineReply request) × Collection}
    (found : sampleAnswer state request = some answered) :
    Answers state request answered.1 answered.2 := by
  unfold sampleAnswer at found
  unfold Answers
  cases performed : feedProgram request with
  | none =>
      rw [performed] at found
      obtain rfl := Option.some.inj found
      exact ⟨rfl, rfl, rfl⟩
  | some program =>
      rw [performed] at found
      obtain ⟨taken, played, rfl⟩ := Option.map_eq_some_iff.mp found
      exact ⟨rfl, take_plays played⟩

theorem follow_reaches {α : Type} {program rest here : EngineProgram α}
    {start : Collection} {calls : Nat}
    (reached : program.Reaches Answers start here state)
    (followed : follow calls here state = some (rest, after)) :
    program.Reaches Answers start rest after := by
  induction calls generalizing here state with
  | zero =>
      cases followed
      exact reached
  | succ calls ih =>
      cases here with
      | done result =>
          cases followed
          exact reached
      | call request resume =>
          obtain ⟨answered, found, later⟩ :=
            Option.bind_eq_some_iff.mp followed
          exact ih (reached.step (sampleAnswer_answers found)) later

theorem asksNext_call {α : Type} {program : EngineProgram α}
    (asks : asksNext program = true) :
    ∃ resume,
      program = .call (.nextFromAuthenticatedFeed "BBB" true) resume := by
  cases program with
  | done result => cases asks
  | call request resume =>
      cases request with
      | nextFromAuthenticatedFeed shortcode shouldStop =>
          obtain ⟨same, stoppable⟩ := Bool.and_eq_true_iff.mp asks
          obtain rfl := of_decide_eq_true same
          obtain rfl := stoppable
          exact ⟨resume, rfl⟩
      | _ => cases asks

end

/-- The source is asked for another Reel, and has the page opened anew. -/
theorem sample_inputs_gated :
    ∃ state resume reply after,
      (sampleEngine.collect RunBounds.repeatingRequest).Reaches Answers
        sampleStart (.call (.nextFromAuthenticatedFeed "BBB" true) resume)
        state ∧
      Answers state (.nextFromAuthenticatedFeed "BBB" true) reply after ∧
      (traceOf state.page).navigations = 0 ∧
      (traceOf after.page).navigations = 1 ∧
      PageLaws RunBounds.repeatingRequest state
        (.nextFromAuthenticatedFeed "BBB" true) after := by
  have whole : ((sampleCollection 18).bind fun reached =>
      (sampleAnswer reached.2 (.nextFromAuthenticatedFeed "BBB" true)).map
        fun answered =>
          (asksNext reached.1, (traceOf reached.2.page).navigations,
            (traceOf answered.2.page).navigations)) =
      some (true, 0, 1) := by
    decide +kernel
  obtain ⟨⟨rest, state⟩, followed, answers⟩ :=
    Option.bind_eq_some_iff.mp whole
  obtain ⟨⟨reply, after⟩, answered, shape⟩ := Option.map_eq_some_iff.mp answers
  obtain ⟨resume, rfl⟩ := asksNext_call (congrArg Prod.fst shape)
  have reached := follow_reaches .start followed
  have replied := sampleAnswer_answers answered
  exact ⟨state, resume, reply, after, reached, replied,
    congrArg (·.2.1) shape, congrArg (·.2.2) shape,
    page_inputs_gated reached replied⟩

/-- A whole collection, which sends no input. -/
theorem sample_collection_bounded :
    ∃ state summary,
      (sampleEngine.collect RunBounds.repeatingRequest).Reaches Answers
        sampleStart (.done summary) state ∧
      (traceOf state.page).inputs = [] ∧
      (traceOf state.page).navigations = 1 ∧
      CollectionLaws sampleEngine sampleLimits state := by
  have whole : ((sampleCollection 22).map fun reached =>
      (hasEnded reached.1, (traceOf reached.2.page).inputs,
        (traceOf reached.2.page).navigations)) = some (true, [], 1) := by
    decide +kernel
  obtain ⟨⟨rest, state⟩, followed, shape⟩ := Option.map_eq_some_iff.mp whole
  cases rest with
  | call request resume => cases congrArg Prod.fst shape
  | done summary =>
      have reached := follow_reaches .start followed
      exact ⟨state, summary, reached, congrArg (·.2.1) shape,
        congrArg (·.2.2) shape, collection_inputs_bounded reached⟩

end OfflineReels.Collector.BrowserCollection
