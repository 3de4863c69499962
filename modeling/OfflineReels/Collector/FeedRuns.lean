import OfflineReels.Collector.FeedAdvances
import OfflineReels.Collector.FeedReservations
import OfflineReels.Collector.FeedWaiting

namespace OfflineReels.Collector.PlaywrightReelsFeed.Runs

open OfflineReels.Foundation
open OfflineReels.Foundation.Stateful
open OfflineReels.Collector.FeedJson (FeedEvent FeedSession FeedOperation Timely
  UsedApart)
open Transitions

/-! Runs of a feed: whatever is asked of it, and whatever the page answers. -/

def Reserved (previousShortcode : String) (candidate : ReelCandidate)
    (feed : PlaywrightReelsFeed) : Prop :=
  ∃ operations,
    ((FeedSession.run operations).nextEmbeddedFromCurrentFeed
      previousShortcode).2 = some candidate ∧
    feed.feedJson = some (((FeedSession.run operations).nextEmbeddedFromCurrentFeed
      previousShortcode).1.markUsed candidate.shortcode)

structure NextLaws (before : PlaywrightReelsFeed) (earlier : Trace)
    (previousShortcode : String)
    (outcome : Except CollectorFault (Option ReelCandidate))
    (after : PlaywrightReelsFeed) (trace : Trace) : Prop where
  within : Within before earlier after trace
  returned : ∀ candidate, outcome = .ok (some candidate) →
    Reserved previousShortcode candidate after

section

variable {before feed : PlaywrightReelsFeed} {earlier trace : Trace}

theorem nextEmbedded_leaves (previousShortcode : String) :
    Leaves tracing trace feed (nextEmbedded previousShortcode)
      fun outcome after reached => reached = trace ∧
        after = operate feed (.nextEmbeddedFromCurrentFeed previousShortcode) ∧
        outcome = .ok (feed.feedJson.bind fun session =>
          (session.nextEmbeddedFromCurrentFeed previousShortcode).2) := by
  apply leaves_reading
  apply leaves_writing
  exact leaves_pure ⟨rfl, rfl, rfl⟩

theorem takenEmbedded_yields {holding : Holding}
    (undisturbed : Undisturbed tracing holding)
    (operated : ∀ feed trace, holding feed trace → Operated feed)
    (previousShortcode : String) (holds : holding feed trace) :
    Yields tracing holding trace feed (takenEmbedded previousShortcode)
      fun found after reached => holding after reached ∧
        ∀ candidate ∈ found, Reserved previousShortcode candidate after := by
  have performed := undisturbed.source feed trace
    (.nextEmbeddedFromCurrentFeed previousShortcode) holds
  apply (nextEmbedded_leaves previousShortcode).bind
  · intro found after reached kept
    obtain ⟨rfl, rfl, same⟩ := kept
    cases found with
    | none =>
        apply leaves_pure
        refine ⟨performed, ?_⟩
        intro candidate clash
        cases clash
    | some candidate =>
        apply leaves_writing
        apply leaves_pure
        refine ⟨undisturbed.source _ _ (.markUsed candidate.shortcode)
          performed, ?_⟩
        intro other member
        obtain rfl := Option.some.inj member
        obtain ⟨session, here, found⟩ :=
          Option.bind_eq_some_iff.mp (Except.ok.inj same).symm
        obtain ⟨operations, rfl⟩ := operated feed reached holds session here
        refine ⟨operations, found, ?_⟩
        change (feed.feedJson.map _).map _ = _
        rw [here]
        rfl
  · intro fault after reached kept
    cases kept.2.2

theorem nextFromAuthenticatedFeed_leaves (operated : Operated before)
    (previousShortcode : String) (stoppable : Bool) :
    Leaves tracing earlier before
      (nextFromAuthenticatedFeed previousShortcode stoppable)
      (NextLaws before earlier previousShortcode) := by
  have still := untouched_undisturbed before earlier
  have undisturbed := within_undisturbed before earlier
  have moves : ∀ feed trace, Untouched before earlier feed trace →
      Within before earlier feed trace := fun _ _ => .inl
  have opened : Steady (Untouched before earlier) raiseIfClosed :=
    raiseIfClosed_steady still
  have asking : Steady (Untouched before earlier) (shouldStop stoppable) :=
    shouldStop_steady still stoppable
  have ended : ∀ {feed trace}, Untouched before earlier feed trace →
      Yields tracing (Within before earlier) trace feed (pure none)
        fun found after reached => Within before earlier after reached ∧
          ∀ candidate ∈ found,
            Reserved previousShortcode candidate after := by
    intro feed trace untouched
    apply yields_pure
    refine ⟨moves _ _ untouched, ?_⟩
    intro candidate clash
    cases clash
  have yields : Yields tracing (Within before earlier) earlier before
      (nextFromAuthenticatedFeed previousShortcode stoppable)
      fun found after reached => Within before earlier after reached ∧
        ∀ candidate ∈ found, Reserved previousShortcode candidate after := by
    apply (opened.yields moves ⟨operated, rfl, rfl⟩).bind
    intro _ feed trace untouched
    apply ((raiseIfControlledStop_steady still).yields moves untouched).bind
    intro _ feed trace untouched
    apply yields_read
    split
    · exact ended untouched
    apply (asking.yields moves untouched).bind
    intro stopping feed trace untouched
    split
    · exact ended untouched
    have first := takenEmbedded_yields still (fun _ _ held => held.1)
      previousShortcode untouched
    apply (first.weaken moves).bind
    intro found feed trace kept
    cases found with
    | some candidate => exact yields_pure ⟨moves _ _ kept.1, kept.2⟩
    | none =>
        apply ((navigateToReels_within kept.1).yields
          fun _ _ within => within).bind
        intro _ feed trace within
        apply ((initialReel_steady undisturbed).yields
          (fun _ _ within => within) within).bind
        intro current feed trace within
        apply ((captureEmbeddedFeedCandidates_steady undisturbed).yields
          (fun _ _ within => within) within).bind
        intro _ feed trace within
        apply ((onSession_steady undisturbed
          (.markUsed current.shortcode)).yields
            (fun _ _ within => within) within).bind
        intro _ feed trace within
        exact takenEmbedded_yields undisturbed (fun _ _ => Within.operated)
          previousShortcode within
  apply Leaves.mono yields
  intro outcome after reached kept
  cases outcome with
  | error fault =>
      refine ⟨kept, ?_⟩
      intro candidate clash
      cases clash
  | ok found =>
      refine ⟨kept.1, ?_⟩
      intro candidate same
      exact kept.2 candidate (Except.ok.inj same)

end

def Fresh (shortcode : String) (session : FeedSession) : Prop :=
  ∃ between earlier,
    session.log = .used shortcode :: between ++ .used shortcode :: earlier ∧
      (∀ other, FeedEvent.used other ∉ between) ∧ UsedApart shortcode earlier

theorem remember_log (session : FeedSession) (code : String) :
    ∃ events, (session.remember code).log = events ++ session.log ∧
      ∀ other, FeedEvent.used other ∉ events := by
  unfold FeedSession.remember
  split
  · refine ⟨[], rfl, ?_⟩
    intro other clash
    cases clash
  · unfold FeedSession.trimKnown
    split
    · rename_i oldest newer _
      split
      · refine ⟨[.forgotten oldest session.source.pending, .remembered code],
          rfl, ?_⟩
        simp
      · refine ⟨[.remembered code], rfl, ?_⟩
        simp
    · refine ⟨[.remembered code], rfl, ?_⟩
      simp

theorem markUsed_log {shortcode : String} (session : FeedSession)
    (valid : isShortcode shortcode = true) :
    ∃ events, (session.markUsed shortcode).log =
        .used shortcode :: events ++ session.log ∧
      ∀ other, FeedEvent.used other ∉ events := by
  obtain ⟨events, grown, unused⟩ := remember_log session shortcode
  refine ⟨events, ?_, unused⟩
  unfold FeedSession.markUsed
  rw [valid]
  simp only [Bool.not_true, Bool.false_eq_true, if_false, grown,
    List.cons_append]

theorem reserve_some {session : FeedSession} {passes : Nat × String → Bool}
    {candidate : ReelCandidate}
    (found : (session.reserve passes).2 = some candidate) :
    candidate.shortcode ∈ session.source.pending ∧
      (session.reserve passes).1.log =
        .used candidate.shortcode :: session.log := by
  unfold FeedSession.reserve at found ⊢
  split at found
  · cases found
  · rename_i observation code first
    obtain rfl := Option.some.inj found
    exact ⟨List.mem_map_of_mem (List.mem_of_find?_eq_some first), rfl⟩

namespace Reserved

variable {previousShortcode : String} {candidate : ReelCandidate}
variable {feed : PlaywrightReelsFeed}

theorem proper (reserved : Reserved previousShortcode candidate feed) :
    Proper previousShortcode candidate := by
  obtain ⟨operations, found, _⟩ := reserved
  exact reserve_proper (FeedJson.Keeps.empty.performAll operations).keeps
    (fun _ => by simp) candidate found

theorem used (reserved : Reserved previousShortcode candidate feed) :
    ∀ session ∈ feed.feedJson,
      candidate.shortcode ∈ session.source.knownCodes ∧
        candidate.shortcode ∉ session.source.pending := by
  have valid := (validateCandidate_eq_ok reserved.proper.1).2
  obtain ⟨operations, _, same⟩ := reserved
  intro session member
  rw [same] at member
  obtain rfl := Option.some.inj member
  have keeps := (FeedJson.Keeps.empty.performAll operations).keeps
  exact Waits.markUsed_used (keeps.reserve _).keeps valid

theorem fresh (reserved : Reserved previousShortcode candidate feed) :
    ∀ session ∈ feed.feedJson, Timely session.log →
      Fresh candidate.shortcode session := by
  have valid := (validateCandidate_eq_ok reserved.proper.1).2
  obtain ⟨operations, found, same⟩ := reserved
  intro session member timely
  rw [same] at member
  obtain rfl := Option.some.inj member
  obtain ⟨pending, logged⟩ := reserve_some found
  obtain ⟨events, marked, unused⟩ := markUsed_log
    ((FeedSession.run operations).nextEmbeddedFromCurrentFeed
      previousShortcode).1 valid
  have whole := marked.trans (congrArg (.used candidate.shortcode :: events ++ ·)
    logged)
  refine ⟨events, (FeedSession.run operations).log, whole, unused, ?_⟩
  apply FeedJson.pending_usedApart _ pending
  apply timely.of_suffix
  rw [whole]
  exact (List.suffix_cons _ _).trans (List.suffix_append _ _)

end Reserved

inductive FeedAction
  | current
  | pauseCurrent
  | navigateToReels
  | advance
  | waitForNext (previousShortcode : String) (stoppable : Bool)
  | nextFromAuthenticatedFeed (previousShortcode : String) (stoppable : Bool)
  | close
  deriving DecidableEq

namespace FeedAction

def perform : FeedAction → FeedProgram (Option ReelCandidate)
  | .current => do return some (← PlaywrightReelsFeed.current)
  | .pauseCurrent => do
      PlaywrightReelsFeed.pauseCurrent
      return none
  | .navigateToReels => do
      PlaywrightReelsFeed.navigateToReels
      return none
  | .advance => do
      PlaywrightReelsFeed.advance
      return none
  | .waitForNext previousShortcode stoppable =>
      PlaywrightReelsFeed.waitForNext previousShortcode stoppable
  | .nextFromAuthenticatedFeed previousShortcode stoppable =>
      PlaywrightReelsFeed.nextFromAuthenticatedFeed previousShortcode stoppable
  | .close => do
      PlaywrightReelsFeed.close
      return none

def mayNavigate : FeedAction → Bool
  | .navigateToReels => true
  | .waitForNext _ _ => true
  | .nextFromAuthenticatedFeed _ _ => true
  | _ => false

end FeedAction

inductive Ran (start : PlaywrightReelsFeed) (before : List PageEvent) :
    List FeedAction → PlaywrightReelsFeed → List PageEvent → Prop
  | started : Ran start before [] start before
  | acted {actions : List FeedAction} {feed after : PlaywrightReelsFeed}
      {earlier history : List PageEvent} {action : FeedAction}
      {outcome : Except CollectorFault (Option ReelCandidate)}
      (ran : Ran start before actions feed earlier)
      (played : (action.perform feed).Plays Program.Records earlier
        (.ok (outcome, after)) history) :
      Ran start before (actions ++ [action]) after history

def Gestures (count : Nat) (inputs : List Input) : Prop :=
  ∃ gestures : List (List Input), gestures.length = count ∧
    inputs.reverse = gestures.flatten ∧
    ∀ gesture ∈ gestures,
      gesture.Sublist (Advances.gestureInputs ++ Advances.wheelInputs)

structure RunLaws (opened : PlaywrightReelsFeed) (actions : List FeedAction)
    (feed : PlaywrightReelsFeed) (trace : Trace) : Prop where
  operated : Operated feed
  limits : feed.limits = opened.limits
  counted : feed.scrollAttempts ≤ actions.count .advance
  attempts : feed.scrollAttempts ≤ opened.limits.maximumScrollAttempts
  gestures : Gestures (actions.count .advance) trace.inputs
  navigated : trace.navigations ≤ actions.countP (·.mayNavigate)

/-- What one action has done. -/
structure ActionLaws (action : FeedAction) (before : PlaywrightReelsFeed)
    (earlier : Trace) (after : PlaywrightReelsFeed) (trace : Trace) :
    Prop where
  operated : Operated after
  limits : after.limits = before.limits
  attempts : after.scrollAttempts = before.scrollAttempts ∨
    action = .advance ∧ after.scrollAttempts = before.scrollAttempts + 1 ∧
      before.scrollAttempts < before.limits.maximumScrollAttempts
  sent : trace.inputs = earlier.inputs ∨
    action = .advance ∧ Advances.Goes (Advances.allowedInputs before) earlier
      trace
  navigated : trace.navigations ≤ earlier.navigations +
    if action.mayNavigate then 1 else 0
  persists : action = .advance ∨
    (before.forcePointerWheelNextAdvance = true →
      after.forcePointerWheelNextAdvance = true)

section

variable {before after : PlaywrightReelsFeed} {earlier trace : Trace}
variable {action : FeedAction}

theorem Untouched.laws (untouched : Untouched before earlier after trace) :
    ActionLaws action before earlier after trace := by
  obtain ⟨operated, rfl, same⟩ := untouched
  rw [same]
  exact {
    operated
    limits := rfl
    attempts := .inl rfl
    sent := .inl rfl
    navigated := Nat.le_add_right _ _
    persists := .inr id }

theorem Within.laws (within : Within before earlier after trace)
    (may : action.mayNavigate = true) :
    ActionLaws action before earlier after trace := by
  rcases within with untouched | untouched
  · exact Untouched.laws untouched
  · obtain ⟨operated, rfl, same⟩ := untouched
    rw [same]
    exact {
      operated
      limits := rfl
      attempts := .inl rfl
      sent := .inl rfl
      navigated := by rw [if_pos may]
      persists := .inr id }

theorem steady_laws {α : Type} {program : FeedProgram α}
    (steady : Steady (Untouched before earlier) program)
    (operated : Operated before) :
    Leaves tracing earlier before program
      fun _ => ActionLaws action before earlier := by
  apply (steady earlier before ⟨operated, rfl, rfl⟩).mono
  intro _ after reached untouched
  exact Untouched.laws untouched

theorem advanced_laws {outcome : Except CollectorFault Unit}
    (laws : Advances.AdvanceLaws before earlier outcome after trace) :
    ActionLaws .advance before earlier after trace where
  operated := laws.operated
  limits := laws.limits
  attempts := by
    cases outcome with
    | error fault => exact .inl (laws.uncounted fault rfl)
    | ok _ =>
        obtain ⟨within, counted, _⟩ := laws.counted rfl
        exact .inr ⟨rfl, counted, within⟩
  sent := .inr ⟨rfl, laws.sent⟩
  navigated := Nat.le_of_eq laws.sent.still
  persists := .inl rfl

theorem waited_laws {previousShortcode : String} {stoppable : Bool}
    {outcome : Except CollectorFault (Option ReelCandidate)}
    (laws : Waits.WaitLaws before earlier previousShortcode outcome after
      trace) :
    ActionLaws (.waitForNext previousShortcode stoppable) before earlier after
      trace where
  operated := laws.operated
  limits := laws.limits
  attempts := .inl laws.attempts
  sent := .inl laws.silent
  navigated := laws.navigated
  persists := .inr laws.persists

theorem returning {α β : Type} {program : FeedProgram α} {value : α → β}
    {post : Holding}
    (leaves : Leaves tracing earlier before program fun _ => post) :
    Leaves tracing earlier before (do return value (← program))
      fun _ => post := by
  apply leaves.bind
  · intro _ _ _ kept
    exact leaves_pure kept
  · intro _ _ _ kept
    exact kept

theorem close_leaves (operated : Operated before) :
    Leaves tracing earlier before close
      fun _ => ActionLaws .close before earlier := by
  apply leaves_reading
  split
  · exact leaves_pure (Untouched.laws ⟨operated, rfl, rfl⟩)
  · apply leaves_writing
    have closed : Operated { before with closed := true } := operated
    have steady : Steady (Untouched { before with closed := true } earlier)
        (closeRuntime before.resources) := closeRuntime_steady _
    apply (steady earlier _ ⟨closed, rfl, rfl⟩).mono
    intro _ after reached untouched
    have laws : ActionLaws .close { before with closed := true } earlier after
        reached := Untouched.laws untouched
    exact { laws with }

theorem perform_leaves (operated : Operated before) (action : FeedAction) :
    Leaves tracing earlier before action.perform
      fun _ => ActionLaws action before earlier := by
  have undisturbed := untouched_undisturbed before earlier
  cases action with
  | current => exact returning (steady_laws (current_steady undisturbed) operated)
  | pauseCurrent =>
      exact returning (steady_laws (pauseCurrent_steady undisturbed) operated)
  | navigateToReels =>
      apply returning
      apply (navigateToReels_within ⟨operated, rfl, rfl⟩).mono
      intro _ after reached within
      exact Within.laws within rfl
  | advance =>
      apply returning
      apply (Advances.advance_leaves operated).mono
      intro outcome after reached laws
      exact advanced_laws laws
  | waitForNext previousShortcode stoppable =>
      apply (Waits.waitForNext_leaves operated previousShortcode stoppable).mono
      intro outcome after reached laws
      exact waited_laws laws
  | nextFromAuthenticatedFeed previousShortcode stoppable =>
      apply (nextFromAuthenticatedFeed_leaves operated previousShortcode
        stoppable).mono
      intro outcome after reached laws
      exact Within.laws laws.within rfl
  | close => exact returning (close_leaves operated)

end

section

variable {opened feed after : PlaywrightReelsFeed} {actions : List FeedAction}
variable {earlier trace : Trace} {action : FeedAction}

theorem Gestures.more {count : Nat} {inputs later : List Input}
    (gestures : Gestures count inputs) {gesture : List Input}
    (sent : later = gesture.reverse ++ inputs)
    (allowed : gesture.Sublist
      (Advances.gestureInputs ++ Advances.wheelInputs)) :
    Gestures (count + 1) later := by
  obtain ⟨before, length, flat, each⟩ := gestures
  refine ⟨before ++ [gesture], ?_, ?_, ?_⟩
  · rw [List.length_append, length]
    rfl
  · rw [sent, List.reverse_append, List.reverse_reverse, flat]
    simp
  · intro other member
    rcases List.mem_append.mp member with earlier | last
    · exact each other earlier
    · rw [List.mem_singleton.mp last]
      exact allowed

theorem allowed_sublist (before : PlaywrightReelsFeed) :
    (Advances.allowedInputs before).Sublist
      (Advances.gestureInputs ++ Advances.wheelInputs) := by
  unfold Advances.allowedInputs
  split
  · exact List.sublist_append_right _ _
  · exact List.Sublist.refl _

theorem RunLaws.step (laws : RunLaws opened actions feed earlier)
    (acted : ActionLaws action feed earlier after trace) :
    RunLaws opened (actions ++ [action]) after trace where
  operated := acted.operated
  limits := acted.limits.trans laws.limits
  counted := by
    rw [List.count_append]
    have before := laws.counted
    rcases acted.attempts with same | ⟨rfl, one, _⟩
    · omega
    · rw [one, List.count_singleton_self]
      omega
  attempts := by
    have before := laws.attempts
    have limits := congrArg TransitionLimits.maximumScrollAttempts laws.limits
    rcases acted.attempts with same | ⟨_, one, within⟩
    · omega
    · omega
  gestures := by
    rw [List.count_append]
    by_cases gesture : action = .advance
    · subst gesture
      rw [List.count_singleton_self]
      rcases acted.sent with same | ⟨_, goes⟩
      · exact @Gestures.more _ _ _ laws.gestures [] same (List.nil_sublist _)
      · obtain ⟨inputs, sent, allowed⟩ := goes.sent
        exact laws.gestures.more sent (allowed.trans (allowed_sublist feed))
    · have none_sent : trace.inputs = earlier.inputs :=
        acted.sent.resolve_right fun sent => gesture sent.1
      rw [List.count_singleton, if_neg (by simpa using gesture), none_sent]
      exact laws.gestures
  navigated := by
    rw [List.countP_append, List.countP_singleton]
    exact acted.navigated.trans (Nat.add_le_add_right laws.navigated _)

theorem run_laws_of {history : List PageEvent}
    (ran : Ran opened [] actions feed history)
    (laws : RunLaws opened [] opened {}) :
    RunLaws opened actions feed (traceOf history) := by
  induction ran with
  | started => exact laws
  | acted ran played ih =>
      exact ih.step (leaves_played (perform_leaves ih.operated _) played)

theorem init_laws (page : PageId) (limits : TransitionLimits)
    (resources : Resources) (observeFeedJson : Bool) :
    RunLaws (init page limits resources observeFeedJson) []
      (init page limits resources observeFeedJson) {} where
  operated := by
    intro session member
    refine ⟨[], ?_⟩
    cases observeFeedJson with
    | true => exact (Option.some.inj member).symm
    | false => cases member
  limits := rfl
  counted := Nat.le_refl _
  attempts := Nat.zero_le _
  gestures := ⟨[], rfl, rfl, by simp⟩
  navigated := Nat.zero_le _

end

def answering
    (answer : List PageEvent → (request : PageCall) → PageReply request)
    (history : List PageEvent) (request : PageCall) :
    Except CollectorFault (PageReply request) × List PageEvent :=
  (.ok (answer history request),
    history ++ [⟨request, .ok (answer history request)⟩])

def take {α : Type}
    (answer : List PageEvent → (request : PageCall) → PageReply request)
    (program : FeedProgram α) (feed : PlaywrightReelsFeed)
    (history : List PageEvent) :
    Option (Except CollectorFault α × PlaywrightReelsFeed × List PageEvent) :=
  match (program feed).play (answering answer) history with
  | (.ok (outcome, after), later) => some (outcome, after, later)
  | (.error _, _) => none

def lead (answer : List PageEvent → (request : PageCall) → PageReply request) :
    List FeedAction → PlaywrightReelsFeed → List PageEvent →
      Option (PlaywrightReelsFeed × List PageEvent)
  | [], feed, history => some (feed, history)
  | action :: later, feed, history => do
      let (_, after, history) ← take answer action.perform feed history
      lead answer later after history

theorem take_plays {α : Type}
    {answer : List PageEvent → (request : PageCall) → PageReply request}
    {program : FeedProgram α} {feed after : PlaywrightReelsFeed}
    {earlier history : List PageEvent} {outcome : Except CollectorFault α}
    (taken : take answer program feed earlier =
      some (outcome, after, history)) :
    (program feed).Plays Program.Records earlier (.ok (outcome, after))
      history := by
  have played : (program feed).Plays Program.Records earlier
      ((program feed).play (answering answer) earlier).1
      ((program feed).play (answering answer) earlier).2 :=
    Program.plays_play (fun _ _ => rfl) _ _
  unfold take at taken
  split at taken
  · rename_i shape
    rw [shape] at played
    cases taken
    exact played
  · cases taken

theorem Ran.append {start middle feed : PlaywrightReelsFeed}
    {before between history : List PageEvent}
    {first second : List FeedAction}
    (one : Ran start before first middle between)
    (two : Ran middle between second feed history) :
    Ran start before (first ++ second) feed history := by
  induction two with
  | started =>
      rw [List.append_nil]
      exact one
  | acted _ played ih =>
      rw [← List.append_assoc]
      exact .acted ih played

theorem ran_lead
    {answer : List PageEvent → (request : PageCall) → PageReply request}
    {actions : List FeedAction} {start feed : PlaywrightReelsFeed}
    {before history : List PageEvent}
    (led : lead answer actions start before = some (feed, history)) :
    Ran start before actions feed history := by
  induction actions generalizing start before with
  | nil =>
      cases led
      exact .started
  | cons action later ih =>
      obtain ⟨⟨outcome, after, middle⟩, taken, onward⟩ :=
        Option.bind_eq_some_iff.mp led
      exact (Ran.acted .started (take_plays taken)).append (ih onward)

def sampleLimits : TransitionLimits where
  pollingMicros := 1000000
  timeoutMicros := 2000000
  maximumScrollAttempts := 2

def samplePage (history : List PageEvent) :
    (request : PageCall) → PageReply request
  | .responses => []
  | .shouldStop => false
  | .pages => [0]
  | .isClosed _ => false
  | .url _ => "https://www.instagram.com/reels/"
  | .state _ => some ⟨false, false, false⟩
  | .identity _ => some ⟨"AAA", "https://www.instagram.com/reel/AAA/"⟩
  | .mediaIdentity _ =>
      if (traceOf history).inputs = [] then some "first" else some "second"
  | .embeddedCandidates _ => .array [.string "AAA", .string "BBB"]
  | .scrollTarget _ => some ⟨true, true, some 10, some 10, some 430, some 800⟩
  | .feedInputTarget _ => some ⟨true, true, true, some 10, some 90, some 10⟩
  | .pause _ => true
  | .newCdpSession _ => true
  | .keyboard _ => false
  | .goto _ | .waitForTimeout _ | .touchStart _ _ | .touchMove _ _ | .touchEnd
  | .detach | .press _ _ | .mouseMove _ _ _ | .mouseWheel _ _ => ()
  | .firstPage => 0
  | .requireLive | .profilePath | .acquireLock | .clearTransientChromiumLocks
  | .startPlaywright | .launchPersistentContext | .closeContext
  | .stopPlaywright | .releaseLock => ()

def sampleActions : List FeedAction :=
  [.current, .pauseCurrent, .advance, .waitForNext "AAA" false]

section

variable {page : PageId} {limits : TransitionLimits}
variable {resources : Resources} {observeFeedJson : Bool}
variable {actions : List FeedAction}
variable {feed after : PlaywrightReelsFeed} {earlier history : List PageEvent}
variable {previousShortcode : String} {stoppable : Bool}

/-- Only an advance can give up the wheel. -/
theorem forced_persists {start : PlaywrightReelsFeed}
    (ran : Ran start earlier actions feed history)
    (operated : Operated start)
    (forced : start.forcePointerWheelNextAdvance = true)
    (idle : FeedAction.advance ∉ actions) :
    Operated feed ∧ feed.forcePointerWheelNextAdvance = true := by
  induction ran with
  | started => exact ⟨operated, forced⟩
  | acted ran played ih =>
      rw [List.mem_append, not_or, List.mem_singleton] at idle
      obtain ⟨here, kept⟩ := ih idle.1
      have acted := leaves_played (perform_leaves here _) played
      refine ⟨acted.operated, ?_⟩
      rcases acted.persists with gesture | persists
      · exact absurd gesture.symm idle.2
      · exact persists kept

/-- Whatever is asked of a feed, and whatever its page answers. -/
theorem feed_runs_bounded
    (ran : Ran (init page limits resources observeFeedJson) [] actions feed
      history) :
    RunLaws (init page limits resources observeFeedJson) actions feed
      (traceOf history) :=
  run_laws_of ran (init_laws page limits resources observeFeedJson)

theorem sample_run_bounded :
    ∃ feed history,
      Ran (init 0 sampleLimits ⟨true, true, true⟩ true) [] sampleActions feed
        history ∧
      feed.scrollAttempts = 1 ∧
      RunLaws (init 0 sampleLimits ⟨true, true, true⟩ true) sampleActions feed
        (traceOf history) := by
  have whole : ((lead samplePage sampleActions
      (init 0 sampleLimits ⟨true, true, true⟩ true) []).map
        fun led => led.1.scrollAttempts) = some 1 := by
    decide +kernel
  obtain ⟨⟨feed, history⟩, led, attempts⟩ := Option.map_eq_some_iff.mp whole
  have ran := ran_lead led
  exact ⟨feed, history, ran, attempts, feed_runs_bounded ran⟩

/-- An advance, at whatever point of a run. -/
theorem advances_ordered
    (ran : Ran (init page limits resources observeFeedJson) [] actions feed
      earlier) {outcome : Except CollectorFault Unit}
    (played : (advance feed).Plays Program.Records earlier
      (.ok (outcome, after)) history) :
    Advances.AdvanceLaws feed (traceOf earlier) outcome after
      (traceOf history) := by
  have laws := run_laws_of ran
    (init_laws page limits resources observeFeedJson)
  exact leaves_played (Advances.advance_leaves laws.operated) played

theorem sample_advance_ordered :
    ∃ feed earlier after history,
      Ran (init 0 sampleLimits ⟨true, true, true⟩ true) [] [.current] feed earlier ∧
      after.transitionMediaConfirmed = true ∧
      Advances.AdvanceLaws feed (traceOf earlier) (.ok ()) after
        (traceOf history) := by
  have whole : ((lead samplePage [.current]
      (init 0 sampleLimits ⟨true, true, true⟩ true) []).bind
        fun led => (take samplePage advance led.1 led.2).map fun taken =>
          (taken.1.toOption, taken.2.1.transitionMediaConfirmed)) =
      some (some (), true) := by
    decide +kernel
  obtain ⟨⟨feed, earlier⟩, led, rest⟩ := Option.bind_eq_some_iff.mp whole
  obtain ⟨⟨outcome, after, history⟩, taken, shape⟩ :=
    Option.map_eq_some_iff.mp rest
  cases outcome with
  | error fault => cases shape
  | ok _ =>
      have ran := ran_lead led
      exact ⟨feed, earlier, after, history, ran, congrArg Prod.snd shape,
        advances_ordered ran (take_plays taken)⟩

/-- A wait, at whatever point of a run. -/
theorem waits_confirmed
    (ran : Ran (init page limits resources observeFeedJson) [] actions feed
      earlier) {outcome : Except CollectorFault (Option ReelCandidate)}
    (played : (waitForNext previousShortcode stoppable feed).Plays
      Program.Records earlier (.ok (outcome, after)) history) :
    Waits.WaitLaws feed (traceOf earlier) previousShortcode outcome after
      (traceOf history) := by
  have laws := run_laws_of ran
    (init_laws page limits resources observeFeedJson)
  exact leaves_played (Waits.waitForNext_leaves laws.operated _ _) played

theorem sample_wait_confirmed :
    ∃ feed earlier after history,
      Ran (init 0 sampleLimits ⟨true, true, true⟩ true) [] [.current, .advance] feed
        earlier ∧
      Waits.WaitLaws feed (traceOf earlier) "AAA"
        (.ok (some ⟨"BBB", "https://www.instagram.com/reel/BBB/"⟩)) after
          (traceOf history) := by
  have whole : ((lead samplePage [.current, .advance]
      (init 0 sampleLimits ⟨true, true, true⟩ true) []).bind fun led =>
        (take samplePage (waitForNext "AAA" false) led.1 led.2).map
          fun taken => taken.1.toOption) =
      some (some (some ⟨"BBB", "https://www.instagram.com/reel/BBB/"⟩)) := by
    decide +kernel
  obtain ⟨⟨feed, earlier⟩, led, rest⟩ := Option.bind_eq_some_iff.mp whole
  obtain ⟨⟨outcome, after, history⟩, taken, shape⟩ :=
    Option.map_eq_some_iff.mp rest
  cases outcome with
  | error fault => cases shape
  | ok found =>
      obtain rfl := Option.some.inj shape
      have ran := ran_lead led
      exact ⟨feed, earlier, after, history, ran,
        waits_confirmed ran (take_plays taken)⟩

/-- What the authenticated feed returns, and what it has cost. -/
structure AuthenticatedLaws (before : PlaywrightReelsFeed) (earlier : Trace)
    (previousShortcode : String)
    (outcome : Except CollectorFault (Option ReelCandidate))
    (after : PlaywrightReelsFeed) (trace : Trace) : Prop where
  within : Within before earlier after trace
  proper : ∀ candidate, outcome = .ok (some candidate) →
    Proper previousShortcode candidate
  used : ∀ candidate, outcome = .ok (some candidate) →
    ∀ session ∈ after.feedJson,
      candidate.shortcode ∈ session.source.knownCodes ∧
        candidate.shortcode ∉ session.source.pending
  fresh : ∀ candidate, outcome = .ok (some candidate) →
    ∃ session, after.feedJson = some session ∧
      (Timely session.log → Fresh candidate.shortcode session)

/-- The next Reel of the authenticated feed, at whatever point of a run. -/
theorem authenticated_candidates_fresh
    (ran : Ran (init page limits resources observeFeedJson) [] actions feed
      earlier) {outcome : Except CollectorFault (Option ReelCandidate)}
    (played : (nextFromAuthenticatedFeed previousShortcode stoppable feed).Plays
      Program.Records earlier (.ok (outcome, after)) history) :
    AuthenticatedLaws feed (traceOf earlier) previousShortcode outcome after
      (traceOf history) := by
  have laws := run_laws_of ran
    (init_laws page limits resources observeFeedJson)
  have done := leaves_played
    (nextFromAuthenticatedFeed_leaves laws.operated _ _) played
  exact {
    within := done.within
    proper := fun candidate same => (done.returned candidate same).proper
    used := fun candidate same => (done.returned candidate same).used
    fresh := by
      intro candidate same
      have reserved := done.returned candidate same
      obtain ⟨operations, _, left⟩ := reserved
      exact ⟨_, left, (done.returned candidate same).fresh _ left⟩ }

theorem sample_candidate_fresh :
    ∃ feed earlier after history,
      Ran (init 0 sampleLimits ⟨true, true, true⟩ true) [] [.current] feed earlier ∧
      AuthenticatedLaws feed (traceOf earlier) "AAA"
        (.ok (some ⟨"BBB", "https://www.instagram.com/reel/BBB/"⟩)) after
          (traceOf history) := by
  have whole : ((lead samplePage [.current]
      (init 0 sampleLimits ⟨true, true, true⟩ true) []).bind fun led =>
        (take samplePage (nextFromAuthenticatedFeed "AAA" false) led.1
          led.2).map fun taken => taken.1.toOption) =
      some (some (some ⟨"BBB", "https://www.instagram.com/reel/BBB/"⟩)) := by
    decide +kernel
  obtain ⟨⟨feed, earlier⟩, led, rest⟩ := Option.bind_eq_some_iff.mp whole
  obtain ⟨⟨outcome, after, history⟩, taken, shape⟩ :=
    Option.map_eq_some_iff.mp rest
  cases outcome with
  | error fault => cases shape
  | ok found =>
      obtain rfl := Option.some.inj shape
      have ran := ran_lead led
      exact ⟨feed, earlier, after, history, ran,
        authenticated_candidates_fresh ran (take_plays taken)⟩

/-- A gesture has changed the media and no Reel was confirmed in time: whatever
is asked for in between, the next advance turns the wheel and does nothing
else. -/
theorem unconfirmed_gesture_unrepeated
    (ran : Ran (init page limits resources observeFeedJson) [] actions feed
      earlier) (confirmed : feed.transitionMediaConfirmed = true)
    {waiting resumed : PlaywrightReelsFeed} {middle last : List PageEvent}
    (waited : (waitForNext previousShortcode stoppable feed).Plays
      Program.Records earlier (.ok (.ok none, waiting)) middle)
    (timedOut : waiting.transitionDiagnostics.stopReasonCode =
      some "TRANSITION_TIMEOUT")
    {others : List FeedAction}
    (between : Ran waiting middle others resumed last)
    (idle : FeedAction.advance ∉ others)
    {outcome : Except CollectorFault Unit}
    (advanced : (advance resumed).Plays Program.Records last
      (.ok (outcome, after)) history) :
    Advances.Goes Advances.wheelInputs (traceOf last) (traceOf history) := by
  have laws := run_laws_of ran
    (init_laws page limits resources observeFeedJson)
  have ended := leaves_played
    (Waits.waitForNext_leaves laws.operated previousShortcode stoppable) waited
  have forced : waiting.forcePointerWheelNextAdvance = true := by
    rcases (ended.ended rfl).2 with stopped | timed
    · rw [stopped.1] at timedOut
      exact absurd timedOut (by decide)
    · rw [timed.2, confirmed, Bool.true_or]
  obtain ⟨operated, kept⟩ := forced_persists between ended.operated forced idle
  have sent := (leaves_played (Advances.advance_leaves operated) advanced).sent
  rw [Advances.allowedInputs, kept, if_pos rfl] at sent
  exact sent

/-- Without a source of candidates the wait is in vain. -/
theorem sample_gesture_unrepeated :
    ∃ resumed after last history,
      (advance resumed).Plays Program.Records last (.ok (.ok (), after))
        history ∧
      Advances.Goes Advances.wheelInputs (traceOf last) (traceOf history) := by
  have whole : ((lead samplePage [.current, .advance]
      (init 0 sampleLimits ⟨true, true, true⟩ false) []).bind fun led =>
        (take samplePage (waitForNext "AAA" false) led.1 led.2).bind
          fun waited => (take samplePage advance waited.2.1 waited.2.2).map
            fun taken => (led.1.transitionMediaConfirmed, waited.1.toOption,
              waited.2.1.transitionDiagnostics.stopReasonCode,
              taken.1.toOption)) =
      some (true, some none, some "TRANSITION_TIMEOUT", some ()) := by
    decide +kernel
  obtain ⟨⟨feed, earlier⟩, led, rest⟩ := Option.bind_eq_some_iff.mp whole
  obtain ⟨⟨found, waiting, middle⟩, waited, rest⟩ :=
    Option.bind_eq_some_iff.mp rest
  obtain ⟨⟨outcome, after, history⟩, taken, shape⟩ :=
    Option.map_eq_some_iff.mp rest
  cases found with
  | error fault => cases congrArg (·.2.1) shape
  | ok found =>
      cases outcome with
      | error fault => cases congrArg (·.2.2.2) shape
      | ok _ =>
          obtain rfl := Option.some.inj (congrArg (·.2.1) shape)
          have advanced := take_plays taken
          exact ⟨waiting, after, middle, history, advanced,
            unconfirmed_gesture_unrepeated (ran_lead led)
              (congrArg Prod.fst shape) (take_plays waited)
              (congrArg (·.2.2.1) shape) .started List.not_mem_nil advanced⟩

end

end OfflineReels.Collector.PlaywrightReelsFeed.Runs
