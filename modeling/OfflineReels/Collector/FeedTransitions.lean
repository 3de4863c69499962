import OfflineReels.Collector.BrowserFeed
import OfflineReels.Collector.CanonicalSpellings

namespace OfflineReels.Collector.PlaywrightReelsFeed.Transitions

open OfflineReels.Foundation
open OfflineReels.Foundation.Stateful
open OfflineReels.Collector.FeedJson (FeedSession FeedOperation)

/-! What the feed asks of its page.  The phase is what was seen of the calls, so
nothing is assumed of the page. -/

abbrev PageEvent : Type := Event PageCall PageReply CollectorFault

inductive Input
  | touchStart
  | touchMove
  | touchEnd
  | press (key : Key)
  | mouseMove
  | mouseWheel
  deriving DecidableEq, Repr

def inputOf : PageCall → Option Input
  | .touchStart _ _ => some .touchStart
  | .touchMove _ _ => some .touchMove
  | .touchEnd => some .touchEnd
  | .press _ key => some (.press key)
  | .mouseMove _ _ _ => some .mouseMove
  | .mouseWheel _ _ => some .mouseWheel
  | _ => none

/-- The media identities and the inputs, the latest first. -/
structure Trace where
  identities : List (Option String) := []
  inputs : List Input := []
  navigations : Nat := 0
  deriving DecidableEq, Repr

def Trace.note (trace : Trace) (request : PageCall)
    (reply : Except CollectorFault (PageReply request)) : Trace :=
  match request, reply with
  | .mediaIdentity _, reply =>
      { trace with identities := identityOf reply :: trace.identities }
  | .goto _, _ => { trace with navigations := trace.navigations + 1 }
  | request, _ =>
      { trace with inputs := (inputOf request).toList ++ trace.inputs }

def traceOf (history : List PageEvent) : Trace :=
  history.foldl (fun trace event => trace.note event.request event.reply) {}

def tracing : Protocol PageCall PageReply CollectorFault Trace where
  permits := fun _ _ => True
  assumes := fun _ _ _ => True
  advance := Trace.note

theorem leaves_played {α : Type} {program : FeedProgram α}
    {feed after : PlaywrightReelsFeed} {earlier history : List PageEvent}
    {post : Except CollectorFault α → PlaywrightReelsFeed → Trace → Prop}
    {outcome : Except CollectorFault α}
    (leaves : Leaves tracing (traceOf earlier) feed program post)
    (played : (program feed).Plays Program.Records earlier
      (.ok (outcome, after)) history) :
    post outcome after (traceOf history) := by
  have answers : ∀ phase state request reply middle,
      phase = traceOf state → tracing.permits phase request →
      Program.Records state request reply middle →
      tracing.assumes phase request reply ∧
        tracing.advance phase request reply = traceOf middle := by
    intro phase state request reply middle watched _ recorded
    obtain rfl := watched
    obtain rfl := recorded
    refine ⟨trivial, ?_⟩
    unfold traceOf
    rw [List.foldl_append]
    rfl
  obtain ⟨reached, holds, watched⟩ :=
    Program.Follows.plays answers leaves rfl played
  obtain ⟨result, last, same, kept⟩ := holds
  cases same
  rw [← watched]
  exact kept

abbrev Holding : Type := PlaywrightReelsFeed → Trace → Prop

def isPlain : PageCall → Bool
  | .mediaIdentity _ | .goto _ => false
  | .requireLive | .profilePath | .acquireLock | .clearTransientChromiumLocks
  | .startPlaywright | .launchPersistentContext | .firstPage | .closeContext
  | .stopPlaywright | .releaseLock => false
  | request => (inputOf request).isNone

theorem note_plain {request : PageCall} (plain : isPlain request = true)
    (trace : Trace) (reply : Except CollectorFault (PageReply request)) :
    trace.note request reply = trace := by
  cases request <;> first
    | rfl
    | cases plain

def Operated (feed : PlaywrightReelsFeed) : Prop :=
  ∀ session ∈ feed.feedJson, ∃ operations, session = FeedSession.run operations

def operate (feed : PlaywrightReelsFeed) (operation : FeedOperation) :
    PlaywrightReelsFeed :=
  { feed with feedJson := feed.feedJson.map (·.perform operation) }

namespace Operated

variable {feed : PlaywrightReelsFeed}

theorem keeps (operated : Operated feed) {session : FeedSession}
    (member : session ∈ feed.feedJson) : FeedJson.Keeps session := by
  obtain ⟨operations, rfl⟩ := operated session member
  exact (FeedJson.Keeps.empty.performAll operations).keeps

theorem operate (operated : Operated feed) (operation : FeedOperation) :
    Operated (operate feed operation) := by
  intro session member
  obtain ⟨before, here, rfl⟩ := Option.map_eq_some_iff.mp member
  obtain ⟨operations, rfl⟩ := operated before here
  refine ⟨operations ++ [operation], ?_⟩
  unfold FeedSession.run
  rw [List.foldl_append]
  rfl

end Operated

theorem operate_all (feed : PlaywrightReelsFeed)
    (operations : List FeedOperation) :
    operations.foldl operate feed = { feed with
      feedJson := feed.feedJson.map
        (operations.foldl FeedSession.perform ·) } := by
  induction operations generalizing feed with
  | nil =>
      have same : feed.feedJson.map (fun session => session) =
          feed.feedJson := Option.map_id'
      simp only [List.foldl_nil, same]
  | cons operation rest ih =>
      rw [List.foldl_cons, ih]
      simp only [operate, Option.map_map]
      rfl

section

variable {Phase α : Type}
variable {protocol : Protocol PageCall PageReply CollectorFault Phase}
variable {holding : PlaywrightReelsFeed → Phase → Prop}
variable {feed : PlaywrightReelsFeed} {phase : Phase}

/-- What the helpers of the feed cannot disturb: they make plain calls, find a
page and operate the source. -/
structure Undisturbed
    (protocol : Protocol PageCall PageReply CollectorFault Phase)
    (holding : PlaywrightReelsFeed → Phase → Prop) : Prop where
  permits : ∀ feed phase request, isPlain request = true →
    holding feed phase → protocol.permits phase request
  plain : ∀ feed phase request reply, isPlain request = true →
    holding feed phase → holding feed (protocol.advance phase request reply)
  page : ∀ feed phase page, holding feed phase →
    holding { feed with page } phase
  source : ∀ feed phase operation, holding feed phase →
    holding (operate feed operation) phase

theorem Undisturbed.source_all (undisturbed : Undisturbed protocol holding)
    (operations : List FeedOperation) (holds : holding feed phase) :
    holding (operations.foldl operate feed) phase := by
  induction operations generalizing feed with
  | nil => exact holds
  | cons operation rest ih =>
      exact ih (undisturbed.source feed phase operation holds)

theorem stop_steady (reason : String) :
    Keeps protocol holding (stop reason : FeedProgram α) :=
  keeps_raise _

variable (undisturbed : Undisturbed protocol holding)

include undisturbed

theorem ask_steady {request : PageCall} (plain : isPlain request = true) :
    Keeps protocol holding (ask request) := by
  apply keeps_perform
  · intro feed phase holds
    exact undisturbed.permits feed phase request plain holds
  · intro feed phase reply holds
    exact undisturbed.plain feed phase request reply plain holds

theorem onSession_steady (operation : FeedOperation) :
    Keeps protocol holding (onSession (·.perform operation)) := by
  apply keeps_write
  intro feed phase holds
  exact undisturbed.source feed phase operation holds

theorem dispatch_leaves (holds : holding feed phase) :
    Leaves protocol phase feed dispatch fun outcome after reached =>
      outcome = .ok () ∧ holding after reached := by
  have asked : Keeps protocol holding (ask .responses) :=
    ask_steady undisturbed rfl
  apply (asked phase feed holds).attempt
  intro outcome after reached kept
  cases outcome with
  | error fault => exact leaves_pure ⟨rfl, kept⟩
  | ok responses =>
      apply leaves_write
      have observed := undisturbed.source_all (responses.map .observe) kept
      rw [operate_all] at observed
      simp only [List.foldl_map] at observed
      exact ⟨rfl, observed⟩

theorem onPage_advances (request : PageCall)
    (permitted : ∀ feed phase, holding feed phase →
      protocol.permits phase request) (holds : holding feed phase) :
    Leaves protocol phase feed (onPage request) fun outcome after reached =>
      ∃ before, holding after before ∧
        reached = protocol.advance before request outcome := by
  apply (dispatch_leaves undisturbed holds).bind
  · intro _ after reached kept
    apply leaves_perform (permitted after reached kept.2)
    intro reply _
    exact ⟨reached, kept.2, rfl⟩
  · intro fault after reached kept
    cases kept.1

theorem onPage_steady {request : PageCall} (plain : isPlain request = true) :
    Keeps protocol holding (onPage request) := by
  intro phase feed holds
  have permitted : ∀ feed phase, holding feed phase →
      protocol.permits phase request := fun feed phase =>
    undisturbed.permits feed phase request plain
  apply (onPage_advances undisturbed request permitted holds).mono
  intro outcome after reached kept
  obtain ⟨before, held, rfl⟩ := kept
  exact undisturbed.plain after before request outcome plain held

theorem pageIsClosed_steady : Keeps protocol holding pageIsClosed := by
  apply keeps_read.bind
  intro feed
  apply (ask_steady undisturbed rfl).rescue
  intro _
  exact keeps_pure _

theorem raiseIfClosed_steady : Keeps protocol holding raiseIfClosed := by
  apply keeps_read.bind
  intro feed
  split
  · exact stop_steady _
  · apply (pageIsClosed_steady undisturbed).bind
    intro closed
    split
    · exact stop_steady _
    · exact keeps_pure _

theorem shouldStop_steady (stoppable : Bool) :
    Keeps protocol holding (shouldStop stoppable) := by
  unfold shouldStop
  split
  · exact ask_steady undisturbed rfl
  · exact keeps_pure _

theorem raiseIfControlledStop_steady :
    Keeps protocol holding raiseIfControlledStop := by
  apply keeps_read.bind
  intro feed
  apply (onPage_steady undisturbed rfl).bind
  intro state
  cases state with
  | none => exact keeps_pure _
  | some state =>
      dsimp only
      split
      · exact stop_steady _
      split
      · exact stop_steady _
      split
      · exact stop_steady _
      · exact keeps_pure _

theorem closedOr_steady {otherwise : CollectorFault → FeedProgram α}
    (steady : ∀ fault, Keeps protocol holding (otherwise fault))
    (fault : CollectorFault) :
    Keeps protocol holding (closedOr otherwise fault) := by
  apply (pageIsClosed_steady undisturbed).bind
  intro closed
  split
  · exact stop_steady _
  · exact steady fault

theorem captureEmbeddedFeedCandidates_steady :
    Keeps protocol holding captureEmbeddedFeedCandidates := by
  apply keeps_read.bind
  intro feed
  split
  · exact keeps_pure _
  · apply Stateful.Keeps.rescue
    · apply (onPage_steady undisturbed rfl).bind
      intro payload
      exact onSession_steady undisturbed (.observeEmbeddedCandidates payload)
    · intro _
      exact keeps_pure _

theorem isInstagramPage_steady (page : PageId) :
    Keeps protocol holding (isInstagramPage page) := by
  apply Stateful.Keeps.rescue
  · apply (ask_steady undisturbed rfl).bind
    intro url
    exact keeps_pure _
  · intro _
    exact keeps_pure _

omit undisturbed in
theorem probed_steady {program : FeedProgram (Option α)}
    (steady : Keeps protocol holding program) :
    Keeps protocol holding (probed program) := by
  apply Stateful.Keeps.rescue
  · apply steady.bind
    intro _
    exact keeps_pure _
  · intro _
    exact keeps_pure _

theorem identified_steady (page : PageId) (search : PageSearch) :
    Keeps protocol holding (identified page search) := by
  apply (probed_steady (onPage_steady undisturbed rfl)).bind
  intro found
  split
  · exact keeps_pure _
  · exact keeps_pure _
  · split
    · exact keeps_pure _
    · exact keeps_pure _

theorem searchPage_steady (page : PageId) (search : PageSearch) :
    Keeps protocol holding (searchPage page search) := by
  apply (ask_steady undisturbed rfl).bind
  intro closed
  split
  · exact keeps_pure _
  apply (isInstagramPage_steady undisturbed page).bind
  intro instagram
  split
  · exact keeps_pure _
  apply (probed_steady (onPage_steady undisturbed rfl)).bind
  intro state
  split
  · exact keeps_pure _
  · exact identified_steady undisturbed page search
  · split
    · exact keeps_pure _
    split
    · exact keeps_pure _
    split
    · exact keeps_pure _
    · exact identified_steady undisturbed page search

theorem searchPages_steady (pages : List PageId) (search : PageSearch) :
    Keeps protocol holding (searchPages pages search) := by
  induction pages generalizing search with
  | nil => exact keeps_pure _
  | cons page later ih =>
      apply (searchPage_steady undisturbed page search).bind
      intro found
      exact ih found

theorem selectReelsPage_steady : Keeps protocol holding selectReelsPage := by
  apply keeps_read.bind
  intro feed
  split
  · exact keeps_raise _
  apply (ask_steady undisturbed rfl).bind
  intro pages
  apply (searchPages_steady undisturbed pages {}).bind
  intro search
  split
  · apply Stateful.Keeps.bind
    · apply keeps_write
      intro feed trace holds
      exact undisturbed.page feed trace _ holds
    · intro _
      exact keeps_pure _
  · exact stop_steady _

theorem waitForInitialReel_steady (polls : Nat) :
    Keeps protocol holding (waitForInitialReel polls) := by
  induction polls with
  | zero => exact stop_steady _
  | succ polls ih =>
      apply (raiseIfClosed_steady undisturbed).bind
      intro _
      apply (selectReelsPage_steady undisturbed).rescue
      intro fault
      split
      · exact keeps_raise _
      · apply keeps_read.bind
        intro feed
        apply (onPage_steady undisturbed rfl).bind
        intro _
        exact ih

theorem initialReel_steady : Keeps protocol holding initialReel := by
  apply keeps_read.bind
  intro feed
  exact waitForInitialReel_steady undisturbed _

theorem pauseCurrent_steady : Keeps protocol holding pauseCurrent := by
  apply (raiseIfClosed_steady undisturbed).bind
  intro _
  apply keeps_read.bind
  intro feed
  apply (onPage_steady undisturbed rfl).bind
  intro paused
  split
  · exact keeps_pure _
  · exact stop_steady _

theorem candidateFromProbe_yields (holds : holding feed phase) :
    Yields protocol holding phase feed candidateFromProbe
      fun candidate after reached => holding after reached ∧
        validateCandidate candidate = .ok candidate := by
  apply yields_read
  have asked : Keeps protocol holding (onPage (.identity feed.page)) :=
    onPage_steady undisturbed rfl
  apply (asked.yields (fun _ _ kept => kept) holds).bind
  intro found after reached kept
  cases found with
  | none => exact yields_raise kept
  | some candidate =>
      cases valid : validateCandidate candidate with
      | error fault =>
          simp only [valid]
          exact yields_raise kept
      | ok accepted =>
          simp only [valid]
          obtain ⟨rfl, _⟩ := validateCandidate_eq_ok valid
          exact yields_pure ⟨kept, valid⟩

theorem candidateFromProbe_steady : Keeps protocol holding candidateFromProbe :=
  keeps_of_yields
    (fun _ _ holds => candidateFromProbe_yields undisturbed holds)
    fun _ _ _ kept => kept.1

theorem current_steady : Keeps protocol holding current := by
  apply keeps_read.bind
  intro feed
  split
  · exact stop_steady _
  split
  · apply (initialReel_steady undisturbed).bind
    intro candidate
    apply (captureEmbeddedFeedCandidates_steady undisturbed).bind
    intro _
    apply (onSession_steady undisturbed (.markUsed candidate.shortcode)).bind
    intro _
    exact keeps_pure _
  · apply (raiseIfClosed_steady undisturbed).bind
    intro _
    apply (raiseIfControlledStop_steady undisturbed).bind
    intro _
    exact candidateFromProbe_steady undisturbed

theorem candidateOrNone_yields (holds : holding feed phase) :
    Yields protocol holding phase feed candidateOrNone
      fun found after reached => holding after reached ∧
        ∀ candidate ∈ found, validateCandidate candidate = .ok candidate := by
  apply Yields.rescue
  · apply (candidateFromProbe_yields undisturbed holds).bind
    intro candidate after reached kept
    apply yields_pure
    refine ⟨kept.1, ?_⟩
    intro other same
    cases same
    exact kept.2
  · intro fault after reached kept
    apply yields_pure
    refine ⟨kept, ?_⟩
    intro candidate clash
    cases clash

theorem navigateToReels_advances {gone : PlaywrightReelsFeed → Phase → Prop}
    (permitted : ∀ feed phase page, holding feed phase →
      protocol.permits phase (.goto page))
    (weaken : ∀ feed phase, holding feed phase → gone feed phase)
    (goes : ∀ feed phase page reply, holding feed phase →
      gone feed (protocol.advance phase (.goto page) reply))
    (holds : holding feed phase) :
    Leaves protocol phase feed navigateToReels fun _ => gone := by
  apply (raiseIfClosed_steady undisturbed phase feed holds).bind
  · intro _ after reached kept
    apply leaves_writing
    apply leaves_reading
    have reset := undisturbed.source after reached .resetForFeedNavigation kept
    apply (onPage_advances undisturbed _
      (fun feed phase => permitted feed phase _) reset).rescue
    · intro _ later here kept
      obtain ⟨before, held, rfl⟩ := kept
      exact goes later before _ _ held
    · intro _ later here kept _
      obtain ⟨before, held, rfl⟩ := kept
      exact leaves_raise (goes later before _ _ held)
    · intro _ later here kept _
      obtain ⟨before, held, rfl⟩ := kept
      exact goes later before _ _ held
  · intro fault after reached kept
    exact weaken after reached kept

end

abbrev Steady {α : Type} (holding : Holding) (program : FeedProgram α) :
    Prop :=
  Stateful.Keeps tracing holding program

section

variable {holding : Holding} {feed : PlaywrightReelsFeed} {trace : Trace}

theorem undisturbed_of
    (page : ∀ feed trace page, holding feed trace →
      holding { feed with page } trace)
    (source : ∀ feed trace operation, holding feed trace →
      holding (operate feed operation) trace) :
    Undisturbed tracing holding where
  permits := fun _ _ _ _ _ => trivial
  plain := by
    intro feed trace request reply plain holds
    change holding feed (trace.note request reply)
    rw [note_plain plain]
    exact holds
  page := page
  source := source

theorem onPage_leaves (undisturbed : Undisturbed tracing holding)
    (request : PageCall) (holds : holding feed trace) :
    Leaves tracing trace feed (onPage request) fun outcome after reached =>
      ∃ before, holding after before ∧ reached = before.note request outcome :=
  onPage_advances undisturbed request (fun _ _ _ => trivial) holds

theorem navigateToReels_leaves (undisturbed : Undisturbed tracing holding)
    {gone : Holding}
    (weaken : ∀ feed trace, holding feed trace → gone feed trace)
    (goes : ∀ feed trace, holding feed trace →
      gone feed { trace with navigations := trace.navigations + 1 })
    (holds : holding feed trace) :
    Leaves tracing trace feed navigateToReels fun _ => gone :=
  navigateToReels_advances undisturbed (fun _ _ _ _ => trivial) weaken
    (fun feed trace _ _ => goes feed trace) holds

theorem closing_steady {present : Bool} {request : PageCall}
    (silent : ∀ (trace : Trace) reply, trace.note request reply = trace) :
    Steady holding (closing present request) := by
  have asked : Steady holding (ask request) := by
    apply keeps_perform
    · intro _ _ _
      trivial
    · intro feed trace reply holds
      change holding feed (trace.note request reply)
      rw [silent]
      exact holds
  apply Stateful.Keeps.rescue
  · split
    · apply asked.bind
      intro _
      exact keeps_pure _
    · exact keeps_pure _
  · intro _
    exact keeps_pure _

theorem closeRuntime_steady (resources : Resources) :
    Steady holding (closeRuntime resources) := by
  apply (closing_steady fun _ _ => rfl).bind
  intro _
  apply (closing_steady fun _ _ => rfl).bind
  intro _
  exact closing_steady fun _ _ => rfl

end

def Untouched (start : PlaywrightReelsFeed) (earlier : Trace) : Holding :=
  fun feed trace => Operated feed ∧ trace = earlier ∧
    feed = { start with page := feed.page, feedJson := feed.feedJson }

theorem untouched_undisturbed (start : PlaywrightReelsFeed) (earlier : Trace) :
    Undisturbed tracing (Untouched start earlier) := by
  apply undisturbed_of
  · intro feed trace page held
    obtain ⟨operated, same, shape⟩ := held
    refine ⟨operated, same, ?_⟩
    rw [shape]
  · intro feed trace operation held
    obtain ⟨operated, same, shape⟩ := held
    refine ⟨operated.operate operation, same, ?_⟩
    rw [shape]
    rfl

def Within (start : PlaywrightReelsFeed) (earlier : Trace) : Holding :=
  fun feed trace => Untouched start earlier feed trace ∨
    Untouched start { earlier with navigations := earlier.navigations + 1 }
      feed trace

theorem within_undisturbed (start : PlaywrightReelsFeed) (earlier : Trace) :
    Undisturbed tracing (Within start earlier) := by
  apply undisturbed_of
  · intro feed trace page held
    apply held.imp
    · exact (untouched_undisturbed start _).page feed trace page
    · exact (untouched_undisturbed start _).page feed trace page
  · intro feed trace operation held
    apply held.imp
    · exact (untouched_undisturbed start _).source feed trace operation
    · exact (untouched_undisturbed start _).source feed trace operation

theorem Within.operated {start feed : PlaywrightReelsFeed}
    {earlier trace : Trace} (within : Within start earlier feed trace) :
    Operated feed := by
  rcases within with untouched | untouched
  · exact untouched.1
  · exact untouched.1

theorem navigateToReels_within {start feed : PlaywrightReelsFeed}
    {earlier trace : Trace} (untouched : Untouched start earlier feed trace) :
    Leaves tracing trace feed navigateToReels
      fun _ => Within start earlier := by
  apply navigateToReels_leaves (untouched_undisturbed start earlier)
  · intro feed trace untouched
    exact .inl untouched
  · intro feed trace untouched
    obtain ⟨operated, rfl, same⟩ := untouched
    exact .inr ⟨operated, rfl, same⟩
  · exact untouched

def Proper (previousShortcode : String) (candidate : ReelCandidate) : Prop :=
  validateCandidate candidate = .ok candidate ∧
    candidate.shortcode ≠ previousShortcode

theorem reserve_proper {session : FeedSession} (keeps : FeedJson.Keeps session)
    {passes : Nat × String → Bool} {previousShortcode : String}
    (skips : ∀ observation, passes (observation, previousShortcode) = true) :
    ∀ candidate ∈ (session.reserve passes).2,
      Proper previousShortcode candidate := by
  intro candidate member
  unfold FeedSession.reserve at member
  split at member
  · cases member
  · rename_i observation code found
    obtain rfl := Option.some.inj member
    have valid : isShortcode code = true :=
      keeps.bounded.valid code
        (List.mem_map_of_mem (List.mem_of_find?_eq_some found))
    constructor
    · exact (CanonicalSpellings.validateCandidate_spelling_iff _).mpr
        ⟨valid, CanonicalSpellings.isSpelling_canonicalUrl valid⟩
    · intro same
      have passed := List.find?_some found
      dsimp only at same
      rw [same, skips] at passed
      cases passed

section

variable {holding : Holding} {feed : PlaywrightReelsFeed} {trace : Trace}

theorem reserved_yields (undisturbed : Undisturbed tracing holding)
    (operated : ∀ feed trace, holding feed trace → Operated feed)
    {reservation : FeedSession → FeedSession × Option ReelCandidate}
    {operation : FeedOperation} {previousShortcode : String}
    (performed : ∀ session,
      (reservation session).1 = session.perform operation)
    (proper : ∀ session, FeedJson.Keeps session →
      ∀ candidate ∈ (reservation session).2,
        Proper previousShortcode candidate)
    (holds : holding feed trace) :
    Yields tracing holding trace feed (reserved reservation)
      fun found after reached => holding after reached ∧
        ∀ candidate ∈ found, Proper previousShortcode candidate := by
  apply yields_read
  apply yields_write
  apply yields_pure
  constructor
  · have operated := undisturbed.source feed trace operation holds
    have same : (fun session => (reservation session).1) =
        (·.perform operation) := funext performed
    rw [same]
    exact operated
  · intro candidate member
    obtain ⟨session, here, found⟩ := Option.bind_eq_some_iff.mp member
    exact proper session ((operated feed trace holds).keeps here) candidate found

end

end OfflineReels.Collector.PlaywrightReelsFeed.Transitions
