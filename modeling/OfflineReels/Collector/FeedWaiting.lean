import OfflineReels.Collector.FeedTransitions

namespace OfflineReels.Collector.PlaywrightReelsFeed.Waits

open OfflineReels.Foundation
open OfflineReels.Foundation.Stateful
open OfflineReels.Collector.FeedJson (FeedSession FeedOperation)
open Transitions

/-! A wait for the next Reel, sample by sample. -/

def Streak (sampling : Sampling) (base : Option String)
    (looks : List (Option String)) : Prop :=
  1 ≤ sampling.stableCount →
    ∃ before seen, base = some before ∧ seen ≠ before ∧
      sampling.stableMediaIdentity = some seen ∧
      List.replicate sampling.stableCount (some seen) <+: looks

namespace Streak

variable {sampling changed : Sampling} {base : Option String}
variable {looks : List (Option String)}

theorem fresh : Streak {} base looks := by
  intro counted
  cases counted

theorem of_same (streak : Streak sampling base looks)
    (count : changed.stableCount = sampling.stableCount)
    (identity : changed.stableMediaIdentity = sampling.stableMediaIdentity) :
    Streak changed base looks := by
  unfold Streak
  rw [count, identity]
  exact streak

theorem note (streak : Streak sampling base looks) (current : Option String) :
    Streak (sampling.note base current) base (current :: looks) := by
  intro counted
  cases base with
  | none => exact absurd counted (by simp [Sampling.note])
  | some before =>
      cases current with
      | none => exact absurd counted (by simp [Sampling.note])
      | some seen =>
          refine ⟨before, seen, rfl, ?_⟩
          by_cases same : seen = before
          · exact absurd counted (by simp [Sampling.note, same])
          refine ⟨same, ?_⟩
          by_cases again : sampling.stableMediaIdentity = some seen
          · simp only [Sampling.note, if_neg same, if_pos again]
            refine ⟨again, ?_⟩
            rw [List.replicate_succ, List.cons_prefix_cons]
            refine ⟨rfl, ?_⟩
            by_cases first : 1 ≤ sampling.stableCount
            · obtain ⟨_, other, _, _, kept, agreed⟩ := streak first
              rw [again] at kept
              obtain rfl := Option.some.inj kept
              exact agreed
            · have none_yet : sampling.stableCount = 0 := by omega
              rw [none_yet]
              exact List.nil_prefix
          · simp only [Sampling.note, if_neg same, if_neg again]
            refine ⟨trivial, ?_⟩
            rw [List.replicate_succ, List.cons_prefix_cons]
            exact ⟨rfl, List.nil_prefix⟩

theorem agreed (streak : Streak sampling base looks)
    (stable : 2 ≤ sampling.stableCount) :
    ∃ before seen rest, base = some before ∧ seen ≠ before ∧
      looks = some seen :: some seen :: rest := by
  obtain ⟨before, seen, known, other, _, repeated⟩ := streak (by omega)
  have two : List.replicate 2 (some seen) <+: looks := by
    apply List.IsPrefix.trans _ repeated
    rw [List.prefix_replicate_iff]
    constructor
    · simpa using stable
    · simp
  obtain ⟨rest, shape⟩ := two
  exact ⟨before, seen, rest, known, other, shape.symm⟩

end Streak

theorem note_refreshAttempted (sampling : Sampling)
    (previous current : Option String) :
    (sampling.note previous current).feedRefreshAttempted =
      sampling.feedRefreshAttempted := by
  cases previous with
  | none => rfl
  | some before =>
      cases current with
      | none => rfl
      | some seen =>
          simp only [Sampling.note]
          split
          · rfl
          · split
            · rfl
            · rfl

/-- What a wait starts from, and how often it may look at the media. -/
structure Wait where
  start : PlaywrightReelsFeed
  earlier : Trace
  base : Option String
  limit : Nat

structure Quiet (wait : Wait) (feed : PlaywrightReelsFeed) (trace : Trace) :
    Prop where
  operated : Operated feed
  silent : trace.inputs = wait.earlier.inputs
  navigated : trace.navigations ≤ wait.earlier.navigations +
    if feed.sampling.feedRefreshAttempted then 1 else 0
  bounded : trace.identities.length ≤
    wait.limit + wait.earlier.identities.length
  attempts : feed.scrollAttempts = wait.start.scrollAttempts
  limits : feed.limits = wait.start.limits
  persists : wait.start.forcePointerWheelNextAdvance = true →
    feed.forcePointerWheelNextAdvance = true

structure Waiting (wait : Wait) (looks : List (Option String))
    (feed : PlaywrightReelsFeed) (trace : Trace) : Prop where
  quiet : Quiet wait feed trace
  looked : trace.identities = looks ++ wait.earlier.identities
  streak : Streak feed.sampling wait.base looks
  idle : feed.transitionDiagnostics.stopReasonCode = none
  confirmed : feed.transitionMediaConfirmed =
    wait.start.transitionMediaConfirmed
  forced : feed.forcePointerWheelNextAdvance =
    wait.start.forcePointerWheelNextAdvance

section

variable {wait : Wait} {feed : PlaywrightReelsFeed} {trace : Trace}
variable {looks : List (Option String)}

theorem Quiet.operate (quiet : Quiet wait feed trace)
    (operation : FeedOperation) :
    Quiet wait (operate feed operation) trace where
  operated := quiet.operated.operate operation
  silent := quiet.silent
  navigated := quiet.navigated
  bounded := quiet.bounded
  attempts := quiet.attempts
  limits := quiet.limits
  persists := quiet.persists

theorem quiet_undisturbed (wait : Wait) :
    Undisturbed tracing (Quiet wait) :=
  undisturbed_of
    (fun _ _ _ quiet => { quiet with operated := quiet.operated })
    fun _ _ operation quiet => quiet.operate operation

theorem waiting_undisturbed (wait : Wait) (looks : List (Option String)) :
    Undisturbed tracing (Waiting wait looks) :=
  undisturbed_of
    (fun _ _ _ waiting => {
      waiting with
        quiet := (quiet_undisturbed wait).page _ _ _ waiting.quiet })
    fun _ _ operation waiting => {
      waiting with quiet := waiting.quiet.operate operation }

theorem Waiting.operated (waiting : Waiting wait looks feed trace) :
    Operated feed := waiting.quiet.operated

theorem Waiting.resample (waiting : Waiting wait looks feed trace)
    {change : Sampling → Sampling}
    (refreshed : (change feed.sampling).feedRefreshAttempted =
      feed.sampling.feedRefreshAttempted)
    (count : (change feed.sampling).stableCount = feed.sampling.stableCount)
    (identity : (change feed.sampling).stableMediaIdentity =
      feed.sampling.stableMediaIdentity) :
    Waiting wait looks
      { feed with sampling := change feed.sampling } trace where
  quiet := {
    operated := waiting.operated
    silent := waiting.quiet.silent
    navigated := by
      have same : ({ feed with sampling := change feed.sampling } :
          PlaywrightReelsFeed).sampling.feedRefreshAttempted =
            feed.sampling.feedRefreshAttempted := refreshed
      rw [same]
      exact waiting.quiet.navigated
    bounded := waiting.quiet.bounded
    attempts := waiting.quiet.attempts
    limits := waiting.quiet.limits
    persists := waiting.quiet.persists }
  looked := waiting.looked
  streak := waiting.streak.of_same count identity
  idle := waiting.idle
  confirmed := waiting.confirmed
  forced := waiting.forced

theorem activeMediaIdentity_yields
    (waiting : Waiting wait looks feed trace)
    (within : looks.length < wait.limit) :
    Yields tracing (Quiet wait) trace feed activeMediaIdentity
      fun current after reached =>
        Waiting wait (current :: looks)
          { after with sampling := after.sampling.note wait.base current }
          reached := by
  apply yields_read
  apply (onPage_leaves (waiting_undisturbed wait looks) _
    waiting).attempt
  intro outcome after reached kept
  obtain ⟨before, held, rfl⟩ := kept
  have shape : (before.note (.mediaIdentity feed.page) outcome).identities =
      identityOf outcome :: looks ++ wait.earlier.identities :=
    congrArg (identityOf outcome :: ·) held.looked
  have quiet : Quiet wait after
      (before.note (.mediaIdentity feed.page) outcome) := {
    held.quiet with
    operated := held.operated
    bounded := by
      rw [shape]
      simp only [List.length_append, List.length_cons]
      omega }
  have noted : Waiting wait (identityOf outcome :: looks)
      { after with
        sampling := after.sampling.note wait.base (identityOf outcome) }
      (before.note (.mediaIdentity feed.page) outcome) := {
    quiet := {
      quiet with
      navigated := by
        rw [note_refreshAttempted]
        exact quiet.navigated }
    looked := shape
    streak := held.streak.note _
    idle := held.idle
    confirmed := held.confirmed
    forced := held.forced }
  cases outcome with
  | ok result => exact yields_pure noted
  | error fault =>
      dsimp only
      split
      · exact yields_pure noted
      · exact yields_raise quiet

theorem resample_yields {change : Sampling → Sampling}
    (waiting : Waiting wait looks feed trace)
    (refreshed : (change feed.sampling).feedRefreshAttempted =
      feed.sampling.feedRefreshAttempted)
    (count : (change feed.sampling).stableCount = feed.sampling.stableCount)
    (identity : (change feed.sampling).stableMediaIdentity =
      feed.sampling.stableMediaIdentity) :
    Yields tracing (Waiting wait looks) trace feed
      (resample change) fun _ => Waiting wait looks :=
  leaves_write (waiting.resample refreshed count identity)

end

def Found (wait : Wait) (looks : List (Option String))
    (previousShortcode : String) (found : Option ReelCandidate)
    (feed : PlaywrightReelsFeed) (trace : Trace) : Prop :=
  Waiting wait looks feed trace ∧
    ∀ candidate ∈ found, Proper previousShortcode candidate

section

variable {wait : Wait} {feed : PlaywrightReelsFeed} {trace : Trace}
variable {looks : List (Option String)}

abbrev Finds (wait : Wait) (looks : List (Option String))
    (previousShortcode : String)
    (program : FeedProgram (Option ReelCandidate)) : Prop :=
  ∀ trace feed, Waiting wait looks feed trace →
    Yields tracing (Waiting wait looks) trace feed program
      (Found wait looks previousShortcode)

theorem nothing_found (previousShortcode : String) :
    Finds wait looks previousShortcode (pure none) := by
  intro trace feed waiting
  apply yields_pure
  refine ⟨waiting, ?_⟩
  intro candidate clash
  cases clash

theorem nextAfter_finds (previousShortcode : String) (after : Nat) :
    Finds wait looks previousShortcode
      (reserved (·.nextAfter previousShortcode after)) := by
  intro trace feed waiting
  apply reserved_yields (waiting_undisturbed wait looks)
    (fun _ _ => Waiting.operated) _ _ waiting
  · exact .nextAfter previousShortcode after
  · intro session
    rfl
  · intro session keeps
    exact reserve_proper keeps fun _ => by simp

theorem nextFromCurrentFeed_finds (previousShortcode : String) :
    Finds wait looks previousShortcode
      (reserved (·.nextFromCurrentFeed previousShortcode)) := by
  intro trace feed waiting
  apply reserved_yields (waiting_undisturbed wait looks)
    (fun _ _ => Waiting.operated) _ _ waiting
  · exact .nextFromCurrentFeed previousShortcode
  · intro session
    rfl
  · intro session keeps
    exact reserve_proper keeps fun _ => by simp

theorem nextEmbedded_finds (previousShortcode : String) :
    Finds wait looks previousShortcode
      (nextEmbedded previousShortcode) := by
  intro trace feed waiting
  apply reserved_yields (waiting_undisturbed wait looks)
    (fun _ _ => Waiting.operated) _ _ waiting
  · exact .nextEmbeddedFromCurrentFeed previousShortcode
  · intro session
    rfl
  · intro session keeps
    exact reserve_proper keeps fun _ => by simp

theorem confirmedByPage_finds (previousShortcode : String) :
    Finds wait looks previousShortcode
      (confirmedByPage previousShortcode) := by
  intro trace feed waiting
  apply (candidateOrNone_yields
    (waiting_undisturbed wait looks) waiting).bind
  intro shown after reached kept
  obtain ⟨waiting, valid⟩ := kept
  cases other : shown.filter (·.shortcode ≠ previousShortcode) with
  | none =>
      apply yields_read
      exact nextAfter_finds previousShortcode _ reached after waiting
  | some candidate =>
      obtain ⟨here, differs⟩ := Option.filter_eq_some_iff.mp other
      apply (resample_yields waiting rfl rfl rfl).bind
      intro _ last ended waiting
      apply yields_pure
      refine ⟨waiting, ?_⟩
      intro found member
      obtain rfl := Option.some.inj member
      exact ⟨valid _ here, of_decide_eq_true differs⟩

theorem Finds.noting {previousShortcode : String}
    {program : FeedProgram (Option ReelCandidate)}
    {change : Option ReelCandidate → Sampling → Sampling}
    (finds : Finds wait looks previousShortcode program)
    (refreshed : ∀ found sampling,
      (change found sampling).feedRefreshAttempted =
        sampling.feedRefreshAttempted)
    (count : ∀ found sampling,
      (change found sampling).stableCount = sampling.stableCount)
    (identity : ∀ found sampling,
      (change found sampling).stableMediaIdentity =
        sampling.stableMediaIdentity) :
    Finds wait looks previousShortcode (do
      let found ← program
      resample (change found)
      return found) := by
  intro trace feed waiting
  apply (finds trace feed waiting).bind
  intro found after reached kept
  apply (resample_yields kept.1 (refreshed found _) (count found _)
    (identity found _)).bind
  intro _ last ended waiting
  exact yields_pure ⟨waiting, kept.2⟩

theorem fallenBack_finds (previousShortcode : String) (observed : Bool) :
    Finds wait looks previousShortcode
      (fallenBack previousShortcode observed) := by
  cases observed with
  | true =>
      apply (nextFromCurrentFeed_finds previousShortcode).noting
      all_goals intros; rfl
  | false =>
      apply (nextEmbedded_finds previousShortcode).noting
      all_goals intros; rfl

def Unmoved (wait : Wait) (looks : List (Option String)) : Holding :=
  fun feed trace => Waiting wait looks feed trace ∧
    feed.sampling.feedRefreshAttempted = true ∧
    trace.navigations ≤ wait.earlier.navigations

theorem unmoved_undisturbed (wait : Wait) (looks : List (Option String)) :
    Undisturbed tracing (Unmoved wait looks) :=
  undisturbed_of
    (fun feed trace page held =>
      ⟨(waiting_undisturbed wait looks).page feed trace page
        held.1, held.2⟩)
    fun feed trace operation held =>
      ⟨(waiting_undisturbed wait looks).source feed trace
        operation held.1, held.2⟩

theorem Unmoved.waiting (unmoved : Unmoved wait looks feed trace) :
    Waiting wait looks feed trace := unmoved.1

theorem Unmoved.moved (unmoved : Unmoved wait looks feed trace) :
    Waiting wait looks feed
      { trace with navigations := trace.navigations + 1 } := by
  obtain ⟨waiting, attempted, still⟩ := unmoved
  exact {
    waiting with
    quiet := {
      waiting.quiet with
      navigated := by
        rw [attempted, if_pos rfl]
        exact Nat.add_le_add_right still 1 } }

theorem refreshEmbeddedFeedCandidate_yields (previousShortcode : String)
    (stoppable : Bool)
    (unmoved : Unmoved wait looks feed trace) :
    Yields tracing (Waiting wait looks) trace feed
      (refreshEmbeddedFeedCandidate previousShortcode stoppable)
      (Found wait looks previousShortcode) := by
  have undisturbed := waiting_undisturbed wait looks
  have ended : ∀ trace feed, Unmoved wait looks feed trace →
      Yields tracing (Waiting wait looks) trace feed (pure none)
        (Found wait looks previousShortcode) :=
    fun trace feed unmoved =>
      nothing_found previousShortcode trace feed unmoved.waiting
  have looking : Steady (Unmoved wait looks)
      (isInstagramPage feed.page) :=
    isInstagramPage_steady (unmoved_undisturbed wait looks) feed.page
  have asking : Steady (Unmoved wait looks)
      (shouldStop stoppable) :=
    shouldStop_steady (unmoved_undisturbed wait looks) stoppable
  apply yields_read
  split
  · exact ended trace feed unmoved
  apply (looking.yields (fun _ _ => Unmoved.waiting) unmoved).bind
  intro instagram here reached unmoved
  split
  · exact ended reached here unmoved
  apply (asking.yields (fun _ _ => Unmoved.waiting) unmoved).bind
  intro stopping here reached unmoved
  split
  · exact ended reached here unmoved
  have moved := navigateToReels_leaves
    (unmoved_undisturbed wait looks) (fun _ _ => Unmoved.waiting)
    (fun _ _ => Unmoved.moved) unmoved
  apply (moved.yields fun _ _ waiting => waiting).bind
  intro _ here reached waiting
  apply ((initialReel_steady undisturbed).yields
    (fun _ _ waiting => waiting) waiting).bind
  intro current here reached waiting
  apply ((captureEmbeddedFeedCandidates_steady undisturbed).yields
    (fun _ _ waiting => waiting) waiting).bind
  intro _ here reached waiting
  apply ((onSession_steady undisturbed (.markUsed current.shortcode)).yields
    (fun _ _ waiting => waiting) waiting).bind
  intro _ here reached waiting
  exact nextEmbedded_finds previousShortcode reached here waiting

theorem refreshed_finds (previousShortcode : String) (stoppable : Bool) :
    Finds wait looks previousShortcode
      (refreshed previousShortcode stoppable) := by
  intro trace feed waiting
  apply yields_read
  split
  · exact nothing_found previousShortcode trace feed waiting
  rename_i first
  have still : trace.navigations ≤ wait.earlier.navigations := by
    have bounded := waiting.quiet.navigated
    rw [if_neg first] at bounded
    exact bounded
  apply yields_write
  have unmoved : Unmoved wait looks
      { feed with sampling :=
        { feed.sampling with feedRefreshAttempted := true } } trace := by
    refine ⟨?_, rfl, still⟩
    exact {
      waiting with
      quiet := {
        waiting.quiet with
        operated := waiting.operated
        navigated := by
          rw [if_pos rfl]
          exact Nat.le_succ_of_le still }
      streak := waiting.streak.of_same rfl rfl }
  apply (refreshEmbeddedFeedCandidate_yields previousShortcode stoppable
    unmoved).bind
  intro found here reached kept
  apply (resample_yields kept.1 rfl rfl rfl).bind
  intro _ last ended waiting
  exact yields_pure ⟨waiting, kept.2⟩

theorem stableCandidate_finds (previousShortcode : String)
    (stoppable observed : Bool) :
    Finds wait looks previousShortcode
      (stableCandidate previousShortcode stoppable observed) := by
  have undisturbed := waiting_undisturbed wait looks
  have later : Finds wait looks previousShortcode (do
      let queued ← fallenBack previousShortcode observed
      if queued.isSome then return queued
      refreshed previousShortcode stoppable) := by
    intro trace feed waiting
    apply (fallenBack_finds previousShortcode observed trace feed waiting).bind
    intro queued here reached kept
    split
    · exact yields_pure kept
    · exact refreshed_finds previousShortcode stoppable reached here kept.1
  intro trace feed waiting
  apply ((captureEmbeddedFeedCandidates_steady undisturbed).yields
    (fun _ _ waiting => waiting) waiting).bind
  intro _ here reached waiting
  cases observed with
  | false => exact later reached here waiting
  | true =>
      apply (confirmedByPage_finds previousShortcode reached here waiting).bind
      intro shown last ended kept
      dsimp only
      split
      · exact yields_pure kept
      · exact later ended last kept.1

theorem sampled_yields (previousShortcode : String) (stoppable : Bool)
    (waiting : Waiting wait looks feed trace)
    (within : looks.length < wait.limit) :
    Yields tracing (Quiet wait) trace feed
      (sampled previousShortcode stoppable wait.base)
      fun result after reached =>
        ∃ current, Found wait (current :: looks)
          previousShortcode result.1 after reached := by
  apply (activeMediaIdentity_yields waiting within).bind
  intro current here reached noted
  apply yields_write
  apply yields_read
  have undisturbed := waiting_undisturbed wait (current :: looks)
  have finishes : ∀ program,
      Finds wait (current :: looks) previousShortcode program →
      Yields tracing (Quiet wait) reached
        { here with sampling := here.sampling.note wait.base current } (do
          let candidate ← program
          let feed ← read
          onPage (.waitForTimeout feed.page)
          return (candidate, postActionJsonObserved
            { here with sampling := here.sampling.note wait.base current }))
        fun result after reached =>
          ∃ current, Found wait (current :: looks)
            previousShortcode result.1 after reached := by
    intro program finds
    apply Yields.bind ((finds reached _ noted).weaken fun _ _ => Waiting.quiet)
    intro candidate last ended kept
    apply yields_read
    apply Yields.bind (((onPage_steady undisturbed rfl).yields
      (fun _ _ waiting => waiting) kept.1).weaken fun _ _ => Waiting.quiet)
    intro _ last ended waiting
    exact yields_pure ⟨current, waiting, kept.2⟩
  split
  · exact finishes _ (stableCandidate_finds previousShortcode stoppable _)
  · exact finishes _ (nothing_found previousShortcode)

theorem diagnose_yields (reason : String)
    (quiet : Quiet wait feed trace) :
    Yields tracing (Quiet wait) trace feed (diagnose reason)
      fun _ => Quiet wait :=
  leaves_write { quiet with operated := quiet.operated }

theorem sampleFault_yields {α : Type} (fault : CollectorFault)
    (post : α → Holding) (quiet : Quiet wait feed trace) :
    Yields tracing (Quiet wait) trace feed (sampleFault fault)
      post := by
  have others : Yields tracing (Quiet wait) trace feed
      (if fault.isException then do
        if ← pageIsClosed then
          diagnose "BROWSER_CLOSED"
          stop "BROWSER_CLOSED"
        else raise fault
      else raise fault) post := by
    split
    · have asked : Steady (Quiet wait) pageIsClosed :=
        pageIsClosed_steady (quiet_undisturbed wait)
      apply (asked.yields (fun _ _ quiet => quiet) quiet).bind
      intro closed here reached quiet
      split
      · apply (diagnose_yields _ quiet).bind
        intro _ last ended quiet
        exact yields_raise quiet
      · exact yields_raise quiet
    · exact yields_raise quiet
  cases fault with
  | coded reason =>
      apply (diagnose_yields reason quiet).bind
      intro _ here reached quiet
      exact yields_raise quiet
  | _ => exact others

end

/-- A Reel is returned: two looks agree that the media has changed, and the
Reel has been used up. -/
structure Confirmed (wait : Wait) (previousShortcode : String)
    (candidate : ReelCandidate) (feed : PlaywrightReelsFeed) (trace : Trace) :
    Prop where
  quiet : Quiet wait feed trace
  proper : Proper previousShortcode candidate
  agreed : ∃ before seen between, wait.base = some before ∧ seen ≠ before ∧
    trace.identities =
      some seen :: some seen :: between ++ wait.earlier.identities
  reported : feed.transitionDiagnostics.stopReasonCode = none
  unconfirmed : feed.transitionMediaConfirmed = false
  forced : feed.forcePointerWheelNextAdvance =
    wait.start.forcePointerWheelNextAdvance
  used : ∀ session ∈ feed.feedJson,
    candidate.shortcode ∈ session.source.knownCodes ∧
      candidate.shortcode ∉ session.source.pending

structure Stopped (wait : Wait) (feed : PlaywrightReelsFeed) (trace : Trace) :
    Prop where
  quiet : Quiet wait feed trace
  reported : feed.transitionDiagnostics.stopReasonCode =
    some "TOTAL_TIMEOUT_REACHED"
  confirmed : feed.transitionMediaConfirmed =
    wait.start.transitionMediaConfirmed
  forced : feed.forcePointerWheelNextAdvance =
    wait.start.forcePointerWheelNextAdvance

structure TimedOut (wait : Wait) (feed : PlaywrightReelsFeed)
    (trace : Trace) : Prop where
  quiet : Quiet wait feed trace
  reported : feed.transitionDiagnostics.stopReasonCode =
    some "TRANSITION_TIMEOUT"
  confirmed : feed.transitionMediaConfirmed =
    wait.start.transitionMediaConfirmed
  forced : feed.forcePointerWheelNextAdvance =
    (wait.start.transitionMediaConfirmed ||
      wait.start.forcePointerWheelNextAdvance)

section

variable {wait : Wait} {feed : PlaywrightReelsFeed} {trace : Trace}
variable {looks : List (Option String)}

theorem markUsed_used {session : FeedSession} (keeps : FeedJson.Keeps session)
    {shortcode : String} (valid : isShortcode shortcode = true) :
    shortcode ∈ (session.markUsed shortcode).source.knownCodes ∧
      shortcode ∉ (session.markUsed shortcode).source.pending := by
  unfold FeedSession.markUsed
  rw [valid]
  simp only [Bool.not_true, Bool.false_eq_true, if_false]
  constructor
  · have bounded := (keeps.remember shortcode).keeps.bounded
    exact bounded.mem_known.mpr (FeedJson.mem_remember keeps shortcode)
  · intro member
    obtain ⟨entry, kept, same⟩ := List.mem_map.mp member
    have other := (List.mem_filter.mp kept).2
    exact absurd same (of_decide_eq_true other)

theorem counted_yields {previousShortcode : String}
    {candidate : Option ReelCandidate} (observed : Bool)
    (found : Found wait looks previousShortcode candidate feed trace) :
    Yields tracing (Quiet wait) trace feed (counted candidate observed)
      fun result after reached =>
        match result with
        | some candidate =>
            Confirmed wait previousShortcode candidate after reached
        | none => Waiting wait looks after reached := by
  obtain ⟨waiting, proper⟩ := found
  apply Yields.bind ((resample_yields waiting rfl rfl rfl).weaken
    fun _ _ => Waiting.quiet)
  intro _ here reached waiting
  apply yields_read
  split
  · apply Yields.bind ((resample_yields waiting rfl rfl rfl).weaken
      fun _ _ => Waiting.quiet)
    intro _ last ended waiting
    exact yields_pure waiting
  rename_i stable
  rw [Nat.not_lt] at stable
  cases candidate with
  | none =>
      apply Yields.bind ((resample_yields waiting rfl rfl rfl).weaken
        fun _ _ => Waiting.quiet)
      intro _ last ended waiting
      exact yields_pure waiting
  | some candidate =>
      have accepted := proper candidate rfl
      apply yields_write
      apply yields_write
      apply yields_pure
      have quiet := waiting.quiet.operate (.markUsed candidate.shortcode)
      exact {
        quiet := { quiet with operated := quiet.operated }
        proper := accepted
        agreed := by
          obtain ⟨before, seen, between, known, other, shape⟩ :=
            waiting.streak.agreed stable
          refine ⟨before, seen, between, known, other, ?_⟩
          rw [waiting.looked, shape]
        reported := rfl
        unconfirmed := rfl
        forced := waiting.forced
        used := by
          intro session member
          obtain ⟨before, kept, rfl⟩ := Option.map_eq_some_iff.mp member
          exact markUsed_used (waiting.operated.keeps kept)
            (validateCandidate_eq_ok accepted.1).2 }

def Sampled (wait : Wait) (previousShortcode : String) (longest : Nat)
    (result : Option ReelCandidate) (feed : PlaywrightReelsFeed)
    (trace : Trace) : Prop :=
  match result with
  | some candidate => Confirmed wait previousShortcode candidate feed trace
  | none => Stopped wait feed trace ∨
      ∃ looks, Waiting wait looks feed trace ∧ looks.length ≤ longest

theorem sample_yields (previousShortcode : String) (stoppable : Bool)
    (waiting : Waiting wait looks feed trace)
    (within : looks.length < wait.limit) :
    Yields tracing (Quiet wait) trace feed
      (sample previousShortcode stoppable wait.base)
      (Sampled wait previousShortcode (looks.length + 1)) := by
  have undisturbed := waiting_undisturbed wait looks
  have asking : Steady (Waiting wait looks) (shouldStop stoppable) :=
    shouldStop_steady undisturbed stoppable
  have open_page : Steady (Waiting wait looks) raiseIfClosed :=
    raiseIfClosed_steady undisturbed
  apply (asking.yields (fun _ _ => Waiting.quiet) waiting).bind
  intro stopping here reached waiting
  split
  · apply yields_write
    apply yields_pure
    left
    exact {
      quiet := { waiting.quiet with operated := waiting.operated }
      reported := rfl
      confirmed := waiting.confirmed
      forced := waiting.forced }
  apply (open_page.yields (fun _ _ => Waiting.quiet) waiting).bind
  intro _ here reached waiting
  apply ((raiseIfControlledStop_steady undisturbed).yields
    (fun _ _ => Waiting.quiet) waiting).bind
  intro _ here reached waiting
  apply ((sampled_yields previousShortcode stoppable waiting within).rescue
    fun fault after reached quiet => sampleFault_yields fault _ quiet).bind
  intro result last ended kept
  obtain ⟨current, found⟩ := kept
  apply (counted_yields result.2 found).mono
  intro result after reached kept
  cases result with
  | some candidate => exact kept
  | none => exact .inr ⟨current :: looks, kept, Nat.le_refl _⟩

def Sequel (wait : Wait) (previousShortcode : String) (longest : Nat)
    (result : Option (Option ReelCandidate)) (feed : PlaywrightReelsFeed)
    (trace : Trace) : Prop :=
  match result with
  | some (some candidate) =>
      Confirmed wait previousShortcode candidate feed trace
  | some none => Stopped wait feed trace
  | none => ∃ looks, Waiting wait looks feed trace ∧ looks.length ≤ longest

theorem samples_yields (previousShortcode : String) (stoppable : Bool)
    (polls : Nat) (waiting : Waiting wait looks feed trace)
    (within : looks.length + polls ≤ wait.limit) :
    Yields tracing (Quiet wait) trace feed
      (samples previousShortcode stoppable wait.base polls)
      (Sequel wait previousShortcode (looks.length + polls)) := by
  induction polls generalizing looks feed trace with
  | zero => exact yields_pure ⟨looks, waiting, Nat.le_refl _⟩
  | succ polls ih =>
      apply (sample_yields previousShortcode stoppable waiting
        (by omega)).bind
      intro result here reached kept
      cases result with
      | some candidate => exact yields_pure kept
      | none =>
          apply yields_read
          rcases kept with stopped | ⟨seen, waiting, longer⟩
          · rw [stopped.reported]
            exact yields_pure stopped
          · rw [waiting.idle]
            apply (ih waiting (by omega)).mono
            intro result after reached kept
            cases result with
            | none =>
                obtain ⟨seen, waiting, bounded⟩ := kept
                exact ⟨seen, waiting, by omega⟩
            | some confirmed =>
                cases confirmed with
                | none => exact kept
                | some candidate => exact kept

def Waited (wait : Wait) (previousShortcode : String)
    (result : Option ReelCandidate) (feed : PlaywrightReelsFeed)
    (trace : Trace) : Prop :=
  match result with
  | some candidate => Confirmed wait previousShortcode candidate feed trace
  | none => Stopped wait feed trace ∨ TimedOut wait feed trace

theorem timedOut_yields (previousShortcode : String)
    (waiting : Waiting wait looks feed trace) :
    Yields tracing (Quiet wait) trace feed timedOut
      (Waited wait previousShortcode) := by
  apply yields_write
  apply yields_pure
  right
  exact {
    quiet := {
      waiting.quiet with
      operated := waiting.operated
      persists := by
        intro force
        rw [waiting.quiet.persists force, Bool.or_true] }
    reported := rfl
    confirmed := waiting.confirmed
    forced := by
      rw [← waiting.confirmed, ← waiting.forced] }

def longestWait (limits : TransitionLimits) : Nat :=
  limits.polls limits.timeoutMicros + limits.polls limits.stabilizationMicros

theorem searched_yields (previousShortcode : String) (stoppable : Bool)
    (waiting : Waiting wait [] feed trace)
    (limit : wait.limit = longestWait wait.start.limits) :
    Yields tracing (Quiet wait) trace feed
      (searched previousShortcode stoppable wait.base)
      (Waited wait previousShortcode) := by
  unfold longestWait at limit
  have limits := waiting.quiet.limits
  have first : ([] : List (Option String)).length +
      feed.limits.polls feed.limits.timeoutMicros ≤ wait.limit := by
    rw [limit, limits, List.length_nil, Nat.zero_add]
    exact Nat.le_add_right _ _
  apply yields_read
  apply (samples_yields previousShortcode stoppable _ waiting first).bind
  intro result here reached kept
  cases result with
  | some confirmed =>
      apply yields_pure
      cases confirmed with
      | none => exact .inl kept
      | some candidate => exact kept
  | none =>
      obtain ⟨looks, waiting, short⟩ := kept
      rw [List.length_nil, Nat.zero_add, limits] at short
      apply yields_read
      split
      · have second : looks.length +
            here.limits.polls here.limits.stabilizationMicros ≤
              wait.limit := by
          rw [limit, waiting.quiet.limits]
          exact Nat.add_le_add_right short _
        apply (samples_yields previousShortcode stoppable _ waiting
          second).bind
        intro result last ended kept
        cases result with
        | some confirmed =>
            apply yields_pure
            cases confirmed with
            | none => exact .inl kept
            | some candidate => exact kept
        | none =>
            obtain ⟨looks, waiting, _⟩ := kept
            exact timedOut_yields previousShortcode waiting
      · exact timedOut_yields previousShortcode waiting

end

def Changed (before : PlaywrightReelsFeed) (earlier trace : Trace) : Prop :=
  ∃ base seen between, seen ≠ base ∧
    trace.identities = some seen :: some seen :: between ++ earlier.identities ∧
    (before.transitionMediaIdentity = some base ∨
      before.transitionMediaIdentity = none ∧
        between.getLast? = some (some base))

structure Returned (before : PlaywrightReelsFeed) (earlier : Trace)
    (previousShortcode : String) (candidate : ReelCandidate)
    (after : PlaywrightReelsFeed) (trace : Trace) : Prop where
  proper : Proper previousShortcode candidate
  changed : Changed before earlier trace
  reported : after.transitionDiagnostics.stopReasonCode = none
  unconfirmed : after.transitionMediaConfirmed = false
  forced : after.forcePointerWheelNextAdvance =
    before.forcePointerWheelNextAdvance
  used : ∀ session ∈ after.feedJson,
    candidate.shortcode ∈ session.source.knownCodes ∧
      candidate.shortcode ∉ session.source.pending

def Ended (before after : PlaywrightReelsFeed) : Prop :=
  after.transitionMediaConfirmed = before.transitionMediaConfirmed ∧
    (after.transitionDiagnostics.stopReasonCode =
          some "TOTAL_TIMEOUT_REACHED" ∧
        after.forcePointerWheelNextAdvance =
          before.forcePointerWheelNextAdvance ∨
      after.transitionDiagnostics.stopReasonCode =
          some "TRANSITION_TIMEOUT" ∧
        after.forcePointerWheelNextAdvance =
          (before.transitionMediaConfirmed ||
            before.forcePointerWheelNextAdvance))

structure WaitLaws (before : PlaywrightReelsFeed) (earlier : Trace)
    (previousShortcode : String)
    (outcome : Except CollectorFault (Option ReelCandidate))
    (after : PlaywrightReelsFeed) (trace : Trace) : Prop where
  operated : Operated after
  silent : trace.inputs = earlier.inputs
  navigated : trace.navigations ≤ earlier.navigations + 1
  bounded : trace.identities.length ≤
    longestWait before.limits + 1 + earlier.identities.length
  attempts : after.scrollAttempts = before.scrollAttempts
  limits : after.limits = before.limits
  persists : before.forcePointerWheelNextAdvance = true →
    after.forcePointerWheelNextAdvance = true
  returned : ∀ candidate, outcome = .ok (some candidate) →
    Returned before earlier previousShortcode candidate after trace
  ended : outcome = .ok none → Ended before after

section

variable {feed after : PlaywrightReelsFeed} {earlier trace : Trace}

structure Begins (wait : Wait) (feed : PlaywrightReelsFeed) (earlier : Trace) :
    Prop where
  start : wait.start = {
    feed with
    transitionDiagnostics := {}
    sampling := {}
    transitionMediaIdentity := none }
  limit : wait.limit = longestWait feed.limits
  silent : wait.earlier.inputs = earlier.inputs
  navigated : wait.earlier.navigations = earlier.navigations
  based : feed.transitionMediaIdentity = wait.base ∧
      wait.base ≠ none ∧ wait.earlier.identities = earlier.identities ∨
    feed.transitionMediaIdentity = none ∧
      wait.earlier.identities = wait.base :: earlier.identities

variable {wait : Wait} {previousShortcode : String}

theorem Begins.length_le (begins : Begins wait feed earlier) :
    wait.earlier.identities.length ≤ earlier.identities.length + 1 := by
  rcases begins.based with ⟨_, _, same⟩ | ⟨_, looked⟩
  · rw [same]
    exact Nat.le_succ _
  · rw [looked]
    exact Nat.le_refl _

theorem Begins.changed (begins : Begins wait feed earlier)
    {candidate : ReelCandidate}
    (confirmed : Confirmed wait previousShortcode candidate after trace) :
    Changed feed earlier trace := by
  obtain ⟨before, seen, between, known, other, shape⟩ := confirmed.agreed
  rcases begins.based with ⟨same, _, unlooked⟩ | ⟨absent, looked⟩
  · refine ⟨before, seen, between, other, ?_, .inl (same.trans known)⟩
    rw [shape, unlooked]
  · refine ⟨before, seen, between ++ [some before], other, ?_,
      .inr ⟨absent, ?_⟩⟩
    · rw [shape, looked, known]
      simp
    · simp

theorem Begins.waitLaws (begins : Begins wait feed earlier)
    {outcome : Except CollectorFault (Option ReelCandidate)}
    (quiet : Quiet wait after trace)
    (waited : ∀ result, outcome = .ok result →
      Waited wait previousShortcode result after trace) :
    WaitLaws feed earlier previousShortcode outcome after trace where
  operated := quiet.operated
  silent := quiet.silent.trans begins.silent
  navigated := by
    apply Nat.le_trans quiet.navigated
    rw [begins.navigated]
    split
    · exact Nat.le_refl _
    · exact Nat.le_succ _
  bounded := by
    apply Nat.le_trans quiet.bounded
    have short := begins.length_le
    rw [begins.limit]
    omega
  attempts := by
    rw [quiet.attempts, begins.start]
  limits := by
    rw [quiet.limits, begins.start]
  persists := by
    intro force
    apply quiet.persists
    rw [begins.start]
    exact force
  returned := by
    intro candidate same
    have confirmed := waited _ same
    exact {
      proper := confirmed.proper
      changed := begins.changed confirmed
      reported := confirmed.reported
      unconfirmed := confirmed.unconfirmed
      forced := by rw [confirmed.forced, begins.start]
      used := confirmed.used }
  ended := by
    intro same
    rcases waited _ same with stopped | timed
    · refine ⟨?_, .inl ⟨stopped.reported, ?_⟩⟩
      · rw [stopped.confirmed, begins.start]
      · rw [stopped.forced, begins.start]
    · refine ⟨?_, .inr ⟨timed.reported, ?_⟩⟩
      · rw [timed.confirmed, begins.start]
      · rw [timed.forced, begins.start]

theorem Waited.quiet {result : Option ReelCandidate}
    (waited : Waited wait previousShortcode result after trace) :
    Quiet wait after trace := by
  cases result with
  | some candidate => exact Confirmed.quiet waited
  | none =>
      rcases waited with stopped | timed
      · exact stopped.quiet
      · exact timed.quiet

theorem Begins.searched_leaves {now : PlaywrightReelsFeed}
    (begins : Begins wait feed earlier)
    (waiting : Waiting wait [] now trace) (stoppable : Bool) :
    Leaves tracing trace now
      (searched previousShortcode stoppable wait.base)
      (WaitLaws feed earlier previousShortcode) := by
  have limit : wait.limit = longestWait wait.start.limits := by
    rw [begins.limit, begins.start]
  apply Leaves.mono (searched_yields previousShortcode stoppable waiting limit)
  intro outcome after reached kept
  cases outcome with
  | error fault =>
      apply begins.waitLaws kept
      intro result clash
      cases clash
  | ok result =>
      apply begins.waitLaws (Waited.quiet kept)
      intro same equal
      cases equal
      exact kept

theorem waiting_fresh {start now : PlaywrightReelsFeed}
    (operated : Operated now) (fresh : now.sampling = {})
    (idle : now.transitionDiagnostics = {})
    (confirmed : now.transitionMediaConfirmed = start.transitionMediaConfirmed)
    (forced : now.forcePointerWheelNextAdvance =
      start.forcePointerWheelNextAdvance)
    (attempts : now.scrollAttempts = start.scrollAttempts)
    (limits : now.limits = start.limits) (base : Option String) (limit : Nat) :
    Waiting ⟨start, trace, base, limit⟩ [] now trace where
  quiet := {
    operated
    silent := rfl
    navigated := Nat.le_add_right _ _
    bounded := Nat.le_add_left _ _
    attempts
    limits
    persists := fun force => forced.trans force }
  looked := rfl
  streak := by
    rw [fresh]
    exact Streak.fresh
  idle := by rw [idle]
  confirmed
  forced

def beginning (feed : PlaywrightReelsFeed) : PlaywrightReelsFeed :=
  { feed with
    transitionDiagnostics := {}
    sampling := {}
    transitionMediaIdentity := none }

def waitOf (feed : PlaywrightReelsFeed) (trace : Trace)
    (base : Option String) : Wait where
  start := beginning feed
  earlier := trace
  base := base
  limit := longestWait feed.limits

theorem Untouched.waiting (base : Option String)
    {now : PlaywrightReelsFeed} (operated : Operated now)
    (untouched : now = {
      beginning feed with page := now.page, feedJson := now.feedJson }) :
    Waiting (waitOf feed trace base) [] now trace := by
  apply waiting_fresh operated
  all_goals rw [untouched]
  all_goals rfl

theorem firstLook_leaves (operated : Operated feed) :
    Leaves tracing earlier (beginning feed) activeMediaIdentity
      fun outcome now reached => Operated now ∧
        now = { beginning feed with
          page := now.page, feedJson := now.feedJson } ∧
        ∃ reply, reached = earlier.note (.mediaIdentity feed.page) reply ∧
          ∀ identity, outcome = .ok identity →
            identity = identityOf reply := by
  have held : Untouched (beginning feed) earlier (beginning feed) earlier :=
    ⟨operated, rfl, rfl⟩
  apply leaves_reading
  apply (onPage_leaves (untouched_undisturbed (beginning feed) earlier)
    (.mediaIdentity feed.page) held).attempt
  intro reply now reached kept
  obtain ⟨before, ⟨operated, rfl, untouched⟩, noted⟩ := kept
  have seen : ∀ identity, identity = identityOf reply →
      Operated now ∧
        now = { beginning feed with
          page := now.page, feedJson := now.feedJson } ∧
        ∃ reply, reached = before.note (.mediaIdentity feed.page) reply ∧
          ∀ other, (.ok identity : Except CollectorFault _) = .ok other →
            other = identityOf reply := by
    intro identity same
    refine ⟨operated, untouched, reply, noted, ?_⟩
    intro other equal
    cases equal
    exact same
  cases reply with
  | ok result => exact leaves_pure (seen _ rfl)
  | error fault =>
      dsimp only
      split
      · exact leaves_pure (seen _ rfl)
      · apply leaves_raise
        refine ⟨operated, untouched, _, noted, ?_⟩
        intro identity clash
        cases clash

theorem waitForNext_leaves (operated : Operated feed)
    (previousShortcode : String) (stoppable : Bool) :
    Leaves tracing earlier feed (waitForNext previousShortcode stoppable)
      (WaitLaws feed earlier previousShortcode) := by
  apply leaves_reading
  apply leaves_writing
  cases known : feed.transitionMediaIdentity with
  | some identity =>
      have begins : Begins (waitOf feed earlier (some identity)) feed
          earlier := {
        start := rfl
        limit := rfl
        silent := rfl
        navigated := rfl
        based := .inl ⟨known, Option.some_ne_none _, rfl⟩ }
      have fresh : Operated (beginning feed) := operated
      exact begins.searched_leaves (Untouched.waiting _ fresh rfl) stoppable
  | none =>
      have begins : ∀ reply,
          Begins (waitOf feed (earlier.note (.mediaIdentity feed.page) reply)
            (identityOf reply)) feed earlier := fun reply => {
        start := rfl
        limit := rfl
        silent := rfl
        navigated := rfl
        based := .inr ⟨known, rfl⟩ }
      apply (firstLook_leaves operated).bind
      · intro identity now reached kept
        obtain ⟨operated, untouched, reply, rfl, same⟩ := kept
        obtain rfl := same identity rfl
        exact (begins reply).searched_leaves
          (Untouched.waiting _ operated untouched) stoppable
      · intro fault now reached kept
        obtain ⟨operated, untouched, reply, rfl, _⟩ := kept
        apply (begins reply).waitLaws
          (Untouched.waiting _ operated untouched).quiet
        intro result clash
        cases clash

end

end OfflineReels.Collector.PlaywrightReelsFeed.Waits
