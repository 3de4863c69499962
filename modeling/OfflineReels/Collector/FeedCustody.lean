import OfflineReels.Collector.FeedTransitions

namespace OfflineReels.Collector.PlaywrightReelsFeed

open OfflineReels.Foundation
open OfflineReels.Foundation.Stateful
open OfflineReels.Collector.FeedJson (FeedSession)
open Transitions

/-! The browser of a feed and the profile lock.  Whoever drives the page has
both, and the lock is not given back before the browser was asked to close. -/

inductive LockState
  | free
  | held
  | released
  deriving DecidableEq, Repr

structure Custody where
  lock : LockState := .free
  playwright : Bool := false
  context : Bool := false
  deriving DecidableEq, Repr

/-- Calls that make the browser do something. -/
def drives : PageCall → Bool
  | .pages | .isClosed _ | .url _ | .state _ | .identity _
  | .embeddedCandidates _ | .scrollTarget _ | .feedInputTarget _ | .pause _
  | .goto _ | .waitForTimeout _ | .newCdpSession _ | .touchStart _ _
  | .touchMove _ _ | .touchEnd | .detach | .keyboard _ | .press _ _
  | .mouseMove _ _ _ | .mouseWheel _ _ | .firstPage => true
  | _ => false

def Custody.permits (phase : Custody) : PageCall → Prop
  | .acquireLock => phase.lock = .free
  | .clearTransientChromiumLocks | .startPlaywright
  | .launchPersistentContext => phase.lock = .held ∧ phase.context = false
  | .closeContext => phase.lock = .held
  | .stopPlaywright => phase.context = false
  | .releaseLock =>
      phase.lock ≠ .released ∧ phase.context = false ∧
        phase.playwright = false
  | request =>
      drives request = true → phase.lock = .held ∧ phase.context = true

def Custody.note (phase : Custody) (request : PageCall)
    (reply : Except CollectorFault (PageReply request)) : Custody :=
  match request, reply with
  | .acquireLock, .ok _ => { phase with lock := .held }
  | .startPlaywright, .ok _ => { phase with playwright := true }
  | .launchPersistentContext, .ok _ => { phase with context := true }
  | .closeContext, _ => { phase with context := false }
  | .stopPlaywright, _ => { phase with playwright := false }
  | .releaseLock, _ =>
      if phase.lock = .held then { phase with lock := .released } else phase
  | _, _ => phase

/-- Nobody is interrupted in the middle of a call. -/
def Uninterrupted {α : Type} (reply : Except CollectorFault α) : Prop :=
  ∀ fault, reply = .error fault → fault.isException = true

def custody : Protocol PageCall PageReply CollectorFault Custody where
  permits := Custody.permits
  assumes := fun _ _ reply => Uninterrupted reply
  advance := Custody.note

namespace Custody

def isPaged : PageCall → Bool
  | .acquireLock | .clearTransientChromiumLocks | .startPlaywright
  | .launchPersistentContext | .closeContext | .stopPlaywright
  | .releaseLock => false
  | _ => true

theorem note_paged {request : PageCall} (paged : isPaged request = true)
    (phase : Custody) (reply : Except CollectorFault (PageReply request)) :
    phase.note request reply = phase := by
  cases request <;> first
    | rfl
    | cases paged

theorem permits_paged {request : PageCall} (paged : isPaged request = true)
    {phase : Custody}
    (driven : drives request = true →
      phase.lock = .held ∧ phase.context = true) :
    phase.permits request := by
  cases request <;> first
    | exact driven
    | cases paged

theorem paged_of_plain {request : PageCall}
    (plain : isPlain request = true) : isPaged request = true := by
  cases request <;> first
    | rfl
    | cases plain

/-! What is asked of an open feed makes calls of the page and leaves it open. -/

def Open (feed : PlaywrightReelsFeed) (phase : Custody) : Prop :=
  feed.closed = false ∧ feed.resources = ⟨true, true, true⟩ ∧
    phase = ⟨.held, true, true⟩

abbrev Kept {α : Type} (program : FeedProgram α) : Prop :=
  Stateful.Keeps custody Open program

section

variable {α : Type}

theorem paged_kept {request : PageCall} (paged : isPaged request = true)
    {feed : PlaywrightReelsFeed} {phase : Custody} (opened : Open feed phase) :
    custody.permits phase request ∧
      ∀ reply, Open feed (custody.advance phase request reply) := by
  constructor
  · obtain ⟨_, _, rfl⟩ := opened
    apply permits_paged paged
    intro _
    exact ⟨rfl, rfl⟩
  · intro reply
    change Open feed (phase.note request reply)
    rw [note_paged paged]
    exact opened

theorem open_undisturbed : Undisturbed custody Open where
  permits := fun _ _ _ plain opened =>
    (paged_kept (paged_of_plain plain) opened).1
  plain := fun _ _ _ reply plain opened =>
    (paged_kept (paged_of_plain plain) opened).2 reply
  page := fun _ _ _ opened => opened
  source := fun _ _ _ opened => opened

theorem ask_kept {request : PageCall} (paged : isPaged request = true) :
    Kept (ask request) := by
  apply keeps_perform
  · intro feed phase opened
    exact (paged_kept paged opened).1
  · intro feed phase reply opened
    exact (paged_kept paged opened).2 reply

theorem onPage_kept {request : PageCall} (paged : isPaged request = true) :
    Kept (onPage request) := by
  intro phase feed opened
  apply (onPage_advances open_undisturbed request
    (fun _ _ opened => (paged_kept paged opened).1) opened).mono
  intro outcome after reached kept
  obtain ⟨before, held, rfl⟩ := kept
  exact (paged_kept paged held).2 outcome

theorem navigateToReels_kept : Kept navigateToReels := by
  intro phase feed opened
  exact navigateToReels_advances open_undisturbed
    (fun _ _ _ opened => (paged_kept rfl opened).1) (fun _ _ opened => opened)
    (fun _ _ _ reply opened => (paged_kept rfl opened).2 reply) opened

theorem write_kept {change : PlaywrightReelsFeed → PlaywrightReelsFeed}
    (closed : ∀ feed, (change feed).closed = feed.closed)
    (resources : ∀ feed, (change feed).resources = feed.resources) :
    Kept (write change) := by
  apply keeps_write
  intro feed phase opened
  exact ⟨(closed feed).trans opened.1, (resources feed).trans opened.2.1,
    opened.2.2⟩

theorem onSession_kept (change : FeedSession → FeedSession) :
    Kept (onSession change) :=
  write_kept (fun _ => rfl) fun _ => rfl

theorem reserved_kept
    (operation : FeedSession → FeedSession × Option ReelCandidate) :
    Kept (reserved operation) := by
  apply keeps_read.bind
  intro feed
  apply (onSession_kept _).bind
  intro _
  exact keeps_pure _

theorem activeMediaIdentity_kept : Kept activeMediaIdentity := by
  apply keeps_read.bind
  intro feed
  have asked : Kept (onPage (.mediaIdentity feed.page)) := onPage_kept rfl
  apply asked.attempt
  intro outcome
  cases outcome with
  | ok result => exact keeps_pure _
  | error fault =>
      dsimp only
      split
      · exact keeps_pure _
      · exact keeps_raise _

theorem resample_kept (change : Sampling → Sampling) :
    Kept (resample change) :=
  write_kept (fun _ => rfl) fun _ => rfl

theorem diagnose_kept (reason : String) : Kept (diagnose reason) :=
  write_kept (fun _ => rfl) fun _ => rfl

theorem nextEmbedded_kept (previousShortcode : String) :
    Kept (nextEmbedded previousShortcode) :=
  reserved_kept _

theorem refreshEmbeddedFeedCandidate_kept (previousShortcode : String)
    (stoppable : Bool) :
    Kept (refreshEmbeddedFeedCandidate previousShortcode stoppable) := by
  apply keeps_read.bind
  intro feed
  split
  · exact keeps_pure _
  apply (isInstagramPage_steady open_undisturbed _).bind
  intro instagram
  split
  · exact keeps_pure _
  apply (shouldStop_steady open_undisturbed stoppable).bind
  intro stopping
  split
  · exact keeps_pure _
  apply navigateToReels_kept.bind
  intro _
  apply (initialReel_steady open_undisturbed).bind
  intro current
  apply (captureEmbeddedFeedCandidates_steady open_undisturbed).bind
  intro _
  apply (onSession_kept _).bind
  intro _
  exact nextEmbedded_kept previousShortcode

theorem candidateOrNone_kept : Kept candidateOrNone := by
  apply Stateful.Keeps.rescue
  · apply (candidateFromProbe_steady open_undisturbed).bind
    intro _
    exact keeps_pure _
  · intro _
    exact keeps_pure _

theorem confirmedByPage_kept (previousShortcode : String) :
    Kept (confirmedByPage previousShortcode) := by
  apply candidateOrNone_kept.bind
  intro found
  split
  · apply (resample_kept _).bind
    intro _
    exact keeps_pure _
  · apply keeps_read.bind
    intro feed
    exact reserved_kept _

theorem fallenBack_kept (previousShortcode : String) (observed : Bool) :
    Kept (fallenBack previousShortcode observed) := by
  cases observed with
  | true =>
      apply Stateful.Keeps.bind
      · exact reserved_kept _
      · intro candidate
        apply (resample_kept _).bind
        intro _
        exact keeps_pure _
  | false =>
      apply Stateful.Keeps.bind
      · exact nextEmbedded_kept _
      · intro candidate
        apply (resample_kept _).bind
        intro _
        exact keeps_pure _

theorem refreshed_kept (previousShortcode : String) (stoppable : Bool) :
    Kept (refreshed previousShortcode stoppable) := by
  apply keeps_read.bind
  intro feed
  split
  · exact keeps_pure _
  · apply (resample_kept _).bind
    intro _
    apply (refreshEmbeddedFeedCandidate_kept _ _).bind
    intro candidate
    apply (resample_kept _).bind
    intro _
    exact keeps_pure _

theorem stableCandidate_kept (previousShortcode : String)
    (stoppable observed : Bool) :
    Kept (stableCandidate previousShortcode stoppable observed) := by
  apply (captureEmbeddedFeedCandidates_steady open_undisturbed).bind
  intro _
  have continues : ∀ shown : Option ReelCandidate, Kept (if shown.isSome then
      (pure shown : FeedProgram _) else do
        let queued ← fallenBack previousShortcode observed
        if queued.isSome then pure queued
        else refreshed previousShortcode stoppable) := by
    intro shown
    split
    · exact keeps_pure _
    apply (fallenBack_kept _ _).bind
    intro queued
    split
    · exact keeps_pure _
    · exact refreshed_kept _ _
  cases observed with
  | true => exact (confirmedByPage_kept previousShortcode).bind continues
  | false => exact (keeps_pure _).bind continues

theorem sampled_kept (previousShortcode : String) (stoppable : Bool)
    (previousMediaIdentity : Option String) :
    Kept (sampled previousShortcode stoppable previousMediaIdentity) := by
  apply activeMediaIdentity_kept.bind
  intro current
  apply (resample_kept _).bind
  intro _
  apply keeps_read.bind
  intro feed
  dsimp only
  split
  · apply (stableCandidate_kept _ _ _).bind
    intro candidate
    apply keeps_read.bind
    intro feed
    apply (onPage_kept rfl).bind
    intro _
    exact keeps_pure _
  · apply (keeps_pure _).bind
    intro candidate
    apply keeps_read.bind
    intro feed
    apply (onPage_kept rfl).bind
    intro _
    exact keeps_pure _

theorem sampleFault_kept (fault : CollectorFault) :
    Kept (sampleFault fault : FeedProgram α) := by
  unfold sampleFault
  split
  · apply (diagnose_kept _).bind
    intro _
    exact stop_steady _
  · split
    · apply (pageIsClosed_steady open_undisturbed).bind
      intro closed
      split
      · apply (diagnose_kept _).bind
        intro _
        exact stop_steady _
      · exact keeps_raise _
    · exact keeps_raise _

theorem counted_kept (candidate : Option ReelCandidate) (observed : Bool) :
    Kept (counted candidate observed) := by
  apply (resample_kept _).bind
  intro _
  apply keeps_read.bind
  intro feed
  split
  · apply (resample_kept _).bind
    intro _
    exact keeps_pure _
  · split
    · apply (resample_kept _).bind
      intro _
      exact keeps_pure _
    · apply (onSession_kept _).bind
      intro _
      apply Stateful.Keeps.bind
      · exact write_kept (fun _ => rfl) fun _ => rfl
      · intro _
        exact keeps_pure _

theorem sample_kept (previousShortcode : String) (stoppable : Bool)
    (previousMediaIdentity : Option String) :
    Kept (sample previousShortcode stoppable previousMediaIdentity) := by
  apply (shouldStop_steady open_undisturbed stoppable).bind
  intro stopping
  split
  · apply (diagnose_kept _).bind
    intro _
    exact keeps_pure _
  apply (raiseIfClosed_steady open_undisturbed).bind
  intro _
  apply (raiseIfControlledStop_steady open_undisturbed).bind
  intro _
  apply Stateful.Keeps.bind
  · exact (sampled_kept _ _ _).rescue sampleFault_kept
  · intro taken
    exact counted_kept taken.1 taken.2

theorem samples_kept (previousShortcode : String) (stoppable : Bool)
    (previousMediaIdentity : Option String) (polls : Nat) :
    Kept (samples previousShortcode stoppable previousMediaIdentity polls) := by
  induction polls with
  | zero => exact keeps_pure _
  | succ polls ih =>
      apply (sample_kept _ _ _).bind
      intro found
      split
      · exact keeps_pure _
      · apply keeps_read.bind
        intro feed
        split
        · exact keeps_pure _
        · exact ih

theorem timedOut_kept : Kept timedOut := by
  apply Stateful.Keeps.bind
  · exact write_kept (fun _ => rfl) fun _ => rfl
  · intro _
    exact keeps_pure _

theorem searched_kept (previousShortcode : String) (stoppable : Bool)
    (previousMediaIdentity : Option String) :
    Kept (searched previousShortcode stoppable previousMediaIdentity) := by
  apply keeps_read.bind
  intro feed
  apply (samples_kept _ _ _ _).bind
  intro found
  split
  · exact keeps_pure _
  · apply keeps_read.bind
    intro feed
    split
    · apply (samples_kept _ _ _ _).bind
      intro found
      split
      · exact keeps_pure _
      · exact timedOut_kept
    · exact timedOut_kept

theorem waitForNext_kept (previousShortcode : String) (stoppable : Bool) :
    Kept (waitForNext previousShortcode stoppable) := by
  apply keeps_read.bind
  intro feed
  apply Stateful.Keeps.bind
  · exact write_kept (fun _ => rfl) fun _ => rfl
  · intro _
    split
    · exact searched_kept _ _ _
    · apply activeMediaIdentity_kept.bind
      intro identity
      exact searched_kept _ _ _

theorem targetedWheelPoint_kept : Kept targetedWheelPoint := by
  apply keeps_read.bind
  intro feed
  apply Stateful.Keeps.bind
  · apply (onPage_kept rfl).rescue
    exact closedOr_steady open_undisturbed fun _ => keeps_pure _
  · intro target
    split
    · exact keeps_pure _
    · split
      · exact keeps_pure _
      · exact keeps_pure _

theorem pointerWheelAdvance_kept : Kept pointerWheelAdvance := by
  apply targetedWheelPoint_kept.bind
  intro point
  split
  · exact stop_steady _
  · apply keeps_read.bind
    intro feed
    apply Stateful.Keeps.rescue
    · apply (onPage_kept rfl).bind
      intro _
      exact onPage_kept rfl
    · exact closedOr_steady open_undisturbed fun _ => keeps_raise _

theorem activeFeedInputTarget_kept : Kept activeFeedInputTarget := by
  apply keeps_read.bind
  intro feed
  apply Stateful.Keeps.bind
  · apply (onPage_kept rfl).rescue
    exact closedOr_steady open_undisturbed fun _ => keeps_pure _
  · intro target
    split
    · exact keeps_pure _
    · split
      · exact keeps_pure _
      · split
        · split
          · exact keeps_pure _
          · exact keeps_pure _
        · exact keeps_pure _

theorem mediaTransition_kept (previousIdentity : String) (polls : Nat)
    (stableIdentity : Option String) :
    Kept (mediaTransition previousIdentity polls stableIdentity) := by
  induction polls generalizing stableIdentity with
  | zero => exact keeps_pure _
  | succ polls ih =>
      apply (raiseIfClosed_steady open_undisturbed).bind
      intro _
      apply activeMediaIdentity_kept.bind
      intro currentIdentity
      dsimp only
      split
      · exact keeps_pure _
      · apply keeps_read.bind
        intro feed
        apply (onPage_kept rfl).bind
        intro _
        exact ih _

theorem waitForMediaTransition_kept (previousIdentity : String)
    (micros : Nat) :
    Kept (waitForMediaTransition previousIdentity micros) := by
  apply keeps_read.bind
  intro feed
  exact mediaTransition_kept _ _ _

theorem swipe_kept (x startY endY : Rat) : Kept (swipe x startY endY) := by
  apply keeps_read.bind
  intro feed
  split
  · exact keeps_pure _
  apply Stateful.Keeps.bind
  · apply (onPage_kept rfl).rescue
    exact closedOr_steady open_undisturbed fun _ => keeps_pure _
  · intro session
    split
    · apply Stateful.Keeps.ensure
      · apply Stateful.Keeps.rescue
        · apply (onPage_kept rfl).bind
          intro _
          apply (onPage_kept rfl).bind
          intro _
          apply (onPage_kept rfl).bind
          intro _
          exact keeps_pure _
        · exact closedOr_steady open_undisturbed fun _ => keeps_pure _
      · apply (onPage_kept rfl).rescue
        intro _
        exact keeps_pure _
    · exact keeps_pure _

theorem mobileFeedSwipeAdvances_kept (previousIdentity : String) :
    Kept (mobileFeedSwipeAdvances previousIdentity) := by
  apply activeFeedInputTarget_kept.bind
  intro target
  split
  · exact keeps_pure _
  · apply (swipe_kept _ _ _).bind
    intro sent
    split
    · exact waitForMediaTransition_kept _ _
    · exact keeps_pure _

theorem pressed_kept (key : Key) : Kept (pressed key) := by
  apply keeps_read.bind
  intro feed
  apply Stateful.Keeps.rescue
  · apply (onPage_kept rfl).bind
    intro _
    exact keeps_pure _
  · exact closedOr_steady open_undisturbed fun _ => keeps_pure _

theorem keyboardAdvances_kept (previousIdentity : String) :
    Kept (keyboardAdvances previousIdentity) := by
  apply keeps_read.bind
  intro feed
  apply (ask_kept rfl).bind
  intro keyboard
  split
  · exact keeps_pure _
  apply (pressed_kept _).bind
  intro down
  split
  · exact keeps_pure _
  apply (waitForMediaTransition_kept _ _).bind
  intro changed
  split
  · exact keeps_pure _
  apply (pressed_kept _).bind
  intro page
  split
  · exact keeps_pure _
  · exact waitForMediaTransition_kept _ _

theorem inputAdvances_kept (identity : Option String) :
    Kept (inputAdvances identity) := by
  cases identity with
  | none => exact keeps_pure _
  | some identity =>
      apply (mobileFeedSwipeAdvances_kept _).bind
      intro advanced
      split
      · exact keeps_pure _
      · exact keyboardAdvances_kept _

theorem scrolled_kept (confirmed : Bool) : Kept (scrolled confirmed) :=
  write_kept (fun _ => rfl) fun _ => rfl

theorem wheel_kept : Kept (do
    pointerWheelAdvance
    scrolled false) := by
  apply pointerWheelAdvance_kept.bind
  intro _
  exact scrolled_kept _

theorem advance_kept : Kept advance := by
  apply (raiseIfClosed_steady open_undisturbed).bind
  intro _
  apply keeps_read.bind
  intro feed
  split
  · exact stop_steady _
  apply activeMediaIdentity_kept.bind
  intro identity
  apply Stateful.Keeps.bind
  · exact write_kept (fun _ => rfl) fun _ => rfl
  intro _
  split
  · apply Stateful.Keeps.bind
    · exact write_kept (fun _ => rfl) fun _ => rfl
    · intro _
      exact wheel_kept
  · apply (inputAdvances_kept identity).bind
    intro advanced
    split
    · exact scrolled_kept _
    · exact wheel_kept

theorem takenEmbedded_kept (previousShortcode : String) :
    Kept (takenEmbedded previousShortcode) := by
  apply (nextEmbedded_kept _).bind
  intro found
  split
  · apply (onSession_kept _).bind
    intro _
    exact keeps_pure _
  · exact keeps_pure _

theorem nextFromAuthenticatedFeed_kept (previousShortcode : String)
    (stoppable : Bool) :
    Kept (nextFromAuthenticatedFeed previousShortcode stoppable) := by
  apply (raiseIfClosed_steady open_undisturbed).bind
  intro _
  apply (raiseIfControlledStop_steady open_undisturbed).bind
  intro _
  apply keeps_read.bind
  intro feed
  split
  · exact keeps_pure _
  apply (shouldStop_steady open_undisturbed stoppable).bind
  intro stopping
  split
  · exact keeps_pure _
  apply (takenEmbedded_kept _).bind
  intro found
  split
  · exact keeps_pure _
  · apply navigateToReels_kept.bind
    intro _
    apply (initialReel_steady open_undisturbed).bind
    intro current
    apply (captureEmbeddedFeedCandidates_steady open_undisturbed).bind
    intro _
    apply (onSession_kept _).bind
    intro _
    exact takenEmbedded_kept _

end

end Custody

end OfflineReels.Collector.PlaywrightReelsFeed
