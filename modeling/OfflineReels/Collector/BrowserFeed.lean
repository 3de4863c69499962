import Mathlib.Data.Rat.Floor
import OfflineReels.Collector.FeedJson
import OfflineReels.Foundation.Stateful

namespace OfflineReels.Collector

open OfflineReels.Foundation
open OfflineReels.Foundation.Stateful
open OfflineReels.Collector.FeedJson

/-! The Reels feed on the pages of a browser.  The page answers each probe as it
likes; the aggregate diagnostics of pages and scroll targets are left out. -/

abbrev PageId : Type := Nat

structure PageState where
  checkpoint : Bool
  login : Bool
  limited : Bool
  deriving DecidableEq, Repr

/-- A number that is missing, a boolean or not finite reads as `none`. -/
structure ScrollTarget where
  available : Bool
  inViewport : Bool
  x : Option Rat
  y : Option Rat
  width : Option Rat
  height : Option Rat
  deriving DecidableEq, Repr

structure FeedInputTarget where
  available : Bool
  inViewport : Bool
  hitTestable : Bool
  x : Option Rat
  startY : Option Rat
  endY : Option Rat
  deriving DecidableEq, Repr

inductive Key
  | arrowDown
  | pageDown
  deriving DecidableEq, Repr

/-- The calls of the feed.  `responses` stands for the JSON responses that
arrive while it waits for the page, `shouldStop` for the callback of the
Collector. -/
inductive PageCall
  | responses
  | shouldStop
  | pages
  | isClosed (page : PageId)
  | url (page : PageId)
  | state (page : PageId)
  | identity (page : PageId)
  | mediaIdentity (page : PageId)
  | embeddedCandidates (page : PageId)
  | scrollTarget (page : PageId)
  | feedInputTarget (page : PageId)
  | pause (page : PageId)
  | goto (page : PageId)
  | waitForTimeout (page : PageId)
  | newCdpSession (page : PageId)
  | touchStart (x y : Rat)
  | touchMove (x y : Rat)
  | touchEnd
  | detach
  | keyboard (page : PageId)
  | press (page : PageId) (key : Key)
  | mouseMove (page : PageId) (x y : Rat)
  | mouseWheel (page : PageId) (delta : Int)
  | requireLive
  | profilePath
  | acquireLock
  | clearTransientChromiumLocks
  | startPlaywright
  | launchPersistentContext
  | firstPage
  | closeContext
  | stopPlaywright
  | releaseLock
  deriving DecidableEq

/-- A probe whose answer has not the expected shape answers `none`. -/
abbrev PageReply : PageCall → Type
  | .responses => List JsonResponse
  | .shouldStop => Bool
  | .pages => List PageId
  | .isClosed _ => Bool
  | .url _ => String
  | .state _ => Option PageState
  | .identity _ => Option ReelCandidate
  | .mediaIdentity _ => Option String
  | .embeddedCandidates _ => Json
  | .scrollTarget _ => Option ScrollTarget
  | .feedInputTarget _ => Option FeedInputTarget
  | .pause _ => Bool
  | .newCdpSession _ => Bool
  | .keyboard _ => Bool
  | .firstPage => PageId
  | _ => Unit

structure TransitionLimits where
  pollingMicros : Nat
  timeoutMicros : Nat
  maximumScrollAttempts : Nat
  stabilizationMicros : Nat := 1000000
  deriving DecidableEq, Repr

/-- `max(1, int(duration / self._limits.polling_seconds))` -/
def TransitionLimits.polls (limits : TransitionLimits) (micros : Nat) : Nat :=
  max 1 (micros / limits.pollingMicros)

structure TransitionSamplingDiagnostics where
  pollCount : Nat := 0
  unchangedSampleCount : Nat := 0
  missingCandidateCount : Nat := 0
  differentCandidateObserved : Bool := false
  stableSampleCount : Nat := 0
  stableMediaIdentityObserved : Bool := false
  postActionJsonObserved : Bool := false
  canonicalConfirmationObserved : Bool := false
  canonicalDomConfirmationObserved : Bool := false
  canonicalQueueFallbackObserved : Bool := false
  canonicalFeedRefreshObserved : Bool := false
  stopReasonCode : Option String := none
  deriving DecidableEq, Repr

/-- The locals of one `wait_for_next` that its samples share. -/
structure Sampling where
  observedDifferent : Bool := false
  pollCount : Nat := 0
  unchangedCount : Nat := 0
  missingCount : Nat := 0
  stableCount : Nat := 0
  domConfirmationObserved : Bool := false
  queueFallbackObserved : Bool := false
  feedRefreshObserved : Bool := false
  feedRefreshAttempted : Bool := false
  stableMediaIdentity : Option String := none
  deriving DecidableEq, Repr

def Sampling.note (sampling : Sampling) (previous current : Option String) :
    Sampling :=
  match previous, current with
  | some before, some seen =>
      if seen = before then
        { sampling with stableMediaIdentity := none, stableCount := 0 }
      else if sampling.stableMediaIdentity = some seen then
        { sampling with
          observedDifferent := true
          stableCount := sampling.stableCount + 1 }
      else
        { sampling with
          observedDifferent := true
          stableMediaIdentity := some seen
          stableCount := 1 }
  | _, _ => { sampling with stableMediaIdentity := none, stableCount := 0 }

def Sampling.diagnostics (sampling : Sampling) :
    TransitionSamplingDiagnostics where
  pollCount := sampling.pollCount
  unchangedSampleCount := sampling.unchangedCount
  missingCandidateCount := sampling.missingCount
  differentCandidateObserved := sampling.observedDifferent
  stableSampleCount := sampling.stableCount

/-- Which of the context, the Playwright and the profile lock there are. -/
structure Resources where
  context : Bool := false
  playwright : Bool := false
  lock : Bool := false
  deriving DecidableEq, Repr

structure PlaywrightReelsFeed where
  limits : TransitionLimits
  resources : Resources
  page : PageId
  scrollAttempts : Nat := 0
  closed : Bool := false
  transitionDiagnostics : TransitionSamplingDiagnostics := {}
  transitionMediaIdentity : Option String := none
  transitionMediaConfirmed : Bool := false
  transitionJsonCheckpoint : Nat := 0
  forcePointerWheelNextAdvance : Bool := false
  feedJson : Option FeedSession
  sampling : Sampling := {}

namespace PlaywrightReelsFeed

/-- `__init__`; the source observes the page from here on, if it can. -/
def init (page : PageId) (limits : TransitionLimits)
    (resources : Resources) (observeFeedJson : Bool) : PlaywrightReelsFeed where
  limits := limits
  resources := resources
  page := page
  feedJson := if observeFeedJson then some .empty else none

abbrev FeedProgram (α : Type) : Type :=
  Stateful PageCall PageReply CollectorFault PlaywrightReelsFeed α

def stop {α : Type} (reason : String) : FeedProgram α := raise (.coded reason)

def ask (request : PageCall) : FeedProgram (PageReply request) :=
  perform request

def onSession (change : FeedSession → FeedSession) : FeedProgram Unit :=
  write fun feed => { feed with feedJson := feed.feedJson.map change }

def reserved (operation : FeedSession → FeedSession × Option ReelCandidate) :
    FeedProgram (Option ReelCandidate) := do
  let feed ← read
  onSession fun session => (operation session).1
  return feed.feedJson.bind fun session => (operation session).2

/-- The responses that arrive are observed before the page answers. -/
def dispatch : FeedProgram Unit :=
  (ask .responses).attempt fun
    | .ok responses =>
        onSession fun session => responses.foldl FeedSession.observe session
    | .error _ => pure ()

def onPage (request : PageCall) : FeedProgram (PageReply request) := do
  dispatch
  ask request

def pageIsClosed : FeedProgram Bool := do
  let feed ← read
  (ask (.isClosed feed.page)).rescue (·.isException) fun _ => pure true

def raiseIfClosed : FeedProgram Unit := do
  let feed ← read
  if feed.closed then stop "BROWSER_CLOSED"
  else if ← pageIsClosed then stop "BROWSER_CLOSED"
  else pure ()

def raiseIfControlledStop : FeedProgram Unit := do
  let feed ← read
  match ← onPage (.state feed.page) with
  | none => pure ()
  | some state =>
      if state.checkpoint then stop "CHECKPOINT_REQUIRED"
      else if state.login then stop "AUTH_REQUIRED"
      else if state.limited then stop "TEMPORARILY_LIMITED"
      else pure ()

/-- An `except Exception` that asks whether the page is closed. -/
def closedOr {α : Type} (otherwise : CollectorFault → FeedProgram α)
    (fault : CollectorFault) : FeedProgram α := do
  if ← pageIsClosed then stop "BROWSER_CLOSED" else otherwise fault

def identityOf : Except CollectorFault (Option String) → Option String
  | .ok (some result) =>
      if 1 ≤ result.length ∧ result.length ≤ 128 then some result else none
  | _ => none

def activeMediaIdentity : FeedProgram (Option String) := do
  let feed ← read
  (onPage (.mediaIdentity feed.page)).attempt fun
    | .ok result => pure (identityOf (.ok result))
    | .error fault => if fault.isException then pure none else raise fault

def captureEmbeddedFeedCandidates : FeedProgram Unit := do
  let feed ← read
  if feed.feedJson.isNone then pure ()
  else
    (do
      let payload ← onPage (.embeddedCandidates feed.page)
      onSession (·.observeEmbeddedCandidates payload) : FeedProgram Unit).rescue
        (·.isException) fun _ => pure ()

def isInstagramUrl (url : String) : Bool :=
  match urlsplit url with
  | .error _ => false
  | .ok parsed =>
      parsed.scheme = "https".toList &&
        parsed.hostname = "www.instagram.com".toList

def isInstagramPage (page : PageId) : FeedProgram Bool :=
  (do return isInstagramUrl (← ask (.url page)) : FeedProgram Bool).rescue
    (·.isException) fun _ => pure false

def navigateToReels : FeedProgram Unit := do
  raiseIfClosed
  onSession FeedSession.resetForFeedNavigation
  let feed ← read
  (onPage (.goto feed.page)).rescue (·.isException) fun _ =>
    stop "BROWSER_CLOSED"

/-- What the search over the open pages has found so far. -/
structure PageSearch where
  challenge : Bool := false
  login : Bool := false
  limited : Bool := false
  candidates : List (PageId × ReelCandidate) := []
  deriving DecidableEq, Repr

/-- The page that the feed was on, or else the first. -/
def PageSearch.selected (search : PageSearch) (page : PageId) :
    Option (PageId × ReelCandidate) :=
  (search.candidates.find? (·.1 = page)).or search.candidates.head?

def PageSearch.reason (search : PageSearch) : String :=
  if search.challenge then "CHECKPOINT_REQUIRED"
  else if search.login then "AUTH_REQUIRED"
  else if search.limited then "TEMPORARILY_LIMITED"
  else "ACTIVE_REEL_NOT_FOUND"

/-- A probe of one page; one that raises says as much as an empty answer. -/
def probed {α : Type} (program : FeedProgram (Option α)) :
    FeedProgram (Option (Option α)) :=
  (do return some (← program) : FeedProgram (Option (Option α))).rescue
    (·.isException) fun _ => pure none

def identified (page : PageId) (search : PageSearch) :
    FeedProgram PageSearch := do
  match ← probed (onPage (.identity page)) with
  | none => pure search
  | some none => pure search
  | some (some candidate) =>
      match validateCandidate candidate with
      | .error _ => pure search
      | .ok candidate => return { search with
          candidates := search.candidates ++ [(page, candidate)] }

def searchPage (page : PageId) (search : PageSearch) :
    FeedProgram PageSearch := do
  if ← ask (.isClosed page) then pure search
  else if !(← isInstagramPage page) then pure search
  else
    match ← probed (onPage (.state page)) with
    | none => pure search
    | some none => identified page search
    | some (some state) =>
        if state.checkpoint then return { search with challenge := true }
        else if state.login then return { search with login := true }
        else if state.limited then return { search with limited := true }
        else identified page search

def searchPages : List PageId → PageSearch → FeedProgram PageSearch
  | [], search => pure search
  | page :: later, search => do searchPages later (← searchPage page search)

def selectReelsPage : FeedProgram ReelCandidate := do
  let feed ← read
  if !feed.resources.context then raise .otherException
  else
    let search ← searchPages (← ask .pages) {}
    match search.selected feed.page with
    | some (page, candidate) =>
        write fun feed => { feed with page }
        return candidate
    | none => stop search.reason

def waitForInitialReel : Nat → FeedProgram ReelCandidate
  | 0 => stop "ACTIVE_REEL_NOT_FOUND"
  | polls + 1 => do
      raiseIfClosed
      selectReelsPage.rescue (· = .coded "ACTIVE_REEL_NOT_FOUND") fun fault =>
        if polls = 0 then raise fault
        else do
          let feed ← read
          onPage (.waitForTimeout feed.page)
          waitForInitialReel polls

def initialReel : FeedProgram ReelCandidate := do
  let feed ← read
  waitForInitialReel (feed.limits.polls feed.limits.timeoutMicros)

def candidateFromProbe : FeedProgram ReelCandidate := do
  let feed ← read
  match ← onPage (.identity feed.page) with
  | none => stop "ACTIVE_REEL_NOT_FOUND"
  | some candidate =>
      match validateCandidate candidate with
      | .error _ => stop "INVALID_REEL_CANDIDATE"
      | .ok candidate => return candidate

def candidateOrNone : FeedProgram (Option ReelCandidate) :=
  (do return some (← candidateFromProbe) :
      FeedProgram (Option ReelCandidate)).rescue
    (· ∈ [.coded "ACTIVE_REEL_NOT_FOUND", .coded "INVALID_REEL_CANDIDATE"])
    fun _ => pure none

def current : FeedProgram ReelCandidate := do
  let feed ← read
  if feed.closed then stop "BROWSER_CLOSED"
  else if feed.resources.context then
    let candidate ← initialReel
    captureEmbeddedFeedCandidates
    onSession (·.markUsed candidate.shortcode)
    return candidate
  else
    raiseIfClosed
    raiseIfControlledStop
    candidateFromProbe

def pauseCurrent : FeedProgram Unit := do
  raiseIfClosed
  let feed ← read
  if ← onPage (.pause feed.page) then pure ()
  else stop "ACTIVE_REEL_NOT_FOUND"

def resample (change : Sampling → Sampling) : FeedProgram Unit :=
  write fun feed => { feed with sampling := change feed.sampling }

def diagnose (reason : String) : FeedProgram Unit :=
  write fun feed => { feed with transitionDiagnostics :=
    { feed.sampling.diagnostics with stopReasonCode := some reason } }

/-- `should_stop is not None and should_stop()` -/
def shouldStop (stoppable : Bool) : FeedProgram Bool :=
  if stoppable then ask .shouldStop else pure false

def postActionJsonObserved (feed : PlaywrightReelsFeed) : Bool :=
  feed.feedJson.any fun session =>
    feed.transitionJsonCheckpoint < session.source.observation

def nextEmbedded (previousShortcode : String) :
    FeedProgram (Option ReelCandidate) :=
  reserved (·.nextEmbeddedFromCurrentFeed previousShortcode)

def refreshEmbeddedFeedCandidate (previousShortcode : String)
    (stoppable : Bool) : FeedProgram (Option ReelCandidate) := do
  let feed ← read
  if feed.feedJson.isNone || !feed.resources.context then return none
  else if !(← isInstagramPage feed.page) then return none
  else if ← shouldStop stoppable then return none
  else
    navigateToReels
    let current ← initialReel
    captureEmbeddedFeedCandidates
    onSession (·.markUsed current.shortcode)
    nextEmbedded previousShortcode

/-- A candidate that the page shows after the input, or else the first that
arrived after it. -/
def confirmedByPage (previousShortcode : String) :
    FeedProgram (Option ReelCandidate) := do
  match (← candidateOrNone).filter (·.shortcode ≠ previousShortcode) with
  | some candidate =>
      resample fun sampling => { sampling with domConfirmationObserved := true }
      return some candidate
  | none =>
      let feed ← read
      reserved (·.nextAfter previousShortcode feed.transitionJsonCheckpoint)

def fallenBack (previousShortcode : String) (observed : Bool) :
    FeedProgram (Option ReelCandidate) := do
  let candidate ←
    if observed then reserved (·.nextFromCurrentFeed previousShortcode)
    else nextEmbedded previousShortcode
  resample fun sampling =>
    { sampling with queueFallbackObserved := candidate.isSome }
  return candidate

def refreshed (previousShortcode : String) (stoppable : Bool) :
    FeedProgram (Option ReelCandidate) := do
  let feed ← read
  if feed.sampling.feedRefreshAttempted then return none
  else
    resample fun sampling => { sampling with feedRefreshAttempted := true }
    let candidate ← refreshEmbeddedFeedCandidate previousShortcode stoppable
    resample fun sampling =>
      { sampling with feedRefreshObserved := candidate.isSome }
    return candidate

def stableCandidate (previousShortcode : String) (stoppable observed : Bool) :
    FeedProgram (Option ReelCandidate) := do
  captureEmbeddedFeedCandidates
  let shown ←
    if observed then confirmedByPage previousShortcode else pure none
  if shown.isSome then return shown
  let queued ← fallenBack previousShortcode observed
  if queued.isSome then return queued
  refreshed previousShortcode stoppable

def sampled (previousShortcode : String) (stoppable : Bool)
    (previousMediaIdentity : Option String) :
    FeedProgram (Option ReelCandidate × Bool) := do
  let current ← activeMediaIdentity
  resample (·.note previousMediaIdentity current)
  let feed ← read
  let observed := postActionJsonObserved feed
  let candidate ←
    if 2 ≤ feed.sampling.stableCount && feed.feedJson.isSome then
      stableCandidate previousShortcode stoppable observed
    else pure none
  let feed ← read
  onPage (.waitForTimeout feed.page)
  return (candidate, observed)

def sampleFault {α : Type} : CollectorFault → FeedProgram α
  | .coded reason => do
      diagnose reason
      stop reason
  | fault =>
      if fault.isException then do
        if ← pageIsClosed then
          diagnose "BROWSER_CLOSED"
          stop "BROWSER_CLOSED"
        else raise fault
      else raise fault

def counted (candidate : Option ReelCandidate) (observed : Bool) :
    FeedProgram (Option ReelCandidate) := do
  resample fun sampling => { sampling with pollCount := sampling.pollCount + 1 }
  let feed ← read
  if feed.sampling.stableCount < 2 then
    resample fun sampling =>
      { sampling with unchangedCount := sampling.unchangedCount + 1 }
    return none
  else
    match candidate with
    | none =>
        resample fun sampling =>
          { sampling with missingCount := sampling.missingCount + 1 }
        return none
    | some candidate =>
        onSession (·.markUsed candidate.shortcode)
        write fun feed => { feed with
          transitionMediaConfirmed := false
          transitionDiagnostics := { feed.sampling.diagnostics with
            differentCandidateObserved := true
            stableMediaIdentityObserved := true
            postActionJsonObserved := observed
            canonicalConfirmationObserved := true
            canonicalDomConfirmationObserved :=
              feed.sampling.domConfirmationObserved
            canonicalQueueFallbackObserved :=
              feed.sampling.queueFallbackObserved
            canonicalFeedRefreshObserved :=
              feed.sampling.feedRefreshObserved } }
        return some candidate

def sample (previousShortcode : String) (stoppable : Bool)
    (previousMediaIdentity : Option String) :
    FeedProgram (Option ReelCandidate) := do
  if ← shouldStop stoppable then
    diagnose "TOTAL_TIMEOUT_REACHED"
    return none
  else
    raiseIfClosed
    raiseIfControlledStop
    let (candidate, observed) ←
      (sampled previousShortcode stoppable previousMediaIdentity).rescue
        (fun _ => true) sampleFault
    counted candidate observed

/-- Up to so many samples.  The result says that the wait is over. -/
def samples (previousShortcode : String) (stoppable : Bool)
    (previousMediaIdentity : Option String) :
    Nat → FeedProgram (Option (Option ReelCandidate))
  | 0 => return none
  | polls + 1 => do
      match ← sample previousShortcode stoppable previousMediaIdentity with
      | some candidate => return some (some candidate)
      | none =>
          let feed ← read
          if feed.transitionDiagnostics.stopReasonCode.isSome then
            return some none
          else samples previousShortcode stoppable previousMediaIdentity polls

def timedOut : FeedProgram (Option ReelCandidate) := do
  write fun feed => { feed with
    transitionDiagnostics := { feed.sampling.diagnostics with
      stableMediaIdentityObserved := 2 ≤ feed.sampling.stableCount
      postActionJsonObserved := postActionJsonObserved feed
      stopReasonCode := some "TRANSITION_TIMEOUT" }
    forcePointerWheelNextAdvance :=
      feed.transitionMediaConfirmed || feed.forcePointerWheelNextAdvance }
  return none

/-- The samples.  A Reel that appears late gets a short chance to prove
stable. -/
def searched (previousShortcode : String) (stoppable : Bool)
    (previousMediaIdentity : Option String) :
    FeedProgram (Option ReelCandidate) := do
  let feed ← read
  match ← samples previousShortcode stoppable previousMediaIdentity
      (feed.limits.polls feed.limits.timeoutMicros) with
  | some confirmed => return confirmed
  | none =>
      let feed ← read
      if feed.sampling.observedDifferent && feed.sampling.stableCount < 2 then
        match ← samples previousShortcode stoppable previousMediaIdentity
            (feed.limits.polls feed.limits.stabilizationMicros) with
        | some confirmed => return confirmed
        | none => timedOut
      else timedOut

def waitForNext (previousShortcode : String) (stoppable : Bool) :
    FeedProgram (Option ReelCandidate) := do
  let feed ← read
  write fun feed => { feed with
    transitionDiagnostics := {}
    sampling := {}
    transitionMediaIdentity := none }
  match feed.transitionMediaIdentity with
  | some identity => searched previousShortcode stoppable (some identity)
  | none =>
      let identity ← activeMediaIdentity
      searched previousShortcode stoppable identity

def isUsable (target : ScrollTarget) : Option (Rat × Rat × Rat × Rat) :=
  match target.x, target.y, target.width, target.height with
  | some x, some y, some width, some height =>
      if width ≤ 0 ∨ height ≤ 0 ∨ ¬(0 ≤ x ∧ x < width ∧ 0 ≤ y ∧ y < height) then
        none
      else some (x, y, width, height)
  | _, _, _, _ => none

def targetedWheelPoint : FeedProgram (Option (Rat × Rat × Rat × Rat)) := do
  let feed ← read
  let target ← (onPage (.scrollTarget feed.page)).rescue (·.isException)
    (closedOr fun _ => pure none)
  match target with
  | none => return none
  | some target =>
      if !target.available || !target.inViewport then return none
      else return isUsable target

def pointerWheelAdvance : FeedProgram Unit := do
  match ← targetedWheelPoint with
  | none => stop "ACTIVE_REEL_NOT_FOUND"
  | some (_, _, width, height) =>
      let feed ← read
      (do
        onPage (.mouseMove feed.page (width / 2) (height / 2))
        onPage (.mouseWheel feed.page ⌊height * (9 / 10)⌋)).rescue
          (·.isException) (closedOr raise)

def activeFeedInputTarget : FeedProgram (Option (Rat × Rat × Rat)) := do
  let feed ← read
  let target ← (onPage (.feedInputTarget feed.page)).rescue (·.isException)
    (closedOr fun _ => pure none)
  match target with
  | none => return none
  | some target =>
      if !target.available || !target.inViewport || !target.hitTestable then
        return none
      else
        match target.x, target.startY, target.endY with
        | some x, some startY, some endY =>
            if 0 ≤ x ∧ 0 ≤ endY ∧ endY < startY then
              return some (x, startY, endY)
            else return none
        | _, _, _ => return none

def mediaTransition (previousIdentity : String) :
    Nat → Option String → FeedProgram Bool
  | 0, _ => return false
  | polls + 1, stableIdentity => do
      raiseIfClosed
      let currentIdentity ← activeMediaIdentity
      let changed := currentIdentity.filter (· ≠ previousIdentity)
      if changed.isSome && changed = stableIdentity then return true
      else
        let feed ← read
        onPage (.waitForTimeout feed.page)
        mediaTransition previousIdentity polls changed

def waitForMediaTransition (previousIdentity : String) (micros : Nat) :
    FeedProgram Bool := do
  let feed ← read
  mediaTransition previousIdentity (feed.limits.polls micros) none

def touched (x startY endY : Rat) : FeedProgram Bool := do
  onPage (.touchStart x startY)
  onPage (.touchMove x endY)
  onPage .touchEnd
  return true

/-- Whether the touch events were all sent. -/
def swipe (x startY endY : Rat) : FeedProgram Bool := do
  let feed ← read
  if !feed.resources.context then return false
  else
    let session ← (onPage (.newCdpSession feed.page)).rescue (·.isException)
      (closedOr fun _ => pure false)
    if session then
      ((touched x startY endY).rescue (·.isException)
        (closedOr fun _ => pure false)).ensure
          ((onPage .detach).rescue (·.isException) fun _ => pure ())
    else return false

def mobileFeedSwipeAdvances (previousIdentity : String) :
    FeedProgram Bool := do
  match ← activeFeedInputTarget with
  | none => return false
  | some (x, startY, endY) =>
      if ← swipe x startY endY then
        waitForMediaTransition previousIdentity 5000000
      else return false

def pressed (key : Key) : FeedProgram Bool := do
  let feed ← read
  (do
    onPage (.press feed.page key)
    return true : FeedProgram Bool).rescue (·.isException)
      (closedOr fun _ => pure false)

def keyboardAdvances (previousIdentity : String) : FeedProgram Bool := do
  let feed ← read
  if !(← ask (.keyboard feed.page)) then return false
  if !(← pressed .arrowDown) then return false
  if ← waitForMediaTransition previousIdentity 4000000 then return true
  if !(← pressed .pageDown) then return false
  waitForMediaTransition previousIdentity 4000000

def inputAdvances : Option String → FeedProgram Bool
  | none => return false
  | some identity => do
      if ← mobileFeedSwipeAdvances identity then return true
      else keyboardAdvances identity

def scrolled (confirmed : Bool) : FeedProgram Unit :=
  write fun feed => { feed with
    transitionMediaConfirmed := feed.transitionMediaConfirmed || confirmed
    scrollAttempts := feed.scrollAttempts + 1 }

def advance : FeedProgram Unit := do
  raiseIfClosed
  let feed ← read
  if feed.limits.maximumScrollAttempts ≤ feed.scrollAttempts then
    stop "TRANSITION_TIMEOUT"
  else
    let identity ← activeMediaIdentity
    write fun feed => { feed with
      transitionMediaIdentity := identity
      transitionMediaConfirmed := false
      transitionJsonCheckpoint :=
        (feed.feedJson.map (·.source.observation)).getD 0 }
    if feed.forcePointerWheelNextAdvance then
      -- An input that changed the media but confirmed no Reel is not repeated.
      write fun feed => { feed with forcePointerWheelNextAdvance := false }
      pointerWheelAdvance
      scrolled false
    else
      if ← inputAdvances identity then scrolled true
      else
        pointerWheelAdvance
        scrolled false

def takenEmbedded (previousShortcode : String) :
    FeedProgram (Option ReelCandidate) := do
  match ← nextEmbedded previousShortcode with
  | some candidate =>
      onSession (·.markUsed candidate.shortcode)
      return some candidate
  | none => return none

def nextFromAuthenticatedFeed (previousShortcode : String)
    (stoppable : Bool) : FeedProgram (Option ReelCandidate) := do
  raiseIfClosed
  raiseIfControlledStop
  let feed ← read
  if feed.feedJson.isNone then return none
  else if ← shouldStop stoppable then return none
  else
    match ← takenEmbedded previousShortcode with
    | some candidate => return some candidate
    | none =>
        navigateToReels
        let current ← initialReel
        captureEmbeddedFeedCandidates
        onSession (·.markUsed current.shortcode)
        takenEmbedded previousShortcode

/-- An `except Exception: pass` around the end of one resource. -/
def closing {Store : Type} (present : Bool) (request : PageCall) :
    Stateful PageCall PageReply CollectorFault Store Unit :=
  (if present then do
    let _ ← perform request
    return ()
  else pure ()).rescue (·.isException) fun _ => pure ()

def closeRuntime {Store : Type} (resources : Resources) :
    Stateful PageCall PageReply CollectorFault Store Unit := do
  closing resources.context .closeContext
  closing resources.playwright .stopPlaywright
  closing resources.lock .releaseLock

def close : FeedProgram Unit := do
  let feed ← read
  if feed.closed then pure ()
  else
    write fun feed => { feed with closed := true }
    closeRuntime feed.resources

/-- The store is the locals of `open` that are not `None`. -/
abbrev OpenProgram (α : Type) : Type :=
  Stateful PageCall PageReply CollectorFault Resources α

/-- A method of the feed that `open` has made. -/
def onFeed (program : FeedProgram Unit) (feed : PlaywrightReelsFeed) :
    OpenProgram PlaywrightReelsFeed :=
  fun resources => (program feed).attempt fun
    | .ok (.ok (), after) => .done (.ok (.ok after, resources))
    | .ok (.error fault, _) => .done (.ok (.error fault, resources))
    | .error fault => .done (.error fault)

def opened (limits : TransitionLimits)
    (allowLoginBootstrap navigateFirst observeFeedJson : Bool) :
    OpenProgram PlaywrightReelsFeed := do
  let _ ← perform .profilePath
  write fun resources => { resources with lock := true }
  let _ ← perform .acquireLock
  let _ ← perform .clearTransientChromiumLocks
  let _ ← perform .startPlaywright
  write fun resources => { resources with playwright := true }
  let _ ← perform .launchPersistentContext
  write fun resources => { resources with context := true }
  let page ← perform .firstPage
  let feed := init page limits ⟨true, true, true⟩ observeFeedJson
  let feed ← if navigateFirst then onFeed navigateToReels feed else pure feed
  if allowLoginBootstrap then return feed
  else onFeed raiseIfControlledStop feed

/-- What was opened is closed again when the opening raises. -/
def openFeed (limits : TransitionLimits)
    (allowLoginBootstrap navigateFirst observeFeedJson : Bool) :
    OpenProgram PlaywrightReelsFeed := do
  let _ ← perform .requireLive
  (opened limits allowLoginBootstrap navigateFirst observeFeedJson).rescue
    (·.isException) fun fault => do
      closeRuntime (← read)
      match fault with
      | .coded reason => raise (.coded reason)
      | _ => raise (.coded "BROWSER_CLOSED")

end PlaywrightReelsFeed

end OfflineReels.Collector
