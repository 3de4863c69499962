import OfflineReels.Collector.FeedCustody
import OfflineReels.Collector.FeedRuns

namespace OfflineReels.Collector.PlaywrightReelsFeed

open OfflineReels.Foundation
open OfflineReels.Foundation.Stateful
open Transitions
open Runs (FeedAction)

/-! A session opens a feed, asks for whatever it likes and closes the feed.  An
operator closes it whether what it asked for returned or raised. -/

def driven : List FeedAction → FeedProgram Unit
  | [] => close.rescue (·.isException) fun _ => pure ()
  | action :: later => action.perform.attempt fun _ => driven later

/-- What `open` is told, and what is asked for between `open` and `close`. -/
structure SessionPlan where
  limits : TransitionLimits
  allowLoginBootstrap : Bool
  navigateFirst : Bool
  observeFeedJson : Bool
  actions : List FeedAction

def opening (plan : SessionPlan) : OpenProgram PlaywrightReelsFeed :=
  openFeed plan.limits plan.allowLoginBootstrap plan.navigateFirst
    plan.observeFeedJson

def session (plan : SessionPlan) :
    Program PageCall PageReply CollectorFault Unit :=
  (opening plan {}).attempt fun
    | .ok (.ok feed, _) =>
        (driven plan.actions feed).attempt fun _ => .done (.ok ())
    | _ => .done (.ok ())

namespace Custody

/-- Nothing is left that would have to be given back. -/
structure Ended (phase : Custody) : Prop where
  lock : phase.lock ≠ .held
  playwright : phase.playwright = false
  context : phase.context = false

/-- Just what has been opened is there to be closed. -/
structure Owns (resources : Resources) (phase : Custody) : Prop where
  context : phase.context = resources.context
  playwright : phase.playwright = resources.playwright
  within : phase.context = true → phase.lock = .held
  lock : resources.lock = false → phase.lock = .free
  kept : phase.lock ≠ .released

section

variable {Store : Type} {store : Store} {phase : Custody}

theorem perform_leaves {request : PageCall}
    (permitted : phase.permits request) :
    Leaves custody phase store (perform request : Stateful _ _ _ Store _)
      fun outcome after reached =>
        Uninterrupted outcome ∧ after = store ∧
          reached = phase.note request outcome := by
  apply leaves_perform permitted
  intro reply assumed
  exact ⟨assumed, rfl, rfl⟩

theorem closing_leaves {present : Bool} {request : PageCall} {next : Custody}
    (permitted : present = true → phase.permits request)
    (asked : present = true → ∀ reply, phase.note request reply = next)
    (absent : present = false → phase = next) :
    Leaves custody phase store
      (closing present request : Stateful _ _ _ Store Unit)
      fun outcome after reached =>
        outcome = .ok () ∧ after = store ∧ reached = next := by
  have performed : Leaves custody phase store
      (if present then do
        let _ ← perform request
        return ()
      else pure () : Stateful PageCall PageReply CollectorFault Store Unit)
      fun outcome after reached =>
        Uninterrupted outcome ∧ after = store ∧ reached = next := by
    cases present with
    | false => exact leaves_pure ⟨faults_ok _, rfl, absent rfl⟩
    | true =>
        apply Leaves.discard
        apply (perform_leaves (permitted rfl)).mono
        intro reply after reached kept
        obtain ⟨uninterrupted, rfl, rfl⟩ := kept
        exact ⟨faults_map uninterrupted, rfl, asked rfl _⟩
  exact performed.swallow

theorem lockReleased_leaves {resources : Resources}
    (owns : Owns resources phase) :
    Leaves custody { phase with context := false, playwright := false } store
      (closing resources.lock .releaseLock : Stateful _ _ _ Store Unit)
      fun outcome after reached =>
        outcome = .ok () ∧ after = store ∧ Ended reached := by
  have given : Leaves custody
      { phase with context := false, playwright := false } store
      (closing resources.lock .releaseLock : Stateful _ _ _ Store Unit)
      fun outcome after reached => outcome = .ok () ∧ after = store ∧
        reached = Custody.note
          { phase with context := false, playwright := false } .releaseLock
          (.ok ()) := by
    apply closing_leaves
    · intro _
      exact ⟨owns.kept, rfl, rfl⟩
    · intro _ _
      rfl
    · intro absent
      have free : phase.lock = .free := owns.lock absent
      change _ = if phase.lock = .held then _ else _
      rw [free, if_neg (by decide)]
  apply given.mono
  intro outcome after reached kept
  obtain ⟨returned, same, rfl⟩ := kept
  refine ⟨returned, same, ?_⟩
  change Ended (if phase.lock = .held then _ else _)
  split
  · exact ⟨fun clash => (by cases clash), rfl, rfl⟩
  · rename_i other
    exact ⟨other, rfl, rfl⟩

theorem closeRuntime_leaves {resources : Resources}
    (owns : Owns resources phase) :
    Leaves custody phase store
      (closeRuntime resources : Stateful _ _ _ Store Unit)
      fun outcome after reached =>
        outcome = .ok () ∧ after = store ∧ Ended reached := by
  have browser : Leaves custody phase store
      (closing resources.context .closeContext : Stateful _ _ _ Store Unit)
      fun outcome after reached => outcome = .ok () ∧ after = store ∧
        reached = { phase with context := false } := by
    apply closing_leaves
    · intro present
      exact owns.within (owns.context.trans present)
    · intro _ _
      rfl
    · intro absent
      have none : phase.context = false := owns.context.trans absent
      rw [← none]
  apply browser.bind
  · intro _ after reached kept
    obtain ⟨_, rfl, rfl⟩ := kept
    have driver : Leaves custody { phase with context := false } after
        (closing resources.playwright .stopPlaywright :
          Stateful _ _ _ Store Unit)
        fun outcome later ended => outcome = .ok () ∧ later = after ∧
          ended = { phase with context := false, playwright := false } := by
      apply closing_leaves
      · intro _
        rfl
      · intro _ _
        rfl
      · intro absent
        have none : phase.playwright = false := owns.playwright.trans absent
        rw [← none]
    apply driver.bind
    · intro _ later ended kept
      obtain ⟨_, rfl, rfl⟩ := kept
      exact lockReleased_leaves owns
    · intro fault later ended kept
      cases kept.1
  · intro fault after reached kept
    cases kept.1

end

section

variable {α β : Type}

abbrev Mild {α : Type} (program : FeedProgram α) : Prop :=
  ∀ phase feed, Open feed phase →
    Leaves custody phase feed program fun outcome after reached =>
      Uninterrupted outcome ∧ Open after reached

theorem mild_pure (value : α) : Mild (pure value : FeedProgram α) := by
  intro phase feed opened
  exact leaves_pure ⟨faults_ok _, opened⟩

theorem mild_stop (reason : String) : Mild (stop reason : FeedProgram α) := by
  intro phase feed opened
  exact leaves_raise ⟨faults_error rfl, opened⟩

theorem mild_ask {request : PageCall} (paged : isPaged request = true) :
    Mild (ask request) := by
  intro phase feed opened
  have permitted := (paged_kept paged opened).1
  apply (perform_leaves permitted).mono
  intro outcome after reached kept
  obtain ⟨uninterrupted, rfl, rfl⟩ := kept
  exact ⟨uninterrupted, (paged_kept paged opened).2 outcome⟩

theorem Mild.bind {program : FeedProgram α} {next : α → FeedProgram β}
    (first : Mild program) (continues : ∀ value, Mild (next value)) :
    Mild (program >>= next) := by
  intro phase feed opened
  apply (first phase feed opened).bind
  · intro value after reached kept
    exact continues value reached after kept.2
  · intro fault after reached kept
    exact ⟨faults_error (kept.1 fault rfl), kept.2⟩

theorem mild_read {next : PlaywrightReelsFeed → FeedProgram β}
    (continues : ∀ feed, Mild (next feed)) : Mild (read >>= next) := by
  intro phase feed opened
  exact leaves_reading (continues feed phase feed opened)

theorem Mild.rescue {program : FeedProgram α}
    {handler : CollectorFault → FeedProgram α} (body : Mild program)
    (handles : ∀ fault, Mild (handler fault)) :
    Mild (program.rescue (·.isException) handler) := by
  intro phase feed opened
  apply (body phase feed opened).rescue
  · intro value after reached kept
    exact ⟨faults_ok _, kept.2⟩
  · intro fault after reached kept _
    exact handles fault reached after kept.2
  · intro fault after reached kept passed
    rw [kept.1 fault rfl] at passed
    cases passed

theorem mild_dispatch : Mild dispatch := by
  intro phase feed opened
  apply (dispatch_leaves open_undisturbed opened).mono
  intro outcome after reached kept
  obtain ⟨rfl, still⟩ := kept
  exact ⟨faults_ok _, still⟩

theorem mild_onPage {request : PageCall} (paged : isPaged request = true) :
    Mild (onPage request) := by
  apply mild_dispatch.bind
  intro _
  exact mild_ask paged

theorem mild_raiseIfClosed : Mild raiseIfClosed := by
  apply mild_read
  intro feed
  split
  · exact mild_stop _
  · have asked : Mild pageIsClosed := by
      apply mild_read
      intro feed
      apply (mild_ask rfl).rescue
      intro _
      exact mild_pure _
    apply asked.bind
    intro closed
    split
    · exact mild_stop _
    · exact mild_pure _

theorem mild_raiseIfControlledStop : Mild raiseIfControlledStop := by
  apply mild_read
  intro feed
  apply (mild_onPage rfl).bind
  intro state
  cases state with
  | none => exact mild_pure _
  | some state =>
      dsimp only
      split
      · exact mild_stop _
      split
      · exact mild_stop _
      split
      · exact mild_stop _
      · exact mild_pure _

theorem mild_navigateToReels : Mild navigateToReels := by
  apply mild_raiseIfClosed.bind
  intro _
  have reset : Mild (onSession FeedJson.FeedSession.resetForFeedNavigation) := by
    intro phase feed opened
    exact leaves_write ⟨faults_ok _, opened⟩
  apply reset.bind
  intro _
  apply mild_read
  intro feed
  apply (mild_onPage rfl).rescue
  intro _
  exact mild_stop _

end

def Reaching {α : Type} (post : α → Resources → Custody → Prop) :
    Except CollectorFault α → Resources → Custody → Prop
  | .ok value, resources, phase => post value resources phase
  | .error fault, resources, phase =>
      fault.isException = true ∧ Owns resources phase

def Entrusted (feed : PlaywrightReelsFeed) (resources : Resources)
    (phase : Custody) : Prop :=
  resources = ⟨true, true, true⟩ ∧ Open feed phase

section

variable {α β : Type} {phase : Custody} {resources : Resources}
variable {feed : PlaywrightReelsFeed}

theorem owns_open : Owns ⟨true, true, true⟩ ⟨.held, true, true⟩ where
  context := rfl
  playwright := rfl
  within := fun _ => rfl
  lock := fun clash => by cases clash
  kept := by decide

theorem Entrusted.owns (entrusted : Entrusted feed resources phase) :
    Owns resources phase := by
  obtain ⟨rfl, _, _, rfl⟩ := entrusted
  exact owns_open

theorem perform_reaching {request : PageCall}
    {next : PageReply request → OpenProgram β}
    {post : β → Resources → Custody → Prop} (owns : Owns resources phase)
    (permitted : phase.permits request)
    (failed : ∀ fault, phase.note request (.error fault) = phase)
    (continues : ∀ value, Leaves custody (phase.note request (.ok value))
      resources (next value) (Reaching post)) :
    Leaves custody phase resources (perform request >>= next)
      (Reaching post) := by
  apply (perform_leaves permitted).bind
  · intro value after reached kept
    obtain ⟨_, rfl, rfl⟩ := kept
    exact continues value
  · intro fault after reached kept
    obtain ⟨uninterrupted, rfl, rfl⟩ := kept
    rw [failed]
    exact ⟨uninterrupted fault rfl, owns⟩

theorem onFeed_reaching {program : FeedProgram Unit}
    (mild : Mild program)
    (entrusted : Entrusted feed resources phase) :
    Leaves custody phase resources (onFeed program feed)
      (Reaching Entrusted) := by
  obtain ⟨rfl, opened⟩ := entrusted
  apply Program.Follows.attempt (mild phase feed opened)
  intro outcome reached kept
  obtain ⟨result, after, rfl, uninterrupted, still⟩ := kept
  cases result with
  | ok _ => exact ⟨_, _, rfl, rfl, still⟩
  | error fault =>
      have entrusted : Entrusted after ⟨true, true, true⟩ reached :=
        ⟨rfl, still⟩
      exact ⟨_, _, rfl, uninterrupted fault rfl, entrusted.owns⟩

theorem opened_reaching (limits : TransitionLimits)
    (allowLoginBootstrap navigateFirst observeFeedJson : Bool) :
    Leaves custody {} {}
      (opened limits allowLoginBootstrap navigateFirst observeFeedJson)
      (Reaching Entrusted) := by
  have unlocked : Owns {} {} := ⟨rfl, rfl, by decide, by decide, by decide⟩
  have locking : Owns ⟨false, false, true⟩ {} :=
    ⟨rfl, rfl, by decide, by decide, by decide⟩
  have locked : Owns ⟨false, false, true⟩ ⟨.held, false, false⟩ :=
    ⟨rfl, rfl, by decide, by decide, by decide⟩
  have started : Owns ⟨false, true, true⟩ ⟨.held, true, false⟩ :=
    ⟨rfl, rfl, by decide, by decide, by decide⟩
  apply perform_reaching unlocked
  · intro clash
    cases clash
  · intro _
    rfl
  intro _
  apply leaves_writing
  apply perform_reaching locking
  · exact rfl
  · intro _
    rfl
  intro _
  apply perform_reaching locked
  · exact ⟨rfl, rfl⟩
  · intro _
    rfl
  intro _
  apply perform_reaching locked
  · exact ⟨rfl, rfl⟩
  · intro _
    rfl
  intro _
  apply leaves_writing
  apply perform_reaching started
  · exact ⟨rfl, rfl⟩
  · intro _
    rfl
  intro _
  apply leaves_writing
  apply perform_reaching owns_open
  · intro _
    exact ⟨rfl, rfl⟩
  · intro _
    rfl
  intro page
  have entrusted : Entrusted
      (init page limits ⟨true, true, true⟩ observeFeedJson)
      ⟨true, true, true⟩ ⟨.held, true, true⟩ := ⟨rfl, rfl, rfl, rfl⟩
  have stopped : ∀ (feed : PlaywrightReelsFeed) resources phase,
      Entrusted feed resources phase →
      Leaves custody phase resources
        (if allowLoginBootstrap then pure feed
          else onFeed raiseIfControlledStop feed) (Reaching Entrusted) := by
    intro feed resources phase entrusted
    split
    · exact leaves_pure entrusted
    · exact onFeed_reaching mild_raiseIfControlledStop entrusted
  dsimp only
  split
  · apply (onFeed_reaching mild_navigateToReels entrusted).bind
    · intro feed after reached kept
      exact stopped feed after reached kept
    · intro fault after reached kept
      exact kept
  · exact stopped _ _ _ entrusted

def Settled : Except CollectorFault PlaywrightReelsFeed → Custody → Prop
  | .ok feed, phase => Open feed phase
  | .error _, phase => Ended phase

theorem openFeed_leaves (limits : TransitionLimits)
    (allowLoginBootstrap navigateFirst observeFeedJson : Bool) :
    Leaves custody {} {}
      (openFeed limits allowLoginBootstrap navigateFirst observeFeedJson)
      fun outcome _ => Settled outcome := by
  have asked : Leaves custody {} ({} : Resources)
      (perform PageCall.requireLive : OpenProgram Unit)
      fun _ after reached => after = {} ∧ reached = {} := by
    apply leaves_perform
    · intro clash
      cases clash
    · intro reply _
      exact ⟨rfl, rfl⟩
  apply asked.bind
  · intro _ after reached kept
    obtain ⟨rfl, rfl⟩ := kept
    apply (opened_reaching limits allowLoginBootstrap navigateFirst
      observeFeedJson).rescue
    · intro feed after reached kept
      exact kept.2
    · intro fault after reached kept _
      apply leaves_reading
      apply (closeRuntime_leaves kept.2).bind
      · intro _ later ended closed
        split
        · exact leaves_raise closed.2.2
        · exact leaves_raise closed.2.2
      · intro _ later ended closed
        exact closed.2.2
    · intro fault after reached kept passed
      rw [kept.1] at passed
      cases passed
  · intro fault after reached kept
    obtain ⟨_, rfl⟩ := kept
    exact ⟨by decide, rfl, rfl⟩

end

def Shut (feed : PlaywrightReelsFeed) (phase : Custody) : Prop :=
  feed.closed = true ∧ Ended phase

section

variable {α : Type} {feed : PlaywrightReelsFeed} {phase : Custody}

theorem raiseIfClosed_shut (shut : Shut feed phase) :
    Leaves custody phase feed raiseIfClosed fun outcome after reached =>
      outcome = .error (.coded "BROWSER_CLOSED") ∧ Shut after reached := by
  apply leaves_reading
  rw [shut.1, if_pos rfl]
  exact leaves_raise ⟨rfl, shut⟩

theorem refused {next : Unit → FeedProgram α} (shut : Shut feed phase) :
    Leaves custody phase feed (raiseIfClosed >>= next) fun _ => Shut := by
  apply (raiseIfClosed_shut shut).bind
  · intro value after reached kept
    cases kept.1
  · intro fault after reached kept
    exact kept.2

theorem look_shut {request : PageCall} (paged : isPaged request = true)
    (looks : drives request = false) :
    Stateful.Keeps custody Shut (ask request) := by
  apply keeps_perform
  · intro feed phase shut
    apply permits_paged paged
    intro clash
    rw [looks] at clash
    cases clash
  · intro feed phase reply shut
    change Shut feed (phase.note request reply)
    rw [note_paged paged]
    exact shut

theorem write_shut {change : PlaywrightReelsFeed → PlaywrightReelsFeed}
    (closed : ∀ feed, (change feed).closed = feed.closed) :
    Stateful.Keeps custody Shut (write change) := by
  apply keeps_write
  intro feed phase shut
  exact ⟨(closed feed).trans shut.1, shut.2⟩

theorem activeMediaIdentity_shut :
    Stateful.Keeps custody Shut activeMediaIdentity := by
  have asked : Stateful.Keeps custody Shut (ask .responses) := look_shut rfl rfl
  apply keeps_read.bind
  intro feed
  have dispatched : Stateful.Keeps custody Shut dispatch := by
    apply asked.attempt
    intro outcome
    cases outcome with
    | ok responses => exact write_shut fun _ => rfl
    | error fault => exact keeps_pure _
  have looked : Stateful.Keeps custody Shut
      (onPage (.mediaIdentity feed.page)) := by
    apply dispatched.bind
    intro _
    exact look_shut rfl rfl
  apply looked.attempt
  intro outcome
  cases outcome with
  | ok result => exact keeps_pure _
  | error fault =>
      dsimp only
      split
      · exact keeps_pure _
      · exact keeps_raise _

theorem sample_shut (previousShortcode : String) (stoppable : Bool)
    (previousMediaIdentity : Option String) :
    Stateful.Keeps custody Shut
      (sample previousShortcode stoppable previousMediaIdentity) := by
  have asking : Stateful.Keeps custody Shut (shouldStop stoppable) := by
    unfold shouldStop
    split
    · exact look_shut rfl rfl
    · exact keeps_pure _
  apply asking.bind
  intro stopping
  split
  · have diagnosed : Stateful.Keeps custody Shut
        (diagnose "TOTAL_TIMEOUT_REACHED") := write_shut fun _ => rfl
    apply diagnosed.bind
    intro _
    exact keeps_pure _
  · intro phase feed shut
    exact refused shut

theorem samples_shut (previousShortcode : String) (stoppable : Bool)
    (previousMediaIdentity : Option String) (polls : Nat) :
    Stateful.Keeps custody Shut
      (samples previousShortcode stoppable previousMediaIdentity polls) := by
  induction polls with
  | zero => exact keeps_pure _
  | succ polls ih =>
      apply (sample_shut _ _ _).bind
      intro found
      split
      · exact keeps_pure _
      · apply keeps_read.bind
        intro feed
        split
        · exact keeps_pure _
        · exact ih

theorem searched_shut (previousShortcode : String) (stoppable : Bool)
    (previousMediaIdentity : Option String) :
    Stateful.Keeps custody Shut
      (searched previousShortcode stoppable previousMediaIdentity) := by
  have ended : Stateful.Keeps custody Shut timedOut := by
    apply Stateful.Keeps.bind
    · exact write_shut fun _ => rfl
    · intro _
      exact keeps_pure _
  apply keeps_read.bind
  intro feed
  apply (samples_shut _ _ _ _).bind
  intro found
  split
  · exact keeps_pure _
  · apply keeps_read.bind
    intro feed
    split
    · apply (samples_shut _ _ _ _).bind
      intro found
      split
      · exact keeps_pure _
      · exact ended
    · exact ended

theorem waitForNext_shut (previousShortcode : String) (stoppable : Bool) :
    Stateful.Keeps custody Shut (waitForNext previousShortcode stoppable) := by
  apply keeps_read.bind
  intro feed
  apply Stateful.Keeps.bind
  · exact write_shut fun _ => rfl
  · intro _
    split
    · exact searched_shut _ _ _
    · apply activeMediaIdentity_shut.bind
      intro identity
      exact searched_shut _ _ _

theorem current_shut : Stateful.Keeps custody Shut current := by
  intro phase feed shut
  apply leaves_reading
  rw [shut.1, if_pos rfl]
  exact leaves_raise shut

end

def Either (feed : PlaywrightReelsFeed) (phase : Custody) : Prop :=
  Open feed phase ∨ Shut feed phase

section

variable {α : Type} {feed : PlaywrightReelsFeed} {phase : Custody}

theorem either_of {program : FeedProgram α} (kept : Kept program)
    (shut : Stateful.Keeps custody Shut program) :
    Stateful.Keeps custody Either program := by
  intro phase feed either
  rcases either with opened | ended
  · apply (kept phase feed opened).mono
    intro _ after reached opened
    exact .inl opened
  · apply (shut phase feed ended).mono
    intro _ after reached ended
    exact .inr ended

theorem close_leaves (either : Either feed phase) :
    Leaves custody phase feed close fun _ => Shut := by
  apply leaves_reading
  rcases either with opened | shut
  · obtain ⟨open_, same, rfl⟩ := opened
    rw [open_, same]
    apply leaves_writing
    have closed : Leaves custody ⟨.held, true, true⟩
        { feed with closed := true } (closeRuntime ⟨true, true, true⟩)
        fun outcome after reached => outcome = .ok () ∧
          after = { feed with closed := true } ∧ Ended reached :=
      closeRuntime_leaves owns_open
    apply closed.mono
    intro outcome after reached kept
    obtain ⟨_, rfl, ended⟩ := kept
    exact ⟨rfl, ended⟩
  · rw [shut.1]
    exact leaves_pure shut

theorem perform_either (action : FeedAction) :
    Stateful.Keeps custody Either action.perform := by
  have returning : ∀ {β : Type} {program : FeedProgram β}
      (value : β → Option ReelCandidate),
      Stateful.Keeps custody Either program →
      Stateful.Keeps custody Either (do return value (← program)) := by
    intro β program value kept
    apply kept.bind
    intro _
    exact keeps_pure _
  cases action with
  | current =>
      apply returning
      exact either_of (current_steady open_undisturbed) current_shut
  | pauseCurrent =>
      apply returning
      apply either_of (pauseCurrent_steady open_undisturbed)
      intro phase feed shut
      exact refused shut
  | navigateToReels =>
      apply returning
      apply either_of navigateToReels_kept
      intro phase feed shut
      exact refused shut
  | advance =>
      apply returning
      apply either_of advance_kept
      intro phase feed shut
      exact refused shut
  | waitForNext previousShortcode stoppable =>
      exact either_of (waitForNext_kept _ _) (waitForNext_shut _ _)
  | nextFromAuthenticatedFeed previousShortcode stoppable =>
      apply either_of (nextFromAuthenticatedFeed_kept _ _)
      intro phase feed shut
      exact refused shut
  | close =>
      apply returning
      intro phase feed either
      apply (close_leaves either).mono
      intro _ after reached shut
      exact .inr shut

theorem driven_leaves (actions : List FeedAction)
    (either : Either feed phase) :
    Leaves custody phase feed (driven actions) fun _ => Shut := by
  induction actions generalizing feed phase with
  | nil =>
      apply (close_leaves either).rescue
      · intro _ after reached shut
        exact shut
      · intro _ after reached shut _
        exact leaves_pure shut
      · intro _ after reached shut _
        exact shut
  | cons action later ih =>
      apply (perform_either action phase feed either).attempt
      intro _ after reached kept
      exact ih kept

/-- Every call of a session is permitted, and it ends with nothing left. -/
theorem session_follows (plan : SessionPlan) :
    (session plan).Follows custody {} fun _ => Ended := by
  have opens : Leaves custody {} {} (opening plan)
      fun outcome _ => Settled outcome := openFeed_leaves _ _ _ _
  apply Program.Follows.attempt opens
  intro outcome reached kept
  obtain ⟨result, resources, rfl, settled⟩ := kept
  cases result with
  | error fault => exact settled
  | ok feed =>
      apply Program.Follows.attempt (driven_leaves plan.actions (.inl settled))
      intro outcome reached kept
      obtain ⟨result, after, rfl, shut⟩ := kept
      exact shut.2

end

end Custody

end OfflineReels.Collector.PlaywrightReelsFeed
