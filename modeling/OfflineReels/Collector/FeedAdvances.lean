import OfflineReels.Collector.FeedTransitions

namespace OfflineReels.Collector.PlaywrightReelsFeed.Advances

open OfflineReels.Foundation
open OfflineReels.Foundation.Stateful
open Transitions

/-! The inputs of one advance, and what they have shown. -/

def swipeInputs : List Input := [.touchStart, .touchMove, .touchEnd]
def keyInputs : List Input := [.press .arrowDown, .press .pageDown]
def wheelInputs : List Input := [.mouseMove, .mouseWheel]

structure Goes (sends : List Input) (trace reached : Trace) : Prop where
  still : reached.navigations = trace.navigations
  looked : trace.identities <:+ reached.identities
  sent : ∃ inputs : List Input, reached.inputs = inputs.reverse ++ trace.inputs ∧
    inputs.Sublist sends

namespace Goes

variable {first second : List Input} {trace middle reached : Trace}

theorem refl (trace : Trace) : Goes [] trace trace :=
  ⟨rfl, List.suffix_rfl, [], rfl, List.Sublist.refl _⟩

theorem trans (one : Goes first trace middle)
    (two : Goes second middle reached) :
    Goes (first ++ second) trace reached where
  still := two.still.trans one.still
  looked := one.looked.trans two.looked
  sent := by
    obtain ⟨earlier, before, below⟩ := one.sent
    obtain ⟨later, after, above⟩ := two.sent
    refine ⟨earlier ++ later, ?_, below.append above⟩
    rw [after, before, List.reverse_append, List.append_assoc]

theorem mono (goes : Goes first trace reached)
    (sublist : first.Sublist second) : Goes second trace reached where
  still := goes.still
  looked := goes.looked
  sent := by
    obtain ⟨inputs, same, below⟩ := goes.sent
    exact ⟨inputs, same, below.trans sublist⟩

end Goes

/-- From this trace the program sends these inputs at most, and what it
returns is shown by the trace. -/
def Emits {α : Type} (start : PlaywrightReelsFeed) (trace : Trace)
    (sends : List Input) (program : FeedProgram α)
    (shows : α → Trace → Prop) : Prop :=
  ∀ feed, Untouched start trace feed trace →
    Leaves tracing trace feed program fun outcome after reached =>
      Untouched start reached after reached ∧ Goes sends trace reached ∧
        ∀ value, outcome = .ok value → shows value reached

section

variable {α β : Type} {start : PlaywrightReelsFeed} {trace : Trace}
variable {first second : List Input} {program : FeedProgram α}

theorem emits_pure {shows : α → Trace → Prop} {value : α}
    (holds : shows value trace) :
    Emits start trace first (pure value) shows := by
  intro feed untouched
  apply leaves_pure
  refine ⟨untouched, (Goes.refl trace).mono (List.nil_sublist _), ?_⟩
  intro other same
  cases same
  exact holds

theorem emits_raise {shows : α → Trace → Prop} (fault : CollectorFault) :
    Emits start trace first (raise fault) shows := by
  intro feed untouched
  apply leaves_raise
  refine ⟨untouched, (Goes.refl trace).mono (List.nil_sublist _), ?_⟩
  intro value clash
  cases clash

theorem emits_reading {next : PlaywrightReelsFeed → FeedProgram α}
    {shows : α → Trace → Prop}
    (continues : ∀ feed, Emits start trace first (next feed) shows) :
    Emits start trace first (read >>= next) shows :=
  fun feed untouched => continues feed feed untouched

theorem Emits.mono {shows weaker : α → Trace → Prop}
    (emits : Emits start trace first program shows)
    (sublist : first.Sublist second)
    (weaken : ∀ value reached, shows value reached → weaker value reached) :
    Emits start trace second program weaker := by
  intro feed untouched
  apply (emits feed untouched).mono
  intro outcome after reached kept
  obtain ⟨untouched, goes, shown⟩ := kept
  exact ⟨untouched, goes.mono sublist, fun value same =>
    weaken value reached (shown value same)⟩

theorem Emits.bind {next : α → FeedProgram β} {middle : α → Trace → Prop}
    {shows : β → Trace → Prop}
    (emits : Emits start trace first program middle)
    (continues : ∀ value reached, middle value reached →
      Emits start reached second (next value) shows) :
    Emits start trace (first ++ second) (program >>= next) shows := by
  intro feed untouched
  apply (emits feed untouched).bind
  · intro value after reached kept
    obtain ⟨untouched, goes, shown⟩ := kept
    apply (continues value reached (shown value rfl) after untouched).mono
    intro outcome last ended kept
    exact ⟨kept.1, goes.trans kept.2.1, kept.2.2⟩
  · intro fault after reached kept
    obtain ⟨untouched, goes, _⟩ := kept
    refine ⟨untouched, goes.mono (List.sublist_append_left _ _), ?_⟩
    intro value clash
    cases clash

theorem Emits.rescue {selects : CollectorFault → Bool}
    {handler : CollectorFault → FeedProgram α} {shows : α → Trace → Prop}
    (emits : Emits start trace first program shows)
    (handles : ∀ fault reached, Emits start reached [] (handler fault) shows) :
    Emits start trace first (program.rescue selects handler) shows := by
  intro feed untouched
  apply (emits feed untouched).rescue
  · intro value after reached kept
    exact kept
  · intro fault after reached kept _
    obtain ⟨untouched, goes, _⟩ := kept
    apply (handles fault reached after untouched).mono
    intro outcome last ended kept
    have whole := goes.trans kept.2.1
    rw [List.append_nil] at whole
    exact ⟨kept.1, whole, kept.2.2⟩
  · intro fault after reached kept _
    exact kept

theorem emits_steady (steady : ∀ trace, Steady (Untouched start trace) program) :
    Emits start trace [] program fun _ reached => reached = trace := by
  intro feed untouched
  apply (steady trace trace feed untouched).mono
  intro outcome after reached kept
  obtain ⟨operated, rfl, same⟩ := kept
  exact ⟨⟨operated, rfl, same⟩, Goes.refl _, fun _ _ => rfl⟩

theorem Emits.ensure {cleanup : FeedProgram Unit} {shows : α → Trace → Prop}
    (emits : Emits start trace first program shows)
    (steady : ∀ trace, Steady (Untouched start trace) cleanup) :
    Emits start trace first (program.ensure cleanup) shows := by
  intro feed untouched
  apply (emits feed untouched).ensure
  intro outcome after reached kept
  obtain ⟨untouched, goes, shown⟩ := kept
  apply (steady reached reached after untouched).mono
  intro cleaned last ended held
  obtain ⟨operated, rfl, same⟩ := held
  cases cleaned with
  | ok _ => exact ⟨⟨operated, rfl, same⟩, goes, shown⟩
  | error fault =>
      refine ⟨⟨operated, rfl, same⟩, goes, ?_⟩
      intro value clash
      cases clash

theorem emits_input {request : PageCall} {input : Input}
    (sends : ∀ (trace : Trace) reply, trace.note request reply =
      { trace with inputs := input :: trace.inputs }) :
    Emits start trace [input] (onPage request) fun _ reached =>
      reached = { trace with inputs := input :: trace.inputs } := by
  intro feed untouched
  apply (onPage_leaves (untouched_undisturbed start trace) request
    untouched).mono
  intro outcome after reached kept
  obtain ⟨before, ⟨operated, rfl, same⟩, rfl⟩ := kept
  rw [sends]
  refine ⟨⟨operated, rfl, same⟩, ?_, fun _ _ => rfl⟩
  exact ⟨rfl, List.suffix_rfl, [input], rfl, List.Sublist.refl _⟩

theorem activeMediaIdentity_emits :
    Emits start trace [] activeMediaIdentity fun current reached =>
      reached = { trace with identities := current :: trace.identities } := by
  apply emits_reading
  intro feed now untouched
  apply (onPage_leaves (untouched_undisturbed start trace)
    (.mediaIdentity feed.page) untouched).attempt
  intro reply after reached kept
  obtain ⟨before, ⟨operated, rfl, same⟩, rfl⟩ := kept
  have goes : Goes [] before
      (before.note (.mediaIdentity feed.page) reply) :=
    ⟨rfl, List.suffix_cons _ _, [], rfl, List.Sublist.refl _⟩
  have seen : ∀ current, identityOf reply = current →
      before.note (.mediaIdentity feed.page) reply =
        { before with identities := current :: before.identities } := by
    intro current noted
    rw [← noted]
    rfl
  have returned : ∀ current, identityOf reply = current →
      Leaves tracing (before.note (.mediaIdentity feed.page) reply) after
        (pure current : FeedProgram (Option String))
        fun outcome after reached => Untouched start reached after reached ∧
          Goes [] before reached ∧ ∀ value, outcome = .ok value →
            reached =
              { before with identities := value :: before.identities } := by
    intro current noted
    apply leaves_pure
    refine ⟨⟨operated, rfl, same⟩, goes, ?_⟩
    intro value equal
    cases equal
    exact seen _ noted
  cases reply with
  | ok result => exact returned _ rfl
  | error fault =>
      dsimp only
      split
      · exact returned none rfl
      · apply leaves_raise
        refine ⟨⟨operated, rfl, same⟩, goes, ?_⟩
        intro value clash
        cases clash

def Moved (previousIdentity : String) (trace : Trace) : Prop :=
  ∃ seen rest, seen ≠ previousIdentity ∧
    trace.identities = some seen :: some seen :: rest

def Seen (previousIdentity : String) (stableIdentity : Option String)
    (trace : Trace) : Prop :=
  ∀ seen ∈ stableIdentity, seen ≠ previousIdentity ∧
    trace.identities.head? = some (some seen)

abbrev Tries (start : PlaywrightReelsFeed) (trace : Trace)
    (sends : List Input) (previousIdentity : String)
    (program : FeedProgram Bool) : Prop :=
  Emits start trace sends program fun changed reached =>
    changed = true → Moved previousIdentity reached

theorem tries_false {previousIdentity : String} :
    Tries start trace first previousIdentity (pure false) := by
  apply emits_pure
  intro clash
  cases clash

theorem mediaTransition_emits (previousIdentity : String) (polls : Nat)
    (stableIdentity : Option String)
    (seen : Seen previousIdentity stableIdentity trace) :
    Tries start trace [] previousIdentity
      (mediaTransition previousIdentity polls stableIdentity) := by
  induction polls generalizing stableIdentity trace with
  | zero => exact tries_false
  | succ polls ih =>
      have opened : Emits start trace [] raiseIfClosed
          fun _ reached => reached = trace :=
        emits_steady fun _ =>
          raiseIfClosed_steady (untouched_undisturbed start _)
      apply opened.bind
      intro _ reached same
      subst same
      apply activeMediaIdentity_emits.bind
      intro current reached same
      subst same
      dsimp only
      split
      · rename_i agreed
        apply emits_pure
        intro _
        simp only [Bool.and_eq_true, decide_eq_true_eq] at agreed
        obtain ⟨changed, stable⟩ := agreed
        obtain ⟨identity, present⟩ := Option.isSome_iff_exists.mp changed
        obtain ⟨other, head⟩ := seen identity (stable ▸ present)
        obtain ⟨rfl, _⟩ := Option.filter_eq_some_iff.mp present
        obtain ⟨rest, shape⟩ := List.head?_eq_some_iff.mp head
        refine ⟨identity, rest, other, ?_⟩
        rw [shape]
      · apply emits_reading
        intro feed
        have waited : Emits start
            { reached with identities := current :: reached.identities } []
            (onPage (.waitForTimeout feed.page)) fun _ last =>
              last = { reached with
                identities := current :: reached.identities } :=
          emits_steady fun _ =>
            onPage_steady (untouched_undisturbed start _) rfl
        apply waited.bind
        intro _ last same
        subst same
        apply ih
        intro identity member
        obtain ⟨rfl, differs⟩ := Option.filter_eq_some_iff.mp member
        exact ⟨of_decide_eq_true differs, rfl⟩

theorem waitForMediaTransition_emits (previousIdentity : String)
    (micros : Nat) :
    Tries start trace [] previousIdentity
      (waitForMediaTransition previousIdentity micros) := by
  apply emits_reading
  intro feed
  apply mediaTransition_emits
  intro seen clash
  cases clash

theorem closedOr_emits {otherwise : CollectorFault → FeedProgram α}
    {shows : α → Trace → Prop} (fault : CollectorFault)
    (emits : ∀ fault trace, Emits start trace [] (otherwise fault) shows) :
    Emits start trace [] (closedOr otherwise fault) shows := by
  have asked : Emits start trace [] pageIsClosed
      fun _ reached => reached = trace :=
    emits_steady fun _ => pageIsClosed_steady (untouched_undisturbed _ _)
  apply asked.bind
  intro closed reached _
  split
  · exact emits_raise _
  · exact emits fault reached

theorem targetedWheelPoint_steady (trace : Trace) :
    Steady (Untouched start trace) targetedWheelPoint := by
  apply keeps_read.bind
  intro feed
  apply Stateful.Keeps.bind
  · apply (onPage_steady (untouched_undisturbed start trace) rfl).rescue
    intro fault
    apply closedOr_steady (untouched_undisturbed start trace)
    intro _
    exact keeps_pure _
  · intro target
    cases target with
    | none => exact keeps_pure _
    | some target =>
        dsimp only
        split
        · exact keeps_pure _
        · exact keeps_pure _

theorem activeFeedInputTarget_steady (trace : Trace) :
    Steady (Untouched start trace) activeFeedInputTarget := by
  apply keeps_read.bind
  intro feed
  apply Stateful.Keeps.bind
  · apply (onPage_steady (untouched_undisturbed start trace) rfl).rescue
    intro fault
    apply closedOr_steady (untouched_undisturbed start trace)
    intro _
    exact keeps_pure _
  · intro target
    cases target with
    | none => exact keeps_pure _
    | some target =>
        dsimp only
        split
        · exact keeps_pure _
        · split
          · split
            · exact keeps_pure _
            · exact keeps_pure _
          · exact keeps_pure _

theorem pointerWheelAdvance_emits :
    Emits start trace wheelInputs pointerWheelAdvance fun _ reached =>
      reached.inputs = .mouseWheel :: .mouseMove :: trace.inputs := by
  have pointed : Emits start trace [] targetedWheelPoint
      fun _ reached => reached = trace :=
    emits_steady targetedWheelPoint_steady
  apply pointed.bind
  intro point reached same
  subst same
  cases point with
  | none => exact emits_raise _
  | some point =>
      apply emits_reading
      intro feed
      have faulted : ∀ fault now, Emits start now [] (closedOr raise fault)
          fun (_ : Unit) last =>
            last.inputs = .mouseWheel :: .mouseMove :: reached.inputs := by
        intro fault now
        apply closedOr_emits
        intro _ _
        exact emits_raise _
      apply Emits.rescue _ faulted
      apply (emits_input fun _ _ => rfl).bind
      intro _ now same
      subst same
      apply (emits_input fun _ _ => rfl).mono (List.Sublist.refl _)
      intro _ last same
      rw [same]

theorem closedOr_false_emits {shows : Bool → Trace → Prop}
    (fault : CollectorFault) (holds : ∀ trace, shows false trace) :
    Emits start trace [] (closedOr (fun _ => pure false) fault) shows := by
  apply closedOr_emits
  intro _ trace
  exact emits_pure (holds trace)

theorem swipe_emits (x startY endY : Rat) :
    Emits start trace swipeInputs (swipe x startY endY) fun _ _ => True := by
  apply emits_reading
  intro feed
  split
  · exact emits_pure trivial
  have opened : Emits start trace []
      ((onPage (.newCdpSession feed.page)).rescue (·.isException)
        (closedOr fun _ => pure false)) fun _ reached => reached = trace := by
    apply emits_steady
    intro trace
    apply (onPage_steady (untouched_undisturbed start trace) rfl).rescue
    intro fault
    apply closedOr_steady (untouched_undisturbed start trace)
    intro _
    exact keeps_pure _
  apply opened.bind
  intro session reached same
  subst same
  split
  · apply Emits.ensure
    · apply Emits.rescue
      · apply (emits_input fun _ _ => rfl).bind
        intro _ now _
        apply (emits_input fun _ _ => rfl).bind
        intro _ now _
        apply (emits_input fun _ _ => rfl).bind
        intro _ now _
        exact emits_pure trivial
      · intro fault now
        exact closedOr_false_emits fault fun _ => trivial
    · intro trace
      apply (onPage_steady (untouched_undisturbed start trace) rfl).rescue
      intro _
      exact keeps_pure _
  · exact emits_pure trivial

theorem mobileFeedSwipeAdvances_emits (previousIdentity : String) :
    Tries start trace swipeInputs previousIdentity
      (mobileFeedSwipeAdvances previousIdentity) := by
  have aimed : Emits start trace [] activeFeedInputTarget
      fun _ reached => reached = trace :=
    emits_steady activeFeedInputTarget_steady
  apply aimed.bind
  intro target reached _
  cases target with
  | none => exact tries_false
  | some target =>
      apply (swipe_emits _ _ _).bind
      intro sent now _
      split
      · exact waitForMediaTransition_emits previousIdentity 5000000
      · exact tries_false

theorem pressed_emits (key : Key) :
    Emits start trace [.press key] (pressed key) fun _ _ => True := by
  apply emits_reading
  intro feed
  apply Emits.rescue
  · apply (emits_input fun _ _ => rfl).bind
    intro _ now _
    exact emits_pure trivial
  · intro fault now
    exact closedOr_false_emits fault fun _ => trivial

theorem keyboardAdvances_emits (previousIdentity : String) :
    Tries start trace keyInputs previousIdentity
      (keyboardAdvances previousIdentity) := by
  apply emits_reading
  intro feed
  have found : Emits start trace [] (ask (.keyboard feed.page))
      fun _ reached => reached = trace :=
    emits_steady fun _ => ask_steady (untouched_undisturbed _ _) rfl
  apply found.bind
  intro available reached _
  split
  · exact tries_false
  apply (pressed_emits .arrowDown).bind
  intro sent reached _
  split
  · exact tries_false
  apply (waitForMediaTransition_emits previousIdentity 4000000).bind
  intro changed reached moved
  split
  · rename_i confirmed
    exact emits_pure fun _ => moved confirmed
  apply (pressed_emits .pageDown).bind
  intro sent reached _
  split
  · exact tries_false
  · exact waitForMediaTransition_emits previousIdentity 4000000

def gestureInputs : List Input := swipeInputs ++ keyInputs

theorem inputAdvances_emits (identity : Option String) :
    Emits start trace gestureInputs (inputAdvances identity)
      fun changed reached => changed = true →
        ∃ previousIdentity, identity = some previousIdentity ∧
          Moved previousIdentity reached := by
  cases identity with
  | none =>
      apply emits_pure
      intro clash
      cases clash
  | some previousIdentity =>
      apply (mobileFeedSwipeAdvances_emits previousIdentity).bind
      intro changed reached moved
      split
      · rename_i confirmed
        exact emits_pure fun _ => ⟨previousIdentity, rfl, moved confirmed⟩
      · apply (keyboardAdvances_emits previousIdentity).mono
          (List.Sublist.refl _)
        intro changed last moved confirmed
        exact ⟨previousIdentity, rfl, moved confirmed⟩

end

def Ended (after : PlaywrightReelsFeed) (earlier trace : Trace) : Prop :=
  after.transitionMediaConfirmed = true ∧ Goes gestureInputs earlier trace ∧
      (∃ identity, after.transitionMediaIdentity = some identity ∧
        Moved identity trace) ∨
    after.transitionMediaConfirmed = false ∧
      ∃ rest, trace.inputs = .mouseWheel :: .mouseMove :: rest

def allowedInputs (before : PlaywrightReelsFeed) : List Input :=
  if before.forcePointerWheelNextAdvance then wheelInputs
  else gestureInputs ++ wheelInputs

structure AdvanceLaws (before : PlaywrightReelsFeed) (earlier : Trace)
    (outcome : Except CollectorFault Unit) (after : PlaywrightReelsFeed)
    (trace : Trace) : Prop where
  operated : Operated after
  limits : after.limits = before.limits
  sent : Goes (allowedInputs before) earlier trace
  counted : outcome = .ok () →
    before.scrollAttempts < before.limits.maximumScrollAttempts ∧
      after.scrollAttempts = before.scrollAttempts + 1 ∧
      after.forcePointerWheelNextAdvance = false
  ended : outcome = .ok () → Ended after earlier trace ∧
    after.transitionMediaIdentity :: earlier.identities <:+ trace.identities
  uncounted : ∀ fault, outcome = .error fault →
    after.scrollAttempts = before.scrollAttempts

structure Underway (before : PlaywrightReelsFeed) (earlier : Trace)
    (identity : Option String) (sends : List Input)
    (now : PlaywrightReelsFeed) (trace : Trace) : Prop where
  operated : Operated now
  limits : now.limits = before.limits
  attempts : now.scrollAttempts = before.scrollAttempts
  within : before.scrollAttempts < before.limits.maximumScrollAttempts
  unforced : now.forcePointerWheelNextAdvance = false
  unconfirmed : now.transitionMediaConfirmed = false
  known : now.transitionMediaIdentity = identity
  goes : Goes sends earlier trace
  looked : identity :: earlier.identities <:+ trace.identities

section

variable {before now after : PlaywrightReelsFeed} {earlier trace : Trace}
variable {reached : Trace} {identity : Option String}
variable {sends more : List Input}

namespace Underway

theorem further (underway : Underway before earlier identity sends now trace)
    (untouched : Untouched now reached after reached)
    (goes : Goes more trace reached) :
    Underway before earlier identity (sends ++ more) after reached := by
  obtain ⟨operated, _, same⟩ := untouched
  exact {
    operated
    limits := by rw [same]; exact underway.limits
    attempts := by rw [same]; exact underway.attempts
    within := underway.within
    unforced := by rw [same]; exact underway.unforced
    unconfirmed := by rw [same]; exact underway.unconfirmed
    known := by rw [same]; exact underway.known
    goes := underway.goes.trans goes
    looked := underway.looked.trans goes.looked }

theorem raised (underway : Underway before earlier identity sends now trace)
    (allowed : sends.Sublist (allowedInputs before)) (fault : CollectorFault) :
    AdvanceLaws before earlier (.error fault) now trace where
  operated := underway.operated
  limits := underway.limits
  sent := underway.goes.mono allowed
  counted := fun clash => by cases clash
  ended := fun clash => by cases clash
  uncounted := fun _ _ => underway.attempts

theorem scrolled_leaves
    (underway : Underway before earlier identity sends now trace)
    (allowed : sends.Sublist (allowedInputs before)) (confirmed : Bool)
    (ended : Ended { now with transitionMediaConfirmed := confirmed }
      earlier trace) :
    Leaves tracing trace now (scrolled confirmed)
      (AdvanceLaws before earlier) := by
  apply leaves_write
  exact {
    operated := underway.operated
    limits := underway.limits
    sent := underway.goes.mono allowed
    counted := fun _ => ⟨underway.within,
      congrArg (· + 1) underway.attempts, underway.unforced⟩
    ended := by
      intro _
      constructor
      · simpa only [Ended, underway.unconfirmed, Bool.false_or] using ended
      · rw [underway.known]
        exact underway.looked
    uncounted := fun _ clash => by cases clash }

theorem wheeled_leaves
    (underway : Underway before earlier identity sends now trace)
    (allowed : (sends ++ wheelInputs).Sublist (allowedInputs before)) :
    Leaves tracing trace now (do pointerWheelAdvance; scrolled false)
      (AdvanceLaws before earlier) := by
  have wheeled : Emits now trace wheelInputs pointerWheelAdvance
      fun _ reached =>
        reached.inputs = .mouseWheel :: .mouseMove :: trace.inputs :=
    pointerWheelAdvance_emits
  apply (wheeled now ⟨underway.operated, rfl, rfl⟩).bind
  · intro _ after reached kept
    obtain ⟨untouched, goes, turned⟩ := kept
    apply (underway.further untouched goes).scrolled_leaves allowed
    exact .inr ⟨rfl, trace.inputs, turned () rfl⟩
  · intro fault after reached kept
    obtain ⟨untouched, goes, _⟩ := kept
    exact (underway.further untouched goes).raised allowed fault

theorem gestured_leaves
    (underway : Underway before earlier identity [] now trace)
    (unforced : before.forcePointerWheelNextAdvance = false) :
    Leaves tracing trace now (do
      if ← inputAdvances identity then scrolled true
      else
        pointerWheelAdvance
        scrolled false) (AdvanceLaws before earlier) := by
  have every : allowedInputs before = gestureInputs ++ wheelInputs := by
    rw [allowedInputs, unforced]
    rfl
  have allowed : gestureInputs.Sublist (allowedInputs before) := by
    rw [every]
    exact List.sublist_append_left _ _
  have tried : Emits now trace gestureInputs (inputAdvances identity)
      fun changed reached => changed = true →
        ∃ previousIdentity, identity = some previousIdentity ∧
          Moved previousIdentity reached :=
    inputAdvances_emits identity
  apply (tried now ⟨underway.operated, rfl, rfl⟩).bind
  · intro changed after reached kept
    obtain ⟨untouched, goes, moved⟩ := kept
    have later := underway.further untouched goes
    cases changed with
    | true =>
        obtain ⟨previous, known, shown⟩ := moved true rfl rfl
        apply later.scrolled_leaves allowed
        exact .inl ⟨rfl, later.goes, previous, later.known.trans known, shown⟩
    | false =>
        apply later.wheeled_leaves
        rw [every]
        exact List.Sublist.refl _
  · intro fault after reached kept
    obtain ⟨untouched, goes, _⟩ := kept
    exact (underway.further untouched goes).raised allowed fault

end Underway

theorem unready_raised (untouched : Untouched before trace after trace)
    (goes : Goes [] earlier trace) (fault : CollectorFault) :
    AdvanceLaws before earlier (.error fault) after trace := by
  obtain ⟨operated, _, same⟩ := untouched
  exact {
    operated
    limits := by rw [same]
    sent := goes.mono (List.nil_sublist _)
    counted := fun clash => by cases clash
    ended := fun clash => by cases clash
    uncounted := fun _ _ => by rw [same] }

theorem advance_leaves (operated : Operated before) :
    Leaves tracing earlier before advance (AdvanceLaws before earlier) := by
  have opened : Emits before earlier [] raiseIfClosed
      fun _ reached => reached = earlier :=
    emits_steady fun _ => raiseIfClosed_steady (untouched_undisturbed _ _)
  apply (opened before ⟨operated, rfl, rfl⟩).bind
  · intro _ now reached kept
    obtain ⟨untouched, goes, same⟩ := kept
    obtain rfl := same () rfl
    have limits : now.limits = before.limits := by rw [untouched.2.2]
    have attempts : now.scrollAttempts = before.scrollAttempts := by
      rw [untouched.2.2]
    have forced : now.forcePointerWheelNextAdvance =
        before.forcePointerWheelNextAdvance := by rw [untouched.2.2]
    apply leaves_reading
    split
    · exact leaves_raise (unready_raised untouched goes _)
    rename_i within
    rw [limits, attempts, Nat.not_le] at within
    have looked : Emits before reached [] activeMediaIdentity
        fun current last => last =
          { reached with identities := current :: reached.identities } :=
      activeMediaIdentity_emits
    apply (looked now untouched).bind
    · intro identity last ended kept
      obtain ⟨here, further, same⟩ := kept
      have gone : Goes [] reached ended := goes.trans further
      have first : identity :: reached.identities <:+ ended.identities := by
        rw [same identity rfl]
      have limits : last.limits = before.limits := by rw [here.2.2]
      have attempts : last.scrollAttempts = before.scrollAttempts := by
        rw [here.2.2]
      apply leaves_writing
      split
      · rename_i force
        rw [forced] at force
        have every : allowedInputs before = wheelInputs := by
          rw [allowedInputs, force]
          rfl
        apply leaves_writing
        apply @Underway.wheeled_leaves before _ reached ended identity []
        · exact ⟨here.1, limits, attempts, within, rfl, rfl, rfl, gone, first⟩
        · rw [every]
          exact List.Sublist.refl _
      · rename_i force
        rw [forced, Bool.not_eq_true] at force
        have unforced : last.forcePointerWheelNextAdvance = false := by
          rw [here.2.2]
          exact force
        apply @Underway.gestured_leaves before _ reached ended identity
        · exact ⟨here.1, limits, attempts, within, unforced, rfl, rfl, gone,
            first⟩
        · exact force
    · intro fault last ended kept
      exact unready_raised kept.1 (goes.trans kept.2.1) fault
  · intro fault now reached kept
    exact unready_raised kept.1 kept.2.1 fault

end

end OfflineReels.Collector.PlaywrightReelsFeed.Advances
