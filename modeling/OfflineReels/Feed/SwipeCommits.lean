import Mathlib.Tactic.Linarith
import OfflineReels.Feed.VerticalVideoFeed

namespace OfflineReels.Feed

open OfflineReels.Foundation

/-! A swipe is reported for a gesture of the user, and once for each. -/

def Note.began? : Note → Option Began
  | .began gesture => some gesture
  | _ => none

def Note.reported? : Note → Option Reported
  | .reported swipe => some swipe
  | _ => none

def begunTokens (log : List Note) : List Nat :=
  (log.filterMap Note.began?).map (·.token)

def reportedTokens (log : List Note) : List Nat :=
  (log.filterMap Note.reported?).map (·.token)

/-- A movement beyond the slop, more vertical than horizontal, of the primary
pointer that began on the item while it was active; now it is active and
committed. -/
structure IsSwipe (itemId : ItemId) (began : Began) (moved : Moved) : Prop where
  gesture : moved.token = began.token
  pointer : moved.pointerId = began.pointerId
  primary : began.isPrimary = true
  item : began.itemId = itemId
  whileActive : began.active = some itemId
  active : moved.active = some itemId
  committed : moved.committed = some itemId
  slop : REELS_MOVEMENT_SLOP_PX * REELS_MOVEMENT_SLOP_PX <
    moved.deltaX * moved.deltaX + moved.deltaY * moved.deltaY
  vertical : |moved.deltaX| < |moved.deltaY|

def Observed (log : List Note) (itemId : ItemId) (token time : Nat) : Prop :=
  ∃ later earlier began moved, log = later ++ .moved moved :: earlier ∧
    .began began ∈ earlier ∧ IsSwipe itemId began moved ∧
    moved.token = token ∧ moved.time = time

structure IsReal (earlier : List Note) (reported : Reported) : Prop where
  other : reported.current.id ≠ reported.previous.id
  previous : reported.committed = some reported.previous.id
  swipe : ∃ time,
    Observed earlier reported.previous.id reported.token time ∧
      time ≤ reported.time ∧ reported.time ≤ time + SWIPE_TRANSITION_MS

structure Lawful (log : List Note) : Prop where
  real : ∀ later reported earlier,
    log = later ++ .reported reported :: earlier → IsReal earlier reported
  once : (reportedTokens log).Nodup
  gestures : (begunTokens log).Nodup

theorem Observed.cons {log : List Note} {itemId : ItemId} {token time : Nat}
    (observed : Observed log itemId token time) (note : Note) :
    Observed (note :: log) itemId token time := by
  obtain ⟨later, earlier, began, moved, rfl, facts⟩ := observed
  exact ⟨note :: later, earlier, began, moved, rfl, facts⟩

theorem lawful_nil : Lawful [] where
  real := fun later reported earlier shape => by
    cases later <;> cases shape
  once := List.nodup_nil
  gestures := List.nodup_nil

theorem Lawful.real_cons {log : List Note} {note : Note}
    (lawful : Lawful log)
    (here : ∀ reported, note = .reported reported → IsReal log reported) :
    ∀ later reported earlier,
      note :: log = later ++ .reported reported :: earlier →
        IsReal earlier reported := by
  intro later reported earlier shape
  cases later with
  | nil =>
      cases shape
      exact here reported rfl
  | cons first later =>
      cases shape
      exact lawful.real later reported earlier rfl

theorem Lawful.cons_moved {log : List Note} (lawful : Lawful log)
    (moved : Moved) : Lawful (.moved moved :: log) where
  real := lawful.real_cons fun _ clash => by cases clash
  once := lawful.once
  gestures := lawful.gestures

theorem Lawful.cons_began {log : List Note} (lawful : Lawful log)
    {began : Began} (fresh : began.token ∉ begunTokens log) :
    Lawful (.began began :: log) where
  real := lawful.real_cons fun _ clash => by cases clash
  once := lawful.once
  gestures := List.nodup_cons.mpr ⟨fresh, lawful.gestures⟩

theorem Lawful.cons_reported {log : List Note} (lawful : Lawful log)
    {reported : Reported} (fresh : reported.token ∉ reportedTokens log)
    (real : IsReal log reported) : Lawful (.reported reported :: log) where
  real := lawful.real_cons fun _ same => by
    cases same
    exact real
  once := List.nodup_cons.mpr ⟨fresh, lawful.once⟩
  gestures := lawful.gestures

structure References (clock token : Nat) (gesture : Option ReelsGesture)
    (pending : Option PendingSwipe) (log : List Note) : Prop where
  lawful : Lawful log
  begunBound : ∀ other ∈ begunTokens log, other ≤ token
  reportedBound : ∀ other ∈ reportedTokens log, other ≤ token
  began : ∀ current, gesture = some current →
    .began ⟨current.token, current.itemId, current.pointerId, true,
      some current.itemId⟩ ∈ log ∧ current.token ≤ token
  unreported : ∀ current, gesture = some current →
    current.token ∉ reportedTokens log
  observed : ∀ swipe, pending = some swipe → ∃ time,
    Observed log swipe.sourceItemId swipe.token time ∧ time ≤ clock ∧
      swipe.expiresAt = time + SWIPE_TRANSITION_MS
  waiting : ∀ swipe, pending = some swipe →
    swipe.token ∉ reportedTokens log ∧ swipe.token ≤ token
  apart : ∀ current swipe, gesture = some current → pending = some swipe →
    current.token ≠ swipe.token

section

variable {clock token : Nat} {gesture : Option ReelsGesture}
  {pending : Option PendingSwipe} {log : List Note}

theorem References.finish
    (references : References clock token gesture pending log) :
    References clock (token + 1) none pending log where
  lawful := references.lawful
  begunBound := fun other member =>
    Nat.le_succ_of_le (references.begunBound other member)
  reportedBound := fun other member =>
    Nat.le_succ_of_le (references.reportedBound other member)
  began := nofun
  unreported := nofun
  observed := references.observed
  waiting := fun swipe waits =>
    ⟨(references.waiting swipe waits).1,
      Nat.le_succ_of_le (references.waiting swipe waits).2⟩
  apart := nofun

theorem References.drop
    (references : References clock token gesture pending log) :
    References clock token gesture none log where
  lawful := references.lawful
  begunBound := references.begunBound
  reportedBound := references.reportedBound
  began := references.began
  unreported := references.unreported
  observed := nofun
  waiting := nofun
  apart := nofun

theorem References.tick
    (references : References clock token gesture pending log)
    (elapsed : Nat) :
    References (clock + elapsed) token gesture pending log where
  lawful := references.lawful
  begunBound := references.begunBound
  reportedBound := references.reportedBound
  began := references.began
  unreported := references.unreported
  observed := by
    intro swipe waits
    obtain ⟨time, observed, past, expires⟩ := references.observed swipe waits
    exact ⟨time, observed, Nat.le_add_right_of_le past, expires⟩
  waiting := references.waiting
  apart := references.apart

theorem References.start
    (references : References clock token none none log)
    (current : ReelsGesture) (own : current.token = token + 1) :
    References clock (token + 1) (some current) none
      (.began ⟨current.token, current.itemId, current.pointerId, true,
        some current.itemId⟩ :: log) where
  lawful := by
    refine references.lawful.cons_began fun member => ?_
    have bound := references.begunBound _ member
    dsimp only at bound
    omega
  begunBound := by
    intro other member
    rcases List.mem_cons.mp member with rfl | earlier
    · exact Nat.le_of_eq own
    · exact Nat.le_succ_of_le (references.begunBound other earlier)
  reportedBound := fun other member =>
    Nat.le_succ_of_le (references.reportedBound other member)
  began := by
    intro other same
    cases same
    exact ⟨List.mem_cons_self, Nat.le_of_eq own⟩
  unreported := by
    intro other same member
    cases same
    have bound := references.reportedBound _ member
    omega
  observed := nofun
  waiting := nofun
  apart := nofun

theorem References.move
    (references : References clock token gesture pending log)
    (moved : Moved) :
    References clock token gesture pending (.moved moved :: log) where
  lawful := references.lawful.cons_moved moved
  begunBound := references.begunBound
  reportedBound := references.reportedBound
  began := fun current same =>
    ⟨List.mem_cons_of_mem _ (references.began current same).1,
      (references.began current same).2⟩
  unreported := references.unreported
  observed := by
    intro swipe waits
    obtain ⟨time, observed, past, expires⟩ := references.observed swipe waits
    exact ⟨time, observed.cons _, past, expires⟩
  waiting := references.waiting
  apart := references.apart

theorem References.mark {current : ReelsGesture}
    (references : References clock token (some current) pending log)
    {moved : Moved} (own : moved.token = current.token)
    (pointer : moved.pointerId = current.pointerId)
    (now : moved.time = clock)
    (active : moved.active = some current.itemId)
    (committed : moved.committed = some current.itemId)
    (slop : REELS_MOVEMENT_SLOP_PX * REELS_MOVEMENT_SLOP_PX <
      moved.deltaX * moved.deltaX + moved.deltaY * moved.deltaY)
    (vertical : |moved.deltaX| < |moved.deltaY|) :
    References clock (token + 1) none
      (some ⟨current.itemId, current.token, clock + SWIPE_TRANSITION_MS⟩)
      (.moved moved :: log) := by
  obtain ⟨began, bound⟩ := references.began current rfl
  have finished := (references.move moved).finish
  have swipe : IsSwipe current.itemId
      ⟨current.token, current.itemId, current.pointerId, true,
        some current.itemId⟩ moved :=
    ⟨own, pointer, rfl, rfl, rfl, active, committed, slop, vertical⟩
  constructor
  · exact finished.lawful
  · exact finished.begunBound
  · exact finished.reportedBound
  · nofun
  · nofun
  · intro other same
    cases same
    exact ⟨clock, ⟨[], log, _, moved, rfl, began, swipe, own, now⟩,
      Nat.le_refl _, rfl⟩
  · intro other same
    cases same
    exact ⟨references.unreported current rfl, Nat.le_succ_of_le bound⟩
  · nofun

theorem References.report {swipe : PendingSwipe} {reported : Reported}
    (references : References clock token gesture (some swipe) log)
    (own : reported.token = swipe.token)
    (source : swipe.sourceItemId = reported.previous.id)
    (now : reported.time = clock) (inTime : clock ≤ swipe.expiresAt)
    (other : reported.current.id ≠ reported.previous.id)
    (previous : reported.committed = some reported.previous.id) :
    References clock token gesture none (.reported reported :: log) where
  lawful := by
    obtain ⟨time, observed, past, expires⟩ := references.observed swipe rfl
    refine references.lawful.cons_reported ?_
      ⟨other, previous, time, ?_, ?_, ?_⟩
    · rw [own]
      exact (references.waiting swipe rfl).1
    · rw [own, ← source]
      exact observed
    · omega
    · omega
  begunBound := references.begunBound
  reportedBound := by
    intro token member
    rcases List.mem_cons.mp member with rfl | earlier
    · dsimp only
      rw [own]
      exact (references.waiting swipe rfl).2
    · exact references.reportedBound token earlier
  began := fun current same =>
    ⟨List.mem_cons_of_mem _ (references.began current same).1,
      (references.began current same).2⟩
  unreported := by
    intro current same member
    rcases List.mem_cons.mp member with here | earlier
    · exact references.apart current swipe same rfl (here.trans own)
    · exact references.unreported current same earlier
  observed := nofun
  waiting := nofun
  apart := nofun

end

namespace FeedState

def Sound (state : FeedState) : Prop :=
  References state.clock state.reelsGestureTokenRef state.reelsGestureRef
    state.pendingSwipeTransitionRef state.log

section

variable {state : FeedState}

theorem sound_initial (controlsMode : ControlsMode)
    (items : List VerticalVideoFeedItem) (clock : Nat) :
    Sound (initial controlsMode items clock) where
  lawful := lawful_nil
  begunBound := nofun
  reportedBound := nofun
  began := nofun
  unreported := nofun
  observed := nofun
  waiting := nofun
  apart := nofun

theorem Sound.finish (sound : Sound state) : Sound state.finishReelsGesture :=
  References.finish sound

theorem Sound.cancel (sound : Sound state) : Sound state.cancelReelsGesture :=
  sound.finish

theorem Sound.pointerDown (sound : Sound state) (event : PointerEvent)
    (itemId : ItemId) : Sound (state.handleReelsPointerDown event itemId) := by
  unfold handleReelsPointerDown
  split
  · exact sound
  · rename_i accepted
    simp only [not_or, not_not, Bool.not_eq_false] at accepted
    obtain ⟨_, primary, _, active⟩ := accepted
    split
    · exact sound.finish
    · rename_i video _
      have begun := References.start (References.drop (References.finish sound))
        ⟨itemId, video, event.pointerId, state.reelsGestureTokenRef + 1 + 1,
          event.clientX, event.clientY, true⟩ rfl
      unfold Sound beginReelsGesture finishReelsGesture
      dsimp only
      rw [primary, active]
      exact begun

theorem Sound.pointerMove (sound : Sound state) (event : PointerEvent) :
    Sound (state.handleReelsPointerMove event) := by
  unfold handleReelsPointerMove
  split
  · exact sound
  · rename_i gesture current
    split
    · exact sound
    · rename_i pointer
      rw [not_not] at pointer
      have references := sound
      unfold Sound at references
      rw [current] at references
      have moved : Sound (state.noteMove gesture event) := by
        unfold Sound noteMove note
        dsimp only
        rw [current]
        exact references.move _
      dsimp only
      split
      · exact moved
      · rename_i slop
        split
        · rename_i swipe
          obtain ⟨vertical, committed, active⟩ := swipe
          exact references.mark rfl pointer.symm rfl active committed
            (lt_of_not_ge slop) vertical
        · exact moved.cancel

theorem Sound.pointerUp (sound : Sound state) (event : PointerEvent)
    (itemId : ItemId) : Sound (state.handleReelsPointerUp event itemId) := by
  unfold handleReelsPointerUp
  split
  · exact sound
  · split
    · exact sound
    · exact sound.finish

theorem Sound.pointerCancel (sound : Sound state) (event : PointerEvent) :
    Sound (state.handleReelsPointerCancellation event) := by
  unfold handleReelsPointerCancellation
  split
  · exact sound
  · split
    · exact sound
    · exact sound.cancel

theorem Sound.holdTimer (sound : Sound state) (timer : HoldTimer) :
    Sound (state.handleHoldTimer timer) := by
  have cleared : Sound { state with
      timers := state.timers.filter (·.token ≠ timer.token) } := sound
  unfold handleHoldTimer
  dsimp only
  split
  · exact cleared.finish
  · rename_i gesture current
    split
    · exact cleared.finish
    · have references := sound
      unfold Sound at references
      rw [current] at references
      constructor
      · exact references.lawful
      · exact references.begunBound
      · exact references.reportedBound
      · intro other same
        cases same
        exact references.began gesture rfl
      · intro other same
        cases same
        exact references.unreported gesture rfl
      · exact references.observed
      · exact references.waiting
      · intro other swipe same waits
        cases same
        exact references.apart gesture swipe rfl waits

theorem Sound.setCurrentActive (sound : Sound state)
    (items : List VerticalVideoFeedItem) (itemId : Option ItemId) :
    Sound (state.setCurrentActiveItemId items itemId) := by
  unfold setCurrentActiveItemId
  split
  · exact sound.cancel
  · exact sound

theorem Sound.selectActive (sound : Sound state)
    (items : List VerticalVideoFeedItem) (geometry : Geometry) :
    Sound (state.selectActiveItemFromRatios items geometry) := by
  unfold selectActiveItemFromRatios
  dsimp only
  split
  · exact sound
  · split <;> split
    · exact sound.setCurrentActive _ _
    · split <;> exact sound.setCurrentActive _ _
    · exact sound.setCurrentActive _ _
    · exact sound.setCurrentActive _ _

theorem Sound.commit (sound : Sound state) (itemId : ItemId) :
    Sound (state.commitFullscreenItem itemId) := by
  unfold commitFullscreenItem
  split
  · exact sound
  · rename_i accepted
    simp only [not_or, not_not] at accepted
    obtain ⟨_, uncommitted⟩ := accepted
    split
    · exact sound
    · rename_i previousId committed
      unfold reportSwipe
      split
      · rename_i previous current swipe foundPrevious foundCurrent waits
        dsimp only
        split
        · rename_i fits
          obtain ⟨source, inTime⟩ := fits
          have samePrevious : previous.id = previousId := by
            simpa using List.find?_some foundPrevious
          have sameCurrent : current.id = itemId := by
            simpa using List.find?_some foundCurrent
          have references := sound
          unfold Sound at references
          rw [waits] at references
          refine references.report rfl source rfl inTime ?_ ?_
          · intro same
            rw [committed, ← samePrevious, ← sameCurrent, same]
              at uncommitted
            exact uncommitted rfl
          · rw [samePrevious, ← committed]
        · exact References.drop sound
      · exact References.drop sound

theorem Sound.intersection (sound : Sound state)
    (items : List VerticalVideoFeedItem) (entries : List IntersectionEntry)
    (geometry : Geometry) :
    Sound (state.handleIntersection items entries geometry) := by
  have read : Sound { state with
      intersectionRatios :=
        entries.foldl (readEntry geometry) state.intersectionRatios } := sound
  have selected := read.selectActive items geometry
  unfold handleIntersection
  dsimp only
  generalize entries.filterMap (fullscreenItemId geometry) = itemIds
  revert selected
  generalize selectActiveItemFromRatios _ items geometry = current
  intro selected
  induction itemIds generalizing current with
  | nil => exact selected
  | cons itemId itemIds ih => exact ih _ (selected.commit itemId)

theorem Sound.scroll (sound : Sound state) : Sound state.handleScroll := by
  have requested {other : FeedState} (holds : Sound other) :
      Sound { other with hasAnimationFrame := true } := holds
  unfold handleScroll
  by_cases reels : state.controlsMode = .reels
  · rw [if_pos reels]
    dsimp only
    split
    · exact requested sound.cancel
    · exact sound.cancel
  · rw [if_neg reels]
    dsimp only
    split
    · exact requested sound
    · exact sound

theorem Sound.frame (sound : Sound state)
    (items : List VerticalVideoFeedItem) (geometry : Geometry) :
    Sound (state.handleFrame items geometry) := by
  have cleared : Sound { state with hasAnimationFrame := false } := sound
  unfold handleFrame
  dsimp only
  split
  · exact sound
  · split
    · exact sound
    · exact cleared.setCurrentActive _ _

theorem Sound.observeItems (sound : Sound state) (isMounted : Bool) :
    Sound (state.observeItems isMounted) := by
  unfold FeedState.observeItems
  dsimp only
  split
  · exact sound
  · split
    · apply Sound.setCurrentActive
      exact sound
    · exact sound

theorem sound_next {event : FeedEvent} {after : FeedState}
    (sound : Sound state) (stepped : state.next event = some after) :
    Sound after := by
  cases event with
  | render controlsMode items =>
      cases stepped
      exact sound
  | activeEffect =>
      simp only [next, runActiveEffect] at stepped
      split at stepped <;> cases stepped
      exact sound
  | itemsEffect isMounted =>
      cases stepped
      exact sound.observeItems isMounted
  | itemRef itemId isMounted =>
      cases stepped
      exact sound
  | videoRef itemId element =>
      cases stepped
      exact sound
  | intersection entries geometry =>
      obtain ⟨items, _, rfl⟩ := Option.map_eq_some_iff.mp stepped
      exact sound.intersection items entries geometry
  | scroll =>
      cases stepped
      exact sound.scroll
  | frame geometry =>
      simp only [next] at stepped
      split at stepped
      · obtain ⟨items, _, rfl⟩ := Option.map_eq_some_iff.mp stepped
        exact sound.frame items geometry
      · cases stepped
  | pointerDown event itemId =>
      cases stepped
      exact sound.pointerDown event itemId
  | pointerMove event =>
      cases stepped
      exact sound.pointerMove event
  | pointerUp event itemId =>
      cases stepped
      exact sound.pointerUp event itemId
  | pointerCancel event =>
      cases stepped
      exact sound.pointerCancel event
  | holdTimer token =>
      simp only [next, fireHoldTimer] at stepped
      split at stepped <;> cases stepped
      exact sound.holdTimer _
  | play itemId =>
      simp only [next] at stepped
      split at stepped <;> cases stepped
      exact sound.setCurrentActive _ _
  | lifecycle =>
      cases stepped
      exact sound.cancel
  | tick elapsed =>
      cases stepped
      exact References.tick sound elapsed

end

/-- In every run each reported swipe is a real one, and a gesture reports one
at most. -/
theorem reported_swipes_lawful (controlsMode : ControlsMode)
    (items : List VerticalVideoFeedItem) (clock : Nat)
    (events : List FeedEvent) (state : FeedState)
    (ran : run next (initial controlsMode items clock) events = some state) :
    Lawful state.log := by
  have sound : Sound state :=
    run_invariant
      (fun before event after holds _ stepped => sound_next holds stepped)
      (sound_initial controlsMode items clock)
      (meets_true _ events) ran
  exact sound.lawful

def firstItem : VerticalVideoFeedItem := ⟨"first"⟩

def secondItem : VerticalVideoFeedItem := ⟨"second"⟩

def swipedGeometry : Geometry where
  root := some ⟨0, 800⟩
  item := fun itemId => if itemId = "first" then ⟨-800, 800⟩ else ⟨0, 800⟩

def swipeRun : List FeedEvent :=
  [.itemRef "first" true, .itemRef "second" true, .videoRef "first" (some 1),
    .activeEffect, .itemsEffect true, .pointerDown ⟨7, true, 0, 200, 600⟩ "first",
    .tick 80, .pointerMove ⟨7, true, 0, 204, 560⟩, .tick 320, .scroll,
    .frame swipedGeometry,
    .intersection [⟨some "first", false, 0⟩, ⟨some "second", true, 1⟩]
      swipedGeometry]

theorem swipe_reported :
    ∃ state,
      run next (initial .reels [firstItem, secondItem] 0) swipeRun =
        some state ∧
      state.log.head? =
        some (.reported ⟨2, firstItem, secondItem, some "first", 400⟩) ∧
      Lawful state.log := by
  have computed : (run next (initial .reels [firstItem, secondItem] 0)
      swipeRun).map (·.log.head?) =
        some (some (.reported ⟨2, firstItem, secondItem, some "first", 400⟩)) := by
    decide +kernel
  obtain ⟨state, ran, logged⟩ := Option.map_eq_some_iff.mp computed
  exact ⟨state, ran, logged,
    reported_swipes_lawful .reels [firstItem, secondItem] 0 swipeRun state ran⟩

end FeedState

end OfflineReels.Feed
