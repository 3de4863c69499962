import Mathlib.Data.List.Sort
import Mathlib.Data.Rat.Defs
import Mathlib.Algebra.Order.Ring.Unbundled.Rat
import OfflineReels.Foundation.Transition

namespace OfflineReels.Feed

open OfflineReels.Foundation

/-! The feed of videos: what its pointer, scroll and observer callbacks do to
the references that decide on a swipe.  Playback is left out. -/

def REELS_HOLD_DELAY_MS : Nat := 250
def REELS_MOVEMENT_SLOP_PX : Rat := 12
def FULLSCREEN_COMMIT_RATIO : Rat := 999 / 1000
def FULLSCREEN_COMMIT_TOLERANCE_PX : Rat := 2
def SWIPE_TRANSITION_MS : Nat := 1500

abbrev ItemId : Type := String
abbrev ElementId : Type := Nat
abbrev PointerId : Type := Nat

structure VerticalVideoFeedItem where
  id : ItemId
  deriving DecidableEq, Repr

inductive ControlsMode
  | native
  | reels
  deriving DecidableEq, Repr

structure Rect where
  top : Rat
  height : Rat
  deriving DecidableEq, Repr

def Rect.bottom (rect : Rect) : Rat := rect.top + rect.height

def Rect.center (rect : Rect) : Rat := rect.top + rect.height / 2

/-- Where the feed, if it is mounted, and the items are at an event. -/
structure Geometry where
  root : Option Rect
  item : ItemId → Rect

def Geometry.isEffectivelyFullscreen (geometry : Geometry) (itemId : ItemId)
    (ratio : Rat) : Bool :=
  match geometry.root with
  | none => false
  | some rootRect =>
      let itemRect := geometry.item itemId
      FULLSCREEN_COMMIT_RATIO ≤ ratio &&
        (rootRect.height ≤ 0 || itemRect.height ≤ 0 ||
          (|itemRect.top - rootRect.top| ≤ FULLSCREEN_COMMIT_TOLERANCE_PX &&
            |itemRect.bottom - rootRect.bottom| ≤
              FULLSCREEN_COMMIT_TOLERANCE_PX))

def Geometry.currentIntersectionRatio (geometry : Geometry) (itemId : ItemId)
    (reportedRatio : Rat) : Rat :=
  match geometry.root with
  | none => reportedRatio
  | some rootRect =>
      let itemRect := geometry.item itemId
      if rootRect.height ≤ 0 ∨ itemRect.height ≤ 0 then reportedRatio
      else
        let visibleHeight := max 0 (min itemRect.bottom rootRect.bottom -
          max itemRect.top rootRect.top)
        min 1 (visibleHeight / itemRect.height)

structure PointerEvent where
  pointerId : PointerId
  isPrimary : Bool
  button : Int
  clientX : Rat
  clientY : Rat
  deriving DecidableEq, Repr

structure IntersectionEntry where
  itemId : Option ItemId
  isIntersecting : Bool
  intersectionRatio : Rat
  deriving DecidableEq, Repr

/-- An empty identifier is none. -/
def IntersectionEntry.videoId (entry : IntersectionEntry) : Option ItemId :=
  entry.itemId.filter (· ≠ "")

def IntersectionEntry.reportedRatio (entry : IntersectionEntry) : Rat :=
  if entry.isIntersecting then entry.intersectionRatio else 0

structure ReelsGesture where
  itemId : ItemId
  video : ElementId
  pointerId : PointerId
  token : Nat
  startX : Rat
  startY : Rat
  hasTimer : Bool
  deriving DecidableEq, Repr

structure HoldTimer where
  itemId : ItemId
  video : ElementId
  token : Nat
  due : Nat
  deriving DecidableEq, Repr

structure PendingSwipe where
  sourceItemId : ItemId
  token : Nat
  expiresAt : Nat
  deriving DecidableEq, Repr

/-! What an observer notes of the gestures, the movements of their pointers and
the reported swipes, the latest first. -/

structure Began where
  token : Nat
  itemId : ItemId
  pointerId : PointerId
  isPrimary : Bool
  active : Option ItemId
  deriving DecidableEq, Repr

structure Moved where
  token : Nat
  pointerId : PointerId
  deltaX : Rat
  deltaY : Rat
  active : Option ItemId
  committed : Option ItemId
  time : Nat
  deriving DecidableEq, Repr

structure Reported where
  token : Nat
  previous : VerticalVideoFeedItem
  current : VerticalVideoFeedItem
  committed : Option ItemId
  time : Nat
  deriving DecidableEq, Repr

inductive Note
  | began (began : Began)
  | moved (moved : Moved)
  | reported (reported : Reported)
  deriving DecidableEq, Repr

/-- The properties and the state of the last rendering, the items that the
effects have seen, the references and the timers. -/
structure FeedState where
  controlsMode : ControlsMode
  items : List VerticalVideoFeedItem
  activeItemId : Option ItemId
  lastActiveIndex : Nat
  effectiveActiveItemId : Option ItemId
  appliedActiveItemId : Option (Option ItemId)
  observedItems : Option (List VerticalVideoFeedItem)
  itemRefs : List ItemId
  videoRefs : ItemId → Option ElementId
  intersectionRatios : ItemId → Option Rat
  activeItemIdRef : Option ItemId
  committedItemIdRef : Option ItemId
  reelsGestureRef : Option ReelsGesture
  reelsGestureTokenRef : Nat
  pendingSwipeTransitionRef : Option PendingSwipe
  timers : List HoldTimer
  hasAnimationFrame : Bool
  clock : Nat
  log : List Note

def firstId (items : List VerticalVideoFeedItem) : Option ItemId :=
  items.head?.map (·.id)

namespace FeedState

def note (state : FeedState) (note : Note) : FeedState :=
  { state with log := note :: state.log }

def effectiveActive (activeItemId : Option ItemId) (lastActiveIndex : Nat)
    (items : List VerticalVideoFeedItem) : Option ItemId :=
  if activeItemId ≠ none ∧ items.any (fun item => some item.id = activeItemId)
  then activeItemId
  else items[min lastActiveIndex (items.length - 1)]?.map (·.id)

def initial (controlsMode : ControlsMode) (items : List VerticalVideoFeedItem)
    (clock : Nat) : FeedState where
  controlsMode := controlsMode
  items := items
  activeItemId := none
  lastActiveIndex := 0
  effectiveActiveItemId := effectiveActive none 0 items
  appliedActiveItemId := none
  observedItems := none
  itemRefs := []
  videoRefs := fun _ => none
  intersectionRatios := fun _ => none
  activeItemIdRef := none
  committedItemIdRef := firstId items
  reelsGestureRef := none
  reelsGestureTokenRef := 0
  pendingSwipeTransitionRef := none
  timers := []
  hasAnimationFrame := false
  clock := clock
  log := []

def finishReelsGesture (state : FeedState) : FeedState :=
  { state with
    reelsGestureTokenRef := state.reelsGestureTokenRef + 1
    reelsGestureRef := none
    timers := match state.reelsGestureRef with
      | some gesture =>
          if gesture.hasTimer then
            state.timers.filter (·.token ≠ gesture.token)
          else state.timers
      | none => state.timers }

def cancelReelsGesture (state : FeedState) : FeedState :=
  state.finishReelsGesture

def beginReelsGesture (state : FeedState) (event : PointerEvent)
    (itemId : ItemId) (video : ElementId) : FeedState :=
  let token := state.reelsGestureTokenRef + 1
  { state with
    reelsGestureTokenRef := token
    pendingSwipeTransitionRef := none
    timers := ⟨itemId, video, token, state.clock + REELS_HOLD_DELAY_MS⟩ ::
      state.timers
    reelsGestureRef := some ⟨itemId, video, event.pointerId, token,
      event.clientX, event.clientY, true⟩
    log := .began ⟨token, itemId, event.pointerId, event.isPrimary,
      state.activeItemIdRef⟩ :: state.log }

def handleReelsPointerDown (state : FeedState) (event : PointerEvent)
    (itemId : ItemId) : FeedState :=
  if state.controlsMode ≠ .reels ∨ event.isPrimary = false ∨
      event.button ≠ 0 ∨ state.activeItemIdRef ≠ some itemId then state
  else
    match state.videoRefs itemId with
    | none => state.finishReelsGesture
    | some video => state.finishReelsGesture.beginReelsGesture event itemId video

def noteMove (state : FeedState) (gesture : ReelsGesture)
    (event : PointerEvent) : FeedState :=
  state.note (.moved ⟨gesture.token, event.pointerId,
    event.clientX - gesture.startX, event.clientY - gesture.startY,
    state.activeItemIdRef, state.committedItemIdRef, state.clock⟩)

def markSwipe (state : FeedState) (gesture : ReelsGesture) : FeedState :=
  { state with
    pendingSwipeTransitionRef := some ⟨gesture.itemId, gesture.token,
      state.clock + SWIPE_TRANSITION_MS⟩ }

/-- The distance is compared by its square. -/
def handleReelsPointerMove (state : FeedState) (event : PointerEvent) :
    FeedState :=
  match state.reelsGestureRef with
  | none => state
  | some gesture =>
      if gesture.pointerId ≠ event.pointerId then state
      else
        let deltaX := event.clientX - gesture.startX
        let deltaY := event.clientY - gesture.startY
        let moved := state.noteMove gesture event
        if deltaX * deltaX + deltaY * deltaY ≤
            REELS_MOVEMENT_SLOP_PX * REELS_MOVEMENT_SLOP_PX then moved
        else if |deltaX| < |deltaY| ∧
            state.committedItemIdRef = some gesture.itemId ∧
            state.activeItemIdRef = some gesture.itemId then
          (moved.markSwipe gesture).cancelReelsGesture
        else moved.cancelReelsGesture

/-- In every phase the gesture is over. -/
def handleReelsPointerUp (state : FeedState) (event : PointerEvent)
    (itemId : ItemId) : FeedState :=
  match state.reelsGestureRef with
  | none => state
  | some gesture =>
      if gesture.pointerId ≠ event.pointerId ∨ gesture.itemId ≠ itemId then
        state
      else state.finishReelsGesture

def handleReelsPointerCancellation (state : FeedState)
    (event : PointerEvent) : FeedState :=
  match state.reelsGestureRef with
  | none => state
  | some gesture =>
      if gesture.pointerId ≠ event.pointerId then state
      else state.cancelReelsGesture

/-- The hold goes on where nothing has changed. -/
def handleHoldTimer (state : FeedState) (timer : HoldTimer) : FeedState :=
  let state := { state with
    timers := state.timers.filter (·.token ≠ timer.token) }
  match state.reelsGestureRef with
  | none => state.finishReelsGesture
  | some gesture =>
      if gesture.token ≠ timer.token ∨
          state.reelsGestureTokenRef ≠ timer.token ∨
          state.activeItemIdRef ≠ some timer.itemId ∨
          state.videoRefs timer.itemId ≠ some timer.video then
        state.finishReelsGesture
      else
        { state with reelsGestureRef := some { gesture with hasTimer := false } }

def setCurrentActiveItemId (state : FeedState)
    (items : List VerticalVideoFeedItem) (itemId : Option ItemId) :
    FeedState :=
  let state :=
    if state.activeItemIdRef ≠ itemId then state.cancelReelsGesture else state
  { state with
    activeItemIdRef := itemId
    activeItemId := itemId
    lastActiveIndex :=
      (items.findIdx? fun item => some item.id = itemId).getD
        state.lastActiveIndex }

structure Candidate where
  id : ItemId
  index : Nat
  distance : Rat
  deriving DecidableEq, Repr

def Candidate.precedes (active : Option ItemId) (first second : Candidate) :
    Bool :=
  if first.distance ≠ second.distance then first.distance < second.distance
  else if some first.id = active then true
  else if some second.id = active then false
  else first.index ≤ second.index

def closestItemToFeedCenter (state : FeedState)
    (items : List VerticalVideoFeedItem) (geometry : Geometry) :
    Option ItemId :=
  geometry.root.bind fun rootRect =>
    let candidates := items.zipIdx.filterMap fun (item, index) =>
      if item.id ∈ state.itemRefs then
        some (Candidate.mk item.id index
          |(geometry.item item.id).center - rootRect.center|)
      else none
    (candidates.insertionSort fun first second =>
      first.precedes state.activeItemIdRef second = true).head?.map (·.id)

def ratioOf (state : FeedState) (item : VerticalVideoFeedItem) : Rat :=
  (state.intersectionRatios item.id).getD 0

def selectActiveItemFromRatios (state : FeedState)
    (items : List VerticalVideoFeedItem) (geometry : Geometry) : FeedState :=
  let candidates := items.filter (·.id ∈ state.itemRefs)
  match (candidates.map state.ratioOf).max? with
  | none => state
  | some maximumRatio =>
      let highest := candidates.filter (state.ratioOf · = maximumRatio)
      let isHighest (itemId : ItemId) : Bool := highest.any (·.id = itemId)
      match state.closestItemToFeedCenter items geometry,
          state.activeItemIdRef with
      | some centerCandidate, currentActive =>
          if isHighest centerCandidate then
            state.setCurrentActiveItemId items (some centerCandidate)
          else if currentActive.any isHighest then
            state.setCurrentActiveItemId items currentActive
          else state.setCurrentActiveItemId items (firstId highest)
      | none, currentActive =>
          if currentActive.any isHighest then
            state.setCurrentActiveItemId items currentActive
          else state.setCurrentActiveItemId items (firstId highest)

/-- The callback is noted where it is called. -/
def reportSwipe (state : FeedState) (committed : Option ItemId)
    (previous current : Option VerticalVideoFeedItem)
    (gesture : Option PendingSwipe) : FeedState :=
  match previous, current, gesture with
  | some previous, some current, some gesture =>
      if gesture.sourceItemId = previous.id ∧ state.clock ≤ gesture.expiresAt
      then
        state.note (.reported
          ⟨gesture.token, previous, current, committed, state.clock⟩)
      else state
  | _, _, _ => state

def commitFullscreenItem (state : FeedState) (itemId : ItemId) : FeedState :=
  if state.activeItemIdRef ≠ some itemId ∨
      state.committedItemIdRef = some itemId then state
  else
    let committed := { state with committedItemIdRef := some itemId }
    match state.committedItemIdRef with
    | none => committed
    | some previousId =>
        { committed with
          pendingSwipeTransitionRef := none }.reportSwipe
            state.committedItemIdRef
            (state.items.find? (·.id = previousId))
            (state.items.find? (·.id = itemId))
            state.pendingSwipeTransitionRef

/-- The ratios that the entries set, one after the other. -/
def readEntry (geometry : Geometry) (ratios : ItemId → Option Rat)
    (entry : IntersectionEntry) : ItemId → Option Rat :=
  match entry.videoId with
  | none => ratios
  | some itemId =>
      Function.update ratios itemId
        (some (geometry.currentIntersectionRatio itemId entry.reportedRatio))

def fullscreenItemId (geometry : Geometry) (entry : IntersectionEntry) :
    Option ItemId :=
  entry.videoId.filter fun itemId =>
    FULLSCREEN_COMMIT_RATIO ≤ entry.reportedRatio &&
      geometry.isEffectivelyFullscreen itemId
        (geometry.currentIntersectionRatio itemId entry.reportedRatio)

def handleIntersection (state : FeedState)
    (items : List VerticalVideoFeedItem) (entries : List IntersectionEntry)
    (geometry : Geometry) : FeedState :=
  let read := { state with
    intersectionRatios :=
      entries.foldl (readEntry geometry) state.intersectionRatios }
  (entries.filterMap (fullscreenItemId geometry)).foldl
    commitFullscreenItem (read.selectActiveItemFromRatios items geometry)

def handleScroll (state : FeedState) : FeedState :=
  let state := if state.controlsMode = .reels then state.cancelReelsGesture
    else state
  if state.observedItems.isSome then { state with hasAnimationFrame := true }
  else state

def handleFrame (state : FeedState) (items : List VerticalVideoFeedItem)
    (geometry : Geometry) : FeedState :=
  let state := { state with hasAnimationFrame := false }
  match state.closestItemToFeedCenter items geometry with
  | none => state
  | some centerCandidate =>
      if some centerCandidate = state.activeItemIdRef then state
      else state.setCurrentActiveItemId items (some centerCandidate)

/-- The clean-up runs in any case, the rest where there is a feed to observe. -/
def observeItems (state : FeedState) (isMounted : Bool) : FeedState :=
  let cleaned := { state with
    observedItems := none
    hasAnimationFrame := false }
  if state.items = [] ∨ isMounted = false then cleaned
  else
    let isItem (itemId : ItemId) : Bool := state.items.any (·.id = itemId)
    let observing := { cleaned with
      observedItems := some state.items
      itemRefs := state.itemRefs.filter fun itemId =>
        isItem itemId || (state.intersectionRatios itemId).isNone
      intersectionRatios := fun itemId =>
        if isItem itemId then some ((state.intersectionRatios itemId).getD 0)
        else none
      committedItemIdRef :=
        if state.committedItemIdRef.all isItem then state.committedItemIdRef
        else firstId state.items }
    if observing.activeItemIdRef = none then
      observing.setCurrentActiveItemId state.items (firstId state.items)
    else observing

def render (state : FeedState) (controlsMode : ControlsMode)
    (items : List VerticalVideoFeedItem) : FeedState :=
  { state with
    controlsMode := controlsMode
    items := items
    effectiveActiveItemId :=
      effectiveActive state.activeItemId state.lastActiveIndex items }

end FeedState

inductive FeedEvent
  | render (controlsMode : ControlsMode) (items : List VerticalVideoFeedItem)
  | activeEffect
  | itemsEffect (isMounted : Bool)
  | itemRef (itemId : ItemId) (isMounted : Bool)
  | videoRef (itemId : ItemId) (element : Option ElementId)
  | intersection (entries : List IntersectionEntry) (geometry : Geometry)
  | scroll
  | frame (geometry : Geometry)
  | pointerDown (event : PointerEvent) (itemId : ItemId)
  | pointerMove (event : PointerEvent)
  | pointerUp (event : PointerEvent) (itemId : ItemId)
  | pointerCancel (event : PointerEvent)
  | holdTimer (token : Nat)
  | play (itemId : ItemId)
  | lifecycle
  | tick (elapsed : Nat)

namespace FeedState

def runActiveEffect (state : FeedState) : Option FeedState :=
  if state.appliedActiveItemId = some state.effectiveActiveItemId then none
  else some { state with
    activeItemIdRef := state.effectiveActiveItemId
    appliedActiveItemId := some state.effectiveActiveItemId }

def fireHoldTimer (state : FeedState) (token : Nat) : Option FeedState :=
  match state.timers.find? fun timer =>
      timer.token = token && timer.due ≤ state.clock with
  | none => none
  | some timer => some (state.handleHoldTimer timer)

/-- One callback, effect or rendering; the effects of a rendering may come
later than other events. -/
def next (state : FeedState) : FeedEvent → Option FeedState
  | .render controlsMode items => some (state.render controlsMode items)
  | .activeEffect => state.runActiveEffect
  | .itemsEffect isMounted => some (state.observeItems isMounted)
  | .itemRef itemId isMounted =>
      some { state with
        itemRefs := if isMounted then itemId :: state.itemRefs
          else state.itemRefs.filter (· ≠ itemId) }
  | .videoRef itemId element =>
      some { state with
        videoRefs := Function.update state.videoRefs itemId element }
  | .intersection entries geometry =>
      state.observedItems.map fun items =>
        state.handleIntersection items entries geometry
  | .scroll => some state.handleScroll
  | .frame geometry =>
      if state.hasAnimationFrame then
        state.observedItems.map fun items => state.handleFrame items geometry
      else none
  | .pointerDown event itemId => some (state.handleReelsPointerDown event itemId)
  | .pointerMove event => some (state.handleReelsPointerMove event)
  | .pointerUp event itemId => some (state.handleReelsPointerUp event itemId)
  | .pointerCancel event => some (state.handleReelsPointerCancellation event)
  | .holdTimer token => state.fireHoldTimer token
  | .play itemId =>
      if state.controlsMode = .native then
        some (state.setCurrentActiveItemId state.items (some itemId))
      else none
  | .lifecycle => some state.cancelReelsGesture
  | .tick elapsed => some { state with clock := state.clock + elapsed }

end FeedState

end OfflineReels.Feed
