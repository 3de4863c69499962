import Mathlib.Data.List.Dedup
import Mathlib.Data.List.Sort
import OfflineReels.Collector.Operator

namespace OfflineReels.Collector

open OfflineReels.Instagram

/-! The acceptors of recorded transcripts. -/

namespace Verification

/-- `sorted(...)` of the positions that occur. -/
def positions (events : List TranscriptEvent) : List Nat :=
  (events.map (·.position)).dedup.insertionSort (· ≤ ·)

def sequenceAt (events : List TranscriptEvent) (position : Nat) :
    List EventName :=
  (events.filter fun item => item.position = position).map (·.event)

def isTransition (event : EventName) : Bool :=
  event ∈ [EventName.cooldown, .advance, .advanceRetry]

def committedPrefix : List EventName :=
  [.detect, .pause, .download, .validation, .publish, .dbCommit]

def transitionPrefix : List EventName :=
  committedPrefix ++ [.cooldown, .advance]

def transitionSuffixes : List (List EventName) :=
  [[], [.transitionConfirmed], [.advanceRetry],
    [.advanceRetry, .transitionConfirmed]]

def acceptsSequence (position : Nat) (sequence : List EventName) : Bool :=
  if position = 3 ∧ sequence.any isTransition then false
  else if sequence.take committedPrefix.length ≠
      committedPrefix.take sequence.length then false
  else if sequence.length ≤ committedPrefix.length then true
  else if sequence.length ≤ transitionPrefix.length ∧
      sequence ≠ transitionPrefix.take sequence.length then false
  else if transitionPrefix.length < sequence.length ∧
      sequence.take transitionPrefix.length ≠ transitionPrefix then false
  else
    let suffix := sequence.drop transitionPrefix.length
    if suffix ∉ transitionSuffixes then false
    else if 1 < suffix.count .advanceRetry then false
    else ¬(.advance ∈ sequence ∧ .dbCommit ∉ sequence)

def endsConfirmed (sequence : List EventName) : Bool :=
  sequence.getLast? = some .transitionConfirmed

def validateEventTranscript (events : List TranscriptEvent)
    (status : CollectionRunStatus) (targetCount : Nat) : Bool :=
  let positions := positions events
  let actual := sequenceAt events
  if positions ≠ List.range' 1 positions.length then false
  else if ¬positions.all fun position =>
      acceptsSequence position (actual position) then false
  else if ¬positions.dropLast.all fun position =>
      endsConfirmed (actual position) then false
  else if status = .completed then
    targetCount = 3 && positions = [1, 2, 3] && endsConfirmed (actual 1) &&
      endsConfirmed (actual 2) && actual 3 = committedPrefix
  else status ∈ [CollectionRunStatus.failed, .cancelled]

def variantsOf (acquisition : List EventName) : List (List EventName) :=
  [acquisition,
    acquisition ++ [.cooldown, .advance, .transitionConfirmed],
    acquisition ++ [.cooldown, .advance, .advanceRetry, .transitionConfirmed]]

def variants (acquisition : List EventName) : List (List EventName) :=
  if acquisition.take 1 = [.duplicateSkipped] then
    variantsOf [.duplicateSkipped]
  else if acquisition.take 1 = [.dbCommit] then variantsOf [.dbCommit]
  else variantsOf [.download, .validation, .publish, .dbCommit]

def acceptsContinuation (sequence : List EventName) : Bool :=
  let acquisition := sequence.drop 2
  sequence.take 2 = [.detect, .pause] &&
    (variants acquisition).any (fun variant =>
      acquisition = variant.take acquisition.length) &&
    ¬(.advance ∈ acquisition ∧ .cooldown ∉ acquisition)

def validateStage3C1Transcript (events : List TranscriptEvent)
    (status : CollectionRunStatus) (finalPosition : Option Nat) : Bool :=
  let byPosition := sequenceAt events
  let positions := positions events
  if events.any fun item => item.position < 1 then false
  else if events = [] then
    status ∈ [CollectionRunStatus.cancelled, .failed]
  else if positions ≠ List.range' 1 positions.length then false
  else if ¬positions.all fun position =>
      acceptsContinuation (byPosition position) &&
        (positions.getLast? = some position ||
          endsConfirmed (byPosition position)) then false
  else if status = .completed then
    match finalPosition with
    | none => false
    | some finalPosition =>
        positions.getLast? = some finalPosition &&
          !(byPosition finalPosition).any isTransition
  else status ∈ [CollectionRunStatus.failed, .cancelled]

end Verification

end OfflineReels.Collector
