import OfflineReels.Collector.Transcripts
import OfflineReels.Foundation.Grouping

namespace OfflineReels.Collector.TranscriptOrder

open OfflineReels.Foundation
open OfflineReels.Instagram
open OfflineReels.Collector.Verification

/-! The acceptors look at one position at a time.  What they leave open is how
a transcript interleaves its positions, and, in stage 3C1, how far its last
Reel got. -/

/-- The positions never go back. -/
abbrev InOrder (events : List TranscriptEvent) : Prop :=
  Ordered (·.position) events

def Interleaves (events other : List TranscriptEvent) : Prop :=
  ∀ position, sequenceAt events position = sequenceAt other position

section

variable {events other : List TranscriptEvent} {position first : Nat}

theorem groupAt_eq_map :
    groupAt (·.position) events position =
      (sequenceAt events position).map (⟨position, ·⟩) := by
  induction events with
  | nil => rfl
  | cons item later ih =>
      simp only [groupAt, sequenceAt, List.filter_cons] at ih ⊢
      split
      · rename_i here
        obtain ⟨index, event⟩ := item
        have same : index = position := of_decide_eq_true here
        subst same
        exact congrArg (List.cons _) ih
      · exact ih

theorem Interleaves.eq (interleaves : Interleaves events other)
    (ordered : InOrder events) (ordered' : InOrder other) :
    events = other := by
  apply ordered.eq_of_groups ordered'
  intro position
  rw [groupAt_eq_map, groupAt_eq_map, interleaves position]

theorem written_ordered (first : Nat) (sequences : List (List EventName)) :
    InOrder (written first sequences) := by
  induction sequences generalizing first with
  | nil => exact List.Pairwise.nil
  | cons sequence later ih =>
      apply List.pairwise_append.mpr
      refine ⟨?_, ih (first + 1), ?_⟩
      · apply List.pairwise_map.mpr
        exact List.pairwise_of_forall fun _ _ => le_rfl
      · intro item member item' member'
        obtain ⟨event, _, rfl⟩ := List.mem_map.mp member
        have bound := le_position_of_mem_written member'
        exact Nat.le_of_succ_le bound

theorem Interleaves.positions (interleaves : Interleaves events other) :
    positions events = positions other := by
  have sorted : ∀ events, (Verification.positions events).SortedLT :=
    fun events => List.sortedLE_insertionSort.sortedLT_of_nodup
      ((List.perm_insertionSort _ _).nodup_iff.mpr (List.nodup_dedup _))
  apply (sorted events).eq_of_mem_iff (sorted other)
  intro position
  rw [mem_positions, mem_positions, interleaves position]

theorem interleaves_written {sequences : List (List EventName)}
    (positioned : Verification.positions events =
      List.range' 1 sequences.length)
    (same : ∀ index < sequences.length,
      sequences[index]? = some (sequenceAt events (index + 1))) :
    Interleaves events (written 1 sequences) := by
  intro position
  by_cases listed : position ∈ Verification.positions events
  · rw [positioned, List.mem_range'_1] at listed
    obtain ⟨index, rfl⟩ := Nat.exists_eq_add_of_le' listed.1
    have below : index < sequences.length := by omega
    rw [sequenceAt_written (by omega), Nat.add_sub_cancel, same index below]
    rfl
  · have silent : sequenceAt events position = [] := by
      by_contra recorded
      exact listed (mem_positions.mpr recorded)
    rw [positioned, List.mem_range'_1] at listed
    rw [silent]
    by_cases reached : 1 ≤ position
    · rw [sequenceAt_written reached, List.getElem?_eq_none (by omega)]
      rfl
    · symm
      apply sequenceAt_of_other
      intro item member
      have bound := le_position_of_mem_written member
      omega

theorem Interleaves.validateEventTranscript
    (interleaves : Interleaves events other) (status : CollectionRunStatus)
    (targetCount : Nat) :
    validateEventTranscript events status targetCount =
      validateEventTranscript other status targetCount := by
  unfold Verification.validateEventTranscript
  rw [interleaves.positions, funext interleaves]

end

structure Commits (walk : Walk) : Prop where
  gestures : walk.ByGesture
  two : walk.passes.length = 2
  passes : ∀ pass ∈ walk.passes, pass.acquisition = .committed
  last : walk.last = .committed

def Committed (events : List TranscriptEvent) : Prop :=
  ∃ walk, Commits walk ∧ events = walk.transcript

def CommittedEach (events : List TranscriptEvent) : Prop :=
  ∃ walk, Commits walk ∧ Interleaves events walk.transcript

theorem committedPrefix_not_confirmed :
    ∀ count ≤ 6, endsConfirmed (committedPrefix.take count) = false := by
  decide

theorem transitionPrefix_not_confirmed :
    ∀ count ≤ 8, endsConfirmed (transitionPrefix.take count) = false := by
  decide

theorem transitionSuffix_confirmed :
    ∀ suffix ∈ transitionSuffixes,
      endsConfirmed (transitionPrefix ++ suffix) = true →
      suffix = [.transitionConfirmed] ∨
        suffix = [.advanceRetry, .transitionConfirmed] := by
  decide

theorem sequence_of_prefix {expected sequence : List EventName}
    (begins : sequence.take expected.length = expected.take sequence.length)
    (short : sequence.length ≤ expected.length) :
    sequence = expected.take sequence.length := by
  rw [← begins, List.take_of_length_le short]

theorem complete_of_accepted {position : Nat} {sequence : List EventName}
    (accepted : acceptsSequence position sequence = true)
    (confirmed : endsConfirmed sequence = true) :
    ∃ move, move ≠ Move.feedSource ∧
      sequence = Pass.events ⟨.committed, move⟩ := by
  unfold acceptsSequence at accepted
  split at accepted
  · cases accepted
  split at accepted
  · cases accepted
  rename_i begins
  rw [ne_eq, not_not] at begins
  split at accepted
  · rename_i short
    have whole := sequence_of_prefix begins short
    rw [whole, committedPrefix_not_confirmed _ short] at confirmed
    cases confirmed
  split at accepted
  · cases accepted
  rename_i within
  split at accepted
  · cases accepted
  rename_i beyond
  by_cases short : sequence.length ≤ transitionPrefix.length
  · have whole : sequence = transitionPrefix.take sequence.length := by
      by_contra other
      exact within ⟨short, other⟩
    rw [whole, transitionPrefix_not_confirmed _ short] at confirmed
    cases confirmed
  · have long : sequence.take transitionPrefix.length = transitionPrefix := by
      by_contra other
      exact beyond ⟨Nat.lt_of_not_le short, other⟩
    dsimp only at accepted
    split at accepted
    · cases accepted
    rename_i listed
    rw [not_not] at listed
    have whole := List.take_append_drop transitionPrefix.length sequence
    rw [long] at whole
    rw [← whole] at confirmed
    rcases transitionSuffix_confirmed _ listed confirmed with suffix | suffix
    · refine ⟨.gesture, by decide, ?_⟩
      rw [← whole, suffix]
      rfl
    · refine ⟨.retriedGesture, by decide, ?_⟩
      rw [← whole, suffix]
      rfl

theorem committedEach_of_validate {events : List TranscriptEvent}
    (accepted : validateEventTranscript events .completed 3 = true) :
    CommittedEach events := by
  unfold validateEventTranscript at accepted
  dsimp only at accepted
  split at accepted
  · cases accepted
  split at accepted
  · cases accepted
  rename_i each
  split at accepted
  · cases accepted
  rw [if_pos rfl] at accepted
  simp only [Bool.and_eq_true, decide_eq_true_eq] at accepted
  obtain ⟨⟨⟨⟨_, positioned⟩, first⟩, second⟩, third⟩ := accepted
  rw [positioned, not_not, List.all_eq_true] at each
  obtain ⟨move, gesture, shape⟩ :=
    complete_of_accepted (each 1 (by decide)) first
  obtain ⟨move', gesture', shape'⟩ :=
    complete_of_accepted (each 2 (by decide)) second
  have committed : Commits ⟨[⟨.committed, move⟩, ⟨.committed, move'⟩],
      .committed⟩ := by
    constructor
    · intro pass member
      rcases List.mem_pair.mp member with rfl | rfl
      · exact gesture
      · exact gesture'
    · rfl
    · intro pass member
      rcases List.mem_pair.mp member with rfl | rfl <;> rfl
    · rfl
  refine ⟨_, committed, ?_⟩
  apply interleaves_written positioned
  intro index below
  change index < 3 at below
  rcases index with _ | _ | _ | index
  · exact congrArg some shape.symm
  · exact congrArg some shape'.symm
  · exact congrArg some third.symm
  · omega

theorem validate_of_committedEach {events : List TranscriptEvent}
    (each : CommittedEach events) :
    validateEventTranscript events .completed 3 = true := by
  obtain ⟨walk, commits, interleaves⟩ := each
  rw [interleaves.validateEventTranscript]
  exact (Walk.validateStage3B commits.two commits.passes commits.last).mpr
    commits.gestures

theorem walk_inOrder (walk : Walk) : InOrder walk.transcript :=
  written_ordered 1 _

/-- The acceptor of stage 3B takes the complete transcripts and every other way
to interleave their positions. -/
theorem stage3B_accepts_iff (events : List TranscriptEvent) :
    (validateEventTranscript events .completed 3 = true ↔
      CommittedEach events) ∧
    (Committed events ↔
      validateEventTranscript events .completed 3 = true ∧
        InOrder events) := by
  refine ⟨⟨committedEach_of_validate, validate_of_committedEach⟩, ?_⟩
  constructor
  · intro committed
    obtain ⟨walk, commits, rfl⟩ := committed
    refine ⟨?_, walk_inOrder walk⟩
    exact validate_of_committedEach ⟨walk, commits, fun _ => rfl⟩
  · intro accepted
    obtain ⟨walk, commits, interleaves⟩ := committedEach_of_validate accepted.1
    exact ⟨walk, commits, interleaves.eq accepted.2 (walk_inOrder walk)⟩

def Acquired (sequence : List EventName) : Prop :=
  .duplicateSkipped ∈ sequence ∨ .dbCommit ∈ sequence

def Continued (events : List TranscriptEvent) (finalPosition : Option Nat) :
    Prop :=
  ∃ walk : Walk, walk.ByGesture ∧
    finalPosition = some (walk.passes.length + 1) ∧
    events = walk.transcript

def stoppedAt (acquisition : Acquisition) (reached : Nat) : List EventName :=
  [.detect, .pause] ++ acquisition.events.take reached

def stopped (walk : Walk) (reached : Nat) : List (List EventName) :=
  walk.passes.map Pass.events ++ [stoppedAt walk.last reached]

def ContinuedEach (events : List TranscriptEvent)
    (finalPosition : Option Nat) : Prop :=
  ∃ (walk : Walk) (reached : Nat), walk.ByGesture ∧
    finalPosition = some (walk.passes.length + 1) ∧
    Interleaves events (written 1 (stopped walk reached))

theorem length_variant {acquisition : Acquisition} {variant : List EventName}
    (listed : variant ∈ variantsOf acquisition.events) :
    variant.length ≤ 8 := by
  have bounded : ∀ variant ∈ variantsOf acquisition.events,
      variant.length ≤ 8 := by
    cases acquisition <;> decide
  exact bounded variant listed

theorem variants_cases (acquisition : List EventName) :
    ∃ acquired : Acquisition,
      variants acquisition = variantsOf acquired.events := by
  unfold variants
  split
  · exact ⟨.skipped, rfl⟩
  split
  · exact ⟨.available, rfl⟩
  · exact ⟨.committed, rfl⟩

theorem begins_of_accepted {sequence : List EventName}
    (accepted : acceptsContinuation sequence = true) :
    ∃ acquisition : Acquisition, ∃ variant ∈ variantsOf acquisition.events,
      ∃ count ≤ 8, sequence = [.detect, .pause] ++ variant.take count := by
  unfold acceptsContinuation at accepted
  simp only [Bool.and_eq_true, decide_eq_true_eq, List.any_eq_true]
    at accepted
  obtain ⟨⟨opened, variant, listed, same⟩, _⟩ := accepted
  obtain ⟨acquisition, shape⟩ := variants_cases (sequence.drop 2)
  rw [shape] at listed
  rw [List.take_eq_take_min] at same
  refine ⟨acquisition, variant, listed,
    min (sequence.drop 2).length variant.length, ?_, ?_⟩
  · exact (min_le_right _ _).trans (length_variant listed)
  · rw [← same, ← opened, List.take_append_drop]

theorem confirmed_variant (acquisition : Acquisition) :
    ∀ variant ∈ variantsOf acquisition.events, ∀ count ≤ 8,
      endsConfirmed ([.detect, .pause] ++ variant.take count) = true →
      [.detect, .pause] ++ variant.take count =
          Pass.events ⟨acquisition, .gesture⟩ ∨
        [.detect, .pause] ++ variant.take count =
          Pass.events ⟨acquisition, .retriedGesture⟩ := by
  cases acquisition <;> decide

theorem quiet_variant (acquisition : Acquisition) :
    ∀ variant ∈ variantsOf acquisition.events, ∀ count ≤ 8,
      (variant.take count).any isTransition = false →
      variant.take count = acquisition.events.take count := by
  cases acquisition <;> decide

theorem pass_of_accepted {sequence : List EventName}
    (accepted : acceptsContinuation sequence = true)
    (confirmed : endsConfirmed sequence = true) :
    ∃ pass : Pass, pass.move ≠ .feedSource ∧ sequence = pass.events := by
  obtain ⟨acquisition, variant, listed, count, few, rfl⟩ :=
    begins_of_accepted accepted
  rcases confirmed_variant acquisition variant listed count few confirmed with
    shape | shape
  · exact ⟨⟨acquisition, .gesture⟩, Move.noConfusion, shape⟩
  · exact ⟨⟨acquisition, .retriedGesture⟩, Move.noConfusion, shape⟩

theorem reached_of_accepted {sequence : List EventName}
    (accepted : acceptsContinuation sequence = true)
    (quiet : sequence.any isTransition = false) :
    ∃ (acquisition : Acquisition) (reached : Nat),
      sequence = stoppedAt acquisition reached := by
  obtain ⟨acquisition, variant, listed, count, few, rfl⟩ :=
    begins_of_accepted accepted
  rw [List.any_append, Bool.or_eq_false_iff] at quiet
  refine ⟨acquisition, count, ?_⟩
  rw [quiet_variant acquisition variant listed count few quiet.2]
  rfl

theorem stoppedAt_accepted (acquisition : Acquisition) (reached : Nat) :
    acceptsContinuation (stoppedAt acquisition reached) = true ∧
      (stoppedAt acquisition reached).any isTransition = false := by
  have short : acquisition.events.length ≤ 4 := by
    cases acquisition <;> decide
  have each : ∀ count ≤ 4,
      acceptsContinuation (stoppedAt acquisition count) = true ∧
        (stoppedAt acquisition count).any isTransition = false := by
    cases acquisition <;> decide
  have same : stoppedAt acquisition reached =
      stoppedAt acquisition (min reached acquisition.events.length) := by
    unfold stoppedAt
    rw [← List.take_eq_take_min]
  rw [same]
  exact each _ ((min_le_right _ _).trans short)

theorem exists_walk_of_passes {count : Nat} {sequences : Nat → List EventName}
    (passes : ∀ index < count, ∃ pass : Pass, pass.move ≠ .feedSource ∧
      sequences index = pass.events) :
    ∃ passes : List Pass, passes.length = count ∧
      (∀ pass ∈ passes, pass.move ≠ .feedSource) ∧
      ∀ index (below : index < passes.length),
        sequences index = (passes[index]).events := by
  induction count with
  | zero =>
      refine ⟨[], rfl, ?_, ?_⟩
      · intro pass member
        cases member
      · intro index below
        cases below
  | succ count ih =>
      obtain ⟨earlier, length, gestures, same⟩ := ih fun index below =>
        passes index (Nat.lt_succ_of_lt below)
      obtain ⟨pass, gesture, shape⟩ := passes count (Nat.lt_succ_self count)
      refine ⟨earlier ++ [pass], ?_, ?_, ?_⟩
      · rw [List.length_append, length]
        rfl
      · intro other member
        rcases List.mem_append.mp member with before | last
        · exact gestures other before
        · rw [List.mem_singleton.mp last]
          exact gesture
      · intro index below
        by_cases before : index < earlier.length
        · rw [List.getElem_append_left before]
          exact same index before
        · rw [List.length_append, List.length_singleton] at below
          have last : index = count := by omega
          subst last
          rw [List.getElem_append_right (by omega)]
          simpa using shape

theorem shape_of_validate {events : List TranscriptEvent}
    {finalPosition : Option Nat}
    (accepted : validateStage3C1Transcript events .completed finalPosition =
      true) :
    ∃ count, positions events = List.range' 1 (count + 1) ∧
      finalPosition = some (count + 1) := by
  unfold validateStage3C1Transcript at accepted
  dsimp only at accepted
  split at accepted
  · cases accepted
  split at accepted
  · cases accepted
  split at accepted
  · cases accepted
  rename_i positioned
  rw [ne_eq, not_not] at positioned
  split at accepted
  · cases accepted
  rw [if_pos rfl] at accepted
  cases finalPosition with
  | none => cases accepted
  | some position =>
      simp only [Bool.and_eq_true, decide_eq_true_eq] at accepted
      obtain ⟨latest, _⟩ := accepted
      rw [positioned, List.getLast?_range'] at latest
      split at latest
      · cases latest
      · rename_i filled
        obtain ⟨count, length⟩ := Nat.exists_eq_succ_of_ne_zero filled
        rw [length] at positioned latest
        refine ⟨count, positioned, ?_⟩
        rw [← Option.some.inj latest]
        congr 1
        omega

theorem validateStage3C1_of_shape {events : List TranscriptEvent} {count : Nat}
    (positioned : positions events = List.range' 1 (count + 1)) :
    validateStage3C1Transcript events .completed (some (count + 1)) = true ↔
      (∀ position, 1 ≤ position → position ≤ count + 1 →
        acceptsContinuation (sequenceAt events position) = true ∧
          (position = count + 1 ∨
            endsConfirmed (sequenceAt events position) = true)) ∧
      (sequenceAt events (count + 1)).any isTransition = false := by
  apply validateStage3C1_of_positions _ _ positioned
  · intro empty
    rw [empty] at positioned
    cases positioned
  · intro item member
    have listed : item.position ∈ positions events := by
      rw [mem_positions]
      intro silent
      have recorded : item.event ∈ sequenceAt events item.position := by
        unfold sequenceAt
        apply List.mem_map_of_mem
        exact List.mem_filter.mpr ⟨member, decide_eq_true rfl⟩
      rw [silent] at recorded
      cases recorded
    rw [positioned, List.mem_range'_1] at listed
    exact listed.1

theorem continuedEach_of_validate {events : List TranscriptEvent}
    {finalPosition : Option Nat}
    (accepted : validateStage3C1Transcript events .completed finalPosition =
      true) : ContinuedEach events finalPosition := by
  obtain ⟨count, positioned, rfl⟩ := shape_of_validate accepted
  obtain ⟨each, quiet⟩ := (validateStage3C1_of_shape positioned).mp accepted
  have passed : ∀ index < count, ∃ pass : Pass, pass.move ≠ .feedSource ∧
      sequenceAt events (index + 1) = pass.events := by
    intro index below
    obtain ⟨continued, last | confirmed⟩ := each (index + 1) (by omega)
      (by omega)
    · omega
    · exact pass_of_accepted continued confirmed
  obtain ⟨passes, rfl, gestures, same⟩ := exists_walk_of_passes passed
  obtain ⟨last, reached, shape⟩ :=
    reached_of_accepted (each _ (by omega) le_rfl).1 quiet
  refine ⟨⟨passes, last⟩, reached, gestures, rfl, ?_⟩
  apply interleaves_written
  · rw [positioned]
    simp [stopped]
  · intro index below
    simp only [stopped, List.length_append, List.length_map,
      List.length_singleton] at below
    unfold stopped
    by_cases before : index < passes.length
    · rw [List.getElem?_append_left (by simpa using before), List.getElem?_map,
        List.getElem?_eq_getElem before, same index before]
      rfl
    · obtain rfl : index = passes.length := by omega
      rw [List.getElem?_append_right (by simp), shape]
      simp

theorem stopped_recorded (walk : Walk) (reached : Nat)
    (sequence : List EventName) (member : sequence ∈ stopped walk reached) :
    sequence ≠ [] := by
  rcases List.mem_append.mp member with earlier | last
  · obtain ⟨pass, _, rfl⟩ := List.mem_map.mp earlier
    simp [Pass.events, observed]
  · rw [List.mem_singleton.mp last]
    simp [stoppedAt]

theorem validate_stopped {walk : Walk} (gestures : walk.ByGesture)
    (reached : Nat) :
    validateStage3C1Transcript (written 1 (stopped walk reached)) .completed
      (some (walk.passes.length + 1)) = true := by
  have accepted := validateStage3C1_written (stopped_recorded walk reached)
  rw [List.length_map] at accepted
  rw [stopped, accepted]
  refine ⟨?_, stoppedAt_accepted walk.last reached⟩
  intro sequence member
  obtain ⟨pass, passed, rfl⟩ := List.mem_map.mp member
  exact ⟨(acceptsContinuation_pass pass).mpr (gestures pass passed),
    endsConfirmed_pass pass⟩

theorem validate_of_continuedEach {events : List TranscriptEvent}
    {finalPosition : Option Nat}
    (each : ContinuedEach events finalPosition) :
    validateStage3C1Transcript events .completed finalPosition = true := by
  obtain ⟨walk, reached, gestures, rfl, interleaves⟩ := each
  have positioned : positions (written 1 (stopped walk reached)) =
      List.range' 1 (walk.passes.length + 1) := by
    rw [positions_written (stopped_recorded walk reached)]
    simp [stopped]
  have accepted := (validateStage3C1_of_shape positioned).mp
    (validate_stopped gestures reached)
  rw [← interleaves.positions] at positioned
  rw [validateStage3C1_of_shape positioned]
  simpa only [interleaves _] using accepted

theorem stoppedAt_acquired {acquisition : Acquisition} {reached : Nat}
    (acquired : Acquired (stoppedAt acquisition reached)) :
    stoppedAt acquisition reached = observed acquisition := by
  cases acquisition <;> rcases reached with _ | _ | _ | _ | reached <;> first
    | rfl
    | simp [stoppedAt, observed, Acquisition.events]
      done
    | simp [Acquired, stoppedAt, Acquisition.events] at acquired

theorem observed_acquired (acquisition : Acquisition) :
    Acquired (observed acquisition) := by
  cases acquisition <;> simp [Acquired, observed, Acquisition.events]

theorem sequenceAt_last (earlier : List (List EventName))
    (last : List EventName) :
    sequenceAt (written 1 (earlier ++ [last])) (earlier.length + 1) =
      last := by
  rw [sequenceAt_written (by omega), Nat.add_sub_cancel,
    List.getElem?_append_right le_rfl]
  simp

/-- The acceptor of stage 3C1 takes the complete transcripts, those that stop
short of the last acquisition, and every other way to interleave their
positions. -/
theorem stage3C1_accepts_iff (events : List TranscriptEvent)
    (finalPosition : Option Nat) :
    (validateStage3C1Transcript events .completed finalPosition = true ↔
      ContinuedEach events finalPosition) ∧
    (Continued events finalPosition ↔
      validateStage3C1Transcript events .completed finalPosition = true ∧
        InOrder events ∧
        ∀ position ∈ finalPosition, Acquired (sequenceAt events position)) := by
  refine ⟨⟨continuedEach_of_validate, validate_of_continuedEach⟩, ?_⟩
  constructor
  · intro continued
    obtain ⟨walk, gestures, rfl, rfl⟩ := continued
    refine ⟨(Walk.validateStage3C1 walk).mpr gestures, walk_inOrder walk, ?_⟩
    intro position same
    cases same
    have last := sequenceAt_last (walk.passes.map Pass.events)
      (observed walk.last)
    rw [List.length_map] at last
    unfold Walk.transcript
    rw [last]
    exact observed_acquired walk.last
  · intro accepted
    obtain ⟨valid, ordered, acquired⟩ := accepted
    obtain ⟨walk, reached, gestures, rfl, interleaves⟩ :=
      continuedEach_of_validate valid
    have last := sequenceAt_last (walk.passes.map Pass.events)
      (stoppedAt walk.last reached)
    rw [List.length_map] at last
    have finished := acquired _ rfl
    rw [interleaves, stopped, last] at finished
    have whole : written 1 (stopped walk reached) = walk.transcript := by
      unfold stopped Walk.transcript
      rw [stoppedAt_acquired finished]
    refine ⟨walk, gestures, rfl, ?_⟩
    rw [← whole]
    exact interleaves.eq ordered (written_ordered 1 _)

end OfflineReels.Collector.TranscriptOrder
