import Mathlib.Algebra.GroupWithZero.Nat
import OfflineReels.Collector.Verification

namespace OfflineReels.Collector.Verification

open OfflineReels.Instagram

/-! Transcripts given by one sequence of events for each position, and what the
acceptors say about them. -/

def written : Nat → List (List EventName) → List TranscriptEvent
  | _, [] => []
  | first, sequence :: later =>
      sequence.map (⟨first, ·⟩) ++ written (first + 1) later

theorem written_append (first : Nat) (earlier later : List (List EventName)) :
    written first (earlier ++ later) =
      written first earlier ++ written (first + earlier.length) later := by
  induction earlier generalizing first with
  | nil => rfl
  | cons sequence earlier ih =>
      simp only [List.cons_append, written, ih, List.append_assoc,
        List.length_cons]
      rw [Nat.add_right_comm first 1 earlier.length, Nat.add_assoc]

theorem length_written (first : Nat) (sequences : List (List EventName)) :
    (written first sequences).length = (sequences.map List.length).sum := by
  induction sequences generalizing first with
  | nil => rfl
  | cons sequence later ih => simp [written, ih]

theorem le_position_of_mem_written {first : Nat}
    {sequences : List (List EventName)} {item : TranscriptEvent}
    (member : item ∈ written first sequences) : first ≤ item.position := by
  induction sequences generalizing first with
  | nil => cases member
  | cons sequence later ih =>
      rcases List.mem_append.mp member with here | there
      · obtain ⟨event, _, rfl⟩ := List.mem_map.mp here
        exact le_rfl
      · have bound := ih there
        omega

theorem sequenceAt_append (earlier later : List TranscriptEvent)
    (position : Nat) :
    sequenceAt (earlier ++ later) position =
      sequenceAt earlier position ++ sequenceAt later position := by
  simp [sequenceAt]

theorem sequenceAt_of_other {events : List TranscriptEvent} {position : Nat}
    (other : ∀ item ∈ events, item.position ≠ position) :
    sequenceAt events position = [] := by
  simpa [sequenceAt] using other

theorem sequenceAt_here (position : Nat) (sequence : List EventName) :
    sequenceAt (sequence.map (⟨position, ·⟩)) position = sequence := by
  induction sequence with
  | nil => rfl
  | cons event later ih => simpa [sequenceAt] using ih

theorem sequenceAt_written {first position : Nat}
    {sequences : List (List EventName)} (reached : first ≤ position) :
    sequenceAt (written first sequences) position =
      (sequences[position - first]?).getD [] := by
  induction sequences generalizing first with
  | nil => rfl
  | cons sequence later ih =>
      rw [written, sequenceAt_append]
      by_cases here : first = position
      · subst here
        rw [sequenceAt_here, sequenceAt_of_other]
        · simp
        · intro item member
          have bound := le_position_of_mem_written member
          omega
      · rw [ih (by omega), sequenceAt_of_other]
        · rw [List.nil_append, ← Nat.succ_pred_eq_of_pos
            (show 0 < position - first by omega), List.getElem?_cons_succ]
          congr 2
        · intro item member
          obtain ⟨event, _, rfl⟩ := List.mem_map.mp member
          exact here

theorem mem_positions {events : List TranscriptEvent} {position : Nat} :
    position ∈ positions events ↔ sequenceAt events position ≠ [] := by
  rw [positions, List.mem_insertionSort, List.mem_dedup]
  simp [sequenceAt]

theorem positions_written {first : Nat} {sequences : List (List EventName)}
    (recorded : ∀ sequence ∈ sequences, sequence ≠ []) :
    positions (written first sequences) =
      List.range' first sequences.length := by
  have increasing : (positions (written first sequences)).SortedLT :=
    List.sortedLE_insertionSort.sortedLT_of_nodup
      ((List.perm_insertionSort _ _).nodup_iff.mpr (List.nodup_dedup _))
  refine increasing.eq_of_mem_iff (List.sortedLT_range' _ _ Nat.one_ne_zero) ?_
  intro position
  rw [mem_positions, List.mem_range'_1]
  by_cases reached : first ≤ position
  · rw [sequenceAt_written reached]
    cases found : sequences[position - first]? with
    | none =>
        have beyond := List.getElem?_eq_none_iff.mp found
        simp
        omega
    | some sequence =>
        obtain ⟨below, member⟩ := List.getElem?_eq_some_iff.mp found
        have filled := recorded sequence (member ▸ List.getElem_mem below)
        simp [filled]
        omega
  · have absent : sequenceAt (written first sequences) position = [] := by
      refine sequenceAt_of_other fun item member => ?_
      have bound := le_position_of_mem_written member
      omega
    simp [absent, reached]

theorem validateStage3C1_of_positions {events : List TranscriptEvent}
    {count : Nat} (filled : events ≠ [])
    (positive : ∀ item ∈ events, 1 ≤ item.position)
    (positioned : positions events = List.range' 1 (count + 1)) :
    validateStage3C1Transcript events .completed (some (count + 1)) = true ↔
      (∀ position, 1 ≤ position → position ≤ count + 1 →
        acceptsContinuation (sequenceAt events position) = true ∧
          (position = count + 1 ∨
            endsConfirmed (sequenceAt events position) = true)) ∧
      (sequenceAt events (count + 1)).any isTransition = false := by
  have started : events.any (fun item => item.position < 1) = false := by
    rw [List.any_eq_false]
    intro item member
    have bound := positive item member
    simp
    omega
  have latest : (List.range' 1 (count + 1)).getLast? = some (count + 1) := by
    rw [List.getLast?_range', if_neg (Nat.succ_ne_zero _), Nat.add_comm 1,
      Nat.add_sub_cancel]
  have bounded : ∀ position, position ∈ List.range' 1 (count + 1) ↔
      1 ≤ position ∧ position ≤ count + 1 := by
    intro position
    rw [List.mem_range'_1]
    omega
  have same : ∀ position, count + 1 = position ↔ position = count + 1 :=
    fun position => eq_comm
  unfold validateStage3C1Transcript
  simp only [started, positioned, filled, latest, same, bounded,
    List.length_range', ne_eq, not_true_eq_false, if_false, if_true,
    Bool.false_eq_true, Bool.if_false_left, Option.some.injEq,
    List.all_eq_true, Bool.and_eq_true, Bool.or_eq_true, decide_eq_true_eq,
    decide_true, Bool.true_and, Bool.not_eq_true', decide_eq_false_iff_not,
    not_not, and_imp]

theorem validateStage3C1_written {earlier : List (List EventName)}
    {last : List EventName}
    (recorded : ∀ sequence ∈ earlier ++ [last], sequence ≠ []) :
    validateStage3C1Transcript (written 1 (earlier ++ [last])) .completed
        (some (earlier.length + 1)) = true ↔
      (∀ sequence ∈ earlier, acceptsContinuation sequence = true ∧
        endsConfirmed sequence = true) ∧
      acceptsContinuation last = true ∧ last.any isTransition = false := by
  have final : sequenceAt (written 1 (earlier ++ [last]))
      (earlier.length + 1) = last := by
    rw [sequenceAt_written (by omega), Nat.add_sub_cancel]
    simp
  have passed : ∀ index (below : index < earlier.length),
      sequenceAt (written 1 (earlier ++ [last])) (index + 1) =
        earlier[index] := by
    intro index below
    rw [sequenceAt_written (by omega), Nat.add_sub_cancel,
      List.getElem?_append_left below, List.getElem?_eq_getElem below]
    rfl
  have filled : written 1 (earlier ++ [last]) ≠ [] := by
    intro empty
    rw [empty] at final
    exact recorded last (by simp) final.symm
  have positioned : positions (written 1 (earlier ++ [last])) =
      List.range' 1 (earlier.length + 1) := by
    rw [positions_written recorded, List.length_append]
    rfl
  rw [validateStage3C1_of_positions filled
    (fun item member => le_position_of_mem_written member) positioned, final]
  constructor
  · intro ⟨accepted, quiet⟩
    refine ⟨?_, ?_, quiet⟩
    · intro sequence member
      obtain ⟨index, below, rfl⟩ := List.getElem_of_mem member
      have holds := accepted (index + 1) (by omega) (by omega)
      rw [passed index below] at holds
      exact ⟨holds.1, holds.2.resolve_left (by omega)⟩
    · have holds := accepted (earlier.length + 1) (by omega) le_rfl
      rw [final] at holds
      exact holds.1
  · intro ⟨accepted, ends, quiet⟩
    refine ⟨?_, quiet⟩
    intro position first within
    obtain ⟨index, rfl⟩ := Nat.exists_eq_add_of_le' first
    by_cases below : index < earlier.length
    · rw [passed index below]
      have holds := accepted _ (List.getElem_mem below)
      exact ⟨holds.1, Or.inr holds.2⟩
    · have reached : index = earlier.length := by omega
      rw [reached, final]
      exact ⟨ends, Or.inl rfl⟩

/-! What a collection records that observes Reels and moves from one to the next. -/

/-- How one observation came by its Reel. -/
inductive Acquisition
  | skipped
  | available
  | committed
  deriving DecidableEq, Repr

def Acquisition.events : Acquisition → List EventName
  | .skipped => [.duplicateSkipped]
  | .available => [.dbCommit]
  | .committed => [.download, .validation, .publish, .dbCommit]

inductive Move
  | gesture
  | retriedGesture
  | feedSource
  deriving DecidableEq, Repr

def Move.events : Move → List EventName
  | .gesture => [.advance]
  | .retriedGesture => [.advance, .advanceRetry]
  | .feedSource => [.feedSourceAdvance]

structure Pass where
  acquisition : Acquisition
  move : Move
  deriving DecidableEq, Repr

def observed (acquisition : Acquisition) : List EventName :=
  [.detect, .pause] ++ acquisition.events

def Pass.events (pass : Pass) : List EventName :=
  observed pass.acquisition ++
    ([.cooldown] ++ pass.move.events ++ [.transitionConfirmed])

structure Walk where
  passes : List Pass
  last : Acquisition
  deriving DecidableEq, Repr

namespace Walk

def transcript (walk : Walk) : List TranscriptEvent :=
  written 1 (walk.passes.map Pass.events ++ [observed walk.last])

def acquisitions (walk : Walk) : List Acquisition :=
  walk.passes.map (·.acquisition) ++ [walk.last]

def ByGesture (walk : Walk) : Prop :=
  ∀ pass ∈ walk.passes, pass.move ≠ .feedSource

end Walk

theorem acceptsContinuation_pass (pass : Pass) :
    acceptsContinuation pass.events = true ↔ pass.move ≠ .feedSource := by
  obtain ⟨acquisition, move⟩ := pass
  cases acquisition <;> cases move <;> decide

theorem endsConfirmed_pass (pass : Pass) : endsConfirmed pass.events = true := by
  obtain ⟨acquisition, move⟩ := pass
  cases acquisition <;> cases move <;> decide

theorem acceptsContinuation_observed (acquisition : Acquisition) :
    acceptsContinuation (observed acquisition) = true ∧
      (observed acquisition).any isTransition = false := by
  cases acquisition <;> decide

namespace Walk

theorem recorded (walk : Walk) (sequence : List EventName)
    (member : sequence ∈ walk.passes.map Pass.events ++ [observed walk.last]) :
    sequence ≠ [] := by
  rcases List.mem_append.mp member with earlier | last
  · obtain ⟨pass, _, rfl⟩ := List.mem_map.mp earlier
    simp [Pass.events, observed]
  · rw [List.mem_singleton.mp last]
    simp [observed]

theorem length_pass (pass : Pass) :
    pass.events.length ≤
      7 + 3 * [pass.acquisition].count .committed := by
  obtain ⟨acquisition, move⟩ := pass
  cases acquisition <;> cases move <;> decide

theorem length_transcript (walk : Walk) :
    walk.transcript.length ≤ 7 * walk.passes.length +
      3 * (walk.passes.map (·.acquisition)).count .committed + 6 := by
  have last : (observed walk.last).length ≤ 6 := by
    cases walk.last <;> decide
  have earlier : ((walk.passes.map Pass.events).map List.length).sum ≤
      7 * walk.passes.length +
        3 * (walk.passes.map (·.acquisition)).count .committed := by
    induction walk.passes with
    | nil => decide
    | cons pass later ih =>
        have first := length_pass pass
        have split : ((pass :: later).map (·.acquisition)).count .committed =
            [pass.acquisition].count .committed +
              (later.map (·.acquisition)).count .committed := by
          rw [← List.count_append]
          rfl
        rw [split]
        simp only [List.map_cons, List.sum_cons, List.length_cons]
        omega
  rw [transcript, length_written]
  simp only [List.map_append, List.sum_append, List.map_cons, List.map_nil,
    List.sum_cons, List.sum_nil]
  omega

theorem validateStage3C1 (walk : Walk) :
    validateStage3C1Transcript walk.transcript .completed
        (some (walk.passes.length + 1)) = true ↔ walk.ByGesture := by
  have accepted := validateStage3C1_written walk.recorded
  rw [List.length_map] at accepted
  rw [transcript, accepted]
  constructor
  · intro holds pass member
    have continued := (holds.1 pass.events (List.mem_map_of_mem member)).1
    exact (acceptsContinuation_pass pass).mp continued
  · intro gestures
    refine ⟨?_, acceptsContinuation_observed walk.last⟩
    intro sequence member
    obtain ⟨pass, passed, rfl⟩ := List.mem_map.mp member
    exact ⟨(acceptsContinuation_pass pass).mpr (gestures pass passed),
      endsConfirmed_pass pass⟩

theorem validateStage3B {walk : Walk} (two : walk.passes.length = 2)
    (committed : ∀ pass ∈ walk.passes, pass.acquisition = .committed)
    (last : walk.last = .committed) :
    validateEventTranscript walk.transcript .completed 3 = true ↔
      walk.ByGesture := by
  obtain ⟨passes, final⟩ := walk
  obtain ⟨first, second, rfl⟩ := List.length_eq_two.mp two
  obtain ⟨acquisition, move⟩ := first
  obtain ⟨acquisition', move'⟩ := second
  simp only [List.mem_cons, List.not_mem_nil, or_false, forall_eq_or_imp,
    forall_eq] at committed
  obtain ⟨rfl, rfl⟩ := committed
  cases last
  simp only [ByGesture, List.mem_cons, List.not_mem_nil, or_false,
    forall_eq_or_imp, forall_eq]
  cases move <;> cases move' <;> decide

end Walk

end OfflineReels.Collector.Verification
