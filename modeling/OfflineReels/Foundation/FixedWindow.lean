import Mathlib.Data.List.Basic

namespace OfflineReels.Foundation

/-! Counting in fixed windows.  Arrivals are noted with the start of the window
in which they are counted, the latest one first. -/

structure Arrival (Key : Type) where
  key : Key
  time : Nat
  window : Nat
  deriving DecidableEq, Repr

section

variable {Key : Type} [DecidableEq Key]

def countIn (arrivals : List (Arrival Key)) (key : Key) (window : Nat) : Nat :=
  arrivals.countP fun arrival => arrival.key = key ∧ arrival.window = window

/-- What arrived in an interval, the end of which is outside. -/
def countBetween (arrivals : List (Arrival Key)) (key : Key)
    (start length : Nat) : Nat :=
  arrivals.countP fun arrival => arrival.key = key ∧ start ≤ arrival.time ∧
    arrival.time < start + length

def currentWindow (arrivals : List (Arrival Key)) (key : Key) : Option Nat :=
  (arrivals.find? fun arrival => arrival.key = key).map (·.window)

def countNow (arrivals : List (Arrival Key)) (key : Key) : Nat :=
  match currentWindow arrivals key with
  | none => 0
  | some window => countIn arrivals key window

/-- No window has more than the limit, each arrival is in its window, and the
windows of a key do not overlap. -/
structure Windowed (length : Nat) (limits : Key → Nat)
    (arrivals : List (Arrival Key)) : Prop where
  limited : ∀ key window, countIn arrivals key window ≤ limits key
  inside : ∀ arrival ∈ arrivals, arrival.window ≤ arrival.time ∧
    arrival.time < arrival.window + length
  apart : ∀ first ∈ arrivals, ∀ second ∈ arrivals, first.key = second.key →
    first.window = second.window ∨ first.window + length ≤ second.window ∨
      second.window + length ≤ first.window
  latest : ∀ arrival ∈ arrivals, ∀ window,
    currentWindow arrivals arrival.key = some window → arrival.window ≤ window

variable {length : Nat} {limits : Key → Nat} {arrivals : List (Arrival Key)}
  {arrival : Arrival Key} {key : Key} {window : Nat}

theorem countIn_cons :
    countIn (arrival :: arrivals) key window =
      countIn arrivals key window +
        if arrival.key = key ∧ arrival.window = window then 1 else 0 := by
  simp [countIn, List.countP_cons]

theorem currentWindow_cons_self :
    currentWindow (arrival :: arrivals) arrival.key = some arrival.window := by
  simp [currentWindow]

theorem currentWindow_cons_other (other : arrival.key ≠ key) :
    currentWindow (arrival :: arrivals) key = currentWindow arrivals key := by
  simp [currentWindow, other]

theorem windowed_nil : Windowed length limits [] where
  limited := fun _ _ => Nat.zero_le _
  inside := nofun
  apart := nofun
  latest := nofun

theorem mem_of_currentWindow
    (current : currentWindow arrivals key = some window) :
    ∃ arrival ∈ arrivals, arrival.key = key ∧ arrival.window = window := by
  obtain ⟨arrival, found, same⟩ := Option.map_eq_some_iff.mp current
  have here : arrival.key = key := by simpa using List.find?_some found
  exact ⟨arrival, List.mem_of_find?_eq_some found, here, same⟩

theorem Windowed.counted (windowed : Windowed length limits arrivals)
    (current : currentWindow arrivals arrival.key = some arrival.window)
    (room : countIn arrivals arrival.key arrival.window < limits arrival.key)
    (started : arrival.window ≤ arrival.time)
    (running : arrival.time < arrival.window + length) :
    Windowed length limits (arrival :: arrivals) := by
  obtain ⟨other, member, sameKey, sameWindow⟩ := mem_of_currentWindow current
  constructor
  · intro key window
    rw [countIn_cons]
    have before := windowed.limited key window
    split
    · rename_i here
      obtain ⟨rfl, rfl⟩ := here
      omega
    · omega
  · intro member present
    rcases List.mem_cons.mp present with rfl | earlier
    · exact ⟨started, running⟩
    · exact windowed.inside member earlier
  · intro first firstMember second secondMember same
    rcases List.mem_cons.mp firstMember with rfl | firstEarlier <;>
      rcases List.mem_cons.mp secondMember with rfl | secondEarlier
    · exact .inl rfl
    · rw [← sameWindow]
      exact windowed.apart other member second secondEarlier
        (sameKey.trans same)
    · rw [← sameWindow]
      exact windowed.apart first firstEarlier other member
        (same.trans sameKey.symm)
    · exact windowed.apart first firstEarlier second secondEarlier same
  · intro present there window now
    by_cases same : arrival.key = present.key
    · rw [← same, currentWindow_cons_self] at now
      cases now
      rcases List.mem_cons.mp there with rfl | earlier
      · exact Nat.le_refl _
      · exact windowed.latest present earlier _ (same ▸ current)
    · rw [currentWindow_cons_other same] at now
      rcases List.mem_cons.mp there with rfl | earlier
      · exact absurd rfl same
      · exact windowed.latest present earlier _ now

theorem countIn_fresh {start : Nat} (positive : 0 < length)
    (ended : ∀ other ∈ arrivals, other.key = key →
      other.window + length ≤ start) :
    countIn arrivals key start = 0 := by
  refine List.countP_eq_zero.mpr fun other member same => ?_
  obtain ⟨sameKey, sameWindow⟩ := of_decide_eq_true same
  have before := ended other member sameKey
  omega

theorem Windowed.opened (windowed : Windowed length limits arrivals)
    (positive : 0 < length) (room : 0 < limits arrival.key)
    (opens : arrival.window = arrival.time)
    (ended : ∀ other ∈ arrivals, other.key = arrival.key →
      other.window + length ≤ arrival.time) :
    Windowed length limits (arrival :: arrivals) := by
  have fresh : countIn arrivals arrival.key arrival.window = 0 :=
    opens ▸ countIn_fresh positive ended
  constructor
  · intro key window
    rw [countIn_cons]
    split
    · rename_i here
      obtain ⟨rfl, rfl⟩ := here
      omega
    · exact windowed.limited key window
  · intro member present
    rcases List.mem_cons.mp present with rfl | earlier
    · omega
    · exact windowed.inside member earlier
  · intro first firstMember second secondMember same
    rcases List.mem_cons.mp firstMember with rfl | firstEarlier <;>
      rcases List.mem_cons.mp secondMember with rfl | secondEarlier
    · exact .inl rfl
    · have before := ended second secondEarlier same.symm
      omega
    · have before := ended first firstEarlier same
      omega
    · exact windowed.apart first firstEarlier second secondEarlier same
  · intro present there window now
    by_cases same : arrival.key = present.key
    · rw [← same, currentWindow_cons_self] at now
      cases now
      rcases List.mem_cons.mp there with rfl | earlier
      · exact Nat.le_refl _
      · have before := ended present earlier same.symm
        omega
    · rw [currentWindow_cons_other same] at now
      rcases List.mem_cons.mp there with rfl | earlier
      · exact absurd rfl same
      · exact windowed.latest present earlier _ now

theorem Windowed.countP_le (windowed : Windowed length limits arrivals)
    {test : Arrival Key → Bool}
    (same : ∀ first ∈ arrivals, test first = true → first.key = key ∧
      ∀ second ∈ arrivals, test second = true →
        first.window = second.window) :
    arrivals.countP test ≤ limits key := by
  by_cases none : ∀ arrival ∈ arrivals, test arrival ≠ true
  · rw [List.countP_eq_zero.mpr none]
    exact Nat.zero_le _
  · simp only [not_forall, not_not] at none
    obtain ⟨first, member, passed⟩ := none
    obtain ⟨rfl, _⟩ := same first member passed
    refine Nat.le_trans ?_ (windowed.limited first.key first.window)
    apply List.countP_mono_left
    intro second there holds
    obtain ⟨sameKey, windows⟩ := same second there holds
    exact decide_eq_true ⟨sameKey, windows first member passed⟩

theorem countP_split {α : Type} (test other : α → Bool) (list : List α) :
    list.countP test = list.countP (fun item => test item && other item) +
      list.countP (fun item => test item && !other item) := by
  induction list with
  | nil => rfl
  | cons item list ih =>
      simp only [List.countP_cons, ih]
      cases test item <;> cases other item <;> simp <;> omega

/-- An interval of the length of a window meets two windows at most. -/
theorem Windowed.countBetween_le (windowed : Windowed length limits arrivals)
    (key : Key) (start : Nat) :
    countBetween arrivals key start length ≤ 2 * limits key := by
  rw [countBetween, countP_split _ fun arrival =>
    decide (arrival.window < start), Nat.two_mul]
  apply Nat.add_le_add
  -- the windows that were open before the interval
  · refine windowed.countP_le fun first member passed => ?_
    simp only [Bool.and_eq_true, decide_eq_true_eq] at passed
    obtain ⟨⟨sameKey, from_, _⟩, early⟩ := passed
    refine ⟨sameKey, fun second there holds => ?_⟩
    simp only [Bool.and_eq_true, decide_eq_true_eq] at holds
    obtain ⟨⟨otherKey, later, _⟩, before⟩ := holds
    have first_ := windowed.inside first member
    have second_ := windowed.inside second there
    rcases windowed.apart first member second there
      (sameKey.trans otherKey.symm) with same | apart | apart
    · exact same
    · omega
    · omega
  -- those opened inside it
  · refine windowed.countP_le fun first member passed => ?_
    simp only [Bool.and_eq_true, decide_eq_true_eq, Bool.not_eq_true',
      decide_eq_false_iff_not] at passed
    obtain ⟨⟨sameKey, _, before⟩, late⟩ := passed
    refine ⟨sameKey, fun second there holds => ?_⟩
    simp only [Bool.and_eq_true, decide_eq_true_eq, Bool.not_eq_true',
      decide_eq_false_iff_not] at holds
    obtain ⟨⟨otherKey, _, inside⟩, inner⟩ := holds
    have first_ := windowed.inside first member
    have second_ := windowed.inside second there
    rcases windowed.apart first member second there
      (sameKey.trans otherKey.symm) with same | apart | apart
    · exact same
    · omega
    · omega

end

end OfflineReels.Foundation
