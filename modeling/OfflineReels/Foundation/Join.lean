import Mathlib.Data.List.Basic
import Mathlib.Data.List.Nodup

namespace OfflineReels.Foundation

/-! Joins of two lists of rows, row by row of the left one. -/

variable {Left Right : Type}

def innerJoin (left : List Left) (right : List Right)
    (on : Left → Right → Bool) : List (Left × Right) :=
  left.flatMap fun first =>
    (right.filter (on first)).map fun second => (first, second)

@[simp] theorem mem_innerJoin {left : List Left} {right : List Right}
    {on : Left → Right → Bool} {row : Left × Right} :
    row ∈ innerJoin left right on ↔
      row.1 ∈ left ∧ row.2 ∈ right ∧ on row.1 row.2 = true := by
  obtain ⟨first, second⟩ := row
  simp only [innerJoin, List.mem_flatMap, List.mem_map, List.mem_filter]
  constructor
  · rintro ⟨other, member, matched, ⟨present, related⟩, same⟩
    cases same
    exact ⟨member, present, related⟩
  · rintro ⟨member, present, related⟩
    exact ⟨first, member, second, ⟨present, related⟩, rfl⟩

theorem nodup_innerJoin {left : List Left} {right : List Right}
    (on : Left → Right → Bool) (distinct : left.Nodup)
    (other : right.Nodup) : (innerJoin left right on).Nodup := by
  unfold innerJoin
  rw [List.nodup_flatMap]
  constructor
  · intro first _
    apply (other.filter _).map
    intro second third same
    exact congrArg Prod.snd same
  · apply distinct.imp
    intro first second apart row member clash
    obtain ⟨_, _, rfl⟩ := List.mem_map.mp member
    obtain ⟨_, _, same⟩ := List.mem_map.mp clash
    exact apart (congrArg Prod.fst same).symm

/-- A left row without a partner stays, with a null one. -/
def outerJoin (left : List Left) (right : List Right)
    (on : Left → Right → Bool) : List (Left × Option Right) :=
  left.flatMap fun first =>
    match right.filter (on first) with
    | [] => [(first, none)]
    | matched => matched.map fun second => (first, some second)

theorem mem_outerJoin_none {left : List Left} {right : List Right}
    {on : Left → Right → Bool} {first : Left} :
    (first, none) ∈ outerJoin left right on ↔
      first ∈ left ∧ ∀ second ∈ right, on first second = false := by
  simp only [outerJoin, List.mem_flatMap]
  constructor
  · rintro ⟨other, member, present⟩
    split at present
    · rename_i unmatched
      have same : first = other := by simpa using present
      subst same
      refine ⟨member, fun second secondMember => ?_⟩
      have := List.filter_eq_nil_iff.mp unmatched second secondMember
      simpa using this
    · simp at present
  · rintro ⟨member, unmatched⟩
    have none : right.filter (on first) = [] := by
      rw [List.filter_eq_nil_iff]
      intro second secondMember
      simp [unmatched second secondMember]
    exact ⟨first, member, by simp [none]⟩

theorem filter_outerJoin_none (left : List Left) (right : List Right)
    (on : Left → Right → Bool) (test : Left → Bool) :
    (outerJoin left right on).filter (fun row =>
        test row.1 && row.2.isNone) =
      (left.filter fun first =>
        test first && right.all fun second => !on first second).map
          fun first => (first, none) := by
  induction left with
  | nil => rfl
  | cons first rest ih =>
      have split : outerJoin (first :: rest) right on =
          (match right.filter (on first) with
            | [] => [(first, none)]
            | matched => matched.map fun second => (first, some second)) ++
            outerJoin rest right on := rfl
      rw [split, List.filter_append, ih]
      cases matched : right.filter (on first) with
      | nil =>
          have alone : (right.all fun second => !on first second) = true := by
            simpa [List.filter_eq_nil_iff] using matched
          cases chosen : test first with
          | true => simp [chosen, alone]
          | false => simp [chosen]
      | cons second others =>
          have member : second ∈ right.filter (on first) := by
            rw [matched]
            exact List.mem_cons_self
          have joined : (right.all fun second => !on first second) = false := by
            rw [List.all_eq_false]
            exact ⟨second, List.mem_of_mem_filter member, by
              simpa using (List.mem_filter.mp member).2⟩
          have none : ((second :: others).map fun second =>
              (first, some second)).filter (fun row =>
                test row.1 && row.2.isNone) = [] := by
            rw [List.filter_eq_nil_iff]
            intro row member
            obtain ⟨partner, _, rfl⟩ := List.mem_map.mp member
            simp
          simp only [none, joined, List.nil_append, List.filter_cons,
            Bool.and_false, Bool.false_eq_true, if_false]

end OfflineReels.Foundation
