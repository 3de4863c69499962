import Mathlib.Logic.Basic

namespace OfflineReels.Foundation

/-! Obligations in a history.  An event opens one, and a later event closes
it. -/

section

variable {Event Key : Type} {opens : Event → Option Key}
variable {closes : Key → Event → Bool} {history : List Event} {event : Event}
variable {key : Key}

def Owed (opens : Event → Option Key) (closes : Key → Event → Bool)
    (history : List Event) (key : Key) : Prop :=
  ∃ before opening later, history = before ++ opening :: later ∧
    opens opening = some key ∧ ∀ other ∈ later, closes key other = false

theorem not_owed_nil : ¬ Owed opens closes [] key := by
  intro owed
  obtain ⟨before, opening, later, split, _⟩ := owed
  cases before <;> cases split

theorem owed_append : Owed opens closes (history ++ [event]) key ↔
    opens event = some key ∨
      Owed opens closes history key ∧ closes key event = false := by
  constructor
  · intro owed
    obtain ⟨before, opening, later, split, opened, still⟩ := owed
    rcases List.eq_nil_or_concat later with rfl | ⟨earlier, last, rfl⟩
    · obtain ⟨_, same⟩ := List.append_inj' split rfl
      cases same
      exact .inl opened
    · rw [List.concat_eq_append, ← List.cons_append, ← List.append_assoc]
        at split
      obtain ⟨rest, same⟩ := List.append_inj' split rfl
      cases same
      rw [List.concat_eq_append] at still
      refine .inr ⟨⟨before, opening, earlier, rest, opened, ?_⟩, ?_⟩
      · intro other member
        exact still other (List.mem_append_left _ member)
      · exact still event (List.mem_append_right _ List.mem_cons_self)
  · intro owed
    rcases owed with opened | ⟨owed, still⟩
    · refine ⟨history, event, [], rfl, opened, ?_⟩
      intro other member
      cases member
    · obtain ⟨before, opening, later, split, opened, waits⟩ := owed
      refine ⟨before, opening, later ++ [event], ?_, opened, ?_⟩
      · rw [split, List.append_assoc, List.cons_append]
      · intro other member
        rcases List.mem_append.mp member with earlier | latest
        · exact waits other earlier
        · rw [List.mem_singleton.mp latest]
          exact still

theorem owed_of_append (opensNothing : opens event = none)
    (owed : Owed opens closes (history ++ [event]) key) :
    Owed opens closes history key := by
  rcases owed_append.mp owed with clash | ⟨before, _⟩
  · rw [opensNothing] at clash
    cases clash
  · exact before

theorem closed_of_not_owed (settled : ¬ Owed opens closes history key)
    {before later : List Event} {opening : Event}
    (split : history = before ++ opening :: later)
    (opened : opens opening = some key) :
    ∃ other ∈ later, closes key other = true := by
  apply Classical.byContradiction
  intro none
  apply settled
  refine ⟨before, opening, later, split, opened, ?_⟩
  intro other member
  rw [Bool.eq_false_iff]
  intro closed
  exact none ⟨other, member, closed⟩

end

end OfflineReels.Foundation
