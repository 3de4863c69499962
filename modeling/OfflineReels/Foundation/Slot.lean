import OfflineReels.Foundation.Table

namespace OfflineReels.Foundation

/-! Rows that occupy their owner: at most one active row for each owner. -/

namespace Table

section

variable {Row Key Owner : Type} {key : Row → Key}
variable (owner : Row → Owner) (active : Row → Bool)

/-- No row is active for the owner. -/
def Vacant (table : Table Row Key key) (subject : Owner) : Prop :=
  ∀ row ∈ table, owner row = subject → active row = false

/-- The row is the only one that is active for the owner. -/
structure Occupied (table : Table Row Key key) (subject : Owner)
    (row : Row) : Prop where
  member : row ∈ table
  owned : owner row = subject
  isActive : active row = true
  only : ∀ other ∈ table, owner other = subject → active other = true →
    other = row

variable {owner active}
variable {table after : Table Row Key key} {subject : Owner} {row : Row}

theorem Vacant.of_members (vacant : Vacant owner active table subject)
    (same : ∀ other, owner other = subject → (other ∈ after ↔ other ∈ table)) :
    Vacant owner active after subject := by
  intro other member owned
  exact vacant other ((same other owned).mp member) owned

theorem Occupied.of_members (occupied : Occupied owner active table subject row)
    (same : ∀ other, owner other = subject → (other ∈ after ↔ other ∈ table)) :
    Occupied owner active after subject row where
  member := (same row occupied.owned).mpr occupied.member
  owned := occupied.owned
  isActive := occupied.isActive
  only := by
    intro other member owned isActive
    exact occupied.only other ((same other owned).mp member) owned isActive

theorem Vacant.length_filter (vacant : Vacant owner active table subject)
    {test : Row → Bool}
    (selects : ∀ other, test other = true →
      owner other = subject ∧ active other = true) :
    (table.rows.filter test).length = 0 := by
  apply length_filter_eq_zero
  intro other member
  rw [Bool.eq_false_iff]
  intro passes
  obtain ⟨owned, isActive⟩ := selects other passes
  rw [vacant other member owned] at isActive
  cases isActive

theorem Occupied.length_filter (occupied : Occupied owner active table subject row)
    {test : Row → Bool} (passes : test row = true)
    (selects : ∀ other, test other = true →
      owner other = subject ∧ active other = true) :
    (table.rows.filter test).length = 1 := by
  apply length_filter_eq_one occupied.member passes
  intro other member otherPasses
  obtain ⟨owned, isActive⟩ := selects other otherPasses
  exact occupied.only other member owned isActive

theorem Occupied.length_filter_zero
    (occupied : Occupied owner active table subject row)
    {test : Row → Bool} (fails : test row = false)
    (selects : ∀ other, test other = true →
      owner other = subject ∧ active other = true) :
    (table.rows.filter test).length = 0 := by
  apply length_filter_eq_zero
  intro other member
  rw [Bool.eq_false_iff]
  intro passes
  obtain ⟨owned, isActive⟩ := selects other passes
  rw [occupied.only other member owned isActive, fails] at passes
  cases passes

variable [DecidableEq Key]

variable (owner) in
theorem mem_put_of_other {written other : Row}
    (member : row ∈ table) (sameKey : key written = key row)
    (sameOwner : owner written = owner row) (differs : owner other ≠ owner row) :
    other ∈ table.put written ↔ other ∈ table := by
  rw [mem_put]
  constructor
  · rintro (⟨rfl, _⟩ | ⟨present, _⟩)
    · exact absurd sameOwner differs
    · exact present
  · intro present
    right
    refine ⟨present, ?_⟩
    intro same
    have equal := eq_of_key_eq present member (same.trans sameKey)
    exact differs (congrArg owner equal)

variable (owner) in
theorem mem_insert?_of_other {inserted other : Row}
    (shape : table.insert? inserted = some after)
    (differs : owner other ≠ owner inserted) :
    other ∈ after ↔ other ∈ table := by
  rw [mem_insert? shape]
  constructor
  · rintro (present | rfl)
    · exact present
    · exact absurd rfl differs
  · exact .inl

theorem Occupied.vacate (occupied : Occupied owner active table subject row)
    {written : Row} (sameKey : key written = key row)
    (inactive : active written = false) :
    Vacant owner active (table.put written) subject := by
  intro other member owned
  rcases mem_put.mp member with ⟨rfl, _⟩ | ⟨present, differs⟩
  · exact inactive
  · cases isActive : active other with
    | false => rfl
    | true =>
        have same := occupied.only other present owned isActive
        rw [same, sameKey] at differs
        exact absurd rfl differs

theorem Occupied.replace (occupied : Occupied owner active table subject row)
    {written : Row} (sameKey : key written = key row)
    (owned : owner written = subject) (isActive : active written = true) :
    Occupied owner active (table.put written) subject written where
  member := mem_put.mpr (.inl ⟨rfl, row, occupied.member, sameKey.symm⟩)
  owned := owned
  isActive := isActive
  only := by
    intro other member otherOwned otherActive
    rcases mem_put.mp member with ⟨rfl, _⟩ | ⟨present, differs⟩
    · rfl
    · have same := occupied.only other present otherOwned otherActive
      rw [same, sameKey] at differs
      exact absurd rfl differs

theorem Vacant.occupy (vacant : Vacant owner active table subject)
    (shape : table.insert? row = some after) (owned : owner row = subject)
    (isActive : active row = true) :
    Occupied owner active after subject row where
  member := (mem_insert? shape).mpr (.inr rfl)
  owned := owned
  isActive := isActive
  only := by
    intro other member otherOwned otherActive
    rcases (mem_insert? shape).mp member with present | rfl
    · rw [vacant other present otherOwned] at otherActive
      cases otherActive
    · rfl

end

end Table

end OfflineReels.Foundation
