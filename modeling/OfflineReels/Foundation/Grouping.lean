import Mathlib.Order.Lattice

namespace OfflineReels.Foundation

/-! Lists grouped by a key.  The groups forget how the list interleaves them,
which an order of the keys fixes again. -/

section

variable {Row Key : Type} [LinearOrder Key] {key : Row → Key}
variable {rows left right : List Row}

def groupAt (key : Row → Key) (rows : List Row) (index : Key) : List Row :=
  rows.filter fun row => key row = index

def Ordered (key : Row → Key) (rows : List Row) : Prop :=
  rows.Pairwise fun first second => key first ≤ key second

theorem groupAt_cons_self (row : Row) :
    groupAt key (row :: rows) (key row) =
      row :: groupAt key rows (key row) := by
  simp [groupAt]

theorem groupAt_cons_of_ne {row : Row} {index : Key}
    (other : key row ≠ index) :
    groupAt key (row :: rows) index = groupAt key rows index := by
  simp [groupAt, other]

theorem Ordered.head_le {row other : Row} (ordered : Ordered key (row :: rows))
    (member : other ∈ row :: rows) : key row ≤ key other := by
  rcases List.mem_cons.mp member with rfl | later
  · exact le_rfl
  · exact (List.pairwise_cons.mp ordered).1 other later

theorem Ordered.tail {row : Row} (ordered : Ordered key (row :: rows)) :
    Ordered key rows :=
  (List.pairwise_cons.mp ordered).2

theorem first_mem {row : Row}
    (same : ∀ index, groupAt key (row :: left) index =
      groupAt key right index) : row ∈ right := by
  have member : row ∈ groupAt key right (key row) := by
    rw [← same, groupAt_cons_self]
    exact List.mem_cons_self
  exact (List.mem_filter.mp member).1

theorem Ordered.eq_of_groups (ordered : Ordered key left)
    (ordered' : Ordered key right)
    (same : ∀ index, groupAt key left index = groupAt key right index) :
    left = right := by
  induction left generalizing right with
  | nil =>
      cases right with
      | nil => rfl
      | cons other right =>
          cases first_mem fun index => (same index).symm
  | cons row left ih =>
      cases right with
      | nil => cases first_mem same
      | cons other right =>
          have keys : key row = key other := by
            apply le_antisymm
            · exact ordered.head_le (first_mem fun index => (same index).symm)
            · exact ordered'.head_le (first_mem same)
          have group := same (key row)
          rw [groupAt_cons_self, keys, groupAt_cons_self] at group
          obtain ⟨rfl, rest⟩ := List.cons.inj group
          congr 1
          apply ih ordered.tail ordered'.tail
          intro index
          by_cases here : key row = index
          · subst here
            exact rest
          · have whole := same index
            rw [groupAt_cons_of_ne here, groupAt_cons_of_ne here] at whole
            exact whole

end

end OfflineReels.Foundation
