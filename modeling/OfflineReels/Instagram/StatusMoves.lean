import OfflineReels.Foundation.Table
import OfflineReels.Instagram.Contracts

namespace OfflineReels.Instagram

open OfflineReels.Foundation

/-! How the statuses of the rows of a table may change. -/

variable {Row Key Identity Status : Type} {key : Row → Key}
variable [DecidableEq Status]

/-- Rows keep their identity and move along the policy; a new row has come from
the initial status. -/
structure StatusMoves (identity : Row → Identity) (status : Row → Status)
    (policy : Status → List Status) (initial : Status)
    (before after : Table Row Key key) : Prop where
  moved : ∀ row ∈ before, ∃ later ∈ after, identity later = identity row ∧
    TransitionPath policy (status row) (status later)
  created : ∀ later ∈ after, (∃ row ∈ before, identity row = identity later) ∨
    TransitionPath policy initial (status later)

namespace StatusMoves

variable {identity : Row → Identity} {status : Row → Status}
variable {policy : Status → List Status} {initial : Status}
variable {first second third : Table Row Key key}

theorem refl (table : Table Row Key key) :
    StatusMoves identity status policy initial table table where
  moved := fun row member => ⟨row, member, rfl, .stay _⟩
  created := fun row member => .inl ⟨row, member, rfl⟩

theorem of_insert [DecidableEq Key] {row : Row}
    (shape : first.insert? row = some second)
    (path : TransitionPath policy initial (status row)) :
    StatusMoves identity status policy initial first second where
  moved := by
    intro other member
    exact ⟨other, (Table.mem_insert? shape).mpr (.inl member), rfl, .stay _⟩
  created := by
    intro later member
    rcases (Table.mem_insert? shape).mp member with present | rfl
    · exact .inl ⟨later, present, rfl⟩
    · exact .inr path

variable (keyed : ∀ row other : Row,
  identity row = identity other → key row = key other)

include keyed

theorem trans
    (left : StatusMoves identity status policy initial first second)
    (right : StatusMoves identity status policy initial second third) :
    StatusMoves identity status policy initial first third where
  moved := by
    intro row member
    obtain ⟨middle, middleMember, same, path⟩ := left.moved row member
    obtain ⟨later, laterMember, again, rest⟩ := right.moved middle middleMember
    exact ⟨later, laterMember, again.trans same, path.trans rest⟩
  created := by
    intro later member
    rcases right.created later member with ⟨middle, middleMember, same⟩ | path
    · rcases left.created middle middleMember with ⟨row, rowMember, again⟩ | path
      · exact .inl ⟨row, rowMember, again.trans same⟩
      · obtain ⟨moved, movedMember, identical, rest⟩ :=
          right.moved middle middleMember
        have equal : moved = later := Table.eq_of_key_eq movedMember member
          (keyed moved later (identical.trans same))
        rw [equal] at rest
        exact .inr (path.trans rest)
    · exact .inr path

theorem of_put [DecidableEq Key] {row written : Row} (member : row ∈ first)
    (same : identity written = identity row)
    (path : TransitionPath policy (status row) (status written)) :
    StatusMoves identity status policy initial first (first.put written) where
  moved := by
    intro other otherMember
    by_cases equal : key other = key written
    · have rewritten : other = row := Table.eq_of_key_eq otherMember member
        (equal.trans (keyed written row same))
      rw [rewritten]
      have present : written ∈ first.put written :=
        Table.mem_put.mpr (.inl ⟨rfl, row, member, (keyed written row same).symm⟩)
      exact ⟨written, present, same, path⟩
    · have present : other ∈ first.put written :=
        Table.mem_put.mpr (.inr ⟨otherMember, equal⟩)
      exact ⟨other, present, rfl, .stay _⟩
  created := by
    intro later laterMember
    rcases Table.mem_put.mp laterMember with ⟨rfl, _⟩ | ⟨present, _⟩
    · exact .inl ⟨row, member, same.symm⟩
    · exact .inl ⟨later, present, rfl⟩

end StatusMoves

end OfflineReels.Instagram
