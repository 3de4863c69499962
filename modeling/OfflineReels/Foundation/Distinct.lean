import Mathlib.Algebra.GroupWithZero.Nat
import Mathlib.Data.List.Sort

namespace OfflineReels.Foundation

/-! Ordered rows that repeat, and what a limit leaves of them once the
repetitions are dropped. -/

variable {Row : Type}

def blocks (count : Row → Nat) (rows : List Row) : List Row :=
  rows.flatMap fun row => List.replicate (count row) row

@[simp] theorem blocks_nil (count : Row → Nat) : blocks count [] = [] := rfl

@[simp] theorem blocks_cons (count : Row → Nat) (row : Row)
    (rest : List Row) :
    blocks count (row :: rest) =
      List.replicate (count row) row ++ blocks count rest := rfl

theorem mem_blocks {count : Row → Nat} {rows : List Row} {row : Row} :
    row ∈ blocks count rows ↔ row ∈ rows ∧ 0 < count row := by
  simp only [blocks, List.mem_flatMap, List.mem_replicate]
  constructor
  · intro ⟨other, member, positive, same⟩
    subst same
    exact ⟨member, Nat.pos_of_ne_zero positive⟩
  · intro ⟨member, positive⟩
    exact ⟨row, member, Nat.ne_of_gt positive, rfl⟩

theorem count_blocks [DecidableEq Row] {count : Row → Nat} {rows : List Row}
    (distinct : rows.Nodup) (row : Row) :
    (blocks count rows).count row = if row ∈ rows then count row else 0 := by
  induction rows with
  | nil => rfl
  | cons first rest ih =>
      obtain ⟨absent, distinct⟩ := List.nodup_cons.mp distinct
      rw [blocks_cons, List.count_append, ih distinct]
      by_cases same : first = row
      · subst same
        simp [absent]
      · have other : row ≠ first := fun equal => same equal.symm
        simp [List.count_replicate, same, other]

theorem pairwise_blocks {order : Row → Row → Prop}
    (reflexive : ∀ row, order row row) {count : Row → Nat} {rows : List Row}
    (ordered : rows.Pairwise order) : (blocks count rows).Pairwise order := by
  induction rows with
  | nil => exact .nil
  | cons first rest ih =>
      obtain ⟨before, ordered⟩ := List.pairwise_cons.mp ordered
      rw [blocks_cons, List.pairwise_append]
      refine ⟨List.pairwise_replicate.mpr (.inr (reflexive first)),
        ih ordered, ?_⟩
      intro left leftMember right rightMember
      rw [List.eq_of_mem_replicate leftMember]
      exact before right (mem_blocks.mp rightMember).1

theorem eq_blocks [DecidableEq Row] {order : Row → Row → Prop}
    (reflexive : ∀ row, order row row) {rows distinct : List Row}
    (antisymmetric : ∀ left ∈ rows, ∀ right ∈ rows, order left right →
      order right left → left = right)
    (ordered : rows.Pairwise order) (increasing : distinct.Pairwise order)
    (nodup : distinct.Nodup) (same : ∀ row, row ∈ distinct ↔ row ∈ rows) :
    rows = blocks (rows.count ·) distinct := by
  have equal : rows.Perm (blocks (rows.count ·) distinct) := by
    rw [List.perm_iff_count]
    intro row
    rw [count_blocks nodup]
    split
    · rfl
    · rename_i absent
      rw [same] at absent
      exact List.count_eq_zero.mpr absent
  refine List.Perm.eq_of_pairwise ?_ ordered
    (pairwise_blocks reflexive increasing) equal
  intro left right leftMember rightMember
  exact antisymmetric left leftMember right (equal.mem_iff.mpr rightMember)

def reached (count : Row → Nat) : List Row → Nat → Nat
  | [], _ => 0
  | _ :: _, 0 => 0
  | row :: rest, limit + 1 => 1 + reached count rest (limit + 1 - count row)

theorem eraseDups_replicate_append [DecidableEq Row] {row : Row} {others : List Row}
    (absent : row ∉ others) (times : Nat) :
    (List.replicate (times + 1) row ++ others).eraseDups =
      row :: others.eraseDups := by
  rw [List.replicate_succ, List.cons_append, List.eraseDups_cons]
  have dropped : (List.replicate times row ++ others).filter
      (fun other => !other == row) = others := by
    rw [List.filter_append, List.filter_replicate]
    have kept : others.filter (fun other => !other == row) = others := by
      rw [List.filter_eq_self]
      intro other member
      simp only [Bool.not_eq_true', beq_eq_false_iff_ne]
      intro same
      exact absent (same ▸ member)
    simp [kept]
  rw [dropped]

theorem eraseDups_take_blocks [DecidableEq Row] {count : Row → Nat}
    {rows : List Row}
    (positive : ∀ row ∈ rows, 0 < count row) (distinct : rows.Nodup)
    (limit : Nat) :
    ((blocks count rows).take limit).eraseDups =
      rows.take (reached count rows limit) := by
  induction rows generalizing limit with
  | nil => simp [reached]
  | cons row rest ih =>
      obtain ⟨absent, distinct⟩ := List.nodup_cons.mp distinct
      cases limit with
      | zero => rfl
      | succ limit =>
          have here := positive row List.mem_cons_self
          obtain ⟨times, shape⟩ : ∃ times, min (limit + 1) (count row) =
              times + 1 :=
            Nat.exists_eq_succ_of_ne_zero (by omega)
          have missing : row ∉ (blocks count rest).take
              (limit + 1 - count row) := by
            intro member
            exact absent (mem_blocks.mp (List.mem_of_mem_take member)).1
          rw [blocks_cons, List.take_append, List.take_replicate,
            List.length_replicate, shape, eraseDups_replicate_append missing,
            ih (fun other member => positive other
              (List.mem_cons_of_mem _ member)) distinct, reached,
            Nat.add_comm 1, List.take_succ_cons]

/-- The limit reaches as many rows as it could if those before the last of them
take up less than it. -/
theorem take_reached {count : Row → Nat} {rows : List Row}
    (positive : ∀ row ∈ rows, 0 < count row) {limit wanted : Nat}
    (below : limit ≤ wanted) :
    rows.take (reached count rows limit) = rows.take wanted ↔
      rows.take wanted = [] ∨
        (((rows.take wanted).dropLast).map count).sum < limit := by
  induction rows generalizing limit wanted with
  | nil => simp
  | cons row rest ih =>
      have later := fun other member =>
        positive other (List.mem_cons_of_mem row member)
      have here := positive row List.mem_cons_self
      cases wanted with
      | zero =>
          obtain rfl := Nat.le_zero.mp below
          simp [reached]
      | succ wanted =>
          cases limit with
          | zero => simp [reached]
          | succ limit =>
              have smaller : limit + 1 - count row ≤ wanted := by omega
              rw [reached, Nat.add_comm 1, List.take_succ_cons,
                List.take_succ_cons, List.cons.injEq, ih later smaller]
              simp only [true_and, List.cons_ne_nil, false_or]
              cases tail : rest.take wanted with
              | nil => simp
              | cons second others =>
                  rw [List.dropLast_cons_of_ne_nil (List.cons_ne_nil _ _),
                    List.map_cons, List.sum_cons]
                  simp only [List.cons_ne_nil, false_or]
                  omega

end OfflineReels.Foundation
