import Mathlib.Data.List.Sort

namespace OfflineReels.Foundation

/-! Pages of an ordered list, each continued after the last row of the one
before. -/

variable {Row : Type} {follows : Row → Row → Prop}
variable (asymmetric : ∀ first second, follows first second →
  ¬ follows second first)

include asymmetric

theorem not_follows_self (row : Row) : ¬ follows row row :=
  fun self => asymmetric row row self self

theorem nodup_of_ordered {rows : List Row} (ordered : rows.Pairwise follows) :
    rows.Nodup := by
  refine ordered.imp ?_
  intro first second order same
  subst same
  exact not_follows_self asymmetric first order

theorem eq_of_members {first second : List Row}
    (left : first.Pairwise follows) (right : second.Pairwise follows)
    (same : ∀ row, row ∈ first ↔ row ∈ second) : first = second := by
  have permuted : first.Perm second :=
    (List.perm_ext_iff_of_nodup (nodup_of_ordered asymmetric left)
      (nodup_of_ordered asymmetric right)).mpr same
  refine List.Perm.eq_of_pairwise ?_ left right permuted
  intro row other _ _ order reverse
  exact absurd reverse (asymmetric row other order)

theorem mem_drop_iff {rows : List Row} (ordered : rows.Pairwise follows)
    {size : Nat} {last row : Row} (page : (rows.take size).getLast? = some last)
    (member : row ∈ rows) : row ∈ rows.drop size ↔ follows last row := by
  have joined := List.take_append_drop size rows
  rw [← joined, List.pairwise_append] at ordered
  obtain ⟨inPage, _, across⟩ := ordered
  obtain ⟨start, shape⟩ := List.getLast?_eq_some_iff.mp page
  constructor
  · intro behind
    refine across last ?_ row behind
    rw [shape]
    exact List.mem_append_right _ (List.mem_singleton_self last)
  · intro after
    rw [← joined, List.mem_append] at member
    rcases member with within | behind
    · rw [shape] at within inPage
      rcases List.mem_append.mp within with before | here
      · have order := (List.pairwise_append.mp inPage).2.2 row before last
          (List.mem_singleton_self last)
        exact absurd after (asymmetric row last order)
      · rw [List.mem_singleton] at here
        subst here
        exact absurd after (not_follows_self asymmetric row)
    · exact behind

end OfflineReels.Foundation
