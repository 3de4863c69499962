import Mathlib.Data.List.MinMax
import Mathlib.Data.List.Nodup
import Mathlib.Data.List.Perm.Basic

namespace OfflineReels.Foundation

/-! The entry of a collection that is stamped later than all the others. -/

section

variable {Entry Stamp : Type} [LinearOrder Stamp] {stamp : Entry → Stamp}

def Newer (stamp : Entry → Stamp) (entries : List Entry) (entry : Entry) :
    Prop :=
  ∀ other ∈ entries, stamp other < stamp entry

def Latest (stamp : Entry → Stamp) (entries : List Entry) (entry : Entry) :
    Prop :=
  entry ∈ entries ∧
    ∀ other ∈ entries, other = entry ∨ stamp other < stamp entry

instance (entries : List Entry) (entry : Entry) :
    Decidable (Newer stamp entries entry) :=
  inferInstanceAs (Decidable (∀ _ ∈ _, _))

instance [DecidableEq Entry] (entries : List Entry) (entry : Entry) :
    Decidable (Latest stamp entries entry) :=
  inferInstanceAs (Decidable (_ ∧ _))

theorem Latest.perm {entries others : List Entry} {entry : Entry}
    (latest : Latest stamp entries entry) (same : entries.Perm others) :
    Latest stamp others entry :=
  ⟨same.mem_iff.mp latest.1,
    fun other member => latest.2 other (same.mem_iff.mpr member)⟩

/-- The latest of a collection and one more entry was the latest already, unless
it is the added one and newer. -/
theorem Latest.of_concat {entries : List Entry} {added entry : Entry}
    (latest : Latest stamp (entries ++ [added]) entry) :
    (entry = added ∧ Newer stamp entries added) ∨
      Latest stamp entries entry := by
  obtain ⟨member, above⟩ := latest
  have earlier : ∀ other ∈ entries, other = entry ∨ stamp other < stamp entry :=
    fun other here => above other (List.mem_append_left _ here)
  rcases List.mem_append.mp member with present | final
  · exact .inr ⟨present, earlier⟩
  · have same := List.mem_singleton.mp final
    subst same
    by_cases present : entry ∈ entries
    · exact .inr ⟨present, earlier⟩
    · refine .inl ⟨rfl, fun other here => ?_⟩
      rcases earlier other here with rfl | below
      · exact absurd here present
      · exact below

theorem exists_latest {entries : List Entry}
    (distinct : (entries.map stamp).Nodup) (some : entries ≠ []) :
    ∃ entry, Latest stamp entries entry := by
  cases greatest : entries.argmax stamp with
  | none => exact absurd (List.argmax_eq_none.mp greatest) some
  | some entry =>
      have member := List.argmax_mem greatest
      refine ⟨entry, member, fun other here => ?_⟩
      rcases (List.le_of_mem_argmax here greatest).lt_or_eq with below | same
      · exact .inr below
      · exact .inl (List.inj_on_of_nodup_map distinct here member same)

end

end OfflineReels.Foundation
