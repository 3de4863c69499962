import Mathlib.Data.List.Nodup
import Mathlib.Data.List.Basic
import Mathlib.Data.List.Find

namespace OfflineReels.Foundation

/-! Tables with a primary key.  No two rows share a key, by construction. -/

structure Table (Row Key : Type) (key : Row → Key) where
  rows : List Row
  keysNodup : (rows.map key).Nodup

namespace Table

variable {Row Key : Type} {key : Row → Key}

instance : Membership Row (Table Row Key key) :=
  ⟨fun table row => row ∈ table.rows⟩

theorem mem_def {table : Table Row Key key} {row : Row} :
    row ∈ table ↔ row ∈ table.rows := Iff.rfl

instance [DecidableEq Row] (row : Row) (table : Table Row Key key) :
    Decidable (row ∈ table) :=
  inferInstanceAs (Decidable (row ∈ table.rows))

instance {test : Row → Prop} [DecidablePred test]
    (table : Table Row Key key) : Decidable (∀ row ∈ table, test row) :=
  inferInstanceAs (Decidable (∀ row ∈ table.rows, test row))

instance {test : Row → Prop} [DecidablePred test]
    (table : Table Row Key key) : Decidable (∃ row ∈ table, test row) :=
  inferInstanceAs (Decidable (∃ row ∈ table.rows, test row))

def empty : Table Row Key key := ⟨[], List.nodup_nil⟩

@[simp] theorem not_mem_empty (row : Row) :
    row ∉ (empty : Table Row Key key) := List.not_mem_nil

theorem nodup (table : Table Row Key key) : table.rows.Nodup :=
  table.keysNodup.of_map

theorem eq_of_key_eq {table : Table Row Key key} {first second : Row}
    (firstMember : first ∈ table) (secondMember : second ∈ table)
    (same : key first = key second) : first = second :=
  List.inj_on_of_nodup_map table.keysNodup firstMember secondMember same

def find? [DecidableEq Key] (table : Table Row Key key) (identifier : Key) :
    Option Row :=
  table.rows.find? fun row => key row = identifier

theorem find?_eq_some [DecidableEq Key] {table : Table Row Key key}
    {identifier : Key} {row : Row} :
    table.find? identifier = some row ↔ row ∈ table ∧ key row = identifier := by
  constructor
  · intro found
    exact ⟨List.mem_of_find?_eq_some found,
      by simpa using List.find?_some found⟩
  · rintro ⟨member, rfl⟩
    cases found : table.find? (key row) with
    | none => simpa using List.find?_eq_none.mp found row member
    | some other =>
        have otherMember : other ∈ table := List.mem_of_find?_eq_some found
        have same : key other = key row := by
          simpa using List.find?_some found
        rw [eq_of_key_eq otherMember member same]

theorem find?_eq_none [DecidableEq Key] {table : Table Row Key key}
    {identifier : Key} :
    table.find? identifier = none ↔ ∀ row ∈ table, key row ≠ identifier := by
  simp [find?, List.find?_eq_none, mem_def]

/-- Apply a change to every row; the change keeps the keys. -/
def map (table : Table Row Key key) (change : Row → Row)
    (keeps : ∀ row, key (change row) = key row) : Table Row Key key where
  rows := table.rows.map change
  keysNodup := by
    have same : (table.rows.map change).map key = table.rows.map key := by
      simp [keeps]
    exact same ▸ table.keysNodup

theorem mem_map {table : Table Row Key key} {change : Row → Row}
    {keeps : ∀ row, key (change row) = key row} {row : Row} :
    row ∈ table.map change keeps ↔ ∃ before ∈ table, change before = row :=
  List.mem_map

/-- Replace the row that has the key of the given one. -/
def put [DecidableEq Key] (table : Table Row Key key) (row : Row) :
    Table Row Key key :=
  table.map (fun before => if key before = key row then row else before)
    fun before => by
      by_cases same : key before = key row <;> simp [same]

theorem mem_put [DecidableEq Key] {table : Table Row Key key}
    {written row : Row} :
    row ∈ table.put written ↔
      (row = written ∧ ∃ before ∈ table, key before = key written) ∨
        (row ∈ table ∧ key row ≠ key written) := by
  unfold put
  rw [mem_map]
  constructor
  · rintro ⟨before, member, rfl⟩
    by_cases same : key before = key written
    · left
      exact ⟨by simp [same], before, member, same⟩
    · right
      simpa [same] using member
  · rintro (⟨rfl, before, member, same⟩ | ⟨member, different⟩)
    · exact ⟨before, member, by simp [same]⟩
    · exact ⟨row, member, by simp [different]⟩

theorem exists_key_put [DecidableEq Key] {table : Table Row Key key}
    {written : Row} {identifier : Key} :
    (∃ row ∈ table.put written, key row = identifier) ↔
      ∃ row ∈ table, key row = identifier := by
  constructor
  · rintro ⟨row, member, same⟩
    rcases mem_put.mp member with ⟨rfl, before, present, equal⟩ | ⟨present, _⟩
    · exact ⟨before, present, equal.trans same⟩
    · exact ⟨row, present, same⟩
  · rintro ⟨row, member, same⟩
    by_cases rewritten : key row = key written
    · exact ⟨written, mem_put.mpr (.inl ⟨rfl, row, member, rewritten⟩),
        rewritten.symm.trans same⟩
    · exact ⟨row, mem_put.mpr (.inr ⟨member, rewritten⟩), same⟩

theorem find?_put_self [DecidableEq Key] {table : Table Row Key key}
    {row written : Row} {identifier : Key}
    (found : table.find? identifier = some row)
    (same : key written = identifier) :
    (table.put written).find? identifier = some written := by
  obtain ⟨member, here⟩ := find?_eq_some.mp found
  exact find?_eq_some.mpr
    ⟨mem_put.mpr (.inl ⟨rfl, row, member, here.trans same.symm⟩), same⟩

theorem find?_put_other [DecidableEq Key] {table : Table Row Key key}
    {written : Row} {identifier : Key} (other : key written ≠ identifier) :
    (table.put written).find? identifier = table.find? identifier := by
  cases found : table.find? identifier with
  | none =>
      rw [find?_eq_none] at found ⊢
      intro row member here
      rcases mem_put.mp member with ⟨rfl, _⟩ | ⟨present, _⟩
      · exact other here
      · exact found row present here
  | some row =>
      rw [find?_eq_some] at found ⊢
      obtain ⟨member, here⟩ := found
      refine ⟨mem_put.mpr (.inr ⟨member, fun clash => ?_⟩), here⟩
      exact other (clash.symm.trans here)

theorem firstWhere_put [DecidableEq Key] {table : Table Row Key key}
    {written : Row} {test : Row → Bool}
    (alike : ∀ row ∈ table, key row = key written → test written = test row) :
    (table.put written).rows.find? test =
      (table.rows.find? test).map fun row =>
        if key row = key written then written else row := by
  unfold put map
  rw [List.find?_map]
  congr 1
  apply List.find?_congr
  intro row member
  by_cases same : key row = key written
  · simp only [Function.comp_apply, if_pos same]
    exact alike row member same
  · simp only [Function.comp_apply, if_neg same]

/-- Add a row; a key that is present already is refused. -/
def insert? [DecidableEq Key] (table : Table Row Key key) (row : Row) :
    Option (Table Row Key key) :=
  if absent : key row ∈ table.rows.map key then none
  else some {
    rows := table.rows ++ [row]
    keysNodup := by
      rw [List.map_append, List.nodup_append]
      refine ⟨table.keysNodup, by simp, ?_⟩
      intro left leftMember right rightMember same
      have final : right = key row := by simpa using rightMember
      subst left
      subst right
      exact absent leftMember }

theorem insert?_eq_some [DecidableEq Key] {table after : Table Row Key key}
    {row : Row} (inserted : table.insert? row = some after) :
    (∀ other ∈ table, key other ≠ key row) ∧
      after.rows = table.rows ++ [row] := by
  unfold insert? at inserted
  split at inserted
  · cases inserted
  · rename_i absent
    cases inserted
    refine ⟨fun other member same => absent ?_, rfl⟩
    exact List.mem_map.mpr ⟨other, member, same⟩

theorem insert?_of_absent [DecidableEq Key] {table : Table Row Key key}
    (row : Row) (absent : ∀ other ∈ table, key other ≠ key row) :
    ∃ after, table.insert? row = some after := by
  have free : key row ∉ table.rows.map key := by
    intro taken
    obtain ⟨other, member, same⟩ := List.mem_map.mp taken
    exact absent other member same
  unfold insert?
  rw [dif_neg free]
  exact ⟨_, rfl⟩

theorem mem_insert? [DecidableEq Key] {table after : Table Row Key key}
    {row other : Row} (inserted : table.insert? row = some after) :
    other ∈ after ↔ other ∈ table ∨ other = row := by
  rw [mem_def, (insert?_eq_some inserted).2]
  simp [mem_def]

theorem find?_insert?_self [DecidableEq Key] {table after : Table Row Key key}
    {row : Row} (inserted : table.insert? row = some after) :
    after.find? (key row) = some row :=
  find?_eq_some.mpr ⟨(mem_insert? inserted).mpr (.inr rfl), rfl⟩

theorem find?_insert?_other [DecidableEq Key] {table after : Table Row Key key}
    {row : Row} {identifier : Key} (inserted : table.insert? row = some after)
    (apart : identifier ≠ key row) :
    after.find? identifier = table.find? identifier := by
  cases found : table.find? identifier with
  | none =>
      rw [find?_eq_none] at found ⊢
      intro other member same
      rcases (mem_insert? inserted).mp member with before | rfl
      · exact found other before same
      · exact apart same.symm
  | some other =>
      obtain ⟨member, same⟩ := find?_eq_some.mp found
      exact find?_eq_some.mpr ⟨(mem_insert? inserted).mpr (.inl member), same⟩

/-- Add a row, or replace the one with its key. -/
def upsert [DecidableEq Key] (table : Table Row Key key) (row : Row) :
    Table Row Key key :=
  (table.insert? row).getD (table.put row)

theorem insert?_eq_none [DecidableEq Key] {table : Table Row Key key}
    {row : Row} (refused : table.insert? row = none) :
    ∃ other ∈ table, key other = key row := by
  unfold insert? at refused
  split at refused
  · rename_i present
    exact List.mem_map.mp present
  · cases refused

theorem mem_upsert [DecidableEq Key] {table : Table Row Key key}
    {written row : Row} :
    row ∈ table.upsert written ↔
      row = written ∨ (row ∈ table ∧ key row ≠ key written) := by
  unfold upsert
  cases inserted : table.insert? written with
  | none =>
      rw [Option.getD_none, mem_put]
      have present := insert?_eq_none inserted
      constructor
      · rintro (⟨same, _⟩ | kept)
        · exact .inl same
        · exact .inr kept
      · rintro (same | kept)
        · exact .inl ⟨same, present⟩
        · exact .inr kept
  | some after =>
      rw [Option.getD_some, mem_insert? inserted]
      have absent := (insert?_eq_some inserted).1
      constructor
      · rintro (present | same)
        · exact .inr ⟨present, absent row present⟩
        · exact .inl same
      · rintro (same | ⟨present, _⟩)
        · exact .inr same
        · exact .inl present

@[simp] theorem find?_upsert_self [DecidableEq Key] {table : Table Row Key key}
    {written : Row} :
    (table.upsert written).find? (key written) = some written :=
  find?_eq_some.mpr ⟨mem_upsert.mpr (.inl rfl), rfl⟩

theorem find?_upsert_other [DecidableEq Key] {table : Table Row Key key}
    {written : Row} {identifier : Key} (other : key written ≠ identifier) :
    (table.upsert written).find? identifier = table.find? identifier := by
  cases found : table.find? identifier with
  | none =>
      rw [find?_eq_none] at found ⊢
      intro row member here
      rcases mem_upsert.mp member with rfl | ⟨present, _⟩
      · exact other here
      · exact found row present here
  | some row =>
      obtain ⟨member, here⟩ := find?_eq_some.mp found
      exact find?_eq_some.mpr ⟨mem_upsert.mpr (.inr ⟨member, fun clash =>
        other (clash.symm.trans here)⟩), here⟩

section

variable {conflicts : Row → Row → Bool}

def Unique (conflicts : Row → Row → Bool) (table : Table Row Key key) : Prop :=
  ∀ row ∈ table, ∀ other ∈ table, conflicts row other = false

variable (symmetric : ∀ row other, conflicts row other = conflicts other row)
variable (irreflexive : ∀ row, conflicts row row = false)

include symmetric irreflexive

theorem Unique.insert? [DecidableEq Key] {table after : Table Row Key key}
    (unique : table.Unique conflicts) {row : Row}
    (inserted : table.insert? row = some after)
    (free : ∀ other ∈ table, conflicts row other = false) :
    after.Unique conflicts := by
  intro first firstMember second secondMember
  rcases (mem_insert? inserted).mp firstMember with present | rfl
  · rcases (mem_insert? inserted).mp secondMember with other | rfl
    · exact unique first present second other
    · rw [symmetric]
      exact free first present
  · rcases (mem_insert? inserted).mp secondMember with other | rfl
    · exact free second other
    · exact irreflexive second

theorem Unique.put [DecidableEq Key] {table : Table Row Key key}
    (unique : table.Unique conflicts) {written : Row}
    (free : ∀ other ∈ table, conflicts written other = false) :
    (table.put written).Unique conflicts := by
  intro first firstMember second secondMember
  rcases mem_put.mp firstMember with ⟨rfl, _⟩ | ⟨present, _⟩
  · rcases mem_put.mp secondMember with ⟨rfl, _⟩ | ⟨other, _⟩
    · exact irreflexive second
    · exact free second other
  · rcases mem_put.mp secondMember with ⟨rfl, _⟩ | ⟨other, _⟩
    · rw [symmetric]
      exact free first present
    · exact unique first present second other

end

/-- Keep the rows that satisfy a test. -/
def filter (table : Table Row Key key) (test : Row → Bool) :
    Table Row Key key where
  rows := table.rows.filter test
  keysNodup := table.keysNodup.sublist (List.filter_sublist.map key)

@[simp] theorem mem_filter {table : Table Row Key key} {test : Row → Bool}
    {row : Row} : row ∈ table.filter test ↔ row ∈ table ∧ test row = true :=
  List.mem_filter

theorem find?_filter_kept [DecidableEq Key] {table : Table Row Key key}
    {test : Row → Bool} {identifier : Key}
    (kept : ∀ row ∈ table, key row = identifier → test row = true) :
    (table.filter test).find? identifier = table.find? identifier := by
  cases found : table.find? identifier with
  | none =>
      rw [find?_eq_none] at found ⊢
      intro row member
      exact found row (mem_filter.mp member).1
  | some row =>
      rw [find?_eq_some] at found ⊢
      obtain ⟨member, here⟩ := found
      exact ⟨mem_filter.mpr ⟨member, kept row member here⟩, here⟩

theorem find?_filter_dropped [DecidableEq Key] {table : Table Row Key key}
    {test : Row → Bool} {identifier : Key}
    (dropped : ∀ row ∈ table, key row = identifier → test row = false) :
    (table.filter test).find? identifier = none := by
  rw [find?_eq_none]
  intro row member here
  obtain ⟨present, passed⟩ := mem_filter.mp member
  rw [dropped row present here] at passed
  cases passed

theorem length_filter_eq_one {table : Table Row Key key} {test : Row → Bool}
    {row : Row} (member : row ∈ table) (passes : test row = true)
    (unique : ∀ other ∈ table, test other = true → other = row) :
    (table.rows.filter test).length = 1 := by
  have nodup : (table.rows.filter test).Nodup := table.nodup.filter test
  have all : ∀ other ∈ table.rows.filter test, other = row := by
    intro other selected
    obtain ⟨otherMember, otherPasses⟩ := List.mem_filter.mp selected
    exact unique other otherMember otherPasses
  have present : row ∈ table.rows.filter test :=
    List.mem_filter.mpr ⟨member, passes⟩
  have single : table.rows.filter test = [row] := by
    match shape : table.rows.filter test with
    | [] => simp [shape] at present
    | [only] =>
        rw [shape] at all
        rw [all only (by simp)]
    | first :: second :: rest =>
        rw [shape] at all nodup
        have firstRow := all first (by simp)
        have secondRow := all second (by simp)
        simp [firstRow, secondRow] at nodup
  simp [single]

theorem length_filter_eq_zero {table : Table Row Key key} {test : Row → Bool}
    (fails : ∀ row ∈ table, test row = false) :
    (table.rows.filter test).length = 0 := by
  rw [List.length_eq_zero_iff, List.filter_eq_nil_iff]
  intro row member passes
  rw [fails row member] at passes
  cases passes

end Table

end OfflineReels.Foundation
