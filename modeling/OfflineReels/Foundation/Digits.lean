import Mathlib.Tactic.Ring
import OfflineReels.Foundation.Text

namespace OfflineReels.Foundation

/-! Texts of parts of a fixed width: written one after the other, and read back
from the front. -/

def expect (character : Char) : List Char → Option (List Char)
  | [] => none
  | first :: rest => if first = character then some rest else none

@[simp] theorem expect_cons (character : Char) (rest : List Char) :
    expect character (character :: rest) = some rest :=
  if_pos rfl

def readFixed (digit : Char → Option Nat) (base : Nat) :
    Nat → Nat → List Char → Option (Nat × List Char)
  | 0, value, text => some (value, text)
  | _ + 1, _, [] => none
  | width + 1, value, first :: rest =>
      (digit first).bind fun here =>
        readFixed digit base width (value * base + here) rest

def fixedDigits (base : Nat) : Nat → Nat → List Char
  | 0, _ => []
  | width + 1, number =>
      Nat.digitChar (number / base ^ width % base) ::
        fixedDigits base width number

theorem length_fixedDigits (base width number : Nat) :
    (fixedDigits base width number).length = width := by
  induction width with
  | zero => rfl
  | succ width ih => rw [fixedDigits, List.length_cons, ih]

theorem mem_fixedDigits {base width number : Nat} (positive : 0 < base)
    {character : Char} (member : character ∈ fixedDigits base width number) :
    ∃ digit < base, character = Nat.digitChar digit := by
  induction width with
  | zero => cases member
  | succ width ih =>
      rcases List.mem_cons.mp member with here | later
      · exact ⟨_, Nat.mod_lt _ positive, here⟩
      · exact ih later

theorem readFixed_fixedDigits {digit : Char → Option Nat} {base : Nat}
    (positive : 0 < base)
    (known : ∀ value < base, digit (Nat.digitChar value) = some value)
    (width value number : Nat) (rest : List Char) :
    readFixed digit base width value (fixedDigits base width number ++ rest) =
      some (value * base ^ width + number % base ^ width, rest) := by
  induction width generalizing value with
  | zero => simp [readFixed, fixedDigits, Nat.mod_one]
  | succ width ih =>
      have digits := Nat.mod_pow_succ (b := base) (k := width) (x := number)
      rw [fixedDigits, List.cons_append, readFixed,
        known _ (Nat.mod_lt _ positive), Option.bind_some, ih, digits]
      congr 2
      ring

def decimal (character : Char) : Option Nat :=
  if character.isDigit then some (digitValue character) else none

def hexadecimal (character : Char) : Option Nat :=
  if character.isDigit then some (digitValue character)
  else if 'a' ≤ character ∧ character ≤ 'f' then
    some (character.toNat - 'a'.toNat + 10)
  else if 'A' ≤ character ∧ character ≤ 'F' then
    some (character.toNat - 'A'.toNat + 10)
  else none

def readDecimal (width : Nat) : List Char → Option (Nat × List Char) :=
  readFixed decimal 10 width 0

theorem decimal_digitChar : ∀ value < 10,
    decimal (Nat.digitChar value) = some value := by
  decide

theorem hexadecimal_digitChar : ∀ value < 16,
    hexadecimal (Nat.digitChar value) = some value := by
  decide

theorem readDecimal_fixedDigits {width number : Nat}
    (fits : number < 10 ^ width) (rest : List Char) :
    readDecimal width (fixedDigits 10 width number ++ rest) =
      some (number, rest) := by
  rw [readDecimal, readFixed_fixedDigits (by decide) decimal_digitChar,
    Nat.zero_mul, Nat.zero_add, Nat.mod_eq_of_lt fits]

/-- Replace each occurrence of a text; `skip` characters still belong to the
last one. -/
def replaceFrom (first : Char) (more replacement : List Char) :
    Nat → List Char → List Char
  | _, [] => []
  | skip + 1, _ :: rest => replaceFrom first more replacement skip rest
  | 0, character :: rest =>
      if character = first && more.isPrefixOf rest then
        replacement ++ replaceFrom first more replacement more.length rest
      else character :: replaceFrom first more replacement 0 rest

/-- `str.replace` of a text that is not empty -/
def replace (first : Char) (more replacement text : List Char) : List Char :=
  replaceFrom first more replacement 0 text

theorem replaceFrom_skip (first : Char) (more replacement : List Char)
    (skipped : List Char) :
    replaceFrom first more replacement skipped.length skipped = [] := by
  induction skipped with
  | nil => rfl
  | cons character rest ih => exact ih

theorem replace_append {first : Char} {more replacement start : List Char}
    (absent : first ∉ start) (rest : List Char) :
    replace first more replacement (start ++ rest) =
      start ++ replace first more replacement rest := by
  induction start with
  | nil => rfl
  | cons character start ih =>
      have other : ¬ (character = first) := by
        intro same
        exact absent (same ▸ List.mem_cons_self)
      have kept := ih fun member => absent (List.mem_cons_of_mem _ member)
      unfold replace at kept ⊢
      simp only [List.cons_append, replaceFrom, other, decide_false,
        Bool.false_and, Bool.false_eq_true, if_false, kept]

theorem replace_absent {first : Char} {more replacement text : List Char}
    (absent : first ∉ text) : replace first more replacement text = text := by
  have kept : replace first more replacement (text ++ []) =
      text ++ replace first more replacement [] := replace_append absent []
  rw [List.append_nil] at kept
  rw [kept]
  exact List.append_nil text

theorem replace_last {first : Char} {more replacement start : List Char}
    (absent : first ∉ start) :
    replace first more replacement (start ++ first :: more) =
      start ++ replacement := by
  rw [replace_append absent]
  congr 1
  have found : more.isPrefixOf more = true :=
    List.isPrefixOf_iff_prefix.mpr (List.prefix_refl more)
  simp only [replace, replaceFrom, decide_true, Bool.true_and, found, if_true,
    replaceFrom_skip, List.append_nil]

end OfflineReels.Foundation
