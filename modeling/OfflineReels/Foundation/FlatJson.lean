import Mathlib.Data.List.TakeDrop
import OfflineReels.Foundation.Digits

namespace OfflineReels.Foundation

/-! JSON objects whose members are texts and natural numbers. -/

inductive JsonScalar
  | text (value : List Char)
  | number (value : Nat)
  deriving DecidableEq, Repr

abbrev JsonObject : Type := List (List Char × JsonScalar)

def isPlain (character : Char) : Bool :=
  character ≠ '"' && character ≠ '\\' && 32 ≤ character.toNat

def quoted (text : List Char) : List Char := '"' :: (text ++ ['"'])

def scalarText : JsonScalar → List Char
  | .text value => quoted value
  | .number value => Nat.toDigits 10 value

def memberText : List Char × JsonScalar → List Char
  | (name, value) => quoted name ++ ':' :: scalarText value

def membersText : JsonObject → List Char
  | [] => ['}']
  | [member] => memberText member ++ ['}']
  | member :: rest => memberText member ++ ',' :: membersText rest

/-- `json.dumps` with compact separators, of plain texts -/
def dumps (members : JsonObject) : List Char := '{' :: membersText members

def isBlank (character : Char) : Bool :=
  character = ' ' || character = '\t' || character = '\n' || character = '\r'

def skipBlank (text : List Char) : List Char := text.dropWhile isBlank

def readPlain (text : List Char) : Option (List Char × List Char) :=
  let (value, rest) := text.span isPlain
  (expect '"' rest).map (value, ·)

def isNumeral (digits : List Char) : Bool :=
  digits ≠ [] && (digits.head? ≠ some '0' || digits.length = 1)

def readScalar (text : List Char) : Option (JsonScalar × List Char) :=
  match expect '"' text with
  | some rest => (readPlain rest).map fun (value, rest) => (.text value, rest)
  | none =>
      let (digits, rest) := text.span Char.isDigit
      if isNumeral digits then
        some (.number (Nat.ofDigitChars 10 digits 0), rest)
      else none

def readMember (text : List Char) :
    Option ((List Char × JsonScalar) × List Char) := do
  let text ← expect '"' (skipBlank text)
  let (name, text) ← readPlain text
  let text ← expect ':' (skipBlank text)
  let (value, text) ← readScalar (skipBlank text)
  some ((name, value), skipBlank text)

def readMembers : Nat → List Char → Option (JsonObject × List Char)
  | 0, _ => none
  | fuel + 1, text => do
      let (member, text) ← readMember text
      match text with
      | '}' :: rest => some ([member], rest)
      | ',' :: rest =>
          let (members, rest) ← readMembers fuel rest
          some (member :: members, rest)
      | _ => none

/-- `json.loads` of such an object -/
def loads (text : List Char) : Option JsonObject := do
  let text ← expect '{' (skipBlank text)
  let (members, rest) ← readMembers text.length text
  if skipBlank rest = [] then some members else none

def lookup (members : JsonObject) (name : List Char) : Option JsonScalar :=
  (members.reverse.find? fun member => member.1 = name).map (·.2)

def JsonScalar.isPlain : JsonScalar → Bool
  | .text value => value.all Foundation.isPlain
  | .number _ => true

def isPlainMember (member : List Char × JsonScalar) : Bool :=
  member.1.all isPlain && member.2.isPlain

theorem span_append {test : Char → Bool} {first : List Char}
    (all : first.all test = true) {next : Char} (stops : test next = false)
    (rest : List Char) :
    (first ++ next :: rest).span test = (first, next :: rest) := by
  have passes := List.all_eq_true.mp all
  rw [List.span_eq_takeWhile_dropWhile, List.takeWhile_append_of_pos passes,
    List.dropWhile_append_of_pos passes]
  simp [stops]

theorem readPlain_append {text : List Char} (plain : text.all isPlain = true)
    (rest : List Char) : readPlain (text ++ '"' :: rest) = some (text, rest) := by
  rw [readPlain, span_append plain rfl]
  simp only [expect_cons, Option.map_some]

theorem isNumeral_toDigits (number : Nat) :
    isNumeral (Nat.toDigits 10 number) = true := by
  induction number using Nat.strongRecOn with
  | ind number ih =>
      rw [Nat.toDigits_eq_if (by decide)]
      split
      · simp [isNumeral]
      · rename_i large
        have front := ih (number / 10) (by omega)
        cases shape : Nat.toDigits 10 (number / 10) with
        | nil => exact absurd shape Nat.toDigits_ne_nil
        | cons first more =>
            have apart : first ≠ '0' := by
              intro zero
              subst zero
              have value := Nat.ofDigitChars_ten_toDigits (n := number / 10)
              rw [shape] at front value
              simp only [isNumeral, List.head?_cons, List.length_cons] at front
              have none : more = [] := by simpa using front
              subst none
              have reads : Nat.ofDigitChars 10 ['0'] 0 = 0 := rfl
              omega
            simp [isNumeral, apart]

theorem readScalar_scalarText {value : JsonScalar}
    (plain : value.isPlain = true) {next : Char} (apart : next.isDigit = false)
    (rest : List Char) :
    readScalar (scalarText value ++ next :: rest) = some (value, next :: rest) := by
  cases value with
  | text value =>
      simp only [scalarText, quoted, List.cons_append, List.append_assoc,
        List.nil_append, readScalar, expect_cons, readPlain_append plain,
        Option.map_some]
  | number value =>
      have digits : (Nat.toDigits 10 value).all Char.isDigit = true :=
        List.all_eq_true.mpr fun character member =>
          Nat.isDigit_of_mem_toDigits (by decide) (by decide) member
      have unquoted : expect '"' (Nat.toDigits 10 value ++ next :: rest) =
          none := by
        cases shape : Nat.toDigits 10 value with
        | nil => exact absurd shape Nat.toDigits_ne_nil
        | cons first more =>
            rw [shape, List.all_cons, Bool.and_eq_true] at digits
            refine if_neg fun quote => ?_
            rw [quote] at digits
            exact absurd digits.1 (by decide)
      simp only [scalarText, readScalar, unquoted, span_append digits apart,
        isNumeral_toDigits, if_true, Nat.ofDigitChars_ten_toDigits]

theorem skipBlank_cons {first : Char} (solid : isBlank first = false)
    (rest : List Char) : skipBlank (first :: rest) = first :: rest :=
  List.dropWhile_cons_of_neg (by rw [solid]; exact Bool.false_ne_true)

theorem isBlank_of_isDigit {character : Char}
    (digit : character.isDigit = true) : isBlank character = false := by
  by_contra blank
  simp only [isBlank, Bool.not_eq_false, Bool.or_eq_true,
    decide_eq_true_eq] at blank
  rcases blank with ((rfl | rfl) | rfl) | rfl
  all_goals exact absurd digit (by decide)

theorem skipBlank_scalarText (value : JsonScalar) (rest : List Char) :
    skipBlank (scalarText value ++ rest) = scalarText value ++ rest := by
  cases value with
  | text value => exact skipBlank_cons rfl _
  | number value =>
      cases shape : Nat.toDigits 10 value with
      | nil => exact absurd shape Nat.toDigits_ne_nil
      | cons first more =>
          have digit : first.isDigit = true :=
            Nat.isDigit_of_mem_toDigits (b := 10) (n := value)
              (by decide) (by decide) (shape ▸ List.mem_cons_self)
          rw [scalarText, shape]
          exact skipBlank_cons (isBlank_of_isDigit digit) _

theorem skipBlank_quote (rest : List Char) :
    skipBlank ('"' :: rest) = '"' :: rest := skipBlank_cons rfl rest

theorem skipBlank_colon (rest : List Char) :
    skipBlank (':' :: rest) = ':' :: rest := skipBlank_cons rfl rest

theorem readMember_memberText {member : List Char × JsonScalar}
    (plain : isPlainMember member = true) (next : Char)
    (apart : next.isDigit = false) (solid : isBlank next = false)
    (rest : List Char) :
    readMember (memberText member ++ next :: rest) =
      some (member, next :: rest) := by
  obtain ⟨name, value⟩ := member
  obtain ⟨named, valued⟩ := Bool.and_eq_true_iff.mp plain
  unfold readMember memberText quoted
  simp only [List.cons_append, List.append_assoc, List.nil_append,
    skipBlank_quote, skipBlank_colon, skipBlank_cons solid, expect_cons,
    readPlain_append named,
    skipBlank_scalarText, readScalar_scalarText valued apart,
    Option.bind_eq_bind, Option.bind_some]

theorem readMembers_membersText {members : JsonObject} (some_ : members ≠ [])
    (plain : members.all isPlainMember = true) {fuel : Nat}
    (enough : members.length ≤ fuel) :
    readMembers fuel (membersText members) = some (members, []) := by
  induction members generalizing fuel with
  | nil => exact absurd rfl some_
  | cons member rest ih =>
      obtain ⟨fuel, rfl⟩ : ∃ before, fuel = before + 1 :=
        ⟨fuel - 1, by simp only [List.length_cons] at enough; omega⟩
      rw [List.all_cons, Bool.and_eq_true] at plain
      cases rest with
      | nil =>
          simp only [membersText, readMembers,
            readMember_memberText plain.1 '}' rfl rfl,
            Option.bind_eq_bind, Option.bind_some]
      | cons second rest =>
          have later := ih (List.cons_ne_nil _ _) plain.2
            (Nat.le_of_succ_le_succ enough)
          simp only [membersText, readMembers,
            readMember_memberText plain.1 ',' rfl rfl,
            Option.bind_eq_bind, Option.bind_some, later]

theorem length_membersText (members : JsonObject) :
    members.length ≤ (membersText members).length := by
  induction members with
  | nil => exact Nat.zero_le _
  | cons member rest ih =>
      cases rest with
      | nil =>
          simp only [membersText, List.length_append, List.length_cons]
          omega
      | cons second rest =>
          simp only [membersText, List.length_append, List.length_cons]
            at ih ⊢
          omega

theorem loads_dumps {members : JsonObject} (some_ : members ≠ [])
    (plain : members.all isPlainMember = true) :
    loads (dumps members) = some members := by
  unfold loads dumps
  rw [skipBlank_cons rfl]
  simp only [expect_cons, Option.bind_eq_bind, Option.bind_some,
    readMembers_membersText some_ plain (length_membersText members)]
  rfl

end OfflineReels.Foundation
