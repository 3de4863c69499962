import Mathlib.Data.List.Basic
import Mathlib.Data.List.DropRight
import Mathlib.Data.List.TakeWhile

namespace OfflineReels.Foundation

/-! Texts of decimal digits, and Python's reading of an integer. -/

def digitValue (digit : Char) : Nat := digit.toNat - '0'.toNat

def decimalValue (digits : List Char) : Nat :=
  digits.foldl (fun value digit => value * 10 + digitValue digit) 0

def isDecimal (text : List Char) : Bool :=
  text ≠ [] && text.all Char.isDigit

theorem isDecimal_iff {text : List Char} :
    isDecimal text = true ↔
      text ≠ [] ∧ ∀ character ∈ text, character.isDigit = true := by
  simp [isDecimal]

theorem isDigit_iff {character : Char} :
    character.isDigit = true ↔
      48 ≤ character.toNat ∧ character.toNat ≤ 57 := by
  simp only [Char.isDigit, Bool.and_eq_true, decide_eq_true_eq]
  exact Iff.rfl

theorem isDecimal_toDigits (number : Nat) :
    isDecimal (Nat.toDigits 10 number) = true :=
  isDecimal_iff.mpr ⟨Nat.toDigits_ne_nil, fun _ member =>
    Nat.isDigit_of_mem_toDigits (by decide) (by decide) member⟩

@[simp] theorem decimalValue_toDigits (number : Nat) :
    decimalValue (Nat.toDigits 10 number) = number := by
  have same : decimalValue (Nat.toDigits 10 number) =
      Nat.ofDigitChars 10 (Nat.toDigits 10 number) 0 := by
    simp only [decimalValue, digitValue, Nat.ofDigitChars, Nat.mul_comm]
  rw [same, Nat.ofDigitChars_ten_toDigits]

/-- `str.isspace` -/
def isSpace (character : Char) : Bool :=
  let code := character.toNat
  (9 ≤ code && code ≤ 13) || (28 ≤ code && code ≤ 32) || code = 0x85 ||
    code = 0xa0 || code = 0x1680 || (0x2000 ≤ code && code ≤ 0x200a) ||
    code = 0x2028 || code = 0x2029 || code = 0x202f || code = 0x205f ||
    code = 0x3000

/-- `str.strip` -/
def strip (text : List Char) : List Char :=
  ((text.dropWhile isSpace).reverse.dropWhile isSpace).reverse

theorem dropped_none {text : List Char} {test : Char → Bool}
    (none : ∀ character ∈ text, test character = false) :
    ((text.dropWhile test).reverse.dropWhile test).reverse = text := by
  have first : text.dropWhile test = text := by
    apply List.dropWhile_eq_self_iff.mpr
    intro filled
    rw [none _ (List.getElem_mem filled)]
    exact Bool.false_ne_true
  rw [first, List.dropWhile_eq_self_iff.mpr, List.reverse_reverse]
  intro filled
  rw [none _ (List.mem_reverse.mp (List.getElem_mem filled))]
  exact Bool.false_ne_true

theorem strip_none {text : List Char}
    (none : ∀ character ∈ text, isSpace character = false) :
    strip text = text :=
  dropped_none none

theorem mem_of_mem_strip {text : List Char} {character : Char}
    (member : character ∈ strip text) : character ∈ text := by
  have inner := List.mem_reverse.mp member
  have outer := (List.dropWhile_suffix isSpace).subset inner
  exact (List.dropWhile_suffix isSpace).subset (List.mem_reverse.mp outer)

theorem isSpace_of_isDigit {character : Char}
    (digit : character.isDigit = true) : isSpace character = false := by
  obtain ⟨low, high⟩ := isDigit_iff.mp digit
  simp only [isSpace, Bool.or_eq_false_iff, Bool.and_eq_false_iff,
    decide_eq_false_iff_not]
  omega

/-- A text with white space around it. -/
def Spaced (text inner : List Char) : Prop :=
  ∃ before after, text = before ++ (inner ++ after) ∧
    (∀ character ∈ before, isSpace character = true) ∧
    ∀ character ∈ after, isSpace character = true

theorem spaced_nil {text : List Char} :
    Spaced text [] ↔ ∀ character ∈ text, isSpace character = true := by
  constructor
  · intro spaced character member
    obtain ⟨before, after, rfl, leading, trailing⟩ := spaced
    rw [List.nil_append] at member
    rcases List.mem_append.mp member with here | there
    · exact leading character here
    · exact trailing character there
  · intro blank
    exact ⟨text, [], by simp, blank, by simp⟩

theorem Spaced.mem {text inner : List Char} (spaced : Spaced text inner)
    {character : Char} (solid : isSpace character = false) :
    character ∈ text → character ∈ inner := by
  obtain ⟨before, after, rfl, leading, trailing⟩ := spaced
  intro member
  rcases List.mem_append.mp member with here | there
  · rw [leading character here] at solid
    cases solid
  · rcases List.mem_append.mp there with inside | behind
    · exact inside
    · rw [trailing character behind] at solid
      cases solid

theorem Spaced.append_left {text inner before : List Char}
    (spaced : Spaced text inner)
    (leading : ∀ character ∈ before, isSpace character = true) :
    Spaced (before ++ text) inner := by
  obtain ⟨first, after, rfl, blank, trailing⟩ := spaced
  refine ⟨before ++ first, after, by simp, ?_, trailing⟩
  intro character member
  rcases List.mem_append.mp member with here | there
  · exact leading character here
  · exact blank character there

theorem Spaced.append_right {text inner after : List Char}
    (spaced : Spaced text inner)
    (trailing : ∀ character ∈ after, isSpace character = true) :
    Spaced (text ++ after) inner := by
  obtain ⟨before, last, rfl, leading, blank⟩ := spaced
  refine ⟨before, last ++ after, by simp, leading, ?_⟩
  intro character member
  rcases List.mem_append.mp member with here | there
  · exact blank character here
  · exact trailing character there

theorem Spaced.reverse {text inner : List Char} (spaced : Spaced text inner) :
    Spaced text.reverse inner.reverse := by
  obtain ⟨before, after, rfl, leading, trailing⟩ := spaced
  refine ⟨after.reverse, before.reverse, ?_, ?_, ?_⟩
  · simp
  · intro character member
    exact trailing character (List.mem_reverse.mp member)
  · intro character member
    exact leading character (List.mem_reverse.mp member)

theorem Spaced.dropWhile_eq {text inner : List Char}
    (spaced : Spaced text inner)
    (solid : ∀ character ∈ inner, isSpace character = false) :
    ∃ after, text.dropWhile isSpace = inner ++ after ∧
      ∀ character ∈ after, isSpace character = true := by
  obtain ⟨before, after, rfl, leading, trailing⟩ := spaced
  rw [List.dropWhile_append_of_pos leading]
  cases inner with
  | nil =>
      refine ⟨[], ?_, ?_⟩
      · rw [List.nil_append, List.dropWhile_eq_nil_iff.mpr trailing,
          List.append_nil]
      · simp
  | cons first rest =>
      refine ⟨after, ?_, trailing⟩
      rw [List.cons_append, List.dropWhile_cons_of_neg]
      rw [solid first List.mem_cons_self]
      exact Bool.false_ne_true

theorem Spaced.dropWhile {text inner : List Char} (spaced : Spaced text inner)
    (solid : ∀ character ∈ inner, isSpace character = false) :
    Spaced (text.dropWhile isSpace) inner := by
  obtain ⟨after, same, trailing⟩ := spaced.dropWhile_eq solid
  refine ⟨[], after, same, ?_, trailing⟩
  simp

theorem spaced_strip (text : List Char) : Spaced text (strip text) := by
  refine ⟨text.takeWhile isSpace,
    ((text.dropWhile isSpace).reverse.takeWhile isSpace).reverse, ?_, ?_, ?_⟩
  · unfold strip
    rw [← List.reverse_append, List.takeWhile_append_dropWhile,
      List.reverse_reverse, List.takeWhile_append_dropWhile]
  · intro character member
    exact List.mem_takeWhile_imp member
  · intro character member
    exact List.mem_takeWhile_imp (List.mem_reverse.mp member)

theorem strip_of_spaced {text inner : List Char} (spaced : Spaced text inner)
    (solid : ∀ character ∈ inner, isSpace character = false) :
    strip text = inner := by
  obtain ⟨after, same, trailing⟩ := spaced.dropWhile_eq solid
  have turned : ∀ character ∈ after.reverse, isSpace character = true :=
    fun character member => trailing character (List.mem_reverse.mp member)
  unfold strip
  rw [same, List.reverse_append, List.dropWhile_append_of_pos turned,
    List.dropWhile_eq_self_iff.mpr, List.reverse_reverse]
  intro filled
  rw [solid _ (List.mem_reverse.mp (List.getElem_mem filled))]
  exact Bool.false_ne_true

theorem strip_append_cons {first last : List Char} {middle : Char}
    (solid : isSpace middle = false) :
    strip (first ++ middle :: last) = first.dropWhile isSpace ++
      middle :: (last.reverse.dropWhile isSpace).reverse := by
  have cut (text rest : List Char) :
      (text ++ middle :: rest).dropWhile isSpace =
        text.dropWhile isSpace ++ middle :: rest := by
    rw [List.dropWhile_append]
    split
    · rename_i blank
      rw [List.isEmpty_iff.mp blank, List.nil_append,
        List.dropWhile_cons_of_neg (by simp [solid])]
    · rfl
  unfold strip
  rw [cut, List.reverse_append, List.reverse_cons, List.append_assoc,
    List.singleton_append, cut, List.reverse_append, List.reverse_cons,
    List.reverse_reverse, List.append_assoc, List.singleton_append]

theorem toLower_cases (character : Char) :
    character.toLower = character ∨
      65 ≤ character.toNat ∧ character.toNat ≤ 90 ∧
        character.toLower.toNat = character.toNat + 32 := by
  by_cases upper : character.val ≥ 'A'.val ∧ character.val ≤ 'Z'.val
  · right
    have shifted : character.toLower.val =
        character.val + ('a'.val - 'A'.val) := by
      unfold Char.toLower
      rw [dif_pos upper]
    obtain ⟨low, high⟩ := upper
    rw [ge_iff_le, UInt32.le_iff_toNat_le] at low
    rw [UInt32.le_iff_toNat_le] at high
    have first : 'A'.val.toNat = 65 := rfl
    have last : 'Z'.val.toNat = 90 := rfl
    have apart : ('a'.val - 'A'.val).toNat = 32 := rfl
    have same : character.toNat = character.val.toNat := rfl
    have moved : character.toLower.toNat = character.toLower.val.toNat := rfl
    rw [shifted, UInt32.toNat_add] at moved
    omega
  · left
    unfold Char.toLower
    rw [dif_neg upper]

theorem toLower_toLower (character : Char) :
    character.toLower.toLower = character.toLower := by
  rcases toLower_cases character with same | ⟨low, high, moved⟩
  · rw [same, same]
  · rcases toLower_cases character.toLower with same | ⟨_, late, _⟩
    · exact same
    · omega

theorem isSpace_toLower (character : Char) :
    isSpace character.toLower = isSpace character := by
  rcases toLower_cases character with same | ⟨low, high, moved⟩
  · rw [same]
  · have before : isSpace character = false := by
      simp only [isSpace, Bool.or_eq_false_iff, Bool.and_eq_false_iff,
        decide_eq_false_iff_not]
      omega
    have after : isSpace character.toLower = false := by
      simp only [isSpace, Bool.or_eq_false_iff, Bool.and_eq_false_iff,
        decide_eq_false_iff_not]
      omega
    rw [before, after]

theorem comma_of_toLower {character : Char}
    (comma : character.toLower = ',') : character = ',' := by
  rcases toLower_cases character with same | ⟨low, _, moved⟩
  · rw [← same, comma]
  · rw [comma] at moved
    have code : ','.toNat = 44 := rfl
    omega

theorem strip_toLower (text : List Char) :
    strip (text.map Char.toLower) = (strip text).map Char.toLower := by
  have stays : isSpace ∘ Char.toLower = isSpace := funext isSpace_toLower
  unfold strip
  rw [List.dropWhile_map, stays, ← List.map_reverse, List.dropWhile_map, stays,
    List.map_reverse]

theorem dropWhile_of_prefix {front whole : List Char}
    (starts : front <+: whole)
    (still : whole.dropWhile isSpace = whole) :
    front.dropWhile isSpace = front := by
  cases front with
  | nil => rfl
  | cons first rest =>
      obtain ⟨tail, rfl⟩ := starts
      cases space : isSpace first with
      | false => rw [List.dropWhile_cons_of_neg (by simp [space])]
      | true =>
          rw [List.cons_append, List.dropWhile_cons_of_pos space] at still
          have shorter := (List.dropWhile_suffix isSpace
            (l := rest ++ tail)).length_le
          rw [still, List.length_cons] at shorter
          omega

theorem strip_strip (text : List Char) : strip (strip text) = strip text := by
  have still := List.dropWhile_idempotent isSpace text
  have starts : strip text <+: text.dropWhile isSpace := by
    unfold strip
    rw [← List.reverse_suffix, List.reverse_reverse]
    exact List.dropWhile_suffix isSpace
  have front := dropWhile_of_prefix starts still
  have back := List.dropWhile_idempotent isSpace
    (text.dropWhile isSpace).reverse
  unfold strip at front ⊢
  rw [front, List.reverse_reverse, back]

theorem not_mem_of_mem_splitOn {separator : Char} {text part : List Char}
    (member : part ∈ text.splitOn separator) : separator ∉ part := by
  induction text generalizing part with
  | nil =>
      rw [List.splitOn_nil, List.mem_singleton] at member
      rw [member]
      exact List.not_mem_nil
  | cons first rest ih =>
      rw [List.splitOn_cons_eq_if_modifyHead] at member
      split at member
      · rcases List.mem_cons.mp member with rfl | later
        · exact List.not_mem_nil
        · exact ih later
      · rename_i other
        obtain ⟨head, tail, parts⟩ :=
          List.exists_cons_of_ne_nil (List.splitOn_ne_nil separator rest)
        rw [parts] at member ih
        rcases List.mem_cons.mp member with rfl | later
        · intro inside
          rcases List.mem_cons.mp inside with rfl | inside
          · exact other (beq_self_eq_true _)
          · exact ih List.mem_cons_self inside
        · exact ih (List.mem_cons_of_mem _ later)

/-- The digits of value zero; the nine others follow each of them. -/
def digitZeros : List Nat :=
  [0x30, 0x660, 0x6f0, 0x7c0, 0x966, 0x9e6, 0xa66, 0xae6, 0xb66, 0xbe6, 0xc66,
    0xce6, 0xd66, 0xde6, 0xe50, 0xed0, 0xf20, 0x1040, 0x1090, 0x17e0, 0x1810,
    0x1946, 0x19d0, 0x1a80, 0x1a90, 0x1b50, 0x1bb0, 0x1c40, 0x1c50, 0xa620,
    0xa8d0, 0xa900, 0xa9d0, 0xa9f0, 0xaa50, 0xabf0, 0xff10, 0x104a0, 0x10d30,
    0x10d40, 0x11066, 0x110f0, 0x11136, 0x111d0, 0x112f0, 0x11450, 0x114d0,
    0x11650, 0x116c0, 0x116d0, 0x116da, 0x11730, 0x118e0, 0x11950, 0x11bf0,
    0x11c50, 0x11d50, 0x11da0, 0x11f50, 0x16130, 0x16a60, 0x16ac0, 0x16b50,
    0x16d70, 0x1ccf0, 0x1d7ce, 0x1d7d8, 0x1d7e2, 0x1d7ec, 0x1d7f6, 0x1e140,
    0x1e2f0, 0x1e4f0, 0x1e5f1, 0x1e950, 0x1fbf0]

/-- `unicodedata.decimal` -/
def decimalDigit (character : Char) : Option Nat :=
  (digitZeros.find? fun first =>
    first ≤ character.toNat && character.toNat < first + 10).map
      (character.toNat - ·)

/-- An underscore may stand between two digits. -/
def readDigits : List Char → Option (List Nat)
  | [] => none
  | [digit] => (decimalDigit digit).map ([·])
  | digit :: '_' :: rest =>
      (decimalDigit digit).bind fun value =>
        (readDigits rest).map (value :: ·)
  | digit :: rest =>
      (decimalDigit digit).bind fun value =>
        (readDigits rest).map (value :: ·)

def MAX_STR_DIGITS : Nat := 4300

/-- A number with too many digits is refused. -/
def magnitude (text : List Char) : Option Nat :=
  (readDigits text).bind fun values =>
    if MAX_STR_DIGITS < values.length then none
    else some (values.foldl (fun value digit => value * 10 + digit) 0)

/-- `int` of a text without white space around it -/
def readInt : List Char → Option Int
  | '+' :: digits => (magnitude digits).map Int.ofNat
  | '-' :: digits => (magnitude digits).map fun value => -Int.ofNat value
  | digits => (magnitude digits).map Int.ofNat

theorem readInt_nonneg {text : List Char} {value : Int}
    (read : readInt text = some value) (unsigned : '-' ∉ text) :
    0 ≤ value := by
  unfold readInt at read
  split at read
  · obtain ⟨natural, _, rfl⟩ := Option.map_eq_some_iff.mp read
    exact Int.natCast_nonneg natural
  · exact absurd List.mem_cons_self unsigned
  · obtain ⟨natural, _, rfl⟩ := Option.map_eq_some_iff.mp read
    exact Int.natCast_nonneg natural

/-! What `int` makes out: digits of any script, an underscore between two of
them, and one plus sign in front. -/

inductive WrittenDigits : List Char → List Nat → Prop
  | last {digit : Char} {value : Nat}
      (known : decimalDigit digit = some value) :
      WrittenDigits [digit] [value]
  | next {digit : Char} {value : Nat} {rest : List Char} {values : List Nat}
      (known : decimalDigit digit = some value)
      (more : WrittenDigits rest values) :
      WrittenDigits (digit :: rest) (value :: values)
  | underscore {digit : Char} {value : Nat} {rest : List Char}
      {values : List Nat} (known : decimalDigit digit = some value)
      (more : WrittenDigits rest values) :
      WrittenDigits (digit :: '_' :: rest) (value :: values)

def positional (values : List Nat) : Nat :=
  values.foldl (fun value digit => value * 10 + digit) 0

inductive WrittenNatural : List Char → Nat → Prop
  | unsigned {digits : List Char} {values : List Nat}
      (written : WrittenDigits digits values)
      (short : values.length ≤ MAX_STR_DIGITS) :
      WrittenNatural digits (positional values)
  | plus {digits : List Char} {values : List Nat}
      (written : WrittenDigits digits values)
      (short : values.length ≤ MAX_STR_DIGITS) :
      WrittenNatural ('+' :: digits) (positional values)

theorem decimalDigit_bounds {character : Char} {value : Nat}
    (known : decimalDigit character = some value) :
    ∃ first ∈ digitZeros, ∃ offset < 10,
      character.toNat = first + offset := by
  obtain ⟨first, found, _⟩ := Option.map_eq_some_iff.mp known
  have between := List.find?_some found
  simp only [Bool.and_eq_true, decide_eq_true_eq] at between
  refine ⟨first, List.mem_of_find?_eq_some found,
    character.toNat - first, ?_, ?_⟩
  · omega
  · omega

theorem isSpace_of_decimalDigit {character : Char} {value : Nat}
    (known : decimalDigit character = some value) :
    isSpace character = false := by
  have apart : ∀ first ∈ digitZeros, first + 9 < 9 ∨
      (13 < first ∧ first + 9 < 28) ∨ (32 < first ∧ first + 9 < 0x85) ∨
      (0x85 < first ∧ first + 9 < 0xa0) ∨
      (0xa0 < first ∧ first + 9 < 0x1680) ∨
      (0x1680 < first ∧ first + 9 < 0x2000) ∨
      (0x205f < first ∧ first + 9 < 0x3000) ∨ 0x3000 < first := by
    decide
  obtain ⟨first, member, offset, small, code⟩ := decimalDigit_bounds known
  have far := apart first member
  simp only [isSpace, Bool.or_eq_false_iff, Bool.and_eq_false_iff,
    decide_eq_false_iff_not]
  omega

theorem WrittenDigits.plain {text : List Char} {values : List Nat}
    (written : WrittenDigits text values) :
    ∀ character ∈ text, isSpace character = false ∧ character ≠ '-' ∧
      character ≠ ',' := by
  have digit {character : Char} {value : Nat}
      (known : decimalDigit character = some value) :
      isSpace character = false ∧ character ≠ '-' ∧ character ≠ ',' := by
    refine ⟨isSpace_of_decimalDigit known, ?_, ?_⟩
    · intro same
      cases same
      cases known
    · intro same
      cases same
      cases known
  induction written with
  | last known =>
      intro character member
      rw [List.mem_singleton.mp member]
      exact digit known
  | next known more ih =>
      intro character member
      rcases List.mem_cons.mp member with rfl | later
      · exact digit known
      · exact ih character later
  | underscore known more ih =>
      intro character member
      rcases List.mem_cons.mp member with rfl | later
      · exact digit known
      · rcases List.mem_cons.mp later with rfl | later
        · decide
        · exact ih character later

theorem WrittenNatural.plain {text : List Char} {number : Nat}
    (written : WrittenNatural text number) :
    ∀ character ∈ text, isSpace character = false ∧ character ≠ '-' ∧
      character ≠ ',' := by
  cases written with
  | unsigned written short => exact written.plain
  | plus written short =>
      intro character member
      rcases List.mem_cons.mp member with rfl | later
      · decide
      · exact written.plain character later

theorem WrittenDigits.begins {text : List Char} {values : List Nat}
    (written : WrittenDigits text values) :
    ∃ digit rest value, text = digit :: rest ∧
      decimalDigit digit = some value := by
  cases written with
  | last known => exact ⟨_, _, _, rfl, known⟩
  | next known more => exact ⟨_, _, _, rfl, known⟩
  | underscore known more => exact ⟨_, _, _, rfl, known⟩

theorem readDigits_eq_some {text : List Char} {values : List Nat} :
    readDigits text = some values ↔ WrittenDigits text values := by
  constructor
  · intro read
    induction text using readDigits.induct generalizing values with
    | case1 => cases read
    | case2 digit =>
        obtain ⟨value, known, rfl⟩ := Option.map_eq_some_iff.mp read
        exact .last known
    | case3 digit rest ih =>
        rw [readDigits] at read
        obtain ⟨value, known, more⟩ := Option.bind_eq_some_iff.mp read
        obtain ⟨others, later, rfl⟩ := Option.map_eq_some_iff.mp more
        exact .underscore known (ih later)
    | case4 digit rest nonempty other ih =>
        rw [readDigits.eq_4 _ _ nonempty other] at read
        obtain ⟨value, known, more⟩ := Option.bind_eq_some_iff.mp read
        obtain ⟨others, later, rfl⟩ := Option.map_eq_some_iff.mp more
        exact .next known (ih later)
  · intro written
    induction written with
    | last known => rw [readDigits, known]; rfl
    | next known more ih =>
        obtain ⟨second, rest, value, rfl, here⟩ := more.begins
        rw [readDigits, known, ih]
        · rfl
        · intro clash
          cases clash
        · intro tail clash
          cases clash
          cases here
    | underscore known more ih =>
        rw [readDigits, known, ih]
        rfl

theorem magnitude_eq_some {text : List Char} {number : Nat} :
    magnitude text = some number ↔ ∃ values, WrittenDigits text values ∧
      values.length ≤ MAX_STR_DIGITS ∧ positional values = number := by
  unfold magnitude
  rw [Option.bind_eq_some_iff]
  constructor
  · intro read
    obtain ⟨values, digits, checked⟩ := read
    split at checked
    · cases checked
    · rename_i short
      cases checked
      exact ⟨values, readDigits_eq_some.mp digits, Nat.le_of_not_lt short, rfl⟩
  · intro known
    obtain ⟨values, written, short, same⟩ := known
    refine ⟨values, readDigits_eq_some.mpr written, ?_⟩
    rw [if_neg (Nat.not_lt.mpr short), ← same]
    rfl

theorem readInt_eq_some {text : List Char} {number : Nat}
    (unsigned : '-' ∉ text) :
    readInt text = some (number : Int) ↔ WrittenNatural text number := by
  constructor
  · intro read
    unfold readInt at read
    split at read
    · obtain ⟨value, known, same⟩ := Option.map_eq_some_iff.mp read
      obtain ⟨values, written, short, rfl⟩ := magnitude_eq_some.mp known
      cases same
      exact .plus written short
    · exact absurd List.mem_cons_self unsigned
    · obtain ⟨value, known, same⟩ := Option.map_eq_some_iff.mp read
      obtain ⟨values, written, short, rfl⟩ := magnitude_eq_some.mp known
      cases same
      exact .unsigned written short
  · intro written
    cases written with
    | unsigned written short =>
        obtain ⟨digit, rest, value, rfl, known⟩ := written.begins
        rw [readInt.eq_3, magnitude_eq_some.mpr ⟨_, written, short, rfl⟩]
        · rfl
        · intro tail clash
          cases clash
          cases known
        · intro tail clash
          cases clash
          cases known
    | plus written short =>
        rw [readInt, magnitude_eq_some.mpr ⟨_, written, short, rfl⟩]
        rfl

theorem WrittenNatural.nonempty {text : List Char} {number : Nat}
    (written : WrittenNatural text number) : text ≠ [] := by
  cases written with
  | unsigned written short =>
      obtain ⟨_, _, _, rfl, _⟩ := written.begins
      exact List.cons_ne_nil _ _
  | plus written short => exact List.cons_ne_nil _ _

theorem readInt_toNat {text : List Char} {number : Int} (unsigned : '-' ∉ text)
    (read : readInt text = some number) : WrittenNatural text number.toNat := by
  obtain ⟨natural, rfl⟩ :=
    Int.eq_ofNat_of_zero_le (readInt_nonneg read unsigned)
  exact (readInt_eq_some unsigned).mp read

theorem readInt_written {text : List Char} {number : Nat}
    (written : WrittenNatural text number) :
    readInt text = some (number : Int) :=
  (readInt_eq_some fun member => (written.plain _ member).2.1 rfl).mpr written

theorem decimalDigit_of_isDigit {character : Char}
    (digit : character.isDigit = true) :
    decimalDigit character = some (digitValue character) := by
  obtain ⟨low, high⟩ := isDigit_iff.mp digit
  unfold decimalDigit digitZeros
  rw [List.find?_cons_of_pos]
  · rfl
  · simp only [Bool.and_eq_true, decide_eq_true_eq]
    omega

theorem readDigits_of_isDigit {text : List Char} (nonempty : text ≠ [])
    (digits : ∀ character ∈ text, character.isDigit = true) :
    readDigits text = some (text.map digitValue) := by
  induction text with
  | nil => exact absurd rfl nonempty
  | cons first rest ih =>
      have here := decimalDigit_of_isDigit (digits first List.mem_cons_self)
      cases rest with
      | nil => simp [readDigits, here]
      | cons second rest =>
          have there := digits second
            (List.mem_cons_of_mem _ List.mem_cons_self)
          have apart : second ≠ '_' := by
            intro same
            subst same
            exact absurd there (by decide)
          have later := ih (List.cons_ne_nil _ _)
            fun character member => digits character
              (List.mem_cons_of_mem _ member)
          rw [readDigits, here, later]
          · rfl
          · nofun
          · intro tail same
            cases same
            exact apart rfl

theorem magnitude_isDecimal {text : List Char}
    (decimal : isDecimal text = true) :
    magnitude text =
      if MAX_STR_DIGITS < text.length then none
      else some (decimalValue text) := by
  obtain ⟨nonempty, digits⟩ := isDecimal_iff.mp decimal
  simp only [magnitude, readDigits_of_isDigit nonempty digits,
    Option.bind_some, List.length_map, List.foldl_map, decimalValue]

theorem readInt_isDecimal {text : List Char}
    (decimal : isDecimal text = true) :
    readInt text =
      if MAX_STR_DIGITS < text.length then none
      else some (decimalValue text : Int) := by
  have unsigned : readInt text = (magnitude text).map Int.ofNat := by
    obtain ⟨_, digits⟩ := isDecimal_iff.mp decimal
    unfold readInt
    split
    · exact absurd (digits '+' List.mem_cons_self) (by decide)
    · exact absurd (digits '-' List.mem_cons_self) (by decide)
    · rfl
  rw [unsigned, magnitude_isDecimal decimal]
  split <;> rfl

end OfflineReels.Foundation
