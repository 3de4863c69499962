import Mathlib.Algebra.BigOperators.Group.List.Basic
import OfflineReels.Foundation.Digits

namespace OfflineReels.Foundation

/-! The calendar, and moments in UTC counted in microseconds since the first of
January of the year 1, as texts. -/

def isLeap (year : Nat) : Bool :=
  year % 4 = 0 && (year % 100 ≠ 0 || year % 400 = 0)

def yearLength (year : Nat) : Nat := if isLeap year then 366 else 365

def daysBeforeYear (year : Nat) : Nat :=
  365 * (year - 1) + (year - 1) / 4 - (year - 1) / 100 + (year - 1) / 400

/-- The year of a day and the days before it in the year; the last day of the
last year of a cycle does not begin another. -/
def splitYear (day : Nat) : Nat × Nat :=
  let cycle := day / 146097
  let inCycle := day % 146097
  let century := min 3 (inCycle / 36524)
  let inCentury := inCycle - 36524 * century
  let quad := inCentury / 1461
  let inQuad := inCentury % 1461
  let single := min 3 (inQuad / 365)
  (400 * cycle + 100 * century + 4 * quad + single + 1, inQuad - 365 * single)

theorem splitYear_shape (day : Nat) :
    ∃ cycle century quad single rest,
      splitYear day =
        (400 * cycle + 100 * century + 4 * quad + single + 1, rest) ∧
      day = 146097 * cycle + 36524 * century + 1461 * quad + 365 * single +
        rest ∧
      century ≤ 3 ∧ quad ≤ 24 ∧ single ≤ 3 ∧
      (rest < 365 ∨
        (rest = 365 ∧ single = 3 ∧ (quad ≠ 24 ∨ century = 3))) := by
  have cycles := Nat.div_add_mod day 146097
  have inCycle := Nat.mod_lt day (show 146097 > 0 by decide)
  generalize day / 146097 = cycle at *
  generalize position : day % 146097 = later at *
  have centuries : ∃ century ≤ 3, century = min 3 (later / 36524) ∧
      later - 36524 * century ≤ 36524 ∧ 36524 * century ≤ later ∧
      (later - 36524 * century = 36524 → century = 3) :=
    ⟨_, Nat.min_le_left _ _, rfl, by omega, by omega, by omega⟩
  obtain ⟨century, few, century_eq, inCentury, reached, last⟩ := centuries
  have quads := Nat.div_add_mod (later - 36524 * century) 1461
  have inQuad := Nat.mod_lt (later - 36524 * century)
    (show 1461 > 0 by decide)
  generalize quad_eq : (later - 36524 * century) / 1461 = quad at *
  generalize rest_eq : (later - 36524 * century) % 1461 = rest at *
  have singles : ∃ single ≤ 3, single = min 3 (rest / 365) ∧
      365 * single ≤ rest ∧ rest - 365 * single ≤ 365 ∧
      (rest - 365 * single = 365 → single = 3) :=
    ⟨_, Nat.min_le_left _ _, rfl, by omega, by omega, by omega⟩
  obtain ⟨single, three, single_eq, passed, left, leap⟩ := singles
  refine ⟨cycle, century, quad, single, rest - 365 * single, ?_, ?_, few, ?_,
    three, ?_⟩
  · simp only [splitYear, position, ← century_eq, quad_eq, rest_eq,
      ← single_eq, Prod.mk.injEq, and_true]
    omega
  · omega
  · omega
  · omega

theorem splitYear_joined (day : Nat) :
    daysBeforeYear (splitYear day).1 + (splitYear day).2 = day := by
  obtain ⟨cycle, century, quad, single, rest, split, shape, _, _, _, _⟩ :=
    splitYear_shape day
  have quads : (400 * cycle + 100 * century + 4 * quad + single) / 4 =
      100 * cycle + 25 * century + quad := by
    omega
  have centuries : (400 * cycle + 100 * century + 4 * quad + single) / 100 =
      4 * cycle + century := by
    omega
  have cycles : (400 * cycle + 100 * century + 4 * quad + single) / 400 =
      cycle := by
    omega
  simp only [split, daysBeforeYear, Nat.add_sub_cancel, quads, centuries,
    cycles]
  omega

theorem splitYear_within (day : Nat) :
    (splitYear day).2 < yearLength (splitYear day).1 := by
  obtain ⟨cycle, century, quad, single, rest, split, shape, few, quads, three,
    left⟩ := splitYear_shape day
  rw [split]
  rcases left with short | ⟨last, leap, common⟩
  · unfold yearLength
    split <;> omega
  · subst last leap
    have leaps : isLeap (400 * cycle + 100 * century + 4 * quad + 3 + 1) =
        true := by
      simp only [isLeap, Bool.and_eq_true, Bool.or_eq_true, decide_eq_true_eq,
        ne_eq, decide_not, Bool.not_eq_true', decide_eq_false_iff_not]
      omega
    simp [yearLength, leaps]

theorem splitYear_positive (day : Nat) : 1 ≤ (splitYear day).1 :=
  Nat.le_add_left 1 _

theorem splitYear_bounded {day : Nat} (bounded : day < daysBeforeYear 10000) :
    (splitYear day).1 ≤ 9999 := by
  obtain ⟨cycle, century, quad, single, rest, split, shape, few, quads, three,
    _⟩ := splitYear_shape day
  rw [split]
  have whole : daysBeforeYear 10000 = 3652059 := rfl
  rw [whole, shape] at bounded
  have cycles : cycle ≤ 24 := by omega
  have full : cycle < 24 ∨ (cycle = 24 ∧
      36524 * century + 1461 * quad + 365 * single + rest < 145731) := by omega
  dsimp only
  omega

def monthLengths (year : Nat) : List Nat :=
  [31, if isLeap year then 29 else 28, 31, 30, 31, 30, 31, 31, 30, 31, 30, 31]

theorem sum_monthLengths (year : Nat) :
    (monthLengths year).sum = yearLength year := by
  simp only [monthLengths, yearLength]
  split <;> rfl

def splitParts : List Nat → Nat → Nat × Nat
  | [], position => (0, position)
  | length :: rest, position =>
      if position < length then (0, position)
      else
        let (part, inPart) := splitParts rest (position - length)
        (part + 1, inPart)

theorem splitParts_spec {lengths : List Nat} {position : Nat}
    (within : position < lengths.sum) :
    (lengths.take (splitParts lengths position).1).sum +
        (splitParts lengths position).2 = position ∧
      (splitParts lengths position).1 < lengths.length ∧
      (splitParts lengths position).2 <
        lengths.getD (splitParts lengths position).1 0 := by
  induction lengths generalizing position with
  | nil => exact absurd within (Nat.not_lt_zero _)
  | cons length rest ih =>
      rw [splitParts]
      split
      · rename_i inside
        exact ⟨by simp, by simp, inside⟩
      · rename_i outside
        rw [List.sum_cons] at within
        have remaining : position - length < rest.sum := by omega
        obtain ⟨joined, part, inPart⟩ := ih remaining
        refine ⟨?_, ?_, ?_⟩
        · simp only [List.take_succ_cons, List.sum_cons]
          omega
        · simp only [List.length_cons]
          omega
        · exact inPart

structure CalendarDate where
  year : Nat
  month : Nat
  day : Nat
  deriving DecidableEq, Repr

namespace CalendarDate

def Valid (date : CalendarDate) : Prop :=
  1 ≤ date.year ∧ date.year ≤ 9999 ∧ 1 ≤ date.month ∧ date.month ≤ 12 ∧
    1 ≤ date.day ∧ date.day ≤ (monthLengths date.year).getD (date.month - 1) 0

instance (date : CalendarDate) : Decidable date.Valid :=
  inferInstanceAs (Decidable (_ ∧ _))

def toDays (date : CalendarDate) : Nat :=
  daysBeforeYear date.year +
    ((monthLengths date.year).take (date.month - 1)).sum + (date.day - 1)

def ofDays (day : Nat) : CalendarDate :=
  let (year, inYear) := splitYear day
  let (month, inMonth) := splitParts (monthLengths year) inYear
  ⟨year, month + 1, inMonth + 1⟩

theorem toDays_ofDays (day : Nat) : (ofDays day).toDays = day := by
  have within := splitYear_within day
  rw [← sum_monthLengths] at within
  have months := (splitParts_spec within).1
  have years := splitYear_joined day
  simp only [ofDays, toDays, Nat.add_sub_cancel]
  omega

theorem ofDays_valid {day : Nat} (bounded : day < daysBeforeYear 10000) :
    (ofDays day).Valid := by
  have within := splitYear_within day
  rw [← sum_monthLengths] at within
  obtain ⟨_, month, inMonth⟩ := splitParts_spec within
  have twelve : (monthLengths (splitYear day).1).length = 12 := rfl
  refine ⟨splitYear_positive day, splitYear_bounded bounded, ?_, ?_, ?_, ?_⟩
  · simp only [ofDays]
    omega
  · simp only [ofDays]
    omega
  · simp only [ofDays]
    omega
  · simp only [ofDays, Nat.add_sub_cancel]
    exact inMonth

end CalendarDate

def microsecondsPerDay : Nat := 24 * 60 * 60 * 1000000

def endOfTime : Nat := daysBeforeYear 10000 * microsecondsPerDay

/-- The fraction of a whole second is left out. -/
def fractionText (fraction : Nat) : List Char :=
  if fraction = 0 then [] else '.' :: fixedDigits 10 6 fraction

/-- `datetime.isoformat` without the offset -/
def localFormat (moment : Nat) : List Char :=
  let date := CalendarDate.ofDays (moment / microsecondsPerDay)
  let second := moment % microsecondsPerDay / 1000000
  fixedDigits 10 4 date.year ++ '-' :: (fixedDigits 10 2 date.month ++
    '-' :: (fixedDigits 10 2 date.day ++ 'T' ::
      (fixedDigits 10 2 (second / 3600) ++
        ':' :: (fixedDigits 10 2 (second / 60 % 60) ++
          ':' :: (fixedDigits 10 2 (second % 60) ++
            fractionText (moment % 1000000))))))

def utcOffset : List Char := ['+', '0', '0', ':', '0', '0']

/-- `datetime.isoformat` -/
def isoFormat (moment : Nat) : List Char := localFormat moment ++ utcOffset

def readFraction : List Char → Option (Nat × List Char)
  | '.' :: digits => readDecimal 6 digits
  | text => some (0, text)

/-- `datetime.fromisoformat` of the texts that `isoformat` writes of a moment
in UTC -/
def fromIsoFormat (text : List Char) : Option Nat := do
  let (year, text) ← readDecimal 4 text
  let text ← expect '-' text
  let (month, text) ← readDecimal 2 text
  let text ← expect '-' text
  let (day, text) ← readDecimal 2 text
  let text ← expect 'T' text
  let (hour, text) ← readDecimal 2 text
  let text ← expect ':' text
  let (minute, text) ← readDecimal 2 text
  let text ← expect ':' text
  let (second, text) ← readDecimal 2 text
  let (fraction, text) ← readFraction text
  let date := CalendarDate.mk year month day
  if date.Valid ∧ hour < 24 ∧ minute < 60 ∧ second < 60 ∧ text = utcOffset then
    some (date.toDays * microsecondsPerDay +
      ((hour * 60 + minute) * 60 + second) * 1000000 + fraction)
  else none

theorem readFraction_fractionText {fraction : Nat} (small : fraction < 1000000)
    (rest : List Char) (apart : ∀ more, rest ≠ '.' :: more) :
    readFraction (fractionText fraction ++ rest) = some (fraction, rest) := by
  unfold fractionText
  split
  · rename_i zero
    subst zero
    unfold readFraction
    split
    · rename_i more same
      exact absurd same (apart more)
    · rfl
  · exact readDecimal_fixedDigits small rest

theorem monthLength_le (year month : Nat) :
    (monthLengths year).getD month 0 ≤ 31 := by
  have all : ∀ length ∈ monthLengths year, length ≤ 31 := by
    unfold monthLengths
    split <;> decide
  rw [List.getD_eq_getElem?_getD]
  cases here : (monthLengths year)[month]? with
  | none => exact Nat.zero_le 31
  | some length => exact all length (List.mem_of_getElem? here)

theorem moment_joined (moment : Nat) :
    moment / microsecondsPerDay * microsecondsPerDay +
      ((moment % microsecondsPerDay / 1000000 / 3600 * 60 +
        moment % microsecondsPerDay / 1000000 / 60 % 60) * 60 +
        moment % microsecondsPerDay / 1000000 % 60) * 1000000 +
      moment % 1000000 = moment := by
  unfold microsecondsPerDay
  omega

theorem fromIsoFormat_isoFormat {moment : Nat}
    (bounded : moment < endOfTime) :
    fromIsoFormat (isoFormat moment) = some moment := by
  have within : moment / microsecondsPerDay < daysBeforeYear 10000 :=
    Nat.div_lt_of_lt_mul (by rw [Nat.mul_comm]; exact bounded)
  have inDay : moment % microsecondsPerDay < 86400000000 :=
    Nat.mod_lt _ (by decide)
  have inSecond : moment % microsecondsPerDay / 1000000 < 86400 := by omega
  have valid := CalendarDate.ofDays_valid within
  have days := CalendarDate.toDays_ofDays (moment / microsecondsPerDay)
  have joined := moment_joined moment
  unfold isoFormat localFormat fromIsoFormat
  generalize CalendarDate.ofDays (moment / microsecondsPerDay) = date at *
  generalize moment % microsecondsPerDay / 1000000 = second at *
  have ⟨early, late, _, month, _, inMonth⟩ := valid
  have day : date.day ≤ 31 := Nat.le_trans inMonth (monthLength_le _ _)
  have fraction : moment % 1000000 < 1000000 := Nat.mod_lt _ (by decide)
  simp only [List.append_assoc, List.cons_append]
  rw [readDecimal_fixedDigits (by omega)]
  simp only [Option.bind_eq_bind, Option.bind_some, expect_cons]
  rw [readDecimal_fixedDigits (by omega)]
  simp only [Option.bind_some, expect_cons]
  rw [readDecimal_fixedDigits (by omega)]
  simp only [Option.bind_some, expect_cons]
  rw [readDecimal_fixedDigits (by omega)]
  simp only [Option.bind_some, expect_cons]
  rw [readDecimal_fixedDigits (by omega)]
  simp only [Option.bind_some, expect_cons]
  rw [readDecimal_fixedDigits (by omega)]
  simp only [Option.bind_some]
  rw [readFraction_fractionText fraction _ (by intro more; exact nofun)]
  simp only [Option.bind_some, days, joined]
  refine if_pos ⟨valid, ?_, ?_, ?_, trivial⟩
  · omega
  · omega
  · omega

theorem digitChar_decimal {digit : Nat} (small : digit < 10) :
    (Nat.digitChar digit).isDigit = true := by
  revert digit
  decide

def isLocalCharacter (character : Char) : Bool :=
  character.isDigit || character = '-' || character = 'T' ||
    character = ':' || character = '.'

theorem mem_decimalDigits {width number : Nat} {character : Char}
    (member : character ∈ fixedDigits 10 width number) :
    isLocalCharacter character = true := by
  obtain ⟨digit, small, rfl⟩ := mem_fixedDigits (by decide) member
  simp [isLocalCharacter, digitChar_decimal small]

theorem mem_localFormat {moment : Nat} {character : Char}
    (member : character ∈ localFormat moment) :
    isLocalCharacter character = true := by
  have fraction (number : Nat)
      (within : character ∈ fractionText number) :
      isLocalCharacter character = true := by
    unfold fractionText at within
    split at within
    · cases within
    · rcases List.mem_cons.mp within with rfl | digit
      · rfl
      · exact mem_decimalDigits digit
  simp only [localFormat, List.mem_append, List.mem_cons] at member
  rcases member with digit | rfl | digit | rfl | digit | rfl | digit | rfl |
    digit | rfl | digit | digit
  all_goals first | rfl | exact mem_decimalDigits digit | exact fraction _ digit

theorem length_localFormat (moment : Nat) :
    (localFormat moment).length ≤ 26 := by
  have fraction : (fractionText (moment % 1000000)).length ≤ 7 := by
    unfold fractionText
    split
    · exact Nat.zero_le 7
    · simp [length_fixedDigits]
  simp only [localFormat, List.length_append, List.length_cons,
    length_fixedDigits]
  omega

end OfflineReels.Foundation
