import OfflineReels.Media.Ranges
import OfflineReels.Offline.Records

namespace OfflineReels.Pwa

open OfflineReels.Foundation
open OfflineReels.Media
open OfflineReels.Offline (MAX_SAFE_INTEGER)

/-! How the service worker reads a `Range` header, and where it agrees with the
API. -/

/-- `/^\d+$/`, and a value that a number holds exactly -/
def isSafeDecimalInteger (value : List Char) : Bool :=
  isDecimal value && decimalValue value ≤ MAX_SAFE_INTEGER

/-- `/^(\d+)-(\d*)$/` -/
def matchRange (text : List Char) : Option (List Char × List Char) :=
  match text.dropWhile Char.isDigit with
  | '-' :: endValue =>
      if text.takeWhile Char.isDigit ≠ [] ∧ endValue.all Char.isDigit then
        some (text.takeWhile Char.isDigit, endValue)
      else none
  | _ => none

def parseSuffix (suffixValue : List Char) (totalSize : Nat) :
    Option ByteRange :=
  if ¬ isSafeDecimalInteger suffixValue ∨ decimalValue suffixValue = 0 then
    none
  else some ⟨max (totalSize - decimalValue suffixValue) 0, totalSize - 1⟩

def parseMatch (startValue endValue : List Char) (totalSize : Nat) :
    Option ByteRange :=
  if ¬ isSafeDecimalInteger startValue ∨
      totalSize ≤ decimalValue startValue then none
  else if endValue = [] then some ⟨decimalValue startValue, totalSize - 1⟩
  else if ¬ isSafeDecimalInteger endValue ∨
      decimalValue endValue < decimalValue startValue then none
  else
    some ⟨decimalValue startValue,
      min (decimalValue endValue) (totalSize - 1)⟩

def parseSingleByteRange (rangeHeader : String) (totalSize : Nat) :
    Option ByteRange :=
  if MAX_SAFE_INTEGER < totalSize ∨ totalSize = 0 then none
  else if ¬ BYTES_PREFIX <+: rangeHeader.toList then none
  else
    let rangeValue := rangeHeader.toList.drop BYTES_PREFIX.length
    if rangeValue = [] ∨ ',' ∈ rangeValue then none
    else if rangeValue.head? = some '-' then
      parseSuffix (rangeValue.drop 1) totalSize
    else
      (matchRange rangeValue).bind fun (startValue, endValue) =>
        parseMatch startValue endValue totalSize

theorem matchRange_eq_some {text startValue endValue : List Char} :
    matchRange text = some (startValue, endValue) ↔
      text = startValue ++ '-' :: endValue ∧ isDecimal startValue = true ∧
        ∀ character ∈ endValue, character.isDigit = true := by
  constructor
  · intro matched
    unfold matchRange at matched
    split at matched
    · rename_i rest behind
      split at matched
      · rename_i checked
        cases matched
        refine ⟨?_, isDecimal_iff.mpr ⟨checked.1, ?_⟩, ?_⟩
        · rw [← behind, List.takeWhile_append_dropWhile]
        · exact fun character member => List.mem_takeWhile_imp member
        · exact List.all_eq_true.mp checked.2
      · cases matched
    · cases matched
  · intro ⟨shape, start, stop⟩
    subst shape
    obtain ⟨nonempty, digits⟩ := isDecimal_iff.mp start
    have hyphen : ¬ '-'.isDigit = true := by decide
    have taken : (startValue ++ '-' :: endValue).takeWhile Char.isDigit =
        startValue := by
      rw [List.takeWhile_append_of_pos digits,
        List.takeWhile_cons_of_neg hyphen, List.append_nil]
    have dropped : (startValue ++ '-' :: endValue).dropWhile Char.isDigit =
        '-' :: endValue := by
      rw [List.dropWhile_append_of_pos digits,
        List.dropWhile_cons_of_neg hyphen]
    unfold matchRange
    rw [dropped, taken]
    exact if_pos ⟨nonempty, List.all_eq_true.mpr stop⟩

/-- A number that the service worker does not hold exactly. -/
def isUnsafe (text : List Char) : Bool :=
  (numbers text).any fun number => MAX_SAFE_INTEGER < decimalValue number

theorem not_mem_digits {text : List Char} {character : Char}
    (digits : ∀ member ∈ text, member.isDigit = true)
    (other : character.isDigit = false) : character ∉ text := by
  intro member
  rw [digits character member] at other
  cases other

theorem isSafe_of {value : List Char} (decimal : isDecimal value = true)
    (safe : ¬ MAX_SAFE_INTEGER < decimalValue value) :
    isSafeDecimalInteger value = true := by
  simp only [isSafeDecimalInteger, decimal, Bool.true_and, decide_eq_true_eq]
  omega

theorem not_isSafe {value : List Char}
    (large : MAX_SAFE_INTEGER < decimalValue value) :
    isSafeDecimalInteger value = false := by
  simp only [isSafeDecimalInteger, Bool.and_eq_false_iff,
    decide_eq_false_iff_not]
  omega

section

variable {size : Nat}

theorem parseSuffix_eq {length : List Char} (decimal : isDecimal length = true) :
    parseSuffix length size =
      if isUnsafe ('-' :: length) then none
      else (RangeSpec.suffix (decimalValue length)).within size := by
  have numbered : isUnsafe ('-' :: length) =
      decide (MAX_SAFE_INTEGER < decimalValue length) := by
    simp [isUnsafe, numbers, decimalValue]
  rw [numbered, parseSuffix]
  by_cases large : MAX_SAFE_INTEGER < decimalValue length
  · simp [not_isSafe large, large]
  · simp [isSafe_of decimal large, large, RangeSpec.within]

theorem isUnsafe_append {first last : List Char}
    (start : isDecimal first = true) :
    isUnsafe (first ++ '-' :: last) =
      (decide (MAX_SAFE_INTEGER < decimalValue first) ||
        decide (MAX_SAFE_INTEGER < decimalValue last)) := by
  simp only [isUnsafe, numbers, takeWhile_hyphen (ne_hyphen start),
    dropWhile_hyphen (ne_hyphen start), List.drop_succ_cons, List.drop_zero,
    List.any_cons, List.any_nil, Bool.or_false]

theorem parseMatch_closed {first last : List Char}
    (start : isDecimal first = true) (stop : isDecimal last = true) :
    parseMatch first last size =
      if isUnsafe (first ++ '-' :: last) then none
      else (RangeSpec.closed (decimalValue first)
        (decimalValue last)).within size := by
  obtain ⟨present, _⟩ := isDecimal_iff.mp stop
  rw [isUnsafe_append start, parseMatch]
  by_cases early : MAX_SAFE_INTEGER < decimalValue first
  · simp [not_isSafe early, early]
  · by_cases late : MAX_SAFE_INTEGER < decimalValue last
    · simp [not_isSafe late, late, present]
    · simp only [isSafe_of start early, isSafe_of stop late, early, late,
        present, RangeSpec.within]
      split_ifs <;> first
        | rfl
        | (exfalso; simp_all; omega)
        | simp_all

theorem parseMatch_openEnded {first : List Char}
    (start : isDecimal first = true) :
    parseMatch first [] size =
      if isUnsafe (first ++ ['-']) then none
      else (RangeSpec.openEnded (decimalValue first)).within size := by
  have zero : decimalValue [] = 0 := rfl
  rw [isUnsafe_append start, parseMatch, zero]
  by_cases early : MAX_SAFE_INTEGER < decimalValue first
  · simp [not_isSafe early, early]
  · simp [isSafe_of start early, early, RangeSpec.within]

theorem parseSingleByteRange_append {header : String} {first last : List Char}
    (positive : 0 < size) (bounded : size ≤ MAX_SAFE_INTEGER)
    (prefixed : header.toList = BYTES_PREFIX ++ (first ++ '-' :: last))
    (start : isDecimal first = true)
    (stop : ∀ character ∈ last, character.isDigit = true) :
    parseSingleByteRange header size = parseMatch first last size := by
  obtain ⟨nonempty, digits⟩ := isDecimal_iff.mp start
  have dropped : header.toList.drop BYTES_PREFIX.length =
      first ++ '-' :: last := by
    rw [prefixed, List.drop_left]
  have begins : ¬ ¬ BYTES_PREFIX <+: header.toList := by
    rw [not_not, prefixed]
    exact List.prefix_append _ _
  have sized : ¬ (MAX_SAFE_INTEGER < size ∨ size = 0) := by omega
  have single : ¬ (first ++ '-' :: last = [] ∨ ',' ∈ first ++ '-' :: last) := by
    intro refused
    rcases refused with empty | member
    · exact absurd empty (by simp)
    · rcases List.mem_append.mp member with here | there
      · exact not_mem_digits digits (by decide) here
      · rcases List.mem_cons.mp there with same | behind
        · exact absurd same (by decide)
        · exact not_mem_digits stop (by decide) behind
  have begun : ¬ (first ++ '-' :: last).head? = some '-' := by
    cases first with
    | nil => exact absurd rfl nonempty
    | cons head tail =>
        intro same
        cases same
        exact absurd (digits '-' List.mem_cons_self) (by decide)
  rw [parseSingleByteRange, if_neg sized, if_neg begins, dropped]
  dsimp only
  rw [if_neg single, if_neg begun,
    matchRange_eq_some.mpr ⟨rfl, start, stop⟩]
  rfl

/-- The service worker follows the grammar up to numbers that are too large. -/
theorem parseSingleByteRange_text {header : String} {text : List Char}
    {spec : RangeSpec} (positive : 0 < size)
    (bounded : size ≤ MAX_SAFE_INTEGER)
    (prefixed : header.toList = BYTES_PREFIX ++ text)
    (grammar : RangeText text spec) :
    parseSingleByteRange header size =
      if isUnsafe text then none else spec.within size := by
  cases grammar with
  | @closed first last start stop =>
      rw [parseSingleByteRange_append positive bounded prefixed start
        (isDecimal_iff.mp stop).2]
      exact parseMatch_closed start stop
  | @openEnded first start =>
      rw [parseSingleByteRange_append positive bounded prefixed start
        fun _ member => absurd member List.not_mem_nil]
      exact parseMatch_openEnded start
  | @suffix length decimal =>
      obtain ⟨_, digits⟩ := isDecimal_iff.mp decimal
      have dropped : header.toList.drop BYTES_PREFIX.length =
          '-' :: length := by
        rw [prefixed, List.drop_left]
      have begins : ¬ ¬ BYTES_PREFIX <+: header.toList := by
        rw [not_not, prefixed]
        exact List.prefix_append _ _
      have sized : ¬ (MAX_SAFE_INTEGER < size ∨ size = 0) := by omega
      have single : ¬ ('-' :: length = [] ∨ ',' ∈ '-' :: length) := by
        intro refused
        rcases refused with empty | member
        · cases empty
        · rcases List.mem_cons.mp member with same | behind
          · exact absurd same (by decide)
          · exact not_mem_digits digits (by decide) behind
      rw [parseSingleByteRange, if_neg sized, if_neg begins, dropped]
      dsimp only
      rw [if_neg single]
      exact parseSuffix_eq decimal

theorem parseSingleByteRange_grammar {header : String} {range : ByteRange}
    (parsed : parseSingleByteRange header size = some range) :
    ∃ text spec, header.toList = BYTES_PREFIX ++ text ∧
      RangeText text spec := by
  unfold parseSingleByteRange at parsed
  split at parsed
  · cases parsed
  · split at parsed
    · cases parsed
    · rename_i begins
      obtain ⟨text, shape⟩ := not_not.mp begins
      rw [← shape, List.drop_left] at parsed
      dsimp only at parsed
      split at parsed
      · cases parsed
      · split at parsed
        · rename_i hyphen
          obtain ⟨length, rfl⟩ := List.head?_eq_some_iff.mp hyphen
          have decimal : isDecimal length = true := by
            by_contra other
            simp [parseSuffix, isSafeDecimalInteger, other] at parsed
          exact ⟨_, _, shape.symm, .suffix decimal⟩
        · obtain ⟨⟨startValue, endValue⟩, matched, accepted⟩ :=
            Option.bind_eq_some_iff.mp parsed
          obtain ⟨rfl, start, stop⟩ := matchRange_eq_some.mp matched
          cases endValue with
          | nil => exact ⟨_, _, shape.symm, .openEnded start⟩
          | cons digit rest =>
              have decimal : isDecimal (digit :: rest) = true :=
                isDecimal_iff.mpr ⟨List.cons_ne_nil _ _, stop⟩
              exact ⟨_, _, shape.symm, .closed start decimal⟩

end

/-- Both parsers classify a header in the same way, and as the grammar does. -/
def Agree (header : String) (size : Nat) : Prop :=
  ∃ range, parseSingleRange (some header) size = classified range ∧
    parseSingleByteRange header size = range ∧
    ∀ denoted, range = some denoted ↔ Denotes size header denoted

/-- A header outside the grammar that has a range of the file once white space
around the numbers, plus signs, underscores and digits of other scripts are let
pass. -/
def IsTolerated (header : String) (size : Nat) : Prop :=
  (¬ ∃ text spec, header.toList = BYTES_PREFIX ++ text ∧
    RangeText text spec) ∧
    ∃ text spec, header.toList = BYTES_PREFIX ++ text ∧ LooseText text spec ∧
      (spec.within size).isSome = true

/-- A header for a range of the file with a number beyond the service worker or
with too many digits for Python. -/
def IsOversized (header : String) (size : Nat) : Prop :=
  ∃ text spec, header.toList = BYTES_PREFIX ++ text ∧ RangeText text spec ∧
    (spec.within size).isSome = true ∧
    (isUnsafe text || isLengthy text) = true

def specOf (text : List Char) : RangeSpec :=
  let first := text.takeWhile (· ≠ '-')
  let last := (text.dropWhile (· ≠ '-')).drop 1
  if first = [] then .suffix (decimalValue last)
  else if last = [] then .openEnded (decimalValue first)
  else .closed (decimalValue first) (decimalValue last)

theorem specOf_eq {text : List Char} {spec : RangeSpec}
    (grammar : RangeText text spec) : specOf text = spec := by
  cases grammar with
  | @closed first last start stop =>
      obtain ⟨nonempty, _⟩ := isDecimal_iff.mp start
      obtain ⟨present, _⟩ := isDecimal_iff.mp stop
      simp only [specOf, takeWhile_hyphen (ne_hyphen start),
        dropWhile_hyphen (ne_hyphen start), List.drop_succ_cons,
        List.drop_zero, if_neg nonempty, if_neg present]
  | @openEnded first start =>
      obtain ⟨nonempty, _⟩ := isDecimal_iff.mp start
      simp only [specOf, takeWhile_hyphen (ne_hyphen start),
        dropWhile_hyphen (ne_hyphen start), List.drop_succ_cons,
        List.drop_zero, if_neg nonempty, if_true]
  | suffix decimal => rfl

theorem denotes_iff {header : String} {text : List Char} {spec : RangeSpec}
    {size : Nat} {range : ByteRange}
    (prefixed : header.toList = BYTES_PREFIX ++ text)
    (grammar : RangeText text spec) :
    Denotes size header range ↔ spec.within size = some range := by
  constructor
  · intro ⟨other, otherSpec, shape, read, found⟩
    have same : text = other :=
      List.append_cancel_left (prefixed.symm.trans shape)
    subst same
    rw [← specOf_eq grammar, specOf_eq read]
    exact found
  · exact fun found => ⟨text, spec, prefixed, grammar, found⟩

theorem classified_injective {first second : Option ByteRange}
    (same : classified first = classified second) : first = second := by
  cases first <;> cases second <;> cases same <;> rfl

/-- Inside the grammar only the size of the numbers counts. -/
theorem agree_grammar {header : String} {text : List Char} {spec : RangeSpec}
    {size : Nat} (positive : 0 < size) (bounded : size ≤ MAX_SAFE_INTEGER)
    (prefixed : header.toList = BYTES_PREFIX ++ text)
    (grammar : RangeText text spec) :
    Agree header size ↔ ((spec.within size).isSome = true →
      (isUnsafe text || isLengthy text) = false) := by
  have api := parseSingleRange_eq header positive
  rw [pythonSpec_text prefixed grammar] at api
  have worker := parseSingleByteRange_text positive bounded prefixed grammar
  cases found : spec.within size with
  | none =>
      have none : (if isLengthy text then none else some spec).bind
          (RangeSpec.within size) = none := by
        split
        · rfl
        · exact found
      rw [none] at api
      rw [found, ite_self] at worker
      refine ⟨fun _ => nofun, fun _ => ⟨_, api, worker, fun range => ?_⟩⟩
      rw [denotes_iff prefixed grammar, found]
  | some range =>
      constructor
      · intro ⟨result, read, parsed, denoted⟩ _
        obtain rfl : result = some range :=
          (denoted range).mpr ((denotes_iff prefixed grammar).mpr found)
        rw [Bool.or_eq_false_iff]
        constructor
        · by_contra large
          rw [Bool.not_eq_false] at large
          rw [parsed, large] at worker
          cases worker
        · by_contra lengthy
          rw [Bool.not_eq_false] at lengthy
          rw [read, lengthy] at api
          cases api
      · intro small
        obtain ⟨exact_, short⟩ := Bool.or_eq_false_iff.mp (small rfl)
        rw [short] at api
        rw [exact_, found] at worker
        refine ⟨some range, api.trans ?_, worker, fun other => ?_⟩
        · exact congrArg classified found
        · rw [denotes_iff prefixed grammar, found]

theorem isSome_pythonSpec {header : String} {size : Nat} :
    ((pythonSpec header).bind (RangeSpec.within size)).isSome = true ↔
      ∃ text spec, header.toList = BYTES_PREFIX ++ text ∧ LooseText text spec ∧
        (spec.within size).isSome = true := by
  constructor
  · intro ranged
    obtain ⟨range, found⟩ := Option.isSome_iff_exists.mp ranged
    obtain ⟨spec, read, within⟩ := Option.bind_eq_some_iff.mp found
    obtain ⟨text, shape, loose⟩ := pythonSpec_eq_some.mp read
    exact ⟨text, spec, shape, loose, Option.isSome_iff_exists.mpr ⟨_, within⟩⟩
  · intro spelled
    obtain ⟨text, spec, shape, loose, within⟩ := spelled
    rw [pythonSpec_eq_some.mpr ⟨text, shape, loose⟩]
    exact within

/-- Outside the grammar only the API accepts anything. -/
theorem agree_outside {header : String} {size : Nat} (positive : 0 < size)
    (outside : ¬ ∃ text spec, header.toList = BYTES_PREFIX ++ text ∧
      RangeText text spec) :
    Agree header size ↔
      ((pythonSpec header).bind (RangeSpec.within size)).isSome = false := by
  have api := parseSingleRange_eq header positive
  have worker : parseSingleByteRange header size = none := by
    cases parsed : parseSingleByteRange header size with
    | none => rfl
    | some range => exact absurd (parseSingleByteRange_grammar parsed) outside
  constructor
  · intro ⟨result, read, parsed, _⟩
    rw [worker] at parsed
    subst parsed
    rw [classified_injective (api.symm.trans read)]
    rfl
  · intro unread
    rw [Option.isSome_eq_false_iff, Option.isNone_iff_eq_none] at unread
    rw [unread] at api
    refine ⟨none, api, worker, fun range => ⟨nofun, ?_⟩⟩
    intro ⟨text, spec, shape, read, _⟩
    exact absurd ⟨text, spec, shape, read⟩ outside

/-- The parsers agree on every header that is neither outside the grammar and
tolerated by the API nor in it with oversized numbers. -/
theorem range_parsers_agree_iff (header : String) (size : Nat)
    (positive : 1 ≤ size) (bounded : size < 2 ^ 53) :
    Agree header size ↔
      ¬ IsTolerated header size ∧ ¬ IsOversized header size := by
  have safe : size ≤ MAX_SAFE_INTEGER := by
    unfold MAX_SAFE_INTEGER
    omega
  by_cases inside : ∃ text spec, header.toList = BYTES_PREFIX ++ text ∧
      RangeText text spec
  · obtain ⟨text, spec, prefixed, grammar⟩ := inside
    rw [agree_grammar positive safe prefixed grammar]
    constructor
    · intro small
      refine ⟨fun tolerated => tolerated.1 ⟨text, spec, prefixed, grammar⟩, ?_⟩
      intro ⟨other, otherSpec, shape, read, ranged, large⟩
      have same : text = other :=
        List.append_cancel_left (prefixed.symm.trans shape)
      subst same
      rw [← specOf_eq read, specOf_eq grammar] at ranged
      rw [small ranged] at large
      cases large
    · intro ⟨_, bound⟩ ranged
      by_contra large
      rw [Bool.not_eq_false] at large
      exact bound ⟨text, spec, prefixed, grammar, ranged, large⟩
  · rw [agree_outside positive inside]
    constructor
    · intro unread
      constructor
      · intro tolerated
        rw [isSome_pythonSpec.mpr tolerated.2] at unread
        cases unread
      · intro ⟨text, spec, shape, read, _⟩
        exact inside ⟨text, spec, shape, read⟩
    · intro ⟨intolerant, _⟩
      by_contra tolerated
      rw [Bool.not_eq_false] at tolerated
      exact intolerant ⟨inside, isSome_pythonSpec.mp tolerated⟩

theorem plain_range_agrees :
    (Agree "bytes=2-5" 10 ↔
      ¬ IsTolerated "bytes=2-5" 10 ∧ ¬ IsOversized "bytes=2-5" 10) ∧
      parseSingleRange (some "bytes=2-5") 10 = .ok (some ⟨2, 5⟩) ∧
      parseSingleByteRange "bytes=2-5" 10 = some ⟨2, 5⟩ :=
  ⟨range_parsers_agree_iff "bytes=2-5" 10 (by decide) (by decide),
    by decide +kernel, by decide +kernel⟩

/-- An end beyond the exact numbers, and an underscore. -/
theorem range_parsers_disagree :
    ¬ Agree "bytes=0-9007199254740992" 10 ∧ ¬ Agree "bytes=1_0-" 20 := by
  constructor
  · intro ⟨range, read, parsed, _⟩
    have accepted : parseSingleRange (some "bytes=0-9007199254740992") 10 =
        classified (some ⟨0, 9⟩) := by decide +kernel
    have refused : parseSingleByteRange "bytes=0-9007199254740992" 10 =
        none := by decide +kernel
    rw [classified_injective (read.symm.trans accepted), refused] at parsed
    cases parsed
  · intro ⟨range, read, parsed, _⟩
    have accepted : parseSingleRange (some "bytes=1_0-") 20 =
        classified (some ⟨10, 19⟩) := by decide +kernel
    have refused : parseSingleByteRange "bytes=1_0-" 20 = none := by
      decide +kernel
    rw [classified_injective (read.symm.trans accepted), refused] at parsed
    cases parsed

end OfflineReels.Pwa
