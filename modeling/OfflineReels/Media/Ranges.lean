import OfflineReels.Foundation.Text

namespace OfflineReels.Media

open OfflineReels.Foundation

/-! The `Range` header: the grammar of a single range, and how the API reads
it. -/

structure ByteRange where
  start : Int
  stop : Int
  deriving DecidableEq, Repr

structure RangeNotSatisfiable where
  deriving DecidableEq, Repr

def BYTES_PREFIX : List Char := "bytes=".toList

inductive RangeSpec
  | closed (first last : Nat)
  | openEnded (first : Nat)
  | suffix (length : Nat)
  deriving DecidableEq, Repr

/-- What a specifier denotes in a file of the given size. -/
def RangeSpec.within (size : Nat) : RangeSpec → Option ByteRange
  | .closed first last =>
      if size ≤ first ∨ last < first then none
      else some ⟨first, min last (size - 1)⟩
  | .openEnded first =>
      if size ≤ first then none else some ⟨first, size - 1⟩
  | .suffix length =>
      if length = 0 then none else some ⟨max (size - length) 0, size - 1⟩

/-- `digits "-" [digits]` or `"-" digits` -/
inductive RangeText : List Char → RangeSpec → Prop
  | closed {first last : List Char} (start : isDecimal first = true)
      (stop : isDecimal last = true) :
      RangeText (first ++ '-' :: last)
        (.closed (decimalValue first) (decimalValue last))
  | openEnded {first : List Char} (start : isDecimal first = true) :
      RangeText (first ++ ['-']) (.openEnded (decimalValue first))
  | suffix {length : List Char} (decimal : isDecimal length = true) :
      RangeText ('-' :: length) (.suffix (decimalValue length))

/-- The same with white space around the numbers, and with numbers as `int`
reads them. -/
inductive LooseText : List Char → RangeSpec → Prop
  | closed {first last start stop : List Char} {lower upper : Nat}
      (before : Spaced first start) (after : Spaced last stop)
      (low : WrittenNatural start lower) (high : WrittenNatural stop upper) :
      LooseText (first ++ '-' :: last) (.closed lower upper)
  | openEnded {first last start : List Char} {lower : Nat}
      (before : Spaced first start) (low : WrittenNatural start lower)
      (blank : ∀ character ∈ last, isSpace character = true) :
      LooseText (first ++ '-' :: last) (.openEnded lower)
  | suffix {first last stop : List Char} {length : Nat}
      (blank : ∀ character ∈ first, isSpace character = true)
      (after : Spaced last stop) (written : WrittenNatural stop length) :
      LooseText (first ++ '-' :: last) (.suffix length)

/-- The range of a header, if the grammar has the header and the file the
range. -/
def Denotes (size : Nat) (header : String) (range : ByteRange) : Prop :=
  ∃ text spec, header.toList = BYTES_PREFIX ++ text ∧ RangeText text spec ∧
    spec.within size = some range

def rangeParts (specifier : List Char) : Option (List Char × List Char) :=
  if specifier = [] ∨ ',' ∈ specifier ∨ specifier.count '-' ≠ 1 then none
  else some (strip (specifier.takeWhile (· ≠ '-')),
    strip ((specifier.dropWhile (· ≠ '-')).drop 1))

/-- The integers are read in turn; a `ValueError` ends the reading. -/
def readRange (startValue endValue : List Char) (totalSize : Nat) :
    Option ByteRange :=
  if startValue = [] then
    (readInt endValue).bind fun suffixLength =>
      if suffixLength ≤ 0 then none
      else some ⟨max (totalSize - suffixLength) 0, totalSize - 1⟩
  else
    (readInt startValue).bind fun start =>
      if start < 0 ∨ totalSize ≤ start then none
      else
        (if endValue = [] then some (totalSize - 1 : Int)
          else (readInt endValue).map (min · (totalSize - 1))).bind fun stop =>
            if stop < start then none else some ⟨start, stop⟩

def parseSingleRange (value : Option String) (totalSize : Nat) :
    Except RangeNotSatisfiable (Option ByteRange) :=
  match value with
  | none => .ok none
  | some value =>
      if totalSize = 0 ∨ ¬ BYTES_PREFIX <+: value.toList then .error {}
      else
        match rangeParts (strip (value.toList.drop BYTES_PREFIX.length)) with
        | none => .error {}
        | some (startValue, endValue) =>
            match readRange startValue endValue totalSize with
            | none => .error {}
            | some range => .ok (some range)

def classified : Option ByteRange →
    Except RangeNotSatisfiable (Option ByteRange)
  | none => .error {}
  | some range => .ok (some range)

def pythonSpec (header : String) : Option RangeSpec :=
  if ¬ BYTES_PREFIX <+: header.toList then none
  else
    (rangeParts (strip (header.toList.drop BYTES_PREFIX.length))).bind
      fun (startValue, endValue) =>
        if startValue = [] then
          (readInt endValue).map fun length => .suffix length.toNat
        else
          (readInt startValue).bind fun first =>
            if endValue = [] then some (.openEnded first.toNat)
            else (readInt endValue).map fun last =>
              .closed first.toNat last.toNat

theorem rangeParts_unsigned {specifier startValue endValue : List Char}
    (parts : rangeParts specifier = some (startValue, endValue)) :
    '-' ∉ startValue ∧ '-' ∉ endValue := by
  unfold rangeParts at parts
  split at parts
  · cases parts
  · rename_i checked
    cases parts
    simp only [not_or, not_not] at checked
    have counted : (specifier.takeWhile (· ≠ '-')).count '-' +
        (specifier.dropWhile (· ≠ '-')).count '-' = 1 := by
      rw [← List.count_append, List.takeWhile_append_dropWhile]
      exact checked.2.2
    constructor
    · intro member
      have inside := List.mem_takeWhile_imp (mem_of_mem_strip member)
      simp at inside
    · intro member
      have inside := mem_of_mem_strip member
      have positive := List.count_pos_iff.mpr inside
      cases rest : specifier.dropWhile (· ≠ '-') with
      | nil =>
          rw [rest] at inside
          cases inside
      | cons first tail =>
          have hyphen : first = '-' := by
            have head := List.head?_dropWhile_not (· ≠ '-') specifier
            rw [rest] at head
            simpa using head
          rw [rest, hyphen] at counted
          rw [rest] at positive
          simp only [List.count_cons_self, List.drop_succ_cons,
            List.drop_zero] at counted positive
          omega

/-- The order in which the integers are read does not show. -/
theorem readRange_eq {startValue endValue : List Char} {size : Nat}
    (start : '-' ∉ startValue) (stop : '-' ∉ endValue) :
    readRange startValue endValue size =
      (if startValue = [] then
        (readInt endValue).map fun length => RangeSpec.suffix length.toNat
      else
        (readInt startValue).bind fun first =>
          if endValue = [] then some (RangeSpec.openEnded first.toNat)
          else (readInt endValue).map fun last =>
            RangeSpec.closed first.toNat last.toNat).bind
        (RangeSpec.within size) := by
  unfold readRange
  split
  · cases read : readInt endValue with
    | none => rfl
    | some length =>
        have positive := readInt_nonneg read stop
        obtain ⟨natural, rfl⟩ := Int.eq_ofNat_of_zero_le positive
        simp [RangeSpec.within]
  · cases read : readInt startValue with
    | none => rfl
    | some first =>
        have positive := readInt_nonneg read start
        obtain ⟨first, rfl⟩ := Int.eq_ofNat_of_zero_le positive
        by_cases absent : endValue = []
        · simp only [absent, if_true, Option.bind_some, Int.toNat_natCast,
            RangeSpec.within]
          split_ifs <;> first
            | rfl
            | omega
        · cases last : readInt endValue with
          | none => simp [absent]
          | some last =>
              have below := readInt_nonneg last stop
              obtain ⟨last, rfl⟩ := Int.eq_ofNat_of_zero_le below
              simp only [absent, if_false, Option.bind_some, Option.map_some,
                Int.toNat_natCast, RangeSpec.within]
              split_ifs <;> first
                | rfl
                | omega

theorem parseSingleRange_eq (header : String) {size : Nat}
    (positive : 0 < size) :
    parseSingleRange (some header) size =
      classified ((pythonSpec header).bind (RangeSpec.within size)) := by
  unfold parseSingleRange pythonSpec
  dsimp only
  by_cases prefixed : BYTES_PREFIX <+: header.toList
  · have checked : ¬ (size = 0 ∨ ¬ BYTES_PREFIX <+: header.toList) := by
      intro refused
      rcases refused with none | other
      · omega
      · exact other prefixed
    rw [if_neg checked, if_neg (not_not.mpr prefixed)]
    cases split : rangeParts (strip (header.toList.drop BYTES_PREFIX.length)) with
    | none => rfl
    | some parts =>
        obtain ⟨startValue, endValue⟩ := parts
        obtain ⟨start, stop⟩ := rangeParts_unsigned split
        simp only [Option.bind_some, readRange_eq start stop]
        split <;> rename_i read <;> rw [read] <;> rfl
  · have unprefixed : size = 0 ∨ ¬ BYTES_PREFIX <+: header.toList :=
      .inr prefixed
    rw [if_pos unprefixed, if_pos prefixed]
    rfl

/-! What stands around the only hyphen is read as it was written. -/

section

variable {first last : List Char}

theorem takeWhile_hyphen (before : ∀ character ∈ first,
    decide (character ≠ '-') = true) :
    (first ++ '-' :: last).takeWhile (· ≠ '-') = first := by
  rw [List.takeWhile_append_of_pos before]
  simp

theorem dropWhile_hyphen (before : ∀ character ∈ first,
    decide (character ≠ '-') = true) :
    (first ++ '-' :: last).dropWhile (· ≠ '-') = '-' :: last := by
  rw [List.dropWhile_append_of_pos before]
  simp

end

theorem rangeParts_spaced {first last start stop : List Char}
    (before : Spaced first start) (after : Spaced last stop)
    (plain : ∀ character ∈ start, isSpace character = false ∧
      character ≠ '-' ∧ character ≠ ',')
    (others : ∀ character ∈ stop, isSpace character = false ∧
      character ≠ '-' ∧ character ≠ ',') :
    rangeParts (strip (first ++ '-' :: last)) = some (start, stop) := by
  have left := before.dropWhile fun character member =>
    (plain character member).1
  have right := (after.reverse.dropWhile fun character member =>
    (others character (List.mem_reverse.mp member)).1).reverse
  rw [List.reverse_reverse] at right
  rw [strip_append_cons (by decide)]
  generalize first.dropWhile isSpace = front at left ⊢
  generalize (last.reverse.dropWhile isSpace).reverse = back at right ⊢
  have unsigned : '-' ∉ front := fun member =>
    (plain _ (left.mem (by decide) member)).2.1 rfl
  have unsignedToo : '-' ∉ back := fun member =>
    (others _ (right.mem (by decide) member)).2.1 rfl
  have comma : ',' ∉ front ++ '-' :: back := by
    intro member
    rcases List.mem_append.mp member with here | there
    · exact (plain _ (left.mem (by decide) here)).2.2 rfl
    · rcases List.mem_cons.mp there with same | behind
      · exact absurd same (by decide)
      · exact (others _ (right.mem (by decide) behind)).2.2 rfl
  have counted : (front ++ '-' :: back).count '-' = 1 := by
    rw [List.count_append, List.count_cons_self, List.count_eq_zero.mpr unsigned,
      List.count_eq_zero.mpr unsignedToo]
  have apart : ∀ character ∈ front, decide (character ≠ '-') = true := by
    intro character member
    rw [decide_eq_true_eq]
    intro same
    exact unsigned (same ▸ member)
  unfold rangeParts
  rw [if_neg, takeWhile_hyphen apart, dropWhile_hyphen apart,
    List.drop_succ_cons, List.drop_zero,
    strip_of_spaced left fun character member => (plain character member).1,
    strip_of_spaced right fun character member => (others character member).1]
  intro refused
  rcases refused with empty | member | other
  · exact absurd empty (by simp)
  · exact comma member
  · exact other counted

theorem rangeParts_eq_some {text start stop : List Char}
    (parts : rangeParts (strip text) = some (start, stop)) :
    ∃ first last, text = first ++ '-' :: last ∧ Spaced first start ∧
      Spaced last stop := by
  obtain ⟨before, after, shape, leading, trailing⟩ := spaced_strip text
  generalize strip text = specifier at parts shape
  unfold rangeParts at parts
  split at parts
  · cases parts
  · rename_i checked
    simp only [not_or, not_not] at checked
    cases parts
    have present : '-' ∈ specifier := by
      apply List.count_pos_iff.mp
      omega
    obtain ⟨front, back, rfl, unsigned⟩ := List.eq_append_cons_of_mem present
    have apart : ∀ character ∈ front, decide (character ≠ '-') = true := by
      intro character member
      rw [decide_eq_true_eq]
      intro same
      exact unsigned (same ▸ member)
    rw [takeWhile_hyphen apart, dropWhile_hyphen apart, List.drop_succ_cons,
      List.drop_zero]
    refine ⟨before ++ front, back ++ after, ?_, ?_, ?_⟩
    · rw [shape]
      simp
    · exact (spaced_strip front).append_left leading
    · exact (spaced_strip back).append_right trailing

/-- What the API makes of a header, without its functions. -/
theorem pythonSpec_eq_some {header : String} {spec : RangeSpec} :
    pythonSpec header = some spec ↔
      ∃ text, header.toList = BYTES_PREFIX ++ text ∧ LooseText text spec := by
  constructor
  · intro read
    unfold pythonSpec at read
    split at read
    · cases read
    · rename_i begins
      obtain ⟨text, shape⟩ := not_not.mp begins
      rw [← shape, List.drop_left] at read
      obtain ⟨⟨startValue, endValue⟩, parts, numbered⟩ :=
        Option.bind_eq_some_iff.mp read
      obtain ⟨unsigned, unsignedToo⟩ := rangeParts_unsigned parts
      obtain ⟨first, last, rfl, before, after⟩ := rangeParts_eq_some parts
      refine ⟨_, shape.symm, ?_⟩
      dsimp only at numbered
      split at numbered
      · rename_i absent
        obtain ⟨length, known, rfl⟩ := Option.map_eq_some_iff.mp numbered
        rw [absent, spaced_nil] at before
        exact .suffix before after (readInt_toNat unsignedToo known)
      · obtain ⟨lower, low, later⟩ := Option.bind_eq_some_iff.mp numbered
        split at later
        · rename_i absent
          cases later
          rw [absent, spaced_nil] at after
          exact .openEnded before (readInt_toNat unsigned low) after
        · obtain ⟨upper, high, rfl⟩ := Option.map_eq_some_iff.mp later
          exact .closed before after (readInt_toNat unsigned low)
            (readInt_toNat unsignedToo high)
  · intro loose
    obtain ⟨text, shape, loose⟩ := loose
    have begins : ¬ ¬ BYTES_PREFIX <+: header.toList := by
      rw [not_not, shape]
      exact List.prefix_append _ _
    unfold pythonSpec
    rw [if_neg begins, shape, List.drop_left]
    cases loose with
    | closed before after low high =>
        rw [rangeParts_spaced before after low.plain high.plain]
        simp [low.nonempty, high.nonempty, readInt_written low,
          readInt_written high]
    | openEnded before low blank =>
        rw [rangeParts_spaced before (spaced_nil.mpr blank) low.plain (by simp)]
        simp [low.nonempty, readInt_written low]
    | suffix blank after written =>
        rw [rangeParts_spaced (spaced_nil.mpr blank) after (by simp)
          written.plain]
        simp [readInt_written written]

def numbers (text : List Char) : List (List Char) :=
  [text.takeWhile (· ≠ '-'), (text.dropWhile (· ≠ '-')).drop 1]

/-- A number that Python refuses to read. -/
def isLengthy (text : List Char) : Bool :=
  (numbers text).any fun number => MAX_STR_DIGITS < number.length

section

variable {first last : List Char}

theorem ne_hyphen {text : List Char} (decimal : isDecimal text = true) :
    ∀ character ∈ text, decide (character ≠ '-') = true := by
  intro character member
  have digit := (isDecimal_iff.mp decimal).2 character member
  rw [decide_eq_true_eq]
  intro same
  subst same
  exact absurd digit (by decide)

theorem rangeParts_text
    (start : ∀ character ∈ first, character.isDigit = true)
    (stop : ∀ character ∈ last, character.isDigit = true) :
    rangeParts (strip (first ++ '-' :: last)) = some (first, last) := by
  have apart {character : Char} (digit : character.isDigit = true) :
      character ≠ '-' ∧ character ≠ ',' := by
    constructor <;> intro same <;> subst same <;>
      exact absurd digit (by decide)
  have before : ∀ character ∈ first, decide (character ≠ '-') = true :=
    fun character member => decide_eq_true (apart (start character member)).1
  have spaceless : ∀ character ∈ first ++ '-' :: last,
      isSpace character = false := by
    intro character member
    rcases List.mem_append.mp member with here | there
    · exact isSpace_of_isDigit (start character here)
    · rcases List.mem_cons.mp there with rfl | behind
      · decide
      · exact isSpace_of_isDigit (stop character behind)
  have none {text : List Char}
      (digits : ∀ character ∈ text, character.isDigit = true) :
      text.count '-' = 0 :=
    List.count_eq_zero.mpr fun member => (apart (digits _ member)).1 rfl
  have comma : ',' ∉ first ++ '-' :: last := by
    intro member
    rcases List.mem_append.mp member with here | there
    · exact (apart (start _ here)).2 rfl
    · rcases List.mem_cons.mp there with same | behind
      · exact absurd same (by decide)
      · exact (apart (stop _ behind)).2 rfl
  have counted : (first ++ '-' :: last).count '-' = 1 := by
    rw [List.count_append, List.count_cons_self, none start, none stop]
  have stripped {text : List Char}
      (digits : ∀ character ∈ text, character.isDigit = true) :
      strip text = text :=
    strip_none fun character member =>
      isSpace_of_isDigit (digits character member)
  rw [strip_none spaceless, rangeParts, if_neg]
  · rw [takeWhile_hyphen before, dropWhile_hyphen before, List.drop_succ_cons,
      List.drop_zero, stripped start, stripped stop]
  · intro refused
    rcases refused with empty | member | other
    · exact absurd empty (by simp)
    · exact comma member
    · exact other counted

end

theorem pythonSpec_text {header : String} {text : List Char}
    {spec : RangeSpec} (prefixed : header.toList = BYTES_PREFIX ++ text)
    (grammar : RangeText text spec) :
    pythonSpec header = if isLengthy text then none else some spec := by
  have dropped : header.toList.drop BYTES_PREFIX.length = text := by
    rw [prefixed, List.drop_left]
  have begins : ¬ ¬ BYTES_PREFIX <+: header.toList := by
    rw [not_not, prefixed]
    exact List.prefix_append _ _
  rw [pythonSpec, if_neg begins, dropped]
  cases grammar with
  | @closed first last start stop =>
      obtain ⟨nonempty, digits⟩ := isDecimal_iff.mp start
      obtain ⟨present, others⟩ := isDecimal_iff.mp stop
      rw [rangeParts_text digits others]
      simp only [Option.bind_some, if_neg nonempty, if_neg present,
        readInt_isDecimal start, readInt_isDecimal stop, isLengthy, numbers,
        takeWhile_hyphen (ne_hyphen start), dropWhile_hyphen (ne_hyphen start),
        List.drop_succ_cons, List.drop_zero, List.any_cons, List.any_nil,
        Bool.or_false, Bool.or_eq_true, decide_eq_true_eq]
      split_ifs <;> first
        | rfl
        | (exfalso; omega)
  | @openEnded first start =>
      obtain ⟨nonempty, digits⟩ := isDecimal_iff.mp start
      have none : ∀ character ∈ ([] : List Char),
          character.isDigit = true :=
        fun _ member => absurd member List.not_mem_nil
      rw [rangeParts_text digits none]
      simp only [Option.bind_some, if_neg nonempty, if_true,
        readInt_isDecimal start, isLengthy, numbers,
        takeWhile_hyphen (ne_hyphen start), dropWhile_hyphen (ne_hyphen start),
        List.drop_succ_cons, List.drop_zero, List.any_cons, List.any_nil,
        Bool.or_false, Bool.or_eq_true, decide_eq_true_eq, List.length_nil]
      split_ifs <;> first
        | rfl
        | (exfalso; omega)
  | @suffix length decimal =>
      obtain ⟨_, digits⟩ := isDecimal_iff.mp decimal
      have parts : rangeParts (strip ([] ++ '-' :: length)) = some ([], length) :=
        rangeParts_text (fun _ member => absurd member List.not_mem_nil) digits
      rw [List.nil_append] at parts
      rw [parts]
      simp only [Option.bind_some, if_true, readInt_isDecimal decimal,
        isLengthy, numbers, List.takeWhile_cons, List.dropWhile_cons,
        List.any_cons, List.any_nil, ne_eq, not_true, decide_false,
        Bool.or_false, Bool.or_eq_true, decide_eq_true_eq, List.length_nil,
        List.drop_succ_cons, List.drop_zero, Bool.false_eq_true, if_false]
      split_ifs <;> first
        | rfl
        | (exfalso; omega)

end OfflineReels.Media
