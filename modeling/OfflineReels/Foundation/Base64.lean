import Mathlib.Data.List.Basic

namespace OfflineReels.Foundation

/-! Base64 with the URL alphabet, without padding. -/

def base64Alphabet : List Char :=
  "ABCDEFGHIJKLMNOPQRSTUVWXYZabcdefghijklmnopqrstuvwxyz0123456789-_".toList

def sextetChar (sextet : Nat) : Char := base64Alphabet.getD sextet 'A'

def sextetValue (character : Char) : Option Nat :=
  base64Alphabet.findIdx? (· = character)

def encodeBase64 : List UInt8 → List Char
  | [] => []
  | [first] =>
      [sextetChar (first.toNat / 4), sextetChar (first.toNat % 4 * 16)]
  | [first, second] =>
      [sextetChar (first.toNat / 4),
        sextetChar (first.toNat % 4 * 16 + second.toNat / 16),
        sextetChar (second.toNat % 16 * 4)]
  | first :: second :: third :: rest =>
      sextetChar (first.toNat / 4) ::
        sextetChar (first.toNat % 4 * 16 + second.toNat / 16) ::
        sextetChar (second.toNat % 16 * 4 + third.toNat / 64) ::
        sextetChar (third.toNat % 64) :: encodeBase64 rest

/-- The bits that do not fill a byte are dropped. -/
def decodeBase64 : List Char → Option (List UInt8)
  | [] => some []
  | [_] => none
  | [first, second] => do
      let first ← sextetValue first
      let second ← sextetValue second
      return [UInt8.ofNat (first * 4 + second / 16)]
  | [first, second, third] => do
      let first ← sextetValue first
      let second ← sextetValue second
      let third ← sextetValue third
      return [UInt8.ofNat (first * 4 + second / 16),
        UInt8.ofNat (second % 16 * 16 + third / 4)]
  | first :: second :: third :: fourth :: rest => do
      let first ← sextetValue first
      let second ← sextetValue second
      let third ← sextetValue third
      let fourth ← sextetValue fourth
      let decoded ← decodeBase64 rest
      return UInt8.ofNat (first * 4 + second / 16) ::
        UInt8.ofNat (second % 16 * 16 + third / 4) ::
        UInt8.ofNat (third % 4 * 64 + fourth) :: decoded

theorem sextetValue_sextetChar {sextet : Nat} (small : sextet < 64) :
    sextetValue (sextetChar sextet) = some sextet := by
  revert sextet
  decide +kernel

theorem sextetChar_mem {sextet : Nat} (small : sextet < 64) :
    sextetChar sextet ∈ base64Alphabet := by
  revert sextet
  decide +kernel

theorem ofNat_of_eq {byte : UInt8} {value : Nat} (same : value = byte.toNat) :
    UInt8.ofNat value = byte := by
  subst same
  exact UInt8.ofNat_toNat

/-! They are small, and the bytes are put together from them again. -/

section

variable (first second third : UInt8)

theorem high_small : first.toNat / 4 < 64 := by
  have := first.toNat_lt
  omega

theorem upper_small : first.toNat % 4 * 16 + second.toNat / 16 < 64 := by
  have := second.toNat_lt
  omega

theorem lower_small : second.toNat % 16 * 4 + third.toNat / 64 < 64 := by
  have := third.toNat_lt
  omega

theorem low_small : third.toNat % 64 < 64 := Nat.mod_lt _ (by decide)

theorem first_joined :
    UInt8.ofNat (first.toNat / 4 * 4 +
      (first.toNat % 4 * 16 + second.toNat / 16) / 16) = first := by
  have := second.toNat_lt
  exact ofNat_of_eq (by omega)

theorem second_joined :
    UInt8.ofNat ((first.toNat % 4 * 16 + second.toNat / 16) % 16 * 16 +
      (second.toNat % 16 * 4 + third.toNat / 64) / 4) = second := by
  have := second.toNat_lt
  have := third.toNat_lt
  exact ofNat_of_eq (by omega)

theorem third_joined :
    UInt8.ofNat ((second.toNat % 16 * 4 + third.toNat / 64) % 4 * 64 +
      third.toNat % 64) = third := by
  have := third.toNat_lt
  exact ofNat_of_eq (by omega)

end

theorem decodeBase64_encodeBase64 (bytes : List UInt8) :
    decodeBase64 (encodeBase64 bytes) = some bytes := by
  induction bytes using encodeBase64.induct with
  | case1 => rfl
  | case2 first =>
      have upper : first.toNat % 4 * 16 < 64 := by omega
      have joined := first_joined first 0
      simp only [UInt8.toNat_zero, Nat.zero_div, Nat.add_zero] at joined
      simp only [encodeBase64, decodeBase64,
        sextetValue_sextetChar (high_small first),
        sextetValue_sextetChar upper, Option.bind_eq_bind, Option.bind_some,
        joined, Option.pure_def]
  | case3 first second =>
      have lower : second.toNat % 16 * 4 < 64 := by omega
      have joined := second_joined first second 0
      simp only [UInt8.toNat_zero, Nat.zero_div, Nat.add_zero] at joined
      simp only [encodeBase64, decodeBase64,
        sextetValue_sextetChar (high_small first),
        sextetValue_sextetChar (upper_small first second),
        sextetValue_sextetChar lower, Option.bind_eq_bind, Option.bind_some,
        first_joined, joined, Option.pure_def]
  | case4 first second third rest ih =>
      simp only [encodeBase64, decodeBase64,
        sextetValue_sextetChar (high_small first),
        sextetValue_sextetChar (upper_small first second),
        sextetValue_sextetChar (lower_small second third),
        sextetValue_sextetChar (low_small third), ih, Option.bind_eq_bind,
        Option.bind_some, first_joined, second_joined, third_joined,
        Option.pure_def]

theorem mem_encodeBase64 {bytes : List UInt8} {character : Char}
    (member : character ∈ encodeBase64 bytes) :
    character ∈ base64Alphabet := by
  induction bytes using encodeBase64.induct with
  | case1 => cases member
  | case2 first =>
      have upper : first.toNat % 4 * 16 < 64 := by omega
      simp only [encodeBase64, List.mem_cons, List.not_mem_nil, or_false]
        at member
      rcases member with rfl | rfl
      · exact sextetChar_mem (high_small first)
      · exact sextetChar_mem upper
  | case3 first second =>
      have lower : second.toNat % 16 * 4 < 64 := by omega
      simp only [encodeBase64, List.mem_cons, List.not_mem_nil, or_false]
        at member
      rcases member with rfl | rfl | rfl
      · exact sextetChar_mem (high_small first)
      · exact sextetChar_mem (upper_small first second)
      · exact sextetChar_mem lower
  | case4 first second third rest ih =>
      simp only [encodeBase64, List.mem_cons] at member
      rcases member with rfl | rfl | rfl | rfl | later
      · exact sextetChar_mem (high_small first)
      · exact sextetChar_mem (upper_small first second)
      · exact sextetChar_mem (lower_small second third)
      · exact sextetChar_mem (low_small third)
      · exact ih later

theorem length_encodeBase64 (bytes : List UInt8) :
    (encodeBase64 bytes).length = (4 * bytes.length + 2) / 3 := by
  induction bytes using encodeBase64.induct with
  | case1 => rfl
  | case2 first => simp [encodeBase64]
  | case3 first second => simp [encodeBase64]
  | case4 first second third rest ih =>
      simp only [encodeBase64, List.length_cons, ih]
      omega

/-- The bits that do not fill a byte are zero. -/
def isCanonicalBase64 : List Char → Bool
  | [] => true
  | [_] => false
  | [_, second] => (sextetValue second).all (· % 16 = 0)
  | [_, _, third] => (sextetValue third).all (· % 4 = 0)
  | _ :: _ :: _ :: _ :: rest => isCanonicalBase64 rest

theorem sextetValue_spec {character : Char} {sextet : Nat}
    (value : sextetValue character = some sextet) :
    sextet < 64 ∧ sextetChar sextet = character := by
  unfold sextetValue at value
  obtain ⟨within, found, _⟩ := List.findIdx?_eq_some_iff_getElem.mp value
  have length : base64Alphabet.length = 64 := by decide +kernel
  constructor
  · omega
  · unfold sextetChar
    rw [List.getD_eq_getElem?_getD, List.getElem?_eq_getElem within]
    simpa using found

theorem sextetChar_eq_iff {character : Char} {first second : Nat}
    (small : first < 64) (value : sextetValue character = some second) :
    sextetChar first = character ↔ first = second := by
  constructor
  · intro same
    have read := sextetValue_sextetChar small
    rw [same, value] at read
    exact (Option.some.inj read).symm
  · intro same
    rw [same]
    exact (sextetValue_spec value).2

theorem toNat_ofNat_small {value : Nat} (small : value < 256) :
    (UInt8.ofNat value).toNat = value := by
  rw [UInt8.toNat_ofNat']
  exact Nat.mod_eq_of_lt small

theorem encodeBase64_decodeBase64_iff {text : List Char} {bytes : List UInt8}
    (decoded : decodeBase64 text = some bytes) :
    encodeBase64 bytes = text ↔ isCanonicalBase64 text = true := by
  induction text using decodeBase64.induct generalizing bytes with
  | case1 =>
      cases decoded
      exact ⟨fun _ => rfl, fun _ => rfl⟩
  | case2 single => cases decoded
  | case3 first second =>
      simp only [decodeBase64, Option.bind_eq_bind, Option.bind_eq_some_iff,
        Option.pure_def, Option.some.injEq] at decoded
      obtain ⟨one, read, two, read', rfl⟩ := decoded
      obtain ⟨small, same⟩ := sextetValue_spec read
      obtain ⟨small', same'⟩ := sextetValue_spec read'
      have whole := toNat_ofNat_small (show one * 4 + two / 16 < 256 by omega)
      have high : (one * 4 + two / 16) / 4 = one := by omega
      have low : (one * 4 + two / 16) % 4 * 16 = two / 16 * 16 := by omega
      rw [encodeBase64, whole, high, low, same, isCanonicalBase64, read']
      simp only [List.cons.injEq, true_and, and_true, Option.all_some,
        decide_eq_true_eq]
      rw [sextetChar_eq_iff (by omega) read']
      omega
  | case4 first second third =>
      simp only [decodeBase64, Option.bind_eq_bind, Option.bind_eq_some_iff,
        Option.pure_def, Option.some.injEq] at decoded
      obtain ⟨one, read, two, read', three, read'', rfl⟩ := decoded
      obtain ⟨small, same⟩ := sextetValue_spec read
      obtain ⟨small', same'⟩ := sextetValue_spec read'
      obtain ⟨small'', same''⟩ := sextetValue_spec read''
      have whole := toNat_ofNat_small (show one * 4 + two / 16 < 256 by omega)
      have whole' := toNat_ofNat_small
        (show two % 16 * 16 + three / 4 < 256 by omega)
      have high : (one * 4 + two / 16) / 4 = one := by omega
      have middle : (one * 4 + two / 16) % 4 * 16 +
          (two % 16 * 16 + three / 4) / 16 = two := by omega
      have low : (two % 16 * 16 + three / 4) % 16 * 4 = three / 4 * 4 := by
        omega
      rw [encodeBase64, whole, whole', high, middle, low, same, same',
        isCanonicalBase64, read'']
      simp only [List.cons.injEq, true_and, and_true, Option.all_some,
        decide_eq_true_eq]
      rw [sextetChar_eq_iff (by omega) read'']
      omega
  | case5 first second third fourth rest ih =>
      simp only [decodeBase64, Option.bind_eq_bind, Option.bind_eq_some_iff,
        Option.pure_def, Option.some.injEq] at decoded
      obtain ⟨one, read, two, read', three, read'', four, read4, later,
        decoded, rfl⟩ := decoded
      obtain ⟨small, same⟩ := sextetValue_spec read
      obtain ⟨small', same'⟩ := sextetValue_spec read'
      obtain ⟨small'', same''⟩ := sextetValue_spec read''
      obtain ⟨small4, same4⟩ := sextetValue_spec read4
      have whole := toNat_ofNat_small (show one * 4 + two / 16 < 256 by omega)
      have whole' := toNat_ofNat_small
        (show two % 16 * 16 + three / 4 < 256 by omega)
      have whole'' := toNat_ofNat_small
        (show three % 4 * 64 + four < 256 by omega)
      have high : (one * 4 + two / 16) / 4 = one := by omega
      have upper : (one * 4 + two / 16) % 4 * 16 +
          (two % 16 * 16 + three / 4) / 16 = two := by omega
      have lower : (two % 16 * 16 + three / 4) % 16 * 4 +
          (three % 4 * 64 + four) / 64 = three := by omega
      have low : (three % 4 * 64 + four) % 64 = four := by omega
      rw [encodeBase64, whole, whole', whole'', high, upper, lower, low, same,
        same', same'', same4, isCanonicalBase64]
      simp only [List.cons.injEq, true_and]
      exact ih decoded

theorem length_decodeBase64 {text : List Char} {bytes : List UInt8}
    (decoded : decodeBase64 text = some bytes) :
    text.length = (4 * bytes.length + 2) / 3 := by
  induction text using decodeBase64.induct generalizing bytes with
  | case1 =>
      cases decoded
      rfl
  | case2 single => cases decoded
  | case3 first second =>
      simp only [decodeBase64, Option.bind_eq_bind, Option.bind_eq_some_iff,
        Option.pure_def, Option.some.injEq] at decoded
      obtain ⟨one, read, two, read', rfl⟩ := decoded
      simp only [List.length_cons, List.length_nil]
  | case4 first second third =>
      simp only [decodeBase64, Option.bind_eq_bind, Option.bind_eq_some_iff,
        Option.pure_def, Option.some.injEq] at decoded
      obtain ⟨one, read, two, read', three, read'', rfl⟩ := decoded
      simp only [List.length_cons, List.length_nil]
  | case5 first second third fourth rest ih =>
      simp only [decodeBase64, Option.bind_eq_bind, Option.bind_eq_some_iff,
        Option.pure_def, Option.some.injEq] at decoded
      obtain ⟨one, read, two, read', three, read'', four, read4, later,
        decoded, rfl⟩ := decoded
      have length := ih decoded
      simp only [List.length_cons]
      omega

/-- Two bits of the last character do not fill a byte. -/
theorem isCanonicalBase64_last {text : List Char}
    (length : text.length % 4 = 3) :
    isCanonicalBase64 text =
      (text.getLast?.bind sextetValue).all (· % 4 = 0) := by
  induction text using isCanonicalBase64.induct with
  | case1 => cases length
  | case2 single => cases length
  | case3 first second => cases length
  | case4 first second third => rfl
  | case5 first second third fourth rest ih =>
      have later : rest.length % 4 = 3 := by
        simp only [List.length_cons] at length
        omega
      rw [isCanonicalBase64, ih later]
      cases rest with
      | nil => cases later
      | cons next others => rfl

theorem sextetValue_of_decodeBase64 {text : List Char} {bytes : List UInt8}
    (decoded : decodeBase64 text = some bytes) {character : Char}
    (member : character ∈ text) : (sextetValue character).isSome = true := by
  induction text using decodeBase64.induct generalizing bytes with
  | case1 => cases member
  | case2 single => cases decoded
  | case3 first second =>
      simp only [decodeBase64, Option.bind_eq_bind, Option.bind_eq_some_iff]
        at decoded
      obtain ⟨one, read, two, read', _⟩ := decoded
      simp only [List.mem_cons, List.not_mem_nil, or_false] at member
      rcases member with rfl | rfl
      · rw [read, Option.isSome_some]
      · rw [read', Option.isSome_some]
  | case4 first second third =>
      simp only [decodeBase64, Option.bind_eq_bind, Option.bind_eq_some_iff]
        at decoded
      obtain ⟨one, read, two, read', three, read'', _⟩ := decoded
      simp only [List.mem_cons, List.not_mem_nil, or_false] at member
      rcases member with rfl | rfl | rfl
      · rw [read, Option.isSome_some]
      · rw [read', Option.isSome_some]
      · rw [read'', Option.isSome_some]
  | case5 first second third fourth rest ih =>
      simp only [decodeBase64, Option.bind_eq_bind, Option.bind_eq_some_iff]
        at decoded
      obtain ⟨one, read, two, read', three, read'', four, read4, later,
        decoded, _⟩ := decoded
      simp only [List.mem_cons] at member
      rcases member with rfl | rfl | rfl | rfl | within
      · rw [read, Option.isSome_some]
      · rw [read', Option.isSome_some]
      · rw [read'', Option.isSome_some]
      · rw [read4, Option.isSome_some]
      · exact ih decoded within

end OfflineReels.Foundation
