import OfflineReels.Videos.Cursor

namespace OfflineReels.Offline

open OfflineReels.Foundation
open OfflineReels.Instagram
open OfflineReels.Videos

/-! The path under which a video is cached, and how it is read back. -/

def HEX_CHARACTERS : List Char := "0123456789abcdefABCDEF".toList

/-- Case-insensitive; one list of characters for each place. -/
def UUID_PATTERN : List (List Char) :=
  List.replicate 8 HEX_CHARACTERS ++ [['-']] ++
    List.replicate 4 HEX_CHARACTERS ++ [['-'], "12345".toList] ++
    List.replicate 3 HEX_CHARACTERS ++ [['-'], "89abAB".toList] ++
    List.replicate 3 HEX_CHARACTERS ++ [['-']] ++
    List.replicate 12 HEX_CHARACTERS

def matchesPattern (pattern : List (List Char)) (text : List Char) : Bool :=
  match pattern, text with
  | [], [] => true
  | allowed :: pattern, character :: text =>
      character ∈ allowed && matchesPattern pattern text
  | _, _ => false

/-- An error is thrown where there is no answer. -/
def normalizeVideoId (videoId : List Char) : Option (List Char) :=
  if ¬ matchesPattern UUID_PATTERN videoId then none
  else some (videoId.map Char.toLower)

def MEDIA_PREFIX : List Char := "/offline-media/".toList

def getOfflineMediaPath (videoId : List Char) : Option (List Char) :=
  (normalizeVideoId videoId).map (MEDIA_PREFIX ++ ·)

/-- A sign that no two hexadecimal digits follow is malformed. -/
def unescape : List Char → Option Bytes
  | [] => some []
  | '%' :: high :: low :: rest => do
      let high ← hexadecimal high
      let low ← hexadecimal low
      let bytes ← unescape rest
      some (UInt8.ofNat (high * 16 + low) :: bytes)
  | character :: rest =>
      if character = '%' then none
      else (unescape rest).map (utf8 [character] ++ ·)

/-- A `URIError` is thrown where there is no answer. -/
def decodeURIComponent (text : List Char) : Option (List Char) :=
  (unescape text).bind readUtf8

theorem unescape_plain {text : List Char} (plain : '%' ∉ text) :
    unescape text = some (utf8 text) := by
  induction text with
  | nil => rfl
  | cons character rest ih =>
      obtain ⟨sign, later⟩ := List.ne_and_not_mem_of_not_mem_cons plain
      rw [unescape, if_neg (Ne.symm sign), ih later]
      · simp [utf8]
      · intro _ _ _ same
        exact absurd same.symm sign

theorem decodeURIComponent_plain {text : List Char} (plain : '%' ∉ text) :
    decodeURIComponent text = some text := by
  rw [decodeURIComponent, unescape_plain plain, Option.bind_some,
    readUtf8_utf8]

/-- A pattern that lower case does not leave. -/
def IsFolding (pattern : List (List Char)) : Bool :=
  pattern.all fun allowed => allowed.all fun character =>
    character.toLower ∈ allowed &&
      character.toLower.toLower = character.toLower &&
      character.toLower ≠ '%' && character.toLower ≠ '/'

theorem folding_uuid : IsFolding UUID_PATTERN = true := by decide +kernel

theorem matchesPattern_lower {pattern : List (List Char)} {text : List Char}
    (folding : IsFolding pattern = true)
    (matched : matchesPattern pattern text = true) :
    matchesPattern pattern (text.map Char.toLower) = true ∧
      (text.map Char.toLower).map Char.toLower = text.map Char.toLower ∧
      '%' ∉ text.map Char.toLower ∧ '/' ∉ text.map Char.toLower := by
  induction pattern generalizing text with
  | nil =>
      cases text with
      | nil => exact ⟨rfl, rfl, List.not_mem_nil, List.not_mem_nil⟩
      | cons character text => cases matched
  | cons allowed pattern ih =>
      cases text with
      | nil => cases matched
      | cons character text =>
          simp only [matchesPattern, Bool.and_eq_true, decide_eq_true_eq]
            at matched
          simp only [IsFolding, List.all_cons, Bool.and_eq_true] at folding
          obtain ⟨again, stable, sign, slash⟩ :=
            ih folding.2 matched.2
          have here := List.all_eq_true.mp folding.1 character matched.1
          simp only [Bool.and_eq_true, decide_eq_true_eq] at here
          obtain ⟨⟨⟨inside, same⟩, noSign⟩, noSlash⟩ := here
          refine ⟨?_, ?_, ?_, ?_⟩
          · simp [matchesPattern, inside, again]
          · rw [List.map_cons, List.map_cons, same, stable]
          · exact List.not_mem_cons_of_ne_of_not_mem (Ne.symm noSign) sign
          · exact List.not_mem_cons_of_ne_of_not_mem (Ne.symm noSlash) slash

theorem normalizeVideoId_eq_some {videoId normal : List Char} :
    normalizeVideoId videoId = some normal ↔
      matchesPattern UUID_PATTERN videoId = true ∧
        videoId.map Char.toLower = normal := by
  unfold normalizeVideoId
  split
  · rename_i refused
    exact ⟨nofun, fun matched => absurd matched.1 refused⟩
  · rename_i matched
    rw [not_not] at matched
    simp [matched]

theorem normalizeVideoId_normal {videoId normal : List Char}
    (normalized : normalizeVideoId videoId = some normal) :
    normalizeVideoId normal = some normal ∧ '%' ∉ normal ∧
      '/' ∉ normal ∧ normal ≠ [] := by
  obtain ⟨matched, rfl⟩ := normalizeVideoId_eq_some.mp normalized
  obtain ⟨again, stable, sign, slash⟩ :=
    matchesPattern_lower folding_uuid matched
  refine ⟨normalizeVideoId_eq_some.mpr ⟨again, stable⟩, sign, slash, ?_⟩
  intro empty
  rw [empty] at again
  exact absurd again (by decide)

end OfflineReels.Offline
