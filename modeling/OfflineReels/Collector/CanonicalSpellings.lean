import Mathlib.Data.List.TakeDrop
import Mathlib.Data.List.TakeWhile
import OfflineReels.Collector.Canonical

namespace OfflineReels.Collector.CanonicalSpellings

/-! Which URLs pass for the canonical one of a shortcode. -/

section

variable {delimiter : Char} {text before after : List Char}

theorem partitionAt_absent (absent : delimiter ∉ text) :
    partitionAt delimiter text = (text, none) := by
  have other : ∀ character ∈ text, decide (character ≠ delimiter) = true :=
    fun character member => decide_eq_true fun same => absent (same ▸ member)
  unfold partitionAt
  rw [List.span_eq_takeWhile_dropWhile, List.takeWhile_eq_self_iff.mpr other,
    List.dropWhile_eq_nil_iff.mpr other]

theorem partitionAt_append (absent : delimiter ∉ before) :
    partitionAt delimiter (before ++ delimiter :: after) =
      (before, some after) := by
  have other : ∀ character ∈ before, decide (character ≠ delimiter) = true :=
    fun character member => decide_eq_true fun same => absent (same ▸ member)
  unfold partitionAt
  rw [List.span_eq_takeWhile_dropWhile, List.takeWhile_append_of_pos other,
    List.dropWhile_append_of_pos other]
  simp

theorem partitionAt_cases (delimiter : Char) (text : List Char) :
    (delimiter ∉ text ∧ partitionAt delimiter text = (text, none)) ∨
      ∃ before after, delimiter ∉ before ∧
        text = before ++ delimiter :: after ∧
        partitionAt delimiter text = (before, some after) := by
  by_cases member : delimiter ∈ text
  · obtain ⟨before, after, rfl, absent⟩ := List.eq_append_cons_of_mem member
    exact .inr ⟨before, after, absent, rfl, partitionAt_append absent⟩
  · exact .inl ⟨member, partitionAt_absent member⟩

theorem partitionAt_bare_iff (delimiter : Char) (text first : List Char) :
    ((partitionAt delimiter text).1 = first ∧
      (partitionAt delimiter text).2.getD [] = []) ↔
      delimiter ∉ first ∧ (text = first ∨ text = first ++ [delimiter]) := by
  rcases partitionAt_cases delimiter text with
    ⟨absent, parts⟩ | ⟨before, after, absent, rfl, parts⟩
  · rw [parts]
    constructor
    · rintro ⟨rfl, _⟩
      exact ⟨absent, .inl rfl⟩
    · rintro ⟨_, rfl | rfl⟩
      · exact ⟨rfl, rfl⟩
      · exact absurd (List.mem_append_right _ (List.mem_singleton_self _))
          absent
  · rw [parts]
    constructor
    · rintro ⟨rfl, bare⟩
      rw [Option.getD_some] at bare
      exact ⟨absent, .inr (by rw [bare])⟩
    · rintro ⟨free, same | same⟩
      · exact absurd (same ▸ List.mem_append_right _ List.mem_cons_self) free
      · have both : partitionAt delimiter (first ++ [delimiter]) =
            (first, some []) := partitionAt_append free
        rw [← same, parts] at both
        cases both
        exact ⟨rfl, rfl⟩

end

def canonicalUrl (shortcode : String) : String :=
  "https://www.instagram.com/reel/" ++ shortcode ++ "/"

def reelPath (shortcode : String) : List Char :=
  ['/', 'r', 'e', 'e', 'l', '/'] ++ shortcode.toList ++ ['/']

theorem reelPath_eq (shortcode : String) : reelPath shortcode =
    "/reel/".toList ++ shortcode.toList ++ ['/'] := by
  have prefixed : "/reel/".toList = ['/', 'r', 'e', 'e', 'l', '/'] := by decide
  rw [prefixed]
  rfl

/-- What is left of a URL without leading blanks, tabs and line ends. -/
def visible (url : String) : List Char :=
  (url.toList.dropWhile isC0ControlOrSpace).filter fun character =>
    !isUnsafeUrlByte character

/-- The scheme and the host in any case, perhaps an empty port, an empty query
and an empty fragment. -/
def IsSpelling (shortcode url : String) : Prop :=
  ∃ scheme host port query fragment,
    visible url = scheme ++ "://".toList ++ (host ++ port) ++
      (reelPath shortcode ++ query ++ fragment) ∧
    scheme.map Char.toLower = "https".toList ∧
    host.map Char.toLower = "www.instagram.com".toList ∧
    (port = [] ∨ port = [':']) ∧ (query = [] ∨ query = ['?']) ∧
    (fragment = [] ∨ fragment = ['#'])

section

variable {text : List Char} {target : List Char} {character : Char}

theorem toLower_mem (lowered : text.map Char.toLower = target)
    (member : character ∈ text) : character.toLower ∈ target := by
  rw [← lowered]
  exact List.mem_map_of_mem member

theorem absent_of_lowered (lowered : text.map Char.toLower = target)
    (caseless : character.toLower = character) (absent : character ∉ target) :
    character ∉ text := by
  intro member
  have here := toLower_mem lowered member
  rw [caseless] at here
  exact absent here

theorem isAlpha_of_toLower (lower : character.toLower.isLower = true) :
    character.isAlpha = true := by
  change (character.isUpper || character.isLower) = true
  rw [Bool.or_eq_true]
  by_cases upper : character.isUpper = true
  · exact .inl upper
  · right
    have same : character.toLower = character := by
      unfold Char.toLower
      rw [dif_neg]
      intro both
      exact upper (decide_eq_true both)
    rwa [same] at lower

end

theorem splitScheme_https_iff {text rest : List Char} :
    splitScheme text = ("https".toList, rest) ↔
      ∃ scheme, text = scheme ++ ':' :: rest ∧
        scheme.map Char.toLower = "https".toList := by
  constructor
  · intro split
    unfold splitScheme at split
    rcases partitionAt_cases ':' text with
      ⟨absent, parts⟩ | ⟨before, after, absent, rfl, parts⟩
    · rw [parts] at split
      cases text with
      | nil => cases split
      | cons first others => cases split
    · rw [parts] at split
      cases before with
      | nil => cases split
      | cons first others =>
          dsimp only at split
          split at split
          · obtain ⟨lowered, rfl⟩ := Prod.mk.inj split
            exact ⟨first :: others, rfl, lowered⟩
          · cases split
  · rintro ⟨scheme, rfl, lowered⟩
    have absent : ':' ∉ scheme :=
      absent_of_lowered lowered (by decide) (by decide)
    have letters : ∀ character ∈ scheme, character.isAlpha = true := by
      intro character member
      have lower : "https".toList.all Char.isLower = true := by decide
      exact isAlpha_of_toLower
        (List.all_eq_true.mp lower _ (toLower_mem lowered member))
    unfold splitScheme
    rw [partitionAt_append absent]
    cases scheme with
    | nil => cases lowered
    | cons first others =>
        have alpha := letters first List.mem_cons_self
        have allowed : (first :: others).all isSchemeCharacter = true := by
          rw [List.all_eq_true]
          intro character member
          simp [isSchemeCharacter, Char.isAlphanum, letters character member]
        dsimp only
        rw [alpha, allowed, ← lowered]
        rfl

def endsNetloc (character : Char) : Bool :=
  character = '/' || character = '?' || character = '#'

theorem splitNetloc_slashes (text : List Char) :
    splitNetloc ('/' :: '/' :: text) =
      (text.takeWhile (!endsNetloc ·), text.dropWhile (!endsNetloc ·)) := by
  change text.span _ = _
  rw [List.span_eq_takeWhile_dropWhile]
  simp [endsNetloc, Bool.and_assoc]

theorem splitNetloc_absent {text : List Char}
    (absent : ¬ "//".toList <+: text) : (splitNetloc text).1 = [] := by
  unfold splitNetloc
  split
  · exact absurd (List.prefix_append "//".toList _) absent
  · rfl

theorem hostInfo_anonymous {parsed : SplitResult}
    (anonymous : '@' ∉ parsed.netloc) : parsed.hostInfo = parsed.netloc := by
  unfold SplitResult.hostInfo
  rw [List.takeWhile_eq_self_iff.mpr, List.reverse_reverse]
  intro character member
  exact decide_eq_true fun same =>
    anonymous (same ▸ List.mem_reverse.mp member)

def IsPlain (parsed : SplitResult) : Prop :=
  '[' ∉ parsed.netloc ∧ ']' ∉ parsed.netloc ∧
    parsed.hostname = "www.instagram.com".toList ∧
    parsed.hasUserInfo = false ∧ parsed.hasPort = false

theorem isPlain_iff (parsed : SplitResult) :
    IsPlain parsed ↔ ∃ host,
      host.map Char.toLower = "www.instagram.com".toList ∧
      (parsed.netloc = host ∨ parsed.netloc = host ++ [':']) := by
  constructor
  · rintro ⟨_, _, named, anonymous, portless⟩
    have whole := hostInfo_anonymous (of_decide_eq_false anonymous)
    unfold SplitResult.hasPort at portless
    rw [decide_eq_false_iff_not, not_not, whole] at portless
    obtain ⟨_, shape⟩ := (partitionAt_bare_iff ':' parsed.netloc _).mp
      ⟨rfl, portless⟩
    refine ⟨(partitionAt ':' parsed.netloc).1, ?_, shape⟩
    unfold SplitResult.hostname at named
    rw [whole] at named
    rcases partitionAt_cases '%' (partitionAt ':' parsed.netloc).1 with
      ⟨_, parts⟩ | ⟨before, after, _, _, parts⟩
    · rw [parts] at named
      exact named
    · rw [parts] at named
      have zone : '%' ∈ "www.instagram.com".toList := by
        rw [← named]
        exact List.mem_append_right _ List.mem_cons_self
      exact absurd zone (by decide)
  · rintro ⟨host, lowered, shape⟩
    have without : ∀ character, character.toLower = character →
        character ∉ "www.instagram.com".toList → character ≠ ':' →
        character ∉ parsed.netloc := by
      intro character caseless absent apart member
      have free := absent_of_lowered lowered caseless absent
      rcases shape with same | same
      · exact free (same ▸ member)
      · rw [same, List.mem_append, List.mem_singleton] at member
        exact member.elim free apart
    have anonymous := without '@' (by decide) (by decide) (by decide)
    have whole := hostInfo_anonymous anonymous
    have colon : ':' ∉ host :=
      absent_of_lowered lowered (by decide) (by decide)
    have percent : '%' ∉ host :=
      absent_of_lowered lowered (by decide) (by decide)
    obtain ⟨first, bare⟩ := (partitionAt_bare_iff ':' parsed.netloc host).mpr
      ⟨colon, shape⟩
    refine ⟨without '[' (by decide) (by decide) (by decide),
      without ']' (by decide) (by decide) (by decide), ?_,
      decide_eq_false anonymous, ?_⟩
    · unfold SplitResult.hostname
      rw [whole, first, partitionAt_absent percent]
      exact lowered
    · unfold SplitResult.hasPort
      rw [whole, bare]
      rfl

theorem absent_of_reelPath {shortcode : String}
    (valid : isShortcode shortcode = true) (character : Char)
    (foreign : isShortcodeCharacter character = false)
    (apart : character ≠ '/') : character ∉ reelPath shortcode := by
  have characters : ∀ other ∈ shortcode.toList,
      isShortcodeCharacter other = true := by
    unfold isShortcode at valid
    rw [Bool.and_eq_true, List.all_eq_true] at valid
    exact valid.2
  have label : ['/', 'r', 'e', 'e', 'l', '/'].all (fun other =>
      decide (other = '/') || isShortcodeCharacter other) = true := by decide
  intro member
  rcases List.mem_append.mp member with front | last
  · rcases List.mem_append.mp front with first | middle
    · have inside := List.all_eq_true.mp label character first
      rw [foreign, Bool.or_false, decide_eq_true_eq] at inside
      exact apart inside
    · rw [characters character middle] at foreign
      cases foreign
  · exact apart (List.mem_singleton.mp last)

/-- The path, without a query and a fragment that say something. -/
theorem path_iff {rest path : List Char} (queries : '?' ∉ path)
    (fragments : '#' ∉ path) :
    ((partitionAt '?' (partitionAt '#' rest).1).1 = path ∧
      (partitionAt '?' (partitionAt '#' rest).1).2.getD [] = [] ∧
      (partitionAt '#' rest).2.getD [] = []) ↔
      ∃ query fragment, rest = path ++ query ++ fragment ∧
        (query = [] ∨ query = ['?']) ∧
        (fragment = [] ∨ fragment = ['#']) := by
  constructor
  · rintro ⟨found, queryless, fragmentless⟩
    obtain ⟨_, outer⟩ := (partitionAt_bare_iff '#' rest _).mp
      ⟨rfl, fragmentless⟩
    obtain ⟨_, inner⟩ := (partitionAt_bare_iff '?' _ path).mp
      ⟨found, queryless⟩
    rcases inner with same | same <;> rw [same] at outer <;>
      rcases outer with shape | shape
    · exact ⟨[], [], by simp [shape], .inl rfl, .inl rfl⟩
    · exact ⟨[], ['#'], by simp [shape], .inl rfl, .inr rfl⟩
    · exact ⟨['?'], [], by simp [shape], .inr rfl, .inl rfl⟩
    · exact ⟨['?'], ['#'], by simp [shape], .inr rfl, .inr rfl⟩
  · rintro ⟨query, fragment, rfl, queried, fragmented⟩
    have free : '#' ∉ path ++ query := by
      rw [List.mem_append]
      rintro (member | member)
      · exact fragments member
      · rcases queried with rfl | rfl
        · exact absurd member List.not_mem_nil
        · exact absurd member (by decide)
    obtain ⟨first, fragmentless⟩ :=
      (partitionAt_bare_iff '#' (path ++ query ++ fragment)
        (path ++ query)).mpr ⟨free, by
          rcases fragmented with rfl | rfl
          · exact .inl (List.append_nil _)
          · exact .inr rfl⟩
    obtain ⟨found, queryless⟩ :=
      (partitionAt_bare_iff '?' (path ++ query) path).mpr ⟨queries, by
        rcases queried with rfl | rfl
        · exact .inl (List.append_nil _)
        · exact .inr rfl⟩
    rw [first]
    exact ⟨found, queryless, fragmentless⟩

def parts (url : String) : SplitResult :=
  let afterScheme := (splitScheme (visible url)).2
  let afterNetloc := (splitNetloc afterScheme).2
  let beforeFragment := (partitionAt '#' afterNetloc).1
  { scheme := (splitScheme (visible url)).1
    netloc := (splitNetloc afterScheme).1
    path := (partitionAt '?' beforeFragment).1
    query := (partitionAt '?' beforeFragment).2.getD []
    fragment := (partitionAt '#' afterNetloc).2.getD [] }

def afterNetloc (url : String) : List Char :=
  (splitNetloc (splitScheme (visible url)).2).2

section

variable (url : String)

theorem parts_scheme :
    (parts url).scheme = (splitScheme (visible url)).1 := by
  simp only [parts]

theorem parts_netloc :
    (parts url).netloc = (splitNetloc (splitScheme (visible url)).2).1 := by
  simp only [parts]

theorem parts_path : (parts url).path =
    (partitionAt '?' (partitionAt '#' (afterNetloc url)).1).1 := by
  simp only [parts, afterNetloc]

theorem parts_query : (parts url).query =
    (partitionAt '?' (partitionAt '#' (afterNetloc url)).1).2.getD [] := by
  simp only [parts, afterNetloc]

theorem parts_fragment : (parts url).fragment =
    (partitionAt '#' (afterNetloc url)).2.getD [] := by
  simp only [parts, afterNetloc]

end

theorem urlsplit_eq (url : String) :
    urlsplit url =
      if '[' ∈ (parts url).netloc ∨ ']' ∈ (parts url).netloc then
        .error .valueError
      else .ok (parts url) := by
  unfold urlsplit parts visible
  dsimp only

theorem validateCandidate_cases (candidate : ReelCandidate) :
    validateCandidate candidate = .ok candidate ∨
      validateCandidate candidate = .error .invalidReelCandidate := by
  unfold validateCandidate
  split
  · exact .inr rfl
  · split
    · exact .inr rfl
    · split
      · exact .inr rfl
      · exact .inl rfl

theorem validateCandidate_parts_iff (candidate : ReelCandidate) :
    validateCandidate candidate = .ok candidate ↔
      isShortcode candidate.shortcode = true ∧
        (parts candidate.canonicalUrl).scheme = "https".toList ∧
        IsPlain (parts candidate.canonicalUrl) ∧
        (parts candidate.canonicalUrl).path =
          reelPath candidate.shortcode ∧
        (parts candidate.canonicalUrl).query = [] ∧
        (parts candidate.canonicalUrl).fragment = [] := by
  unfold validateCandidate
  rw [urlsplit_eq]
  by_cases valid : isShortcode candidate.shortcode = true
  · rw [valid]
    by_cases brackets : '[' ∈ (parts candidate.canonicalUrl).netloc ∨
        ']' ∈ (parts candidate.canonicalUrl).netloc
    · rw [if_pos brackets]
      constructor
      · intro clash
        cases clash
      · rintro ⟨_, _, ⟨left, right, _⟩, _⟩
        exact absurd brackets (not_or.mpr ⟨left, right⟩)
    · rw [if_neg brackets]
      rw [not_or] at brackets
      unfold IsPlain
      rw [reelPath_eq]
      simp only [Bool.not_true, Bool.false_eq_true, if_false]
      split
      · rename_i refused
        constructor
        · intro clash
          cases clash
        · rintro ⟨_, scheme, ⟨_, _, host, user, port⟩, path, query, fragment⟩
          simp only [scheme, host, user, port, path, query, fragment, ne_eq,
            not_true_eq_false, decide_false, Bool.or_false,
            Bool.false_eq_true] at refused
      · rename_i accepted
        simp only [Bool.or_eq_true, not_or, decide_eq_true_eq, not_not,
          Bool.not_eq_true] at accepted
        obtain ⟨⟨⟨⟨⟨⟨scheme, host⟩, port⟩, user⟩, query⟩, fragment⟩, path⟩ :=
          accepted
        constructor
        · intro _
          exact ⟨trivial, scheme, ⟨brackets.1, brackets.2, host, user, port⟩,
            path, query, fragment⟩
        · intro _
          rfl
  · rw [Bool.not_eq_true] at valid
    rw [valid]
    constructor
    · intro clash
      cases clash
    · intro both
      cases both.1

theorem validateCandidate_spelling_iff (candidate : ReelCandidate) :
    validateCandidate candidate = .ok candidate ↔
      isShortcode candidate.shortcode = true ∧
        IsSpelling candidate.shortcode candidate.canonicalUrl := by
  rw [validateCandidate_parts_iff]
  obtain ⟨shortcode, url⟩ := candidate
  dsimp only
  constructor
  · rintro ⟨valid, secure, plain, pathed⟩
    rw [parts_path, parts_query, parts_fragment] at pathed
    rw [parts_scheme] at secure
    have queries := absent_of_reelPath valid '?' (by decide)
      (by decide)
    have fragments := absent_of_reelPath valid '#' (by decide)
      (by decide)
    obtain ⟨query, fragment, rest, queried, fragmented⟩ :=
      (path_iff queries fragments).mp pathed
    obtain ⟨host, named, netloc⟩ := (isPlain_iff _).mp plain
    rw [parts_netloc] at netloc
    have split : splitScheme (visible url) =
        ("https".toList, (splitScheme (visible url)).2) :=
      Prod.ext secure rfl
    obtain ⟨scheme, shape, lowered⟩ := splitScheme_https_iff.mp split
    refine ⟨valid, ?_⟩
    have slashes : "//".toList <+: (splitScheme (visible url)).2 := by
      by_contra absent
      have bare := splitNetloc_absent absent
      rw [bare] at netloc
      rcases netloc with same | same
      · rw [← same] at named
        cases named
      · exact absurd same.symm (List.append_ne_nil_of_right_ne_nil _
          (List.cons_ne_nil _ _))
    obtain ⟨located, start⟩ := slashes
    have parted := splitNetloc_slashes located
    change splitNetloc ("//".toList ++ located) = _ at parted
    rw [start] at parted
    have whole : located =
        (splitNetloc (splitScheme (visible url)).2).1 ++ afterNetloc url := by
      rw [afterNetloc, parted]
      exact List.takeWhile_append_dropWhile.symm
    generalize (splitNetloc (splitScheme (visible url)).2).1 = place
      at netloc whole
    have text : visible url = scheme ++ "://".toList ++ place ++
        (reelPath shortcode ++ query ++ fragment) := by
      rw [shape, ← start, whole, rest]
      simp
    rcases netloc with same | same
    · refine ⟨scheme, host, [], query, fragment, ?_, lowered, named, .inl rfl,
        queried, fragmented⟩
      rw [text, same, List.append_nil]
    · refine ⟨scheme, host, [':'], query, fragment, ?_, lowered, named,
        .inr rfl, queried, fragmented⟩
      rw [text, same]
  · rintro ⟨valid, scheme, host, port, query, fragment, shape, lowered, named,
      ported, queried, fragmented⟩
    have split : splitScheme (visible url) = ("https".toList,
        "//".toList ++ (host ++ port) ++
          (reelPath shortcode ++ query ++ fragment)) := by
      apply splitScheme_https_iff.mpr
      refine ⟨scheme, ?_, lowered⟩
      rw [shape]
      change scheme ++ (':' :: "//".toList) ++ (host ++ port) ++
        (reelPath shortcode ++ query ++ fragment) = _
      rw [List.append_assoc scheme, List.append_assoc scheme,
        List.cons_append, List.cons_append]
    have inside : ∀ character ∈ host ++ port,
        (!endsNetloc character) = true := by
      intro character member
      rw [Bool.not_eq_true']
      rcases List.mem_append.mp member with listed | listed
      · by_contra ends
        rw [Bool.not_eq_false] at ends
        unfold endsNetloc at ends
        simp only [Bool.or_eq_true, decide_eq_true_eq] at ends
        revert listed
        rcases ends with (rfl | rfl) | rfl
        · exact absent_of_lowered named (by decide) (by decide)
        · exact absent_of_lowered named (by decide) (by decide)
        · exact absent_of_lowered named (by decide) (by decide)
      · rcases ported with rfl | rfl
        · exact absurd listed List.not_mem_nil
        · rw [List.mem_singleton.mp listed]
          decide
    have parted : splitNetloc (splitScheme (visible url)).2 =
        (host ++ port, reelPath shortcode ++ query ++ fragment) := by
      rw [split]
      change splitNetloc ('/' :: '/' :: ((host ++ port) ++ _)) = _
      rw [splitNetloc_slashes, List.takeWhile_append_of_pos inside,
        List.dropWhile_append_of_pos inside]
      simp [reelPath, endsNetloc]
    have queries := absent_of_reelPath valid '?' (by decide)
      (by decide)
    have fragments := absent_of_reelPath valid '#' (by decide)
      (by decide)
    have pathed := (path_iff queries fragments).mpr
      ⟨query, fragment, rfl, queried, fragmented⟩
    refine ⟨valid, ?_, ?_, ?_⟩
    · rw [parts_scheme, split]
    · apply (isPlain_iff _).mpr
      refine ⟨host, named, ?_⟩
      rw [parts_netloc, parted]
      rcases ported with rfl | rfl
      · exact .inl (List.append_nil _)
      · exact .inr rfl
    · rw [parts_path, parts_query, parts_fragment, afterNetloc, parted]
      exact pathed

theorem canonicalUrl_toList (shortcode : String) :
    (canonicalUrl shortcode).toList =
      "https://www.instagram.com".toList ++ reelPath shortcode := by
  rw [reelPath_eq]
  unfold canonicalUrl
  rw [String.toList_append, String.toList_append]
  have whole : "https://www.instagram.com/reel/".toList =
      "https://www.instagram.com".toList ++ "/reel/".toList := by decide
  rw [whole]
  simp only [List.append_assoc]
  rfl

theorem isShortcodeCharacter_visible {character : Char}
    (valid : isShortcodeCharacter character = true) :
    isC0ControlOrSpace character = false := by
  unfold isC0ControlOrSpace
  rw [decide_eq_false_iff_not]
  intro blank
  unfold isShortcodeCharacter at valid
  simp only [Bool.or_eq_true, decide_eq_true_eq] at valid
  rcases valid with (letter | rfl) | rfl
  · have code : character.toNat = character.val.toNat := rfl
    change ((decide (character.val ≥ 'A'.val ∧ character.val ≤ 'Z'.val) ||
      (decide (character.val ≥ 'a'.val) &&
        decide (character.val ≤ 'z'.val))) ||
      (decide (character.val ≥ '0'.val) &&
        decide (character.val ≤ '9'.val))) = true at letter
    simp only [Bool.or_eq_true, Bool.and_eq_true, decide_eq_true_eq,
      UInt32.le_iff_toNat_le, ge_iff_le] at letter
    have capital : 'A'.val.toNat = 65 := rfl
    have small : 'a'.val.toNat = 97 := rfl
    have digit : '0'.val.toNat = 48 := rfl
    omega
  · exact absurd blank (by decide)
  · exact absurd blank (by decide)

theorem visible_of_clean {url : String}
    (clean : ∀ character ∈ url.toList,
      isC0ControlOrSpace character = false) : visible url = url.toList := by
  have kept : url.toList.dropWhile isC0ControlOrSpace = url.toList := by
    cases shape : url.toList with
    | nil => rfl
    | cons first rest =>
        apply List.dropWhile_cons_of_neg
        rw [clean first (shape ▸ List.mem_cons_self)]
        exact Bool.false_ne_true
  unfold visible
  rw [kept, List.filter_eq_self]
  intro character member
  have above := clean character member
  rw [Bool.not_eq_true']
  by_contra unsafeByte
  rw [Bool.not_eq_false] at unsafeByte
  simp only [isUnsafeUrlByte, Bool.or_eq_true, decide_eq_true_eq]
    at unsafeByte
  rcases unsafeByte with (rfl | rfl) | rfl
  · exact absurd above (by decide)
  · exact absurd above (by decide)
  · exact absurd above (by decide)

theorem isSpelling_canonicalUrl {shortcode : String}
    (valid : isShortcode shortcode = true) :
    IsSpelling shortcode (canonicalUrl shortcode) := by
  have clean : ∀ character ∈ (canonicalUrl shortcode).toList,
      isC0ControlOrSpace character = false := by
    have fixed : "https://www.instagram.com/".toList.all
        (!isC0ControlOrSpace ·) = true := by decide
    intro character member
    rw [canonicalUrl_toList] at member
    rcases List.mem_append.mp member with address | path
    · rw [← Bool.not_eq_true']
      apply List.all_eq_true.mp fixed
      have split : "https://www.instagram.com/".toList =
          "https://www.instagram.com".toList ++ ['/'] := by decide
      rw [split]
      exact List.mem_append_left _ address
    · by_cases slash : character = '/'
      · subst slash
        decide
      · by_contra blank
        apply absent_of_reelPath valid _ _ slash path
        by_contra inside
        rw [Bool.not_eq_false] at inside
        exact blank (isShortcodeCharacter_visible inside)
  refine ⟨"https".toList, "www.instagram.com".toList, [], [], [], ?_,
    by decide, by decide, .inl rfl, .inl rfl, .inl rfl⟩
  have split : "https://www.instagram.com".toList =
      "https".toList ++ "://".toList ++ "www.instagram.com".toList := by
    decide
  rw [visible_of_clean clean, canonicalUrl_toList, split, List.append_nil,
    List.append_nil, List.append_nil]

def AcceptsLiterally (candidate : ReelCandidate) : Prop :=
  (validateCandidate candidate = .ok candidate ↔
    isShortcode candidate.shortcode = true ∧
      candidate.canonicalUrl = canonicalUrl candidate.shortcode) ∧
  (validateCandidate candidate ≠ .ok candidate →
    validateCandidate candidate = .error .invalidReelCandidate)

/-- A candidate with a shortcode passes under every spelling of its URL. -/
theorem candidate_literal_iff (candidate : ReelCandidate) :
    AcceptsLiterally candidate ↔
      (isShortcode candidate.shortcode = true →
        IsSpelling candidate.shortcode candidate.canonicalUrl →
          candidate.canonicalUrl = canonicalUrl candidate.shortcode) := by
  unfold AcceptsLiterally
  rw [validateCandidate_spelling_iff]
  constructor
  · intro literal valid spelled
    exact (literal.1.mp ⟨valid, spelled⟩).2
  · intro only
    constructor
    · constructor
      · intro accepted
        exact ⟨accepted.1, only accepted.1 accepted.2⟩
      · intro canonical
        exact ⟨canonical.1, canonical.2 ▸ isSpelling_canonicalUrl canonical.1⟩
    · intro refused
      exact (validateCandidate_cases candidate).resolve_left refused

/-- The host in capitals, with an empty port and an empty query. -/
theorem capital_host_accepted : ¬ ∀ candidate, AcceptsLiterally candidate := by
  intro always
  have accepted : validateCandidate
      ⟨"A-b_1", "https://WWW.instagram.com:/reel/A-b_1/?"⟩ =
        .ok ⟨"A-b_1", "https://WWW.instagram.com:/reel/A-b_1/?"⟩ := by
    decide
  have same := ((always _).1.mp accepted).2
  exact absurd same (by decide)

end OfflineReels.Collector.CanonicalSpellings
