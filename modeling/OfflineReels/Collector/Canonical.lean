import OfflineReels.Collector.Contracts

namespace OfflineReels.Collector

open OfflineReels.Instagram

/-! Canonical Reel candidates. -/

def isShortcodeCharacter (character : Char) : Bool :=
  character.isAlphanum || character = '_' || character = '-'

/-- `[A-Za-z0-9_-]{1,64}` -/
def isShortcode (shortcode : String) : Bool :=
  1 ≤ shortcode.toList.length && shortcode.toList.length ≤ 64 &&
    shortcode.toList.all isShortcodeCharacter

structure SplitResult where
  scheme : List Char
  netloc : List Char
  path : List Char
  query : List Char
  fragment : List Char
  deriving DecidableEq, Repr

def isC0ControlOrSpace (character : Char) : Bool := character.toNat ≤ 0x20

def isUnsafeUrlByte (character : Char) : Bool :=
  character = '\t' || character = '\r' || character = '\n'

def isSchemeCharacter (character : Char) : Bool :=
  character.isAlphanum || character = '+' || character = '-' ||
    character = '.'

def partitionAt (delimiter : Char) (text : List Char) :
    List Char × Option (List Char) :=
  match text.span (· ≠ delimiter) with
  | (before, []) => (before, none)
  | (before, _ :: after) => (before, some after)

def splitScheme (text : List Char) : List Char × List Char :=
  match partitionAt ':' text with
  | (first :: rest, some after) =>
      if first.isAlpha && (first :: rest).all isSchemeCharacter then
        ((first :: rest).map Char.toLower, after)
      else ([], text)
  | _ => ([], text)

def splitNetloc : List Char → List Char × List Char
  | '/' :: '/' :: text =>
      text.span fun character =>
        character ≠ '/' && character ≠ '?' && character ≠ '#'
  | text => ([], text)

/-- A bracketed host is an address literal or refused; either way it is not
the expected host, so both are refused here. -/
def urlsplit (url : String) : Except CollectorFault SplitResult :=
  let stripped := (url.toList.dropWhile isC0ControlOrSpace).filter fun
    character => !isUnsafeUrlByte character
  let (scheme, afterScheme) := splitScheme stripped
  let (netloc, afterNetloc) := splitNetloc afterScheme
  if '[' ∈ netloc ∨ ']' ∈ netloc then .error .valueError
  else
    let (beforeFragment, fragment) := partitionAt '#' afterNetloc
    let (path, query) := partitionAt '?' beforeFragment
    .ok {
      scheme := scheme
      netloc := netloc
      path := path
      query := query.getD []
      fragment := fragment.getD [] }

namespace SplitResult

def hasUserInfo (parsed : SplitResult) : Bool := '@' ∈ parsed.netloc

def hostInfo (parsed : SplitResult) : List Char :=
  (parsed.netloc.reverse.takeWhile (· ≠ '@')).reverse

def hostname (parsed : SplitResult) : List Char :=
  match partitionAt '%' (partitionAt ':' parsed.hostInfo).1 with
  | (host, none) => host.map Char.toLower
  | (host, some zone) => host.map Char.toLower ++ '%' :: zone

/-- An empty port is no port. -/
def hasPort (parsed : SplitResult) : Bool :=
  ((partitionAt ':' parsed.hostInfo).2.getD []) ≠ []

end SplitResult

/-- A port that is not a number raises, and is refused like any other port. -/
def validateCandidate (candidate : ReelCandidate) :
    Except CollectorFault ReelCandidate :=
  if !isShortcode candidate.shortcode then .error .invalidReelCandidate
  else
    match urlsplit candidate.canonicalUrl with
    | .error _ => .error .invalidReelCandidate
    | .ok parsed =>
        if parsed.scheme ≠ "https".toList ||
            parsed.hostname ≠ "www.instagram.com".toList ||
            parsed.hasPort || parsed.hasUserInfo ||
            parsed.query ≠ [] || parsed.fragment ≠ [] ||
            parsed.path ≠ "/reel/".toList ++ candidate.shortcode.toList ++ ['/']
        then .error .invalidReelCandidate
        else .ok candidate

def sourceObjectKey (shortcode : String) :
    Except CollectorFault SourceObjectKey :=
  if isShortcode shortcode then .ok ⟨shortcode⟩
  else .error .invalidReelCandidate

theorem validateCandidate_eq_ok {candidate accepted : ReelCandidate}
    (valid : validateCandidate candidate = .ok accepted) :
    accepted = candidate ∧ isShortcode candidate.shortcode = true := by
  unfold validateCandidate at valid
  split at valid
  · cases valid
  · rename_i shortcode
    split at valid
    · cases valid
    · split at valid
      · cases valid
      · cases valid
        exact ⟨rfl, by simpa using shortcode⟩

theorem sourceObjectKey_eq_ok {shortcode : String} {objectKey : SourceObjectKey}
    (valid : sourceObjectKey shortcode = .ok objectKey) :
    objectKey = ⟨shortcode⟩ := by
  unfold sourceObjectKey at valid
  split at valid
  · cases valid
    rfl
  · cases valid

example : validateCandidate ⟨"A-b_1", "https://www.instagram.com/reel/A-b_1/"⟩ =
    .ok ⟨"A-b_1", "https://www.instagram.com/reel/A-b_1/"⟩ := by decide

end OfflineReels.Collector
