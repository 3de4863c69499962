import OfflineReels.Offline.MediaKey
import OfflineReels.Pwa.OfflineMediaRoute

namespace OfflineReels.Pwa

open OfflineReels.Foundation
open OfflineReels.Instagram
open OfflineReels.Media
open OfflineReels.Offline (MAX_SAFE_INTEGER MEDIA_PREFIX decodeURIComponent
  getOfflineMediaPath normalizeVideoId)

/-! How the service worker answers a request for a cached video. -/

inductive Method
  | get
  | head
  | other
  deriving DecidableEq, Repr

abbrev Headers := List (String × String)

namespace Headers

def get (headers : Headers) (name : String) : Option String :=
  headers.lookup name

/-- The value of a header that is there already is replaced. -/
def set (headers : Headers) (name value : String) : Headers :=
  headers.filter (·.1 ≠ name) ++ [(name, value)]

theorem get_filter_other {headers : Headers} {name other : String}
    (apart : other ≠ name) :
    get (headers.filter (·.1 ≠ name)) other = get headers other := by
  induction headers with
  | nil => rfl
  | cons header headers ih =>
      obtain ⟨key, value⟩ := header
      unfold get at ih ⊢
      by_cases dropped : key = name
      · subst dropped
        rw [List.filter_cons_of_neg (by simp), ih,
          List.lookup_cons, beq_false_of_ne apart]
      · rw [List.filter_cons_of_pos (by simpa using dropped),
          List.lookup_cons, List.lookup_cons, ih]

@[simp] theorem get_set_same (headers : Headers) (name value : String) :
    get (set headers name value) name = some value := by
  have absent : (headers.filter (·.1 ≠ name)).lookup name = none := by
    rw [List.lookup_eq_none_iff]
    intro header member
    have other := (List.mem_filter.mp member).2
    exact bne_iff_ne.mpr (Ne.symm (of_decide_eq_true other))
  rw [get, set, List.lookup_append, absent, Option.none_or]
  simp

theorem get_set_other {headers : Headers} {name other value : String}
    (apart : other ≠ name) :
    get (set headers name value) other = get headers other := by
  have kept : get (headers.filter (·.1 ≠ name)) other = get headers other :=
    get_filter_other apart
  rw [← kept, get, get, set, List.lookup_append, List.lookup_cons,
    beq_false_of_ne apart]
  simp

end Headers

structure Url where
  pathname : List Char
  search : List Char
  deriving DecidableEq, Repr

structure Request where
  method : Method
  url : Url
  headers : Headers
  deriving DecidableEq, Repr

structure Response where
  status : Nat
  headers : Headers
  body : Option Bytes
  deriving DecidableEq, Repr

inductive CacheFailure
  | thrown
  deriving DecidableEq, Repr

/-- A buffer has a length that a number holds exactly. -/
abbrev ArrayBuffer := { bytes : Bytes // bytes.length ≤ MAX_SAFE_INTEGER }

structure CachedResponse where
  headers : Headers
  arrayBuffer : Except CacheFailure ArrayBuffer

structure Cache where
  lookup : List Char → Except CacheFailure (Option CachedResponse)

structure CacheStorage where
  opened : String → Except CacheFailure Cache

def OFFLINE_MEDIA_CACHE_NAME : String := "offline-reels-media-v1"

def createControlledResponse (status : Nat) : Response where
  status := status
  headers := [("cache-control", "no-store")]
  body := none

def COPIED_HEADERS : List String :=
  ["content-type", "cache-control", "etag", "last-modified"]

def copyHeader (source target : Headers) (name : String) : Headers :=
  match source.get name with
  | none => target
  | some value => target.set name value

def createMediaHeaders (source : Headers) (totalSize : Nat)
    (range : Option ByteRange) : Headers :=
  let headers := (COPIED_HEADERS.foldl (copyHeader source) []).set
    "accept-ranges" "bytes"
  match range with
  | some range =>
      (headers.set "content-length"
          (toString (range.stop - range.start + 1))).set "content-range"
        ("bytes " ++ toString range.start ++ "-" ++ toString range.stop ++
          "/" ++ toString totalSize)
  | none => headers.set "content-length" (toString totalSize)

def createRangeNotSatisfiableResponse (totalSize : Nat) : Response where
  status := 416
  headers := [("accept-ranges", "bytes"),
    ("content-range", "bytes */" ++ toString totalSize),
    ("cache-control", "no-store")]
  body := none

def getOfflineMediaRouteVideoId (url : Url) : Option (List Char) :=
  if url.search ≠ [] ∨ ¬ MEDIA_PREFIX <+: url.pathname then none
  else
    let encodedVideoId := url.pathname.drop MEDIA_PREFIX.length
    if encodedVideoId = [] ∨ '/' ∈ encodedVideoId then none
    else
      ((decodeURIComponent encodedVideoId).bind normalizeVideoId).bind
        fun videoId =>
          if getOfflineMediaPath videoId = some url.pathname then
            some videoId
          else none

/-- An index below zero counts from the end. -/
def relativeIndex (length : Nat) (index : Int) : Nat :=
  if index < 0 then (length + index).toNat else min index.toNat length

def slice (bytes : Bytes) (start stop : Int) : Bytes :=
  (bytes.take (relativeIndex bytes.length stop)).drop
    (relativeIndex bytes.length start)

def mediaResponse (method : Method) (source : Headers) (bytes : Bytes)
    (range : Option ByteRange) : Response :=
  let headers := createMediaHeaders source bytes.length range
  let isHead := method = .head
  match range with
  | none =>
      { status := 200, headers, body := if isHead then none else some bytes }
  | some range =>
      { status := 206, headers,
        body := if isHead then none
          else some (slice bytes range.start (range.stop + 1)) }

def answerCached (request : Request) (cached : CachedResponse) :
    Except CacheFailure Response :=
  cached.arrayBuffer.map fun buffer =>
    let bytes := buffer.val
    match request.headers.get "range" with
    | none => mediaResponse request.method cached.headers bytes none
    | some rangeHeader =>
        match parseSingleByteRange rangeHeader bytes.length with
        | none => createRangeNotSatisfiableResponse bytes.length
        | some range =>
            mediaResponse request.method cached.headers bytes (some range)

def answerFrom (storage : CacheStorage) (request : Request)
    (videoId : List Char) : Except CacheFailure Response := do
  let mediaCache ← storage.opened OFFLINE_MEDIA_CACHE_NAME
  match getOfflineMediaPath videoId with
  | none => .error .thrown
  | some path =>
      match ← mediaCache.lookup path with
      | none => return createControlledResponse 404
      | some cached => answerCached request cached

def handleOfflineMediaRequest (request : Request)
    (cacheStorage : Option CacheStorage) : Response :=
  match getOfflineMediaRouteVideoId request.url with
  | none => createControlledResponse 404
  | some videoId =>
      match cacheStorage with
      | none => createControlledResponse 503
      | some storage =>
          match answerFrom storage request videoId with
          | .ok response => response
          | .error _ => createControlledResponse 503

def part (file : Bytes) (range : ByteRange) : Bytes :=
  (file.drop range.start.toNat).take (range.stop + 1 - range.start).toNat

structure IsWhole (file : Bytes) (response : Response) : Prop where
  status : response.status = 200
  body : response.body = some file
  length : response.headers.get "content-length" =
    some (toString file.length)

structure IsPart (file : Bytes) (range : ByteRange) (response : Response) :
    Prop where
  start : 0 ≤ range.start
  order : range.start ≤ range.stop
  stop : range.stop < file.length
  status : response.status = 206
  body : response.body = some (part file range)
  length : response.headers.get "content-length" =
    some (toString (part file range).length)
  range : response.headers.get "content-range" =
    some ("bytes " ++ toString range.start ++ "-" ++ toString range.stop ++
      "/" ++ toString file.length)

structure IsRefusal (file : Bytes) (response : Response) : Prop where
  status : response.status = 416
  range : response.headers.get "content-range" =
    some ("bytes */" ++ toString file.length)

def IsAnswer (file : Bytes) (rangeHeader : Option String)
    (response : Response) : Prop :=
  match rangeHeader with
  | none => IsWhole file response
  | some header =>
      (∃ range, Denotes file.length header range ∧
        IsPart file range response) ∨
      ((∀ range, ¬ Denotes file.length header range) ∧
        IsRefusal file response)

def consecutive (start : Nat) : List Nat → List ByteRange
  | [] => []
  | length :: lengths =>
      ⟨start, (start + length - 1 : Nat)⟩ ::
        consecutive (start + length) lengths

def rangeHeader (range : ByteRange) : String :=
  "bytes=" ++ toString range.start ++ "-" ++ toString range.stop

section

variable (storage : CacheStorage) (path : List Char) (headers : Headers)

def answer (method : Method) : Response :=
  handleOfflineMediaRequest ⟨method, ⟨path, []⟩, headers⟩ (some storage)

def answerRange (range : ByteRange) : Response :=
  answer storage path (headers.set "range" (rangeHeader range)) .get

/-- What the requests with these headers get for the path under which the file
is cached, or nothing is. -/
def IsServed : Option Bytes → Prop
  | none => ∀ method ∈ [Method.get, .head],
      (answer storage path headers method).status = 404
  | some file =>
      IsAnswer file (headers.get "range") (answer storage path headers .get) ∧
      answer storage path headers .head =
        { answer storage path headers .get with body := none } ∧
      ∀ lengths : List Nat, (∀ length ∈ lengths, 0 < length) →
        lengths.sum = file.length →
        (∀ range ∈ consecutive 0 lengths,
          IsPart file range (answerRange storage path headers range)) ∧
        (consecutive 0 lengths).flatMap (fun range =>
          (answerRange storage path headers range).body.getD []) = file

end

def Holds (cache : Cache) (path : List Char) (file : Option Bytes) : Prop :=
  match file with
  | none => cache.lookup path = .ok none
  | some file => ∃ cached buffer, cache.lookup path = .ok (some cached) ∧
      cached.arrayBuffer = .ok buffer ∧ buffer.val = file

/-- A header for a range of the file with a number that the service worker does
not hold exactly. -/
def ExceedsNumbers (header : String) (size : Nat) : Prop :=
  ∃ text spec, header.toList = BYTES_PREFIX ++ text ∧ RangeText text spec ∧
    (spec.within size).isSome = true ∧ isUnsafe text = true

theorem getOfflineMediaPath_eq_some {videoId path : List Char} :
    getOfflineMediaPath videoId = some path ↔
      ∃ normal, normalizeVideoId videoId = some normal ∧
        MEDIA_PREFIX ++ normal = path := by
  rw [getOfflineMediaPath, Option.map_eq_some_iff]

theorem route_canonical {videoId path : List Char}
    (canonical : getOfflineMediaPath videoId = some path) :
    ∃ normal, getOfflineMediaRouteVideoId ⟨path, []⟩ = some normal ∧
      getOfflineMediaPath normal = some path := by
  obtain ⟨normal, normalized, rfl⟩ :=
    getOfflineMediaPath_eq_some.mp canonical
  obtain ⟨stable, sign, slash, nonempty⟩ :=
    Offline.normalizeVideoId_normal normalized
  have again : getOfflineMediaPath normal = some (MEDIA_PREFIX ++ normal) :=
    getOfflineMediaPath_eq_some.mpr ⟨normal, stable, rfl⟩
  have begins : ¬ (([] : List Char) ≠ [] ∨
      ¬ MEDIA_PREFIX <+: MEDIA_PREFIX ++ normal) := by
    simp
  refine ⟨normal, ?_, again⟩
  unfold getOfflineMediaRouteVideoId
  rw [if_neg begins, List.drop_left]
  dsimp only
  rw [if_neg (not_or.mpr ⟨nonempty, slash⟩),
    Offline.decodeURIComponent_plain sign, Option.bind_some, stable,
    Option.bind_some, if_pos again]

section

variable {storage : CacheStorage} {cache : Cache}
  {videoId path : List Char} {headers : Headers} {method : Method}

theorem answerFrom_eq {normal : List Char} {request : Request}
    (opened : storage.opened OFFLINE_MEDIA_CACHE_NAME = .ok cache)
    (canonical : getOfflineMediaPath normal = some path) :
    answerFrom storage request normal =
      (cache.lookup path).bind fun
        | none => .ok (createControlledResponse 404)
        | some cached => answerCached request cached := by
  unfold answerFrom
  rw [opened, canonical]
  rfl

theorem answer_missing
    (canonical : getOfflineMediaPath videoId = some path)
    (opened : storage.opened OFFLINE_MEDIA_CACHE_NAME = .ok cache)
    (missing : cache.lookup path = .ok none) :
    answer storage path headers method = createControlledResponse 404 := by
  obtain ⟨normal, route, again⟩ := route_canonical canonical
  unfold answer handleOfflineMediaRequest
  simp only [route, answerFrom_eq opened again, missing]
  rfl

def answerBytes (method : Method) (source : Headers) (bytes : Bytes) :
    Option String → Response
  | none => mediaResponse method source bytes none
  | some header =>
      match parseSingleByteRange header bytes.length with
      | none => createRangeNotSatisfiableResponse bytes.length
      | some range => mediaResponse method source bytes (some range)

theorem answer_cached {cached : CachedResponse} {buffer : ArrayBuffer}
    (canonical : getOfflineMediaPath videoId = some path)
    (opened : storage.opened OFFLINE_MEDIA_CACHE_NAME = .ok cache)
    (found : cache.lookup path = .ok (some cached))
    (read : cached.arrayBuffer = .ok buffer) :
    answer storage path headers method =
      answerBytes method cached.headers buffer.val (headers.get "range") := by
  obtain ⟨normal, route, again⟩ := route_canonical canonical
  unfold answer handleOfflineMediaRequest
  simp only [route, answerFrom_eq opened again, found]
  simp only [Except.bind, answerCached, read, Except.map, answerBytes]

end

theorem denotes_bounds {size : Nat} {header : String} {range : ByteRange}
    (positive : 0 < size) (denoted : Denotes size header range) :
    0 ≤ range.start ∧ range.start ≤ range.stop ∧ range.stop < size := by
  obtain ⟨_, spec, _, _, within⟩ := denoted
  cases spec <;> simp only [RangeSpec.within] at within <;>
    split at within <;> cases within <;> dsimp only <;> omega

theorem parse_denotes {header : String} {size : Nat} (positive : 0 < size)
    (bounded : size ≤ MAX_SAFE_INTEGER)
    (small : ¬ ExceedsNumbers header size) (range : ByteRange) :
    parseSingleByteRange header size = some range ↔
      Denotes size header range := by
  constructor
  · intro parsed
    obtain ⟨text, spec, prefixed, grammar⟩ := parseSingleByteRange_grammar parsed
    rw [parseSingleByteRange_text positive bounded prefixed grammar] at parsed
    split at parsed
    · cases parsed
    · exact (denotes_iff prefixed grammar).mpr parsed
  · intro ⟨text, spec, prefixed, grammar, within⟩
    rw [parseSingleByteRange_text positive bounded prefixed grammar, within]
    by_cases large : isUnsafe text = true
    · have ranged : (spec.within size).isSome = true := by
        rw [within]
        rfl
      exact absurd ⟨text, spec, prefixed, grammar, ranged, large⟩ small
    · rw [if_neg large]

theorem parse_exceeds {header : String} {size : Nat} (positive : 0 < size)
    (bounded : size ≤ MAX_SAFE_INTEGER) (large : ExceedsNumbers header size) :
    parseSingleByteRange header size = none ∧
      ∃ range, Denotes size header range := by
  obtain ⟨text, spec, prefixed, grammar, ranged, large⟩ := large
  obtain ⟨range, within⟩ := Option.isSome_iff_exists.mp ranged
  constructor
  · rw [parseSingleByteRange_text positive bounded prefixed grammar,
      if_pos large]
  · exact ⟨range, text, spec, prefixed, grammar, within⟩

section

variable {file : Bytes} {range : ByteRange} {source : Headers}

theorem length_part (start : 0 ≤ range.start)
    (order : range.start ≤ range.stop) (stop : range.stop < file.length) :
    ((part file range).length : Int) = range.stop - range.start + 1 := by
  rw [part, List.length_take, List.length_drop]
  omega

theorem slice_eq (start : 0 ≤ range.start)
    (order : range.start ≤ range.stop) (stop : range.stop < file.length) :
    slice file range.start (range.stop + 1) = part file range := by
  have first : relativeIndex file.length range.start = range.start.toNat := by
    rw [relativeIndex, if_neg (by omega)]
    omega
  have last : relativeIndex file.length (range.stop + 1) =
      range.start.toNat + (range.stop + 1 - range.start).toNat := by
    rw [relativeIndex, if_neg (by omega)]
    omega
  rw [slice, part, first, last, List.drop_take, Nat.add_sub_cancel_left]

theorem mediaResponse_part (start : 0 ≤ range.start)
    (order : range.start ≤ range.stop) (stop : range.stop < file.length) :
    IsPart file range (mediaResponse .get source file (some range)) where
  start := start
  order := order
  stop := stop
  status := rfl
  body := by
    simp only [mediaResponse, slice_eq start order stop]
    rfl
  length := by
    have same := congrArg (toString : Int → String)
      (length_part start order stop)
    simp only [mediaResponse, createMediaHeaders]
    rw [Headers.get_set_other (by decide), Headers.get_set_same, ← same]
    rfl
  range := by
    simp only [mediaResponse, createMediaHeaders, Headers.get_set_same]

theorem mediaResponse_whole :
    IsWhole file (mediaResponse .get source file none) where
  status := rfl
  body := rfl
  length := by simp only [mediaResponse, createMediaHeaders,
    Headers.get_set_same]

theorem notSatisfiable_refusal :
    IsRefusal file (createRangeNotSatisfiableResponse file.length) where
  status := rfl
  range := by
    simp only [createRangeNotSatisfiableResponse, Headers.get]
    rfl

theorem answerBytes_head (rangeHeader : Option String) :
    answerBytes .head source file rangeHeader =
      { answerBytes .get source file rangeHeader with body := none } := by
  cases rangeHeader with
  | none => rfl
  | some header =>
      unfold answerBytes
      dsimp only
      split <;> rfl

theorem answerBytes_denoted {header : String} (nonempty : 0 < file.length)
    (bounded : file.length ≤ MAX_SAFE_INTEGER)
    (small : ¬ ExceedsNumbers header file.length)
    (denoted : Denotes file.length header range) :
    IsPart file range (answerBytes .get source file (some header)) := by
  obtain ⟨start, order, stop⟩ := denotes_bounds nonempty denoted
  have parsed := (parse_denotes nonempty bounded small range).mpr denoted
  simp only [answerBytes, parsed]
  exact mediaResponse_part start order stop

theorem answerBytes_lawful_iff (nonempty : 0 < file.length)
    (bounded : file.length ≤ MAX_SAFE_INTEGER)
    (rangeHeader : Option String) :
    IsAnswer file rangeHeader (answerBytes .get source file rangeHeader) ↔
      ∀ header, rangeHeader = some header →
        ¬ ExceedsNumbers header file.length := by
  cases rangeHeader with
  | none => exact ⟨fun _ _ => nofun, fun _ => mediaResponse_whole⟩
  | some header =>
      constructor
      · intro lawful other same large
        cases same
        obtain ⟨refused, range, denoted⟩ :=
          parse_exceeds nonempty bounded large
        simp only [answerBytes, refused] at lawful
        rcases lawful with ⟨_, _, served⟩ | ⟨outside, _⟩
        · have clash : 416 = 206 := served.status
          cases clash
        · exact outside range denoted
      · intro small
        replace small := small header rfl
        cases parsed : parseSingleByteRange header file.length with
        | some range =>
            have denoted :=
              (parse_denotes nonempty bounded small range).mp parsed
            exact .inl ⟨range, denoted,
              answerBytes_denoted nonempty bounded small denoted⟩
        | none =>
            refine .inr ⟨fun range denoted => ?_, ?_⟩
            · rw [(parse_denotes nonempty bounded small range).mpr denoted]
                at parsed
              cases parsed
            · simp only [answerBytes, parsed]
              exact notSatisfiable_refusal

end

theorem toList_rangeHeader (first last : Nat) :
    (rangeHeader ⟨first, last⟩).toList =
      BYTES_PREFIX ++ (Nat.toDigits 10 first ++ '-' :: Nat.toDigits 10 last) := by
  have written (number : Nat) :
      (toString (number : Int)).toList = Nat.toDigits 10 number :=
    Nat.toList_repr
  simp only [rangeHeader, String.toList_append, written, List.append_assoc]
  rfl

theorem rangeHeader_denotes {first last size : Nat} (order : first ≤ last)
    (inside : last < size) :
    Denotes size (rangeHeader ⟨first, last⟩) ⟨first, last⟩ := by
  refine ⟨_, _, toList_rangeHeader first last,
    .closed (isDecimal_toDigits first) (isDecimal_toDigits last), ?_⟩
  rw [decimalValue_toDigits, decimalValue_toDigits, RangeSpec.within,
    if_neg (by omega)]
  congr 2
  omega

theorem rangeHeader_small {first last size : Nat} (order : first ≤ last)
    (inside : last < size) (bounded : size ≤ MAX_SAFE_INTEGER) :
    ¬ ExceedsNumbers (rangeHeader ⟨first, last⟩) size := by
  intro ⟨text, spec, prefixed, _, _, large⟩
  rw [toList_rangeHeader, List.append_cancel_left_eq] at prefixed
  rw [← prefixed, isUnsafe_append (isDecimal_toDigits first),
    decimalValue_toDigits, decimalValue_toDigits] at large
  simp only [Bool.or_eq_true, decide_eq_true_eq] at large
  omega

theorem mem_consecutive {start : Nat} {lengths : List Nat} {range : ByteRange}
    (positive : ∀ length ∈ lengths, 0 < length)
    (member : range ∈ consecutive start lengths) :
    ∃ first last : Nat, range = ⟨first, last⟩ ∧ start ≤ first ∧
      first ≤ last ∧ last < start + lengths.sum := by
  induction lengths generalizing start with
  | nil => cases member
  | cons length lengths ih =>
      have here := positive length List.mem_cons_self
      rw [List.sum_cons]
      rcases List.mem_cons.mp member with rfl | later
      · exact ⟨start, start + length - 1, rfl, by omega, by omega, by omega⟩
      · obtain ⟨first, last, rfl, from_, order, inside⟩ :=
          ih (fun other there => positive other (List.mem_cons_of_mem _ there))
            later
        exact ⟨first, last, rfl, by omega, order, by omega⟩

theorem flatMap_part {file : Bytes} {start : Nat} {lengths : List Nat}
    (positive : ∀ length ∈ lengths, 0 < length)
    (total : start + lengths.sum = file.length) :
    (consecutive start lengths).flatMap (part file) = file.drop start := by
  induction lengths generalizing start with
  | nil =>
      rw [List.sum_nil, Nat.add_zero] at total
      rw [total, List.drop_length]
      rfl
  | cons length lengths ih =>
      have here := positive length List.mem_cons_self
      rw [List.sum_cons] at total
      have later : start + length + lengths.sum = file.length := by omega
      have rest := ih
        (fun other there => positive other (List.mem_cons_of_mem _ there))
        later
      have taken : part file ⟨start, (start + length - 1 : Nat)⟩ =
          (file.drop start).take length := by
        have count : ((start + length - 1 : Nat) + 1 - (start : Int)).toNat =
            length := by
          omega
        rw [part, count]
        rfl
      rw [consecutive, List.flatMap_cons, rest, taken, ← List.drop_drop,
        List.take_append_drop]

section

variable {storage : CacheStorage} {cache : Cache}
  {videoId path : List Char} {headers : Headers}
  {cached : CachedResponse} {buffer : ArrayBuffer}

theorem answerRange_part {range : ByteRange} {lengths : List Nat}
    (canonical : getOfflineMediaPath videoId = some path)
    (opened : storage.opened OFFLINE_MEDIA_CACHE_NAME = .ok cache)
    (found : cache.lookup path = .ok (some cached))
    (read : cached.arrayBuffer = .ok buffer)
    (positive : ∀ length ∈ lengths, 0 < length)
    (total : lengths.sum = buffer.val.length)
    (member : range ∈ consecutive 0 lengths) :
    IsPart buffer.val range (answerRange storage path headers range) := by
  obtain ⟨first, last, rfl, _, order, inside⟩ :=
    mem_consecutive positive member
  rw [Nat.zero_add, total] at inside
  rw [answerRange, answer_cached canonical opened found read,
    Headers.get_set_same]
  exact answerBytes_denoted (by omega) buffer.property
    (rangeHeader_small order inside buffer.property)
    (rangeHeader_denotes order inside)

/-- What the service worker answers is right, for every partition of the file
too, unless the header has a number that it does not hold exactly. -/
theorem offline_media_served_iff (storage : CacheStorage) (cache : Cache)
    (videoId path : List Char) (headers : Headers) (file : Option Bytes)
    (canonical : getOfflineMediaPath videoId = some path)
    (opened : storage.opened OFFLINE_MEDIA_CACHE_NAME = .ok cache)
    (holds : Holds cache path file) (nonempty : file ≠ some []) :
    IsServed storage path headers file ↔
      ∀ bytes header, file = some bytes → headers.get "range" = some header →
        ¬ ExceedsNumbers header bytes.length := by
  cases file with
  | none =>
      constructor
      · intro _ bytes header absent
        cases absent
      · intro _ method _
        rw [answer_missing canonical opened holds]
        rfl
  | some file =>
      obtain ⟨cached, buffer, found, read, rfl⟩ := holds
      have positive : 0 < buffer.val.length := by
        rw [List.length_pos_iff]
        exact fun empty => nonempty (congrArg some empty)
      have one : IsAnswer buffer.val (headers.get "range")
            (answer storage path headers .get) ↔
          ∀ header, headers.get "range" = some header →
            ¬ ExceedsNumbers header buffer.val.length := by
        rw [answer_cached canonical opened found read]
        exact answerBytes_lawful_iff positive buffer.property _
      constructor
      · intro served bytes header same asked
        cases same
        exact one.mp served.1 header asked
      · intro small
        refine ⟨one.mpr fun header => small _ header rfl, ?_, ?_⟩
        · rw [answer_cached canonical opened found read,
            answer_cached canonical opened found read, answerBytes_head]
        · intro lengths each total
          have parts : ∀ range ∈ consecutive 0 lengths,
              IsPart buffer.val range (answerRange storage path headers range) :=
            fun range member => answerRange_part canonical opened found read
              each total member
          refine ⟨parts, ?_⟩
          have bodies : (consecutive 0 lengths).flatMap (part buffer.val) =
              buffer.val.drop 0 :=
            flatMap_part each ((Nat.zero_add _).trans total)
          rw [List.drop_zero] at bodies
          calc (consecutive 0 lengths).flatMap (fun range =>
                (answerRange storage path headers range).body.getD [])
              = (consecutive 0 lengths).flatMap (part buffer.val) :=
                List.flatMap_congr fun range member => by
                  rw [(parts range member).body, Option.getD_some]
            _ = buffer.val := bodies

end

def tenBytes : ArrayBuffer := ⟨[0, 1, 2, 3, 4, 5, 6, 7, 8, 9], by decide⟩

def oneVideoPath : List Char :=
  "/offline-media/11111111-1111-4111-8111-111111111111".toList

def oneVideo : CachedResponse :=
  ⟨[("content-type", "video/mp4")], .ok tenBytes⟩

def oneVideoCache : Cache where
  lookup := fun path =>
    .ok (if path = oneVideoPath then some oneVideo else none)

def oneVideoStorage : CacheStorage := ⟨fun _ => .ok oneVideoCache⟩

theorem oneVideo_canonical :
    getOfflineMediaPath "11111111-1111-4111-8111-111111111111".toList =
      some oneVideoPath := by
  decide +kernel

theorem oneVideo_holds :
    Holds oneVideoCache oneVideoPath (some tenBytes.val) :=
  ⟨oneVideo, tenBytes, congrArg Except.ok (if_pos rfl), rfl, rfl⟩

theorem suffix_range_served :
    (IsServed oneVideoStorage oneVideoPath [("range", "bytes=-3")]
        (some tenBytes.val) ↔
      ∀ bytes header, some tenBytes.val = some bytes →
        Headers.get [("range", "bytes=-3")] "range" = some header →
        ¬ ExceedsNumbers header bytes.length) ∧
      answer oneVideoStorage oneVideoPath [("range", "bytes=-3")] .get =
        { status := 206
          headers := [("content-type", "video/mp4"),
            ("accept-ranges", "bytes"), ("content-length", "3"),
            ("content-range", "bytes 7-9/10")]
          body := some [7, 8, 9] } :=
  ⟨offline_media_served_iff _ oneVideoCache _ _ _ _ oneVideo_canonical rfl
    oneVideo_holds (by decide), by decide +kernel⟩

/-- The file has all of the range, but its end is not held exactly. -/
theorem large_end_refused :
    ¬ IsServed oneVideoStorage oneVideoPath
      [("range", "bytes=0-9007199254740992")] (some tenBytes.val) := by
  intro served
  have refused : (answer oneVideoStorage oneVideoPath
      [("range", "bytes=0-9007199254740992")] .get).status = 416 := by
    decide +kernel
  have zero : isDecimal "0".toList = true := by decide
  have large : isDecimal "9007199254740992".toList = true := by decide
  have denoted : Denotes tenBytes.val.length "bytes=0-9007199254740992"
      ⟨0, 9⟩ :=
    ⟨"0-9007199254740992".toList, .closed 0 9007199254740992,
      by decide +kernel,
      RangeText.closed zero large,
      by decide +kernel⟩
  rcases served.1 with ⟨range, _, part⟩ | ⟨outside, _⟩
  · have clash := refused.symm.trans part.status
    cases clash
  · exact outside ⟨0, 9⟩ denoted

end OfflineReels.Pwa
