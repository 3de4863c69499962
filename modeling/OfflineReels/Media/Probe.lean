import OfflineReels.Foundation.Text
import OfflineReels.Media.Contracts

namespace OfflineReels.Media

open OfflineReels.Foundation

/-! The document that `ffprobe` prints of a file, and how it is read. -/

structure MediaFailure where
  error : MediaError
  message : String
  deriving DecidableEq, Repr

/-- `real` stands for the numbers that are no integers. -/
inductive Json
  | null
  | boolean (value : Bool)
  | integer (value : Int)
  | real
  | string (text : String)
  | array (values : List Json)
  | object (members : List (String × Json))
  deriving Repr

namespace Json

/-- `dict.get`: of several members with one name the last one counts. -/
def get (key : String) : Json → Option Json
  | .object members =>
      (members.reverse.find? fun entry => entry.1 = key).map (·.2)
  | _ => none

end Json

/-- How the standard library reads a finite number of seconds, as microseconds,
and its `str.lower`. -/
structure Library where
  float : String → Option Int
  lower : List Char → List Char
  settled : ∀ text, lower (lower text) = lower text
  filled : ∀ text, text ≠ [] → lower text ≠ []
  apart : ∀ text, ',' ∉ text → ',' ∉ lower text
  stripped : ∀ text, strip text = text → strip (lower text) = lower text

def filledText : Option Json → Option String
  | some (.string text) => if text = "" then none else some text
  | _ => none

def optionalString (value : Json) (key : String) : Option String :=
  filledText (value.get key)

def requiredString (value : Json) (key : String) :
    Except MediaFailure String :=
  match optionalString value key with
  | some text => .ok text
  | none => .error ⟨.probe,
      "ffprobe did not return " ++ key ++ " for the video stream."⟩

def optionalDuration (library : Library) : Option Json → Option Int
  | some (.string text) => library.float text
  | _ => none

def formatName (library : Library) (part : List Char) : String :=
  String.ofList (library.lower (strip part))

def formatsOf (library : Library) (text : List Char) : List String :=
  ((text.splitOn ',').filter fun part => strip part ≠ []).map
    (formatName library)

/-- The aliases of the container; a suffix of the file is no evidence. -/
def containerFormats (library : Library) : Option Json → List String
  | some (.string text) => formatsOf library text.toList
  | _ => []

def optionalPositiveInteger : Option Json → Option Nat
  | some (.integer value) => if 0 < value then some value.toNat else none
  | _ => none

def optionalNonnegativeInteger : Option Json → Option Nat
  | some (.integer value) => if 0 ≤ value then some value.toNat else none
  | _ => none

def asciiLibrary (float : String → Option Int) : Library where
  float := float
  lower := List.map Char.toLower
  settled := by
    intro text
    rw [List.map_map]
    congr 1
    exact funext toLower_toLower
  filled := fun _ filled empty => filled (List.map_eq_nil_iff.mp empty)
  apart := by
    intro text apart comma
    obtain ⟨character, inside, lowered⟩ := List.mem_map.mp comma
    obtain rfl := comma_of_toLower lowered
    exact apart inside
  stripped := by
    intro text stripped
    rw [strip_toLower, stripped]

def isText (text : String) : Option Json → Bool
  | some (.string found) => found = text
  | _ => false

def isStream (kind : String) (stream : Json) : Bool :=
  isText kind (stream.get "codec_type")

def audioCodec (stream : Json) : String :=
  (optionalString stream "codec_name").getD ""

def probeOf (library : Library) (payload video : Json)
    (streams : List Json) (videoCodec : String) : MediaProbe where
  videoCodec := videoCodec
  pixelFormat := optionalString video "pix_fmt"
  audioCodecs := (streams.filter (isStream "audio")).map audioCodec
  duration := optionalDuration library
    ((payload.get "format").bind (·.get "duration"))
  width := optionalPositiveInteger (video.get "width")
  height := optionalPositiveInteger (video.get "height")
  videoProfile := optionalString video "profile"
  videoLevel := optionalNonnegativeInteger (video.get "level")
  containerFormats := containerFormats library
    ((payload.get "format").bind (·.get "format_name"))

/-- Without a document the output does not parse. -/
def parseProbeOutput (library : Library) :
    Option Json → Except MediaFailure MediaProbe
  | none => .error ⟨.probe, "ffprobe returned malformed JSON."⟩
  | some (.object members) =>
      match (Json.object members).get "streams" with
      | some (.array streams) =>
          match streams.find? (isStream "video") with
          | some video =>
              (requiredString video "codec_name").map
                (probeOf library (.object members) video streams)
          | none => .error ⟨.probe, "Media has no video stream."⟩
      | _ => .error ⟨.probe, "ffprobe did not return streams."⟩
  | some _ => .error ⟨.probe, "ffprobe returned an invalid document."⟩

@[simp] theorem get_nil (key : String) : (Json.object []).get key = none := rfl

theorem get_append_singleton (key name : String) (value : Json)
    (members : List (String × Json)) :
    (Json.object (members ++ [(name, value)])).get key =
      if name = key then some value else (Json.object members).get key := by
  simp only [Json.get, List.reverse_append, List.reverse_cons, List.reverse_nil,
    List.nil_append, List.singleton_append, List.find?_cons]
  by_cases same : name = key
  · simp [same]
  · simp [same]

theorem optionalString_ne {value : Json} {key text : String}
    (found : optionalString value key = some text) : text ≠ "" := by
  unfold optionalString filledText at found
  split at found
  · split at found
    · cases found
    · rename_i filled
      cases found
      exact filled
  · cases found

theorem optionalPositiveInteger_pos {value : Option Json} {number : Nat}
    (found : optionalPositiveInteger value = some number) : 0 < number := by
  unfold optionalPositiveInteger at found
  split at found
  · split at found
    · rename_i positive
      cases found
      omega
    · cases found
  · cases found

theorem optionalDuration_read {library : Library}
    {value : Option Json} {duration : Int}
    (found : optionalDuration library value = some duration) :
    ∃ text, library.float text = some duration := by
  unfold optionalDuration at found
  split at found
  · exact ⟨_, found⟩
  · cases found

/-- A lower-case name that stands between two commas. -/
structure IsFormatName (library : Library) (name : String) : Prop where
  filled : name.toList ≠ []
  apart : ',' ∉ name.toList
  stripped : strip name.toList = name.toList
  lower : library.lower name.toList = name.toList

section

variable {library : Library}

theorem isFormatName_formatName {text part : List Char}
    (member : part ∈ text.splitOn ',') (filled : strip part ≠ []) :
    IsFormatName library (formatName library part) := by
  have characters : (formatName library part).toList =
      library.lower (strip part) := String.toList_ofList
  constructor
  · rw [characters]
    exact library.filled _ filled
  · rw [characters]
    apply library.apart
    intro comma
    exact not_mem_of_mem_splitOn member (mem_of_mem_strip comma)
  · rw [characters]
    exact library.stripped _ (strip_strip part)
  · rw [characters, library.settled]

theorem formatName_self {name : String} (named : IsFormatName library name) :
    formatName library name.toList = name := by
  unfold formatName
  rw [named.stripped, named.lower, String.ofList_toList]

theorem isFormatName_of_mem {value : Option Json} {name : String}
    (member : name ∈ containerFormats library value) :
    IsFormatName library name := by
  unfold containerFormats at member
  split at member
  · obtain ⟨part, kept, rfl⟩ := List.mem_map.mp member
    obtain ⟨inside, filled⟩ := List.mem_filter.mp kept
    exact isFormatName_formatName inside (of_decide_eq_true filled)
  · cases member

end

/-! `documentOf` prints a probe as `ffprobe` would; what is read back is the probe
itself. -/

structure WellFormed (library : Library) (probe : MediaProbe) :
    Prop where
  codec : probe.videoCodec ≠ ""
  pixelFormat : probe.pixelFormat ≠ some ""
  duration : ∀ duration ∈ probe.duration,
    ∃ text, library.float text = some duration
  width : ∀ width ∈ probe.width, 0 < width
  height : ∀ height ∈ probe.height, 0 < height
  videoProfile : probe.videoProfile ≠ some ""
  formats : ∀ name ∈ probe.containerFormats, IsFormatName library name

def entry (key : String) : Option Json → List (String × Json)
  | some value => [(key, value)]
  | none => []

def natural (value : Nat) : Json := .integer value

def videoStream (probe : MediaProbe) : Json :=
  .object (((((([("codec_type", .string "video")] ++
    entry "codec_name" (some (.string probe.videoCodec))) ++
    entry "pix_fmt" (probe.pixelFormat.map .string)) ++
    entry "width" (probe.width.map natural)) ++
    entry "height" (probe.height.map natural)) ++
    entry "profile" (probe.videoProfile.map .string)) ++
    entry "level" (probe.videoLevel.map natural))

def audioStream (codec : String) : Json :=
  .object [("codec_type", .string "audio"), ("codec_name", .string codec)]

def formatNames (names : List String) : String :=
  String.ofList (List.intercalate [','] (names.map String.toList))

def formatOf (probe : MediaProbe) (text : Option String) : Json :=
  .object ([("format_name", .string (formatNames probe.containerFormats))] ++
    entry "duration" (text.map .string))

def documentOf (probe : MediaProbe) (text : Option String) : Json :=
  .object [("streams", .array (videoStream probe ::
      probe.audioCodecs.map audioStream)),
    ("format", formatOf probe text)]

theorem get_append_entry (key name : String) (value : Option Json)
    (members : List (String × Json)) :
    (Json.object (members ++ entry name value)).get key =
      if name = key then value.or ((Json.object members).get key)
      else (Json.object members).get key := by
  cases value with
  | none => simp [entry]
  | some value => exact get_append_singleton key name value members

theorem get_singleton (key name : String) (value : Json) :
    (Json.object [(name, value)]).get key =
      if name = key then some value else none :=
  get_append_singleton key name value []

theorem formatsOf_formatNames {library : Library} {names : List String}
    (named : ∀ name ∈ names, IsFormatName library name) :
    formatsOf library (formatNames names).toList = names := by
  have text : (formatNames names).toList =
      List.intercalate [','] (names.map String.toList) := String.toList_ofList
  rw [text]
  cases names with
  | nil => rfl
  | cons first rest =>
      have apart : ∀ part ∈ (first :: rest).map String.toList, ',' ∉ part := by
        intro part member
        obtain ⟨name, inside, rfl⟩ := List.mem_map.mp member
        exact (named name inside).apart
      have parts : (List.intercalate [',']
          ((first :: rest).map String.toList)).splitOn ',' =
          (first :: rest).map String.toList :=
        List.splitOn_intercalate ',' apart (List.cons_ne_nil _ _)
      have kept : ((first :: rest).map String.toList).filter
          (fun part => strip part ≠ []) = (first :: rest).map String.toList := by
        apply List.filter_eq_self.mpr
        intro part member
        obtain ⟨name, inside, rfl⟩ := List.mem_map.mp member
        rw [(named name inside).stripped]
        exact decide_eq_true (named name inside).filled
      have back : ∀ name ∈ first :: rest,
          (formatName library ∘ String.toList) name = id name :=
        fun name member => formatName_self (named name member)
      rw [formatsOf, parts, kept, List.map_map, List.map_congr_left back,
        List.map_id]

section

variable {library : Library} {probe : MediaProbe}
variable {text : Option String}

theorem filledText_string {text : String} (filled : text ≠ "") :
    filledText (some (.string text)) = some text := if_neg filled

theorem filledText_optional {text : Option String} (filled : text ≠ some "") :
    filledText (text.map .string) = text := by
  cases text with
  | none => rfl
  | some text => exact filledText_string fun empty => filled (by rw [empty])

theorem optionalPositiveInteger_natural {number : Option Nat}
    (positive : ∀ value ∈ number, 0 < value) :
    optionalPositiveInteger (number.map natural) = number := by
  cases number with
  | none => rfl
  | some value =>
      have above : (0 : Int) < value :=
        Int.natCast_pos.mpr (positive value rfl)
      exact if_pos above

theorem optionalNonnegativeInteger_natural (number : Option Nat) :
    optionalNonnegativeInteger (number.map natural) = number := by
  cases number with
  | none => rfl
  | some value => rfl

theorem optionalDuration_text (text : Option String) :
    optionalDuration library (text.map .string) =
      text.bind library.float := by
  cases text with
  | none => rfl
  | some text => rfl

theorem audioCodec_audioStream (codec : String) :
    audioCodec (audioStream codec) = codec := by
  have named : (audioStream codec).get "codec_name" = some (.string codec) :=
    rfl
  unfold audioCodec optionalString
  rw [named]
  by_cases empty : codec = ""
  · rw [empty]
    rfl
  · rw [filledText_string empty]
    rfl

theorem filter_audioStream (codecs : List String) :
    (codecs.map audioStream).filter (isStream "audio") =
      codecs.map audioStream := by
  apply List.filter_eq_self.mpr
  intro stream member
  obtain ⟨codec, _, rfl⟩ := List.mem_map.mp member
  rfl

theorem map_audioCodec (codecs : List String) :
    (codecs.map audioStream).map audioCodec = codecs := by
  have back : audioCodec ∘ audioStream = id := funext audioCodec_audioStream
  rw [List.map_map, back, List.map_id]

theorem probeOf_documentOf (formed : WellFormed library probe)
    (read : text.bind library.float = probe.duration) :
    probeOf library (documentOf probe text) (videoStream probe)
      (videoStream probe :: probe.audioCodecs.map audioStream)
      probe.videoCodec = probe := by
  have kind : isStream "audio" (videoStream probe) = false := by
    have found : (videoStream probe).get "codec_type" =
        some (.string "video") := by
      simp only [videoStream, get_append_entry, get_singleton]
      simp
    unfold isStream
    rw [found]
    rfl
  have pixels : (videoStream probe).get "pix_fmt" =
      probe.pixelFormat.map .string := by
    simp only [videoStream, get_append_entry, get_singleton]
    simp
  have width : (videoStream probe).get "width" =
      probe.width.map natural := by
    simp only [videoStream, get_append_entry, get_singleton]
    simp
  have height : (videoStream probe).get "height" =
      probe.height.map natural := by
    simp only [videoStream, get_append_entry, get_singleton]
    simp
  have profile : (videoStream probe).get "profile" =
      probe.videoProfile.map .string := by
    simp only [videoStream, get_append_entry, get_singleton]
    simp
  have level : (videoStream probe).get "level" =
      probe.videoLevel.map natural := by
    simp only [videoStream, get_append_entry, get_singleton]
    simp
  have format : (documentOf probe text).get "format" =
      some (formatOf probe text) := rfl
  have duration : (formatOf probe text).get "duration" =
      text.map .string := by
    simp only [formatOf, get_append_entry, get_singleton]
    simp
  have names : (formatOf probe text).get "format_name" =
      some (.string (formatNames probe.containerFormats)) := by
    simp only [formatOf, get_append_entry, get_singleton]
    simp
  unfold probeOf optionalString
  rw [List.filter_cons_of_neg (by simp [kind]), filter_audioStream,
    map_audioCodec, pixels, filledText_optional formed.pixelFormat, format,
    Option.bind_some, Option.bind_some, duration, optionalDuration_text, read,
    names, width, optionalPositiveInteger_natural formed.width, height,
    optionalPositiveInteger_natural formed.height, profile,
    filledText_optional formed.videoProfile, level,
    optionalNonnegativeInteger_natural, containerFormats,
    formatsOf_formatNames formed.formats]

theorem parseProbeOutput_documentOf (formed : WellFormed library probe)
    (read : text.bind library.float = probe.duration) :
    parseProbeOutput library (some (documentOf probe text)) = .ok probe := by
  have streams : (documentOf probe text).get "streams" =
      some (.array (videoStream probe ::
        probe.audioCodecs.map audioStream)) := rfl
  have kind : isStream "video" (videoStream probe) = true := by
    have found : (videoStream probe).get "codec_type" =
        some (.string "video") := by
      simp only [videoStream, get_append_entry, get_singleton]
      simp
    unfold isStream
    rw [found]
    rfl
  have codec : requiredString (videoStream probe) "codec_name" =
      .ok probe.videoCodec := by
    have found : (videoStream probe).get "codec_name" =
        some (.string probe.videoCodec) := by
      simp only [videoStream, get_append_entry, get_singleton]
      simp
    unfold requiredString optionalString
    rw [found, filledText_string formed.codec]
  unfold documentOf at streams ⊢
  simp only [parseProbeOutput, streams, List.find?_cons_of_pos kind, codec]
  exact congrArg Except.ok (probeOf_documentOf formed read)

theorem requiredString_ne {value : Json} {key found : String}
    (required : requiredString value key = .ok found) : found ≠ "" := by
  unfold requiredString at required
  split at required
  · rename_i named
    cases required
    exact optionalString_ne named
  · cases required

theorem probeOf_wellFormed {payload video : Json} {streams : List Json}
    {videoCodec : String}
    (required : requiredString video "codec_name" = .ok videoCodec) :
    WellFormed library (probeOf library payload video streams videoCodec) := by
  constructor
  · exact requiredString_ne required
  · intro empty
    exact optionalString_ne empty rfl
  · intro duration found
    exact optionalDuration_read found
  · intro width found
    exact optionalPositiveInteger_pos found
  · intro height found
    exact optionalPositiveInteger_pos found
  · intro empty
    exact optionalString_ne empty rfl
  · intro name member
    exact isFormatName_of_mem member

theorem wellFormed_of_parsed {output : Option Json}
    (parsed : parseProbeOutput library output = .ok probe) :
    WellFormed library probe := by
  unfold parseProbeOutput at parsed
  split at parsed
  · cases parsed
  · split at parsed
    · split at parsed
      · rename_i video _
        cases required : requiredString video "codec_name" with
        | error fault =>
            rw [required] at parsed
            cases parsed
        | ok videoCodec =>
            rw [required] at parsed
            cases parsed
            exact probeOf_wellFormed required
      · cases parsed
    · cases parsed
  · cases parsed

/-- The probes that are read are the well-formed ones. -/
theorem parsed_iff :
    (∃ output, parseProbeOutput library output = .ok probe) ↔
      WellFormed library probe := by
  constructor
  · intro found
    obtain ⟨output, parsed⟩ := found
    exact wellFormed_of_parsed parsed
  · intro formed
    have spelled : ∃ text : Option String,
        text.bind library.float = probe.duration := by
      cases length : probe.duration with
      | none => exact ⟨none, rfl⟩
      | some duration =>
          obtain ⟨text, read⟩ := formed.duration duration length
          exact ⟨some text, read⟩
    obtain ⟨text, read⟩ := spelled
    exact ⟨some (documentOf probe text),
      parseProbeOutput_documentOf formed read⟩

end

end OfflineReels.Media
