import OfflineReels.Foundation.Program
import OfflineReels.Media.Probe

namespace OfflineReels.Media

open OfflineReels.Foundation
open OfflineReels.Foundation.Program

/-! The normalizer of videos: a source is turned into a canonical MP4 in a
directory of its own, through a draft beside it. -/

structure FilePath where
  directory : String
  name : String
  deriving DecidableEq, Repr

/-- From the last dot on, unless the name begins or ends with it. -/
def suffix (name : List Char) : List Char :=
  let stem := name.reverse.takeWhile (· ≠ '.')
  if stem = [] ∨ name.length ≤ stem.length + 1 then []
  else '.' :: stem.reverse

inductive Argument
  | text (value : String)
  | file (path : FilePath)
  deriving DecidableEq, Repr

structure CompletedProcess where
  returncode : Int
  /-- The document that the printed text denotes. -/
  stdout : Option Json

inductive MediaFault
  | media (failure : MediaFailure)
  | timeoutExpired
  | osError
  | otherException
  | baseException
  deriving DecidableEq, Repr

inductive MediaCall
  | temporaryDirectory
  | cleanup (directory : String)
  | resolve (path : FilePath)
  | isFile (path : FilePath)
  | pathExists (path : FilePath)
  | isDirectory (directory : String)
  | mkstemp (directory : String)
  | closeDescriptor (path : FilePath)
  | run (command : List Argument) (timeoutSeconds : Nat)
  | copyFile (source target : FilePath)
  | size (path : FilePath)
  | replace (source target : FilePath)
  | unlink (path : FilePath)

@[reducible] def MediaReply : MediaCall → Type
  | .temporaryDirectory => String
  | .resolve _ => FilePath
  | .isFile _ => Bool
  | .pathExists _ => Bool
  | .isDirectory _ => Bool
  | .mkstemp _ => FilePath
  | .run _ _ => CompletedProcess
  | .size _ => Nat
  | _ => Unit

abbrev MediaProgram : Type → Type := Program MediaCall MediaReply MediaFault

namespace MediaProgram

def invoke (request : MediaCall) : MediaProgram (MediaReply request) :=
  Program.perform request

def fail {α : Type} (error : MediaError) (message : String) :
    MediaProgram α :=
  raise (.media ⟨error, message⟩)

def ofExcept {α : Type} : Except MediaFailure α → MediaProgram α
  | .ok value => pure value
  | .error failure => raise (.media failure)

end MediaProgram

open MediaProgram

def DEFAULT_PROBE_TIMEOUT_SECONDS : Nat := 30
def DEFAULT_FFMPEG_TIMEOUT_SECONDS : Nat := 10 * 60

def probeCommand (path : FilePath) : List Argument :=
  [.text "ffprobe", .text "-v", .text "error", .text "-show_format",
    .text "-show_streams", .text "-of", .text "json", .file path]

def decodeCommand (path : FilePath) : List Argument :=
  [.text "ffmpeg", .text "-v", .text "error", .text "-i", .file path,
    .text "-map", .text "0", .text "-f", .text "null", .text "-"]

def remuxCommand (source output : FilePath) : List Argument :=
  [.text "ffmpeg", .text "-y", .text "-v", .text "error", .text "-i",
    .file source, .text "-map", .text "0:v:0", .text "-map", .text "0:a?",
    .text "-c", .text "copy", .text "-movflags", .text "+faststart",
    .file output]

def transcodeCommand (source output : FilePath) : List Argument :=
  [.text "ffmpeg", .text "-y", .text "-v", .text "error", .text "-i",
    .file source, .text "-map", .text "0:v:0", .text "-map", .text "0:a?",
    .text "-c:v", .text "libx264", .text "-profile:v", .text "main",
    .text "-level:v", .text "4.1", .text "-pix_fmt", .text "yuv420p",
    .text "-crf", .text "23", .text "-c:a", .text "aac", .text "-b:a",
    .text "128k", .text "-movflags", .text "+faststart", .file output]

/-- How the three failures of a tool are told apart. -/
structure ToolFailures where
  timedOut : MediaFailure
  unstarted : MediaFailure
  refused : MediaFailure

def ToolFailures.settle (failures : ToolFailures) :
    Except MediaFault CompletedProcess → Except MediaFault CompletedProcess
  | .ok process =>
      if process.returncode = 0 then .ok process
      else .error (.media failures.refused)
  | .error .timeoutExpired => .error (.media failures.timedOut)
  | .error .osError => .error (.media failures.unstarted)
  | .error fault => .error fault

/-- A run of a tool that ended well. -/
def completed (command : List Argument) (timeoutSeconds : Nat)
    (failures : ToolFailures) : MediaProgram CompletedProcess :=
  (invoke (.run command timeoutSeconds)).attempt fun outcome =>
    .done (failures.settle outcome)

def probeFailures : ToolFailures where
  timedOut := ⟨.probeTimeout, "ffprobe timed out."⟩
  unstarted := ⟨.probe, "ffprobe could not be started."⟩
  refused := ⟨.probe, "ffprobe could not inspect the media file."⟩

def decodeFailures : ToolFailures where
  timedOut := ⟨.decodeTimeout, "ffmpeg decode validation timed out."⟩
  unstarted :=
    ⟨.decode, "ffmpeg could not be started for decode validation."⟩
  refused := ⟨.decode, "ffmpeg could not decode the media file."⟩

def normalizationFailures : ToolFailures where
  timedOut := ⟨.normalizationTimeout, "ffmpeg normalization timed out."⟩
  unstarted :=
    ⟨.normalizationCommand, "ffmpeg could not be started for normalization."⟩
  refused :=
    ⟨.normalizationCommand, "ffmpeg could not normalize the media file."⟩

structure Timeouts where
  probe : Nat := DEFAULT_PROBE_TIMEOUT_SECONDS
  ffmpeg : Nat := DEFAULT_FFMPEG_TIMEOUT_SECONDS

/-- The standard library, and how long the tools may take. -/
structure Normalizer where
  library : Library
  timeouts : Timeouts := {}

/-- The result of a normalization, by the paths of its files. -/
structure NormalizedFile where
  sourcePath : FilePath
  outputPath : FilePath
  strategy : NormalizationStrategy
  originalProbe : MediaProbe
  probe : MediaProbe
  deriving DecidableEq, Repr

def compatibilityMessage (probe : MediaProbe) : String :=
  if probe.videoCodec = "" then "Media has no video stream."
  else if !probe.duration.any (0 < ·) then
    "Media duration must be greater than zero."
  else "Media dimensions must be greater than zero."

def strategyFor (probe : MediaProbe) : Except MediaFailure NormalizationStrategy :=
  (selectNormalizationStrategy probe).mapError fun error =>
    ⟨error, compatibilityMessage probe⟩

namespace Normalizer

variable (normalizer : Normalizer)

def probeMedia (path : FilePath) : MediaProgram MediaProbe := do
  let process ← completed (probeCommand path) normalizer.timeouts.probe
    probeFailures
  ofExcept (parseProbeOutput normalizer.library process.stdout)

def validateDecode (path : FilePath) : MediaProgram Unit := do
  let _ ← completed (decodeCommand path) normalizer.timeouts.ffmpeg
    decodeFailures

def createTemporaryOutput (directory : String) : MediaProgram FilePath := do
  let path ← invoke (.mkstemp directory)
  invoke (.closeDescriptor path)
  return path

def runNormalization (source temporary : FilePath)
    (strategy : NormalizationStrategy) : MediaProgram Unit := do
  let command := if strategy = .transcode then transcodeCommand source temporary
    else remuxCommand source temporary
  let _ ← completed command normalizer.timeouts.ffmpeg normalizationFailures

def draft (source temporary : FilePath) (strategy : NormalizationStrategy) :
    MediaProgram Unit :=
  if strategy = .passthrough then invoke (.copyFile source temporary)
  else normalizer.runNormalization source temporary strategy

/-- The destination is not touched until the draft has passed the probe, the
decoder and the test of its size. -/
def publish (source temporary destination : FilePath)
    (strategy : NormalizationStrategy) : MediaProgram MediaProbe := do
  normalizer.draft source temporary strategy
  let probe ← normalizer.probeMedia temporary
  normalizer.validateDecode temporary
  if !isCanonicalMedia probe then
    fail .compatibility "Normalized output is not MVP-compatible media."
  else if (← invoke (.size temporary)) = 0 then
    fail .normalizationCommand "Normalized output is empty."
  else
    invoke (.replace temporary destination)
    return probe

def produce (source destination : FilePath) : MediaProgram NormalizedFile := do
  let originalProbe ← normalizer.probeMedia source
  normalizer.validateDecode source
  let strategy ← ofExcept (strategyFor originalProbe)
  let temporary ← createTemporaryOutput destination.directory
  let probe ← (normalizer.publish source temporary destination strategy).ensure
    (invoke (.unlink temporary))
  return ⟨source, destination, strategy, originalProbe, probe⟩

def normalizeToOutput (input output : FilePath) :
    MediaProgram NormalizedFile := do
  let source ← invoke (.resolve input)
  let destination ← invoke (.resolve output)
  if !(← invoke (.isFile source)) then
    fail .normalizationCommand "Input media file does not exist."
  else if source = destination then
    fail .normalizationCommand "Input and output paths must differ."
  else if ← invoke (.pathExists destination) then
    fail .normalizationCommand "Output media file already exists."
  else if (suffix destination.name.toList).map Char.toLower ≠
      ".mp4".toList then
    fail .normalizationCommand
      "Normalized output must use the .mp4 extension."
  else if !(← invoke (.isDirectory destination.directory)) then
    fail .normalizationCommand "Output directory does not exist."
  else normalizer.produce source destination

/-- `normalize_video` up to its `yield`: the directory and what is in it. -/
def enter (input : FilePath) : MediaProgram (String × NormalizedFile) := do
  let directory ← invoke .temporaryDirectory
  (normalizer.normalizeToOutput input
      ⟨directory, "normalized.mp4"⟩).attempt fun
    | .ok normalized => pure (directory, normalized)
    | .error fault => do
        invoke (.cleanup directory)
        raise fault

/-- `with normalize_video(...)`: the directory is removed on every exit. -/
def normalizeVideo {α : Type} (input : FilePath)
    (body : NormalizedFile → MediaProgram α) : MediaProgram α := do
  let (directory, normalized) ← normalizer.enter input
  (body normalized).ensure (invoke (.cleanup directory))

end Normalizer

end OfflineReels.Media
