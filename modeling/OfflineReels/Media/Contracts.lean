import OfflineReels.Instagram.Contracts

namespace OfflineReels.Media

open OfflineReels.Instagram

/-! Media descriptions and the choice of a normalization. -/

inductive NormalizationStrategy
  | passthrough
  | remux
  | transcode
  deriving DecidableEq, Repr

def NormalizationStrategy.value : NormalizationStrategy → String
  | passthrough => "passthrough"
  | remux => "remux"
  | transcode => "transcode"

/-- The duration is in microseconds, the precision that ffprobe prints. -/
structure MediaProbe where
  videoCodec : String
  pixelFormat : Option String
  audioCodecs : List String
  duration : Option Int
  width : Option Nat
  height : Option Nat
  videoProfile : Option String := none
  videoLevel : Option Nat := none
  containerFormats : List String := []
  deriving DecidableEq, Repr

structure NormalizedMedia where
  output : Bytes
  strategy : NormalizationStrategy
  originalProbe : MediaProbe
  probe : MediaProbe
  deriving DecidableEq, Repr

inductive MediaError
  | probe
  | probeTimeout
  | decode
  | decodeTimeout
  | compatibility
  | normalizationCommand
  | normalizationTimeout
  deriving DecidableEq, Repr

def CANONICAL_VIDEO_CODEC : String := "h264"
def CANONICAL_PIXEL_FORMAT : String := "yuv420p"
def CANONICAL_AUDIO_CODEC : String := "aac"

def hasRequiredVideoMetadata (probe : MediaProbe) : Bool :=
  probe.videoCodec ≠ "" && probe.duration.any (0 < ·) &&
    probe.width.any (0 < ·) && probe.height.any (0 < ·)

/-- The least destructive way to produce a compatible MP4. -/
def selectNormalizationStrategy (probe : MediaProbe) :
    Except MediaError NormalizationStrategy :=
  if !hasRequiredVideoMetadata probe then .error .compatibility
  else if probe.videoCodec.toLower = CANONICAL_VIDEO_CODEC ∧
      probe.pixelFormat = some CANONICAL_PIXEL_FORMAT ∧
      probe.audioCodecs.all (·.toLower = CANONICAL_AUDIO_CODEC) then
    if "mov" ∈ probe.containerFormats ∨ "mp4" ∈ probe.containerFormats then
      .ok .passthrough
    else .ok .remux
  else .ok .transcode

def isCanonicalMedia (probe : MediaProbe) : Bool :=
  match selectNormalizationStrategy probe with
  | .ok .passthrough | .ok .remux => true
  | _ => false

/-- `round(seconds * 1000)`: half way it rounds to the even neighbour. -/
def durationMilliseconds (duration : Int) : Int :=
  let below := duration / 1000
  let rest := duration % 1000
  if rest < 500 ∨ (rest = 500 ∧ below % 2 = 0) then below else below + 1

end OfflineReels.Media
