import AudioHal.Nameable

/-! # Capture sources

Where a recording comes from. The invalid source, -1, belongs to the framework alone: a vendor's build
has no row for it, so no string names it there.
-/

set_option autoImplicit false

namespace AudioHal

/-- Where a recording comes from. -/
structure CaptureSource where
  code : Int32
deriving DecidableEq

namespace CaptureSource

instance : RawValue CaptureSource :=
  .wrap mk code (fun _ => rfl) (fun _ => rfl)

/-- No valid source; the framework's own. -/
def invalid : CaptureSource := ⟨-1⟩

protected def default : CaptureSource := ⟨0⟩
def mic : CaptureSource := ⟨1⟩
def voiceUplink : CaptureSource := ⟨2⟩
def voiceDownlink : CaptureSource := ⟨3⟩
def voiceCall : CaptureSource := ⟨4⟩

/-- The microphone of a camera. -/
def camcorder : CaptureSource := ⟨5⟩

def voiceRecognition : CaptureSource := ⟨6⟩
def voiceCommunication : CaptureSource := ⟨7⟩

/-- A mix that is played elsewhere. -/
def remoteSubmix : CaptureSource := ⟨8⟩

def unprocessed : CaptureSource := ⟨9⟩
def voicePerformance : CaptureSource := ⟨10⟩
def echoReference : CaptureSource := ⟨1997⟩
def fmTuner : CaptureSource := ⟨1998⟩

/-- For a wake word. -/
def hotword : CaptureSource := ⟨1999⟩

/-- The rows of every build. -/
def rows : List (Entry CaptureSource) :=
  [
    .canonical "AUDIO_SOURCE_DEFAULT" .default,
    .canonical "AUDIO_SOURCE_MIC" .mic,
    .canonical "AUDIO_SOURCE_VOICE_UPLINK" .voiceUplink,
    .canonical "AUDIO_SOURCE_VOICE_DOWNLINK" .voiceDownlink,
    .canonical "AUDIO_SOURCE_VOICE_CALL" .voiceCall,
    .canonical "AUDIO_SOURCE_CAMCORDER" .camcorder,
    .canonical "AUDIO_SOURCE_VOICE_RECOGNITION" .voiceRecognition,
    .canonical "AUDIO_SOURCE_VOICE_COMMUNICATION" .voiceCommunication,
    .canonical "AUDIO_SOURCE_REMOTE_SUBMIX" .remoteSubmix,
    .canonical "AUDIO_SOURCE_UNPROCESSED" .unprocessed,
    .canonical "AUDIO_SOURCE_VOICE_PERFORMANCE" .voicePerformance,
    .canonical "AUDIO_SOURCE_ECHO_REFERENCE" .echoReference,
    .canonical "AUDIO_SOURCE_FM_TUNER" .fmTuner,
    .canonical "AUDIO_SOURCE_HOTWORD" .hotword]

/-- The row of the framework's build. -/
def frameworkRows : List (Entry CaptureSource) :=
  [
    .frameworkOnly "AUDIO_SOURCE_INVALID" .invalid]

instance : Nameable CaptureSource where
  typeName := "AudioSource"
  stem := "AUDIO_SOURCE_"
  numeral a := Text.decimal (RawValue.toRaw a)
  table b := ⟨.source, rows, b.keep frameworkRows⟩

end CaptureSource

end AudioHal
