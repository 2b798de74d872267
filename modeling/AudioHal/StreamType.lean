import AudioHal.Nameable

/-! # Stream types

The groups that volume control counts in. The default type, -1, belongs to the framework alone.
-/

set_option autoImplicit false

namespace AudioHal

/-- A group of streams with one volume. -/
structure StreamType where
  code : Int32
deriving DecidableEq

namespace StreamType

instance : RawValue StreamType :=
  .wrap mk code (fun _ => rfl) (fun _ => rfl)

/-- Chosen by policy; the framework's own. -/
protected def default : StreamType := ⟨-1⟩

def voiceCall : StreamType := ⟨0⟩
def system : StreamType := ⟨1⟩
def ring : StreamType := ⟨2⟩
def music : StreamType := ⟨3⟩
def alarm : StreamType := ⟨4⟩
def notification : StreamType := ⟨5⟩
def bluetoothSco : StreamType := ⟨6⟩

/-- Sounds that must be heard. -/
def enforcedAudible : StreamType := ⟨7⟩

/-- Dial tones. -/
def dtmf : StreamType := ⟨8⟩

def tts : StreamType := ⟨9⟩
def accessibility : StreamType := ⟨10⟩
def assistant : StreamType := ⟨11⟩
def rerouting : StreamType := ⟨12⟩
def patch : StreamType := ⟨13⟩
def callAssistant : StreamType := ⟨14⟩

/-- The rows of every build. -/
def rows : List (Entry StreamType) :=
  [
    .canonical "AUDIO_STREAM_VOICE_CALL" .voiceCall,
    .canonical "AUDIO_STREAM_SYSTEM" .system,
    .canonical "AUDIO_STREAM_RING" .ring,
    .canonical "AUDIO_STREAM_MUSIC" .music,
    .canonical "AUDIO_STREAM_ALARM" .alarm,
    .canonical "AUDIO_STREAM_NOTIFICATION" .notification,
    .canonical "AUDIO_STREAM_BLUETOOTH_SCO" .bluetoothSco,
    .canonical "AUDIO_STREAM_ENFORCED_AUDIBLE" .enforcedAudible,
    .canonical "AUDIO_STREAM_DTMF" .dtmf,
    .canonical "AUDIO_STREAM_TTS" .tts,
    .canonical "AUDIO_STREAM_ACCESSIBILITY" .accessibility,
    .canonical "AUDIO_STREAM_ASSISTANT" .assistant,
    .canonical "AUDIO_STREAM_REROUTING" .rerouting,
    .canonical "AUDIO_STREAM_PATCH" .patch,
    .canonical "AUDIO_STREAM_CALL_ASSISTANT" .callAssistant]

/-- The row of the framework's build. -/
def frameworkRows : List (Entry StreamType) :=
  [
    .frameworkOnly "AUDIO_STREAM_DEFAULT" .default]

instance : Nameable StreamType where
  typeName := "AudioStreamType"
  stem := "AUDIO_STREAM_"
  numeral a := Text.decimal (RawValue.toRaw a)
  table b := ⟨.streamType, rows, b.keep frameworkRows⟩

end StreamType

end AudioHal
