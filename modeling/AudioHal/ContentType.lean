import AudioHal.Nameable

/-! # Content types

What is being played, apart from what it is played for.
-/

set_option autoImplicit false

namespace AudioHal

/-- What a stream plays. -/
structure ContentType where
  code : UInt32
deriving DecidableEq

namespace ContentType

instance : RawValue ContentType :=
  .wrap mk code (fun _ => rfl) (fun _ => rfl)

def unknown : ContentType := ⟨0⟩
def speech : ContentType := ⟨1⟩
def music : ContentType := ⟨2⟩
def movie : ContentType := ⟨3⟩

/-- A short cue. -/
def sonification : ContentType := ⟨4⟩

/-- The rows of every build. -/
def rows : List (Entry ContentType) :=
  [
    .canonical "AUDIO_CONTENT_TYPE_UNKNOWN" .unknown,
    .canonical "AUDIO_CONTENT_TYPE_SPEECH" .speech,
    .canonical "AUDIO_CONTENT_TYPE_MUSIC" .music,
    .canonical "AUDIO_CONTENT_TYPE_MOVIE" .movie,
    .canonical "AUDIO_CONTENT_TYPE_SONIFICATION" .sonification]

instance : Nameable ContentType where
  typeName := "AudioContentType"
  stem := "AUDIO_CONTENT_TYPE_"
  numeral a := Text.decimal (RawValue.toRaw a)
  table _ := ⟨.contentType, rows, []⟩

end ContentType

end AudioHal
