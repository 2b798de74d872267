import AudioHal.Nameable

/-! # Usages

What a sound is played for. Four kinds of notification, 7 to 10, belong to the framework alone;
those of a vehicle, from 1000 on, do not.
-/

set_option autoImplicit false

namespace AudioHal

/-- What a stream is played for. -/
structure Usage where
  code : UInt32
deriving DecidableEq

namespace Usage

instance : RawValue Usage :=
  .wrap mk code (fun _ => rfl) (fun _ => rfl)

def unknown : Usage := ⟨0⟩
def media : Usage := ⟨1⟩
def voiceCommunication : Usage := ⟨2⟩
def voiceCommunicationSignalling : Usage := ⟨3⟩
def alarm : Usage := ⟨4⟩
def notification : Usage := ⟨5⟩
def notificationTelephonyRingtone : Usage := ⟨6⟩
def notificationCommunicationRequest : Usage := ⟨7⟩
def notificationCommunicationInstant : Usage := ⟨8⟩
def notificationCommunicationDelayed : Usage := ⟨9⟩
def notificationEvent : Usage := ⟨10⟩
def assistanceAccessibility : Usage := ⟨11⟩
def assistanceNavigationGuidance : Usage := ⟨12⟩

/-- The sounds of controls. -/
def assistanceSonification : Usage := ⟨13⟩

def game : Usage := ⟨14⟩
def virtualSource : Usage := ⟨15⟩
def assistant : Usage := ⟨16⟩
def callAssistant : Usage := ⟨17⟩
def emergency : Usage := ⟨1000⟩
def safety : Usage := ⟨1001⟩
def vehicleStatus : Usage := ⟨1002⟩
def announcement : Usage := ⟨1003⟩

/-- The rows of every build. -/
def rows : List (Entry Usage) :=
  [
    .canonical "AUDIO_USAGE_UNKNOWN" .unknown,
    .canonical "AUDIO_USAGE_MEDIA" .media,
    .canonical "AUDIO_USAGE_VOICE_COMMUNICATION" .voiceCommunication,
    .canonical "AUDIO_USAGE_VOICE_COMMUNICATION_SIGNALLING" .voiceCommunicationSignalling,
    .canonical "AUDIO_USAGE_ALARM" .alarm,
    .canonical "AUDIO_USAGE_NOTIFICATION" .notification,
    .canonical "AUDIO_USAGE_NOTIFICATION_TELEPHONY_RINGTONE" .notificationTelephonyRingtone,
    .canonical "AUDIO_USAGE_ASSISTANCE_ACCESSIBILITY" .assistanceAccessibility,
    .canonical "AUDIO_USAGE_ASSISTANCE_NAVIGATION_GUIDANCE" .assistanceNavigationGuidance,
    .canonical "AUDIO_USAGE_ASSISTANCE_SONIFICATION" .assistanceSonification,
    .canonical "AUDIO_USAGE_GAME" .game,
    .canonical "AUDIO_USAGE_VIRTUAL_SOURCE" .virtualSource,
    .canonical "AUDIO_USAGE_ASSISTANT" .assistant,
    .canonical "AUDIO_USAGE_CALL_ASSISTANT" .callAssistant,
    .canonical "AUDIO_USAGE_EMERGENCY" .emergency,
    .canonical "AUDIO_USAGE_SAFETY" .safety,
    .canonical "AUDIO_USAGE_VEHICLE_STATUS" .vehicleStatus,
    .canonical "AUDIO_USAGE_ANNOUNCEMENT" .announcement]

/-- The rows of the framework's build. -/
def frameworkRows : List (Entry Usage) :=
  [
    .frameworkOnly "AUDIO_USAGE_NOTIFICATION_COMMUNICATION_REQUEST" .notificationCommunicationRequest,
    .frameworkOnly "AUDIO_USAGE_NOTIFICATION_COMMUNICATION_INSTANT" .notificationCommunicationInstant,
    .frameworkOnly "AUDIO_USAGE_NOTIFICATION_COMMUNICATION_DELAYED" .notificationCommunicationDelayed,
    .frameworkOnly "AUDIO_USAGE_NOTIFICATION_EVENT" .notificationEvent]

instance : Nameable Usage where
  typeName := "AudioUsage"
  stem := "AUDIO_USAGE_"
  numeral a := Text.decimal (RawValue.toRaw a)
  table b := ⟨.usage, rows, b.keep frameworkRows⟩

end Usage

end AudioHal
