import AudioHal.Nameable

/-! # Gain modes

How a gain controller works. A mode is one bit; sets of modes have no symbol.
-/

set_option autoImplicit false

namespace AudioHal

/-- How a gain controller works. -/
structure GainMode where
  bits : UInt32
deriving DecidableEq

namespace GainMode

instance : RawValue GainMode :=
  .wrap mk bits (fun _ => rfl) (fun _ => rfl)

/-- All channels together. -/
def joint : GainMode := ⟨0x1⟩

/-- Each channel by itself. -/
def channels : GainMode := ⟨0x2⟩

/-- In a smooth ramp. -/
def ramp : GainMode := ⟨0x4⟩

/-- The rows of every build. -/
def rows : List (Entry GainMode) :=
  [
    .canonical "AUDIO_GAIN_MODE_JOINT" .joint,
    .canonical "AUDIO_GAIN_MODE_CHANNELS" .channels,
    .canonical "AUDIO_GAIN_MODE_RAMP" .ramp]

instance : Nameable GainMode where
  typeName := "AudioGainMode"
  stem := "AUDIO_GAIN_MODE_"
  numeral a := Text.hexadecimal a.bits.toNat
  table _ := ⟨.gainMode, rows, []⟩

end GainMode

end AudioHal
