import AudioHal.Channel.Mask

/-! # Channel positions

The places that a loudspeaker or a microphone can have, one bit for each. Outputs use the bits 0 to
19 and, for haptic channels, 28 and 29; inputs use the bits 2 to 22 apart from 19. The two overlap,
so a bit means nothing until the direction is known.

* `ChannelMask.outputChannels`, `ChannelMask.inputChannels`: the positions with their names.
* `ChannelMask.outAll`, `ChannelMask.inAll`: all of them together.
-/

set_option autoImplicit false

namespace AudioHal.ChannelMask

/-! ## Outputs -/

def outFrontLeft : ChannelMask := ⟨0x1⟩
def outFrontRight : ChannelMask := ⟨0x2⟩
def outFrontCenter : ChannelMask := ⟨0x4⟩
def outLowFrequency : ChannelMask := ⟨0x8⟩
def outBackLeft : ChannelMask := ⟨0x10⟩
def outBackRight : ChannelMask := ⟨0x20⟩
def outFrontLeftOfCenter : ChannelMask := ⟨0x40⟩
def outFrontRightOfCenter : ChannelMask := ⟨0x80⟩
def outBackCenter : ChannelMask := ⟨0x100⟩
def outSideLeft : ChannelMask := ⟨0x200⟩
def outSideRight : ChannelMask := ⟨0x400⟩
def outTopCenter : ChannelMask := ⟨0x800⟩
def outTopFrontLeft : ChannelMask := ⟨0x1000⟩
def outTopFrontCenter : ChannelMask := ⟨0x2000⟩
def outTopFrontRight : ChannelMask := ⟨0x4000⟩
def outTopBackLeft : ChannelMask := ⟨0x8000⟩
def outTopBackCenter : ChannelMask := ⟨0x10000⟩
def outTopBackRight : ChannelMask := ⟨0x20000⟩
def outTopSideLeft : ChannelMask := ⟨0x40000⟩
def outTopSideRight : ChannelMask := ⟨0x80000⟩
def outHapticA : ChannelMask := ⟨0x20000000⟩
def outHapticB : ChannelMask := ⟨0x10000000⟩

/-! ## Inputs -/

def inLeft : ChannelMask := ⟨0x4⟩
def inRight : ChannelMask := ⟨0x8⟩
def inFront : ChannelMask := ⟨0x10⟩
def inBack : ChannelMask := ⟨0x20⟩
def inLeftProcessed : ChannelMask := ⟨0x40⟩
def inRightProcessed : ChannelMask := ⟨0x80⟩
def inFrontProcessed : ChannelMask := ⟨0x100⟩
def inBackProcessed : ChannelMask := ⟨0x200⟩
def inPressure : ChannelMask := ⟨0x400⟩
def inXAxis : ChannelMask := ⟨0x800⟩
def inYAxis : ChannelMask := ⟨0x1000⟩
def inZAxis : ChannelMask := ⟨0x2000⟩
def inVoiceUplink : ChannelMask := ⟨0x4000⟩
def inVoiceDnlink : ChannelMask := ⟨0x8000⟩
def inBackLeft : ChannelMask := ⟨0x10000⟩
def inBackRight : ChannelMask := ⟨0x20000⟩
def inCenter : ChannelMask := ⟨0x40000⟩
def inLowFrequency : ChannelMask := ⟨0x100000⟩
def inTopLeft : ChannelMask := ⟨0x200000⟩
def inTopRight : ChannelMask := ⟨0x400000⟩

/-! ## All positions -/

/-- The positions of an output, with their names. -/
def outputChannels : List (String × ChannelMask) :=
  [
    ("OUT_FRONT_LEFT", outFrontLeft),
    ("OUT_FRONT_RIGHT", outFrontRight),
    ("OUT_FRONT_CENTER", outFrontCenter),
    ("OUT_LOW_FREQUENCY", outLowFrequency),
    ("OUT_BACK_LEFT", outBackLeft),
    ("OUT_BACK_RIGHT", outBackRight),
    ("OUT_FRONT_LEFT_OF_CENTER", outFrontLeftOfCenter),
    ("OUT_FRONT_RIGHT_OF_CENTER", outFrontRightOfCenter),
    ("OUT_BACK_CENTER", outBackCenter),
    ("OUT_SIDE_LEFT", outSideLeft),
    ("OUT_SIDE_RIGHT", outSideRight),
    ("OUT_TOP_CENTER", outTopCenter),
    ("OUT_TOP_FRONT_LEFT", outTopFrontLeft),
    ("OUT_TOP_FRONT_CENTER", outTopFrontCenter),
    ("OUT_TOP_FRONT_RIGHT", outTopFrontRight),
    ("OUT_TOP_BACK_LEFT", outTopBackLeft),
    ("OUT_TOP_BACK_CENTER", outTopBackCenter),
    ("OUT_TOP_BACK_RIGHT", outTopBackRight),
    ("OUT_TOP_SIDE_LEFT", outTopSideLeft),
    ("OUT_TOP_SIDE_RIGHT", outTopSideRight),
    ("OUT_HAPTIC_A", outHapticA),
    ("OUT_HAPTIC_B", outHapticB)]

/-- The positions of an input, with their names. -/
def inputChannels : List (String × ChannelMask) :=
  [
    ("IN_LEFT", inLeft),
    ("IN_RIGHT", inRight),
    ("IN_FRONT", inFront),
    ("IN_BACK", inBack),
    ("IN_LEFT_PROCESSED", inLeftProcessed),
    ("IN_RIGHT_PROCESSED", inRightProcessed),
    ("IN_FRONT_PROCESSED", inFrontProcessed),
    ("IN_BACK_PROCESSED", inBackProcessed),
    ("IN_PRESSURE", inPressure),
    ("IN_X_AXIS", inXAxis),
    ("IN_Y_AXIS", inYAxis),
    ("IN_Z_AXIS", inZAxis),
    ("IN_VOICE_UPLINK", inVoiceUplink),
    ("IN_VOICE_DNLINK", inVoiceDnlink),
    ("IN_BACK_LEFT", inBackLeft),
    ("IN_BACK_RIGHT", inBackRight),
    ("IN_CENTER", inCenter),
    ("IN_LOW_FREQUENCY", inLowFrequency),
    ("IN_TOP_LEFT", inTopLeft),
    ("IN_TOP_RIGHT", inTopRight)]

/-- The positions of an output. -/
def outDiscrete : List ChannelMask :=
  outputChannels.map (·.2)

/-- The positions of an input. -/
def inDiscrete : List ChannelMask :=
  inputChannels.map (·.2)

/-- All positions of an output. -/
def outAll : ChannelMask :=
  unionAll outDiscrete

/-- All positions of an input. -/
def inAll : ChannelMask :=
  unionAll inDiscrete

/-- Both haptic channels. -/
def hapticAll : ChannelMask :=
  outHapticB.union outHapticA

/-- Whether a positional mask has a haptic channel. -/
def hasHaptic (m : ChannelMask) : Bool :=
  m.representation? == some .position && m.bits &&& hapticAll.bits != 0

end AudioHal.ChannelMask
