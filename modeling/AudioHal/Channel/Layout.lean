import AudioHal.Channel.Position

/-! # Channel layouts

The usual sets of positions, each composed of positions or of smaller layouts.
-/

set_option autoImplicit false

namespace AudioHal.ChannelMask

/-! ## Outputs -/

def outMono : ChannelMask := outFrontLeft
def outStereo : ChannelMask := outFrontLeft.union outFrontRight
def out2Point1 : ChannelMask :=
  unionAll [outFrontLeft, outFrontRight, outLowFrequency]
def outTri : ChannelMask :=
  unionAll [outFrontLeft, outFrontRight, outFrontCenter]
def outTriBack : ChannelMask :=
  unionAll [outFrontLeft, outFrontRight, outBackCenter]
def out3Point1 : ChannelMask :=
  unionAll [outFrontLeft, outFrontRight, outFrontCenter, outLowFrequency]
def out2Point0Point2 : ChannelMask :=
  unionAll [outFrontLeft, outFrontRight, outTopSideLeft, outTopSideRight]
def out2Point1Point2 : ChannelMask :=
  unionAll [outFrontLeft, outFrontRight, outTopSideLeft, outTopSideRight, outLowFrequency]
def out3Point0Point2 : ChannelMask :=
  unionAll [outFrontLeft, outFrontRight, outFrontCenter, outTopSideLeft, outTopSideRight]
def out3Point1Point2 : ChannelMask :=
  unionAll [outFrontLeft, outFrontRight, outFrontCenter, outTopSideLeft, outTopSideRight,
    outLowFrequency]
def outQuad : ChannelMask :=
  unionAll [outFrontLeft, outFrontRight, outBackLeft, outBackRight]
def outQuadSide : ChannelMask :=
  unionAll [outFrontLeft, outFrontRight, outSideLeft, outSideRight]
def outSurround : ChannelMask :=
  unionAll [outFrontLeft, outFrontRight, outFrontCenter, outBackCenter]
def outPenta : ChannelMask := outQuad.union outFrontCenter
def out5Point1 : ChannelMask :=
  unionAll [outFrontLeft, outFrontRight, outFrontCenter, outLowFrequency, outBackLeft, outBackRight]
def out5Point1Side : ChannelMask :=
  unionAll [outFrontLeft, outFrontRight, outFrontCenter, outLowFrequency, outSideLeft, outSideRight]
def out5Point1Point2 : ChannelMask :=
  unionAll [out5Point1, outTopSideLeft, outTopSideRight]
def out5Point1Point4 : ChannelMask :=
  unionAll [out5Point1, outTopFrontLeft, outTopFrontRight, outTopBackLeft, outTopBackRight]
def out6Point1 : ChannelMask :=
  unionAll [outFrontLeft, outFrontRight, outFrontCenter, outLowFrequency, outBackLeft,
    outBackRight, outBackCenter]
def out7Point1 : ChannelMask :=
  unionAll [outFrontLeft, outFrontRight, outFrontCenter, outLowFrequency, outBackLeft,
    outBackRight, outSideLeft, outSideRight]
def out7Point1Point2 : ChannelMask :=
  unionAll [out7Point1, outTopSideLeft, outTopSideRight]
def out7Point1Point4 : ChannelMask :=
  unionAll [out7Point1, outTopFrontLeft, outTopFrontRight, outTopBackLeft, outTopBackRight]
def outMonoHapticA : ChannelMask := outMono.union outHapticA
def outStereoHapticA : ChannelMask := outStereo.union outHapticA
def outHapticAb : ChannelMask := outHapticA.union outHapticB
def outMonoHapticAb : ChannelMask := outMono.union outHapticAb
def outStereoHapticAb : ChannelMask := outStereo.union outHapticAb
def out5Point1Back : ChannelMask := out5Point1
def outQuadBack : ChannelMask := outQuad

/-! ## Inputs -/

def inMono : ChannelMask := inFront
def inStereo : ChannelMask := inLeft.union inRight
def inFrontBack : ChannelMask := inFront.union inBack
def in6 : ChannelMask :=
  unionAll [inLeft, inRight, inFront, inBack, inLeftProcessed, inRightProcessed]
def in2Point0Point2 : ChannelMask :=
  unionAll [inLeft, inRight, inTopLeft, inTopRight]
def in2Point1Point2 : ChannelMask :=
  unionAll [inLeft, inRight, inTopLeft, inTopRight, inLowFrequency]
def in3Point0Point2 : ChannelMask :=
  unionAll [inLeft, inCenter, inRight, inTopLeft, inTopRight]
def in3Point1Point2 : ChannelMask :=
  unionAll [inLeft, inCenter, inRight, inTopLeft, inTopRight, inLowFrequency]
def in5Point1 : ChannelMask :=
  unionAll [inLeft, inCenter, inRight, inBackLeft, inBackRight, inLowFrequency]
def inVoiceUplinkMono : ChannelMask := inVoiceUplink.union inMono
def inVoiceDnlinkMono : ChannelMask := inVoiceDnlink.union inMono
def inVoiceCallMono : ChannelMask := inVoiceUplinkMono.union inVoiceDnlinkMono

end AudioHal.ChannelMask
