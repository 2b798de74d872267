import AudioHal.Channel.Layout
import AudioHal.Table.Basic
import AudioHal.Text.Numeral

/-! # The named channel masks

A mask can be read in three directions, each with a table of its own. The three name different
values and use different symbols, but for the empty mask, which all of them name alike.

* `ChannelMask.Direction`: how a mask is read.
* `ChannelMask.table`: the names in a direction.
* `ChannelMask.symbol?`, `ChannelMask.ofSymbol?`: the two ways between masks and symbols.
* `ChannelMask.constants`: the masks that programs name.
-/

set_option autoImplicit false

namespace AudioHal.ChannelMask

/-- How a mask is read. -/
inductive Direction
  | output
  | input
  | index
deriving DecidableEq

/-- The domain of a direction. -/
def Direction.domain : Direction → Domain
  | .output => .outputChannelMask
  | .input => .inputChannelMask
  | .index => .indexChannelMask

/-- The masks of outputs. -/
def outputRows : List (Entry ChannelMask) :=
  [
    .canonical "AUDIO_CHANNEL_NONE" .none,
    .canonical "AUDIO_CHANNEL_OUT_MONO" .outMono,
    .canonical "AUDIO_CHANNEL_OUT_STEREO" .outStereo,
    .canonical "AUDIO_CHANNEL_OUT_2POINT1" .out2Point1,
    .canonical "AUDIO_CHANNEL_OUT_TRI" .outTri,
    .canonical "AUDIO_CHANNEL_OUT_TRI_BACK" .outTriBack,
    .canonical "AUDIO_CHANNEL_OUT_3POINT1" .out3Point1,
    .canonical "AUDIO_CHANNEL_OUT_2POINT0POINT2" .out2Point0Point2,
    .canonical "AUDIO_CHANNEL_OUT_2POINT1POINT2" .out2Point1Point2,
    .canonical "AUDIO_CHANNEL_OUT_3POINT0POINT2" .out3Point0Point2,
    .canonical "AUDIO_CHANNEL_OUT_3POINT1POINT2" .out3Point1Point2,
    .canonical "AUDIO_CHANNEL_OUT_QUAD" .outQuad,
    .canonical "AUDIO_CHANNEL_OUT_QUAD_SIDE" .outQuadSide,
    .canonical "AUDIO_CHANNEL_OUT_SURROUND" .outSurround,
    .canonical "AUDIO_CHANNEL_OUT_PENTA" .outPenta,
    .canonical "AUDIO_CHANNEL_OUT_5POINT1" .out5Point1,
    .canonical "AUDIO_CHANNEL_OUT_5POINT1_SIDE" .out5Point1Side,
    .canonical "AUDIO_CHANNEL_OUT_5POINT1POINT2" .out5Point1Point2,
    .canonical "AUDIO_CHANNEL_OUT_5POINT1POINT4" .out5Point1Point4,
    .canonical "AUDIO_CHANNEL_OUT_6POINT1" .out6Point1,
    .canonical "AUDIO_CHANNEL_OUT_7POINT1" .out7Point1,
    .canonical "AUDIO_CHANNEL_OUT_7POINT1POINT2" .out7Point1Point2,
    .canonical "AUDIO_CHANNEL_OUT_7POINT1POINT4" .out7Point1Point4,
    .canonical "AUDIO_CHANNEL_OUT_MONO_HAPTIC_A" .outMonoHapticA,
    .canonical "AUDIO_CHANNEL_OUT_STEREO_HAPTIC_A" .outStereoHapticA,
    .canonical "AUDIO_CHANNEL_OUT_HAPTIC_AB" .outHapticAb,
    .canonical "AUDIO_CHANNEL_OUT_MONO_HAPTIC_AB" .outMonoHapticAb,
    .canonical "AUDIO_CHANNEL_OUT_STEREO_HAPTIC_AB" .outStereoHapticAb,
    .legacy "AUDIO_CHANNEL_OUT_5POINT1_BACK" .out5Point1Back,
    .legacy "AUDIO_CHANNEL_OUT_QUAD_BACK" .outQuadBack,
    .sentinel "AUDIO_CHANNEL_OUT_ALL" .outAll,
    .sentinel "AUDIO_CHANNEL_INVALID" .invalid]

/-- The masks of inputs. -/
def inputRows : List (Entry ChannelMask) :=
  [
    .canonical "AUDIO_CHANNEL_NONE" .none,
    .canonical "AUDIO_CHANNEL_IN_MONO" .inMono,
    .canonical "AUDIO_CHANNEL_IN_STEREO" .inStereo,
    .canonical "AUDIO_CHANNEL_IN_FRONT_BACK" .inFrontBack,
    .canonical "AUDIO_CHANNEL_IN_6" .in6,
    .canonical "AUDIO_CHANNEL_IN_2POINT0POINT2" .in2Point0Point2,
    .canonical "AUDIO_CHANNEL_IN_2POINT1POINT2" .in2Point1Point2,
    .canonical "AUDIO_CHANNEL_IN_3POINT0POINT2" .in3Point0Point2,
    .canonical "AUDIO_CHANNEL_IN_3POINT1POINT2" .in3Point1Point2,
    .canonical "AUDIO_CHANNEL_IN_5POINT1" .in5Point1,
    .canonical "AUDIO_CHANNEL_IN_VOICE_UPLINK_MONO" .inVoiceUplinkMono,
    .canonical "AUDIO_CHANNEL_IN_VOICE_DNLINK_MONO" .inVoiceDnlinkMono,
    .canonical "AUDIO_CHANNEL_IN_VOICE_CALL_MONO" .inVoiceCallMono,
    .sentinel "AUDIO_CHANNEL_IN_ALL" .inAll,
    .sentinel "AUDIO_CHANNEL_INVALID" .invalid]

/-- The masks of numbered channels that have names. -/
def namedIndexMasks : List (Entry ChannelMask) :=
  (List.range namedCapacity).map fun (n : Nat) =>
    .canonical ("AUDIO_CHANNEL_INDEX_MASK_" ++ Text.digits 10 (n + 1)) (lowest (.ofNat (n + 1)))

/-- The masks of numbered channels. -/
def indexRows : List (Entry ChannelMask) :=
  .canonical "AUDIO_CHANNEL_NONE" .none :: namedIndexMasks ++
    [.sentinel "AUDIO_CHANNEL_INVALID" .invalid]

/-- The names of masks in a direction. -/
def table (d : Direction) : Table ChannelMask where
  domain := d.domain
  rows := match d with
    | .output => outputRows
    | .input => inputRows
    | .index => indexRows
  frameworkRows := []

/-- The symbol of a mask in a direction, where it has one. -/
def symbol? (m : ChannelMask) (d : Direction) : Option String :=
  (table d).project m

/-- The mask of a symbol or older symbol in a direction. -/
def ofSymbol? (b : Build) (d : Direction) (symbol : String) : Option ChannelMask :=
  (table d).parse b symbol

/-- A mask for people: always its number, because without a direction no name can be trusted. -/
def display (m : ChannelMask) : String :=
  Text.hexadecimal m.bits.toNat

/-- A mask for developers. -/
def describe (m : ChannelMask) : String :=
  "AudioChannelMask(" ++ Text.decimal (RawValue.toRaw m) ++ ")"

/-- What the symbols of masks begin with. -/
def stem : String :=
  "AUDIO_CHANNEL_"

/-- The masks and numbers that programs name, with their names. -/
def constants : List (String × Int) :=
  (table .output).constants stem ++ (table .input).constants stem ++
    (table .index).constants stem ++
    (outputChannels ++ inputChannels ++
      [("OUT_5POINT1_BACK", out5Point1Back), ("OUT_QUAD_BACK", outQuadBack),
        ("HAPTIC_ALL", hapticAll)]).map (fun c => (c.1, RawValue.toRaw c.2)) ++
    [("COUNT_MAX", (capacity : Int)), ("INDEX_HDR", RawValue.toRaw indexTag),
      ("PAYLOAD_MASK", RawValue.toRaw payloadBits), ("INDEX_MASK_MAX", (namedCapacity : Int))]

end AudioHal.ChannelMask
