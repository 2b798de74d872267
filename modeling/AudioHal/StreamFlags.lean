import AudioHal.Bits
import AudioHal.Nameable

/-! # Stream flags

How a stream asks to be treated, as sets of bits. Only single flags have symbols; a set of several
is written as a number. The same bit means different things for the two directions.

* `OutputFlags`, `InputFlags`: the two kinds of set.
* `OutputFlags.union`, `OutputFlags.unionAll`, `OutputFlags.contains`, likewise for inputs: the
  operations on sets.
-/

set_option autoImplicit false

namespace AudioHal

/-! ## Outputs -/

/-- A set of flags of an output stream. -/
structure OutputFlags where
  bits : UInt32
deriving DecidableEq

namespace OutputFlags

instance : RawValue OutputFlags :=
  .wrap mk bits (fun _ => rfl) (fun _ => rfl)

protected def none : OutputFlags := ⟨0x0⟩

/-- Straight through, unmixed. -/
def direct : OutputFlags := ⟨0x1⟩

def primary : OutputFlags := ⟨0x2⟩

/-- The fast path, of low latency. -/
def fast : OutputFlags := ⟨0x4⟩

def deepBuffer : OutputFlags := ⟨0x8⟩

/-- Compressed data, decoded elsewhere. -/
def compressOffload : OutputFlags := ⟨0x10⟩

def nonBlocking : OutputFlags := ⟨0x20⟩

/-- Synchronised with the picture by hardware. -/
def hwAvSync : OutputFlags := ⟨0x40⟩

/-- Synthesised speech. -/
def tts : OutputFlags := ⟨0x80⟩

def raw : OutputFlags := ⟨0x100⟩
def sync : OutputFlags := ⟨0x200⟩

/-- A payload that is not audio. -/
def iec958Nonaudio : OutputFlags := ⟨0x400⟩

def directPcm : OutputFlags := ⟨0x2000⟩

/-- Mapped memory without interrupts. -/
def mmapNoirq : OutputFlags := ⟨0x4000⟩

/-- The downlink of an internet call. -/
def voipRx : OutputFlags := ⟨0x8000⟩

def incallMusic : OutputFlags := ⟨0x10000⟩
def gaplessOffload : OutputFlags := ⟨0x20000⟩

instance : Inhabited OutputFlags := ⟨.none⟩

/-- The flags of either set. -/
def union (a b : OutputFlags) : OutputFlags :=
  ⟨a.bits ||| b.bits⟩

instance : OrOp OutputFlags := ⟨union⟩

/-- The flags of all sets of a list. -/
def unionAll (sets : List OutputFlags) : OutputFlags :=
  sets.foldl union .none

/-- Whether every flag of `b` is in `a`. -/
def contains (a b : OutputFlags) : Bool :=
  Bits.contains a.bits b.bits

/-- The rows of every build. -/
def rows : List (Entry OutputFlags) :=
  [
    .canonical "AUDIO_OUTPUT_FLAG_NONE" .none,
    .canonical "AUDIO_OUTPUT_FLAG_DIRECT" .direct,
    .canonical "AUDIO_OUTPUT_FLAG_PRIMARY" .primary,
    .canonical "AUDIO_OUTPUT_FLAG_FAST" .fast,
    .canonical "AUDIO_OUTPUT_FLAG_DEEP_BUFFER" .deepBuffer,
    .canonical "AUDIO_OUTPUT_FLAG_COMPRESS_OFFLOAD" .compressOffload,
    .canonical "AUDIO_OUTPUT_FLAG_NON_BLOCKING" .nonBlocking,
    .canonical "AUDIO_OUTPUT_FLAG_HW_AV_SYNC" .hwAvSync,
    .canonical "AUDIO_OUTPUT_FLAG_TTS" .tts,
    .canonical "AUDIO_OUTPUT_FLAG_RAW" .raw,
    .canonical "AUDIO_OUTPUT_FLAG_SYNC" .sync,
    .canonical "AUDIO_OUTPUT_FLAG_IEC958_NONAUDIO" .iec958Nonaudio,
    .canonical "AUDIO_OUTPUT_FLAG_DIRECT_PCM" .directPcm,
    .canonical "AUDIO_OUTPUT_FLAG_MMAP_NOIRQ" .mmapNoirq,
    .canonical "AUDIO_OUTPUT_FLAG_VOIP_RX" .voipRx,
    .canonical "AUDIO_OUTPUT_FLAG_INCALL_MUSIC" .incallMusic,
    .canonical "AUDIO_OUTPUT_FLAG_GAPLESS_OFFLOAD" .gaplessOffload]

instance : Nameable OutputFlags where
  typeName := "AudioOutputFlags"
  stem := "AUDIO_OUTPUT_FLAG_"
  numeral a := Text.hexadecimal a.bits.toNat
  table _ := ⟨.outputFlag, rows, []⟩

end OutputFlags

/-! ## Inputs -/

/-- A set of flags of an input stream. -/
structure InputFlags where
  bits : UInt32
deriving DecidableEq

namespace InputFlags

instance : RawValue InputFlags :=
  .wrap mk bits (fun _ => rfl) (fun _ => rfl)

protected def none : InputFlags := ⟨0x0⟩
def fast : InputFlags := ⟨0x1⟩

/-- A wake word found by hardware. -/
def hwHotword : InputFlags := ⟨0x2⟩

def raw : InputFlags := ⟨0x4⟩
def sync : InputFlags := ⟨0x8⟩
def mmapNoirq : InputFlags := ⟨0x10⟩

/-- The uplink of an internet call. -/
def voipTx : InputFlags := ⟨0x20⟩

def hwAvSync : InputFlags := ⟨0x40⟩
def direct : InputFlags := ⟨0x80⟩

instance : Inhabited InputFlags := ⟨.none⟩

/-- The flags of either set. -/
def union (a b : InputFlags) : InputFlags :=
  ⟨a.bits ||| b.bits⟩

instance : OrOp InputFlags := ⟨union⟩

/-- The flags of all sets of a list. -/
def unionAll (sets : List InputFlags) : InputFlags :=
  sets.foldl union .none

/-- Whether every flag of `b` is in `a`. -/
def contains (a b : InputFlags) : Bool :=
  Bits.contains a.bits b.bits

/-- The rows of every build. -/
def rows : List (Entry InputFlags) :=
  [
    .canonical "AUDIO_INPUT_FLAG_NONE" .none,
    .canonical "AUDIO_INPUT_FLAG_FAST" .fast,
    .canonical "AUDIO_INPUT_FLAG_HW_HOTWORD" .hwHotword,
    .canonical "AUDIO_INPUT_FLAG_RAW" .raw,
    .canonical "AUDIO_INPUT_FLAG_SYNC" .sync,
    .canonical "AUDIO_INPUT_FLAG_MMAP_NOIRQ" .mmapNoirq,
    .canonical "AUDIO_INPUT_FLAG_VOIP_TX" .voipTx,
    .canonical "AUDIO_INPUT_FLAG_HW_AV_SYNC" .hwAvSync,
    .canonical "AUDIO_INPUT_FLAG_DIRECT" .direct]

instance : Nameable InputFlags where
  typeName := "AudioInputFlags"
  stem := "AUDIO_INPUT_FLAG_"
  numeral a := Text.hexadecimal a.bits.toNat
  table _ := ⟨.inputFlag, rows, []⟩

end InputFlags

end AudioHal
