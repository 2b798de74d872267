import AudioHal.RawValue

/-! # Formats

How samples are laid out. The highest byte of a format is its main class; the three bytes below it
are a sub-format, which has a meaning within its class alone.

* `Format.withSub`, `Format.mainClass`, `Format.sub`: a format is the pair of the two.
* `Format.Pcm`, `Format.Aac`, `Format.EAc3`, `Format.Mat`, `Format.MpegH`: the sub-formats of
  each family, with their names.
-/

set_option autoImplicit false

namespace AudioHal

/-- A main class together with a sub-format. -/
structure Format where
  bits : UInt32
deriving DecidableEq

namespace Format

instance : RawValue Format :=
  .wrap mk bits (fun _ => rfl) (fun _ => rfl)

/-- The bits of the main class. -/
def mainBits : UInt32 := 0xFF000000

/-- The bits of the sub-format. -/
def subBits : UInt32 := 0x00FFFFFF

/-- A format of the same class with another sub-format; what does not fit is dropped. -/
def withSub (f : Format) (sub : UInt32) : Format :=
  ⟨(f.bits &&& mainBits) ||| (sub &&& subBits)⟩

/-- The main class alone. -/
def mainClass (f : Format) : Format :=
  ⟨f.bits &&& mainBits⟩

/-- The sub-format, for use within one class. -/
def sub (f : Format) : UInt32 :=
  f.bits &&& subBits

/-- Linear samples, without a sub-format. -/
def pcm : Format := ⟨0⟩

/-- Whether two formats agree in class and in sub-format. -/
def sharesSub (f g : Format) : Bool :=
  f.mainClass == g.mainClass && f.sub == g.sub

/-- Whether the samples are linear. -/
def isLinear (f : Format) : Bool :=
  f.mainClass == pcm

/-! ## Sub-formats of linear samples -/

namespace Pcm

def sub16Bit : UInt32 := 0x1
def sub8Bit : UInt32 := 0x2
def sub32Bit : UInt32 := 0x3
def sub8_24Bit : UInt32 := 0x4
def subFloat : UInt32 := 0x5
def sub24BitPacked : UInt32 := 0x6

/-- The sub-formats with their names. -/
def constants : List (String × Int) :=
  [("SUB_16_BIT", RawValue.toRaw sub16Bit),
    ("SUB_8_BIT", RawValue.toRaw sub8Bit),
    ("SUB_32_BIT", RawValue.toRaw sub32Bit),
    ("SUB_8_24_BIT", RawValue.toRaw sub8_24Bit),
    ("SUB_FLOAT", RawValue.toRaw subFloat),
    ("SUB_24_BIT_PACKED", RawValue.toRaw sub24BitPacked)]

end Pcm

/-! ## Sub-formats of the AAC family (plain, ADTS and LATM) -/

namespace Aac

def mainProfile : UInt32 := 0x1
def lc : UInt32 := 0x2
def ssr : UInt32 := 0x4
def ltp : UInt32 := 0x8
def heV1 : UInt32 := 0x10
def scalable : UInt32 := 0x20
def erlc : UInt32 := 0x40
def ld : UInt32 := 0x80
def heV2 : UInt32 := 0x100
def eld : UInt32 := 0x200
def xhe : UInt32 := 0x300

/-- The sub-formats with their names. -/
def constants : List (String × Int) :=
  [("MAIN", RawValue.toRaw mainProfile),
    ("LC", RawValue.toRaw lc),
    ("SSR", RawValue.toRaw ssr),
    ("LTP", RawValue.toRaw ltp),
    ("HE_V1", RawValue.toRaw heV1),
    ("SCALABLE", RawValue.toRaw scalable),
    ("ERLC", RawValue.toRaw erlc),
    ("LD", RawValue.toRaw ld),
    ("HE_V2", RawValue.toRaw heV2),
    ("ELD", RawValue.toRaw eld),
    ("XHE", RawValue.toRaw xhe)]

end Aac

/-! ## Sub-formats of E-AC3 -/

namespace EAc3

def joc : UInt32 := 0x1

/-- The sub-formats with their names. -/
def constants : List (String × Int) :=
  [("JOC", RawValue.toRaw joc)]

end EAc3

/-! ## Sub-formats of MAT -/

namespace Mat

def v1_0 : UInt32 := 0x1
def v2_0 : UInt32 := 0x2
def v2_1 : UInt32 := 0x3

/-- The sub-formats with their names. -/
def constants : List (String × Int) :=
  [("V1_0", RawValue.toRaw v1_0),
    ("V2_0", RawValue.toRaw v2_0),
    ("V2_1", RawValue.toRaw v2_1)]

end Mat

/-! ## Sub-formats of MPEG-H: a profile and a level -/

namespace MpegH

def blL3 : UInt32 := 0x13
def blL4 : UInt32 := 0x14
def lcL3 : UInt32 := 0x23
def lcL4 : UInt32 := 0x24

/-- The sub-formats with their names. -/
def constants : List (String × Int) :=
  [("BL_L3", RawValue.toRaw blL3),
    ("BL_L4", RawValue.toRaw blL4),
    ("LC_L3", RawValue.toRaw lcL3),
    ("LC_L4", RawValue.toRaw lcL4)]

end MpegH

end Format

end AudioHal
