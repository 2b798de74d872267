import AudioHal.Nameable
import AudioHal.Format.Basic

/-! # The named formats

Every main class with its sub-formats, and the table of their names. A format with a sub-format is
always composed of the two. Linear samples without a sub-format are the default format; the invalid
one has no symbol.
-/

set_option autoImplicit false

namespace AudioHal

namespace Format

/-- Not a format. -/
def invalid : Format := ⟨0xFFFFFFFF⟩

/-- No particular format. -/
protected def default : Format := ⟨0⟩

def pcm16Bit : Format := pcm.withSub Pcm.sub16Bit
def pcm8Bit : Format := pcm.withSub Pcm.sub8Bit
def pcm32Bit : Format := pcm.withSub Pcm.sub32Bit
def pcm8_24Bit : Format := pcm.withSub Pcm.sub8_24Bit
def pcmFloat : Format := pcm.withSub Pcm.subFloat
def pcm24BitPacked : Format := pcm.withSub Pcm.sub24BitPacked
def mp3 : Format := ⟨0x01000000⟩
def amrNb : Format := ⟨0x02000000⟩
def amrWb : Format := ⟨0x03000000⟩
def aac : Format := ⟨0x04000000⟩
def aacMain : Format := aac.withSub Aac.mainProfile
def aacLc : Format := aac.withSub Aac.lc
def aacSsr : Format := aac.withSub Aac.ssr
def aacLtp : Format := aac.withSub Aac.ltp
def aacHeV1 : Format := aac.withSub Aac.heV1
def aacScalable : Format := aac.withSub Aac.scalable
def aacErlc : Format := aac.withSub Aac.erlc
def aacLd : Format := aac.withSub Aac.ld
def aacHeV2 : Format := aac.withSub Aac.heV2
def aacEld : Format := aac.withSub Aac.eld
def aacXhe : Format := aac.withSub Aac.xhe
def heAacV1 : Format := ⟨0x05000000⟩
def heAacV2 : Format := ⟨0x06000000⟩
def vorbis : Format := ⟨0x07000000⟩
def opus : Format := ⟨0x08000000⟩
def ac3 : Format := ⟨0x09000000⟩
def eAc3 : Format := ⟨0x0A000000⟩
def eAc3Joc : Format := eAc3.withSub EAc3.joc
def dts : Format := ⟨0x0B000000⟩
def dtsHd : Format := ⟨0x0C000000⟩
def iec61937 : Format := ⟨0x0D000000⟩
def dolbyTruehd : Format := ⟨0x0E000000⟩
def evrc : Format := ⟨0x10000000⟩
def evrcb : Format := ⟨0x11000000⟩
def evrcwb : Format := ⟨0x12000000⟩
def evrcnw : Format := ⟨0x13000000⟩
def aacAdif : Format := ⟨0x14000000⟩
def wma : Format := ⟨0x15000000⟩
def wmaPro : Format := ⟨0x16000000⟩
def amrWbPlus : Format := ⟨0x17000000⟩
def mp2 : Format := ⟨0x18000000⟩
def qcelp : Format := ⟨0x19000000⟩
def dsd : Format := ⟨0x1A000000⟩
def flac : Format := ⟨0x1B000000⟩
def alac : Format := ⟨0x1C000000⟩
def ape : Format := ⟨0x1D000000⟩
def aacAdts : Format := ⟨0x1E000000⟩
def aacAdtsMain : Format := aacAdts.withSub Aac.mainProfile
def aacAdtsLc : Format := aacAdts.withSub Aac.lc
def aacAdtsSsr : Format := aacAdts.withSub Aac.ssr
def aacAdtsLtp : Format := aacAdts.withSub Aac.ltp
def aacAdtsHeV1 : Format := aacAdts.withSub Aac.heV1
def aacAdtsScalable : Format := aacAdts.withSub Aac.scalable
def aacAdtsErlc : Format := aacAdts.withSub Aac.erlc
def aacAdtsLd : Format := aacAdts.withSub Aac.ld
def aacAdtsHeV2 : Format := aacAdts.withSub Aac.heV2
def aacAdtsEld : Format := aacAdts.withSub Aac.eld
def aacAdtsXhe : Format := aacAdts.withSub Aac.xhe
def sbc : Format := ⟨0x1F000000⟩
def aptx : Format := ⟨0x20000000⟩
def aptxHd : Format := ⟨0x21000000⟩
def ac4 : Format := ⟨0x22000000⟩
def ldac : Format := ⟨0x23000000⟩
def mat : Format := ⟨0x24000000⟩
def mat1_0 : Format := mat.withSub Mat.v1_0
def mat2_0 : Format := mat.withSub Mat.v2_0
def mat2_1 : Format := mat.withSub Mat.v2_1
def aacLatm : Format := ⟨0x25000000⟩
def aacLatmLc : Format := aacLatm.withSub Aac.lc
def aacLatmHeV1 : Format := aacLatm.withSub Aac.heV1
def aacLatmHeV2 : Format := aacLatm.withSub Aac.heV2
def celt : Format := ⟨0x26000000⟩
def aptxAdaptive : Format := ⟨0x27000000⟩
def lhdc : Format := ⟨0x28000000⟩
def lhdcLl : Format := ⟨0x29000000⟩
def aptxTwsp : Format := ⟨0x2A000000⟩
def lc3 : Format := ⟨0x2B000000⟩
def mpegh : Format := ⟨0x2C000000⟩
def mpeghBlL3 : Format := mpegh.withSub MpegH.blL3
def mpeghBlL4 : Format := mpegh.withSub MpegH.blL4
def mpeghLcL3 : Format := mpegh.withSub MpegH.lcL3
def mpeghLcL4 : Format := mpegh.withSub MpegH.lcL4

instance : Inhabited Format := ⟨.default⟩

/-- The rows of every build. -/
def rows : List (Entry Format) :=
  [
    .sentinel "AUDIO_FORMAT_INVALID" .invalid,
    .canonical "AUDIO_FORMAT_DEFAULT" .default,
    .canonical "AUDIO_FORMAT_PCM_16_BIT" .pcm16Bit,
    .canonical "AUDIO_FORMAT_PCM_8_BIT" .pcm8Bit,
    .canonical "AUDIO_FORMAT_PCM_32_BIT" .pcm32Bit,
    .canonical "AUDIO_FORMAT_PCM_8_24_BIT" .pcm8_24Bit,
    .canonical "AUDIO_FORMAT_PCM_FLOAT" .pcmFloat,
    .canonical "AUDIO_FORMAT_PCM_24_BIT_PACKED" .pcm24BitPacked,
    .canonical "AUDIO_FORMAT_MP3" .mp3,
    .canonical "AUDIO_FORMAT_AMR_NB" .amrNb,
    .canonical "AUDIO_FORMAT_AMR_WB" .amrWb,
    .canonical "AUDIO_FORMAT_AAC" .aac,
    .canonical "AUDIO_FORMAT_AAC_MAIN" .aacMain,
    .canonical "AUDIO_FORMAT_AAC_LC" .aacLc,
    .canonical "AUDIO_FORMAT_AAC_SSR" .aacSsr,
    .canonical "AUDIO_FORMAT_AAC_LTP" .aacLtp,
    .canonical "AUDIO_FORMAT_AAC_HE_V1" .aacHeV1,
    .canonical "AUDIO_FORMAT_AAC_SCALABLE" .aacScalable,
    .canonical "AUDIO_FORMAT_AAC_ERLC" .aacErlc,
    .canonical "AUDIO_FORMAT_AAC_LD" .aacLd,
    .canonical "AUDIO_FORMAT_AAC_HE_V2" .aacHeV2,
    .canonical "AUDIO_FORMAT_AAC_ELD" .aacEld,
    .canonical "AUDIO_FORMAT_AAC_XHE" .aacXhe,
    .canonical "AUDIO_FORMAT_HE_AAC_V1" .heAacV1,
    .canonical "AUDIO_FORMAT_HE_AAC_V2" .heAacV2,
    .canonical "AUDIO_FORMAT_VORBIS" .vorbis,
    .canonical "AUDIO_FORMAT_OPUS" .opus,
    .canonical "AUDIO_FORMAT_AC3" .ac3,
    .canonical "AUDIO_FORMAT_E_AC3" .eAc3,
    .canonical "AUDIO_FORMAT_E_AC3_JOC" .eAc3Joc,
    .canonical "AUDIO_FORMAT_DTS" .dts,
    .canonical "AUDIO_FORMAT_DTS_HD" .dtsHd,
    .canonical "AUDIO_FORMAT_IEC61937" .iec61937,
    .canonical "AUDIO_FORMAT_DOLBY_TRUEHD" .dolbyTruehd,
    .canonical "AUDIO_FORMAT_EVRC" .evrc,
    .canonical "AUDIO_FORMAT_EVRCB" .evrcb,
    .canonical "AUDIO_FORMAT_EVRCWB" .evrcwb,
    .canonical "AUDIO_FORMAT_EVRCNW" .evrcnw,
    .canonical "AUDIO_FORMAT_AAC_ADIF" .aacAdif,
    .canonical "AUDIO_FORMAT_WMA" .wma,
    .canonical "AUDIO_FORMAT_WMA_PRO" .wmaPro,
    .canonical "AUDIO_FORMAT_AMR_WB_PLUS" .amrWbPlus,
    .canonical "AUDIO_FORMAT_MP2" .mp2,
    .canonical "AUDIO_FORMAT_QCELP" .qcelp,
    .canonical "AUDIO_FORMAT_DSD" .dsd,
    .canonical "AUDIO_FORMAT_FLAC" .flac,
    .canonical "AUDIO_FORMAT_ALAC" .alac,
    .canonical "AUDIO_FORMAT_APE" .ape,
    .canonical "AUDIO_FORMAT_AAC_ADTS" .aacAdts,
    .canonical "AUDIO_FORMAT_AAC_ADTS_MAIN" .aacAdtsMain,
    .canonical "AUDIO_FORMAT_AAC_ADTS_LC" .aacAdtsLc,
    .canonical "AUDIO_FORMAT_AAC_ADTS_SSR" .aacAdtsSsr,
    .canonical "AUDIO_FORMAT_AAC_ADTS_LTP" .aacAdtsLtp,
    .canonical "AUDIO_FORMAT_AAC_ADTS_HE_V1" .aacAdtsHeV1,
    .canonical "AUDIO_FORMAT_AAC_ADTS_SCALABLE" .aacAdtsScalable,
    .canonical "AUDIO_FORMAT_AAC_ADTS_ERLC" .aacAdtsErlc,
    .canonical "AUDIO_FORMAT_AAC_ADTS_LD" .aacAdtsLd,
    .canonical "AUDIO_FORMAT_AAC_ADTS_HE_V2" .aacAdtsHeV2,
    .canonical "AUDIO_FORMAT_AAC_ADTS_ELD" .aacAdtsEld,
    .canonical "AUDIO_FORMAT_AAC_ADTS_XHE" .aacAdtsXhe,
    .canonical "AUDIO_FORMAT_SBC" .sbc,
    .canonical "AUDIO_FORMAT_APTX" .aptx,
    .canonical "AUDIO_FORMAT_APTX_HD" .aptxHd,
    .canonical "AUDIO_FORMAT_AC4" .ac4,
    .canonical "AUDIO_FORMAT_LDAC" .ldac,
    .canonical "AUDIO_FORMAT_MAT" .mat,
    .canonical "AUDIO_FORMAT_MAT_1_0" .mat1_0,
    .canonical "AUDIO_FORMAT_MAT_2_0" .mat2_0,
    .canonical "AUDIO_FORMAT_MAT_2_1" .mat2_1,
    .canonical "AUDIO_FORMAT_AAC_LATM" .aacLatm,
    .canonical "AUDIO_FORMAT_AAC_LATM_LC" .aacLatmLc,
    .canonical "AUDIO_FORMAT_AAC_LATM_HE_V1" .aacLatmHeV1,
    .canonical "AUDIO_FORMAT_AAC_LATM_HE_V2" .aacLatmHeV2,
    .canonical "AUDIO_FORMAT_CELT" .celt,
    .canonical "AUDIO_FORMAT_APTX_ADAPTIVE" .aptxAdaptive,
    .canonical "AUDIO_FORMAT_LHDC" .lhdc,
    .canonical "AUDIO_FORMAT_LHDC_LL" .lhdcLl,
    .canonical "AUDIO_FORMAT_APTX_TWSP" .aptxTwsp,
    .canonical "AUDIO_FORMAT_LC3" .lc3,
    .canonical "AUDIO_FORMAT_MPEGH" .mpegh,
    .canonical "AUDIO_FORMAT_MPEGH_BL_L3" .mpeghBlL3,
    .canonical "AUDIO_FORMAT_MPEGH_BL_L4" .mpeghBlL4,
    .canonical "AUDIO_FORMAT_MPEGH_LC_L3" .mpeghLcL3,
    .canonical "AUDIO_FORMAT_MPEGH_LC_L4" .mpeghLcL4]

instance : Nameable Format where
  typeName := "AudioFormat"
  stem := "AUDIO_FORMAT_"
  numeral a := Text.hexadecimal a.bits.toNat
  table _ := ⟨.format, rows, []⟩
  further := [("PCM", RawValue.toRaw pcm), ("MAIN_MASK", RawValue.toRaw mainBits),
    ("SUB_MASK", RawValue.toRaw subBits)]

end Format

end AudioHal
