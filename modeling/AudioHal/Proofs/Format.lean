import AudioHal.Proofs.Bits.Count
import AudioHal.Proofs.Catalog
import Mathlib

/-! # Formats as pairs

A format is the pair of its main class and its sub-format. Nothing is lost in taking it apart, and
what is written to the sub-format never reaches the class. The names follow the split: a named
format that is not linear has the name of its class, and after it a name for the sub-format if there
is one.

* `Format.mainClass_withSub`, `Format.toNat_sub_withSub`: what the two fields of a composed format
  are.
* `Format.eq_iff`: a format is determined by its fields.
* `Format.isLinear_iff`: linear samples take the lowest numbers.
* `Format.symbol?_mainClass`: the class of a named format is named.
* `Format.split_lossless`: all of it.
-/

set_option autoImplicit false

namespace AudioHal.Format

variable {b : Build} {f g : Format} {s t : UInt32} {i : Nat}

/-! ## Fields -/

theorem testBit_mainBits (hi : i < 32) : mainBits.toNat.testBit i ↔ 24 ≤ i := by
  have hmain : mainBits.toNat = 2 ^ 24 * (2 ^ 8 - 1) := rfl
  rw [hmain, Nat.testBit_two_pow_mul, Nat.testBit_two_pow_sub_one, Bool.and_eq_true,
    decide_eq_true_eq, decide_eq_true_eq]
  omega

theorem toNat_subBits : subBits.toNat = 2 ^ 24 - 1 :=
  rfl

theorem testBit_subBits : subBits.toNat.testBit i ↔ i < 24 := by
  rw [toNat_subBits, Nat.testBit_two_pow_sub_one, decide_eq_true_eq]

theorem testBit_mainClass :
    f.mainClass.bits.toNat.testBit i ↔ f.bits.toNat.testBit i ∧ 24 ≤ i := by
  rw [mainClass, Bits.testBit_and, Bool.and_eq_true]
  exact and_congr_right fun h => testBit_mainBits (Bits.lt_of_testBit h)

theorem testBit_sub : f.sub.toNat.testBit i ↔ f.bits.toNat.testBit i ∧ i < 24 := by
  rw [sub, Bits.testBit_and, Bool.and_eq_true, testBit_subBits]

theorem testBit_withSub : (f.withSub s).bits.toNat.testBit i ↔
    f.bits.toNat.testBit i ∧ 24 ≤ i ∨ s.toNat.testBit i ∧ i < 24 := by
  rw [← testBit_mainClass, ← testBit_subBits, withSub, Bits.testBit_or, Bits.testBit_and s,
    Bool.or_eq_true, Bool.and_eq_true, mainClass]

theorem testBit_withSub_of_lt (hi : i < 24) :
    (f.withSub s).bits.toNat.testBit i ↔ s.toNat.testBit i := by
  rw [testBit_withSub, and_iff_left hi]
  exact or_iff_right fun h => by omega

theorem testBit_withSub_of_le (hi : 24 ≤ i) :
    (f.withSub s).bits.toNat.testBit i ↔ f.bits.toNat.testBit i := by
  rw [testBit_withSub, and_iff_left hi]
  exact or_iff_left fun h => by omega

theorem ext_testBit (h : ∀ i, f.bits.toNat.testBit i ↔ g.bits.toNat.testBit i) : f = g :=
  congrArg mk (Bits.eq_of_testBit h)

/-! ## Composing and taking apart -/

/-- The class is out of reach of the sub-format. -/
theorem mainClass_withSub (f : Format) (s : UInt32) : (f.withSub s).mainClass = f.mainClass := by
  apply ext_testBit
  intro i
  rw [testBit_mainClass, testBit_mainClass]
  exact and_congr_left testBit_withSub_of_le

theorem sub_withSub (f : Format) (s : UInt32) : (f.withSub s).sub = s &&& subBits := by
  apply Bits.eq_of_testBit
  intro i
  rw [testBit_sub, Bits.testBit_and, Bool.and_eq_true, testBit_subBits]
  exact and_congr_left testBit_withSub_of_lt

theorem toNat_sub_withSub (f : Format) (s : UInt32) :
    (f.withSub s).sub.toNat = s.toNat % 2 ^ 24 := by
  rw [sub_withSub, UInt32.toNat_and, toNat_subBits, Nat.and_two_pow_sub_one_eq_mod]

theorem mainClass_withSub_sub (f : Format) : f.mainClass.withSub f.sub = f := by
  apply ext_testBit
  intro i
  rcases Nat.lt_or_ge i 24 with hi | hi
  · rw [testBit_withSub_of_lt hi, testBit_sub, and_iff_left hi]
  · rw [testBit_withSub_of_le hi, testBit_mainClass, and_iff_left hi]

/-- Formats with the same fields are the same, for they are composed of them. -/
theorem eq_iff : f = g ↔ f.mainClass = g.mainClass ∧ f.sub = g.sub := by
  refine ⟨fun h => ?_, fun h => ?_⟩
  · rw [h]
    exact ⟨rfl, rfl⟩
  · rw [← mainClass_withSub_sub f, ← mainClass_withSub_sub g, h.1, h.2]

theorem withSub_withSub (f : Format) (s t : UInt32) :
    (f.withSub s).withSub t = f.withSub t := by
  rw [eq_iff]
  simp only [mainClass_withSub, sub_withSub, and_self]

theorem sharesSub_iff : f.sharesSub g ↔ f = g := by
  rw [sharesSub, Bool.and_eq_true, beq_iff_eq, beq_iff_eq, ← eq_iff]

theorem isLinear_iff : f.isLinear ↔ f.bits.toNat < 2 ^ 24 := by
  have hclass : f.mainClass = pcm ↔ ∀ i, ¬(f.bits.toNat.testBit i ∧ 24 ≤ i) := by
    simp only [← testBit_mainClass, ← Bits.eq_zero_iff]
    exact ⟨congrArg bits, congrArg mk⟩
  rw [isLinear, beq_iff_eq, hclass]
  refine ⟨fun h => Nat.lt_pow_two_of_testBit _ fun i hi => ?_, fun h i hi => ?_⟩
  · exact Bool.eq_false_iff.2 fun hb => h i ⟨hb, hi⟩
  · have hlt := Nat.lt_of_lt_of_le h (Nat.pow_le_pow_right (by decide) hi.2)
    rw [Nat.testBit_lt_two_pow hlt] at hi
    cases hi.1

/-! ## Symbols -/

/-- The names of formats do not depend on the build. -/
theorem symbol?_eq_some_iff {c : String} : Nameable.symbol? b f = some c ↔
    ∃ e ∈ (Nameable.table .framework : Table Format).canonical, e.value = f ∧ e.symbol = c :=
  Table.project_eq_some_iff (Domain.table_wellFormed .framework .format).valuesUnique

theorem exists_suffix {p c : String} (h : p.toList <+: c.toList) (hne : p ≠ c) :
    ∃ suffix, suffix ≠ "" ∧ c = p ++ suffix := by
  obtain ⟨cs, hcs⟩ := h
  refine ⟨.ofList cs, fun hempty => hne ?_, ?_⟩
  · rw [← String.toList_inj, ← hcs, String.ofList_eq_empty_iff.1 hempty, List.append_nil]
  · rw [← String.toList_inj, String.toList_append, String.toList_ofList, hcs]

theorem exists_row_mainClass :
    ∀ e ∈ (Nameable.table .framework : Table Format).canonical, ¬e.value.isLinear →
      ∃ c ∈ (Nameable.table .framework : Table Format).canonical, c.value = e.value.mainClass ∧
        (e.value.sub = 0 ∧ e.symbol = c.symbol ∨
          e.value.sub ≠ 0 ∧ (c.symbol ++ "_").toList <+: e.symbol.toList ∧
            c.symbol ++ "_" ≠ e.symbol) := by
  decide +kernel

theorem symbol?_mainClass {c : String} (h : Nameable.symbol? b f = some c) (hf : ¬f.isLinear) :
    ∃ main, Nameable.symbol? b f.mainClass = some main ∧
      (f.sub = 0 ∧ c = main ∨
        f.sub ≠ 0 ∧ ∃ suffix, suffix ≠ "" ∧ c = main ++ "_" ++ suffix) := by
  obtain ⟨e, he, rfl, rfl⟩ := symbol?_eq_some_iff.1 h
  obtain ⟨m, hm, hv, hs⟩ := exists_row_mainClass e he hf
  refine ⟨m.symbol, symbol?_eq_some_iff.2 ⟨m, hm, hv, rfl⟩, hs.imp_right fun hs => ?_⟩
  obtain ⟨hsub, hprefix, hne⟩ := hs
  exact ⟨hsub, exists_suffix hprefix hne⟩

/-- **The main class and the sub-format of a format are a lossless pair of fields.** Writing the
sub-format keeps the class and replaces whatever was written before, by what fits into 24 bits;
and a format is composed of its own fields, so that two formats which share them are equal. The
class of linear samples is the formats below `2 ^ 24`. A named format of any other class has the
name of the class, with a suffix exactly if it has a sub-format. -/
theorem split_lossless :
    (∀ (f : Format) (s : UInt32),
      (f.withSub s).mainClass = f.mainClass ∧ (f.withSub s).sub.toNat = s.toNat % 2 ^ 24) ∧
    (∀ f : Format, f.mainClass.withSub f.sub = f) ∧
    (∀ (f : Format) (s t : UInt32), (f.withSub s).withSub t = f.withSub t) ∧
    (∀ f g : Format, f.sharesSub g ↔ f = g) ∧
    (∀ f : Format, f.isLinear ↔ f.bits.toNat < 2 ^ 24) ∧
    ∀ (b : Build) (f : Format) (c : String), Nameable.symbol? b f = some c → ¬f.isLinear →
      ∃ main, Nameable.symbol? b f.mainClass = some main ∧
        (f.sub = 0 ∧ c = main ∨
          f.sub ≠ 0 ∧ ∃ suffix, suffix ≠ "" ∧ c = main ++ "_" ++ suffix) :=
  ⟨fun f s => ⟨mainClass_withSub f s, toNat_sub_withSub f s⟩, mainClass_withSub_sub,
    withSub_withSub, fun _ _ => sharesSub_iff, fun _ => isLinear_iff,
    fun _ _ _ => symbol?_mainClass⟩

/-- The low complexity profile is named after the transport that carries it. -/
theorem aacAdtsLc_split_lossless :
    Nameable.symbol? .vendor aacAdtsLc = some "AUDIO_FORMAT_AAC_ADTS_LC" ∧ ¬aacAdtsLc.isLinear ∧
      ∃ suffix, suffix ≠ "" ∧
        "AUDIO_FORMAT_AAC_ADTS_LC" = "AUDIO_FORMAT_AAC_ADTS" ++ "_" ++ suffix := by
  have hs : Nameable.symbol? .vendor aacAdtsLc = some "AUDIO_FORMAT_AAC_ADTS_LC" := by
    decide +kernel
  have hmain : Nameable.symbol? .vendor aacAdtsLc.mainClass = some "AUDIO_FORMAT_AAC_ADTS" := by
    decide +kernel
  have hf : ¬aacAdtsLc.isLinear := by decide
  obtain ⟨-, -, -, -, -, hname⟩ := split_lossless
  obtain ⟨main, h, hsub⟩ := hname .vendor aacAdtsLc _ hs hf
  obtain rfl : "AUDIO_FORMAT_AAC_ADTS" = main := Option.some.inj (hmain.symm.trans h)
  rcases hsub with ⟨h0, -⟩ | ⟨-, hsuffix⟩
  · exact absurd h0 (by decide)
  · exact ⟨hs, hf, hsuffix⟩

end AudioHal.Format
