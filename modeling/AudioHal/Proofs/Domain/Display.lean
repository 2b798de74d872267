import AudioHal.Proofs.Domain.Raw
import AudioHal.Proofs.Text.Numeral

/-! # Values for people

A value is displayed by its symbol, or by its number if it has none in the build. Nobody can mistake
the one for the other, because symbols begin with a letter and numerals do not.

* `Domain.parseWith_numeral`: no numeral is a symbol, in any domain and any build.
* `NamedType.numeral_eq`, `NamedType.numeral_inj`: the notation of a type, and that it tells values
  apart.
* `NamedType.read_display`, `NamedType.read_numeral`: what is displayed can be read again as far as
  it is a symbol.
* `display_readable`: hence what is displayed tells values apart, with masks, which are always
  displayed by number.
-/

set_option autoImplicit false

namespace AudioHal

open RawValue Text

/-! ## Symbols and numerals -/

namespace Domain

variable {b : Build} {d : Domain} {s : String}

theorem head_symbol_framework (d : Domain) :
    ∀ e ∈ (d.table .framework).entries, e.symbol.toList.head? = some 'A' := by
  cases d <;> decide +kernel

theorem mem_table_framework {e : Entry d.Carrier} (he : e ∈ (d.table b).entries) :
    e ∈ (d.table .framework).entries := by
  cases hb : b.visibility with
  | vendor =>
    rw [table_eq_vendorPart hb, Table.vendorPart_entries] at he
    exact Table.mem_entries_of_rows he
  | framework =>
    cases b with
    | framework => exact he
    | vendor | freestanding => cases hb

theorem parseWith_numeral (hs : IsNumeral s) (b : Build) (d : Domain) (v : Visibility) :
    (d.table b).parseWith s v = none := by
  refine Table.parseWith_eq_none_iff.2 fun e he _ heq => ?_
  obtain ⟨c, cs, hl, hc⟩ := hs.head
  have hhead := head_symbol_framework d e (mem_table_framework he)
  rw [heq, hl, List.head?_cons] at hhead
  obtain rfl := Option.some.inj hhead
  rcases hc with hc | hc
  · cases hc
  · cases hc

theorem parse_numeral (hs : IsNumeral s) (b : Build) (d : Domain) : d.parse b s = none := by
  rw [parse, parseWith, parseWith_numeral hs, Option.map_none]

end Domain

/-! ## Types with one table -/

namespace NamedType

variable {b : Build} {t : NamedType} {s : String} {a a' : t.Carrier}

/-- The types whose values are sets of bits have their numbers displayed in base sixteen. -/
def isHexadecimal : NamedType → Bool
  | .device => true
  | .outputFlags => true
  | .inputFlags => true
  | .format => true
  | .gainMode => true
  | _ => false

theorem numeral_eq (a : t.Carrier) : Nameable.numeral a =
    if t.isHexadecimal then hexadecimal (toRaw a).toNat else decimal (toRaw a) := by
  cases t <;> rfl

theorem isNumeral_numeral (a : t.Carrier) : IsNumeral (Nameable.numeral a) := by
  rw [numeral_eq]
  split
  · exact .inr ⟨_, rfl⟩
  · exact .inl ⟨_, rfl⟩

theorem toRaw_nonneg (h : t.isHexadecimal) (a : t.Carrier) : 0 ≤ toRaw a := by
  have hsign : t.domain.isSigned = false := by
    cases t <;> first | rfl | cases h
  have hfits : t.domain.Fits (toRaw a) := Domain.fits_iff.2 ⟨a, rfl⟩
  simp only [Domain.Fits, hsign] at hfits
  exact hfits.1

theorem numeral_inj (h : Nameable.numeral a = Nameable.numeral a') : a = a' := by
  rw [numeral_eq, numeral_eq] at h
  split at h
  · rename_i hx
    have hn := hexadecimal_inj h
    have h0 := toRaw_nonneg hx a
    have h0' := toRaw_nonneg hx a'
    exact toRaw_inj.1 (by omega)
  · exact toRaw_inj.1 (decimal_inj h)

theorem display_of_symbol? (h : Nameable.symbol? b a = some s) : Nameable.display b a = s := by
  rw [Nameable.display, h, Option.getD_some]

theorem display_of_unnamed (h : Nameable.symbol? b a = none) :
    Nameable.display b a = Nameable.numeral a := by
  rw [Nameable.display, h, Option.getD_none]

theorem read_display (h : Nameable.symbol? b a = some s) :
    Nameable.read b (Nameable.display b a) = .ok a := by
  rw [display_of_symbol? h, read_eq_ok_iff]
  refine Domain.parse_of_project ?_
  rw [(Domain.shows_namedType b t).project, h]

theorem read_numeral (hs : IsNumeral s) :
    (Nameable.read b s : Except UnknownSymbol t.Carrier) = .error ⟨t.domain, s⟩ :=
  read_eq_error_iff.2 ⟨Domain.parse_numeral hs b t.domain, rfl⟩

theorem display_eq_numeral_iff :
    Nameable.display b a = Nameable.numeral a' ↔ Nameable.symbol? b a = none ∧ a = a' := by
  constructor
  · intro h
    cases hs : Nameable.symbol? b a with
    | some s =>
      have hread := read_display hs
      rw [h, read_numeral (isNumeral_numeral a')] at hread
      cases hread
    | none =>
      rw [display_of_unnamed hs] at h
      exact ⟨rfl, numeral_inj h⟩
  · rintro ⟨hs, rfl⟩
    exact display_of_unnamed hs

theorem display_inj (h : Nameable.display b a = Nameable.display b a') : a = a' := by
  cases hs : Nameable.symbol? b a with
  | none =>
    rw [display_of_unnamed hs] at h
    exact (display_eq_numeral_iff.1 h.symm).2.symm
  | some s =>
    cases hs' : Nameable.symbol? b a' with
    | none =>
      rw [display_of_unnamed hs'] at h
      exact (display_eq_numeral_iff.1 h).2
    | some s' =>
      have hread := read_display hs
      rw [h, read_display hs'] at hread
      exact (Except.ok.inj hread).symm

end NamedType

/-! ## Masks -/

namespace ChannelMask

theorem display_inj {m m' : ChannelMask} (h : m.display = m'.display) : m = m' := by
  have hbits : m.bits = m'.bits := UInt32.toNat_inj.1 (hexadecimal_inj h)
  exact congrArg mk hbits

theorem parseWith_numeral {s : String} (hs : IsNumeral s) (d : Direction) (v : Visibility) :
    (table d).parseWith s v = none := by
  cases d with
  | output => exact Domain.parseWith_numeral hs .framework .outputChannelMask v
  | input => exact Domain.parseWith_numeral hs .framework .inputChannelMask v
  | index => exact Domain.parseWith_numeral hs .framework .indexChannelMask v

end ChannelMask

/-- **What is displayed tells values apart and can be read back where it is a symbol.** Two values of
a type with one table are displayed alike only if they are the same, in any build. A value with a
symbol is displayed by it, and reading it gives the value again. Any other value is displayed by its
number in the notation of its type, which is displayed for no other value, and which reading rejects
with the type's domain and that very text; so it rejects every numeral, whatever the visibility.
Masks are always displayed by number, which tells them apart too and is no symbol in any direction. -/
theorem display_readable (b : Build) :
    (∀ (t : NamedType) (a a' : t.Carrier),
      Nameable.display b a = Nameable.display b a' → a = a') ∧
    (∀ (t : NamedType) (a : t.Carrier) s, Nameable.symbol? b a = some s →
      Nameable.display b a = s ∧ Nameable.read b (Nameable.display b a) = .ok a) ∧
    (∀ (t : NamedType) (a : t.Carrier), Nameable.symbol? b a = none →
      Nameable.display b a = (if t.isHexadecimal then hexadecimal (toRaw a).toNat
        else decimal (toRaw a)) ∧
      (Nameable.read b (Nameable.display b a) : Except UnknownSymbol t.Carrier)
        = .error ⟨t.domain, Nameable.display b a⟩) ∧
    (∀ (t : NamedType) (a a' : t.Carrier),
      Nameable.display b a = Nameable.numeral a' ↔ Nameable.symbol? b a = none ∧ a = a') ∧
    (∀ (t : NamedType) s, IsNumeral s →
      ∀ v, (Nameable.ofSymbolWith? b s v : Option t.Carrier) = none) ∧
    (∀ m m' : ChannelMask, m.display = m'.display → m = m') ∧
    ∀ (m : ChannelMask) (d : ChannelMask.Direction),
      ChannelMask.ofSymbol? b d m.display = none := by
  refine ⟨fun t a a' => NamedType.display_inj,
    fun t a s h => ⟨NamedType.display_of_symbol? h, NamedType.read_display h⟩,
    fun t a h => ?unnamed, fun t a a' => NamedType.display_eq_numeral_iff,
    fun t s hs v => ?numeral, fun m m' => ChannelMask.display_inj,
    fun m d => ChannelMask.parseWith_numeral (.inr ⟨_, rfl⟩) d b.visibility⟩
  case unnamed =>
    have hn := NamedType.isNumeral_numeral a
    rw [NamedType.display_of_unnamed h]
    exact ⟨NamedType.numeral_eq a, NamedType.read_numeral hn⟩
  case numeral =>
    rw [Nameable.ofSymbolWith?, t.table_eq b]
    exact Domain.parseWith_numeral hs b t.domain v

/-- A usage of the framework's has a number in place of a symbol for the vendor, who cannot read it. -/
theorem notificationEvent_display_readable :
    let event : NamedType.usage.Carrier := Usage.notificationEvent
    Nameable.read .framework (Nameable.display .framework event) = .ok event ∧
      Nameable.display .vendor event = "10" ∧
      (Nameable.read .vendor "10" : Except UnknownSymbol NamedType.usage.Carrier)
        = .error ⟨.usage, "10"⟩ := by
  intro event
  obtain ⟨-, hsymbol, -⟩ := display_readable .framework
  obtain ⟨-, -, hnumber, -⟩ := display_readable .vendor
  have hs : Nameable.symbol? .framework event = some "AUDIO_USAGE_NOTIFICATION_EVENT" := by
    decide +kernel
  have hn : Nameable.symbol? .vendor event = none := by decide +kernel
  obtain ⟨hd, hr⟩ := hnumber .usage event hn
  have hten : Nameable.display .vendor event = "10" := hd.trans (by decide +kernel)
  rw [hten] at hr
  exact ⟨(hsymbol .usage event _ hs).2, hten, hr⟩

end AudioHal
