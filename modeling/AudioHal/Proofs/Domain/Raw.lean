import AudioHal.Proofs.Channel.Table

/-! # Raw numbers for typed values

A domain answers callers that hold unbounded integers. It shows them what the functions of its type
say, without letting a number outside the type's width pass for one inside.

* `Domain.Fits`, `Domain.fits_iff`: the numbers of a type are those that fit its 32 bits, with or
  without a sign.
* `Table.projectRaw`, `Table.parseRaw`: the two directions of any table on raw numbers, said of
  values by `Table.projectRaw_eq_some_iff` and `Table.parseRaw_eq_some_iff`; those of a domain are
  the ones of its table.
* `Domain.Shows`: what it means to show typed functions; `Domain.shows_namedType` and
  `Domain.shows_direction` for the nine types with one table and the three directions of masks.
* `Domain.parse_of_project`, `Domain.project_inj`: a symbol leads back to the number it came from.
* `raw_faithful`: all of it, with the complaints about unknown symbols.
-/

set_option autoImplicit false

namespace AudioHal

open RawValue

/-! ## Widths -/

theorem RawValue.exists_word_iff {r : Int} :
    (∃ n : UInt32, toRaw n = r) ↔ 0 ≤ r ∧ r < 0x100000000 := by
  constructor
  · rintro ⟨n, rfl⟩
    have h := n.toNat_lt
    simp only [toRaw]
    omega
  · rintro ⟨h0, h1⟩
    have h : (ofRaw? r : Option UInt32) = some (.ofNat r.toNat) :=
      if_pos ⟨h0, by simp only [UInt32.size]; omega⟩
    exact ⟨_, ofRaw?_eq_some_iff.1 h⟩

theorem RawValue.exists_signedWord_iff {r : Int} :
    (∃ n : Int32, toRaw n = r) ↔ -0x80000000 ≤ r ∧ r < 0x80000000 := by
  constructor
  · rintro ⟨n, rfl⟩
    have h0 := n.minValue_le_toInt
    have h1 := n.toInt_le
    simp only [Int32.toInt_minValue, Int32.toInt_maxValue] at h0 h1
    simp only [toRaw]
    omega
  · rintro ⟨h0, h1⟩
    have h : (ofRaw? r : Option Int32) = some (.ofInt r) :=
      if_pos (by simp only [Int32.toInt_minValue, Int32.toInt_maxValue]; omega)
    exact ⟨_, ofRaw?_eq_some_iff.1 h⟩

/-! ## Tables on raw numbers -/

namespace Table

variable {α : Type} [RawValue α] {t : Table α} {raw : Int} {s : String} {v : Visibility}

/-- The symbol of a number in a table, where it has one. -/
def projectRaw [DecidableEq α] (t : Table α) (raw : Int) : Option String :=
  (ofRaw? raw : Option α).bind t.project

/-- The number of a symbol in a table, seen with visibility `v`. -/
def parseRaw (t : Table α) (s : String) (v : Visibility) : Option Int :=
  (t.parseWith s v).map toRaw

theorem projectRaw_eq_some_iff [DecidableEq α] :
    t.projectRaw raw = some s ↔ ∃ a : α, toRaw a = raw ∧ t.project a = some s := by
  simp only [projectRaw, Option.bind_eq_some_iff, ofRaw?_eq_some_iff]

theorem parseRaw_eq_some_iff :
    t.parseRaw s v = some raw ↔ ∃ a : α, t.parseWith s v = some a ∧ toRaw a = raw := by
  simp only [parseRaw, Option.map_eq_some_iff]

end Table

/-! ## Domains -/

namespace Domain

/-- Whether the numbers of a domain have a sign. -/
def isSigned : Domain → Bool
  | .source => true
  | .streamType => true
  | _ => false

/-- A number fits the 32 bits of a domain's type. -/
def Fits (d : Domain) (raw : Int) : Prop :=
  if d.isSigned then -0x80000000 ≤ raw ∧ raw < 0x80000000 else 0 ≤ raw ∧ raw < 0x100000000

/-- The numbers that fit are the numbers of values. -/
theorem fits_iff {d : Domain} {raw : Int} : d.Fits raw ↔ ∃ a : d.Carrier, toRaw a = raw := by
  cases d with
  | source | streamType =>
    exact exists_signedWord_iff.symm.trans ⟨fun ⟨n, h⟩ => ⟨⟨n⟩, h⟩, fun ⟨a, h⟩ => ⟨a.code, h⟩⟩
  | contentType | usage =>
    exact exists_word_iff.symm.trans ⟨fun ⟨n, h⟩ => ⟨⟨n⟩, h⟩, fun ⟨a, h⟩ => ⟨a.code, h⟩⟩
  | outputChannelMask | inputChannelMask | indexChannelMask | device | outputFlag | inputFlag
  | format | gainMode =>
    exact exists_word_iff.symm.trans ⟨fun ⟨n, h⟩ => ⟨⟨n⟩, h⟩, fun ⟨a, h⟩ => ⟨a.bits, h⟩⟩

/-! ## The two directions -/

variable {b : Build} {d : Domain} {raw raw' : Int} {s : String} {v : Visibility}

theorem project_toRaw (b : Build) (d : Domain) (a : d.Carrier) :
    d.project b (toRaw a) = (d.table b).project a := by
  rw [project, ofRaw?_toRaw, Option.bind_some]

theorem project_eq_some_iff :
    d.project b raw = some s ↔ ∃ a : d.Carrier, toRaw a = raw ∧ (d.table b).project a = some s :=
  Table.projectRaw_eq_some_iff

theorem parseWith_eq_some_iff : d.parseWith b s v = some raw ↔
    ∃ a : d.Carrier, (d.table b).parseWith s v = some a ∧ toRaw a = raw :=
  Table.parseRaw_eq_some_iff

/-- A number outside the width has no symbol. -/
theorem project_eq_none (h : ¬d.Fits raw) : d.project b raw = none := by
  have hn : (ofRaw? raw : Option d.Carrier) = none :=
    ofRaw?_eq_none_iff.2 fun a ha => h (fits_iff.2 ⟨a, ha⟩)
  rw [project, hn, Option.bind_none]

theorem fits_of_parseWith (h : d.parseWith b s v = some raw) : d.Fits raw := by
  obtain ⟨a, -, ha⟩ := parseWith_eq_some_iff.1 h
  exact fits_iff.2 ⟨a, ha⟩

theorem parse_of_project (h : d.project b raw = some s) : d.parse b s = some raw := by
  obtain ⟨a, ha, hp⟩ := project_eq_some_iff.1 h
  exact parseWith_eq_some_iff.2 ⟨a, table_parse_of_project hp, ha⟩

theorem project_inj (h : d.project b raw = some s) (h' : d.project b raw' = some s) :
    raw = raw' := by
  have hp := parse_of_project h
  rw [parse_of_project h', Option.some.injEq] at hp
  exact hp.symm

/-! ## Typed functions -/

/-- The entry points of a domain show typed functions: the symbol of a value, the value of a symbol
seen with some visibility, and the value of a symbol as the build sees it. -/
structure Shows (b : Build) (d : Domain) {α : Type} [RawValue α] (symbol? : α → Option String)
    (ofSymbolWith? : String → Visibility → Option α) (ofSymbol? : String → Option α) : Prop where
  /-- The numbers that fit are those of the type. -/
  fits : ∀ raw, d.Fits raw ↔ ∃ a : α, toRaw a = raw
  /-- No other number has a symbol. -/
  outside : ∀ raw, ¬d.Fits raw → d.project b raw = none
  project : ∀ a : α, d.project b (toRaw a) = symbol? a
  parseWith : ∀ s v, d.parseWith b s v = (ofSymbolWith? s v).map toRaw
  parse : ∀ s, d.parse b s = (ofSymbol? s).map toRaw

theorem shows_table (b : Build) (d : Domain) :
    d.Shows b (d.table b).project (d.table b).parseWith ((d.table b).parse b) where
  fits _ := fits_iff
  outside _ := project_eq_none
  project := project_toRaw b d
  parseWith _ _ := rfl
  parse _ := rfl

theorem shows_namedType (b : Build) (t : NamedType) :
    t.domain.Shows b (Nameable.symbol? b : t.Carrier → Option String) (Nameable.ofSymbolWith? b)
      (Nameable.ofSymbol? b) := by
  have h := shows_table b t.domain
  rw [← t.table_eq b] at h
  exact h

theorem shows_direction (b : Build) (w : ChannelMask.Direction) :
    w.domain.Shows b (ChannelMask.symbol? · w) (ChannelMask.table w).parseWith
      (ChannelMask.ofSymbol? b w) := by
  cases w with
  | output => exact shows_table b .outputChannelMask
  | input => exact shows_table b .inputChannelMask
  | index => exact shows_table b .indexChannelMask

theorem namedType_or_direction (d : Domain) :
    (∃ t : NamedType, t.domain = d) ∨ ∃ w : ChannelMask.Direction, w.domain = d := by
  cases d with
  | outputChannelMask => exact .inr ⟨.output, rfl⟩
  | inputChannelMask => exact .inr ⟨.input, rfl⟩
  | indexChannelMask => exact .inr ⟨.index, rfl⟩
  | contentType => exact .inl ⟨.contentType, rfl⟩
  | device => exact .inl ⟨.device, rfl⟩
  | outputFlag => exact .inl ⟨.outputFlags, rfl⟩
  | inputFlag => exact .inl ⟨.inputFlags, rfl⟩
  | format => exact .inl ⟨.format, rfl⟩
  | gainMode => exact .inl ⟨.gainMode, rfl⟩
  | source => exact .inl ⟨.source, rfl⟩
  | streamType => exact .inl ⟨.streamType, rfl⟩
  | usage => exact .inl ⟨.usage, rfl⟩

end Domain

/-! ## Types with one table -/

namespace NamedType

variable {b : Build} {t : NamedType} {s : String}

theorem symbol?_eq (b : Build) (a : t.Carrier) :
    Nameable.symbol? b a = (t.domain.table b).project a := by
  rw [Nameable.symbol?, t.table_eq b]

theorem ofSymbol?_eq (b : Build) (s : String) :
    (Nameable.ofSymbol? b s : Option t.Carrier) = (t.domain.table b).parse b s := by
  rw [Nameable.ofSymbol?, t.table_eq b]

theorem nameable_domain (b : Build) (t : NamedType) : Nameable.domain t.Carrier b = t.domain := by
  rw [Nameable.domain, t.table_eq b, domain_table]

theorem read_eq_ok_iff {a : t.Carrier} :
    Nameable.read b s = .ok a ↔ t.domain.parse b s = some (toRaw a) := by
  rw [(Domain.shows_namedType b t).parse, Nameable.read]
  cases (Nameable.ofSymbol? b s : Option t.Carrier) with
  | none => simp
  | some a' => simp [toRaw_inj]

theorem read_eq_error_iff {e : UnknownSymbol} :
    (Nameable.read b s : Except UnknownSymbol t.Carrier) = .error e ↔
      t.domain.parse b s = none ∧ e = ⟨t.domain, s⟩ := by
  rw [(Domain.shows_namedType b t).parse, Nameable.read, nameable_domain]
  cases (Nameable.ofSymbol? b s : Option t.Carrier) with
  | none => simp [eq_comm]
  | some a => simp

end NamedType

/-- **Raw numbers show typed values as they are.** Every domain is that of a type with one table or
of a direction of masks. Its entry points on raw numbers give what the functions of that type give,
and nothing for a number outside the type's width. A symbol leads back to the very number it came
from, so no two numbers share one. Reading a symbol of a type succeeds where the raw parse does,
with the same value, and complains of just this domain and this string where it does not. -/
theorem raw_faithful (b : Build) :
    (∀ d : Domain, (∃ t : NamedType, t.domain = d) ∨ ∃ w : ChannelMask.Direction, w.domain = d) ∧
    (∀ t : NamedType, t.domain.Shows b (Nameable.symbol? b : t.Carrier → Option String)
      (Nameable.ofSymbolWith? b) (Nameable.ofSymbol? b)) ∧
    (∀ w : ChannelMask.Direction, w.domain.Shows b (ChannelMask.symbol? · w)
      (ChannelMask.table w).parseWith (ChannelMask.ofSymbol? b w)) ∧
    (∀ d : Domain,
      (∀ s v raw, d.parseWith b s v = some raw → d.Fits raw) ∧
      (∀ raw s, d.project b raw = some s → d.parse b s = some raw) ∧
      ∀ raw raw' s, d.project b raw = some s → d.project b raw' = some s → raw = raw') ∧
    ∀ (t : NamedType) (s : String),
      (∀ a : t.Carrier, Nameable.read b s = .ok a ↔ t.domain.parse b s = some (toRaw a)) ∧
      ∀ e, (Nameable.read b s : Except UnknownSymbol t.Carrier) = .error e ↔
        t.domain.parse b s = none ∧ e = ⟨t.domain, s⟩ := by
  exact ⟨Domain.namedType_or_direction, Domain.shows_namedType b, Domain.shows_direction b,
    fun d => ⟨fun s v raw => Domain.fits_of_parseWith, fun raw s => Domain.parse_of_project,
      fun raw raw' s => Domain.project_inj⟩,
    fun t s => ⟨fun a => NamedType.read_eq_ok_iff, fun e => NamedType.read_eq_error_iff⟩⟩

/-- The invalid source keeps its sign, and the number that its bits make without one has no name. -/
theorem invalidSource_raw_faithful :
    Domain.source.project .framework (-1) = some "AUDIO_SOURCE_INVALID" ∧
      Domain.source.parse .framework "AUDIO_SOURCE_INVALID" = some (-1) ∧
      ¬Domain.source.Fits 0xFFFFFFFF ∧ Domain.source.project .framework 0xFFFFFFFF = none := by
  obtain ⟨-, hshows, -, hdomain, -⟩ := raw_faithful .framework
  have hp : Domain.source.project .framework (-1) = some "AUDIO_SOURCE_INVALID" := by decide +kernel
  have hf : ¬Domain.source.Fits 0xFFFFFFFF := by
    simp [Domain.Fits, Domain.isSigned]
  exact ⟨hp, (hdomain .source).2.1 _ _ hp, hf, (hshows .source).outside _ hf⟩

end AudioHal
