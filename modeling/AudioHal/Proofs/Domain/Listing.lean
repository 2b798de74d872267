import AudioHal.Proofs.Domain.Raw
import Mathlib.Logic.ExistsUnique

/-! # What a domain lists

The listing of a domain goes through the rows in order, and projection searches them by value. They
still tell the same story: the pairs that are listed are those of a number and its symbol.

* `Table.listing`, `Table.mem_listing`: the listing of any table; that of a domain is the one of its
  table.
* `ListsProjection`: what it means that a listing is just the graph of a projection, and how parsing
  goes with it.
* `Table.WellFormed.listsProjection`: every well-formed table lists its projection.
* `listing_exact`: so does every domain in every build.
-/

set_option autoImplicit false

namespace AudioHal

open RawValue

/-- A listing is the graph of a projection, without repetitions, and parsing finds its way back. -/
structure ListsProjection (listing : List (String × Int)) (project : Int → Option String)
    (parseWith : String → Visibility → Option Int) : Prop where
  mem_iff : ∀ s raw, (s, raw) ∈ listing ↔ project raw = some s
  symbols : (listing.map Prod.fst).Nodup
  numbers : (listing.map Prod.snd).Nodup
  parse : ∀ s raw, (s, raw) ∈ listing → parseWith s .framework = some raw
  /-- Whatever a string is parsed to is listed once, be it with this string or with another. -/
  parsed : ∀ s v raw, parseWith s v = some raw → ∃! p, p ∈ listing ∧ p.2 = raw

/-! ## Tables -/

namespace Table

variable {α : Type} [DecidableEq α] [RawValue α] {t : Table α} {s : String} {raw : Int}

/-- The symbols of a table, each with its number. -/
def listing (t : Table α) : List (String × Int) :=
  t.canonical.map fun e => (e.symbol, toRaw e.value)

omit [DecidableEq α] in
theorem mem_listing :
    (s, raw) ∈ t.listing ↔ ∃ e ∈ t.canonical, e.symbol = s ∧ toRaw e.value = raw := by
  simp only [listing, List.mem_map, Prod.mk.injEq]

omit [DecidableEq α] in
/-- A number that no value has is not listed. -/
theorem not_mem_listing (h : (ofRaw? raw : Option α) = none) : (s, raw) ∉ t.listing := by
  intro hm
  obtain ⟨e, -, -, hv⟩ := mem_listing.1 hm
  exact ofRaw?_eq_none_iff.1 h e.value hv

namespace WellFormed

theorem mem_listing_iff (w : t.WellFormed) :
    (s, raw) ∈ t.listing ↔ t.projectRaw raw = some s := by
  simp only [mem_listing, projectRaw_eq_some_iff, project_eq_some_iff w.valuesUnique]
  refine ⟨fun h => ?_, fun h => ?_⟩
  · obtain ⟨e, he, hs, hv⟩ := h
    exact ⟨e.value, hv, e, he, rfl, hs⟩
  · obtain ⟨a, ha, e, he, rfl, hs⟩ := h
    exact ⟨e, he, hs, ha⟩

omit [DecidableEq α] in
theorem listing_symbols (w : t.WellFormed) : (t.listing.map Prod.fst).Nodup := by
  rw [listing, List.map_map, List.Nodup, List.pairwise_map]
  exact w.symbols.filter _

omit [DecidableEq α] in
theorem listing_numbers (w : t.WellFormed) : (t.listing.map Prod.snd).Nodup := by
  rw [listing, List.map_map, List.Nodup, List.pairwise_map]
  refine (w.values.filter _).imp_of_mem fun {a b} ha hb hn hv => hn ?_
  exact ⟨(mem_canonical.1 ha).2, (mem_canonical.1 hb).2, toRaw_inj.1 hv⟩

theorem parseRaw_of_mem_listing (w : t.WellFormed) (h : (s, raw) ∈ t.listing) :
    t.parseRaw s .framework = some raw := by
  obtain ⟨a, ha, hp⟩ := projectRaw_eq_some_iff.1 (w.mem_listing_iff.1 h)
  exact parseRaw_eq_some_iff.2 ⟨a, w.parseWith_of_project hp, ha⟩

theorem existsUnique_listed (w : t.WellFormed) {v : Visibility} (h : t.parseRaw s v = some raw) :
    ∃! p, p ∈ t.listing ∧ p.2 = raw := by
  obtain ⟨a, ha, hr⟩ := parseRaw_eq_some_iff.1 h
  obtain ⟨c, hc⟩ := w.exists_project ha
  have hproject : t.projectRaw raw = some c := projectRaw_eq_some_iff.2 ⟨a, hr, hc⟩
  refine ⟨(c, raw), ⟨w.mem_listing_iff.2 hproject, rfl⟩, ?_⟩
  intro p hp
  obtain ⟨hm, rfl⟩ := hp
  have hsymbol := w.mem_listing_iff.1 hm
  rw [hproject, Option.some.injEq] at hsymbol
  rw [hsymbol]

theorem listsProjection (w : t.WellFormed) : ListsProjection t.listing t.projectRaw t.parseRaw where
  mem_iff _ _ := w.mem_listing_iff
  symbols := w.listing_symbols
  numbers := w.listing_numbers
  parse _ _ := w.parseRaw_of_mem_listing
  parsed _ _ _ := w.existsUnique_listed

end WellFormed

end Table

/-! ## Domains -/

namespace Domain

variable {b : Build} {d : Domain} {s : String} {raw : Int}

theorem listsProjection (b : Build) (d : Domain) :
    ListsProjection (d.listing b) (d.project b) (d.parseWith b) :=
  (d.table_wellFormed b).listsProjection

theorem fits_of_mem_listing (h : (s, raw) ∈ d.listing b) : d.Fits raw := by
  obtain ⟨e, -, -, hv⟩ := Table.mem_listing.1 h
  exact fits_iff.2 ⟨e.value, hv⟩

theorem parse_of_mem_listing (h : (s, raw) ∈ d.listing b) : d.parse b s = some raw :=
  parse_of_project (((listsProjection b d).mem_iff s raw).1 h)

end Domain

/-- **A listing is exactly the graph of projection.** In a table that is accepted a symbol is listed
with a number exactly if the number has that symbol, which no number without a value has. No symbol
and no number is listed twice; a listed symbol is parsed to its number by the framework; and
whatever a string is parsed to, whoever looks, is listed exactly once. The same holds in every
domain, in every build, and there a listed symbol is parsed to its number by the build too. -/
theorem listing_exact :
    (∀ (α : Type) [DecidableEq α] [RawValue α] (t : Table α), t.validate = .ok () →
      ListsProjection t.listing t.projectRaw t.parseRaw ∧
        ∀ s raw, (ofRaw? raw : Option α) = none → (s, raw) ∉ t.listing) ∧
    ∀ (b : Build) (d : Domain), ListsProjection (d.listing b) (d.project b) (d.parseWith b) ∧
      ∀ s raw, (s, raw) ∈ d.listing b → d.Fits raw ∧ d.parse b s = some raw := by
  refine ⟨fun α _ _ t ok => ?_, fun b d => ?_⟩
  · have w := Table.validate_eq_ok_iff.1 ok
    exact ⟨w.listsProjection, fun s raw h => Table.not_mem_listing h⟩
  · exact ⟨d.listsProjection b, fun s raw h =>
      ⟨Domain.fits_of_mem_listing h, Domain.parse_of_mem_listing h⟩⟩

/-- The alias leads to the one pair with its number; a number beyond the words is in no pair, and
the framework's own symbol is listed in the framework's build, which can parse it. -/
theorem sample_listing_exact :
    Table.sample.validate = .ok () ∧ Table.sample.parseRaw "UNO" .vendor = some 1 ∧
      (∃! p, p ∈ Table.sample.listing ∧ p.2 = 1) ∧
      (ofRaw? 0x100000000 : Option UInt32) = none ∧
      ("ZERO", 0x100000000) ∉ Table.sample.listing ∧
      ("AUDIO_USAGE_NOTIFICATION_EVENT", 10) ∈ Domain.usage.listing .framework ∧
      Domain.usage.parse .framework "AUDIO_USAGE_NOTIFICATION_EVENT" = some 10 := by
  obtain ⟨htables, hdomains⟩ := listing_exact
  obtain ⟨hlists, houtside⟩ := htables UInt32 Table.sample Table.sample_validate
  have hp : Table.sample.parseRaw "UNO" .vendor = some 1 := by decide +kernel
  have hnone : (ofRaw? 0x100000000 : Option UInt32) = none := by decide
  have hm : ("AUDIO_USAGE_NOTIFICATION_EVENT", 10) ∈ Domain.usage.listing .framework := by
    decide +kernel
  exact ⟨Table.sample_validate, hp, hlists.parsed _ _ _ hp, hnone, houtside _ _ hnone, hm,
    ((hdomains .framework .usage).2 _ _ hm).2⟩

end AudioHal
