import AudioHal.Proofs.Table.Lookup

/-! # Rows and their roles

In a table that passes its check every row does what its role says, in both directions.

* `Table.WellFormed.parseWith_of_project`: a symbol that a value is projected to is parsed to that
  value again.
* `Table.WellFormed.project_row`, `Table.WellFormed.project_alias`: the value of a row with a symbol
  of its own is projected to that symbol; the value of an alias to another one.
* `Table.WellFormed.project_sentinel`, `Table.WellFormed.parseWith_sentinel`: a sentinel takes part
  in neither direction.
* `Table.roles_honoured`: all of it together, for every table that is accepted.
-/

set_option autoImplicit false

namespace AudioHal

namespace Table

variable {α : Type} [DecidableEq α] {t : Table α}

theorem WellFormed.parseWith_of_project (w : t.WellFormed) {a : α} {s : String}
    (h : t.project a = some s) : t.parseWith s .framework = some a := by
  obtain ⟨e, he, hv, hs⟩ := (project_eq_some_iff w.valuesUnique).1 h
  obtain ⟨hm, hr⟩ := mem_canonical.1 he
  exact (parseWith_eq_some_iff w.symbolsUnique).2 ⟨e, hm, Role.isParsed_framework hr, hs, hv⟩

/-- The value of a row with a symbol of its own is projected to that symbol. -/
theorem WellFormed.project_row (w : t.WellFormed) {e : Entry α} (he : e ∈ t.entries)
    (hr : e.role.givesSymbol) : t.project e.value = some e.symbol :=
  (project_eq_some_iff w.valuesUnique).2 ⟨e, mem_canonical.2 ⟨he, hr⟩, rfl, rfl⟩

/-- The value of an alias is projected to a symbol other than the alias. -/
theorem WellFormed.project_alias (w : t.WellFormed) {e : Entry α} (he : e ∈ t.entries)
    (hr : e.role = .legacy) : ∃ c, t.project e.value = some c ∧ c ≠ e.symbol := by
  obtain ⟨d, hd, hv⟩ := w.aliases e he hr
  refine ⟨d.symbol, (project_eq_some_iff w.valuesUnique).2 ⟨d, hd, hv, rfl⟩, fun hs => ?_⟩
  obtain ⟨hm, hg⟩ := mem_canonical.1 hd
  rw [w.symbolsUnique d hm e he hs, hr] at hg
  cases hg

/-- Whatever a symbol is parsed to has a symbol. -/
theorem WellFormed.exists_project (w : t.WellFormed) {s : String} {v : Visibility} {a : α}
    (h : t.parseWith s v = some a) : ∃ c, t.project a = some c := by
  obtain ⟨e, he, hr, -, rfl⟩ := (parseWith_eq_some_iff w.symbolsUnique).1 h
  rcases Role.givesSymbol_or_legacy hr with hg | hl
  · exact ⟨e.symbol, w.project_row he hg⟩
  · obtain ⟨c, hc, -⟩ := w.project_alias he hl
    exact ⟨c, hc⟩

theorem WellFormed.project_sentinel (w : t.WellFormed) {e : Entry α} (he : e ∈ t.entries)
    (hr : e.role = .sentinel) : t.project e.value = none :=
  project_eq_none_iff.2 (w.sentinels e he hr)

omit [DecidableEq α] in
theorem WellFormed.parseWith_sentinel (w : t.WellFormed) {e : Entry α} (he : e ∈ t.entries)
    (hr : e.role = .sentinel) (v : Visibility) : t.parseWith e.symbol v = none := by
  refine parseWith_eq_none_iff.2 fun d hd hp hs => ?_
  rw [w.symbolsUnique d hd e he hs, hr, Role.isParsed_sentinel] at hp
  cases hp

/-- **Every row honours its role in a table that is accepted.** A symbol that a value is projected
to leads back to the value. A string that is parsed is replaced by the canonical symbol of its
value: by itself if it is that symbol, by another one if it is an alias. Sentinels are out of reach
from either side. -/
theorem roles_honoured (ok : t.validate = .ok ()) :
    (∀ a s, t.project a = some s → t.parseWith s .framework = some a) ∧
    (∀ s v a, t.parseWith s v = some a → ∃ c, t.project a = some c ∧
      (c = s ↔ ∃ e ∈ t.entries, (e.role = .canonical ∨ e.role = .frameworkOnly) ∧ e.symbol = s) ∧
      (c ≠ s ↔ ∃ e ∈ t.entries, e.role = .legacy ∧ e.symbol = s) ∧
      t.parseWith c .framework = some a) ∧
    ∀ e ∈ t.entries, e.role = .sentinel → t.project e.value = none ∧
      (∀ v, t.parseWith e.symbol v = none) ∧ ∀ s v, t.parseWith s v ≠ some e.value := by
  have w := validate_eq_ok_iff.1 ok
  refine ⟨fun a s h => w.parseWith_of_project h, fun s v a h => ?_, fun e he hr => ?_⟩
  · obtain ⟨c, hc⟩ := w.exists_project h
    obtain ⟨e, he, hp, rfl, rfl⟩ := (parseWith_eq_some_iff w.symbolsUnique).1 h
    -- the row that was parsed is the only one with its symbol, so its role decides both ways
    have only : ∀ d ∈ t.entries, d.symbol = e.symbol → d = e :=
      fun d hd hs => w.symbolsUnique d hd e he hs
    refine ⟨c, hc, ⟨fun hce => ?_, ?_⟩, ⟨fun hce => ?_, ?_⟩, w.parseWith_of_project hc⟩
    · obtain ⟨d, hd, -, hs⟩ := (project_eq_some_iff w.valuesUnique).1 hc
      obtain ⟨hm, hg⟩ := mem_canonical.1 hd
      exact ⟨d, hm, Role.givesSymbol_iff.1 hg, hs.trans hce⟩
    · rintro ⟨d, hd, hg, hs⟩
      rw [only d hd hs] at hg
      rw [w.project_row he (Role.givesSymbol_iff.2 hg), Option.some.injEq] at hc
      exact hc.symm
    · rcases Role.givesSymbol_or_legacy hp with hg | hl
      · rw [w.project_row he hg, Option.some.injEq] at hc
        exact absurd hc.symm hce
      · exact ⟨e, he, hl, rfl⟩
    · rintro ⟨d, hd, hl, hs⟩
      rw [only d hd hs] at hl
      obtain ⟨c', hc', hne⟩ := w.project_alias he hl
      rw [hc, Option.some.injEq] at hc'
      exact hc' ▸ hne
  · refine ⟨w.project_sentinel he hr, w.parseWith_sentinel he hr, fun s v h => ?_⟩
    obtain ⟨c, hc⟩ := w.exists_project h
    rw [w.project_sentinel he hr] at hc
    cases hc

/-- A small table with rows of each role. -/
def sample : Table UInt32 where
  domain := .gainMode
  rows := [.canonical "ZERO" 0, .canonical "ONE" 1, .legacy "UNO" 1, .sentinel "INVALID" 0xFFFFFFFF]
  frameworkRows := [.frameworkOnly "SEVEN" 7]

theorem sample_validate : sample.validate = .ok () :=
  validate_eq_ok_iff.2 (by decide +kernel)

/-- The alias gives way to the canonical symbol, and nothing names the sentinel. -/
theorem sample_roles_honoured :
    sample.validate = .ok () ∧ sample.parseWith "UNO" .vendor = some 1 ∧
      (∃ c, sample.project 1 = some c ∧ c ≠ "UNO" ∧ sample.parseWith c .framework = some 1) ∧
      ∀ s v, sample.parseWith s v ≠ some 0xFFFFFFFF := by
  have hp : sample.parseWith "UNO" .vendor = some 1 := by decide +kernel
  obtain ⟨-, hparse, hsentinel⟩ := roles_honoured sample_validate
  obtain ⟨c, hc, -, hne, hback⟩ := hparse "UNO" .vendor 1 hp
  have halias : ∃ e ∈ sample.entries, e.role = .legacy ∧ e.symbol = "UNO" :=
    ⟨.legacy "UNO" 1, by decide +kernel, rfl, rfl⟩
  exact ⟨sample_validate, hp, ⟨c, hc, hne.2 halias, hback⟩,
    (hsentinel (.sentinel "INVALID" 0xFFFFFFFF) (by decide +kernel) rfl).2.2⟩

end Table

end AudioHal
