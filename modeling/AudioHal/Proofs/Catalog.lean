import AudioHal.Catalog
import AudioHal.Proofs.Table.Roles
import AudioHal.Proofs.Table.Split

/-! # The tables of the domains

The twelve tables, build by build, and what framework and vendor can tell each other by them.

* `Domain.table_eq_vendorPart`, `Domain.table_isSplit`: the builds differ in the framework's rows
  alone.
* `Domain.table_wellFormed`: every table is well formed, in every build.
* `Domain.table_parse_of_project`: the symbol of a value is parsed to the value, in every build.
* `builds_exchange`: framework and vendor exchange symbols without loss and without leaking.
-/

set_option autoImplicit false

namespace AudioHal

namespace Domain

/-! ## Builds -/

theorem table_isSplit (d : Domain) : (d.table .framework).IsSplit := by
  cases d <;> decide +kernel

/-- Wherever the framework's rows are not visible they are not there. -/
theorem table_eq_vendorPart {b : Build} (h : b.visibility = .vendor) (d : Domain) :
    d.table b = (d.table .framework).vendorPart := by
  cases b with
  | framework => cases h
  | vendor | freestanding => cases d <;> rfl

/-! ## Well-formedness -/

theorem table_framework_wellFormed (d : Domain) : (d.table .framework).WellFormed := by
  cases d <;> decide +kernel

/-- No alias needs a row of the framework. -/
theorem table_aliases_in_rows (d : Domain) :
    ∀ a ∈ (d.table .framework).rows, a.role = .legacy →
      ∃ c ∈ (d.table .framework).rows, c.role.givesSymbol ∧ c.value = a.value := by
  cases d <;> decide +kernel

theorem table_wellFormed (b : Build) (d : Domain) : (d.table b).WellFormed := by
  have w := table_framework_wellFormed d
  cases hb : b.visibility with
  | vendor =>
    rw [table_eq_vendorPart hb]
    exact w.vendorPart (table_aliases_in_rows d)
  | framework =>
    cases b with
    | framework => exact w
    | vendor | freestanding => cases hb

/-! ## Parsing what a build has -/

variable {b : Build} {d : Domain} {s : String}

/-- A build sees all the rows that it has. -/
theorem table_parse (b : Build) (d : Domain) (s : String) :
    (d.table b).parse b s = (d.table b).parseWith s .framework := by
  cases hb : b.visibility with
  | framework => rw [Table.parse, hb]
  | vendor =>
    have hs := (table_isSplit d).vendorPart_parseWith (table_framework_wellFormed d).symbolsUnique
    rw [Table.parse, hb, table_eq_vendorPart hb, hs s .vendor .framework]

theorem table_parse_of_project {a : d.Carrier} (h : (d.table b).project a = some s) :
    (d.table b).parse b s = some a := by
  rw [table_parse]
  exact (table_wellFormed b d).parseWith_of_project h

end Domain

/-! ## Exchange -/

/-- **Framework and vendor exchange symbols without loss and without leaking.** Of a table with the
framework's rows apart, the framework can foretell every parse of the vendor, takes every symbol of
the vendor in the vendor's sense, and when it names a value it either uses the vendor's own name
or one that means nothing to the vendor. The tables of the domains are such tables. -/
theorem builds_exchange :
    (∀ (α : Type) [DecidableEq α] (t : Table α), t.validate = .ok () → t.IsSplit →
      (∀ s, t.parseWith s .vendor = t.vendorPart.parseWith s .vendor ∧
        t.vendorPart.parseWith s .vendor = t.vendorPart.parseWith s .framework ∧
        ∀ a, t.vendorPart.parseWith s .framework = some a → t.parseWith s .framework = some a) ∧
      (∀ a s, t.vendorPart.project a = some s → t.project a = some s) ∧
      ∀ a s, t.project a = some s →
        (t.vendorPart.project a = some s ∧ ∀ v, t.vendorPart.parseWith s v = some a) ∨
        ((∃ e ∈ t.frameworkRows, e.symbol = s) ∧ t.vendorPart.project a = none ∧
          (∀ v, t.vendorPart.parseWith s v = none) ∧
          ∀ v, t.parseWith s v = some a ↔ v = .framework)) ∧
    ∀ d : Domain, (d.table .framework).validate = .ok () ∧ (d.table .framework).IsSplit ∧
      ∀ b, b.visibility = .vendor → d.table b = (d.table .framework).vendorPart := by
  constructor
  · intro α _ t ok hs
    have w := Table.validate_eq_ok_iff.1 ok
    refine ⟨fun s => ⟨hs.parseWith_vendor w.symbolsUnique s,
        hs.vendorPart_parseWith w.symbolsUnique s .vendor .framework,
        fun a => Table.parseWith_of_vendorPart w.symbolsUnique⟩,
      fun a s => Table.project_of_vendorPart w.valuesUnique, fun a s h => ?_⟩
    obtain ⟨e, he, rfl, rfl⟩ := (Table.project_eq_some_iff w.valuesUnique).1 h
    obtain ⟨hm, hg⟩ := Table.mem_canonical.1 he
    rcases Table.mem_entries.1 hm with hrow | hrow
    · exact .inl (hs.row_shared w hrow hg)
    · obtain ⟨hproject, hparse, hvendor⟩ := hs.frameworkRow_hidden w hrow
      refine .inr ⟨⟨e, hrow, rfl⟩, hproject, hparse, fun v => ⟨fun hv => ?_, ?_⟩⟩
      · cases v with
        | framework => rfl
        | vendor => rw [hvendor] at hv; cases hv
      · rintro rfl
        exact w.parseWith_of_project h
  · intro d
    exact ⟨Table.validate_eq_ok_iff.2 (d.table_wellFormed .framework), d.table_isSplit,
      fun b hb => Domain.table_eq_vendorPart hb d⟩

/-- The framework can name seven; the vendor neither knows the name nor has another. -/
theorem sample_builds_exchange :
    Table.sample.validate = .ok () ∧ Table.sample.IsSplit ∧
      Table.sample.project 7 = some "SEVEN" ∧ Table.sample.vendorPart.project 7 = none ∧
      (∀ v, Table.sample.vendorPart.parseWith "SEVEN" v = none) ∧
      ∀ v, Table.sample.parseWith "SEVEN" v = some 7 ↔ v = .framework := by
  have hs : Table.sample.IsSplit := by decide +kernel
  have hp : Table.sample.project 7 = some "SEVEN" := by decide +kernel
  have hn : Table.sample.vendorPart.project 7 ≠ some "SEVEN" := by decide +kernel
  rcases (builds_exchange.1 UInt32 Table.sample Table.sample_validate hs).2.2 7 "SEVEN" hp with h | h
  · exact absurd h.1 hn
  · exact ⟨Table.sample_validate, hs, hp, h.2⟩

end AudioHal
