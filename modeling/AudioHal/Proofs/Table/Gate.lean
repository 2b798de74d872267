import AudioHal.Proofs.Catalog

/-! # Values behind the gate

A vendor cannot use the symbols of the framework's rows. An alias is no such symbol, and the check
lets it refer to any value with a symbol, so that an alias may bring a vendor to a value that only
the framework has a symbol for. No other string can.

* `Table.GatesValues`: whatever a vendor can name has a symbol of every build.
* `Table.WellFormed.vendor_parses`: what a vendor can name otherwise, an alias names.
* `Table.WellFormed.gatesValues_iff`: values are gated where no alias refers to one of the
  framework.
* `Table.IsSplit.gatesValues_iff`: that is so where the vendor's own table passes the check.
* `Domain.table_gatesValues`: the tables of the domains gate values.
-/

set_option autoImplicit false

namespace AudioHal

namespace Table

variable {α : Type} [DecidableEq α] {t : Table α}

/-- Whatever a vendor can name has a symbol that is not reserved for the framework. -/
def GatesValues (t : Table α) : Prop :=
  ∀ s a, t.parseWith s .vendor = some a →
    ∃ c ∈ t.entries, c.role = .canonical ∧ t.project a = some c.symbol

/-- An alias refers to a value that only the framework has a symbol for. -/
def Betrayed (t : Table α) (s : String) (a : α) : Prop :=
  (∃ e ∈ t.entries, e.role = .legacy ∧ e.symbol = s ∧ e.value = a) ∧
    ∃ c ∈ t.entries, c.role = .frameworkOnly ∧ c.value = a

/-- What a vendor can name has a symbol of every build, or an alias betrays it. -/
theorem WellFormed.vendor_parses (w : t.WellFormed) {s : String} {a : α}
    (h : t.parseWith s .vendor = some a) :
    (∃ c ∈ t.entries, c.role = .canonical ∧ t.project a = some c.symbol) ∨ t.Betrayed s a := by
  obtain ⟨e, he, hp, rfl, rfl⟩ := exists_of_parseWith_eq_some h
  cases hr : e.role with
  | canonical => exact .inl ⟨e, he, hr, w.project_row he (by rw [hr]; rfl)⟩
  | frameworkOnly | sentinel =>
    rw [hr] at hp
    cases hp
  | legacy =>
    obtain ⟨c, hc, hv⟩ := w.aliases e he hr
    obtain ⟨hm, hg⟩ := mem_canonical.1 hc
    rcases Role.givesSymbol_iff.1 hg with hrc | hrc
    · exact .inl ⟨c, hm, hrc, hv ▸ w.project_row hm hg⟩
    · exact .inr ⟨⟨e, he, hr, rfl, rfl⟩, c, hm, hrc, hv⟩

theorem WellFormed.vendor_parses_betrayed (w : t.WellFormed) {s : String} {a : α}
    (h : t.Betrayed s a) : t.parseWith s .vendor = some a ∧
      ∃ c ∈ t.entries, c.role = .frameworkOnly ∧ t.project a = some c.symbol := by
  obtain ⟨⟨e, he, hr, rfl, rfl⟩, c, hc, hrc, hv⟩ := h
  have hg : c.role.givesSymbol := by rw [hrc]; rfl
  have hp : e.role.isParsed .vendor := by rw [hr]; rfl
  exact ⟨(parseWith_eq_some_iff w.symbolsUnique).2 ⟨e, he, hp, rfl, rfl⟩,
    c, hc, hrc, hv ▸ w.project_row hc hg⟩

theorem WellFormed.project_role_unique (w : t.WellFormed) {a : α} {c d : Entry α}
    (hc : c ∈ t.entries) (hd : d ∈ t.entries) (hpc : t.project a = some c.symbol)
    (hpd : t.project a = some d.symbol) : c.role = d.role := by
  rw [hpc, Option.some.injEq] at hpd
  rw [w.symbolsUnique c hc d hd hpd]

theorem WellFormed.gatesValues_iff (w : t.WellFormed) :
    t.GatesValues ↔ ∀ s a, ¬t.Betrayed s a := by
  constructor
  · intro hgate s a hb
    obtain ⟨hparse, d, hd, hrd, hpd⟩ := w.vendor_parses_betrayed hb
    obtain ⟨c, hc, hrc, hpc⟩ := hgate s a hparse
    have hrole := w.project_role_unique hc hd hpc hpd
    rw [hrc, hrd] at hrole
    cases hrole
  · intro hn s a h
    exact (w.vendor_parses h).resolve_right (hn s a)

theorem IsSplit.gatesValues_iff (hs : t.IsSplit) (w : t.WellFormed) :
    t.GatesValues ↔ t.vendorPart.WellFormed := by
  rw [w.gatesValues_iff]
  constructor
  · intro hn
    refine w.vendorPart fun a ha hr => ?_
    have hm := mem_entries_of_rows ha
    obtain ⟨c, hc, hv⟩ := w.aliases a hm hr
    obtain ⟨hcm, hg⟩ := mem_canonical.1 hc
    rcases mem_entries.1 hcm with hrow | hrow
    · exact ⟨c, hrow, hg, hv⟩
    · have hb : t.Betrayed a.symbol a.value :=
        ⟨⟨a, hm, hr, rfl, rfl⟩, c, hcm, hs.frameworkRows c hrow, hv⟩
      exact absurd hb (hn a.symbol a.value)
  · rintro w' s a ⟨⟨e, he, hr, rfl, rfl⟩, c, hc, hrc, hv⟩
    -- the alias is in the vendor's table, so there its value has a symbol of every build
    have hrow : e ∈ t.rows := by
      refine (mem_entries.1 he).resolve_right fun hf => ?_
      rw [hs.frameworkRows e hf] at hr
      cases hr
    obtain ⟨d, hd, hvd⟩ := w'.aliases e (by rwa [vendorPart_entries]) hr
    obtain ⟨hdm, hgd⟩ := mem_vendorPart_canonical.1 hd
    have hcd : c = d := w.valuesUnique c (mem_canonical.2 ⟨hc, by rw [hrc]; rfl⟩) d
      (mem_canonical.2 ⟨mem_entries_of_rows hdm, hgd⟩) (hv.trans hvd.symm)
    exact hs.rows d hdm (hcd ▸ hrc)

/-- **A vendor reaches a value of the framework through an alias of it and in no other way.** Of a
table that is accepted and whose framework rows are reserved for the framework, a vendor's parse
gives a value with a symbol of every build, unless the string is an alias and the value one that
only the framework has a symbol for, and such an alias does lead there. So values are gated exactly
where there is no such alias; for a table that keeps the rows of the framework apart, where the
check accepts it without them, too. -/
theorem vendor_gate (ok : t.validate = .ok ())
    (hf : ∀ e ∈ t.frameworkRows, e.role = .frameworkOnly) :
    (∀ s a, t.parseWith s .vendor = some a →
      (∃ c ∈ t.entries, c.role = .canonical ∧ t.project a = some c.symbol) ∨
      (∃ e ∈ t.entries, e.role = .legacy ∧ e.symbol = s ∧ e.value = a) ∧
        ∃ c ∈ t.entries, c.role = .frameworkOnly ∧ t.project a = some c.symbol) ∧
    (∀ e ∈ t.entries, e.role = .legacy →
      ∀ c ∈ t.entries, c.role = .frameworkOnly → c.value = e.value →
        t.parseWith e.symbol .vendor = some e.value ∧ t.project e.value = some c.symbol) ∧
    ((∀ e ∈ t.rows, e.role ≠ .frameworkOnly) →
      (t.GatesValues ↔ t.vendorPart.validate = .ok ())) := by
  have w := validate_eq_ok_iff.1 ok
  refine ⟨fun s a h => ?parses, fun e he hr c hc hrc hv => ?betrayed, fun hrows => ?gates⟩
  case parses =>
    rcases w.vendor_parses h with hc | hb
    · exact .inl hc
    · exact .inr ⟨hb.1, (w.vendor_parses_betrayed hb).2⟩
  case betrayed =>
    have hb : t.Betrayed e.symbol e.value := ⟨⟨e, he, hr, rfl, rfl⟩, c, hc, hrc, hv⟩
    exact ⟨(w.vendor_parses_betrayed hb).1, hv ▸ w.project_row hc (by rw [hrc]; rfl)⟩
  case gates =>
    rw [validate_eq_ok_iff]
    exact (IsSplit.mk hrows hf).gatesValues_iff w

/-- The small table gates its values, those that aliases lead to included. -/
theorem sample_vendor_gate :
    sample.validate = .ok () ∧ (∀ e ∈ sample.frameworkRows, e.role = .frameworkOnly) ∧
      sample.parseWith "UNO" .vendor = some 1 ∧ sample.GatesValues := by
  have hf : ∀ e ∈ sample.frameworkRows, e.role = .frameworkOnly := by decide +kernel
  have hr : ∀ e ∈ sample.rows, e.role ≠ .frameworkOnly := by decide +kernel
  have hv : sample.vendorPart.validate = .ok () := validate_eq_ok_iff.2 (by decide +kernel)
  exact ⟨sample_validate, hf, by decide +kernel, ((vendor_gate sample_validate hf).2.2 hr).2 hv⟩

/-- A small table with an alias of a value of the framework. -/
def betraying : Table UInt32 where
  domain := .gainMode
  rows := [.legacy "SEPT" 7]
  frameworkRows := [.frameworkOnly "SEVEN" 7]

/-- A table may be accepted and yet lead a vendor to a value of the framework. -/
theorem betraying_accepted :
    betraying.validate = .ok () ∧ (∀ e ∈ betraying.frameworkRows, e.role = .frameworkOnly) ∧
      betraying.parseWith "SEPT" .vendor = some 7 ∧ betraying.project 7 = some "SEVEN" ∧
      ¬∃ c ∈ betraying.entries, c.role = .canonical ∧ betraying.project 7 = some c.symbol :=
  ⟨validate_eq_ok_iff.2 (by decide +kernel), by decide +kernel, by decide +kernel,
    by decide +kernel, by decide +kernel⟩

omit [DecidableEq α] in
theorem IsSplit.vendorPart (hs : t.IsSplit) : t.vendorPart.IsSplit :=
  ⟨hs.rows, nofun⟩

end Table

/-- Whatever a vendor can name in a domain has a symbol of every build. -/
theorem Domain.table_gatesValues (b : Build) (d : Domain) : (d.table b).GatesValues := by
  have hsplit := d.table_isSplit
  have hvendor : (d.table .framework).vendorPart.WellFormed := by
    rw [← Domain.table_eq_vendorPart (b := .vendor) rfl]
    exact Domain.table_wellFormed .vendor d
  cases hb : b.visibility with
  | vendor =>
    rw [Domain.table_eq_vendorPart hb]
    exact (hsplit.vendorPart.gatesValues_iff hvendor).2 hvendor
  | framework =>
    cases b with
    | framework => exact (hsplit.gatesValues_iff (Domain.table_framework_wellFormed d)).2 hvendor
    | vendor | freestanding => cases hb

end AudioHal
