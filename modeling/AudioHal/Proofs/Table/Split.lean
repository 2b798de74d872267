import AudioHal.Proofs.Table.Lookup

/-! # Tables of two builds

A table of the framework's build keeps the framework's rows apart (`Table.IsSplit`); without them it
is the table of a vendor's build (`Table.vendorPart`). The two answer alike as far as the vendor is
concerned.

* `Table.IsSplit.parseWith_vendor`, `Table.IsSplit.vendorPart_parseWith`: hiding the framework's
  rows from a parse has the effect of not having them.
* `Table.project_of_vendorPart`, `Table.parseWith_of_vendorPart`: what the vendor's table says, the
  framework's table says too.
* `Table.IsSplit.frameworkRow_hidden`: a row of the framework is out of the vendor's reach.
* `Table.WellFormed.vendorPart`: the vendor's table is well formed if no alias needs the
  framework's rows.
-/

set_option autoImplicit false

namespace AudioHal.Table

variable {α : Type} {t : Table α}

/-- The framework's rows, and only these, are reserved for the framework. -/
structure IsSplit (t : Table α) : Prop where
  rows : ∀ e ∈ t.rows, e.role ≠ .frameworkOnly
  frameworkRows : ∀ e ∈ t.frameworkRows, e.role = .frameworkOnly

instance (t : Table α) : Decidable t.IsSplit :=
  decidable_of_iff ((∀ e ∈ t.rows, e.role ≠ .frameworkOnly) ∧
      ∀ e ∈ t.frameworkRows, e.role = .frameworkOnly)
    ⟨fun h => ⟨h.1, h.2⟩, fun h => ⟨h.rows, h.frameworkRows⟩⟩

/-- The table of a build without the framework's rows. -/
def vendorPart (t : Table α) : Table α :=
  { t with frameworkRows := [] }

theorem vendorPart_entries (t : Table α) : t.vendorPart.entries = t.rows :=
  List.append_nil _

theorem mem_entries_of_rows {e : Entry α} (h : e ∈ t.rows) : e ∈ t.entries :=
  mem_entries.2 (.inl h)

theorem mem_vendorPart_canonical {e : Entry α} :
    e ∈ t.vendorPart.canonical ↔ e ∈ t.rows ∧ e.role.givesSymbol := by
  rw [mem_canonical, vendorPart_entries]

theorem SymbolsUnique.vendorPart (h : t.SymbolsUnique) : t.vendorPart.SymbolsUnique := by
  intro a ha b hb
  rw [vendorPart_entries] at ha hb
  exact h a (mem_entries_of_rows ha) b (mem_entries_of_rows hb)

theorem ValuesUnique.vendorPart (h : t.ValuesUnique) : t.vendorPart.ValuesUnique := by
  intro a ha b hb
  obtain ⟨ha, hra⟩ := mem_vendorPart_canonical.1 ha
  obtain ⟨hb, hrb⟩ := mem_vendorPart_canonical.1 hb
  exact h a (mem_canonical.2 ⟨mem_entries_of_rows ha, hra⟩) b
    (mem_canonical.2 ⟨mem_entries_of_rows hb, hrb⟩)

/-! ## Parsing -/

/-- A parse that may not see the framework's rows is a parse of the table without them. -/
theorem IsSplit.parseWith_vendor (hs : t.IsSplit) (hu : t.SymbolsUnique) (s : String) :
    t.parseWith s .vendor = t.vendorPart.parseWith s .vendor := by
  refine parseWith_congr hu hu.vendorPart (fun e => ?_) s
  rw [vendorPart_entries, mem_entries]
  constructor
  · rintro ⟨hm | hm, hp⟩
    · exact ⟨hm, hp⟩
    · rw [hs.frameworkRows e hm] at hp
      cases hp
  · exact fun h => ⟨.inl h.1, h.2⟩

/-- The vendor's table holds nothing that a vendor may not see. -/
theorem IsSplit.vendorPart_parseWith (hs : t.IsSplit) (hu : t.SymbolsUnique) (s : String)
    (v v' : Visibility) : t.vendorPart.parseWith s v = t.vendorPart.parseWith s v' := by
  refine parseWith_congr hu.vendorPart hu.vendorPart (fun e => ?_) s
  rw [vendorPart_entries]
  exact and_congr_right fun he => by rw [Role.isParsed_eq (hs.rows e he) v v']

theorem parseWith_of_vendorPart (hu : t.SymbolsUnique) {s : String} {v : Visibility} {a : α}
    (h : t.vendorPart.parseWith s v = some a) : t.parseWith s v = some a := by
  obtain ⟨e, he, hea⟩ := exists_of_parseWith_eq_some h
  rw [vendorPart_entries] at he
  exact (parseWith_eq_some_iff hu).2 ⟨e, mem_entries_of_rows he, hea⟩

/-! ## Projecting -/

variable [DecidableEq α]

theorem project_of_vendorPart (hu : t.ValuesUnique) {a : α} {s : String}
    (h : t.vendorPart.project a = some s) : t.project a = some s := by
  obtain ⟨e, he, hea⟩ := (project_eq_some_iff hu.vendorPart).1 h
  obtain ⟨he, hg⟩ := mem_vendorPart_canonical.1 he
  exact (project_eq_some_iff hu).2 ⟨e, mem_canonical.2 ⟨mem_entries_of_rows he, hg⟩, hea⟩

/-- A row of every build with a symbol of its own serves the vendor in both directions. -/
theorem IsSplit.row_shared (hs : t.IsSplit) (w : t.WellFormed) {e : Entry α} (he : e ∈ t.rows)
    (hg : e.role.givesSymbol) : t.vendorPart.project e.value = some e.symbol ∧
      ∀ v, t.vendorPart.parseWith e.symbol v = some e.value := by
  refine ⟨(project_eq_some_iff w.valuesUnique.vendorPart).2
    ⟨e, mem_vendorPart_canonical.2 ⟨he, hg⟩, rfl, rfl⟩, fun v => ?_⟩
  rw [hs.vendorPart_parseWith w.symbolsUnique _ v .framework]
  refine (parseWith_eq_some_iff w.symbolsUnique.vendorPart).2
    ⟨e, ?_, Role.isParsed_framework hg, rfl, rfl⟩
  rwa [vendorPart_entries]

/-- A row of the framework has no effect where the vendor can see it. -/
theorem IsSplit.frameworkRow_hidden (hs : t.IsSplit) (w : t.WellFormed) {e : Entry α}
    (he : e ∈ t.frameworkRows) : t.vendorPart.project e.value = none ∧
      (∀ v, t.vendorPart.parseWith e.symbol v = none) ∧ t.parseWith e.symbol .vendor = none := by
  have hm : e ∈ t.entries := mem_entries.2 (.inr he)
  have hg : e.role.givesSymbol := by rw [hs.frameworkRows e he]; rfl
  have hparse : ∀ v, t.vendorPart.parseWith e.symbol v = none := by
    refine fun v => parseWith_eq_none_iff.2 fun d hd hp hsym => ?_
    rw [vendorPart_entries] at hd
    have := w.symbolsUnique d (mem_entries_of_rows hd) e hm hsym
    exact hs.rows d hd (this ▸ hs.frameworkRows e he)
  refine ⟨project_eq_none_iff.2 fun d hd hv => ?_, hparse, ?_⟩
  · obtain ⟨hd, hgd⟩ := mem_vendorPart_canonical.1 hd
    have := w.valuesUnique d (mem_canonical.2 ⟨mem_entries_of_rows hd, hgd⟩) e
      (mem_canonical.2 ⟨hm, hg⟩) hv
    exact hs.rows d hd (this ▸ hs.frameworkRows e he)
  · rw [hs.parseWith_vendor w.symbolsUnique, hparse]

omit [DecidableEq α] in
/-- The vendor's table is well formed where aliases do without the framework's rows. -/
theorem WellFormed.vendorPart (w : t.WellFormed)
    (ha : ∀ a ∈ t.rows, a.role = .legacy → ∃ c ∈ t.rows, c.role.givesSymbol ∧ c.value = a.value) :
    t.vendorPart.WellFormed where
  symbols := by
    rw [vendorPart_entries]
    exact w.symbols.sublist (List.sublist_append_left ..)
  values := by
    rw [vendorPart_entries]
    exact w.values.sublist (List.sublist_append_left ..)
  aliases a hm hr := by
    rw [vendorPart_entries] at hm
    obtain ⟨c, hc, hg, hv⟩ := ha a hm hr
    exact ⟨c, mem_vendorPart_canonical.2 ⟨hc, hg⟩, hv⟩
  sentinels s hm hr c hc := by
    rw [vendorPart_entries] at hm
    obtain ⟨hc, hg⟩ := mem_vendorPart_canonical.1 hc
    exact w.sentinels s (mem_entries_of_rows hm) hr c
      (mem_canonical.2 ⟨mem_entries_of_rows hc, hg⟩)

end AudioHal.Table
