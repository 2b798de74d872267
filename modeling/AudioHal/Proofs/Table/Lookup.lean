import AudioHal.Table.Validate

/-! # Looking rows up

What the two directions of a table answer, said of its rows and without the order of the scans.

* `Table.project_eq_none_iff`, `Table.parseWith_eq_none_iff` (any table): a direction has no answer
  exactly when no row that takes part in it fits.
* `Table.project_eq_some_iff`, `Table.parseWith_eq_some_iff`: where symbols or values tell rows
  apart (`Table.SymbolsUnique`, `Table.ValuesUnique`), the answer is that of any row that fits.
* `Table.parseWith_congr`, `Table.project_congr`: two such tables with the same rows taking part
  answer alike.
* `Table.validate_eq_ok_iff`: the check accepts exactly the well-formed tables, where symbols and
  values do tell rows apart.
-/

set_option autoImplicit false

namespace AudioHal

/-! ## Roles -/

namespace Role

/-- Whether rows of this role can be parsed, seen with visibility `v`. -/
def isParsed (v : Visibility) (r : Role) : Bool :=
  r.isNamedBy v || r == .legacy

theorem givesSymbol_iff {r : Role} : r.givesSymbol ↔ r = .canonical ∨ r = .frameworkOnly := by
  cases r <;> decide

theorem isNamedBy_iff {v : Visibility} {r : Role} :
    r.isNamedBy v ↔ r = .canonical ∨ r = .frameworkOnly ∧ v = .framework := by
  cases v <;> cases r <;> decide

/-- A row that can be parsed has a symbol of its own or is an alias. -/
theorem givesSymbol_or_legacy {v : Visibility} {r : Role} (h : r.isParsed v) :
    r.givesSymbol ∨ r = .legacy := by
  cases v <;> cases r <;> first | exact .inl rfl | exact .inr rfl | cases h

theorem isParsed_framework {r : Role} (h : r.givesSymbol) : r.isParsed .framework := by
  cases r <;> first | rfl | cases h

theorem isParsed_sentinel (v : Visibility) : Role.sentinel.isParsed v = false := by
  cases v <;> rfl

/-- Only the framework's rows depend on who looks. -/
theorem isParsed_eq {r : Role} (h : r ≠ .frameworkOnly) (v v' : Visibility) :
    r.isParsed v = r.isParsed v' := by
  cases r with
  | frameworkOnly => exact absurd rfl h
  | canonical | legacy | sentinel => cases v <;> cases v' <;> rfl

end Role

namespace Table

variable {α : Type} {t u : Table α}

/-- Where at most one element has a property, looking for it finds exactly that element. -/
theorem find?_eq_some_iff {β : Type} {l : List β} {p : β → Bool} {b : β}
    (h : ∀ x ∈ l, ∀ y ∈ l, p x → p y → x = y) : l.find? p = some b ↔ b ∈ l ∧ p b := by
  constructor
  · intro hb
    exact ⟨List.mem_of_find?_eq_some hb, List.find?_some hb⟩
  · rintro ⟨hb, hp⟩
    obtain ⟨x, hx⟩ := Option.isSome_iff_exists.1 (List.find?_isSome.2 ⟨b, hb, hp⟩)
    rw [hx, h x (List.mem_of_find?_eq_some hx) b hb (List.find?_some hx) hp]

/-! ## Rows -/

theorem mem_entries {e : Entry α} : e ∈ t.entries ↔ e ∈ t.rows ∨ e ∈ t.frameworkRows :=
  List.mem_append

theorem mem_canonical {e : Entry α} : e ∈ t.canonical ↔ e ∈ t.entries ∧ e.role.givesSymbol :=
  List.mem_filter

theorem mem_aliases {e : Entry α} : e ∈ t.aliases ↔ e ∈ t.entries ∧ e.role = .legacy := by
  rw [aliases, List.mem_filter, beq_iff_eq]

/-- No two rows have the same symbol. -/
def SymbolsUnique (t : Table α) : Prop :=
  ∀ a ∈ t.entries, ∀ b ∈ t.entries, a.symbol = b.symbol → a = b

/-- No two rows give their symbols to the same value. -/
def ValuesUnique (t : Table α) : Prop :=
  ∀ a ∈ t.canonical, ∀ b ∈ t.canonical, a.value = b.value → a = b

/-! ## Parsing -/

/-- The scans of a parse, in one: rows with a symbol of their own first, aliases after them. -/
theorem parseWith_eq (t : Table α) (s : String) (v : Visibility) :
    t.parseWith s v = (((t.entries.filter (·.role.isNamedBy v)).find? (·.symbol == s)).or
      (t.aliases.find? (·.symbol == s))).map (·.value) := by
  simp only [parseWith, Option.orElse_eq_orElse, Option.orElse_eq_or]

theorem parseWith_eq_none_iff {s : String} {v : Visibility} :
    t.parseWith s v = none ↔ ∀ e ∈ t.entries, e.role.isParsed v → e.symbol ≠ s := by
  simp only [parseWith_eq, Option.map_eq_none_iff, Option.or_eq_none_iff, List.find?_eq_none,
    List.mem_filter, mem_aliases, Role.isParsed, Bool.or_eq_true, beq_iff_eq, ne_eq]
  constructor
  · rintro ⟨hn, ha⟩ e he (hr | hr)
    · exact hn e ⟨he, hr⟩
    · exact ha e ⟨he, hr⟩
  · intro h
    exact ⟨fun e he => h e he.1 (.inl he.2), fun e he => h e he.1 (.inr he.2)⟩

/-- Whatever a symbol is parsed to comes from a row (any table). -/
theorem exists_of_parseWith_eq_some {s : String} {v : Visibility} {a : α}
    (h : t.parseWith s v = some a) :
    ∃ e ∈ t.entries, e.role.isParsed v ∧ e.symbol = s ∧ e.value = a := by
  rw [parseWith_eq, Option.map_eq_some_iff] at h
  obtain ⟨e, he, rfl⟩ := h
  rcases Option.or_eq_some_iff.1 he with hf | ⟨-, hf⟩
  · obtain ⟨hm, hr⟩ := List.mem_filter.1 (List.mem_of_find?_eq_some hf)
    have hs := List.find?_some hf
    exact ⟨e, hm, by rw [Role.isParsed, hr, Bool.true_or], eq_of_beq hs, rfl⟩
  · obtain ⟨hm, hr⟩ := mem_aliases.1 (List.mem_of_find?_eq_some hf)
    have hs := List.find?_some hf
    exact ⟨e, hm, by rw [Role.isParsed, hr, beq_self_eq_true, Bool.or_true], eq_of_beq hs, rfl⟩

theorem parseWith_eq_some_iff (hu : t.SymbolsUnique) {s : String} {v : Visibility} {a : α} :
    t.parseWith s v = some a ↔
      ∃ e ∈ t.entries, e.role.isParsed v ∧ e.symbol = s ∧ e.value = a := by
  constructor
  · exact exists_of_parseWith_eq_some
  · rintro ⟨e, he, hr, rfl, rfl⟩
    -- some row answers, and it can be no other than `e`
    cases h : t.parseWith e.symbol v with
    | none => exact absurd rfl (parseWith_eq_none_iff.1 h e he hr)
    | some a =>
      obtain ⟨d, hd, -, hs, rfl⟩ := exists_of_parseWith_eq_some h
      rw [hu d hd e he hs]

theorem parseWith_congr (ht : t.SymbolsUnique) (hu : u.SymbolsUnique) {v v' : Visibility}
    (h : ∀ e, e ∈ t.entries ∧ e.role.isParsed v ↔ e ∈ u.entries ∧ e.role.isParsed v')
    (s : String) : t.parseWith s v = u.parseWith s v' := by
  apply Option.ext
  intro a
  rw [parseWith_eq_some_iff ht, parseWith_eq_some_iff hu]
  constructor
  · rintro ⟨e, he, hr, hsa⟩
    exact ⟨e, ((h e).1 ⟨he, hr⟩).1, ((h e).1 ⟨he, hr⟩).2, hsa⟩
  · rintro ⟨e, he, hr, hsa⟩
    exact ⟨e, ((h e).2 ⟨he, hr⟩).1, ((h e).2 ⟨he, hr⟩).2, hsa⟩

/-! ## Projecting -/

variable [DecidableEq α]

theorem project_eq_none_iff {a : α} : t.project a = none ↔ ∀ e ∈ t.canonical, e.value ≠ a := by
  simp only [project, Option.map_eq_none_iff, List.find?_eq_none, beq_iff_eq, ne_eq]

theorem project_eq_some_iff (hu : t.ValuesUnique) {a : α} {s : String} :
    t.project a = some s ↔ ∃ e ∈ t.canonical, e.value = a ∧ e.symbol = s := by
  have huv : ∀ x ∈ t.canonical, ∀ y ∈ t.canonical, x.value == a → y.value == a → x = y :=
    fun x hx y hy hxa hya => hu x hx y hy ((eq_of_beq hxa).trans (eq_of_beq hya).symm)
  simp only [project, Option.map_eq_some_iff, find?_eq_some_iff huv, beq_iff_eq, and_assoc]

theorem project_congr (ht : t.ValuesUnique) (hu : u.ValuesUnique)
    (h : ∀ e, e ∈ t.canonical ↔ e ∈ u.canonical) (a : α) : t.project a = u.project a := by
  apply Option.ext
  intro s
  simp only [project_eq_some_iff ht, project_eq_some_iff hu, h]

/-! ## The check -/

theorem clash?_eq_none_iff {d : Domain} {a b : Entry α} :
    a.clash? d b = none ↔ a.symbol ≠ b.symbol ∧ ¬a.SharesValue b := by
  unfold Entry.clash?
  by_cases hs : a.symbol = b.symbol
  · simp only [hs, ↓reduceIte, reduceCtorEq, ne_eq, not_true_eq_false, false_and]
  · by_cases hv : a.SharesValue b
    · simp only [hs, hv, ↓reduceIte, reduceCtorEq, not_true_eq_false, and_false]
    · simp only [hs, hv, ↓reduceIte, ne_eq, not_false_eq_true, and_self]

theorem pairError?_eq_none_iff {d : Domain} {l : List (Entry α)} :
    pairError? d l = none ↔
      l.Pairwise (fun a b => a.symbol ≠ b.symbol) ∧ l.Pairwise fun a b => ¬a.SharesValue b := by
  rw [← List.pairwise_and_iff]
  induction l with
  | nil => exact ⟨fun _ => .nil, fun _ => rfl⟩
  | cons e rest ih =>
    simp only [pairError?, Option.orElse_eq_orElse, Option.orElse_eq_or, Option.or_eq_none_iff,
      List.findSome?_eq_none_iff, clash?_eq_none_iff, List.pairwise_cons, ih]

theorem rowError?_eq_none_iff {e : Entry α} :
    t.rowError? e = none ↔
      (e.role = .legacy → ∃ c ∈ t.canonical, c.value = e.value) ∧
        (e.role = .sentinel → ∀ c ∈ t.canonical, c.value ≠ e.value) := by
  have hsome : (∃ c ∈ t.canonical, c.value = e.value) ↔ t.project e.value ≠ none := by
    simp only [ne_eq, project_eq_none_iff, Classical.not_forall, Classical.not_not, exists_prop]
  rw [hsome, ← project_eq_none_iff]
  unfold rowError?
  cases e.role <;> cases t.project e.value <;> simp

theorem validate_eq_ok_iff_passes : t.validate = .ok () ↔
    pairError? t.domain t.entries = none ∧ t.entries.findSome? t.rowError? = none := by
  rw [← Option.or_eq_none_iff, validate]
  simp only [Option.orElse_eq_orElse, Option.orElse_eq_or]
  cases (pairError? t.domain t.entries).or (t.entries.findSome? t.rowError?) <;> simp

/-- The check accepts exactly the well-formed tables. -/
theorem validate_eq_ok_iff : t.validate = .ok () ↔ t.WellFormed := by
  rw [validate_eq_ok_iff_passes, pairError?_eq_none_iff, List.findSome?_eq_none_iff]
  simp only [rowError?_eq_none_iff]
  constructor
  · rintro ⟨⟨hs, hv⟩, hr⟩
    exact ⟨hs, hv, fun a ha => (hr a ha).1, fun s hs => (hr s hs).2⟩
  · rintro ⟨hs, hv, ha, hn⟩
    exact ⟨⟨hs, hv⟩, fun e he => ⟨ha e he, hn e he⟩⟩

omit [DecidableEq α] in
theorem WellFormed.symbolsUnique (w : t.WellFormed) : t.SymbolsUnique := by
  have hs : t.entries.Pairwise fun a b => a.symbol = b.symbol → a = b :=
    w.symbols.imp fun hn he => absurd he hn
  have hf : t.entries.Pairwise (flip fun a b => a.symbol = b.symbol → a = b) :=
    w.symbols.imp fun hn he => absurd he.symm hn
  intro a ha b hb
  exact hs.forall_of_forall_of_flip (fun _ _ _ => rfl) hf ha hb

omit [DecidableEq α] in
theorem valuesUnique_of_pairwise (h : t.entries.Pairwise fun a b => ¬a.SharesValue b) :
    t.ValuesUnique := by
  have hs : t.entries.Pairwise fun a b => a.SharesValue b → a = b :=
    h.imp fun hn he => absurd he hn
  have hf : t.entries.Pairwise (flip fun a b => a.SharesValue b → a = b) :=
    h.imp fun hn he => absurd ⟨he.2.1, he.1, he.2.2.symm⟩ hn
  intro a ha b hb hv
  obtain ⟨ha, hra⟩ := mem_canonical.1 ha
  obtain ⟨hb, hrb⟩ := mem_canonical.1 hb
  exact hs.forall_of_forall_of_flip (fun _ _ _ => rfl) hf ha hb ⟨hra, hrb, hv⟩

omit [DecidableEq α] in
theorem WellFormed.valuesUnique (w : t.WellFormed) : t.ValuesUnique :=
  valuesUnique_of_pairwise w.values

instance (t : Table α) : Decidable t.WellFormed :=
  decidable_of_iff (t.validate.toBool = true) <| by
    rw [← validate_eq_ok_iff]
    cases t.validate <;> simp [Except.toBool]

end Table

end AudioHal
