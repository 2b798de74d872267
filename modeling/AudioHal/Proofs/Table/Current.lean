import AudioHal.Proofs.Table.Roles

/-! # Current symbols

An older symbol is still understood, but the value that it stands for goes by its canonical symbol.
`Table.current` puts the one in place of the other.

* `Table.current_of_not_alias`, `Table.WellFormed.current_alias`: an alias gives way to the symbol
  of its value, and any other string stays.
* `Table.WellFormed.project_of_parseWith`: the symbol of what has been parsed is the current one.
* `Table.WellFormed.current_current`: a current symbol stays.
-/

set_option autoImplicit false

namespace AudioHal.Table

variable {α : Type} [DecidableEq α] {t : Table α} {s : String} {e : Entry α}

/-- The symbol to use in place of a string: for an alias that of its value, else the string. -/
def current (t : Table α) (s : String) : String :=
  ((t.aliases.find? (·.symbol == s)).bind fun e => t.project e.value).getD s

theorem current_of_not_alias (h : ∀ e ∈ t.aliases, e.symbol ≠ s) : t.current s = s := by
  have hn : t.aliases.find? (·.symbol == s) = none := by simpa using h
  rw [current, hn, Option.bind_none, Option.getD_none]

omit [DecidableEq α] in
theorem WellFormed.find?_alias (w : t.WellFormed) (he : e ∈ t.aliases) :
    t.aliases.find? (·.symbol == e.symbol) = some e := by
  refine (find?_eq_some_iff fun x hx y hy hxe hye => ?_).2 ⟨he, beq_self_eq_true _⟩
  have hxy : x.symbol = y.symbol := (eq_of_beq hxe).trans (eq_of_beq hye).symm
  exact w.symbolsUnique x (mem_aliases.1 hx).1 y (mem_aliases.1 hy).1 hxy

theorem WellFormed.current_alias (w : t.WellFormed) (he : e ∈ t.aliases) :
    t.project e.value = some (t.current e.symbol) := by
  obtain ⟨hm, hl⟩ := mem_aliases.1 he
  obtain ⟨c, hc, -⟩ := w.project_alias hm hl
  rw [current, w.find?_alias he, Option.bind_some, hc, Option.getD_some]

theorem WellFormed.current_row (w : t.WellFormed) (he : e ∈ t.canonical) :
    t.current e.symbol = e.symbol := by
  obtain ⟨hm, hg⟩ := mem_canonical.1 he
  refine current_of_not_alias fun a ha hs => ?_
  obtain ⟨hma, hl⟩ := mem_aliases.1 ha
  rw [← w.symbolsUnique a hma e hm hs, hl] at hg
  cases hg

theorem WellFormed.project_of_parseWith (w : t.WellFormed) {v : Visibility} {a : α}
    (h : t.parseWith s v = some a) : t.project a = some (t.current s) := by
  obtain ⟨e, he, hp, rfl, rfl⟩ := exists_of_parseWith_eq_some h
  rcases Role.givesSymbol_or_legacy hp with hg | hl
  · rw [w.current_row (mem_canonical.2 ⟨he, hg⟩)]
    exact w.project_row he hg
  · exact w.current_alias (mem_aliases.2 ⟨he, hl⟩)

theorem WellFormed.current_current (w : t.WellFormed) (s : String) :
    t.current (t.current s) = t.current s := by
  by_cases h : ∃ e ∈ t.aliases, e.symbol = s
  · obtain ⟨e, he, rfl⟩ := h
    obtain ⟨c, hc, -, hs⟩ := (project_eq_some_iff w.valuesUnique).1 (w.current_alias he)
    rw [← hs]
    exact w.current_row hc
  · have hs : t.current s = s := current_of_not_alias fun e he hes => h ⟨e, he, hes⟩
    rw [hs, hs]

end AudioHal.Table
