import AudioHal.Proofs.Table.Roles

/-! # Roles kept apart

A scan passes over the rows whose role has no part in it, so that such rows may come and go anywhere
without a trace. This holds of every table, also of one that its check rejects, where a sentinel or
an alias may stand before the row whose symbol or value it repeats.

* `Table.Edited`: rows of one role come in and go out. By `Table.edited_iff` that is to have the
  same rows of the other roles in the same order.
* `Table.Edited.filter_eq`: hence a scan over other roles goes through the same rows.
* `Table.Edited.project_congr`, `Table.Edited.parseWith_congr`: hence it finds the same.
* `Table.parseWith_of_named`: an alias does not matter to a symbol that a row has for its own.
* `Table.project_of_append`: a row at the end does not matter to a value that has a symbol.
* `Table.roles_isolated`: all of it together.
-/

set_option autoImplicit false

namespace AudioHal.Table

variable {α : Type} {r : Role} {l l' l'' before after : List (Entry α)} {e : Entry α}

/-! ## Edits -/

/-- Rows of one role come in or go out, one at a time and anywhere. -/
inductive Edited (r : Role) : List (Entry α) → List (Entry α) → Prop
  | refl (l : List (Entry α)) : Edited r l l
  | insert {l before after : List (Entry α)} {e : Entry α} :
      Edited r l (before ++ after) → e.role = r → Edited r l (before ++ e :: after)
  | delete {l before after : List (Entry α)} {e : Entry α} :
      Edited r l (before ++ e :: after) → e.role = r → Edited r l (before ++ after)

theorem filter_insert_row {p : Role → Bool} (he : p e.role = false) :
    (before ++ e :: after).filter (p ·.role) = (before ++ after).filter (p ·.role) := by
  rw [List.filter_append, List.filter_cons_of_neg (by rw [he]; decide), List.filter_append]

theorem Edited.filter_eq (h : Edited r l l') (p : Role → Bool) (hp : p r = false) :
    l.filter (p ·.role) = l'.filter (p ·.role) := by
  induction h with
  | refl => rfl
  | insert _ he ih =>
    subst he
    rw [ih, filter_insert_row hp]
  | delete _ he ih =>
    subst he
    rw [ih, filter_insert_row hp]

theorem Edited.trans (h : Edited r l l') (h' : Edited r l' l'') : Edited r l l'' := by
  induction h' with
  | refl => exact h
  | insert _ he ih => exact ih.insert he
  | delete _ he ih => exact ih.delete he

theorem Edited.symm (h : Edited r l l') : Edited r l' l := by
  induction h with
  | refl => exact .refl _
  | insert _ he ih => exact ((Edited.refl _).delete he).trans ih
  | delete _ he ih => exact ((Edited.refl _).insert he).trans ih

theorem edited_filter (r : Role) (before l : List (Entry α)) :
    Edited r (before ++ l) (before ++ l.filter (·.role != r)) := by
  -- the rows in front are any, since those that stay join them
  induction l generalizing before with
  | nil => exact .refl _
  | cons e l ih =>
    by_cases he : e.role = r
    · rw [List.filter_cons_of_neg (by simp [he])]
      exact ((Edited.refl _).delete he).trans (ih before)
    · rw [List.filter_cons_of_pos (by simp [he])]
      simpa only [List.append_assoc, List.cons_append, List.nil_append] using ih (before ++ [e])

theorem edited_iff : Edited r l l' ↔ l.filter (·.role != r) = l'.filter (·.role != r) := by
  constructor
  · intro h
    exact h.filter_eq (· != r) (by simp)
  · intro h
    have hl := edited_filter r [] l
    rw [List.nil_append, h] at hl
    exact hl.trans (edited_filter r [] l').symm

/-! ## Parsing -/

variable {t u : Table α} {s : String} {v : Visibility}

theorem Edited.named_eq (h : Edited r t.entries u.entries) (hr : r.isNamedBy v = false) :
    t.entries.filter (·.role.isNamedBy v) = u.entries.filter (·.role.isNamedBy v) :=
  h.filter_eq (Role.isNamedBy v) hr

theorem Edited.aliases_eq (h : Edited r t.entries u.entries) (hr : r ≠ .legacy) :
    t.aliases = u.aliases :=
  h.filter_eq (· == .legacy) (beq_false_of_ne hr)

/-- Rows that cannot be parsed do not matter to a parse. -/
theorem Edited.parseWith_congr (h : Edited r t.entries u.entries) (hr : r.isParsed v = false)
    (s : String) : t.parseWith s v = u.parseWith s v := by
  rw [Role.isParsed, Bool.or_eq_false_iff, beq_eq_false_iff_ne] at hr
  rw [parseWith_eq, parseWith_eq, h.named_eq hr.1, h.aliases_eq hr.2]

/-- A symbol that some row has for its own is parsed without a look at the aliases. -/
theorem parseWith_of_named (h : ∃ e ∈ t.entries, e.role.isNamedBy v ∧ e.symbol = s) :
    t.parseWith s v =
      ((t.entries.filter (·.role.isNamedBy v)).find? (·.symbol == s)).map (·.value) := by
  obtain ⟨e, he, hr, hs⟩ := h
  have hfound : ((t.entries.filter (·.role.isNamedBy v)).find? (·.symbol == s)).isSome :=
    List.find?_isSome.2 ⟨e, List.mem_filter.2 ⟨he, hr⟩, beq_iff_eq.2 hs⟩
  rw [parseWith_eq, Option.or_of_isSome hfound]

theorem Edited.mem_of_ne (h : Edited r l l') (he : e ∈ l) (hr : e.role ≠ r) : e ∈ l' := by
  have hf : e ∈ l.filter (·.role != r) := List.mem_filter.2 ⟨he, by simpa using hr⟩
  rw [edited_iff.1 h] at hf
  exact (List.mem_filter.1 hf).1

theorem Edited.parseWith_congr_of_named (h : Edited .legacy t.entries u.entries)
    (hn : ∃ e ∈ t.entries, e.role.isNamedBy v ∧ e.symbol = s) :
    t.parseWith s v = u.parseWith s v := by
  have hu : ∃ e ∈ u.entries, e.role.isNamedBy v ∧ e.symbol = s := by
    obtain ⟨e, he, hr, hs⟩ := hn
    -- that row is no alias, so it is there after the edits too
    refine ⟨e, h.mem_of_ne he fun hl => ?_, hr, hs⟩
    rw [hl] at hr
    cases hr
  rw [parseWith_of_named hn, parseWith_of_named hu, h.named_eq rfl]

/-! ## Projecting -/

variable [DecidableEq α]

/-- Rows that give no symbols do not matter to a projection. -/
theorem Edited.project_congr (h : Edited r t.entries u.entries) (hr : r.givesSymbol = false) (a : α) :
    t.project a = u.project a := by
  have hc : t.canonical = u.canonical := h.filter_eq Role.givesSymbol hr
  rw [project, project, hc]

/-- The first row that fits stays the first one. -/
theorem project_of_append {more : List (Entry α)} (h : u.entries = t.entries ++ more) {a : α}
    (hs : t.project a = some s) : u.project a = some s := by
  obtain ⟨e, he, rfl⟩ := Option.map_eq_some_iff.1 hs
  have hc : u.canonical = t.canonical ++ more.filter (·.role.givesSymbol) := by
    rw [canonical, h, List.filter_append]
    rfl
  rw [project, hc, List.find?_append, he, Option.some_or, Option.map_some]

/-! ## All roles -/

/-- **Rows answer for their own role only, in any table.** Sentinels may come and go anywhere without
a change of any answer. Aliases may do so without a change of any projection, and of the parse of
any symbol that a row has for its own. The framework's rows may do so without a change of any parse
of the vendor. Rows put at the end do not change the symbol of a value that has one. -/
theorem roles_isolated (α : Type) [DecidableEq α] :
    (∀ t u : Table α, Edited .sentinel t.entries u.entries →
      (∀ a, t.project a = u.project a) ∧ ∀ s v, t.parseWith s v = u.parseWith s v) ∧
    (∀ t u : Table α, Edited .legacy t.entries u.entries →
      (∀ a, t.project a = u.project a) ∧
      ∀ s v, (∃ e ∈ t.entries, e.symbol = s ∧
          (e.role = .canonical ∨ e.role = .frameworkOnly ∧ v = .framework)) →
        t.parseWith s v = u.parseWith s v) ∧
    (∀ t u : Table α, Edited .frameworkOnly t.entries u.entries →
      ∀ s, t.parseWith s .vendor = u.parseWith s .vendor) ∧
    ∀ (t u : Table α) more, u.entries = t.entries ++ more →
      ∀ a s, t.project a = some s → u.project a = some s := by
  refine ⟨fun t u h => ⟨h.project_congr rfl, fun s v => ?sentinels⟩,
    fun t u h => ⟨h.project_congr rfl, fun s v hn => ?aliases⟩,
    fun t u h => h.parseWith_congr rfl, fun t u more h a s => project_of_append h⟩
  case sentinels => exact h.parseWith_congr (Role.isParsed_sentinel v) s
  case aliases =>
    obtain ⟨e, he, hs, hr⟩ := hn
    exact h.parseWith_congr_of_named ⟨e, he, Role.isNamedBy_iff.2 hr, hs⟩

/-- The small table with one more row, in front of all others. -/
def sampleBehind (e : Entry UInt32) : Table UInt32 :=
  { sample with rows := e :: sample.rows }

theorem sampleBehind_edited (e : Entry UInt32) :
    Edited e.role sample.entries (sampleBehind e).entries :=
  @Edited.insert _ _ _ [] _ e (.refl _) rfl

/-- A row in front that repeats a symbol of the small table is seen by its own role alone, although
the check rejects the table for it. -/
theorem sampleBehind_roles_isolated :
    (sampleBehind (.sentinel "ONE" 0)).validate ≠ .ok () ∧
      (sampleBehind (.sentinel "ONE" 0)).parseWith "ONE" .vendor = some 1 ∧
      (sampleBehind (.legacy "ONE" 0)).parseWith "ONE" .vendor = some 1 ∧
      (sampleBehind (.frameworkOnly "ONE" 0)).parseWith "ONE" .vendor = some 1 ∧
      (sampleBehind (.frameworkOnly "ONE" 0)).parseWith "ONE" .framework = some 0 ∧
      project { sample with frameworkRows := sample.frameworkRows ++ [.canonical "EINS" 1] } 1
        = some "ONE" := by
  obtain ⟨hs, ha, hf, hmore⟩ := roles_isolated UInt32
  have hone : sample.parseWith "ONE" .vendor = some 1 := by decide +kernel
  refine ⟨?_, ?_, ?_, ?_, by decide +kernel, ?_⟩
  · rw [ne_eq, validate_eq_ok_iff]
    decide +kernel
  · rw [← (hs _ _ (sampleBehind_edited (.sentinel "ONE" 0))).2, hone]
  · have hrow : ∃ e ∈ sample.entries, e.symbol = "ONE" ∧
        (e.role = .canonical ∨ e.role = .frameworkOnly ∧ Visibility.vendor = .framework) := by
      decide +kernel
    rw [← (ha _ _ (sampleBehind_edited (.legacy "ONE" 0))).2 "ONE" .vendor hrow, hone]
  · rw [← hf _ _ (sampleBehind_edited (.frameworkOnly "ONE" 0)), hone]
  · exact hmore sample _ _ (List.append_assoc ..).symm 1 "ONE" (by decide +kernel)

end AudioHal.Table
