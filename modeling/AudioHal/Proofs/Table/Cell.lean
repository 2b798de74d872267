import AudioHal.Proofs.Table.Roles

/-! # Parsing into a cell

A cell that is parsed into takes the value of a symbol that has one, and a symbol without a value
leaves it alone. Nothing is needed for this, of the table or of the values: a hit is told by the
answer and not by the cell, which may hold the same as before.

* `Table.parseInto_eq`: one call, from any cell.
* `Table.lastParsed?`, `Table.parseAllInto_eq`: a run answers symbol by symbol and leaves the value
  of the last symbol that has one.
* `Table.parseAllInto_of_misses`: calls that miss can be left out of a run.
* `Table.misses_immaterial`: all of it, said of the calls.
-/

set_option autoImplicit false

namespace AudioHal.Table

variable {α : Type} {t : Table α} {b : Build} {symbols : List String} {a : α}

/-! ## One call -/

theorem parseInto_eq (t : Table α) (b : Build) (s : String) (cell : α) :
    t.parseInto b s cell = ((t.parse b s).isSome, (t.parse b s).getD cell) := by
  unfold parseInto
  cases t.parse b s <;> rfl

/-! ## Runs -/

/-- The value of the last symbol that has one. -/
def lastParsed? (t : Table α) (b : Build) (symbols : List String) : Option α :=
  symbols.reverse.findSome? (t.parse b)

theorem lastParsed?_cons (t : Table α) (b : Build) (s : String) (rest : List String) :
    t.lastParsed? b (s :: rest) = (t.lastParsed? b rest).or (t.parse b s) := by
  rw [lastParsed?, List.reverse_cons, List.findSome?_append, List.findSome?_singleton, lastParsed?]

theorem lastParsed?_eq_none_iff :
    t.lastParsed? b symbols = none ↔ ∀ s ∈ symbols, t.parse b s = none := by
  simp only [lastParsed?, List.findSome?_eq_none_iff, List.mem_reverse]

theorem lastParsed?_eq_some_iff :
    t.lastParsed? b symbols = some a ↔ ∃ before s after, symbols = before ++ s :: after ∧
      t.parse b s = some a ∧ ∀ later ∈ after, t.parse b later = none := by
  rw [lastParsed?, List.findSome?_eq_some_iff]
  constructor
  · rintro ⟨after, s, before, hs, hp, hafter⟩
    refine ⟨before.reverse, s, after.reverse, ?_, hp, fun later hl => ?_⟩
    · rw [← List.reverse_reverse symbols, hs]
      simp
    · exact hafter later (List.mem_reverse.1 hl)
  · rintro ⟨before, s, after, rfl, hp, hafter⟩
    refine ⟨after.reverse, s, before.reverse, by simp, hp, fun later hl => ?_⟩
    exact hafter later (List.mem_reverse.1 hl)

/-- A run, from any cell: the cell counts only as long as nothing has been parsed. -/
theorem parseAllInto_eq (t : Table α) (b : Build) (symbols : List String) (cell : α) :
    t.parseAllInto b symbols cell =
      (symbols.map fun s => (t.parse b s).isSome, (t.lastParsed? b symbols).getD cell) := by
  induction symbols generalizing cell with
  | nil => rfl
  | cons s rest ih =>
    rw [parseAllInto, parseInto_eq]
    simp only [ih, List.map_cons, lastParsed?_cons, Option.getD_or]

/-! ## Misses -/

/-- Calls of symbols without a value can be left out. Each call is marked by whether it stays. -/
theorem lastParsed?_of_misses {calls : List (String × Bool)}
    (h : ∀ c ∈ calls, c.2 = false → t.parse b c.1 = none) :
    t.lastParsed? b ((calls.filter (·.2)).map (·.1)) = t.lastParsed? b (calls.map (·.1)) := by
  induction calls with
  | nil => rfl
  | cons c rest ih =>
    rw [List.forall_mem_cons] at h
    obtain ⟨hc, hrest⟩ := h
    rw [List.map_cons, lastParsed?_cons, ← ih hrest]
    cases hstays : c.2 with
    | true => rw [List.filter_cons_of_pos hstays, List.map_cons, lastParsed?_cons]
    | false =>
      rw [List.filter_cons_of_neg (by simp [hstays]), hc hstays, Option.or_none]

/-- The other calls answer as before, and the run leaves the same in the cell. -/
theorem parseAllInto_of_misses {calls : List (String × Bool)} (cell : α)
    (h : ∀ c ∈ calls, c.2 = false → t.parse b c.1 = none) :
    let all := t.parseAllInto b (calls.map (·.1)) cell
    t.parseAllInto b ((calls.filter (·.2)).map (·.1)) cell =
      (((calls.zip all.1).filter (·.1.2)).map (·.2), all.2) := by
  intro all
  have hanswers : calls.zip all.1 = calls.map fun c => (c, (t.parse b c.1).isSome) := by
    simp only [all, parseAllInto_eq, List.map_map, List.map_prod_left_eq_zip]
    rfl
  rw [hanswers, List.filter_map, List.map_map, parseAllInto_eq, lastParsed?_of_misses h]
  simp only [all, parseAllInto_eq, List.map_map]
  rfl

/-- **A miss never disturbs the cell.** In any table and from any cell, every call of a run answers
whether its symbol has a value, and the cell holds the value of the last symbol that has one, or
what it held before if none has. So calls that miss may be taken out of a run, or put in, anywhere
and as many as one likes: the cell ends the same and the other calls answer the same. -/
theorem misses_immaterial (t : Table α) (b : Build) (cell : α) :
    (∀ symbols, (t.parseAllInto b symbols cell).1 =
      symbols.map fun s => (t.parse b s).isSome) ∧
    (∀ symbols a, (t.parseAllInto b symbols cell).2 = a ↔
      (∃ before s after, symbols = before ++ s :: after ∧ t.parse b s = some a ∧
        ∀ later ∈ after, t.parse b later = none) ∨
      (∀ s ∈ symbols, t.parse b s = none) ∧ cell = a) ∧
    ∀ calls : List (String × Bool), (∀ c ∈ calls, c.2 = false → t.parse b c.1 = none) →
      let all := t.parseAllInto b (calls.map (·.1)) cell
      let kept := t.parseAllInto b ((calls.filter (·.2)).map (·.1)) cell
      kept.2 = all.2 ∧ kept.1 = ((calls.zip all.1).filter (·.1.2)).map (·.2) := by
  refine ⟨fun symbols => ?answers, fun symbols a => ?last, fun calls h => ?misses⟩
  case answers => rw [parseAllInto_eq]
  case last =>
    rw [parseAllInto_eq, Option.getD_eq_iff, lastParsed?_eq_some_iff, lastParsed?_eq_none_iff]
  case misses =>
    intro all kept
    have hkept : kept = (((calls.zip all.1).filter (·.1.2)).map (·.2), all.2) :=
      parseAllInto_of_misses cell h
    rw [hkept]
    exact ⟨rfl, rfl⟩

/-- Between a hit that writes what the cell holds already and one that writes zero, neither the
framework's symbol nor the sentinel's leaves a trace, and a miss that stays still answers so. -/
theorem sample_misses_immaterial :
    let calls := [("SEVEN", false), ("ONE", true), ("INVALID", false), ("one", true),
      ("ZERO", true), ("SEVEN", false)]
    (∀ c ∈ calls, c.2 = false → sample.parse .vendor c.1 = none) ∧
      sample.parseAllInto .vendor (calls.map (·.1)) 1 =
        ([false, true, false, false, true, false], 0) ∧
      sample.parseAllInto .vendor ["ONE", "one", "ZERO"] 1 = ([true, false, true], 0) := by
  intro calls
  have hmiss : ∀ c ∈ calls, c.2 = false → sample.parse .vendor c.1 = none := by decide +kernel
  have hall : sample.parseAllInto .vendor (calls.map (·.1)) 1 =
      ([false, true, false, false, true, false], 0) := by
    decide +kernel
  obtain ⟨hcell, hanswers⟩ := (misses_immaterial sample .vendor 1).2.2 calls hmiss
  rw [hall] at hcell hanswers
  exact ⟨hmiss, hall, Prod.ext hanswers hcell⟩

end AudioHal.Table
