import AudioHal.Proofs.Table.Lookup

/-! # Whom the check blames

A table may break its rules in many places at once. The check names one of them: the first pair of
rows that clash, or where no two rows do the first row that is wrong by itself.

* `Table.Clash`, `Table.FirstClash`: two rows with a symbol or a named value in common, by position,
  and the first such pair, where the position of the earlier row counts before that of the later.
* `Table.Misfit`, `Table.FirstMisfit`: a row that breaks a rule by itself, and the first such row.
* `Table.pairError?_eq_some_iff`, `Table.findSome?_rowError?_eq_some_iff`: what the two passes of
  the check find.
* `Table.Blames`: the complaint that a table deserves, with a rule for each kind.
* `Table.blames_first`: the check fails with the complaint that the table deserves.
-/

set_option autoImplicit false

namespace AudioHal

variable {α : Type}

/-- Two rows have their symbol, or a value that both name, in common. -/
def Entry.Clashes (a b : Entry α) : Prop :=
  a.symbol = b.symbol ∨ a.SharesValue b

namespace Table

variable {l passed after : List (Entry α)} {i i' j j' k k' : Nat} {a a' b b' e e' : Entry α}

/-! ## Pairs of rows -/

/-- The rows at two positions, the earlier one first, clash. -/
structure Clash (l : List (Entry α)) (i j : Nat) (a b : Entry α) : Prop where
  lt : i < j
  first : l[i]? = some a
  second : l[j]? = some b
  clashes : a.Clashes b

/-- No pair of positions before these holds a clash. -/
structure FirstClash (l : List (Entry α)) (i j : Nat) (a b : Entry α) : Prop
    extends Clash l i j a b where
  least : ∀ i' j' a' b', Clash l i' j' a' b' → i < i' ∨ i = i' ∧ j ≤ j'

theorem FirstClash.unique (h : FirstClash l i j a b) (h' : FirstClash l i' j' a' b') :
    a = a' ∧ b = b' := by
  have hle := h.least i' j' a' b' h'.toClash
  have hge := h'.least i j a b h.toClash
  obtain rfl : i = i' := by omega
  obtain rfl : j = j' := by omega
  have ha := h.first.symm.trans h'.first
  have hb := h.second.symm.trans h'.second
  exact ⟨Option.some.inj ha, Option.some.inj hb⟩

theorem clash_cons_succ : Clash (e :: l) (i + 1) (j + 1) a b ↔ Clash l i j a b :=
  ⟨fun h => ⟨Nat.lt_of_succ_lt_succ h.lt, h.first, h.second, h.clashes⟩,
    fun h => ⟨Nat.succ_lt_succ h.lt, h.first, h.second, h.clashes⟩⟩

theorem clash_cons_zero :
    Clash (e :: l) 0 (j + 1) a b ↔ e = a ∧ l[j]? = some b ∧ a.Clashes b :=
  ⟨fun h => ⟨Option.some.inj h.first, h.second, h.clashes⟩,
    fun h => ⟨Nat.succ_pos j, congrArg some h.1, h.2.1, h.2.2⟩⟩

theorem clash_free_iff :
    (∀ i j a b, ¬Clash l i j a b) ↔ l.Pairwise fun a b => ¬a.Clashes b := by
  rw [List.pairwise_iff_getElem]
  constructor
  · intro h i j hi hj hlt hc
    exact h i j l[i] l[j] ⟨hlt, List.getElem?_eq_getElem hi, List.getElem?_eq_getElem hj, hc⟩
  · rintro h i j a b ⟨hlt, ha, hb, hc⟩
    obtain ⟨hi, rfl⟩ := List.getElem?_eq_some_iff.1 ha
    obtain ⟨hj, rfl⟩ := List.getElem?_eq_some_iff.1 hb
    exact h i j hi hj hlt hc

theorem firstClash_front (hp : ∀ x ∈ passed, ¬e.Clashes x) (hb : e.Clashes b) :
    FirstClash (e :: (passed ++ b :: after)) 0 (passed.length + 1) e b := by
  -- an earlier clash would have the front row clash with one that it has passed
  have hnext : (passed ++ b :: after)[passed.length]? = some b := by simp
  refine ⟨clash_cons_zero.2 ⟨rfl, hnext, hb⟩, ?_⟩
  rintro (_ | i') (_ | j') a' b' h
  · exact absurd h.lt (Nat.lt_irrefl 0)
  · obtain ⟨rfl, hb', hc⟩ := clash_cons_zero.1 h
    refine .inr ⟨rfl, Nat.succ_le_succ (Nat.le_of_not_lt fun hlt => ?_)⟩
    rw [List.getElem?_append_left hlt] at hb'
    exact hp b' (List.mem_of_getElem? hb') hc
  · exact absurd h.lt (Nat.not_lt_zero _)
  · exact .inl (Nat.succ_pos i')

theorem FirstClash.behind (h : FirstClash l i j a b) (hn : ∀ x ∈ l, ¬e.Clashes x) :
    FirstClash (e :: l) (i + 1) (j + 1) a b := by
  refine ⟨clash_cons_succ.2 h.toClash, ?_⟩
  rintro (_ | i') (_ | j') a' b' h'
  · exact absurd h'.lt (Nat.lt_irrefl 0)
  · obtain ⟨rfl, hb', hc⟩ := clash_cons_zero.1 h'
    exact absurd hc (hn b' (List.mem_of_getElem? hb'))
  · exact absurd h'.lt (Nat.not_lt_zero _)
  · have hle := h.least i' j' a' b' (clash_cons_succ.1 h')
    omega

/-! ## The pass over pairs -/

section Pairs

variable [DecidableEq α] {d : Domain} {err : TableError}

theorem clash?_eq_some_iff : a.clash? d b = some err ↔
    a.symbol = b.symbol ∧ err = .duplicateSymbol d a.symbol ∨
      a.symbol ≠ b.symbol ∧ a.SharesValue b ∧ err = .duplicateValue d a.symbol b.symbol := by
  unfold Entry.clash?
  by_cases hs : a.symbol = b.symbol
  · simp [hs, eq_comm]
  · by_cases hv : a.SharesValue b <;> simp [hs, hv, eq_comm]

theorem clashes_of_clash? (h : a.clash? d b = some err) : a.Clashes b := by
  rcases clash?_eq_some_iff.1 h with ⟨hs, -⟩ | ⟨-, hv, -⟩
  · exact .inl hs
  · exact .inr hv

theorem not_clashes_of_clash? (h : a.clash? d b = none) : ¬a.Clashes b :=
  not_or.2 (clash?_eq_none_iff.1 h)

theorem pairError?_eq_none_iff_clash :
    pairError? d l = none ↔ ∀ i j a b, ¬Clash l i j a b := by
  rw [pairError?_eq_none_iff, clash_free_iff, ← List.pairwise_and_iff]
  simp only [Entry.Clashes, not_or]

theorem exists_firstClash (h : pairError? d l = some err) :
    ∃ i j a b, FirstClash l i j a b ∧ a.clash? d b = some err := by
  -- the front row is held against all others before any two of these are
  induction l with
  | nil => cases h
  | cons e rest ih =>
    simp only [pairError?, Option.orElse_eq_orElse, Option.orElse_eq_or,
      Option.or_eq_some_iff] at h
    rcases h with h | ⟨hnone, h⟩
    · obtain ⟨passed, b, after, rfl, hb, hpassed⟩ := List.findSome?_eq_some_iff.1 h
      have hp : ∀ x ∈ passed, ¬e.Clashes x := fun x hx => not_clashes_of_clash? (hpassed x hx)
      exact ⟨0, passed.length + 1, e, b, firstClash_front hp (clashes_of_clash? hb), hb⟩
    · obtain ⟨i, j, a, b, hf, hab⟩ := ih h
      have hn : ∀ x ∈ rest, ¬e.Clashes x := fun x hx =>
        not_clashes_of_clash? (List.findSome?_eq_none_iff.1 hnone x hx)
      exact ⟨i + 1, j + 1, a, b, hf.behind hn, hab⟩

/-- The pass over pairs complains of the first clash. -/
theorem pairError?_eq_some_iff :
    pairError? d l = some err ↔ ∃ i j a b, FirstClash l i j a b ∧ a.clash? d b = some err := by
  refine ⟨exists_firstClash, ?_⟩
  rintro ⟨i, j, a, b, hf, hab⟩
  cases h : pairError? d l with
  | none => exact absurd hf.toClash (pairError?_eq_none_iff_clash.1 h i j a b)
  | some err' =>
    obtain ⟨i', j', a', b', hf', hab'⟩ := exists_firstClash h
    obtain ⟨rfl, rfl⟩ := hf.unique hf'
    exact hab'.symm.trans hab

end Pairs

/-! ## Single rows -/

variable {t : Table α}

/-- The row at a position breaks a rule by itself: an alias of a value without a symbol, or a
sentinel of a value with one. -/
structure Misfit (t : Table α) (k : Nat) (e : Entry α) : Prop where
  row : t.entries[k]? = some e
  misfit : e.role = .legacy ∧ (∀ c ∈ t.canonical, c.value ≠ e.value) ∨
    e.role = .sentinel ∧ ∃ c ∈ t.canonical, c.value = e.value

/-- No row before this one breaks a rule by itself. -/
structure FirstMisfit (t : Table α) (k : Nat) (e : Entry α) : Prop extends Misfit t k e where
  least : ∀ k' e', Misfit t k' e' → k ≤ k'

theorem FirstMisfit.unique (h : FirstMisfit t k e) (h' : FirstMisfit t k' e') : e = e' := by
  obtain rfl : k = k' := Nat.le_antisymm (h.least k' e' h'.toMisfit) (h'.least k e h.toMisfit)
  exact Option.some.inj (h.row.symm.trans h'.row)

variable [DecidableEq α] {err : TableError}

theorem rowError?_eq_some_iff : t.rowError? e = some err ↔
    e.role = .legacy ∧ (∀ c ∈ t.canonical, c.value ≠ e.value) ∧
        err = .danglingAlias t.domain e.symbol ∨
      e.role = .sentinel ∧
        ∃ s, t.project e.value = some s ∧ err = .sentinelCollision t.domain e.symbol s := by
  rw [← project_eq_none_iff]
  unfold rowError?
  cases e.role <;> cases t.project e.value <;> simp [eq_comm]

theorem rowError?_ne_none_iff : t.rowError? e ≠ none ↔
    e.role = .legacy ∧ (∀ c ∈ t.canonical, c.value ≠ e.value) ∨
      e.role = .sentinel ∧ ∃ c ∈ t.canonical, c.value = e.value := by
  rw [ne_eq, rowError?_eq_none_iff, Classical.not_and_iff_not_or_not, Classical.not_imp,
    Classical.not_imp]
  simp only [not_exists, not_and, Classical.not_forall, ne_eq, Classical.not_not, exists_prop]

theorem misfit_free_iff :
    (∀ k e, ¬Misfit t k e) ↔ ∀ e ∈ t.entries, t.rowError? e = none := by
  constructor
  · intro h e he
    obtain ⟨k, hk⟩ := List.getElem?_of_mem he
    exact Classical.byContradiction fun hne => h k e ⟨hk, rowError?_ne_none_iff.1 hne⟩
  · intro h k e he
    exact rowError?_ne_none_iff.2 he.misfit (h e (List.mem_of_getElem? he.row))

theorem exists_firstMisfit (h : t.entries.findSome? t.rowError? = some err) :
    ∃ k e, FirstMisfit t k e ∧ t.rowError? e = some err := by
  obtain ⟨passed, e, after, hl, he, hpassed⟩ := List.findSome?_eq_some_iff.1 h
  have hrow : t.entries[passed.length]? = some e := by simp [hl]
  refine ⟨passed.length, e, ⟨⟨hrow, rowError?_ne_none_iff.1 (by simp [he])⟩, ?_⟩, he⟩
  intro k' e' h'
  refine Nat.le_of_not_lt fun hlt => rowError?_ne_none_iff.2 h'.misfit (hpassed e' ?_)
  have hr := h'.row
  rw [hl, List.getElem?_append_left hlt] at hr
  exact List.mem_of_getElem? hr

/-- The pass over single rows complains of the first misfit. -/
theorem findSome?_rowError?_eq_some_iff : t.entries.findSome? t.rowError? = some err ↔
    ∃ k e, FirstMisfit t k e ∧ t.rowError? e = some err := by
  refine ⟨exists_firstMisfit, ?_⟩
  rintro ⟨k, e, hf, he⟩
  cases h : t.entries.findSome? t.rowError? with
  | none =>
    have hn := List.findSome?_eq_none_iff.1 h e (List.mem_of_getElem? hf.row)
    rw [he] at hn
    cases hn
  | some err' =>
    obtain ⟨k', e', hf', he'⟩ := exists_firstMisfit h
    obtain rfl := hf.unique hf'
    exact he'.symm.trans he

/-! ## The complaint -/

/-- The complaint that a table deserves. -/
inductive Blames (t : Table α) : TableError → Prop
  | duplicateSymbol {i j : Nat} {a b : Entry α} : FirstClash t.entries i j a b →
      a.symbol = b.symbol → Blames t (.duplicateSymbol t.domain a.symbol)
  | duplicateValue {i j : Nat} {a b : Entry α} : FirstClash t.entries i j a b →
      a.symbol ≠ b.symbol → Blames t (.duplicateValue t.domain a.symbol b.symbol)
  | danglingAlias {k : Nat} {e : Entry α} : (∀ i j a b, ¬Clash t.entries i j a b) →
      FirstMisfit t k e → e.role = .legacy → Blames t (.danglingAlias t.domain e.symbol)
  /-- Just one row, `c`, names the value of the sentinel. -/
  | sentinelCollision {k : Nat} {e c : Entry α} : (∀ i j a b, ¬Clash t.entries i j a b) →
      FirstMisfit t k e → e.role = .sentinel →
      (∀ c', c' ∈ t.canonical ∧ c'.value = e.value ↔ c' = c) →
      Blames t (.sentinelCollision t.domain e.symbol c.symbol)

omit [DecidableEq α] in
theorem valuesUnique_of_clash_free (hn : ∀ i j a b, ¬Clash t.entries i j a b) :
    t.ValuesUnique :=
  valuesUnique_of_pairwise ((clash_free_iff.1 hn).imp fun h hs => h (.inr hs))

theorem blames_of_clash (h : pairError? t.domain t.entries = some err) : t.Blames err := by
  obtain ⟨i, j, a, b, hf, hab⟩ := pairError?_eq_some_iff.1 h
  rcases clash?_eq_some_iff.1 hab with ⟨hs, rfl⟩ | ⟨hs, -, rfl⟩
  · exact .duplicateSymbol hf hs
  · exact .duplicateValue hf hs

theorem blames_of_misfit (hn : pairError? t.domain t.entries = none)
    (h : t.entries.findSome? t.rowError? = some err) : t.Blames err := by
  have hfree := pairError?_eq_none_iff_clash.1 hn
  have hu := valuesUnique_of_clash_free hfree
  obtain ⟨k, e, hf, he⟩ := findSome?_rowError?_eq_some_iff.1 h
  rcases rowError?_eq_some_iff.1 he with ⟨hr, -, rfl⟩ | ⟨hr, s, hs, rfl⟩
  · exact .danglingAlias hfree hf hr
  · obtain ⟨c, hc, hv, rfl⟩ := (project_eq_some_iff hu).1 hs
    refine .sentinelCollision hfree hf hr fun c' => ⟨fun h' => ?_, fun h' => h' ▸ ⟨hc, hv⟩⟩
    exact hu c' h'.1 c hc (h'.2.trans hv.symm)

theorem validate_eq_error_iff : t.validate = .error err ↔ pairError? t.domain t.entries = some err ∨
    pairError? t.domain t.entries = none ∧ t.entries.findSome? t.rowError? = some err := by
  rw [← Option.or_eq_some_iff, validate]
  simp only [Option.orElse_eq_orElse, Option.orElse_eq_or]
  cases (pairError? t.domain t.entries).or (t.entries.findSome? t.rowError?) <;> simp

theorem validate_of_blames (h : t.Blames err) : t.validate = .error err := by
  rw [validate_eq_error_iff]
  cases h with
  | duplicateSymbol hf hs =>
    exact .inl (pairError?_eq_some_iff.2 ⟨_, _, _, _, hf, clash?_eq_some_iff.2 (.inl ⟨hs, rfl⟩)⟩)
  | duplicateValue hf hs =>
    have hv := hf.clashes.resolve_left hs
    exact .inl
      (pairError?_eq_some_iff.2 ⟨_, _, _, _, hf, clash?_eq_some_iff.2 (.inr ⟨hs, hv, rfl⟩)⟩)
  | danglingAlias hfree hf hr =>
    have hn := hf.misfit.resolve_right fun h => by rw [hr] at h; cases h.1
    have he := rowError?_eq_some_iff.2 (.inl ⟨hr, hn.2, rfl⟩)
    exact .inr ⟨pairError?_eq_none_iff_clash.2 hfree,
      findSome?_rowError?_eq_some_iff.2 ⟨_, _, hf, he⟩⟩
  | sentinelCollision hfree hf hr honly =>
    obtain ⟨hc, hv⟩ := (honly _).2 rfl
    have hs := (project_eq_some_iff (valuesUnique_of_clash_free hfree)).2 ⟨_, hc, hv, rfl⟩
    have he := rowError?_eq_some_iff.2 (.inr ⟨hr, _, hs, rfl⟩)
    exact .inr ⟨pairError?_eq_none_iff_clash.2 hfree,
      findSome?_rowError?_eq_some_iff.2 ⟨_, _, hf, he⟩⟩

theorem validate_ne_ok_iff : t.validate ≠ .ok () ↔
    (∃ i j a b, Clash t.entries i j a b) ∨ ∃ k e, Misfit t k e := by
  rw [ne_eq, validate_eq_ok_iff_passes, List.findSome?_eq_none_iff, pairError?_eq_none_iff_clash,
    ← misfit_free_iff, Classical.not_and_iff_not_or_not]
  simp only [Classical.not_forall, Classical.not_not]

/-- **The check blames the first rows that are to blame.** It fails exactly if two rows clash or a
row is wrong by itself. It then complains of the first pair of rows that clash, by their symbol if
that is the same and else by both symbols; where no two rows clash, of the first row that is wrong
by itself, and if that is a sentinel also of the only row that names its value. Every complaint
carries the domain of the table. -/
theorem blames_first (t : Table α) :
    (t.validate ≠ .ok () ↔ (∃ i j a b, Clash t.entries i j a b) ∨ ∃ k e, Misfit t k e) ∧
      ∀ err, t.validate = .error err ↔ t.Blames err := by
  refine ⟨validate_ne_ok_iff, fun err => ⟨fun h => ?_, validate_of_blames⟩⟩
  rcases validate_eq_error_iff.1 h with hpair | ⟨hnone, hrow⟩
  · exact blames_of_clash hpair
  · exact blames_of_misfit hnone hrow

/-- A small table with five faults. -/
def muddled : Table UInt32 where
  domain := .gainMode
  rows := [.legacy "OLD" 9, .canonical "A" 1, .sentinel "X" 1, .canonical "B" 2, .canonical "B" 3]
  frameworkRows := [.frameworkOnly "C" 1, .canonical "B" 1]

/-- The fault that counts is neither the first row that is wrong nor the nearest pair that clashes,
and the row furthest away clashes in two ways but comes too late. -/
theorem muddled_blames_first :
    muddled.validate = .error (.duplicateValue .gainMode "A" "C") ∧
      muddled.Blames (.duplicateValue .gainMode "A" "C") ∧
      ¬muddled.Blames (.danglingAlias .gainMode "OLD") ∧
      ¬muddled.Blames (.duplicateSymbol .gainMode "B") := by
  have hv : muddled.validate = .error (.duplicateValue .gainMode "A" "C") :=
    validate_eq_error_iff.2 (.inl (by decide +kernel))
  have hblames := (blames_first muddled).2
  refine ⟨hv, (hblames _).1 hv, fun h => ?_, fun h => ?_⟩
  · rw [(hblames _).2 h] at hv
    cases hv
  · rw [(hblames _).2 h] at hv
    cases hv

end Table

end AudioHal
