import AudioHal.Proofs.Table.Lookup

/-! # Rows by position

The check goes through pairs of rows by their positions, the earlier one first. What it demands of a
pair does not depend on the order, so it may be said of any two positions.

* `Table.pairwise_iff_positions`: a symmetric relation of the rows of a list, by position.
* `Table.accepted_iff`: what the check demands, said of positions, values and roles alone.
-/

set_option autoImplicit false

namespace AudioHal

variable {α : Type}

theorem Entry.SharesValue.symm {a b : Entry α} (h : a.SharesValue b) : b.SharesValue a :=
  ⟨h.2.1, h.1, h.2.2.symm⟩

namespace Table

/-- A symmetric relation holds pairwise if it holds of any two positions. -/
theorem pairwise_iff_positions {β : Type} {R : β → β → Prop} (symm : ∀ a b, R a b → R b a)
    {l : List β} : l.Pairwise R ↔
      ∀ (i j : Nat) (a b : β), l[i]? = some a → l[j]? = some b → i ≠ j → R a b := by
  rw [List.pairwise_iff_getElem]
  constructor
  · intro h i j a b ha hb hij
    obtain ⟨hi, rfl⟩ := List.getElem?_eq_some_iff.1 ha
    obtain ⟨hj, rfl⟩ := List.getElem?_eq_some_iff.1 hb
    rcases Nat.lt_or_gt_of_ne hij with hlt | hlt
    · exact h i j hi hj hlt
    · exact symm _ _ (h j i hj hi hlt)
  · intro h i j hi hj hlt
    exact h i j l[i] l[j] (List.getElem?_eq_getElem hi) (List.getElem?_eq_getElem hj) (by omega)

/-- **The check accepts exactly the tables that keep the four rules.** Over all rows, those of the
framework included: no symbol stands at two positions, no value has a symbol of its own at two
positions, the value of every alias has a symbol of its own, and that of no sentinel has. -/
theorem accepted_iff [DecidableEq α] (t : Table α) :
    let rows := t.rows ++ t.frameworkRows
    let named := fun e : Entry α => e.role = .canonical ∨ e.role = .frameworkOnly
    t.validate = .ok () ↔
      (∀ (i j : Nat) (a b : Entry α), rows[i]? = some a → rows[j]? = some b → i ≠ j →
        a.symbol ≠ b.symbol) ∧
      (∀ (i j : Nat) (a b : Entry α), rows[i]? = some a → rows[j]? = some b → i ≠ j →
        named a → named b → a.value ≠ b.value) ∧
      (∀ a ∈ rows, a.role = .legacy → ∃ c ∈ rows, named c ∧ c.value = a.value) ∧
      ∀ s ∈ rows, s.role = .sentinel → ¬∃ c ∈ rows, named c ∧ c.value = s.value := by
  intro rows named
  have hnamed : ∀ e : Entry α, named e ↔ e.role.givesSymbol := fun e => Role.givesSymbol_iff.symm
  have hcanonical : ∀ c, c ∈ t.canonical ↔ c ∈ rows ∧ named c := by
    intro c
    rw [hnamed, mem_canonical]
    rfl
  have hsymbols : (rows.Pairwise fun a b => a.symbol ≠ b.symbol) ↔ _ :=
    pairwise_iff_positions fun _ _ h => h.symm
  have hvalues : (rows.Pairwise fun a b => ¬a.SharesValue b) ↔ _ :=
    pairwise_iff_positions fun _ _ h hs => h hs.symm
  rw [validate_eq_ok_iff, ← hsymbols]
  constructor
  · intro w
    refine ⟨w.symbols, ?values, ?aliases, ?sentinels⟩
    case values =>
      intro i j a b ha hb hij hna hnb hv
      exact hvalues.1 w.values i j a b ha hb hij ⟨(hnamed a).1 hna, (hnamed b).1 hnb, hv⟩
    case aliases =>
      intro a ha hr
      obtain ⟨c, hc, hv⟩ := w.aliases a ha hr
      obtain ⟨hm, hn⟩ := (hcanonical c).1 hc
      exact ⟨c, hm, hn, hv⟩
    case sentinels =>
      rintro s hs hr ⟨c, hc, hn, hv⟩
      exact w.sentinels s hs hr c ((hcanonical c).2 ⟨hc, hn⟩) hv
  · rintro ⟨hs, hv, ha, hn⟩
    refine ⟨hs, ?values, ?aliases, ?sentinels⟩
    case values =>
      refine hvalues.2 fun i j a b hia hjb hij hshare => ?_
      exact hv i j a b hia hjb hij ((hnamed a).2 hshare.1) ((hnamed b).2 hshare.2.1) hshare.2.2
    case aliases =>
      intro a hm hr
      obtain ⟨c, hc, hnc, hvc⟩ := ha a hm hr
      exact ⟨c, (hcanonical c).2 ⟨hc, hnc⟩, hvc⟩
    case sentinels =>
      intro s hm hr c hc hvc
      obtain ⟨hcm, hnc⟩ := (hcanonical c).1 hc
      exact hn s hm hr ⟨c, hcm, hnc, hvc⟩

end Table

end AudioHal
