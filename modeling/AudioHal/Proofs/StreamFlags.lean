import AudioHal.Proofs.Bits.Union
import AudioHal.Proofs.Table.Lookup

/-! # Joining stream flags

The values of stream flags that have symbols are the empty set and single bits, no two of them
alike. So a union of such values can be taken apart again, and it never has the symbol of a flag
that is not in it.

* `BitSet.unionAll_contains_iff_mem`: the flags within a union of flags are the ones joined.
* `BitSet.unionAll_eq_of_mem`: a union of flags that is a flag itself is the only one of them.
* `NamesFlags`: the named values of a type are flags; `OutputFlags.namesFlags`,
  `InputFlags.namesFlags`.
* `streamFlags_joinFaithfully`: what follows for the symbols, for outputs and for inputs.
-/

set_option autoImplicit false

namespace AudioHal

/-! ## Flags among sets of bits -/

namespace BitSet

variable {α : Type} [BitSet α] {x y : α} {xs : List α}

/-- One flag, or none. -/
def IsFlag (x : α) : Prop :=
  x = empty ∨ Bits.IsSingle (bits x)

instance [DecidableEq α] (x : α) : Decidable (IsFlag x) :=
  inferInstanceAs (Decidable (x = empty ∨ Bits.IsSingle (bits x)))

theorem IsFlag.isSingle (h : IsFlag x) (hx : x ≠ empty) : Bits.IsSingle (bits x) :=
  h.resolve_left hx

theorem IsFlag.contains_iff_eq (hx : IsFlag x) (hy : IsFlag y) (hne : y ≠ empty) :
    contains x y ↔ x = y := by
  have hys := hy.isSingle hne
  rw [contains, hys.contains_iff]
  refine ⟨fun hmeet => ?_, fun he => ?_⟩
  · obtain ⟨i, hxi, hyi⟩ := hmeet
    -- a set that meets another is not empty, so this one is a single bit too
    have hxs := hx.isSingle (ne_empty_of_testBit hxi)
    exact bits_inj (hxs.eq_of_contains hys (hys.contains_iff.2 ⟨i, hxi, hyi⟩))
  · subst he
    obtain ⟨i, hi⟩ := hys.exists_testBit
    exact ⟨i, hi, hi⟩

theorem unionAll_contains_iff_mem (hxs : ∀ x ∈ xs, IsFlag x) (hy : IsFlag y) (hne : y ≠ empty) :
    contains (unionAll xs) y ↔ y ∈ xs := by
  rw [unionAll_contains_iff_of_isSingle (hy.isSingle hne)]
  refine ⟨fun h => ?_, fun h => ?_⟩
  · obtain ⟨x, hx, hc⟩ := h
    rw [← ((hxs x hx).contains_iff_eq hy hne).1 hc]
    exact hx
  · exact ⟨y, h, (hy.contains_iff_eq hy hne).2 rfl⟩

theorem unionAll_of_only (hx : x ∈ xs) (h : ∀ y ∈ xs, y ≠ empty → y = x) : unionAll xs = x := by
  have hsame : unionAll xs = unionAll [x] := by
    apply unionAll_congr
    intro y hy
    rw [List.mem_singleton]
    refine ⟨fun hm => h y hm hy, fun he => ?_⟩
    subst he
    exact hx
  rw [hsame]
  apply eq_of_testBit
  intro i
  rw [testBit_unionAll]
  simp

theorem unionAll_of_empty (h : ∀ x ∈ xs, x = empty) : unionAll xs = empty := by
  have hsame : unionAll xs = unionAll [] := by
    apply unionAll_congr
    intro x hx
    simp only [List.not_mem_nil, iff_false]
    intro hm
    exact hx (h x hm)
  rw [hsame]
  rfl

/-- A union of flags that is a flag is the only one of them. -/
theorem unionAll_eq_of_mem (hxs : ∀ x ∈ xs, IsFlag x) (hu : IsFlag (unionAll xs)) (hx : x ∈ xs)
    (hne : x ≠ empty) : unionAll xs = x := by
  have hc := (unionAll_contains_iff_mem hxs (hxs x hx) hne).2 hx
  exact (hu.contains_iff_eq (hxs x hx) hne).1 hc

theorem unionAll_eq_empty_or_mem
    (h : ∀ x ∈ xs, ∀ y ∈ xs, x ≠ empty → y ≠ empty → x = y) :
    unionAll xs = empty ∨ unionAll xs ∈ xs := by
  by_cases hall : ∀ x ∈ xs, x = empty
  · exact .inl (unionAll_of_empty hall)
  · simp only [Classical.not_forall] at hall
    obtain ⟨x, hx, hne⟩ := hall
    rw [unionAll_of_only hx fun y hy hyne => h y hy x hx hyne hne]
    exact .inr hx

end BitSet

/-! ## Flags with symbols -/

section

variable {α : Type} [DecidableEq α] [RawValue α] [Nameable α] {b : Build}

/-- The named values of a type of sets are flags, and the empty set is named. -/
structure NamesFlags (α : Type) [DecidableEq α] [RawValue α] [Nameable α] [BitSet α]
    (b : Build) : Prop where
  empty : (Nameable.symbol? b (BitSet.empty : α)).isSome
  isFlag : ∀ x : α, (Nameable.symbol? b x).isSome → BitSet.IsFlag x

/-- What is named has a row of its own. -/
theorem exists_row_of_named {x : α} (h : (Nameable.symbol? b x).isSome) :
    ∃ e ∈ (Nameable.table b : Table α).canonical, e.value = x := by
  apply Classical.byContradiction
  intro hn
  have hnone : (Nameable.table b).project x = none :=
    Table.project_eq_none_iff.2 fun e he hv => hn ⟨e, he, hv⟩
  rw [Nameable.symbol?, hnone] at h
  cases h

theorem NamesFlags.of_rows [BitSet α]
    (hempty : (Nameable.symbol? b (BitSet.empty : α)).isSome)
    (hrows : ∀ e ∈ (Nameable.table b : Table α).canonical, BitSet.IsFlag e.value) :
    NamesFlags α b where
  empty := hempty
  isFlag := by
    intro x hx
    obtain ⟨e, he, rfl⟩ := exists_row_of_named hx
    exact hrows e he

theorem OutputFlags.namesFlags (b : Build) : NamesFlags OutputFlags b := by
  apply NamesFlags.of_rows
  · cases b <;> decide +kernel
  · cases b <;> decide +kernel

theorem InputFlags.namesFlags (b : Build) : NamesFlags InputFlags b := by
  apply NamesFlags.of_rows
  · cases b <;> decide +kernel
  · cases b <;> decide +kernel

/-! ## Joining flags with symbols -/

/-- Joining named flags forgets none, invents none and gives a union of several no name. -/
structure JoinsFaithfully (b : Build) (none : α) (contains : α → α → Bool)
    (unionAll : List α → α) : Prop where
  /-- The flags within a union are the ones joined. -/
  contains_iff : ∀ xs : List α, (∀ x ∈ xs, (Nameable.symbol? b x).isSome) →
    ∀ f, (Nameable.symbol? b f).isSome → f ≠ none → (contains (unionAll xs) f ↔ f ∈ xs)
  /-- A union has a symbol exactly if no two different flags are joined. -/
  named_iff : ∀ xs : List α, (∀ x ∈ xs, (Nameable.symbol? b x).isSome) →
    ((Nameable.symbol? b (unionAll xs)).isSome ↔
      ∀ f ∈ xs, ∀ g ∈ xs, f ≠ none → g ≠ none → f = g)
  /-- The symbol is then that of the one flag. -/
  symbol_of_only : ∀ xs : List α, ∀ f ∈ xs, (∀ g ∈ xs, g ≠ none → g = f) →
    Nameable.symbol? b (unionAll xs) = Nameable.symbol? b f
  /-- Without a flag it is that of the empty set. -/
  symbol_of_none : ∀ xs : List α, (∀ f ∈ xs, f = none) →
    Nameable.symbol? b (unionAll xs) = Nameable.symbol? b none
  /-- Order, repetitions and empty sets do not matter. -/
  congr : ∀ xs ys : List α, (∀ f, f ≠ none → (f ∈ xs ↔ f ∈ ys)) → unionAll xs = unionAll ys

theorem NamesFlags.joinsFaithfully [BitSet α] (h : NamesFlags α b) :
    JoinsFaithfully (α := α) b BitSet.empty BitSet.contains BitSet.unionAll where
  contains_iff := by
    intro xs hxs f hf hne
    exact BitSet.unionAll_contains_iff_mem (fun x hx => h.isFlag x (hxs x hx)) (h.isFlag f hf) hne
  named_iff := by
    intro xs hxs
    have hflags : ∀ x ∈ xs, BitSet.IsFlag x := fun x hx => h.isFlag x (hxs x hx)
    refine ⟨fun hu f hf g hg hfne hgne => ?_, fun hone => ?_⟩
    · have huf := h.isFlag _ hu
      rw [← BitSet.unionAll_eq_of_mem hflags huf hf hfne,
        ← BitSet.unionAll_eq_of_mem hflags huf hg hgne]
    · rcases BitSet.unionAll_eq_empty_or_mem hone with he | hm
      · rw [he]
        exact h.empty
      · exact hxs _ hm
  symbol_of_only := by
    intro xs f hf honly
    rw [BitSet.unionAll_of_only hf honly]
  symbol_of_none := by
    intro xs hnone
    rw [BitSet.unionAll_of_empty hnone]
  congr := by
    intro xs ys hsame
    exact BitSet.unionAll_congr hsame

end

/-- **Joining named stream flags forgets and invents nothing, and never forges a name.** A union of
named values contains exactly the flags that were joined, and it is named only where it is one of
them, or empty; this holds of outputs and of inputs, in every build. -/
theorem streamFlags_joinFaithfully (b : Build) :
    JoinsFaithfully b OutputFlags.none OutputFlags.contains OutputFlags.unionAll ∧
      JoinsFaithfully b InputFlags.none InputFlags.contains InputFlags.unionAll :=
  ⟨(OutputFlags.namesFlags b).joinsFaithfully, (InputFlags.namesFlags b).joinsFaithfully⟩

/-- A fast raw stream is raw and not direct, and no symbol stands for both its flags. -/
theorem fastRaw_joinFaithfully :
    let xs : List OutputFlags := [.fast, .none, .raw, .fast]
    (∀ x ∈ xs, (Nameable.symbol? .vendor x).isSome) ∧
      (OutputFlags.unionAll xs).contains .raw ∧ ¬(OutputFlags.unionAll xs).contains .direct ∧
      ¬(Nameable.symbol? .vendor (OutputFlags.unionAll xs)).isSome ∧
      OutputFlags.unionAll xs = OutputFlags.unionAll [.raw, .fast] := by
  intro xs
  have hnamed : ∀ x ∈ xs, (Nameable.symbol? .vendor x).isSome := by decide +kernel
  have h := (streamFlags_joinFaithfully .vendor).1
  refine ⟨hnamed, ?raw, ?direct, ?symbol, ?order⟩
  case raw =>
    exact (h.contains_iff xs hnamed .raw (by decide +kernel) (by decide)).2 (by decide)
  case direct =>
    intro hc
    have hm := (h.contains_iff xs hnamed .direct (by decide +kernel) (by decide)).1 hc
    revert hm
    decide
  case symbol =>
    intro hs
    have heq := (h.named_iff xs hnamed).1 hs .fast (by decide) .raw (by decide) (by decide)
      (by decide)
    cases heq
  case order =>
    apply h.congr
    intro f hf
    simp only [xs, List.mem_cons, List.not_mem_nil, or_false]
    grind

end AudioHal
