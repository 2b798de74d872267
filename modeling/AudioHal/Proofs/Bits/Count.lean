import AudioHal.Bits
import Mathlib.Data.Finset.Card

/-! # Counting bits

The bits of a word that are counted form a finite set of places, and what is known of the sizes of
finite sets carries over to counts.

* `Bits.places`, `Bits.card_places`: the set that `Bits.count` counts.
* `Bits.count_or_le`, `Bits.count_or_eq_iff`: the count of a union is at most the sum of the counts,
  and it is the sum exactly if no place is counted twice.
* `Bits.count_le_of_contains`, `Bits.places_eq_of_contains`: a set within another has no more
  places, and if it has as many it has the same.
* `Bits.IsSingle`, `Bits.IsSingle.contains_iff`: a single bit is within a set exactly if it meets
  the set.
-/

set_option autoImplicit false

namespace AudioHal.Bits

variable {a b : UInt32} {width i j : Nat}

/-! ## Words as sets -/

theorem testBit_or (a b : UInt32) (i : Nat) :
    (a ||| b).toNat.testBit i = (a.toNat.testBit i || b.toNat.testBit i) := by
  rw [UInt32.toNat_or, Nat.testBit_or]

theorem testBit_and (a b : UInt32) (i : Nat) :
    (a &&& b).toNat.testBit i = (a.toNat.testBit i && b.toNat.testBit i) := by
  rw [UInt32.toNat_and, Nat.testBit_and]

theorem eq_of_testBit (h : ∀ i, a.toNat.testBit i ↔ b.toNat.testBit i) : a = b := by
  apply UInt32.toNat_inj.1
  apply Nat.eq_of_testBit_eq
  intro i
  exact Bool.eq_iff_iff.2 (h i)

theorem lt_of_testBit (h : a.toNat.testBit i) : i < 32 := by
  apply Classical.byContradiction
  intro hi
  have hlt : a.toNat < 2 ^ i :=
    Nat.lt_of_lt_of_le a.toNat_lt (Nat.pow_le_pow_right (by decide) (by omega))
  rw [Nat.testBit_lt_two_pow hlt] at h
  cases h

theorem eq_zero_iff : a = 0 ↔ ∀ i, ¬a.toNat.testBit i := by
  refine ⟨fun h i => ?_, fun h => ?_⟩
  · subst h
    simp
  · apply eq_of_testBit
    intro i
    simp [h i]

/-- Two sets meet where a place belongs to both. -/
theorem and_ne_zero_iff : a &&& b ≠ 0 ↔ ∃ i, a.toNat.testBit i ∧ b.toNat.testBit i := by
  simp only [ne_eq, eq_zero_iff, testBit_and, Bool.and_eq_true, Classical.not_forall,
    Classical.not_not]

/-! ## Places -/

/-- The places below `width` that belong to a set. -/
def places (width : Nat) (a : UInt32) : Finset Nat :=
  ((List.range width).filter a.toNat.testBit).toFinset

@[simp]
theorem mem_places : i ∈ places width a ↔ i < width ∧ a.toNat.testBit i := by
  simp [places]

theorem card_places (width : Nat) (a : UInt32) : (places width a).card = count width a := by
  rw [places, List.toFinset_card_of_nodup (List.nodup_range.filter _), count,
    List.countP_eq_length_filter]

theorem places_or (width : Nat) (a b : UInt32) :
    places width (a ||| b) = places width a ∪ places width b := by
  ext i
  simp only [mem_places, Finset.mem_union, testBit_or, Bool.or_eq_true]
  exact and_or_left

theorem places_subset (h : contains a b) : places width b ⊆ places width a := by
  intro i hi
  obtain ⟨hlt, hb⟩ := mem_places.1 hi
  exact mem_places.2 ⟨hlt, contains_iff.1 h i hb⟩

/-! ## Counts -/

theorem count_le (width : Nat) (a : UInt32) : count width a ≤ width := by
  have h := (List.range width).countP_le_length (p := a.toNat.testBit)
  rwa [List.length_range] at h

theorem count_le_of_contains (h : contains a b) : count width b ≤ count width a := by
  rw [← card_places, ← card_places]
  exact Finset.card_le_card (places_subset h)

theorem places_eq_of_contains (h : contains a b) (hc : count width b = count width a) :
    places width b = places width a := by
  rw [← card_places, ← card_places] at hc
  exact Finset.eq_of_subset_of_card_le (places_subset h) hc.ge

theorem count_or_le (width : Nat) (a b : UInt32) :
    count width (a ||| b) ≤ count width a + count width b := by
  rw [← card_places, ← card_places, ← card_places, places_or]
  exact Finset.card_union_le _ _

theorem count_or_eq_iff : count width (a ||| b) = count width a + count width b ↔
    Disjoint (places width a) (places width b) := by
  rw [← card_places, ← card_places, ← card_places, places_or]
  exact Finset.card_union_eq_card_add_card

/-! ## Single bits -/

/-- A set of one bit. -/
def IsSingle (a : UInt32) : Prop :=
  count 32 a = 1

instance (a : UInt32) : Decidable (IsSingle a) :=
  inferInstanceAs (Decidable (count 32 a = 1))

theorem IsSingle.exists_testBit (h : IsSingle a) : ∃ i, a.toNat.testBit i := by
  have hpos : 0 < (places 32 a).card := by
    rw [card_places, h]
    decide
  obtain ⟨i, hi⟩ := Finset.card_pos.1 hpos
  exact ⟨i, (mem_places.1 hi).2⟩

theorem IsSingle.place_unique (h : IsSingle a) (hi : a.toNat.testBit i) (hj : a.toNat.testBit j) :
    i = j := by
  have hle : (places 32 a).card ≤ 1 := by
    rw [card_places, h]
  exact Finset.card_le_one.1 hle i (mem_places.2 ⟨lt_of_testBit hi, hi⟩) j
    (mem_places.2 ⟨lt_of_testBit hj, hj⟩)

/-- A single bit is within a set exactly if it meets the set. -/
theorem IsSingle.contains_iff (h : IsSingle b) :
    contains a b ↔ ∃ i, a.toNat.testBit i ∧ b.toNat.testBit i := by
  rw [Bits.contains_iff]
  refine ⟨fun hab => ?_, fun hmeet j hj => ?_⟩
  · obtain ⟨i, hi⟩ := h.exists_testBit
    exact ⟨i, hab i hi, hi⟩
  · obtain ⟨i, ha, hb⟩ := hmeet
    rw [h.place_unique hj hb]
    exact ha

theorem IsSingle.eq_of_contains (ha : IsSingle a) (hb : IsSingle b) (h : contains a b) :
    a = b := by
  obtain ⟨i, hia, hib⟩ := hb.contains_iff.1 h
  apply eq_of_testBit
  intro j
  refine ⟨fun hj => ?_, Bits.contains_iff.1 h j⟩
  rw [ha.place_unique hj hia]
  exact hib

end AudioHal.Bits
