/-! # Sets of bits

A 32-bit word read as the set of the places where it has a one.

* `Bits.contains`: whether one set lies within another.
* `Bits.contains_iff`: the same, place by place.
* `Bits.count`: how many of the lowest places belong to a set.
-/

set_option autoImplicit false

namespace AudioHal.Bits

/-- Whether every bit of `b` is set in `a`. -/
def contains (a b : UInt32) : Bool :=
  a &&& b == b

theorem contains_iff {a b : UInt32} :
    contains a b ↔ ∀ i, b.toNat.testBit i → a.toNat.testBit i := by
  rw [contains, beq_iff_eq, ← UInt32.toNat_inj, UInt32.toNat_and]
  constructor
  · intro h i hi
    have := congrArg (Nat.testBit · i) h
    simp only [Nat.testBit_and] at this
    rw [hi, Bool.and_true] at this
    exact this
  · intro h
    apply Nat.eq_of_testBit_eq
    intro i
    rw [Nat.testBit_and]
    cases hb : b.toNat.testBit i
    · exact Bool.and_false _
    · rw [h i hb, Bool.and_true]

/-- How many of the places below `width` belong to a set. -/
def count (width : Nat) (a : UInt32) : Nat :=
  (List.range width).countP a.toNat.testBit

end AudioHal.Bits
