import AudioHal.Channel.Mask
import AudioHal.Proofs.Bits.Count
import AudioHal.StreamFlags

/-! # Joining sets of bits

Channel masks and the two kinds of stream flags are words under three names, and they are joined
alike. What their unions have in common is said once, of any `BitSet`.

* `BitSet.testBit_unionAll`: a bit of a union is a bit of some member. The loop keeps this of all
  the members it has seen (`BitSet.testBit_foldl_union`).
* `BitSet.unionAll_congr`: hence order, repetitions and empty members do not matter.
* `BitSet.contains_unionAll_iff`, `BitSet.eq_unionAll_iff`: a union is the least set that contains
  its members, and no other set is.
* `BitSet.unionAll_contains_iff_of_isSingle`: a single bit is within a union exactly if it is within
  a member.
-/

set_option autoImplicit false

namespace AudioHal

/-- A type of sets of bits: words under another name, which are joined bit by bit. -/
class BitSet (α : Type) where
  bits : α → UInt32
  bits_inj : ∀ {x y : α}, bits x = bits y → x = y
  empty : α
  bits_empty : bits empty = 0
  union : α → α → α
  bits_union : ∀ x y, bits (union x y) = bits x ||| bits y

instance : BitSet ChannelMask where
  bits := ChannelMask.bits
  bits_inj h := congrArg ChannelMask.mk h
  empty := .none
  bits_empty := rfl
  union := .union
  bits_union _ _ := rfl

instance : BitSet OutputFlags where
  bits := OutputFlags.bits
  bits_inj h := congrArg OutputFlags.mk h
  empty := .none
  bits_empty := rfl
  union := .union
  bits_union _ _ := rfl

instance : BitSet InputFlags where
  bits := InputFlags.bits
  bits_inj h := congrArg InputFlags.mk h
  empty := .none
  bits_empty := rfl
  union := .union
  bits_union _ _ := rfl

namespace BitSet

variable {α : Type} [BitSet α] {x y : α} {xs ys : List α} {i : Nat}

/-- The bits of all sets of a list. -/
def unionAll (xs : List α) : α :=
  xs.foldl union empty

/-- Whether every bit of `y` is in `x`. -/
def contains (x y : α) : Bool :=
  Bits.contains (bits x) (bits y)

theorem eq_of_testBit (h : ∀ i, (bits x).toNat.testBit i ↔ (bits y).toNat.testBit i) : x = y :=
  bits_inj (Bits.eq_of_testBit h)

theorem not_testBit_empty (i : Nat) : ¬(bits (empty : α)).toNat.testBit i := by
  rw [bits_empty]
  exact Bits.eq_zero_iff.1 rfl i

theorem ne_empty_of_testBit (h : (bits x).toNat.testBit i) : x ≠ empty := by
  intro he
  subst he
  exact not_testBit_empty i h

/-! ## Members of a union -/

theorem testBit_union : (bits (union x y)).toNat.testBit i ↔
    (bits x).toNat.testBit i ∨ (bits y).toNat.testBit i := by
  rw [bits_union, Bits.testBit_or, Bool.or_eq_true]

/-- The loop, from any start: a bit that has been joined stays. -/
theorem testBit_foldl_union : (bits (xs.foldl union x)).toNat.testBit i ↔
    (bits x).toNat.testBit i ∨ ∃ y ∈ xs, (bits y).toNat.testBit i := by
  induction xs generalizing x with
  | nil => simp
  | cons y xs ih =>
    rw [List.foldl_cons, ih, testBit_union, or_assoc]
    simp

theorem testBit_unionAll :
    (bits (unionAll xs)).toNat.testBit i ↔ ∃ x ∈ xs, (bits x).toNat.testBit i := by
  rw [unionAll, testBit_foldl_union]
  exact or_iff_right (not_testBit_empty i)

theorem unionAll_cons (x : α) (xs : List α) : unionAll (x :: xs) = union x (unionAll xs) := by
  apply eq_of_testBit
  intro i
  rw [testBit_union, testBit_unionAll, testBit_unionAll]
  simp

theorem unionAll_append (xs ys : List α) :
    unionAll (xs ++ ys) = union (unionAll xs) (unionAll ys) := by
  apply eq_of_testBit
  intro i
  rw [testBit_union, testBit_unionAll, testBit_unionAll, testBit_unionAll]
  simp only [List.mem_append, or_and_right, exists_or]

/-- Of a list only its members count, and of these only those that are not empty. -/
theorem unionAll_congr (h : ∀ x, x ≠ empty → (x ∈ xs ↔ x ∈ ys)) : unionAll xs = unionAll ys := by
  apply eq_of_testBit
  intro i
  rw [testBit_unionAll, testBit_unionAll]
  refine ⟨fun hxi => ?_, fun hyi => ?_⟩
  · obtain ⟨x, hx, hi⟩ := hxi
    exact ⟨x, (h x (ne_empty_of_testBit hi)).1 hx, hi⟩
  · obtain ⟨y, hy, hi⟩ := hyi
    exact ⟨y, (h y (ne_empty_of_testBit hi)).2 hy, hi⟩

/-! ## Unions and containment -/

theorem contains_iff :
    contains x y ↔ ∀ i, (bits y).toNat.testBit i → (bits x).toNat.testBit i :=
  Bits.contains_iff

theorem contains_refl (x : α) : contains x x :=
  contains_iff.2 fun _ hi => hi

theorem contains_antisymm (h : contains x y) (h' : contains y x) : x = y := by
  apply eq_of_testBit
  intro i
  exact ⟨contains_iff.1 h' i, contains_iff.1 h i⟩

/-- A union is the least set that contains its members. -/
theorem contains_unionAll_iff : contains x (unionAll ys) ↔ ∀ y ∈ ys, contains x y := by
  simp only [contains_iff, testBit_unionAll]
  refine ⟨fun h y hy i hi => ?_, fun h i hi => ?_⟩
  · exact h i ⟨y, hy, hi⟩
  · obtain ⟨y, hy, hyi⟩ := hi
    exact h y hy i hyi

theorem unionAll_contains_of_mem (h : x ∈ xs) : contains (unionAll xs) x := by
  rw [contains_iff]
  intro i hi
  exact testBit_unionAll.2 ⟨x, h, hi⟩

/-- What is contained where all members are is their union. -/
theorem eq_unionAll_iff :
    x = unionAll ys ↔ ∀ z, contains z x ↔ ∀ y ∈ ys, contains z y := by
  refine ⟨fun h z => ?_, fun h => ?_⟩
  · rw [h]
    exact contains_unionAll_iff
  · have hx : ∀ y ∈ ys, contains x y := (h x).1 (contains_refl x)
    have hu : contains (unionAll ys) x :=
      (h (unionAll ys)).2 fun y hy => unionAll_contains_of_mem hy
    exact contains_antisymm (contains_unionAll_iff.2 hx) hu

theorem unionAll_contains_iff_of_isSingle (hy : Bits.IsSingle (bits y)) :
    contains (unionAll xs) y ↔ ∃ x ∈ xs, contains x y := by
  simp only [contains, hy.contains_iff, testBit_unionAll]
  refine ⟨fun h => ?_, fun h => ?_⟩
  · obtain ⟨i, ⟨x, hx, hxi⟩, hyi⟩ := h
    exact ⟨x, hx, i, hxi, hyi⟩
  · obtain ⟨x, hx, i, hxi, hyi⟩ := h
    exact ⟨i, ⟨x, hx, hxi⟩, hyi⟩

end BitSet

end AudioHal
