import AudioHal.Channel.Layout
import AudioHal.Proofs.Bits.Union

/-! # Unions of masks

What is known of unions of bits, said of masks: `contains` is an order, and unions are its least
upper bounds. Hence a union does not depend on how its list is put together.

* `ChannelMask.testBit_unionAll`, `ChannelMask.ext_testBit`: a union, and any mask, bit by bit.
* `ChannelMask.contains_unionAll_iff`: which masks contain a union.
* `ChannelMask.unionAll_least`: a union is the least mask that contains its members, joining lists
  joins their unions, and only the members of a list count.
-/

set_option autoImplicit false

namespace AudioHal.ChannelMask

variable {k m m' u : ChannelMask} {ms xs ys : List ChannelMask} {i : Nat}

/-! ## Bits -/

theorem testBit_unionAll :
    (unionAll ms).bits.toNat.testBit i ↔ ∃ m ∈ ms, m.bits.toNat.testBit i :=
  BitSet.testBit_unionAll (α := ChannelMask)

theorem testBit_of_contains (h : m.contains m') (hi : m'.bits.toNat.testBit i) :
    m.bits.toNat.testBit i :=
  Bits.contains_iff.1 h i hi

theorem ext_testBit (h : ∀ i, m.bits.toNat.testBit i ↔ m'.bits.toNat.testBit i) : m = m' :=
  BitSet.eq_of_testBit (α := ChannelMask) h

/-! ## Lists -/

theorem unionAll_cons (m : ChannelMask) (ms : List ChannelMask) :
    unionAll (m :: ms) = m.union (unionAll ms) :=
  BitSet.unionAll_cons m ms

theorem unionAll_append (xs ys : List ChannelMask) :
    unionAll (xs ++ ys) = (unionAll xs).union (unionAll ys) :=
  BitSet.unionAll_append xs ys

theorem unionAll_congr (h : ∀ m, m ∈ xs ↔ m ∈ ys) : unionAll xs = unionAll ys :=
  BitSet.unionAll_congr (α := ChannelMask) fun m _ => h m

/-! ## Least upper bounds -/

theorem contains_unionAll_iff : k.contains (unionAll ms) ↔ ∀ m ∈ ms, k.contains m :=
  BitSet.contains_unionAll_iff (α := ChannelMask)

theorem eq_unionAll_iff : u = unionAll ms ↔ ∀ k, contains k u ↔ ∀ m ∈ ms, k.contains m :=
  BitSet.eq_unionAll_iff (α := ChannelMask)

/-- **A union is the least mask that contains its members.** A mask contains the union of a list
exactly if it contains every member, and of no other mask can the same be said. The union of two
lists one after the other is the union of their unions, and lists with the same members have the
same union, whatever their order and however often a member occurs. -/
theorem unionAll_least :
    (∀ (ms : List ChannelMask) (k : ChannelMask),
      k.contains (unionAll ms) ↔ ∀ m ∈ ms, k.contains m) ∧
    (∀ (ms : List ChannelMask) (u : ChannelMask),
      (∀ k, contains k u ↔ ∀ m ∈ ms, k.contains m) ↔ u = unionAll ms) ∧
    (∀ xs ys : List ChannelMask,
      unionAll (xs ++ ys) = (unionAll xs).union (unionAll ys) ∧
        unionAll (xs ++ ys) = unionAll xs ||| unionAll ys) ∧
    ∀ xs ys : List ChannelMask, (∀ m, m ∈ xs ↔ m ∈ ys) → unionAll xs = unionAll ys :=
  ⟨fun _ _ => contains_unionAll_iff, fun _ _ => eq_unionAll_iff.symm,
    fun xs ys => ⟨unionAll_append xs ys, unionAll_append xs ys⟩, fun _ _ => unionAll_congr⟩

/-- The positions of a quad output, in another order and one of them twice, make it up too. -/
theorem outQuad_unionAll_least :
    (∀ m, m ∈ [outBackRight, outFrontLeft, outBackLeft, outFrontRight, outFrontLeft] ↔
      m ∈ [outFrontLeft, outFrontRight, outBackLeft, outBackRight]) ∧
    unionAll [outBackRight, outFrontLeft, outBackLeft, outFrontRight, outFrontLeft] = outQuad := by
  have hsame : ∀ m, m ∈ [outBackRight, outFrontLeft, outBackLeft, outFrontRight, outFrontLeft] ↔
      m ∈ [outFrontLeft, outFrontRight, outBackLeft, outBackRight] := by
    intro m
    simp only [List.mem_cons, List.not_mem_nil, or_false]
    tauto
  exact ⟨hsame, unionAll_least.2.2.2 _ _ hsame⟩

end AudioHal.ChannelMask
