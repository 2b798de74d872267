import AudioHal.Channel.Layout
import AudioHal.Proofs.Channel.Union
import Mathlib

/-! # How many channels a union has

The number of channels is that of the bits below the tag, so it is measured on the finite set of
these bits.

* `ChannelMask.payload`, `ChannelMask.payload_eq_iff`, `ChannelMask.payload_and_eq_zero_iff`: the
  bits of the channels as a word, and what a set of places says about them.
* `ChannelMask.count_unionAll_le`: a union has at most as many channels as its members together.
* `ChannelMask.count_unionAll_eq_iff`: it has as many exactly if no two members share a channel.
* `ChannelMask.counts_add_up`: both, with the bound of a mask and the order of masks.
-/

set_option autoImplicit false

namespace AudioHal.ChannelMask

variable {a b m : ChannelMask} {ms : List ChannelMask} {i : Nat}

/-! ## The bits of the channels -/

/-- The bits of the channels of a mask, without the tag. -/
def payload (m : ChannelMask) : UInt32 :=
  m.bits &&& payloadBits

/-- The places of the channels of a mask. -/
def places (m : ChannelMask) : Finset Nat :=
  Bits.places capacity m.bits

theorem card_places (m : ChannelMask) : m.places.card = m.count :=
  Bits.card_places capacity m.bits

theorem testBit_payload : m.payload.toNat.testBit i ↔ i ∈ m.places := by
  have hbits : payloadBits.toNat.testBit i = decide (i < 30) :=
    Nat.testBit_two_pow_sub_one 30 i
  rw [payload, Bits.testBit_and, hbits, places, Bits.mem_places, capacity, Bool.and_eq_true,
    decide_eq_true_eq]
  exact and_comm

theorem payload_eq_iff : a.payload = b.payload ↔ a.places = b.places := by
  refine ⟨fun h => ?_, fun h => ?_⟩
  · ext i
    rw [← testBit_payload, ← testBit_payload, h]
  · apply Bits.eq_of_testBit
    intro i
    rw [testBit_payload, testBit_payload, h]

theorem payload_and_eq_zero_iff :
    a.payload &&& b.payload = 0 ↔ Disjoint a.places b.places := by
  rw [Bits.eq_zero_iff, Finset.disjoint_left]
  simp only [Bits.testBit_and, Bool.and_eq_true, testBit_payload, not_and]

/-! ## Unions -/

theorem mem_places_unionAll : i ∈ (unionAll ms).places ↔ ∃ m ∈ ms, i ∈ m.places := by
  simp only [places, Bits.mem_places, testBit_unionAll]
  refine ⟨fun h => ?_, fun h => ?_⟩
  · obtain ⟨hi, m, hm, hmi⟩ := h
    exact ⟨m, hm, hi, hmi⟩
  · obtain ⟨m, hm, hi, hmi⟩ := h
    exact ⟨hi, m, hm, hmi⟩

theorem disjoint_places_unionAll_iff :
    Disjoint a.places (unionAll ms).places ↔ ∀ m ∈ ms, Disjoint a.places m.places := by
  simp only [Finset.disjoint_left, mem_places_unionAll]
  refine ⟨fun h m hm i hi hmi => ?_, fun h i hi hu => ?_⟩
  · exact h hi ⟨m, hm, hmi⟩
  · obtain ⟨m, hm, hmi⟩ := hu
    exact h m hm hi hmi

theorem count_union_le (a b : ChannelMask) : (a.union b).count ≤ a.count + b.count :=
  Bits.count_or_le capacity a.bits b.bits

theorem count_union_eq_iff :
    (a.union b).count = a.count + b.count ↔ Disjoint a.places b.places :=
  Bits.count_or_eq_iff

theorem count_unionAll_le (ms : List ChannelMask) : (unionAll ms).count ≤ (ms.map count).sum := by
  induction ms with
  | nil => decide
  | cons m ms ih =>
    have hle := count_union_le m (unionAll ms)
    rw [unionAll_cons, List.map_cons, List.sum_cons]
    omega

/-- No channel is counted twice exactly if the members share none. -/
theorem count_unionAll_eq_iff : (unionAll ms).count = (ms.map count).sum ↔
    ms.Pairwise fun a b => Disjoint a.places b.places := by
  induction ms with
  | nil => exact iff_of_true (by decide) .nil
  | cons m ms ih =>
    have hle := count_union_le m (unionAll ms)
    have hrest := count_unionAll_le ms
    have hfirst := count_union_eq_iff (a := m) (b := unionAll ms)
    rw [unionAll_cons, List.map_cons, List.sum_cons, List.pairwise_cons, ← ih,
      ← disjoint_places_unionAll_iff, ← hfirst]
    -- a sum of two bounds is reached only if both are
    omega

/-! ## Counting and containing -/

theorem count_le_of_contains (h : a.contains b) : b.count ≤ a.count :=
  Bits.count_le_of_contains h

theorem payload_eq_of_contains (h : a.contains b) (hc : b.count = a.count) :
    b.payload = a.payload :=
  payload_eq_iff.2 (Bits.places_eq_of_contains h hc)

/-- **Channel counts add up.** A union of masks has at most thirty channels and at most as many as
its members together, and it has as many exactly if the members at different positions share no
channel. A mask has at least as many channels as any mask within it; if it has no more, it has the
same. -/
theorem counts_add_up :
    (∀ ms : List ChannelMask, (unionAll ms).count ≤ 30 ∧
      (unionAll ms).count ≤ (ms.map count).sum ∧
      ((unionAll ms).count = (ms.map count).sum ↔
        ms.Pairwise fun a b => a.payload &&& b.payload = 0)) ∧
    ∀ a b : ChannelMask, a.contains b →
      b.count ≤ a.count ∧ (b.count = a.count → a.payload = b.payload) := by
  refine ⟨fun ms => ⟨Bits.count_le capacity _, count_unionAll_le ms, ?_⟩, fun a b h => ?_⟩
  · simp only [payload_and_eq_zero_iff]
    exact count_unionAll_eq_iff
  · exact ⟨count_le_of_contains h, fun hc => (payload_eq_of_contains h hc).symm⟩

/-- Two numbered channels and a stereo output are different masks of the same channels, and joined
they count once. -/
theorem lowest_counts_add_up :
    (lowest 2).contains outStereo ∧ lowest 2 ≠ outStereo ∧
      (lowest 2).payload = outStereo.payload ∧
      (unionAll [lowest 2, outStereo]).count ≠ ([lowest 2, outStereo].map count).sum := by
  obtain ⟨hunion, hcontains⟩ := counts_add_up
  have hc : (lowest 2).contains outStereo := by decide
  refine ⟨hc, by decide, (hcontains _ _ hc).2 (by decide), fun hsum => ?_⟩
  have hdisjoint := (hunion [lowest 2, outStereo]).2.2.1 hsum
  revert hdisjoint
  decide

end AudioHal.ChannelMask
