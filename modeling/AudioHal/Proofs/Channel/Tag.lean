import AudioHal.Channel.Position
import AudioHal.Proofs.Channel.Union

/-! # The tag of a union

The two bits of the tag are joined like all others, so that nobody chooses the tag of a union. It
still follows from the tags of the members.

* `ChannelMask.representation?_eq`: what the two bits of a tag mean.
* `ChannelMask.representation?_unionAll_eq_none_iff` and its two companions: a representation of a
  union, said of the members.
* `ChannelMask.hasHaptic_unionAll_iff`: a union has a haptic channel where a member has one and all
  members are positional.
-/

set_option autoImplicit false

namespace AudioHal.ChannelMask

variable {m : ChannelMask} {ms : List ChannelMask}

/-! ## The two bits of a tag -/

theorem toNat_tag (m : ChannelMask) : (m.bits >>> 30).toNat = m.bits.toNat / 0x40000000 := by
  rw [UInt32.toNat_shiftRight]
  simp [Nat.shiftRight_eq_div_pow]

/-- The lower bit of a tag makes a mask invalid, and without it the higher one makes it numbered. -/
theorem representation?_eq (m : ChannelMask) : m.representation? =
    if m.bits.toNat.testBit 30 then none
    else if m.bits.toNat.testBit 31 then some .index else some .position := by
  have hlt := m.bits.toNat_lt
  have hzero : m.bits >>> 30 = 0 ↔ m.bits.toNat / 0x40000000 = 0 := by
    rw [← UInt32.toNat_inj, toNat_tag]
    rfl
  have htwo : m.bits >>> 30 = 2 ↔ m.bits.toNat / 0x40000000 = 2 := by
    rw [← UInt32.toNat_inj, toNat_tag]
    rfl
  have h30 : m.bits.toNat.testBit 30 ↔ m.bits.toNat / 0x40000000 % 2 = 1 := by
    simp [Nat.testBit_eq_decide_div_mod_eq]
  have h31 : m.bits.toNat.testBit 31 ↔ m.bits.toNat / 0x80000000 % 2 = 1 := by
    simp [Nat.testBit_eq_decide_div_mod_eq]
  simp only [representation?, hzero, htwo, h30, h31]
  by_cases hodd : m.bits.toNat / 0x40000000 % 2 = 1
  · rw [if_pos hodd, if_neg (by omega), if_neg (by omega)]
  · by_cases hhigh : m.bits.toNat / 0x80000000 % 2 = 1
    · rw [if_neg hodd, if_pos hhigh, if_neg (by omega), if_pos (by omega)]
    · rw [if_neg hodd, if_neg hhigh, if_pos (by omega)]

theorem representation?_eq_none_iff : m.representation? = none ↔ m.bits.toNat.testBit 30 := by
  rw [representation?_eq]
  split
  · simp [*]
  · split <;> simp [*]

theorem representation?_eq_position_iff : m.representation? = some .position ↔
    ¬m.bits.toNat.testBit 30 ∧ ¬m.bits.toNat.testBit 31 := by
  rw [representation?_eq]
  split
  · simp [*]
  · split <;> simp [*]

theorem representation?_eq_index_iff : m.representation? = some .index ↔
    ¬m.bits.toNat.testBit 30 ∧ m.bits.toNat.testBit 31 := by
  rw [representation?_eq]
  split
  · simp [*]
  · split <;> simp [*]

/-! ## Unions -/

theorem representation?_unionAll_eq_none_iff :
    (unionAll ms).representation? = none ↔ ∃ m ∈ ms, m.representation? = none := by
  simp only [representation?_eq_none_iff, testBit_unionAll]

theorem representation?_unionAll_eq_position_iff : (unionAll ms).representation? = some .position ↔
    ∀ m ∈ ms, m.representation? = some .position := by
  simp only [representation?_eq_position_iff, testBit_unionAll]
  refine ⟨fun h m hm => ?_, fun h => ⟨fun h30 => ?_, fun h31 => ?_⟩⟩
  · exact ⟨fun h30 => h.1 ⟨m, hm, h30⟩, fun h31 => h.2 ⟨m, hm, h31⟩⟩
  · obtain ⟨m, hm, hi⟩ := h30
    exact (h m hm).1 hi
  · obtain ⟨m, hm, hi⟩ := h31
    exact (h m hm).2 hi

theorem representation?_unionAll_eq_index_iff : (unionAll ms).representation? = some .index ↔
    (∀ m ∈ ms, m.representation? ≠ none) ∧ ∃ m ∈ ms, m.representation? = some .index := by
  simp only [representation?_eq_index_iff, representation?_eq_none_iff, testBit_unionAll, ne_eq]
  refine ⟨fun h => ?_, fun h => ?_⟩
  · obtain ⟨hvalid, m, hm, h31⟩ := h
    have hall : ∀ m ∈ ms, ¬m.bits.toNat.testBit 30 := fun m hm h30 => hvalid ⟨m, hm, h30⟩
    exact ⟨hall, m, hm, hall m hm, h31⟩
  · obtain ⟨hall, m, hm, -, h31⟩ := h
    refine ⟨fun hinvalid => ?_, m, hm, h31⟩
    obtain ⟨m', hm', h30⟩ := hinvalid
    exact hall m' hm' h30

/-! ## Haptic channels -/

theorem hasHaptic_iff : m.hasHaptic ↔ m.representation? = some .position ∧
    ∃ i, m.bits.toNat.testBit i ∧ hapticAll.bits.toNat.testBit i := by
  rw [hasHaptic, Bool.and_eq_true, beq_iff_eq, bne_iff_ne, Bits.and_ne_zero_iff]

theorem hasHaptic_unionAll_iff : (unionAll ms).hasHaptic ↔
    (∀ m ∈ ms, m.representation? = some .position) ∧ ∃ m ∈ ms, m.hasHaptic := by
  simp only [hasHaptic_iff, representation?_unionAll_eq_position_iff, testBit_unionAll]
  refine ⟨fun h => ?_, fun h => ?_⟩
  · obtain ⟨hall, i, ⟨m, hm, hi⟩, hhaptic⟩ := h
    exact ⟨hall, m, hm, hall m hm, i, hi, hhaptic⟩
  · obtain ⟨hall, m, hm, -, i, hi, hhaptic⟩ := h
    exact ⟨hall, i, ⟨m, hm, hi⟩, hhaptic⟩

/-- **Unions of masks keep the discipline of tags.** A union is positional exactly if all members
are, invalid exactly if some member is, and numbered exactly if no member is invalid and some member
is numbered. It has a haptic channel exactly if all members are positional and one of them has. -/
theorem unionAll_keeps_representation (ms : List ChannelMask) :
    ((unionAll ms).representation? = some .position ↔
      ∀ m ∈ ms, m.representation? = some .position) ∧
    ((unionAll ms).representation? = none ↔ ∃ m ∈ ms, m.representation? = none) ∧
    ((unionAll ms).representation? = some .index ↔
      (∀ m ∈ ms, m.representation? ≠ none) ∧ ∃ m ∈ ms, m.representation? = some .index) ∧
    ((unionAll ms).hasHaptic ↔
      (∀ m ∈ ms, m.representation? = some .position) ∧ ∃ m ∈ ms, m.hasHaptic) :=
  ⟨representation?_unionAll_eq_position_iff, representation?_unionAll_eq_none_iff,
    representation?_unionAll_eq_index_iff, hasHaptic_unionAll_iff⟩

end AudioHal.ChannelMask
