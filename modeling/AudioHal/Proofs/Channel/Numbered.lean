import AudioHal.Proofs.Channel.Count
import AudioHal.Proofs.Channel.Table
import AudioHal.Proofs.Channel.Tag
import AudioHal.Proofs.Text.Numeral
import Mathlib

/-! # Numbered channels

The mask of `n` numbered channels has the tag of numbered channels and its `n` lowest bits, and
nothing else. So the number can be read off the mask, by counting; and a mask that merely has the
tag is told from one that has been made for a number.

* `ChannelMask.places_lowest`, `ChannelMask.toNat_lowest`: the bits of such a mask; up to thirty
  channels nothing is shifted out of the word.
* `ChannelMask.IsNumbered`, `ChannelMask.isNumbered_iff`: the masks of numbered channels, by their
  bits and by their count.
* `ChannelMask.symbol?_index_isSome_iff`, `ChannelMask.ofSymbol?_index_iff`: those among them that
  have symbols, and the symbols.
* `ChannelMask.numbered_recoverable`: all of it.
-/

set_option autoImplicit false

namespace AudioHal.ChannelMask

open Text

variable {b : Build} {c : UInt32} {m m' : ChannelMask} {n i : Nat} {s : String}

/-! ## Runs of bits -/

/-- The `n` lowest channels and no others. -/
theorem payload_eq_iff_range : m.payload.toNat = 2 ^ n - 1 ↔ m.places = Finset.range n := by
  have hrun : ∀ i, (2 ^ n - 1).testBit i ↔ i ∈ Finset.range n := by
    intro i
    rw [Nat.testBit_two_pow_sub_one, decide_eq_true_eq, Finset.mem_range]
  refine ⟨fun h => ?_, fun h => ?_⟩
  · ext i
    rw [← testBit_payload, h, hrun]
  · apply Nat.eq_of_testBit_eq
    intro i
    rw [Bool.eq_iff_iff, testBit_payload, hrun, h]

theorem count_of_range (h : m.places = Finset.range n) : m.count = n := by
  rw [← card_places, h, Finset.card_range]

theorem count_le_capacity (m : ChannelMask) : m.count ≤ capacity :=
  Bits.count_le capacity m.bits

/-- The count of a mask fits the word in which it is asked for. -/
theorem toNat_ofNat_of_le (hn : n ≤ capacity) : (UInt32.ofNat n).toNat = n :=
  UInt32.toNat_ofNat_of_lt' (Nat.lt_of_le_of_lt hn (by decide))

theorem toNat_shift (hc : c.toNat ≤ capacity) : ((1 : UInt32) <<< c).toNat = 2 ^ c.toNat := by
  have hle : c.toNat ≤ 30 := hc
  have hpow : 2 ^ c.toNat ≤ 2 ^ 30 := Nat.pow_le_pow_right (by decide) hle
  rw [UInt32.toNat_shiftLeft, UInt32.toNat_one, Nat.mod_eq_of_lt (show c.toNat < 32 by omega),
    Nat.one_shiftLeft, Nat.mod_eq_of_lt (by omega)]

theorem toNat_shift_sub (hc : c.toNat ≤ capacity) :
    ((1 : UInt32) <<< c - 1).toNat = 2 ^ c.toNat - 1 := by
  have hone : (1 : UInt32) ≤ 1 <<< c := by
    rw [UInt32.le_iff_toNat_le, toNat_shift hc]
    exact Nat.one_le_two_pow
  rw [UInt32.toNat_sub_of_le _ _ hone, toNat_shift hc]
  rfl

theorem toNat_lowest (hc : c.toNat ≤ capacity) :
    (lowest c).bits.toNat = 0x80000000 + (2 ^ c.toNat - 1) := by
  have hle : c.toNat ≤ 30 := hc
  have hpow : 2 ^ c.toNat ≤ 2 ^ 30 := Nat.pow_le_pow_right (by decide) hle
  have htag : indexTag.toNat = 2 ^ 31 * 1 := rfl
  rw [lowest, UInt32.toNat_or, toNat_shift_sub hc, htag,
    ← Nat.two_pow_add_eq_or_of_lt (by omega)]

theorem testBit_lowest (hc : c.toNat ≤ capacity) :
    (lowest c).bits.toNat.testBit i ↔ i = 31 ∨ i < c.toNat := by
  have htag : indexTag.toNat = 2 ^ 31 := rfl
  rw [lowest, UInt32.toNat_or, toNat_shift_sub hc, htag, Nat.testBit_or, Bool.or_eq_true,
    Nat.testBit_two_pow, Nat.testBit_two_pow_sub_one, decide_eq_true_eq, decide_eq_true_eq,
    eq_comm]

theorem places_lowest (hc : c.toNat ≤ capacity) : (lowest c).places = Finset.range c.toNat := by
  have hle : c.toNat ≤ 30 := hc
  ext i
  rw [places, Bits.mem_places, testBit_lowest hc, Finset.mem_range, capacity]
  omega

theorem representation?_lowest (hc : c.toNat ≤ capacity) :
    (lowest c).representation? = some .index := by
  have hle : c.toNat ≤ 30 := hc
  rw [representation?_eq_index_iff, testBit_lowest hc, testBit_lowest hc]
  omega

theorem count_lowest (hc : c.toNat ≤ capacity) : (lowest c).count = c.toNat :=
  count_of_range (places_lowest hc)

theorem lowest_eq_iff (hn : n ≤ capacity) :
    lowest (.ofNat n) = m ↔ m.bits.toNat = 0x80000000 + (2 ^ n - 1) := by
  have hto := toNat_ofNat_of_le hn
  have hlowest := toNat_lowest (c := .ofNat n) (by rw [hto]; exact hn)
  rw [hto] at hlowest
  rw [← hlowest, UInt32.toNat_inj]
  exact ⟨fun h => by rw [h], fun h => congrArg mk h.symm⟩

/-! ## Numbers of channels -/

/-- A mask of numbered channels is its channels, for the tag has only one form. -/
theorem eq_of_index (hm : m.representation? = some .index) (hm' : m'.representation? = some .index)
    (h : m.places = m'.places) : m = m' := by
  rw [representation?_eq_index_iff] at hm hm'
  apply ext_testBit
  intro i
  by_cases hi : i < capacity
  · have hplace : i ∈ m.places ↔ i ∈ m'.places := by rw [h]
    rw [places, places, Bits.mem_places, Bits.mem_places] at hplace
    simpa [hi] using hplace
  · rw [capacity] at hi
    rcases Nat.lt_or_ge i 32 with hlt | hge
    · obtain rfl | rfl : i = 30 ∨ i = 31 := by omega
      · exact iff_of_false hm.1 hm'.1
      · exact iff_of_true hm.2 hm'.2
    · exact iff_of_false (fun hb => by have := Bits.lt_of_testBit hb; omega)
        (fun hb => by have := Bits.lt_of_testBit hb; omega)

/-- The tag of numbered channels and a run of the lowest bits, of at least one. -/
structure IsNumbered (m : ChannelMask) : Prop where
  tag : m.representation? = some .index
  run : ∃ n, 1 ≤ n ∧ m.payload.toNat = 2 ^ n - 1

theorem isNumbered_lowest (h1 : 1 ≤ c.toNat) (hc : c.toNat ≤ capacity) : (lowest c).IsNumbered :=
  ⟨representation?_lowest hc, c.toNat, h1, payload_eq_iff_range.2 (places_lowest hc)⟩

/-- Such a mask is made of its own count. -/
theorem isNumbered_iff : m.IsNumbered ↔ 1 ≤ m.count ∧ lowest (.ofNat m.count) = m := by
  have hn := toNat_ofNat_of_le (count_le_capacity m)
  have hc : (UInt32.ofNat m.count).toNat ≤ capacity := by
    rw [hn]
    exact count_le_capacity m
  refine ⟨fun h => ?_, fun h => ?_⟩
  · obtain ⟨htag, n, h1, hpayload⟩ := h
    have hplaces := payload_eq_iff_range.1 hpayload
    have hcount := count_of_range hplaces
    refine ⟨by omega, eq_of_index (representation?_lowest hc) htag ?_⟩
    rw [places_lowest hc, hn, hcount, hplaces]
  · obtain ⟨h1, hm⟩ := h
    rw [← hm]
    exact isNumbered_lowest (by omega) hc

theorem ofCount?_eq_some_iff :
    ofCount? c = some m ↔ 1 ≤ c.toNat ∧ c.toNat ≤ capacity ∧ lowest c = m := by
  have hzero : c = 0 ↔ c.toNat = 0 := by
    rw [← UInt32.toNat_inj]
    rfl
  simp only [ofCount?, hzero]
  split
  · simp only [reduceCtorEq, false_iff]
    omega
  · rw [Option.some.injEq]
    exact ⟨fun h => ⟨by omega, by omega, h⟩, fun h => h.2.2⟩

theorem ofCount?_isSome_iff : (ofCount? c).isSome ↔ 1 ≤ c.toNat ∧ c.toNat ≤ capacity := by
  simp only [Option.isSome_iff_exists, ofCount?_eq_some_iff, ← and_assoc]
  exact ⟨fun ⟨_, h⟩ => h.1, fun h => ⟨_, h, rfl⟩⟩

theorem ofCount?_count_iff : ofCount? (.ofNat m.count) = some m ↔ m.IsNumbered := by
  rw [ofCount?_eq_some_iff, isNumbered_iff, toNat_ofNat_of_le (count_le_capacity m)]
  exact ⟨fun h => ⟨h.1, h.2.2⟩, fun h => ⟨h.1, count_le_capacity m, h.2⟩⟩

/-! ## Symbols -/

/-- The row of the mask of `n` numbered channels. -/
def numberedRow (n : Nat) : Entry ChannelMask :=
  .canonical ("AUDIO_CHANNEL_INDEX_MASK_" ++ digits 10 n) (lowest (.ofNat n))

theorem mem_index_entries {e : Entry ChannelMask} : e ∈ (table .index).entries ↔
    e = .canonical "AUDIO_CHANNEL_NONE" .none ∨
      (∃ n, 1 ≤ n ∧ n ≤ namedCapacity ∧ numberedRow n = e) ∨
      e = .sentinel "AUDIO_CHANNEL_INVALID" .invalid := by
  have hnamed : e ∈ namedIndexMasks ↔ ∃ n, 1 ≤ n ∧ n ≤ namedCapacity ∧ numberedRow n = e := by
    simp only [namedIndexMasks, List.mem_map, List.mem_range]
    refine ⟨fun h => ?_, fun h => ?_⟩
    · obtain ⟨n, hn, he⟩ := h
      exact ⟨n + 1, by omega, by omega, he⟩
    · obtain ⟨n, h1, hn, he⟩ := h
      obtain ⟨k, rfl⟩ : ∃ k, n = k + 1 := ⟨n - 1, by omega⟩
      exact ⟨k, by omega, he⟩
  rw [← hnamed]
  simp [Table.entries, table, indexRows]

theorem symbol?_index_iff : (m.symbol? .index).isSome ↔
    m = .none ∨ ∃ n, 1 ≤ n ∧ n ≤ namedCapacity ∧ lowest (.ofNat n) = m := by
  simp only [Option.isSome_iff_exists, symbol?_eq_some_iff, Table.mem_canonical, mem_index_entries]
  refine ⟨fun h => ?_, fun h => ?_⟩
  · obtain ⟨s, e, ⟨he, hg⟩, rfl, -⟩ := h
    rcases he with rfl | ⟨n, h1, hn, rfl⟩ | rfl
    · exact .inl rfl
    · exact .inr ⟨n, h1, hn, rfl⟩
    · cases hg
  · rcases h with rfl | ⟨n, h1, hn, rfl⟩
    · exact ⟨_, _, ⟨.inl rfl, rfl⟩, rfl, rfl⟩
    · exact ⟨_, _, ⟨.inr (.inl ⟨n, h1, hn, rfl⟩), rfl⟩, rfl, rfl⟩

theorem symbol?_index_isSome_iff (hm : m ≠ .none) :
    (m.symbol? .index).isSome ↔ m.IsNumbered ∧ m.count ≤ namedCapacity := by
  rw [symbol?_index_iff, or_iff_right hm, isNumbered_iff]
  refine ⟨fun h => ?_, fun h => ⟨m.count, h.1.1, h.2, h.1.2⟩⟩
  obtain ⟨n, h1, hn, rfl⟩ := h
  have hcap : n ≤ capacity := Nat.le_trans hn (by decide)
  have hto := toNat_ofNat_of_le hcap
  have hcount : (lowest (.ofNat n)).count = n := by
    rw [count_lowest (by rw [hto]; exact hcap), hto]
  rw [hcount]
  exact ⟨⟨h1, rfl⟩, hn⟩

theorem ofSymbol?_index_iff : ofSymbol? b .index s = some m ↔
    s = "AUDIO_CHANNEL_NONE" ∧ m = .none ∨
      ∃ n, 1 ≤ n ∧ n ≤ namedCapacity ∧ s = "AUDIO_CHANNEL_INDEX_MASK_" ++ digits 10 n ∧
        lowest (.ofNat n) = m := by
  simp only [ofSymbol?_eq_some_iff, mem_index_entries]
  refine ⟨fun h => ?_, fun h => ?_⟩
  · obtain ⟨e, he, hp, rfl, rfl⟩ := h
    rcases he with rfl | ⟨n, h1, hn, rfl⟩ | rfl
    · exact .inl ⟨rfl, rfl⟩
    · exact .inr ⟨n, h1, hn, rfl, rfl⟩
    · rw [Entry.sentinel, Role.isParsed_sentinel] at hp
      cases hp
  · have hp : ∀ e : Entry ChannelMask, e.role = .canonical → e.role.isParsed b.visibility := by
      intro e hr
      rw [hr]
      rfl
    rcases h with ⟨rfl, rfl⟩ | ⟨n, h1, hn, rfl, rfl⟩
    · exact ⟨_, .inl rfl, hp _ rfl, rfl, rfl⟩
    · exact ⟨_, .inr (.inl ⟨n, h1, hn, rfl⟩), hp _ rfl, rfl, rfl⟩

theorem eq_append_digits_iff {stem : String} (hn : 1 ≤ n) :
    s = stem ++ digits 10 n ↔ ∃ ds, IsDecimal n ds ∧ s.toList = stem.toList ++ ds := by
  simp only [isDecimal_iff hn, exists_eq_left, ← String.toList_inj, String.toList_append, digits,
    String.toList_ofList]

/-- **The masks of numbered channels are recoverable from their bits.** A mask is that of its own
count exactly if it has the tag of numbered channels and a run of the lowest bits. There is a mask
for every count from one to thirty and for no other, and for these the shift stays within the word.
Of the masks that are not empty those with an index symbol are the ones of at most 24 channels, and
a string is an index symbol exactly if it is that of the empty mask or ends in the decimal digits of
such a number. -/
theorem numbered_recoverable :
    (∀ m : ChannelMask, ofCount? (.ofNat m.count) = some m ↔ m.IsNumbered) ∧
    (∀ c : UInt32, (ofCount? c).isSome ↔ 1 ≤ c.toNat ∧ c.toNat ≤ 30) ∧
    (∀ (c : UInt32) (m : ChannelMask), ofCount? c = some m →
      ((1 : UInt32) <<< c).toNat = 2 ^ c.toNat ∧
        m.bits.toNat = 0x80000000 + (2 ^ c.toNat - 1)) ∧
    (∀ m : ChannelMask, m ≠ .none →
      ((m.symbol? .index).isSome ↔ m.IsNumbered ∧ m.count ≤ 24)) ∧
    ∀ (b : Build) (s : String) (m : ChannelMask), ofSymbol? b .index s = some m ↔
      s = "AUDIO_CHANNEL_NONE" ∧ m = .none ∨
        ∃ n ds, 1 ≤ n ∧ n ≤ 24 ∧ IsDecimal n ds ∧
          s.toList = "AUDIO_CHANNEL_INDEX_MASK_".toList ++ ds ∧
          m.bits.toNat = 0x80000000 + (2 ^ n - 1) := by
  refine ⟨fun m => ofCount?_count_iff, fun c => ofCount?_isSome_iff, fun c m h => ?shift,
    fun m hm => symbol?_index_isSome_iff hm, fun b s m => ?symbols⟩
  case shift =>
    obtain ⟨-, hc, rfl⟩ := ofCount?_eq_some_iff.1 h
    exact ⟨toNat_shift hc, toNat_lowest hc⟩
  case symbols =>
    rw [ofSymbol?_index_iff]
    simp only [exists_and_left]
    refine or_congr Iff.rfl (exists_congr fun n => ?_)
    refine and_congr_right fun h1 => and_congr_right fun hn => ?_
    rw [eq_append_digits_iff h1, lowest_eq_iff (Nat.le_trans hn (by decide))]
    simp only [exists_and_right, ← and_assoc]

/-- Twenty-five channels are beyond the names, but not beyond the masks. -/
theorem lowest25_numbered_recoverable :
    lowest 25 ≠ .none ∧ ofCount? 25 = some (lowest 25) ∧ (lowest 25).IsNumbered ∧
      (lowest 25).bits.toNat = 0x81FFFFFF ∧ (lowest 25).symbol? .index = none := by
  obtain ⟨hrecover, -, hshift, hsymbol, -⟩ := numbered_recoverable
  have hne : lowest 25 ≠ .none := by decide
  have hcount : (lowest 25).count = 25 := by decide
  have hof : ofCount? 25 = some (lowest 25) := rfl
  refine ⟨hne, hof, (hrecover (lowest 25)).1 (by rw [hcount]; exact hof), (hshift 25 _ hof).2, ?_⟩
  cases h : (lowest 25).symbol? .index with
  | none => rfl
  | some s =>
    have hle := ((hsymbol (lowest 25) hne).1 (by rw [h]; rfl)).2
    rw [hcount] at hle
    exact absurd hle (by decide)

end AudioHal.ChannelMask
