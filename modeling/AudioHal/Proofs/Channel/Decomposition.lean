import AudioHal.Proofs.Channel.Count
import AudioHal.Proofs.Channel.Table

/-! # Masks as sets of positions

Every position is a bit of its own. So the positions that a mask contains can be counted, and put
together they give the mask back, as long as the mask has no bit besides those of positions. The
named masks of outputs and inputs have none.

* `ChannelMask.Apart`: channels that are single bits, no two of them alike;
  `ChannelMask.Direction.positions_apart` says this of the positions of a direction.
* `ChannelMask.Apart.unionAll_filter_eq_iff`, `ChannelMask.Apart.length_filter`: which masks such
  channels make up, and how many it takes.
* `ChannelMask.Direction.full_contains_of_ofSymbol?`: a named mask has no other bits.
* `ChannelMask.positions_decompose`: all of it, for outputs and for inputs.
-/

set_option autoImplicit false

namespace AudioHal.ChannelMask

variable {m m' : ChannelMask} {cs : List ChannelMask}

/-! ## Channels told apart -/

/-- Channels that are single bits, no two of them alike. -/
structure Apart (cs : List ChannelMask) : Prop where
  single : ∀ c ∈ cs, Bits.IsSingle c.bits
  count : ∀ c ∈ cs, c.count = 1
  disjoint : cs.Pairwise fun a b => a.payload &&& b.payload = 0

theorem unionAll_filter_within (p : ChannelMask → Bool) (cs : List ChannelMask) :
    (unionAll cs).contains (unionAll (cs.filter p)) := by
  apply contains_unionAll_iff.2
  intro c hc
  exact BitSet.unionAll_contains_of_mem (List.mem_filter.1 hc).1

namespace Apart

variable (h : Apart cs)
include h

theorem unionAll_filter (hm : (unionAll cs).contains m) : unionAll (cs.filter m.contains) = m := by
  apply ext_testBit
  intro i
  rw [testBit_unionAll]
  refine ⟨fun hu => ?_, fun hmi => ?_⟩
  · obtain ⟨c, hc, hci⟩ := hu
    exact testBit_of_contains (List.mem_filter.1 hc).2 hci
  · obtain ⟨c, hc, hci⟩ := testBit_unionAll.1 (testBit_of_contains hm hmi)
    -- the mask has the only bit of this channel, so it contains the channel
    have hmc : m.contains c := (h.single c hc).contains_iff.2 ⟨i, hmi, hci⟩
    exact ⟨c, List.mem_filter.2 ⟨hc, hmc⟩, hci⟩

theorem unionAll_filter_eq_iff :
    unionAll (cs.filter m.contains) = m ↔ (unionAll cs).contains m := by
  refine ⟨fun hm => ?_, h.unionAll_filter⟩
  have hwithin := unionAll_filter_within m.contains cs
  rwa [hm] at hwithin

theorem length_filter (hm : (unionAll cs).contains m) :
    (cs.filter m.contains).length = m.count := by
  have hpairs : (cs.filter m.contains).Pairwise fun a b => Disjoint a.places b.places := by
    apply List.Pairwise.filter
    exact h.disjoint.imp payload_and_eq_zero_iff.1
  have hones : (cs.filter m.contains).map ChannelMask.count =
      (cs.filter m.contains).map fun _ => 1 := by
    apply List.map_congr_left
    intro c hc
    exact h.count c (List.mem_filter.1 hc).1
  calc (cs.filter m.contains).length
      = ((cs.filter m.contains).map ChannelMask.count).sum := by rw [hones]; simp
    _ = (unionAll (cs.filter m.contains)).count := (count_unionAll_eq_iff.2 hpairs).symm
    _ = m.count := by rw [h.unionAll_filter hm]

theorem eq_of_contains_iff (hm : (unionAll cs).contains m) (hm' : (unionAll cs).contains m')
    (hsame : ∀ c ∈ cs, m.contains c ↔ m'.contains c) : m = m' := by
  have hfilter : cs.filter m.contains = cs.filter m'.contains :=
    List.filter_congr fun c hc => Bool.eq_iff_iff.2 (hsame c hc)
  rw [← h.unionAll_filter hm, hfilter, h.unionAll_filter hm']

end Apart

/-! ## Positions -/

/-- The positions of a direction; numbered channels have none. -/
def Direction.positions : Direction → List ChannelMask
  | .output => outDiscrete
  | .input => inDiscrete
  | .index => []

/-- All positions of a direction together. -/
def Direction.full : Direction → ChannelMask
  | .output => outAll
  | .input => inAll
  | .index => .none

namespace Direction

variable {b : Build} {d : Direction} {s : String}

theorem full_eq (d : Direction) : d.full = unionAll d.positions := by
  cases d <;> rfl

theorem positions_apart (d : Direction) : Apart d.positions where
  single := by cases d <;> decide +kernel
  count := by cases d <;> decide +kernel
  disjoint := by cases d <;> decide +kernel

theorem full_contains_of_row (hd : d ≠ .index) : ∀ e ∈ (table d).entries, e.role ≠ .sentinel →
    d.full.contains e.value := by
  cases d with
  | output => decide +kernel
  | input => decide +kernel
  | index => exact absurd rfl hd

theorem full_contains_of_ofSymbol? (hd : d ≠ .index) (h : ofSymbol? b d s = some m) :
    d.full.contains m := by
  obtain ⟨e, he, hr, -, rfl⟩ := exists_row_of_ofSymbol? h
  exact full_contains_of_row hd e he hr

end Direction

/-- **Positional masks decompose uniquely into positions.** In a direction with positions, those
that a mask contains make up the mask exactly if it lies within all of them; there are then as many
as the mask has channels, and no other such mask contains the same. The masks that symbols stand for
are of this kind. -/
theorem positions_decompose (b : Build) (d : Direction) (hd : d ≠ .index) :
    (∀ m, unionAll (d.positions.filter m.contains) = m ↔ d.full.contains m) ∧
    (∀ m, d.full.contains m → (d.positions.filter m.contains).length = m.count) ∧
    (∀ m m', d.full.contains m → d.full.contains m' →
      (∀ c ∈ d.positions, m.contains c ↔ m'.contains c) → m = m') ∧
    ∀ s m, ofSymbol? b d s = some m →
      d.full.contains m ∧ unionAll (d.positions.filter m.contains) = m := by
  have h := d.positions_apart
  have hnamed : ∀ s m, ofSymbol? b d s = some m → d.full.contains m :=
    fun s m => Direction.full_contains_of_ofSymbol? hd
  rw [d.full_eq] at hnamed ⊢
  refine ⟨fun m => h.unionAll_filter_eq_iff, fun m => h.length_filter,
    fun m m' => h.eq_of_contains_iff, fun s m hs => ?_⟩
  exact ⟨hnamed s m hs, h.unionAll_filter (hnamed s m hs)⟩

/-- The stereo output with a haptic channel is made of three positions. -/
theorem outStereoHapticA_decompose :
    outAll.contains outStereoHapticA ∧
      unionAll (outDiscrete.filter outStereoHapticA.contains) = outStereoHapticA ∧
      (outDiscrete.filter outStereoHapticA.contains).length = 3 := by
  have hs : ofSymbol? .vendor .output "AUDIO_CHANNEL_OUT_STEREO_HAPTIC_A" =
      some outStereoHapticA := by
    decide +kernel
  obtain ⟨-, hlength, -, hnamed⟩ := positions_decompose .vendor .output (by decide)
  obtain ⟨hm, hunion⟩ := hnamed _ _ hs
  exact ⟨hm, hunion, hlength _ hm⟩

end AudioHal.ChannelMask
