import AudioHal.Proofs.Wire.Mask

/-! # Directions told apart

Nothing in the layout of masks keeps the directions apart: outputs and inputs share most of their
bits, and the names of layouts are unions of them. The tables do keep them apart, so that neither a
symbol nor a named mask is ambiguous.

* `ChannelMask.Direction.stem`: a symbol begins with the name of its direction.
* `ChannelMask.direction_eq_of_ofSymbol?`: a symbol belongs to one direction, unless it is that of
  the empty mask.
* `ChannelMask.direction_eq_of_symbol?`: a mask that is not empty has a symbol in one direction at
  most.
* `ChannelMask.directions_apart`: both, and what follows for strings that are read without a
  direction.
-/

set_option autoImplicit false

namespace AudioHal.ChannelMask

open Wire

variable {b : Build} {d d' : Direction} {m m' : ChannelMask} {s s' : String}

/-! ## Symbols -/

/-- What the symbols of a direction begin with, apart from that of the empty mask. -/
def Direction.stem : Direction → List Char
  | .output => "AUDIO_CHANNEL_OUT_".toList
  | .input => "AUDIO_CHANNEL_IN_".toList
  | .index => "AUDIO_CHANNEL_INDEX_".toList

theorem Direction.eq_of_stem {l : List Char} (h : d.stem <+: l) (h' : d'.stem <+: l) : d = d' := by
  -- of two beginnings of one text the shorter one begins the longer one
  have hor := List.prefix_or_prefix_of_prefix h h'
  revert hor
  cases d <;> cases d' <;> decide

theorem symbol_of_row (d : Direction) : ∀ e ∈ (table d).entries, e.role ≠ .sentinel →
    e.symbol = "AUDIO_CHANNEL_NONE" ∨ d.stem <+: e.symbol.toList := by
  cases d <;> decide +kernel

theorem symbol_of_ofSymbol? (h : ofSymbol? b d s = some m) :
    s = "AUDIO_CHANNEL_NONE" ∨ d.stem <+: s.toList := by
  obtain ⟨e, he, hr, rfl, -⟩ := exists_row_of_ofSymbol? h
  exact symbol_of_row d e he hr

theorem direction_eq_of_ofSymbol? (h : ofSymbol? b d s = some m) (h' : ofSymbol? b d' s = some m') :
    d = d' ∨ s = "AUDIO_CHANNEL_NONE" := by
  rcases symbol_of_ofSymbol? h with hs | hs
  · exact .inr hs
  rcases symbol_of_ofSymbol? h' with hs' | hs'
  · exact .inr hs'
  exact .inl (Direction.eq_of_stem hs hs')

/-! ## Masks -/

theorem ofSymbol?_none (b : Build) (d : Direction) :
    ofSymbol? b d "AUDIO_CHANNEL_NONE" = some .none :=
  ofSymbol?_of_symbol? b (none_symbol? d)

theorem direction_eq_of_symbol? (hm : m ≠ .none) (h : m.symbol? d = some s)
    (h' : m.symbol? d' = some s') : d = d' := by
  obtain rfl : s = s' := symbol?_agree h h'
  have hd := ofSymbol?_of_symbol? .framework h
  rcases direction_eq_of_ofSymbol? hd (ofSymbol?_of_symbol? .framework h') with hdir | hs
  · exact hdir
  · rw [hs, ofSymbol?_none, Option.some.injEq] at hd
    exact absurd hd.symm hm

/-! ## Both -/

/-- **A symbol stands for the same mask wherever it is looked up.** Directions that know a symbol
give it the same mask, and only the symbol of the empty mask is known to more than one; so a string
is read alike whatever the order in which the directions are asked. A mask that is not empty has a
symbol in at most one direction, and its tag tells whether that is the index or one of the other
two. -/
theorem directions_apart (b : Build) :
    (∀ (s : String) (d d' : Direction) (m m' : ChannelMask),
      ofSymbol? b d s = some m → ofSymbol? b d' s = some m' →
        m = m' ∧ (d = d' ∨ s = "AUDIO_CHANNEL_NONE")) ∧
    (∀ d, ofSymbol? b d "AUDIO_CHANNEL_NONE" = some .none) ∧
    (∀ ds : List Direction, ds.Perm maskDirections → ∀ (s : String) (m : ChannelMask),
      decode b (.text s) = .ok m ↔ ds.findSome? (fun d => ofSymbol? b d s) = some m) ∧
    ∀ m : ChannelMask, m ≠ .none →
      (∀ d d' s s', m.symbol? d = some s → m.symbol? d' = some s' → d = d') ∧
      (∀ s, m.symbol? .index = some s → m.representation? = some .index) ∧
      (∀ s, m.symbol? .output = some s → m.representation? = some .position) ∧
      ∀ s, m.symbol? .input = some s → m.representation? = some .position := by
  refine ⟨fun s d d' m m' h h' => ⟨ofSymbol?_agree h h', direction_eq_of_ofSymbol? h h'⟩,
    ofSymbol?_none b, fun ds hds s m => ?order, fun m hm => ?tag⟩
  case order =>
    have hall : ∀ d, d ∈ ds := fun d => hds.mem_iff.2 (mem_maskDirections d)
    rw [decode_mask_eq_ok_iff, findSome?_ofSymbol?_eq_some_iff hall]
  case tag =>
    exact ⟨fun d d' s s' => direction_eq_of_symbol? hm, fun s h => representation?_of_symbol? h hm,
      fun s h => representation?_of_symbol? h hm, fun s h => representation?_of_symbol? h hm⟩

/-- The two bits of a stereo input are those of two output channels, but no output has them for a
name. -/
theorem inStereo_directions_apart :
    inStereo ≠ .none ∧ inStereo = outFrontCenter.union outLowFrequency ∧
      inStereo.symbol? .input = some "AUDIO_CHANNEL_IN_STEREO" ∧ inStereo.symbol? .output = none ∧
      ∀ d m, ofSymbol? .vendor d "AUDIO_CHANNEL_IN_STEREO" = some m →
        d = .input ∧ m = inStereo := by
  obtain ⟨hsymbol, -, -, hmask⟩ := directions_apart .vendor
  have hne : inStereo ≠ .none := by decide
  have hin : inStereo.symbol? .input = some "AUDIO_CHANNEL_IN_STEREO" := by decide +kernel
  have hparse := ofSymbol?_of_symbol? .vendor hin
  refine ⟨hne, by decide, hin, ?_, fun d m h => ?_⟩
  · cases hout : inStereo.symbol? .output with
    | none => rfl
    | some s => cases (hmask inStereo hne).1 _ _ _ _ hout hin
  · obtain ⟨hm, hd | hs⟩ := hsymbol _ _ _ _ _ h hparse
    · exact ⟨hd, hm⟩
    · exact absurd hs (by decide)

end AudioHal.ChannelMask
