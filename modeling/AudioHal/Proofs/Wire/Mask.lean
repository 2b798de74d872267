import AudioHal.Proofs.Channel.Table
import AudioHal.Proofs.Wire.Coding
import AudioHal.Wire.Mask

/-! # Channel masks on the wire

Writers choose the table of a mask by its tag, readers take the first table that knows a symbol.
Since the tables agree, either comes to the same as using all of them at once.

* `Wire.encode_mask_eq_ok_iff`, `Wire.decode_mask_eq_ok_iff`: a mask is written, and a string read,
  where any direction can do so.
* `Wire.masks_lossless`: masks survive the way over the wire without their direction.
-/

set_option autoImplicit false

namespace AudioHal.Wire

open ChannelMask

variable {b : Build} {m : ChannelMask} {s : String}

/-! ## Writing and reading -/

/-- A mask of numbered channels is looked up in one table, any other in two. -/
theorem encode_mask_eq_ok_iff_chosen : encode b m = .ok s ↔
    (if m.representation? = some .index then m.symbol? .index
      else m.symbol? .output <|> m.symbol? .input) = some s := by
  simp only [encode]
  rcases m.representation? with _ | _ | _
  all_goals
    split
    next c hc =>
      rw [Except.ok.injEq]
      exact ⟨fun h => h ▸ hc, fun h => Option.some.inj (hc.symm.trans h)⟩
    next hn =>
      exact ⟨nofun, fun h => absurd (hn.symm.trans h) (by simp)⟩

/-- The tag chooses a table that has the symbol if any table has it. -/
theorem encode_mask_eq_ok_iff : encode b m = .ok s ↔ ∃ d, m.symbol? d = some s := by
  rw [encode_mask_eq_ok_iff_chosen, ← firstSymbol?_eq_some_iff]
  by_cases hr : m.representation? = some .index
  · have hm : m ≠ .none := by
      rintro rfl
      cases hr
    have hposition : ∀ d : Direction, d.representation = .position → m.symbol? d = none := by
      intro d hd
      apply symbol?_eq_none hm
      rw [hr, hd]
      nofun
    rw [if_pos hr, firstSymbol?, hposition .output rfl, hposition .input rfl]
    rfl
  · rw [if_neg hr]
    by_cases hm : m = .none
    · -- the one mask that the index table shares with the others
      rw [hm, firstSymbol?, none_symbol? .output]
      rfl
    · rw [firstSymbol?, symbol?_eq_none (d := .index) hm hr]
      cases m.symbol? .output <;> cases m.symbol? .input <;> rfl

theorem mem_maskDirections (d : Direction) : d ∈ maskDirections := by
  cases d <;> decide

theorem decode_mask_eq_ok_iff :
    decode b (.text s) = .ok m ↔ ∃ d, ChannelMask.ofSymbol? b d s = some m := by
  rw [decode_text_eq_ok_iff]
  exact findSome?_ofSymbol?_eq_some_iff mem_maskDirections

theorem decode_encode_mask (h : encode b m = .ok s) : decode b (.text s) = .ok m := by
  obtain ⟨d, hd⟩ := encode_mask_eq_ok_iff.1 h
  exact decode_mask_eq_ok_iff.2 ⟨d, ofSymbol?_of_symbol? b hd⟩

/-- A string that has been read is written again as it was, unless it is an older symbol. -/
theorem encode_of_decode_mask (h : decode b (.text s) = .ok m) :
    ∃ c, encode b m = .ok c ∧ (c = s ↔ ¬IsAlias s) := by
  obtain ⟨d, hd⟩ := decode_mask_eq_ok_iff.1 h
  obtain ⟨c, hc, hs⟩ := exists_symbol?_of_ofSymbol? hd
  exact ⟨c, encode_mask_eq_ok_iff.2 ⟨d, hc⟩, hs⟩

theorem speakable_of_encode (h : encode b m = .ok s) : m.Speakable := by
  obtain ⟨d, hd⟩ := encode_mask_eq_ok_iff.1 h
  exact speakable_of_symbol? hd

/-! ## Lists -/

theorem encodeAll_masks_eq_ok_iff {ms : List ChannelMask} {ss : List String} :
    encodeAll b ms = .ok ss ↔ ms.map firstSymbol? = ss.map some := by
  simp only [encodeAll_eq_ok_iff, encode_mask_eq_ok_iff, ← firstSymbol?_eq_some_iff]
  exact forall₂_eq_some_iff

theorem exists_encodeAll_masks_iff {ms : List ChannelMask} :
    (∃ ss, encodeAll b ms = .ok ss) ↔ ∀ m ∈ ms, ∃ d s, m.symbol? d = some s := by
  simp only [exists_encodeAll_iff, encode_mask_eq_ok_iff]
  exact forall₂_congr fun m _ => exists_comm

theorem speakable_of_encodeAll {ms : List ChannelMask} {ss : List String}
    (h : encodeAll b ms = .ok ss) : ∀ m ∈ ms, m.Speakable := by
  intro m hm
  obtain ⟨s, hs⟩ := exists_encodeAll_iff.1 ⟨ss, h⟩ m hm
  exact speakable_of_encode hs

/-! ## Both ways -/

/-- **Masks lose nothing on the wire, although they travel without their direction.** A mask is
written exactly if some direction has a symbol for it, as the symbol of the first such direction,
and is read back as the same mask. A string that can be read stands for a speakable mask, which is
written as the same string or, in place of an older symbol, as another one that is read as the same
mask. Lists of masks are written and read element by element, with the same guarantees. -/
theorem masks_lossless (b : Build) :
    (∀ m : ChannelMask,
      ((∃ s, encode b m = .ok s) ↔ ∃ d s, m.symbol? d = some s) ∧
      (∀ s, encode b m = .ok s ↔
        (m.symbol? .output <|> m.symbol? .input <|> m.symbol? .index) = some s) ∧
      ∀ s, encode b m = .ok s → decode b (.text s) = .ok m) ∧
    (∀ (s : String) (m : ChannelMask), decode b (.text s) = .ok m →
      m.Speakable ∧
      ∃ c, encode b m = .ok c ∧ decode b (.text c) = .ok m ∧ (c = s ↔ ¬IsAlias s)) ∧
    (∀ ms : List ChannelMask,
      ((∃ ss, encodeAll b ms = .ok ss) ↔ ∀ m ∈ ms, ∃ d s, m.symbol? d = some s) ∧
      (∀ ss, encodeAll b ms = .ok ss ↔ ms.map firstSymbol? = ss.map some) ∧
      ∀ ss, encodeAll b ms = .ok ss → decodeAll b (.sequence (ss.map .text)) = .ok ms) ∧
    ∀ (ss : List String) (ms : List ChannelMask),
      (decodeAll b (.sequence (ss.map .text)) = .ok ms ↔
        List.Forall₂ (fun s m => decode b (.text s) = .ok m) ss ms) ∧
      (decodeAll b (.sequence (ss.map .text)) = .ok ms →
        (∀ m ∈ ms, m.Speakable) ∧
        ∃ cs, encodeAll b ms = .ok cs ∧ decodeAll b (.sequence (cs.map .text)) = .ok ms ∧
          List.Forall₂ (fun s c => c = s ↔ ¬IsAlias s) ss cs) := by
  refine ⟨fun m => ⟨?_, fun s => ?_, fun s => decode_encode_mask⟩, fun s m h => ?_,
    fun ms => ⟨exists_encodeAll_masks_iff, fun ss => encodeAll_masks_eq_ok_iff,
      fun ss => decodeAll_encodeAll fun _ _ => decode_encode_mask⟩,
    fun ss ms => ⟨decodeAll_texts_eq_ok_iff, fun h => ?_⟩⟩
  · simp only [encode_mask_eq_ok_iff]
    exact exists_comm
  · exact encode_mask_eq_ok_iff.trans firstSymbol?_eq_some_iff.symm
  · obtain ⟨c, hc, hs⟩ := encode_of_decode_mask h
    exact ⟨speakable_of_encode hc, c, hc, decode_encode_mask hc, hs⟩
  · obtain ⟨cs, hcs, hs⟩ := exists_encodeAll_of_decodeAll (fun _ _ => encode_of_decode_mask) h
    exact ⟨speakable_of_encodeAll hcs, cs, hcs,
      decodeAll_encodeAll (fun _ _ => decode_encode_mask) hcs, hs⟩

/-- The older name of four loudspeakers is read and gives way to the newer one. -/
theorem quadBack_lossless :
    decode .vendor (.text "AUDIO_CHANNEL_OUT_QUAD_BACK") = .ok outQuad ∧ outQuad.Speakable ∧
      ∃ c, encode .vendor outQuad = .ok c ∧ decode .vendor (.text c) = .ok outQuad ∧
        c ≠ "AUDIO_CHANNEL_OUT_QUAD_BACK" := by
  have hd : decode .vendor (.text "AUDIO_CHANNEL_OUT_QUAD_BACK") = .ok outQuad :=
    decode_mask_eq_ok_iff.2 ⟨.output, by decide +kernel⟩
  have ha : IsAlias "AUDIO_CHANNEL_OUT_QUAD_BACK" :=
    ⟨.output, .legacy "AUDIO_CHANNEL_OUT_QUAD_BACK" outQuadBack, by decide +kernel, rfl⟩
  obtain ⟨hspeak, c, hc, hback, hs⟩ := (masks_lossless .vendor).2.1 _ _ hd
  exact ⟨hd, hspeak, c, hc, hback, fun he => hs.1 he ha⟩

end AudioHal.Wire
