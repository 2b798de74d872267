import AudioHal.Text.Utf8
import Mathlib

/-! # Texts as bytes

A text has one spelling in bytes, and bytes that are not the spelling of a text are not read as one.

* `Utf8.Spells`: the grammar, one case for each number of bytes.
* `Utf8.spells_utf8EncodeChar`, `Utf8.Spells.utf8EncodeChar_eq`: a character is written the way the
  grammar says.
* `Utf8.scan_spells`, `Utf8.exists_spells`: what follows the grammar is read without a gap, and
  nothing else is.
* `Utf8.decode?_eq_some_iff`: decoding undoes encoding and accepts nothing else. `Utf8.encode_inj`,
  `Utf8.decodeLossy_encode`: what follows from it.
-/

set_option autoImplicit false

namespace AudioHal

theorem mapM_eq_some_iff {α β : Type} {f : α → Option β} {xs : List α} {ys : List β} :
    xs.mapM f = some ys ↔ xs.map f = ys.map some := by
  induction xs generalizing ys with
  | nil => cases ys <;> simp
  | cons x xs ih =>
    cases ys with
    | nil => simp [List.mapM_cons, Option.bind_eq_some_iff]
    | cons y ys =>
      simp only [List.mapM_cons, Option.bind_eq_bind, Option.bind_eq_some_iff, ih, Option.pure_def,
        Option.some.injEq, List.cons.injEq, List.map_cons]
      constructor
      · rintro ⟨z, hx, zs, hxs, rfl, rfl⟩
        exact ⟨hx, hxs⟩
      · rintro ⟨hx, hxs⟩
        exact ⟨y, hx, ys, hxs, rfl, rfl⟩

namespace Utf8

/-- A byte that goes on with a character. -/
def IsTail (b : UInt8) : Prop :=
  0x80 ≤ b.toNat ∧ b.toNat ≤ 0xBF

/-- A byte that may come second. After some first bytes it is held to a narrower range, so that
every character is spelled one way and nothing else is spelled. -/
def Follows (a b : UInt8) : Prop :=
  IsTail b ∧ (a.toNat = 0xE0 → 0xA0 ≤ b.toNat) ∧ (a.toNat = 0xED → b.toNat ≤ 0x9F) ∧
    (a.toNat = 0xF0 → 0x90 ≤ b.toNat) ∧ (a.toNat = 0xF4 → b.toNat ≤ 0x8F)

/-- The bytes that spell a code point. -/
inductive Spells : List UInt8 → Nat → Prop
  | one {a : UInt8} : a.toNat < 0x80 → Spells [a] a.toNat
  | two {a b : UInt8} : 0xC2 ≤ a.toNat → a.toNat < 0xE0 → Follows a b →
    Spells [a, b] (a.toNat % 0x20 * 0x40 + b.toNat % 0x40)
  | three {a b c : UInt8} : 0xE0 ≤ a.toNat → a.toNat < 0xF0 → Follows a b → IsTail c →
    Spells [a, b, c] ((a.toNat % 0x10 * 0x40 + b.toNat % 0x40) * 0x40 + c.toNat % 0x40)
  | four {a b c d : UInt8} : 0xF0 ≤ a.toNat → a.toNat < 0xF5 → Follows a b → IsTail c → IsTail d →
    Spells [a, b, c, d]
      (((a.toNat % 0x8 * 0x40 + b.toNat % 0x40) * 0x40 + c.toNat % 0x40) * 0x40 + d.toNat % 0x40)

variable {a b : UInt8} {bytes rest : List UInt8} {n : Nat} {p : Pending} {s t : String}

/-! ## One spelling for each character -/

theorem Spells.isValidChar (h : Spells bytes n) : n.isValidChar := by
  unfold Nat.isValidChar
  cases h with
  | one => omega
  | two => unfold Follows IsTail at *; omega
  | three => unfold Follows IsTail at *; omega
  | four => unfold Follows IsTail at *; omega

theorem Spells.utf8EncodeChar_eq (h : Spells bytes n) :
    String.utf8EncodeChar (.ofNat n) = bytes := by
  have hn : (Char.ofNat n).val.toNat = n := by
    have hn := Char.toNat_ofNat n
    rwa [if_pos h.isValidChar] at hn
  unfold String.utf8EncodeChar
  simp only [hn]
  cases h with
  | one =>
    rw [if_pos (by omega), UInt8.ofNat_toNat]
  | two =>
    unfold Follows IsTail at *
    rw [if_neg (by omega), if_pos (by omega)]
    simp only [List.cons.injEq, ← UInt8.toNat_inj, UInt8.toNat_ofNat', and_true]
    omega
  | three =>
    unfold Follows IsTail at *
    rw [if_neg (by omega), if_neg (by omega), if_pos (by omega)]
    simp only [List.cons.injEq, ← UInt8.toNat_inj, UInt8.toNat_ofNat', and_true]
    omega
  | four =>
    unfold Follows IsTail at *
    rw [if_neg (by omega), if_neg (by omega), if_neg (by omega)]
    simp only [List.cons.injEq, ← UInt8.toNat_inj, UInt8.toNat_ofNat', and_true]
    omega

theorem Spells.of_eq {m : Nat} (h : Spells bytes m) (hm : m = n) : Spells bytes n :=
  hm ▸ h

theorem spells_utf8EncodeChar (c : Char) : Spells (String.utf8EncodeChar c) c.toNat := by
  obtain ⟨v, hv⟩ : ∃ v, c.toNat = v := ⟨_, rfl⟩
  have hvalid : v < 0xD800 ∨ 0xDFFF < v ∧ v < 0x110000 := hv ▸ c.valid
  have hb : ∀ m, (UInt8.ofNat m).toNat = m % 256 := fun m => UInt8.toNat_ofNat'
  unfold String.utf8EncodeChar
  simp only [show c.val.toNat = v from hv, hv]
  split
  · exact (Spells.one (by simp only [hb]; omega)).of_eq (by simp only [hb]; omega)
  split
  · exact (Spells.two (by simp only [hb]; omega) (by simp only [hb]; omega)
      (by simp only [Follows, IsTail, hb]; omega)).of_eq (by simp only [hb]; omega)
  split
  · exact (Spells.three (by simp only [hb]; omega) (by simp only [hb]; omega)
      (by simp only [Follows, IsTail, hb]; omega)
      (by simp only [IsTail, hb]; omega)).of_eq (by simp only [hb]; omega)
  · exact (Spells.four (by simp only [hb]; omega) (by simp only [hb]; omega)
      (by simp only [Follows, IsTail, hb]; omega) (by simp only [IsTail, hb]; omega)
      (by simp only [IsTail, hb]; omega)).of_eq (by simp only [hb]; omega)

/-- A byte below 80 stands for itself. -/
theorem Spells.eq_of_mem (h : Spells bytes n) (hb : b ∈ bytes) (hlt : b.toNat < 0x80) :
    n = b.toNat := by
  cases h with
  | one => rw [List.mem_singleton.1 hb]
  | two =>
    unfold Follows IsTail at *
    rcases List.mem_pair.1 hb with rfl | rfl <;> omega
  | three =>
    unfold Follows IsTail at *
    simp only [List.mem_cons, List.not_mem_nil, or_false] at hb
    rcases hb with rfl | rfl | rfl <;> omega
  | four =>
    unfold Follows IsTail at *
    simp only [List.mem_cons, List.not_mem_nil, or_false] at hb
    rcases hb with rfl | rfl | rfl | rfl <;> omega

theorem mem_of_mem_encode (hb : b ∈ encode s) (hlt : b.toNat < 0x80) :
    Char.ofNat b.toNat ∈ s.toList := by
  obtain ⟨c, hc, hbc⟩ := List.mem_flatMap.1 hb
  rw [← (spells_utf8EncodeChar c).eq_of_mem hbc hlt, Char.ofNat_toNat]
  exact hc

/-! ## Scanning -/

/-- What stays pending after a first byte, when so many bytes are owed. -/
structure Opens (a : UInt8) (bits owed : Nat) (p : Pending) : Prop where
  bits : p.bits = bits
  owed : p.owed = owed
  range : ∀ b, p.low ≤ b ∧ b ≤ p.high ↔ Follows a b

theorem first_one (h : a.toNat < 0x80) : first a = ([some (.ofNat a.toNat)], none) := by
  unfold first
  rw [if_pos (UInt8.lt_iff_toNat_lt.2 h)]

theorem exists_opens {bits owed : Nat} {low high : UInt8}
    (h : ∀ b : UInt8, low.toNat ≤ b.toNat ∧ b.toNat ≤ high.toNat ↔ Follows a b) :
    ∃ p, (([], some ⟨bits, owed, low, high⟩) : Effect) = ([], some p) ∧ Opens a bits owed p :=
  ⟨_, rfl, rfl, rfl, fun b => by rw [UInt8.le_iff_toNat_le, UInt8.le_iff_toNat_le]; exact h b⟩

theorem first_two (h : 0xC2 ≤ a.toNat) (h' : a.toNat < 0xE0) :
    ∃ p, first a = ([], some p) ∧ Opens a (a.toNat % 0x20) 1 p := by
  unfold first
  simp only [UInt8.lt_iff_toNat_lt, UInt8.reduceToNat]
  rw [if_neg (by omega), if_neg (by omega), if_pos h']
  exact exists_opens fun b => by simp [Follows, IsTail]; omega

theorem first_three (h : 0xE0 ≤ a.toNat) (h' : a.toNat < 0xF0) :
    ∃ p, first a = ([], some p) ∧ Opens a (a.toNat % 0x10) 2 p := by
  unfold first
  simp only [UInt8.lt_iff_toNat_lt, ← UInt8.toNat_inj, UInt8.reduceToNat]
  rw [if_neg (by omega), if_neg (by omega), if_neg (by omega)]
  split
  · exact exists_opens fun b => by simp [Follows, IsTail]; omega
  split
  · exact exists_opens fun b => by simp [Follows, IsTail]; omega
  · exact exists_opens fun b => by simp [Follows, IsTail]; omega

theorem first_four (h : 0xF0 ≤ a.toNat) (h' : a.toNat < 0xF5) :
    ∃ p, first a = ([], some p) ∧ Opens a (a.toNat % 0x8) 3 p := by
  unfold first
  simp only [UInt8.lt_iff_toNat_lt, ← UInt8.toNat_inj, UInt8.reduceToNat]
  rw [if_neg (by omega), if_neg (by omega), if_neg (by omega), if_neg (by omega),
    if_neg (by omega), if_neg (by omega)]
  split
  · exact exists_opens fun b => by simp [Follows, IsTail]; omega
  split
  · exact exists_opens fun b => by simp [Follows, IsTail]; omega
  · rw [if_pos (by omega)]
    exact exists_opens fun b => by simp [Follows, IsTail]; omega

theorem first_gap (h : 0x80 ≤ a.toNat ∧ a.toNat < 0xC2 ∨ 0xF5 ≤ a.toNat) :
    first a = ([none], none) := by
  unfold first
  simp only [UInt8.lt_iff_toNat_lt, ← UInt8.toNat_inj, UInt8.reduceToNat]
  rw [if_neg (by omega)]
  split
  · rfl
  · rw [if_neg (by omega), if_neg (by omega), if_neg (by omega), if_neg (by omega),
      if_neg (by omega), if_neg (by omega), if_neg (by omega)]

theorem scan_none_cons {q : Pending} (h : first a = ([], some q)) (rest : List UInt8) :
    scan none (a :: rest) = scan (some q) rest := by
  rw [scan, step, h]
  rfl

/-- Where one byte is owed the next one ends the character. -/
theorem scan_last (hr : p.low ≤ b ∧ b ≤ p.high) (ho : p.owed = 1) (rest : List UInt8) :
    scan (some p) (b :: rest) =
      some (.ofNat (p.bits * 0x40 + b.toNat % 0x40)) :: scan none rest := by
  simp only [scan, step, hr, ho]
  rfl

/-- Where more are owed it leaves one less. -/
theorem scan_more {m : Nat} (hr : p.low ≤ b ∧ b ≤ p.high) (ho : p.owed = m + 2)
    (rest : List UInt8) :
    scan (some p) (b :: rest) =
      scan (some ⟨p.bits * 0x40 + b.toNat % 0x40, m + 1, 0x80, 0xBF⟩) rest := by
  simp [scan, step, hr, ho]

/-- Without a gap a byte follows that is in the range. -/
theorem exists_of_no_gap (h : none ∉ scan (some p) bytes) :
    ∃ b rest, bytes = b :: rest ∧ p.low ≤ b ∧ b ≤ p.high := by
  cases bytes with
  | nil => simp [scan] at h
  | cons b rest =>
    refine ⟨b, rest, rfl, ?_⟩
    by_contra hr
    simp [scan, step, hr] at h

theorem isTail_iff : (0x80 : UInt8) ≤ b ∧ b ≤ 0xBF ↔ IsTail b := by
  simp only [UInt8.le_iff_toNat_le, UInt8.reduceToNat, IsTail]

theorem scan_spells (h : Spells bytes n) (rest : List UInt8) :
    scan none (bytes ++ rest) = some (.ofNat n) :: scan none rest := by
  cases h with
  | one ha => simp [scan, step, first_one ha]
  | two ha ha' hb =>
    obtain ⟨p, hf, hp⟩ := first_two ha ha'
    simp only [List.cons_append, List.nil_append]
    rw [scan_none_cons hf, scan_last ((hp.range _).2 hb) hp.owed, hp.bits]
  | three ha ha' hb hc =>
    obtain ⟨p, hf, hp⟩ := first_three ha ha'
    simp only [List.cons_append, List.nil_append]
    rw [scan_none_cons hf, scan_more ((hp.range _).2 hb) hp.owed,
      scan_last (isTail_iff.2 hc) rfl, hp.bits]
  | four ha ha' hb hc hd =>
    obtain ⟨p, hf, hp⟩ := first_four ha ha'
    simp only [List.cons_append, List.nil_append]
    rw [scan_none_cons hf, scan_more ((hp.range _).2 hb) hp.owed,
      scan_more (isTail_iff.2 hc) rfl, scan_last (isTail_iff.2 hd) rfl, hp.bits]

/-- Without a gap the first bytes spell a character. -/
theorem exists_spells (h : none ∉ scan none (a :: bytes)) :
    ∃ unit n rest, a :: bytes = unit ++ rest ∧ Spells unit n := by
  by_cases hone : a.toNat < 0x80
  · exact ⟨[a], _, bytes, rfl, .one hone⟩
  by_cases hgap : a.toNat < 0xC2 ∨ 0xF5 ≤ a.toNat
  · simp [scan, step, first_gap (a := a) (by omega)] at h
  by_cases htwo : a.toNat < 0xE0
  · obtain ⟨p, hf, hp⟩ := first_two (by omega) htwo
    rw [scan_none_cons hf] at h
    obtain ⟨b, rest, rfl, hb⟩ := exists_of_no_gap h
    exact ⟨[a, b], _, rest, rfl, .two (by omega) htwo ((hp.range b).1 hb)⟩
  by_cases hthree : a.toNat < 0xF0
  · obtain ⟨p, hf, hp⟩ := first_three (by omega) hthree
    rw [scan_none_cons hf] at h
    obtain ⟨b, rest, rfl, hb⟩ := exists_of_no_gap h
    rw [scan_more hb hp.owed] at h
    obtain ⟨c, rest, rfl, hc⟩ := exists_of_no_gap h
    exact ⟨[a, b, c], _, rest, rfl,
      .three (by omega) hthree ((hp.range b).1 hb) (isTail_iff.1 hc)⟩
  · obtain ⟨p, hf, hp⟩ := first_four (a := a) (by omega) (by omega)
    rw [scan_none_cons hf] at h
    obtain ⟨b, rest, rfl, hb⟩ := exists_of_no_gap h
    rw [scan_more hb hp.owed] at h
    obtain ⟨c, rest, rfl, hc⟩ := exists_of_no_gap h
    rw [scan_more hc rfl] at h
    obtain ⟨d, rest, rfl, hd⟩ := exists_of_no_gap h
    exact ⟨[a, b, c, d], _, rest, rfl, .four (by omega) (by omega) ((hp.range b).1 hb)
      (isTail_iff.1 hc) (isTail_iff.1 hd)⟩

/-! ## Texts -/

theorem encode_ofList_cons (c : Char) (cs : List Char) :
    encode (.ofList (c :: cs)) = String.utf8EncodeChar c ++ encode (.ofList cs) := by
  simp [encode]

theorem scan_encode (s : String) : scan none (encode s) = s.toList.map some := by
  unfold encode
  induction s.toList with
  | nil => rfl
  | cons c cs ih =>
    rw [List.flatMap_cons, scan_spells (spells_utf8EncodeChar c), ih, Char.ofNat_toNat,
      List.map_cons]

theorem exists_encode_of_no_gap {bytes : List UInt8} (h : none ∉ scan none bytes) :
    ∃ s, bytes = encode s := by
  -- each character takes at least one byte away
  induction hk : bytes.length using Nat.strong_induction_on generalizing bytes with
  | _ k ih =>
    cases bytes with
    | nil => exact ⟨"", rfl⟩
    | cons a bytes =>
      obtain ⟨unit, n, rest, heq, hu⟩ := exists_spells h
      have hunit := hu.utf8EncodeChar_eq
      have hlen : 0 < unit.length := by
        cases hu <;> simp
      rw [heq, scan_spells hu] at h
      obtain ⟨s, hs⟩ := ih rest.length (by rw [← hk, heq]; simp; omega)
        (fun hm => h (List.mem_cons_of_mem _ hm)) rfl
      refine ⟨.ofList (.ofNat n :: s.toList), ?_⟩
      rw [heq, encode_ofList_cons, hunit, hs, String.ofList_toList]

theorem decode?_eq_some_iff_scan :
    decode? bytes = some s ↔ scan none bytes = s.toList.map some := by
  rw [decode?, Option.map_eq_some_iff]
  simp only [mapM_eq_some_iff, List.map_id]
  constructor
  · rintro ⟨cs, h, rfl⟩
    rw [h, String.toList_ofList]
  · intro h
    exact ⟨s.toList, h, String.ofList_toList⟩

theorem decode?_encode (s : String) : decode? (encode s) = some s :=
  decode?_eq_some_iff_scan.2 (scan_encode s)

/-- **A text has one spelling, and what spells no text is not decoded.** -/
theorem decode?_eq_some_iff : decode? bytes = some s ↔ bytes = encode s := by
  constructor
  · intro h
    have hs := decode?_eq_some_iff_scan.1 h
    have hgap : none ∉ scan none bytes := by simp [hs]
    obtain ⟨t, rfl⟩ := exists_encode_of_no_gap hgap
    rw [decode?_encode, Option.some.injEq] at h
    rw [h]
  · rintro rfl
    exact decode?_encode s

theorem encode_inj : encode s = encode t ↔ s = t := by
  constructor
  · intro h
    have hd := decode?_encode s
    rw [h, decode?_encode, Option.some.injEq] at hd
    exact hd.symm
  · rintro rfl
    rfl

theorem decodeLossy_encode (s : String) : decodeLossy (encode s) = s := by
  simp [decodeLossy, scan_encode, Function.comp_def]

end Utf8

end AudioHal
