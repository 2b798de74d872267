import AudioHal.Text.Blank
import Mathlib

/-! # Spellings

One word may be spelled in many ways: with blanks around it, and with letters of either case.

* `Text.exists_trim`: trimming takes blanks away and nothing else.
* `Text.trim_append_left`, `Text.trim_append_right`, `Text.trim_of_no_blank`: it takes all blanks at
  the ends away, and only these.
* `Text.Recased`: two texts differ in the case of their letters alone. By `Text.recased_iff` they are
  the same in small letters.
* `Text.toUpper_eq_toUpper_iff`, `Text.eq_of_toLower_eq_toLower`: it does not matter which case is
  compared, and what is no letter has no other case.
* `Text.trim_map_toLower`: letters are no blanks, so their case does not matter to trimming.
-/

set_option autoImplicit false

namespace AudioHal.Text

/-- Nothing but blanks. -/
def AllBlank (cs : List Char) : Prop :=
  ∀ c ∈ cs, isBlank c

variable {c d : Char} {cs ds p q : List Char}

/-! ## Blanks at the ends -/

theorem AllBlank.dropWhile (h : AllBlank cs) : cs.dropWhile isBlank = [] :=
  List.dropWhile_eq_nil_iff.2 h

theorem AllBlank.reverse (h : AllBlank cs) : AllBlank cs.reverse :=
  fun c hc => h c (List.mem_reverse.1 hc)

theorem allBlank_takeWhile (cs : List Char) : AllBlank (cs.takeWhile isBlank) :=
  List.all_eq_true.1 List.all_takeWhile

theorem exists_trim (cs : List Char) :
    ∃ p q, AllBlank p ∧ AllBlank q ∧ cs = p ++ trim cs ++ q := by
  refine ⟨cs.takeWhile isBlank, ((cs.dropWhile isBlank).reverse.takeWhile isBlank).reverse,
    allBlank_takeWhile _, (allBlank_takeWhile _).reverse, ?_⟩
  rw [trim, List.append_assoc, ← List.reverse_append, List.takeWhile_append_dropWhile,
    List.reverse_reverse, List.takeWhile_append_dropWhile]

theorem trim_append_left (hp : AllBlank p) (cs : List Char) : trim (p ++ cs) = trim cs := by
  rw [trim, trim, List.dropWhile_append_of_pos hp]

theorem trim_append_right (hq : AllBlank q) (cs : List Char) : trim (cs ++ q) = trim cs := by
  rw [trim, trim, List.dropWhile_append]
  -- a text of blanks alone is gone before its end is looked at
  split
  · rename_i h
    rw [List.isEmpty_iff.1 h, hq.dropWhile]
  · rw [List.reverse_append, List.dropWhile_append_of_pos hq.reverse]

theorem trim_of_no_blank (h : ∀ c ∈ cs, isBlank c = false) : trim cs = cs := by
  have hdrop : ∀ ds : List Char, (∀ c ∈ ds, isBlank c = false) → ds.dropWhile isBlank = ds := by
    intro ds hds
    cases ds with
    | nil => rfl
    | cons c rest => rw [List.dropWhile_cons_of_neg (by simp [hds c List.mem_cons_self])]
  rw [trim, hdrop cs h, hdrop cs.reverse fun c hc => h c (List.mem_reverse.1 hc),
    List.reverse_reverse]

/-! ## Letters of either case -/

/-- Each letter in either of its cases, and every other character as it is. -/
def Recased (cs ds : List Char) : Prop :=
  List.Forall₂ (fun c d => d = c.toLower ∨ d = c.toUpper) cs ds

theorem eq_toLower_or_eq_toUpper (c : Char) : c = c.toLower ∨ c = c.toUpper := by
  by_cases h : c.isUpper
  · exact .inr (Char.toUpper_eq_of_not_isLower (Char.not_isLower_of_isUpper h)).symm
  · exact .inl (Char.toLower_eq_of_not_isUpper h).symm

theorem toLower_eq_toLower_iff : c.toLower = d.toLower ↔ d = c.toLower ∨ d = c.toUpper := by
  constructor
  · intro h
    rcases eq_toLower_or_eq_toUpper d with hd | hd
    · exact .inl (hd.trans h.symm)
    · rw [← Char.toUpper_toLower_eq_toUpper, ← h, Char.toUpper_toLower_eq_toUpper] at hd
      exact .inr hd
  · rintro (rfl | rfl)
    · exact (Char.toLower_toLower_eq_toLower c).symm
    · exact (Char.toLower_toUpper_eq_toLower c).symm

theorem toUpper_eq_toUpper_iff : c.toUpper = d.toUpper ↔ c.toLower = d.toLower := by
  refine ⟨fun h => ?_, fun h => ?_⟩
  · rw [← Char.toLower_toUpper_eq_toLower, h, Char.toLower_toUpper_eq_toLower]
  · rw [← Char.toUpper_toLower_eq_toUpper, h, Char.toUpper_toLower_eq_toUpper]

/-- What is no letter has no other case. -/
theorem eq_of_toLower_eq_toLower (hc : c.isAlpha = false) (h : c.toLower = d.toLower) : c = d := by
  rw [Char.isAlpha, Bool.or_eq_false_iff] at hc
  have hl : c.toLower = c := Char.toLower_eq_of_not_isUpper (by simp [hc.1])
  have hu : c.toUpper = c := Char.toUpper_eq_of_not_isLower (by simp [hc.2])
  rw [toLower_eq_toLower_iff, hl, hu, or_self] at h
  exact h.symm

theorem recased_iff : Recased cs ds ↔ cs.map Char.toLower = ds.map Char.toLower := by
  rw [← List.forall₂_eq_eq_eq, List.forall₂_map_left_iff, List.forall₂_map_right_iff]
  simp only [Recased, toLower_eq_toLower_iff]

theorem recased_iff_eq (h : ∀ c ∈ cs, c.toLower = c ∧ c.toUpper = c) : Recased cs ds ↔ ds = cs := by
  induction cs generalizing ds with
  | nil => exact List.forall₂_nil_left_iff
  | cons c cs ih =>
    obtain ⟨hc, hcs⟩ := List.forall_mem_cons.1 h
    rw [Recased, List.forall₂_cons_left_iff]
    constructor
    · rintro ⟨d, ds, hd, hds, rfl⟩
      rw [hc.1, hc.2, or_self] at hd
      rw [hd, (ih hcs).1 hds]
    · rintro rfl
      exact ⟨c, cs, .inl hc.1.symm, (ih hcs).2 rfl, rfl⟩

theorem toNat_of_isAlpha (h : c.isAlpha) : 65 ≤ c.toNat ∧ c.toNat ≤ 122 := by
  have hc : 65 ≤ c.toNat ∧ c.toNat ≤ 90 ∨ 97 ≤ c.toNat ∧ c.toNat ≤ 122 := by
    simpa [Char.isAlpha, Char.isUpper, Char.isLower, UInt32.le_iff_toNat_le] using h
  omega

theorem isBlank_of_isAlpha (h : c.isAlpha) : isBlank c = false := by
  have hblanks : ∀ n ∈ blanks, n < 65 ∨ 122 < n := by decide
  have hc := toNat_of_isAlpha h
  rw [Bool.eq_false_iff, ne_eq, isBlank_iff]
  intro hm
  have hn := hblanks _ hm
  omega

theorem isBlank_toLower (c : Char) : isBlank c.toLower = isBlank c := by
  by_cases h : c.isUpper
  · have hc : c.isAlpha := by rw [Char.isAlpha, h, Bool.true_or]
    have hl : c.toLower.isAlpha := by
      rw [Char.isAlpha, Char.isLower_toLower_eq_isAlpha, hc, Bool.or_true]
    rw [isBlank_of_isAlpha hc, isBlank_of_isAlpha hl]
  · rw [Char.toLower_eq_of_not_isUpper h]

theorem trim_map_toLower (cs : List Char) :
    trim (cs.map Char.toLower) = (trim cs).map Char.toLower := by
  have hf : isBlank ∘ Char.toLower = isBlank := funext isBlank_toLower
  rw [trim, trim, List.dropWhile_map, hf, ← List.map_reverse, List.dropWhile_map, hf,
    List.map_reverse]

end AudioHal.Text
