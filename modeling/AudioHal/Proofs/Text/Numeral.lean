import AudioHal.Text.Numeral

/-! # Numerals tell numbers apart

Each notation writes different numbers differently, and no numeral begins with a letter.

* `Text.toDigits_inj`: the digits of a number, in any base up to sixteen.
* `Text.IsDecimal`, `Text.isDecimal_iff`: the digits of a number in base ten, said without writing
  them: digits, the first of them not zero, that read as the number.
* `Text.decimal_inj`, `Text.hexadecimal_inj`: the two notations.
* `Text.IsNumeral`, `Text.IsNumeral.head`: what every numeral begins with.
-/

set_option autoImplicit false

namespace AudioHal.Text

variable {base n m : Nat}

/-! ## Digits -/

theorem digitChar_inj (hn : n < 16) (hm : m < 16) (h : n.digitChar = m.digitChar) : n = m := by
  have hall : ∀ n : Fin 16, ∀ m : Fin 16, n.val.digitChar = m.val.digitChar → n = m := by decide
  exact congrArg Fin.val (hall ⟨n, hn⟩ ⟨m, hm⟩ h)

theorem length_toDigits_le_one_iff (h1 : 1 < base) :
    (Nat.toDigits base n).length ≤ 1 ↔ n < base := by
  rw [Nat.length_toDigits_le_iff h1 Nat.one_pos, Nat.pow_one]

theorem toDigits_inj (h1 : 1 < base) (h16 : base ≤ 16)
    (h : Nat.toDigits base n = Nat.toDigits base m) : n = m := by
  induction n using Nat.strongRecOn generalizing m with
  | ind n ih =>
    -- equally many digits: both numbers are one digit, or both end in one
    have hone : n < base ↔ m < base := by
      rw [← length_toDigits_le_one_iff h1, h, length_toDigits_le_one_iff h1]
    by_cases hn : n < base
    · rw [Nat.toDigits_of_lt_base hn, Nat.toDigits_of_lt_base (hone.1 hn)] at h
      exact digitChar_inj (by omega) (by omega) (List.cons.inj h).1
    · have hbn : base ≤ n := Nat.le_of_not_lt hn
      have hbm : base ≤ m := Nat.le_of_not_lt fun hm => hn (hone.2 hm)
      rw [Nat.toDigits_of_base_le h1 hbn, Nat.toDigits_of_base_le h1 hbm] at h
      obtain ⟨hinit, hlast⟩ := List.append_inj' h rfl
      have hdiv : n / base = m / base := ih (n / base) (Nat.div_lt_self (by omega) h1) hinit
      have hlt : ∀ k, k % base < 16 := fun k =>
        Nat.lt_of_lt_of_le (Nat.mod_lt k (by omega)) h16
      have hmod : n % base = m % base := digitChar_inj (hlt n) (hlt m) (List.cons.inj hlast).1
      rw [← Nat.div_add_mod n base, hdiv, hmod, Nat.div_add_mod]

/-! ## Reading digits -/

/-- The decimal digits of a positive number, without leading zeros. -/
structure IsDecimal (n : Nat) (cs : List Char) : Prop where
  digits : ∀ c ∈ cs, c.isDigit
  head : cs.head? ≠ some '0'
  value : Nat.ofDigitChars 10 cs 0 = n

theorem exists_digitChar {c : Char} (hc : c.isDigit) : ∃ d < 10, c = d.digitChar := by
  have h : 48 ≤ c.toNat ∧ c.toNat ≤ 57 := Char.isDigit_iff_toNat.1 hc
  refine ⟨c.toNat - 48, by omega, ?_⟩
  apply Char.toNat_inj.1
  rw [Nat.toNat_digitChar_of_lt_ten (by omega)]
  omega

theorem ofDigitChars_cons_digitChar {d v : Nat} (hd : d < 10) (cs : List Char) :
    Nat.ofDigitChars 10 (d.digitChar :: cs) v = Nat.ofDigitChars 10 cs (10 * v + d) := by
  have h0 : '0'.toNat = 48 := rfl
  rw [Nat.ofDigitChars_cons, Nat.toNat_digitChar_of_lt_ten hd, h0, Nat.add_sub_cancel_left]

/-- Reading goes on from any positive number, and the digits read are those that it adds. -/
theorem toDigits_ofDigitChars {v : Nat} {cs : List Char} (hv : 0 < v)
    (hcs : ∀ c ∈ cs, c.isDigit) :
    Nat.toDigits 10 (Nat.ofDigitChars 10 cs v) = Nat.toDigits 10 v ++ cs := by
  induction cs generalizing v with
  | nil => simp
  | cons c cs ih =>
    obtain ⟨d, hd, rfl⟩ := exists_digitChar (hcs c List.mem_cons_self)
    have hrest : ∀ c ∈ cs, c.isDigit := fun c hc => hcs c (List.mem_cons_of_mem _ hc)
    rw [ofDigitChars_cons_digitChar hd, ih (by omega) hrest,
      ← Nat.toDigits_append_toDigits (by decide) hv hd, Nat.toDigits_of_lt_base hd,
      List.append_assoc, List.singleton_append]

theorem head?_toDigits (hn : 0 < n) : (Nat.toDigits 10 n).head? ≠ some '0' := by
  induction n using Nat.strongRecOn with
  | ind n ih =>
    by_cases h10 : n < 10
    · rw [Nat.toDigits_of_lt_base h10, List.head?_cons, ne_eq, Option.some.injEq,
        Nat.digitChar_eq_zero]
      omega
    · have hhead := ih (n / 10) (by omega) (by omega)
      rw [Nat.toDigits_of_base_le (by decide) (by omega), List.head?_append]
      cases hd : (Nat.toDigits 10 (n / 10)).head? with
      | none => exact absurd (List.head?_eq_none_iff.1 hd) Nat.toDigits_ne_nil
      | some c => rwa [hd] at hhead

/-- What a positive number is written as is the only text that reads as it. -/
theorem isDecimal_iff {cs : List Char} (hn : 0 < n) :
    IsDecimal n cs ↔ cs = Nat.toDigits 10 n := by
  refine ⟨fun h => ?_, fun h => ?_⟩
  · obtain ⟨hdigits, hhead, hvalue⟩ := h
    cases cs with
    | nil =>
      rw [Nat.ofDigitChars_nil] at hvalue
      omega
    | cons c cs =>
      obtain ⟨d, hd, rfl⟩ := exists_digitChar (hdigits c List.mem_cons_self)
      have hpos : 0 < d := by
        rw [List.head?_cons, ne_eq, Option.some.injEq, Nat.digitChar_eq_zero] at hhead
        omega
      have hrest : ∀ c ∈ cs, c.isDigit := fun c hc => hdigits c (List.mem_cons_of_mem _ hc)
      rw [ofDigitChars_cons_digitChar hd, Nat.mul_zero, Nat.zero_add] at hvalue
      rw [← hvalue, toDigits_ofDigitChars hpos hrest, Nat.toDigits_of_lt_base hd,
        List.singleton_append]
  · subst h
    exact ⟨fun c hc => Nat.isDigit_of_mem_toDigits (by decide) (by decide) hc,
      head?_toDigits hn, Nat.ofDigitChars_ten_toDigits⟩

/-! ## Notations -/

theorem toList_decimal (z : Int) : (decimal z).toList =
    if z < 0 then '-' :: Nat.toDigits 10 z.natAbs else Nat.toDigits 10 z.natAbs := by
  unfold decimal digits
  split <;> simp

theorem toList_hexadecimal (n : Nat) :
    (hexadecimal n).toList = '0' :: 'x' :: Nat.toDigits 16 n := by
  simp [hexadecimal, digits]

theorem head_toDigits (n : Nat) : ∃ c cs, Nat.toDigits 10 n = c :: cs ∧ c.isDigit := by
  obtain ⟨c, cs, h⟩ := List.exists_cons_of_ne_nil (Nat.toDigits_ne_nil (n := n) (b := 10))
  exact ⟨c, cs, h, Nat.isDigit_of_mem_toDigits (by decide) (by decide) (h ▸ List.mem_cons_self)⟩

theorem decimal_inj {y z : Int} (h : decimal y = decimal z) : y = z := by
  have hl := congrArg String.toList h
  rw [toList_decimal, toList_decimal] at hl
  split at hl <;> split at hl
  · have := toDigits_inj (by decide) (by decide) (List.cons.inj hl).2
    omega
  · obtain ⟨c, cs, hz, hc⟩ := head_toDigits z.natAbs
    rw [hz] at hl
    rw [← (List.cons.inj hl).1] at hc
    cases hc
  · obtain ⟨c, cs, hy, hc⟩ := head_toDigits y.natAbs
    rw [hy] at hl
    rw [(List.cons.inj hl).1] at hc
    cases hc
  · have := toDigits_inj (by decide) (by decide) hl
    omega

theorem hexadecimal_inj (h : hexadecimal n = hexadecimal m) : n = m := by
  have hl := congrArg String.toList h
  rw [toList_hexadecimal, toList_hexadecimal] at hl
  exact toDigits_inj (by decide) (by decide) (List.cons.inj (List.cons.inj hl).2).2

/-- A text is a number in one of the notations. -/
def IsNumeral (s : String) : Prop :=
  (∃ z : Int, s = decimal z) ∨ ∃ n : Nat, s = hexadecimal n

theorem IsNumeral.head {s : String} (h : IsNumeral s) :
    ∃ c cs, s.toList = c :: cs ∧ (c = '-' ∨ c.isDigit) := by
  rcases h with ⟨z, rfl⟩ | ⟨n, rfl⟩
  · rw [toList_decimal]
    split
    · exact ⟨'-', _, rfl, .inl rfl⟩
    · obtain ⟨c, cs, h, hc⟩ := head_toDigits z.natAbs
      exact ⟨c, cs, h, .inr hc⟩
  · exact ⟨'0', _, toList_hexadecimal n, .inr rfl⟩

end AudioHal.Text
