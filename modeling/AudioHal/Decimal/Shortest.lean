/-! # The shortest decimal of a binary number

A double stands for every real number that rounds to it. Among the decimals in that interval the
ones with the fewest digits are the shortest, and of those the nearest to the double is chosen.

* `Decimal.Scaled`: a decimal, `digits · 10 ^ exponent`.
* `Decimal.Binary`: a finite double, `mantissa · 2 ^ exponent`, and the interval it stands for.
* `Decimal.shortest`: the shortest decimal of a double.

All arithmetic is exact, on natural numbers.
-/

set_option autoImplicit false

namespace AudioHal.Decimal

/-- The number `digits · 10 ^ exponent`. -/
structure Scaled where
  digits : Nat
  exponent : Int
deriving DecidableEq

/-- The magnitude of a finite double: `mantissa · 2 ^ exponent`. -/
structure Binary where
  mantissa : Nat
  exponent : Int
  /-- Whether the next smaller double is only half as far away as the next larger one. -/
  closeBelow : Bool
deriving DecidableEq

/-- A fraction of natural numbers; the denominator is positive wherever one is built here. -/
structure Fraction where
  num : Nat
  den : Nat

/-- `n · 2 ^ e` as a fraction. -/
def Fraction.ofBinary (n : Nat) (e : Int) : Fraction :=
  if 0 ≤ e then ⟨n <<< e.toNat, 1⟩ else ⟨n, 1 <<< e.natAbs⟩

/-- Whether one fraction is below another. -/
def Fraction.lt (a b : Fraction) : Bool :=
  a.num * b.den < b.num * a.den

/-- A fraction divided by `10 ^ e`. -/
def Fraction.shift (a : Fraction) (e : Int) : Fraction :=
  if 0 ≤ e then ⟨a.num, a.den * Nat.pow 10 e.toNat⟩ else ⟨a.num * Nat.pow 10 e.natAbs, a.den⟩

namespace Binary

/-- The number itself. -/
def value (b : Binary) : Fraction :=
  .ofBinary (4 * b.mantissa) (b.exponent - 2)

/-- The least real number that may round to the double. -/
def low (b : Binary) : Fraction :=
  .ofBinary (4 * b.mantissa - if b.closeBelow then 1 else 2) (b.exponent - 2)

/-- The greatest real number that may round to the double. -/
def high (b : Binary) : Fraction :=
  .ofBinary (4 * b.mantissa + 2) (b.exponent - 2)

/-- Whether a fraction rounds to the double; its two ends do when the mantissa is even. -/
def stands (b : Binary) (x : Fraction) : Bool :=
  if b.mantissa % 2 = 0 then !x.lt b.low && !b.high.lt x else b.low.lt x && x.lt b.high

/-- The double with a bit pattern, its sign left out. -/
def ofBits (bits : UInt64) : Binary :=
  let stored := ((bits >>> 52) &&& 0x7FF).toNat
  let fraction := (bits &&& 0xFFFFFFFFFFFFF).toNat
  if stored = 0 then ⟨fraction, -1074, false⟩
  else ⟨fraction + 0x10000000000000, (stored : Int) - 1075, fraction = 0 && stored ≠ 1⟩

end Binary

/-- The exponent of the leading decimal digit of a positive fraction. -/
def leading (x : Fraction) : Int :=
  if x.den ≤ x.num then (Nat.toDigits 10 (x.num / x.den)).length - 1
  else -((Nat.toDigits 10 ((x.den - 1) / x.num)).length : Int)

/-- The neighbours of `b` among the multiples of `10 ^ e` that round to `b`, nearest first. -/
def candidates (b : Binary) (e : Int) : List Nat :=
  let x := b.value.shift e
  let below := x.num / x.den
  let twice := 2 * (x.num % x.den)
  let pair := if twice < x.den ∨ (twice = x.den ∧ below % 2 = 0) then [below, below + 1]
    else [below + 1, below]
  pair.filter fun d => b.stands ((⟨d, 1⟩ : Fraction).shift (-e))

/-- A decimal without trailing zeros among its digits. -/
def Scaled.strip : Nat → Scaled → Scaled
  | 0, s => s
  | n + 1, s =>
    if s.digits % 10 = 0 ∧ s.digits ≠ 0 then strip n ⟨s.digits / 10, s.exponent + 1⟩ else s

/-- The shortest decimal that rounds to a double; seventeen digits always suffice. -/
def shortest (b : Binary) : Scaled :=
  if b.mantissa = 0 then ⟨0, 0⟩
  else
    let top := leading b.value
    let found := (List.range 17).findSome? fun (n : Nat) =>
      (candidates b (top - n)).head?.map fun d => (⟨d, top - n⟩ : Scaled)
    (found.getD ⟨0, 0⟩).strip 20

end AudioHal.Decimal
