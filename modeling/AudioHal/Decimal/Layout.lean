import AudioHal.Decimal.Shortest
import AudioHal.Text.Numeral

/-! # The text of a double

The shortest digits of a double, laid out with a point or with an exponent.

* `Decimal.write`: a number from 10⁻⁵ up to 10¹⁶ has a point and at least one digit on each side
  of it; any other has one digit before the point and an exponent that always bears a sign.
-/

set_option autoImplicit false

namespace AudioHal.Decimal

/-- `n` zeros. -/
def zeros (n : Nat) : String :=
  .ofList (List.replicate n '0')

/-- The exponent of ten as the last part of a number, with its sign also if it is not negative. -/
def exponentPart (e : Int) : String :=
  (if e < 0 then "e" else "e+") ++ Text.decimal e

/-- A positive decimal: with a point where its leading digit is the `k`-th before the point for
some `k` from -4 to 16, with an exponent elsewhere. -/
def Scaled.write (s : Scaled) : String :=
  let digits := Nat.toDigits 10 s.digits
  let count := digits.length
  let point : Int := count + s.exponent
  if 0 ≤ s.exponent ∧ point ≤ 16 then
    .ofList digits ++ zeros s.exponent.toNat ++ ".0"
  else if 0 < point ∧ point ≤ 16 then
    .ofList (digits.take point.toNat) ++ "." ++ .ofList (digits.drop point.toNat)
  else if -5 < point ∧ point ≤ 0 then
    "0." ++ zeros point.natAbs ++ .ofList digits
  else
    let tail := if count = 1 then "" else "." ++ .ofList (digits.drop 1)
    .ofList (digits.take 1) ++ tail ++ exponentPart (point - 1)

/-- The text of a finite double; zero keeps its sign. -/
def write (x : Float) : String :=
  let bits := x.toBits
  let sign := if bits >>> 63 = 1 then "-" else ""
  sign ++ (shortest (.ofBits bits)).write

end AudioHal.Decimal
