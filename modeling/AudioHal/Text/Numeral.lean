/-! # Numerals

Numbers in positional notation, without leading zeros.

* `Text.decimal`: base ten, a minus sign in front of a negative number.
* `Text.hexadecimal`: base sixteen in lower case, behind `0x`.
-/

set_option autoImplicit false

namespace AudioHal.Text

/-- The digits of a number in a base of at most sixteen; the letters are in lower case. -/
def digits (base n : Nat) : String :=
  .ofList (Nat.toDigits base n)

/-- A number in base ten. -/
def decimal (n : Int) : String :=
  if n < 0 then "-" ++ digits 10 n.natAbs else digits 10 n.natAbs

/-- A number in base sixteen. -/
def hexadecimal (n : Nat) : String :=
  "0x" ++ digits 16 n

end AudioHal.Text
