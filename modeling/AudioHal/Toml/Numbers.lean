import AudioHal.Toml.Strings
import AudioHal.Toml.Value

/-! # Numbers of a document

Integers of 64 bits in four bases, and doubles. Single underscores may stand between digits.

* `Toml.number`: a decimal integer or a double, with a sign if it has one.
* `Toml.basedInteger`: an integer in another base, which has no sign.
-/

set_option autoImplicit false

namespace AudioHal.Toml

/-- Further digits of a number, underscores between them left out. -/
def moreDigits (isDigit : Char → Bool) : List Char → List Char × List Char
  | [] => ([], [])
  | [c] => if isDigit c then ([c], []) else ([], [c])
  | c :: d :: rest =>
    if isDigit c then
      let (digits, rest) := moreDigits isDigit (d :: rest)
      (c :: digits, rest)
    else if c = '_' ∧ isDigit d then
      let (digits, rest) := moreDigits isDigit rest
      (d :: digits, rest)
    else ([], c :: d :: rest)

/-- A digit and further digits. -/
def digitRun (isDigit : Char → Bool) : Reader (List Char)
  | c :: rest =>
    if isDigit c then
      let (digits, rest) := moreDigits isDigit rest
      some (c :: digits, rest)
    else none
  | [] => none

/-- The number that digits of a base spell. -/
def ofDigits (base : Nat) (digits : List Char) : Nat :=
  digits.foldl (fun n c => n * base + (hexDigit? c).getD 0) 0

/-- A sign, if there is one, and whether it is a minus sign. -/
def sign : List Char → Bool × List Char
  | '-' :: rest => (true, rest)
  | '+' :: rest => (false, rest)
  | cs => (false, cs)

/-- The digits before a point: zero, or digits that do not begin with zero. -/
def wholePart : Reader (List Char)
  | '0' :: rest => some (['0'], rest)
  | cs => digitRun Char.isDigit cs

/-- A point and the digits after it. -/
def fraction : Reader (List Char)
  | '.' :: rest => digitRun Char.isDigit rest
  | _ => none

/-- The exponent of ten. -/
def exponent : Reader Int
  | c :: rest =>
    if c = 'e' ∨ c = 'E' then
      let (negative, rest) := sign rest
      (digitRun Char.isDigit).map (fun ds =>
        if negative then -(ofDigits 10 ds : Int) else (ofDigits 10 ds : Int)) rest
    else none
  | [] => none

/-- Whether a decimal rounds to no double because it is too large: from halfway between the
greatest double and the next power of two on. -/
def isTooLarge (s : Decimal.Scaled) : Bool :=
  let size : Int := (Nat.toDigits 10 s.digits).length + s.exponent
  if s.digits = 0 ∨ size < 309 then false
  else if 309 < size then true
  else
    let bound := (1 <<< 1024) - (1 <<< 970)
    if 0 ≤ s.exponent then bound ≤ s.digits * Nat.pow 10 s.exponent.toNat
    else bound * Nat.pow 10 s.exponent.natAbs ≤ s.digits

/-- A double. One that is too large is refused, unless it is negative. -/
def real? (negative : Bool) (digits places : List Char) (power : Int) : Option Value :=
  let s : Decimal.Scaled := ⟨ofDigits 10 (digits ++ places), power - places.length⟩
  if isTooLarge s ∧ !negative then none else some (.real negative (.finite s))

/-- An integer of 64 bits. -/
def integer? (negative : Bool) (n : Nat) : Option Value :=
  let value : Int := if negative then -n else n
  if Int64.minValue.toInt ≤ value ∧ value ≤ Int64.maxValue.toInt then some (.integer value)
  else none

/-- What comes after the sign of a number. -/
def unsigned (negative : Bool) : Reader Value
  | 'i' :: 'n' :: 'f' :: rest => some (.real negative .infinite, rest)
  | 'n' :: 'a' :: 'n' :: rest => some (.real negative .undefined, rest)
  | cs =>
    (wholePart cs).bind fun (digits, rest) =>
      match fraction rest with
      | some (places, rest) =>
        match exponent rest with
        | some (power, rest) => (real? negative digits places power).map (·, rest)
        | none => (real? negative digits places 0).map (·, rest)
      | none =>
        match exponent rest with
        | some (power, rest) => (real? negative digits [] power).map (·, rest)
        | none => (integer? negative (ofDigits 10 digits)).map (·, rest)

/-- A decimal integer or a double. -/
def number : Reader Value := fun cs =>
  let (negative, rest) := sign cs
  unsigned negative rest

/-- An integer in base sixteen, eight or two. -/
def basedInteger : Reader Value
  | '0' :: 'x' :: rest => based 16 rest
  | '0' :: 'o' :: rest => based 8 rest
  | '0' :: 'b' :: rest => based 2 rest
  | _ => none
where
  /-- The digits of a base. -/
  based (base : Nat) : Reader Value := fun cs =>
    (digitRun (fun c => (hexDigit? c).any (· < base)) cs).bind fun (digits, rest) =>
      (integer? false (ofDigits base digits)).map (·, rest)

end AudioHal.Toml
