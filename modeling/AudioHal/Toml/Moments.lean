import AudioHal.Toml.Numbers

/-! # Dates and times of a document

* `Toml.moment`: a date, a time, or a date and a time between which a `T` or a space stands. Only
  the last can have an offset.
-/

set_option autoImplicit false

namespace AudioHal.Toml

/-- A number of exactly so many digits, within a range. -/
def fixed (count first last : Nat) : Reader Nat := fun cs =>
  let digits := cs.take count
  let n := ofDigits 10 digits
  if digits.length = count ∧ digits.all Char.isDigit ∧ first ≤ n ∧ n ≤ last then
    some (n, cs.drop count)
  else none

/-- One given character. -/
def mark (c : Char) : Reader Unit
  | d :: rest => if c = d then some ((), rest) else none
  | [] => none

/-- Whether a year has a 29th of February. -/
def isLeapYear (year : Nat) : Bool :=
  year % 4 = 0 && (year % 100 ≠ 0 || year % 400 = 0)

/-- The number of days of a month. -/
def daysOfMonth (year month : Nat) : Nat :=
  if month = 2 then if isLeapYear year then 29 else 28
  else if month = 4 ∨ month = 6 ∨ month = 9 ∨ month = 11 then 30
  else 31

/-- A date. -/
def date : Reader Date := fun cs => do
  let (year, cs) ← fixed 4 0 9999 cs
  let (_, cs) ← mark '-' cs
  let (month, cs) ← fixed 2 1 12 cs
  let (_, cs) ← mark '-' cs
  let (day, cs) ← fixed 2 1 (daysOfMonth year month) cs
  some (⟨year, month, day⟩, cs)

/-- The digits of a fraction of a second, if there are any. -/
def secondFraction : List Char → List Char × List Char
  | '.' :: c :: rest =>
    if c.isDigit then (c :: rest.takeWhile Char.isDigit, rest.dropWhile Char.isDigit)
    else ([], '.' :: c :: rest)
  | cs => ([], cs)

/-- A time. A minute can have a leap second. -/
def time : Reader Time := fun cs => do
  let (hour, cs) ← fixed 2 0 23 cs
  let (_, cs) ← mark ':' cs
  let (minute, cs) ← fixed 2 0 59 cs
  let (_, cs) ← mark ':' cs
  let (second, cs) ← fixed 2 0 60 cs
  let (fraction, cs) := secondFraction cs
  some (⟨hour, minute, second, fraction⟩, cs)

/-- An offset in minutes. -/
def offset : Reader Int
  | 'Z' :: rest => some (0, rest)
  | 'z' :: rest => some (0, rest)
  | '+' :: rest => minutes rest
  | '-' :: rest => Reader.map (fun n => -n) minutes rest
  | _ => none
where
  /-- Hours and minutes, in minutes. -/
  minutes : Reader Int := fun cs => do
    let (hour, cs) ← fixed 2 0 23 cs
    let (_, cs) ← mark ':' cs
    let (minute, cs) ← fixed 2 0 59 cs
    some (hour * 60 + minute, cs)

/-- A time after a date, behind a `T` or a space. -/
def timeOfDay : Reader Time
  | c :: rest => if c = 'T' ∨ c = 't' ∨ c = ' ' then time rest else none
  | [] => none

/-- A point in time. -/
def moment : Reader Moment := fun cs =>
  match date cs with
  | some (d, rest) =>
    match timeOfDay rest with
    | some (t, rest) =>
      match offset rest with
      | some (o, rest) => some (.instant d t (some o), rest)
      | none => some (.instant d t none, rest)
    | none => some (.day d, rest)
  | none => Reader.map .time time cs

end AudioHal.Toml
