import AudioHal.Decimal.Shortest

/-! # Values of a document

What a configuration document can hold. Keys of a table are all different and stand in the order in
which they were first mentioned.

* `Toml.Value`: the values; `Toml.Table`: a table of them.
* `Toml.Moment`: a date, a time, or both with or without an offset.
-/

set_option autoImplicit false

namespace AudioHal.Toml

/-- A day of a calendar. -/
structure Date where
  year : Nat
  month : Nat
  day : Nat
deriving DecidableEq

/-- A time of a day; the fraction is that of a second, digit by digit. -/
structure Time where
  hour : Nat
  minute : Nat
  second : Nat
  fraction : List Char
deriving DecidableEq

/-- A point in time, as far as it is told. -/
inductive Moment
  /-- A day. -/
  | day (date : Date)
  /-- A time of some day. -/
  | time (time : Time)
  /-- A time of a day, perhaps with its distance from universal time in minutes. -/
  | instant (date : Date) (time : Time) (offset : Option Int)
deriving DecidableEq

/-- A number with a point or an exponent, before its sign. -/
inductive Magnitude
  | finite (number : Decimal.Scaled)
  | infinite
  | undefined
deriving DecidableEq

/-- A value of a document. -/
inductive Value
  | text (s : String)
  | integer (n : Int)
  | real (negative : Bool) (magnitude : Magnitude)
  | boolean (b : Bool)
  | moment (m : Moment)
  | sequence (items : List Value)
  | table (entries : List (String × Value))

/-- A table of a document. -/
abbrev Table := List (String × Value)

end AudioHal.Toml
