import AudioHal.Nameable
import AudioHal.Wire.Value

/-! # Named values on the wire

A named value is written as its canonical symbol and read from a symbol or an older one. A value
without a symbol cannot be written, and nothing but a string is read.

* `Wire.Fault`: what can go wrong, with its wording.
* `Wire.Coded`: a type that can be written and read. Every `Nameable` can (`Wire.Coded` instance
  below); channel masks have rules of their own.
* `Wire.encodeAll`, `Wire.decodeAll`: lists, element by element; the first fault ends the work.
-/

set_option autoImplicit false

namespace AudioHal.Wire

/-- What goes wrong when a named value is written or read. -/
inductive Fault
  /-- The value to write has no symbol in a domain. -/
  | unnamed (domain : Domain)
  /-- The string read names nothing. -/
  | unknown (e : UnknownSymbol)
  /-- A string was expected. -/
  | notText (found : Value) (domain : Domain)
  /-- A sequence was expected. -/
  | notSequence (found : Value)

/-- The wording of a fault. -/
def Fault.message : Fault → String
  | .unnamed d => "value has no canonical " ++ d.name ++ " symbol"
  | .unknown e => e.message
  | .notText found d =>
    "invalid type: " ++ found.describe ++ ", expected a " ++ d.name ++ " symbol"
  | .notSequence found => "invalid type: " ++ found.describe ++ ", expected a sequence"

/-- A type whose values travel as symbols. -/
class Coded (α : Type) where
  /-- The symbol that stands for a value. -/
  encode : Build → α → Except Fault String
  /-- The value of a string. -/
  decodeText : Build → String → Option α
  /-- The domain that complaints about unreadable values name. -/
  domain : Build → Domain

export Coded (encode decodeText)

variable {α : Type}

/-- Reads one value. -/
def decode [Coded α] (b : Build) : Value → Except Fault α
  | .text s =>
    match decodeText b s with
    | some a => .ok a
    | none => .error (.unknown ⟨Coded.domain α b, s⟩)
  | found => .error (.notText found (Coded.domain α b))

/-- Writes a list of values. -/
def encodeAll [Coded α] (b : Build) (xs : List α) : Except Fault (List String) :=
  xs.mapM (encode b)

/-- Reads a list of values. -/
def decodeAll [Coded α] (b : Build) : Value → Except Fault (List α)
  | .sequence items => items.mapM (decode b)
  | found => .error (.notSequence found)

instance [DecidableEq α] [RawValue α] [Nameable α] : Coded α where
  encode b a :=
    match Nameable.symbol? b a with
    | some symbol => .ok symbol
    | none => .error (.unnamed (Nameable.domain α b))
  decodeText b s := Nameable.ofSymbol? b s
  domain b := Nameable.domain α b

end AudioHal.Wire
