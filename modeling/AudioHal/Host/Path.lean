import AudioHal.Text.Utf8

/-! # Paths

A path is a sequence of bytes; slashes divide it into components. A path that begins with a slash
starts at the root, any other at the working directory.

* `Path.components`: the components, empty ones included.
* `Path.display`: a path for people.
* `Path.isTooLong`, `Path.holdsZero`: paths that no host accepts.
-/

set_option autoImplicit false

namespace AudioHal

/-- The bytes of a path. -/
structure Path where
  bytes : List UInt8
deriving DecidableEq

namespace Path

/-- The path that a text spells. -/
def ofText (s : String) : Path := ⟨Utf8.encode s⟩

/-- The byte between components. -/
def slash : UInt8 := 0x2F

/-- Whether a path starts at the root. -/
def isAbsolute (p : Path) : Bool :=
  p.bytes.head? == some slash

/-- The parts of a byte sequence between slashes. -/
def split : List UInt8 → List (List UInt8)
  | [] => [[]]
  | b :: rest =>
    if b = slash then [] :: split rest
    else
      match split rest with
      | [] => [[b]]
      | part :: parts => (b :: part) :: parts

/-- The components of a path. -/
def components (p : Path) : List (List UInt8) :=
  split p.bytes

/-- The component that stays where it is. -/
def here : List UInt8 := [0x2E]

/-- The component that goes up. -/
def up : List UInt8 := [0x2E, 0x2E]

/-- A path for people. -/
def display (p : Path) : String :=
  Utf8.decodeLossy p.bytes

/-- Whether a path has a zero byte. -/
def holdsZero (p : Path) : Bool :=
  p.bytes.contains 0

/-- The greatest length of a component. -/
def componentMax : Nat := 255

/-- The length that a path must stay below. -/
def lengthBound : Nat := 4096

/-- Whether a path is too long as a whole. -/
def isTooLong (p : Path) : Bool :=
  lengthBound ≤ p.bytes.length

end Path

end AudioHal
