/-! # UTF-8

Characters as bytes. A byte sequence that is no text can still be shown: each longest start of a
character that does not go on is replaced by one mark.

* `Utf8.encode`: the bytes of a text.
* `Utf8.scan`: the characters of a byte sequence, with a gap for each ill-formed part.
* `Utf8.decode?`: the text of a byte sequence, if it has no gaps.
* `Utf8.decodeLossy`: a text for any byte sequence.
-/

set_option autoImplicit false

namespace AudioHal.Utf8

/-- The bytes of a text. -/
def encode (s : String) : List UInt8 :=
  s.toList.flatMap String.utf8EncodeChar

/-- A character that has begun: its bits so far, how many bytes are owed, and the range that the
next of them must lie in. -/
structure Pending where
  bits : Nat
  owed : Nat
  low : UInt8
  high : UInt8
deriving DecidableEq

/-- What a byte does: the characters and gaps it completes, and what it leaves pending. -/
abbrev Effect := List (Option Char) × Option Pending

/-- A byte where no character is pending. No character begins with 80 to C1 or F5 to FF, and the
second byte is held to a narrower range after E0, ED, F0 and F4, which would otherwise begin a
number that is spelled too long, is a surrogate or is too large. -/
def first (b : UInt8) : Effect :=
  if b < 0x80 then ([some (.ofNat b.toNat)], none)
  else if b < 0xC2 then ([none], none)
  else if b < 0xE0 then ([], some ⟨b.toNat % 0x20, 1, 0x80, 0xBF⟩)
  else if b = 0xE0 then ([], some ⟨b.toNat % 0x10, 2, 0xA0, 0xBF⟩)
  else if b = 0xED then ([], some ⟨b.toNat % 0x10, 2, 0x80, 0x9F⟩)
  else if b < 0xF0 then ([], some ⟨b.toNat % 0x10, 2, 0x80, 0xBF⟩)
  else if b = 0xF0 then ([], some ⟨b.toNat % 0x8, 3, 0x90, 0xBF⟩)
  else if b < 0xF4 then ([], some ⟨b.toNat % 0x8, 3, 0x80, 0xBF⟩)
  else if b = 0xF4 then ([], some ⟨b.toNat % 0x8, 3, 0x80, 0x8F⟩)
  else ([none], none)

/-- A byte after what is pending. One that does not go on leaves a gap and begins anew. -/
def step (pending : Option Pending) (b : UInt8) : Effect :=
  match pending with
  | none => first b
  | some p =>
    if p.low ≤ b ∧ b ≤ p.high then
      let bits := p.bits * 0x40 + b.toNat % 0x40
      if p.owed ≤ 1 then ([some (.ofNat bits)], none)
      else ([], some ⟨bits, p.owed - 1, 0x80, 0xBF⟩)
    else
      let (done, next) := first b
      (none :: done, next)

/-- The characters of a byte sequence, a gap standing for each ill-formed part. -/
def scan : Option Pending → List UInt8 → List (Option Char)
  | none, [] => []
  | some _, [] => [none]
  | pending, b :: rest =>
    let (done, next) := step pending b
    done ++ scan next rest

/-- The text of a byte sequence, if it is one. -/
def decode? (bytes : List UInt8) : Option String :=
  ((scan none bytes).mapM id).map .ofList

/-- The mark for an ill-formed part. -/
def replacement : Char := '\uFFFD'

/-- A text for people, whatever the bytes are. -/
def decodeLossy (bytes : List UInt8) : String :=
  .ofList ((scan none bytes).map (·.getD replacement))

end AudioHal.Utf8
