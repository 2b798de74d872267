import AudioHal.Flag.Failure
import AudioHal.Text.Blank

/-! # Truth values as text

A truth value is written as a digit or as a word, in letters of either case, with any blanks around
it.

* `Flag.word?`: the truth value that a word stands for.
* `Flag.readBool`: the truth value of a text, or the complaint that it is none.
* `Flag.spell`: the word for a truth value.
-/

set_option autoImplicit false

namespace AudioHal.Flag

/-- The truth value of a word. Only the letters A to Z count as equal to their small forms. -/
def word? (cs : List Char) : Option Bool :=
  let small := cs.map Char.toLower
  if small = ['1'] ∨ small = "true".toList then some true
  else if small = ['0'] ∨ small = "false".toList then some false
  else none

/-- The truth value of the text for a flag. -/
def readBool (flag raw : String) : Except Failure Bool :=
  match word? (Text.trim raw.toList) with
  | some b => .ok b
  | none => .error (.notBoolean flag raw)

/-- The word for a truth value. -/
def spell : Bool → String
  | true => "true"
  | false => "false"

end AudioHal.Flag
