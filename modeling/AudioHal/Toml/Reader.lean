/-! # Readers

A reader takes what it recognises from the start of a text and leaves the rest, or recognises
nothing.

* `Toml.skipBlanks`, `Toml.skipFiller`: what may stand between two tokens of one line, or of
  several.
* `Toml.newline?`, `Toml.lineEnd?`: the end of a line; a comment may come before it.
-/

set_option autoImplicit false

namespace AudioHal.Toml

/-- What is recognised at the start of a text, and the rest. -/
abbrev Reader (α : Type) := List Char → Option (α × List Char)

/-- What a reader recognises, changed. -/
def Reader.map {α β : Type} (f : α → β) (r : Reader α) : Reader β :=
  fun cs => (r cs).map fun (a, rest) => (f a, rest)

/-- The rest after as many readings as there are, `n` at most. -/
def skipMany (r : Reader Unit) : Nat → List Char → List Char
  | 0, cs => cs
  | n + 1, cs =>
    match r cs with
    | some (_, rest) => skipMany r n rest
    | none => cs

/-- Spaces and tabs separate tokens. -/
def isBlank (c : Char) : Bool :=
  c = ' ' || c = '\t'

/-- The rest after blanks. -/
def skipBlanks (cs : List Char) : List Char :=
  cs.dropWhile isBlank

/-- A character that can stand in a text or a comment as it is: a tab or no control character. -/
def isPlain (c : Char) : Bool :=
  c = '\t' || (' ' ≤ c && c ≤ '~') || 0x80 ≤ c.toNat

/-- The rest after the end of a line, which is a line feed, perhaps after a carriage return. -/
def newline? : List Char → Option (List Char)
  | '\n' :: rest => some rest
  | '\r' :: '\n' :: rest => some rest
  | _ => none

/-- The rest after a comment, if there is one. -/
def skipComment : List Char → List Char
  | '#' :: rest => rest.dropWhile isPlain
  | cs => cs

/-- The rest after a line that holds nothing more, or the end of the text. -/
def lineEnd? (cs : List Char) : Option (List Char) :=
  match skipComment (skipBlanks cs) with
  | [] => some []
  | rest => newline? rest

/-- A blank or a line end, or a line end after a comment. -/
def filler : Reader Unit
  | ' ' :: rest => some ((), rest)
  | '\t' :: rest => some ((), rest)
  | cs => (newline? (skipComment cs)).map ((), ·)

/-- The rest after blanks, comments and line ends. -/
def skipFiller (cs : List Char) : List Char :=
  skipMany filler cs.length cs

/-- A blank or a line end. -/
def gap : Reader Unit
  | ' ' :: rest => some ((), rest)
  | '\t' :: rest => some ((), rest)
  | cs => (newline? cs).map ((), ·)

/-- The rest after blanks and line ends. -/
def skipGap (cs : List Char) : List Char :=
  skipMany gap cs.length cs

end AudioHal.Toml
