import AudioHal.Toml.Reader

/-! # Strings of a document

Four kinds of string: between double quotes, where a backslash escapes, and between apostrophes,
where nothing does; each on one line, or between threefold marks on several.

* `Toml.quoted`: a string of one line, which can also be a key.
* `Toml.anyString`: a string of any kind.
-/

set_option autoImplicit false

namespace AudioHal.Toml

/-- The value of a hexadecimal digit. -/
def hexDigit? (c : Char) : Option Nat :=
  if '0' ≤ c ∧ c ≤ '9' then some (c.toNat - '0'.toNat)
  else if 'a' ≤ c ∧ c ≤ 'f' then some (c.toNat - 'a'.toNat + 10)
  else if 'A' ≤ c ∧ c ≤ 'F' then some (c.toNat - 'A'.toNat + 10)
  else none

/-- The number spelled by a count of hexadecimal digits, after those already read. -/
def hexNumber : Nat → Nat → Reader Nat
  | 0, n, cs => some (n, cs)
  | _ + 1, _, [] => none
  | count + 1, n, c :: rest =>
    match hexDigit? c with
    | some d => hexNumber count (n * 16 + d) rest
    | none => none

/-- The character of a code point. -/
def codePoint (count : Nat) : Reader Char := fun cs =>
  (hexNumber count 0 cs).bind fun (n, rest) =>
    if n.isValidChar then some (.ofNat n, rest) else none

/-- What a backslash and the characters after it stand for. -/
def escape : Reader Char
  | 'b' :: rest => some ('\x08', rest)
  | 't' :: rest => some ('\t', rest)
  | 'n' :: rest => some ('\n', rest)
  | 'f' :: rest => some ('\x0C', rest)
  | 'r' :: rest => some ('\r', rest)
  | '"' :: rest => some ('"', rest)
  | '\\' :: rest => some ('\\', rest)
  | 'u' :: rest => codePoint 4 rest
  | 'U' :: rest => codePoint 8 rest
  | _ => none

/-- The rest of a string of one line whose mark is `mark`. -/
def lineBody (mark : Char) (escapes : Bool) : Nat → Reader (List Char)
  | 0, _ => none
  | _ + 1, [] => none
  | n + 1, c :: rest =>
    if c = mark then some ([], rest)
    else if c = '\\' ∧ escapes then
      (escape rest).bind fun (e, rest) => (lineBody mark escapes n).map (e :: ·) rest
    else if isPlain c then (lineBody mark escapes n).map (c :: ·) rest
    else none

/-- The rest of a string of several lines whose mark is `mark`, three times. Up to two more marks
before the end belong to the string. A backslash at the end of a line takes away the line end and
all blanks and line ends after it. -/
def foldedBody (mark : Char) (escapes : Bool) : Nat → Reader (List Char)
  | 0, _ => none
  | _ + 1, [] => none
  | n + 1, c :: rest =>
    if c = mark then
      let marks := (rest.takeWhile (· = mark)).length + 1
      if marks < 3 then
        (foldedBody mark escapes n).map (List.replicate marks mark ++ ·) (rest.drop (marks - 1))
      else
        let extra := min (marks - 3) 2
        some (List.replicate extra mark, rest.drop (extra + 2))
    else if c = '\\' ∧ escapes then
      match newline? (skipBlanks rest) with
      | some rest => foldedBody mark escapes n (skipGap rest)
      | none => (escape rest).bind fun (e, rest) => (foldedBody mark escapes n).map (e :: ·) rest
    else
      match newline? (c :: rest) with
      | some rest => (foldedBody mark escapes n).map ('\n' :: ·) rest
      | none => if isPlain c then (foldedBody mark escapes n).map (c :: ·) rest else none

/-- A line end right after the opening marks does not count. -/
def folded (mark : Char) (escapes : Bool) : Reader (List Char) := fun cs =>
  let cs := (newline? cs).getD cs
  foldedBody mark escapes cs.length cs

/-- A string of one line. -/
def quoted : Reader String
  | '"' :: rest => (lineBody '"' true rest.length).map .ofList rest
  | '\'' :: rest => (lineBody '\'' false rest.length).map .ofList rest
  | _ => none

/-- A string. -/
def anyString : Reader String
  | '"' :: '"' :: '"' :: rest => (folded '"' true).map .ofList rest
  | '\'' :: '\'' :: '\'' :: rest => (folded '\'' false).map .ofList rest
  | cs => quoted cs

end AudioHal.Toml
