import AudioHal.Toml.Moments
import AudioHal.Toml.Tree

/-! # Documents

The grammar of a configuration document, line by line.

* `Toml.value`: a value; sequences and inline tables nest only so deep.
* `Toml.statements`: the lines of a document.
* `Toml.parse`: the table that a text describes, if it is a document.
-/

set_option autoImplicit false

namespace AudioHal.Toml

/-- A line of a document. -/
inductive Statement
  /-- Opens a table. -/
  | table (path : List String)
  /-- Opens one more table of a sequence. -/
  | element (path : List String)
  /-- Gives a key of the open table its value. -/
  | assignment (path : List String) (value : Value)

/-! ## Keys -/

/-- A character of a bare key. -/
def isBare (c : Char) : Bool :=
  c.isAlphanum || c = '_' || c = '-'

/-- One part of a key. -/
def keyPart : Reader String := fun cs =>
  match cs.takeWhile isBare with
  | [] => quoted cs
  | bare => some (.ofList bare, cs.dropWhile isBare)

/-- The parts of a key, between blanks and points. -/
def keyParts : Nat → Reader (List String)
  | 0, _ => none
  | n + 1, cs =>
    (keyPart (skipBlanks cs)).bind fun (part, rest) =>
      match skipBlanks rest with
      | '.' :: rest => (keyParts n).map (part :: ·) rest
      | rest => some ([part], rest)

/-- The number that levels of nesting and parts of a key stay below. -/
def depthBound : Nat := 80

/-- A key. -/
def key : Reader (List String) := fun cs =>
  (keyParts (cs.length + 1) cs).bind fun (parts, rest) =>
    if parts.length < depthBound then some (parts, rest) else none

/-! ## Values -/

/-- A key and its value. -/
def binding (item : Reader Value) : Reader (List String × Value) := fun cs =>
  (key cs).bind fun (path, rest) =>
    match rest with
    | '=' :: rest => item.map (path, ·) (skipBlanks rest)
    | _ => none

/-- The rest of a sequence. The last item may have a comma after it. -/
def elements (item : Reader Value) : Nat → Reader (List Value)
  | 0, _ => none
  | n + 1, cs =>
    match skipFiller cs with
    | ']' :: rest => some ([], rest)
    | cs =>
      (item cs).bind fun (v, rest) =>
        match skipFiller rest with
        | ',' :: rest => (elements item n).map (v :: ·) rest
        | ']' :: rest => some ([v], rest)
        | _ => none

/-- The bindings of an inline table, at least one. The last one has no comma after it. -/
def bindings (item : Reader Value) : Nat → Reader (List (List String × Value))
  | 0, _ => none
  | n + 1, cs =>
    (binding item cs).bind fun (b, rest) =>
      match skipBlanks rest with
      | ',' :: rest => (bindings item n).map (b :: ·) rest
      | '\x7d' :: rest => some ([b], rest)
      | _ => none

/-- The rest of an inline table, on one line. -/
def inlineTable (item : Reader Value) : Reader Value := fun cs =>
  match skipBlanks cs with
  | '\x7d' :: rest => some (.table [], rest)
  | cs =>
    (bindings item (cs.length + 1) cs).bind fun (bs, rest) =>
      (bs.foldlM (fun entries (path, v) => assign v path entries) []).map fun entries =>
        (.table (plainEntries entries), rest)

/-- A value that holds no others. -/
def scalar : Reader Value
  | 't' :: 'r' :: 'u' :: 'e' :: rest => some (.boolean true, rest)
  | 'f' :: 'a' :: 'l' :: 's' :: 'e' :: rest => some (.boolean false, rest)
  | cs =>
    (Reader.map .text anyString cs <|> Reader.map .moment moment cs <|> basedInteger cs) <|>
      number cs

/-- A value, with so many levels of nesting at most. -/
def value : Nat → Reader Value
  | 0, cs => scalar cs
  | depth + 1, cs =>
    match cs with
    | '[' :: rest => (elements (value depth) (rest.length + 1)).map .sequence rest
    | '\x7b' :: rest => inlineTable (value depth) rest
    | cs => scalar cs

/-! ## Lines -/

/-- A line that says something, without its end. -/
def statement : Reader Statement
  | '[' :: '[' :: rest =>
    (key rest).bind fun (path, rest) =>
      match rest with
      | ']' :: ']' :: rest => some (.element path, rest)
      | _ => none
  | '[' :: rest =>
    (key rest).bind fun (path, rest) =>
      match rest with
      | ']' :: rest => some (.table path, rest)
      | _ => none
  | cs => (binding (value (depthBound - 1))).map (fun (path, v) => .assignment path v) cs

/-- Whether nothing but a comment or a line end can come next. -/
def isIdle : List Char → Bool
  | '#' :: _ => true
  | '\n' :: _ => true
  | '\r' :: _ => true
  | _ => false

/-- The lines of a document. -/
def statements : Nat → List Char → Option (List Statement)
  | 0, _ => none
  | n + 1, cs =>
    match skipBlanks cs with
    | [] => some []
    | cs =>
      if isIdle cs then (lineEnd? cs).bind (statements n)
      else
        (statement cs).bind fun (s, rest) =>
          (lineEnd? rest).bind fun rest => (statements n rest).map (s :: ·)

/-! ## Documents -/

/-- A document under way: what stands so far, and the path of the open table. -/
structure Progress where
  root : Entries
  path : List String

/-- What a line does. -/
def Progress.take (p : Progress) : Statement → Option Progress
  | .table path => opened path openTable
  | .element path => opened path openElement
  | .assignment key v =>
    (within (assign v key) p.path p.root).map fun root => ⟨root, p.path⟩
where
  /-- Opens the table at the end of a path. -/
  opened (path : List String) (change : String → Entries → Option Entries) : Option Progress :=
    path.getLast?.bind fun last =>
      (within (change last) path.dropLast p.root).map fun root => ⟨root, path⟩

/-- The table that lines describe. -/
def assemble (lines : List Statement) : Option Table :=
  (lines.foldlM Progress.take ⟨[], []⟩).map fun p => plainEntries p.root

/-- A text without the mark that tells its byte order. -/
def skipMark : List Char → List Char
  | '\uFEFF' :: rest => rest
  | cs => cs

/-- The table that a text describes, if it is a document. -/
def parse (text : String) : Option Table :=
  let cs := skipMark text.toList
  (statements (cs.length + 1) cs).bind assemble

end AudioHal.Toml
