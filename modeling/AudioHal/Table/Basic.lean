import AudioHal.Domain
import AudioHal.RawValue
import AudioHal.Visibility

/-! # Tables of named values

A table lists the rows of one domain in order. It is read in two directions: a value is projected
to its symbol, and a symbol is parsed to its value.

* `Role`: what a row takes part in. Projection sees canonical and framework-only rows; parsing
  sees those and, after them, aliases; sentinels take part in nothing.
* `Table.project`, `Table.parseWith`: the two directions. The first matching row wins.
* `Table.parseInto`: parsing into a cell that a miss leaves alone.
-/

set_option autoImplicit false

namespace AudioHal

/-- What a row takes part in. -/
inductive Role
  /-- The one symbol of its value. -/
  | canonical
  /-- An older symbol of a value; parsed only. -/
  | legacy
  /-- The one symbol of a value that only the framework may name. -/
  | frameworkOnly
  /-- A value that is deliberately kept out of both directions. -/
  | sentinel
deriving DecidableEq

namespace Role

/-- Every role. -/
def all : List Role :=
  [.canonical, .legacy, .frameworkOnly, .sentinel]

/-- Whether rows of this role give values their symbols. -/
def givesSymbol : Role → Bool
  | .canonical => true
  | .frameworkOnly => true
  | .legacy => false
  | .sentinel => false

/-- Whether rows of this role name values by their own symbol, seen with visibility `v`. -/
def isNamedBy (v : Visibility) : Role → Bool
  | .canonical => true
  | .frameworkOnly => v.seesFrameworkRows
  | .legacy => false
  | .sentinel => false

end Role

/-- One row: a symbol, a value and a role. -/
structure Entry (α : Type) where
  symbol : String
  value : α
  role : Role
deriving DecidableEq

namespace Entry

variable {α : Type}

/-- The symbol of a value. -/
def canonical (symbol : String) (value : α) : Entry α :=
  ⟨symbol, value, .canonical⟩

/-- An older symbol of a value. -/
def legacy (symbol : String) (value : α) : Entry α :=
  ⟨symbol, value, .legacy⟩

/-- The symbol of a value that only the framework may name. -/
def frameworkOnly (symbol : String) (value : α) : Entry α :=
  ⟨symbol, value, .frameworkOnly⟩

/-- A value without a symbol. -/
def sentinel (symbol : String) (value : α) : Entry α :=
  ⟨symbol, value, .sentinel⟩

end Entry

/-- The ordered rows of one domain: those of every build, then those of the framework. -/
structure Table (α : Type) where
  domain : Domain
  rows : List (Entry α)
  frameworkRows : List (Entry α)

namespace Table

variable {α : Type}

/-- Every row, in order. -/
def entries (t : Table α) : List (Entry α) :=
  t.rows ++ t.frameworkRows

/-- The rows that give values their symbols. -/
def canonical (t : Table α) : List (Entry α) :=
  t.entries.filter (·.role.givesSymbol)

/-- The rows that hold older symbols. -/
def aliases (t : Table α) : List (Entry α) :=
  t.entries.filter (·.role == .legacy)

/-- How many rows there are, aliases and sentinels included. -/
def size (t : Table α) : Nat :=
  t.rows.length + t.frameworkRows.length

/-- Whether there are no rows. -/
def isEmpty (t : Table α) : Bool :=
  t.size == 0

/-- The values that have rows of their own, each named by its symbol without a stem. -/
def constants [RawValue α] (t : Table α) (stem : String) : List (String × Int) :=
  (t.entries.filter (·.role != .legacy)).map fun e =>
    (.ofList (e.symbol.toList.drop stem.length), RawValue.toRaw e.value)

/-- The symbol of a value, where it has one. -/
def project [DecidableEq α] (t : Table α) (value : α) : Option String :=
  (t.canonical.find? (·.value == value)).map (·.symbol)

/-- The value of a symbol, seen with visibility `v`: by its own row, else by an alias. -/
def parseWith (t : Table α) (symbol : String) (v : Visibility) : Option α :=
  let named := (t.entries.filter (·.role.isNamedBy v)).find? (·.symbol == symbol)
  (named <|> t.aliases.find? (·.symbol == symbol)).map (·.value)

/-- The value of a symbol, seen as build `b` sees it. -/
def parse (t : Table α) (b : Build) (symbol : String) : Option α :=
  t.parseWith symbol b.visibility

/-- Parsing into a cell: whether the symbol has a value, and the cell afterwards. -/
def parseInto (t : Table α) (b : Build) (symbol : String) (cell : α) : Bool × α :=
  match t.parse b symbol with
  | some value => (true, value)
  | none => (false, cell)

/-- A run of parses into one cell: the answer of each, and the cell at the end. -/
def parseAllInto (t : Table α) (b : Build) : List String → α → List Bool × α
  | [], cell => ([], cell)
  | symbol :: rest, cell =>
    let (hit, next) := t.parseInto b symbol cell
    let (hits, last) := t.parseAllInto b rest next
    (hit :: hits, last)

end Table

end AudioHal
