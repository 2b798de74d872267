import AudioHal.Domain

/-! # What can be wrong with a table or a symbol

* `TableError`: a table breaks one of its rules (`Table.validate` finds which).
* `UnknownSymbol`: a string names nothing in a domain.
-/

set_option autoImplicit false

namespace AudioHal

/-- A broken rule of a table; each carries the table's domain and the symbols to blame. -/
inductive TableError
  /-- Two rows name the same value. -/
  | duplicateValue (domain : Domain) (first second : String)
  /-- Two rows have the same symbol. -/
  | duplicateSymbol (domain : Domain) (symbol : String)
  /-- The value of an alias has no row of its own. -/
  | danglingAlias (domain : Domain) (symbol : String)
  /-- The value of a sentinel has a row of its own. -/
  | sentinelCollision (domain : Domain) (sentinel canonical : String)
deriving DecidableEq

/-- The wording of a broken rule. -/
def TableError.message : TableError → String
  | .duplicateValue d first second =>
    d.name ++ ": `" ++ first ++ "` and `" ++ second ++ "` share a canonical value"
  | .duplicateSymbol d symbol => d.name ++ ": symbol `" ++ symbol ++ "` is declared twice"
  | .danglingAlias d symbol =>
    d.name ++ ": alias `" ++ symbol ++ "` does not refer to a canonical value"
  | .sentinelCollision d sentinel canonical =>
    d.name ++ ": sentinel `" ++ sentinel ++ "` collides with canonical `" ++ canonical ++ "`"

/-- A string that names nothing in a domain. -/
structure UnknownSymbol where
  domain : Domain
  symbol : String
deriving DecidableEq

/-- The wording of an unknown symbol. -/
def UnknownSymbol.message (e : UnknownSymbol) : String :=
  "`" ++ e.symbol ++ "` is not a recognized " ++ e.domain.name ++ " symbol"

end AudioHal
