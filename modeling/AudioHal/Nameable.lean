import AudioHal.RawValue
import AudioHal.Table.Basic
import AudioHal.Table.Error
import AudioHal.Text.Numeral

/-! # Types with one table

Nine of the value types are named by a single table. `Nameable` is what such a type declares;
everything else is derived from the table.

* `Nameable.symbol?`, `Nameable.ofSymbol?`, `Nameable.ofSymbolWith?`: the two directions.
* `Nameable.read`: parsing that names the domain and the string it could not parse.
* `Nameable.display`: the symbol of a value, or its number where it has none.
* `Nameable.constants`: the values that programs name; their names are the symbols without the
  stem that all symbols of a type share.
-/

set_option autoImplicit false

namespace AudioHal

/-- A type of numbers whose names stand in one table. -/
class Nameable (α : Type) [DecidableEq α] [RawValue α] where
  /-- The name of the type, as its description begins. -/
  typeName : String
  /-- What the symbols of the type begin with. -/
  stem : String
  /-- The number of a value as text, for values without a symbol. -/
  numeral : α → String
  /-- The names, in a build. -/
  table : Build → Table α
  /-- Numbers that programs name besides the named values. -/
  further : List (String × Int) := []

namespace Nameable

variable {α : Type} [DecidableEq α] [RawValue α] [Nameable α]

/-- The domain of a type, in a build. -/
def domain (α : Type) [DecidableEq α] [RawValue α] [Nameable α] (b : Build) : Domain :=
  (table b : Table α).domain

/-- The symbol of a value, where it has one. -/
def symbol? (b : Build) (a : α) : Option String :=
  (table b).project a

/-- The value of a symbol or older symbol, seen with visibility `v`. -/
def ofSymbolWith? (b : Build) (symbol : String) (v : Visibility) : Option α :=
  (table b).parseWith symbol v

/-- The value of a symbol or older symbol, seen as the build sees it. -/
def ofSymbol? (b : Build) (symbol : String) : Option α :=
  (table b).parse b symbol

/-- The value of a symbol, or the complaint that it is unknown. -/
def read (b : Build) (symbol : String) : Except UnknownSymbol α :=
  match ofSymbol? b symbol with
  | some a => .ok a
  | none => .error ⟨domain α b, symbol⟩

/-- A value for people: its symbol, else its number. -/
def display (b : Build) (a : α) : String :=
  (symbol? b a).getD (numeral a)

/-- A value for developers: its type and its number. -/
def describe (a : α) : String :=
  typeName α ++ "(" ++ Text.decimal (RawValue.toRaw a) ++ ")"

/-- What programs name, with its name. -/
def constants (α : Type) [DecidableEq α] [RawValue α] [Nameable α] (b : Build) :
    List (String × Int) :=
  (table b : Table α).constants (stem α) ++ further α

end Nameable

end AudioHal
