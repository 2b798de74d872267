import AudioHal.Table.Basic
import AudioHal.Table.Error

/-! # Checking a table

A table is well formed when symbols are pairwise different, canonical values are pairwise
different, every alias refers to a canonical value and no sentinel has one.

* `Table.WellFormed`: the four rules, said of the rows.
* `Table.validate`: the check. It blames the first pair of rows that clash, in the order of the
  earlier row and then of the later one, and only when no pair clashes the first row that breaks
  a rule on its own.
-/

set_option autoImplicit false

namespace AudioHal

variable {α : Type}

namespace Entry

/-- Two rows give their symbols to one value. -/
def SharesValue (a b : Entry α) : Prop :=
  a.role.givesSymbol ∧ b.role.givesSymbol ∧ a.value = b.value

instance [DecidableEq α] (a b : Entry α) : Decidable (a.SharesValue b) := by
  unfold SharesValue
  infer_instance

/-- What is wrong with two rows of one table, the earlier one first. -/
def clash? [DecidableEq α] (d : Domain) (a b : Entry α) : Option TableError :=
  if a.symbol = b.symbol then some (.duplicateSymbol d a.symbol)
  else if a.SharesValue b then some (.duplicateValue d a.symbol b.symbol)
  else none

end Entry

namespace Table

/-- The rules of a table. -/
structure WellFormed (t : Table α) : Prop where
  /-- No symbol occurs twice. -/
  symbols : t.entries.Pairwise fun a b => a.symbol ≠ b.symbol
  /-- No value has two symbols. -/
  values : t.entries.Pairwise fun a b => ¬a.SharesValue b
  /-- An alias refers to a value with a symbol. -/
  aliases : ∀ a ∈ t.entries, a.role = .legacy → ∃ c ∈ t.canonical, c.value = a.value
  /-- A sentinel has no symbol. -/
  sentinels : ∀ s ∈ t.entries, s.role = .sentinel → ∀ c ∈ t.canonical, c.value ≠ s.value

variable [DecidableEq α]

/-- The first clash between two rows. -/
def pairError? (d : Domain) : List (Entry α) → Option TableError
  | [] => none
  | e :: rest => rest.findSome? (e.clash? d) <|> pairError? d rest

/-- What is wrong with one row by itself. -/
def rowError? (t : Table α) (e : Entry α) : Option TableError :=
  match e.role, t.project e.value with
  | .legacy, none => some (.danglingAlias t.domain e.symbol)
  | .sentinel, some canonical => some (.sentinelCollision t.domain e.symbol canonical)
  | _, _ => none

/-- Checks the rules of a table, naming the first one broken. -/
def validate (t : Table α) : Except TableError Unit :=
  match pairError? t.domain t.entries <|> t.entries.findSome? t.rowError? with
  | some e => .error e
  | none => .ok ()

end Table

end AudioHal
