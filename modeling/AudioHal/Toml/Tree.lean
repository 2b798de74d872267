import AudioHal.Toml.Value

/-! # Building a document

Lines of a document add to a tree of tables. How a table came into being decides what may still be
added to it.

* `Toml.assign`: gives a dotted key its value. Tables on the way are made if they are missing;
  tables that a header opened are closed to dotted keys.
* `Toml.openTable`, `Toml.openElement`: what the two kinds of header do.
* `Toml.within`: changes the table that a header's path leads to.
* `Toml.Item.plain`: the finished value.
-/

set_option autoImplicit false

namespace AudioHal.Toml

/-- How a table came into being. -/
inductive Standing
  /-- By a header of its own. -/
  | explicit
  /-- On the way to a table of a header. -/
  | implied
  /-- On the way of a dotted key. -/
  | dotted
deriving DecidableEq

/-- What a key of an unfinished table stands for. -/
inductive Item
  | value (v : Value)
  | table (standing : Standing) (entries : List (String × Item))
  /-- A sequence of tables, one for each header; the last one is open. -/
  | tables (elements : List (List (String × Item)))

/-- An unfinished table. -/
abbrev Entries := List (String × Item)

/-- A table with another item at a key, in its old place if the key is there. -/
def put (key : String) (item : Item) (entries : Entries) : Entries :=
  if (entries.lookup key).isSome then
    entries.map fun e => if e.1 = key then (key, item) else e
  else entries ++ [(key, item)]

/-- A sequence of tables with another table at its end. -/
def replaceLast (elements : List Entries) (entries : Entries) : Item :=
  .tables (elements.dropLast ++ [entries])

/-- Gives a dotted key its value. The table that the last step adds to must be the one that the
key started from or one that a dotted key made. -/
def assign (value : Value) : List String → Entries → Option Entries
  | [], _ => none
  | [key], entries =>
    if (entries.lookup key).isSome then none else some (put key (.value value) entries)
  | key :: next :: path, entries =>
    match entries.lookup key with
    | none => (assign value (next :: path) []).map fun sub => put key (.table .dotted sub) entries
    | some (.value _) => none
    | some (.table .explicit _) => none
    | some (.table .implied sub) =>
      if path.isEmpty then none
      else (assign value (next :: path) sub).map fun sub => put key (.table .implied sub) entries
    | some (.table .dotted sub) =>
      (assign value (next :: path) sub).map fun sub => put key (.table .dotted sub) entries
    | some (.tables elements) =>
      if path.isEmpty then none
      else
        (assign value (next :: path) (elements.getLast?.getD [])).map fun sub =>
          put key (replaceLast elements sub) entries

/-- Changes the table at the end of a path, making tables that are missing. A sequence of tables
leads on to its last one. -/
def within (change : Entries → Option Entries) : List String → Entries → Option Entries
  | [], entries => change entries
  | key :: path, entries =>
    match entries.lookup key with
    | none => (within change path []).map fun sub => put key (.table .implied sub) entries
    | some (.value _) => none
    | some (.table standing sub) =>
      (within change path sub).map fun sub => put key (.table standing sub) entries
    | some (.tables elements) =>
      (within change path (elements.getLast?.getD [])).map fun sub =>
        put key (replaceLast elements sub) entries

/-- Opens a table of its own: one that is new, or was only on the way to other tables. -/
def openTable (key : String) (entries : Entries) : Option Entries :=
  match entries.lookup key with
  | none => some (put key (.table .explicit []) entries)
  | some (.table .implied sub) => some (put key (.table .explicit sub) entries)
  | some _ => none

/-- Opens one more table of a sequence of tables. -/
def openElement (key : String) (entries : Entries) : Option Entries :=
  match entries.lookup key with
  | none => some (put key (.tables [[]]) entries)
  | some (.tables elements) => some (put key (.tables (elements ++ [[]])) entries)
  | some _ => none

mutual

/-- The finished value of an item. -/
def Item.plain : Item → Value
  | .value v => v
  | .table _ entries => .table (plainEntries entries)
  | .tables elements => .sequence (plainElements elements)

/-- The finished table. -/
def plainEntries : List (String × Item) → List (String × Value)
  | [] => []
  | (key, item) :: rest => (key, item.plain) :: plainEntries rest

/-- The finished tables of a sequence. -/
def plainElements : List (List (String × Item)) → List Value
  | [] => []
  | entries :: rest => .table (plainEntries entries) :: plainElements rest

end

end AudioHal.Toml
