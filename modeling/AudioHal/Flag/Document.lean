import AudioHal.Flag.Settings
import AudioHal.Toml.Document

/-! # Flags in documents

A document sets flags in its table `flags`; whatever else it holds does not matter.

* `Flag.settings?`: the settings of a document; nothing if `flags` is not a table of truth values.
* `Flag.parse`: the settings of a text.
* `Flag.load`: the settings of a file.
-/

set_option autoImplicit false

namespace AudioHal.Flag

/-- The truth value of an entry, with its name. -/
def setting? : String × Toml.Value → Option (String × Bool)
  | (name, .boolean b) => some (name, b)
  | _ => none

/-- The settings of a document. A document without `flags` sets none. -/
def settings? (document : Toml.Table) : Option Settings :=
  match document.lookup "flags" with
  | none => some .empty
  | some (.table entries) => (entries.mapM setting?).map .ofList
  | some _ => none

/-- The settings of a text that comes from somewhere. -/
def parse (text origin : String) : Except Failure Settings :=
  match (Toml.parse text).bind settings? with
  | some settings => .ok settings
  | none => .error (.malformed origin)

/-- The origin of a text that comes from no file. -/
def inlineOrigin : String := "<inline>"

/-- The settings of a file. -/
def load (files : Files) (path : Path) : Except Failure Settings :=
  match files.readText path with
  | .ok text => parse text path.display
  | .error obstacle => .error (.unreadable path obstacle)

theorem load_eq_ok_iff {files : Files} {path : Path} {settings : Settings} :
    load files path = .ok settings ↔
      ∃ text, files.readText path = .ok text ∧ parse text path.display = .ok settings := by
  unfold load
  split
  · rename_i text h
    simp [h]
  · rename_i obstacle h
    simp [h]

end AudioHal.Flag
