import AudioHal.Host.Environment
import AudioHal.Host.Files

/-! # The host of a process

What flags can depend on from outside: the environment and the files.

* `Host.Change`: the ways a host changes.
* `Host.after`, `Host.afterAll`: the host after one change or several.
-/

set_option autoImplicit false

namespace AudioHal

/-- What surrounds a process. -/
structure Host where
  environment : Environment
  files : Files

namespace Host

/-- A change from outside. -/
inductive Change
  | setVariable (name value : List UInt8)
  | removeVariable (name : List UInt8)
  | writeFile (path : Path) (bytes : List UInt8)
  | removeFile (path : Path)
  | makeDirectory (path : Path)

/-- The host after a change. -/
def after (h : Host) : Change → Host
  | .setVariable name value => { h with environment := h.environment.set name value }
  | .removeVariable name => { h with environment := h.environment.remove name }
  | .writeFile path bytes => { h with files := h.files.write path bytes }
  | .removeFile path => { h with files := h.files.remove path }
  | .makeDirectory path => { h with files := h.files.makeDirectory path }

/-- The host after a run of changes. -/
def afterAll (h : Host) (changes : List Change) : Host :=
  changes.foldl after h

end Host

end AudioHal
