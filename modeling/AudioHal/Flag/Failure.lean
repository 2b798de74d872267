import AudioHal.Host.Files

/-! # Failures of flag sources

* `Flag.Failure`: why a source cannot say what a flag is.
* `Flag.Answer`: what a source says: a value, nothing, or why it failed.
-/

set_option autoImplicit false

namespace AudioHal.Flag

/-- Why a source cannot say what a flag is. -/
inductive Failure
  /-- A file cannot be read. -/
  | unreadable (path : Path) (obstacle : Obstacle)
  /-- A document is not one, or gives a flag something other than a truth value. -/
  | malformed (origin : String)
  /-- The text for a flag is not a truth value. -/
  | notBoolean (flag value : String)
deriving DecidableEq

/-- The wording of a failure. -/
def Failure.message : Failure → String
  | .unreadable path _ => "failed to read flag file `" ++ path.display ++ "`"
  | .malformed origin => "malformed flag document `" ++ origin ++ "`"
  | .notBoolean flag value => "flag `" ++ flag ++ "` has non-boolean value `" ++ value ++ "`"

/-- What a source says about a flag. -/
abbrev Answer := Except Failure (Option Bool)

end AudioHal.Flag
