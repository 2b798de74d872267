/-! # Who may see a row

The framework process and the vendor's hardware components exchange audio enumerants as strings.
Some enumerants belong to the framework alone.

* `Visibility`: the rows a single parse may see; `Visibility.seesFrameworkRows` is true of the
  framework and of nobody else.
* `Build`: how the library was put together. A build fixes the visibility a parse uses when the
  caller names none (`Build.visibility`) and whether framework rows are present at all
  (`Build.keep`).
-/

set_option autoImplicit false

namespace AudioHal

/-- The set of rows that takes part in a parse. -/
inductive Visibility
  /-- Only the rows a vendor component may name. -/
  | vendor
  /-- The rows reserved for the framework as well, where the build has them. -/
  | framework
deriving DecidableEq

/-- Whether rows reserved for the framework take part in a parse. -/
def Visibility.seesFrameworkRows : Visibility → Bool
  | .vendor => false
  | .framework => true

/-- The ways the library is built. -/
inductive Build
  /-- For the framework process. -/
  | framework
  /-- For a vendor component. -/
  | vendor
  /-- For a vendor component without an operating system. -/
  | freestanding
deriving DecidableEq

namespace Build

/-- The visibility of a parse whose caller names none. -/
def visibility : Build → Visibility
  | .framework => .framework
  | .vendor => .vendor
  | .freestanding => .vendor

/-- Things reserved for the framework are present in the framework's build only. -/
def keep {α : Type} (b : Build) (reserved : List α) : List α :=
  if b.visibility.seesFrameworkRows then reserved else []

end Build

end AudioHal
