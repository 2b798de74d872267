import AudioHal.Flag.Cached
import AudioHal.Text.Numeral

/-! # Flags for developers

How sources and cached flags look in messages for developers: a name and, between braces, the
fields.

* `Flag.Leaf.describe`, `Flag.describeLayers`, `Flag.Cached.describe`.
-/

set_option autoImplicit false

namespace AudioHal.Flag

/-- A name and fields between braces. -/
def describeFields (name : String) (fields : List String) : String :=
  name ++ " \x7b " ++ ", ".intercalate fields ++ " \x7d"

/-- A leaf for developers. -/
def Leaf.describe : Leaf → String
  | .fixed settings => describeFields "FixedFlags" ["flags: " ++ settings.describe]
  | .environment stem => describeFields "EnvFlags" ["prefix: " ++ Text.quote stem]
  | .document settings => describeFields "TomlFlags" ["flags: " ++ settings.describe]
  | .file path => describeFields "TomlFileFlags" ["path: " ++ Text.quote path.display]

/-- Layers for developers: only their number is told. -/
def describeLayers (depth : Nat) : String :=
  describeFields "LayeredFlags" ["depth: " ++ Text.decimal depth]

/-- A value that may not be known, for developers. -/
def describeValue : Option Bool → String
  | some b => "Some(" ++ spell b ++ ")"
  | none => "None"

/-- A cached flag for developers; its source is not told. -/
def Cached.describe {S : Type} (f : Cached S) : String :=
  describeFields "CachedFlag"
    ["name: " ++ Text.quote f.name, "default: " ++ spell f.fallback,
      "value: " ++ describeValue f.value?, ".."]

end AudioHal.Flag
