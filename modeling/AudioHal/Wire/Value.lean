import AudioHal.Decimal.Layout
import AudioHal.Text.Quoted

/-! # Values on the wire

Named values travel inside structured documents. `Wire.Value` is what a document can hold at one
place; `Wire.Value.describe` says what was found there when something else was expected.
-/

set_option autoImplicit false

namespace AudioHal.Wire

/-- What a structured document can hold at one place. -/
inductive Value
  | null
  | boolean (b : Bool)
  /-- A number written without a point or an exponent. -/
  | integer (n : Int)
  /-- A number written with a point or an exponent. -/
  | real (x : Float)
  | text (s : String)
  | sequence (items : List Value)
  | mapping (entries : List (String × Value))

/-- What was found, in the words of a complaint. -/
def Value.describe : Value → String
  | .null => "null"
  | .boolean true => "boolean `true`"
  | .boolean false => "boolean `false`"
  | .integer n => "integer `" ++ Text.decimal n ++ "`"
  | .real x => "floating point `" ++ Decimal.write x ++ "`"
  | .text s => "string " ++ Text.quote s
  | .sequence _ => "sequence"
  | .mapping _ => "map"

end AudioHal.Wire
