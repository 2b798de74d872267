import AudioHal.Text.Graphic
import AudioHal.Text.Numeral

/-! # Quoted text

Text between double quotes, for developers: every character that is not graphic is spelled out,
so that two different texts never look alike.

* `Text.escape`: double quotes and backslashes take a backslash, apostrophes stand as they are.
* `Text.quote`: a text with each character escaped, between double quotes.
-/

set_option autoImplicit false

namespace AudioHal.Text

/-- A character between quotes. -/
def escape (c : Char) : String :=
  if c = '\x00' then "\\0"
  else if c = '\t' then "\\t"
  else if c = '\r' then "\\r"
  else if c = '\n' then "\\n"
  else if c = '\\' ∨ c = '"' then .ofList ['\\', c]
  else if isGraphic c then c.toString
  else "\\u\x7b" ++ digits 16 c.toNat ++ "\x7d"

/-- A text between quotes. -/
def quote (s : String) : String :=
  "\"" ++ .join (s.toList.map escape) ++ "\""

end AudioHal.Text
