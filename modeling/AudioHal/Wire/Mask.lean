import AudioHal.Channel.Table
import AudioHal.Wire.Coding

/-! # Channel masks on the wire

A mask travels without its direction. It is written by its tag: numbered channels by the index
table, anything else by the output table or, failing that, the input table. A string is looked up
in all three tables.
-/

set_option autoImplicit false

namespace AudioHal.Wire

/-- The tables that a string is looked up in, in order. -/
def maskDirections : List ChannelMask.Direction :=
  [.output, .input, .index]

instance : Coded ChannelMask where
  encode _ m :=
    let (symbol?, domain) := match m.representation? with
      | some .index => (m.symbol? .index, Domain.indexChannelMask)
      | _ => (m.symbol? .output <|> m.symbol? .input, Domain.outputChannelMask)
    match symbol? with
    | some symbol => .ok symbol
    | none => .error (.unnamed domain)
  decodeText b s := maskDirections.findSome? fun d => ChannelMask.ofSymbol? b d s
  domain _ := .outputChannelMask

end AudioHal.Wire
