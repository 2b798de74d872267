import AudioHal.Bits
import AudioHal.RawValue

/-! # Channel masks

A mask tells which channels a stream has. Its two highest bits are a tag: with tag 0 each of the
other thirty bits is a position, with tag 2 the channels are merely numbered and the lowest bits
are set, one for each channel. No other tag is valid.

* `ChannelMask.union`, `ChannelMask.unionAll`, `ChannelMask.contains`: masks as sets of bits.
* `ChannelMask.representation?`: what the tag says.
* `ChannelMask.count`: how many channels there are, whatever the tag.
* `ChannelMask.ofCount?`: the mask of a number of numbered channels.
-/

set_option autoImplicit false

namespace AudioHal

/-- A set of channels together with a tag. -/
structure ChannelMask where
  bits : UInt32
deriving DecidableEq

namespace ChannelMask

instance : RawValue ChannelMask :=
  .wrap mk bits (fun _ => rfl) (fun _ => rfl)

/-- How the channels of a mask are told apart. -/
inductive Representation
  /-- By their positions. -/
  | position
  /-- By their numbers. -/
  | index
deriving DecidableEq

/-- The greatest number of channels of a mask; the tag begins at this bit. -/
def capacity : Nat := 30

/-- The tag of numbered channels. -/
def indexTag : UInt32 := 0x80000000

/-- The bits of the channels. -/
def payloadBits : UInt32 := 0x3FFFFFFF

/-- The greatest number of numbered channels that has a name. -/
def namedCapacity : Nat := 24

/-- No channels; the same in every direction. -/
protected def none : ChannelMask := ⟨0⟩

/-- Not a mask; its tag is 3. -/
def invalid : ChannelMask := ⟨0xC0000000⟩

instance : Inhabited ChannelMask := ⟨.none⟩

/-- The channels of either mask; tags are joined too. -/
def union (a b : ChannelMask) : ChannelMask :=
  ⟨a.bits ||| b.bits⟩

instance : OrOp ChannelMask := ⟨union⟩

/-- The channels of all masks of a list. -/
def unionAll (ms : List ChannelMask) : ChannelMask :=
  ms.foldl union .none

/-- Whether every bit of `b` is set in `a`. -/
def contains (a b : ChannelMask) : Bool :=
  Bits.contains a.bits b.bits

/-- What the tag says; nothing for the two tags without a meaning. -/
def representation? (m : ChannelMask) : Option Representation :=
  if m.bits >>> 30 = 0 then some .position
  else if m.bits >>> 30 = 2 then some .index
  else none

/-- The number of channels. -/
def count (m : ChannelMask) : Nat :=
  Bits.count capacity m.bits

/-- The mask whose `count` lowest bits are set under the tag of numbered channels. -/
def lowest (count : UInt32) : ChannelMask :=
  ⟨indexTag ||| ((1 <<< count) - 1)⟩

/-- The mask of `count` numbered channels: at least one and as many as a mask can hold. -/
def ofCount? (count : UInt32) : Option ChannelMask :=
  if count = 0 ∨ capacity < count.toNat then none else some (lowest count)

end ChannelMask

end AudioHal
