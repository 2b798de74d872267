/-! # Domains

A domain is one space of named values. Channel masks have three, one for each direction in which
a mask can be read; every other kind of value has one.

* `Domain.name`: the text that error messages use.
* `Domain.all`: every domain, in the order that `Domain.index` counts and `Domain.sort` sorts by.
-/

set_option autoImplicit false

namespace AudioHal

/-- A space of named values; each has exactly one table. -/
inductive Domain
  | outputChannelMask
  | inputChannelMask
  | indexChannelMask
  | contentType
  | device
  | outputFlag
  | inputFlag
  | format
  | gainMode
  | source
  | streamType
  | usage
deriving DecidableEq

namespace Domain

/-- Every domain, in order. -/
def all : List Domain :=
  [.outputChannelMask, .inputChannelMask, .indexChannelMask, .contentType, .device, .outputFlag,
    .inputFlag, .format, .gainMode, .source, .streamType, .usage]

/-- The name that messages use. -/
def name : Domain → String
  | .outputChannelMask => "output channel mask"
  | .inputChannelMask => "input channel mask"
  | .indexChannelMask => "index channel mask"
  | .contentType => "audio content type"
  | .device => "audio device"
  | .outputFlag => "audio output flag"
  | .inputFlag => "audio input flag"
  | .format => "audio format"
  | .gainMode => "audio gain mode"
  | .source => "audio source"
  | .streamType => "audio stream type"
  | .usage => "audio usage"

/-- The place of a domain in `all`. -/
def index (d : Domain) : Nat :=
  all.idxOf d

theorem mem_all (d : Domain) : d ∈ all := by
  cases d <;> decide

/-- Domains in the order of `all`; equal ones stay side by side. -/
def sort (ds : List Domain) : List Domain :=
  ds.mergeSort fun a b => a.index ≤ b.index

end Domain

end AudioHal
