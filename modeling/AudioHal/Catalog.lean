import AudioHal.CaptureSource
import AudioHal.Channel.Table
import AudioHal.ContentType
import AudioHal.Device
import AudioHal.Format.Table
import AudioHal.GainMode
import AudioHal.StreamFlags
import AudioHal.StreamType
import AudioHal.Table.Validate
import AudioHal.Usage

/-! # The catalog

All domains side by side, for callers that hold unbounded integers and learn only at run time
which domain they are about.

* `Domain.Carrier`, `Domain.table`: the type and the table of a domain.
* `Domain.project`, `Domain.parseWith`: the two directions of a domain, on raw integers. A number
  that does not fit the type has no symbol.
* `Domain.validateAll`: checks every table.
* `NamedType`: the nine types that are named by a single table.
-/

set_option autoImplicit false

namespace AudioHal

namespace Domain

/-- The type that a domain names. -/
@[reducible]
def Carrier : Domain → Type
  | .outputChannelMask => ChannelMask
  | .inputChannelMask => ChannelMask
  | .indexChannelMask => ChannelMask
  | .contentType => ContentType
  | .device => Device
  | .outputFlag => OutputFlags
  | .inputFlag => InputFlags
  | .format => Format
  | .gainMode => GainMode
  | .source => CaptureSource
  | .streamType => StreamType
  | .usage => Usage

instance : (d : Domain) → DecidableEq d.Carrier
  | .outputChannelMask => inferInstanceAs (DecidableEq ChannelMask)
  | .inputChannelMask => inferInstanceAs (DecidableEq ChannelMask)
  | .indexChannelMask => inferInstanceAs (DecidableEq ChannelMask)
  | .contentType => inferInstanceAs (DecidableEq ContentType)
  | .device => inferInstanceAs (DecidableEq Device)
  | .outputFlag => inferInstanceAs (DecidableEq OutputFlags)
  | .inputFlag => inferInstanceAs (DecidableEq InputFlags)
  | .format => inferInstanceAs (DecidableEq Format)
  | .gainMode => inferInstanceAs (DecidableEq GainMode)
  | .source => inferInstanceAs (DecidableEq CaptureSource)
  | .streamType => inferInstanceAs (DecidableEq StreamType)
  | .usage => inferInstanceAs (DecidableEq Usage)

instance : (d : Domain) → RawValue d.Carrier
  | .outputChannelMask => inferInstanceAs (RawValue ChannelMask)
  | .inputChannelMask => inferInstanceAs (RawValue ChannelMask)
  | .indexChannelMask => inferInstanceAs (RawValue ChannelMask)
  | .contentType => inferInstanceAs (RawValue ContentType)
  | .device => inferInstanceAs (RawValue Device)
  | .outputFlag => inferInstanceAs (RawValue OutputFlags)
  | .inputFlag => inferInstanceAs (RawValue InputFlags)
  | .format => inferInstanceAs (RawValue Format)
  | .gainMode => inferInstanceAs (RawValue GainMode)
  | .source => inferInstanceAs (RawValue CaptureSource)
  | .streamType => inferInstanceAs (RawValue StreamType)
  | .usage => inferInstanceAs (RawValue Usage)

/-- The table of a domain, in a build. -/
def table (b : Build) : (d : Domain) → Table d.Carrier
  | .outputChannelMask => ChannelMask.table .output
  | .inputChannelMask => ChannelMask.table .input
  | .indexChannelMask => ChannelMask.table .index
  | .contentType => (Nameable.table b : Table ContentType)
  | .device => (Nameable.table b : Table Device)
  | .outputFlag => (Nameable.table b : Table OutputFlags)
  | .inputFlag => (Nameable.table b : Table InputFlags)
  | .format => (Nameable.table b : Table Format)
  | .gainMode => (Nameable.table b : Table GainMode)
  | .source => (Nameable.table b : Table CaptureSource)
  | .streamType => (Nameable.table b : Table StreamType)
  | .usage => (Nameable.table b : Table Usage)

/-- The symbol of a number in a domain, where it has one. -/
def project (b : Build) (d : Domain) (raw : Int) : Option String :=
  (RawValue.ofRaw? raw : Option d.Carrier).bind (d.table b).project

/-- The number of a symbol in a domain, seen with visibility `v`. -/
def parseWith (b : Build) (d : Domain) (symbol : String) (v : Visibility) : Option Int :=
  ((d.table b).parseWith symbol v).map RawValue.toRaw

/-- The number of a symbol in a domain, seen as the build sees it. -/
def parse (b : Build) (d : Domain) (symbol : String) : Option Int :=
  d.parseWith b symbol b.visibility

/-- The symbols of a domain, each with its number. -/
def listing (b : Build) (d : Domain) : List (String × Int) :=
  (d.table b).canonical.map fun e => (e.symbol, RawValue.toRaw e.value)

/-- Checks the table of a domain. -/
def validate (b : Build) (d : Domain) : Except TableError Unit :=
  (d.table b).validate

/-- Checks every table; the first fault ends the work. -/
def validateAll (b : Build) : Except TableError Unit :=
  all.forM (validate b)

end Domain

/-- The types that are named by a single table. -/
inductive NamedType
  | contentType
  | device
  | outputFlags
  | inputFlags
  | format
  | gainMode
  | source
  | streamType
  | usage
deriving DecidableEq

namespace NamedType

/-- Every such type. -/
def all : List NamedType :=
  [.contentType, .device, .outputFlags, .inputFlags, .format, .gainMode, .source, .streamType,
    .usage]

/-- The domain that a type is named in. -/
def domain : NamedType → Domain
  | .contentType => .contentType
  | .device => .device
  | .outputFlags => .outputFlag
  | .inputFlags => .inputFlag
  | .format => .format
  | .gainMode => .gainMode
  | .source => .source
  | .streamType => .streamType
  | .usage => .usage

/-- The values of a type. -/
abbrev Carrier (t : NamedType) : Type :=
  t.domain.Carrier

instance : (t : NamedType) → Nameable t.Carrier
  | .contentType => inferInstanceAs (Nameable ContentType)
  | .device => inferInstanceAs (Nameable Device)
  | .outputFlags => inferInstanceAs (Nameable OutputFlags)
  | .inputFlags => inferInstanceAs (Nameable InputFlags)
  | .format => inferInstanceAs (Nameable Format)
  | .gainMode => inferInstanceAs (Nameable GainMode)
  | .source => inferInstanceAs (Nameable CaptureSource)
  | .streamType => inferInstanceAs (Nameable StreamType)
  | .usage => inferInstanceAs (Nameable Usage)

theorem table_eq (b : Build) (t : NamedType) :
    (Nameable.table b : Table t.Carrier) = t.domain.table b := by
  cases t <;> rfl

theorem domain_table (b : Build) (t : NamedType) : (t.domain.table b).domain = t.domain := by
  cases t <;> rfl

end NamedType

end AudioHal
