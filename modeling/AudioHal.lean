import AudioHal.Bits
import AudioHal.CaptureSource
import AudioHal.Catalog
import AudioHal.Channel.Layout
import AudioHal.Channel.Mask
import AudioHal.Channel.Position
import AudioHal.Channel.Table
import AudioHal.ContentType
import AudioHal.Decimal.Layout
import AudioHal.Decimal.Shortest
import AudioHal.Device
import AudioHal.Domain
import AudioHal.Flag.Boolean
import AudioHal.Flag.Cached
import AudioHal.Flag.Describe
import AudioHal.Flag.Document
import AudioHal.Flag.Event
import AudioHal.Flag.Failure
import AudioHal.Flag.ProcessFlag
import AudioHal.Flag.Race
import AudioHal.Flag.Settings
import AudioHal.Flag.Source
import AudioHal.Flag.Variable
import AudioHal.Format.Basic
import AudioHal.Format.Table
import AudioHal.GainMode
import AudioHal.Host.Basic
import AudioHal.Host.Environment
import AudioHal.Host.Files
import AudioHal.Host.Path
import AudioHal.Nameable
import AudioHal.Proofs.Bits.Count
import AudioHal.Proofs.Bits.Union
import AudioHal.Proofs.Catalog
import AudioHal.Proofs.Channel.Count
import AudioHal.Proofs.Channel.Decomposition
import AudioHal.Proofs.Channel.Direction
import AudioHal.Proofs.Channel.Numbered
import AudioHal.Proofs.Channel.Table
import AudioHal.Proofs.Channel.Tag
import AudioHal.Proofs.Channel.Union
import AudioHal.Proofs.Device
import AudioHal.Proofs.Domain.Display
import AudioHal.Proofs.Domain.Listing
import AudioHal.Proofs.Domain.Raw
import AudioHal.Proofs.Flag.Boolean
import AudioHal.Proofs.Flag.Document
import AudioHal.Proofs.Flag.File
import AudioHal.Proofs.Flag.Layers
import AudioHal.Proofs.Flag.Once
import AudioHal.Proofs.Flag.Precedence
import AudioHal.Proofs.Flag.Process
import AudioHal.Proofs.Flag.Settings
import AudioHal.Proofs.Flag.Stage
import AudioHal.Proofs.Flag.Together
import AudioHal.Proofs.Flag.Variable
import AudioHal.Proofs.Format
import AudioHal.Proofs.Host.Files
import AudioHal.Proofs.StreamFlags
import AudioHal.Proofs.Table.Blame
import AudioHal.Proofs.Table.Cell
import AudioHal.Proofs.Table.Current
import AudioHal.Proofs.Table.Gate
import AudioHal.Proofs.Table.Isolation
import AudioHal.Proofs.Table.Lookup
import AudioHal.Proofs.Table.Order
import AudioHal.Proofs.Table.Positions
import AudioHal.Proofs.Table.Roles
import AudioHal.Proofs.Table.Split
import AudioHal.Proofs.Text.Numeral
import AudioHal.Proofs.Text.Spelling
import AudioHal.Proofs.Text.Utf8
import AudioHal.Proofs.Toml.Keys
import AudioHal.Proofs.Wire.Coding
import AudioHal.Proofs.Wire.Mask
import AudioHal.Proofs.Wire.Named
import AudioHal.RawValue
import AudioHal.StreamFlags
import AudioHal.StreamType
import AudioHal.Table.Basic
import AudioHal.Table.Error
import AudioHal.Table.Validate
import AudioHal.Text.Blank
import AudioHal.Text.Graphic
import AudioHal.Text.Numeral
import AudioHal.Text.Quoted
import AudioHal.Text.Utf8
import AudioHal.Toml.Document
import AudioHal.Toml.Moments
import AudioHal.Toml.Numbers
import AudioHal.Toml.Reader
import AudioHal.Toml.Strings
import AudioHal.Toml.Tree
import AudioHal.Toml.Value
import AudioHal.Usage
import AudioHal.Visibility
import AudioHal.Wire.Coding
import AudioHal.Wire.Mask
import AudioHal.Wire.Value
