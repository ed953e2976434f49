import LuauDisassembler.Builtin
import LuauDisassembler.ByteOrder
import LuauDisassembler.Calendar
import LuauDisassembler.Command
import LuauDisassembler.Command.Options
import LuauDisassembler.Decimal.Binary64
import LuauDisassembler.Decimal.Shortest
import LuauDisassembler.DecodeError
import LuauDisassembler.Dispatch
import LuauDisassembler.Dump
import LuauDisassembler.Field
import LuauDisassembler.Instruction
import LuauDisassembler.Kind
import LuauDisassembler.Listing
import LuauDisassembler.Main
import LuauDisassembler.Opcode
import LuauDisassembler.Proofs.ByteOrder.Bijection
import LuauDisassembler.Proofs.ByteOrder.Packing
import LuauDisassembler.Proofs.Command.Inputs
import LuauDisassembler.Proofs.Command.Stages
import LuauDisassembler.Proofs.Command.Switches
import LuauDisassembler.Proofs.Command.Verbosity
import LuauDisassembler.Proofs.Dispatch.Collision
import LuauDisassembler.Proofs.Dispatch.Numbering
import LuauDisassembler.Proofs.Dispatch.Table
import LuauDisassembler.Proofs.Dump.Grammar
import LuauDisassembler.Proofs.Dump.Lexeme
import LuauDisassembler.Proofs.Dump.LineEnd
import LuauDisassembler.Proofs.Dump.LineFeed
import LuauDisassembler.Proofs.Dump.Place
import LuauDisassembler.Proofs.Dump.Tabs
import LuauDisassembler.Proofs.Listing.Commented
import LuauDisassembler.Proofs.Listing.Label
import LuauDisassembler.Proofs.Listing.Line
import LuauDisassembler.Proofs.Listing.Token
import LuauDisassembler.Proofs.Session.History
import LuauDisassembler.Proofs.Settings.Document
import LuauDisassembler.Proofs.Settings.Keys
import LuauDisassembler.Proofs.Settings.Update
import LuauDisassembler.Proofs.Stream.Concatenation
import LuauDisassembler.Proofs.Stream.Encoding
import LuauDisassembler.Proofs.Stream.Obstacle
import LuauDisassembler.Proofs.Stream.Tiling
import LuauDisassembler.Proofs.Stream.Walk
import LuauDisassembler.Proofs.Text.Numeral
import LuauDisassembler.Proofs.Toml.NullFree
import LuauDisassembler.Proofs.TypeTag.Naming
import LuauDisassembler.Proofs.Word.Bits
import LuauDisassembler.Proofs.Word.Fields
import LuauDisassembler.Proofs.Word.Runs
import LuauDisassembler.Session
import LuauDisassembler.Settings
import LuauDisassembler.Settings.Document
import LuauDisassembler.Stream
import LuauDisassembler.Text.Layout
import LuauDisassembler.Text.Numeral
import LuauDisassembler.Text.Position
import LuauDisassembler.Text.Printable
import LuauDisassembler.Text.Quoted
import LuauDisassembler.Text.WordChar
import LuauDisassembler.Toml.Document
import LuauDisassembler.Toml.Parser
import LuauDisassembler.Toml.Reader
import LuauDisassembler.Toml.Scalar
import LuauDisassembler.Toml.Text
import LuauDisassembler.TypeTag
import LuauDisassembler.Value
import LuauDisassembler.Version
import LuauDisassembler.Word
