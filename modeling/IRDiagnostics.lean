import IRDiagnostics.Arena
import IRDiagnostics.Binary64.Basic
import IRDiagnostics.Binary64.Positional
import IRDiagnostics.Binary64.Rounding
import IRDiagnostics.Binary64.Scientific
import IRDiagnostics.Binary64.Shortest
import IRDiagnostics.Codec.Diagnostic
import IRDiagnostics.Codec.Module
import IRDiagnostics.Codec.Ty
import IRDiagnostics.Config.Basic
import IRDiagnostics.Config.Decode
import IRDiagnostics.Config.Load
import IRDiagnostics.Config.NameSet
import IRDiagnostics.Config.Printer
import IRDiagnostics.Constant
import IRDiagnostics.DebugInfo
import IRDiagnostics.Diagnostic.Barebone
import IRDiagnostics.Diagnostic.Basic
import IRDiagnostics.Diagnostic.Origin
import IRDiagnostics.Fault
import IRDiagnostics.Filter
import IRDiagnostics.Fragment
import IRDiagnostics.Instruction
import IRDiagnostics.Json.Basic
import IRDiagnostics.Json.Decode
import IRDiagnostics.Json.Number
import IRDiagnostics.Json.Printer
import IRDiagnostics.Json.Reader
import IRDiagnostics.Json.Token
import IRDiagnostics.Kind.Allocation
import IRDiagnostics.Kind.Basic
import IRDiagnostics.Located
import IRDiagnostics.Location.Basic
import IRDiagnostics.Location.Path
import IRDiagnostics.Location.Slice
import IRDiagnostics.Metadata
import IRDiagnostics.Module.Basic
import IRDiagnostics.Module.Build
import IRDiagnostics.Module.Inspection
import IRDiagnostics.Module.Read
import IRDiagnostics.Module.Scope
import IRDiagnostics.Module.Step
import IRDiagnostics.Remark.Argument
import IRDiagnostics.Remark.Basic
import IRDiagnostics.Remark.Category
import IRDiagnostics.Remark.Origin
import IRDiagnostics.Remark.Record
import IRDiagnostics.Severity
import IRDiagnostics.Sink.Basic
import IRDiagnostics.Sink.Call
import IRDiagnostics.Sink.Interleaving
import IRDiagnostics.SymbolTable
import IRDiagnostics.SymbolTable.Call
import IRDiagnostics.SymbolTable.Store
import IRDiagnostics.Text.Blank
import IRDiagnostics.Text.Hexadecimal
import IRDiagnostics.Text.Inspection
import IRDiagnostics.Text.Reader
import IRDiagnostics.Text.Unprintable
import IRDiagnostics.Toml.DateTime
import IRDiagnostics.Toml.Document
import IRDiagnostics.Toml.Lexical
import IRDiagnostics.Toml.Node
import IRDiagnostics.Toml.Number
import IRDiagnostics.Toml.Printer
import IRDiagnostics.Toml.Quoted
import IRDiagnostics.Toml.Value
import IRDiagnostics.Ty.Basic
import IRDiagnostics.Ty.Printer
import IRDiagnostics.Proofs.Module.Steps
import IRDiagnostics.Proofs.Module.Issued
import IRDiagnostics.Proofs.Module.Refusals
import IRDiagnostics.Proofs.Module.Ownership
import IRDiagnostics.Proofs.Module.Growth
import IRDiagnostics.Proofs.Module.Calls
import IRDiagnostics.Proofs.Module.Names
import IRDiagnostics.Proofs.Module.Search
import IRDiagnostics.Proofs.Module.Metadata
import IRDiagnostics.Proofs.Module.Closed
import IRDiagnostics.Proofs.Module.Filter
import IRDiagnostics.Proofs.Module.Readable
import IRDiagnostics.Proofs.Diagnostic.Fragments
import IRDiagnostics.Proofs.Diagnostic.Text
import IRDiagnostics.Proofs.Diagnostic.Recognition
import IRDiagnostics.Proofs.Diagnostic.Placement
import IRDiagnostics.Proofs.Diagnostic.Readable
import IRDiagnostics.Proofs.Text.Decimal
import IRDiagnostics.Proofs.Ty.UniqueReading
import IRDiagnostics.Proofs.Binary64.Rounding
import IRDiagnostics.Proofs.Binary64.Scientific
import IRDiagnostics.Proofs.Binary64.Value
import IRDiagnostics.Proofs.Binary64.Nearest
import IRDiagnostics.Proofs.Binary64.Shortest
import IRDiagnostics.Proofs.Binary64.Fewest
import IRDiagnostics.Proofs.Binary64.Widening
import IRDiagnostics.Proofs.Text.Reader
import IRDiagnostics.Proofs.Json.Literal
import IRDiagnostics.Proofs.Json.Tokens
import IRDiagnostics.Proofs.Json.RoundTrip
import IRDiagnostics.Proofs.Json.Scale
import IRDiagnostics.Proofs.Json.Number
import IRDiagnostics.Proofs.Json.Decimal
import IRDiagnostics.Proofs.Toml.Quoted
import IRDiagnostics.Proofs.Toml.Array
import IRDiagnostics.Proofs.Toml.Lines
import IRDiagnostics.Proofs.Toml.Table
import IRDiagnostics.Proofs.Config.RoundTrip
import IRDiagnostics.Proofs.Config.Blank
import IRDiagnostics.Proofs.Codec.Ty
import IRDiagnostics.Proofs.Codec.Module
import IRDiagnostics.Proofs.Codec.Constant
import IRDiagnostics.Proofs.Codec.Record
import IRDiagnostics.Proofs.Codec.Omission
import IRDiagnostics.Proofs.Sink.History
import IRDiagnostics.Proofs.Sink.Filtering
import IRDiagnostics.Proofs.Sink.Interleaving
import IRDiagnostics.Proofs.Remark.Origin
import IRDiagnostics.Proofs.Remark.Run
import IRDiagnostics.Proofs.Remark.Region
import IRDiagnostics.Proofs.Remark.Record
import IRDiagnostics.Proofs.Kind.Allocation
import IRDiagnostics.Proofs.Location.Path
import IRDiagnostics.Proofs.Location.Stripping
import IRDiagnostics.Proofs.Location.Remainder
import IRDiagnostics.Proofs.Location.Text
import IRDiagnostics.Proofs.Answers
import IRDiagnostics.Proofs.Arena
import IRDiagnostics.Proofs.SymbolTable
import IRDiagnostics.Proofs.SymbolTable.Store
import IRDiagnostics.Proofs.SymbolTable.History
import IRDiagnostics.Proofs.Arena.Issuing
