import CodecTables.Main
import CodecTables.Source.Places
import CodecTables.Proofs.Compile.Frame
import CodecTables.Proofs.Compile.Names
import CodecTables.Proofs.Compile.Rows
import CodecTables.Proofs.Compile.Course
import CodecTables.Proofs.Compile.Invariant
import CodecTables.Proofs.Compile.Visits
import CodecTables.Proofs.Generate.Build
import CodecTables.Proofs.Generate.Counts
import CodecTables.Proofs.Compile.Kexts
import CodecTables.Proofs.Compile.Obstacle
import CodecTables.Proofs.Files.Characters
import CodecTables.Proofs.Generate.Unknown
import CodecTables.Proofs.Compile.Fresh
import CodecTables.Proofs.Compile.Simulation
import CodecTables.Proofs.Compile.Sharing
import CodecTables.Proofs.Compile.Rules
import CodecTables.Proofs.Compile.Text
import CodecTables.Proofs.Generate.Declarations
import CodecTables.Proofs.Generate.Outline
import CodecTables.Proofs.Decode.Decoders
import CodecTables.Proofs.Files.Lookup
import CodecTables.Proofs.Resource.Groups
import CodecTables.Proofs.Directory.Search
import CodecTables.Proofs.Generate.Discovery
import CodecTables.Proofs.Compile.Agreement
import CodecTables.Proofs.Generate.Result
import CodecTables.Proofs.Generate.Ignored
import CodecTables.Proofs.Files.Writing
import CodecTables.Proofs.Source.Printable
import CodecTables.Proofs.Directory.Loading
import CodecTables.Proofs.Generate.Making
import CodecTables.Proofs.CommandLine.Exit
import CodecTables.Proofs.Plist.Binary
import CodecTables.Proofs.Source.StringLiteral
import CodecTables.Proofs.Source.ByteRows
import CodecTables.Proofs.Compile.Codes
import CodecTables.Proofs.Compile.Unreadable
import CodecTables.Proofs.Source.Pieces
import CodecTables.Proofs.Source.Layout
import CodecTables.Proofs.Source.Sequence
import CodecTables.Proofs.Source.Tidy
import CodecTables.Proofs.Compile.Titles
import CodecTables.Proofs.Generate.Tidy
import CodecTables.Proofs.Plist.Keys
import CodecTables.Proofs.Directory.Failures
import CodecTables.Proofs.Generate.Banner
import CodecTables.Proofs.Compile.Requests
import CodecTables.Proofs.Compile.StructTypes
