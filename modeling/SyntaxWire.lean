import SyntaxWire.CommandLine.Run
import SyntaxWire.Folder
import SyntaxWire.Main
import SyntaxWire.Proofs.Registry.Evolution
import SyntaxWire.Proofs.Stream.Version
import SyntaxWire.Proofs.Stream.Walk
import SyntaxWire.Session
import SyntaxWire.Stream.Json
import SyntaxWire.Proofs.Stream.Run
import SyntaxWire.Proofs.Stream.Decode
import SyntaxWire.Proofs.Stream.RoundTrip
import SyntaxWire.Proofs.Stream.Canonical
import SyntaxWire.Proofs.Stream.Extension
import SyntaxWire.Proofs.Stream.Grammar
import SyntaxWire.Proofs.Stream.Spelling
import SyntaxWire.Proofs.Registry.Build
import SyntaxWire.Proofs.Registry.Checksum
import SyntaxWire.Proofs.Stream.Verdict
import SyntaxWire.Proofs.Handle
import SyntaxWire.Proofs.CommandLine.Evolve
import SyntaxWire.Proofs.Registry.Tables
import SyntaxWire.Proofs.Json.Reading
import SyntaxWire.Proofs.Tree.Json
import SyntaxWire.Proofs.CommandLine.Job
import SyntaxWire.Proofs.CommandLine.Trees
import SyntaxWire.Proofs.Registry.Naming
import SyntaxWire.Proofs.Registry.Index
import SyntaxWire.Proofs.Stream.Resources
import SyntaxWire.Proofs.Stream.Agreement
import SyntaxWire.Proofs.Table.Saving
import SyntaxWire.Proofs.Stream.Slots
import SyntaxWire.Proofs.Varint.Canonical
import SyntaxWire.Proofs.CommandLine.Footprint
import SyntaxWire.Proofs.Registry.Families
import SyntaxWire.Proofs.Stream.Shapes
