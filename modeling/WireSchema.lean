import WireSchema.Text.CharRange
import WireSchema.Text.DecimalDigit
import WireSchema.Text.Blank
import WireSchema.Text.WordChar
import WireSchema.Text.Printable
import WireSchema.Text.LetterCase
import WireSchema.Text.CaseMap
import WireSchema.Text.Quoted
import WireSchema.Naming
import WireSchema.Number.Binary
import WireSchema.Number.Shortest
import WireSchema.Number.Style
import WireSchema.Wire.Width
import WireSchema.Wire.Error
import WireSchema.Wire.Bytes
import WireSchema.Wire.Reader
import WireSchema.Wire.Writer
import WireSchema.Wire.OpenEnum
import WireSchema.Wire.Registry
import WireSchema.Game.Message
import WireSchema.Game.Codec
import WireSchema.Game.Text
import WireSchema.Source.Token
import WireSchema.Source.Lexer
import WireSchema.Source.Definition
import WireSchema.Source.Parser
import WireSchema.Schema.Kind
import WireSchema.Schema.Model
import WireSchema.Schema.Extract
import WireSchema.Schema.Problem
import WireSchema.Schema.Check.Fields
import WireSchema.Schema.Check.Names
import WireSchema.Schema.Check.Nesting
import WireSchema.Schema.Valid
import WireSchema.Json
import WireSchema.Schema.Render
import WireSchema.Value.Basic
import WireSchema.Value.Encode
import WireSchema.Value.Decode
import WireSchema.Value.Render
import WireSchema.Codegen.Enum
import WireSchema.Codegen.Message
import WireSchema.Codegen.Registry
import WireSchema.Codegen.File
import WireSchema.FileTree
import WireSchema.Session.Log
import WireSchema.Session.Basic
import WireSchema.CommandLine.Args
import WireSchema.CommandLine.Run
import WireSchema.Main
import WireSchema.Proofs.Wire.Bytes
import WireSchema.Proofs.Wire.Run
import WireSchema.Proofs.Wire.Reader
import WireSchema.Proofs.Wire.Forms
import WireSchema.Proofs.Wire.Writer
import WireSchema.Proofs.Schema.Nesting
import WireSchema.Proofs.Schema.Weightless
import WireSchema.Proofs.Schema.WellFormed
import WireSchema.Proofs.Schema.Resolve
import WireSchema.Proofs.Schema.Recursion
import WireSchema.Proofs.Value.Layout
import WireSchema.Proofs.Value.Write
import WireSchema.Proofs.Value.Normal
import WireSchema.Proofs.Value.RoundTrip
import WireSchema.Proofs.Game.Schema
import WireSchema.Proofs.Number.Convert
import WireSchema.Proofs.Value.Canonical
import WireSchema.Proofs.Wire.Registry
import WireSchema.Proofs.Value.Typed
import WireSchema.Proofs.Game.Read
import WireSchema.Proofs.Value.TypedWrite
import WireSchema.Proofs.Game.Write
import WireSchema.Proofs.Game.Agreement
import WireSchema.Proofs.Wire.Steady
import WireSchema.Proofs.Wire.Failure
import WireSchema.Proofs.Wire.Operations
import WireSchema.Proofs.Value.Safety
import WireSchema.Proofs.Wire.Depth
import WireSchema.Proofs.Value.Termination
import WireSchema.Proofs.Wire.Recovers
import WireSchema.Proofs.Game.Recovers
import WireSchema.Proofs.Game.Truncation
import WireSchema.Proofs.Value.Counts
import WireSchema.Proofs.Game.Atomic
import WireSchema.Proofs.Source.Grammar
import WireSchema.Proofs.Source.Runs
import WireSchema.Proofs.Source.Reads
import WireSchema.Proofs.Source.Recognition
import WireSchema.Proofs.Source.Unambiguous
import WireSchema.Proofs.Source.Acceptance
import WireSchema.Proofs.Source.Halting
import WireSchema.Proofs.Source.Relocation
import WireSchema.Proofs.Source.Pieces
import WireSchema.Proofs.Source.Pattern
import WireSchema.Proofs.Source.Language
import WireSchema.Proofs.Source.Lexing
import WireSchema.Proofs.Source.Covering
import WireSchema.Proofs.Source.Concatenation
import WireSchema.Proofs.Source.Printing
import WireSchema.Proofs.Schema.Erasure
import WireSchema.Proofs.Codegen.Erasure
import WireSchema.Proofs.Schema.Extraction
import WireSchema.Proofs.Schema.Selection
import WireSchema.Proofs.Session.Split
import WireSchema.Proofs.Codegen.RegistryTable
import WireSchema.Proofs.Session.Retained
import WireSchema.Proofs.Value.Reordering
import WireSchema.Proofs.Wire.Conditions
import WireSchema.Proofs.Game.RoundTrip
import WireSchema.Proofs.CommandLine.Commands
import WireSchema.Proofs.Session.Meaning
import WireSchema.Proofs.Naming
import WireSchema.Proofs.Naming.Words
import WireSchema.Proofs.Session.Identifiers
import WireSchema.Proofs.Codegen.Vocabulary
import WireSchema.Proofs.Value.Integers
import WireSchema.Proofs.Value.Conformance
import WireSchema.Proofs.Value.LeastSize
import WireSchema.Proofs.Value.Members
import WireSchema.Proofs.Value.Render
import WireSchema.Proofs.Value.Insertion
import WireSchema.Proofs.Value.Lossless
import WireSchema.Proofs.FileTree.Relisting
import WireSchema.Proofs.Session.Queue
