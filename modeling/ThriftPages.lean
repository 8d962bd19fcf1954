import ThriftPages.CommandLine.Arguments
import ThriftPages.CommandLine.Fault
import ThriftPages.CommandLine.Help
import ThriftPages.CommandLine.Program
import ThriftPages.CommandLine.Run
import ThriftPages.Decimal.Binary64
import ThriftPages.Decimal.Layout
import ThriftPages.Decimal.Shortest
import ThriftPages.FilePath
import ThriftPages.FileSystem
import ThriftPages.Formats.Format
import ThriftPages.Formats.Registry
import ThriftPages.Idl.Constant
import ThriftPages.Idl.Document
import ThriftPages.Idl.TypeRef
import ThriftPages.Json.Basic
import ThriftPages.Json.NumberLiteral
import ThriftPages.Json.Object
import ThriftPages.Json.Reader
import ThriftPages.Json.Skip
import ThriftPages.Json.StringLiteral
import ThriftPages.Json.Value
import ThriftPages.Json.Written
import ThriftPages.Main
import ThriftPages.Page.Block
import ThriftPages.Page.Dump
import ThriftPages.Page.Markdown
import ThriftPages.Page.Outline
import ThriftPages.Proofs.CommandLine.Actions
import ThriftPages.Proofs.CommandLine.Conversion
import ThriftPages.Proofs.CommandLine.Effects
import ThriftPages.Proofs.CommandLine.Phrases
import ThriftPages.Proofs.CommandLine.Programs
import ThriftPages.Proofs.CommandLine.Routes
import ThriftPages.Proofs.CommandLine.Spelling
import ThriftPages.Proofs.CommandLine.Titles
import ThriftPages.Proofs.Files.PathNames
import ThriftPages.Proofs.Files.Writing
import ThriftPages.Proofs.Formats.Detection
import ThriftPages.Proofs.Formats.History
import ThriftPages.Proofs.Json.Brackets
import ThriftPages.Proofs.Json.Literals
import ThriftPages.Proofs.Json.Nesting
import ThriftPages.Proofs.Json.Passing
import ThriftPages.Proofs.Json.Spelling
import ThriftPages.Proofs.Json.Values
import ThriftPages.Proofs.Json.Writing
import ThriftPages.Proofs.Page.BlockReading
import ThriftPages.Proofs.Page.DumpReading
import ThriftPages.Proofs.Page.Leaves
import ThriftPages.Proofs.Page.Spacing
import ThriftPages.Proofs.Page.Views
import ThriftPages.Proofs.Reference.BlankLines
import ThriftPages.Proofs.Reference.Choices
import ThriftPages.Proofs.Reference.Columns
import ThriftPages.Proofs.Reference.DeclaredTypes
import ThriftPages.Proofs.Reference.Details
import ThriftPages.Proofs.Reference.DocumentValues
import ThriftPages.Proofs.Reference.Documentation
import ThriftPages.Proofs.Reference.Headings
import ThriftPages.Proofs.Reference.Insertion
import ThriftPages.Proofs.Reference.Links
import ThriftPages.Proofs.Reference.Signatures
import ThriftPages.Proofs.Reference.Tables
import ThriftPages.Proofs.Reference.TypeTexts
import ThriftPages.Proofs.Reference.ValueCells
import ThriftPages.Proofs.Reference.Views
import ThriftPages.Proofs.Reference.Words
import ThriftPages.Proofs.Reference.Wrappers
import ThriftPages.Proofs.Settings.Collecting
import ThriftPages.Proofs.Settings.Files
import ThriftPages.Proofs.Settings.Keys
import ThriftPages.Proofs.Settings.Layering
import ThriftPages.Proofs.Settings.Origins
import ThriftPages.Proofs.Steps
import ThriftPages.Proofs.SyntaxTree.Alterations
import ThriftPages.Proofs.SyntaxTree.AlteredDocuments
import ThriftPages.Proofs.SyntaxTree.Carrying
import ThriftPages.Proofs.SyntaxTree.Changes
import ThriftPages.Proofs.SyntaxTree.Description
import ThriftPages.Proofs.SyntaxTree.Encoding
import ThriftPages.Proofs.SyntaxTree.Levels
import ThriftPages.Proofs.SyntaxTree.Loading
import ThriftPages.Proofs.SyntaxTree.NullKeys
import ThriftPages.Proofs.SyntaxTree.Readers
import ThriftPages.Proofs.SyntaxTree.ReadingBack
import ThriftPages.Proofs.SyntaxTree.Records
import ThriftPages.Proofs.SyntaxTree.Refusals
import ThriftPages.Proofs.SyntaxTree.Statements
import ThriftPages.Proofs.Text.Bytes
import ThriftPages.Proofs.Text.Characters
import ThriftPages.Proofs.Text.Lines
import ThriftPages.Proofs.Text.Outcome
import ThriftPages.Reference.Inline
import ThriftPages.Reference.Options
import ThriftPages.Reference.Page
import ThriftPages.Reference.Section
import ThriftPages.Settings.Fault
import ThriftPages.Settings.KeyPath
import ThriftPages.Settings.Layers
import ThriftPages.Settings.Setting
import ThriftPages.Settings.Settings
import ThriftPages.SyntaxTree.Decode
import ThriftPages.SyntaxTree.Fault
import ThriftPages.SyntaxTree.Load
import ThriftPages.SyntaxTree.Record
import ThriftPages.SyntaxTree.Tagged
import ThriftPages.Text.CaseTables
import ThriftPages.Text.CodePoints
import ThriftPages.Text.GraphemeExtend
import ThriftPages.Text.HexDigit
import ThriftPages.Text.Lowercase
import ThriftPages.Text.NonGraphic
import ThriftPages.Text.Quoted
import ThriftPages.Text.Repair
import ThriftPages.Text.Taken
import ThriftPages.Text.WhiteSpace
import ThriftPages.Text.Wording
import ThriftPages.Toml.Datetime
import ThriftPages.Toml.Document
import ThriftPages.Toml.Numeral
import ThriftPages.Toml.Quotation
import ThriftPages.Toml.Statement
import ThriftPages.Toml.Value
