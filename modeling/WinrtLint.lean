import WinrtLint.Analysis.Family
import WinrtLint.Analysis.Host
import WinrtLint.Analysis.Match
import WinrtLint.Analysis.Session
import WinrtLint.Analysis.Unit
import WinrtLint.Archive.Extraction
import WinrtLint.Archive.FormatError
import WinrtLint.Archive.Image
import WinrtLint.Archive.Metadata
import WinrtLint.Archive.Root
import WinrtLint.Archive.Tables
import WinrtLint.Bytes
import WinrtLint.Catalog.Basic
import WinrtLint.Catalog.Document
import WinrtLint.Command.Arguments
import WinrtLint.Command.Run
import WinrtLint.Command.Transcript
import WinrtLint.Denylist.Curated
import WinrtLint.Denylist.Listing
import WinrtLint.Denylist.Member
import WinrtLint.Denylist.Registry
import WinrtLint.Diagnostic.Basic
import WinrtLint.Diagnostic.Reporter
import WinrtLint.Dictionary
import WinrtLint.Discovery
import WinrtLint.Files.Path
import WinrtLint.Files.Tree
import WinrtLint.Json.LooseText
import WinrtLint.Json.Number
import WinrtLint.Json.Reader
import WinrtLint.Json.Shown
import WinrtLint.Json.Value
import WinrtLint.Json.Writer
import WinrtLint.Main
import WinrtLint.NameSet
import WinrtLint.Number.Double
import WinrtLint.Number.Shortest
import WinrtLint.Proofs.Bytes
import WinrtLint.Proofs.Outcome
import WinrtLint.Sdk.Manifest
import WinrtLint.Settings.Basic
import WinrtLint.Settings.EnvFile
import WinrtLint.Settings.Environment
import WinrtLint.Settings.Session
import WinrtLint.Source.Binding
import WinrtLint.Source.Declarations
import WinrtLint.Source.DottedName
import WinrtLint.Source.Files
import WinrtLint.Source.Kind
import WinrtLint.Source.Memo
import WinrtLint.Source.RowDocument
import WinrtLint.Source.RowTable
import WinrtLint.Source.Scan
import WinrtLint.Source.Tree
import WinrtLint.Source.Values
import WinrtLint.Symbol
import WinrtLint.Terminal.Basic
import WinrtLint.Terminal.CellWidth
import WinrtLint.Terminal.Cells
import WinrtLint.Terminal.Color
import WinrtLint.Terminal.Emoji.Code
import WinrtLint.Terminal.Emoji.Table
import WinrtLint.Terminal.Markup
import WinrtLint.Terminal.Style
import WinrtLint.Terminal.StyleName
import WinrtLint.Terminal.Table
import WinrtLint.Terminal.Wrap
import WinrtLint.Text.Blank
import WinrtLint.Text.Charset.Decode
import WinrtLint.Text.Charset.Table
import WinrtLint.Text.Digit
import WinrtLint.Text.Hex
import WinrtLint.Text.Layout
import WinrtLint.Text.Lines
import WinrtLint.Text.Literal
import WinrtLint.Text.LowerCase
import WinrtLint.Text.Numeral
import WinrtLint.Text.Printable
import WinrtLint.Text.Quoted
import WinrtLint.Text.Template
import WinrtLint.Text.Utf16
import WinrtLint.Text.Utf8
import WinrtLint.Text.WordChar
import WinrtLint.Warning
import WinrtLint.Xml.Declaration
import WinrtLint.Xml.DocumentType
import WinrtLint.Xml.Element
import WinrtLint.Xml.Encoding
import WinrtLint.Xml.Lexeme
import WinrtLint.Xml.Markup
import WinrtLint.Xml.NameChar
import WinrtLint.Xml.Reader
import WinrtLint.Proofs.Archive.TableStream
import WinrtLint.Proofs.Archive.ImageHeaders
import WinrtLint.Proofs.Archive.Reading
import WinrtLint.Proofs.Archive.Truncation
import WinrtLint.Proofs.Archive.Containment
import WinrtLint.Proofs.Archive.StringHeap
import WinrtLint.Proofs.Archive.Contents
import WinrtLint.Proofs.Archive.Builder
import WinrtLint.Proofs.Archive.Writer
import WinrtLint.Proofs.Archive.RoundTrip
import WinrtLint.Proofs.Archive.AddressMapping
import WinrtLint.Proofs.Archive.MethodRanges
import WinrtLint.Proofs.Archive.MethodPointers
import WinrtLint.Proofs.Analysis.FirstHits
import WinrtLint.Proofs.Analysis.FlaggedLines
import WinrtLint.Proofs.Analysis.Isolation
import WinrtLint.Proofs.Source.RowOrder
import WinrtLint.Proofs.Source.Binding
import WinrtLint.Proofs.Source.ScanOrder
import WinrtLint.Proofs.Source.WorkerPool
import WinrtLint.Proofs.Catalog.Inferred
import WinrtLint.Proofs.Catalog.Regrouping
import WinrtLint.Proofs.Catalog.Agreement
import WinrtLint.Proofs.Catalog.Plain
import WinrtLint.Proofs.Catalog.SaveLoad
import WinrtLint.Proofs.Files.Writing
import WinrtLint.Proofs.Json.RoundTrip
import WinrtLint.Proofs.Json.Strings
import WinrtLint.Proofs.Source.QualifiedCalls
import WinrtLint.Proofs.Source.Names
import WinrtLint.Proofs.Source.VisibleValues
import WinrtLint.Proofs.Source.DeclaredTypes
import WinrtLint.Proofs.Source.OwnMethods
import WinrtLint.Proofs.Source.GlobalNames
import WinrtLint.Proofs.Pairs
import WinrtLint.Proofs.Source.Surroundings
import WinrtLint.Proofs.Source.Likeness
import WinrtLint.Proofs.Source.Correspondence
import WinrtLint.Proofs.Source.SameSource
import WinrtLint.Proofs.Source.MethodBodies
import WinrtLint.Proofs.Source.VerbatimMarks
import WinrtLint.Proofs.Source.Nesting
import WinrtLint.Proofs.Source.NamespaceForms
import WinrtLint.Proofs.Text.Lines
import WinrtLint.Proofs.Denylist.Listing
import WinrtLint.Proofs.Denylist.Keys
import WinrtLint.Proofs.Denylist.Merging
import WinrtLint.Proofs.Denylist.Histories
import WinrtLint.Proofs.Analysis.ForbiddenTypes
import WinrtLint.Proofs.Files.Reading
import WinrtLint.Proofs.Json.Limits
import WinrtLint.Proofs.Catalog.Loading
import WinrtLint.Proofs.Catalog.Keys
import WinrtLint.Proofs.Analysis.Families
import WinrtLint.Proofs.Source.Memo
import WinrtLint.Proofs.Files.Listing
import WinrtLint.Proofs.Discovery
import WinrtLint.Proofs.Source.PlainNames
import WinrtLint.Proofs.Source.TreeTables
import WinrtLint.Proofs.Source.StackWalk
import WinrtLint.Proofs.Archive.IndexWidths
