import Phrasebook.Text.Basic
import Phrasebook.Text.Blank
import Phrasebook.Text.Case
import Phrasebook.Text.Digit
import Phrasebook.Text.Identifier
import Phrasebook.Text.Letter
import Phrasebook.Text.Printable
import Phrasebook.Binary64
import Phrasebook.Text.Quoted
import Phrasebook.Json.Display
import Phrasebook.Json.Parser
import Phrasebook.Json.Printer
import Phrasebook.Locale
import Phrasebook.Naming.Allocator
import Phrasebook.Notice
import Phrasebook.Book.Document
import Phrasebook.Book.Review
import Phrasebook.Misuse
import Phrasebook.Store
import Phrasebook.Url
import Phrasebook.Layout
import Phrasebook.Settings.File
import Phrasebook.Dart.NameCheck
import Phrasebook.Dart.Options
import Phrasebook.Dart.Source
import Phrasebook.Generation
import Phrasebook.Loading
import Phrasebook.Logging
import Phrasebook.Dart.Templates
import Phrasebook.Dart.Rendering
import Phrasebook.CommandLine.Flag
import Phrasebook.CommandLine.Word
import Phrasebook.CommandLine.Item
import Phrasebook.CommandLine.Request
import Phrasebook.CommandLine.Help
import Phrasebook.CommandLine.Printout
import Phrasebook.CommandLine.Report
import Phrasebook.CommandLine.Run
import Phrasebook.Main
import Phrasebook.Proofs.Dart.LiteralReading
import Phrasebook.Proofs.Naming.FreeNames
import Phrasebook.Proofs.Naming.Memory
import Phrasebook.Proofs.Naming.Runs
import Phrasebook.Proofs.Dart.AcceptedNames
import Phrasebook.Proofs.Naming.NameShape
import Phrasebook.Proofs.Book.Conversion
import Phrasebook.Proofs.Book.Contents
import Phrasebook.Proofs.Dart.DerivedNames
import Phrasebook.Proofs.Generation.Spelling
import Phrasebook.Proofs.Generation.Steps
import Phrasebook.Proofs.Generation.DerivedAccessors
import Phrasebook.Proofs.Json.DistinctKeys
import Phrasebook.Proofs.Store.Locating
import Phrasebook.Proofs.Store.Writing
import Phrasebook.Proofs.CommandLine.Agreement
import Phrasebook.Proofs.CommandLine.Escapes
import Phrasebook.Proofs.CommandLine.FlagOverrides
import Phrasebook.Proofs.CommandLine.Printing
import Phrasebook.Proofs.CommandLine.Stages
import Phrasebook.Proofs.Loading.Escapes
import Phrasebook.Proofs.Loading.Shape
import Phrasebook.Proofs.Settings.Escapes
import Phrasebook.Proofs.Settings.Misuse
import Phrasebook.Proofs.Settings.Precedence
import Phrasebook.Proofs.Dart.Tokens
import Phrasebook.Proofs.Dart.DispatchReading
import Phrasebook.Proofs.Dart.DispatchMeaning
import Phrasebook.Proofs.Dart.WellNamed
import Phrasebook.Proofs.Text.Lines
import Phrasebook.Proofs.Dart.SourceLines
import Phrasebook.Proofs.Template.Rendering
import Phrasebook.Proofs.Dart.TextIndependence
import Phrasebook.Proofs.Dart.MemberReading
import Phrasebook.Proofs.Dart.MemberAgreement
import Phrasebook.Proofs.Dart.RenderedClass
import Phrasebook.Proofs.Generation.Outcome
import Phrasebook.Proofs.Registry.Registrations
import Phrasebook.Proofs.Book.AllocatorUse
import Phrasebook.Proofs.Book.GivenNames
import Phrasebook.Proofs.Dart.DocumentationLines
import Phrasebook.Proofs.Dart.DocumentationRows
import Phrasebook.Proofs.Book.Reconversion
import Phrasebook.Proofs.Generation.Collisions
import Phrasebook.Proofs.Book.Growth
import Phrasebook.Proofs.Dart.LocaleReading
import Phrasebook.Proofs.Text.Endings
import Phrasebook.Proofs.Text.LineBreaks
import Phrasebook.Proofs.Text.Utf8
import Phrasebook.Proofs.Layout.Normalization
import Phrasebook.Proofs.Json.Written
import Phrasebook.Proofs.Json.Equality
import Phrasebook.Proofs.Settings.Equality
import Phrasebook.Proofs.Settings.Reloading
import Phrasebook.Proofs.Naming.Capitals
import Phrasebook.Proofs.Dart.TypeNames
import Phrasebook.Proofs.Generation.HiddenTypes
import Phrasebook.Proofs.Locale.Canonical
import Phrasebook.Proofs.Generation.Success
import Phrasebook.Proofs.Generation.Counts
import Phrasebook.Proofs.Generation.Formatting
import Phrasebook.Proofs.Json.Rests
import Phrasebook.Proofs.Json.LineBreaks
import Phrasebook.Proofs.Loading.Agreement
import Phrasebook.Proofs.Loading.Faults
import Phrasebook.Proofs.CommandLine.DefaultFiles
import Phrasebook.Proofs.Template.Additions
import Phrasebook.Proofs.Dart.AddedTemplates
import Phrasebook.Proofs.Naming.Search
import Phrasebook.Proofs.Naming.Words
import Phrasebook.Proofs.Book.EntryOrder
