import ModuleBridge.Main
import ModuleBridge.Proofs.Files.Places
import ModuleBridge.Proofs.Files.Staging
import ModuleBridge.Proofs.Files.Writing
import ModuleBridge.Proofs.Files.Siblings
import ModuleBridge.Proofs.Transform
import ModuleBridge.Proofs.JavaScript.Lexer
import ModuleBridge.Proofs.JavaScript.Reader
import ModuleBridge.Proofs.JavaScript.Wrapper
import ModuleBridge.Proofs.JavaScript.Module
import ModuleBridge.Proofs.Generation.FreeName
import ModuleBridge.Proofs.Generation.Names
import ModuleBridge.Proofs.Generation.Wrappers
import ModuleBridge.Proofs.Generation.Modules
import ModuleBridge.Proofs.Generation.Embedding
import ModuleBridge.Proofs.JavaScript.Scope
import ModuleBridge.Proofs.Generation.Bindings
import ModuleBridge.Proofs.Session.Url
import ModuleBridge.Proofs.Session.Exchange
import ModuleBridge.Proofs.Failure
import ModuleBridge.Proofs.Command.Call
import ModuleBridge.Proofs.Source.Exports
import ModuleBridge.Proofs.Files.Ledger
import ModuleBridge.Proofs.Files.Concurrent
import ModuleBridge.Proofs.Json.Takes
import ModuleBridge.Proofs.Json.Numbers
import ModuleBridge.Proofs.Json.Values
import ModuleBridge.Proofs.Wire.RoundTrip
import ModuleBridge.Proofs.Wire.Types
import ModuleBridge.Proofs.Wire.Records
import ModuleBridge.Proofs.Json.Characters
import ModuleBridge.Proofs.Session.Script
import ModuleBridge.Proofs.Session.Authority
import ModuleBridge.Proofs.Session.Parts
import ModuleBridge.Proofs.Session.Background
import ModuleBridge.Proofs.Session.Bodies
import ModuleBridge.Proofs.Generation.Header
import ModuleBridge.Proofs.Source.Answer
import ModuleBridge.Proofs.Files.Changes
import ModuleBridge.Proofs.Files.Sources
import ModuleBridge.Proofs.Files.Aliases
import ModuleBridge.Proofs.Command.Order
import ModuleBridge.Proofs.Files.Pairs
import ModuleBridge.Proofs.Text.Ranges
import ModuleBridge.Proofs.JavaScript.Letters
import ModuleBridge.Proofs.Generation.Identifiers
import ModuleBridge.Proofs.Command.Reports
import ModuleBridge.Proofs.Command.Exit
import ModuleBridge.Proofs.Generation.Exported
import ModuleBridge.Proofs.Generation.Spelling
import ModuleBridge.Proofs.Generation.Parameters
import ModuleBridge.Proofs.Generation.Outcome
import ModuleBridge.Proofs.Files.Written
import ModuleBridge.Proofs.Source.Literals
import ModuleBridge.Proofs.Json.Denotation
import ModuleBridge.Proofs.Session.Arguments
import ModuleBridge.Proofs.Interpreter
import ModuleBridge.Proofs.Json.Grammar
import ModuleBridge.Proofs.Json.Skips
import ModuleBridge.Proofs.Options
import ModuleBridge.Proofs.ModuleName
import ModuleBridge.Proofs.Source.Coroutines
import ModuleBridge.Proofs.Json.Keys
import ModuleBridge.Proofs.Text.Lines
import ModuleBridge.Proofs.Report.Outline
import ModuleBridge.Proofs.Decimal.Shortest
import ModuleBridge.Proofs.Decimal.Text
import ModuleBridge.Proofs.Json.Texts
import ModuleBridge.Proofs.Report.Paint
import ModuleBridge.Proofs.Report.View
import ModuleBridge.Proofs.Report.Reading
import ModuleBridge.Proofs.Report.Replies
import ModuleBridge.Proofs.Report.Records
import ModuleBridge.Proofs.Report.Formats
